import CurlScript.Proofs.Script.Line

/-!
What stands around the call of a script: the body of every script is a frame of fixed lines with
the call, and for aiohttp the opening of its session, in its place.
-/

namespace CurlScript.Script

open Text Literal

/-- `Frames holds below context`: the context sets what it is given `below` levels deeper, between
lines of its own whose texts have the property. -/
def Frames (holds : String → Prop) (below : Nat) (context : List Piece → List Piece) : Prop :=
  ∀ depth, ∃ ahead behind : List Line,
    (∀ core, linesAt depth (context core) = ahead ++ linesAt (depth + below) core ++ behind) ∧
      ∀ line ∈ ahead ++ behind, line.raw = false ∧ holds line.text

def EachText (holds : String → Prop) (pieces : List Piece) : Prop :=
  ∀ depth, ∀ line ∈ linesAt depth pieces, line.raw = false ∧ holds line.text

variable {holds : String → Prop} {below : Nat} {context : List Piece → List Piece}
  {pieces : List Piece}

theorem forall_mem_withCommas {arguments : List String}
    (each : ∀ argument ∈ arguments, holds argument ∧ holds (argument ++ ",")) :
    ∀ text ∈ arguments.dropLast.map (· ++ ",") ++ arguments.getLast?.toList, holds text := by
  rw [List.forall_mem_append, List.forall_mem_map]
  refine ⟨fun argument early => (each argument (List.dropLast_subset _ early)).2, ?_⟩
  intro argument last
  exact (each argument (List.mem_of_mem_getLast? (Option.mem_toList.mp last))).1

namespace EachText

theorem nil : EachText holds [] := by
  simp [EachText]

theorem mono {others : String → Prop} (each : EachText holds pieces)
    (implied : ∀ text, holds text → others text) : EachText others pieces := by
  intro depth line member
  obtain ⟨notRaw, hold⟩ := each depth line member
  exact ⟨notRaw, implied line.text hold⟩

theorem line {text : String} (hold : holds text) (rest : EachText holds pieces) :
    EachText holds (.line text :: pieces) := by
  intro depth
  rw [linesAt_line, List.forall_mem_cons]
  exact ⟨⟨rfl, hold⟩, rest depth⟩

theorem block {header : String} {body : List Piece} (hold : holds header)
    (inner : EachText holds body) (rest : EachText holds pieces) :
    EachText holds (.block header body :: pieces) := by
  intro depth
  rw [linesAt_block, List.forall_mem_cons, List.forall_mem_append]
  exact ⟨⟨rfl, hold⟩, inner (depth + 1), rest depth⟩

theorem append {more : List Piece} (first : EachText holds pieces) (rest : EachText holds more) :
    EachText holds (pieces ++ more) := by
  intro depth
  rw [linesAt_append, List.forall_mem_append]
  exact ⟨first depth, rest depth⟩

theorem call {head closer : String} {arguments : List String} (opens : holds head)
    (closes : holds closer)
    (each : ∀ argument ∈ arguments, holds argument ∧ holds (argument ++ ","))
    (rest : EachText holds pieces) : EachText holds (.call head arguments closer :: pieces) := by
  intro depth
  rw [linesAt_call, List.forall_mem_append]
  refine ⟨?_, rest depth⟩
  rw [callLines, List.cons_append, List.forall_mem_cons, List.forall_mem_append,
    List.forall_mem_map]
  refine ⟨⟨rfl, opens⟩, fun text isText => ⟨rfl, forall_mem_withCommas each text isText⟩, ?_⟩
  simpa using closes

theorem statusCheck (hold : holds "response.raise_for_status()") (handles : Bool) :
    EachText holds (statusCheck handles) := by
  cases handles with
  | false => exact .nil
  | true => exact .line hold .nil

end EachText

namespace Frames

theorem self : Frames holds 0 fun core => core := by
  intro depth
  exact ⟨[], [], by simp, by simp⟩

theorem followed (frames : Frames holds below context) (more : EachText holds pieces) :
    Frames holds below fun core => context core ++ pieces := by
  intro depth
  obtain ⟨ahead, behind, lines, each⟩ := frames depth
  refine ⟨ahead, behind ++ linesAt depth pieces, ?_, ?_⟩
  · intro core
    simp [lines]
  · rw [← List.append_assoc, List.forall_mem_append]
    exact ⟨each, more depth⟩

theorem preceded (frames : Frames holds below context) (more : EachText holds pieces) :
    Frames holds below fun core => pieces ++ context core := by
  intro depth
  obtain ⟨ahead, behind, lines, each⟩ := frames depth
  refine ⟨linesAt depth pieces ++ ahead, behind, ?_, ?_⟩
  · intro core
    simp [lines]
  · rw [List.append_assoc, List.forall_mem_append]
    exact ⟨more depth, each⟩

theorem indented (frames : Frames holds below context) :
    Frames holds (below + 1) fun core => [.indented (context core)] := by
  intro depth
  obtain ⟨ahead, behind, lines, each⟩ := frames (depth + 1)
  refine ⟨ahead, behind, ?_, each⟩
  intro core
  rw [linesAt_indented, lines, linesAt_nil, List.append_nil, Nat.add_right_comm, Nat.add_assoc]

theorem block {header : String} (frames : Frames holds below context) (hold : holds header) :
    Frames holds (below + 1) fun core => [.block header (context core)] := by
  intro depth
  obtain ⟨ahead, behind, lines, each⟩ := frames.indented depth
  refine ⟨⟨depth, header, false⟩ :: ahead, behind, ?_, ?_⟩
  · intro core
    exact congrArg _ (lines core)
  · rw [List.cons_append, List.forall_mem_cons]
    exact ⟨⟨rfl, hold⟩, each⟩

theorem guardedIf (frames : Frames holds below context) (attempt : holds "try:") {error : String}
    (handler : holds ("except " ++ error ++ " as e:"))
    (report : holds "print(f\"Error: \x7be\x7d\")") (handles : Bool) :
    Frames holds (below + handles.toNat) fun core => guardedIf handles error (context core) := by
  cases handles with
  | false => exact frames
  | true => exact (frames.block attempt).followed (.block handler (.line report .nil) .nil)

theorem asyncBody (frames : Frames holds below context) (function : holds "async def main():")
    (blank : holds "") (main : holds "if __name__ == \"__main__\":")
    (run : holds "print(asyncio.run(main()))") (wraps : Bool) :
    Frames holds (below + wraps.toNat) fun core => asyncBody wraps fun _ => context core := by
  cases wraps with
  | false => exact frames
  | true =>
      have trailer : EachText holds
          [.line "", .line "",
            .block "if __name__ == \"__main__\":" [.line "print(asyncio.run(main()))"]] :=
        .line blank (.line blank (.block main (.line run .nil) .nil))
      exact (frames.block function).followed trailer

end Frames

def statementTexts : List String :=
  ["", "import requests", "import httpx", "import asyncio", "import aiohttp",
    "with requests.Session() as session:", "with httpx.Client() as client:",
    "async with httpx.AsyncClient() as client:", "async def main():",
    "if __name__ == \"__main__\":", "print(asyncio.run(main()))",
    "try:", "except requests.RequestException as e:", "except httpx.HTTPError as e:",
    "except aiohttp.ClientError as e:", "print(f\"Error: \x7be\x7d\")",
    "response.raise_for_status()", "print(response.text)", "print(response.json())",
    "return response.text", "return response.json()", "print(await response.text())",
    "print(await response.json())", "return await response.text()",
    "return await response.json()"]

def callee (request : Draft) (options : Options) : Callee :=
  match options.library with
  | .requests => .of (if options.useSession then "session" else "requests") shortcuts request
  | .httpxSync =>
    .of (if options.useSession then "client" else "httpx") (httpxShortcuts request) request
  | .httpxAsync => .of "await client" (httpxShortcuts request) request
  | .aiohttp => .of "session" shortcuts request

def keywordArguments (request : Draft) : Library → List String
  | .requests => requestsArguments request
  | .httpxSync | .httpxAsync => httpxArguments request
  | .aiohttp => aiohttpArguments request

def callHead (request : Draft) (options : Options) : String :=
  (if options.library = .aiohttp then "async with " else "response = ") ++
    (callee request options).function ++ "("

def callArguments (request : Draft) (options : Options) : List String :=
  (callee request options).positional ++ keywordArguments request options.library

def callCloser (options : Options) : String :=
  if options.library = .aiohttp then ") as response:" else ")"

def callDepth (options : Options) : Nat :=
  if options.library.isAsync then 1 + options.addErrorHandling.toNat + options.wrapAsync.toNat
  else options.useSession.toNat + options.addErrorHandling.toNat

def requestLines (request : Draft) (options : Options) : List Line :=
  callLines (callDepth options) (callHead request options) (callArguments request options)
    (callCloser options)

def sessionHeader (request : Draft) : String :=
  "async with aiohttp.ClientSession(" ++ Text.joined ", " (sessionArguments request) ++
    ") as session:"

def sessionLines (request : Draft) (options : Options) : List Line :=
  if options.library = .aiohttp then [⟨callDepth options - 1, sessionHeader request, false⟩] else []

def IsStatement (text : String) : Prop :=
  text ∈ statementTexts

instance (text : String) : Decidable (IsStatement text) :=
  inferInstanceAs (Decidable (text ∈ statementTexts))

theorem eachText_result {expression : String}
    (returned : IsStatement ("return " ++ expression))
    (printed : IsStatement ("print(" ++ expression ++ ")")) (returns : Bool) :
    EachText IsStatement [result returns expression] := by
  cases returns with
  | false => exact .line printed .nil
  | true => exact .line returned .nil

theorem frames_response {error : String}
    (handler : IsStatement ("except " ++ error ++ " as e:")) {shown : Piece}
    (statement : EachText IsStatement [shown]) (handles : Bool) :
    Frames IsStatement handles.toNat fun core =>
      guardedIf handles error (core ++ (statusCheck handles ++ [shown])) := by
  have behind : EachText IsStatement (statusCheck handles ++ [shown]) :=
    (EachText.statusCheck (by decide) handles).append statement
  have frames := (Frames.self.followed behind).guardedIf (by decide) handler (by decide) handles
  rwa [Nat.zero_add] at frames

theorem frames_syncCall {client : SyncClient}
    (handler : IsStatement ("except " ++ client.error ++ " as e:")) (handles : Bool) :
    Frames IsStatement handles.toNat fun core => guardedIf handles client.error
      (core ++ (statusCheck handles ++
        [.line (if handles then "print(response.json())" else "print(response.text)")])) := by
  have statement : EachText IsStatement
      [.line (if handles then "print(response.json())" else "print(response.text)")] := by
    cases handles <;> exact .line (by decide) .nil
  exact frames_response handler statement handles

theorem exists_frames_syncBody (client : SyncClient)
    (opening : IsStatement ("with " ++ client.session ++ " as " ++ client.receiver ++ ":"))
    (handler : IsStatement ("except " ++ client.error ++ " as e:")) (names arguments : List String)
    (request : Draft) (switches : Switches) :
    ∃ context, Frames IsStatement (switches.useSession.toNat + switches.addErrorHandling.toNat)
        context ∧
      syncBody client names arguments request switches =
        context [responseCall (.of (if switches.useSession then client.receiver else client.module)
          names request) arguments] := by
  obtain ⟨includeImports, wrapAsync, handles, useSession⟩ := switches
  have frames := frames_syncCall handler handles
  cases useSession with
  | false =>
      rw [show false.toNat + handles.toNat = handles.toNat from Nat.zero_add _]
      exact ⟨_, frames, rfl⟩
  | true =>
      rw [show true.toNat + handles.toNat = handles.toNat + 1 from Nat.add_comm _ _]
      exact ⟨_, frames.block opening, rfl⟩

theorem asyncBody_eq (wraps : Bool) (statements : Bool → List Piece) :
    asyncBody wraps statements = asyncBody wraps fun _ => statements wraps := by
  cases wraps <;> rfl

theorem exists_frames_httpxAsync (request : Draft) (handles wraps : Bool) :
    ∃ context, Frames IsStatement (1 + handles.toNat + wraps.toNat) context ∧
      asyncBody wraps (httpxAsyncCall request handles) =
        context [responseCall (.of "await client" (httpxShortcuts request) request)
          (httpxArguments request)] := by
  have shown : EachText IsStatement
      [result wraps (if handles then "response.json()" else "response.text")] := by
    cases handles <;> exact eachText_result (by decide) (by decide) wraps
  have behind := (EachText.statusCheck (by decide) handles).append shown
  have client := (Frames.self.followed behind).block
    (show IsStatement "async with httpx.AsyncClient() as client:" by decide)
  have guarded := client.guardedIf (by decide)
    (show IsStatement ("except " ++ "httpx.HTTPError" ++ " as e:") by decide) (by decide) handles
  have whole := guarded.asyncBody (by decide) (by decide) (by decide) (by decide) wraps
  rw [asyncBody_eq]
  exact ⟨_, whole, rfl⟩

def InFrame (request : Draft) (options : Options) (lines : List Line) : Prop :=
  ∃ ahead behind,
    lines = ahead ++ (sessionLines request options ++ requestLines request options) ++ behind ∧
      ∀ line ∈ ahead ++ behind, line.raw = false ∧ IsStatement line.text

theorem inFrame_of_frames {request : Draft} {options : Options}
    {context : List Piece → List Piece} (frames : Frames IsStatement (callDepth options) context)
    (noSession : sessionLines request options = [])
    (same : body request options =
      context [.call (callHead request options) (callArguments request options)
        (callCloser options)]) :
    InFrame request options (bodyLines request options) := by
  obtain ⟨ahead, behind, lines, each⟩ := frames 0
  refine ⟨ahead, behind, ?_, each⟩
  rw [bodyLines, same, lines, noSession, linesAt_call, linesAt_nil, Nat.zero_add, List.append_nil]
  rfl

theorem inFrame_aiohttp {request : Draft} {options : Options}
    (isAiohttp : options.library = .aiohttp) :
    InFrame request options (bodyLines request options) := by
  obtain ⟨⟨includeImports, wraps, handles, useSession⟩, library⟩ := options
  subst isAiohttp
  let expression := if handles then "await response.json()" else "await response.text()"
  let response := statusCheck handles ++ [result wraps expression]
  have shown : EachText IsStatement [result wraps expression] := by
    cases handles <;> exact eachText_result (by decide) (by decide) wraps
  have responseTexts : EachText IsStatement response :=
    (EachText.statusCheck (by decide) handles).append shown
  have guarded := Frames.self.guardedIf (by decide)
    (show IsStatement ("except " ++ "aiohttp.ClientError" ++ " as e:") by decide) (by decide)
    handles
  have whole := guarded.asyncBody (by decide) (by decide) (by decide) (by decide) wraps
  obtain ⟨ahead, behind, lines, each⟩ := whole 0
  let options : Options := ⟨⟨includeImports, wraps, handles, useSession⟩, .aiohttp⟩
  have same : body request options =
      asyncBody wraps fun _ => guardedIf handles "aiohttp.ClientError"
        [.block (sessionHeader request)
          [.call (callHead request options) (callArguments request options) (callCloser options),
            .indented response]] :=
    asyncBody_eq wraps (aiohttpCall request handles)
  have depth : callDepth options = 0 + (0 + handles.toNat + wraps.toNat) + 1 := by
    simp only [options, callDepth, Library.isAsync, if_true]
    omega
  refine ⟨ahead, linesAt (callDepth options + 1) response ++ behind, ?_, ?_⟩
  · rw [bodyLines, same, lines, requestLines, sessionLines, if_pos rfl, depth]
    simp [options]
  · rw [← List.append_assoc]
    simp only [List.forall_mem_append] at each ⊢
    exact ⟨⟨each.1, responseTexts _⟩, each.2⟩

theorem statement_of_mem_importLines {options : Options} {line : Line}
    (member : line ∈ importLines options) : line.raw = false ∧ IsStatement line.text := by
  have imported : EachText IsStatement (imports options.library) := by
    cases options.library with
    | requests => exact .line (by decide) (.line (by decide) .nil)
    | httpxSync => exact .line (by decide) (.line (by decide) .nil)
    | httpxAsync => exact .line (by decide) (.line (by decide) (.line (by decide) .nil))
    | aiohttp => exact .line (by decide) (.line (by decide) (.line (by decide) .nil))
  unfold importLines at member
  split at member
  · exact imported 0 line member
  · simp at member

theorem inFrame_bodyLines (request : Draft) (options : Options) :
    InFrame request options (bodyLines request options) := by
  obtain ⟨switches, library⟩ := options
  cases library with
  | requests =>
      obtain ⟨context, frames, same⟩ := exists_frames_syncBody requestsClient (by decide)
        (by decide) shortcuts (requestsArguments request) request switches
      exact inFrame_of_frames frames rfl same
  | httpxSync =>
      obtain ⟨context, frames, same⟩ := exists_frames_syncBody httpxClient (by decide)
        (by decide) (httpxShortcuts request) (httpxArguments request) request switches
      exact inFrame_of_frames frames rfl same
  | httpxAsync =>
      obtain ⟨context, frames, same⟩ := exists_frames_httpxAsync request
        switches.addErrorHandling switches.wrapAsync
      exact inFrame_of_frames frames rfl same
  | aiohttp => exact inFrame_aiohttp rfl

theorem exists_scriptLines (request : Draft) (options : Options) :
    ∃ ahead behind,
      scriptLines request options = importLines options ++ preambleLines request ++ ahead ++
        (sessionLines request options ++ requestLines request options) ++ behind ∧
      ∀ line ∈ importLines options ++ ahead ++ behind,
        line.raw = false ∧ IsStatement line.text := by
  obtain ⟨ahead, behind, lines, each⟩ := inFrame_bodyLines request options
  refine ⟨ahead, behind, ?_, ?_⟩
  · rw [scriptLines_eq, lines]
    simp only [List.append_assoc]
  · rw [List.append_assoc, List.forall_mem_append]
    exact ⟨fun _ => statement_of_mem_importLines, each⟩

theorem filter_bodyLines {selects : Line → Bool}
    (skips : ∀ line : Line, line.raw = false → IsStatement line.text → selects line = false)
    (request : Draft) (options : Options) :
    (bodyLines request options).filter selects =
      (sessionLines request options).filter selects ++
        (requestLines request options).filter selects := by
  obtain ⟨ahead, behind, lines, each⟩ := inFrame_bodyLines request options
  have nothing : ∀ part, part ⊆ ahead ++ behind → part.filter selects = [] := by
    intro part subset
    rw [List.filter_eq_nil_iff]
    intro line member
    obtain ⟨notRaw, statement⟩ := each line (subset member)
    simp [skips line notRaw statement]
  rw [lines]
  simp only [List.filter_append]
  rw [nothing ahead (by simp), nothing behind (by simp)]
  simp

/-- What is no fixed line stands in the preamble, in the opening of the session or in the call. -/
theorem filter_scriptLines {selects : Line → Bool}
    (skips : ∀ line : Line, line.raw = false → IsStatement line.text → selects line = false)
    (request : Draft) (options : Options) :
    (scriptLines request options).filter selects =
      (preambleLines request).filter selects ++
        ((sessionLines request options).filter selects ++
          (requestLines request options).filter selects) := by
  have imported : (importLines options).filter selects = [] := by
    rw [List.filter_eq_nil_iff]
    intro line member
    obtain ⟨notRaw, statement⟩ := statement_of_mem_importLines member
    simp [skips line notRaw statement]
  rw [scriptLines_eq, List.filter_append, List.filter_append, imported, filter_bodyLines skips,
    List.nil_append]

end CurlScript.Script
