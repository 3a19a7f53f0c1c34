import CurlScript.Proofs.Script.Correspondence
import CurlScript.Proofs.Script.Preamble

/-!
The function that a script calls. It is named like the method where the client has such a function
for the request, and is the general one, which takes the method as an argument, everywhere else.
-/

namespace CurlScript.Script

open Text Literal

def receiver (options : Options) : String :=
  match options.library with
  | .requests => if options.useSession then "session" else "requests"
  | .httpxSync => if options.useSession then "client" else "httpx"
  | .httpxAsync => "await client"
  | .aiohttp => "session"

/-- The client has a function of this name for the request. Those of httpx take a body in three
cases only. -/
def OffersFunction (library : Library) (sendsBody : Bool) (name : String) : Prop :=
  name ∈ ["get", "post", "put", "patch", "delete", "head", "options"] ∧
    (library ∈ [.httpxSync, .httpxAsync] → sendsBody = true → name ∈ ["post", "put", "patch"])

inductive Calls (options : Options) (sendsBody : Bool) (request : Draft) :
    String → List String → Prop
  | named {name : String} : String.ofList (lower request.method.toList) = name →
      OffersFunction options.library sendsBody name →
      Calls options sendsBody request (receiver options ++ "." ++ name) [quote request.url]
  | general :
      ¬OffersFunction options.library sendsBody (String.ofList (lower request.method.toList)) →
      Calls options sendsBody request (receiver options ++ ".request")
        [quote request.method, quote request.url]

namespace Line

def opensCall (line : Line) : Bool :=
  !line.raw && headStarts.any (begins · line.text)

def sendsBody (line : Line) : Bool :=
  line.isArgument (["json=data", "data=data"].contains ·)

end Line

def functionNames (request : Draft) : Library → List String
  | .requests | .aiohttp => shortcuts
  | .httpxSync | .httpxAsync => httpxShortcuts request

variable (request : Draft) (options : Options)

theorem callee_eq_of : callee request options =
    Callee.of (receiver options) (functionNames request options.library) request := by
  unfold callee receiver functionNames
  cases options.library <;> rfl

theorem mem_functionNames_iff (library : Library) (name : String) :
    name ∈ functionNames request library ↔
      OffersFunction library (bodyPart? request).isSome name := by
  have subset : name ∈ bodyShortcuts → name ∈ shortcuts := by
    have each : bodyShortcuts ⊆ shortcuts := by decide
    exact fun member => each member
  have httpx : name ∈ httpxShortcuts request ↔
      name ∈ shortcuts ∧ ((bodyPart? request).isSome = true → name ∈ bodyShortcuts) := by
    unfold httpxShortcuts
    rw [isSome_bodyKeyword?]
    split <;> simp_all
  cases library with
  | requests => simp [functionNames, OffersFunction, shortcuts]
  | aiohttp => simp [functionNames, OffersFunction, shortcuts]
  | httpxSync => simpa [functionNames, OffersFunction, shortcuts, bodyShortcuts] using httpx
  | httpxAsync => simpa [functionNames, OffersFunction, shortcuts, bodyShortcuts] using httpx

theorem calls_callee :
    Calls options (bodyPart? request).isSome request (callee request options).function
      (callee request options).positional := by
  rw [callee_eq_of]
  unfold Callee.of
  dsimp only
  split
  · rename_i isName
    exact .named rfl ((mem_functionNames_iff request _ _).mp (List.contains_iff_mem.mp isName))
  · rename_i noName
    refine .general fun offered => noName ?_
    exact List.contains_iff_mem.mpr ((mem_functionNames_iff request _ _).mpr offered)

theorem passes_of_sendsBody {line : Line} (sends : line.sendsBody = true) :
    line.passes .data = true := by
  simp only [Line.sendsBody, Line.isArgument, Bool.and_eq_true, List.contains_iff_mem] at sends
  have bodies : ∀ text ∈ ["json=data", "data=data"], passesAs .data text = true := by decide
  rw [Line.passes, Line.isArgument, sends.1, bodies _ sends.2]
  rfl

/-- A line of the script sends the body exactly if there is one. -/
theorem any_sendsBody_scriptLines :
    (scriptLines request options).any (·.sendsBody) = (bodyPart? request).isSome := by
  have passed := map_filter_passes_requestLines request options .data
  rw [← filter_passes_scriptLines, Name.part?] at passed
  rw [Bool.eq_iff_iff, List.any_eq_true]
  constructor
  · rintro ⟨line, member, sends⟩
    have kept : line ∈ (scriptLines request options).filter (·.passes .data) :=
      List.mem_filter.mpr ⟨member, passes_of_sendsBody sends⟩
    cases body : bodyPart? request with
    | some part => rfl
    | none =>
        rw [body, Option.toList_none, List.map_nil, List.map_eq_nil_iff] at passed
        rw [passed] at kept
        cases kept
  · intro hasBody
    obtain ⟨part, body⟩ := Option.isSome_iff_exists.mp hasBody
    obtain ⟨-, -, rfl⟩ := Option.map_eq_some_iff.mp body
    rw [body, Option.toList_some, List.map_singleton, argument_body] at passed
    have sent : bodyArgument (isJsonBody request) ∈
        ((scriptLines request options).filter (·.passes .data)).map (withoutComma ·.text) := by
      rw [passed]
      exact List.mem_singleton_self _
    obtain ⟨line, kept, text⟩ := List.mem_map.mp sent
    obtain ⟨member, passes⟩ := List.mem_filter.mp kept
    have isBody : bodyArgument (isJsonBody request) ∈ ["json=data", "data=data"] := by
      cases isJsonBody request <;> decide
    refine ⟨line, member, ?_⟩
    rw [Line.passes, Line.isArgument, Bool.and_eq_true] at passes
    rw [Line.sendsBody, Line.isArgument, passes.1, text, List.contains_iff_mem.mpr isBody]
    rfl

theorem opensCall_eq_false {starts : List String} {line : Line} (known : BeginsIn starts line.text)
    (different : ∀ start ∈ starts, ∀ head ∈ headStarts, apart start head = true) :
    line.opensCall = false := by
  rw [Line.opensCall, known.any_begins_eq_false different, Bool.and_false]

theorem opensCall_of_isStatement {line : Line} (statement : IsStatement line.text) :
    line.opensCall = false := by
  have noHead : headStarts.any (begins · line.text) = false :=
    any_begins_statement_eq_false statement (by decide)
  rw [Line.opensCall, noHead, Bool.and_false]

theorem filter_opensCall_requestLines :
    (requestLines request options).filter (·.opensCall) =
      [⟨callDepth options, callHead request options, false⟩] := by
  have head : (⟨callDepth options, callHead request options, false⟩ : Line).opensCall = true :=
    List.any_eq_true.mpr (beginsIn_callHead request options)
  have arguments : ∀ text ∈ (callArguments request options).dropLast.map (· ++ ",") ++
      (callArguments request options).getLast?.toList,
      BeginsIn (quoteStarts ++ keywordStarts) text :=
    forall_mem_withCommas fun argument member =>
      ⟨beginsIn_callArguments member, (beginsIn_callArguments member).append ","⟩
  have closer : BeginsIn [")"] (callCloser options) := by
    unfold callCloser
    split
    · exact .ofStart (show ")" ∈ [")"] by decide) " as response:"
    · exact .ofStart (show ")" ∈ [")"] by decide) ""
  have noArgument : ∀ line ∈ ((callArguments request options).dropLast.map (· ++ ",") ++
      (callArguments request options).getLast?.toList).map
        (fun text => (⟨callDepth options + 1, text, false⟩ : Line)),
      ¬line.opensCall = true := by
    rw [List.forall_mem_map]
    intro text member
    rw [Bool.not_eq_true]
    exact opensCall_eq_false (arguments text member) (by decide)
  have noCloser : (⟨callDepth options, callCloser options, false⟩ : Line).opensCall = false :=
    opensCall_eq_false closer (by decide)
  rw [requestLines, callLines, List.cons_append, List.filter_cons_of_pos head, List.filter_append,
    List.filter_eq_nil_iff.mpr noArgument, List.filter_singleton, noCloser]
  rfl

/-- One line of a script opens the call. -/
theorem filter_opensCall_scriptLines :
    (scriptLines request options).filter (·.opensCall) =
      [⟨callDepth options, callHead request options, false⟩] := by
  have assigned : (preambleLines request).filter (·.opensCall) = [] := by
    rw [List.filter_eq_nil_iff]
    intro line member
    rcases raw_or_blank_of_mem_preambleLines member with raw | blank
    · simp [Line.opensCall, raw]
    · have statement : IsStatement line.text := by
        rw [blank]
        decide
      simp [opensCall_of_isStatement statement]
  have session : (sessionLines request options).filter (·.opensCall) = [] := by
    rw [List.filter_eq_nil_iff]
    intro line member
    unfold sessionLines at member
    split at member
    · rw [List.mem_singleton.mp member, Bool.not_eq_true]
      have known : BeginsIn ["async with aiohttp.ClientSession("] (sessionHeader request) :=
        ⟨_, List.mem_singleton_self _, begins_sessionHeader request⟩
      exact opensCall_eq_false known (by decide)
    · simp at member
  rw [filter_scriptLines fun line _ => opensCall_of_isStatement, assigned, session,
    filter_opensCall_requestLines, List.nil_append, List.nil_append]

theorem Calls.function_of_body {sendsBody : Bool} {function : String} {positional : List String}
    (calls : Calls options sendsBody request function positional)
    (isHttpx : options.library ∈ [.httpxSync, .httpxAsync]) (sends : sendsBody = true) :
    ∃ name ∈ ["post", "put", "patch", "request"], function = receiver options ++ "." ++ name := by
  cases calls with
  | named lowered offered =>
      have takesBody := offered.2 isHttpx sends
      refine ⟨_, ?_, rfl⟩
      revert takesBody
      simp only [List.mem_cons, List.not_mem_nil, or_false]
      tauto
  | general notOffered =>
      refine ⟨"request", by decide, ?_⟩
      rw [String.append_assoc]
      rfl

/-- The lines of a script hold one call that sends the request. Its function and its positional
arguments keep the method, and all other arguments are named. The function that an httpx script
calls with a body is one that takes a body. -/
theorem call_keeps_method :
    (∀ sent : Request, sent.toDraft = request →
      ofRequest sent options = textOfLines ((scriptLines request options).map Line.shown)) ∧
    ∃ function positional,
      Calls options ((scriptLines request options).any (·.sendsBody)) request function positional ∧
      (scriptLines request options).filter (·.opensCall) = [⟨callDepth options,
        (if options.library = .aiohttp then "async with " else "response = ") ++ function ++ "(",
        false⟩] ∧
      (∃ ahead behind, scriptLines request options = ahead ++
        callLines (callDepth options)
          ((if options.library = .aiohttp then "async with " else "response = ") ++ function ++ "(")
          (positional ++ keywordArguments request options.library) (callCloser options) ++
        behind) ∧
      (∀ text ∈ keywordArguments request options.library, isKeyword text = true) ∧
      (options.library ∈ [.httpxSync, .httpxAsync] →
        (∃ line ∈ scriptLines request options, line.sendsBody = true) →
          ∃ name ∈ ["post", "put", "patch", "request"],
            function = receiver options ++ "." ++ name) := by
  have calls := calls_callee request options
  rw [← any_sendsBody_scriptLines request options] at calls
  refine ⟨fun _ same => ofRequest_of_toDraft same options, _, _, calls,
    filter_opensCall_scriptLines request options, ?_, ?_, ?_⟩
  · obtain ⟨ahead, behind, lines, -⟩ := exists_scriptLines request options
    refine ⟨importLines options ++ preambleLines request ++ ahead ++
      sessionLines request options, behind, ?_⟩
    rw [lines, requestLines, callArguments, callHead]
    simp only [List.append_assoc]
  · rw [keywordArguments_eq, List.forall_mem_map]
    exact fun part _ => isKeyword_argument options.library part
  · intro isHttpx sends
    exact calls.function_of_body request options isHttpx (List.any_eq_true.mpr sends)

end CurlScript.Script
