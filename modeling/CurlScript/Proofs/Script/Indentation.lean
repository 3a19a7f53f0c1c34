import CurlScript.Proofs.Literal.Lines
import CurlScript.Proofs.Script.Argument
import CurlScript.Proofs.Script.Blocks

/-!
The body of every script is indented by its blocks, and the call stands as deep as the options say.
-/

namespace CurlScript.Script

open Text

structure WellIndented (lines : List Line) : Prop where
  shown : ∀ line ∈ lines, line.raw = false ∧ if line.text = "" then line.shown = "" else
    line.shown.toList.takeWhile (· == ' ') = List.replicate (4 * line.depth) ' '
  top : lines.head?.map (·.depth) = some 0
  nested : EachNested lines
  paired : lines.countP (begins "except " ·.text) = lines.countP (·.text == "try:")

structure Nests (pieces : List Piece) : Prop where
  blocks : ∀ depth, Blocks depth (linesAt depth pieces)
  nonempty : ∀ depth, linesAt depth pieces ≠ []

namespace Nests

variable {pieces more : List Piece}

theorem append (first : Nests pieces) (second : Nests more) : Nests (pieces ++ more) where
  blocks depth := by
    rw [linesAt_append]
    exact (first.blocks depth).append (second.blocks depth)
  nonempty depth := by simp [first.nonempty depth]

theorem line {text : String} (plain : kind text = .plain) : Nests [.line text] where
  blocks _ := .line plain .nil
  nonempty _ := List.cons_ne_nil _ _

theorem block {header : String} (opening : kind header = .opening) (body : Nests pieces) :
    Nests [.block header pieces] where
  blocks depth := by
    rw [linesAt_block]
    exact .block opening (body.nonempty _) (body.blocks _) .nil
  nonempty _ := List.cons_ne_nil _ _

theorem guardedIf {error : String} (handler : kind ("except " ++ error ++ " as e:") = .handler)
    (opened : opens ("except " ++ error ++ " as e:") = true) (body : Nests pieces)
    (handles : Bool) : Nests (guardedIf handles error pieces) := by
  cases handles with
  | false => exact body
  | true =>
      have message : kind "print(f\"Error: \x7be\x7d\")" = .plain := by decide
      refine ⟨fun depth => ?_, fun _ => List.cons_ne_nil _ _⟩
      change Blocks depth (linesAt depth (guarded error pieces))
      rw [guarded, linesAt_block, linesAt_block]
      exact .attempt handler opened (body.nonempty _) (List.cons_ne_nil _ _) (body.blocks _)
        (.line message .nil) .nil

theorem asyncBody {statements : Bool → List Piece} (each : ∀ returns, Nests (statements returns))
    (wraps : Bool) : Nests (asyncBody wraps statements) := by
  cases wraps with
  | false => exact each false
  | true =>
      have blank : kind "" = .plain := by decide
      have run : Nests [.line "print(asyncio.run(main()))"] := line (by decide)
      have function : Nests [.block "async def main():" (statements true)] :=
        block (by decide) (each true)
      have main : Nests [.block "if __name__ == \"__main__\":"
          [.line "print(asyncio.run(main()))"]] :=
        block (by decide) run
      exact function.append ((line blank).append ((line blank).append main))

theorem checked (first : Nests pieces) (handles : Bool) :
    Nests (pieces ++ statusCheck handles) := by
  cases handles with
  | false => simpa [statusCheck] using first
  | true => exact first.append (line (by decide))

end Nests

theorem kind_of_begins {starts : List String} {text : String} (known : BeginsIn starts text)
    (different : ∀ start ∈ starts, apart start "try:" = true ∧ apart start "except " = true) :
    kind text = if opens text then .opening else .plain := by
  have notAttempt : text ≠ "try:" := by
    rintro rfl
    have itself : begins "try:" "try:" = true := by decide
    simp [known.begins_eq_false fun start member => (different start member).1] at itself
  have notHandler : begins "except " text = false :=
    known.begins_eq_false fun start member => (different start member).2
  simp [kind, notAttempt, notHandler]

theorem opens_eq_false {allowed : Char → Bool} {text : String} (last : EndsIn allowed text)
    (noColon : allowed ':' = false) (noBracket : allowed '(' = false) : opens text = false := by
  rw [opens, ends_eq_false last (c := ':') rfl noColon, ends_eq_false last (c := '(') rfl noBracket]
  rfl

variable (request : Draft) (options : Options)

theorem kind_callHead : kind (callHead request options) = .opening := by
  have bracket : ends "(" (callHead request options) = true := ends_of_ends (by decide) _
  have opened : opens (callHead request options) = true := by simp [opens, bracket]
  rw [kind_of_begins (beginsIn_callHead request options) (by decide), opened]
  rfl

theorem kind_sessionHeader : kind (sessionHeader request) = .opening := by
  have last : ends ":" ") as session:" = true := by decide
  have colon : ends ":" (sessionHeader request) = true := ends_of_ends last _
  have opened : opens (sessionHeader request) = true := by simp [opens, colon]
  rw [kind_of_begins ⟨_, List.mem_singleton_self _, begins_sessionHeader request⟩
    (by decide), opened]
  rfl

theorem kind_argument {text : String} (member : text ∈ callArguments request options) :
    kind text = .plain ∧ kind (text ++ ",") = .plain := by
  have different : ∀ start ∈ quoteStarts ++ keywordStarts,
      apart start "try:" = true ∧ apart start "except " = true := by
    decide
  have first := beginsIn_callArguments member
  have closed := opens_eq_false (endsIn_callArguments member) rfl rfl
  have comma := opens_eq_false
    ((show EndsIn (· == ',') "," by decide).behind (by decide) text) rfl rfl
  rw [kind_of_begins first different, kind_of_begins (first.append ",") different, closed, comma]
  exact ⟨rfl, rfl⟩

theorem callArguments_ne_nil : callArguments request options ≠ [] := by
  rcases positional_callee request options with same | same
  · simp [callArguments, same]
  · simp [callArguments, same]

theorem Blocks.lines {texts : List String} (plain : ∀ text ∈ texts, kind text = .plain)
    (depth : Nat) :
    Blocks depth (texts.map fun text => ⟨depth, text, false⟩) := by
  induction texts with
  | nil => exact .nil
  | cons text rest ih =>
      rw [List.forall_mem_cons] at plain
      exact .line plain.1 (ih plain.2)

theorem blocks_callLines {depth : Nat} {closer : String} {rest : List Line}
    (after : Blocks depth (⟨depth, closer, false⟩ :: rest)) :
    Blocks depth
      (callLines depth (callHead request options) (callArguments request options) closer ++
        rest) := by
  have plain : ∀ text ∈ (callArguments request options).dropLast.map (· ++ ",") ++
      (callArguments request options).getLast?.toList, kind text = .plain :=
    forall_mem_withCommas fun _ => kind_argument request options
  have nonempty : (callArguments request options).getLast? ≠ none := by
    simpa using callArguments_ne_nil request options
  have lines := Blocks.lines plain (depth + 1)
  have block := Blocks.block (kind_callHead request options) (by simp [nonempty]) lines after
  simpa [callLines] using block

theorem nests_call (closes : kind (callCloser options) = .plain) :
    Nests [.call (callHead request options) (callArguments request options)
      (callCloser options)] where
  blocks depth := by
    rw [linesAt_call]
    exact blocks_callLines request options (.line closes .nil)
  nonempty depth := by simp [callLines]

theorem nests_openCall (opening : kind (callCloser options) = .opening) {body : List Piece}
    (nests : Nests body) :
    Nests [.call (callHead request options) (callArguments request options) (callCloser options),
      .indented body] where
  blocks depth := by
    rw [linesAt_call, linesAt_indented]
    exact blocks_callLines request options
      (.block opening (nests.nonempty _) (nests.blocks _) .nil)
  nonempty depth := by simp [callLines]

theorem nests_syncCall {client : SyncClient} {receiver : String} {names arguments : List String}
    (handler : kind ("except " ++ client.error ++ " as e:") = .handler)
    (opened : opens ("except " ++ client.error ++ " as e:") = true)
    (call : Nests [responseCall (.of receiver names request) arguments]) (handles : Bool) :
    Nests (syncCall client receiver names arguments request handles) := by
  have statement : Nests
      [.line (if handles then "print(response.json())" else "print(response.text)")] := by
    cases handles <;> exact .line (by decide)
  exact ((call.checked handles).append statement).guardedIf handler opened handles

theorem nests_result {expression : String} (returned : kind ("return " ++ expression) = .plain)
    (printed : kind ("print(" ++ expression ++ ")") = .plain) (returns : Bool) :
    Nests [result returns expression] := by
  cases returns with
  | false => exact .line printed
  | true => exact .line returned

theorem nests_syncBody {client : SyncClient} {names arguments : List String} {switches : Switches}
    (opening : kind ("with " ++ client.session ++ " as " ++ client.receiver ++ ":") = .opening)
    (handler : kind ("except " ++ client.error ++ " as e:") = .handler)
    (opened : opens ("except " ++ client.error ++ " as e:") = true)
    (call : Nests [responseCall
      (.of (if switches.useSession then client.receiver else client.module) names request)
      arguments]) :
    Nests (syncBody client names arguments request switches) := by
  obtain ⟨includeImports, wraps, handles, useSession⟩ := switches
  have statements := nests_syncCall request handler opened call handles
  cases useSession with
  | false => exact statements
  | true => exact .block opening statements

theorem nests_httpxAsyncCall (call : Nests [responseCall
      (.of "await client" (httpxShortcuts request) request) (httpxArguments request)])
    (handles returns : Bool) : Nests (httpxAsyncCall request handles returns) := by
  have statement : Nests
      [result returns (if handles then "response.json()" else "response.text")] := by
    cases handles <;> exact nests_result (by decide) (by decide +kernel) returns
  have client := Nests.block
    (show kind "async with httpx.AsyncClient() as client:" = .opening by decide)
    ((call.checked handles).append statement)
  exact client.guardedIf (by decide) (by decide +kernel) handles

theorem nests_aiohttpCall (handles returns : Bool) :
    Nests (aiohttpCall request handles returns) := by
  let options : Options := ⟨⟨false, false, handles, false⟩, .aiohttp⟩
  have statement : Nests
      [result returns (if handles then "await response.json()" else "await response.text()")] := by
    cases handles <;> exact nests_result (by decide) (by decide +kernel) returns
  have response : Nests (statusCheck handles ++
      [result returns (if handles then "await response.json()" else "await response.text()")]) := by
    cases handles with
    | false => exact statement
    | true => exact (Nests.line (by decide)).append statement
  have call := nests_openCall request options
    (show kind ") as response:" = .opening by decide) response
  exact (call.block (kind_sessionHeader request)).guardedIf (by decide)
    (by decide) handles

theorem nests_body : Nests (body request options) := by
  obtain ⟨switches, library⟩ := options
  have closes : kind ")" = .plain := by decide
  cases library with
  | requests =>
      exact nests_syncBody request (by decide) (by decide +kernel) (by decide +kernel)
        (nests_call request ⟨switches, .requests⟩ closes)
  | httpxSync =>
      exact nests_syncBody request (by decide) (by decide +kernel) (by decide +kernel)
        (nests_call request ⟨switches, .httpxSync⟩ closes)
  | httpxAsync =>
      have call := nests_call request ⟨switches, .httpxAsync⟩ closes
      exact .asyncBody (nests_httpxAsyncCall request call switches.addErrorHandling)
        switches.wrapAsync
  | aiohttp =>
      exact .asyncBody (nests_aiohttpCall request switches.addErrorHandling)
        switches.wrapAsync

theorem takeWhile_shown {line : Line} (notRaw : line.raw = false) (nonempty : line.text ≠ "")
    (unindented : begins " " line.text = false) :
    line.shown.toList.takeWhile (· == ' ') = List.replicate (4 * line.depth) ' ' := by
  have text : line.text.toList.takeWhile (· == ' ') = [] := by
    cases chars : line.text.toList with
    | nil => rfl
    | cons c rest =>
        have different : c ≠ ' ' := by
          rintro rfl
          simp [begins, chars] at unindented
        simp [different]
  have shown : line.shown.toList =
      List.replicate (4 * line.depth) ' ' ++ line.text.toList := by
    simp [Line.shown, notRaw, indentedLine, nonempty, String.toList_append,
      Literal.toList_indentation]
  rw [shown, List.takeWhile_append_of_pos (by simp), text, List.append_nil]

theorem unindented_bodyLines :
    ∀ line ∈ bodyLines request options, line.raw = false ∧ begins " " line.text = false := by
  obtain ⟨ahead, behind, lines, each⟩ := inFrame_bodyLines request options
  have fixed : ∀ line ∈ ahead ++ behind, line.raw = false ∧ begins " " line.text = false := by
    intro line member
    obtain ⟨notRaw, statement⟩ := each line member
    exact ⟨notRaw, begins_statement_eq_false statement (by decide) (by decide)⟩
  have session : ∀ line ∈ sessionLines request options,
      line.raw = false ∧ begins " " line.text = false := by
    unfold sessionLines
    split
    · simpa using begins_eq_false (begins_sessionHeader request) (by decide)
    · simp
  have call : ∀ line ∈ requestLines request options,
      line.raw = false ∧ begins " " line.text = false := by
    intro line member
    obtain ⟨notRaw, first⟩ := beginsIn_of_mem_requestLines member
    exact ⟨notRaw, first.begins_eq_false (by decide)⟩
  rw [List.forall_mem_append] at fixed
  rw [lines]
  simp only [List.forall_mem_append]
  exact ⟨⟨fixed.1, session, call⟩, fixed.2⟩

theorem wellIndented_bodyLines : WellIndented (bodyLines request options) where
  shown := by
    intro line member
    obtain ⟨notRaw, unindented⟩ := unindented_bodyLines request options line member
    refine ⟨notRaw, ?_⟩
    split
    · rename_i blank
      simp [Line.shown, notRaw, indentedLine, blank]
    · rename_i nonempty
      exact takeWhile_shown notRaw nonempty unindented
  top := by
    have nests := nests_body request options
    obtain ⟨next, rest, lines, top⟩ := (nests.blocks 0).exists_first (nests.nonempty 0)
    simp [bodyLines, lines, top]
  nested := ((nests_body request options).blocks 0).eachNested
  paired := ((nests_body request options).blocks 0).paired

/-- The body of a script stands in blocks from top level back to top level. Its one call stands in
the blocks that the options ask for, and its arguments stand one level deeper. -/
theorem indented_as_nested :
    WellIndented (bodyLines request options) ∧
    (({} : Writer).run (Piece.stepsOf (pieces request options))).depth = 0 ∧
    callArguments request options ≠ [] ∧
    ∃ ahead behind, bodyLines request options = ahead ++
      callLines
        (if options.library.isAsync then
          1 + options.addErrorHandling.toNat + options.wrapAsync.toNat
        else options.useSession.toNat + options.addErrorHandling.toNat)
        (callHead request options) (callArguments request options) (callCloser options) ++
      behind ∧
      ∀ line ∈ ahead ++ behind, ends "(" line.text = false := by
  refine ⟨wellIndented_bodyLines request options, Writer.depth_run_stepsOf {} _,
    callArguments_ne_nil request options, ?_⟩
  obtain ⟨ahead, behind, lines, each⟩ := inFrame_bodyLines request options
  have fixed : ∀ line ∈ ahead ++ behind, ends "(" line.text = false :=
    fun line member => ends_eq_false (endsIn_statement (each line member).2) (c := '(') rfl rfl
  have session : ∀ line ∈ sessionLines request options, ends "(" line.text = false := by
    have header : ends "(" (sessionHeader request) = false :=
      ends_eq_false (endsIn_sessionHeader request) (c := '(') rfl rfl
    unfold sessionLines
    split
    · simpa using header
    · simp
  refine ⟨ahead ++ sessionLines request options, behind, ?_, ?_⟩
  · rw [lines, requestLines, callDepth]
    simp only [List.append_assoc]
  · rw [List.forall_mem_append] at fixed
    simp only [List.forall_mem_append]
    exact ⟨⟨fixed.1, session⟩, fixed.2⟩

end CurlScript.Script
