import CurlScript.Proofs.Script.Quoted

/-!
The statements of every script are code, and so is the script: its literals are those of the texts
that it quotes, and its own.
-/

namespace CurlScript.Script

open Text Literal

def errorLiteral : StringLiteral :=
  ⟨'"', "Error: \x7be\x7d".toList, false⟩

def mainLiteral : StringLiteral :=
  ⟨'"', "__main__".toList, false⟩

def ownLiterals (options : Options) : List StringLiteral :=
  (if options.addErrorHandling then [errorLiteral] else []) ++
    if options.library.isAsync && options.wrapAsync then [mainLiteral] else []

def literalsOf (request : Draft) (options : Options) : List StringLiteral :=
  (preambleTexts request ++ callTexts options.library request).map literalOf ++
    ownLiterals options

variable {before middle after opened : List Char} {found : List StringLiteral}

theorem code_inDouble (start body finish : String) {text : String}
    (parts : text.toList = start.toList ++ ('"' :: body.toList ++ '"' :: finish.toList))
    (oneLine : unifyLines body.toList = body.toList)
    (first : Code before start.toList [] middle) (second : Code middle finish.toList [] after) :
    Code before text.toList [⟨'"', body.toList, false⟩] after := by
  have next : finish.toList.head? ≠ some '"' := by
    intro isQuote
    exact (second.not_quote_of_mem '"' (List.mem_of_head? isQuote)).2 rfl
  have literal := Code.literal body.toList (.inr rfl) next second
  rw [parts]
  rw [oneLine] at literal
  apply first.append literal
  intro mark last isQuote
  have notQuote := first.not_quote_of_mem mark (List.mem_of_getLast? last)
  exact absurd isQuote (by simp [notQuote])

theorem code_errorLine :
    Code [] "print(f\"Error: \x7be\x7d\")".toList [errorLiteral] [] :=
  code_inDouble "print(f" "Error: \x7be\x7d" ")" (by decide) (by decide) (.ofChars rfl)
    (.ofChars rfl)

theorem code_mainLine :
    Code [] "if __name__ == \"__main__\":".toList [mainLiteral] [] :=
  code_inDouble "if __name__ == " "__main__" ":" (by decide) (by decide) (.ofChars rfl)
    (.ofChars rfl)

theorem codePieces_guardedIf {error : String} (plain : IsPlainText error)
    {statements : List Piece} (code : CodePieces statements found) (handles : Bool) :
    CodePieces (guardedIf handles error statements)
      (found ++ if handles then [errorLiteral] else []) := by
  cases handles with
  | false =>
      rw [if_neg (by decide), List.append_nil]
      exact code
  | true =>
      have header : IsPlainText ("except " ++ error ++ " as e:") :=
        ((show IsPlainText "except " by decide).append plain).append (by decide)
      have attempt := CodePieces.block (.ofPlain (show IsPlainText "try:" by decide)) code
      have handler := CodePieces.block (.ofPlain header) (.line code_errorLine)
      exact attempt.append handler

theorem codePieces_emptyLine : CodePieces [.line ""] [] :=
  .line (.ofChars rfl)

theorem codePieces_statusCheck (handles : Bool) : CodePieces (statusCheck handles) [] := by
  cases handles with
  | false => exact .nil
  | true => exact .line (.ofChars rfl)

theorem codePieces_syncCall {client : SyncClient} (plainError : IsPlainText client.error)
    {receiver : String} (plain : IsPlainText receiver) {names : List String}
    (subset : names ⊆ shortcuts) (request : Draft) {arguments quoted : List String}
    (each : CodeEach ['('] arguments (quoted.map literalOf)) (handles : Bool) :
    CodePieces (syncCall client receiver names arguments request handles)
      ((calleeTexts names request ++ quoted).map literalOf ++
        if handles then [errorLiteral] else []) := by
  apply codePieces_guardedIf plainError
  have call := codePieces_responseCall plain subset request each
  have shown : CodePieces
      [.line (if handles then "print(response.json())" else "print(response.text)")] [] := by
    cases handles <;> exact .line (.ofChars rfl)
  have statements := call.append ((codePieces_statusCheck handles).append shown)
  rw [List.append_nil, List.append_nil] at statements
  exact statements

theorem codePieces_syncBody {client : SyncClient} (plainError : IsPlainText client.error)
    (plainModule : IsPlainText client.module) (plainReceiver : IsPlainText client.receiver)
    (session : Code [] client.session.toList [] []) {names : List String}
    (subset : names ⊆ shortcuts) (request : Draft) {arguments quoted : List String}
    (each : CodeEach ['('] arguments (quoted.map literalOf)) (switches : Switches) :
    CodePieces (syncBody client names arguments request switches)
      ((calleeTexts names request ++ quoted).map literalOf ++
        if switches.addErrorHandling then [errorLiteral] else []) := by
  unfold syncBody
  split
  · have header : Code [] ("with " ++ client.session ++ " as " ++ client.receiver ++ ":").toList
        [] [] := by
      have start : Code [] ("with " ++ client.session).toList [] [] :=
        (Code.ofPlain (show IsPlainText "with " by decide)).after_text session
      exact ((start.before_text (.ofPlain (show IsPlainText " as " by decide))).before_text
        (.ofPlain plainReceiver)).before_text (.ofPlain (show IsPlainText ":" by decide))
    have call := codePieces_syncCall plainError plainReceiver subset request each
      switches.addErrorHandling
    have whole := CodePieces.block header call
    exact whole
  · exact codePieces_syncCall plainError plainModule subset request each _

theorem codePieces_result {expression : String}
    (code : ∀ {opened}, Code opened expression.toList [] opened) (returns : Bool) :
    CodePieces [result returns expression] [] := by
  cases returns with
  | false =>
      have opens : Code [] "print(".toList [] ['('] := .ofChars rfl
      exact .line ((opens.after_text code).before_text (.ofChars rfl))
  | true => exact .line ((Code.ofPlain (show IsPlainText "return " by decide)).after_text code)

theorem codePieces_asyncBody {statements : Bool → List Piece} (wraps : Bool)
    (code : ∀ returns, CodePieces (statements returns) found) :
    CodePieces (asyncBody wraps statements) (found ++ if wraps then [mainLiteral] else []) := by
  cases wraps with
  | false =>
      rw [if_neg (by decide), List.append_nil]
      exact code false
  | true =>
      have function := CodePieces.block (.ofChars rfl : Code [] "async def main():".toList [] [])
        (code true)
      have call : CodePieces [.line "print(asyncio.run(main()))"] [] := .line (.ofChars rfl)
      have trailer := CodePieces.block code_mainLine call
      have spaced := (function.append codePieces_emptyLine).append codePieces_emptyLine
      have whole := spaced.append trailer
      simp only [List.append_nil] at whole
      exact whole

theorem codePieces_httpxAsyncCall (request : Draft) (handles returns : Bool) :
    CodePieces (httpxAsyncCall request handles returns)
      ((callTexts .httpxAsync request).map literalOf ++
        if handles then [errorLiteral] else []) := by
  apply codePieces_guardedIf (by decide)
  have call := codePieces_responseCall (show IsPlainText "await client" by decide)
    (httpxShortcuts_subset request) request (codeEach_httpxArguments _ request)
  have shown : CodePieces
      [result returns (if handles then "response.json()" else "response.text")] [] := by
    apply codePieces_result
    intro opened
    cases handles <;> exact .ofChars rfl
  have statements := call.append ((codePieces_statusCheck handles).append shown)
  rw [List.append_nil, List.append_nil] at statements
  have header : Code [] "async with httpx.AsyncClient() as client:".toList [] [] := .ofChars rfl
  have whole := CodePieces.block header statements
  exact whole

theorem codePieces_aiohttpCall (request : Draft) (handles returns : Bool) :
    CodePieces (aiohttpCall request handles returns)
      ((callTexts .aiohttp request).map literalOf ++ if handles then [errorLiteral] else []) := by
  apply codePieces_guardedIf (by decide)
  have session := codeEach_sessionArguments ['('] request
  have sessionOpens : Code [] "async with aiohttp.ClientSession(".toList [] ['('] := .ofChars rfl
  have sessionCloses : Code ['('] ") as session:".toList [] [] := .ofChars rfl
  have header := (sessionOpens.after_text
    (session.joined (show ", " ≠ "" by decide) (by decide))).before_text sessionCloses
  have start : IsPlainText ("async with " ++ (Callee.of "session" shortcuts request).function) :=
    (show IsPlainText "async with " by decide).append
      (isPlainText_function (by decide) (List.Subset.refl _) request)
  have callOpens := (Code.ofPlain start).before_text (.ofChars rfl : Code [] "(".toList [] ['('])
  have callCloses : Code ['('] ") as response:".toList [] [] := .ofChars rfl
  have positional := codeEach_positional ['('] "session" shortcuts request
  have arguments := codeEach_aiohttpArguments ['('] request
  have call := CodePieces.call callOpens (positional.append arguments) callCloses
  have shown : CodePieces
      [result returns (if handles then "await response.json()" else "await response.text()")]
      [] := by
    apply codePieces_result
    intro opened
    cases handles <;> exact .ofChars rfl
  have statements := call.append
    (CodePieces.indented ((codePieces_statusCheck handles).append shown))
  have whole := CodePieces.block header statements
  simp only [List.append_nil] at whole
  rw [callTexts, List.map_append, List.map_append]
  exact whole

theorem codePieces_body (request : Draft) (options : Options) :
    CodePieces (body request options)
      ((callTexts options.library request).map literalOf ++ ownLiterals options) := by
  obtain ⟨switches, library⟩ := options
  have own : ∀ library : Library, library.isAsync = false →
      ownLiterals ⟨switches, library⟩ =
        if switches.addErrorHandling then [errorLiteral] else [] := by
    intro library sync
    simp [ownLiterals, sync]
  cases library with
  | requests =>
      rw [own .requests rfl]
      have session : Code [] requestsClient.session.toList [] [] := .ofChars rfl
      exact codePieces_syncBody (by decide) (by decide) (by decide) session (List.Subset.refl _)
        request (codeEach_requestsArguments _ request) switches
  | httpxSync =>
      rw [own .httpxSync rfl]
      have session : Code [] httpxClient.session.toList [] [] := .ofChars rfl
      exact codePieces_syncBody (by decide) (by decide) (by decide) session
        (httpxShortcuts_subset request) request
        (codeEach_httpxArguments _ request) switches
  | httpxAsync =>
      rw [ownLiterals, ← List.append_assoc]
      exact codePieces_asyncBody switches.wrapAsync
        (codePieces_httpxAsyncCall request switches.addErrorHandling)
  | aiohttp =>
      rw [ownLiterals, ← List.append_assoc]
      exact codePieces_asyncBody switches.wrapAsync
        (codePieces_aiohttpCall request switches.addErrorHandling)

theorem codePieces_assignment {name literal : String} (plain : IsPlainText name)
    (code : Code [] literal.toList found []) : CodePieces (assignment name literal) found := by
  have start : IsPlainText (name ++ " = ") := plain.append (by decide)
  have line := CodePieces.raw ((Code.ofPlain start).after_text code)
  have whole := line.append codePieces_emptyLine
  rw [List.append_nil] at whole
  exact whole

theorem codePieces_mappingAssignment {name : String} (plain : IsPlainText name)
    (entries : Entries String String) :
    CodePieces (mappingAssignment name entries) ((entriesTexts entries).map literalOf) := by
  unfold mappingAssignment
  split
  · rename_i isEmpty
    rw [List.isEmpty_iff.mp isEmpty]
    exact .nil
  · exact codePieces_assignment plain (code_ofJson [] 0 _)

theorem code_bodyLiteral (data : String) :
    Code [] (bodyLiteral data).toList ((bodyTexts data).map literalOf) [] := by
  cases read : Json.read? data with
  | none =>
      rw [bodyLiteral, bodyTexts, read]
      exact code_quote [] data
  | some value =>
      rw [bodyLiteral, bodyTexts, read]
      exact code_ofJson [] 0 value

theorem codePieces_preamble (request : Draft) :
    CodePieces (preamble request) ((preambleTexts request).map literalOf) := by
  have headers := codePieces_mappingAssignment (show IsPlainText "headers" by decide)
    request.headers
  have cookies := codePieces_mappingAssignment (show IsPlainText "cookies" by decide)
    request.cookies
  rw [preambleTexts, List.map_append, List.map_append]
  apply (headers.append cookies).append
  cases nonEmpty? request.data with
  | none => exact .nil
  | some data =>
      exact codePieces_assignment (show IsPlainText "data" by decide) (code_bodyLiteral data)

theorem codePieces_imports (library : Library) : CodePieces (imports library) [] := by
  have lines : ∀ modules : List String, (∀ module ∈ modules, IsPlainText module) →
      CodePieces (modules.map fun module => .line ("import " ++ module)) [] := by
    intro modules plain
    induction modules with
    | nil => exact .nil
    | cons module rest ih =>
        obtain ⟨isPlain, restPlain⟩ := List.forall_mem_cons.mp plain
        have start : IsPlainText ("import " ++ module) :=
          (show IsPlainText "import " by decide).append isPlain
        exact (CodePieces.line (.ofPlain start)).append (ih restPlain)
  apply (lines (modules library) _).append codePieces_emptyLine
  cases library <;> decide

/-- The script for a request is code with its literals. -/
theorem codePieces_pieces (request : Draft) (options : Options) :
    CodePieces (pieces request options) (literalsOf request options) := by
  have imported : CodePieces
      (if options.includeImports then imports options.library else []) [] := by
    split
    · exact codePieces_imports options.library
    · exact .nil
  have whole := (imported.append (codePieces_preamble request)).append
    (codePieces_body request options)
  rw [literalsOf, List.map_append, List.append_assoc]
  exact whole

end CurlScript.Script
