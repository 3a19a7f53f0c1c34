import CurlScript.Proofs.Literal.Number
import CurlScript.Proofs.Script.Frame
import CurlScript.Proofs.Script.Part
import CurlScript.Proofs.Text.Ends

/-!
How the arguments of a call begin and end, whatever the library.
-/

namespace CurlScript.Script

open Text Literal

def keywordStarts : List String :=
  ["headers=", "cookies=", "json=", "data=", "auth=", "proxies=", "proxy=", "verify=", "ssl=",
    "timeout="]

def quoteStarts : List String :=
  ["'", "\""]

def BeginsIn (starts : List String) (text : String) : Prop :=
  ∃ start ∈ starts, begins start text = true

namespace BeginsIn

variable {starts : List String} {text : String}

theorem begins_eq_false {other : String} (known : BeginsIn starts text)
    (different : ∀ start ∈ starts, apart start other = true) : begins other text = false := by
  obtain ⟨start, member, first⟩ := known
  exact Text.begins_eq_false first (different start member)

theorem any_begins_eq_false {others : List String} (known : BeginsIn starts text)
    (different : ∀ start ∈ starts, ∀ other ∈ others, apart start other = true) :
    others.any (begins · text) = false := by
  rw [List.any_eq_false]
  intro other member
  simp [known.begins_eq_false fun start isStart => different start isStart other member]

theorem append (known : BeginsIn starts text) (more : String) : BeginsIn starts (text ++ more) := by
  obtain ⟨start, member, first⟩ := known
  exact ⟨start, member, begins_of_begins first more⟩

theorem mono {more : List String} (known : BeginsIn starts text) (subset : starts ⊆ more) :
    BeginsIn more text := by
  obtain ⟨start, member, first⟩ := known
  exact ⟨start, subset member, first⟩

theorem ofStart {start : String} (member : start ∈ starts) (rest : String) :
    BeginsIn starts (start ++ rest) :=
  ⟨start, member, begins_append start rest⟩

end BeginsIn

def endsArgument (c : Char) : Bool :=
  c ∉ [':', '(', ',']

def endsValue (c : Char) : Bool :=
  c ∉ [':', '(', ',', 's', 'a']

theorem endsArgument_of_endsValue {text : String} (value : EndsIn endsValue text) :
    EndsIn endsArgument text := by
  intro c last
  have notSpecial := value c last
  simp_all [endsValue, endsArgument]

theorem beginsIn_quote (text : String) : BeginsIn quoteStarts (quote text) := by
  have first : ∀ mark, mark = '\'' ∨ mark = '"' → ∃ start ∈ quoteStarts, start.toList = [mark] := by
    rintro mark (rfl | rfl) <;> decide
  obtain ⟨start, member, chars⟩ := first _ (quoteMark_isQuote text.toList)
  refine ⟨start, member, ?_⟩
  rw [begins, quote, String.toList_ofList, quoteChars_eq, chars]
  simp

theorem endsIn_quote (text : String) : EndsIn endsValue (quote text) := by
  intro c last
  rw [quote, String.toList_ofList, quoteChars_eq, List.getLast?_append, List.getLast?_singleton,
    Option.some_or, Option.mem_some_iff] at last
  subst last
  rcases quoteMark_isQuote text.toList with single | double
  · rw [single]; rfl
  · rw [double]; rfl

theorem endsIn_of_isNumeralText {text : String} (numeral : IsNumeralText text) :
    EndsIn endsValue text := by
  have notNumeral : ∀ c ∈ [':', '(', ',', 's', 'a'], isNumeral c = false := by decide
  intro c last
  rw [endsValue, decide_eq_true_eq]
  intro special
  have numeralLast := numeral c (List.mem_of_getLast? last)
  simp [notNumeral c special] at numeralLast

theorem endsIn_ofNumber (seconds : Number.Double) : EndsIn endsValue (ofNumber seconds) := by
  unfold ofNumber
  split
  · exact endsIn_of_isNumeralText (isNumeralText_int _)
  · cases seconds with
    | finite negative significand exponent =>
        exact endsIn_of_isNumeralText (Number.isNumeralText_finite _ negative significand exponent)
    | infinite negative => cases negative <;> exact of_decide_eq_true rfl
    | undefined => exact of_decide_eq_true rfl

def argument : Library → Part → String
  | .requests => requestsArgument
  | .httpxSync | .httpxAsync => httpxArgument
  | .aiohttp => aiohttpArgument

def callParts (request : Draft) (library : Library) : List Part :=
  if library = .aiohttp then (parts request).filter (!·.ofSession) else parts request

theorem argument_body (library : Library) (json : Bool) :
    argument library (.body json) = bodyArgument json := by
  cases library <;> rfl

theorem keywordArguments_eq (request : Draft) (library : Library) :
    keywordArguments request library = (callParts request library).map (argument library) := by
  cases library with
  | requests => exact requestsArguments_eq_map request
  | httpxSync => exact httpxArguments_eq_map request
  | httpxAsync => exact httpxArguments_eq_map request
  | aiohttp => exact aiohttpArguments_eq_map request

/-- The arguments of all libraries are those of httpx, but for two parts. -/
theorem forall_argument (holds : Part → String → Prop)
    (httpx : ∀ part, holds part (httpxArgument part))
    (proxies : ∀ url, holds (.proxy url)
      ("proxies=\x7b'http': " ++ quote url ++ ", 'https': " ++ quote url ++ "\x7d"))
    (insecure : holds .insecure "ssl=False") (library : Library) (part : Part) :
    holds part (argument library part) := by
  cases library with
  | requests =>
      cases part with
      | proxy url => exact proxies url
      | _ => exact httpx _
  | httpxSync => exact httpx part
  | httpxAsync => exact httpx part
  | aiohttp =>
      cases part with
      | insecure => exact insecure
      | _ => exact httpx _

def Part.keyword (library : Library) : Part → String
  | .headers => "headers="
  | .cookies => "cookies="
  | .body json => if json then "json=" else "data="
  | .auth _ => "auth="
  | .proxy _ => if library = .requests then "proxies=" else "proxy="
  | .insecure => if library = .aiohttp then "ssl=" else "verify="
  | .timeout _ => "timeout="

theorem begins_argument (library : Library) (part : Part) :
    begins (part.keyword library) (argument library part) = true := by
  cases part with
  | headers => cases library <;> decide +kernel
  | cookies => cases library <;> decide +kernel
  | body json => cases library <;> cases json <;> decide +kernel
  | auth credentials => cases library <;> exact begins_append _ _
  | proxy url =>
      have proxies : begins "proxies=" "proxies=\x7b'http': " = true := by decide +kernel
      cases library with
      | requests =>
          exact begins_of_begins
            (begins_of_begins (begins_of_begins (begins_of_begins proxies _) _) _) _
      | _ => exact begins_append _ _
  | insecure => cases library <;> decide +kernel
  | timeout seconds => cases library <;> exact begins_append _ _

theorem keyword_mem (library : Library) (part : Part) :
    part.keyword library ∈ keywordStarts := by
  cases part with
  | body json => cases json <;> simp [Part.keyword, keywordStarts]
  | proxy url => cases library <;> simp [Part.keyword, keywordStarts]
  | insecure => cases library <;> simp [Part.keyword, keywordStarts]
  | _ => simp [Part.keyword, keywordStarts]

theorem apart_of_ne {first second : String} (isFirst : first ∈ keywordStarts)
    (isSecond : second ∈ keywordStarts) (different : first ≠ second) :
    apart first second = true := by
  have all : ∀ first ∈ keywordStarts, ∀ second ∈ keywordStarts, first ≠ second →
      apart first second = true := by
    decide +kernel
  exact all first isFirst second isSecond different

theorem begins_argument_eq (library : Library) (part : Part) {other : String}
    (isKeyword : other ∈ keywordStarts) :
    begins other (argument library part) = (part.keyword library == other) := by
  by_cases same : part.keyword library = other
  · rw [← same, begins_argument, beq_self_eq_true]
  · rw [begins_eq_false (begins_argument library part)
      (apart_of_ne (keyword_mem library part) isKeyword same), beq_false_of_ne same]

theorem beginsIn_argument (library : Library) (part : Part) :
    BeginsIn keywordStarts (argument library part) :=
  ⟨part.keyword library, keyword_mem library part, begins_argument library part⟩

theorem endsIn_credentialArguments (credentials : Credentials) :
    EndsIn endsValue (credentialArguments credentials) :=
  .behind (by decide) (by decide) _

def Part.endsIn : Part → Char → Bool
  | .headers | .cookies | .body _ => endsArgument
  | _ => endsValue

theorem endsIn_argument (library : Library) (part : Part) :
    EndsIn part.endsIn (argument library part) := by
  refine forall_argument (fun part text => EndsIn part.endsIn text) ?_ ?_ ?_ library part
  · intro part
    cases part with
    | headers => exact (show EndsIn endsArgument "headers=headers" by decide)
    | cookies => exact (show EndsIn endsArgument "cookies=cookies" by decide)
    | body json =>
        cases json with
        | false => exact (show EndsIn endsArgument "data=data" by decide)
        | true => exact (show EndsIn endsArgument "json=data" by decide)
    | auth credentials =>
        exact (show EndsIn endsValue "auth=" by decide).append
          (endsIn_credentialArguments credentials)
    | proxy url => exact (show EndsIn endsValue "proxy=" by decide).append (endsIn_quote url)
    | insecure => exact (show EndsIn endsValue "verify=False" by decide)
    | timeout seconds =>
        exact (show EndsIn endsValue "timeout=" by decide).append (endsIn_ofNumber seconds)
  · intro url
    exact .behind (show EndsIn endsValue "\x7d" by decide) (by decide) _
  · exact (show EndsIn endsValue "ssl=False" by decide)

theorem endsArgument_of_endsIn {part : Part} {text : String} (last : EndsIn part.endsIn text) :
    EndsIn endsArgument text := by
  cases part with
  | headers => exact last
  | cookies => exact last
  | body json => exact last
  | auth credentials => exact endsArgument_of_endsValue last
  | proxy url => exact endsArgument_of_endsValue last
  | insecure => exact endsArgument_of_endsValue last
  | timeout seconds => exact endsArgument_of_endsValue last

/-- Whoever receives the call, the same function is called in the same way: with the URL, and with
the method if the name of the function does not say it. -/
theorem exists_callee (names : List String) (request : Draft) :
    ∃ name positional,
      (positional = [quote request.url] ∨
        positional = [quote request.method, quote request.url]) ∧
      ∀ receiver, Callee.of receiver names request = ⟨receiver ++ "." ++ name, positional⟩ := by
  unfold Callee.of
  dsimp only
  split
  · exact ⟨_, _, .inl rfl, fun _ => rfl⟩
  · refine ⟨"request", _, .inr rfl, fun receiver => ?_⟩
    rw [String.append_assoc]
    rfl

theorem positional_callee (request : Draft) (options : Options) :
    (callee request options).positional = [quote request.url] ∨
      (callee request options).positional = [quote request.method, quote request.url] := by
  have either : ∀ receiver names,
      (Callee.of receiver names request).positional = [quote request.url] ∨
        (Callee.of receiver names request).positional =
          [quote request.method, quote request.url] := by
    intro receiver names
    obtain ⟨name, positional, shape, callees⟩ := exists_callee names request
    rw [callees]
    exact shape
  unfold callee
  split <;> exact either _ _

theorem quote_of_mem_positional {request : Draft} {options : Options} {text : String}
    (member : text ∈ (callee request options).positional) : ∃ value, text = quote value := by
  rcases positional_callee request options with same | same
  · rw [same, List.mem_singleton] at member
    exact ⟨_, member⟩
  · rw [same, List.mem_cons, List.mem_singleton] at member
    rcases member with rfl | rfl <;> exact ⟨_, rfl⟩

theorem beginsIn_callArguments {request : Draft} {options : Options} {text : String}
    (member : text ∈ callArguments request options) :
    BeginsIn (quoteStarts ++ keywordStarts) text := by
  rw [callArguments, List.mem_append, keywordArguments_eq, List.mem_map] at member
  rcases member with positional | ⟨part, -, rfl⟩
  · obtain ⟨value, rfl⟩ := quote_of_mem_positional positional
    exact (beginsIn_quote value).mono (List.subset_append_left _ _)
  · exact (beginsIn_argument options.library part).mono (List.subset_append_right _ _)

theorem endsIn_callArguments {request : Draft} {options : Options} {text : String}
    (member : text ∈ callArguments request options) : EndsIn endsArgument text := by
  rw [callArguments, List.mem_append, keywordArguments_eq, List.mem_map] at member
  rcases member with positional | ⟨part, -, rfl⟩
  · obtain ⟨value, rfl⟩ := quote_of_mem_positional positional
    exact endsArgument_of_endsValue (endsIn_quote value)
  · exact endsArgument_of_endsIn (endsIn_argument options.library part)

def headStarts : List String :=
  ["response = ", "async with session."]

theorem beginsIn_callHead (request : Draft) (options : Options) :
    BeginsIn headStarts (callHead request options) := by
  have response : ∀ function, BeginsIn headStarts ("response = " ++ function ++ "(") :=
    fun function => (BeginsIn.ofStart (by decide) function).append "("
  obtain ⟨switches, library⟩ := options
  cases library with
  | requests => exact response _
  | httpxSync => exact response _
  | httpxAsync => exact response _
  | aiohttp =>
      obtain ⟨name, positional, -, callees⟩ := exists_callee shortcuts request
      have head : callHead request ⟨switches, .aiohttp⟩ = "async with session." ++ name ++ "(" := by
        change "async with " ++ (Callee.of "session" shortcuts request).function ++ "(" = _
        rw [callees, ← String.append_assoc, ← String.append_assoc]
        rfl
      rw [head]
      exact (BeginsIn.ofStart (by decide) name).append "("

def statementStarts : List String :=
  ["import ", "with ", "async with httpx.", "async def ", "if ", "try:", "except ", "print(",
    "return ", "response."]

theorem begins_statement_eq_false {text other : String} (statement : IsStatement text)
    (nonempty : other ≠ "") (different : ∀ start ∈ statementStarts, apart start other = true) :
    begins other text = false := by
  have fixed : ∀ text ∈ statementTexts,
      (text.toList.isEmpty || statementStarts.any (·.toList.isPrefixOf text.toList)) = true := by
    unfold statementTexts
    repeat
      refine forall_mem_cons_chars
        (fun chars => chars.isEmpty || statementStarts.any (·.toList.isPrefixOf chars)) rfl ?_
    simp
  rcases Bool.or_eq_true_iff.mp (fixed text statement) with blank | known
  · rw [← Bool.not_eq_true, begins, List.isPrefixOf_iff_prefix, List.isEmpty_iff.mp blank]
    simpa using nonempty
  · obtain ⟨start, member, first⟩ := List.any_eq_true.mp known
    exact begins_eq_false first (different start member)

theorem any_begins_statement_eq_false {others : List String} {text : String}
    (statement : IsStatement text)
    (different : ∀ other ∈ others, other ≠ "" ∧
      ∀ start ∈ statementStarts, apart start other = true) :
    others.any (begins · text) = false := by
  rw [List.any_eq_false]
  intro other member
  obtain ⟨nonempty, startsApart⟩ := different other member
  simp [begins_statement_eq_false statement nonempty startsApart]

def endsStatement (c : Char) : Bool :=
  c ∉ [',', '(']

theorem endsIn_statement {text : String} (statement : IsStatement text) :
    EndsIn endsStatement text := by
  have fixed : ∀ text ∈ statementTexts, (text.toList.getLast?.all endsStatement) = true := by
    unfold statementTexts
    repeat
      refine forall_mem_cons_chars (fun chars => chars.getLast?.all endsStatement) rfl ?_
    simp
  exact (Option.all_eq_true _ _).mp (fixed text statement)

def callStarts : List String :=
  headStarts ++ (quoteStarts ++ keywordStarts) ++ [")"]

theorem eachText_call (request : Draft) (options : Options) :
    EachText (BeginsIn callStarts)
      [.call (callHead request options) (callArguments request options) (callCloser options)] := by
  have head := (beginsIn_callHead request options).mono
    (show headStarts ⊆ callStarts by decide)
  have closer : BeginsIn callStarts (callCloser options) := by
    unfold callCloser
    split
    · exact .ofStart (show ")" ∈ callStarts by decide) " as response:"
    · exact .ofStart (show ")" ∈ callStarts by decide) ""
  have arguments : ∀ text ∈ callArguments request options,
      BeginsIn callStarts text ∧ BeginsIn callStarts (text ++ ",") := by
    intro text isArgument
    have start := (beginsIn_callArguments isArgument).mono
      (show quoteStarts ++ keywordStarts ⊆ callStarts by decide)
    exact ⟨start, start.append ","⟩
  exact .call head closer arguments .nil

theorem beginsIn_of_mem_requestLines {request : Draft} {options : Options} {line : Line}
    (member : line ∈ requestLines request options) :
    line.raw = false ∧ BeginsIn callStarts line.text := by
  have each := eachText_call request options (callDepth options)
  rw [linesAt_call, linesAt_nil, List.append_nil] at each
  exact each line member

theorem endsIn_callHead (request : Draft) (options : Options) :
    EndsIn (· == '(') (callHead request options) :=
  (show EndsIn (· == '(') "(" by decide).behind (by decide) _

theorem endsIn_sessionHeader (request : Draft) : EndsIn (· == ':') (sessionHeader request) :=
  (show EndsIn (· == ':') ") as session:" by decide).behind (by decide) _

theorem begins_sessionHeader (request : Draft) :
    begins "async with aiohttp.ClientSession(" (sessionHeader request) = true :=
  begins_of_begins (begins_append _ _) _

theorem endsIn_callCloser (options : Options) :
    EndsIn (· ∈ [')', ':']) (callCloser options) := by
  unfold callCloser
  split <;> decide

end CurlScript.Script
