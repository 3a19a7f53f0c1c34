import CurlScript.Proofs.Script.Selection

/-!
The variables of the preamble: each is assigned exactly if the call passes it, and the body is sent
in the form in which it was assigned.
-/

namespace CurlScript.Script

open Text Literal

inductive Name where
  | headers
  | cookies
  | data
deriving DecidableEq, Repr

namespace Name

def all : List Name :=
  [.headers, .cookies, .data]

theorem mem_all (name : Name) : name ∈ all := by
  cases name <;> decide

def text : Name → String
  | .headers => "headers"
  | .cookies => "cookies"
  | .data => "data"

def isPresent (request : Draft) : Name → Bool
  | .headers => !request.headers.isEmpty
  | .cookies => !request.cookies.isEmpty
  | .data => request.data.any (!·.isEmpty)

end Name

namespace Line

def assigns (name : Name) (line : Line) : Bool :=
  begins (name.text ++ " = ") line.text

end Line

def passesAs (name : Name) (argument : String) : Bool :=
  ends ("=" ++ name.text) argument

def Line.passes (name : Name) (line : Line) : Bool :=
  line.isArgument (passesAs name)

/-- `BodySent headers data literal argument`: of a request with these headers, the body may be
assigned as the literal and sent by the argument. A JSON body is read as `Json.read?` reads it: with
the replacement character for a surrogate without a partner. -/
inductive BodySent (headers : Entries String String) (data : String) : String → String → Prop
  | structured {value : Json} : Json.read? data = some value →
      BodySent headers data (ofJson 0 value) "json=data"
  | declared : Json.read? data = none → hasJsonType headers = true →
      BodySent headers data (quote data) "json=data"
  | plain : Json.read? data = none → hasJsonType headers = false →
      BodySent headers data (quote data) "data=data"

namespace Name

def literal? (request : Draft) : Name → Option String
  | .headers => if request.headers.isEmpty then none else some (ofEntries request.headers)
  | .cookies => if request.cookies.isEmpty then none else some (ofEntries request.cookies)
  | .data => (nonEmpty? request.data).map bodyLiteral

def part? (request : Draft) : Name → Option Part
  | .headers => if request.headers.isEmpty then none else some .headers
  | .cookies => if request.cookies.isEmpty then none else some .cookies
  | .data => bodyPart? request

variable (request : Draft) (name : Name)

theorem isSome_nonEmpty? (text : Option String) :
    (nonEmpty? text).isSome = text.any (!·.isEmpty) := by
  cases text with
  | none => rfl
  | some text => cases isEmpty : text.isEmpty <;> simp [nonEmpty?, Option.filter, isEmpty]

theorem isSome_literal? : (literal? request name).isSome = isPresent request name := by
  cases name with
  | headers => cases isEmpty : request.headers.isEmpty <;> simp [literal?, isPresent, isEmpty]
  | cookies => cases isEmpty : request.cookies.isEmpty <;> simp [literal?, isPresent, isEmpty]
  | data => simp [literal?, isPresent, isSome_nonEmpty?]

theorem isSome_part? : (part? request name).isSome = isPresent request name := by
  cases name with
  | headers => cases isEmpty : request.headers.isEmpty <;> simp [part?, isPresent, isEmpty]
  | cookies => cases isEmpty : request.cookies.isEmpty <;> simp [part?, isPresent, isEmpty]
  | data => simp [part?, isPresent, bodyPart?, isSome_nonEmpty?]

end Name

def assignmentLine (name : Name) (literal : String) : Line :=
  ⟨0, name.text ++ " = " ++ literal, true⟩

def assignmentLines (request : Draft) (name : Name) : List Line :=
  match name.literal? request with
  | some literal => [assignmentLine name literal, ⟨0, "", false⟩]
  | none => []

theorem preambleLines_eq (request : Draft) :
    preambleLines request = Name.all.flatMap (assignmentLines request) := by
  have mapping : ∀ (name : Name) (entries : Entries String String),
      name.literal? request = (if entries.isEmpty then none else some (ofEntries entries)) →
      linesAt 0 (mappingAssignment name.text entries) = assignmentLines request name := by
    intro name entries literal
    rw [assignmentLines, literal, mappingAssignment]
    split
    · rfl
    · rfl
  have body : linesAt 0 (((nonEmpty? request.data).map fun data =>
      assignment "data" (bodyLiteral data)).getD []) = assignmentLines request .data := by
    rw [assignmentLines, Name.literal?]
    cases nonEmpty? request.data with
    | none => rfl
    | some data => rfl
  rw [preambleLines, preamble, linesAt_append, linesAt_append, body,
    show "headers" = Name.headers.text from rfl, show "cookies" = Name.cookies.text from rfl,
    mapping .headers request.headers rfl, mapping .cookies request.cookies rfl]
  simp [Name.all]

theorem assigns_assignmentLine (name other : Name) (literal : String) :
    (assignmentLine other literal).assigns name = (name == other) := by
  have start : begins (other.text ++ " = ") (assignmentLine other literal).text = true :=
    begins_append _ _
  by_cases same : name = other
  · rw [Line.assigns, same, start, beq_self_eq_true]
  · have different : apart (other.text ++ " = ") (name.text ++ " = ") = true := by
      revert same
      cases name <;> cases other <;> decide
    rw [Line.assigns, begins_eq_false start different, beq_false_of_ne same]

theorem assigns_of_isStatement {line : Line} (name : Name) (statement : IsStatement line.text) :
    line.assigns name = false := by
  apply begins_statement_eq_false statement
  · cases name <;> decide
  · cases name <;> decide

theorem filter_assigns_preambleLines (request : Draft) (name : Name) :
    (preambleLines request).filter (·.assigns name) =
      ((name.literal? request).map (assignmentLine name)).toList := by
  have each : ∀ other, (assignmentLines request other).filter (·.assigns name) =
      if name = other then ((name.literal? request).map (assignmentLine name)).toList else [] := by
    intro other
    have blank : (⟨0, "", false⟩ : Line).assigns name = false :=
      assigns_of_isStatement name (by decide)
    unfold assignmentLines
    split
    · rename_i literal found
      rw [List.filter_cons, List.filter_singleton, assigns_assignmentLine, blank]
      by_cases same : name = other
      · simp [same, found]
      · simp [same]
    · rename_i missing
      by_cases same : name = other
      · simp [same, missing]
      · simp [same]
  rw [preambleLines_eq, List.filter_flatMap]
  cases name <;> simp [Name.all, each]

theorem assigns_of_mem_requestLines {request : Draft} {options : Options} {line : Line}
    (member : line ∈ requestLines request options) (name : Name) : line.assigns name = false := by
  have different : ∀ start ∈ callStarts, apart start (name.text ++ " = ") = true := by
    cases name <;> decide
  exact (beginsIn_of_mem_requestLines member).2.begins_eq_false different

theorem assigns_of_mem_sessionLines {request : Draft} {options : Options} {line : Line}
    (member : line ∈ sessionLines request options) (name : Name) : line.assigns name = false := by
  unfold sessionLines at member
  split at member
  · obtain rfl := List.mem_singleton.mp member
    have different : apart "async with aiohttp.ClientSession(" (name.text ++ " = ") = true := by
      cases name <;> decide
    exact begins_eq_false (begins_sessionHeader request) different
  · simp at member

theorem filter_assigns_scriptLines (request : Draft) (options : Options) (name : Name) :
    (scriptLines request options).filter (·.assigns name) =
      (preambleLines request).filter (·.assigns name) := by
  have session : (sessionLines request options).filter (·.assigns name) = [] := by
    rw [List.filter_eq_nil_iff]
    intro line member
    simp [assigns_of_mem_sessionLines member name]
  have call : (requestLines request options).filter (·.assigns name) = [] := by
    rw [List.filter_eq_nil_iff]
    intro line member
    simp [assigns_of_mem_requestLines member name]
  rw [filter_scriptLines fun line _ => assigns_of_isStatement name, session, call,
    List.append_nil, List.append_nil]

def Part.name? : Part → Option Name
  | .headers => some .headers
  | .cookies => some .cookies
  | .body _ => some .data
  | _ => none

theorem passesAs_eq_false {allowed : Char → Bool} {text : String} (last : EndsIn allowed text)
    (noS : allowed 's' = false) (noA : allowed 'a' = false) (name : Name) :
    passesAs name text = false := by
  cases name with
  | headers => exact ends_eq_false last (c := 's') (by decide) noS
  | cookies => exact ends_eq_false last (c := 's') (by decide) noS
  | data => exact ends_eq_false last (c := 'a') (by decide) noA

theorem passesAs_argument (name : Name) (library : Library) (part : Part) :
    passesAs name (argument library part) = (part.name? == some name) := by
  have value : ∀ {part : Part}, part.name? = none → part.endsIn = endsValue →
      passesAs name (argument library part) = (part.name? == some name) := by
    intro part noName ends
    rw [noName, passesAs_eq_false (ends ▸ endsIn_argument library part) rfl rfl]
    rfl
  cases part with
  | headers =>
      have text : argument library .headers = "headers=headers" := by cases library <;> rfl
      rw [text]
      cases name <;> decide
  | cookies =>
      have text : argument library .cookies = "cookies=cookies" := by cases library <;> rfl
      rw [text]
      cases name <;> decide
  | body json =>
      rw [argument_body]
      cases name <;> cases json <;> decide
  | auth credentials => exact value rfl rfl
  | proxy url => exact value rfl rfl
  | insecure => exact value rfl rfl
  | timeout seconds => exact value rfl rfl

theorem filter_name?_parts (request : Draft) (name : Name) :
    (parts request).filter (·.name? == some name) = (name.part? request).toList := by
  have unnamed : ∀ {α : Type} (part : α → Part) (value : Option α), (∀ a, (part a).name? = none) →
      (value.map part).toList.filter (·.name? == some name) = [] := by
    intro α part value noName
    cases value <;> simp [noName]
  have insecure : (if request.insecure then [Part.insecure] else []).filter
      (·.name? == some name) = [] := by
    split <;> simp [Part.name?]
  have headers : (if request.headers.isEmpty then [] else [Part.headers]).filter
      (·.name? == some name) =
        if name = .headers ∧ request.headers.isEmpty = false then [.headers] else [] := by
    cases request.headers.isEmpty <;> cases name <;> simp [Part.name?]
  have cookies : (if request.cookies.isEmpty then [] else [Part.cookies]).filter
      (·.name? == some name) =
        if name = .cookies ∧ request.cookies.isEmpty = false then [.cookies] else [] := by
    cases request.cookies.isEmpty <;> cases name <;> simp [Part.name?]
  have body : (bodyPart? request).toList.filter (·.name? == some name) =
      if name = .data then (bodyPart? request).toList else [] := by
    unfold bodyPart?
    cases nonEmpty? request.data <;> cases name <;> simp [Part.name?]
  rw [parts]
  simp only [List.filter_append]
  rw [headers, cookies, body, unnamed Part.auth _ fun _ => rfl, unnamed Part.proxy _ fun _ => rfl,
    insecure, unnamed Part.timeout _ fun _ => rfl]
  cases name with
  | headers => cases isEmpty : request.headers.isEmpty <;> simp [Name.part?, isEmpty]
  | cookies => cases isEmpty : request.cookies.isEmpty <;> simp [Name.part?, isEmpty]
  | data => simp [Name.part?]

theorem filter_passesAs_callArguments (request : Draft) (options : Options) (name : Name) :
    (callArguments request options).filter (passesAs name) =
      (name.part? request).toList.map (argument options.library) := by
  have positional : (callee request options).positional.filter (passesAs name) = [] := by
    rw [List.filter_eq_nil_iff]
    intro text member
    obtain ⟨value, rfl⟩ := quote_of_mem_positional member
    simp [passesAs_eq_false (endsIn_quote value) rfl rfl]
  have named : (callParts request options.library).filter (·.name? == some name) =
      (parts request).filter (·.name? == some name) := by
    unfold callParts
    split
    · rw [List.filter_filter]
      apply List.filter_congr
      intro part _
      cases part <;> simp [Part.name?, Part.ofSession]
    · rfl
  have same : passesAs name ∘ argument options.library = fun part => part.name? == some name :=
    funext (passesAs_argument name options.library)
  rw [callArguments, List.filter_append, positional, keywordArguments_eq, List.filter_map, same,
    named, filter_name?_parts, List.nil_append]

theorem selectsArguments_passesAs (request : Draft) (options : Options) (name : Name) :
    SelectsArguments (passesAs name) request options where
  statement := by
    have fixed : ∀ text ∈ statementTexts,
        (Name.all.all fun name => !("=" ++ name.text).toList.isSuffixOf text.toList) = true := by
      unfold statementTexts
      repeat
        refine forall_mem_cons_chars (fun chars =>
          Name.all.all fun name => !("=" ++ name.text).toList.isSuffixOf chars) rfl ?_
      simp
    intro text statement
    have different := List.all_eq_true.mp (fixed text statement) name name.mem_all
    exact (Bool.not_eq_true' _).mp different
  head := passesAs_eq_false (endsIn_callHead request options) rfl rfl name
  closer := passesAs_eq_false (endsIn_callCloser options) rfl rfl name
  session := passesAs_eq_false (endsIn_sessionHeader request) rfl rfl name

theorem filter_passes_scriptLines (request : Draft) (options : Options) (name : Name) :
    (scriptLines request options).filter (·.passes name) =
      (requestLines request options).filter (·.passes name) :=
  (selectsArguments_passesAs request options name).filter_scriptLines

theorem map_filter_passes_requestLines (request : Draft) (options : Options) (name : Name) :
    ((requestLines request options).filter (·.passes name)).map (withoutComma ·.text) =
      (name.part? request).toList.map (argument options.library) :=
  (selectsArguments_passesAs request options name).map_filter_requestLines.trans
    (filter_passesAs_callArguments request options name)

theorem countP_assigns_preambleLines (request : Draft) (name : Name) :
    (preambleLines request).countP (·.assigns name) = (name.isPresent request).toNat := by
  rw [List.countP_eq_length_filter, filter_assigns_preambleLines, Option.length_toList,
    Option.isSome_map, Name.isSome_literal?]
  cases name.isPresent request <;> rfl

theorem countP_passes_requestLines (request : Draft) (options : Options) (name : Name) :
    (requestLines request options).countP (·.passes name) = (name.isPresent request).toNat := by
  rw [List.countP_eq_length_filter, ← List.length_map (withoutComma ·.text),
    map_filter_passes_requestLines, List.length_map, Option.length_toList, Name.isSome_part?]
  cases name.isPresent request <;> rfl

theorem bodySent_bodyLiteral {request : Draft} {data : String} (body : request.data = some data) :
    BodySent request.headers data (bodyLiteral data) (bodyArgument (isJsonBody request)) := by
  have json : isJsonBody request =
      ((Json.read? data).isSome || hasJsonType request.headers) := by
    rw [isJsonBody, body]
    rfl
  rw [json, bodyLiteral]
  cases read : Json.read? data with
  | some value => exact .structured read
  | none =>
      cases declared : hasJsonType request.headers with
      | true => exact .declared read declared
      | false => exact .plain read declared

/-- A script assigns each variable that is present once, ahead of the call, and passes it once, in
the call; it neither assigns nor passes the others. The body is sent as it was assigned. -/
theorem assigned_as_passed (request : Draft) (options : Options) :
    (∃ ahead behind, scriptLines request options =
      importLines options ++ preambleLines request ++ ahead ++ requestLines request options ++
        behind) ∧
    (∀ name : Name,
      (scriptLines request options).countP (·.assigns name) = (name.isPresent request).toNat ∧
      (preambleLines request).countP (·.assigns name) = (name.isPresent request).toNat ∧
      (scriptLines request options).countP (·.passes name) = (name.isPresent request).toNat ∧
      (requestLines request options).countP (·.passes name) = (name.isPresent request).toNat) ∧
    ∀ data, request.data = some data → data ≠ "" → ∃ literal argument,
      BodySent request.headers data literal argument ∧
      (scriptLines request options).filter (·.assigns .data) =
        [⟨0, "data = " ++ literal, true⟩] ∧
      ((scriptLines request options).filter (·.passes .data)).map (withoutComma ·.text) =
        [argument] := by
  refine ⟨?_, fun name => ?_, fun data body nonempty => ?_⟩
  · obtain ⟨ahead, behind, lines, -⟩ := exists_scriptLines request options
    refine ⟨ahead ++ sessionLines request options, behind, ?_⟩
    rw [lines]
    simp only [List.append_assoc]
  · have assigned := countP_assigns_preambleLines request name
    have passed := countP_passes_requestLines request options name
    refine ⟨?_, assigned, ?_, passed⟩
    · rw [List.countP_eq_length_filter, filter_assigns_scriptLines,
        ← List.countP_eq_length_filter, assigned]
    · rw [List.countP_eq_length_filter, filter_passes_scriptLines,
        ← List.countP_eq_length_filter, passed]
  · have present : nonEmpty? request.data = some data := by
      simpa [body, nonEmpty?, Option.filter] using nonempty
    refine ⟨_, _, bodySent_bodyLiteral body, ?_, ?_⟩
    · rw [filter_assigns_scriptLines, filter_assigns_preambleLines, Name.literal?, present]
      rfl
    · have sent : argument options.library (.body (isJsonBody request)) =
          bodyArgument (isJsonBody request) := by
        cases options.library <;> rfl
      rw [filter_passes_scriptLines, map_filter_passes_requestLines, Name.part?, bodyPart?, present]
      simp [sent]

def constantBody : Draft where
  url := "http://a"
  method := "POST"
  headers := [("Content-Type", "application/json")]
  data := some "NaN"

theorem assigned_as_passed_constantBody :
    constantBody.data = some "NaN" ∧ "NaN" ≠ "" ∧ ∃ literal argument,
      BodySent constantBody.headers "NaN" literal argument ∧
      (scriptLines constantBody ⟨⟨true, true, true, false⟩, .aiohttp⟩).filter (·.assigns .data) =
        [⟨0, "data = " ++ literal, true⟩] ∧
      ((scriptLines constantBody ⟨⟨true, true, true, false⟩, .aiohttp⟩).filter
        (·.passes .data)).map (withoutComma ·.text) = [argument] := by
  have nonempty : "NaN" ≠ "" := by decide
  exact ⟨rfl, nonempty, (assigned_as_passed constantBody _).2.2 "NaN" rfl nonempty⟩

example : bodyLiteral "NaN" = "'NaN'" ∧ isJsonBody constantBody = true := by
  decide +kernel

end CurlScript.Script
