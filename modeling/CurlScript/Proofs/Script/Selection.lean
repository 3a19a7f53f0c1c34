import CurlScript.Proofs.Script.Argument

/-!
The lines of a script that hold arguments of its call, with or without a comma behind them.
-/

namespace CurlScript.Script

open Text

def withoutComma (text : String) : String :=
  if text.toList.getLast? = some ',' then String.ofList text.toList.dropLast else text

theorem withoutComma_append (text : String) : withoutComma (text ++ ",") = text := by
  have comma : (text ++ ",").toList = text.toList ++ [','] := by
    rw [String.toList_append]
    rfl
  rw [withoutComma, comma, List.getLast?_concat, if_pos rfl, List.dropLast_concat,
    String.ofList_toList]

theorem withoutComma_eq_self {text : String} {allowed : Char → Bool} (last : EndsIn allowed text)
    (noComma : allowed ',' = false) : withoutComma text = text := by
  unfold withoutComma
  split
  · rename_i comma
    simp [last ',' comma] at noComma
  · rfl

theorem map_withoutComma {arguments : List String}
    (each : ∀ argument ∈ arguments, EndsIn endsArgument argument) :
    (withCommas arguments).map withoutComma = arguments := by
  fun_induction withCommas arguments with
  | case1 => rfl
  | case2 argument =>
      rw [List.map_singleton, withoutComma_eq_self (each argument (by simp)) rfl]
  | case3 argument next rest ih =>
      rw [List.forall_mem_cons] at each
      rw [List.map_cons, withoutComma_append, ih each.2]

/-- An assignment is written as it is, with a blank line behind it. -/
theorem raw_or_blank_of_mem_preambleLines {request : Draft} {line : Line}
    (member : line ∈ preambleLines request) : line.raw = true ∨ line.text = "" := by
  have assigned : ∀ name literal, ∀ line ∈ linesAt 0 (assignment name literal),
      line.raw = true ∨ line.text = "" := by
    intro name literal
    simp [assignment]
  have mapped : ∀ name entries, ∀ line ∈ linesAt 0 (mappingAssignment name entries),
      line.raw = true ∨ line.text = "" := by
    intro name entries
    unfold mappingAssignment
    split
    · simp
    · exact assigned _ _
  rw [preambleLines, preamble, linesAt_append, linesAt_append, List.mem_append,
    List.mem_append] at member
  rcases member with (headers | cookies) | data
  · exact mapped _ _ line headers
  · exact mapped _ _ line cookies
  · cases body : nonEmpty? request.data with
    | none => simp [body] at data
    | some text => exact assigned _ _ line (by simpa [body] using data)

namespace Line

def isArgument (selects : String → Bool) (line : Line) : Bool :=
  !line.raw && selects (withoutComma line.text)

end Line

structure SelectsArguments (selects : String → Bool) (request : Draft) (options : Options) :
    Prop where
  statement : ∀ text, IsStatement text → selects text = false
  head : selects (callHead request options) = false
  closer : selects (callCloser options) = false
  session : selects (sessionHeader request) = false

namespace SelectsArguments

variable {selects : String → Bool} {request : Draft} {options : Options}

theorem isArgument_of_isStatement (arguments : SelectsArguments selects request options)
    {line : Line} (statement : IsStatement line.text) : line.isArgument selects = false := by
  rw [Line.isArgument, withoutComma_eq_self (endsIn_statement statement) rfl]
  simp [arguments.statement line.text statement]

theorem filter_preambleLines (arguments : SelectsArguments selects request options) :
    (preambleLines request).filter (·.isArgument selects) = [] := by
  rw [List.filter_eq_nil_iff]
  intro line member
  rcases raw_or_blank_of_mem_preambleLines member with raw | blank
  · simp [Line.isArgument, raw]
  · have statement : IsStatement line.text := by
      rw [blank]
      decide
    simp [arguments.isArgument_of_isStatement statement]

theorem filter_sessionLines (arguments : SelectsArguments selects request options) :
    (sessionLines request options).filter (·.isArgument selects) = [] := by
  unfold sessionLines
  split
  · have same := withoutComma_eq_self (endsIn_sessionHeader request) rfl
    simp [Line.isArgument, same, arguments.session]
  · rfl

theorem filter_scriptLines (arguments : SelectsArguments selects request options) :
    (scriptLines request options).filter (·.isArgument selects) =
      (requestLines request options).filter (·.isArgument selects) := by
  rw [Script.filter_scriptLines fun line _ => arguments.isArgument_of_isStatement,
    arguments.filter_preambleLines, arguments.filter_sessionLines, List.nil_append, List.nil_append]

theorem map_filter_requestLines (arguments : SelectsArguments selects request options) :
    ((requestLines request options).filter (·.isArgument selects)).map (withoutComma ·.text) =
      (callArguments request options).filter selects := by
  have head : (⟨callDepth options, callHead request options, false⟩ : Line).isArgument selects =
      false := by
    simp [Line.isArgument, withoutComma_eq_self (endsIn_callHead request options) rfl,
      arguments.head]
  have closer : (⟨callDepth options, callCloser options, false⟩ : Line).isArgument selects =
      false := by
    simp [Line.isArgument, withoutComma_eq_self (endsIn_callCloser options) rfl,
      arguments.closer]
  -- To select among the lines is to select among the arguments, as the comma is taken off first.
  have between : ((withCommas (callArguments request options)).filter
      (selects ∘ withoutComma)).map withoutComma =
        (callArguments request options).filter selects := by
    rw [← List.filter_map, map_withoutComma fun _ => endsIn_callArguments]
  rw [requestLines, callLines, ← withCommas_eq, List.cons_append, List.filter_cons, head,
    List.filter_append, List.filter_singleton, closer, List.filter_map]
  simpa [Function.comp_def, Line.isArgument] using between

end SelectsArguments

end CurlScript.Script
