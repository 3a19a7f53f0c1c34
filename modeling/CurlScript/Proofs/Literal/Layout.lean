import CurlScript.Proofs.Literal.Container
import CurlScript.Proofs.Script.Line

/-!
The layout of containers. A small one has its entries one behind the other, and is on a single line
exactly if no container in it has more than two entries. Any other one has its brackets on lines of
their own and begins a line with each entry.
-/

namespace CurlScript.Literal

open Text

theorem infix_enclose {opener closer text : String} {texts : List String} (member : text ∈ texts)
    (inline : Bool) (depth : Nat) :
    text.toList <:+: (enclose inline opener closer depth texts).toList := by
  have inTexts : text.toList ∈ texts.map String.toList := List.mem_map_of_mem member
  cases inline with
  | true =>
      rw [toList_enclose_inline]
      exact (infix_intercalate inTexts).trans (List.infix_append _ _ _)
  | false =>
      have indented := List.mem_map_of_mem (f := (spaces (4 * (depth + 1)) ++ ·)) inTexts
      have entry : text.toList <:+: spaces (4 * (depth + 1)) ++ text.toList :=
        (List.suffix_append _ _).isInfix
      have line : text.toList <:+: List.intercalate [',', '\n']
          ((texts.map String.toList).map (spaces (4 * (depth + 1)) ++ ·)) :=
        entry.trans (infix_intercalate indented)
      rw [toList_enclose_broken]
      exact line.trans ⟨opener.toList ++ ['\n'], '\n' :: (spaces (4 * depth) ++ closer.toList),
        by simp⟩

theorem Placed.isInfix {depth level : Nat} {value inner : Json}
    (placed : Placed depth value level inner) :
    (ofJson level inner).toList <:+: (ofJson depth value).toList := by
  induction placed with
  | self => exact List.infix_rfl
  | @entry depth value entry level inner member _ ih =>
      have nonempty : entries value ≠ [] := List.ne_nil_of_mem member
      have text : entry.1 ++ ofJson (innerDepth depth value) entry.2 ∈
          entryTexts (innerDepth depth value) value :=
        List.mem_map_of_mem member
      have labelled : (ofJson (innerDepth depth value) entry.2).toList <:+:
          (entry.1 ++ ofJson (innerDepth depth value) entry.2).toList := by
        rw [String.toList_append]
        exact (List.suffix_append _ _).isInfix
      rw [ofJson_eq_enclose nonempty]
      exact (ih.trans labelled).trans (infix_enclose text _ depth)

/-! Small containers. -/

theorem brackets_unbroken (value : Json) :
    '\n' ∉ (brackets value).1.toList ∧ '\n' ∉ (brackets value).2.toList := by
  unfold brackets
  split <;> decide

theorem break_not_mem_enclose_iff {value : Json} {texts : List String} (inline : Bool)
    (depth : Nat) :
    '\n' ∉ (enclose inline (brackets value).1 (brackets value).2 depth texts).toList ↔
      inline = true ∧ ∀ text ∈ texts, '\n' ∉ text.toList := by
  obtain ⟨opening, closing⟩ := brackets_unbroken value
  cases inline with
  | false => simp [toList_enclose_broken]
  | true =>
      constructor
      · intro absent
        refine ⟨rfl, fun text member inText => absent ?_⟩
        exact (infix_enclose member true depth).subset inText
      · rintro ⟨-, each⟩ member
        rw [toList_enclose_inline] at member
        simp only [List.mem_append, opening, closing, false_or, or_false] at member
        rcases mem_of_mem_intercalate member with inSeparator | ⟨text, belongs, inText⟩
        · exact absurd inSeparator (by decide)
        · obtain ⟨entry, inTexts, rfl⟩ := List.mem_map.mp belongs
          exact each entry inTexts inText

/-- A literal is on a single line if and only if all the containers in it are small. -/
theorem break_not_mem_ofJson_iff {value : Json} (unbroken : Unbroken value) (depth : Nat) :
    '\n' ∉ (ofJson depth value).toList ↔
      ∀ level inner, Placed depth value level inner → entries inner ≠ [] → Small inner := by
  induction value using entries_induction generalizing depth with
  | step value ih =>
      by_cases empty : entries value = []
      · refine iff_of_true (break_not_mem_ofJson_of_no_entries empty unbroken depth) ?_
        intro level inner placed nonempty
        cases placed with
        | self => exact absurd empty nonempty
        | entry member => simp [empty] at member
      · have texts : (∀ text ∈ entryTexts (innerDepth depth value) value, '\n' ∉ text.toList) ↔
            ∀ entry ∈ entries value, '\n' ∉ (ofJson (innerDepth depth value) entry.2).toList := by
          simp only [entryTexts, List.forall_mem_map, String.toList_append, List.mem_append, not_or]
          exact forall₂_congr fun entry member => and_iff_right (unbroken.entry member).1
        rw [ofJson_eq_enclose empty, break_not_mem_enclose_iff, decide_eq_true_iff, texts]
        constructor
        · rintro ⟨small, each⟩ level inner placed nonempty
          cases placed with
          | self => exact small
          | entry member placed =>
              exact (ih _ member (unbroken.entry member).2 _).mp (each _ member) level inner placed
                nonempty
        · intro all
          refine ⟨all depth value .self empty, fun entry member => ?_⟩
          rw [ih entry member (unbroken.entry member).2]
          exact fun level inner placed => all level inner (.entry member placed)

theorem Small.of_placed {depth level : Nat} {value inner : Json} (small : Small value)
    (placed : Placed depth value level inner) : Small inner ↔ (entries inner).length ≤ 2 := by
  have narrow : (Json.compact inner).length < 50 := by
    have bound := placed.width
    rw [← Json.length_compact, ← Json.length_compact] at bound
    exact Nat.lt_of_le_of_lt bound small.2
  exact and_iff_left narrow

/-- A small container is on a single line if and only if no container in it has more than two
entries. -/
theorem Small.break_not_mem_iff {value : Json} (small : Small value) (unbroken : Unbroken value)
    (depth : Nat) :
    '\n' ∉ (ofJson depth value).toList ↔
      ∀ level inner, Placed depth value level inner → (entries inner).length ≤ 2 := by
  rw [break_not_mem_ofJson_iff unbroken]
  constructor
  · intro all level inner placed
    by_cases empty : entries inner = []
    · simp [empty]
    · exact (all level inner placed empty).1
  · intro all level inner placed _
    exact (small.of_placed placed).mpr (all level inner placed)

/-! Other containers. -/

theorem lines_entries {width : Nat} {texts : List String} (nonempty : texts ≠ []) :
    pieces '\n' (List.intercalate [',', '\n'] ((texts.map String.toList).map (spaces width ++ ·))) =
      (Script.withCommas texts).flatMap fun text => (lines text).modifyHead (spaces width ++ ·) := by
  have line : ∀ text : String, pieces '\n' (spaces width ++ text.toList) =
      (lines text).modifyHead (spaces width ++ ·) :=
    fun text => pieces_append_left (break_not_mem_spaces width) text.toList
  induction texts with
  | nil => exact absurd rfl nonempty
  | cons text rest ih =>
      cases rest with
      | nil => simp [Script.withCommas, line]
      | cons next more =>
          have comma : spaces width ++ text.toList ++ [',', '\n'] =
              (spaces width ++ (text ++ ",").toList) ++ ['\n'] := by
            simp [String.toList_append]
          rw [List.map_cons, List.map_cons, List.map_cons, List.map_cons,
            List.intercalate_cons_cons, comma, List.append_assoc, List.singleton_append,
            pieces_append_mark, line, Script.withCommas, List.flatMap_cons]
          rw [← ih (List.cons_ne_nil _ _)]
          rfl

theorem lines_enclose_broken {value : Json} {texts : List String} (nonempty : texts ≠ [])
    (depth : Nat) :
    lines (enclose false (brackets value).1 (brackets value).2 depth texts) =
      [(brackets value).1.toList] ++
        (Script.withCommas texts).flatMap (fun text =>
          (lines text).modifyHead (spaces (4 * (depth + 1)) ++ ·)) ++
        [spaces (4 * depth) ++ (brackets value).2.toList] := by
  obtain ⟨opening, closing⟩ := brackets_unbroken value
  have last : '\n' ∉ spaces (4 * depth) ++ (brackets value).2.toList := by
    simp [break_not_mem_spaces, closing]
  rw [lines, toList_enclose_broken, pieces_append_mark, pieces_append_mark,
    pieces_eq_singleton opening, pieces_eq_singleton last, lines_entries nonempty]

theorem head?_quote (text : String) : (quote text).toList.head? = some (quoteMark text.toList) := by
  rw [quote, String.toList_ofList, quoteChars_eq]
  rfl

theorem head?_ne_space_of_isNumeralText {text : String} (numeral : IsNumeralText text) :
    text.toList.head? ≠ some ' ' := by
  intro first
  exact absurd (numeral ' ' (List.mem_of_head? first)) (by decide)

theorem head?_ofJson (depth : Nat) (value : Json) : (ofJson depth value).toList.head? ≠ some ' ' := by
  by_cases empty : entries value = []
  · cases value with
    | null => exact (show "None".toList.head? ≠ some ' ' by decide)
    | bool value =>
        cases value with
        | false => exact (show "False".toList.head? ≠ some ' ' by decide)
        | true => exact (show "True".toList.head? ≠ some ' ' by decide)
    | int value => exact head?_ne_space_of_isNumeralText (isNumeralText_int value)
    | float value =>
        cases value with
        | finite negative significand exponent =>
            exact head?_ne_space_of_isNumeralText
              (Number.isNumeralText_finite _ negative significand exponent)
        | infinite negative =>
            cases negative with
            | false => exact (show "float('inf')".toList.head? ≠ some ' ' by decide)
            | true => exact (show "float('-inf')".toList.head? ≠ some ' ' by decide)
        | undefined => exact (show "nan".toList.head? ≠ some ' ' by decide)
    | text text =>
        rw [ofJson, head?_quote]
        rcases quoteMark_isQuote text.toList with mark | mark <;> simp [mark]
    | list items =>
        obtain rfl := List.map_eq_nil_iff.mp empty
        rw [ofJson]
        decide
    | object members =>
        obtain rfl := List.map_eq_nil_iff.mp empty
        rw [ofJson]
        decide
  · have opening : (brackets value).1.toList.head? ≠ none ∧
        (brackets value).1.toList.head? ≠ some ' ' := by
      unfold brackets
      split <;> decide
    obtain ⟨bracket, first⟩ := Option.ne_none_iff_exists'.mp opening.1
    rw [first] at opening
    rw [ofJson_eq_enclose empty]
    cases decide (Small value) with
    | false =>
        rw [toList_enclose_broken, List.append_assoc, List.head?_append, first]
        exact opening.2
    | true =>
        rw [toList_enclose_inline, List.append_assoc, List.head?_append, first]
        exact opening.2

theorem head?_of_mem_entryTexts {depth : Nat} {value : Json} {text : String}
    (member : text ∈ entryTexts depth value) : text.toList.head? ≠ some ' ' := by
  obtain ⟨entry, belongs, rfl⟩ := List.mem_map.mp member
  cases value with
  | list items =>
      obtain ⟨item, _, rfl⟩ := List.mem_map.mp belongs
      simpa using head?_ofJson depth item
  | object members =>
      obtain ⟨⟨key, inner⟩, _, rfl⟩ := List.mem_map.mp belongs
      simp only [String.toList_append, List.head?_append, head?_quote, Option.some_or]
      rcases quoteMark_isQuote key.toList with mark | mark <;> simp [mark]
  | _ => simp [entries] at belongs

/-- The layout of a container in a value, at the depth where it stands. A small one has its entries
one behind the other, and is on a single line if and only if no container in it has more than two
entries. Any other one has its opening bracket on the first line, its closing bracket behind four
spaces a level on the last one, and between them the lines of the entries, each of which begins a
line behind the spaces of one level more. -/
theorem layout_of_placed {value : Json} (unbroken : Unbroken value) {depth level : Nat}
    {inner : Json} (placed : Placed depth value level inner) (nonempty : entries inner ≠ []) :
    (ofJson level inner).toList <:+: (ofJson depth value).toList ∧
      ((entries inner).length ≤ 2 ∧ (Json.compact inner).length < 50 →
        ofJson level inner =
            (brackets inner).1 ++ ", ".intercalate (entryTexts level inner) ++
              (brackets inner).2 ∧
          ('\n' ∉ (ofJson level inner).toList ↔
            ∀ lower deeper, Placed level inner lower deeper → (entries deeper).length ≤ 2)) ∧
      (¬((entries inner).length ≤ 2 ∧ (Json.compact inner).length < 50) →
        lines (ofJson level inner) =
            [(brackets inner).1.toList] ++
              (Script.withCommas (entryTexts (level + 1) inner)).flatMap (fun text =>
                (lines text).modifyHead (spaces (4 * (level + 1)) ++ ·)) ++
              [spaces (4 * level) ++ (brackets inner).2.toList] ∧
          ∀ text ∈ entryTexts (level + 1) inner, text.toList.head? ≠ some ' ') := by
  refine ⟨placed.isInfix, ?_, ?_⟩
  · intro (small : Small inner)
    constructor
    · rw [ofJson_eq_enclose nonempty, innerDepth, if_pos small, decide_eq_true small, enclose,
        if_pos rfl, joined_eq_intercalate]
    · exact small.break_not_mem_iff (placed.unbroken unbroken) level
  · intro (large : ¬Small inner)
    have texts : entryTexts (level + 1) inner ≠ [] := by
      simpa [entryTexts] using nonempty
    constructor
    · rw [ofJson_eq_enclose nonempty, innerDepth, if_neg large, decide_eq_false large,
        lines_enclose_broken texts]
    · exact fun text => head?_of_mem_entryTexts

/-- A small object with a list in it that is not small, inside a list of three. -/
theorem layout_of_placed_nestedList :
    let inner := Json.object [("a", .list [.int 1, .int 2, .int 3])]
    let value := Json.list [inner, .text "x", .list [.null, .float .undefined]]
    Unbroken value ∧ Placed 0 value 1 inner ∧ entries inner ≠ [] ∧
      ofJson 1 inner =
        "\x7b" ++ ", ".intercalate ["'a': [\n        1,\n        2,\n        3\n    ]"] ++ "\x7d" ∧
      lines (ofJson 0 value) =
        ["[", "    \x7b'a': [", "        1,", "        2,", "        3", "    ]\x7d,", "    'x',",
          "    [None, nan]", "]"].map String.toList := by
  let inner := Json.object [("a", .list [.int 1, .int 2, .int 3])]
  let value := Json.list [inner, .text "x", .list [.null, .float .undefined]]
  have unbroken : Unbroken value := by
    decide
  have large : ¬Small value := by
    decide
  have small : Small inner := by
    decide
  have placed : Placed 0 value 1 inner := by
    have member : ("", inner) ∈ entries value := by
      simp [entries, value]
    have self : Placed (innerDepth 0 value) inner 1 inner := by
      rw [innerDepth, if_neg large]
      exact .self
    exact .entry member self
  have nonempty : entries inner ≠ [] := by
    simp [entries, inner]
  have whole : Placed 0 value 0 value := .self
  have inline := ((layout_of_placed unbroken placed nonempty).2.1 small).1
  have broken := ((layout_of_placed unbroken whole (by simp [entries, value])).2.2 large).1
  refine ⟨unbroken, placed, nonempty, inline.trans ?_, broken.trans ?_⟩
  · decide
  · decide

/-- A small object that is not on a single line, as the list in it is not. -/
theorem small_not_on_line :
    let value := Json.object [("a", .list [.int 1, .int 2, .int 3])]
    Unbroken value ∧ (entries value).length ≤ 2 ∧ (Json.compact value).length < 50 ∧
      ofJson 0 value = "\x7b'a': [\n    1,\n    2,\n    3\n]\x7d" ∧
      '\n' ∈ (ofJson 0 value).toList := by
  decide

end CurlScript.Literal
