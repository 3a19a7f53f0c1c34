import CurlScript.Proofs.Literal.Container

/-!
Literals at other depths: the literal of a value one level deeper has the same lines, each but the
first four spaces further to the right.
-/

namespace CurlScript.Literal

open Text

variable (count : Nat)

theorem pushed_intercalate (separator : List Char) (texts : List (List Char)) :
    pushed count (List.intercalate separator texts) =
      List.intercalate (pushed count separator) (texts.map (pushed count)) := by
  induction texts with
  | nil => rfl
  | cons text rest ih =>
      cases rest with
      | nil => simp
      | cons next more =>
          simp only [List.intercalate_cons_cons, pushed_append, ih, List.map_cons]

/-- Entries on lines of their own: the spaces go in front of each. -/
theorem pushed_entries (width : Nat) {texts : List (List Char)} (nonempty : texts ≠ []) :
    pushed count ('\n' :: List.intercalate [',', '\n'] (texts.map (spaces width ++ ·))) =
      '\n' :: List.intercalate [',', '\n']
        ((texts.map (pushed count)).map (spaces (count + width) ++ ·)) := by
  have start : ∀ text, pushed count ('\n' :: (spaces width ++ text)) =
      '\n' :: (spaces (count + width) ++ pushed count text) := by
    intro text
    rw [pushed_break, pushed_append, pushed_eq_self count (break_not_mem_spaces width),
      spaces_add, List.append_assoc]
  induction texts with
  | nil => exact absurd rfl nonempty
  | cons text rest ih =>
      cases rest with
      | nil => simpa using start text
      | cons next more =>
          have tail := ih (List.cons_ne_nil _ _)
          have comma : pushed count [','] = [','] := pushed_eq_self count (by decide)
          have parts : '\n' :: List.intercalate [',', '\n']
              ((text :: next :: more).map (spaces width ++ ·)) =
              ('\n' :: (spaces width ++ text)) ++ ([','] ++
                '\n' :: List.intercalate [',', '\n'] ((next :: more).map (spaces width ++ ·))) := by
            simp
          rw [parts, pushed_append, start, pushed_append, tail, comma]
          simp

theorem pushed_enclose {opener closer : String} (opening : '\n' ∉ opener.toList)
    (closing : '\n' ∉ closer.toList) {texts more : List String} (nonempty : texts ≠ [])
    (shift : more.map String.toList = (texts.map String.toList).map (pushed (4 * count)))
    (inline : Bool) (depth : Nat) :
    (enclose inline opener closer (depth + count) more).toList =
      pushed (4 * count) (enclose inline opener closer depth texts).toList := by
  have bracket := pushed_eq_self (4 * count) opening
  have last := pushed_eq_self (4 * count) closing
  cases inline with
  | true =>
      have comma : pushed (4 * count) [',', ' '] = [',', ' '] := pushed_eq_self _ (by decide)
      rw [toList_enclose_inline, toList_enclose_inline, shift, pushed_append, pushed_append,
        pushed_intercalate, bracket, last, comma]
  | false =>
      have outer : spaces (4 * (depth + count)) = spaces (4 * count) ++ spaces (4 * depth) := by
        rw [← spaces_add, Nat.mul_add, Nat.add_comm]
      have inner : 4 * (depth + count + 1) = 4 * count + 4 * (depth + 1) := by
        omega
      rw [toList_enclose_broken, toList_enclose_broken, shift, pushed_append, pushed_append,
        pushed_entries _ _ (by simpa using nonempty), pushed_break, pushed_append, bracket, last,
        pushed_eq_self _ (break_not_mem_spaces _), outer, inner]
      simp only [List.append_assoc]

theorem innerDepth_add (depth : Nat) (value : Json) :
    innerDepth (depth + count) value = innerDepth depth value + count := by
  unfold innerDepth
  split <;> omega

theorem Placed.deeper {depth level : Nat} {value inner : Json}
    (placed : Placed depth value level inner) :
    Placed (depth + count) value (level + count) inner := by
  induction placed with
  | self => exact .self
  | entry member _ ih =>
      rw [← innerDepth_add] at ih
      exact .entry member ih

theorem Placed.exists_of_deeper {depth level : Nat} {value inner : Json}
    (placed : Placed (depth + count) value level inner) :
    ∃ above, level = above + count ∧ Placed depth value above inner := by
  generalize same : depth + count = lower at placed
  induction placed generalizing depth with
  | self => exact ⟨depth, same.symm, .self⟩
  | entry member _ ih =>
      subst same
      obtain ⟨above, levelEq, upper⟩ := ih (innerDepth_add count depth _).symm
      exact ⟨above, levelEq, .entry member upper⟩

theorem placed_add_iff {depth level : Nat} {value inner : Json} :
    Placed (depth + count) value (level + count) inner ↔ Placed depth value level inner := by
  constructor
  · intro placed
    obtain ⟨above, same, upper⟩ := placed.exists_of_deeper
    obtain rfl := Nat.add_right_cancel same
    exact upper
  · exact Placed.deeper count

theorem ofJson_add {value : Json} (unbroken : Unbroken value) (depth : Nat) :
    (ofJson (depth + count) value).toList = pushed (4 * count) (ofJson depth value).toList := by
  induction value using entries_induction generalizing depth with
  | step value ih =>
      by_cases empty : entries value = []
      · rw [ofJson_of_no_entries empty, ofJson_of_no_entries empty depth,
          pushed_eq_self _ (break_not_mem_ofJson_of_no_entries empty unbroken 0)]
      · have texts : entryTexts (innerDepth depth value) value ≠ [] := by
          simpa [entryTexts] using empty
        have brackets : '\n' ∉ (brackets value).1.toList ∧ '\n' ∉ (brackets value).2.toList := by
          unfold Literal.brackets
          split <;> decide
        have shift : (entryTexts (innerDepth (depth + count) value) value).map String.toList =
            ((entryTexts (innerDepth depth value) value).map String.toList).map
              (pushed (4 * count)) := by
          rw [innerDepth_add]
          simp only [entryTexts, List.map_map]
          apply List.map_congr_left
          intro entry member
          obtain ⟨label, inner⟩ := unbroken.entry member
          simp only [Function.comp_apply, String.toList_append, pushed_append,
            pushed_eq_self _ label, ih entry member inner]
        rw [ofJson_eq_enclose empty, ofJson_eq_enclose empty]
        exact pushed_enclose count brackets.1 brackets.2 texts shift _ depth

theorem lines_ofJson_add {value : Json} (unbroken : Unbroken value) (depth : Nat) :
    lines (ofJson (depth + count) value) = shifted (4 * count) (lines (ofJson depth value)) := by
  rw [lines, ofJson_add count unbroken, pieces_pushed]
  rfl

/-- Deeper by some levels, a literal has the same lines with four spaces for each level in front of
all but the first. The same is true of the literal of every value in it. -/
theorem literal_shifted {value : Json} (unbroken : Unbroken value) (depth more : Nat) :
    (ofJson (depth + more) value).toList =
        List.intercalate ['\n'] (shifted (4 * more) (lines (ofJson depth value))) ∧
      (lines (ofJson (depth + more) value)).length = (lines (ofJson depth value)).length ∧
      (lines (ofJson (depth + more) value)).map (List.dropWhile (· == ' ')) =
        (lines (ofJson depth value)).map (List.dropWhile (· == ' ')) ∧
      ∀ level inner,
        (Placed (depth + more) value (level + more) inner ↔ Placed depth value level inner) ∧
        (Placed depth value level inner →
          lines (ofJson (level + more) inner) =
            shifted (4 * more) (lines (ofJson level inner))) := by
  refine ⟨?_, ?_, ?_, ?_⟩
  · rw [← lines_ofJson_add more unbroken, intercalate_lines]
  · rw [lines_ofJson_add more unbroken, length_shifted]
  · rw [lines_ofJson_add more unbroken, map_dropWhile_shifted]
  · intro level inner
    refine ⟨placed_add_iff more, ?_⟩
    intro placed
    exact lines_ofJson_add more (placed.unbroken unbroken) level

/-- A list that breaks, in an object that does not, in an object that does. -/
theorem literal_shifted_mixedLayout :
    let inner := Json.object [("c", .list [.int 1, .float (.infinite true), .null])]
    let value := Json.object [("a b", .text "it's"), ("", inner), ("d", .list [])]
    Unbroken value ∧ Placed 1 value 2 inner ∧
      lines (ofJson 2 inner) =
        ["\x7b'c': [", "            1,", "            float('-inf'),", "            None",
          "        ]\x7d"].map String.toList ∧
      lines (ofJson 5 inner) = shifted 12 (lines (ofJson 2 inner)) ∧
      (lines (ofJson 4 value)).length = (lines (ofJson 1 value)).length := by
  let inner := Json.object [("c", .list [.int 1, .float (.infinite true), .null])]
  let value := Json.object [("a b", .text "it's"), ("", inner), ("d", .list [])]
  have unbroken : Unbroken value := by
    decide
  have small : ¬Small value := by
    decide
  have placed : Placed 1 value 2 inner := by
    have member : (quote "" ++ ": ", inner) ∈ entries value :=
      List.mem_map_of_mem (a := ("", inner)) (by simp)
    have self : Placed (innerDepth 1 value) inner 2 inner := by
      rw [innerDepth, if_neg small]
      exact .self
    exact .entry member self
  obtain ⟨-, sameCount, -, each⟩ := literal_shifted unbroken 1 3
  exact ⟨unbroken, placed, by decide, (each 2 inner).2 placed, sameCount⟩

end CurlScript.Literal
