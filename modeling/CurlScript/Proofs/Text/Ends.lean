import Mathlib.Data.List.Basic

/-!
How texts begin and how they end.
-/

namespace CurlScript.Text

def begins (start text : String) : Bool :=
  start.toList.isPrefixOf text.toList

def ends (finish text : String) : Bool :=
  finish.toList.isSuffixOf text.toList

def apart (start other : String) : Bool :=
  !begins start other && !begins other start

theorem begins_append (start rest : String) : begins start (start ++ rest) = true := by
  simp [begins, String.toList_append]

theorem begins_eq_false {start other text : String} (first : begins start text = true)
    (different : apart start other = true) : begins other text = false := by
  simp only [apart, begins, Bool.and_eq_true, Bool.not_eq_true', ← Bool.not_eq_true,
    List.isPrefixOf_iff_prefix] at first different ⊢
  intro both
  rcases List.prefix_or_prefix_of_prefix first both with shorter | longer
  · exact different.1 shorter
  · exact different.2 longer

theorem begins_of_begins {start text : String} (first : begins start text = true) (more : String) :
    begins start (text ++ more) = true := by
  rw [begins, List.isPrefixOf_iff_prefix] at first ⊢
  rw [String.toList_append]
  exact first.trans (List.prefix_append _ _)

theorem ends_of_ends {finish text : String} (last : ends finish text = true) (first : String) :
    ends finish (first ++ text) = true := by
  rw [ends, List.isSuffixOf_iff_suffix] at last ⊢
  rw [String.toList_append]
  exact last.trans (List.suffix_append _ _)

/-- Checks literal texts one by one on their characters. -/
theorem forall_mem_cons_chars (holds : List Char → Bool) {chars : List Char} {rest : List String}
    (first : holds chars = true) (others : ∀ text ∈ rest, holds text.toList = true) :
    ∀ text ∈ String.ofList chars :: rest, holds text.toList = true := by
  simpa [first] using others

def EndsIn (allowed : Char → Bool) (text : String) : Prop :=
  ∀ c ∈ text.toList.getLast?, allowed c = true

instance (allowed : Char → Bool) (text : String) : Decidable (EndsIn allowed text) :=
  decidable_of_iff (text.toList.getLast?.all allowed = true) (Option.all_eq_true _ _)

theorem EndsIn.append {allowed : Char → Bool} {first second : String}
    (before : EndsIn allowed first) (last : EndsIn allowed second) :
    EndsIn allowed (first ++ second) := by
  intro c isLast
  rw [String.toList_append, List.getLast?_append, Option.mem_def, Option.or_eq_some_iff] at isLast
  rcases isLast with isLast | ⟨-, isLast⟩
  · exact last c isLast
  · exact before c isLast

theorem EndsIn.behind {allowed : Char → Bool} {second : String} (last : EndsIn allowed second)
    (nonempty : second ≠ "") (first : String) : EndsIn allowed (first ++ second) := by
  intro c isLast
  have some : second.toList.getLast?.isSome = true := by simpa using nonempty
  rw [String.toList_append, List.getLast?_append, Option.or_of_isSome some] at isLast
  exact last c isLast

theorem ends_eq_false {allowed : Char → Bool} {finish text : String}
    (last : EndsIn allowed text) {c : Char} (finishes : finish.toList.getLast? = some c)
    (forbidden : allowed c = false) : ends finish text = false := by
  rw [← Bool.not_eq_true, ends, List.isSuffixOf_iff_suffix]
  rintro ⟨before, parts⟩
  have isLast : text.toList.getLast? = some c := by
    rw [← parts, List.getLast?_append, finishes, Option.some_or]
  simp [last c isLast] at forbidden

end CurlScript.Text
