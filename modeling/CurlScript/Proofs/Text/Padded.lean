import CurlScript.Proofs.Text.Blank
import CurlScript.Proofs.Text.Cut
import Mathlib.Data.List.Forall2

/-!
Texts with white space around them. Trimming takes it away, also from the first and the last piece
of a text.
-/

namespace CurlScript.Text

def Padded (text core : List Char) : Prop :=
  ∃ before after, (∀ c ∈ before, isBlank c = true) ∧ (∀ c ∈ after, isBlank c = true) ∧
    text = before ++ core ++ after

theorem Padded.refl (text : List Char) : Padded text text :=
  ⟨[], [], by simp, by simp, by simp⟩

theorem padded_trim (text : List Char) : Padded text (trim text) := by
  refine ⟨text.takeWhile isBlank, (text.dropWhile isBlank).rtakeWhile isBlank,
    fun c => List.mem_takeWhile_imp, fun c => List.mem_rtakeWhile_imp, ?_⟩
  rw [trim_eq_rdropWhile, List.append_assoc, List.rdropWhile_append_rtakeWhile,
    List.takeWhile_append_dropWhile]

theorem trim_append_blanks {blanks : List Char} (blank : ∀ c ∈ blanks, isBlank c = true)
    (text : List Char) : trim (text ++ blanks) = trim text := by
  have dropped : (blanks.reverse).dropWhile isBlank = [] :=
    List.dropWhile_eq_nil_iff.mpr fun c member => blank c (List.mem_reverse.mp member)
  rw [trim_eq_rdropWhile, trim_eq_rdropWhile, List.dropWhile_append]
  by_cases empty : (text.dropWhile isBlank).isEmpty = true
  · rw [if_pos empty, List.isEmpty_iff.mp empty, List.dropWhile_eq_nil_iff.mpr blank]
  · rw [if_neg empty, List.rdropWhile, List.rdropWhile, List.reverse_append, List.dropWhile_append,
      dropped]
    rfl

theorem Padded.trim_eq {text core : List Char} (padded : Padded text core) :
    trim text = trim core := by
  obtain ⟨before, after, blankBefore, blankAfter, rfl⟩ := padded
  rw [trim_append_blanks blankAfter, trim_eq_rdropWhile, List.dropWhile_append_of_pos blankBefore]
  rfl

theorem Padded.mem {text core : List Char} (padded : Padded text core) {c : Char}
    (notBlank : isBlank c = false) (member : c ∈ text) : c ∈ core := by
  obtain ⟨before, after, blankBefore, blankAfter, rfl⟩ := padded
  rcases List.mem_append.mp member with inFront | behind
  · rcases List.mem_append.mp inFront with blank | inside
    · simp [blankBefore c blank] at notBlank
    · exact inside
  · simp [blankAfter c behind] at notBlank

theorem pieces_append_left {mark : Char} {before : List Char} (absent : mark ∉ before)
    (text : List Char) :
    pieces mark (before ++ text) = (pieces mark text).modifyHead (before ++ ·) := by
  obtain ⟨first, others, split⟩ := List.exists_cons_of_ne_nil (pieces_ne_nil mark text)
  induction before with
  | nil => simp [split]
  | cons c rest ih =>
      simp only [List.mem_cons, not_or] at absent
      have joined : pieces mark (rest ++ text) = (rest ++ first) :: others := by
        rw [ih absent.2, split, List.modifyHead_cons]
      simp [pieces, Ne.symm absent.1, joined, split]

/-- What is put behind a text without a mark in it goes to the last piece. -/
theorem pieces_append_right {mark : Char} {after : List Char} (absent : mark ∉ after)
    (text : List Char) :
    ∃ others last, pieces mark text = others ++ [last] ∧
      pieces mark (text ++ after) = others ++ [last ++ after] := by
  induction text with
  | nil => exact ⟨[], [], rfl, pieces_eq_singleton absent⟩
  | cons c rest ih =>
      obtain ⟨others, last, split, extended⟩ := ih
      by_cases isMark : c = mark
      · exact ⟨[] :: others, last, by simp [pieces, isMark, split],
          by simp [pieces, isMark, extended]⟩
      · cases others with
        | nil => exact ⟨[], c :: last, by simp_all [pieces], by simp_all [pieces]⟩
        | cons first more =>
            exact ⟨(c :: first) :: more, last, by simp_all [pieces], by simp_all [pieces]⟩

/-- Trimming a text trims its pieces, if anything. -/
theorem padded_pieces_trim {mark : Char} (notBlank : isBlank mark = false) (text : List Char) :
    List.Forall₂ Padded (pieces mark text) (pieces mark (trim text)) := by
  obtain ⟨before, after, blankBefore, blankAfter, parts⟩ := padded_trim text
  have absent : ∀ {blanks : List Char}, (∀ c ∈ blanks, isBlank c = true) → mark ∉ blanks := by
    intro blanks blank member
    simp [blank mark member] at notBlank
  obtain ⟨others, last, split, extended⟩ := pieces_append_right (absent blankAfter) (trim text)
  have start : ∀ piece, Padded (before ++ piece) piece := fun piece =>
    ⟨before, [], blankBefore, by simp, by simp⟩
  have same : List.Forall₂ Padded others others := List.forall₂_same.mpr fun piece _ => .refl piece
  rw [split]
  conv in pieces mark text => rw [parts, List.append_assoc, pieces_append_left (absent blankBefore),
    extended]
  cases others with
  | nil =>
      refine .cons ⟨before, after, blankBefore, blankAfter, ?_⟩ .nil
      rw [List.append_assoc]
  | cons first more =>
      obtain ⟨-, rest⟩ := List.forall₂_cons.mp same
      refine .cons (start first) (List.rel_append rest (.cons ?_ .nil))
      exact ⟨[], after, by simp, blankAfter, rfl⟩

end CurlScript.Text
