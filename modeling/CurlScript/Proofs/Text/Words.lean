import CurlScript.Proofs.Text.Blank

/-!
The words of a text. They stay the same when its white space is collapsed and trimmed.
-/

namespace CurlScript.Text

def words (text : List Char) : List (List Char) :=
  (text.splitOnP isBlank).filter (!·.isEmpty)

def solid (text : List Char) : List Char :=
  text.filter (!isBlank ·)

theorem words_append {c : Char} (blank : isBlank c = true) (before after : List Char) :
    words (before ++ c :: after) = words before ++ words after := by
  rw [words, List.splitOnP_append_cons before after blank, List.filter_append]
  rfl

theorem words_blank {c : Char} (blank : isBlank c = true) (text : List Char) :
    words (c :: text) = words text :=
  words_append blank [] text

theorem words_append_blanks {blanks : List Char} (blank : ∀ c ∈ blanks, isBlank c = true)
    (text : List Char) : words (text ++ blanks) = words text := by
  induction blanks generalizing text with
  | nil => rw [List.append_nil]
  | cons c rest ih =>
      obtain ⟨first, others⟩ := List.forall_mem_cons.mp blank
      have nothing : words rest = [] := ih others []
      rw [words_append first, nothing, List.append_nil]

def SameWords (text other : List Char) : Prop :=
  ∀ before, words (before ++ text) = words (before ++ other)

theorem SameWords.cons {text other : List Char} (same : SameWords text other) (c : Char) :
    SameWords (c :: text) (c :: other) := by
  intro before
  simpa using same (before ++ [c])

theorem SameWords.blank {text other : List Char} (same : words text = words other) {c d : Char}
    (blankFirst : isBlank c = true) (blankSecond : isBlank d = true) :
    SameWords (c :: text) (d :: other) := by
  intro before
  rw [words_append blankFirst, words_append blankSecond, same]

theorem words_collapse (text : List Char) : words (collapse text) = words text := by
  have general : ∀ inRun before, (inRun = true → before = []) →
      words (before ++ collapseFrom inRun text) = words (before ++ text) := by
    intro inRun
    fun_induction collapseFrom inRun text with
    | case1 => exact fun _ _ => rfl
    | case2 c rest blank ih =>
        intro before start
        obtain rfl := start rfl
        exact (ih [] fun _ => rfl).trans (words_blank blank rest).symm
    | case3 inRun c rest blank notInRun ih =>
        intro before _
        exact SameWords.blank (ih [] fun _ => rfl) (by decide) blank before
    | case4 inRun c rest notBlank ih =>
        intro before _
        simpa using ih (before ++ [c]) (by simp)
  exact general false [] fun _ => rfl

theorem words_dropWhile (text : List Char) : words (text.dropWhile isBlank) = words text := by
  induction text with
  | nil => rfl
  | cons c rest ih =>
      by_cases blank : isBlank c = true
      · rw [List.dropWhile_cons_of_pos blank, ih, words_blank blank]
      · rw [List.dropWhile_cons_of_neg blank]

theorem words_trim (text : List Char) : words (trim text) = words text := by
  have blanks := fun c => List.mem_rtakeWhile_imp (p := isBlank) (l := text.dropWhile isBlank) (x := c)
  have parts := List.rdropWhile_append_rtakeWhile (p := isBlank) (l := text.dropWhile isBlank)
  rw [trim_eq_rdropWhile, ← words_append_blanks blanks, parts, words_dropWhile]

/-- The words of a text have all its characters that are no white space. -/
theorem flatten_words (text : List Char) : (words text).flatten = solid text := by
  rw [words, solid, List.flatten_filter_not_isEmpty]
  induction text with
  | nil => rfl
  | cons c rest ih =>
      obtain ⟨first, others, split⟩ := List.exists_cons_of_ne_nil (List.splitOnP_ne_nil isBlank rest)
      rw [List.splitOnP_cons_eq_if_modifyHead]
      by_cases blank : isBlank c = true
      · simpa [blank] using ih
      · rw [split] at ih ⊢
        simpa [blank] using ih

end CurlScript.Text
