import CurlScript.Text.Cut
import Mathlib.Data.List.Infix

/-!
What a cut leaves: the parts put together again, without the mark in the first one. The same of
joined texts.
-/

namespace CurlScript.Text

theorem mark_not_mem_cut (mark : Char) (text : List Char) : mark ∉ (cut mark text).1 := by
  fun_induction cut mark text with
  | case1 => simp
  | case2 rest => simp
  | case3 c rest different parts ih =>
      simpa [parts] using And.intro (Ne.symm different) ih

theorem cut_eq_none {mark : Char} {text : List Char} (found : (cut mark text).2 = none) :
    (cut mark text).1 = text := by
  fun_induction cut mark text with
  | case1 => rfl
  | case2 rest => simp at found
  | case3 c rest different parts ih => simpa using ih found

theorem cut_eq_some {mark : Char} {text after : List Char}
    (found : (cut mark text).2 = some after) : text = (cut mark text).1 ++ mark :: after := by
  fun_induction cut mark text with
  | case1 => simp at found
  | case2 rest => simpa using found
  | case3 c rest different parts ih => simpa using ih found

theorem cut_append {mark : Char} {before : List Char} (absent : mark ∉ before)
    (after : List Char) : cut mark (before ++ mark :: after) = (before, some after) := by
  induction before with
  | nil => simp [cut]
  | cons c rest ih =>
      simp only [List.mem_cons, not_or] at absent
      simp [cut, Ne.symm absent.1, ih absent.2]

theorem cut_of_not_mem {mark : Char} {text : List Char} (absent : mark ∉ text) :
    cut mark text = (text, none) := by
  induction text with
  | nil => rfl
  | cons c rest ih =>
      simp only [List.mem_cons, not_or] at absent
      simp [cut, Ne.symm absent.1, ih absent.2]

theorem mem_of_mem_cut {mark c : Char} {text : List Char} (member : c ∈ (cut mark text).1) :
    c ∈ text := by
  cases found : (cut mark text).2 with
  | none => rwa [cut_eq_none found] at member
  | some after =>
      rw [cut_eq_some found]
      exact List.mem_append_left _ member

theorem mem_of_mem_cut_rest {mark c : Char} {text after : List Char}
    (found : (cut mark text).2 = some after) (member : c ∈ after) : c ∈ text := by
  rw [cut_eq_some found]
  exact List.mem_append_right _ (List.mem_cons_of_mem _ member)

theorem mark_not_mem_pieces {mark : Char} {text piece : List Char}
    (member : piece ∈ pieces mark text) : mark ∉ piece := by
  fun_induction pieces mark text generalizing piece with
  | case1 => simp_all
  | case2 rest ih =>
      rcases List.mem_cons.mp member with empty | others
      · simp [empty]
      · exact ih others
  | case3 c rest different none ih =>
      rw [List.mem_singleton.mp member]
      simpa using Ne.symm different
  | case4 c rest different first others split ih =>
      rcases List.mem_cons.mp member with head | tail
      · have firstFree : mark ∉ first := ih (by simp [split])
        simpa [head] using And.intro (Ne.symm different) firstFree
      · exact ih (by simp [split, tail])

theorem mem_of_mem_pieces {mark c : Char} {text piece : List Char}
    (belongs : piece ∈ pieces mark text) (member : c ∈ piece) : c ∈ text := by
  fun_induction pieces mark text generalizing piece with
  | case1 => simp_all
  | case2 rest ih =>
      rcases List.mem_cons.mp belongs with empty | others
      · simp [empty] at member
      · exact List.mem_cons_of_mem _ (ih others member)
  | case3 d rest different none ih => simp_all
  | case4 d rest different first others split ih =>
      rcases List.mem_cons.mp belongs with head | tail
      · rw [head] at member
        rcases List.mem_cons.mp member with same | inFirst
        · simp [same]
        · have inRest : c ∈ rest := ih (by simp [split]) inFirst
          exact List.mem_cons_of_mem _ inRest
      · exact List.mem_cons_of_mem _ (ih (by simp [split, tail]) member)

theorem pieces_eq_singleton {mark : Char} {text : List Char} (absent : mark ∉ text) :
    pieces mark text = [text] := by
  induction text with
  | nil => rfl
  | cons c rest ih =>
      simp only [List.mem_cons, not_or] at absent
      simp [pieces, Ne.symm absent.1, ih absent.2]

theorem pieces_append_cons {mark : Char} {before : List Char} (absent : mark ∉ before)
    (after : List Char) : pieces mark (before ++ mark :: after) = before :: pieces mark after := by
  induction before with
  | nil => simp [pieces]
  | cons c rest ih =>
      simp only [List.mem_cons, not_or] at absent
      simp [pieces, Ne.symm absent.1, ih absent.2]

/-- Texts without the mark are the pieces of the text that they give with the mark between them. -/
theorem pieces_intercalate {mark : Char} {texts : List (List Char)} (nonempty : texts ≠ [])
    (absent : ∀ text ∈ texts, mark ∉ text) : pieces mark (List.intercalate [mark] texts) = texts := by
  induction texts with
  | nil => exact absurd rfl nonempty
  | cons text rest ih =>
      obtain ⟨first, others⟩ := List.forall_mem_cons.mp absent
      cases rest with
      | nil => rw [List.intercalate_singleton, pieces_eq_singleton first]
      | cons next more =>
          rw [List.intercalate_cons_cons, List.append_assoc, List.singleton_append,
            pieces_append_cons first, ih (by simp) others]

theorem joined_cons {separator text : String} {texts : List String} (more : texts ≠ []) :
    joined separator (text :: texts) = text ++ separator ++ joined separator texts := by
  cases texts with
  | nil => exact absurd rfl more
  | cons next rest => rfl

theorem pieces_ne_nil (mark : Char) (text : List Char) : pieces mark text ≠ [] := by
  fun_cases pieces mark text <;> simp

theorem joined_ofList_cons (separator : String) (c : Char) (piece : List Char)
    (texts : List String) :
    (joined separator (String.ofList (c :: piece) :: texts)).toList =
      c :: (joined separator (String.ofList piece :: texts)).toList := by
  cases texts <;> simp [joined, String.toList_append]

/-- The pieces of a text, joined by the mark, are the text. -/
theorem joined_pieces (mark : Char) (text : List Char) :
    (joined (String.singleton mark) ((pieces mark text).map String.ofList)).toList = text := by
  fun_induction pieces mark text with
  | case1 => rfl
  | case2 rest ih =>
      have more : (pieces mark rest).map String.ofList ≠ [] := by
        simpa using pieces_ne_nil mark rest
      rw [List.map_cons, joined_cons more, String.toList_append, String.toList_append, ih]
      simp
  | case3 c rest different none ih => exact absurd none (pieces_ne_nil mark rest)
  | case4 c rest different first others split ih =>
      rw [split] at ih
      rw [List.map_cons, joined_ofList_cons, ← List.map_cons, ih]

theorem after?_eq_some_iff {start text rest : List Char} :
    after? start text = some rest ↔ text = start ++ rest := by
  fun_induction after? start text <;> simp_all [eq_comm]

/-- A cut at a mark of several characters finds it wherever the text has it. -/
theorem isSome_cutAtText_iff {mark text : List Char} :
    (cutAtText mark text).2.isSome = true ↔ mark <:+: text := by
  fun_induction cutAtText mark text with
  | case1 =>
      rw [Option.isSome_iff_exists, List.infix_nil]
      simp [after?_eq_some_iff]
  | case2 c rest remainder found =>
      exact iff_of_true rfl ⟨[], remainder, (after?_eq_some_iff.mp found).symm⟩
  | case3 c rest notFound parts ih =>
      have notPrefix : ¬mark <+: c :: rest := by
        rintro ⟨more, same⟩
        rw [after?_eq_some_iff.mpr same.symm] at notFound
        cases notFound
      rw [List.infix_cons_iff, ← ih]
      simp [parts, notPrefix]

theorem joined_eq_intercalate (separator : String) (texts : List String) :
    joined separator texts = separator.intercalate texts := by
  fun_induction joined separator texts with
  | case1 => rfl
  | case2 text => rw [String.intercalate_singleton]
  | case3 text next rest ih => rw [String.intercalate_cons_cons, ih]

theorem infix_intercalate {separator text : List Char} {texts : List (List Char)}
    (member : text ∈ texts) : text <:+: List.intercalate separator texts := by
  induction texts with
  | nil => cases member
  | cons first rest ih =>
      cases rest with
      | nil =>
          obtain rfl := List.mem_singleton.mp member
          rw [List.intercalate_singleton]
      | cons next more =>
          rw [List.intercalate_cons_cons]
          rcases List.mem_cons.mp member with rfl | later
          · exact ⟨[], separator ++ List.intercalate separator (next :: more), by simp⟩
          · obtain ⟨before, after, same⟩ := ih later
            exact ⟨first ++ separator ++ before, after, by simp [← same]⟩

theorem mem_of_mem_intercalate {separator : List Char} {texts : List (List Char)} {c : Char}
    (member : c ∈ List.intercalate separator texts) :
    c ∈ separator ∨ ∃ text ∈ texts, c ∈ text := by
  induction texts with
  | nil => cases member
  | cons first rest ih =>
      cases rest with
      | nil =>
          rw [List.intercalate_singleton] at member
          exact .inr ⟨first, List.mem_singleton_self first, member⟩
      | cons next more =>
          rw [List.intercalate_cons_cons, List.mem_append, List.mem_append] at member
          rcases member with (inFirst | inSeparator) | later
          · exact .inr ⟨first, List.mem_cons_self, inFirst⟩
          · exact .inl inSeparator
          · rcases ih later with inSeparator | ⟨text, belongs, inText⟩
            · exact .inl inSeparator
            · exact .inr ⟨text, List.mem_cons_of_mem _ belongs, inText⟩

end CurlScript.Text
