import CurlScript.Proofs.Text.Blank
import CurlScript.Text.LetterCase

/-!
Letter case and white space: the upper case of a text is as empty as the text and brings no white
space into it, and a text whose lower case begins with a word begins with that word.
-/

namespace CurlScript.Text

theorem upperExpansions_ne_nil : ∀ expansion ∈ upperExpansions, expansion.2 ≠ [] := by decide

theorem upperExpansions_notBlank :
    ∀ expansion ∈ upperExpansions, ∀ point ∈ expansion.2, isBlank (Char.ofNat point) = false := by
  decide

def CaseRun.avoidsBlanks (run : CaseRun) : Bool :=
  0 ≤ (run.first : Int) + run.offset && blankRanges.all fun range =>
    (run.last : Int) + run.offset < range.1 || (range.2 : Int) < run.first + run.offset

theorem upperRuns_avoidBlanks : ∀ run ∈ upperRuns, run.avoidsBlanks = true := by decide +kernel

theorem inRanges_of_isBlank_ofNat {point : Nat} (blank : isBlank (Char.ofNat point) = true) :
    inRanges blankRanges point = true := by
  by_cases valid : point.isValidChar
  · have same : (Char.ofNat point).toNat = point := by
      rw [Char.ofNat, dif_pos valid]
      rfl
    rwa [isBlank, same] at blank
  · rw [Char.ofNat, dif_neg valid] at blank
    exact absurd blank (by decide)

theorem CaseRun.upperOf_notBlank {run : CaseRun} (avoids : run.avoidsBlanks = true) {point : Nat}
    (contained : run.contains point = true) : isBlank (run.upperOf point) = false := by
  by_contra blank
  rw [Bool.not_eq_false] at blank
  have inside := inRanges_of_isBlank_ofNat blank
  obtain ⟨range, belongs, within⟩ := List.any_eq_true.mp inside
  rw [CaseRun.avoidsBlanks, Bool.and_eq_true, decide_eq_true_eq] at avoids
  have positive := avoids.1
  have apart := List.all_eq_true.mp avoids.2 range belongs
  simp only [CaseRun.contains, Bool.and_eq_true, decide_eq_true_eq] at contained
  simp only [Bool.or_eq_true, Bool.and_eq_true, decide_eq_true_eq] at within apart
  omega

theorem toUpper_notBlank :
    ∀ point < 128, isBlank (Char.ofNat point) = false →
      isBlank (Char.ofNat point).toUpper = false := by
  decide

theorem upperChar_ne_nil (c : Char) : upperChar c ≠ [] := by
  unfold upperChar
  split
  · simp
  · split
    · rename_i expansion found
      simpa using upperExpansions_ne_nil expansion (List.mem_of_find?_eq_some found)
    · split <;> simp

theorem upperChar_notBlank {c d : Char} (notBlank : isBlank c = false) (member : d ∈ upperChar c) :
    isBlank d = false := by
  unfold upperChar at member
  split at member
  · rename_i ascii
    rw [List.mem_singleton.mp member]
    have upper := toUpper_notBlank c.toNat ascii
    rw [Char.ofNat_toNat] at upper
    exact upper notBlank
  · split at member
    · rename_i expansion found
      obtain ⟨point, belongs, rfl⟩ := List.mem_map.mp member
      exact upperExpansions_notBlank expansion (List.mem_of_find?_eq_some found) point belongs
    · split at member
      · rename_i run found
        have contained := List.find?_some found
        rw [List.mem_singleton.mp member]
        exact CaseRun.upperOf_notBlank
          (upperRuns_avoidBlanks run (List.mem_of_find?_eq_some found)) contained
      · rwa [List.mem_singleton.mp member]

theorem upper_ne_empty {text : String} (nonempty : text ≠ "") : upper text ≠ "" := by
  intro empty
  have noChars : text.toList.flatMap upperChar = [] := by
    simpa [upper] using congrArg String.toList empty
  cases split : text.toList with
  | nil => exact nonempty (String.toList_eq_nil_iff.mp split)
  | cons c rest =>
      rw [split, List.flatMap_cons, List.append_eq_nil_iff] at noChars
      exact upperChar_ne_nil c noChars.1

theorem OnlySpaces.upper {text : String} (onlySpaces : OnlySpaces text.toList) :
    OnlySpaces (upper text).toList := by
  intro d member blank
  simp only [Text.upper, String.toList_ofList, List.mem_flatMap] at member
  obtain ⟨c, belongs, inUpper⟩ := member
  by_cases isSpace : c = ' '
  · have kept : upperChar ' ' = [' '] := by decide
    rw [isSpace, kept] at inUpper
    exact List.mem_singleton.mp inUpper
  · have notBlank : isBlank c = false := by
      by_contra isBlankChar
      exact isSpace (onlySpaces c belongs (by simpa using isBlankChar))
    rw [upperChar_notBlank notBlank inUpper] at blank
    simp at blank

theorem not_mem_of_lower {c : Char} (fixed : lowerChar c = [c]) {text : List Char}
    (absent : c ∉ lower text) : c ∉ text := by
  intro member
  exact absent (List.mem_flatMap.mpr ⟨c, member, by simp [fixed]⟩)

end CurlScript.Text
