import CurlScript.Command
import CurlScript.Proofs.Text.Blank

/-!
Normal forms of command texts: the space is their only white space, and a text that is in normal
form already is not changed.
-/

namespace CurlScript.Command

open Text

theorem joinLines_eq_self {text : List Char} (noBreak : '\n' ∉ text) : joinLines text = text := by
  fun_induction joinLines text with
  | case1 rest ih => simp at noBreak
  | case2 rest ih => simp at noBreak
  | case3 c rest notBreak notReturn ih =>
      simp only [List.mem_cons, not_or] at noBreak
      rw [ih noBreak.2]
  | case4 => rfl

theorem normalForm_onlySpaces (raw : List Char) : OnlySpaces (normalForm raw) :=
  fun c member => collapseFrom_onlySpaces false (joinLines raw) c (mem_of_mem_trim member)

theorem normalize_onlySpaces (raw : String) : OnlySpaces (normalize raw).toList := by
  simpa [normalize] using normalForm_onlySpaces raw.toList

theorem normalForm_eq_self {text : List Char} (onlySpaces : OnlySpaces text)
    (singleSpaces : SingleSpaces text) (first : text.head? ≠ some ' ')
    (last : text.getLast? ≠ some ' ') : normalForm text = text := by
  have noBreak : '\n' ∉ text := by
    intro member
    exact absurd (onlySpaces '\n' member (by decide)) (by decide)
  have notBlank : ∀ c ∈ text, c ≠ ' ' → isBlank c = false := by
    intro c member different
    by_contra blank
    exact different (onlySpaces c member (by simpa using blank))
  rw [normalForm, joinLines_eq_self noBreak, collapse_eq_self onlySpaces singleSpaces]
  apply trim_eq_self
  · intro c found
    refine notBlank c (List.mem_of_head? found) ?_
    rintro rfl
    exact first found
  · intro c found
    refine notBlank c (List.mem_of_getLast? found) ?_
    rintro rfl
    exact last found

end CurlScript.Command
