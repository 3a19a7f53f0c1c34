import CurlScript.Text.Lines
import Mathlib.Data.List.Basic

/-!
Line ends: unifying them goes through a text from left to right, and only a carriage return looks
at the character after it.
-/

namespace CurlScript.Text

theorem unifyLines_cons {c : Char} (notReturn : c ≠ '\r') (text : List Char) :
    unifyLines (c :: text) = c :: unifyLines text := by
  rw [unifyLines.eq_3]
  · simp [notReturn]
  · intro rest same
    exact absurd same notReturn

theorem unifyLines_eq_self {text : List Char} (noReturn : '\r' ∉ text) :
    unifyLines text = text := by
  induction text with
  | nil => rfl
  | cons c rest ih =>
      simp only [List.mem_cons, not_or] at noReturn
      rw [unifyLines_cons (Ne.symm noReturn.1), ih noReturn.2]

/-- A text that does not begin with a line feed can be taken apart from the text before it. -/
theorem unifyLines_append {text : List Char} (first : text.head? ≠ some '\n')
    (before : List Char) : unifyLines (before ++ text) = unifyLines before ++ unifyLines text := by
  fun_induction unifyLines before with
  | case1 => rfl
  | case2 rest ih => simp [unifyLines, ih]
  | case3 c rest noPair ih =>
      by_cases isReturn : c = '\r'
      · -- The carriage return stands by itself, also when it is the last character.
        rw [List.cons_append, unifyLines.eq_3, ih]
        · rfl
        · intro others _ start
          cases rest with
          | nil => simp_all
          | cons d more => exact noPair more isReturn (by simp_all)
      · rw [List.cons_append, unifyLines_cons isReturn, ih]
        simp [isReturn]

theorem head?_unifyLines {c : Char} (notBreak : c ≠ '\n') {text : List Char}
    (first : text.head? ≠ some c) : (unifyLines text).head? ≠ some c := by
  fun_induction unifyLines text with
  | case1 => simp
  | case2 rest ih => simpa using notBreak.symm
  | case3 d rest noPair ih =>
      by_cases isReturn : d = '\r'
      · simpa [isReturn] using notBreak.symm
      · simpa [isReturn] using first

/-- A carriage return that stands by itself is a line end. -/
theorem unifyLines_return {text : List Char} (single : text.head? ≠ some '\n') :
    unifyLines ('\r' :: text) = '\n' :: unifyLines text := by
  rw [unifyLines.eq_3]
  · rfl
  · rintro rest - rfl
    exact single rfl

/-- Only a line end becomes a line feed. -/
theorem head?_unifyLines_feed {text : List Char} (noFeed : text.head? ≠ some '\n')
    (noReturn : text.head? ≠ some '\r') : (unifyLines text).head? ≠ some '\n' := by
  cases text with
  | nil => simp [unifyLines]
  | cons c rest =>
      have notReturn : c ≠ '\r' := fun same => noReturn (congrArg some same)
      rw [unifyLines_cons notReturn]
      exact noFeed

def pairLines (text : List Char) : List Char :=
  text.flatMap fun c => if c = '\n' then ['\r', '\n'] else [c]

theorem pairLines_cons {c : Char} (notFeed : c ≠ '\n') (text : List Char) :
    pairLines (c :: text) = c :: pairLines text := by
  simp [pairLines, notFeed]

theorem unifyLines_pairLines {text : List Char} (noReturn : '\r' ∉ text) :
    unifyLines (pairLines text) = text := by
  induction text with
  | nil => rfl
  | cons c rest ih =>
      simp only [List.mem_cons, not_or] at noReturn
      by_cases isFeed : c = '\n'
      · subst isFeed
        exact congrArg _ (ih noReturn.2)
      · rw [pairLines_cons isFeed, unifyLines_cons (Ne.symm noReturn.1), ih noReturn.2]

theorem all_unifyLines {holds : Char → Bool} (onFeed : holds '\n' = true)
    (onReturn : holds '\r' = true) (text : List Char) :
    (unifyLines text).all holds = text.all holds := by
  fun_induction unifyLines text with
  | case1 => rfl
  | case2 rest ih => simp [onFeed, onReturn, ih]
  | case3 c rest _ ih =>
      by_cases isReturn : c = '\r'
      · simp [isReturn, onFeed, onReturn, ih]
      · simp [isReturn, ih]

theorem dropFinalBreak_append {text : List Char} (last : text.getLast? ≠ some '\r') :
    dropFinalBreak (text ++ ['\n']) = text := by
  fun_induction dropFinalBreak text with
  | case1 => rfl
  | case2 => rfl
  | case3 => simp at last
  | case4 rest ih =>
      have restLast : rest.getLast? ≠ some '\r' := fun found =>
        last (List.mem_getLast?_cons (List.mem_getLast?_cons found))
      simp [dropFinalBreak, ih restLast]
  | case5 c rest notBreak notReturn noPair ih =>
      have restLast : rest.getLast? ≠ some '\r' := fun found =>
        last (List.mem_getLast?_cons found)
      rw [List.cons_append, dropFinalBreak.eq_5, ih restLast]
      · simp
      · simp
      · intro others isReturn start
        cases rest with
        | nil => exact notReturn isReturn rfl
        | cons d more => exact noPair more isReturn (by simp_all)

end CurlScript.Text
