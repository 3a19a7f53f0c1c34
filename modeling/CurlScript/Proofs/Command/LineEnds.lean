import CurlScript.Proofs.Command.Normal
import CurlScript.Proofs.Text.Lines

/-!
Commands over several lines: their normal form does not depend on the kind of their line ends, but
for a carriage return behind a backslash, which ends a line only before a line feed.
-/

namespace CurlScript.Command

open Text

def PairedReturns (text : List Char) : Prop :=
  ∀ rest, '\\' :: '\r' :: rest <:+ text → rest.head? = some '\n'

theorem PairedReturns.tail {c : Char} {text : List Char} (paired : PairedReturns (c :: text)) :
    PairedReturns text :=
  fun rest suffix => paired rest (suffix.trans (List.suffix_cons c text))

theorem joinLines_cons {c : Char} {text : List Char} (other : c ≠ '\\') :
    joinLines (c :: text) = c :: joinLines text := by
  rw [joinLines.eq_3]
  · exact fun _ same => absurd same other
  · exact fun _ same => absurd same other

theorem joinLines_backslash {text : List Char} (noFeed : text.head? ≠ some '\n')
    (noReturn : text.head? ≠ some '\r') : joinLines ('\\' :: text) = '\\' :: joinLines text := by
  rw [joinLines.eq_3]
  · rintro rest - rfl
    exact noFeed rfl
  · rintro rest - rfl
    exact noReturn rfl

theorem collapseFrom_blank {c d : Char} (blankFirst : isBlank c = true)
    (blankSecond : isBlank d = true) {text other : List Char}
    (same : collapseFrom true text = collapseFrom true other) (inRun : Bool) :
    collapseFrom inRun (c :: text) = collapseFrom inRun (d :: other) := by
  simp [collapseFrom, blankFirst, blankSecond, same]

theorem collapseFrom_cons {text other : List Char}
    (same : ∀ inRun, collapseFrom inRun text = collapseFrom inRun other) (c : Char)
    (inRun : Bool) : collapseFrom inRun (c :: text) = collapseFrom inRun (c :: other) := by
  simp [collapseFrom, same]

theorem collapseFrom_unifyLines {text : List Char} (paired : PairedReturns text) (inRun : Bool) :
    collapseFrom inRun (joinLines (unifyLines text)) = collapseFrom inRun (joinLines text) := by
  fun_induction joinLines text generalizing inRun with
  | case1 rest ih =>
      rw [unifyLines_cons (by decide), unifyLines_cons (by decide), joinLines.eq_1]
      exact collapseFrom_cons (ih paired.tail.tail) ' ' inRun
  | case2 rest ih =>
      rw [unifyLines_cons (by decide), unifyLines.eq_2, joinLines.eq_1]
      exact collapseFrom_cons (ih paired.tail.tail.tail) ' ' inRun
  | case3 c rest notFeed notReturn ih =>
      by_cases isReturn : c = '\r'
      · subst isReturn
        by_cases pair : rest.head? = some '\n'
        · obtain ⟨more, rfl⟩ := List.head?_eq_some_iff.mp pair
          have joined : joinLines ('\n' :: more) = '\n' :: joinLines more :=
            joinLines_cons (by decide)
          have unified : unifyLines ('\n' :: more) = unifyLines ('\r' :: '\n' :: more) := by
            rw [unifyLines_cons (by decide), unifyLines.eq_2]
          rw [← unified, ih paired.tail inRun, joined]
          -- The line feed behind the carriage return is part of its run.
          cases inRun <;> rfl
        · rw [unifyLines_return pair, joinLines_cons (by decide)]
          exact collapseFrom_blank (by decide) (by decide) (ih paired.tail true) inRun
      · rw [unifyLines_cons isReturn]
        by_cases isBackslash : c = '\\'
        · subst isBackslash
          have noFeed : rest.head? ≠ some '\n' := by
            intro found
            obtain ⟨more, rfl⟩ := List.head?_eq_some_iff.mp found
            exact notFeed more rfl rfl
          have noReturn : rest.head? ≠ some '\r' := by
            intro found
            obtain ⟨more, rfl⟩ := List.head?_eq_some_iff.mp found
            obtain ⟨last, rfl⟩ := List.head?_eq_some_iff.mp (paired more List.suffix_rfl)
            exact notReturn last rfl rfl
          have unified : (unifyLines rest).head? ≠ some '\r' := by
            intro found
            exact carriageReturn_not_mem_unifyLines rest (List.mem_of_head? found)
          rw [joinLines_backslash (head?_unifyLines_feed noFeed noReturn) unified]
          exact collapseFrom_cons (ih paired.tail) '\\' inRun
        · rw [joinLines_cons isBackslash]
          exact collapseFrom_cons (ih paired.tail) c inRun
  | case4 => rfl

theorem normalize_withUnixLines {text : String} (paired : PairedReturns text.toList) :
    normalize (withUnixLines text) = normalize text := by
  simp only [normalize, withUnixLines, normalForm, collapse, String.toList_ofList,
    collapseFrom_unifyLines paired false]

end CurlScript.Command
