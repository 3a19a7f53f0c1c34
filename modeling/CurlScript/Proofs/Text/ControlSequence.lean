import CurlScript.Text.ControlSequence

/-!
Texts without an escape hold no control sequence: they are printed as they are.
-/

namespace CurlScript.Text

theorem sequenceLength_of_no_escape {text : List Char} (plain : '\x1b' ∉ text) :
    sequenceLength text = 0 := by
  unfold sequenceLength
  split
  · simp at plain
  · rfl

theorem dropSequences_of_no_escape {text : List Char} (plain : '\x1b' ∉ text) :
    dropSequences text = text := by
  unfold dropSequences
  induction text with
  | nil => rfl
  | cons c rest ih =>
      have none := sequenceLength_of_no_escape plain
      rw [List.mem_cons, not_or] at plain
      simp [dropSequencesFrom, none, ih plain.2]

end CurlScript.Text
