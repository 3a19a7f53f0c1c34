import CurlScript.Script.Writer

/-!
Writing step by step gives the lines of the tree: a piece adds its lines at the depth where the
writer stands and leaves that depth as it was.
-/

namespace CurlScript.Script

namespace Writer

theorem run_append (writer : Writer) (steps more : List Step) :
    writer.run (steps ++ more) = (writer.run steps).run more :=
  List.foldl_append

def wrote (writer : Writer) (lines : List String) : Writer :=
  { writer with written := lines.reverse ++ writer.written }

theorem wrote_wrote (writer : Writer) (lines more : List String) :
    (writer.wrote lines).wrote more = writer.wrote (lines ++ more) := by
  simp [wrote]

theorem run_line (writer : Writer) (text : String) (steps : List Step) :
    writer.run (.line text :: steps) =
      (writer.wrote [indentedLine writer.depth text]).run steps :=
  rfl

theorem run_nested {writer : Writer} {steps : List Step} {lines : List String}
    (inner : ({ writer with depth := writer.depth + 1 } : Writer).run steps =
      ({ writer with depth := writer.depth + 1 } : Writer).wrote lines) :
    writer.run (.enter :: steps ++ [.leave]) = writer.wrote lines := by
  change ({ writer with depth := writer.depth + 1 } : Writer).run (steps ++ [.leave]) = _
  rw [run_append, inner]
  rfl

theorem run_lines (writer : Writer) (texts : List String) :
    writer.run (texts.map .line) = writer.wrote (texts.map (indentedLine writer.depth)) := by
  induction texts generalizing writer with
  | nil => rfl
  | cons text rest ih =>
      rw [List.map_cons, run_line, ih, wrote_wrote]
      rfl

theorem run_callSteps (writer : Writer) (head : String) (arguments : List String)
    (closer : String) :
    writer.run (callSteps head arguments closer) =
      writer.wrote ((Piece.call head arguments closer).lines writer.depth) := by
  have steps : callSteps head arguments closer =
      .line head ::
        ((.enter :: (withCommas arguments).map .line ++ [.leave]) ++ [.line closer]) := by
    simp [callSteps]
  rw [steps, run_line, run_append, run_nested (run_lines _ _), run_line, run, List.foldl_nil,
    wrote_wrote, wrote_wrote]
  rfl

mutual

theorem run_steps (writer : Writer) : (piece : Piece) →
    writer.run piece.steps = writer.wrote (piece.lines writer.depth)
  | .line text => rfl
  | .raw text => rfl
  | .call head arguments closer => run_callSteps writer head arguments closer
  | .block header body => by
    rw [Piece.steps, Piece.lines]
    have inner := run_nested (run_stepsOf
      { writer.wrote [indentedLine writer.depth header] with depth := writer.depth + 1 } body)
    rw [List.cons_append, List.cons_append, run_line]
    exact inner.trans (wrote_wrote writer [indentedLine writer.depth header] _)
  | .indented body => by
    rw [Piece.steps, Piece.lines]
    exact run_nested (run_stepsOf { writer with depth := writer.depth + 1 } body)

theorem run_stepsOf (writer : Writer) : (pieces : List Piece) →
    writer.run (Piece.stepsOf pieces) = writer.wrote (Piece.linesOf writer.depth pieces)
  | [] => rfl
  | piece :: rest => by
    rw [Piece.stepsOf, Piece.linesOf, run_append, run_steps writer piece,
      run_stepsOf (writer.wrote _) rest, wrote_wrote]
    rfl

end

end Writer

theorem write_eq_textOfLines (pieces : List Piece) :
    write pieces = textOfLines (Piece.linesOf 0 pieces) := by
  rw [write, Writer.run_stepsOf, Writer.text, Writer.wrote]
  simp

end CurlScript.Script
