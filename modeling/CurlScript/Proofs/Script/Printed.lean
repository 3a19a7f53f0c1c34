import CurlScript.Proofs.Literal.Lines
import CurlScript.Proofs.Script.Line
import CurlScript.Proofs.Text.Cut

/-!
Trees printed by recursion, each part at a depth of its own. The writer, which carries one depth
along and changes it step by step, writes the same text.
-/

namespace CurlScript.Script

def printedLine (depth : Nat) (text : String) : String :=
  if text = "" then "" else String.ofList (List.replicate (4 * depth) ' ') ++ text

mutual

def Piece.printed (depth : Nat) : Piece → List String
  | .line text => [printedLine depth text]
  | .raw text => [text]
  | .call head arguments closer =>
    printedLine depth head ::
      ((arguments.dropLast.map (· ++ ",") ++ arguments.getLast?.toList).map
        (printedLine (depth + 1)) ++ [printedLine depth closer])
  | .block header body => printedLine depth header :: Piece.printedOf (depth + 1) body
  | .indented body => Piece.printedOf (depth + 1) body

def Piece.printedOf (depth : Nat) : List Piece → List String
  | [] => []
  | piece :: rest => piece.printed depth ++ Piece.printedOf depth rest

end

theorem indentedLine_eq_printedLine (depth : Nat) (text : String) :
    indentedLine depth text = printedLine depth text := by
  have spaces : Literal.indentation depth = String.ofList (List.replicate (4 * depth) ' ') := by
    rw [← Literal.toList_indentation, String.ofList_toList]
  by_cases empty : text = ""
  · subst empty
    rfl
  · simp [indentedLine, printedLine, empty, spaces]

mutual

theorem lines_eq_printed (depth : Nat) : (piece : Piece) →
    piece.lines depth = piece.printed depth
  | .line text => by
    rw [Piece.lines, Piece.printed, indentedLine_eq_printedLine]
  | .raw text => rfl
  | .call head arguments closer => by
    have each : indentedLine (depth + 1) = printedLine (depth + 1) :=
      funext (indentedLine_eq_printedLine (depth + 1))
    rw [Piece.lines, Piece.printed, withCommas_eq, each, indentedLine_eq_printedLine,
      indentedLine_eq_printedLine, List.cons_append]
  | .block header body => by
    rw [Piece.lines, Piece.printed, indentedLine_eq_printedLine, linesOf_eq_printedOf]
  | .indented body => by
    rw [Piece.lines, Piece.printed, linesOf_eq_printedOf]

theorem linesOf_eq_printedOf (depth : Nat) : (pieces : List Piece) →
    Piece.linesOf depth pieces = Piece.printedOf depth pieces
  | [] => rfl
  | piece :: rest => by
    rw [Piece.linesOf, Piece.printedOf, lines_eq_printed, linesOf_eq_printedOf]

end

/-- Writing a tree gives the text that printing it gives. From any state, a tree adds its printed
lines at the depth of the writer, and leaves this depth as it was. -/
theorem write_eq_printed (pieces : List Piece) :
    write pieces = "\n".intercalate (Piece.printedOf 0 pieces) ++ "\n" ∧
      ∀ writer : Writer, writer.run (Piece.stepsOf pieces) =
        ⟨(Piece.printedOf writer.depth pieces).reverse ++ writer.written, writer.depth⟩ := by
  constructor
  · rw [write_eq_textOfLines, textOfLines, Text.joined_eq_intercalate, linesOf_eq_printedOf]
  · intro writer
    rw [Writer.run_stepsOf, Writer.wrote, linesOf_eq_printedOf]

end CurlScript.Script
