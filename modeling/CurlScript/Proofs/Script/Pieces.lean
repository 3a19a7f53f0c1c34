import CurlScript.Proofs.Script.CodeText
import CurlScript.Script.Piece

/-!
Pieces as code: when the texts of a tree are code, so are its lines, at whatever depth they stand.
-/

namespace CurlScript.Script

open Text

def precededLines (lines : List String) : List Char :=
  lines.flatMap fun line => '\n' :: line.toList

theorem precededLines_append (lines more : List String) :
    precededLines (lines ++ more) = precededLines lines ++ precededLines more :=
  List.flatMap_append

variable {before middle after opened : List Char} {lines more : List String} {text : String}
  {found others : List StringLiteral}

namespace Code

theorem append_lines (first : Code before (precededLines lines) found middle)
    (second : Code middle (precededLines more) others after) :
    Code before (precededLines (lines ++ more)) (found ++ others) after := by
  rw [precededLines_append]
  apply first.append second
  intro mark _ isQuote next
  cases more with
  | nil => simp [precededLines] at next
  | cons line rest =>
      obtain rfl : '\n' = mark := by simpa [precededLines] using next
      simp at isQuote

theorem single_line (code : Code before text.toList found after) :
    Code before (precededLines [text]) found after := by
  have line := Code.plain (c := '\n') (by decide) code
  simpa [precededLines] using line

theorem indented (code : Code before text.toList found after) (depth : Nat) :
    Code before (indentedLine depth text).toList found after := by
  unfold indentedLine
  split
  · rename_i isEmpty
    have noText : text = "" := by simpa using isEmpty
    rwa [noText] at code
  · exact (Code.ofPlain (isPlainText_indentation depth)).after_text code

theorem cons_line (first : Code before text.toList found middle) (depth : Nat)
    (rest : Code middle (precededLines lines) others after) :
    Code before (precededLines (indentedLine depth text :: lines)) (found ++ others) after :=
  (first.indented depth).single_line.append_lines rest

end Code

theorem CodeEach.withCommas {arguments : List String} (each : CodeEach opened arguments found)
    (depth : Nat) :
    Code opened (precededLines ((withCommas arguments).map (indentedLine depth))) found opened := by
  induction each with
  | nil => exact .nil
  | @cons argument arguments found others code rest ih =>
      cases rest with
      | nil =>
          rw [List.append_nil]
          exact (code.indented depth).single_line
      | cons =>
          have comma : Code opened (argument ++ ",").toList found opened :=
            code.before_text (.ofPlain (by decide))
          exact comma.cons_line depth ih

def CodePieces (pieces : List Piece) (found : List StringLiteral) : Prop :=
  ∀ depth, Code [] (precededLines (Piece.linesOf depth pieces)) found []

theorem linesOf_append (depth : Nat) (pieces more : List Piece) :
    Piece.linesOf depth (pieces ++ more) =
      Piece.linesOf depth pieces ++ Piece.linesOf depth more := by
  induction pieces with
  | nil => rfl
  | cons piece rest ih => rw [List.cons_append, Piece.linesOf, Piece.linesOf, ih, List.append_assoc]

namespace CodePieces

variable {pieces others : List Piece} {quoted : List StringLiteral}

theorem nil : CodePieces [] [] :=
  fun _ => .nil

theorem append (first : CodePieces pieces found) (second : CodePieces others quoted) :
    CodePieces (pieces ++ others) (found ++ quoted) := by
  intro depth
  rw [linesOf_append]
  exact (first depth).append_lines (second depth)

theorem line (code : Code [] text.toList found []) : CodePieces [.line text] found :=
  fun depth => (code.indented depth).single_line

theorem raw (code : Code [] text.toList found []) : CodePieces [.raw text] found :=
  fun _ => code.single_line

theorem call {head closer : String} {arguments : List String} {bracket : Char}
    (opens : Code [] head.toList [] [bracket]) (each : CodeEach [bracket] arguments found)
    (closes : Code [bracket] closer.toList [] []) :
    CodePieces [.call head arguments closer] found := by
  intro depth
  have inner := (each.withCommas (depth + 1)).append_lines (closes.indented depth).single_line
  have whole := opens.cons_line depth inner
  simpa [Piece.linesOf, Piece.lines] using whole

theorem block {header : String} (opens : Code [] header.toList found [])
    (body : CodePieces pieces quoted) :
    CodePieces [.block header pieces] (found ++ quoted) := by
  intro depth
  have whole := opens.cons_line depth (body (depth + 1))
  simpa [Piece.linesOf, Piece.lines] using whole

theorem indented (body : CodePieces pieces found) : CodePieces [.indented pieces] found := by
  intro depth
  simpa [Piece.linesOf, Piece.lines] using body (depth + 1)

theorem joined (code : CodePieces pieces found) :
    Code [] ('\n' :: (Text.joined "\n" (Piece.linesOf 0 pieces)).toList) found [] := by
  have joinedLines : ∀ (line : String) (rest : List String),
      '\n' :: (Text.joined "\n" (line :: rest)).toList = precededLines (line :: rest) := by
    intro line rest
    induction rest generalizing line with
    | nil => simp [Text.joined, precededLines]
    | cons next others ih =>
        rw [Text.joined, String.toList_append, String.toList_append]
        have tail := ih next
        simp only [precededLines, List.flatMap_cons] at tail ⊢
        rw [← tail]
        simp
  cases lines : Piece.linesOf 0 pieces with
  | nil =>
      have noLines := code 0
      rw [lines] at noLines
      exact .plain (by decide) noLines
  | cons line rest =>
      rw [joinedLines, ← lines]
      exact code 0

end CodePieces

end CurlScript.Script
