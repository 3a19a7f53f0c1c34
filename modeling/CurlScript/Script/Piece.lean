import CurlScript.Literal

/-!
Scripts as trees of lines, calls and blocks, and their text.
-/

namespace CurlScript.Script

inductive Piece where
  | line (text : String)
  | raw (text : String)
  | call (head : String) (arguments : List String) (closer : String)
  | block (header : String) (body : List Piece)
  | indented (body : List Piece)
deriving Repr

def indentedLine (depth : Nat) (text : String) : String :=
  if text.isEmpty then "" else Literal.indentation depth ++ text

def withCommas : List String → List String
  | [] => []
  | [argument] => [argument]
  | argument :: next :: rest => (argument ++ ",") :: withCommas (next :: rest)

mutual

def Piece.lines (depth : Nat) : Piece → List String
  | .line text => [indentedLine depth text]
  | .raw text => [text]
  | .call head arguments closer =>
    indentedLine depth head :: (withCommas arguments).map (indentedLine (depth + 1)) ++
      [indentedLine depth closer]
  | .block header body => indentedLine depth header :: Piece.linesOf (depth + 1) body
  | .indented body => Piece.linesOf (depth + 1) body

def Piece.linesOf (depth : Nat) : List Piece → List String
  | [] => []
  | piece :: rest => piece.lines depth ++ Piece.linesOf depth rest

end

def textOfLines (lines : List String) : String :=
  Text.joined "\n" lines ++ "\n"

end CurlScript.Script
