import CurlScript.Text.Blank

/-!
What may stand around and between the digits of a number that a person typed.
-/

namespace CurlScript.Number

def isSpace (c : Char) : Bool :=
  Text.isBlank c && !(0x1C ≤ c.toNat && c.toNat ≤ 0x1F)

def trim (text : List Char) : List Char :=
  ((text.dropWhile isSpace).reverse.dropWhile isSpace).reverse

def dropUnderscores? : List Char → Option (List Char)
  | [] => some []
  | '_' :: _ => none
  | c :: '_' :: next :: rest => (dropUnderscores? (next :: rest)).map (c :: ·)
  | [_, '_'] => none
  | c :: rest => (dropUnderscores? rest).map (c :: ·)

end CurlScript.Number
