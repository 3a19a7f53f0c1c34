/-!
Sets of characters given as closed ranges of code points.
-/

namespace CurlScript.Text

def inRanges (ranges : List (Nat × Nat)) (point : Nat) : Bool :=
  ranges.any fun range => range.1 ≤ point && point ≤ range.2

end CurlScript.Text
