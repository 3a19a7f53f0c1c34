import CurlScript.Number.Shortest
import CurlScript.Text.Cut

/-!
How a double is written: the shortest digits, laid out positionally or with an exponent.
-/

namespace CurlScript.Number

structure Layout where
  plainFrom : Int := -4
  plainBelow : Int := 16
  exponentDigits : Nat := 2
  infinity : String
  negativeInfinity : String
  undefined : String

def Layout.exponentText (layout : Layout) (exponent : Int) : String :=
  let digits := toString exponent.natAbs
  (if exponent < 0 then "-" else "+") ++
    Text.repeated "0" (layout.exponentDigits - digits.length) ++ digits

def plainText (digits : List Char) (point : Int) : String :=
  if point ≤ 0 then
    "0." ++ Text.repeated "0" (-point).toNat ++ String.ofList digits
  else if (digits.length : Int) ≤ point then
    String.ofList digits ++ Text.repeated "0" (point.toNat - digits.length) ++ ".0"
  else
    String.ofList (digits.take point.toNat) ++ "." ++ String.ofList (digits.drop point.toNat)

def leadingText : List Char → String
  | [] => ""
  | [digit] => String.singleton digit
  | digit :: rest => String.singleton digit ++ "." ++ String.ofList rest

def Layout.magnitude (layout : Layout) (significand : Nat) (exponent : Int) : String :=
  let (number, power) := shortest significand exponent
  let digits := Nat.toDigits 10 number
  let leading := power + (digits.length : Int) - 1
  if layout.plainFrom ≤ leading && leading < layout.plainBelow then
    plainText digits (leading + 1)
  else
    leadingText digits ++ "e" ++ layout.exponentText leading

def Layout.text (layout : Layout) : Double → String
  | .finite negative significand exponent =>
    (if negative then "-" else "") ++
      if significand = 0 then "0.0" else layout.magnitude significand exponent
  | .infinite negative => if negative then layout.negativeInfinity else layout.infinity
  | .undefined => layout.undefined

def Layout.plain : Layout where
  infinity := "inf"
  negativeInfinity := "-inf"
  undefined := "nan"

end CurlScript.Number
