import CurlScript.Number.Double

/-!
The shortest decimal that reads back as a given double: the least number of digits, and among
decimals of that length the nearest one.
-/

namespace CurlScript.Number

def compareScaled (a : Nat) (i : Int) (n : Nat) (j : Int) : Ordering :=
  compare (a * tenTo i * twoTo (-j)) (n * twoTo j * tenTo (-i))

/-- The decimal lies among the reals that round to `significand * 2 ^ exponent`. The ends of that
interval count when the significand is even; below a power of two it is half as wide. -/
def readsBack (significand : Nat) (exponent : Int) (digits : Nat) (power : Int) : Bool :=
  let narrow := significand == twoTo 52 && leastExponent < exponent
  let low := if narrow then 4 * significand - 1 else 4 * significand - 2
  let high := 4 * significand + 2
  let closed := significand % 2 == 0
  let fromLow := compareScaled digits power low (exponent - 2)
  let fromHigh := compareScaled digits power high (exponent - 2)
  (fromLow == .gt || closed && fromLow == .eq) && (fromHigh == .lt || closed && fromHigh == .eq)

def decimalScale (significand : Nat) (exponent : Int) : Int :=
  let numerator := significand * twoTo exponent
  let denominator := twoTo (-exponent)
  if denominator ≤ numerator then digitCount (numerator / denominator)
  else
    let scale : Int := 1 - digitCount (denominator / numerator)
    if compareScaled 1 scale significand exponent == .gt then scale else scale + 1

def onGrid? (significand : Nat) (exponent power : Int) : Option Nat :=
  let below :=
    significand * twoTo exponent * tenTo (-power) / (twoTo (-exponent) * tenTo power)
  let reads := readsBack significand exponent
  match 0 < below && reads below power, reads (below + 1) power with
  | false, false => none
  | true, false => some below
  | false, true => some (below + 1)
  | true, true =>
    match compareScaled (2 * below + 1) power (2 * significand) exponent with
    | .gt => some below
    | .lt => some (below + 1)
    | .eq => some (if below % 2 = 0 then below else below + 1)

def dropZeros (digits : Nat) (power : Int) : Nat × Int :=
  if digits ≠ 0 ∧ digits % 10 = 0 then dropZeros (digits / 10) (power + 1) else (digits, power)
termination_by digits
decreasing_by exact Nat.div_lt_self (by omega) (by omega)

def shortest (significand : Nat) (exponent : Int) : Nat × Int :=
  let scale := decimalScale significand exponent
  let found := (List.range 17).findSome? fun count =>
    let power := scale - (count + 1 : Nat)
    (onGrid? significand exponent power).map fun digits => (digits, power)
  match found with
  | some (digits, power) => dropZeros digits power
  | none =>
    dropZeros (significand * twoTo exponent * Nat.pow 5 (-exponent).toNat)
      (if exponent < 0 then exponent else 0)

end CurlScript.Number
