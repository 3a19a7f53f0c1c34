/-!
Binary numbers of double width, kept as sign, significand and exponent, and the double that is
nearest to a decimal.
-/

namespace CurlScript.Number

inductive Double where
  | finite (negative : Bool) (significand : Nat) (exponent : Int)
  | infinite (negative : Bool)
  | undefined
deriving DecidableEq, Repr

structure Decimal where
  negative : Bool
  digits : Nat
  exponent : Int
deriving DecidableEq, Repr

def leastExponent : Int := -1074

def greatestExponent : Int := 971

def twoTo (power : Int) : Nat :=
  Nat.pow 2 power.toNat

def tenTo (power : Int) : Nat :=
  Nat.pow 10 power.toNat

def digitCount (n : Nat) : Nat :=
  (Nat.toDigits 10 n).length

def roundDiv (numerator denominator : Nat) : Nat :=
  let quotient := numerator / denominator
  let twice := 2 * (numerator % denominator)
  if twice < denominator then quotient
  else if denominator < twice then quotient + 1
  else if quotient % 2 = 0 then quotient
  else quotient + 1

def belowPowerOfTwo (numerator denominator : Nat) (power : Int) : Bool :=
  numerator * twoTo (-power) < denominator * twoTo power

def scaleOf (numerator denominator : Nat) : Int :=
  let guess : Int := (numerator.log2 : Int) - (denominator.log2 : Int)
  let leading := if belowPowerOfTwo numerator denominator guess then guess - 1 else guess
  max (leading - 52) leastExponent

namespace Double

def zero (negative : Bool) : Double :=
  .finite negative 0 leastExponent

def ofQuotient (negative : Bool) (numerator denominator : Nat) : Double :=
  let scale := scaleOf numerator denominator
  let rounded := roundDiv (numerator * twoTo (-scale)) (denominator * twoTo scale)
  let significand := if rounded = twoTo 53 then twoTo 52 else rounded
  let exponent := if rounded = twoTo 53 then scale + 1 else scale
  if greatestExponent < exponent then .infinite negative
  else .finite negative significand exponent

/-- The double nearest to a decimal. Beyond the range of doubles no power is computed. -/
def nearest (decimal : Decimal) : Double :=
  if decimal.digits = 0 then zero decimal.negative
  else
    let magnitude := decimal.exponent + digitCount decimal.digits
    if 310 < magnitude then .infinite decimal.negative
    else if magnitude < -330 then zero decimal.negative
    else
      ofQuotient decimal.negative (decimal.digits * tenTo decimal.exponent)
        (tenTo (-decimal.exponent))

def ofInt (n : Int) : Double :=
  nearest ⟨n < 0, n.natAbs, 0⟩

def isFinite : Double → Bool
  | .finite .. => true
  | _ => false

def isZero : Double → Bool
  | .finite _ significand _ => significand == 0
  | _ => false

def toInt? : Double → Option Int
  | .finite negative significand exponent =>
    let scaled := significand * twoTo exponent
    let unit := twoTo (-exponent)
    if scaled % unit = 0 then
      let magnitude : Int := (scaled / unit : Nat)
      some (if negative then -magnitude else magnitude)
    else none
  | _ => none

end Double

end CurlScript.Number
