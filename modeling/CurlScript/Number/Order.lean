import CurlScript.Number.Double

/-!
The order of numbers by value. Integers and doubles are compared exactly.
-/

namespace CurlScript.Number

namespace Double

def signed (negative : Bool) (significand : Nat) : Int :=
  if negative then -significand else significand

def less : Double → Double → Bool
  | .finite negative significand exponent, .finite negative' significand' exponent' =>
    let least := min exponent exponent'
    decide (signed negative significand * twoTo (exponent - least) <
      signed negative' significand' * twoTo (exponent' - least))
  | .finite .., .infinite negative => !negative
  | .infinite negative, .finite .. => negative
  | .infinite negative, .infinite negative' => negative && !negative'
  | _, _ => false

def same : Double → Double → Bool
  | .undefined, _ => false
  | _, .undefined => false
  | a, b => !less a b && !less b a

def exact (n : Int) : Double :=
  .finite (n < 0) n.natAbs 0

end Double

end CurlScript.Number
