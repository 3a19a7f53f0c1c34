import CurlScript.Number.Numeral
import CurlScript.Number.Spacing

/-!
Integers that a person typed: digits of any script with an optional sign.
-/

namespace CurlScript.Number

def integerDigits : Nat := 4300

def integer? (text : String) : Option Int :=
  let signed := signPart (trim text.toList)
  match dropUnderscores? signed.2 with
  | none => none
  | some unsigned =>
    match digitRun Text.digitValue? unsigned with
    | ([], _) => none
    | (_, _ :: _) => none
    | (digits, []) =>
      if integerDigits < digits.length then none
      else
        let magnitude : Int := digitsValue digits
        some (if signed.1 then -magnitude else magnitude)

end CurlScript.Number
