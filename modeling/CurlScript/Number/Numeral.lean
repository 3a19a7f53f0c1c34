import CurlScript.Number.Double
import CurlScript.Text.DecimalDigit

/-!
Decimal numerals: digits with an optional point and an optional exponent, read from the start of
a text. Which characters are digits is a parameter.
-/

namespace CurlScript.Number

def digitsValue (digits : List Nat) : Nat :=
  digits.foldl (fun value digit => 10 * value + digit) 0

def digitRun (digit? : Char → Option Nat) : List Char → List Nat × List Char
  | [] => ([], [])
  | c :: rest =>
    match digit? c with
    | none => ([], c :: rest)
    | some digit =>
      let run := digitRun digit? rest
      (digit :: run.1, run.2)

def signPart : List Char → Bool × List Char
  | '-' :: rest => (true, rest)
  | '+' :: rest => (false, rest)
  | rest => (false, rest)

def exponentPart (digit? : Char → Option Nat) (text : List Char) : Int × List Char :=
  match text with
  | [] => (0, text)
  | mark :: rest =>
    if mark = 'e' ∨ mark = 'E' then
      let signed := signPart rest
      match digitRun digit? signed.2 with
      | ([], _) => (0, text)
      | (digits, remainder) =>
        let value : Int := digitsValue digits
        (if signed.1 then -value else value, remainder)
    else (0, text)

def fractionPart (digit? : Char → Option Nat) : List Char → List Nat × List Char
  | '.' :: rest => digitRun digit? rest
  | rest => ([], rest)

def Decimal.ofParts (negative : Bool) (whole fraction : List Nat) (exponent : Int) : Decimal :=
  ⟨negative, digitsValue (whole ++ fraction), exponent - fraction.length⟩

def leadingNumeral (digit? : Char → Option Nat) (text : List Char) :
    Option (Decimal × List Char) :=
  let signed := signPart text
  let whole := digitRun digit? signed.2
  let fraction := fractionPart digit? whole.2
  if whole.1.isEmpty && fraction.1.isEmpty then none
  else
    let exponent := exponentPart digit? fraction.2
    some (.ofParts signed.1 whole.1 fraction.1 exponent.1, exponent.2)

def numeral? (digit? : Char → Option Nat) (text : List Char) : Option Decimal :=
  match leadingNumeral digit? text with
  | some (decimal, []) => some decimal
  | _ => none

def Double.ofText? (text : List Char) : Option Double :=
  let (negative, magnitude) := signPart text
  let word := magnitude.map Char.toLower
  if word = "inf".toList ∨ word = "infinity".toList then some (.infinite negative)
  else if word = "nan".toList then some .undefined
  else (numeral? Text.asciiDigit? text).map nearest

end CurlScript.Number
