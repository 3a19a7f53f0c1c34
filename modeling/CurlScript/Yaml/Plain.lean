import CurlScript.Number.Integer
import CurlScript.Text.Cut
import CurlScript.Yaml

/-!
What a plain scalar stands for: null, a truth value, a number, a day or time, or its own text.
-/

namespace CurlScript.Yaml.Plain

def isNull (text : String) : Bool :=
  ["", "~", "null", "Null", "NULL"].contains text

def bool? (text : String) : Option Bool :=
  if ["yes", "Yes", "YES", "true", "True", "TRUE", "on", "On", "ON"].contains text then some true
  else if ["no", "No", "NO", "false", "False", "FALSE", "off", "Off", "OFF"].contains text then
    some false
  else none

def dropUnderscores (text : List Char) : List Char :=
  text.filter (· ≠ '_')

def digitIn? (base : Nat) (c : Char) : Option Nat :=
  let value :=
    if '0' ≤ c && c ≤ '9' then c.toNat - 48
    else if 'a' ≤ c && c ≤ 'f' then c.toNat - 87
    else if 'A' ≤ c && c ≤ 'F' then c.toNat - 55
    else base
  if value < base then some value else none

def digitsIn? (base : Nat) (text : List Char) : Option Nat :=
  match dropUnderscores text with
  | [] => none
  | digits =>
    digits.foldlM (fun value c => (digitIn? base c).map fun digit => base * value + digit) 0

def sixtieth? (part : List Char) : Option Nat :=
  match part with
  | [c] => digitIn? 10 c
  | [a, b] => do
    let tens ← digitIn? 6 a
    let ones ← digitIn? 10 b
    some (10 * tens + ones)
  | _ => none

def sixtyFrom (value : Nat) : List (List Char) → Option Nat
  | [] => some value
  | part :: rest => do
    let digit ← sixtieth? part
    sixtyFrom (60 * value + digit) rest

def decimal? (text : List Char) : Option Nat :=
  if text.head? = some '_' then none else digitsIn? 10 text

def natural? (text : List Char) : Option Nat :=
  match text with
  | ['0'] => some 0
  | '0' :: 'b' :: digits => digitsIn? 2 digits
  | '0' :: 'x' :: digits => digitsIn? 16 digits
  | '0' :: rest => digitsIn? 8 ('0' :: rest)
  | text =>
    match Text.pieces ':' text with
    | [] => none
    | first :: parts => (decimal? first).bind fun value => sixtyFrom value parts

def int? (text : List Char) : Option Int :=
  let (negative, magnitude) := Number.signPart text
  (natural? magnitude).map fun value => if negative then -(value : Int) else value

def isUnreadable (text : List Char) : Bool :=
  match (Number.signPart text).2 with
  | '0' :: 'b' :: digits => !digits.isEmpty && (dropUnderscores digits).isEmpty
  | '0' :: 'x' :: digits => !digits.isEmpty && (dropUnderscores digits).isEmpty
  | '0' :: _ => false
  | magnitude =>
    (natural? magnitude).isSome &&
      Number.integerDigits < (dropUnderscores (magnitude.takeWhile (· ≠ ':'))).length

def isExponent (text : List Char) : Bool :=
  match text with
  | [] => true
  | mark :: sign :: digits =>
    (mark = 'e' || mark = 'E') && (sign = '-' || sign = '+') && !digits.isEmpty &&
      digits.all Char.isDigit
  | _ => false

def isDigitLike (c : Char) : Bool :=
  c.isDigit || c = '_'

def beginsWithDigit (text : List Char) : Bool :=
  text.head?.any Char.isDigit

def pointed? (signed : Bool) (whole rest : List Char) : Option Number.Decimal :=
  let fraction := rest.takeWhile isDigitLike
  let exponent := rest.drop fraction.length
  match Text.pieces ':' whole with
  | first :: part :: parts => do
    let value ← (decimal? first).bind fun value => sixtyFrom value (part :: parts)
    if exponent.isEmpty then
      Number.numeral? Text.asciiDigit?
        (Nat.toDigits 10 value ++ '.' :: dropUnderscores fraction)
    else none
  | _ =>
    let begun := beginsWithDigit whole || whole.isEmpty && !signed && beginsWithDigit fraction
    if begun && isExponent exponent then
      Number.numeral? Text.asciiDigit? (dropUnderscores (whole ++ '.' :: fraction) ++ exponent)
    else none

def float? (text : List Char) : Option Number.Double :=
  let (negative, magnitude) := Number.signPart text
  let signed := magnitude.length ≠ text.length
  let whole := magnitude.takeWhile fun c => isDigitLike c || c = ':'
  match magnitude.drop whole.length with
  | '.' :: rest =>
    if whole.isEmpty && ["inf", "Inf", "INF"].contains (String.ofList rest) then
      some (.infinite negative)
    else if whole.isEmpty && !signed && ["nan", "NaN", "NAN"].contains (String.ofList rest) then
      some .undefined
    else (pointed? signed whole rest).map fun number => .nearest { number with negative }
  | _ => none

def taggedFloat? (text : List Char) : Option Number.Double :=
  match float? text with
  | some value => some value
  | none => Number.Double.ofText? (Number.trim (dropUnderscores text))

def timestamp? (text : List Char) : Option Timestamp :=
  (Timestamp.ofText? text).filter fun timestamp =>
    timestamp.clock.isSome || text.length = "0000-00-00".length

def scalar (text : String) : Scalar :=
  if isNull text then .null
  else
    match bool? text, int? text.toList, float? text.toList with
    | some value, _, _ => .bool value
    | _, some value, _ => .int value
    | _, _, some value => .float value
    | _, _, _ => .text text

end CurlScript.Yaml.Plain
