import CurlScript.Json
import CurlScript.Number.Integer

/-!
The tokens of JSON text.
-/

namespace CurlScript.Json

inductive Token where
  | openList
  | closeList
  | openObject
  | closeObject
  | comma
  | colon
  | text (value : String)
  | scalar (value : Json)
deriving Repr

def isSpace (c : Char) : Bool :=
  c = ' ' || c = '\t' || c = '\n' || c = '\r'

def hexDigit? (c : Char) : Option Nat :=
  if '0' ≤ c && c ≤ '9' then some (c.toNat - 48)
  else if 'a' ≤ c && c ≤ 'f' then some (c.toNat - 87)
  else if 'A' ≤ c && c ≤ 'F' then some (c.toNat - 55)
  else none

def hexUnit? (a b c d : Char) : Option Nat := do
  let a ← hexDigit? a
  let b ← hexDigit? b
  let c ← hexDigit? c
  let d ← hexDigit? d
  some (((a * 16 + b) * 16 + c) * 16 + d)

def escaped? : Char → Option Char
  | '"' => some '"'
  | '\\' => some '\\'
  | '/' => some '/'
  | 'b' => some '\x08'
  | 'f' => some '\x0c'
  | 'n' => some '\n'
  | 'r' => some '\r'
  | 't' => some '\t'
  | _ => none

def isHighSurrogate (unit : Nat) : Bool := 0xD800 ≤ unit && unit < 0xDC00

def isLowSurrogate (unit : Nat) : Bool := 0xDC00 ≤ unit && unit < 0xE000

def pairedChar (high low : Nat) : Char :=
  Char.ofNat (0x10000 + (high - 0xD800) * 0x400 + (low - 0xDC00))

/-- What a string is made of. A surrogate without its partner is a point, but no character. -/
inductive Point where
  | char (c : Char)
  | lone (unit : Nat)
deriving DecidableEq, Repr

def Point.ofUnit (unit : Nat) : Point :=
  if isHighSurrogate unit || isLowSurrogate unit then .lone unit else .char (Char.ofNat unit)

def stringBody (high : Option Nat) : List Char → Option (List Point × List Char)
  | '"' :: rest => some (high.toList.map .lone, rest)
  | '\\' :: 'u' :: a :: b :: c :: d :: rest => do
    let unit ← hexUnit? a b c d
    match high with
    | some first =>
      if isLowSurrogate unit then
        let body ← stringBody none rest
        some (.char (pairedChar first unit) :: body.1, body.2)
      else if isHighSurrogate unit then
        let body ← stringBody (some unit) rest
        some (.lone first :: body.1, body.2)
      else
        let body ← stringBody none rest
        some (.lone first :: .ofUnit unit :: body.1, body.2)
    | none =>
      if isHighSurrogate unit then stringBody (some unit) rest
      else
        let body ← stringBody none rest
        some (.ofUnit unit :: body.1, body.2)
  | '\\' :: letter :: rest => do
    let c ← escaped? letter
    let body ← stringBody none rest
    some (high.toList.map .lone ++ .char c :: body.1, body.2)
  | c :: rest =>
    if c = '\\' || c.toNat < 0x20 then none
    else do
      let body ← stringBody none rest
      some (high.toList.map .lone ++ .char c :: body.1, body.2)
  | [] => none

def wholePart : List Char → Option (List Nat × List Char)
  | '0' :: rest => some ([0], rest)
  | source =>
    match Number.digitRun Text.asciiDigit? source with
    | ([], _) => none
    | run => some run

def fractionDigits (source : List Char) : List Nat × List Char :=
  match source with
  | '.' :: rest =>
    match Number.digitRun Text.asciiDigit? rest with
    | ([], _) => ([], source)
    | run => run
  | _ => ([], source)

def number? (source : List Char) : Option (Json × List Char) := do
  let (negative, unsigned) := match source with
    | '-' :: rest => (true, rest)
    | _ => (false, source)
  let (whole, afterWhole) ← wholePart unsigned
  let (fraction, afterFraction) := fractionDigits afterWhole
  let (exponent, rest) := Number.exponentPart Text.asciiDigit? afterFraction
  if fraction.isEmpty && rest.length == afterFraction.length then
    if Number.integerDigits < whole.length then none
    else
      let magnitude : Int := Number.digitsValue whole
      some (.int (if negative then -magnitude else magnitude), rest)
  else some (.float (.nearest (.ofParts negative whole fraction exponent)), rest)

def Token.next? (write : List Point → String) : List Char → Option (Token × List Char)
  | '[' :: rest => some (.openList, rest)
  | ']' :: rest => some (.closeList, rest)
  | '\x7b' :: rest => some (.openObject, rest)
  | '\x7d' :: rest => some (.closeObject, rest)
  | ',' :: rest => some (.comma, rest)
  | ':' :: rest => some (.colon, rest)
  | '"' :: rest => (stringBody none rest).map fun body => (.text (write body.1), body.2)
  | 'n' :: 'u' :: 'l' :: 'l' :: rest => some (.scalar .null, rest)
  | 't' :: 'r' :: 'u' :: 'e' :: rest => some (.scalar (.bool true), rest)
  | 'f' :: 'a' :: 'l' :: 's' :: 'e' :: rest => some (.scalar (.bool false), rest)
  | source => (number? source).map fun found => (.scalar found.1, found.2)

def Token.scan (write : List Point → String) : Nat → List Char → Option (List Token)
  | _, [] => some []
  | 0, _ :: _ => none
  | fuel + 1, c :: rest =>
    if isSpace c then Token.scan write fuel rest
    else do
      let (token, remainder) ← Token.next? write (c :: rest)
      let tokens ← Token.scan write fuel remainder
      some (token :: tokens)

def Token.ofText? (write : List Point → String) (source : List Char) : Option (List Token) :=
  Token.scan write source.length source

end CurlScript.Json
