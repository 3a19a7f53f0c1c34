import CurlScript.Text.Display

/-!
Bytes in texts: their digits in base 64, and how messages show them.
-/

namespace CurlScript.Text

def base64Digit? (c : Char) : Option Nat :=
  if 'A' ≤ c && c ≤ 'Z' then some (c.toNat - 65)
  else if 'a' ≤ c && c ≤ 'z' then some (c.toNat - 71)
  else if '0' ≤ c && c ≤ '9' then some (c.toNat + 4)
  else if c = '+' then some 62
  else if c = '/' then some 63
  else none

/-- The bytes that digits in base 64 write out, four digits for three bytes. `place` is the number
of digits of the last four that have been read, `left` what they hold beyond whole bytes, `pads` the
number of equals signs since. Other characters do not count. -/
def base64From (place left pads : Nat) : List Char → Option (List UInt8)
  | [] => if place = 0 then some [] else none
  | c :: rest =>
    if c = '=' then
      if place < 2 then base64From place left pads rest
      else if place + pads < 3 then base64From place left (pads + 1) rest
      else some []
    else
      match base64Digit? c with
      | none => base64From place left pads rest
      | some digit =>
        match place with
        | 0 => base64From 1 digit 0 rest
        | 1 => (base64From 2 (digit % 16) 0 rest).map (UInt8.ofNat (4 * left + digit / 16) :: ·)
        | 2 => (base64From 3 (digit % 4) 0 rest).map (UInt8.ofNat (16 * left + digit / 4) :: ·)
        | _ => (base64From 0 0 0 rest).map (UInt8.ofNat (64 * left + digit) :: ·)

def base64? (text : List Char) : Option (List UInt8) :=
  base64From 0 0 0 text

def displayByte (mark : Char) (byte : UInt8) : List Char :=
  if byte < 0x80 then displayChar mark (Char.ofNat byte.toNat)
  else '\\' :: 'x' :: hexText 2 byte.toNat

def displayBytes (bytes : List UInt8) : String :=
  let mark := if bytes.contains 0x27 && !bytes.contains 0x22 then '"' else '\''
  String.ofList ('b' :: mark :: bytes.flatMap (displayByte mark) ++ [mark])

def decoded (bytes : List UInt8) : String :=
  (String.fromUTF8? ⟨bytes.toArray⟩).getD "\uFFFD"

end CurlScript.Text
