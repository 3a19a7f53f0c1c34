import CurlScript.Json
import CurlScript.Number.Layout

/-!
The width of a value in compact JSON text: no blanks, and only quotes, backslashes and controls
escaped.
-/

namespace CurlScript.Json

def charWidth (c : Char) : Nat :=
  if c = '"' || c = '\\' || c = '\n' || c = '\r' || c = '\t' || c = '\x08' || c = '\x0c' then 2
  else if c.toNat < 0x20 then 6
  else 1

def textWidth (text : String) : Nat :=
  (text.toList.map charWidth).foldr (· + ·) 2

def compactNumber : Number.Layout where
  infinity := "Infinity"
  negativeInfinity := "-Infinity"
  undefined := "NaN"

mutual

def width : Json → Nat
  | .null => 4
  | .bool value => if value then 4 else 5
  | .int value => (toString value).length
  | .float value => (compactNumber.text value).length
  | .text value => textWidth value
  | .list items => itemsWidth items + (items.length - 1) + 2
  | .object members => membersWidth members + (members.length - 1) + 2

def itemsWidth : List Json → Nat
  | [] => 0
  | item :: rest => width item + itemsWidth rest

def membersWidth : List (String × Json) → Nat
  | [] => 0
  | (key, value) :: rest => textWidth key + 1 + width value + membersWidth rest

end

end CurlScript.Json
