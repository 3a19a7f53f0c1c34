import CurlScript.Json.Width
import CurlScript.Text.Cut

/-!
Values as literals of a script. A small container stands on one line, any other one has an entry
on each line.
-/

namespace CurlScript.Literal

def indentUnit : String := "    "

def indentation (depth : Nat) : String :=
  Text.repeated indentUnit depth

def escapeQuotes : List Char → List Char
  | [] => []
  | c :: rest => if c = '\'' then '\\' :: '\'' :: escapeQuotes rest else c :: escapeQuotes rest

def quoteChars (text : List Char) : List Char :=
  if text.contains '\'' && !text.contains '"' then '"' :: text ++ ['"']
  else '\'' :: escapeQuotes text ++ ['\'']

def quote (text : String) : String :=
  String.ofList (quoteChars text.toList)

def numberLayout : Number.Layout where
  infinity := "float('inf')"
  negativeInfinity := "float('-inf')"
  undefined := "nan"

def ofDouble (value : Number.Double) : String :=
  numberLayout.text value

def ofNumber (value : Number.Double) : String :=
  match value.toInt? with
  | some whole => toString whole
  | none => ofDouble value

def inlineEntries : Nat := 2

def inlineWidth : Nat := 50

def fitsInline (value : Json) (entries : Nat) : Bool :=
  entries ≤ inlineEntries && value.width < inlineWidth

def entryDepth (inline : Bool) (depth : Nat) : Nat :=
  if inline then depth else depth + 1

def enclose (inline : Bool) (opener closer : String) (depth : Nat) (entries : List String) :
    String :=
  if inline then opener ++ Text.joined ", " entries ++ closer
  else
    opener ++ "\n" ++ Text.joined ",\n" (entries.map (indentation (depth + 1) ++ ·)) ++ "\n" ++
      indentation depth ++ closer

mutual

def ofJson (depth : Nat) : Json → String
  | .null => "None"
  | .bool value => if value then "True" else "False"
  | .int value => toString value
  | .float value => ofDouble value
  | .text value => quote value
  | .list [] => "[]"
  | .list (item :: items) =>
    let inline := fitsInline (.list (item :: items)) (items.length + 1)
    enclose inline "[" "]" depth (ofItems (entryDepth inline depth) (item :: items))
  | .object [] => "\x7b\x7d"
  | .object (member :: members) =>
    let inline := fitsInline (.object (member :: members)) (members.length + 1)
    enclose inline "\x7b" "\x7d" depth (ofMembers (entryDepth inline depth) (member :: members))

def ofItems (depth : Nat) : List Json → List String
  | [] => []
  | item :: rest => ofJson depth item :: ofItems depth rest

def ofMembers (depth : Nat) : List (String × Json) → List String
  | [] => []
  | (key, value) :: rest => (quote key ++ ": " ++ ofJson depth value) :: ofMembers depth rest

end

def ofEntries (entries : List (String × String)) : String :=
  ofJson 0 (.object (entries.map fun entry => (entry.1, .text entry.2)))

end CurlScript.Literal
