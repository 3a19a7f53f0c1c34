import CurlScript.Json.Reader
import CurlScript.Literal

/-!
Expressions of a script, as far as they are put together from literals: names of constants, numbers,
strings, conversions of a string to a number, lists and mappings. Reading gives the value that an
expression denotes; whatever else a script may hold has none.
-/

namespace CurlScript.Expression

open Json (Token)

/-! String literals. The literal ends at the first quote that no backslash protects, and only then
the escapes in its body are undone. -/

def simpleEscape? : Char → Option Char
  | '\\' => some '\\'
  | '\'' => some '\''
  | '"' => some '"'
  | 'a' => some '\x07'
  | 'b' => some '\x08'
  | 't' => some '\t'
  | 'n' => some '\n'
  | 'v' => some '\x0b'
  | 'f' => some '\x0c'
  | 'r' => some '\r'
  | _ => none

def numbered? (base : Nat) (digits : List Nat) : Option Char :=
  let point := digits.foldl (fun value digit => base * value + digit) 0
  if point.isValidChar then some (Char.ofNat point) else none

def octalDigit? (c : Char) : Option Nat :=
  if '0' ≤ c && c ≤ '7' then some (c.toNat - 48) else none

def hexEscape? (count : Nat) (text : List Char) : Option (List Char × Nat) := do
  let digits ← (text.take count).mapM Json.hexDigit?
  let c ← numbered? 16 digits
  if digits.length = count then some ([c], count + 1) else none

/-- What the text after a backslash begins with: the characters that it stands for, and how many it
takes. A line end is dropped, and before any other character that begins no escape the backslash
stands for itself. Characters are not looked up by their names. -/
def escape? : List Char → Option (List Char × Nat)
  | [] => none
  | '\n' :: _ => some ([], 1)
  | 'x' :: rest => hexEscape? 2 rest
  | 'u' :: rest => hexEscape? 4 rest
  | 'U' :: rest => hexEscape? 8 rest
  | 'N' :: _ => none
  | c :: rest =>
    match simpleEscape? c, Number.digitRun octalDigit? ((c :: rest).take 3) with
    | some meant, _ => some ([meant], 1)
    | none, ([], _) => some (['\\', c], 1)
    | none, (digits, _) => (numbered? 8 digits).map fun meant => ([meant], digits.length)

def unescape? : Nat → List Char → Option (List Char)
  | _, [] => some []
  | skipped + 1, _ :: rest => unescape? skipped rest
  | 0, c :: rest =>
    if c = '\\' then
      match escape? rest with
      | some (meant, length) => (unescape? length rest).map (meant ++ ·)
      | none => none
    else (unescape? 0 rest).map (c :: ·)

def body? (mark : Char) : List Char → Option (List Char × List Char)
  | [] => none
  | '\\' :: c :: rest =>
    if c = '\r' || c = '\x00' then none
    else (body? mark rest).map fun found => ('\\' :: c :: found.1, found.2)
  | c :: rest =>
    if c = mark then some ([], rest)
    else if c = '\n' || c = '\r' || c = '\x00' then none
    else (body? mark rest).map fun found => (c :: found.1, found.2)

def string? : List Char → Option (List Char × List Char)
  | [] => none
  | mark :: rest =>
    if mark = '\'' ∨ mark = '"' then do
      let (body, behind) ← body? mark rest
      let text ← unescape? 0 body
      some (text, behind)
    else none

/-! The tokens of an expression are those of JSON in another spelling. -/

def startsNumber (c : Char) : Bool :=
  c = '-' || c.isDigit

def mark? : Char → Option Token
  | '[' => some .openList
  | ']' => some .closeList
  | '\x7b' => some .openObject
  | '\x7d' => some .closeObject
  | ',' => some .comma
  | ':' => some .colon
  | _ => none

def name? : List Char → Option (Json × List Char)
  | 'N' :: 'o' :: 'n' :: 'e' :: rest => some (.null, rest)
  | 'T' :: 'r' :: 'u' :: 'e' :: rest => some (.bool true, rest)
  | 'F' :: 'a' :: 'l' :: 's' :: 'e' :: rest => some (.bool false, rest)
  | 'f' :: 'l' :: 'o' :: 'a' :: 't' :: '(' :: rest => do
    let (text, behind) ← string? rest
    let value ← Number.Double.ofText? text
    match behind with
    | ')' :: rest => some (.float value, rest)
    | _ => none
  | _ => none

def next? : List Char → Option (Token × List Char)
  | [] => none
  | c :: rest =>
    match mark? c with
    | some token => some (token, rest)
    | none =>
      if c = '\'' ∨ c = '"' then
        (string? (c :: rest)).map fun found => (.text (String.ofList found.1), found.2)
      else if startsNumber c then
        (Json.number? (c :: rest)).map fun found => (.scalar found.1, found.2)
      else (name? (c :: rest)).map fun found => (.scalar found.1, found.2)

def depthAfter (depth : Nat) : Token → Nat
  | .openList | .openObject => depth + 1
  | .closeList | .closeObject => depth - 1
  | _ => depth

def tokens? (depth : Nat) : List Char → Option (List Token)
  | [] => some []
  | c :: rest =>
    if c = ' ' then tokens? depth rest
    else if c = '\n' then if depth = 0 then none else tokens? depth rest
    else
      match next? (c :: rest) with
      | none => none
      | some (token, behind) =>
        if behind.length ≤ rest.length then
          (tokens? (depthAfter depth token) behind).map (token :: ·)
        else none
termination_by source => source.length

/-- The value that an expression denotes. Of two members with one key the later gives the value and
the earlier the place. Literals side by side have no value here, so that none in triple quotes is
taken for several. -/
def read? (source : String) : Option Json := do
  let tokens ← tokens? 0 source.toList
  Json.valueFrom [] tokens

end CurlScript.Expression
