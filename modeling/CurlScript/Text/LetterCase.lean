import CurlScript.Text.UpperCaseTable

/-!
Letter case. Upper case is the full mapping, in which one character may become several. Lower
case is carried only as far as a comparison with an ASCII word can see it.
-/

namespace CurlScript.Text

namespace CaseRun

def contains (run : CaseRun) (point : Nat) : Bool :=
  run.first ≤ point && point ≤ run.last && (point - run.first) % run.step == 0

def upperOf (run : CaseRun) (point : Nat) : Char :=
  Char.ofNat ((point : Int) + run.offset).toNat

end CaseRun

def upperChar (c : Char) : List Char :=
  if c.toNat < 128 then [c.toUpper]
  else
    match upperExpansions.find? fun expansion => expansion.1 == c.toNat with
    | some expansion => expansion.2.map Char.ofNat
    | none =>
      match upperRuns.find? fun run => run.contains c.toNat with
      | some run => [run.upperOf c.toNat]
      | none => [c]

def upper (text : String) : String :=
  String.ofList (text.toList.flatMap upperChar)

/-- The lower case of a character if an ASCII letter occurs in it, else the character itself:
outside ASCII only the Kelvin sign and the dotted capital I have such a lower case. -/
def lowerChar (c : Char) : List Char :=
  if c = '\u212A' then ['k']
  else if c = '\u0130' then ['i', '\u0307']
  else [c.toLower]

/-- The text with its ASCII letters in lower case. It equals an ASCII word, or begins with one,
exactly when the full lower case of the text does. -/
def lower (text : List Char) : List Char :=
  text.flatMap lowerChar

def isWord (text word : String) : Bool :=
  lower text.toList == word.toList

end CurlScript.Text
