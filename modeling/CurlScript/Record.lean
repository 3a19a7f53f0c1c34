import CurlScript.Json
import CurlScript.Number.Numeral
import CurlScript.Number.Spacing

/-!
Reading records from loosely typed fields. All faults are reported, in the order of the fields.
-/

namespace CurlScript

namespace Record

inductive Fault where
  | missing
  | notText
  | emptyText
  | notMapping
  | notRecord
  | notBool
  | unreadableBool
  | notNumber
  | unreadableNumber
  | notChoice
  | unknown
deriving DecidableEq, Repr

structure Issue where
  path : List String
  fault : Fault
deriving DecidableEq, Repr

inductive Checked (α : Type) where
  | valid (value : α)
  | invalid (issues : List Issue)
deriving Repr

namespace Checked

def map {α β : Type} (f : α → β) : Checked α → Checked β
  | .valid value => .valid (f value)
  | .invalid issues => .invalid issues

def ap {α β : Type} : Checked (α → β) → Checked α → Checked β
  | .valid f, .valid value => .valid (f value)
  | .valid _, .invalid issues => .invalid issues
  | .invalid issues, .valid _ => .invalid issues
  | .invalid issues, .invalid more => .invalid (issues ++ more)

end Checked

abbrev Reading (α : Type) := List String → Json → Checked α

def fail {α : Type} (path : List String) (fault : Fault) : Checked α :=
  .invalid [⟨path, fault⟩]

def text : Reading String := fun path value =>
  match value with
  | .text value => .valid value
  | _ => fail path .notText

def boolOfText? (text : String) : Option Bool :=
  let word := text.toLower
  if ["1", "on", "t", "true", "y", "yes"].contains word then some true
  else if ["0", "off", "f", "false", "n", "no"].contains word then some false
  else none

def integerBound : Int := 0x8000000000000000

def boolOfInt (path : List String) (value : Int) : Checked Bool :=
  if value = 0 then .valid false
  else if value = 1 then .valid true
  else if -integerBound ≤ value && value < integerBound then fail path .unreadableBool
  else fail path .notBool

def boolOfDouble (path : List String) (value : Number.Double) : Checked Bool :=
  match value.toInt? with
  | some whole => if whole = -integerBound then fail path .notBool else boolOfInt path whole
  | none => fail path .notBool

def bool : Reading Bool := fun path value =>
  match value with
  | .bool value => .valid value
  | .int value => boolOfInt path value
  | .float value => boolOfDouble path value
  | .text value =>
    match boolOfText? value with
    | some value => .valid value
    | none => fail path .unreadableBool
  | _ => fail path .notBool

def numberOfText? (text : List Char) : Option Number.Double :=
  match Number.Double.ofText? (Number.trim text) with
  | some number => some number
  | none => (Number.dropUnderscores? text).bind Number.Double.ofText?

def number : Reading Number.Double := fun path value =>
  match value with
  | .float value => .valid value
  | .int value =>
    let number := Number.Double.ofInt value
    if number.isFinite then .valid number else fail path .notNumber
  | .bool value => .valid (.ofInt (if value then 1 else 0))
  | .text value =>
    match numberOfText? value.toList with
    | some number => .valid number
    | none => fail path .unreadableNumber
  | _ => fail path .notNumber

def orNull {α : Type} (reading : Reading α) : Reading (Option α) := fun path value =>
  match value with
  | .null => .valid none
  | value => (reading path value).map some

def textValues (path : List String) : List (String × Json) → Checked (Entries String String)
  | [] => .valid []
  | (key, value) :: rest =>
    Checked.ap ((text (path ++ [key]) value).map fun value others => (key, value) :: others)
      (textValues path rest)

def textMapping : Reading (Entries String String) := fun path value =>
  match value with
  | .object members => textValues path members
  | _ => fail path .notMapping

def required {α : Type} (fields : Entries String Json) (path : List String) (name : String)
    (reading : Reading α) : Checked α :=
  match fields.lookup name with
  | some value => reading (path ++ [name]) value
  | none => fail (path ++ [name]) .missing

def optional {α : Type} (fields : Entries String Json) (path : List String) (name : String)
    (default : α) (reading : Reading α) : Checked α :=
  match fields.lookup name with
  | some value => reading (path ++ [name]) value
  | none => .valid default

def noOthers (fields : Entries String Json) (names : List String) : Checked Unit :=
  match fields.filter fun field => !names.contains field.1 with
  | [] => .valid ()
  | others => .invalid (others.map fun field => ⟨[field.1], .unknown⟩)

end Record

end CurlScript
