import CurlScript.Text.Lines
import CurlScript.Text.Ranges
import CurlScript.Yaml.Node
import CurlScript.Yaml.Plain

/-!
Reading YAML text. A later entry of a mapping replaces the value of an earlier one with the same
key.
-/

namespace CurlScript.Yaml

def allowedRanges : List (Nat × Nat) :=
  [(0x09, 0x0A), (0x0D, 0x0D), (0x20, 0x7E), (0x85, 0x85), (0xA0, 0xD7FF), (0xE000, 0xFFFD),
   (0x10000, 0x10FFFF)]

inductive Error where
  | malformed
  | unreadableNumber
deriving DecidableEq, Repr

def orFail {α : Type} (error : Error) : Option α → Except Error α
  | some value => .ok value
  | none => .error error

def timestampOf (timestamp : Timestamp) : Except Error Scalar :=
  match timestamp.date?, timestamp.clock with
  | some date, none => .ok (.date date)
  | some date, some clock =>
    if clockExists : clock.Exists then .ok (.moment ⟨date, clock, clockExists⟩)
    else .error .unreadableNumber
  | none, _ => .error .unreadableNumber

def plainScalarOf (text : String) : Except Error Scalar :=
  if text = "=" ∨ text = "<<" then .error .malformed
  else if Plain.isUnreadable text.toList then .error .unreadableNumber
  else
    match Plain.timestamp? text.toList with
    | some timestamp => timestampOf timestamp
    | none => .ok (Plain.scalar text)

def bytesOf? (text : List Char) : Option (List UInt8) :=
  if text.all fun c => c.toNat < 0x80 then Text.base64? text else none

def scalarOf (tag : Option Tag) (plain : Bool) (text : String) : Except Error Scalar :=
  match tag with
  | none => if plain then plainScalarOf text else .ok (.text text)
  | some .unspecific => plainScalarOf text
  | some (.core "str") => .ok (.text text)
  | some (.core "null") => .ok .null
  | some (.core "bool") => (orFail .unreadableNumber (Plain.bool? text.toLower)).map .bool
  | some (.core "int") =>
    if Plain.isUnreadable text.toList then .error .unreadableNumber
    else (orFail .unreadableNumber (Plain.int? text.toList)).map .int
  | some (.core "float") => (orFail .unreadableNumber (Plain.taggedFloat? text.toList)).map .float
  | some (.core "binary") => (orFail .malformed (bytesOf? text.toList)).map .bytes
  | some (.core "timestamp") =>
    (orFail .unreadableNumber (Timestamp.ofText? text.toList)).bind timestampOf
  | some _ => .error .malformed

def allowsTag (kind : String) (tag : Option Tag) : Bool :=
  tag.all fun tag => tag == .unspecific || tag == .core kind

def keyOf : Node → Except Error Scalar
  | .scalar tag plain text =>
    if text = "=" ∧ (tag = none ∧ plain ∨ tag = some .unspecific) then .ok (.text text)
    else scalarOf tag plain text
  | _ => .error .malformed

def isMergeKey : Node → Bool
  | .scalar tag plain text => text == "<<" && (tag.isNone && plain || tag == some .unspecific)
  | _ => false

def Value.entries? : Value → Option (Entries Scalar Value)
  | .mapping entries => some entries
  | _ => none

def mergedEntries? : Value → Option (Entries Scalar Value)
  | .list items => (items.reverse.mapM Value.entries?).map List.flatten
  | value => value.entries?

mutual

def Node.value : Node → Except Error Value
  | .scalar tag plain text => (scalarOf tag plain text).map .scalar
  | .list tag items =>
    if allowsTag "seq" tag then (Node.values items).map .list
    else if tag = some (.core "omap") ∨ tag = some (.core "pairs") then
      (Node.pairs items).map .list
    else .error .malformed
  | .mapping tag entries =>
    let isSet := tag = some (.core "set")
    if allowsTag "map" tag ∨ isSet then do
      let merged ← Node.merged entries
      let own ← Node.entries entries
      let all := Entries.insertAll own (Entries.ofList merged)
      return if isSet then .list (all.map fun entry => .scalar entry.1) else .mapping all
    else .error .malformed

def Node.values : List Node → Except Error (List Value)
  | [] => .ok []
  | node :: rest => do
    let value ← node.value
    let values ← Node.values rest
    return value :: values

def Node.pairs : List Node → Except Error (List Value)
  | [] => .ok []
  | .mapping _ [(name, node)] :: rest => do
    let name ← name.value
    let value ← node.value
    let pairs ← Node.pairs rest
    return .list [name, value] :: pairs
  | _ => .error .malformed

def Node.merged : List (Node × Node) → Except Error (Entries Scalar Value)
  | [] => .ok []
  | (name, node) :: rest =>
    if isMergeKey name then do
      let value ← node.value
      let entries ← orFail .malformed (mergedEntries? value)
      let more ← Node.merged rest
      return entries ++ more
    else Node.merged rest

def Node.entries : List (Node × Node) → Except Error (Entries Scalar Value)
  | [] => .ok []
  | (name, node) :: rest =>
    if isMergeKey name then Node.entries rest
    else do
      let name ← keyOf name
      let value ← node.value
      let entries ← Node.entries rest
      return (name, value) :: entries

end

def nodes? (text : List Char) : Option (Option Node) :=
  if text.all fun c => Text.inRanges allowedRanges c.toNat then
    (Token.ofText? text).bind Node.ofTokens?
  else none

def read (source : String) : Except Error Value :=
  match nodes? (Text.unifyLines source.toList) with
  | none => .error .malformed
  | some none => .ok (.scalar .null)
  | some (some node) => node.value

end CurlScript.Yaml
