import CurlScript.Json
import CurlScript.Number.Layout
import CurlScript.Number.Order
import CurlScript.Text.Bytes
import CurlScript.Yaml.Timestamp

/-!
Values of YAML documents. The keys of a mapping are scalars. Two of them are the same key if they
have the same rank: the truth values count as the numbers zero and one, numbers are compared by
value, and moments with an offset by the point in time.
-/

namespace CurlScript.Yaml

inductive Scalar where
  | null
  | bool (value : Bool)
  | int (value : Int)
  | float (value : Number.Double)
  | text (value : String)
  | bytes (value : List UInt8)
  | date (value : Date)
  | moment (value : Moment)
deriving DecidableEq, Repr

inductive Rank where
  | number (value : Number.Double)
  | text (value : String)
  | bytes (value : List UInt8)
  | date (number : Nat)
  | moment (zoned : Bool) (instant : Int)
deriving DecidableEq, Repr

def Rank.same : Rank → Rank → Bool
  | .number a, .number b => a = b || a.same b
  | a, b => a = b

namespace Scalar

def rank? : Scalar → Option Rank
  | .null => none
  | .bool value => some (.number (.exact (if value then 1 else 0)))
  | .int value => some (.number (.exact value))
  | .float value => some (.number value)
  | .text value => some (.text value)
  | .bytes value => some (.bytes value)
  | .date value => some (.date value.number)
  | .moment value => some (.moment value.isZoned value.instant)

def shown : Scalar → String
  | .null => "None"
  | .bool value => if value then "True" else "False"
  | .int value => toString value
  | .float value => Number.Layout.plain.text value
  | .text value => value
  | .bytes value => Text.displayBytes value
  | .date value => value.shown
  | .moment value => value.shown

def same (a b : Scalar) : Bool :=
  match a.rank?, b.rank? with
  | some a, some b => a.same b
  | none, none => true
  | _, _ => false

instance (priority := high) sameKey : BEq Scalar := ⟨same⟩

/-- The scalar as JSON. Bytes are the text they encode. JSON has no days and times: a list stands
for one, which no field takes either. -/
def toJson : Scalar → Json
  | .null => .null
  | .bool value => .bool value
  | .int value => .int value
  | .float value => .float value
  | .text value => .text value
  | .bytes value => .text (Text.decoded value)
  | .date value => .list [.text value.shown]
  | .moment value => .list [.text value.shown]

end Scalar

inductive Value where
  | scalar (value : Scalar)
  | list (items : List Value)
  | mapping (entries : List (Scalar × Value))
deriving Repr

mutual

def Value.toJson : Value → Json
  | .scalar value => value.toJson
  | .list items => .list (Value.itemsToJson items)
  | .mapping entries => .object (Value.entriesToJson entries)

def Value.itemsToJson : List Value → List Json
  | [] => []
  | item :: rest => item.toJson :: Value.itemsToJson rest

def Value.entriesToJson : List (Scalar × Value) → List (String × Json)
  | [] => []
  | (key, value) :: rest => (key.shown, value.toJson) :: Value.entriesToJson rest

end

end CurlScript.Yaml
