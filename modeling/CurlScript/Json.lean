import CurlScript.Entries
import CurlScript.Number.Double

/-!
JSON values. Integers are exact and kept apart from numbers with a point or an exponent, which
are doubles; the members of an object are in order of arrival.
-/

namespace CurlScript

inductive Json where
  | null
  | bool (value : Bool)
  | int (value : Int)
  | float (value : Number.Double)
  | text (value : String)
  | list (items : List Json)
  | object (members : List (String × Json))
deriving Repr, BEq, Inhabited

namespace Json

def member? (value : Json) (key : String) : Option Json :=
  match value with
  | .object members => members.lookup key
  | _ => none

end Json

end CurlScript
