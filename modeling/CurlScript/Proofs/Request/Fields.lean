import CurlScript.Proofs.Entries
import CurlScript.Request.Fields

/-!
The construction of a request from the fields that it is declared with. A draft that has a URL holds
such fields.
-/

namespace CurlScript

namespace Request

open Record

def Fits (fields : Entries String Json) : Prop :=
  ∀ field ∈ declared, ∃ value, fields.lookup field.1 = some value ∧ Kind.Admits value field.2

end Request

namespace Record

end Record

namespace Request

open Record

end Request

end CurlScript
