import CurlScript.Json
import CurlScript.Request

/-!
A draft as loosely typed fields, and the kinds of values that a request is declared to hold.
-/

namespace CurlScript

def Json.ofEntries (entries : Entries String String) : Json :=
  .object (entries.map fun entry => (entry.1, .text entry.2))

def Json.ofOption {α : Type} (write : α → Json) (value : Option α) : Json :=
  (value.map write).getD .null

def Credentials.json (credentials : Credentials) : Json :=
  .object [("user", .text credentials.user), ("password", .text credentials.password)]

def Draft.fields (draft : Draft) : Entries String Json :=
  [("url", .text draft.url), ("method", .text draft.method),
   ("headers", .ofEntries draft.headers), ("cookies", .ofEntries draft.cookies),
   ("data", .ofOption .text draft.data), ("auth", .ofOption Credentials.json draft.auth),
   ("proxy", .ofOption .text draft.proxy), ("proxy_auth", .ofOption .text draft.proxyAuth),
   ("insecure", .bool draft.insecure), ("timeout", .ofOption .float draft.timeout)]

namespace Request

inductive Kind where
  | text
  | nonemptyText
  | textMapping
  | credentials
  | bool
  | number
  | orNull (kind : Kind)
deriving DecidableEq, Repr

def declared : Entries String Kind :=
  [("url", .nonemptyText), ("method", .text), ("headers", .textMapping),
   ("cookies", .textMapping), ("data", .orNull .text), ("auth", .orNull .credentials),
   ("proxy", .orNull .text), ("proxy_auth", .orNull .text), ("insecure", .bool),
   ("timeout", .orNull .number)]

def Kind.Admits (value : Json) : Kind → Prop
  | .text => ∃ text, value = .text text
  | .nonemptyText => ∃ text, value = .text text ∧ text ≠ ""
  | .textMapping => ∃ entries, value = .ofEntries entries
  | .credentials => ∃ credentials : Credentials, value = credentials.json
  | .bool => ∃ truth, value = .bool truth
  | .number => ∃ number, value = .float number
  | .orNull kind => value = .null ∨ kind.Admits value

end Request

end CurlScript
