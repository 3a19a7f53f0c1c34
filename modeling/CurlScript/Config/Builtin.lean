import CurlScript.Config
import CurlScript.Options.Fields
import CurlScript.Yaml.Reader

/-!
The libraries that a configuration is read with when the program runs.
-/

namespace CurlScript

def Record.Checked.toOption {α : Type} : Checked α → Option α
  | .valid value => some value
  | .invalid _ => none

namespace Config

def readDocument (text : String) : Except ReadError Yaml.Value :=
  (Yaml.read text).mapError fun
    | .malformed => .malformed "malformed document"
    | .unreadableNumber => .crash .unreadableNumber

def jsonFields (fields : Entries String Yaml.Value) : Entries String Json :=
  fields.map fun field => (field.1, field.2.toJson)

def makeOptions (fields : Entries String Yaml.Value) : Except String Options :=
  match Options.ofFields (jsonFields fields) with
  | .valid options => .ok options
  | .invalid issues =>
    .error (Text.joined ", " (issues.map fun issue => Text.joined "." issue.path))

def builtin : Libraries where
  read := readDocument
  library? value := (Options.library? [] value.toJson).toOption
  switch? value := (Record.bool [] value.toJson).toOption
  make := makeOptions

end Config

end CurlScript
