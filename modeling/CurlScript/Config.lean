import CurlScript.Config.Key
import CurlScript.Crash
import CurlScript.Number.Integer
import CurlScript.Options
import CurlScript.Text.Display
import CurlScript.Text.Lines

/-!
Options from their three sources: explicit values, one configuration file, and built-in defaults.
Reading a file and checking the values are left to libraries.
-/

namespace CurlScript

structure Environment where
  tree : Tree
  pathVariable : Option String := none
  home : String
deriving Repr

namespace Config

inductive ReadError where
  | malformed (report : String)
  | crash (crash : Crash)
deriving DecidableEq, Repr

/-- The libraries of a configuration: the reader of documents, the readings of the two kinds of
fields, and the check of all fields together, which reports those that it does not take. -/
structure Libraries where
  read : String → Except ReadError Yaml.Value
  library? : Yaml.Value → Option Library
  switch? : Yaml.Value → Option Bool
  make : Entries String Yaml.Value → Except String Options

inductive Error where
  | unreadable (path : Path) (cause : Tree.Error)
  | malformed (path : Path) (report : String)
  | notMapping (path : Path)
  | unknownKeys (path : Path) (keys : List String)
  | crash (crash : Crash)
  | invalid (report : String)
deriving DecidableEq, Repr

def Error.message : Error → String
  | .unreadable path cause =>
    "Cannot read config " ++ path.text ++ ": " ++ cause.message ++ ": " ++ Text.display path.text
  | .malformed path report => "Invalid YAML in " ++ path.text ++ ": " ++ report
  | .notMapping path => "Config " ++ path.text ++ " must be a mapping of option names"
  | .unknownKeys path keys =>
    "Unknown option(s) in " ++ path.text ++ ": " ++ Text.joined ", " keys
  | .crash cause => cause.message
  | .invalid report => "Invalid options: " ++ report

def defaults : Entries String Yaml.Value :=
  [("library", .scalar (.text "requests")), ("include_imports", .scalar (.bool true)),
   ("wrap_async", .scalar (.bool true)), ("add_error_handling", .scalar (.bool false)),
   ("use_session", .scalar (.bool false))]

/-- The file of the user below the home directory. Slashes at the end of that do not count; one that
begins with a tilde is none. -/
def userPath (home : String) : Except Crash Path :=
  let home := String.ofList (home.toList.reverse.dropWhile (· = '/')).reverse
  if home.startsWith "~" then .error .noHome
  else
    let path := Path.ofText (if home.isEmpty then "/" else home)
    .ok { path with names := path.names ++ [".config", "curl2py", "config.yaml"] }

def userFile? (environment : Environment) : Except Crash (Option Path) := do
  let path ← userPath environment.home
  match environment.tree.isFile path with
  | .ok present => return if present then some path else none
  | .error error => .error (.access error)

def path? (environment : Environment) (explicit : Option Path) : Except Crash (Option Path) :=
  match explicit, environment.pathVariable.filter fun value => !value.isEmpty with
  | some path, _ => .ok (some path)
  | none, some value => .ok (some (Path.ofText value))
  | none, none => userFile? environment

def isKnown : Yaml.Scalar → Bool
  | .text name => Options.fieldNames.contains name
  | _ => false

def isOversized : Yaml.Scalar → Bool
  | .int value => Number.integerDigits < Number.digitCount value.natAbs
  | _ => false

def ofValue (path : Path) : Yaml.Value → Except Error (Entries Yaml.Scalar Yaml.Value)
  | .scalar .null => .ok []
  | .mapping entries =>
    match (entries.map (·.1)).filter fun key => !isKnown key with
    | [] => .ok entries
    | unknown =>
      match sorted? unknown with
      | some keys =>
        if unknown.any isOversized then .error (.crash .unreadableNumber)
        else .error (.unknownKeys path (keys.map (·.shown)))
      | none => .error (.crash .unorderedKeys)
  | _ => .error (.notMapping path)

def load (libraries : Libraries) (tree : Tree) (path : Path) :
    Except Error (Entries Yaml.Scalar Yaml.Value) :=
  match tree.read path with
  | .error .holdsNull => .error (.crash (.access .holdsNull))
  | .error cause => .error (.unreadable path cause)
  | .ok text =>
    match libraries.read (Text.withUnixLines text) with
    | .ok value => ofValue path value
    | .error (.malformed report) => .error (.malformed path report)
    | .error (.crash crash) => .error (.crash crash)

def byName (entries : Entries Yaml.Scalar Yaml.Value) : Entries String Yaml.Value :=
  entries.map fun entry => (entry.1.shown, entry.2)

def fileValues (libraries : Libraries) (environment : Environment) (explicit : Option Path) :
    Except Error (Entries String Yaml.Value) :=
  match path? environment explicit with
  | .error crash => .error (.crash crash)
  | .ok none => .ok []
  | .ok (some path) => (load libraries environment.tree path).map byName

def isGiven : Yaml.Value → Bool
  | .scalar .null => false
  | _ => true

def given (overrides : Entries String Yaml.Value) : Entries String Yaml.Value :=
  overrides.filter fun entry => isGiven entry.2

def merge (file overrides : Entries String Yaml.Value) : Entries String Yaml.Value :=
  Entries.insertAll (given overrides) (Entries.insertAll file defaults)

def resolve (libraries : Libraries) (environment : Environment)
    (overrides : Entries String Yaml.Value) (explicit : Option Path) : Except Error Options := do
  let file ← fileValues libraries environment explicit
  match libraries.make (merge file overrides) with
  | .ok options => .ok options
  | .error report => .error (.invalid report)

end Config

end CurlScript
