import CurlScript.Config
import CurlScript.Sample
import CurlScript.Script
import CurlScript.Script.Validation

/-!
The conversion of a command into a script, as a function of its parameters, the standard input and
the file tree. How the parameters are given is left to a parser of command lines.
-/

namespace CurlScript.Cli

structure World extends Environment where
  input : String := ""
deriving Repr

structure Conversion where
  command : Option String := none
  file : Option Path := none
  sample : Option Int := none
  library : Option Library := none
  includeImports : Option Bool := none
  wrapAsync : Option Bool := none
  addErrorHandling : Option Bool := none
  useSession : Option Bool := none
  config : Option Path := none
  output : Option Path := none
  check : Bool := false
deriving DecidableEq, Repr

/-- The libraries of a conversion, beside those of its configuration: the constructor of requests,
the compiler of scripts, what is printed of a text, and how a wrong call and a failure are
reported. -/
structure Libraries extends Config.Libraries where
  construct : Entries String Json → Except Crash Request
  compile : Script.Compiler
  printed : String → String
  usageReport : String → String
  failureReport : String → String

structure Outcome where
  exit : Nat := 0
  stdout : String := ""
  stderr : String := ""
  tree : Tree
deriving DecidableEq, Repr

structure Stop where
  crash : Crash
  tree : Tree
deriving DecidableEq, Repr

abbrev Result := Except Stop Outcome

def fileText (tree : Tree) (path : Path) : Except Crash String :=
  match tree.read path with
  | .ok text => .ok (Text.withUnixLines text)
  | .error error => .error (.access error)

namespace Conversion

def argument? (conversion : Conversion) : Option String :=
  conversion.command.filter (· ≠ "-")

def sources (conversion : Conversion) : Nat :=
  conversion.sample.toList.length + conversion.file.toList.length +
    conversion.argument?.toList.length

def text (conversion : Conversion) (world : World) : Except Crash String :=
  match conversion.sample, conversion.file, conversion.argument? with
  | some number, _, _ => .ok (Sample.get number)
  | none, some path, _ => fileText world.tree path
  | none, none, some text => .ok text
  | none, none, none => .ok (Text.withUnixLines world.input)

def overrides (conversion : Conversion) : Entries String Yaml.Value :=
  let scalar (value : Option Yaml.Scalar) : Yaml.Value := .scalar (value.getD .null)
  [("library", scalar (conversion.library.map fun library => .text library.name)),
   ("include_imports", scalar (conversion.includeImports.map .bool)),
   ("wrap_async", scalar (conversion.wrapAsync.map .bool)),
   ("add_error_handling", scalar (conversion.addErrorHandling.map .bool)),
   ("use_session", scalar (conversion.useSession.map .bool))]

def note (conversion : Conversion) (library : Library) : String :=
  if conversion.wrapAsync.isSome && !library.isAsync then
    "Note: --wrap-async has no effect on " ++ library.name ++ ".\n"
  else ""

end Conversion

/-- Writes a script to a path, or to its own file name if the path is a directory. The path where
it has been written is missing if a failure stops this. A script without an encoding stops it when
the file is open and empty. -/
def save (tree : Tree) (path : Path) (name : String) (script : Script.Rendered) :
    Except Crash Path × Tree :=
  match tree.isDirectory path with
  | .error error => (.error (.access error), tree)
  | .ok isDirectory =>
    let target := if isDirectory then path.child name else path
    match tree.makeDirectories target.root target.parent.names.reverse with
    | { tree := around, error := some error } => (.error (.access error), around)
    | { tree := around, error := none } =>
      match around.write target (script.encoded.toOption.getD "") with
      | .error error => (.error (.access error), around)
      | .ok written => (script.encoded.map fun _ => target, written)

def deliver (conversion : Conversion) (tree : Tree) (note name : String)
    (script : Script.Rendered) : Result :=
  match conversion.output with
  | none =>
    match script.encoded with
    | .ok text => .ok { stdout := text, stderr := note, tree }
    | .error crash => .error ⟨crash, tree⟩
  | some path =>
    match save tree path name script with
    | (.ok target, written) =>
      .ok { stderr := note ++ "Saved " ++ target.text ++ "\n", tree := written }
    | (.error crash, left) => .error ⟨crash, left⟩

section Conversions

variable (libraries : Libraries)

def failed (tree : Tree) (stderr message : String) : Outcome :=
  { exit := 1, stderr := stderr ++ libraries.failureReport message, tree }

def misused (tree : Tree) (message : String) : Outcome :=
  { exit := 2, stderr := libraries.usageReport message, tree }

def syntaxErrors (conversion : Conversion) (name : String) (script : Script.Rendered) :
    Except Crash (Entries String Script.SyntaxError) :=
  if conversion.check then do
    let text ← script.encoded
    Script.validate libraries.compile [(name, text)]
  else .ok []

def errorLines (errors : Entries String Script.SyntaxError) : String :=
  Text.joined "" (errors.map fun (name, error) => "  " ++ name ++ ": " ++ error.message ++ "\n")

def convertRequest (conversion : Conversion) (world : World) (options : Options)
    (request : Request) : Result :=
  let script := Script.rendered request options
  let note := conversion.note options.library
  let name := options.library.fileName
  match syntaxErrors libraries conversion name script with
  | .error crash => .error ⟨crash, world.tree⟩
  | .ok [] => deliver conversion world.tree note name script
  | .ok errors =>
    .ok (failed libraries world.tree (note ++ errorLines errors)
      "Generated code failed the syntax check.")

def convertText (conversion : Conversion) (world : World) (raw : String) : Result :=
  match Config.resolve libraries.toLibraries world.toEnvironment conversion.overrides
      conversion.config with
  | .error (.crash crash) => .error ⟨crash, world.tree⟩
  | .error error => .ok (failed libraries world.tree "" error.message)
  | .ok options =>
    match Command.parse libraries.construct raw with
    | .error (.refused crash) => .error ⟨crash, world.tree⟩
    | .error (.reported error) => .ok (failed libraries world.tree "" error.message)
    | .ok request => convertRequest libraries conversion world options request

def convert (conversion : Conversion) (world : World) : Result :=
  if 1 < conversion.sources then
    .ok (misused libraries world.tree "Give only one of COMMAND, --file or --example.")
  else
    match conversion.text world with
    | .error crash => .error ⟨crash, world.tree⟩
    | .ok raw =>
      if Text.isBlankText raw then .ok (misused libraries world.tree "No cURL command given.")
      else convertText libraries conversion world raw

end Conversions

inductive Refusal where
  | usage (report : String)
  | crash (crash : Crash)
deriving DecidableEq, Repr

abbrev Parsed := Except Refusal Conversion

def run (libraries : Libraries) (parsed : Parsed) (world : World) : Result :=
  match parsed with
  | .error (.usage report) => .ok { exit := 2, stderr := report, tree := world.tree }
  | .error (.crash crash) => .error ⟨crash, world.tree⟩
  | .ok conversion => convert libraries conversion world

def Outcome.printedBy (printed : String → String) (outcome : Outcome) : Outcome :=
  { outcome with stdout := printed outcome.stdout, stderr := printed outcome.stderr }

def ending (libraries : Libraries) (parsed : Parsed) (world : World) : Result :=
  (run libraries parsed world).map (Outcome.printedBy libraries.printed)

end CurlScript.Cli
