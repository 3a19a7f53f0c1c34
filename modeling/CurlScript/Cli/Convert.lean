import CurlScript.Cli
import CurlScript.Cli.Usage

/-!
The parser of the conversion command: from its arguments to the parameters of a conversion.
-/

namespace CurlScript.Cli

inductive ConvertOption where
  | file
  | example
  | library
  | includeImports
  | wrapAsync
  | addErrorHandling
  | useSession
  | config
  | output
  | check
  | help
deriving DecidableEq, Repr

def convertSpellings : Spellings ConvertOption :=
  [("-f", .file, .takesValue), ("--file", .file, .takesValue),
   ("--example", .example, .takesValue),
   ("-l", .library, .takesValue), ("--library", .library, .takesValue),
   ("--imports", .includeImports, .sets true), ("--no-imports", .includeImports, .sets false),
   ("--wrap-async", .wrapAsync, .sets true), ("--no-wrap-async", .wrapAsync, .sets false),
   ("--error-handling", .addErrorHandling, .sets true),
   ("--no-error-handling", .addErrorHandling, .sets false),
   ("--session", .useSession, .sets true), ("--no-session", .useSession, .sets false),
   ("--config", .config, .takesValue),
   ("-o", .output, .takesValue), ("--output", .output, .takesValue),
   ("--check", .check, .sets true),
   ("--help", .help, .sets true)]

def ConvertOption.label : ConvertOption → String
  | .file => "'-f' / '--file'"
  | .library => "'-l' / '--library'"
  | .config => "'--config'"
  | .example => "'--example'"
  | _ => ""

def ConvertOption.refuse (option : ConvertOption) (error : ValueError) : Refusal :=
  .usage (UsageError.report (.value option.label error) .convert)

namespace Conversion

def existing (tree : Tree) (option : ConvertOption) (value : String) : Except Refusal Path :=
  match tree.findText value with
  | .ok (.file _) => .ok (.ofText value)
  | .ok .directory => .error (option.refuse (.isDirectory value))
  | .error .holdsNull => .error (.crash (.access .holdsNull))
  | .error _ => .error (option.refuse (.noFile value))

def target (tree : Tree) (value : String) : Except Refusal Path :=
  match tree.findText value with
  | .error .holdsNull => .error (.crash (.access .holdsNull))
  | _ => .ok (.ofText value)

def sampleNumber (value : String) : Except Refusal Int :=
  match Number.integer? value with
  | none => .error (ConvertOption.refuse .example (.notInteger value))
  | some number =>
    if number < 1 then .error (ConvertOption.refuse .example (.notPositive number))
    else .ok number

def libraryNamed (value : String) : Except Refusal Library :=
  match Library.ofName? value with
  | some library => .ok library
  | none => .error (ConvertOption.refuse .library (.notLibrary value))

def set (tree : Tree) (conversion : Conversion) :
    ConvertOption → Given → Except Refusal Conversion
  | .file, .text value => return { conversion with file := some (← existing tree .file value) }
  | .example, .text value => return { conversion with sample := some (← sampleNumber value) }
  | .library, .text value => return { conversion with library := some (← libraryNamed value) }
  | .config, .text value =>
    return { conversion with config := some (← existing tree .config value) }
  | .output, .text value => return { conversion with output := some (← target tree value) }
  | .includeImports, .flag value => return { conversion with includeImports := some value }
  | .wrapAsync, .flag value => return { conversion with wrapAsync := some value }
  | .addErrorHandling, .flag value => return { conversion with addErrorHandling := some value }
  | .useSession, .flag value => return { conversion with useSession := some value }
  | .check, .flag value => return { conversion with check := value }
  | _, _ => return conversion

def setAll (tree : Tree) (arguments : Arguments ConvertOption) (conversion : Conversion) :
    List ConvertOption → Except Refusal Conversion
  | [] => .ok conversion
  | option :: rest =>
    match arguments.last? option with
    | none => setAll tree arguments conversion rest
    | some given => do
      let next ← conversion.set tree option given
      setAll tree arguments next rest

def ofArguments (tree : Tree) (arguments : Arguments ConvertOption) : Parsed := do
  let conversion ← setAll tree arguments {} arguments.inOrder
  match arguments.operands with
  | [] => return conversion
  | [command] => return { conversion with command := some command }
  | _ :: extra => .error (.usage (UsageError.report (.extra extra) .convert))

end Conversion

def parsed? (tree : Tree) (list : List String) : Option Parsed :=
  match Arguments.read convertSpellings false list with
  | .error error => some (.error (.usage (UsageError.report (.argument error) .convert)))
  | .ok arguments =>
    if (arguments.last? .help).isSome then none else some (Conversion.ofArguments tree arguments)

end CurlScript.Cli
