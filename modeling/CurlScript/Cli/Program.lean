import CurlScript.Cli.Builtin
import CurlScript.Cli.Convert

/-!
The program as a function of its arguments, its input and the file tree.
-/

namespace CurlScript.Cli

def refused (tree : Tree) (command : Command) (error : UsageError) : Outcome :=
  { exit := 2, stderr := error.report command, tree }

def sampleLines : String :=
  Text.joined "" ((Sample.all.zipIdx 1).map fun (sample, number) =>
    toString number ++ ". " ++ sample ++ "\n")

def help (tree : Tree) (command : Command) : Outcome :=
  { stdout := command.usage ++ "\n", tree }

def helpSpellings : Spellings Unit :=
  [("--help", (), .sets true)]

def readsInput (tree : Tree) : List String → Bool
  | "convert" :: rest =>
    match parsed? tree rest with
    | some (.ok conversion) => conversion.sources == 0
    | _ => false
  | _ => false

def paths (pathVariable : Option String) (home : String) (arguments : List String) : List Path :=
  let given := (arguments ++ pathVariable.toList).map Path.ofText
  let joined := arguments.filterMap fun argument =>
    (splitAssignment argument.toList).2.map fun value => Path.ofText (String.ofList value)
  let targets := given ++ joined ++
    arguments.map fun argument => Path.ofText (String.ofList (argument.toList.drop 2))
  (Config.userPath home).toOption.toList ++ targets ++
    targets.flatMap fun path => Library.all.map fun library => path.child library.fileName

def runConvert (world : World) (arguments : List String) : Result :=
  match parsed? world.tree arguments with
  | none => .ok (help world.tree .convert)
  | some parsed => run builtin parsed world

def runExamples (world : World) (arguments : List String) : Outcome :=
  match Arguments.read helpSpellings false arguments with
  | .error error => refused world.tree .examples (.argument error)
  | .ok arguments =>
    if !arguments.options.isEmpty then help world.tree .examples
    else if !arguments.operands.isEmpty then
      refused world.tree .examples (.extra arguments.operands)
    else { stdout := sampleLines, tree := world.tree }

def unknownCommand (tree : Tree) (name : String) (rest : List String) : Outcome :=
  match Arguments.read helpSpellings true (name :: rest) with
  | .error error => refused tree .program (.argument error)
  | .ok arguments =>
    if arguments.options.isEmpty then refused tree .program (.noSuchCommand name)
    else help tree .program

def perform (world : World) (arguments : List String) : Result :=
  match Arguments.read helpSpellings true arguments with
  | .error error => .ok (refused world.tree .program (.argument error))
  | .ok { options, operands } =>
    if !options.isEmpty then .ok (help world.tree .program)
    else
      match operands with
      | [] =>
        if arguments.isEmpty then .ok { help world.tree .program with exit := 2 }
        else .ok (refused world.tree .program .missingCommand)
      | "convert" :: rest => runConvert world rest
      | "examples" :: rest => .ok (runExamples world rest)
      | name :: rest => .ok (unknownCommand world.tree name rest)

def program (world : World) (arguments : List String) : Result :=
  (perform world arguments).map (Outcome.printedBy builtin.printed)

end CurlScript.Cli
