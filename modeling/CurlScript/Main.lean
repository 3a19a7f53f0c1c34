import CurlScript.Cli.Program

/-!
The command line. It observes the files that a run may look at, runs, and carries out what the run
leaves behind.
-/

namespace CurlScript

def Location.text (location : Location) : String :=
  "/" ++ Text.joined "/" location

def entryAt? (location : Location) : IO (Option Entry) := do
  try
    return some (.file (← IO.FS.readFile ⟨location.text⟩))
  catch
    | .inappropriateType .. => return some .directory
    | _ => return none

def observeFrom (tree : Tree) (done : Location) : List String → IO Tree
  | [] => return tree
  | name :: rest => do
    let location := Tree.step done name
    match tree.at? location with
    | some .directory => observeFrom tree location rest
    | some (.file _) => return tree
    | none =>
      match ← entryAt? location with
      | some .directory => observeFrom (tree.put location .directory) location rest
      | some entry => return tree.put location entry
      | none => return tree

partial def readInput (stream : IO.FS.Stream) (text : String) : IO String := do
  let line ← stream.getLine
  if line.isEmpty then return text else readInput stream (text ++ line)

def carryOut (before after : Tree) : IO Unit :=
  for (location, text) in after.filesBeyond before do
    IO.FS.createDirAll ⟨Location.text location.dropLast⟩
    IO.FS.writeFile ⟨location.text⟩ text

def runOnMachine (arguments : List String) : IO UInt32 := do
  let pathVariable ← IO.getEnv "CURL2PY_CONFIG"
  let home := (← IO.getEnv "HOME").getD ""
  let current := (Path.ofText (← IO.currentDir).toString).names
  let mut tree : Tree := { current }
  for path in Cli.paths pathVariable home arguments do
    tree ← observeFrom tree (tree.start path.isAbsolute) path.names
  let input ←
    if Cli.readsInput tree arguments then readInput (← IO.getStdin) "" else pure ""
  match Cli.program { tree, pathVariable, home, input } arguments with
  | .ok outcome =>
    IO.print outcome.stdout
    IO.eprint outcome.stderr
    carryOut tree outcome.tree
    return outcome.exit.toUInt32
  | .error stop =>
    carryOut tree stop.tree
    IO.eprintln stop.crash.message
    return 1

end CurlScript

def main (arguments : List String) : IO UInt32 :=
  CurlScript.runOnMachine arguments
