/-!
Arguments of a command line: options with their values, and operands. Long options may carry a value
after an equals sign, short ones may be joined.
-/

namespace CurlScript.Cli

inductive Role where
  | takesValue
  | sets (value : Bool)
deriving DecidableEq, Repr

inductive Given where
  | text (value : String)
  | flag (value : Bool)
deriving DecidableEq, Repr

abbrev Spellings (ω : Type) := List (String × ω × Role)

inductive ArgumentError where
  | unknownOption (spelling : String)
  | missingValue (spelling : String)
  | unwantedValue (spelling : String)
deriving DecidableEq, Repr

structure Arguments (ω : Type) where
  options : List (ω × Given) := []
  operands : List String := []
deriving DecidableEq, Repr

variable {ω : Type}

namespace Arguments

def withOptions (options : List (ω × Given)) (arguments : Arguments ω) : Arguments ω :=
  { arguments with options := options ++ arguments.options }

def withOperand (operand : String) (arguments : Arguments ω) : Arguments ω :=
  { arguments with operands := operand :: arguments.operands }

end Arguments

structure Cluster (ω : Type) where
  complete : List (ω × Given) := []
  pending : Option (String × ω) := none
deriving Repr

def splitAssignment (text : List Char) : List Char × Option (List Char) :=
  (text.takeWhile (· ≠ '='), (text.dropWhile (· ≠ '=')).tail?)

def long? (spellings : Spellings ω) (argument : String) :
    Option (Except ArgumentError (Cluster ω)) :=
  let (before, after) := splitAssignment argument.toList
  let spelling := String.ofList before
  if before.take 2 ≠ ['-', '-'] then none
  else
    (spellings.lookup spelling).map fun (option, role) =>
      match role, after with
      | .takesValue, some value => .ok { complete := [(option, .text (String.ofList value))] }
      | .takesValue, none => .ok { pending := some (spelling, option) }
      | .sets value, none => .ok { complete := [(option, .flag value)] }
      | .sets _, some _ => .error (.unwantedValue spelling)

def short (spellings : Spellings ω) : List Char → Except ArgumentError (Cluster ω)
  | [] => .ok {}
  | c :: rest =>
    let spelling := String.ofList ['-', c]
    match spellings.lookup spelling with
    | none => .error (.unknownOption spelling)
    | some (option, .takesValue) =>
      if rest.isEmpty then .ok { pending := some (spelling, option) }
      else .ok { complete := [(option, .text (String.ofList rest))] }
    | some (option, .sets value) => do
      let cluster ← short spellings rest
      return { cluster with complete := (option, .flag value) :: cluster.complete }

def cluster (spellings : Spellings ω) (argument : String) : Except ArgumentError (Cluster ω) :=
  match long? spellings argument with
  | some found => found
  | none =>
    let spelling := (splitAssignment argument.toList).1
    if argument.toList.take 2 = ['-', '-'] then .error (.unknownOption (String.ofList spelling))
    else short spellings (argument.toList.drop 1)

def isOption (argument : String) : Bool :=
  argument.startsWith "-" && argument ≠ "-"

def Arguments.read (spellings : Spellings ω) (optionsFirst : Bool) :
    List String → Except ArgumentError (Arguments ω)
  | [] => .ok {}
  | argument :: rest =>
    if argument = "--" then .ok { operands := rest }
    else if isOption argument then
      match cluster spellings argument with
      | .error error => .error error
      | .ok { complete, pending := none } => do
        let arguments ← read spellings optionsFirst rest
        return arguments.withOptions complete
      | .ok { complete, pending := some (spelling, option) } =>
        match rest with
        | [] => .error (.missingValue spelling)
        | value :: rest => do
          let arguments ← read spellings optionsFirst rest
          return arguments.withOptions (complete ++ [(option, .text value)])
    else if optionsFirst then .ok { operands := argument :: rest }
    else do
      let arguments ← read spellings optionsFirst rest
      return arguments.withOperand argument

def Arguments.last? [BEq ω] (arguments : Arguments ω) (option : ω) : Option Given :=
  arguments.options.reverse.lookup option

def Arguments.inOrder [BEq ω] (arguments : Arguments ω) : List ω :=
  (arguments.options.map (·.1)).eraseDups

end CurlScript.Cli
