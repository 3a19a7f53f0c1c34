import CurlScript.Cli.Argument
import CurlScript.Options
import CurlScript.Text.Display

/-!
How the program is called, and what is said about a wrong call.
-/

namespace CurlScript.Cli

inductive Command where
  | program
  | convert
  | examples
deriving DecidableEq, Repr

def Command.call : Command → String
  | .program => "main"
  | .convert => "main convert"
  | .examples => "main examples"

def Command.usage : Command → String
  | .program => "Usage: main [OPTIONS] COMMAND [ARGS]..."
  | .convert => "Usage: main convert [OPTIONS] [COMMAND]"
  | .examples => "Usage: main examples [OPTIONS]"

inductive ValueError where
  | notLibrary (value : String)
  | notInteger (value : String)
  | notPositive (value : Int)
  | noFile (value : String)
  | isDirectory (value : String)
deriving DecidableEq, Repr

def ValueError.message : ValueError → String
  | .notLibrary value =>
    Text.display value ++ " is not one of " ++
      Text.joined ", " (Library.all.map fun library => Text.display library.name) ++ "."
  | .notInteger value => Text.display value ++ " is not a valid integer range."
  | .notPositive value => toString value ++ " is not in the range x>=1."
  | .noFile value => "File " ++ Text.display value ++ " does not exist."
  | .isDirectory value => "File " ++ Text.display value ++ " is a directory."

inductive UsageError where
  | argument (error : ArgumentError)
  | value (option : String) (error : ValueError)
  | extra (arguments : List String)
  | noSuchCommand (name : String)
  | missingCommand
deriving DecidableEq, Repr

def UsageError.message : UsageError → String
  | .argument (.unknownOption spelling) => "No such option " ++ Text.display spelling ++ "."
  | .argument (.missingValue spelling) => "Option '" ++ spelling ++ "' requires an argument."
  | .argument (.unwantedValue spelling) => "Option '" ++ spelling ++ "' does not take a value."
  | .value option error => "Invalid value for " ++ option ++ ": " ++ error.message
  | .extra [single] => "Got unexpected extra argument (" ++ single ++ ")"
  | .extra arguments => "Got unexpected extra arguments (" ++ Text.joined " " arguments ++ ")"
  | .noSuchCommand name => "No such command " ++ Text.display name ++ "."
  | .missingCommand => "Missing command."

def UsageError.showsUsage : UsageError → Bool
  | .argument (.missingValue _) => false
  | .argument (.unwantedValue _) => false
  | _ => true

def errorLine (message : String) : String :=
  "Error: " ++ message ++ "\n"

def Command.misuse (command : Command) (message : String) : String :=
  command.usage ++ "\nTry '" ++ command.call ++ " --help' for help.\n\n" ++ errorLine message

def UsageError.report (error : UsageError) (command : Command) : String :=
  if error.showsUsage then command.misuse error.message else errorLine error.message

end CurlScript.Cli
