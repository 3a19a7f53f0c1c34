import CurlScript.Cli
import CurlScript.Cli.Usage
import CurlScript.Config.Builtin
import CurlScript.Request.Fields
import CurlScript.Text.ControlSequence

/-!
The libraries that a conversion uses when the program runs. Its compiler looks for strings and
brackets that are open, and for nothing else.
-/

namespace CurlScript

def Script.scan : Script.Compiler := fun text =>
  .ok ((Script.fault? text).map fun fault => ⟨fault.reason, some fault.line⟩)

namespace Cli

def printedText (text : String) : String :=
  String.ofList (Text.dropSequences text.toList)

def builtin : Libraries where
  toLibraries := Config.builtin
  construct := Request.construct
  compile := Script.scan
  printed := printedText
  usageReport := Command.misuse .convert
  failureReport := errorLine

end Cli

end CurlScript
