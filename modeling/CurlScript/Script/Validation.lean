import CurlScript.Crash
import CurlScript.Script.Check

/-!
The files that a compiler does not accept.
-/

namespace CurlScript.Script

structure SyntaxError where
  reason : String
  line : Option Nat
deriving DecidableEq, Repr

def SyntaxError.message (error : SyntaxError) : String :=
  "SyntaxError: " ++ error.reason ++
    " (line " ++ ((error.line.map toString).getD "None") ++ ")"

abbrev Compiler := String → Except Crash (Option SyntaxError)

/-- What a compiler accepts has no string that is open at its end and no bracket without a
partner. -/
def Compiler.FindsFaults (compile : Compiler) : Prop :=
  ∀ text, compile text = .ok none → fault? text = none

def validate (compile : Compiler) :
    Entries String String → Except Crash (Entries String SyntaxError)
  | [] => .ok []
  | (name, text) :: rest =>
    if isChecked name text then do
      let error ← compile text
      let errors ← validate compile rest
      return (error.map fun error => (name, error)).toList ++ errors
    else validate compile rest

end CurlScript.Script
