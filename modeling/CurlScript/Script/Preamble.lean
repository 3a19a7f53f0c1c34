import CurlScript.Script.Argument
import CurlScript.Script.Piece

/-!
The variables that a script assigns ahead of its call.
-/

namespace CurlScript.Script

/-- The literal of a body. In it the replacement character stands for a surrogate without a partner,
which a script with an encoding does not hold. -/
def bodyLiteral (data : String) : String :=
  match Json.read? data with
  | some value => Literal.ofJson 0 value
  | none => Literal.quote data

def assignment (name literal : String) : List Piece :=
  [.raw (name ++ " = " ++ literal), .line ""]

def mappingAssignment (name : String) (entries : Entries String String) : List Piece :=
  if entries.isEmpty then [] else assignment name (Literal.ofEntries entries)

def preamble (request : Draft) : List Piece :=
  mappingAssignment "headers" request.headers ++ mappingAssignment "cookies" request.cookies ++
    ((nonEmpty? request.data).map fun data => assignment "data" (bodyLiteral data)).getD []

end CurlScript.Script
