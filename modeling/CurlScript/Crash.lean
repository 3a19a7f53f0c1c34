import CurlScript.Tree

/-!
Failures that the program does not report: it ends with them. One that comes out of a library is
known by its kind only.
-/

namespace CurlScript

inductive Crash where
  | unorderedKeys
  | unreadableNumber
  | noHome
  | noEncoding
  | foreign (kind : String)
  | access (error : Tree.Error)
deriving DecidableEq, Repr

def Crash.message : Crash → String
  | .unorderedKeys => "Unknown options of different kinds"
  | .unreadableNumber => "A number without a value"
  | .noHome => "Could not determine home directory."
  | .noEncoding => "A surrogate without its partner"
  | .foreign kind => kind
  | .access error => error.message

end CurlScript
