import CurlScript.Command
import CurlScript.Proofs.Command.Spelling
import CurlScript.Proofs.Text.LetterCase

/-!
The name of the program at the start of a command line. The test on the text of the command and
the first token of its scan agree.
-/

namespace CurlScript.Command

open Text

def NamesCurl (command : String) : Prop :=
  lower command.toList = "curl".toList ∨ "curl ".toList <+: lower command.toList

theorem isCurl_iff (command : String) : isCurl command = true ↔ NamesCurl command := by
  simp [isCurl, NamesCurl]

end CurlScript.Command
