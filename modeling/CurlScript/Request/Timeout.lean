import CurlScript.Number.Numeral
import CurlScript.Text.Blank

/-!
Timeouts: the number at the start of a text, in the digits of any script. What follows the number
does not matter.
-/

namespace CurlScript.Timeout

def read? (text : String) : Option Number.Double :=
  match Number.leadingNumeral Text.digitValue? (Text.trim text.toList) with
  | none => none
  | some (decimal, _) =>
    let seconds := Number.Double.nearest decimal
    if seconds.isFinite then some seconds else none

end CurlScript.Timeout
