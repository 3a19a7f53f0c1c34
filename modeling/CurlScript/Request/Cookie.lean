import CurlScript.Request
import CurlScript.Text.Blank
import CurlScript.Text.Cut

/-!
Cookie lists: `name=value` segments with semicolons between them.
-/

namespace CurlScript.Cookie

def ofSegment? (segment : List Char) : Option (String × String) :=
  match Text.cut '=' segment with
  | ([], _) => none
  | (_, none) => none
  | (name, some value) => some (String.ofList (Text.trim name), String.ofList (Text.trim value))

def pairs (text : String) : List (String × String) :=
  (Text.pieces ';' text.toList).filterMap ofSegment?

def addAll (text : String) (cookies : Entries String String) : Entries String String :=
  Entries.insertAll (pairs text) cookies

end CurlScript.Cookie
