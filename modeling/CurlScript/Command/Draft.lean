import CurlScript.Command.Item
import CurlScript.Request.Cookie
import CurlScript.Request.Timeout
import CurlScript.Text.LetterCase

/-!
What the items of a command line do to a draft.
-/

namespace CurlScript.Draft

open Command

def setMethod (draft : Draft) (value : Option String) : Draft :=
  match value with
  | none => { draft with method := "GET" }
  | some method => { draft with method := if method.isEmpty then "GET" else Text.upper method }

def addHeader (draft : Draft) (text : String) : Draft :=
  match Text.cut ':' text.toList with
  | (_, none) => draft
  | (before, some after) =>
    let name := String.ofList (Text.trim before)
    let value := String.ofList (Text.trim after)
    if Text.isWord name "cookie" then { draft with cookies := Cookie.addAll value draft.cookies }
    else { draft with headers := Entries.insert name value draft.headers }

def setData (draft : Draft) (value : Option String) : Draft :=
  { draft with
    data := value
    method := if draft.method = "GET" then "POST" else draft.method }

def setAuth (draft : Draft) (text : String) : Draft :=
  let parts := Text.cut ':' text.toList
  { draft with
    auth := some ⟨String.ofList parts.1, String.ofList (parts.2.getD [])⟩ }

def applyText (draft : Draft) (text : String) : ValueFlag → Draft
  | .method => draft.setMethod (some text)
  | .header => draft.addHeader text
  | .data => draft.setData (some text)
  | .cookie => { draft with cookies := Cookie.addAll text draft.cookies }
  | .user => draft.setAuth text
  | .proxy => { draft with proxy := some text }
  | .proxyUser => { draft with proxyAuth := some text }
  | .userAgent => { draft with headers := Entries.insert "User-Agent" text draft.headers }
  | .referer => { draft with headers := Entries.insert "Referer" text draft.headers }
  | .timeout => { draft with timeout := Timeout.read? text }

/-- The effect of a value flag whose value is missing or empty: only the method, the body and the
proxy settings take it. -/
def applyEmpty (draft : Draft) (value : Option String) : ValueFlag → Draft
  | .method => draft.setMethod value
  | .data => draft.setData value
  | .proxy => { draft with proxy := value }
  | .proxyUser => { draft with proxyAuth := value }
  | _ => draft

def applyFlag (draft : Draft) (flag : ValueFlag) (value : Option String) : Draft :=
  match value with
  | none => draft.applyEmpty none flag
  | some text => if text.isEmpty then draft.applyEmpty value flag else draft.applyText text flag

def apply (draft : Draft) : Item → Draft
  | .value flag argument => draft.applyFlag flag argument
  | .insecure => { draft with insecure := true }
  | .skipped _ => draft
  | .operand token => if draft.url.isEmpty then { draft with url := token } else draft

def ofTokens (tokens : List String) : Draft :=
  (Item.ofTokens tokens.tail).foldl apply {}

end CurlScript.Draft
