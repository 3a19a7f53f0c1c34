import CurlScript.Entries
import CurlScript.Number.Double

/-!
HTTP requests as a command describes them.
-/

namespace CurlScript

structure Credentials where
  user : String
  password : String := ""
deriving DecidableEq, Repr

structure Draft where
  url : String := ""
  method : String := "GET"
  headers : Entries String String := []
  cookies : Entries String String := []
  data : Option String := none
  auth : Option Credentials := none
  proxy : Option String := none
  proxyAuth : Option String := none
  insecure : Bool := false
  timeout : Option Number.Double := none
deriving DecidableEq, Repr

structure Request extends Draft where
  hasUrl : url ≠ ""
deriving DecidableEq, Repr

def Request.ofDraft? (draft : Draft) : Option Request :=
  if hasUrl : draft.url = "" then none else some { draft with hasUrl }

theorem Request.toDraft_of_ofDraft? (draft : Draft) (request : Request)
    (found : Request.ofDraft? draft = some request) : request.toDraft = draft := by
  unfold Request.ofDraft? at found
  split at found
  · simp at found
  · simpa using (congrArg Request.toDraft (Option.some.inj found)).symm

end CurlScript
