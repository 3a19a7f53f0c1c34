import CurlScript.Command
import CurlScript.Command.Draft
import CurlScript.Command.Token
import CurlScript.Request.Draft

/-!
The request that a command text describes.
-/

namespace CurlScript.Command

inductive Error where
  | notCurl
  | noUrl
deriving DecidableEq, Repr

def Error.message : Error → String
  | .notCurl => "Command must start with \"curl\""
  | .noUrl => "URL not found"

def request (raw : String) : Except Error Request :=
  let command := normalize raw
  if isCurl command then
    match Request.ofDraft? (Draft.ofTokens (tokenize command)) with
    | some request => .ok request
    | none => .error .noUrl
  else .error .notCurl

inductive Failure (ε : Type) where
  | reported (error : Error)
  | refused (error : ε)
deriving DecidableEq, Repr

def parse {ε ρ : Type} (construct : Entries String Json → Except ε ρ) (raw : String) :
    Except (Failure ε) ρ :=
  match request raw with
  | .error error => .error (.reported error)
  | .ok request => (construct request.toDraft.fields).mapError .refused

end CurlScript.Command
