import CurlScript.Crash
import CurlScript.Record
import CurlScript.Request.Draft

/-!
Requests from loosely typed fields.
-/

namespace CurlScript

namespace Request

open Record

def url? : Reading { url : String // url ≠ "" } := fun path value =>
  match text path value with
  | .valid url => if hasUrl : url = "" then fail path .emptyText else .valid ⟨url, hasUrl⟩
  | .invalid issues => .invalid issues

def credentials : Reading Credentials := fun path value =>
  match value with
  | .object fields =>
    (required fields path "user" text).map Credentials.mk
      |>.ap (optional fields path "password" "" text)
  | _ => fail path .notRecord

def ofFields (fields : Entries String Json) : Checked Request :=
  let make (url : { url : String // url ≠ "" }) method headers cookies data auth proxy proxyAuth
      insecure timeout : Request :=
    { url := url.val, method, headers, cookies, data, auth, proxy, proxyAuth, insecure, timeout,
      hasUrl := url.property }
  (required fields [] "url" url?).map make
    |>.ap (optional fields [] "method" "GET" text)
    |>.ap (optional fields [] "headers" [] textMapping)
    |>.ap (optional fields [] "cookies" [] textMapping)
    |>.ap (optional fields [] "data" none (orNull text))
    |>.ap (optional fields [] "auth" none (orNull credentials))
    |>.ap (optional fields [] "proxy" none (orNull text))
    |>.ap (optional fields [] "proxy_auth" none (orNull text))
    |>.ap (optional fields [] "insecure" false bool)
    |>.ap (optional fields [] "timeout" none (orNull number))

def construct (fields : Entries String Json) : Except Crash Request :=
  match ofFields fields with
  | .valid request => .ok request
  | .invalid _ => .error (.foreign "ValidationError")

end Request

end CurlScript
