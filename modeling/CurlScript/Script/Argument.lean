import CurlScript.Json.Reader
import CurlScript.Literal
import CurlScript.Request
import CurlScript.Text.LetterCase

/-!
The arguments of the call that sends a request, and of the session around it, for each client
library.
-/

namespace CurlScript.Script

def hasJsonType (headers : Entries String String) : Bool :=
  match headers.find? fun header => Text.isWord header.1 "content-type" with
  | some header => (Text.cutAtText "json".toList header.2.toList).2.isSome
  | none => false

def isJsonBody (request : Draft) : Bool :=
  (Json.read? (request.data.getD "")).isSome || hasJsonType request.headers

def nonEmpty? (text : Option String) : Option String :=
  text.filter fun text => !text.isEmpty

def bodyArgument (json : Bool) : String :=
  if json then "json=data" else "data=data"

def bodyKeyword? (request : Draft) : Option String :=
  (nonEmpty? request.data).map fun _ => bodyArgument (isJsonBody request)

def proxyUrl? (request : Draft) : Option String :=
  (nonEmpty? request.proxy).map fun proxy =>
    let (scheme, host) := match Text.cutAtText "://".toList proxy.toList with
      | (scheme, some host) => (String.ofList scheme, String.ofList host)
      | (_, none) => ("http", proxy)
    match nonEmpty? request.proxyAuth with
    | some auth => scheme ++ "://" ++ auth ++ "@" ++ host
    | none => scheme ++ "://" ++ host

def timeout? (request : Draft) : Option Number.Double :=
  request.timeout.filter fun seconds => !seconds.isZero

def credentialArguments (credentials : Credentials) : String :=
  "(" ++ Literal.quote credentials.user ++ ", " ++ Literal.quote credentials.password ++ ")"

def payloadArguments (request : Draft) : List String :=
  (if request.headers.isEmpty then [] else ["headers=headers"]) ++
  (if request.cookies.isEmpty then [] else ["cookies=cookies"]) ++
  (bodyKeyword? request).toList

def requestsArguments (request : Draft) : List String :=
  payloadArguments request ++
  (request.auth.map fun credentials => "auth=" ++ credentialArguments credentials).toList ++
  ((proxyUrl? request).map fun url =>
    "proxies=\x7b'http': " ++ Literal.quote url ++ ", 'https': " ++ Literal.quote url ++
      "\x7d").toList ++
  (if request.insecure then ["verify=False"] else []) ++
  ((timeout? request).map fun seconds => "timeout=" ++ Literal.ofNumber seconds).toList

def httpxArguments (request : Draft) : List String :=
  payloadArguments request ++
  (request.auth.map fun credentials => "auth=" ++ credentialArguments credentials).toList ++
  ((proxyUrl? request).map fun url => "proxy=" ++ Literal.quote url).toList ++
  (if request.insecure then ["verify=False"] else []) ++
  ((timeout? request).map fun seconds => "timeout=" ++ Literal.ofNumber seconds).toList

def aiohttpArguments (request : Draft) : List String :=
  payloadArguments request ++
  ((proxyUrl? request).map fun url => "proxy=" ++ Literal.quote url).toList ++
  (if request.insecure then ["ssl=False"] else [])

def sessionArguments (request : Draft) : List String :=
  (request.auth.map fun credentials =>
    "auth=aiohttp.BasicAuth" ++ credentialArguments credentials).toList ++
  ((timeout? request).map fun seconds =>
    "timeout=aiohttp.ClientTimeout(total=" ++ Literal.ofNumber seconds ++ ")").toList

end CurlScript.Script
