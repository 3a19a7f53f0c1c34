import CurlScript.Options
import CurlScript.Script.Argument
import CurlScript.Script.Piece

/-!
The call that sends a request, and the statements around it, for each client library.
-/

namespace CurlScript.Script

def shortcuts : List String :=
  ["get", "post", "put", "patch", "delete", "head", "options"]

def bodyShortcuts : List String :=
  ["post", "put", "patch"]

def httpxShortcuts (request : Draft) : List String :=
  if (bodyKeyword? request).isSome then bodyShortcuts else shortcuts

structure Callee where
  function : String
  positional : List String
deriving DecidableEq, Repr

def Callee.of (receiver : String) (names : List String) (request : Draft) : Callee :=
  let name := String.ofList (Text.lower request.method.toList)
  if names.contains name then ⟨receiver ++ "." ++ name, [Literal.quote request.url]⟩
  else ⟨receiver ++ ".request", [Literal.quote request.method, Literal.quote request.url]⟩

def guarded (error : String) (statements : List Piece) : List Piece :=
  [.block "try:" statements,
   .block ("except " ++ error ++ " as e:") [.line "print(f\"Error: \x7be\x7d\")"]]

def guardedIf (handles : Bool) (error : String) (statements : List Piece) : List Piece :=
  if handles then guarded error statements else statements

def responseCall (callee : Callee) (arguments : List String) : Piece :=
  .call ("response = " ++ callee.function ++ "(") (callee.positional ++ arguments) ")"

def statusCheck (handles : Bool) : List Piece :=
  if handles then [.line "response.raise_for_status()"] else []

structure SyncClient where
  module : String
  session : String
  receiver : String
  error : String
deriving DecidableEq, Repr

def requestsClient : SyncClient where
  module := "requests"
  session := "requests.Session()"
  receiver := "session"
  error := "requests.RequestException"

def httpxClient : SyncClient where
  module := "httpx"
  session := "httpx.Client()"
  receiver := "client"
  error := "httpx.HTTPError"

def syncCall (client : SyncClient) (receiver : String) (names arguments : List String)
    (request : Draft) (handles : Bool) : List Piece :=
  guardedIf handles client.error
    (responseCall (.of receiver names request) arguments :: statusCheck handles ++
      [.line (if handles then "print(response.json())" else "print(response.text)")])

def syncBody (client : SyncClient) (names arguments : List String) (request : Draft)
    (switches : Switches) : List Piece :=
  if switches.useSession then
    [.block ("with " ++ client.session ++ " as " ++ client.receiver ++ ":")
      (syncCall client client.receiver names arguments request switches.addErrorHandling)]
  else syncCall client client.module names arguments request switches.addErrorHandling

def result (returns : Bool) (expression : String) : Piece :=
  .line (if returns then "return " ++ expression else "print(" ++ expression ++ ")")

def httpxAsyncCall (request : Draft) (handles returns : Bool) : List Piece :=
  let callee := Callee.of "await client" (httpxShortcuts request) request
  guardedIf handles "httpx.HTTPError"
    [.block "async with httpx.AsyncClient() as client:"
      (responseCall callee (httpxArguments request) :: statusCheck handles ++
        [result returns (if handles then "response.json()" else "response.text")])]

def aiohttpCall (request : Draft) (handles returns : Bool) : List Piece :=
  let callee := Callee.of "session" shortcuts request
  guardedIf handles "aiohttp.ClientError"
    [.block ("async with aiohttp.ClientSession(" ++ Text.joined ", " (sessionArguments request) ++
        ") as session:")
      [.call ("async with " ++ callee.function ++ "(")
        (callee.positional ++ aiohttpArguments request) ") as response:",
       .indented (statusCheck handles ++
        [result returns (if handles then "await response.json()" else "await response.text()")])]]

def asyncBody (wraps : Bool) (statements : Bool → List Piece) : List Piece :=
  if wraps then
    [.block "async def main():" (statements true), .line "", .line "",
     .block "if __name__ == \"__main__\":" [.line "print(asyncio.run(main()))"]]
  else statements false

end CurlScript.Script
