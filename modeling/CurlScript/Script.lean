import CurlScript.Command.Request
import CurlScript.Crash
import CurlScript.Options
import CurlScript.Script.Call
import CurlScript.Script.Preamble
import CurlScript.Script.Writer
import CurlScript.Text.Display

/-!
The script that sends a request with a client library.
-/

namespace CurlScript.Script

def modules : Library → List String
  | .requests => ["requests"]
  | .httpxSync => ["httpx"]
  | .httpxAsync => ["asyncio", "httpx"]
  | .aiohttp => ["asyncio", "aiohttp"]

def imports (library : Library) : List Piece :=
  (modules library).map (fun module => .line ("import " ++ module)) ++ [.line ""]

def body (request : Draft) (options : Options) : List Piece :=
  let switches := options.toSwitches
  match options.library with
  | .requests => syncBody requestsClient shortcuts (requestsArguments request) request switches
  | .httpxSync =>
    syncBody httpxClient (httpxShortcuts request) (httpxArguments request) request switches
  | .httpxAsync =>
    asyncBody switches.wrapAsync (httpxAsyncCall request switches.addErrorHandling)
  | .aiohttp => asyncBody switches.wrapAsync (aiohttpCall request switches.addErrorHandling)

def pieces (request : Draft) (options : Options) : List Piece :=
  (if options.includeImports then imports options.library else []) ++ preamble request ++
    body request options

def ofRequest (request : Request) (options : Options) : String :=
  write (pieces request.toDraft options)

/-- A script as a text that may have no encoding: a body in it may hold a surrogate that lacks its
partner. -/
structure Rendered where
  text : String
  encodes : Bool
deriving DecidableEq, Repr

def rendered (request : Request) (options : Options) : Rendered where
  text := ofRequest request options
  encodes := !Json.holdsLone (request.data.getD "")

def Rendered.encoded (script : Rendered) : Except Crash String :=
  if script.encodes then .ok script.text else .error .noEncoding

structure UnsupportedLibrary where
  name : String
deriving DecidableEq, Repr

def UnsupportedLibrary.message (error : UnsupportedLibrary) : String :=
  "Unsupported library: " ++ Text.display error.name

def ofNamed (request : Request) (name : String) (switches : Switches) :
    Except UnsupportedLibrary String :=
  match Library.ofName? name with
  | some library => .ok (ofRequest request { switches with library })
  | none => .error ⟨name⟩

def ofCommand (raw : String) (options : Options) : Except Command.Error String := do
  let request ← Command.request raw
  return ofRequest request options

end CurlScript.Script
