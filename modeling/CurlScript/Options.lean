import CurlScript.Text.Cut

/-!
The client libraries and the switches that shape a script.
-/

namespace CurlScript

inductive Library where
  | requests
  | httpxSync
  | httpxAsync
  | aiohttp
deriving DecidableEq, Repr

namespace Library

def all : List Library :=
  [.requests, .httpxSync, .httpxAsync, .aiohttp]

def name : Library → String
  | .requests => "requests"
  | .httpxSync => "httpx_sync"
  | .httpxAsync => "httpx_async"
  | .aiohttp => "aiohttp"

def ofName? (text : String) : Option Library :=
  all.find? fun library => library.name == text

def isAsync : Library → Bool
  | .requests | .httpxSync => false
  | .httpxAsync | .aiohttp => true

def fileName (library : Library) : String :=
  "request-" ++ Text.joined "-" ((Text.pieces '_' library.name.toList).map String.ofList) ++ ".py"

end Library

structure Switches where
  includeImports : Bool
  wrapAsync : Bool
  addErrorHandling : Bool
  useSession : Bool
deriving DecidableEq, Repr

structure Options extends Switches where
  library : Library
deriving DecidableEq, Repr

namespace Options

def fieldNames : List String :=
  ["library", "include_imports", "wrap_async", "add_error_handling", "use_session"]

end Options

end CurlScript
