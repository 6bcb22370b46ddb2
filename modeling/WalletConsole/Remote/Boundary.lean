import WalletConsole.Remote.Client

/-!
# Between browser and server

The browser does not call the backend itself. It calls a function of the server, which makes the
call; what goes wrong there comes back as a `CallError`, whose text carries the `FetchError` as
JSON.

* `FetchError.toCallError`, `FetchError.ofCallError` — there and back
* `ServerState.run` — the function of the server that makes a call
-/

namespace WalletConsole

open Json

/-- What can go wrong with a call of a server function. -/
inductive CallError where
  | registration (message : String)
  | request (message : String)
  | response (message : String)
  | serverError (message : String)
  | middleware (message : String)
  | deserialization (message : String)
  | serialization (message : String)
  | args (message : String)
  | missingArg (message : String)
  deriving DecidableEq, Repr

/-- How a message shows it. -/
def CallError.message : CallError → String
  | .registration m => "error while trying to register the server function: " ++ m
  | .request m => "error reaching server to call server function: " ++ m
  | .response m => "error creating response " ++ m
  | .serverError m => "error running server function: " ++ m
  | .middleware m => "error running middleware: " ++ m
  | .deserialization m => "error deserializing server function results: " ++ m
  | .serialization m => "error serializing server function arguments: " ++ m
  | .args m => "error deserializing server function arguments: " ++ m
  | .missingArg m => "missing argument " ++ m

namespace FetchError

/-- Sends a failure back to the browser. -/
def toCallError (e : FetchError) : CallError := .serverError (Wire.write e)

/--
The failure that the browser shows. A server function that ran sends one back as JSON; any other
text of its is a reason. What went wrong before it ran or after means that no answer came or that it
could not be read.
-/
def ofCallError : CallError → FetchError
  | .serverError m =>
    match Wire.read (α := FetchError) m with
    | .ok e => e
    | .error _ => .refused 500 m
  | .request m => .unreachable m
  | .deserialization m | .response m => .unreadable m
  | e => .unreachable e.message

end FetchError

namespace Remote

/-- What the server knows when a function is called: its client, if it is configured, and the
`Authorization` header that came in. -/
structure ServerState where
  client : Option Client
  header : Option String
  deriving DecidableEq, Repr

namespace ServerState

/-- The client for this call. A token that came in goes before the one that is configured. -/
def client? (s : ServerState) : Option Client :=
  s.client.map (·.usingToken (s.header.bind bearerToken?))

/-- The failure of a server that is not configured. -/
def notConfigured : FetchError := .unreachable "wallet client not configured"

/-- The function of the server that makes a call. -/
def run (exchange : Exchange) (s : ServerState) (call : WalletCall) :
    Except CallError call.Result × List Request :=
  match s.client? with
  | none => (.error notConfigured.toCallError, [])
  | some c =>
    let (result, requests) := c.run exchange call
    (result.mapError FetchError.toCallError, requests)

/-- The call as the browser makes it. -/
def runFromBrowser (exchange : Exchange) (s : ServerState) (call : WalletCall) :
    Except FetchError call.Result × List Request :=
  let (result, requests) := s.run exchange call
  (result.mapError FetchError.ofCallError, requests)

end ServerState

end Remote

end WalletConsole
