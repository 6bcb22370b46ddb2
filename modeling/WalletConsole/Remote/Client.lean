import WalletConsole.Wallet.ApiKey
import WalletConsole.Wallet.LnAddress
import WalletConsole.Wallet.Invoice
import WalletConsole.Wallet.Payment
import WalletConsole.Wallet.Balance
import WalletConsole.Wallet.FetchError
import WalletConsole.Wallet.Message
import WalletConsole.Remote.Http

/-!
# Calls to the wallet backend

Thirteen calls: to list each of four collections, to delete one row or several of them, and to ask
for the balance. A call is one request; whatever comes back is the value asked for or a
`FetchError`.

* `Client.request?` — the request of a call, unless it cannot be written
* `readResponse` — what a response says
* `Client.run` — a call, with the requests that were sent
* `reasonOf` — why the backend refused, in words that are there even if it said nothing
-/

namespace WalletConsole.Remote

open Json Text

/-! ## Calls -/

/-- A collection of rows. -/
inductive Collection where
  | apiKeys
  | lnAddresses
  | invoices
  | payments
  deriving DecidableEq, Repr

namespace Collection

/-- Where the backend keeps a collection. -/
def path : Collection → String
  | .apiKeys => "/v1/api-keys"
  | .lnAddresses => "/v1/lightning-addresses"
  | .invoices => "/v1/invoices"
  | .payments => "/v1/payments"

/-- The type of its rows. -/
abbrev Row : Collection → Type
  | .apiKeys => ApiKey
  | .lnAddresses => LnAddress
  | .invoices => Invoice
  | .payments => Payment

instance : (c : Collection) → Wire c.Row
  | .apiKeys => inferInstanceAs (Wire ApiKey)
  | .lnAddresses => inferInstanceAs (Wire LnAddress)
  | .invoices => inferInstanceAs (Wire Invoice)
  | .payments => inferInstanceAs (Wire Payment)

end Collection

/-- Where the backend tells the balance. -/
def balancePath : String := "/v1/me/balance"

/-- A call. -/
inductive WalletCall where
  | list (rows : Collection)
  | balance
  | deleteOne (rows : Collection) (id : String)
  | deleteMany (rows : Collection) (ids : List String)
  deriving DecidableEq, Repr

namespace WalletCall

/-- What a call asks for. -/
abbrev Result : WalletCall → Type
  | .list rows => List rows.Row
  | .balance => WalletBalance
  | .deleteOne _ _ => Unit
  | .deleteMany _ _ => UInt64

/-- What is done. -/
def method : WalletCall → Method
  | .list _ | .balance => .get
  | .deleteOne _ _ | .deleteMany _ _ => .delete

/-- Where it is done, below the address of the backend. -/
def path : WalletCall → String
  | .list rows => rows.path
  | .balance => balancePath
  | .deleteOne rows id => rows.path ++ "/" ++ id
  | .deleteMany rows _ => rows.path

/-- The pairs of the query, for calls that have one. -/
def query? : WalletCall → Option (List (String × String))
  | .deleteMany _ ids => some (RowIds.mk ids).queryPairs
  | _ => none

/-- What was asked for, as JSON. -/
def encode : (call : WalletCall) → call.Result → Value
  | .list _, xs => Wire.encode xs
  | .balance, x => Wire.encode x
  | .deleteOne _ _, _ => .null
  | .deleteMany _ _, n => .natural n

end WalletCall

/-! ## Requests -/

/-- A client of the backend: its address, without slashes at the end, and a token. -/
structure Client where
  baseUrl : String
  token : Option String
  deriving DecidableEq, Repr

namespace Client

/-- A client for an address. -/
def ofConfig (baseUrl : String) (token : Option String) : Client :=
  ⟨String.ofList ((baseUrl.toList.reverse.dropWhile (· == '/')).reverse), token⟩

/-- The same client with another token, if there is one. -/
def usingToken (token : Option String) (c : Client) : Client :=
  { c with token := token <|> c.token }

/-- The header that carries the token: none without a token, no request if it cannot be written. -/
def authorization? (c : Client) : Option (Option String) :=
  match c.token with
  | none => some none
  | some token => (bearerHeader? token).map some

/-- The request of a call. -/
def request? (c : Client) (call : WalletCall) : Option Request := do
  let url ← Url.parse? (c.baseUrl ++ call.path).toList
  let authorization ← c.authorization?
  return ⟨call.method, call.query?.elim url url.addQuery, authorization⟩

end Client

/-! ## Responses -/

/-- Why the backend refused: its own reason, else all it said, else the usual words. -/
def reasonOf (status : UInt16) (body : String) : String :=
  match Wire.read (α := Refusal) body with
  | .ok e => e.reason
  | .error _ =>
    if (trimmed body).isEmpty then (canonicalReason? status).getD "Unknown error"
    else trimmed body

/-- The words when nothing came back. -/
def noAnswer : FetchError := .unreachable "error sending request"

/-- The words when the answer broke off. -/
def brokenAnswer : FetchError := .unreachable "error reading response"

/-- A value from a body. -/
def readBody {α : Type} [Wire α] (body : Option (List UInt8)) : Except FetchError α :=
  match body with
  | none => .error brokenAnswer
  | some bytes => (Wire.readBytes bytes).mapError fun e => .unreadable e.message

/-- What a call was answered by a response that says all went well. -/
def readResult (body : Option (List UInt8)) : (call : WalletCall) → Except FetchError call.Result
  | .list _ => readBody body
  | .balance => readBody body
  | .deleteOne _ _ => .ok ()
  | .deleteMany _ _ => (readBody body).map DeletedRows.rows

/-- What a response says. -/
def readResponse (call : WalletCall) (r : Response) : Except FetchError call.Result :=
  if isSuccess r.status then readResult r.body call
  else .error (.refused r.status (reasonOf r.status ((r.body.map lossy).getD "")))

/-- A call to the backend, with the requests that were sent. -/
def Client.run (exchange : Exchange) (c : Client) (call : WalletCall) :
    Except FetchError call.Result × List Request :=
  match c.request? call with
  | none => (.error noAnswer, [])
  | some request =>
    match exchange request with
    | none => (.error noAnswer, [request])
    | some response => (readResponse call response, [request])

end WalletConsole.Remote
