import WalletConsole.Remote.Boundary

/-!
# What the server can be asked to do

Thirteen functions of the server, each of which makes one call: three for every collection, and one
for the balance. The browser fetches its lists by four of them; eight more delete rows, and a list
has them as its `RowBackend`.

* `ServerFunction.making` — the function that makes a call
* `ServerFunction.fromBrowser` — a function as the browser calls it
* `RowBackend` — what a list deletes its rows by
-/

namespace WalletConsole.Remote

/-- A function of the server that its arguments were given to: what it comes to and what it sends,
by what the backend answers and what the server knows. -/
abbrev ServerFunction (α : Type) : Type :=
  Exchange → ServerState → Except CallError α × List Request

/-- The same when the browser calls it. -/
abbrev BrowserFunction (α : Type) : Type :=
  Exchange → ServerState → Except FetchError α × List Request

namespace ServerFunction

/-- The function that makes a call. -/
def making (call : WalletCall) : ServerFunction call.Result := fun exchange s => s.run exchange call

/-- A function as the browser calls it: it learns of the failure that came back. -/
def fromBrowser {α : Type} (f : ServerFunction α) : BrowserFunction α := fun exchange s =>
  let (result, requests) := f exchange s
  (result.mapError FetchError.ofCallError, requests)

/-! ## API keys -/

/-- Lists the keys. -/
def listApiKeys : ServerFunction (List ApiKey) := making (.list .apiKeys)

/-- Revokes a key. -/
def revokeApiKey (id : String) : ServerFunction Unit := making (.deleteOne .apiKeys id)

/-- Revokes some keys. -/
def revokeApiKeys (ids : List String) : ServerFunction UInt64 := making (.deleteMany .apiKeys ids)

/-! ## Lightning addresses -/

/-- Lists the addresses. -/
def listLnAddresses : ServerFunction (List LnAddress) := making (.list .lnAddresses)

/-- Deletes an address. -/
def deleteLnAddress (id : String) : ServerFunction Unit := making (.deleteOne .lnAddresses id)

/-- Deletes some addresses. -/
def deleteLnAddresses (ids : List String) : ServerFunction UInt64 :=
  making (.deleteMany .lnAddresses ids)

/-! ## Invoices -/

/-- Lists the invoices. -/
def listInvoices : ServerFunction (List Invoice) := making (.list .invoices)

/-- Deletes an invoice. -/
def deleteInvoice (id : String) : ServerFunction Unit := making (.deleteOne .invoices id)

/-- Deletes some invoices. -/
def deleteInvoices (ids : List String) : ServerFunction UInt64 := making (.deleteMany .invoices ids)

/-! ## Payments -/

/-- Lists the payments. -/
def listPayments : ServerFunction (List Payment) := making (.list .payments)

/-- Deletes a payment. -/
def deletePayment (id : String) : ServerFunction Unit := making (.deleteOne .payments id)

/-- Deletes some payments. -/
def deletePayments (ids : List String) : ServerFunction UInt64 := making (.deleteMany .payments ids)

/-! ## The wallet -/

/-- Tells the balance. -/
def getBalance : ServerFunction WalletBalance := making .balance

end ServerFunction

/-! ## Deleting rows -/

/-- What a list deletes its rows by. -/
structure RowBackend where
  deleteOne (id : String) : BrowserFunction Unit
  /-- deletes rows in one call and tells how many there were -/
  deleteMany (ids : List String) : BrowserFunction UInt64

namespace RowBackend

open ServerFunction

/-- Revokes API keys. -/
def apiKeys : RowBackend where
  deleteOne id := (revokeApiKey id).fromBrowser
  deleteMany ids := (revokeApiKeys ids).fromBrowser

/-- Deletes Lightning addresses. -/
def lnAddresses : RowBackend where
  deleteOne id := (deleteLnAddress id).fromBrowser
  deleteMany ids := (deleteLnAddresses ids).fromBrowser

/-- Deletes invoices. -/
def invoices : RowBackend where
  deleteOne id := (deleteInvoice id).fromBrowser
  deleteMany ids := (deleteInvoices ids).fromBrowser

/-- Deletes payments. -/
def payments : RowBackend where
  deleteOne id := (deletePayment id).fromBrowser
  deleteMany ids := (deletePayments ids).fromBrowser

end RowBackend

end WalletConsole.Remote
