import WalletConsole.Listing.Confirmation
import WalletConsole.Remote.Functions
import WalletConsole.Session.Listed

/-!
# Lists and the server

Each list of the dashboard shows a collection of the backend. One function of the server fills it,
two delete its rows.

* `Served` — a list with its functions
* `RowBackend.delete` — deletes what an action or a question is about
-/

namespace WalletConsole

open Remote

/-- A type whose values make up one of the lists of the dashboard, with what the list calls. -/
class Served (R : Type) extends Listed R where
  fetch : ServerFunction (List R)
  backend : RowBackend

instance : Served ApiKey where
  fetch := ServerFunction.listApiKeys
  backend := RowBackend.apiKeys

instance : Served LnAddress where
  fetch := ServerFunction.listLnAddresses
  backend := RowBackend.lnAddresses

instance : Served Invoice where
  fetch := ServerFunction.listInvoices
  backend := RowBackend.invoices

instance : Served Payment where
  fetch := ServerFunction.listPayments
  backend := RowBackend.payments

namespace Remote

/-- Deletes the rows of a target and tells how many are gone. -/
def RowBackend.delete (backend : RowBackend) : Target → BrowserFunction Nat
  | .one id => fun exchange s =>
    let (result, requests) := backend.deleteOne id exchange s
    (result.map fun _ => 1, requests)
  | .many ids => fun exchange s =>
    let (result, requests) := backend.deleteMany ids exchange s
    (result.map UInt64.toNat, requests)

namespace Collection

instance : (rows : Collection) → Served rows.Row
  | .apiKeys => inferInstanceAs (Served ApiKey)
  | .lnAddresses => inferInstanceAs (Served LnAddress)
  | .invoices => inferInstanceAs (Served Invoice)
  | .payments => inferInstanceAs (Served Payment)

/-- The resource that has to be fetched again when the collection has changed. -/
def resource : Collection → Resource
  | .apiKeys => .apiKeys
  | .lnAddresses => .lnAddresses
  | .invoices => .invoices
  | .payments => .payments

/-- The call that deletes the rows of a target. -/
def deleteCall (rows : Collection) : Target → WalletCall
  | .one id => .deleteOne rows id
  | .many ids => .deleteMany rows ids

/-- How many rows a call deleted, by what it came to. -/
def deletedRows (rows : Collection) : (target : Target) → (rows.deleteCall target).Result → Nat
  | .one _, _ => 1
  | .many _, count => UInt64.toNat count

end Collection

end Remote

end WalletConsole
