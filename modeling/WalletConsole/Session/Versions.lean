import WalletConsole.Wallet.Named

/-!
# What has to be fetched again

The dashboard shows five resources. Each has a version; whoever shows a resource fetches it again
when its version changes.

* `Resource.derived` — what changes along with a resource
* `Versions.expire` — one resource has to be fetched again
* `Resource.touched` — all that have to be when rows of a resource were deleted
-/

namespace WalletConsole

/-- What is fetched from the backend. -/
inductive Resource where
  | apiKeys
  | lnAddresses
  | invoices
  | payments
  | balance
  deriving DecidableEq, Repr

instance : Named Resource where
  all := [.apiKeys, .lnAddresses, .invoices, .payments, .balance]
  name
    | .apiKeys => "api_keys.list"
    | .lnAddresses => "ln_addresses.list"
    | .invoices => "invoices.list"
    | .payments => "payments.list"
    | .balance => "wallet.balance"

namespace Resource

/-- What changes along with a resource: the balance depends on invoices and payments. -/
def derived : Resource → List Resource
  | .invoices | .payments => [.balance]
  | _ => []

/-- A resource and what changes along with it. -/
def touched (resource : Resource) : List Resource := resource :: resource.derived

end Resource

/-- How often each resource had to be fetched again. -/
structure Versions where
  version : Resource → Nat

namespace Versions

/-- Nothing had to be fetched again yet. -/
def initial : Versions := ⟨fun _ => 0⟩

/-- A resource has to be fetched again. -/
def expire (v : Versions) (resource : Resource) : Versions :=
  ⟨fun r => if r = resource then v.version r + 1 else v.version r⟩

/-- Some resources have to be fetched again, one after the other. -/
def expireAll (v : Versions) (resources : List Resource) : Versions := resources.foldl expire v

end Versions

end WalletConsole
