import WalletConsole.Listing.ApiKeys
import WalletConsole.Listing.LnAddresses
import WalletConsole.Listing.Transactions
import WalletConsole.Session.Versions
import WalletConsole.Session.Wording

/-!
# The four lists

What each of the lists of the dashboard calls its rows, and the resource that they come from.
-/

namespace WalletConsole

/-- A type whose values make up one of the lists of the dashboard. -/
class Listed (R : Type) extends Record R where
  resource : Resource
  wording : Wording

instance : Listed ApiKey where
  resource := .apiKeys
  wording := ⟨"API key", "API keys", "revoked", "revoke"⟩

instance : Listed LnAddress where
  resource := .lnAddresses
  wording := ⟨"Lightning address", "Lightning addresses", "deleted", "delete"⟩

instance : Listed Invoice where
  resource := .invoices
  wording := ⟨"invoice", "invoices", "deleted", "delete"⟩

instance : Listed Payment where
  resource := .payments
  wording := ⟨"payment", "payments", "deleted", "delete"⟩

end WalletConsole
