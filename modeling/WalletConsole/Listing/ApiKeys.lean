import WalletConsole.Wallet.ApiKey
import WalletConsole.Listing.Direction

/-!
# API keys as rows
-/

namespace WalletConsole

/-- The columns of the list of API keys. -/
inductive ApiKeyColumn where
  | name
  | permissions
  | createdAt
  | expiresAt
  deriving DecidableEq, Repr

instance : Columns ApiKeyColumn where
  all := [.name, .permissions, .createdAt, .expiresAt]
  id
    | .name => "name"
    | .permissions => "permissions"
    | .createdAt => "created_at"
    | .expiresAt => "expires_at"
  label
    | .name => "Name"
    | .permissions => "Permissions"
    | .createdAt => "Created"
    | .expiresAt => "Expires"

/-- The order of two keys; those with fewer permissions come first. -/
def ApiKey.compareBy (column : ApiKeyColumn) (a b : ApiKey) : Ordering :=
  match column with
  | .name => compareText a.name b.name
  | .permissions => compare a.permissions.length b.permissions.length
  | .createdAt => compare a.createdAt b.createdAt
  | .expiresAt => compare a.expiresAt b.expiresAt

instance : Record ApiKey where
  Column := ApiKeyColumn
  Status := ApiKeyStatus
  id := ApiKey.id
  searchTexts k := [k.name, k.id] ++ k.description.toList
  status now k := k.statusAt now
  ledger _ := none
  madeAt := ApiKey.createdAt
  compareBy := ApiKey.compareBy

end WalletConsole
