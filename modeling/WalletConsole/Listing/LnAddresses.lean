import WalletConsole.Wallet.LnAddress
import WalletConsole.Listing.Direction

/-!
# Lightning addresses as rows
-/

namespace WalletConsole

/-- The columns of the list of Lightning addresses. -/
inductive LnAddressColumn where
  | username
  | walletId
  | active
  | createdAt
  | updatedAt
  deriving DecidableEq, Repr

instance : Columns LnAddressColumn where
  all := [.username, .walletId, .active, .createdAt, .updatedAt]
  id
    | .username => "username"
    | .walletId => "wallet_id"
    | .active => "active"
    | .createdAt => "created_at"
    | .updatedAt => "updated_at"
  label
    | .username => "Username"
    | .walletId => "Wallet"
    | .active => "Status"
    | .createdAt => "Created"
    | .updatedAt => "Updated"

/-- The order of two addresses; those switched off come first. -/
def LnAddress.compareBy (column : LnAddressColumn) (a b : LnAddress) : Ordering :=
  match column with
  | .username => compareText a.username b.username
  | .walletId => compare a.walletId b.walletId
  | .active => compare a.active b.active
  | .createdAt => compare a.createdAt b.createdAt
  | .updatedAt => compare a.updatedAt b.updatedAt

instance : Record LnAddress where
  Column := LnAddressColumn
  Status := LnAddressStatus
  id := LnAddress.id
  searchTexts a := [a.username, a.walletId, a.id] ++ a.nostrPubkey.toList
  status _ a := a.status
  ledger _ := none
  madeAt := LnAddress.createdAt
  compareBy := LnAddress.compareBy

end WalletConsole
