import WalletConsole.Wallet.Status

/-!
# Lightning addresses

A name under which the wallet takes payments, which can be switched off.
-/

namespace WalletConsole

open Json Calendar

/-- A Lightning address. -/
structure LnAddress where
  id : String
  walletId : String
  username : String
  nostrPubkey : Option String
  active : Bool
  allowsNostr : Bool
  createdAt : Instant
  updatedAt : Option Instant
  deriving DecidableEq, Repr

namespace LnAddress

/-- The fields of an address in the text. -/
def fields : Fields LnAddress :=
  mk <$> .required "id" text
    <*> .required "wallet_id" text
    <*> .required "username" text
    <*> .optional "nostr_pubkey" text
    <*> .required "active" bool
    <*> .required "allows_nostr" bool
    <*> .required "created_at" instant
    <*> .optional "updated_at" instant

/-- An address as JSON. -/
def toValue (a : LnAddress) : Value :=
  .object
    [("id", .text a.id),
     ("wallet_id", .text a.walletId),
     ("username", .text a.username),
     ("nostr_pubkey", nullableValue .text a.nostrPubkey),
     ("active", .bool a.active),
     ("allows_nostr", .bool a.allowsNostr),
     ("created_at", instantValue a.createdAt),
     ("updated_at", nullableValue instantValue a.updatedAt)]

instance : Wire LnAddress := ⟨fields.decode "LnAddress", toValue⟩

/-- Is the address switched on? -/
def status (a : LnAddress) : LnAddressStatus := if a.active then .active else .inactive

end LnAddress

end WalletConsole
