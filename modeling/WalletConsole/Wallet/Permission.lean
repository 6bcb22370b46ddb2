import WalletConsole.Wallet.Named

/-!
# Permissions

What the holder of an API key may do: read or write one kind of thing.
-/

namespace WalletConsole

/-- A permission of an API key. -/
inductive Permission where
  | readWallet
  | writeWallet
  | readLnAddress
  | writeLnAddress
  | readTransaction
  | writeTransaction
  | readLnNode
  | writeLnNode
  | readApiKey
  | writeApiKey
  deriving DecidableEq, Repr

instance : Named Permission where
  all := [.readWallet, .writeWallet, .readLnAddress, .writeLnAddress, .readTransaction,
    .writeTransaction, .readLnNode, .writeLnNode, .readApiKey, .writeApiKey]
  name
    | .readWallet => "read:wallet"
    | .writeWallet => "write:wallet"
    | .readLnAddress => "read:ln_address"
    | .writeLnAddress => "write:ln_address"
    | .readTransaction => "read:transaction"
    | .writeTransaction => "write:transaction"
    | .readLnNode => "read:ln_node"
    | .writeLnNode => "write:ln_node"
    | .readApiKey => "read:api_key"
    | .writeApiKey => "write:api_key"

instance : Json.Wire Permission := ⟨Named.decode, Named.encode⟩

end WalletConsole
