import WalletConsole.Wallet.Named

/-!
# Ledgers

Where an invoice or a payment is settled.
-/

namespace WalletConsole

/-- The ledger that settles a transaction. -/
inductive Ledger where
  | lightning
  | internal
  | onchain
  deriving DecidableEq, Repr

instance : Named Ledger where
  all := [.lightning, .internal, .onchain]
  name
    | .lightning => "Lightning"
    | .internal => "Internal"
    | .onchain => "Onchain"

instance : Json.Wire Ledger := ⟨Named.decode, Named.encode⟩

end WalletConsole
