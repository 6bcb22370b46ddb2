import WalletConsole.Wallet.Named

/-!
# Statuses

What has become of an invoice or a payment, and whether a key or an address can be used. The first
two are told by the backend; the others follow from the record.
-/

namespace WalletConsole

/-- What has become of an invoice. -/
inductive InvoiceStatus where
  | pending
  | settled
  | expired
  deriving DecidableEq, Repr

instance : Named InvoiceStatus where
  all := [.pending, .settled, .expired]
  name
    | .pending => "Pending"
    | .settled => "Settled"
    | .expired => "Expired"

instance : Json.Wire InvoiceStatus := ⟨Named.decode, Named.encode⟩

/-- What has become of a payment. -/
inductive PaymentStatus where
  | pending
  | settled
  | failed
  deriving DecidableEq, Repr

instance : Named PaymentStatus where
  all := [.pending, .settled, .failed]
  name
    | .pending => "Pending"
    | .settled => "Settled"
    | .failed => "Failed"

instance : Json.Wire PaymentStatus := ⟨Named.decode, Named.encode⟩

/-- Can a key be used? -/
inductive ApiKeyStatus where
  | active
  | expired
  deriving DecidableEq, Repr

instance : Named ApiKeyStatus where
  all := [.active, .expired]
  name
    | .active => "Active"
    | .expired => "Expired"

/-- Is a Lightning address switched on? -/
inductive LnAddressStatus where
  | active
  | inactive
  deriving DecidableEq, Repr

instance : Named LnAddressStatus where
  all := [.active, .inactive]
  name
    | .active => "Active"
    | .inactive => "Inactive"

end WalletConsole
