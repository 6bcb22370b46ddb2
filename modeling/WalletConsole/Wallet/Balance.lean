import WalletConsole.Json.Wire

/-!
# The balance of a wallet

Totals in thousandths of a satoshi. More may have been spent than came in, so what is available
can be negative.
-/

namespace WalletConsole

open Json

/-- The totals of a wallet. -/
structure WalletBalance where
  receivedMsat : UInt64
  sentMsat : UInt64
  feesPaidMsat : UInt64
  availableMsat : Int64
  deriving DecidableEq, Repr

namespace WalletBalance

/-- The fields of a balance in the text. -/
def fields : Fields WalletBalance :=
  mk <$> .required "received_msat" word64
    <*> .required "sent_msat" word64
    <*> .required "fees_paid_msat" word64
    <*> .required "available_msat" signed64

/-- A balance as JSON. -/
def toValue (b : WalletBalance) : Value :=
  .object
    [("received_msat", .natural b.receivedMsat),
     ("sent_msat", .natural b.sentMsat),
     ("fees_paid_msat", .natural b.feesPaidMsat),
     ("available_msat", .signed b.availableMsat)]

instance : Wire WalletBalance := ⟨fields.decode "WalletBalance", toValue⟩

end WalletBalance

end WalletConsole
