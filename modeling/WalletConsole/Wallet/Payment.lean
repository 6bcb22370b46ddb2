import WalletConsole.Wallet.Ledger
import WalletConsole.Wallet.Status

/-!
# Payments

A payment that left the wallet, as the backend describes it. Amounts are in thousandths of a
satoshi.
-/

namespace WalletConsole

open Json Calendar

/-- An outgoing payment. -/
structure Payment where
  id : String
  walletId : String
  lnAddress : Option String
  description : Option String
  amountMsat : UInt64
  feeMsat : Option UInt64
  status : PaymentStatus
  ledger : Ledger
  paymentHash : Option String
  paymentPreimage : Option String
  error : Option String
  paymentTime : Option Instant
  createdAt : Instant
  deriving DecidableEq, Repr

namespace Payment

/-- The fields of a payment in the text. -/
def fields : Fields Payment :=
  mk <$> .required "id" text
    <*> .required "wallet_id" text
    <*> .optional "ln_address" text
    <*> .optional "description" text
    <*> .required "amount_msat" word64
    <*> .optional "fee_msat" word64
    <*> .required "status" Wire.decode
    <*> .required "ledger" Wire.decode
    <*> .optional "payment_hash" text
    <*> .optional "payment_preimage" text
    <*> .optional "error" text
    <*> .optional "payment_time" instant
    <*> .required "created_at" instant

/-- A payment as JSON. -/
def toValue (p : Payment) : Value :=
  .object
    [("id", .text p.id),
     ("wallet_id", .text p.walletId),
     ("ln_address", nullableValue .text p.lnAddress),
     ("description", nullableValue .text p.description),
     ("amount_msat", .natural p.amountMsat),
     ("fee_msat", nullableValue .natural p.feeMsat),
     ("status", Wire.encode p.status),
     ("ledger", Wire.encode p.ledger),
     ("payment_hash", nullableValue .text p.paymentHash),
     ("payment_preimage", nullableValue .text p.paymentPreimage),
     ("error", nullableValue .text p.error),
     ("payment_time", nullableValue instantValue p.paymentTime),
     ("created_at", instantValue p.createdAt)]

instance : Wire Payment := ⟨fields.decode "Payment", toValue⟩

end Payment

end WalletConsole
