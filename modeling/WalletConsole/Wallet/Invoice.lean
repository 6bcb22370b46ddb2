import WalletConsole.Wallet.Ledger
import WalletConsole.Wallet.Status

/-!
# Invoices

A request for payment, as the backend describes it. Amounts are in thousandths of a satoshi.
-/

namespace WalletConsole

open Json Calendar

/-- A request for payment. -/
structure Invoice where
  id : String
  walletId : String
  lnAddressId : Option String
  description : Option String
  amountMsat : Option UInt64
  amountReceivedMsat : Option UInt64
  feeMsat : Option UInt64
  status : InvoiceStatus
  ledger : Ledger
  bolt11 : Option String
  paymentHash : Option String
  paymentTime : Option Instant
  expiresAt : Option Instant
  createdAt : Instant
  deriving DecidableEq, Repr

namespace Invoice

/-- The fields of an invoice in the text. -/
def fields : Fields Invoice :=
  mk <$> .required "id" text
    <*> .required "wallet_id" text
    <*> .optional "ln_address_id" text
    <*> .optional "description" text
    <*> .optional "amount_msat" word64
    <*> .optional "amount_received_msat" word64
    <*> .optional "fee_msat" word64
    <*> .required "status" Wire.decode
    <*> .required "ledger" Wire.decode
    <*> .optional "bolt11" text
    <*> .optional "payment_hash" text
    <*> .optional "payment_time" instant
    <*> .optional "expires_at" instant
    <*> .required "created_at" instant

/-- An invoice as JSON. -/
def toValue (i : Invoice) : Value :=
  .object
    [("id", .text i.id),
     ("wallet_id", .text i.walletId),
     ("ln_address_id", nullableValue .text i.lnAddressId),
     ("description", nullableValue .text i.description),
     ("amount_msat", nullableValue .natural i.amountMsat),
     ("amount_received_msat", nullableValue .natural i.amountReceivedMsat),
     ("fee_msat", nullableValue .natural i.feeMsat),
     ("status", Wire.encode i.status),
     ("ledger", Wire.encode i.ledger),
     ("bolt11", nullableValue .text i.bolt11),
     ("payment_hash", nullableValue .text i.paymentHash),
     ("payment_time", nullableValue instantValue i.paymentTime),
     ("expires_at", nullableValue instantValue i.expiresAt),
     ("created_at", instantValue i.createdAt)]

instance : Wire Invoice := ⟨fields.decode "Invoice", toValue⟩

end Invoice

end WalletConsole
