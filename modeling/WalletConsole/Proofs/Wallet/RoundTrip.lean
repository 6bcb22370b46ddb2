import WalletConsole.Proofs.Json.Records
import WalletConsole.Proofs.Calendar.RoundTrip
import WalletConsole.Wallet.Invoice
import WalletConsole.Wallet.Payment
import WalletConsole.Wallet.ApiKey
import WalletConsole.Wallet.LnAddress
import WalletConsole.Wallet.Balance
import WalletConsole.Listing.Viewport

/-!
# The records of the wallet, written and read

Everything that the console keeps or gets from the backend is read back as it was written, field
for field: any text, amounts up to their limits, fields that are there or not, and instants to the
nanosecond. A record takes one line for each of its fields, in the order in which they are written.

* instances of `Wire.Lawful` for the closed sets of names and for the records
* `records_read_back` — **every record and every list of records is read back from its text**
-/

namespace WalletConsole

open Json Calendar Remote

/-! ## Names -/

instance : Wire.Lawful Ledger where
  decodes x := decodes_named (by cases x <;> rfl)

instance : Wire.Lawful InvoiceStatus where
  decodes x := decodes_named (by cases x <;> rfl)

instance : Wire.Lawful PaymentStatus where
  decodes x := decodes_named (by cases x <;> rfl)

instance : Wire.Lawful Permission where
  decodes x := decodes_named (by cases x <;> rfl)

/-! ## Fields -/

namespace Json.Fields

theorem reads_text (name s : String) : Reads (.required name text) [(name, .text s)] s :=
  reads_required name (decodes_text s)

theorem reads_word64 (name : String) (n : UInt64) :
    Reads (.required name word64) [(name, .natural n)] n :=
  reads_required name (decodes_word64 n)

theorem reads_bool (name : String) (b : Bool) : Reads (.required name bool) [(name, .bool b)] b :=
  reads_required name (decodes_bool b)

theorem reads_instant (name : String) (t : Instant) :
    Reads (.required name instant) [(name, instantValue t)] t :=
  reads_required name (decodes_instant t.parse_text)

theorem reads_wire {α : Type} [Wire α] [Wire.Lawful α] (name : String) (x : α) :
    Reads (.required name Wire.decode) [(name, Wire.encode x)] x :=
  reads_required name (Wire.Lawful.decodes x)

theorem reads_optionalText (name : String) (s : Option String) :
    Reads (.optional name text) [(name, nullableValue .text s)] s :=
  reads_optional name (fun z _ => decodes_text z) (fun _ _ h => by cases h)

theorem reads_optionalWord64 (name : String) (n : Option UInt64) :
    Reads (.optional name word64) [(name, nullableValue .natural n)] n :=
  reads_optional name (fun z _ => decodes_word64 z) (fun _ _ h => by cases h)

theorem reads_optionalInstant (name : String) (t : Option Instant) :
    Reads (.optional name instant) [(name, nullableValue instantValue t)] t :=
  reads_optional name (fun z _ => decodes_instant z.parse_text) (fun _ _ h => by cases h)

end Json.Fields

/-! ## Records -/

open Json.Fields

instance : Wire.Lawful Invoice where
  decodes i :=
    (Reads.map Invoice.mk (reads_text "id" i.id)).seq (reads_text "wallet_id" i.walletId)
      |>.seq (reads_optionalText "ln_address_id" i.lnAddressId)
      |>.seq (reads_optionalText "description" i.description)
      |>.seq (reads_optionalWord64 "amount_msat" i.amountMsat)
      |>.seq (reads_optionalWord64 "amount_received_msat" i.amountReceivedMsat)
      |>.seq (reads_optionalWord64 "fee_msat" i.feeMsat)
      |>.seq (reads_wire "status" i.status)
      |>.seq (reads_wire "ledger" i.ledger)
      |>.seq (reads_optionalText "bolt11" i.bolt11)
      |>.seq (reads_optionalText "payment_hash" i.paymentHash)
      |>.seq (reads_optionalInstant "payment_time" i.paymentTime)
      |>.seq (reads_optionalInstant "expires_at" i.expiresAt)
      |>.seq (reads_instant "created_at" i.createdAt)
      |>.decodes (by decide) "Invoice"

instance : Wire.Lawful Payment where
  decodes p :=
    (Reads.map Payment.mk (reads_text "id" p.id)).seq (reads_text "wallet_id" p.walletId)
      |>.seq (reads_optionalText "ln_address" p.lnAddress)
      |>.seq (reads_optionalText "description" p.description)
      |>.seq (reads_word64 "amount_msat" p.amountMsat)
      |>.seq (reads_optionalWord64 "fee_msat" p.feeMsat)
      |>.seq (reads_wire "status" p.status)
      |>.seq (reads_wire "ledger" p.ledger)
      |>.seq (reads_optionalText "payment_hash" p.paymentHash)
      |>.seq (reads_optionalText "payment_preimage" p.paymentPreimage)
      |>.seq (reads_optionalText "error" p.error)
      |>.seq (reads_optionalInstant "payment_time" p.paymentTime)
      |>.seq (reads_instant "created_at" p.createdAt)
      |>.decodes (by decide) "Payment"

instance : Wire.Lawful ApiKey where
  decodes k :=
    (Reads.map ApiKey.mk (reads_text "id" k.id)).seq (reads_text "user_id" k.userId)
      |>.seq (reads_text "name" k.name)
      |>.seq (reads_optionalText "description" k.description)
      -- permissions are always written, though they may be missing
      |>.seq (reads_defaulted "permissions" [] (Wire.Lawful.decodes k.permissions))
      |>.seq (reads_instant "created_at" k.createdAt)
      |>.seq (reads_optionalInstant "expires_at" k.expiresAt)
      |>.decodes (by decide) "ApiKey"

instance : Wire.Lawful LnAddress where
  decodes a :=
    (Reads.map LnAddress.mk (reads_text "id" a.id)).seq (reads_text "wallet_id" a.walletId)
      |>.seq (reads_text "username" a.username)
      |>.seq (reads_optionalText "nostr_pubkey" a.nostrPubkey)
      |>.seq (reads_bool "active" a.active)
      |>.seq (reads_bool "allows_nostr" a.allowsNostr)
      |>.seq (reads_instant "created_at" a.createdAt)
      |>.seq (reads_optionalInstant "updated_at" a.updatedAt)
      |>.decodes (by decide) "LnAddress"

instance : Wire.Lawful WalletBalance where
  decodes b :=
    (Reads.map WalletBalance.mk (reads_word64 "received_msat" b.receivedMsat))
      |>.seq (reads_word64 "sent_msat" b.sentMsat)
      |>.seq (reads_word64 "fees_paid_msat" b.feesPaidMsat)
      |>.seq (reads_required "available_msat" (decodes_signed64 b.availableMsat))
      |>.decodes (by decide) "WalletBalance"

instance : Wire.Lawful Preferences where
  decodes p :=
    (Reads.map Preferences.mk (reads_required "rows_per_page" (decodes_count64 p.pageSize)))
      |>.seq (reads_bool "dense" p.dense)
      |>.decodes (by decide) "TablePrefs"

/-! ## Texts -/

/-- Every value of a type is read back from its text, be it given as characters or as bytes. -/
def ReadBack (α : Type) [Wire α] : Prop :=
  ∀ x : α, Wire.read (Wire.write x) = .ok x ∧
    Wire.readBytes (utf8Bytes (Wire.write x).toList) = .ok x

theorem readBack (α : Type) [Wire α] [Wire.Lawful α] : ReadBack α := fun x =>
  ⟨Wire.read_write x, Wire.readBytes_write x⟩

/-- **Every record is read back from its text, and so is every list of records.** -/
theorem records_read_back :
    (ReadBack Invoice ∧ ReadBack Payment ∧ ReadBack ApiKey ∧ ReadBack LnAddress ∧
      ReadBack WalletBalance ∧ ReadBack Preferences) ∧
    (ReadBack (List Invoice) ∧ ReadBack (List Payment) ∧ ReadBack (List ApiKey) ∧
      ReadBack (List LnAddress) ∧ ReadBack (List WalletBalance) ∧ ReadBack (List Preferences)) :=
  ⟨⟨readBack _, readBack _, readBack _, readBack _, readBack _, readBack _⟩,
    ⟨readBack _, readBack _, readBack _, readBack _, readBack _, readBack _⟩⟩

end WalletConsole
