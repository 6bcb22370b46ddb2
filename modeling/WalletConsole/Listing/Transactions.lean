import WalletConsole.Wallet.Invoice
import WalletConsole.Wallet.Payment
import WalletConsole.Listing.Direction

/-!
# Invoices and payments as rows

Both lists have the same columns. Ledgers and statuses are ordered by their names.
-/

namespace WalletConsole

/-- The columns of the lists of invoices and payments. -/
inductive TransactionColumn where
  | description
  | amount
  | fee
  | ledger
  | status
  | createdAt
  | paymentTime
  deriving DecidableEq, Repr

instance : Columns TransactionColumn where
  all := [.description, .amount, .fee, .ledger, .status, .createdAt, .paymentTime]
  id
    | .description => "description"
    | .amount => "amount_msat"
    | .fee => "fee_msat"
    | .ledger => "ledger"
    | .status => "status"
    | .createdAt => "created_at"
    | .paymentTime => "payment_time"
  label
    | .description => "Description"
    | .amount => "Amount"
    | .fee => "Fee"
    | .ledger => "Ledger"
    | .status => "Status"
    | .createdAt => "Created"
    | .paymentTime => "Paid"

/-- The order of two members of a closed set, by name. -/
def compareNames {α : Type} [Named α] (a b : α) : Ordering :=
  compare (Named.name a) (Named.name b)

/-- The order of two invoices. -/
def Invoice.compareBy (column : TransactionColumn) (a b : Invoice) : Ordering :=
  match column with
  | .description => compareOptionalText a.description b.description
  | .amount => compare a.amountMsat b.amountMsat
  | .fee => compare a.feeMsat b.feeMsat
  | .ledger => compareNames a.ledger b.ledger
  | .status => compareNames a.status b.status
  | .createdAt => compare a.createdAt b.createdAt
  | .paymentTime => compare a.paymentTime b.paymentTime

/-- The order of two payments. -/
def Payment.compareBy (column : TransactionColumn) (a b : Payment) : Ordering :=
  match column with
  | .description => compareOptionalText a.description b.description
  | .amount => compare a.amountMsat b.amountMsat
  | .fee => compare a.feeMsat b.feeMsat
  | .ledger => compareNames a.ledger b.ledger
  | .status => compareNames a.status b.status
  | .createdAt => compare a.createdAt b.createdAt
  | .paymentTime => compare a.paymentTime b.paymentTime

instance : Record Invoice where
  Column := TransactionColumn
  Status := InvoiceStatus
  id := Invoice.id
  searchTexts i := [i.id, i.walletId] ++ i.description.toList ++ i.paymentHash.toList
  status _ i := i.status
  ledger i := some i.ledger
  madeAt := Invoice.createdAt
  compareBy := Invoice.compareBy

instance : Record Payment where
  Column := TransactionColumn
  Status := PaymentStatus
  id := Payment.id
  searchTexts p :=
    [p.id, p.walletId] ++ p.description.toList ++ p.lnAddress.toList ++ p.paymentHash.toList
  status _ p := p.status
  ledger p := some p.ledger
  madeAt := Payment.createdAt
  compareBy := Payment.compareBy

end WalletConsole
