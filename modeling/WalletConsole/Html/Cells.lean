import WalletConsole.Calendar.Display
import WalletConsole.Text.Shorten
import WalletConsole.Wallet.Amount
import WalletConsole.Session.Listed
import WalletConsole.Html.Widgets

/-!
# The four lists on the screen

What each list calls itself and what stands in the cells of its rows.

* `Viewed` — a list that can be shown
-/

namespace WalletConsole.Html

open Calendar Text

/-- A list that can be shown. -/
class Viewed (R : Type) extends Listed R where
  title : String
  /-- what the search field says when it is empty -/
  searchHint : String
  hasLedgers : Bool
  /-- headings of columns that cannot be sorted by -/
  extraHeadings : List String
  /-- what the buttons that delete rows say -/
  deleteLabel : String
  /-- the cells between the box and the button -/
  cells : (now : Instant) → R → List Node

/-! ## Cells -/

/-- A cell with a text. -/
def textCell (s : String) : Node := bare "td" [.text s]

/-- A cell with a text, of a class. -/
def styledCell (cssClass s : String) : Node := styled "td" cssClass [.text s]

/-- A cell with an instant. -/
def dateCell (t : Option Instant) : Node := styledCell "date" (showDateTime t)

/-- A cell with a badge. -/
def badgeCell (label : String) : Node := bare "td" [badge label]

/-- A small chip. -/
def smallChip (label : String) : Node := styled "span" "chip chip-small" [.text label]

/-- A cell with a title and a line below it. -/
def titleCell (title : List Node) (subtitle : String) : Node :=
  bare "td" [styled "div" "cell-title" title, styled "small" "cell-subtitle" [.text subtitle]]

/-! ## The lists -/

/-- The cells of a key. -/
def apiKeyCells (now : Instant) (k : ApiKey) : List Node :=
  [titleCell [.text k.name] (k.description.getD ""),
   styled "td" "permissions" (k.permissions.map fun p => smallChip (Named.name p)),
   dateCell (some k.createdAt),
   dateCell k.expiresAt,
   badgeCell (Named.name (k.statusAt now))]

instance : Viewed ApiKey where
  title := "API keys"
  searchHint := "Search name or id..."
  hasLedgers := false
  extraHeadings := ["Status"]
  deleteLabel := "Revoke"
  cells := apiKeyCells

/-- The cells of an address. -/
def lnAddressCells (a : LnAddress) : List Node :=
  [titleCell (.text a.username :: if a.allowsNostr then [smallChip "nostr"] else [])
     ((a.nostrPubkey.map (shortenMiddle 8)).getD ""),
   bare "td" [bare "code" [.text (shortenMiddle 6 a.walletId)]],
   badgeCell (Named.name a.status),
   dateCell (some a.createdAt),
   dateCell a.updatedAt]

instance : Viewed LnAddress where
  title := "Lightning addresses"
  searchHint := "Search username or wallet..."
  hasLedgers := false
  extraHeadings := []
  deleteLabel := "Delete"
  cells _ := lnAddressCells

/-- The cells that invoices and payments share. -/
def transactionCells (description : Option String) (amount fee : Option UInt64) (ledger : Ledger)
    (status : String) (createdAt : Instant) (paymentTime : Option Instant) : List Node :=
  [styledCell "description" (description.getD "-"),
   styledCell "amount" (showMsat amount),
   styledCell "amount" (showMsat fee),
   textCell (Named.name ledger),
   badgeCell status,
   dateCell (some createdAt),
   dateCell paymentTime]

/-- The cells of an invoice. -/
def invoiceCells (i : Invoice) : List Node :=
  transactionCells i.description i.amountMsat i.feeMsat i.ledger (Named.name i.status) i.createdAt
    i.paymentTime

instance : Viewed Invoice where
  title := "Invoices"
  searchHint := "Search description, id or payment hash..."
  hasLedgers := true
  extraHeadings := []
  deleteLabel := "Delete"
  cells _ := invoiceCells

/-- The cells of a payment; one without a description shows the address it went to. -/
def paymentCells (p : Payment) : List Node :=
  transactionCells (p.description <|> p.lnAddress) (some p.amountMsat) p.feeMsat p.ledger
    (Named.name p.status) p.createdAt p.paymentTime

instance : Viewed Payment where
  title := "Payments"
  searchHint := "Search description, address or payment hash..."
  hasLedgers := true
  extraHeadings := []
  deleteLabel := "Delete"
  cells _ := paymentCells

end WalletConsole.Html
