import WalletConsole.Calendar.DateInput
import WalletConsole.Calendar.Display
import WalletConsole.Listing.State

/-!
# Chips and tabs

What shows the criteria at work: a chip for each of them, which takes the criterion off, and a tab
for each status with the number of rows it would show.

* `chips` — the criteria that are on, in the order of their fields on the screen
* `Listing.takeOff` — takes one off
* `Listing.tabs` — all rows, then each status
-/

namespace WalletConsole

open Calendar

/-! ## Chips -/

/-- The criterion that a chip stands for. -/
inductive Criterion where
  | keyword
  | status
  | ledger (ledger : Ledger)
  | dates
  deriving DecidableEq, Repr

/-- A criterion that is on, and how it is shown. -/
structure Chip where
  criterion : Criterion
  label : String
  deriving DecidableEq, Repr

/-- The chip of the status, if only one is shown. -/
def statusChips {S : Type} [Named S] : StatusChoice S → List Chip
  | .all => []
  | .only s => [⟨.status, "Status: " ++ Named.name s⟩]

/-- The chip of the range of dates, if both ends are set. -/
def dateChips (earliest latest : Option Instant) : List Chip :=
  if earliest.isSome && latest.isSome then
    [⟨.dates, "Date: " ++ showDate earliest ++ " - " ++ showDate latest⟩]
  else []

/-- The chip of the keyword, if there is one. -/
def keywordChips (keyword : String) : List Chip :=
  if keyword.isEmpty then [] else [⟨.keyword, "Keyword: " ++ keyword⟩]

/-- The criteria that are on. -/
def chips {S : Type} [Named S] (c : Criteria S) : List Chip :=
  statusChips c.status ++ c.ledgers.map (fun l => ⟨.ledger l, "Ledger: " ++ Named.name l⟩) ++
    dateChips c.earliest c.latest ++ keywordChips c.keyword

/-! ## Tabs -/

/-- A tab for a status. -/
structure Tab where
  label : String
  count : Nat
  active : Bool
  deriving DecidableEq, Repr

/-- The choices of a status with their labels. -/
def statusChoices (S : Type) [Named S] : List (StatusChoice S × String) :=
  (.all, "All") :: (Named.all (α := S)).map fun s => (.only s, Named.name s)

namespace Listing

variable {R : Type} [Record R]

/-- Tabs for some choices of a status. Each counts its rows whatever the other criteria say. -/
def tabsOf (now : Instant) (choices : List (StatusChoice (Record.Status R) × String))
    (l : Listing R) : List Tab :=
  choices.map fun (status, label) =>
    ⟨label, countWith now l.replica.rows status, l.criteria.status = status⟩

/-- The tabs: all rows, then each status. -/
def tabs (now : Instant) (l : Listing R) : List Tab :=
  l.tabsOf now (statusChoices (Record.Status R))

/-- Takes a criterion off. -/
def takeOff (now : Instant) (criterion : Criterion) (l : Listing R) : Listing R :=
  match criterion with
  | .keyword => l.refilter now fun c => { c with keyword := "" }
  | .status => l.refilter now fun c => { c with status := .all }
  | .ledger ledger => l.refilter now (·.flipLedger ledger)
  | .dates =>
    (l.refilter now fun c => { c with earliest := none }).refilter now fun c =>
      { c with latest := none }

end Listing

end WalletConsole
