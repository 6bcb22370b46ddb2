import WalletConsole.Listing.Criteria
import WalletConsole.Listing.Viewport
import WalletConsole.Listing.Replica
import WalletConsole.Listing.Confirmation
import WalletConsole.Wallet.FetchError

/-!
# A list and what is done to it

Everything that one list keeps track of. After every change of the rows or the criteria the
selection is kept to the rows that are still there to be seen, and the page to the pages there are.

* `Listing.visible`, `Listing.onPage` — the rows to be seen, on all pages and on this one
* `Listing.cutPage` — the rows on the page, counted in words
* `Listing.settle` — what every change of the rows ends with
* `Listing.forgetRow`, `Listing.forgetRows` — rows were deleted
-/

namespace WalletConsole

open Calendar

/-- The rows of a list, the criteria they have to meet, what of them is seen, and a question. -/
structure Listing (R : Type) [Record R] where
  replica : Replica R
  criteria : Criteria (Record.Status R)
  view : Viewport (Record.Column R)
  confirmation : Confirmation

namespace Listing

variable {R : Type} [Record R]

/-- A list whose rows have not been fetched yet. -/
def ofOptions (o : ViewOptions (Record.Column R)) : Listing R :=
  ⟨.unfetched, .off, .ofOptions o, .idle⟩

/-- A list of some rows. -/
def ofRows (o : ViewOptions (Record.Column R)) (rows : List R) : Listing R :=
  { ofOptions o with replica := .ofRows rows }

/-! ## What is to be seen -/

/-- The rows on all pages. -/
def visible (now : Instant) (l : Listing R) : List R :=
  narrow now (rowOrder l.view.direction l.view.sortColumn) l.criteria l.criteria.isInverted
    l.replica.rows

/-- The identifiers of the rows on all pages. -/
def visibleIds (now : Instant) (l : Listing R) : List String :=
  (l.visible now).map Record.id

/-- The rows on the page. -/
def onPage (now : Instant) (l : Listing R) : List R := l.view.pageOf (l.visible now)

/-- Cuts the page out of the rows on all pages. -/
def cutPage (now : Instant) (l : Listing R) : Except Miscount (List R) :=
  l.view.cutPage (l.visible now)

/-- Do the criteria leave nothing over? -/
def nothingFound (now : Instant) (l : Listing R) : Bool :=
  l.replica.isLoaded && (l.visible now).isEmpty && l.criteria.isActive

/-! ## Changes -/

/-- Keeps selection and page to what is to be seen. -/
def settle (now : Instant) (l : Listing R) : Listing R :=
  let ids := l.visibleIds now
  { l with view := (l.view.keepSelected ids).backInRange ids.length }

/-- Changes the criteria and goes to the first page. -/
def refilter (now : Instant) (change : Criteria (Record.Status R) → Criteria (Record.Status R))
    (l : Listing R) : Listing R :=
  settle now { l with criteria := change l.criteria, view := l.view.goTo 0 }

/-- A snapshot of the rows arrives. -/
def receive (now : Instant) (rows : List R) (l : Listing R) : Listing R :=
  settle now { l with replica := l.replica.receive rows }

/-- A fetch ends, with rows or without. -/
def endRefresh (now : Instant) (result : Except FetchError (List R)) (l : Listing R) :
    Listing R :=
  match result with
  | .ok rows => l.receive now rows
  -- what is on the screen stays there
  | .error _ => { l with replica := l.replica.failRefresh }

/-- Selects all rows to be seen, or none. -/
def selectVisible (now : Instant) (checked : Bool) (l : Listing R) : Listing R :=
  { l with view := l.view.select checked (l.visibleIds now) }

/-- Asks whether a row is to be deleted. -/
def askRow (id : String) (l : Listing R) : Listing R × Bool :=
  let (confirmation, asked) := l.confirmation.ask (.one id)
  ({ l with confirmation }, asked)

/-- Asks whether the selected rows are to be deleted, if there are any. -/
def askSelected (l : Listing R) : Listing R × Bool :=
  if l.view.selected.isEmpty then (l, false)
  else
    let (confirmation, asked) := l.confirmation.ask (.many l.view.selected)
    ({ l with confirmation }, asked)

/-- A row was deleted. The page before is shown if it was the last one on its page. -/
def forgetRow (now : Instant) (id : String) (l : Listing R) : Listing R :=
  settle now
    { l with
      replica := l.replica.forget [id]
      view := l.view.afterDelete (l.onPage now).length }

/--
Rows were deleted. The page to show is found from the number of deleted rows, whatever is selected
by now.
-/
def forgetRows (now : Instant) (ids : List String) (l : Listing R) : Listing R :=
  settle now
    { l with
      replica := l.replica.forget ids
      -- rows and page are counted before the rows go
      view := { l.view with selected := ids }.afterDeleteSelected (l.onPage now).length
        (l.visible now).length }

end Listing

end WalletConsole
