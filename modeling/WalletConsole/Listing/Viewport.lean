import WalletConsole.Listing.Word
import WalletConsole.Listing.Direction

/-!
# What of a table is seen

Order, page, density and selection of a table, whatever rows it shows. Pages count from 0 and hold
at least one row.

* `Viewport.pageCount`, `Viewport.backInRange` — how many pages there are; there is always one
* `Viewport.pageOf` — the rows of the page
* `Viewport.countPages`, `Viewport.clamp`, `Viewport.cutPage`, `Viewport.countFillers` — the same as
  it is counted in words, which fails where a word is too small
* `Viewport.afterDelete`, `Viewport.afterDeleteSelected` — the page to show when rows are gone
-/

namespace WalletConsole

open Json

/-! ## Preferences -/

/-- How many rows a page can be made to hold. -/
def pageSizes : List Nat := [5, 10, 25, 50]

/-- What a table starts with. -/
structure ViewOptions (C : Type) where
  sortColumn : C
  direction : Direction := .desc
  pageSize : Nat := 25
  dense : Bool := false
  deriving DecidableEq, Repr

/-- What is remembered of a table between visits. -/
structure Preferences where
  pageSize : UInt64 := 25
  dense : Bool := false
  deriving DecidableEq, Repr

namespace Preferences

/-- The fields of the preferences in the text. -/
def fields : Fields Preferences :=
  mk <$> .required "rows_per_page" count64 <*> .required "dense" bool

/-- The preferences as JSON. -/
def toValue (p : Preferences) : Value :=
  .object [("rows_per_page", .natural p.pageSize), ("dense", .bool p.dense)]

instance : Wire Preferences := ⟨fields.decode "TablePrefs", toValue⟩

end Preferences

/-! ## The state -/

/-- Order, page, density and selection. -/
structure Viewport (C : Type) where
  page : Nat
  pageSize : Nat
  sortColumn : C
  direction : Direction
  dense : Bool
  /-- the identifiers of the selected rows, in the order of their selection -/
  selected : List String
  pageSize_pos : 0 < pageSize
  deriving DecidableEq, Repr

namespace Viewport

variable {C : Type}

/-- The state to start with. -/
def ofOptions (o : ViewOptions C) : Viewport C :=
  ⟨0, max 1 o.pageSize, o.sortColumn, o.direction, o.dense, [], by omega⟩

/-- Orders by another column, upwards, or turns the order of this one round. -/
def sortBy [DecidableEq C] (column : C) (v : Viewport C) : Viewport C :=
  if v.sortColumn = column then { v with direction := v.direction.flip }
  else { v with sortColumn := column, direction := .asc }

/-! ### Selection -/

/-- Is the row selected? -/
def isSelected (id : String) (v : Viewport C) : Bool := v.selected.contains id

/-- Selects a row, or takes it out if it is selected. -/
def flipRow (id : String) (v : Viewport C) : Viewport C :=
  { v with selected := if id ∈ v.selected then v.selected.erase id else v.selected ++ [id] }

/-- Selects these rows and no others, or none. -/
def select (checked : Bool) (ids : List String) (v : Viewport C) : Viewport C :=
  { v with selected := if checked then ids else [] }

/-- Keeps the selection to these rows. -/
def keepSelected (ids : List String) (v : Viewport C) : Viewport C :=
  { v with selected := v.selected.filter ids.contains }

/-- Is the box in the head ticked? It goes by the number of selected rows. -/
def allTicked (rowCount : Nat) (v : Viewport C) : Bool :=
  0 < rowCount && v.selected.length = rowCount

/-- Does the box in the head say that some rows are selected and some are not? -/
def partlyTicked (rowCount : Nat) (v : Viewport C) : Bool :=
  0 < v.selected.length && v.selected.length < rowCount

/-! ### Pages -/

/-- Goes to a page, be it there or not. -/
def goTo (page : Nat) (v : Viewport C) : Viewport C := { v with page }

/-- Changes the size of the pages and goes to the first. -/
def resize (pageSize : Nat) (v : Viewport C) : Viewport C :=
  { v with pageSize := max 1 pageSize, page := 0, pageSize_pos := by omega }

/-- Changes the height of the rows. -/
def setDense (dense : Bool) (v : Viewport C) : Viewport C := { v with dense }

/-- Takes over what was remembered; the page stays. -/
def adopt (p : Preferences) (v : Viewport C) : Viewport C :=
  { v with pageSize := max 1 p.pageSize.toNat, dense := p.dense, pageSize_pos := by omega }

/-- What is to be remembered. -/
def preferences (v : Viewport C) : Preferences := ⟨v.pageSize.toUInt64, v.dense⟩

/-- How many pages so many rows take; no rows take one. -/
def pageCount (total : Nat) (v : Viewport C) : Nat :=
  max 1 ((total + v.pageSize - 1) / v.pageSize)

/-- Goes back to the last page if there are fewer pages than that. -/
def backInRange (total : Nat) (v : Viewport C) : Viewport C :=
  { v with page := min v.page (v.pageCount total - 1) }

/-- The rows of the page, which may lie behind the last one. -/
def pageOf {α : Type} (rows : List α) (v : Viewport C) : List α :=
  (rows.drop (v.page * v.pageSize)).take v.pageSize

/-! ### Counting -/

/-- Counts how many pages so many rows take. -/
def countPages (total : Nat) (v : Viewport C) : Except Miscount Nat := do
  let pages ← Word.ceilDiv total v.pageSize
  return max 1 pages

/-- Counts the pages and goes back to the last one. -/
def clamp (total : Nat) (v : Viewport C) : Except Miscount (Viewport C) := do
  let pages ← v.countPages total
  let last ← Word.sub pages 1
  return v.goTo (min v.page last)

/-- Counts where the page starts and ends in a list of so many rows. -/
def pageBounds (total : Nat) (v : Viewport C) : Except Miscount (Nat × Nat) := do
  -- the start is counted before it is kept within the rows
  let start ← Word.mul v.page v.pageSize
  let first := min start total
  let stop ← Word.add first v.pageSize
  return (first, min stop total)

/-- Cuts the page out of the rows. -/
def cutPage {α : Type} (rows : List α) (v : Viewport C) : Except Miscount (List α) := do
  let (first, last) ← v.pageBounds rows.length
  return (rows.take last).drop first

/-- Counts how many rows are missing to make the last page as tall as the others. -/
def countFillers (total : Nat) (v : Viewport C) : Except Miscount Nat :=
  if v.page = 0 then .ok 0
  else do
    let next ← Word.add v.page 1
    let stop ← Word.mul next v.pageSize
    return stop - total

/-! ### After a delete -/

/-- One row is deleted; the page held `onPage` rows. -/
def afterDelete (onPage : Nat) (v : Viewport C) : Viewport C :=
  { v with
    selected := []
    page := if 0 < v.page && onPage < 2 then v.page - 1 else v.page }

/-- The selected rows are deleted; the page held `onPage` rows, all pages `total`. -/
def afterDeleteSelected (onPage total : Nat) (v : Viewport C) : Viewport C :=
  let count := v.selected.length
  { v with
    selected := []
    page :=
      if v.page = 0 then 0
      -- as many rows as the page holds are taken to be those on it
      else if count = onPage then v.page - 1
      else if count = total then 0
      -- the last page of what is left
      else if onPage < count then (total - count + v.pageSize - 1) / v.pageSize - 1
      else v.page }

end Viewport

end WalletConsole
