import WalletConsole.Listing.Footer
import WalletConsole.Html.Node

/-!
# Parts of a table

The head with its sortable columns, the bar over a selection, the rows that stand in when there is
nothing to show, and the foot.
-/

namespace WalletConsole.Html

/-! ## The head -/

/-- The arrow in the heading of a column. -/
def sortArrow (active : Bool) (direction : Direction) : String :=
  match active, direction with
  | false, _ => ""
  | true, .asc => "▲"
  | true, .desc => "▼"

/-- The heading of a column. -/
def columnHead {C : Type} [DecidableEq C] [Columns C] (sortColumn : C) (direction : Direction)
    (c : C) : Node :=
  let active : Bool := sortColumn = c
  styledWith "th" [.pair "data-column" (Columns.id c)]
    (if active then "sortable active" else "sortable")
    [.text (Columns.label c), styled "span" "sort-arrow" [.text (sortArrow active direction)]]

/-- The head: a box for all rows, the columns, further headings. -/
def headRow {C : Type} [DecidableEq C] [Columns C] (sortColumn : C) (direction : Direction)
    (trailing : List String) : Node :=
  bare "thead"
    [bare "tr" <|
      styled "th" "col-checkbox" [checkbox] ::
        ((Columns.all (C := C)).map (columnHead sortColumn direction) ++
          trailing.map fun label => bare "th" [.text label])]

/-! ## The bar over a selection -/

/-- The bar, if there is a selection. -/
def selectionBar (selected : Nat) (label : String) : List Node :=
  if selected = 0 then []
  else
    [styled "div" "table-selected-action"
      [checkbox,
       styled "span" "selected-count" [.text (toString selected), .text " selected"],
       button "btn btn-danger btn-inline" false label]]

/-! ## Rows that stand in -/

/-- What is said when there are no rows. -/
def noRowsMessage (nothingFound empty loading : Bool) : Option String :=
  if loading then some "Loading..."
  else if nothingFound then some "No results found"
  else if empty then some "No data"
  else none

/-- The row that says so. -/
def noRows (nothingFound empty loading : Bool) (colspan : Nat) : List Node :=
  (noRowsMessage nothingFound empty loading).toList.map fun message =>
    styled "tr" "no-data"
      [.element "td" [.pair "colspan" (toString colspan)]
        [styled "p" "empty-state" [.text message]]]

/-- The height of a row in pixels. -/
def rowHeight (dense : Bool) : Nat := if dense then 36 else 56

/-- One row as tall as so many, if there are any. -/
def fillerRow (count : Nat) (dense : Bool) (colspan : Nat) : Except Miscount (List Node) :=
  if count = 0 then .ok []
  else do
    let height ← Word.mul count (rowHeight dense)
    return [.element "tr"
      [classed "empty-rows", .pair "style" ("height: " ++ toString height ++ "px;")]
      [.element "td" [.pair "colspan" (toString colspan)] []]]

/-! ## The foot -/

/-- A size that pages can be made to have. -/
def pageSizeOption (n : Nat) : Node :=
  .element "option" [.pair "value" (toString n)] [.text (toString n)]

/-- The foot of a table. -/
def foot (f : Footer) : Node :=
  styled "div" "table-pagination"
    [styled "label" "dense-toggle" [checkbox, .text "Dense"],
     styled "div" "pagination-controls"
      [bare "label" [.text "Rows per page: ", bare "select" (pageSizes.map pageSizeOption)],
       styled "span" "page-range" [.text f.text],
       button "btn btn-secondary btn-inline" f.isFirst "‹",
       button "btn btn-secondary btn-inline" f.isLast "›"]]

end WalletConsole.Html
