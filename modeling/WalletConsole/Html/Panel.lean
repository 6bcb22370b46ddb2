import WalletConsole.Html.Cells
import WalletConsole.Html.CriteriaBar
import WalletConsole.Html.Grid

/-!
# A list on the screen

Criteria, table and question of one list as they look in a state of the list.

* `listPanel` — the whole list
-/

namespace WalletConsole.Html

open Calendar

/-- How the last fetch of a list went. -/
inductive FetchStatus where
  | loading
  | loaded
  | failed (e : FetchError)
  deriving DecidableEq, Repr

namespace FetchStatus

/-- Is the fetch under way? -/
def isUnderWay : FetchStatus → Bool
  | .loading => true
  | _ => false

/-- Why the fetch failed, if it did. -/
def failure? : FetchStatus → Option FetchError
  | .failed e => some e
  | _ => none

end FetchStatus

/-- What is asked before a delete. -/
def questionText (w : Wording) : Option Target → String
  | none => ""
  | some (.one _) => "Are you sure want to " ++ w.verb ++ " this " ++ w.singular ++ "?"
  | some (.many ids) =>
    "Are you sure want to " ++ w.verb ++ " " ++ toString ids.length ++ " " ++ w.noun ids.length ++
      "?"

section

variable {R : Type} [Viewed R]

/-- A row. -/
def rowView (now : Instant) (l : Listing R) (row : R) : Node :=
  styled "tr" (if l.view.isSelected (Record.id row) then "list-row selected" else "list-row") <|
    styled "td" "col-checkbox" [checkbox] :: (Viewed.cells now row ++
      [styled "td" "col-actions"
        [button "btn btn-danger btn-inline" false (Viewed.deleteLabel R)]])

/-- The rows of the page and what stands in for rows. -/
def tableBody (now : Instant) (fetch : FetchStatus) (l : Listing R) : Except Miscount Node := do
  let total := (l.visible now).length
  let colspan := (Columns.all (C := Record.Column R)).length + (Viewed.extraHeadings R).length + 2
  let loading := fetch.isUnderWay && !l.replica.isLoaded
  -- an empty list is told apart from one that the criteria have emptied
  let empty := l.replica.isLoaded && !l.criteria.isActive && total = 0
  let rows ← l.cutPage now
  let filler ← fillerRow (← l.view.countFillers total) l.view.dense colspan
  return bare "tbody" <|
    rows.map (rowView now l) ++ filler ++ noRows (l.nothingFound now) empty loading colspan

/-- What the head of a list says; a refresh is mentioned while it is under way. -/
def panelHead (title : String) (sync : Sync) : Node :=
  styled "div" "list-header" <|
    bare "h2" [.text title] ::
      if sync = .refreshing then [styled "span" "sync-indicator" [.text "Refreshing..."]] else []

/-- The whole list. -/
def listPanel (now : Instant) (fetch : FetchStatus) (l : Listing R) : Except Miscount Node := do
  let total := (l.visible now).length
  let body ← tableBody now fetch l
  let footer ← Footer.countView l.view total
  return styled "div" "panel list-view" <|
    [panelHead (Viewed.title R) l.replica.sync,
     tabBar (l.tabs now),
     criteriaBar (Viewed.hasLedgers R) l.criteria.isInverted (Viewed.searchHint R)] ++
    chipBar (chips l.criteria) total ++
    selectionBar l.view.selected.length (Viewed.deleteLabel R) ++
    [styled "table" (if l.view.dense then "list-table dense" else "list-table")
      [headRow l.view.sortColumn l.view.direction (Viewed.extraHeadings R ++ [""]),
       body],
     foot footer] ++
    question l.confirmation.isShown l.confirmation.isBusy (Viewed.deleteLabel R)
      (Viewed.deleteLabel R) (questionText (Listed.wording R) l.confirmation.target?)

end

end WalletConsole.Html
