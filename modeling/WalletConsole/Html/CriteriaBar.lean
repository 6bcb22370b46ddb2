import WalletConsole.Listing.Chips
import WalletConsole.Html.Node

/-!
# Criteria on the screen

Tabs, fields and chips. Fields show what they hold only in the browser, so they look the same for
all criteria but for a range of dates that is inverted.
-/

namespace WalletConsole.Html

open Text

/-! ## Tabs -/

/-- A tab. -/
def tabView (t : Tab) : Node :=
  styledWith "button" [.pair "type" "button", .pair "role" "tab"]
    (if t.active then "tab active" else "tab")
    [.text t.label,
     styled "span" ("label label-" ++ lowered t.label) [.text (toString t.count)]]

/-- The tabs. -/
def tabBar (tabs : List Tab) : Node :=
  styledWith "div" [.pair "role" "tablist"] "status-tabs" (tabs.map tabView)

/-! ## Fields -/

/-- A box for a ledger. -/
def ledgerBox (l : Ledger) : Node := bare "label" [checkbox, .text (Named.name l)]

/-- The boxes for the ledgers. -/
def ledgerSelect : Node :=
  styled "fieldset" "ledger-select"
    (bare "legend" [.text "Ledger"] :: (Named.all (α := Ledger)).map ledgerBox)

/-- The fields. -/
def criteriaBar (hasLedgers isInverted : Bool) (searchHint : String) : Node :=
  styled "div" "filter-toolbar" <|
    (if hasLedgers then [ledgerSelect] else []) ++
      [styled "div" "form-group"
        [bare "label" [.text "Start date"], inputOf [.pair "type" "date"]],
       styled "div" "form-group" <|
        [bare "label" [.text "End date"],
         inputOf [.pair "type" "date", classed (if isInverted then "input-error" else "")]] ++
          if isInverted then
            [styled "small" "field-error" [.text "End date must be later than start date"]]
          else [],
       styled "div" "form-group form-group-grow"
        [inputOf [.pair "type" "search", .pair "placeholder" searchHint]]]

/-! ## Chips -/

/-- A chip. -/
def chipView (c : Chip) : Node :=
  styled "span" "chip" [.text c.label, button "btn-close" false "×"]

/-- The number of results and the chips, if any criterion is on. -/
def chipBar (chips : List Chip) (total : Nat) : List Node :=
  if chips.isEmpty then []
  else
    [styled "div" "filters-result"
      [styled "p" "result-count"
        [bare "strong" [.text (toString total)], .text " results found"],
       styled "div" "chips"
        (chips.map chipView ++ [button "btn btn-secondary btn-inline" false "Clear"])]]

end WalletConsole.Html
