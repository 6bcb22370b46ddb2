import WalletConsole.Listing.Viewport

/-!
# The foot of a table

What stands below a table: which rows are on the page, counted from 1, and buttons to the page
before and the page after.

* `Footer.countPage`, `Footer.countView` — what the foot of a table says, counted in words
* `Footer.Button` — the buttons, and where they lead
-/

namespace WalletConsole

/-- The foot of a table. -/
structure Footer where
  /-- positions of the first and the last row of the page -/
  range : Option (Nat × Nat)
  total : Nat
  isFirst : Bool
  isLast : Bool
  deriving DecidableEq, Repr

namespace Footer

/-- Counts the positions of a page in a list of so many rows. -/
def countRange (page pageSize total : Nat) : Except Miscount (Option (Nat × Nat)) :=
  if total = 0 then .ok none
  else do
    let start ← Word.mul page pageSize
    let first ← Word.add start 1
    let stop ← Word.add first pageSize
    let last ← Word.sub stop 1
    return some (first, min last total)

/-- Counts what the foot of a page of `total` rows says. -/
def countPage (page pageSize total : Nat) : Except Miscount Footer := do
  let range ← countRange page pageSize total
  let next ← Word.add page 1
  let stop ← Word.mul next pageSize
  return { range, total, isFirst := page = 0, isLast := total ≤ stop }

/-- Counts what the foot of a table of `total` rows says. -/
def countView {C : Type} (v : Viewport C) (total : Nat) : Except Miscount Footer :=
  countPage v.page v.pageSize total

/-- The buttons of a foot: to the page before, and to the page after. -/
inductive Button where
  | before
  | after
  deriving DecidableEq, Repr

/-- Can the button be pressed? -/
def isEnabled (f : Footer) : Button → Bool
  | .before => !f.isFirst
  | .after => !f.isLast

/-- The page that a button leads to. The foot has counted it before the button can be pressed. -/
def Button.leadsTo (page : Nat) : Button → Nat
  | .before => page - 1
  | .after => page + 1

/-- The rows on the page, in words. -/
def text (f : Footer) : String :=
  match f.range with
  | none => "0 of 0"
  | some (first, last) =>
    toString first ++ "–" ++ toString last ++ " of " ++ toString f.total

end Footer

end WalletConsole
