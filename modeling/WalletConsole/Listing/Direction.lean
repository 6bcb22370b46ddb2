import WalletConsole.Text.Case
import WalletConsole.Listing.Record

/-!
# The order of the rows

Rows are ordered by one column, up or down; rows that are equal there keep their places.

* `rowOrder` — the order by a column in a direction
* `sortRows` — the sorted rows
* `compareText`, `compareOptionalText` — texts are ordered without regard to case, and a missing
  text comes before all others
-/

namespace WalletConsole

open Json Text

/-- Up or down. -/
inductive Direction where
  | asc
  | desc
  deriving DecidableEq, Repr

instance : Named Direction where
  all := [.asc, .desc]
  name
    | .asc => "asc"
    | .desc => "desc"

instance : Wire Direction := ⟨Named.decode, Named.encode⟩

/-- Without a choice, rows go up. -/
instance : Inhabited Direction := ⟨.asc⟩

/-- The other direction. -/
def Direction.flip : Direction → Direction
  | .asc => .desc
  | .desc => .asc

/-- The order of two rows by a column in a direction. -/
def rowOrder {R : Type} [Record R] (direction : Direction) (column : Record.Column R) (a b : R) :
    Ordering :=
  match direction with
  | .asc => Record.compareBy column a b
  | .desc => (Record.compareBy column a b).swap

/-- The rows in order; equal rows keep their places. -/
def sortRows {R : Type} (compare : R → R → Ordering) (rows : List R) : List R :=
  rows.mergeSort fun a b => (compare a b).isLE

/-! ## Texts -/

/-- The order of two texts, without regard to case. -/
def compareText (a b : String) : Ordering := compareFolded a b

/-- The order of two texts that may be missing. -/
def compareOptionalText : Option String → Option String → Ordering
  | some a, some b => compareText a b
  | a, b => compare a.isSome b.isSome

end WalletConsole
