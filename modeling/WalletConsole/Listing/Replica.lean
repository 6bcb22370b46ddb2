import WalletConsole.Listing.Record

/-!
# The rows at hand

A list works on its own copy of the rows that the backend has. A snapshot replaces the copy; a
confirmed delete takes rows out of it at once. The snapshot that arrives next may have been taken
before the delete, so the deleted identifiers are remembered until then and dropped from it.

* `Replica.receive`, `Replica.forget` — a snapshot arrives, rows are deleted
* `Replica.startRefresh`, `Replica.failRefresh` — a fetch starts or fails; no row changes
-/

namespace WalletConsole

/-- How the rows at hand relate to those of the backend. -/
inductive Sync where
  /-- the rows of the last snapshot -/
  | current
  /-- rows were deleted since -/
  | stale
  /-- a new snapshot is on its way -/
  | refreshing
  deriving DecidableEq, Repr

/-- The rows at hand. -/
structure Replica (R : Type) where
  rows : List R
  sync : Sync
  /-- identifiers deleted since the last snapshot -/
  deletedIds : List String
  /-- have there been any rows to start with? -/
  isLoaded : Bool
  /-- the number of snapshots that arrived -/
  snapshots : Nat
  deriving DecidableEq, Repr

namespace Replica

variable {R : Type}

/-- Nothing at hand yet. -/
def unfetched : Replica R := ⟨[], .current, [], false, 0⟩

/-- Some rows at hand. -/
def ofRows (rows : List R) : Replica R := ⟨rows, .current, [], true, 0⟩

/-- A fetch starts. -/
def startRefresh (r : Replica R) : Replica R := { r with sync := .refreshing }

/-- A fetch fails: the rows stay, and so do the deleted identifiers. -/
def failRefresh (r : Replica R) : Replica R :=
  { r with sync := if r.sync = .refreshing then .stale else r.sync }

variable [Record R]

/-- The rows with other identifiers than these. -/
def without (ids : List String) (rows : List R) : List R :=
  rows.filter fun row => !ids.contains (Record.id row)

@[simp] theorem mem_without {ids : List String} {rows : List R} {row : R} :
    row ∈ without ids rows ↔ row ∈ rows ∧ Record.id row ∉ ids := by
  simp [without]

theorem without_eq_filter (ids : List String) (rows : List R) :
    without ids rows = rows.filter fun row => Record.id row ∉ ids := by
  simp [without]

/-- A snapshot arrives. -/
def receive (rows : List R) (r : Replica R) : Replica R :=
  ⟨without r.deletedIds rows, .current, [], true, r.snapshots + 1⟩

/-- The backend has deleted these rows. -/
def forget (ids : List String) (r : Replica R) : Replica R :=
  { r with
    rows := without ids r.rows
    deletedIds := r.deletedIds ++ ids
    sync := if r.sync = .current then .stale else r.sync }

/-- How many rows at hand have one of these identifiers. -/
def countOf (ids : List String) (r : Replica R) : Nat :=
  r.rows.length - (without ids r.rows).length

end Replica

end WalletConsole
