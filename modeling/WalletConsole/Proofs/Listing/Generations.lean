import Mathlib
import WalletConsole.Proofs.Listing.Selection

/-!
# Snapshots tell rows apart

A row on the screen goes by the number of snapshots that have arrived and its identifier, and is
drawn once for each such key. So a row may only change when a snapshot arrives. Between two of them
rows are taken out, but none comes in, changes or moves.

* `snapshots_next`, `rows_next_sublist` — what a single operation does to number and rows
* `Listing.snapshots_through`, `Listing.rows_through_sublist` — what a run does to them
* `GenerationTold` — what the number of snapshots tells of two lists of a run
* `KeysTold` — what the keys of rows tell
* `keys_tell_contents` — **so it is for any two lists of a run**
-/

namespace WalletConsole

open Calendar

variable {R : Type} [Record R]

/-! ## Single operations -/

/-- **Every snapshot is counted once, and nothing else is.** -/
theorem snapshots_next (now : Instant) (l : Listing R) (op : Operation R) :
    (op.next now l).replica.snapshots =
      l.replica.snapshots + if op.snapshot?.isSome then 1 else 0 := by
  rw [Operation.replica_next]
  cases h : op.snapshot? with
  | some rows =>
    rw [Operation.onRows_of_snapshot h]
    rfl
  | none => exact (Operation.onRows_of_no_snapshot h l.replica).1

/-- **Without a snapshot no row comes in, changes or moves.** -/
theorem rows_next_sublist (now : Instant) (l : Listing R) {op : Operation R}
    (h : op.snapshot? = none) : (op.next now l).replica.rows.Sublist l.replica.rows := by
  rw [Operation.replica_next]
  obtain ⟨-, ids, hrows⟩ := Operation.onRows_of_no_snapshot h l.replica
  rw [hrows]
  exact List.filter_sublist

/-! ## Runs -/

/-- The snapshots that arrive in a run. -/
def snapshotsIn (ops : List (Instant × Operation R)) : List (List R) :=
  ops.filterMap (·.2.snapshot?)

namespace Listing

variable {l : Listing R} {ops : List (Instant × Operation R)}

/-- Every snapshot of a run is counted once. -/
theorem snapshots_through : (l.through ops).replica.snapshots =
    l.replica.snapshots + (snapshotsIn ops).length := by
  induction ops generalizing l with
  | nil => rfl
  | cons op ops ih =>
    show ((op.2.next op.1 l).through ops).replica.snapshots = _
    rw [ih, snapshots_next]
    cases h : op.2.snapshot? <;> simp [snapshotsIn, h, Nat.add_assoc, Nat.add_comm 1]

/-- As long as no snapshot arrives, the rows are some of those there were, in their old order. -/
theorem rows_through_sublist (h : snapshotsIn ops = []) :
    (l.through ops).replica.rows.Sublist l.replica.rows := by
  induction ops generalizing l with
  | nil => exact List.Sublist.refl _
  | cons op ops ih =>
    obtain ⟨hop, hops⟩ : op.2.snapshot? = none ∧ snapshotsIn ops = [] := by
      simpa [snapshotsIn] using h
    exact (ih hops).trans (rows_next_sublist op.1 l hop)

theorem distinctIds_through (h : DistinctIds l.replica.rows)
    (hops : ∀ rows ∈ snapshotsIn ops, DistinctIds rows) :
    DistinctIds (l.through ops).replica.rows := by
  induction ops generalizing l with
  | nil => exact h
  | cons op ops ih =>
    have hop : ∀ rows, op.2.snapshot? = some rows → DistinctIds rows := fun rows hrows =>
      hops rows (List.mem_filterMap.mpr ⟨op, List.mem_cons_self, hrows⟩)
    have hrest : ∀ rows ∈ snapshotsIn ops, DistinctIds rows := fun rows hrows =>
      hops rows (((List.sublist_cons_self op ops).filterMap _).subset hrows)
    exact ih (h.next hop) hrest

end Listing

/-! ## Keys -/

/-- What a row goes by on the screen: the number of snapshots that have arrived, and its identifier. -/
def Listing.rowKey (l : Listing R) (row : R) : Nat × String := (l.replica.snapshots, Record.id row)

/-- What the number of snapshots tells of two lists of a run, with what was done between them. -/
structure GenerationTold (earlier later : Listing R) (between : List (Instant × Operation R)) :
    Prop where
  /-- it has gone up by one for each snapshot, and by nothing else -/
  counted : later.replica.snapshots = earlier.replica.snapshots + (snapshotsIn between).length
  /-- as long as it is the same, the rows are some of those there were, in their old order -/
  rows : later.replica.snapshots = earlier.replica.snapshots →
    later.replica.rows.Sublist earlier.replica.rows
  /-- a machine word is enough to tell -/
  words : (snapshotsIn between).length < UInt64.size →
    (later.replica.snapshots.toUInt64 = earlier.replica.snapshots.toUInt64 ↔
      later.replica.snapshots = earlier.replica.snapshots)

/-- What the keys of the rows on two pages tell. -/
structure KeysTold (earlier later : Listing R) : Prop where
  /-- a row seen under the same key is the same row, whenever it is seen -/
  contents : ∀ now now', ∀ row ∈ earlier.onPage now, ∀ row' ∈ later.onPage now',
    earlier.rowKey row = later.rowKey row' → row = row'
  /-- on a page, keys are distinct -/
  apart : ∀ now, ((later.onPage now).map later.rowKey).Nodup

theorem Listing.mem_rows_of_onPage {now : Instant} {l : Listing R} {row : R}
    (h : row ∈ l.onPage now) : row ∈ l.replica.rows :=
  (Listing.mem_visible.mp (Listing.onPage_subset h)).1

theorem generationTold (l : Listing R) (ops : List (Instant × Operation R)) :
    GenerationTold l (l.through ops) ops where
  counted := Listing.snapshots_through
  rows := by
    intro hsame
    rw [Listing.snapshots_through] at hsame
    exact Listing.rows_through_sublist (List.length_eq_zero_iff.mp (by omega))
  words := by
    intro hfew
    rw [Listing.snapshots_through, ← UInt64.toNat_inj]
    simp only [Nat.toUInt64_eq, UInt64.toNat_ofNat']
    simp only [UInt64.size] at hfew
    omega

theorem DistinctIds.keysTold {l : Listing R} {ops : List (Instant × Operation R)}
    (h : DistinctIds l.replica.rows) (hops : ∀ rows ∈ snapshotsIn ops, DistinctIds rows) :
    KeysTold l (l.through ops) where
  contents := by
    intro now now' row hrow row' hrow' hkey
    obtain ⟨hsame, hid⟩ := Prod.mk.inj hkey
    have hkept := ((generationTold l ops).rows hsame.symm).subset (Listing.mem_rows_of_onPage hrow')
    exact List.inj_on_of_nodup_map h (Listing.mem_rows_of_onPage hrow) hkept hid
  apart := by
    intro now
    have hids : ((l.through ops).onPage now |>.map Record.id).Nodup :=
      (Listing.visibleIds_nodup (Listing.distinctIds_through h hops)).sublist
        ((Listing.onPage_sublist now (l.through ops)).map _)
    refine List.Nodup.of_map Prod.snd ?_
    rwa [List.map_map]

/--
**A key tells what is in the row.** Of any two lists of a run, the later one has some of the rows of
the earlier one, in their old order, unless a snapshot has arrived between them, and then the number
of snapshots has gone up. So if identifiers are distinct in every snapshot, a row that is seen under
a key is always the same, and no two rows on a page have the same key.
-/
theorem keys_tell_contents (start : Listing R) (before between : List (Instant × Operation R)) :
    GenerationTold (start.through before) (start.through (before ++ between)) between ∧
    (DistinctIds start.replica.rows →
      (∀ rows ∈ snapshotsIn (before ++ between), DistinctIds rows) →
      KeysTold (start.through before) (start.through (before ++ between))) := by
  rw [Listing.through_append]
  refine ⟨generationTold _ _, fun hstart hsnapshots => ?_⟩
  rw [snapshotsIn, List.filterMap_append, List.forall_mem_append] at hsnapshots
  exact (Listing.distinctIds_through hstart hsnapshots.1).keysTold hsnapshots.2

/-- Two addresses arrive, and the second page is shown. -/
def bothArrive : List (Instant × Operation LnAddress) :=
  [(newYear, .receive [.named "ann", .named "bob"]), (newYear, .goTo 1)]

/-- The first of them is deleted, and a fetch fails. -/
def annGoes : List (Instant × Operation LnAddress) :=
  [(newYear, .startRefresh), (newYear, .forgetRow "ann"), (newYear, .failRefresh)]

theorem keys_tell_contents_while_ann_goes :
    GenerationTold (twoPages.through bothArrive) (twoPages.through (bothArrive ++ annGoes)) annGoes ∧
    KeysTold (twoPages.through bothArrive) (twoPages.through (bothArrive ++ annGoes)) ∧
    (twoPages.through bothArrive).onPage newYear = [.named "bob"] ∧
    (twoPages.through (bothArrive ++ annGoes)).onPage newYear = [.named "bob"] := by
  obtain ⟨htold, hkeys⟩ := keys_tell_contents twoPages bothArrive annGoes
  exact ⟨htold, hkeys (by decide) (by decide), by decide_cbv, by decide_cbv⟩

end WalletConsole
