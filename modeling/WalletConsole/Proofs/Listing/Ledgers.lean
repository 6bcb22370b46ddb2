import Mathlib
import WalletConsole.Proofs.Listing.Chips

/-!
# Ledgers that are asked for

A ledger is taken in by flipping it, and taken out again by flipping it once more. The ledgers that
are asked for are held as a list without an order of its own, so only the parity with which each of
them was flipped can matter for what is to be seen.

* `Criteria.flipAll` — the criteria after some ledgers were flipped
* `mem_flipLedger`, `Criteria.mem_flipAll` — what one flip does, and what many do
* `isOnLedger_congr`, `isOnLedger_of_all` — which rows are on the ledgers that are asked for
* `Listing.visible_flipping` — what a list shows when ledgers were flipped
* `FollowsParity` — what flipping ledgers does to a list
* `ledgers_follow_parity` — **so it is for invoices and payments**
-/

namespace WalletConsole

open Calendar

/-! ## Flipping ledgers -/

section

variable {S : Type} {c : Criteria S}

/-- The criteria after some ledgers were flipped, one after another. -/
def Criteria.flipAll (c : Criteria S) (flips : List Ledger) : Criteria S :=
  flips.foldl Criteria.flipLedger c

/-- A flip takes the flipped ledger in or out and leaves the others. -/
theorem mem_flipLedger {flipped ledger : Ledger} (h : c.ledgers.Nodup) :
    ledger ∈ (c.flipLedger flipped).ledgers ↔
      if ledger = flipped then ledger ∉ c.ledgers else ledger ∈ c.ledgers := by
  unfold Criteria.flipLedger
  by_cases hin : flipped ∈ c.ledgers <;> by_cases heq : ledger = flipped <;>
    simp [hin, heq, h.mem_erase_iff]

namespace Criteria

theorem ledgers_nodup_flipAll (h : c.ledgers.Nodup) (flips : List Ledger) :
    (c.flipAll flips).ledgers.Nodup := by
  induction flips generalizing c with
  | nil => exact h
  | cons flipped flips ih => exact ih (ledgers_nodup_flipLedger flipped h)

/-- **What counts is how often a ledger was flipped**, and of that only the parity. -/
theorem mem_flipAll (h : c.ledgers.Nodup) (flips : List Ledger) (ledger : Ledger) :
    ledger ∈ (c.flipAll flips).ledgers ↔ (ledger ∈ c.ledgers ↔ Even (flips.count ledger)) := by
  induction flips generalizing c with
  | nil => simp [flipAll]
  | cons flipped flips ih =>
    show ledger ∈ ((c.flipLedger flipped).flipAll flips).ledgers ↔ _
    rw [ih (ledgers_nodup_flipLedger flipped h), mem_flipLedger h, List.count_cons]
    by_cases heq : ledger = flipped
    · -- one flip more: in for out, and odd for even
      simp only [heq, if_true, beq_self_eq_true, Nat.even_add_one]
      tauto
    · simp [heq, Ne.symm heq]

/-- Flips with the same parities come to the same ledgers, in whatever order. -/
theorem mem_flipAll_congr (h : c.ledgers.Nodup) {flips flips' : List Ledger}
    (hparity : ∀ ledger, Even (flips.count ledger) ↔ Even (flips'.count ledger)) (ledger : Ledger) :
    ledger ∈ (c.flipAll flips).ledgers ↔ ledger ∈ (c.flipAll flips').ledgers := by
  rw [mem_flipAll h, mem_flipAll h, hparity]

/-- Flips touch nothing but the ledgers. -/
theorem flipAll_eq (c : Criteria S) (flips : List Ledger) :
    c.flipAll flips = { c with ledgers := (c.flipAll flips).ledgers } := by
  induction flips generalizing c with
  | nil => rfl
  | cons flipped flips ih =>
    show (c.flipLedger flipped).flipAll flips = _
    rw [ih]
    rfl

end Criteria

end

/-! ## Rows on ledgers -/

section

variable {R : Type} [Record R] {ledgers ledgers' : List Ledger}

theorem isOnLedger_congr (h : ∀ ledger, ledger ∈ ledgers ↔ ledger ∈ ledgers') (row : R) :
    isOnLedger ledgers row = isOnLedger ledgers' row := by
  rw [Bool.eq_iff_iff, isOnLedger_iff, isOnLedger_iff]
  simp only [List.eq_nil_iff_forall_not_mem, h]

/-- A row that is on some ledger is on one of all. -/
theorem isOnLedger_of_all {row : R} (hrow : (Record.ledger row).isSome = true)
    (h : ∀ ledger, ledger ∈ ledgers) : isOnLedger ledgers row = true := by
  obtain ⟨ledger, hledger⟩ := Option.isSome_iff_exists.mp hrow
  exact isOnLedger_iff.mpr (.inr ⟨ledger, h ledger, hledger⟩)

/-- Of the ledgers that are asked for it only matters which rows are on one of them. -/
theorem narrow_congr_ledgers (h : ∀ row : R, isOnLedger ledgers row = isOnLedger ledgers' row)
    (now : Instant) (cmp : R → R → Ordering) (c : Criteria (Record.Status R)) (ignoreDates : Bool)
    (rows : List R) :
    narrow now cmp { c with ledgers } ignoreDates rows =
      narrow now cmp { c with ledgers := ledgers' } ignoreDates rows := by
  simp only [narrow_eq_filter_sortRows]
  refine List.filter_congr fun row _ => ?_
  simp only [passes, h row]

end

/-! ## Flipping the ledgers of a list -/

variable {R : Type} [Record R]

/-- Flips ledgers one after another, each at an instant of its own. -/
def flipping (flips : List (Instant × Ledger)) : List (Instant × Operation R) :=
  flips.map fun (now, ledger) => (now, .flipLedger ledger)

namespace Listing

theorem criteria_flipping (l : Listing R) (flips : List (Instant × Ledger)) :
    (l.through (flipping flips)).criteria = l.criteria.flipAll (flips.map Prod.snd) := by
  induction flips generalizing l with
  | nil => rfl
  | cons flip flips ih => exact ih (Operation.next flip.1 l (.flipLedger flip.2))

theorem sameRows_flipping (l : Listing R) (flips : List (Instant × Ledger)) :
    SameRows l (l.through (flipping flips)) := by
  refine sameRows_through (fun op hop => ?_) l
  obtain ⟨flip, -, rfl⟩ := List.mem_map.mp hop
  exact fun _ => ⟨rfl, rfl, rfl⟩

/-- What a list shows when ledgers were flipped is what it would show with these ledgers. -/
theorem visible_flipping (now : Instant) (l : Listing R) (flips : List (Instant × Ledger)) :
    (l.through (flipping flips)).visible now =
      narrow now (rowOrder l.view.direction l.view.sortColumn)
        { l.criteria with ledgers := (l.criteria.flipAll (flips.map Prod.snd)).ledgers }
        l.criteria.isInverted l.replica.rows := by
  have hsame := sameRows_flipping l flips
  rw [visible, criteria_flipping, hsame.replica, hsame.sortColumn, hsame.direction,
    Criteria.flipAll_eq]
  rfl

end Listing

/-- What is to be seen in a list follows the parities with which ledgers were flipped. -/
structure FollowsParity (R : Type) [Record R] : Prop where
  /-- no ledger is asked for twice -/
  nodup : ∀ flips : List Ledger,
    ((Criteria.off : Criteria (Record.Status R)).flipAll flips).ledgers.Nodup
  /-- a ledger is asked for if it was flipped an odd number of times -/
  asked_iff : ∀ (flips : List Ledger) (ledger : Ledger),
    ledger ∈ ((Criteria.off : Criteria (Record.Status R)).flipAll flips).ledgers ↔
      Odd (flips.count ledger)
  /-- with the same parities, in whatever order, the same rows are to be seen in the same order -/
  visible_eq : ∀ (l : Listing R) (flips flips' : List (Instant × Ledger)),
    l.criteria.ledgers.Nodup →
    (∀ ledger, Odd ((flips.map Prod.snd).count ledger) ↔ Odd ((flips'.map Prod.snd).count ledger)) →
    ∀ now, (l.through (flipping flips)).visible now = (l.through (flipping flips')).visible now
  /-- to ask for all ledgers is to ask for none -/
  all_eq_none : ∀ (l : Listing R), (∀ ledger, ledger ∈ l.criteria.ledgers) →
    ∀ now, l.visible now =
      Listing.visible now { l with criteria := { l.criteria with ledgers := [] } }

theorem followsParity_of_isSome (h : ∀ row : R, (Record.ledger row).isSome = true) :
    FollowsParity R where
  nodup flips := Criteria.ledgers_nodup_flipAll List.nodup_nil flips
  asked_iff flips ledger := by
    rw [Criteria.mem_flipAll List.nodup_nil, ← Nat.not_even_iff_odd]
    simp [Criteria.off]
  visible_eq l flips flips' hnodup hparity now := by
    simp only [← Nat.not_even_iff_odd, not_iff_not] at hparity
    rw [Listing.visible_flipping, Listing.visible_flipping]
    exact narrow_congr_ledgers
      (isOnLedger_congr (Criteria.mem_flipAll_congr hnodup hparity)) now _ _ _ _
  all_eq_none l hall now :=
    narrow_congr_ledgers (fun row => isOnLedger_of_all (h row) hall) now _ l.criteria _ _

/--
**Ledgers follow parity.** A ledger is asked for if it was flipped an odd number of times, the order
of the flips does not matter for the rows of a list of invoices or payments, and to ask for all
ledgers is to ask for none.
-/
theorem ledgers_follow_parity : FollowsParity Invoice ∧ FollowsParity Payment :=
  ⟨followsParity_of_isSome fun _ => rfl, followsParity_of_isSome fun _ => rfl⟩

end WalletConsole
