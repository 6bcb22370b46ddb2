import Mathlib
import WalletConsole.Proofs.Listing.Operations

/-!
# Chips follow the criteria

There is a chip for each criterion that is on, and taking off what a chip stands for takes away this
chip and no other. A ledger is taken off by flipping it, which does so because no ledger is asked for
twice. When all chips are gone, in whatever order, nothing narrows the list any more.

* `chips_eq_nil_iff` — no chips, no criterion
* `ChipsOf`, `criteria_chips_nodup` — a criterion has one chip
* `chips_without` — one criterion less, one chip less
* `Listing.ledgers_nodup_through` — no ledger is asked for twice
* `ChipsTold` — what chips tell of a list, and what taking them away does to it
* `chips_follow_criteria` — **so it is after every run of operations**
-/

namespace WalletConsole

open Calendar

/-! ## The chips of some criteria -/

section

variable {S : Type} [Named S] {c : Criteria S}

theorem chips_eq_nil_iff : chips c = [] ↔ c.isActive = false := by
  cases hstatus : c.status <;>
    simp [chips, statusChips, dateChips, keywordChips, Criteria.isActive, StatusChoice.isAll,
      hstatus]
  tauto

/-- There is one chip for a criterion, or none. -/
def ChipsOf (criterion : Criterion) (part : List Chip) : Prop :=
  part = [] ∨ ∃ label, part = [⟨criterion, label⟩]

theorem chipsOf_statusChips (status : StatusChoice S) : ChipsOf .status (statusChips status) := by
  cases status with
  | all => exact .inl rfl
  | only s => exact .inr ⟨_, rfl⟩

theorem chipsOf_dateChips (earliest latest : Option Instant) :
    ChipsOf .dates (dateChips earliest latest) := by
  unfold dateChips
  split
  · exact .inr ⟨_, rfl⟩
  · exact .inl rfl

theorem chipsOf_keywordChips (keyword : String) : ChipsOf .keyword (keywordChips keyword) := by
  unfold keywordChips
  split
  · exact .inl rfl
  · exact .inr ⟨_, rfl⟩

theorem ChipsOf.sublist {criterion : Criterion} {part : List Chip} (h : ChipsOf criterion part) :
    (part.map Chip.criterion).Sublist [criterion] := by
  rcases h with rfl | ⟨label, rfl⟩
  · exact List.nil_sublist _
  · exact List.Sublist.refl _

/-- The chip goes with its criterion only. -/
theorem ChipsOf.filter {kind : Criterion} {part : List Chip} (h : ChipsOf kind part)
    (criterion : Criterion) : part.filter (fun chip => chip.criterion ≠ criterion) =
      if criterion = kind then [] else part := by
  rcases h with rfl | ⟨label, rfl⟩
  · simp
  · by_cases heq : criterion = kind <;> simp [heq, eq_comm]

/-- A criterion has one chip, and the chips have the order of the fields. -/
theorem criteria_chips_sublist : ((chips c).map Chip.criterion).Sublist
    ([Criterion.status] ++ c.ledgers.map Criterion.ledger ++ [Criterion.dates] ++
      [Criterion.keyword]) := by
  simp only [chips, List.map_append, List.map_map, Function.comp_def]
  exact (((chipsOf_statusChips c.status).sublist.append (List.Sublist.refl _)).append
    (chipsOf_dateChips c.earliest c.latest).sublist).append (chipsOf_keywordChips c.keyword).sublist

theorem criteria_chips_nodup (h : c.ledgers.Nodup) : ((chips c).map Chip.criterion).Nodup := by
  refine List.Nodup.sublist criteria_chips_sublist ?_
  have hledgers : (c.ledgers.map Criterion.ledger).Nodup :=
    h.map fun _ _ heq => Criterion.ledger.inj heq
  simp [List.nodup_append, hledgers]

/-- Without a criterion that is on, its chip is missing and no other. -/
theorem chips_without_filter {criterion : Criterion} (h : c.ledgers.Nodup)
    (hon : criterion ∈ (chips c).map Chip.criterion) :
    chips (c.without criterion) = (chips c).filter fun chip => chip.criterion ≠ criterion := by
  simp only [chips, List.filter_append, List.filter_map, Function.comp_def,
    (chipsOf_statusChips _).filter, (chipsOf_dateChips _ _).filter, (chipsOf_keywordChips _).filter]
  cases criterion with
  | keyword => simp [Criteria.without, keywordChips]
  | status => simp [Criteria.without, statusChips]
  | dates => simp [Criteria.without, Criteria.withoutDates, dateChips]
  | ledger ledger =>
    have hmem : ledger ∈ c.ledgers := by
      have hfields := criteria_chips_sublist.subset hon
      simpa using hfields
    -- it is asked for, so it is flipped out; it is asked for once, so it is gone then
    simp [Criteria.without, Criteria.flipLedger, hmem, h.erase_eq_filter, bne, beq_eq_decide]

/-- **A chip that is taken away is the only one that goes.** -/
theorem chips_without {chip : Chip} (h : c.ledgers.Nodup) (hchip : chip ∈ chips c) :
    chips (c.without chip.criterion) = (chips c).erase chip := by
  have hkinds : ((chips c).map Chip.criterion).Nodup := criteria_chips_nodup h
  rw [chips_without_filter h (List.mem_map_of_mem hchip),
    (List.Nodup.of_map _ hkinds).erase_eq_filter]
  refine List.filter_congr fun other hother => ?_
  have hsame : other.criterion = chip.criterion ↔ other = chip :=
    ⟨List.inj_on_of_nodup_map hkinds hother hchip, congrArg _⟩
  simp [bne, beq_eq_decide, hsame]

end

/-! ## Ledgers -/

section

variable {S : Type} {c : Criteria S}

theorem ledgers_nodup_flipLedger (ledger : Ledger) (h : c.ledgers.Nodup) :
    (c.flipLedger ledger).ledgers.Nodup := by
  unfold Criteria.flipLedger
  split
  · exact h.erase ledger
  · next hmem => exact List.nodup_append_comm.mp (List.nodup_cons.mpr ⟨hmem, h⟩)

theorem ledgers_nodup_without (criterion : Criterion) (h : c.ledgers.Nodup) :
    (c.without criterion).ledgers.Nodup := by
  cases criterion with
  | ledger ledger => exact ledgers_nodup_flipLedger ledger h
  | keyword | status | dates => exact h

end

variable {R : Type} [Record R]

/-- No operation makes a list ask for a ledger twice. -/
theorem ledgers_nodup_next (now : Instant) {l : Listing R} (op : Operation R)
    (h : l.criteria.ledgers.Nodup) : (op.next now l).criteria.ledgers.Nodup := by
  rw [Operation.criteria_next]
  cases op with
  | flipLedger ledger => exact ledgers_nodup_flipLedger ledger h
  | takeOff criterion => exact ledgers_nodup_without criterion h
  | takeAllOff => exact List.nodup_nil
  | _ => exact h

theorem Listing.ledgers_nodup_through {l : Listing R} (ops : List (Instant × Operation R))
    (h : l.criteria.ledgers.Nodup) : (l.through ops).criteria.ledgers.Nodup := by
  induction ops generalizing l with
  | nil => exact h
  | cons op ops ih => exact ih (ledgers_nodup_next op.1 op.2 h)

theorem Listing.IsNew.ledgers_nodup {l : Listing R} (h : l.IsNew) : l.criteria.ledgers.Nodup := by
  obtain ⟨o, rfl | ⟨rows, rfl⟩⟩ := h <;> exact List.nodup_nil

/-! ## Nothing to take off -/

/-- Where no criterion is on, the rows are sorted and nothing else. -/
theorem narrow_of_not_isActive {c : Criteria (Record.Status R)} (h : c.isActive = false)
    (now : Instant) (cmp : R → R → Ordering) (ignoreDates : Bool) (rows : List R) :
    narrow now cmp c ignoreDates rows = sortRows cmp rows := by
  simp only [Criteria.isActive, Bool.or_eq_false_iff, Bool.not_eq_false'] at h
  obtain ⟨⟨⟨hkeyword, hstatus⟩, hledgers⟩, hdates⟩ := h
  have hundated : ∀ rows : List R, byDate ignoreDates c.earliest c.latest rows = rows := by
    intro rows
    unfold byDate
    split
    · next hs he => simp [hs, he] at hdates
    · rfl
  rw [narrow, hundated, byLedger, if_pos hledgers, byStatus, if_pos hstatus, byKeyword,
    if_pos hkeyword]

/-! ## Taking chips away -/

/-- Takes chips away one after another, each at an instant of its own. -/
def takingOff (order : List (Instant × Chip)) : List (Instant × Operation R) :=
  order.map fun (now, chip) => (now, .takeOff chip.criterion)

namespace Listing

variable {l : Listing R}

theorem takeOff_criteria (now : Instant) (criterion : Criterion) (l : Listing R) :
    (l.takeOff now criterion).criteria = l.criteria.without criterion :=
  Operation.criteria_next now l (.takeOff criterion)

/-- To take a criterion off leads to the first page. -/
theorem takeOff_page (now : Instant) (criterion : Criterion) (l : Listing R) :
    (l.takeOff now criterion).view.page = 0 := by
  cases criterion <;> exact Nat.zero_min _

/-- Two lists have the same rows in the same order. -/
structure SameRows (l l' : Listing R) : Prop where
  replica : l'.replica = l.replica
  sortColumn : l'.view.sortColumn = l.view.sortColumn
  direction : l'.view.direction = l.view.direction

theorem sameRows_takeOff (now : Instant) (criterion : Criterion) (l : Listing R) :
    SameRows l (l.takeOff now criterion) := by
  cases criterion <;> exact ⟨rfl, rfl, rfl⟩

theorem SameRows.trans {l₁ l₂ l₃ : Listing R} (h : SameRows l₁ l₂) (h' : SameRows l₂ l₃) :
    SameRows l₁ l₃ :=
  ⟨h'.replica.trans h.replica, h'.sortColumn.trans h.sortColumn, h'.direction.trans h.direction⟩

/-- What leaves rows and order alone in each step does so in a run. -/
theorem sameRows_through {ops : List (Instant × Operation R)}
    (h : ∀ op ∈ ops, ∀ l : Listing R, SameRows l (op.2.next op.1 l)) (l : Listing R) :
    SameRows l (l.through ops) := by
  induction ops generalizing l with
  | nil => exact ⟨rfl, rfl, rfl⟩
  | cons op ops ih =>
    obtain ⟨hop, hops⟩ := List.forall_mem_cons.mp h
    exact (hop l).trans (ih hops _)

theorem sameRows_takingOff (order : List (Instant × Chip)) (l : Listing R) :
    SameRows l (l.through (takingOff order)) := by
  refine sameRows_through (fun op hop => ?_) l
  obtain ⟨taken, -, rfl⟩ := List.mem_map.mp hop
  exact sameRows_takeOff taken.1 taken.2.criterion

/-- When each chip was taken away once, in whatever order, none is left. -/
theorem chips_takingOff {order : List (Instant × Chip)} (h : l.criteria.ledgers.Nodup)
    (hall : (order.map Prod.snd).Perm (chips l.criteria)) :
    chips (l.through (takingOff order)).criteria = [] := by
  -- what is left of the order is an order of the chips that are left
  induction order generalizing l with
  | nil => exact hall.nil_eq.symm
  | cons taken order ih =>
    obtain ⟨now, chip⟩ := taken
    obtain ⟨hchip, hrest⟩ := List.cons_perm_iff_perm_erase.mp hall
    refine ih (l := l.takeOff now chip.criterion) ?_ ?_
    · rw [takeOff_criteria]
      exact ledgers_nodup_without chip.criterion h
    · rw [takeOff_criteria, chips_without h hchip]
      exact hrest

end Listing

/-- All chips of a list are taken away: it shows all its rows, in order. -/
structure AllTakenOff (l l' : Listing R) : Prop where
  noChips : chips l'.criteria = []
  inactive : l'.criteria.isActive = false
  sorted : ∀ now, l'.visible now =
    sortRows (rowOrder l.view.direction l.view.sortColumn) l.replica.rows
  perm : ∀ now, (l'.visible now).Perm l.replica.rows
  ordered : ∀ now, (l'.visible now).Pairwise fun a b =>
    (rowOrder l.view.direction l.view.sortColumn a b).isLE = true

theorem allTakenOff_takingOff [OrderedRecord R] {l : Listing R} {order : List (Instant × Chip)}
    (h : l.criteria.ledgers.Nodup) (hall : (order.map Prod.snd).Perm (chips l.criteria)) :
    AllTakenOff l (l.through (takingOff order)) := by
  have hnone := Listing.chips_takingOff h hall
  have hinactive := chips_eq_nil_iff.mp hnone
  have hsorted : ∀ now, (l.through (takingOff order)).visible now =
      sortRows (rowOrder l.view.direction l.view.sortColumn) l.replica.rows := by
    intro now
    have hsame := Listing.sameRows_takingOff order l
    rw [Listing.visible, narrow_of_not_isActive hinactive, hsame.replica, hsame.sortColumn,
      hsame.direction]
  refine ⟨hnone, hinactive, hsorted, fun now => ?_, fun now => ?_⟩
  · rw [hsorted now]
    exact sortRows_perm _
  · rw [hsorted now]
    exact sortRows_ordered _

/-! ## What chips tell -/

/-- What chips tell of a list, and what it does to take them away. -/
structure ChipsTold (l : Listing R) : Prop where
  /-- there are chips exactly if there is something to turn off -/
  some_iff : chips l.criteria ≠ [] ↔ l.criteria.isActive = true
  /-- where some row is not to be seen, there is a chip -/
  missing : ∀ now, ¬ (l.visible now).Perm l.replica.rows → chips l.criteria ≠ []
  /-- no two chips stand for the same criterion -/
  once : ((chips l.criteria).map Chip.criterion).Nodup
  /-- a chip that is taken away is the only one that goes, and the first page is shown -/
  takesOff : ∀ now, ∀ chip ∈ chips l.criteria,
    chips (l.takeOff now chip.criterion).criteria = (chips l.criteria).erase chip ∧
      (l.takeOff now chip.criterion).view.page = 0
  /-- when all chips were taken away, in whatever order, all rows are to be seen -/
  takesAllOff : ∀ order : List (Instant × Chip),
    (order.map Prod.snd).Perm (chips l.criteria) → AllTakenOff l (l.through (takingOff order))

/-- What chips tell rests on ledgers that are asked for once. -/
theorem chipsTold_of_ledgers_nodup [OrderedRecord R] {l : Listing R}
    (h : l.criteria.ledgers.Nodup) : ChipsTold l where
  some_iff := by rw [ne_eq, chips_eq_nil_iff, Bool.not_eq_false]
  missing := by
    intro now hmissing hnone
    refine hmissing ?_
    rw [Listing.visible, narrow_of_not_isActive (chips_eq_nil_iff.mp hnone)]
    exact sortRows_perm _
  once := criteria_chips_nodup h
  takesOff now chip hchip := by
    refine ⟨?_, Listing.takeOff_page now chip.criterion l⟩
    rw [Listing.takeOff_criteria, chips_without h hchip]
  takesAllOff order hall := allTakenOff_takingOff h hall

/--
**Chips follow the criteria.** After every run of operations on a new list there are chips exactly
if a criterion is on, and so whenever a row is not to be seen; a chip that is taken away is the only
one that goes; and when all are taken away, in whatever order, all rows are to be seen.
-/
theorem chips_follow_criteria [OrderedRecord R] (start : Listing R) (hnew : start.IsNew)
    (ops : List (Instant × Operation R)) : ChipsTold (start.through ops) :=
  chipsTold_of_ledgers_nodup (Listing.ledgers_nodup_through ops hnew.ledgers_nodup)

/-- A keyword, a status, two ledgers, one of them flipped out again, and half a range of dates. -/
def narrowingOperations : List (Instant × Operation LnAddress) :=
  [(newYear, .setKeyword "b"), (newYear, .setStatus (.only LnAddressStatus.active)),
    (newYear, .flipLedger .lightning), (newYear, .flipLedger .internal),
    (newYear, .flipLedger .lightning), (newYear, .setEarliest (some newYear))]

theorem chips_follow_criteria_of_addresses :
    ChipsTold (twoPages.through narrowingOperations) ∧
    chips (twoPages.through narrowingOperations).criteria =
      [⟨.status, "Status: Active"⟩, ⟨.ledger .internal, "Ledger: Internal"⟩,
        ⟨.keyword, "Keyword: b"⟩] :=
  ⟨chips_follow_criteria twoPages twoPages_isNew narrowingOperations, by decide_cbv⟩

end WalletConsole
