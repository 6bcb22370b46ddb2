import WalletConsole.Listing.Criteria
import WalletConsole.Proofs.Listing.Order

/-!
# What narrowing says

The rows to be seen are sorted first and then filtered in four stages, each of which is left out
under a condition of its own. What comes out is told without any of this: the rows that meet the
criteria, in order, tied rows in their old places.

* `Meets` — what it is for a row to meet the criteria
* `Narrowed` — what it is for a list to be the narrowed rows
* `lists_narrow_exactly` — each of the four lists narrows to the one list that is `Narrowed`, the
  rows can as well be filtered first, and an inverted range is no range
-/

namespace WalletConsole

open Calendar Text

variable {R : Type} [Record R]

/-! ## Meeting the criteria -/

/-- A row meets the criteria. -/
structure Meets (now : Instant) (c : Criteria (Record.Status R)) (ignoreDates : Bool) (row : R) :
    Prop where
  /-- the keyword is part of one of the texts, both in lower case -/
  keyword : c.keyword = "" ∨
    ∃ text ∈ Record.searchTexts row, lower c.keyword.toList <:+: lower text.toList
  status : c.status = .all ∨ c.status = .only (Record.status now row)
  ledger : c.ledgers = [] ∨ ∃ ledger ∈ c.ledgers, Record.ledger row = some ledger
  /-- half a range asks for nothing -/
  dates : ignoreDates = false → ∀ s e, c.earliest = some s → c.latest = some e →
    s ≤ Record.madeAt row ∧ Record.madeAt row ≤ e

/-- Does the range of dates let a row through? -/
def isDated (ignored : Bool) (earliest latest : Option Instant) (row : R) : Bool :=
  match ignored, earliest, latest with
  | false, some s, some e => isBetween s e (Record.madeAt row)
  | _, _, _ => true

/-- Does a row pass all four stages? -/
def passes (now : Instant) (c : Criteria (Record.Status R)) (ignoreDates : Bool) (row : R) : Bool :=
  hasKeyword c.keyword row && c.status.admits (Record.status now row) &&
    isOnLedger c.ledgers row && isDated ignoreDates c.earliest c.latest row

theorem hasKeyword_iff {keyword : String} {row : R} : hasKeyword keyword row = true ↔
    keyword = "" ∨ ∃ text ∈ Record.searchTexts row, lower keyword.toList <:+: lower text.toList := by
  simp [hasKeyword, occursIn_iff]

theorem StatusChoice.admits_iff {S : Type} [DecidableEq S] {choice : StatusChoice S} {s : S} :
    choice.admits s = true ↔ choice = .all ∨ choice = .only s := by
  cases choice <;> simp [StatusChoice.admits]

theorem isOnLedger_iff {ledgers : List Ledger} {row : R} : isOnLedger ledgers row = true ↔
    ledgers = [] ∨ ∃ ledger ∈ ledgers, Record.ledger row = some ledger := by
  unfold isOnLedger
  cases Record.ledger row <;> simp

theorem isDated_iff {ignored : Bool} {earliest latest : Option Instant} {row : R} :
    isDated ignored earliest latest row = true ↔
      (ignored = false → ∀ s e, earliest = some s → latest = some e →
        s ≤ Record.madeAt row ∧ Record.madeAt row ≤ e) := by
  cases ignored <;> cases earliest <;> cases latest <;> simp [isDated, isBetween]

theorem passes_iff {now : Instant} {c : Criteria (Record.Status R)} {ignoreDates : Bool} {row : R} :
    passes now c ignoreDates row = true ↔ Meets now c ignoreDates row := by
  simp only [passes, Bool.and_eq_true, hasKeyword_iff, StatusChoice.admits_iff, isOnLedger_iff,
    isDated_iff]
  constructor
  · rintro ⟨⟨⟨hk, hs⟩, hl⟩, hd⟩
    exact ⟨hk, hs, hl, hd⟩
  · rintro ⟨hk, hs, hl, hd⟩
    exact ⟨⟨⟨hk, hs⟩, hl⟩, hd⟩

instance (now : Instant) (c : Criteria (Record.Status R)) (ignoreDates : Bool) (row : R) :
    Decidable (Meets now c ignoreDates row) := decidable_of_iff _ passes_iff

theorem passes_eq (now : Instant) (c : Criteria (Record.Status R)) (ignoreDates : Bool) :
    passes now c ignoreDates = fun row => decide (Meets now c ignoreDates row) := by
  funext row
  rw [Bool.eq_iff_iff, passes_iff, decide_eq_true_iff]

/-! ## The stages -/

theorem byKeyword_eq (keyword : String) (rows : List R) :
    byKeyword keyword rows = rows.filter (hasKeyword keyword) := by
  unfold byKeyword
  split
  · next h => exact (List.filter_eq_self.mpr fun row _ => by simp [hasKeyword, h]).symm
  · rfl

theorem byStatus_eq (now : Instant) (status : StatusChoice (Record.Status R)) (rows : List R) :
    byStatus now status rows = rows.filter fun row => status.admits (Record.status now row) := by
  cases status with
  | all => exact (List.filter_eq_self.mpr fun _ _ => rfl).symm
  | only s => rfl

theorem byLedger_eq (ledgers : List Ledger) (rows : List R) :
    byLedger ledgers rows = rows.filter (isOnLedger ledgers) := by
  unfold byLedger
  split
  · next h => exact (List.filter_eq_self.mpr fun row _ => by simp [isOnLedger, h]).symm
  · rfl

theorem byDate_eq (ignored : Bool) (earliest latest : Option Instant) (rows : List R) :
    byDate ignored earliest latest rows = rows.filter (isDated ignored earliest latest) := by
  cases ignored <;> cases earliest <;> cases latest
  case false.some.some => rfl
  all_goals exact (List.filter_eq_self.mpr fun _ _ => rfl).symm

/-- All stages are one. -/
theorem narrow_eq_filter_sortRows (now : Instant) (cmp : R → R → Ordering)
    (c : Criteria (Record.Status R)) (ignoreDates : Bool) (rows : List R) :
    narrow now cmp c ignoreDates rows = (sortRows cmp rows).filter (passes now c ignoreDates) := by
  simp only [narrow, byDate_eq, byLedger_eq, byStatus_eq, byKeyword_eq, List.filter_filter]
  refine List.filter_congr fun row _ => ?_
  simp only [passes]
  ac_rfl

theorem mem_narrow {now : Instant} {cmp : R → R → Ordering} {c : Criteria (Record.Status R)}
    {ignoreDates : Bool} {rows : List R} {row : R} :
    row ∈ narrow now cmp c ignoreDates rows ↔ row ∈ rows ∧ Meets now c ignoreDates row := by
  rw [narrow_eq_filter_sortRows, List.mem_filter, (sortRows_perm rows).mem_iff, passes_iff]

/-- In whatever order, the rows are the same. -/
theorem narrow_perm (now : Instant) (cmp : R → R → Ordering) (c : Criteria (Record.Status R))
    (ignoreDates : Bool) (rows : List R) :
    (narrow now cmp c ignoreDates rows).Perm (rows.filter fun row => Meets now c ignoreDates row) := by
  rw [narrow_eq_filter_sortRows, passes_eq]
  exact (sortRows_perm rows).filter _

/-! ## The narrowed rows -/

/-- A list is what narrowing some rows has to come to. -/
structure Narrowed (now : Instant) (cmp : R → R → Ordering) (c : Criteria (Record.Status R))
    (ignoreDates : Bool) (rows out : List R) : Prop where
  /-- precisely the rows that meet the criteria -/
  perm : out.Perm (rows.filter fun row => Meets now c ignoreDates row)
  ordered : out.Pairwise fun a b => (cmp a b).isLE = true
  /-- among the rows that are equal to a row in the column, nothing has changed places -/
  ties : ∀ a, out.filter (isTied cmp a) =
    (rows.filter fun row => Meets now c ignoreDates row).filter (isTied cmp a)

section Ordered

variable {cmp : R → R → Ordering} [Std.TransCmp cmp]

theorem narrow_eq_sortRows_filter (now : Instant) (c : Criteria (Record.Status R))
    (ignoreDates : Bool) (rows : List R) : narrow now cmp c ignoreDates rows =
      sortRows cmp (rows.filter fun row => Meets now c ignoreDates row) := by
  rw [narrow_eq_filter_sortRows, sortRows_filter, passes_eq]

theorem narrowed_iff {now : Instant} {c : Criteria (Record.Status R)} {ignoreDates : Bool}
    {rows out : List R} : Narrowed now cmp c ignoreDates rows out ↔
      out = narrow now cmp c ignoreDates rows := by
  rw [narrow_eq_sortRows_filter]
  constructor
  · intro h
    refine eq_of_ordered_of_ties (h.perm.trans (sortRows_perm _).symm) h.ordered
      (sortRows_ordered _) fun a => ?_
    rw [h.ties a, sortRows_ties]
  · rintro rfl
    exact ⟨sortRows_perm _, sortRows_ordered _, sortRows_ties _⟩

end Ordered

/-! ## An inverted range -/

/-- The criteria without their range of dates. -/
def Criteria.withoutDates {S : Type} (c : Criteria S) : Criteria S :=
  { c with earliest := none, latest := none }

/-- A range that ends before it starts asks for nothing, like no range. -/
theorem meets_of_isInverted {now : Instant} {c : Criteria (Record.Status R)}
    (h : c.isInverted = true) (row : R) :
    Meets now c c.isInverted row ↔ Meets now c.withoutDates c.withoutDates.isInverted row := by
  constructor
  · intro hm
    exact ⟨hm.keyword, hm.status, hm.ledger, by simp [Criteria.withoutDates]⟩
  · intro hm
    exact ⟨hm.keyword, hm.status, hm.ledger, by simp [h]⟩

/-! ## The four lists -/

/-- Narrowing a list comes to what it is meant to come to. -/
structure NarrowsExactly (R : Type) [Record R] : Prop where
  /-- there is one list of narrowed rows, and this is it -/
  unique : ∀ (now : Instant) (direction : Direction) (column : Record.Column R)
    (c : Criteria (Record.Status R)) (ignoreDates : Bool) (rows out : List R),
    Narrowed now (rowOrder direction column) c ignoreDates rows out ↔
      out = narrow now (rowOrder direction column) c ignoreDates rows
  /-- rows may be left out first and sorted afterwards -/
  filterFirst : ∀ (now : Instant) (direction : Direction) (column : Record.Column R)
    (c : Criteria (Record.Status R)) (ignoreDates : Bool) (rows : List R),
    narrow now (rowOrder direction column) c ignoreDates rows =
      sortRows (rowOrder direction column)
        (rows.filter fun row => Meets now c ignoreDates row)
  /-- any sort will do, as long as positions decide between tied rows -/
  anySort : ∀ (now : Instant) (direction : Direction) (column : Record.Column R)
    (c : Criteria (Record.Status R)) (ignoreDates : Bool) (rows : List R)
    (placed : List (R × Nat)), placed.Perm rows.zipIdx →
    (placed.Pairwise fun a b => (byPlace (rowOrder direction column) a b).isLE = true) →
    narrow now (rowOrder direction column) c ignoreDates rows =
      (placed.map (·.1)).filter fun row => Meets now c ignoreDates row
  invertedRange : ∀ (now : Instant) (direction : Direction) (column : Record.Column R)
    (c : Criteria (Record.Status R)) (rows : List R), c.isInverted = true →
    narrow now (rowOrder direction column) c c.isInverted rows =
      narrow now (rowOrder direction column) c.withoutDates c.withoutDates.isInverted rows

theorem OrderedRecord.narrowsExactly (R : Type) [Record R] [OrderedRecord R] :
    NarrowsExactly R where
  unique _ _ _ _ _ _ _ := narrowed_iff
  filterFirst now _ _ c ignoreDates rows := narrow_eq_sortRows_filter now c ignoreDates rows
  anySort now direction column c ignoreDates rows placed hp hs := by
    rw [narrow_eq_sortRows_filter, ← sortRows_filter, map_eq_sortRows hp hs]
  invertedRange now direction column c rows h := by
    simp only [narrow_eq_sortRows_filter, meets_of_isInverted h]

/--
**Each of the four lists shows precisely the rows that meet the criteria, in order, tied rows in
their old places.** Filtering first comes to the same, and so does an inverted range and none.
-/
theorem lists_narrow_exactly : NarrowsExactly ApiKey ∧ NarrowsExactly LnAddress ∧
    NarrowsExactly Invoice ∧ NarrowsExactly Payment :=
  ⟨OrderedRecord.narrowsExactly ApiKey, OrderedRecord.narrowsExactly LnAddress,
    OrderedRecord.narrowsExactly Invoice, OrderedRecord.narrowsExactly Payment⟩

end WalletConsole
