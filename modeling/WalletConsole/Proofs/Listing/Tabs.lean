import Mathlib
import WalletConsole.Listing.Chips
import WalletConsole.Proofs.Listing.Narrowing

/-!
# Tabs part the rows

There is a tab for all rows and one for each status. A tab counts the rows that it would show if it
were the only criterion, and as every row has one status, each row is counted once by the tab for
all rows and once by one of the others.

* `Named.IsComplete` — every member of a closed set is listed once
* `length_narrow_onlyStatus` — how many rows a status alone leaves over
* `sum_countWith` — each row is counted for one status
* `TabsPart` — what the tabs of a list come to
* `tabs_part_rows` — **each of the four lists has such tabs**
-/

namespace WalletConsole

open Calendar

/-! ## Closed sets -/

/-- Every member of a closed set is listed once. -/
def Named.IsComplete (α : Type) [Named α] [DecidableEq α] : Prop :=
  ∀ x : α, (Named.all (α := α)).count x = 1

theorem InvoiceStatus.isComplete : Named.IsComplete InvoiceStatus := by
  intro s
  cases s <;> decide

theorem PaymentStatus.isComplete : Named.IsComplete PaymentStatus := by
  intro s
  cases s <;> decide

theorem ApiKeyStatus.isComplete : Named.IsComplete ApiKeyStatus := by
  intro s
  cases s <;> decide

theorem LnAddressStatus.isComplete : Named.IsComplete LnAddressStatus := by
  intro s
  cases s <;> decide

/-! ## Counting -/

/-- A status as the only criterion. -/
def Criteria.onlyStatus {S : Type} (status : StatusChoice S) : Criteria S :=
  ⟨"", status, [], none, none⟩

section

variable {R : Type} [Record R] (now : Instant) (rows : List R)

/-- A status alone leaves as many rows over as are counted for it, in whatever order. -/
theorem length_narrow_onlyStatus (cmp : R → R → Ordering) (ignoreDates : Bool)
    (status : StatusChoice (Record.Status R)) :
    (narrow now cmp (.onlyStatus status) ignoreDates rows).length = countWith now rows status := by
  have hstages : narrow now cmp (.onlyStatus status) ignoreDates rows =
      byStatus now status (sortRows cmp rows) := by
    cases ignoreDates <;> rfl
  rw [hstages, byStatus_eq, ← List.countP_eq_length_filter]
  exact (sortRows_perm rows).countP_eq _

theorem countWith_all : countWith now rows .all = rows.length :=
  congrFun List.countP_true rows

/-- A status is admitted by as many of these choices as it is listed times. -/
theorem sum_admits {S : Type} [DecidableEq S] (listed : List S) (status : S) :
    (listed.map fun s => if (StatusChoice.only s).admits status then 1 else 0).sum =
      listed.count status := by
  induction listed with
  | nil => rfl
  | cons s listed ih =>
    rw [List.map_cons, List.sum_cons, ih, List.count_cons, Nat.add_comm]
    simp [StatusChoice.admits]

/-- Each row is counted for one status. -/
theorem sum_countWith (h : Named.IsComplete (Record.Status R)) :
    ((Named.all (α := Record.Status R)).map fun s => countWith now rows (.only s)).sum =
      rows.length := by
  induction rows with
  | nil => simp [countWith]
  | cons row rows ih =>
    simp only [countWith, List.countP_cons] at ih ⊢
    rw [List.sum_map_add, ih, sum_admits, h, List.length_cons]

end

/-! ## Tabs -/

/-- Of all choices of a status one is made. -/
theorem filter_statusChoices {S : Type} [Named S] [DecidableEq S] (h : Named.IsComplete S)
    (status : StatusChoice S) :
    ∃ label, (statusChoices S).filter (fun option => status = option.1) = [(status, label)] := by
  cases status with
  | all => exact ⟨"All", by simp [statusChoices, List.filter_map, Function.comp_def]⟩
  | only s =>
    refine ⟨Named.name s, ?_⟩
    have hs : (Named.all (α := S)).filter (fun x => s = x) = [s] := by
      simp only [eq_comm (a := s), List.filter_eq, h s]
      rfl
    simp [statusChoices, List.filter_map, Function.comp_def, hs]

namespace Listing

variable {R : Type} [Record R] (now : Instant) (l : Listing R)
  (options : List (StatusChoice (Record.Status R) × String))

theorem map_count_tabsOf : (l.tabsOf now options).map Tab.count =
    options.map fun option => countWith now l.replica.rows option.1 := by
  simp [tabsOf, Function.comp_def]

/-- The active tabs are those whose status was chosen. -/
theorem filter_active_tabsOf : (l.tabsOf now options).filter Tab.active =
    l.tabsOf now (options.filter fun option => l.criteria.status = option.1) :=
  List.filter_map

end Listing

/-- Tabs for these options part the rows of a list. -/
structure TabsPart (R : Type) [Record R]
    (options : List (StatusChoice (Record.Status R) × String)) : Prop where
  /-- these are the tabs on the screen -/
  shown : ∀ (now : Instant) (l : Listing R), l.tabs now = l.tabsOf now options
  /-- a tab counts what its status leaves over as the only criterion, in whatever order -/
  counts : ∀ (now : Instant) (l : Listing R) (cmp : R → R → Ordering) (ignoreDates : Bool),
    (l.tabs now).map Tab.count = options.map fun option =>
      (narrow now cmp (.onlyStatus option.1) ignoreDates l.replica.rows).length
  /-- the first tab counts all rows, the others together as many -/
  total : ∀ (now : Instant) (l : Listing R), ∃ others,
    l.tabs now = ⟨"All", l.replica.rows.length, l.criteria.status = .all⟩ :: others ∧
      (others.map Tab.count).sum = l.replica.rows.length
  /-- nothing but the rows matters for the counts -/
  independent : ∀ (now : Instant) (l l' : Listing R), l'.replica.rows = l.replica.rows →
    (l'.tabs now).map Tab.count = (l.tabs now).map Tab.count
  /-- one tab is active: that of the chosen status -/
  active : ∀ (now : Instant) (l : Listing R), ∃ label, (l.criteria.status, label) ∈ options ∧
    (l.tabs now).filter Tab.active =
      [⟨label, countWith now l.replica.rows l.criteria.status, true⟩]

/-- Tabs for all members of a closed set, each listed once, part the rows. -/
theorem tabsPart_of_isComplete {R : Type} [Record R] (h : Named.IsComplete (Record.Status R)) :
    TabsPart R (statusChoices (Record.Status R)) where
  shown _ _ := rfl
  counts now l cmp ignoreDates := by
    simp only [length_narrow_onlyStatus]
    exact l.map_count_tabsOf now _
  total now l := by
    refine ⟨l.tabsOf now ((Named.all (α := Record.Status R)).map fun s => (.only s, Named.name s)),
      ?_, ?_⟩
    · rw [← countWith_all now l.replica.rows]
      rfl
    · rw [Listing.map_count_tabsOf, List.map_map]
      exact sum_countWith now l.replica.rows h
  independent now l l' hrows := by
    simp only [Listing.tabs, Listing.map_count_tabsOf, hrows]
  active now l := by
    obtain ⟨label, hchosen⟩ := filter_statusChoices h l.criteria.status
    refine ⟨label, ?_, ?_⟩
    · have hmem : (l.criteria.status, label) ∈ (statusChoices (Record.Status R)).filter
          fun option => l.criteria.status = option.1 := hchosen ▸ List.mem_singleton_self _
      exact List.mem_of_mem_filter hmem
    · rw [Listing.tabs, Listing.filter_active_tabsOf, hchosen]
      simp [Listing.tabsOf]

/--
**Tabs part the rows.** In each of the four lists a tab counts the rows that its status leaves over
as the only criterion, whatever else is asked for, the tab for all rows counts as many as the others
together, and one tab is active.
-/
theorem tabs_part_rows :
    TabsPart ApiKey [(.all, "All"), (.only ApiKeyStatus.active, "Active"),
      (.only ApiKeyStatus.expired, "Expired")] ∧
    TabsPart LnAddress [(.all, "All"), (.only LnAddressStatus.active, "Active"),
      (.only LnAddressStatus.inactive, "Inactive")] ∧
    TabsPart Invoice [(.all, "All"), (.only InvoiceStatus.pending, "Pending"),
      (.only InvoiceStatus.settled, "Settled"), (.only InvoiceStatus.expired, "Expired")] ∧
    TabsPart Payment [(.all, "All"), (.only PaymentStatus.pending, "Pending"),
      (.only PaymentStatus.settled, "Settled"), (.only PaymentStatus.failed, "Failed")] :=
  ⟨tabsPart_of_isComplete ApiKeyStatus.isComplete, tabsPart_of_isComplete LnAddressStatus.isComplete,
    tabsPart_of_isComplete InvoiceStatus.isComplete, tabsPart_of_isComplete PaymentStatus.isComplete⟩

end WalletConsole
