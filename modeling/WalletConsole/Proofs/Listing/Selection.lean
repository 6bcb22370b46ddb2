import Mathlib
import WalletConsole.Proofs.Listing.Operations

/-!
# The selection

What is selected is to be seen. Every change of the rows or the criteria takes away from the
selection what is not to be seen any more, so that nothing is deleted that the user does not see,
and the number of selected rows tells whether all of them are.

* `SelectionSound` — everything selected is to be seen, and nothing is selected twice
* `Selects` — the operations of a list, with rows that have distinct identifiers
* `SelectionTold` — what the number of selected rows tells about a selection that is sound
* `selection_is_seen` — every run of operations ends with such a selection
-/

namespace WalletConsole

open Calendar

variable {R : Type} [Record R]

/-! ## Distinct identifiers -/

/-- The rows have distinct identifiers. -/
def DistinctIds (rows : List R) : Prop := (rows.map Record.id).Nodup

instance (rows : List R) : Decidable (DistinctIds rows) :=
  inferInstanceAs (Decidable (rows.map Record.id).Nodup)

theorem DistinctIds.filter {rows : List R} (p : R → Bool) (h : DistinctIds rows) :
    DistinctIds (rows.filter p) := List.Nodup.sublist (List.filter_sublist.map _) h

/-- Identifiers stay distinct if they are so in every snapshot. -/
theorem DistinctIds.next {now : Instant} {l : Listing R} {op : Operation R}
    (hop : ∀ rows, op.snapshot? = some rows → DistinctIds rows) (h : DistinctIds l.replica.rows) :
    DistinctIds (op.next now l).replica.rows := by
  rw [Operation.replica_next]
  cases hsnapshot : op.snapshot? with
  | some rows =>
    rw [Operation.onRows_of_snapshot hsnapshot]
    exact (hop rows hsnapshot).filter _
  | none =>
    obtain ⟨-, ids, hrows⟩ := Operation.onRows_of_no_snapshot hsnapshot l.replica
    rw [hrows]
    exact h.filter _

/-! ## Sound selections -/

/-- The selection is sound. -/
structure SelectionSound (now : Instant) (l : Listing R) : Prop where
  distinct : DistinctIds l.replica.rows
  seen : ∀ id ∈ l.view.selected, id ∈ l.visibleIds now
  once : l.view.selected.Nodup

theorem Listing.mem_visibleIds {now : Instant} {l : Listing R} {id : String} :
    id ∈ l.visibleIds now ↔ ∃ row ∈ l.visible now, Record.id row = id := List.mem_map

theorem Listing.onPage_sublist (now : Instant) (l : Listing R) :
    (l.onPage now).Sublist (l.visible now) :=
  (List.take_sublist _ _).trans (List.drop_sublist _ _)

theorem Listing.onPage_subset {now : Instant} {l : Listing R} {row : R}
    (h : row ∈ l.onPage now) : row ∈ l.visible now := (l.onPage_sublist now).subset h

theorem Listing.visibleIds_nodup {now : Instant} {l : Listing R}
    (h : DistinctIds l.replica.rows) : (l.visibleIds now).Nodup :=
  ((narrow_perm _ _ _ _ _).map Record.id).nodup_iff.mpr (h.filter _)

/-- Settling makes a selection sound, whatever was selected before. -/
theorem selectionSound_settle {now : Instant} {l : Listing R}
    (hdistinct : DistinctIds l.replica.rows) (honce : l.view.selected.Nodup) :
    SelectionSound now (l.settle now) where
  distinct := hdistinct
  seen := by
    intro id hid
    have hcontains := (List.mem_filter.mp hid).2
    exact List.contains_iff_mem.mp hcontains
  once := honce.filter _

/-- Where rows and criteria stay, a selection of the same rows stays sound. -/
theorem SelectionSound.of_eq {now : Instant} {l l' : Listing R} (h : SelectionSound now l)
    (hrows : l'.replica.rows = l.replica.rows) (hcriteria : l'.criteria = l.criteria)
    (hselected : l'.view.selected = l.view.selected) : SelectionSound now l' where
  distinct := by
    rw [hrows]
    exact h.distinct
  seen := by
    intro id hid
    rw [hselected] at hid
    have hperm : (l'.visible now).Perm (l.visible now) := Listing.visible_perm hrows hcriteria
    exact (hperm.map Record.id).mem_iff.mpr (h.seen id hid)
  once := by
    rw [hselected]
    exact h.once

/-! ## Operations -/

/--
What is done to a list: rows that arrive have distinct identifiers, a row is selected by hand where
it is seen, and no rows are taken away without a word to the view.
-/
def Selects (now : Instant) (l : Listing R) : Operation R → Prop
  | .flipRow id => id ∈ (l.onPage now).map Record.id
  | .receive rows | .endRefresh (.ok rows) => DistinctIds rows
  | .dropRows _ => False
  | _ => True

instance (now : Instant) (l : Listing R) : (op : Operation R) → Decidable (Selects now l op)
  | .flipRow id => inferInstanceAs (Decidable (id ∈ (l.onPage now).map Record.id))
  | .receive rows | .endRefresh (.ok rows) => inferInstanceAs (Decidable (DistinctIds rows))
  | .dropRows _ => instDecidableFalse
  | .setKeyword _ | .setStatus _ | .flipLedger _ | .setEarliest _ | .setLatest _
  | .pickEarliest _ | .pickLatest _ | .takeAllOff | .takeOff _ | .sortBy _ | .selectVisible _
  | .goTo _ | .resize _ | .setDense _ | .adopt _ | .askRow _ | .askSelected | .decline | .accept
  | .close | .forgetRow _ | .forgetRows _ | .startRefresh | .failRefresh | .endRefresh (.error _) =>
    instDecidableTrue

theorem distinctIds_next {now : Instant} {l : Listing R} {op : Operation R}
    (hop : Selects now l op) (h : DistinctIds l.replica.rows) :
    DistinctIds (op.next now l).replica.rows := by
  refine h.next fun rows hrows => ?_
  cases op with
  | receive =>
    cases hrows
    exact hop
  | endRefresh result =>
    cases result with
    | ok =>
      cases hrows
      exact hop
    | error => cases hrows
  | _ => cases hrows

theorem SelectionSound.flipRow {now : Instant} {l : Listing R} {id : String}
    (h : SelectionSound now l) (hid : id ∈ l.visibleIds now) :
    SelectionSound now { l with view := l.view.flipRow id } where
  distinct := h.distinct
  seen := by
    intro x hx
    show x ∈ l.visibleIds now
    by_cases hmem : id ∈ l.view.selected
    · simp only [Viewport.flipRow, hmem, if_true] at hx
      exact h.seen x (List.mem_of_mem_erase hx)
    · simp only [Viewport.flipRow, hmem, if_false, List.mem_append, List.mem_singleton] at hx
      rcases hx with hx | rfl
      · exact h.seen x hx
      · exact hid
  once := by
    show (l.view.flipRow id).selected.Nodup
    by_cases hmem : id ∈ l.view.selected
    · simp only [Viewport.flipRow, hmem, if_true]
      exact h.once.erase id
    · simp only [Viewport.flipRow, hmem, if_false]
      exact List.nodup_append.mpr ⟨h.once, by simp, by
        intro x hx y hy
        rw [List.mem_singleton] at hy
        rintro rfl
        exact hmem (hy ▸ hx)⟩

theorem SelectionSound.selectVisible {now : Instant} {l : Listing R} (checked : Bool)
    (h : SelectionSound now l) : SelectionSound now (l.selectVisible now checked) := by
  cases checked with
  | true => exact ⟨h.distinct, fun _ hid => hid, Listing.visibleIds_nodup h.distinct⟩
  | false =>
    exact ⟨h.distinct, fun _ hid => absurd hid List.not_mem_nil, List.nodup_nil⟩

/-- **Every operation keeps the selection sound.** -/
theorem SelectionSound.next {now : Instant} {l : Listing R} {op : Operation R}
    (hop : Selects now l op) (h : SelectionSound now l) : SelectionSound now (op.next now l) := by
  by_cases hsettles : op.settles = true
  · obtain ⟨l', heq, hselected⟩ := op.next_of_settles now l hsettles
    have hdistinct := distinctIds_next hop h.distinct
    rw [heq] at hdistinct ⊢
    exact selectionSound_settle hdistinct (h.once.sublist hselected)
  · cases op with
    | flipRow id =>
      obtain ⟨row, hrow, hid⟩ := List.mem_map.mp hop
      exact h.flipRow (Listing.mem_visibleIds.mpr ⟨row, Listing.onPage_subset hrow, hid⟩)
    | selectVisible checked => exact h.selectVisible checked
    | sortBy column => exact h.of_eq rfl rfl (Viewport.sortBy_selected column l.view)
    | dropRows => exact absurd hop id
    | askSelected =>
      show SelectionSound now l.askSelected.1
      obtain ⟨confirmation, heq⟩ := l.askSelected_eq
      rw [heq]
      exact h.of_eq rfl rfl rfl
    | endRefresh result =>
      cases result with
      | ok => simp [Operation.settles] at hsettles
      | error => exact h.of_eq rfl rfl rfl
    | goTo | resize | setDense | adopt | askRow | decline | accept | close | startRefresh
    | failRefresh => exact h.of_eq rfl rfl rfl
    | _ => simp [Operation.settles] at hsettles

/-! ## Whole runs -/

theorem selectionSound_new {now : Instant} {l : Listing R} (hnew : l.IsNew)
    (hdistinct : DistinctIds l.replica.rows) : SelectionSound now l := by
  have hselected : l.view.selected = [] := by
    obtain ⟨o, rfl | ⟨rows, rfl⟩⟩ := hnew <;> rfl
  refine ⟨hdistinct, ?_, ?_⟩
  · intro id hid
    rw [hselected] at hid
    exact absurd hid List.not_mem_nil
  · rw [hselected]
    exact List.nodup_nil

theorem SelectionSound.after {now : Instant} {l : Listing R} {ops : List (Operation R)}
    (hops : Along (Operation.next now) (Selects now) l ops) (h : SelectionSound now l) :
    SelectionSound now (l.after now ops) :=
  Along.keeps (SelectionSound now) (fun _ _ hop hl => hl.next hop) hops h

/-! ## Counting -/

/-- Is the row selected? -/
def Listing.HasSelected (l : Listing R) (row : R) : Prop := Record.id row ∈ l.view.selected

theorem SelectionSound.length_le {now : Instant} {l : Listing R} (h : SelectionSound now l) :
    l.view.selected.length ≤ (l.visible now).length := by
  rw [← Listing.visibleIds_length]
  exact h.once.length_le_of_subset h.seen

/-- As many rows are selected as are to be seen exactly if all of them are. -/
theorem SelectionSound.length_eq_iff {now : Instant} {l : Listing R} (h : SelectionSound now l) :
    l.view.selected.length = (l.visible now).length ↔ ∀ row ∈ l.visible now, l.HasSelected row := by
  rw [← Listing.visibleIds_length]
  constructor
  · intro hlength row hrow
    have hsub : l.view.selected.Subperm (l.visibleIds now) := h.once.subperm h.seen
    have hperm := hsub.perm_of_length_le (Nat.le_of_eq hlength.symm)
    exact hperm.mem_iff.mpr (Listing.mem_visibleIds.mpr ⟨row, hrow, rfl⟩)
  · intro hall
    have hsub : l.visibleIds now ⊆ l.view.selected := by
      intro id hid
      obtain ⟨row, hrow, rfl⟩ := Listing.mem_visibleIds.mp hid
      exact hall row hrow
    have hnodup : (l.visibleIds now).Nodup := Listing.visibleIds_nodup h.distinct
    exact Nat.le_antisymm (h.once.length_le_of_subset h.seen) (hnodup.length_le_of_subset hsub)

theorem SelectionSound.selected_pos_iff {now : Instant} {l : Listing R}
    (h : SelectionSound now l) :
    0 < l.view.selected.length ↔ ∃ row ∈ l.visible now, l.HasSelected row := by
  rw [List.length_pos_iff_exists_mem]
  constructor
  · rintro ⟨id, hid⟩
    obtain ⟨row, hrow, rfl⟩ := Listing.mem_visibleIds.mp (h.seen id hid)
    exact ⟨row, hrow, hid⟩
  · rintro ⟨row, -, hrow⟩
    exact ⟨_, hrow⟩

/-- What the number of selected rows tells about them. -/
structure SelectionTold (now : Instant) (l : Listing R) : Prop where
  seen : ∀ id ∈ l.view.selected, ∃ row ∈ l.visible now, Record.id row = id
  once : l.view.selected.Nodup
  atMost : l.view.selected.length ≤ (l.visible now).length
  all : l.view.selected.length = (l.visible now).length ↔
    ∀ row ∈ l.visible now, l.HasSelected row
  allTicked : l.view.allTicked (l.visible now).length = true ↔
    l.visible now ≠ [] ∧ ∀ row ∈ l.visible now, l.HasSelected row
  partlyTicked : l.view.partlyTicked (l.visible now).length = true ↔
    (∃ row ∈ l.visible now, l.HasSelected row) ∧ ∃ row ∈ l.visible now, ¬ l.HasSelected row

theorem SelectionSound.told {now : Instant} {l : Listing R} (h : SelectionSound now l) :
    SelectionTold now l where
  seen := fun id hid => Listing.mem_visibleIds.mp (h.seen id hid)
  once := h.once
  atMost := h.length_le
  all := h.length_eq_iff
  allTicked := by
    simp only [Viewport.allTicked, Bool.and_eq_true, decide_eq_true_eq]
    rw [h.length_eq_iff, List.length_pos_iff]
  partlyTicked := by
    have hless : l.view.selected.length < (l.visible now).length ↔
        ∃ row ∈ l.visible now, ¬ l.HasSelected row := by
      rw [Nat.lt_iff_le_and_ne, ne_eq, h.length_eq_iff]
      simp [h.length_le]
    simp only [Viewport.partlyTicked, Bool.and_eq_true, decide_eq_true_eq]
    rw [h.selected_pos_iff, hless]

/--
**What is selected is to be seen.** After every run of operations on a new list, the selection is
one of rows to be seen, without repetition, and the box in the head tells from its length alone
whether all, some or none of them are selected.
-/
theorem selection_is_seen (now : Instant) (start : Listing R) (ops : List (Operation R))
    (hnew : start.IsNew) (hdistinct : DistinctIds start.replica.rows)
    (hops : Along (Operation.next now) (Selects now) start ops) :
    SelectionTold now (start.after now ops) :=
  ((selectionSound_new hnew hdistinct).after hops).told

/-- Rows selected on two pages, a criterion, a delete and a snapshot with a new row. -/
def selectingOperations : List (Operation LnAddress) :=
  [.flipRow "ann", .goTo 1, .flipRow "bob", .setKeyword "B", .selectVisible true,
    .forgetRow "bob", .takeAllOff, .startRefresh,
    .endRefresh (.ok [.named "ann", .named "bob", .named "eve"]), .flipRow "ann"]

theorem selection_is_seen_over_two_pages :
    SelectionTold newYear (twoPages.after newYear selectingOperations) :=
  selection_is_seen newYear twoPages selectingOperations twoPages_isNew (by decide) (by decide_cbv)

end WalletConsole
