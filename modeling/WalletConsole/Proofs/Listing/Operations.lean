import WalletConsole.Listing.LnAddresses
import WalletConsole.Listing.Operation
import WalletConsole.Proofs.Listing.Narrowing
import WalletConsole.Proofs.Runs

/-!
# What the operations touch

An operation changes the rows at hand, the criteria, the view or the question. What it does to the
rows does not depend on the rest, and what it does to rows or criteria ends with settling the view.

* `Listing.after`, `Listing.through` — the list after a run of operations, at one instant or many
* `Operation.onRows`, `replica_next` — what an operation does to the rows at hand
* `Operation.snapshot?`, `onRows_of_no_snapshot` — without a snapshot, rows can only be taken out
* `Operation.onCriteria`, `criteria_next` — what an operation does to the criteria
* `Operation.onQuestion`, `confirmation_next` — what an operation does to the question
* `Operation.settles`, `next_of_settles` — the operations that end with settling the view
* `twoPages` — a list to try things on
-/

namespace WalletConsole

open Calendar

variable {R : Type} [Record R]

/-- The list after an operation. -/
def Operation.next (now : Instant) (l : Listing R) (op : Operation R) : Listing R :=
  (op.run now l).1

/-- The list after some operations. -/
def Listing.after (now : Instant) (l : Listing R) (ops : List (Operation R)) : Listing R :=
  ops.foldl (Operation.next now) l

/-- The list after some operations, each at an instant of its own. -/
def Listing.through (l : Listing R) (ops : List (Instant × Operation R)) : Listing R :=
  ops.foldl (fun l op => op.2.next op.1 l) l

theorem Listing.through_append (l : Listing R) (before after : List (Instant × Operation R)) :
    l.through (before ++ after) = (l.through before).through after := List.foldl_append

/-- A list as it is made, with some rows or without. -/
def Listing.IsNew (l : Listing R) : Prop :=
  ∃ o, l = .ofOptions o ∨ ∃ rows, l = .ofRows o rows

/-! ## What is to be seen -/

namespace Listing

variable {now : Instant} {l : Listing R}

theorem visibleIds_length : (l.visibleIds now).length = (l.visible now).length :=
  List.length_map _

theorem mem_visible {row : R} : row ∈ l.visible now ↔
    row ∈ l.replica.rows ∧ Meets now l.criteria l.criteria.isInverted row := mem_narrow

/-- The order does not matter for what is to be seen. -/
theorem visible_perm {l' : Listing R} (hrows : l'.replica.rows = l.replica.rows)
    (hcriteria : l'.criteria = l.criteria) : (l'.visible now).Perm (l.visible now) := by
  unfold visible
  rw [hrows, hcriteria]
  exact (narrow_perm _ _ _ _ _).trans (narrow_perm _ _ _ _ _).symm

end Listing

/-- The criteria without one of them. A ledger is taken out as it is taken in. -/
def Criteria.without {S : Type} (c : Criteria S) : Criterion → Criteria S
  | .keyword => { c with keyword := "" }
  | .status => { c with status := .all }
  | .ledger ledger => c.flipLedger ledger
  | .dates => c.withoutDates

/-! ## Order and questions -/

section Order

variable {C : Type} [DecidableEq C] (column : C) (v : Viewport C)

@[simp] theorem Viewport.sortBy_selected : (v.sortBy column).selected = v.selected := by
  unfold Viewport.sortBy
  split <;> rfl

@[simp] theorem Viewport.sortBy_page : (v.sortBy column).page = v.page := by
  unfold Viewport.sortBy
  split <;> rfl

@[simp] theorem Viewport.sortBy_pageSize : (v.sortBy column).pageSize = v.pageSize := by
  unfold Viewport.sortBy
  split <;> rfl

end Order

/-- To ask changes nothing but the question. -/
theorem Listing.askSelected_eq (l : Listing R) :
    ∃ confirmation, l.askSelected.1 = { l with confirmation } := by
  unfold Listing.askSelected
  split <;> exact ⟨_, rfl⟩

/-! ## Operations that settle the view -/

namespace Operation

/-- Does an operation change rows or criteria and settle the view after that? -/
def settles : Operation R → Bool
  | .setKeyword _ | .setStatus _ | .flipLedger _ | .setEarliest _ | .setLatest _ => true
  | .pickEarliest _ | .pickLatest _ | .takeAllOff | .takeOff _ => true
  | .forgetRow _ | .forgetRows _ | .receive _ | .endRefresh (.ok _) => true
  | _ => false

/-- What is settled is a list in which nothing new is selected. -/
theorem next_of_settles (now : Instant) (l : Listing R) {op : Operation R}
    (h : op.settles = true) :
    ∃ l' : Listing R, op.next now l = l'.settle now ∧
      l'.view.selected.Sublist l.view.selected := by
  cases op with
  | setKeyword | setStatus | flipLedger | setEarliest | setLatest | pickEarliest | pickLatest
  | takeAllOff | receive => exact ⟨_, rfl, List.Sublist.refl _⟩
  | takeOff criterion =>
    cases criterion with
    | keyword | status | ledger => exact ⟨_, rfl, List.Sublist.refl _⟩
    | dates => exact ⟨_, rfl, List.filter_sublist⟩
  | forgetRow | forgetRows => exact ⟨_, rfl, List.nil_sublist _⟩
  | endRefresh result =>
    cases result with
    | ok rows => exact ⟨_, rfl, List.Sublist.refl _⟩
    | error => simp [settles] at h
  | _ => simp [settles] at h

/-! ## The rows at hand -/

/-- What an operation does to the rows at hand. -/
def onRows : Operation R → Replica R → Replica R
  | .forgetRow id, r => r.forget [id]
  | .forgetRows ids, r | .dropRows ids, r => r.forget ids
  | .startRefresh, r => r.startRefresh
  | .failRefresh, r | .endRefresh (.error _), r => r.failRefresh
  | .receive rows, r | .endRefresh (.ok rows), r => r.receive rows
  | _, r => r

/-- **What becomes of the rows at hand is told by the rows and the operation alone.** -/
theorem replica_next (now : Instant) (l : Listing R) (op : Operation R) :
    (op.next now l).replica = op.onRows l.replica := by
  cases op with
  | takeOff criterion => cases criterion <;> rfl
  | endRefresh result => cases result <;> rfl
  | askSelected =>
    obtain ⟨confirmation, heq⟩ := l.askSelected_eq
    show l.askSelected.1.replica = l.replica
    rw [heq]
  | _ => rfl

/-- Does an operation leave the rows at hand as they are? -/
def leavesRows : Operation R → Bool
  | .forgetRow _ | .forgetRows _ | .dropRows _ | .receive _ | .endRefresh _ => false
  | .startRefresh | .failRefresh => false
  | _ => true

theorem replica_next_of_leavesRows (now : Instant) (l : Listing R) {op : Operation R}
    (h : op.leavesRows = true) : (op.next now l).replica = l.replica := by
  rw [replica_next]
  cases op with
  | forgetRow | forgetRows | dropRows | receive | endRefresh | startRefresh | failRefresh =>
    simp [leavesRows] at h
  | _ => rfl

/-! ### Snapshots -/

/-- The rows that arrive, if the operation brings a snapshot. -/
def snapshot? : Operation R → Option (List R)
  | .receive rows | .endRefresh (.ok rows) => some rows
  | _ => none

theorem onRows_of_snapshot {op : Operation R} {rows : List R} (h : op.snapshot? = some rows)
    (r : Replica R) : op.onRows r = r.receive rows := by
  cases op with
  | receive =>
    cases h
    rfl
  | endRefresh result =>
    cases result with
    | ok =>
      cases h
      rfl
    | error => cases h
  | _ => cases h

/-- What brings no snapshot can take rows out, and nothing else happens to them. -/
theorem onRows_of_no_snapshot {op : Operation R} (h : op.snapshot? = none) (r : Replica R) :
    (op.onRows r).snapshots = r.snapshots ∧ ∃ ids, (op.onRows r).rows = Replica.without ids r.rows := by
  have hall : r.rows = Replica.without [] r.rows :=
    (List.filter_eq_self.mpr fun _ _ => rfl).symm
  cases op with
  | forgetRow id => exact ⟨rfl, [id], rfl⟩
  | forgetRows ids | dropRows ids => exact ⟨rfl, ids, rfl⟩
  | receive => cases h
  | endRefresh result =>
    cases result with
    | ok => cases h
    | error => exact ⟨rfl, [], hall⟩
  | _ => exact ⟨rfl, [], hall⟩

/-! ## The criteria -/

/-- What an operation does to the criteria. -/
def onCriteria : Operation R → Criteria (Record.Status R) → Criteria (Record.Status R)
  | .setKeyword keyword, c => { c with keyword }
  | .setStatus status, c => { c with status }
  | .flipLedger ledger, c => c.flipLedger ledger
  | .setEarliest t, c => { c with earliest := t }
  | .setLatest t, c => { c with latest := t }
  | .pickEarliest s, c => { c with earliest := startOf? s }
  | .pickLatest s, c => { c with latest := endOf? s }
  | .takeAllOff, _ => .off
  | .takeOff criterion, c => c.without criterion
  | _, c => c

/-- **What becomes of the criteria is told by the criteria and the operation alone.** -/
theorem criteria_next (now : Instant) (l : Listing R) (op : Operation R) :
    (op.next now l).criteria = op.onCriteria l.criteria := by
  cases op with
  | takeOff criterion => cases criterion <;> rfl
  | endRefresh result => cases result <;> rfl
  | askSelected =>
    obtain ⟨confirmation, heq⟩ := l.askSelected_eq
    show l.askSelected.1.criteria = l.criteria
    rw [heq]
  | _ => rfl

/-! ## The question -/

/-- What an operation does to the question. -/
def onQuestion (l : Listing R) : Operation R → Confirmation
  | .askRow id => (l.confirmation.ask (.one id)).1
  | .askSelected =>
    if l.view.selected.isEmpty then l.confirmation
    else (l.confirmation.ask (.many l.view.selected)).1
  | .decline => l.confirmation.decline.1
  | .accept => l.confirmation.accept.1
  | .close => l.confirmation.close
  | _ => l.confirmation

/-- **What becomes of the question is told by it, the selection and the operation alone.** -/
theorem confirmation_next (now : Instant) (l : Listing R) (op : Operation R) :
    (op.next now l).confirmation = op.onQuestion l := by
  cases op with
  | takeOff criterion => cases criterion <;> rfl
  | endRefresh result => cases result <;> rfl
  | askSelected =>
    show l.askSelected.1.confirmation = _
    unfold Listing.askSelected onQuestion
    split <;> rfl
  | _ => rfl

/-- Does an operation ask, when nothing is asked, whether this is to be deleted? -/
def AsksAbout (l : Listing R) (target : Target) : Operation R → Prop
  | .askRow id => l.confirmation = .idle ∧ target = .one id
  | .askSelected =>
    l.confirmation = .idle ∧ l.view.selected ≠ [] ∧ target = .many l.view.selected
  | _ => False

theorem asking_of_ask {q : Confirmation} {t target : Target} (h : (q.ask t).1 = .asking target) :
    q = .asking target ∨ q = .idle ∧ target = t := by
  cases q with
  | idle =>
    cases h
    exact .inr ⟨rfl, rfl⟩
  | asking | deleting => exact .inl h

/-- What is asked after an operation was asked before it, or the operation asks it. -/
theorem asking_of_next {now : Instant} {l : Listing R} {op : Operation R} {target : Target}
    (h : (op.next now l).confirmation = .asking target) :
    l.confirmation = .asking target ∨ op.AsksAbout l target := by
  rw [confirmation_next] at h
  cases op with
  | askRow id => exact asking_of_ask h
  | askSelected =>
    by_cases hselected : l.view.selected = []
    · left
      simpa [onQuestion, hselected] using h
    · have hask : (l.confirmation.ask (.many l.view.selected)).1 = .asking target := by
        simpa [onQuestion, hselected] using h
      rcases asking_of_ask hask with hasked | ⟨hidle, htarget⟩
      · exact .inl hasked
      · exact .inr ⟨hidle, hselected, htarget⟩
  | decline | accept | close =>
    cases hasked : l.confirmation <;>
      simp [onQuestion, hasked, Confirmation.decline, Confirmation.accept, Confirmation.close] at h
  | _ => exact .inl h

end Operation

/-! ## A list to try things on -/

/-- The start of a year. -/
def newYear : Instant := ⟨⟨2024, 1, 1, by decide⟩, .midnight⟩

/-- An address of which nothing matters but the name. -/
def LnAddress.named (name : String) : LnAddress :=
  ⟨name, "wallet", name, none, true, false, newYear, none⟩

/-- Two addresses, each on a page of its own. -/
def twoPages : Listing LnAddress :=
  .ofRows { sortColumn := .createdAt, pageSize := 1 } [.named "ann", .named "bob"]

theorem twoPages_isNew : twoPages.IsNew := ⟨_, .inr ⟨_, rfl⟩⟩

end WalletConsole
