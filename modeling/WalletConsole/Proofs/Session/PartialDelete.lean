import WalletConsole.Proofs.Listing.History
import WalletConsole.Proofs.Session.Accounts

/-!
# Deletes that are carried out in part

The backend may delete only some of the rows of a call. It answers how many, but not which, and the
list forgets every row of the call. So it forgets rows that are still there; worse, they are missing
from the next snapshot, too, although the rows at hand count as current from then on. The snapshot
after that brings them back.

* `Desk.history`, `Desk.replica?_after` — what happens in a session tells the rows at hand
* `Change.deletedIds_afterAll` — what is remembered as deleted after some changes
* `HidesSelected` — the rows at hand lack the selected rows, whether these were deleted or not
* `snapshot_hides_selected` — so it is with the first snapshot after a delete of the selection
-/

namespace WalletConsole

open Calendar

/-! ## The history of a session -/

section

variable {R : Type} [Record R]

/-- What an operation does to the rows at hand. -/
def Operation.changes : Operation R → List (Change R)
  | .forgetRow id => [.forget [id]]
  | .forgetRows ids | .dropRows ids => [.forget ids]
  | .startRefresh => [.startRefresh]
  | .failRefresh | .endRefresh (.error _) => [.failRefresh]
  | .receive rows | .endRefresh (.ok rows) => [.receive rows]
  | _ => []

theorem Operation.onRows_eq_afterAll (op : Operation R) (r : Replica R) :
    op.onRows r = r.afterAll op.changes := by
  cases op with
  | endRefresh result => cases result <;> rfl
  | _ => rfl

/-- Rows at hand as they come to be. -/
def Replica.Reached (r : Replica R) : Prop :=
  ∃ initial history, r = (Replica.initial initial).afterAll history

theorem Replica.Reached.apart {r : Replica R} (h : r.Reached) :
    ∀ row ∈ r.rows, Record.id row ∉ r.deletedIds := by
  obtain ⟨initial, history, rfl⟩ := h
  exact (ToldBy.afterAll initial history).apart

theorem Replica.afterAll_append (r : Replica R) (history later : List (Change R)) :
    r.afterAll (history ++ later) = (r.afterAll history).afterAll later := List.foldl_append

end

namespace Desk

variable {R : Type} [Listed R]

/-- What a move does to the rows at hand. -/
def Move.changes : Move R → List (Change R)
  | .step (.operation op) => op.changes
  | .answer errand (.ok _) => [.forget errand.target.ids]
  | _ => []

/-- Does the list stay? -/
def Move.stays : Move R → Bool
  | .step .leave => false
  | _ => true

/-- What is done to the rows at hand in a run. -/
def history (moves : List (Instant × Move R)) : List (Change R) := moves.flatMap (·.2.changes)

variable {d : Desk R} {m : Move R} {moves : List (Instant × Move R)}

theorem replica?_next (now : Instant) (h : Possible d m) (hstays : m.stays = true) :
    (d.next now m).session.replica? = d.session.replica?.map (·.afterAll m.changes) := by
  cases m with
  | step step =>
    cases step with
    | act => cases h
    | leave => cases hstays
    | operation op =>
      show (Step.run now d.session (.operation op)).1.replica? = _
      unfold Step.run Session.replica?
      cases hlist : d.session.list with
      | none => simp [hlist]
      | some l =>
        show some (op.next now l).replica = some (l.replica.afterAll op.changes)
        rw [Operation.replica_next, Operation.onRows_eq_afterAll]
    | announce | clear | expire => exact Option.map_id'.symm
  | start action wording =>
    show (d.session.started action).replica? = _
    rw [Session.started_replica?]
    exact Option.map_id'.symm
  | answer errand answer =>
    show (d.session.complete _ _ _ _ _ _).replica? = _
    rw [Session.complete_replica?]
    cases answer with
    | ok => rfl
    | error => exact Option.map_id'.symm

/-- **What becomes of the rows at hand is told by what happens, as long as the list stays.** -/
theorem replica?_after (h : d.Runs moves) (hstays : ∀ m ∈ moves, m.2.stays = true) :
    (d.after moves).session.replica? = d.session.replica?.map (·.afterAll (history moves)) := by
  induction moves generalizing d with
  | nil => exact Option.map_id'.symm
  | cons m moves ih =>
    obtain ⟨hm, hrest⟩ := List.forall_mem_cons.mp hstays
    show ((d.next m.1 m.2).after moves).session.replica? = _
    rw [ih h.2 hrest, replica?_next m.1 h.1 hm, Option.map_map]
    refine congrArg (Option.map · _) (funext fun r => ?_)
    exact (Replica.afterAll_append r m.2.changes (history moves)).symm

end Desk

/-! ## What is remembered as deleted -/

section

variable {R : Type} [Record R]

namespace Change

/-- What is remembered as deleted was so before, or has been deleted since. -/
theorem deletedIds_afterAll_subset (r : Replica R) (history : List (Change R)) :
    (r.afterAll history).deletedIds ⊆ r.deletedIds ++ deleted history := by
  induction history using List.reverseRecOn with
  | nil => exact List.subset_append_left _ _
  | append_singleton history c ih =>
    rw [Replica.afterAll_concat, deleted_concat, ← List.append_assoc]
    cases c with
    | receive => exact List.nil_subset _
    | forget ids =>
      have hbefore := List.Subset.trans ih (List.subset_append_left _ ids)
      exact List.append_subset.mpr ⟨hbefore, List.subset_append_right _ _⟩
    | startRefresh | failRefresh =>
      exact List.Subset.trans ih (List.subset_append_left _ _)

/-- Until a snapshot arrives, everything is remembered. -/
theorem deletedIds_afterAll (r : Replica R) {history : List (Change R)}
    (h : ∀ c ∈ history, c.snapshot? = none) :
    (r.afterAll history).deletedIds = r.deletedIds ++ deleted history := by
  induction history using List.reverseRecOn with
  | nil => exact (List.append_nil _).symm
  | append_singleton history c ih =>
    rw [List.forall_mem_append] at h
    rw [Replica.afterAll_concat, deleted_concat, ← List.append_assoc, ← ih h.1]
    cases c with
    | receive rows =>
      have hnone := h.2 _ List.mem_cons_self
      cases hnone
    | forget ids => rfl
    | startRefresh | failRefresh => exact (List.append_nil _).symm

end Change

/-! ## The next snapshot -/

/--
What the rows at hand are when the backend has deleted some of the selected rows, and a snapshot of
its rows arrives.
-/
structure HidesSelected (remote : List R) (selected removed : List String) (r : Replica R) :
    Prop where
  current : r.sync = .current
  /-- the rows of the snapshot less all that was selected -/
  rows : r.rows = (Replica.without removed remote).filter fun row => Record.id row ∉ selected
  /-- nothing of the snapshot is missing exactly if the backend has deleted all it was told to -/
  complete_iff : r.rows = Replica.without removed remote ↔
    ∀ row ∈ remote, Record.id row ∈ selected → Record.id row ∈ removed
  /-- one more snapshot is taken over as it is -/
  next : ∀ snapshot, (r.receive snapshot).rows = snapshot

theorem hidesSelected_receive {r r' : Replica R} {selected removed : List String}
    (hapart : ∀ row ∈ r.rows, Record.id row ∉ r.deletedIds)
    (hselected : selected ⊆ r'.deletedIds) (hdeleted : r'.deletedIds ⊆ r.deletedIds ++ selected) :
    HidesSelected r.rows selected removed (r'.receive (Replica.without removed r.rows)) := by
  have hrows : (r'.receive (Replica.without removed r.rows)).rows =
      (Replica.without removed r.rows).filter fun row => Record.id row ∉ selected := by
    show Replica.without r'.deletedIds _ = _
    rw [Replica.without_eq_filter]
    refine List.filter_congr fun row hrow => decide_eq_decide.mpr (not_congr ?_)
    have hnot := hapart row (Replica.mem_without.mp hrow).1
    constructor
    · intro hid
      exact (List.mem_append.mp (hdeleted hid)).resolve_left hnot
    · exact fun hid => hselected hid
  refine ⟨rfl, hrows, ?_, ?_⟩
  · rw [hrows, List.filter_eq_self]
    constructor
    · intro hall row hrow hid
      by_contra hnot
      exact of_decide_eq_true (hall row (Replica.mem_without.mpr ⟨hrow, hnot⟩)) hid
    · intro hall row hrow
      obtain ⟨hrow, hnot⟩ := Replica.mem_without.mp hrow
      exact decide_eq_true fun hid => hnot (hall row hrow hid)
  · intro snapshot
    simp [Replica.receive, Replica.without]

end

/-! ## A delete of the selection -/

namespace Desk

variable {R : Type} [Listed R]

theorem errand?_deleteSelection {d : Desk R} {l : Listing R} (hlist : d.session.list = some l)
    (wording : Wording) : d.session.errand? .deleteSelection wording =
      if l.view.selected = [] then none else some ⟨.many l.view.selected, false, wording⟩ := by
  split
  · rename_i hselected
    refine Option.eq_none_iff_forall_ne_some.mpr fun errand hcall => ?_
    have hmade := Session.callMade_of_errand? hcall
    obtain ⟨l', hlist', htarget⟩ := hmade.wanted
    obtain rfl : l = l' := Option.some.inj (hlist.symm.trans hlist')
    exact hmade.rows (by rw [htarget, Target.ids, hselected])
  · rename_i hselected
    exact Session.errand?_eq_some_iff.mpr ⟨⟨l, hlist, rfl⟩, hselected, rfl, rfl⟩

/--
A delete of the selection that went well, with what happened until the answer came. If nothing is
selected, no call is made.
-/
def deletingSelection (d : Desk R) (wording : Wording) (start stop : Instant) (count : Nat)
    (during : List (Instant × Move R)) : List (Instant × Move R) :=
  match d.session.errand? .deleteSelection wording with
  | none => [(start, .start .deleteSelection wording)]
  | some errand =>
    (start, .start .deleteSelection wording) :: during ++ [(stop, .answer errand (.ok count))]

/-- Is no row deleted in a move, and does the list stay? -/
def Move.IsQuiet (m : Move R) : Prop := m.stays = true ∧ ∀ c ∈ m.changes, c.ids = []

instance (m : Move R) : Decidable m.IsQuiet :=
  inferInstanceAs (Decidable (m.stays = true ∧ ∀ c ∈ m.changes, c.ids = []))

variable {d : Desk R} {l : Listing R} {during later : List (Instant × Move R)}

theorem deleted_history_of_quiet {moves : List (Instant × Move R)}
    (h : ∀ m ∈ moves, m.2.IsQuiet) : Change.deleted (history moves) = [] := by
  refine List.flatMap_eq_nil_iff.mpr fun c hc => ?_
  obtain ⟨m, hm, hc⟩ := List.mem_flatMap.mp hc
  exact (h m hm).2 c hc

/-- Where no row is deleted and no snapshot arrives, the same is remembered as deleted. -/
theorem deletedIds_of_quiet (r : Replica R) {moves : List (Instant × Move R)}
    (h : ∀ m ∈ moves, m.2.IsQuiet ∧ ∀ c ∈ m.2.changes, c.snapshot? = none) :
    (r.afterAll (history moves)).deletedIds = r.deletedIds := by
  have hnone : ∀ c ∈ history moves, c.snapshot? = none := by
    intro c hc
    obtain ⟨m, hm, hc⟩ := List.mem_flatMap.mp hc
    exact (h m hm).2 c hc
  have hquiet : ∀ m ∈ moves, m.2.IsQuiet := fun m hm => (h m hm).1
  rw [Change.deletedIds_afterAll r hnone, deleted_history_of_quiet hquiet, List.append_nil]

/-- After a delete of the selection, all of it is remembered as deleted, and nothing else anew. -/
theorem remembered_of_deletingSelection (hlist : d.session.list = some l) (hduring : d.Runs during)
    (hquiet : ∀ m ∈ during, m.2.IsQuiet) (wording : Wording) (start stop : Instant) (count : Nat) :
    let moves := d.deletingSelection wording start stop count during
    d.Runs moves ∧ ∃ r, (d.after moves).session.replica? = some r ∧
      l.view.selected ⊆ r.deletedIds ∧ r.deletedIds ⊆ l.replica.deletedIds ++ l.view.selected := by
  intro moves
  have hreplica : d.session.replica? = some l.replica := by simp [Session.replica?, hlist]
  have hcall := errand?_deleteSelection hlist wording
  by_cases hselected : l.view.selected = []
  · rw [if_pos hselected] at hcall
    have hmoves : moves = [(start, .start .deleteSelection wording)] := by
      simp only [moves, deletingSelection, hcall]
    rw [hmoves]
    refine ⟨⟨trivial, trivial⟩, l.replica, ?_, ?_, List.subset_append_left _ _⟩
    · show (d.session.started _).replica? = _
      rw [Session.started_replica?, hreplica]
    · rw [hselected]
      exact List.nil_subset _
  · rw [if_neg hselected] at hcall
    have hmoves : moves = (start, .start .deleteSelection wording) :: during ++
        [(stop, .answer ⟨.many l.view.selected, false, wording⟩ (.ok count))] := by
      simp only [moves, deletingSelection, hcall]
    rw [hmoves]
    obtain ⟨hruns, hafter⟩ := after_delete hcall hduring start stop (.ok count)
    refine ⟨hruns, (l.replica.afterAll (history during)).forget l.view.selected, ?_,
      List.subset_append_right _ _, ?_⟩
    · rw [hafter, Session.complete_replica?]
      show Option.map _ (d.after during).session.replica? = _
      rw [replica?_after hduring fun m hm => (hquiet m hm).1, hreplica]
      rfl
    · have hsubset := Change.deletedIds_afterAll_subset l.replica (history during)
      rw [deleted_history_of_quiet hquiet, List.append_nil] at hsubset
      exact List.append_subset.mpr
        ⟨List.Subset.trans hsubset (List.subset_append_left _ _), List.subset_append_right _ _⟩

end Desk

/--
**The first snapshot after a delete of the selection lacks every selected row**, whichever of them
the backend has deleted: so the rows at hand are those of the snapshot exactly if the backend has
deleted all of them, although they count as current. The snapshot after that is taken as it is.
-/
theorem snapshot_hides_selected {R : Type} [Listed R] (d : Desk R) (l : Listing R)
    (hlist : d.session.list = some l) (hreached : l.replica.Reached) (removed : List String)
    (wording : Wording) (start stop : Instant) (count : Nat)
    (during : List (Instant × Desk.Move R)) (hduring : d.Runs during)
    (hquiet : ∀ m ∈ during, m.2.IsQuiet) (later : List (Instant × Desk.Move R))
    (hlater : (d.after (d.deletingSelection wording start stop count during)).Runs later)
    (hlaterQuiet : ∀ m ∈ later, m.2.IsQuiet ∧ ∀ c ∈ m.2.changes, c.snapshot? = none)
    (arrival : Instant) (op : Operation R)
    (hop : op.changes = [.receive (Replica.without removed l.replica.rows)]) :
    let moves := d.deletingSelection wording start stop count during ++ later ++
      [(arrival, .step (.operation op))]
    d.Runs moves ∧ ∃ r, (d.after moves).session.replica? = some r ∧
      HidesSelected l.replica.rows l.view.selected removed r := by
  intro moves
  obtain ⟨hruns, r, hr, hselected, hdeleted⟩ :=
    Desk.remembered_of_deletingSelection hlist hduring hquiet wording start stop count
  have hboth : d.Runs (d.deletingSelection wording start stop count during ++ later) :=
    Desk.runs_append.mpr ⟨hruns, hlater⟩
  have hreplica : (d.after (d.deletingSelection wording start stop count during ++
      later)).session.replica? = some (r.afterAll (Desk.history later)) := by
    rw [Desk.after_append, Desk.replica?_after hlater fun m hm => (hlaterQuiet m hm).1.1, hr]
    rfl
  have harrives : (d.after moves).session.replica? = some ((r.afterAll (Desk.history later)).receive
      (Replica.without removed l.replica.rows)) := by
    have hpossible (d : Desk R) : d.Possible (.step (.operation op)) := rfl
    rw [Desk.after_append]
    show (Desk.next arrival _ (.step (.operation op))).session.replica? = _
    rw [Desk.replica?_next arrival (hpossible _) rfl, hreplica]
    show some (Replica.afterAll _ op.changes) = _
    rw [hop]
    rfl
  have hsame := Desk.deletedIds_of_quiet r hlaterQuiet
  refine ⟨Desk.runs_append.mpr ⟨hboth, rfl, trivial⟩, _, harrives, ?_⟩
  apply hidesSelected_receive hreached.apart
  · rwa [hsame]
  · rwa [hsame]

/-- A desk with a list of two addresses, both of them selected. -/
def Desk.bothSelected : Desk LnAddress :=
  ⟨.ofList (twoPages.after newYear [.flipRow "ann", .flipRow "bob"]), 0⟩

/-- A fetch fails before the delete is answered; another one starts after that. -/
def Desk.partialDelete : List (Instant × Desk.Move LnAddress) :=
  Desk.bothSelected.deletingSelection (Listed.wording LnAddress) newYear newYear 1
    [(newYear, .step (.operation .startRefresh)), (newYear, .step (.operation .failRefresh))]

theorem snapshot_hides_selected_address :
    let moves := Desk.partialDelete ++ [(newYear, .step (.operation .startRefresh))] ++
      [(newYear, .step (.operation (.endRefresh (.ok [.named "bob"]))))]
    Desk.bothSelected.Runs moves ∧
      ∃ r, (Desk.bothSelected.after moves).session.replica? = some r ∧
        HidesSelected [.named "ann", .named "bob"] ["ann", "bob"] ["ann"] r :=
  snapshot_hides_selected Desk.bothSelected _ rfl ⟨some _, [], rfl⟩ ["ann"]
    (Listed.wording LnAddress) newYear newYear 1
    [(newYear, .step (.operation .startRefresh)), (newYear, .step (.operation .failRefresh))]
    (by decide) (by decide) [(newYear, .step (.operation .startRefresh))] (by decide) (by decide)
    newYear (.endRefresh (.ok [.named "bob"])) (by decide)

/-- The backend has deleted ann only, and bob is missing. -/
theorem bob_missing_though_current :
    let moves := Desk.partialDelete ++
      [(newYear, .step (.operation (.receive (Replica.without ["ann"] twoPages.replica.rows))))]
    ∃ r, (Desk.bothSelected.after moves).session.replica? = some r ∧ r.sync = .current ∧
      Replica.without ["ann"] twoPages.replica.rows = [.named "bob"] ∧ r.rows = [] := by
  refine ⟨_, rfl, rfl, ?_, ?_⟩ <;> decide

end WalletConsole
