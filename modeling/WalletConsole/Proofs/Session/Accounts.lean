import Mathlib.Data.Multiset.MapFold
import WalletConsole.Proofs.Listing.Refetch
import WalletConsole.Proofs.Session.Overlap

/-!
# The accounts of a run

However deletes overlap, each of them is accounted for once: its call is made for some rows and is
answered at most once; an answer puts up one message; a delete that went well expires the resources
it touches once each and takes the rows of its call, and no others.

* `Desk.called`, `Desk.answered` — the calls that are made in a run, and those that are answered
* `Desk.Move.onToasts`, `Resource.share`, `Desk.Move.keeps` — what a move does to messages, versions
  and rows
* `Desk.AskedAbout` — how an accepted delete comes to its target
* `deletes_are_accounted_for` — the accounts of every run are in order
-/

namespace WalletConsole

open Calendar

/-! ## Versions -/

namespace Versions

theorem version_expireAll (v : Versions) (resources : List Resource) (r : Resource) :
    (v.expireAll resources).version r = v.version r + resources.count r := by
  induction resources generalizing v with
  | nil => rfl
  | cons resource rest ih =>
    show ((v.expire resource).expireAll rest).version r = _
    rw [ih, List.count_cons]
    by_cases h : r = resource
    · simp only [expire, h, if_true, beq_self_eq_true]
      omega
    · simp [expire, h, Ne.symm h]

end Versions

/--
How often a delete from a list expires a resource: once if it is the list's own, and once if it is
the balance and the rows are invoices or payments.
-/
def Resource.share (own r : Resource) : Nat :=
  (if r = own then 1 else 0) + if r = .balance ∧ (own = .invoices ∨ own = .payments) then 1 else 0

theorem Resource.count_touched (own r : Resource) : own.touched.count r = own.share r := by
  cases own <;> cases r <;> decide

/-! ## What an answer does -/

namespace Session

variable {R : Type} [Record R] (now : Instant) (resource : Resource) (wording : Wording)
  (target : Target) (accepted : Bool) (answer : Except FetchError Nat) (s : Session R)

/-- The rows at hand and what is known of them, until the user leaves. -/
def replica? : Option (Replica R) := s.list.map (·.replica)

/-- The rows at hand, until the user leaves. -/
def rows? : Option (List R) := s.replica?.map (·.rows)

@[simp] theorem closeIf_toasts : (s.closeIf accepted).toasts = s.toasts := by
  cases accepted <;> rfl

@[simp] theorem closeIf_versions : (s.closeIf accepted).versions = s.versions := by
  cases accepted <;> rfl

@[simp] theorem closeIf_replica? : (s.closeIf accepted).replica? = s.replica? := by
  cases accepted with
  | false => rfl
  | true => simp [closeIf, mapList, replica?, Function.comp_def]

theorem forget_eq_mapList : s.forget now target = s.mapList (·.forget now target) := by
  cases target <;> rfl

theorem forget_replica? :
    (s.forget now target).replica? = s.replica?.map (·.forget target.ids) := by
  rw [forget_eq_mapList]
  simp [replica?, mapList, Function.comp_def, Listing.forget_replica]

theorem complete_toasts :
    (s.complete now resource wording target accepted answer).toasts =
      match answer with
      | .ok count => s.toasts.raise .success (doneMessage wording target count)
      | .error e => s.toasts.raise .error (failedMessage wording target e) := by
  unfold complete
  rw [closeIf_toasts]
  cases answer <;> rfl

theorem complete_versions :
    (s.complete now resource wording target accepted answer).versions =
      match answer with
      | .ok _ => s.versions.expireAll resource.touched
      | .error _ => s.versions := by
  unfold complete
  rw [closeIf_versions]
  cases answer <;> rfl

theorem complete_replica? :
    (s.complete now resource wording target accepted answer).replica? =
      match answer with
      | .ok _ => s.replica?.map (·.forget target.ids)
      | .error _ => s.replica? := by
  unfold complete
  rw [closeIf_replica?]
  cases answer with
  | ok => exact s.forget_replica? now target
  | error => rfl

/-- The question, until the user leaves. -/
def question? : Option Confirmation := s.list.map (·.confirmation)

variable {s target} in
theorem isAsking_iff : s.IsAsking target ↔ s.question? = some (.asking target) := by
  simp [IsAsking, question?, Option.map_eq_some_iff]

theorem forget_question? : (s.forget now target).question? = s.question? := by
  rw [forget_eq_mapList]
  unfold question? mapList
  cases s.list with
  | none => rfl
  | some l => cases target <;> rfl

/-- The answer closes the question if it is the answer to what was asked about. -/
theorem complete_question? :
    (s.complete now resource wording target accepted answer).question? =
      if accepted then s.question?.map fun _ => .idle else s.question? := by
  have hkept (s' : Session R) (h : s'.question? = s.question?) : (s'.closeIf accepted).question? =
      if accepted then s.question?.map fun _ => .idle else s.question? := by
    rw [← h]
    cases accepted with
    | false => rfl
    | true => simp [closeIf, mapList, question?, Function.comp_def, Confirmation.close]
  unfold complete
  cases answer with
  | ok => exact hkept _ (s.forget_question? now target)
  | error => exact hkept _ rfl

@[simp] theorem started_toasts (action : Action) : (s.started action).toasts = s.toasts := by
  rcases started_cases action s with h | ⟨target, q, -, -, h⟩ <;> rw [h]
  rfl

@[simp] theorem started_versions (action : Action) :
    (s.started action).versions = s.versions := by
  rcases started_cases action s with h | ⟨target, q, -, -, h⟩ <;> rw [h]
  rfl

@[simp] theorem started_replica? (action : Action) :
    (s.started action).replica? = s.replica? := by
  rcases started_cases action s with h | ⟨target, q, -, -, h⟩ <;> rw [h]
  simp [mapList, replica?, Function.comp_def]

end Session

/-! ## What a move does -/

namespace Desk

variable {R : Type} [Listed R]

namespace Move

/-- Does it start a delete or end one? -/
def isOfDelete : Move R → Bool
  | .step _ => false
  | .start .. | .answer .. => true

/-- The delete whose call is answered. -/
def answered? : Move R → Option Errand
  | .answer errand _ => some errand
  | _ => none

/-- Is it the answer that a delete went well? -/
def succeeds : Move R → Bool
  | .answer _ (.ok _) => true
  | _ => false

/-- What it does to the messages: of a delete, only the answer puts one up. -/
def onToasts : Move R → Toasts → Toasts
  | .step (.announce level message), t => t.raise level message
  | .step (.clear toast), t => t.clear toast
  | .answer errand (.ok count), t =>
    t.raise .success (Session.doneMessage errand.wording errand.target count)
  | .answer errand (.error e), t =>
    t.raise .error (Session.failedMessage errand.wording errand.target e)
  | _, t => t

/-- The resources that are expired other than by a delete. -/
def expired : Move R → List Resource
  | .step (.expire resources) => resources
  | _ => []

/-- What is left of the rows at hand: a delete that went well takes those of its call. -/
def keeps : Move R → List R → List R
  | .answer errand (.ok _), rows => rows.filter fun row => Record.id row ∉ errand.target.ids
  | _, rows => rows

end Move

/-- The calls that are made in a run. -/
def called (d : Desk R) : List (Instant × Move R) → List Errand
  | [] => []
  | (now, m) :: moves =>
    (match m with
      | .start action wording => (d.session.errand? action wording).toList
      | _ => []) ++ called (d.next now m) moves

/-- The calls that are answered in a run. -/
def answered (moves : List (Instant × Move R)) : List Errand := moves.filterMap (·.2.answered?)

/-- The number of deletes that went well. -/
def succeeded (moves : List (Instant × Move R)) : Nat := moves.countP (·.2.succeeds)

variable {d : Desk R} {m : Move R} {moves : List (Instant × Move R)}

theorem toasts_next (now : Instant) (h : Possible d m) :
    (d.next now m).session.toasts = m.onToasts d.session.toasts := by
  cases m with
  | step step =>
    cases step with
    | act => cases h
    | operation op =>
      show (Step.run now d.session (.operation op)).1.toasts = _
      unfold Step.run
      split <;> rfl
    | _ => rfl
  | start action wording => exact Session.started_toasts d.session action
  | answer errand answer =>
    show (d.session.complete _ _ _ _ _ _).toasts = _
    rw [Session.complete_toasts]
    cases answer <;> rfl

theorem toasts_after (h : d.Runs moves) :
    (d.after moves).session.toasts = moves.foldl (fun t m => m.2.onToasts t) d.session.toasts := by
  induction moves generalizing d with
  | nil => rfl
  | cons m moves ih =>
    show ((d.next m.1 m.2).after moves).session.toasts = _
    rw [ih h.2, toasts_next m.1 h.1]
    rfl

theorem versions_next (now : Instant) (h : Possible d m) (r : Resource) :
    (d.next now m).session.versions.version r = d.session.versions.version r +
      m.expired.count r + if m.succeeds then (Listed.resource R).share r else 0 := by
  cases m with
  | step step =>
    cases step with
    | act => cases h
    | operation op =>
      show (Step.run now d.session (.operation op)).1.versions.version r = _
      unfold Step.run
      split <;> simp [Move.expired, Move.succeeds]
    | expire resources => exact Versions.version_expireAll d.session.versions resources r
    | announce | clear | leave => rfl
  | start action wording => simp [next, Move.expired, Move.succeeds]
  | answer errand answer =>
    show (d.session.complete _ _ _ _ _ _).versions.version r = _
    rw [Session.complete_versions]
    cases answer with
    | ok => simp [Versions.version_expireAll, Resource.count_touched, Move.expired, Move.succeeds]
    | error => rfl

theorem versions_after (h : d.Runs moves) (r : Resource) :
    (d.after moves).session.versions.version r = d.session.versions.version r +
      (moves.flatMap (·.2.expired)).count r + succeeded moves * (Listed.resource R).share r := by
  induction moves generalizing d with
  | nil => simp [after, succeeded]
  | cons m moves ih =>
    show ((d.next m.1 m.2).after moves).session.versions.version r = _
    rw [ih h.2, versions_next m.1 h.1, List.flatMap_cons, List.count_append]
    unfold succeeded
    rw [List.countP_cons]
    split
    · rw [Nat.succ_mul]
      omega
    · simp only [Nat.add_zero]
      omega

theorem rows?_next (now : Instant) (h : m.isOfDelete = true) :
    (d.next now m).session.rows? = d.session.rows?.map m.keeps := by
  unfold Session.rows?
  cases m with
  | step => cases h
  | start action wording =>
    show (d.session.started action).replica?.map _ = _
    rw [Session.started_replica?]
    exact Option.map_id'.symm
  | answer errand answer =>
    show (d.session.complete _ _ _ _ _ _).replica?.map _ = _
    rw [Session.complete_replica?]
    cases answer with
    | ok => simp [Function.comp_def, Replica.forget, Replica.without_eq_filter, Move.keeps]
    | error => exact Option.map_id'.symm

/-! ### Calls and answers -/

theorem ids_ne_nil_of_called {errand : Errand} (h : errand ∈ d.called moves) :
    errand.target.ids ≠ [] := by
  induction moves generalizing d with
  | nil => cases h
  | cons m moves ih =>
    rcases List.mem_append.mp h with hm | hmoves
    · cases hmove : m.2 with
      | start action wording =>
        rw [hmove] at hm
        exact (Session.callMade_of_errand? (Option.mem_toList.mp hm)).rows
      | step | answer =>
        rw [hmove] at hm
        cases hm
    · exact ih hmoves

/-- **A call is answered once, or it still waits.** -/
theorem waiting_after (h : d.Runs moves) :
    d.waiting + (d.called moves : Multiset Errand) =
      (answered moves : Multiset Errand) + (d.after moves).waiting := by
  induction moves generalizing d with
  | nil => simp [called, answered, after]
  | cons m moves ih =>
    obtain ⟨now, m⟩ := m
    have hrest := ih h.2
    cases m with
    | step step => exact hrest
    | start action wording =>
      show d.waiting + (((d.session.errand? action wording).toList ++ _ : List Errand) :
        Multiset Errand) = _
      rw [← Multiset.coe_add, ← Multiset.add_assoc, Multiset.add_comm d.waiting]
      exact hrest
    | answer errand answer =>
      have hwaits : errand ∈ d.waiting := h.1
      show d.waiting + _ = (errand :: answered moves : List Errand) + _
      rw [← Multiset.cons_coe, Multiset.cons_add, ← Multiset.cons_erase hwaits, Multiset.cons_add]
      exact congrArg _ hrest

/-! ### Questions -/

/-- Does a move ask, when nothing is asked, whether this is to be deleted? -/
def Asks (d : Desk R) (target : Target) : Move R → Prop
  | .step (.operation op) => ∃ l, d.session.list = some l ∧ op.AsksAbout l target
  | _ => False

/-- What is asked after a move was asked before it, or the move asks it. -/
theorem isAsking_of_next {now : Instant} {target : Target} (hp : Possible d m)
    (h : (d.next now m).session.IsAsking target) :
    d.session.IsAsking target ∨ Asks d target m := by
  cases m with
  | step step =>
    cases step with
    | act => cases hp
    | operation op =>
      obtain ⟨l', hlist', hasked⟩ := h
      cases hlist : d.session.list with
      | none => simp [next, Step.run, hlist] at hlist'
      | some l =>
        simp only [next, Step.run, hlist, Option.some.injEq] at hlist'
        subst hlist'
        rcases Operation.asking_of_next hasked with hasked | hasks
        · exact .inl ⟨l, hlist, hasked⟩
        · exact .inr ⟨l, hlist, hasks⟩
    | leave =>
      obtain ⟨l, hlist, -⟩ := h
      cases hlist
    | announce | clear | expire => exact .inl h
  | start action wording =>
    left
    rcases Session.started_cases action d.session with heq | ⟨_, q, -, hq, heq⟩
    · exact heq ▸ h
    · obtain ⟨l, hlist, hasked⟩ : (d.session.started action).IsAsking target := h
      rw [heq] at hlist
      obtain ⟨l, -, rfl⟩ := Option.map_eq_some_iff.mp hlist
      rcases hq with rfl | rfl <;> cases hasked
  | answer errand answer =>
    left
    have hquestion := Session.isAsking_iff.mp h
    simp only [next, Session.complete_question?] at hquestion
    split at hquestion
    · obtain ⟨_, -, hidle⟩ := Option.map_eq_some_iff.mp hquestion
      cases hidle
    · exact Session.isAsking_iff.mpr hquestion

/--
A question that was asked at some point of a run, or before it, and has been asked ever since.
-/
def AskedAbout (d : Desk R) (moves : List (Instant × Move R)) (target : Target) : Prop :=
  (∀ passed, passed <+: moves → (d.after passed).session.IsAsking target) ∨
    ∃ before m later, moves = before ++ m :: later ∧ Asks (d.after before) target m.2 ∧
      ∀ passed, passed <+: later → (d.after (before ++ m :: passed)).session.IsAsking target

theorem askedAbout_of_isAsking {target : Target} (h : d.Runs moves)
    (hasking : (d.after moves).session.IsAsking target) : AskedAbout d moves target := by
  have hturned := forall_passed_or_exists_turn
    (P := fun d : Desk R => d.session.IsAsking target) hasking
  rcases hturned with hall | ⟨before, m, later, rfl, hbefore, hlater⟩
  · exact .inl hall
  · refine .inr ⟨before, m, later, rfl, ?_, hlater⟩
    have hp : Possible (d.after before) m.2 := (runs_append.mp h).2.1
    have hturn : ((d.after before).next m.1 m.2).session.IsAsking target := by
      have hfirst := hlater [] (List.nil_prefix)
      rwa [List.foldl_append] at hfirst
    exact (isAsking_of_next hp hturn).resolve_left hbefore

end Desk

/-! ## Whole runs -/

open Desk in
/-- The accounts of a run. -/
structure Accounted {R : Type} [Listed R] (d : Desk R) (moves : List (Instant × Desk.Move R)) :
    Prop where
  /-- no call is made for no rows -/
  called : ∀ errand ∈ d.called moves, errand.target.ids ≠ []
  /-- a call is made if there are any rows to delete: a row, the selection, what is asked about -/
  calls : ∀ before now action wording later errand,
    moves = before ++ (now, .start action wording) :: later →
      ((d.after before).session.errand? action wording = some errand ↔
        (d.after before).session.Wants errand.target action ∧ errand.target.ids ≠ [] ∧
          errand.accepted = decide (action = .accept) ∧ errand.wording = wording)
  /-- what is asked about is what was asked about to start with, whatever happened since -/
  asked : ∀ before later target, moves = before ++ later →
    (d.after before).session.IsAsking target → AskedAbout d before target
  /-- a call is answered once, or it still waits -/
  answered : d.waiting + (d.called moves : Multiset Errand) =
    (answered moves : Multiset Errand) + (d.after moves).waiting
  /-- every answer puts up one message, and nothing else of a delete does -/
  toasts : (d.after moves).session.toasts =
    moves.foldl (fun t m => m.2.onToasts t) d.session.toasts
  /-- what a delete went well for is expired, and nothing else by a delete -/
  versions : ∀ r, (d.after moves).session.versions.version r = d.session.versions.version r +
    (moves.flatMap (·.2.expired)).count r + succeeded moves * (Listed.resource R).share r
  /-- a delete that went well takes the rows of its call, and no others go by a delete -/
  rows : ∀ before m later, moves = before ++ m :: later → m.2.isOfDelete = true →
    (d.after (before ++ [m])).session.rows? = (d.after before).session.rows?.map m.2.keeps

/-- Two deletes overlap; the user leaves before the second one is answered. -/
def movesOfTwoDeletes : List (Instant × Desk.Move LnAddress) :=
  let wording := Listed.wording LnAddress
  [(newYear, .step (.operation (.askRow "ann"))), (newYear, .start .accept wording),
    (newYear, .step (.operation (.flipRow "bob"))), (newYear, .start .deleteSelection wording),
    -- nothing is asked any more
    (newYear, .start .accept wording),
    (newYear, .answer ⟨.one "ann", true, wording⟩ (.error (.unreachable "timeout"))),
    (newYear, .step .leave), (newYear, .answer ⟨.many ["bob"], false, wording⟩ (.ok 1))]

end WalletConsole
