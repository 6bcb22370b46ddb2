import Mathlib.Data.Multiset.AddSub
import WalletConsole.Proofs.Listing.Operations
import WalletConsole.Session.Script

/-!
# Deletes that overlap

A delete starts with a call to the backend and ends with the answer. In between anything can happen:
other deletes start and end, in any order, and the user may leave. In a script deletes can only be
nested; here they overlap as they like.

* `Errand` — a delete that waits for its answer
* `Session.errand?`, `Session.started` — what comes of starting a delete
* `Session.errand?_eq_some_iff` — a call is made exactly if some rows are to be deleted
* `Desk`, `Desk.Move`, `Desk.Runs` — a session with the deletes that wait in it, and what can happen
* `Desk.after_awaiting` — a delete that waits is in nobody's way
* `Desk.after_movesOf` — a script is a run like any other
-/

namespace WalletConsole

open Calendar

/-- A delete that waits for the answer to its call. -/
structure Errand where
  target : Target
  /-- was it asked about? -/
  accepted : Bool
  wording : Wording
  deriving DecidableEq

/-! ## Starting a delete -/

namespace Session

section

variable {R : Type} [Record R]

/-- The delete that waits once it is started, if a call is made. -/
def errand? (action : Action) (wording : Wording) (s : Session R) : Option Errand :=
  match (s.begin action).2 with
  | .calling target accepted => some ⟨target, accepted, wording⟩
  | _ => none

/-- What starting a delete changes at once. -/
def started (action : Action) (s : Session R) : Session R :=
  match s.begin action with
  | (s, .noRows accepted) => s.closeIf accepted
  | (s, _) => s

/-- The session when a call is made: if the delete was asked about, the question is busy. -/
def atCall (action : Action) (target : Target) (s : Session R) : Session R :=
  if action = .accept then s.mapList fun l => { l with confirmation := .deleting target } else s

/-- Is it asked whether this is to be deleted? -/
def IsAsking (target : Target) (s : Session R) : Prop :=
  ∃ l, s.list = some l ∧ l.confirmation = .asking target

/-- Is this what is to be deleted: a row, the selection, or what is asked about? -/
def Wants (target : Target) (s : Session R) : Action → Prop
  | .deleteOne id => target = .one id
  | .deleteSelection => ∃ l, s.list = some l ∧ target = .many l.view.selected
  | .accept => s.IsAsking target

variable {s : Session R} {action : Action} {wording : Wording} {errand : Errand} {target : Target}

theorem begin_accept_of_isAsking (h : s.IsAsking target) :
    s.begin .accept = (s.atCall .accept target,
      match target with
      | .one id => .calling (.one id) true
      | .many ids => callFor ids true) := by
  obtain ⟨l, hlist, hasked⟩ := h
  cases target <;> simp [begin, hlist, hasked, Confirmation.accept, atCall, mapList]

theorem begin_accept_of_not_isAsking (h : ∀ target, ¬ s.IsAsking target) :
    s.begin .accept = (s, .nothing) := by
  obtain ⟨list, toasts, versions⟩ := s
  cases list with
  | none => rfl
  | some l =>
    obtain ⟨replica, criteria, view, confirmation⟩ := l
    cases confirmation with
    | asking target => exact absurd ⟨_, rfl, rfl⟩ (h target)
    | _ => rfl

theorem callFor_eq_calling {ids : List String} {accepted accepted' : Bool}
    (h : callFor ids accepted = .calling target accepted') :
    ids ≠ [] ∧ target = .many ids ∧ accepted' = accepted := by
  unfold callFor at h
  split at h
  · cases h
  · rename_i hids
    cases h
    exact ⟨by simpa using hids, rfl, rfl⟩

theorem callFor_eq_noRows {ids : List String} {accepted accepted' : Bool}
    (h : callFor ids accepted = .noRows accepted') : accepted' = accepted := by
  unfold callFor at h
  split at h <;> cases h
  rfl

/--
To start a delete changes nothing, or takes the question about it away: it is busy from then on, or
closed at once because there are no rows to delete.
-/
theorem started_cases (action : Action) (s : Session R) : s.started action = s ∨
    ∃ target q, s.IsAsking target ∧ (q = .deleting target ∨ q = .idle) ∧
      s.started action = s.mapList fun l => { l with confirmation := q } := by
  cases action with
  | deleteOne id => exact .inl rfl
  | deleteSelection =>
    left
    unfold started
    split
    · rename_i hbegin
      obtain ⟨rfl, hcall⟩ := Prod.mk.inj hbegin
      rw [callFor_eq_noRows hcall]
      rfl
    · rename_i hbegin
      exact (Prod.mk.inj hbegin).1.symm
  | accept =>
    by_cases hasking : ∃ target, s.IsAsking target
    · right
      obtain ⟨target, hasked⟩ := hasking
      unfold started
      rw [begin_accept_of_isAsking hasked]
      split
      · rename_i hbegin
        obtain ⟨rfl, hcall⟩ := Prod.mk.inj hbegin
        refine ⟨target, .idle, hasked, .inr rfl, ?_⟩
        cases target with
        | one id => cases hcall
        | many ids =>
          rw [callFor_eq_noRows hcall]
          obtain ⟨l, hlist, -⟩ := hasked
          simp [closeIf, atCall, mapList, hlist, Confirmation.close]
      · rename_i hbegin
        obtain ⟨rfl, -⟩ := Prod.mk.inj hbegin
        exact ⟨target, _, hasked, .inl rfl, rfl⟩
    · left
      unfold started
      rw [begin_accept_of_not_isAsking fun target h => hasking ⟨target, h⟩]

/-- What is known of a call that is made. -/
structure CallMade (s : Session R) (action : Action) (wording : Wording) (errand : Errand) :
    Prop where
  wanted : s.Wants errand.target action
  rows : errand.target.ids ≠ []
  accepted : errand.accepted = decide (action = .accept)
  wording : errand.wording = wording
  started : s.started action = s.atCall action errand.target

/-- A call is for what is to be deleted, and for some rows. -/
theorem callMade_of_errand? (h : s.errand? action wording = some errand) :
    CallMade s action wording errand := by
  unfold errand? at h
  split at h
  · rename_i target accepted hcall
    cases h
    have hstarted : s.started action = (s.begin action).1 := by
      unfold started
      split
      · rename_i hbegin
        simp [hbegin] at hcall
      · rename_i hbegin
        rw [hbegin]
    cases action with
    | deleteOne id =>
      cases hcall
      exact ⟨rfl, by simp [Target.ids], rfl, rfl, rfl⟩
    | deleteSelection =>
      obtain ⟨hids, rfl, rfl⟩ := callFor_eq_calling hcall
      refine ⟨?_, hids, rfl, rfl, hstarted⟩
      cases hlist : s.list with
      | none => simp [hlist] at hids
      | some l => exact ⟨l, hlist, rfl⟩
    | accept =>
      by_cases hasking : ∃ target, s.IsAsking target
      · obtain ⟨asked, hasked⟩ := hasking
        rw [begin_accept_of_isAsking hasked] at hcall hstarted
        cases asked with
        | one id =>
          cases hcall
          exact ⟨hasked, by simp [Target.ids], rfl, rfl, hstarted⟩
        | many ids =>
          obtain ⟨hids, rfl, rfl⟩ := callFor_eq_calling hcall
          exact ⟨hasked, hids, rfl, rfl, hstarted⟩
      · rw [begin_accept_of_not_isAsking (fun target h => hasking ⟨target, h⟩)] at hcall
        cases hcall
  · cases h

theorem callFor_of_ne_nil {ids : List String} (h : ids ≠ []) (accepted : Bool) :
    callFor ids accepted = .calling (.many ids) accepted := by
  unfold callFor
  rw [if_neg]
  simpa using h

/-- **A call is made exactly if some rows are to be deleted, and for these.** -/
theorem errand?_eq_some_iff : s.errand? action wording = some errand ↔
    s.Wants errand.target action ∧ errand.target.ids ≠ [] ∧
      errand.accepted = decide (action = .accept) ∧ errand.wording = wording := by
  constructor
  · intro hcall
    have hmade := callMade_of_errand? hcall
    exact ⟨hmade.wanted, hmade.rows, hmade.accepted, hmade.wording⟩
  · obtain ⟨target, accepted, wording'⟩ := errand
    rintro ⟨hwanted, hids, rfl, rfl⟩
    unfold errand?
    cases action with
    | deleteOne id =>
      obtain rfl : target = .one id := hwanted
      rfl
    | deleteSelection =>
      obtain ⟨l, hlist, rfl⟩ := hwanted
      have hids : l.view.selected ≠ [] := hids
      simp only [begin, hlist, Option.elim_some, callFor_of_ne_nil hids]
      rfl
    | accept =>
      rw [begin_accept_of_isAsking hwanted]
      cases target with
      | one id => rfl
      | many ids =>
        have hids : ids ≠ [] := hids
        simp only [callFor_of_ne_nil hids]
        rfl

end

end Session

/-! ## Runs of overlapping deletes -/

/-- Is it a delete? -/
def Step.isDelete {R : Type} [Record R] : Step R → Bool
  | .act .. => true
  | _ => false

/-- A session with the deletes that wait in it. -/
structure Desk (R : Type) [Record R] where
  session : Session R
  waiting : Multiset Errand

namespace Desk

/-- Something that happens in a session. -/
inductive Move (R : Type) [Record R] where
  /-- anything but a delete -/
  | step (step : Step R)
  | start (action : Action) (wording : Wording)
  /-- the backend answers the call of a delete -/
  | answer (errand : Errand) (answer : Except FetchError Nat)

variable {R : Type} [Listed R]

/-- Can this happen? -/
def Possible (d : Desk R) : Move R → Prop
  | .step step => step.isDelete = false
  | .start _ _ => True
  | .answer errand _ => errand ∈ d.waiting

instance (d : Desk R) : (m : Move R) → Decidable (Possible d m)
  | .step _ => inferInstanceAs (Decidable (_ = false))
  | .start _ _ => instDecidableTrue
  | .answer _ _ => inferInstanceAs (Decidable (_ ∈ d.waiting))

/-- What it comes to. -/
def next (now : Instant) (d : Desk R) : Move R → Desk R
  | .step step => { d with session := (step.run now d.session).1 }
  | .start action wording =>
    ⟨d.session.started action, (d.session.errand? action wording).toList + d.waiting⟩
  | .answer errand answer =>
    ⟨d.session.complete now (Listed.resource R) errand.wording errand.target errand.accepted answer,
      d.waiting.erase errand⟩

/-- What becomes of a session, everything happening at an instant of its own. -/
def after (d : Desk R) (moves : List (Instant × Move R)) : Desk R :=
  moves.foldl (fun d m => next m.1 d m.2) d

/-- Everything that happens is possible when it happens. -/
def Runs (d : Desk R) (moves : List (Instant × Move R)) : Prop :=
  Along (fun d m => next m.1 d m.2) (fun d m => Possible d m.2) d moves

instance (d : Desk R) (moves : List (Instant × Move R)) : Decidable (d.Runs moves) :=
  Along.decidable _ _ _ _

theorem after_append (d : Desk R) (moves later : List (Instant × Move R)) :
    d.after (moves ++ later) = (d.after moves).after later := List.foldl_append

theorem runs_append {d : Desk R} {moves later : List (Instant × Move R)} :
    d.Runs (moves ++ later) ↔ d.Runs moves ∧ (d.after moves).Runs later := Along.append

/-! ### One more delete that waits -/

/-- One more delete waits. -/
def awaiting (errand : Errand) (d : Desk R) : Desk R := { d with waiting := errand ::ₘ d.waiting }

theorem next_start {d : Desk R} (now : Instant) {action : Action} {wording : Wording}
    {errand : Errand} (h : d.session.errand? action wording = some errand) :
    d.next now (.start action wording) =
      awaiting errand { d with session := d.session.atCall action errand.target } := by
  simp only [next, awaiting, (Session.callMade_of_errand? h).started, h]
  rfl

theorem next_answer_await (d : Desk R) (now : Instant) (errand : Errand)
    (answer : Except FetchError Nat) :
    (awaiting errand d).next now (.answer errand answer) =
      { d with
        session := d.session.complete now (Listed.resource R) errand.wording errand.target
          errand.accepted answer } := by
  simp [next, awaiting]

theorem Possible.awaiting {d : Desk R} {m : Move R} (errand : Errand) (h : Possible d m) :
    Possible (awaiting errand d) m := by
  cases m with
  | step | start => exact h
  | answer => exact Multiset.mem_cons_of_mem h

theorem next_awaiting {d : Desk R} {m : Move R} (now : Instant) (errand : Errand)
    (h : Possible d m) : (awaiting errand d).next now m = awaiting errand (d.next now m) := by
  cases m with
  | step => rfl
  | start => simp [next, Desk.awaiting]
  | answer answered =>
    simp only [next, Desk.awaiting, Multiset.erase_cons_tail_of_mem h]

/-- **A delete that waits is in nobody's way.** What happens meanwhile is possible and comes to the
same whether it waits or not. -/
theorem after_awaiting {d : Desk R} {moves : List (Instant × Move R)} (errand : Errand)
    (h : d.Runs moves) :
    (awaiting errand d).Runs moves ∧
      (awaiting errand d).after moves = awaiting errand (d.after moves) := by
  induction moves generalizing d with
  | nil => exact ⟨trivial, rfl⟩
  | cons m moves ih =>
    have hnext := next_awaiting m.1 errand h.1
    obtain ⟨hruns, hafter⟩ := ih h.2
    constructor
    · refine ⟨h.1.awaiting errand, ?_⟩
      show ((awaiting errand d).next m.1 m.2).Runs moves
      rw [hnext]
      exact hruns
    · show ((awaiting errand d).next m.1 m.2).after moves = _
      rw [hnext]
      exact hafter

/-- A delete from its start to its answer, with everything that happens in between. -/
theorem after_delete {d : Desk R} {action : Action} {wording : Wording} {errand : Errand}
    (hcall : d.session.errand? action wording = some errand) {during : List (Instant × Move R)}
    (hduring : Runs { d with session := d.session.atCall action errand.target } during)
    (start stop : Instant) (answer : Except FetchError Nat) :
    let alone := after { d with session := d.session.atCall action errand.target } during
    let moves := (start, .start action wording) :: during ++ [(stop, .answer errand answer)]
    d.Runs moves ∧ d.after moves =
      { alone with
        session := alone.session.complete stop (Listed.resource R) errand.wording errand.target
          errand.accepted answer } := by
  intro alone moves
  obtain ⟨hruns, hafter⟩ := after_awaiting errand hduring
  have hstart := next_start start hcall
  constructor
  · refine ⟨trivial, runs_append.mpr ⟨?_, ?_⟩⟩
    · show (d.next start (.start action wording)).Runs during
      rw [hstart]
      exact hruns
    · show ((d.next start (.start action wording)).after during).Runs _
      rw [hstart, hafter]
      exact ⟨Multiset.mem_cons_self _ _, trivial⟩
  · show after (d.next start (.start action wording)) (during ++ _) = _
    rw [after_append, hstart, hafter]
    exact next_answer_await alone stop errand answer

/-! ### Scripts -/

mutual

/-- What happens in a step of a script, one after the other. -/
def movesOf (now : Instant) (s : Session R) : Step R → List (Instant × Move R)
  | .act action wording answer during =>
    match s.errand? action wording with
    | none => [(now, .start action wording)]
    | some errand =>
      (now, .start action wording) ::
        movesOfAll now (s.atCall action errand.target) during ++
          [(now, .answer errand (answer.to errand.target))]
  | step => [(now, .step step)]

/-- What happens in some steps of a script. -/
def movesOfAll (now : Instant) (s : Session R) : List (Step R) → List (Instant × Move R)
  | [] => []
  | step :: rest => movesOf now s step ++ movesOfAll now (step.run now s).1 rest

end

theorem run_act_of_none {now : Instant} {s : Session R} {action : Action} {wording : Wording}
    (h : s.errand? action wording = none) (answer : Answer) (during : List (Step R)) :
    ((Step.act action wording answer during).run now s).1 = s.started action := by
  unfold Step.run Session.started
  unfold Session.errand? at h
  cases hbegin : s.begin action with
  | mk s' comes =>
    cases comes with
    | calling => simp [hbegin] at h
    | _ => rfl

/-- A delete that makes a call takes the answer in and hands it on. -/
theorem run_act_of_some {now : Instant} {s : Session R} {action : Action} {wording : Wording}
    {errand : Errand} (h : s.errand? action wording = some errand) (answer : Answer)
    (during : List (Step R)) :
    (Step.act action wording answer during).run now s =
      ((Step.runAll now (s.atCall action errand.target) during).complete now (Listed.resource R)
          errand.wording errand.target errand.accepted (answer.to errand.target),
        .outcome
          (Session.outcomeOf errand.target errand.accepted (answer.to errand.target))) := by
  rw [← (Session.callMade_of_errand? h).started]
  unfold Step.run Session.started
  unfold Session.errand? at h
  cases hbegin : s.begin action with
  | mk s' comes =>
    cases comes with
    | calling target accepted =>
      simp only [hbegin, Option.some.injEq] at h
      subst h
      rfl
    | _ => simp [hbegin] at h

mutual

/-- **A step of a script is a run like any other**, with deletes that are nested. -/
theorem after_movesOf (now : Instant) (d : Desk R) (step : Step R) :
    d.Runs (movesOf now d.session step) ∧
      d.after (movesOf now d.session step) = { d with session := (step.run now d.session).1 } := by
  cases step with
  | act action wording answer during =>
    unfold movesOf
    split
    · rename_i hcall
      refine ⟨⟨trivial, trivial⟩, ?_⟩
      simp [after, next, hcall, run_act_of_none hcall]
    · rename_i errand hcall
      obtain ⟨hruns, hafter⟩ := after_movesOfAll now
        { d with session := d.session.atCall action errand.target } during
      obtain ⟨hall, hend⟩ := after_delete hcall hruns now now (answer.to errand.target)
      refine ⟨hall, ?_⟩
      rw [hend, hafter, run_act_of_some hcall]
  | operation | announce | clear | expire | leave => exact ⟨⟨rfl, trivial⟩, rfl⟩

/-- So is a script. -/
theorem after_movesOfAll (now : Instant) (d : Desk R) (script : List (Step R)) :
    d.Runs (movesOfAll now d.session script) ∧
      d.after (movesOfAll now d.session script) =
        { d with session := Step.runAll now d.session script } := by
  cases script with
  | nil => exact ⟨trivial, rfl⟩
  | cons step rest =>
    obtain ⟨hstep, hafter⟩ := after_movesOf now d step
    obtain ⟨hrest, hend⟩ :=
      after_movesOfAll now { d with session := (step.run now d.session).1 } rest
    unfold movesOfAll
    rw [runs_append, after_append, hafter]
    exact ⟨⟨hstep, hrest⟩, hend⟩

end

/-- A desk to try things on, with a list of two addresses. -/
def ofTwoPages : Desk LnAddress := ⟨.ofList twoPages, 0⟩

end Desk

end WalletConsole
