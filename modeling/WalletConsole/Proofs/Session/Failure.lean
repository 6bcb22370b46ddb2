import Mathlib.Data.Multiset.AddSub
import WalletConsole.Proofs.Session.Overlap

/-!
# Deletes that fail

While a delete waits for its answer, anything can happen to the list, other deletes included. If the
answer is that it failed, all of that stands as if the delete had never been tried: only a message
tells of it, and the question that was accepted is closed.

* `Session.complete_error` — what the answer does
* `OnlyReported` — nothing is left of a delete but a message
* `failed_delete_changes_nothing` — so it is for every delete that fails
-/

namespace WalletConsole

open Calendar

variable {R : Type} [Listed R]

namespace Session

/-- A failure closes the question that was accepted and puts up a message. -/
theorem complete_error (now : Instant) (resource : Resource) (wording : Wording) (target : Target)
    (accepted : Bool) (e : FetchError) (s : Session R) :
    s.complete now resource wording target accepted (.error e) =
      { list := if accepted then s.list.map fun l => { l with confirmation := .idle } else s.list
        toasts := s.toasts.raise .error (failedMessage wording target e)
        versions := s.versions } := by
  cases accepted <;> rfl

end Session

/--
Nothing is left of a delete but a message, if what becomes of the whole is set beside what becomes
of everything else alone.
-/
structure OnlyReported (action : Action) (wording : Wording) (target : Target) (e : FetchError)
    (alone whole : Desk R) : Prop where
  /-- of the list, at most the question is another -/
  list : whole.session.list =
    if action = .accept then alone.session.list.map fun l => { l with confirmation := .idle }
    else alone.session.list
  toasts : whole.session.toasts =
    alone.session.toasts.raise .error (Session.failedMessage wording target e)
  versions : whole.session.versions = alone.session.versions
  waiting : whole.waiting = alone.waiting

/--
**A delete that fails changes nothing.** Whatever happens until the answer comes, the list is as if
all of it had happened without the delete, but that the question is closed if it was accepted; one
message tells of the failure, nothing expires, and the failure is handed on as it is.
-/
theorem failed_delete_changes_nothing (d : Desk R) (action : Action) (wording : Wording)
    (errand : Errand) (hcall : d.session.errand? action wording = some errand)
    (during : List (Instant × Desk.Move R))
    (hduring : Desk.Runs { d with session := d.session.atCall action errand.target } during)
    (start stop : Instant) (e : FetchError) :
    let alone := Desk.after { d with session := d.session.atCall action errand.target } during
    let moves := (start, .start action wording) :: during ++ [(stop, .answer errand (.error e))]
    d.Runs moves ∧ OnlyReported action wording errand.target e alone (d.after moves) ∧
      ∀ (now : Instant) (answer : Answer) (script : List (Step R)), answer.failure = some e →
        ((Step.act action wording answer script).run now d.session).2 =
          .outcome (.answered errand.target (.error e)) := by
  intro alone moves
  have hmade := Session.callMade_of_errand? hcall
  obtain ⟨hruns, hafter⟩ := Desk.after_delete hcall hduring start stop (.error e)
  refine ⟨hruns, ?_, ?_⟩
  · rw [hafter, Session.complete_error, hmade.accepted, hmade.wording]
    constructor
    · simp only [decide_eq_true_eq]
      rfl
    · rfl
    · rfl
    · rfl
  · intro now answer script hfailure
    have hanswer : answer.to errand.target = .error e := by
      unfold Answer.to
      rw [hfailure]
    rw [Desk.run_act_of_some hcall, hanswer]
    rfl

/-- A desk where it is asked whether ann is to be deleted. -/
def Desk.askingForAnn : Desk LnAddress :=
  Desk.ofTwoPages.after [(newYear, .step (.operation (.askRow "ann")))]

/-- Meanwhile bob is deleted, and ann is selected. -/
def movesWithBob : List (Instant × Desk.Move LnAddress) :=
  let wording := Listed.wording LnAddress
  [(newYear, .step (.operation (.flipRow "bob"))), (newYear, .start .deleteSelection wording),
    (newYear, .step (.operation (.flipRow "bob"))), (newYear, .step (.operation (.flipRow "ann"))),
    (newYear, .answer ⟨.many ["bob"], false, wording⟩ (.ok 1))]

theorem failed_delete_changes_nothing_while_bob_goes :
    let d := Desk.askingForAnn
    let wording := Listed.wording LnAddress
    let errand : Errand := ⟨.one "ann", true, wording⟩
    let called : Desk LnAddress := { d with session := d.session.atCall .accept errand.target }
    let moves := (newYear, .start .accept wording) :: movesWithBob ++
      [(newYear, .answer errand (.error (.unreachable "timeout")))]
    d.session.errand? .accept wording = some errand ∧ called.Runs movesWithBob ∧
      d.Runs moves ∧
      OnlyReported .accept wording errand.target (.unreachable "timeout")
        (called.after movesWithBob) (d.after moves) := by
  intro d wording errand called moves
  have hcall : d.session.errand? .accept wording = some errand := by decide
  have hduring : called.Runs movesWithBob := by decide
  obtain ⟨hruns, honly, -⟩ := failed_delete_changes_nothing d .accept wording errand hcall
    movesWithBob hduring newYear newYear (.unreachable "timeout")
  exact ⟨hcall, hduring, hruns, honly⟩

end WalletConsole
