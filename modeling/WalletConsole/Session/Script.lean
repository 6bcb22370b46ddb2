import WalletConsole.Session.Listed
import WalletConsole.Session.State

/-!
# What happens in a session

A session is a row of steps. A delete has steps of its own: those that happen between the call and
its answer, which may be deletes again.

* `Step.run` — the session after a step, and what the step answers
* `Step.runAll` — the session after some steps
* `Step.attempt`, `Step.attemptAll` — the same, unless counting on the way fails
-/

namespace WalletConsole

open Calendar

/-- How the backend will answer a call: with a failure, a number of rows, or that all is well. -/
structure Answer where
  failure : Option FetchError := none
  count : Option Nat := none

/-- The answer to a call. A backend that tells no number has deleted every row. -/
def Answer.to (a : Answer) (target : Target) : Except FetchError Nat :=
  match a.failure with
  | some e => .error e
  | none => .ok (a.count.getD target.ids.length)

/-- Something that happens in a session. -/
inductive Step (R : Type) [Record R] where
  | operation (op : Operation R)
  | announce (level : Level) (message : String)
  | clear (toast : Nat)
  | expire (resources : List Resource)
  /-- the user leaves the page of the list -/
  | leave
  /-- a delete, its answer, and what happens before that comes -/
  | act (action : Action) (wording : Wording) (answer : Answer) (during : List (Step R))

/-- What a step answers. -/
inductive StepReply where
  /-- the list is gone -/
  | gone
  | reply (r : Reply)
  | outcome (o : Outcome)

namespace Step

variable {R : Type} [Listed R]

mutual

/-- The session after a step, and what the step answers. -/
def run (now : Instant) (s : Session R) : Step R → Session R × StepReply
  | .operation op =>
    match s.list with
    | none => (s, .gone)
    | some l => ({ s with list := some (op.run now l).1 }, .reply (op.run now l).2)
  | .announce level message => (s.announce level message, .reply .nothing)
  | .clear toast => ({ s with toasts := s.toasts.clear toast }, .reply .nothing)
  | .expire resources => (s.expire resources, .reply .nothing)
  | .leave => ({ s with list := none }, .reply .nothing)
  | .act action wording answer during =>
    match s.begin action with
    | (s, .nothing) => (s, .outcome .nothing)
    | (s, .noRows accepted) => (s.closeIf accepted, .outcome .noRows)
    | (s, .calling target accepted) =>
      ((runAll now s during).complete now (Listed.resource R) wording target accepted
          (answer.to target),
        .outcome (Session.outcomeOf target accepted (answer.to target)))

/-- The session after some steps. -/
def runAll (now : Instant) (s : Session R) : List (Step R) → Session R
  | [] => s
  | step :: rest => runAll now (run now s step).1 rest

end

/-! ### Counting -/

mutual

/-- Counts what has to be counted in a step. -/
def count (now : Instant) (s : Session R) : Step R → Except Miscount Unit
  | .operation op => s.list.elim (.ok ()) fun l => op.count now l
  | .announce _ _ | .clear _ | .expire _ | .leave => .ok ()
  | .act action _ answer during =>
    match s.begin action with
    | (_, .nothing) | (_, .noRows _) => .ok ()
    | (s, .calling target _) => do
      countAll now s during
      (runAll now s during).countAnswer now (answer.to target)

/-- Counts what has to be counted in some steps. -/
def countAll (now : Instant) (s : Session R) : List (Step R) → Except Miscount Unit
  | [] => .ok ()
  | step :: rest => do
    count now s step
    countAll now (run now s step).1 rest

end

/-- The session after a step and what the step answers, once it is counted. -/
def attempt (now : Instant) (s : Session R) (step : Step R) :
    Except Miscount (Session R × StepReply) := do
  count now s step
  return run now s step

/-- The session after some steps, once they are counted. -/
def attemptAll (now : Instant) (s : Session R) (script : List (Step R)) :
    Except Miscount (Session R) := do
  countAll now s script
  return runAll now s script

/-- The sessions after each of some steps, with what the step answers. -/
def trace (now : Instant) (s : Session R) :
    List (Step R) → Except Miscount (List (StepReply × Session R))
  | [] => .ok []
  | step :: rest => do
    let (next, reply) ← attempt now s step
    return (reply, next) :: (← trace now next rest)

end Step

end WalletConsole
