import WalletConsole.Listing.Operation
import WalletConsole.Session.Versions
import WalletConsole.Session.Wording
import WalletConsole.Session.Toasts

/-!
# A session with one list

One list, the messages on the screen and the versions of the resources. The list goes away when the
user leaves its page; messages and versions stay.

A delete is a call to the backend, and much can happen until it is answered, also that the list
goes away. So it comes in two parts: what is done to make the call and what is done with the
answer.

* `Session.begin` — finds out what is to be deleted
* `Session.complete` — takes the answer in: rows, messages, versions, question
* `Session.countAnswer` — what has to be counted for it
-/

namespace WalletConsole

open Calendar

/-- One list and what is around it. -/
structure Session (R : Type) [Record R] where
  /-- the list, until the user leaves its page -/
  list : Option (Listing R)
  toasts : Toasts
  versions : Versions

/-! ## Deletes -/

/-- A way to start a delete. -/
inductive Action where
  | deleteOne (id : String)
  | deleteSelection
  /-- deletes what is asked about -/
  | accept
  deriving DecidableEq, Repr

/-- What starting a delete comes to. -/
inductive Started where
  /-- nothing is asked -/
  | nothing
  /-- there are no rows to delete, so no call is made -/
  | noRows (accepted : Bool)
  /-- a call is made -/
  | calling (target : Target) (accepted : Bool)
  deriving DecidableEq, Repr

/-- What a delete comes to in the end: nothing, no rows, or the answer to a call. -/
inductive Outcome where
  | nothing
  | noRows
  /-- the answer, with the number of rows where the backend tells it -/
  | answered (target : Target) (count : Except FetchError (Option Nat))

namespace Session

variable {R : Type} [Record R]

/-- A session that starts with a list. -/
def ofList (l : Listing R) : Session R := ⟨some l, .none, .initial⟩

/-- Does something to the list, if it is there. -/
def mapList (f : Listing R → Listing R) (s : Session R) : Session R :=
  { s with list := s.list.map f }

/-- Puts up a message. -/
def announce (level : Level) (message : String) (s : Session R) : Session R :=
  { s with toasts := s.toasts.raise level message }

/-- Some resources have to be fetched again. -/
def expire (resources : List Resource) (s : Session R) : Session R :=
  { s with versions := s.versions.expireAll resources }

/-- A call for some rows, if there are any. -/
def callFor (ids : List String) (accepted : Bool) : Started :=
  if ids.isEmpty then .noRows accepted else .calling (.many ids) accepted

/-- Starts a delete. When it was asked about, the question is busy from now on. -/
def begin (action : Action) (s : Session R) : Session R × Started :=
  match action with
  | .deleteOne id => (s, .calling (.one id) false)
  | .deleteSelection => (s, callFor (s.list.elim [] fun l => l.view.selected) false)
  | .accept =>
    match s.list with
    | none => (s, .nothing)
    | some l =>
      match l.confirmation.accept with
      -- nothing was asked, or the delete is already under way
      | (confirmation, none) => ({ s with list := some { l with confirmation } }, .nothing)
      | (confirmation, some (.one id)) =>
        ({ s with list := some { l with confirmation } }, .calling (.one id) true)
      | (confirmation, some (.many ids)) =>
        ({ s with list := some { l with confirmation } }, callFor ids true)

/-- Closes the question, if the delete was asked about. -/
def closeIf (accepted : Bool) (s : Session R) : Session R :=
  if accepted then s.mapList fun l => { l with confirmation := l.confirmation.close } else s

/-- The rows of a call are gone. -/
def forget (now : Instant) (target : Target) (s : Session R) : Session R :=
  s.mapList fun l =>
    match target with
    | .one id => l.forgetRow now id
    | .many ids => l.forgetRows now ids

/-- The message when a call went well and the backend says it deleted so many rows. -/
def doneMessage (wording : Wording) (target : Target) (count : Nat) : String :=
  match target with
  | .one _ => wording.rowDone
  | .many _ => wording.rowsDone count

/-- The message when a call failed. -/
def failedMessage (wording : Wording) (target : Target) (e : FetchError) : String :=
  match target with
  | .one _ => wording.rowFailed e
  | .many _ => wording.rowsFailed e

/-- Takes the answer to a call in. -/
def complete (now : Instant) (resource : Resource) (wording : Wording) (target : Target)
    (accepted : Bool) (answer : Except FetchError Nat) (s : Session R) : Session R :=
  closeIf accepted <|
    match answer with
    | .ok count =>
      ((s.forget now target).announce .success (doneMessage wording target count)).expire
        resource.touched
    -- nothing but the message tells of it
    | .error e => s.announce .error (failedMessage wording target e)

/-- Counts what has to be counted to take the answer to a call in. -/
def countAnswer (now : Instant) (answer : Except FetchError Nat) (s : Session R) :
    Except Miscount Unit :=
  match s.list, answer with
  | some l, .ok _ => discard (l.cutPage now)
  | _, _ => .ok ()

/-- What the one who started a delete is told. -/
def outcomeOf (target : Target) (accepted : Bool) (answer : Except FetchError Nat) : Outcome :=
  .answered target <| answer.map fun count =>
    match target, accepted with
    | .one _, false => none
    | .one _, true => some 1
    | .many _, _ => some count

end Session

end WalletConsole
