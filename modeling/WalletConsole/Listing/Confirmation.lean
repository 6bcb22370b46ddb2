/-!
# Asking before a delete

Rows are deleted only after a question was answered. The question is about a target; it can be
declined until it is accepted, the delete is under way from then on, and nothing else can be asked
until that is over.

* `Confirmation.ask`, `Confirmation.decline`, `Confirmation.accept`, `Confirmation.close` — what
  happens to a question, each with what it answers
-/

namespace WalletConsole

/-- What is to be deleted. -/
inductive Target where
  | one (id : String)
  | many (ids : List String)
  deriving DecidableEq, Repr

/-- The identifiers of the rows that are to be deleted. -/
def Target.ids : Target → List String
  | .one id => [id]
  | .many ids => ids

/-- The question. -/
inductive Confirmation where
  /-- nothing is asked -/
  | idle
  | asking (target : Target)
  /-- the question was accepted, and the delete is under way -/
  | deleting (target : Target)
  deriving DecidableEq, Repr

namespace Confirmation

/-- Is there anything on the screen? -/
def isShown : Confirmation → Bool
  | .idle => false
  | _ => true

/-- Is a delete under way? -/
def isBusy : Confirmation → Bool
  | .deleting _ => true
  | _ => false

/-- What it is about. -/
def target? : Confirmation → Option Target
  | .idle => none
  | .asking t | .deleting t => some t

/-- Asks, if nothing is asked. -/
def ask (t : Target) : Confirmation → Confirmation × Bool
  | .idle => (.asking t, true)
  | q => (q, false)

/-- Takes the question back, unless it was accepted. -/
def decline : Confirmation → Confirmation × Bool
  | .asking _ => (.idle, true)
  | q => (q, false)

/-- Accepts the question and hands out its target. -/
def accept : Confirmation → Confirmation × Option Target
  | .asking t => (.deleting t, some t)
  | q => (q, none)

/-- Takes the question away, whatever became of it. -/
def close (_ : Confirmation) : Confirmation := .idle

end Confirmation

end WalletConsole
