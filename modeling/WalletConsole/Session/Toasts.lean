/-!
# Toasts

Short messages in a corner of the screen. Each has a number of its own, counted up from 0; a toast
is cleared by its number, by the user or after a while.

* `Toasts.raise`, `Toasts.clear` — a message comes and goes
-/

namespace WalletConsole

/-- How a message is meant. -/
inductive Level where
  | success
  | info
  | error
  deriving DecidableEq, Repr

/-- The style of a toast. -/
def Level.style : Level → String
  | .success => "toast-success"
  | .info => "toast-info"
  | .error => "toast-error"

/-- All levels. -/
def Level.all : List Level := [.success, .info, .error]

/-- A message on the screen. -/
structure Toast where
  id : Nat
  level : Level
  message : String
  deriving DecidableEq, Repr

/-- The messages on the screen, oldest first, and the number of the next one. -/
structure Toasts where
  stack : List Toast
  next : Nat
  deriving DecidableEq, Repr

namespace Toasts

/-- No messages yet. -/
def none : Toasts := ⟨[], 0⟩

/-- Puts up a message. -/
def raise (level : Level) (message : String) (t : Toasts) : Toasts :=
  ⟨t.stack ++ [⟨t.next, level, message⟩], t.next + 1⟩

/-- Takes the message with this number down, if it is there. -/
def clear (id : Nat) (t : Toasts) : Toasts :=
  { t with stack := t.stack.filter fun toast => toast.id ≠ id }

end Toasts

end WalletConsole
