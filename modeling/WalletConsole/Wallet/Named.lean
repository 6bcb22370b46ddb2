import WalletConsole.Json.Wire

/-!
# Closed sets of named values

Ledgers, statuses and permissions are closed sets whose members are known by name, on the wire and
on the screen.

* `Named` — such a set, with all its members in their usual order
* `Named.decode`, `Named.encode` — the name as JSON
-/

namespace WalletConsole

open Json

/-- A closed set of values that are known by name. -/
class Named (α : Type) where
  all : List α
  name : α → String

namespace Named

variable {α : Type} [Named α]

/-- All names with what they mean. -/
def table : List (String × α) := all.map fun x => (name x, x)

/-- The member with this name. -/
def ofName? (s : String) : Option α := (table (α := α)).lookup s

/-- The member whose name stands in the text. -/
def decode : Decoder α := choice table

/-- The name of a member. -/
def encode (x : α) : Value := .text (name x)

end Named

end WalletConsole
