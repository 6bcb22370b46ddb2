import WalletConsole.Json.Wire

/-!
# Messages to and from the backend

* `Refusal` — what a refusal says
* `RowIds` — the rows of a bulk delete
* `DeletedRows` — how many rows a bulk delete removed
-/

namespace WalletConsole

open Json

/-- The body of a refusal. -/
structure Refusal where
  status : String
  reason : String
  deriving DecidableEq, Repr

namespace Refusal

/-- The fields of a refusal in the text. -/
def fields : Fields Refusal :=
  mk <$> .required "status" text <*> .required "reason" text

/-- A refusal as JSON. -/
def toValue (e : Refusal) : Value :=
  .object [("status", .text e.status), ("reason", .text e.reason)]

instance : Wire Refusal := ⟨fields.decode "ErrorResponse", toValue⟩

end Refusal

/-- The rows that a bulk delete names. -/
structure RowIds where
  ids : List String
  deriving DecidableEq, Repr

namespace RowIds

/-- The fields in the text. -/
def fields : Fields RowIds := mk <$> .required "ids" (sequence text)

/-- The rows as JSON. -/
def toValue (r : RowIds) : Value := .object [("ids", .list (r.ids.map .text))]

instance : Wire RowIds := ⟨fields.decode "IdsFilter", toValue⟩

/-- The pairs of the query that names the rows, one for each row. -/
def queryPairs (r : RowIds) : List (String × String) := r.ids.map fun id => ("ids", id)

end RowIds

/-- The number of rows that a bulk delete removed. -/
structure DeletedRows where
  rows : UInt64
  deriving DecidableEq, Repr

instance : Wire DeletedRows := ⟨fun d => (word64 d).map .mk, fun n => .natural n.rows⟩

end WalletConsole
