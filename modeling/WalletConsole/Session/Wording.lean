import WalletConsole.Text.Case
import WalletConsole.Wallet.FetchError

/-!
# Words for a delete

What the messages call the rows of a list and what is done to them.
-/

namespace WalletConsole

/-- Words for the rows of a list, and for deleting them. -/
structure Wording where
  singular : String
  plural : String
  /-- what was done to a row, as in "revoked" -/
  done : String := "deleted"
  /-- what is to be done to a row, as in "revoke" -/
  verb : String := "delete"
  deriving DecidableEq, Repr

namespace Wording

/-- One row was deleted. -/
def rowDone (w : Wording) : String :=
  Text.capitalize w.singular ++ " " ++ w.done ++ " successfully"

/-- What so many rows are called. -/
def noun (w : Wording) (count : Nat) : String := if count = 1 then w.singular else w.plural

/-- So many rows were deleted. -/
def rowsDone (w : Wording) (count : Nat) : String :=
  toString count ++ " " ++ w.noun count ++ " " ++ w.done ++ " successfully"

/-- One row could not be deleted. -/
def rowFailed (w : Wording) (e : FetchError) : String :=
  "Failed to " ++ w.verb ++ " " ++ w.singular ++ ": " ++ e.reason

/-- Some rows could not be deleted. -/
def rowsFailed (w : Wording) (e : FetchError) : String :=
  "Failed to " ++ w.verb ++ " " ++ w.plural ++ ": " ++ e.reason

end Wording

end WalletConsole
