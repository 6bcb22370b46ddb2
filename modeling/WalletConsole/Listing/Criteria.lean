import WalletConsole.Listing.Direction

/-!
# Criteria of a list

Four criteria narrow a list, each of them off as long as it says nothing: a keyword, a status,
ledgers, a range of dates. A range that ends before it starts is off, too.

* `narrow` — the sorted rows that meet all criteria
* `Criteria.isActive` — is any criterion on?
* `Criteria.isInverted` — does the range end before it starts?
-/

namespace WalletConsole

open Calendar Text

/-! ## What the criteria say -/

/-- All rows, or those with one status only. -/
inductive StatusChoice (S : Type) where
  | all
  | only (status : S)
  deriving DecidableEq, Repr

namespace StatusChoice

variable {S : Type}

/-- Does it let a status through? -/
def admits [DecidableEq S] : StatusChoice S → S → Bool
  | .all, _ => true
  | .only wanted, status => wanted = status

/-- Does it let every status through? -/
def isAll : StatusChoice S → Bool
  | .all => true
  | .only _ => false

end StatusChoice

/-- The criteria of a list. -/
structure Criteria (S : Type) where
  keyword : String
  status : StatusChoice S
  ledgers : List Ledger
  earliest : Option Instant
  latest : Option Instant
  deriving DecidableEq, Repr

/-- Does a range of dates end before it starts? -/
def rangeInverted (earliest latest : Option Instant) : Bool :=
  match earliest, latest with
  | some s, some e => e < s
  | _, _ => false

namespace Criteria

variable {S : Type}

/-- All criteria off. -/
def off : Criteria S := ⟨"", .all, [], none, none⟩

/-- Is any criterion on? Half a range is none. -/
def isActive (c : Criteria S) : Bool :=
  !c.keyword.isEmpty || !c.status.isAll || !c.ledgers.isEmpty ||
    (c.earliest.isSome && c.latest.isSome)

/-- Does the range of dates end before it starts? -/
def isInverted (c : Criteria S) : Bool := rangeInverted c.earliest c.latest

/-- Takes a ledger in, or out if it is in. -/
def flipLedger (c : Criteria S) (ledger : Ledger) : Criteria S :=
  { c with
    ledgers := if ledger ∈ c.ledgers then c.ledgers.erase ledger else c.ledgers ++ [ledger] }

end Criteria

/-! ## What meets the criteria -/

section Rows

variable {R : Type} [Record R]

/-- Does the keyword occur in one of the row's texts, case aside? -/
def hasKeyword (keyword : String) (row : R) : Bool :=
  keyword.isEmpty ||
    (Record.searchTexts row).any fun text => occursIn (lower keyword.toList) (lower text.toList)

/-- Is the row on one of the ledgers? -/
def isOnLedger (ledgers : List Ledger) (row : R) : Bool :=
  ledgers.isEmpty ||
    match Record.ledger row with
    | some ledger => ledgers.contains ledger
    | none => false

/-- Does an instant lie in a range, ends included? -/
def isBetween (earliest latest t : Instant) : Bool := earliest ≤ t && t ≤ latest

/-- The rows with the keyword. -/
def byKeyword (keyword : String) (rows : List R) : List R :=
  if keyword.isEmpty then rows else rows.filter (hasKeyword keyword)

/-- The rows with the status. -/
def byStatus (now : Instant) (status : StatusChoice (Record.Status R)) (rows : List R) : List R :=
  if status.isAll then rows else rows.filter fun row => status.admits (Record.status now row)

/-- The rows on the ledgers. -/
def byLedger (ledgers : List Ledger) (rows : List R) : List R :=
  if ledgers.isEmpty then rows else rows.filter (isOnLedger ledgers)

/-- The rows in the range of dates, unless the range is to be ignored. -/
def byDate (ignored : Bool) (earliest latest : Option Instant) (rows : List R) : List R :=
  match ignored, earliest, latest with
  | false, some s, some e => rows.filter fun row => isBetween s e (Record.madeAt row)
  | _, _, _ => rows

/-- The rows in order that meet all criteria; `ignoreDates` turns the range of dates off. -/
def narrow (now : Instant) (compare : R → R → Ordering) (c : Criteria (Record.Status R))
    (ignoreDates : Bool) (rows : List R) : List R :=
  byDate ignoreDates c.earliest c.latest <| byLedger c.ledgers <| byStatus now c.status <|
    byKeyword c.keyword <| sortRows compare rows

/-- The number of rows with a status. -/
def countWith (now : Instant) (rows : List R) (status : StatusChoice (Record.Status R)) : Nat :=
  rows.countP fun row => status.admits (Record.status now row)

end Rows

end WalletConsole
