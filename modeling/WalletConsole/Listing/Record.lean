import WalletConsole.Wallet.Ledger

/-!
# Rows of a list

What a list has to know of the rows that it shows: what identifies a row, where a keyword is looked
for, how rows are ordered by a column, and the properties that the criteria ask for.
-/

namespace WalletConsole

open Calendar

/-- The columns of a table, from left to right. -/
class Columns (C : Type) where
  all : List C
  /-- a stable name -/
  id : C → String
  /-- the heading -/
  label : C → String

/-- The column with this name. -/
def Columns.ofId? {C : Type} [Columns C] (s : String) : Option C :=
  (Columns.all (C := C)).find? fun c => Columns.id c == s

/-- A type whose values are shown as the rows of a list. -/
class Record (R : Type) where
  /-- columns that rows can be ordered by -/
  Column : Type
  /-- what has become of a row -/
  Status : Type
  [columnEq : DecidableEq Column]
  [statusEq : DecidableEq Status]
  [columns : Columns Column]
  [statuses : Named Status]
  /-- tells the rows of a list apart -/
  id : R → String
  /-- the texts in which a keyword is looked for -/
  searchTexts : R → List String
  status : (now : Instant) → R → Status
  ledger : R → Option Ledger
  /-- the instant that a range of dates asks for -/
  madeAt : R → Instant
  /-- the ascending order of two rows -/
  compareBy : Column → R → R → Ordering

attribute [reducible, instance] Record.columnEq Record.statusEq Record.columns Record.statuses

end WalletConsole
