import WalletConsole.Calendar.Digits

/-!
# Instants on the screen

Table cells show `2024-03-01 12:34`, chips `01 Mar 2024`; a missing instant is a dash.
-/

namespace WalletConsole.Calendar

/-- The short names of the months. -/
def monthNames : List String :=
  ["Jan", "Feb", "Mar", "Apr", "May", "Jun", "Jul", "Aug", "Sep", "Oct", "Nov", "Dec"]

/-- The short name of a month, numbered from 1. -/
def monthName (month : Nat) : String := monthNames.getD (month - 1) ""

/-- Day and time to the minute. -/
def showDateTime : Option Instant → String
  | none => "-"
  | some t => String.ofList
      (ymdText t.date ++ ' ' :: padded 2 t.clock.hour.val ++ ':' :: padded 2 t.clock.minute.val)

/-- Day, month by name, year. -/
def showDate : Option Instant → String
  | none => "-"
  | some t => String.ofList
      (padded 2 t.date.day ++ ' ' :: (monthName t.date.month).toList ++ ' ' :: yearText t.date.year)

end WalletConsole.Calendar
