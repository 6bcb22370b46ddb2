import WalletConsole.Calendar.Scan
import WalletConsole.Calendar.Digits

/-!
# Dates picked in a form

A date field of a form holds a day as `2024-03-01`. As the start of a range it means midnight, as
the end of a range the last millisecond of that day, so that a range covers its last day whole.

* `parseDate?` — the day, read leniently: blanks at the ends and in front of a number are skipped
* `startOf?`, `endOf?` — the bounds of a range
* `fieldText` — the text a field shows
-/

namespace WalletConsole.Calendar

open Text

/-- Reads a day and nothing after it. -/
def parseYmd (s : List Char) : Except ParseError Date := do
  let ((year, month, day), rest) ← scanYmd (expect '-') s
  if !rest.isEmpty then .error .tooLong
  else match Date.ofYmd? year month day with
    | some d => .ok d
    | none => .error .outOfRange

/-- The day in a date field, if it holds one. -/
def parseDate? (s : String) : Option Date := (parseYmd (trim s.toList)).toOption

/-- The start of the day in a date field. -/
def startOf? (s : String) : Option Instant := (parseDate? s).map (⟨·, .midnight⟩)

/-- The end of the day in a date field. -/
def endOf? (s : String) : Option Instant := (parseDate? s).map (⟨·, .endOfDay⟩)

/-- The text of a date field that holds the day of an instant, or nothing. -/
def fieldText : Option Instant → String
  | none => ""
  | some t => String.ofList (ymdText t.date)

end WalletConsole.Calendar
