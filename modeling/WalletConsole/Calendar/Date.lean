/-!
# Days of the calendar

Days of the proleptic Gregorian calendar, held as year, month and day of the month. No day is ever
numbered: a time zone moves an instant by less than a day, so the day before and the day after are
all the arithmetic there is, and days are ordered as their parts are read.

* `Date.ofYmd?` — the day with these parts, if the calendar has it
* `Date.next?`, `Date.prev?` — the neighbouring days; the first and the last day have one only
-/

namespace WalletConsole.Calendar

/-! ## The calendar -/

/-- Every fourth year, except centuries that are not divisible by 400. -/
def isLeapYear (year : Int) : Bool :=
  year % 4 == 0 && (year % 100 != 0 || year % 400 == 0)

/-- The number of days of a month; months are numbered from 1. -/
def daysInMonth (year : Int) (month : Nat) : Nat :=
  match month with
  | 2 => if isLeapYear year then 29 else 28
  | 4 | 6 | 9 | 11 => 30
  | _ => 31

/-- The first year that has days. -/
def firstYear : Int := -262143

/-- The last year that has days. -/
def lastYear : Int := 262142

/-- Is there such a day? -/
def IsDay (year : Int) (month day : Nat) : Prop :=
  (firstYear ≤ year ∧ year ≤ lastYear) ∧ (1 ≤ month ∧ month ≤ 12) ∧
    (1 ≤ day ∧ day ≤ daysInMonth year month)

instance (year : Int) (month day : Nat) : Decidable (IsDay year month day) := by
  unfold IsDay; infer_instance

/-- A day of the calendar. -/
structure Date where
  year : Int
  month : Nat
  day : Nat
  isDay : IsDay year month day
  deriving DecidableEq, Repr

namespace Date

/-- The day with these parts, if there is one. -/
def ofYmd? (year : Int) (month day : Nat) : Option Date :=
  if h : IsDay year month day then some ⟨year, month, day, h⟩ else none

theorem ofYmd?_parts (d : Date) : ofYmd? d.year d.month d.day = some d := by
  simp [ofYmd?, d.isDay]

theorem ofYmd?_eq_some_iff {y : Int} {m n : Nat} {d : Date} :
    ofYmd? y m n = some d ↔ d.year = y ∧ d.month = m ∧ d.day = n := by
  constructor
  · intro h
    unfold ofYmd? at h
    split at h
    · cases h; exact ⟨rfl, rfl, rfl⟩
    · cases h
  · rintro ⟨rfl, rfl, rfl⟩
    exact ofYmd?_parts d

/-! ## Direction and neighbours -/

/-- Days are ordered by year, then month, then day of the month. -/
instance : Ord Date where
  compare := compareLex (compareOn (·.year)) (compareLex (compareOn (·.month)) (compareOn (·.day)))

/-- The day after, which is tomorrow in this month, else the first of the next, else new year. -/
def next? (d : Date) : Option Date :=
  ofYmd? d.year d.month (d.day + 1) <|> ofYmd? d.year (d.month + 1) 1 <|> ofYmd? (d.year + 1) 1 1

/-- The day before. -/
def prev? (d : Date) : Option Date :=
  if 1 < d.day then ofYmd? d.year d.month (d.day - 1)
  else if 1 < d.month then ofYmd? d.year (d.month - 1) (daysInMonth d.year (d.month - 1))
  else ofYmd? (d.year - 1) 12 31

end Date

end WalletConsole.Calendar
