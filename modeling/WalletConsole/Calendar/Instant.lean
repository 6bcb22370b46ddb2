import WalletConsole.Calendar.Date

/-!
# Instants

A moment in universal time: a day and a reading of the clock, to the nanosecond. The clock may
read second 60, which is how a leap second is shown; it is accepted at the end of any minute.

* `Instant.ofLocal?` — the instant at which a clock that runs ahead of universal time shows a
  reading
* instants are ordered by day, then by clock, so a leap second lies between the 59th second and the
  next minute
-/

namespace WalletConsole.Calendar

/-- A reading of a clock. -/
structure Clock where
  hour : Fin 24
  minute : Fin 60
  second : Fin 61
  nano : Fin 1000000000
  deriving DecidableEq, Repr

/-- The first reading of a day. -/
def Clock.midnight : Clock := ⟨0, 0, 0, 0⟩

/-- The last whole millisecond of a day. -/
def Clock.endOfDay : Clock := ⟨23, 59, 59, 999000000⟩

/-- Readings are ordered from the hours down. -/
instance : Ord Clock where
  compare := compareLex (compareOn (·.hour)) (compareLex (compareOn (·.minute))
    (compareLex (compareOn (·.second)) (compareOn (·.nano))))

/-- A moment in universal time. -/
structure Instant where
  date : Date
  clock : Clock
  deriving DecidableEq, Repr

namespace Instant

/-- Instants are ordered by day, then by clock. -/
instance : Ord Instant where
  compare := compareLex (compareOn (·.date)) (compareOn (·.clock))

instance : LE Instant := leOfOrd

instance : LT Instant := ltOfOrd

instance : DecidableRel (α := Instant) (· ≤ ·) := fun a b => by
  change Decidable ((compare a b).isLE = true); infer_instance

instance : DecidableRel (α := Instant) (· < ·) := fun a b => by
  change Decidable (compare a b = .lt); infer_instance

/-! ## Time zones -/

/-- The minutes since midnight. -/
def minuteOfDay (c : Clock) : Int := c.hour.val * 60 + c.minute.val

/-- The reading `minutes` after midnight, with the seconds of `c`. -/
def withMinuteOfDay (c : Clock) (minutes : Int) : Clock :=
  { c with
    hour := Fin.ofNat 24 (minutes.toNat / 60)
    minute := Fin.ofNat 60 (minutes.toNat % 60) }

/--
The instant at which a clock that is `offset` minutes ahead of universal time reads `c` on day `d`.
The offset is less than a day; there is none before the first day and after the last one.
-/
def ofLocal? (d : Date) (c : Clock) (offset : Int) : Option Instant :=
  let minutes := minuteOfDay c - offset
  -- on the day before, on the day itself, on the day after
  if minutes < 0 then d.prev?.map fun p => ⟨p, withMinuteOfDay c (minutes + 1440)⟩
  else if minutes < 1440 then some ⟨d, withMinuteOfDay c minutes⟩
  else d.next?.map fun n => ⟨n, withMinuteOfDay c (minutes - 1440)⟩

/-- A clock on universal time shows the instant itself. -/
theorem ofLocal?_zero (d : Date) (c : Clock) : ofLocal? d c 0 = some ⟨d, c⟩ := by
  have hh : c.hour.val < 24 := c.hour.isLt
  have hm : c.minute.val < 60 := c.minute.isLt
  have h1 : ¬ (minuteOfDay c - 0 < 0) := by unfold minuteOfDay; omega
  have h2 : minuteOfDay c - 0 < 1440 := by unfold minuteOfDay; omega
  have hq : (minuteOfDay c - 0).toNat / 60 = c.hour.val := by unfold minuteOfDay; omega
  have hr : (minuteOfDay c - 0).toNat % 60 = c.minute.val := by unfold minuteOfDay; omega
  unfold ofLocal? withMinuteOfDay
  simp only [h1, h2, ↓reduceIte, hq, hr]
  congr 2
  cases c with
  | mk h m s n =>
    have e1 : Fin.ofNat 24 h.val = h := Fin.ext (Nat.mod_eq_of_lt h.isLt)
    have e2 : Fin.ofNat 60 m.val = m := Fin.ext (Nat.mod_eq_of_lt m.isLt)
    simp only [e1, e2]

end Instant

end WalletConsole.Calendar
