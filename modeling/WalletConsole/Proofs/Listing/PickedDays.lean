import Mathlib
import WalletConsole.Calendar.DateInput
import WalletConsole.Proofs.Listing.Operations

/-!
# Days picked for a list

A range of dates is picked by its first and its last day, and its bounds are instants of those two.
The first is covered whole. The last is covered up to its last whole millisecond: what is left of
that day, and a leap second at the end of it, lie outside, although the days of a range are meant to
be covered whole.

* `Instant.le_iff` — instants are compared by day first, and on one day by the clock
* `Clock.IsLate` — the readings of a day that lie outside when it is the last of a range
* `rangeInverted_days_iff` — a range is inverted exactly if its days are
* `picked_days_kept` — the rows made on the days of a range are kept, but for those made that late
-/

namespace WalletConsole

open Calendar

namespace Calendar

/-! ## Days -/

namespace Date

instance : LE Date := leOfOrd

instance : LT Date := ltOfOrd

instance : DecidableRel (α := Date) (· ≤ ·) := fun a b =>
  inferInstanceAs (Decidable ((compare a b).isLE = true))

/-- Days that are equal in the order are the same. -/
instance : Std.LawfulEqOrd Date where
  eq_of_compare {a b} h := by
    obtain ⟨hyear, hrest⟩ := Ordering.then_eq_eq.mp h
    obtain ⟨hmonth, hday⟩ := Ordering.then_eq_eq.mp hrest
    have hyear : a.year = b.year := Std.LawfulEqOrd.eq_of_compare hyear
    have hmonth : a.month = b.month := Std.LawfulEqOrd.eq_of_compare hmonth
    have hday : a.day = b.day := Std.LawfulEqOrd.eq_of_compare hday
    cases a
    cases b
    cases hyear
    cases hmonth
    cases hday
    rfl

variable {a b : Date}

theorem le_iff_lt_or_eq : a ≤ b ↔ a < b ∨ a = b := by
  show (compare a b).isLE = true ↔ compare a b = .lt ∨ a = b
  rw [Ordering.isLE_iff_eq_lt_or_eq_eq, Std.compare_eq_iff_eq]

theorem not_le_iff_lt : ¬ a ≤ b ↔ b < a := by
  show ¬ (compare a b).isLE = true ↔ compare b a = .lt
  rw [Bool.not_eq_true, Ordering.isLE_eq_false, Std.OrientedCmp.gt_iff_lt]

theorem lt_irrefl (a : Date) : ¬ a < a := by
  show ¬ compare a a = .lt
  simp [Std.ReflCmp.compare_self]

end Date

/-! ## Readings of a clock -/

namespace Clock

instance : LE Clock := leOfOrd

variable {a b c : Clock}

theorem le_iff : a ≤ b ↔ a.hour.val < b.hour.val ∨ a.hour.val = b.hour.val ∧
    (a.minute.val < b.minute.val ∨ a.minute.val = b.minute.val ∧
      (a.second.val < b.second.val ∨ a.second.val = b.second.val ∧ a.nano.val ≤ b.nano.val)) := by
  show ((compare a.hour.val b.hour.val).then ((compare a.minute.val b.minute.val).then
    ((compare a.second.val b.second.val).then (compare a.nano.val b.nano.val)))).isLE = true ↔ _
  simp only [Ordering.isLE_then_iff_or, Nat.compare_eq_lt, Nat.compare_eq_eq, Nat.isLE_compare]

theorem midnight_le (c : Clock) : midnight ≤ c := by
  rw [le_iff]
  show 0 < _ ∨ 0 = _ ∧ (0 < _ ∨ 0 = _ ∧ (0 < _ ∨ 0 = _ ∧ 0 ≤ _))
  omega

/-- The reading is past the last whole millisecond of its day. -/
def IsLate (c : Clock) : Prop :=
  c.hour.val = 23 ∧ c.minute.val = 59 ∧
    (c.second.val = 59 ∧ 999000000 < c.nano.val ∨ c.second.val = 60)

instance (c : Clock) : Decidable c.IsLate := inferInstanceAs (Decidable (_ ∧ _ ∧ (_ ∧ _ ∨ _)))

theorem le_endOfDay_iff : c ≤ endOfDay ↔ ¬ c.IsLate := by
  have hhour : c.hour.val < 24 := c.hour.isLt
  have hminute : c.minute.val < 60 := c.minute.isLt
  have hsecond : c.second.val < 61 := c.second.isLt
  rw [le_iff]
  show _ < 23 ∨ _ = 23 ∧ (_ < 59 ∨ _ = 59 ∧ (_ < 59 ∨ _ = 59 ∧ _ ≤ 999000000)) ↔ _
  unfold IsLate
  omega

end Clock

/-! ## Instants -/

namespace Instant

variable {a b t : Instant} {d : Date}

/-- Instants are compared by day, and on one day by the clock. -/
theorem le_iff : a ≤ b ↔ a.date < b.date ∨ a.date = b.date ∧ a.clock ≤ b.clock := by
  show ((compare a.date b.date).then (compare a.clock b.clock)).isLE = true ↔
    compare a.date b.date = .lt ∨ a.date = b.date ∧ (compare a.clock b.clock).isLE = true
  rw [Ordering.isLE_then_iff_or, Std.compare_eq_iff_eq]

theorem midnight_le_iff : (⟨d, .midnight⟩ : Instant) ≤ t ↔ d ≤ t.date := by
  rw [le_iff, Date.le_iff_lt_or_eq]
  simp [Clock.midnight_le]

theorem le_endOfDay_iff :
    t ≤ (⟨d, .endOfDay⟩ : Instant) ↔ t.date ≤ d ∧ ¬ (t.date = d ∧ t.clock.IsLate) := by
  rw [le_iff, Date.le_iff_lt_or_eq]
  constructor
  · rintro (hlt | ⟨heq, hle⟩)
    · refine ⟨.inl hlt, fun hlate => Date.lt_irrefl d ?_⟩
      exact hlate.1 ▸ hlt
    · exact ⟨.inr heq, fun hlate => Clock.le_endOfDay_iff.mp hle hlate.2⟩
  · rintro ⟨hlt | heq, hearly⟩
    · exact .inl hlt
    · exact .inr ⟨heq, Clock.le_endOfDay_iff.mpr fun hlate => hearly ⟨heq, hlate⟩⟩

theorem lt_iff_not_le : a < b ↔ ¬ b ≤ a := by
  show compare a b = .lt ↔ ¬ (compare b a).isLE = true
  rw [Bool.not_eq_true, Ordering.isLE_eq_false, Std.OrientedCmp.gt_iff_lt]

end Instant

end Calendar

/-! ## Ranges of days -/

/-- A range from the start of one day to the end of another is inverted exactly if the days are. -/
theorem rangeInverted_days_iff {first last : Date} :
    rangeInverted (some ⟨first, .midnight⟩) (some ⟨last, .endOfDay⟩) = true ↔ last < first := by
  show decide ((⟨last, .endOfDay⟩ : Instant) < ⟨first, .midnight⟩) = true ↔ _
  rw [decide_eq_true_iff, Instant.lt_iff_not_le, Instant.midnight_le_iff, Date.not_le_iff_lt]

variable {R : Type} [Record R]

/-- The row was made on one of the days from the first to the last. -/
def MadeOnDays (first last : Date) (row : R) : Prop :=
  first ≤ (Record.madeAt row).date ∧ (Record.madeAt row).date ≤ last

instance (first last : Date) (row : R) : Decidable (MadeOnDays first last row) :=
  inferInstanceAs (Decidable (_ ∧ _))

/-- The row was made on a day, but past its last whole millisecond. -/
def MadeLateOn (day : Date) (row : R) : Prop :=
  (Record.madeAt row).date = day ∧ (Record.madeAt row).clock.IsLate

instance (day : Date) (row : R) : Decidable (MadeLateOn day row) :=
  inferInstanceAs (Decidable (_ ∧ _))

theorem isBetween_days_iff {first last : Date} {row : R} :
    isBetween ⟨first, .midnight⟩ ⟨last, .endOfDay⟩ (Record.madeAt row) = true ↔
      MadeOnDays first last row ∧ ¬ MadeLateOn last row := by
  simp only [isBetween, Bool.and_eq_true, decide_eq_true_eq, Instant.midnight_le_iff,
    Instant.le_endOfDay_iff]
  exact and_assoc.symm

/--
**Of the rows that a list would show, a range of days keeps those made on these days, but for those
made past the last whole millisecond of the last day.**
-/
theorem picked_days_kept (startText endText : String) (first last : Date)
    (hfirst : parseDate? startText = some first) (hlast : parseDate? endText = some last)
    (hle : first ≤ last) (now : Instant) (cmp : R → R → Ordering)
    (c : Criteria (Record.Status R)) (hearliest : c.earliest = startOf? startText)
    (hlatest : c.latest = endOf? endText) (rows : List R) :
    narrow now cmp c c.isInverted rows =
      (narrow now cmp c.withoutDates c.withoutDates.isInverted rows).filter fun row =>
        MadeOnDays first last row ∧ ¬ MadeLateOn last row := by
  have hearliest : c.earliest = some ⟨first, .midnight⟩ := by
    rw [hearliest, startOf?, hfirst, Option.map_some]
  have hlatest : c.latest = some ⟨last, .endOfDay⟩ := by
    rw [hlatest, endOf?, hlast, Option.map_some]
  have hinverted : c.isInverted = false := by
    rw [Criteria.isInverted, hearliest, hlatest, ← Bool.not_eq_true, rangeInverted_days_iff,
      ← Date.not_le_iff_lt]
    exact not_not_intro hle
  rw [hinverted]
  unfold narrow
  rw [hearliest, hlatest]
  show List.filter _ _ = List.filter _ _
  refine List.filter_congr fun row _ => ?_
  rw [Bool.eq_iff_iff, isBetween_days_iff, decide_eq_true_iff]

/-! ### The turn of a month -/

/-- The last day of a February. -/
def leapDay : Date := ⟨2024, 2, 29, by decide⟩

/-- The day after. -/
def firstOfMarch : Date := ⟨2024, 3, 1, by decide⟩

/-- The criteria of a list for which these two days are picked. -/
def turnOfMonth : Criteria LnAddressStatus :=
  { Criteria.off with earliest := startOf? " 2024-2-29", latest := endOf? "2024-03-01" }

/-- An address of which nothing matters but when it was made. -/
def LnAddress.madeOn (day : Date) (clock : Clock) (name : String) : LnAddress :=
  { LnAddress.named name with createdAt := ⟨day, clock⟩ }

/-- Addresses made late on both days; in between, one in the last whole millisecond. -/
def lateAddresses : List LnAddress :=
  [.madeOn leapDay { Clock.endOfDay with second := Fin.last 60 } "ann",
    .madeOn firstOfMarch .endOfDay "bob",
    .madeOn firstOfMarch { Clock.endOfDay with nano := Fin.last 999999999 } "eve"]

theorem picked_days_kept_at_turn :
    narrow newYear (LnAddress.compareBy .createdAt) turnOfMonth turnOfMonth.isInverted
        lateAddresses =
      (narrow newYear (LnAddress.compareBy .createdAt) turnOfMonth.withoutDates
        turnOfMonth.withoutDates.isInverted lateAddresses).filter fun row =>
          MadeOnDays leapDay firstOfMarch row ∧ ¬ MadeLateOn firstOfMarch row :=
  picked_days_kept " 2024-2-29" "2024-03-01" leapDay firstOfMarch (by cbv) (by cbv) (by decide)
    newYear _ turnOfMonth rfl rfl lateAddresses

/-- All three addresses were made on the picked days, and Eve's is not shown. -/
theorem eve_missing_on_picked_day :
    parseDate? " 2024-2-29" = some leapDay ∧ parseDate? "2024-03-01" = some firstOfMarch ∧
      (∀ row ∈ lateAddresses, MadeOnDays leapDay firstOfMarch row) ∧
      (narrow newYear (LnAddress.compareBy .createdAt) turnOfMonth turnOfMonth.isInverted
        lateAddresses).map Record.id = ["ann", "bob"] :=
  ⟨by cbv, by cbv, by decide, by cbv⟩

end WalletConsole
