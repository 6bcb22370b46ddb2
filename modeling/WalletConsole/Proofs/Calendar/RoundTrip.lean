import Mathlib.Algebra.Group.Nat.Defs
import WalletConsole.Calendar.Rfc3339

/-!
# Instants, written and read

Every instant is read back from its written form to the nanosecond: years beyond four digits and
before 0, any number of fraction digits, and the second 60.

* `ofDigits_padded`, `scanNumber_padded` — numbers with zeros in front
* `scanYear_yearText`, `scanYmd_ymdText` — years with and without a sign, and days
* `scanFraction_fractionText`, `scanClock_clockText` — fractions of a second, readings of a clock
* `Instant.parse_text` — **an instant is read back from its written form**
-/

namespace WalletConsole.Calendar

open Text

/-! ## Numbers -/

theorem isBlank_of_isDigit {c : Char} (h : c.isDigit = true) : isBlank c = false := by
  have hc : 48 ≤ c.toNat ∧ c.toNat ≤ 57 := Char.isDigit_iff_toNat.mp h
  simp [isBlank, inRanges, blankRanges]
  omega

theorem trimStart_cons {c : Char} (hc : isBlank c = false) (rest : List Char) :
    trimStart (c :: rest) = c :: rest := by
  simp [trimStart, hc]

theorem digits_isDigit {n : Nat} : ∀ c ∈ digits n, c.isDigit = true := fun _ hc =>
  Nat.isDigit_of_mem_toDigits (by decide) (by decide) hc

theorem padded_isDigit {width n : Nat} : ∀ c ∈ padded width n, c.isDigit = true := by
  intro c hc
  rcases List.mem_append.mp hc with hzero | hdigit
  · rw [List.eq_of_mem_replicate hzero]
    decide
  · exact digits_isDigit c hdigit

theorem padded_ne_nil {width n : Nat} : padded width n ≠ [] := by
  intro hnil
  exact Nat.toDigits_ne_nil (List.append_eq_nil_iff.mp hnil).2

/-- Zeros in front do not count. -/
theorem ofDigits_padded (width n : Nat) : ofDigits (padded width n) = n := by
  show Nat.ofDigitChars 10 (List.replicate _ '0' ++ Nat.toDigits 10 n) 0 = n
  rw [Nat.ofDigitChars_append, Nat.ofDigitChars_replicate_zero, Nat.mul_zero]
  exact Nat.ofDigitChars_ten_toDigits

theorem length_padded {width n : Nat} (hwidth : 0 < width) (h : n < 10 ^ width) :
    (padded width n).length = width := by
  have hlength : (digits n).length ≤ width :=
    (Nat.length_toDigits_le_iff (by decide) hwidth).mpr h
  simp only [padded, List.length_append, List.length_replicate]
  omega

/-- A number is read up to its last digit, if no more digits are wanted or none follow. -/
theorem scanNumber_append {width : Nat} {ds rest : List Char} (hne : ds ≠ [])
    (hds : ∀ c ∈ ds, c.isDigit = true) (hwidth : ds.length ≤ width)
    (hend : ds.length = width ∨ rest.head?.all (!Char.isDigit ·) = true)
    (hgreatest : ofDigits ds ≤ greatestNumber) :
    scanNumber width (ds ++ rest) = .ok (ofDigits ds, rest) := by
  have htaken : ((ds ++ rest).take width).takeWhile Char.isDigit = ds := by
    rw [List.take_append, List.take_of_length_le hwidth, List.takeWhile_append_of_pos hds]
    rcases hend with hlength | hhead
    · simp [hlength]
    · cases rest with
      | nil => simp
      | cons c rest =>
        have hc : c.isDigit = false := by simpa using hhead
        cases width - ds.length <;> simp [hc]
  cases ds with
  | nil => exact absurd rfl hne
  | cons c ds =>
    have hc : c.isDigit = true := hds c List.mem_cons_self
    simp only [List.cons_append] at htaken ⊢
    simp only [scanNumber, hc, if_true, htaken, hgreatest]
    simp

/-- A number with zeros in front is read back, if no more digits are wanted or none follow. -/
theorem scanNumber_padded {width least n : Nat} {rest : List Char}
    (hwidth : (padded least n).length ≤ width)
    (hend : (padded least n).length = width ∨ rest.head?.all (!Char.isDigit ·) = true)
    (hgreatest : n ≤ greatestNumber) :
    scanNumber width (padded least n ++ rest) = .ok (n, rest) := by
  have hread : scanNumber width (padded least n ++ rest) = .ok (ofDigits (padded least n), rest) :=
    scanNumber_append padded_ne_nil padded_isDigit hwidth hend (by rwa [ofDigits_padded])
  rwa [ofDigits_padded] at hread

/-- Nothing is skipped in front of a number. -/
theorem trimStart_padded (width n : Nat) (rest : List Char) :
    trimStart (padded width n ++ rest) = padded width n ++ rest := by
  cases hd : padded width n with
  | nil => exact absurd hd padded_ne_nil
  | cons c ds =>
    have hmem : c ∈ padded width n := by simp [hd]
    exact trimStart_cons (isBlank_of_isDigit (padded_isDigit c hmem)) _

/-- Two digits are read back, whatever follows. -/
theorem scanNumber_two {n : Nat} (h : n < 100) (rest : List Char) :
    scanNumber 2 (trimStart (padded 2 n ++ rest)) = .ok (n, rest) := by
  have hlength : (padded 2 n).length = 2 := length_padded (by decide) h
  rw [trimStart_padded]
  exact scanNumber_padded (by omega) (.inl hlength) (by unfold greatestNumber; omega)

theorem scanBelow_padded (bound : Nat) (hbound : bound ≤ 100) (n : Fin bound)
    (rest : List Char) : scanBelow bound (padded 2 n.val ++ rest) = .ok (n, rest) := by
  have hn : n.val < 100 := by omega
  simp [scanBelow, scanNumber_two hn, bind, Except.bind]

theorem scanOrdinal_padded (bound : Nat) {n : Nat} (hbound : bound < 100) (hn : 1 ≤ n ∧ n ≤ bound)
    (rest : List Char) : scanOrdinal bound (padded 2 n ++ rest) = .ok (n, rest) := by
  have hsmall : n < 100 := by omega
  simp [scanOrdinal, scanNumber_two hsmall, bind, Except.bind, hn]

/-! ## Days -/

theorem checkYear_of_isDay {year : Int} (hfirst : firstYear ≤ year) (hlast : year ≤ lastYear)
    (rest : List Char) : checkYear year rest = .ok (year, rest) := by
  unfold firstYear at hfirst
  unfold lastYear at hlast
  have hmin : Int32.minValue.toInt = -2147483648 := by decide
  have hmax : Int32.maxValue.toInt = 2147483647 := by decide
  have hfits : Int32.minValue.toInt ≤ year ∧ year ≤ Int32.maxValue.toInt := by omega
  simp only [checkYear, hfits.1, hfits.2, decide_true, Bool.and_self, if_true]

/-- A text that starts with a digit is a year without a sign. -/
theorem scanYear_digit {c : Char} (hc : c.isDigit = true) (rest : List Char) :
    scanYear (c :: rest) = (do
      let (n, rest) ← scanNumber 4 (c :: rest)
      checkYear n rest) := by
  unfold scanYear
  rw [trimStart_cons (isBlank_of_isDigit hc)]
  split
  · rename_i heq
    cases heq
    exact absurd hc (by decide)
  · rename_i heq
    cases heq
    exact absurd hc (by decide)
  · rfl

/-- A year is read back, with or without a sign. -/
theorem scanYear_yearText {year : Int} (hfirst : firstYear ≤ year) (hlast : year ≤ lastYear)
    (rest : List Char) : scanYear (yearText year ++ '-' :: rest) = .ok (year, '-' :: rest) := by
  have hcheck := checkYear_of_isDay hfirst hlast ('-' :: rest)
  unfold firstYear at hfirst
  unfold lastYear at hlast
  have hsigned : scanNumber (padded 4 year.natAbs ++ '-' :: rest).length
      (padded 4 year.natAbs ++ '-' :: rest) = .ok (year.natAbs, '-' :: rest) :=
    scanNumber_padded (by simp) (.inr (by simp)) (by unfold greatestNumber; omega)
  unfold yearText
  split
  case isTrue hshort =>
    simp only [Bool.and_eq_true, decide_eq_true_eq] at hshort
    have hlength : (padded 4 year.toNat).length = 4 := length_padded (by decide) (by omega)
    have hread : scanNumber 4 (padded 4 year.toNat ++ '-' :: rest) =
        .ok (year.toNat, '-' :: rest) :=
      scanNumber_padded (by omega) (.inl hlength) (by unfold greatestNumber; omega)
    have hyear : (year.toNat : Int) = year := by omega
    cases hdigits : padded 4 year.toNat with
    | nil => exact absurd hdigits padded_ne_nil
    | cons c ds =>
      have hmem : c ∈ padded 4 year.toNat := by simp [hdigits]
      rw [hdigits, List.cons_append] at hread
      rw [List.cons_append, scanYear_digit (padded_isDigit c hmem), hread]
      simp only [bind, Except.bind, hyear, hcheck]
  case isFalse hlong =>
    simp only [Bool.and_eq_true, decide_eq_true_eq] at hlong
    split
    case isTrue hnegative =>
      have hyear : -(year.natAbs : Int) = year := by omega
      simp only [scanYear, List.cons_append, trimStart_cons (c := '-') (by decide), hsigned,
        bind, Except.bind, hyear, hcheck]
    case isFalse hpositive =>
      have hyear : (year.natAbs : Int) = year := by omega
      simp only [scanYear, List.cons_append, trimStart_cons (c := '+') (by decide), hsigned,
        bind, Except.bind, hyear, hcheck]

theorem daysInMonth_le (year : Int) (month : Nat) : daysInMonth year month ≤ 31 := by
  unfold daysInMonth
  split
  · split <;> decide
  all_goals decide

/-- A day is read back, whatever reads the dashes. -/
theorem scanYmd_ymdText {dash : List Char → Except ParseError (List Char)}
    (hdash : ∀ s, dash ('-' :: s) = .ok s) (d : Date) (rest : List Char) :
    scanYmd dash (ymdText d ++ rest) = .ok ((d.year, d.month, d.day), rest) := by
  obtain ⟨⟨hfirst, hlast⟩, hmonth, hday⟩ := d.isDay
  have hdays := daysInMonth_le d.year d.month
  have hshape : ymdText d ++ rest =
      yearText d.year ++ '-' :: (padded 2 d.month ++ '-' :: (padded 2 d.day ++ rest)) := by
    simp [ymdText]
  rw [hshape]
  simp only [scanYmd, bind, Except.bind, scanYear_yearText hfirst hlast, hdash,
    scanOrdinal_padded 12 (by decide) hmonth,
    scanOrdinal_padded 31 (by decide) ⟨hday.1, by omega⟩, pure, Except.pure]

/-! ## Readings of a clock -/

/-- Digits after the point are a fraction: as many as there are, up to nine. -/
theorem scanFraction_padded {width n : Nat} (hwidth : 0 < width ∧ width ≤ 9)
    (hn : n < 10 ^ width) (nano : Fin 1000000000) (hnano : n * 10 ^ (9 - width) = nano.val)
    (rest : List Char) :
    scanFraction ('.' :: padded width n ++ 'Z' :: rest) = .ok (nano, 'Z' :: rest) := by
  have hlength : (padded width n).length = width := length_padded hwidth.1 hn
  have hgreatest : n ≤ greatestNumber := by
    have : 10 ^ width ≤ 10 ^ 9 := Nat.pow_le_pow_right (by decide) hwidth.2
    unfold greatestNumber
    omega
  have hread : scanNumber 9 (padded width n ++ 'Z' :: rest) = .ok (n, 'Z' :: rest) :=
    scanNumber_padded (by omega) (.inr (by simp)) hgreatest
  have hwritten : (padded width n ++ 'Z' :: rest).length - ('Z' :: rest).length = width := by
    simp [hlength]
  have hpow : n * Nat.pow 10 (9 - width) = nano.val := hnano
  simp only [List.cons_append, scanFraction, bind, Except.bind, hread, hwritten, hpow, nano.isLt,
    dif_pos]
  rfl

/-- The fraction of a second is read back. -/
theorem scanFraction_fractionText (nano : Fin 1000000000) (rest : List Char) :
    scanFraction (fractionText nano.val ++ 'Z' :: rest) = .ok (nano, 'Z' :: rest) := by
  have hbound : nano.val < 1000000000 := nano.isLt
  unfold fractionText
  split
  case isTrue hzero =>
    have hnano : nano = ⟨0, by decide⟩ := Fin.ext (beq_iff_eq.mp hzero)
    rw [hnano]
    rfl
  case isFalse =>
    split
    case isTrue hmilli =>
      have hmilli : nano.val % 1000000 = 0 := beq_iff_eq.mp hmilli
      exact scanFraction_padded (by decide) (by omega) nano (by omega) rest
    case isFalse =>
      split
      case isTrue hmicro =>
        have hmicro : nano.val % 1000 = 0 := beq_iff_eq.mp hmicro
        exact scanFraction_padded (by decide) (by omega) nano (by omega) rest
      case isFalse =>
        exact scanFraction_padded (by decide) (by omega) nano (by omega) rest

theorem looseColon_cons (s : List Char) : looseColon (':' :: s) = .ok s := by
  simp [looseColon, trimStart_cons (c := ':') (by decide), expect]

theorem looseDash_cons (s : List Char) : looseDash ('-' :: s) = .ok s := by
  simp [looseDash, trimStart_cons (c := '-') (by decide), expect]

/-- A reading of a clock is read back. -/
theorem scanClock_clockText (c : Clock) (rest : List Char) :
    scanClock (clockText c ++ 'Z' :: rest) = .ok (c, 'Z' :: rest) := by
  have hshape : clockText c ++ 'Z' :: rest = padded 2 c.hour.val ++ ':' ::
      (padded 2 c.minute.val ++ ':' ::
        (padded 2 c.second.val ++ (fractionText c.nano.val ++ 'Z' :: rest))) := by
    simp [clockText]
  rw [hshape]
  simp only [scanClock, bind, Except.bind, scanBelow_padded 24 (by decide),
    scanBelow_padded 60 (by decide), scanBelow_padded 61 (by decide),
    looseColon_cons, scanFraction_fractionText, pure, Except.pure]

/-! ## Instants -/

/-- **An instant is read back from its written form.** -/
theorem Instant.parse_text (t : Instant) : Instant.parse t.text = .ok t := by
  have hshape : t.text.toList = ymdText t.date ++ 'T' :: (clockText t.clock ++ ['Z']) := by
    simp [Instant.text, Instant.chars]
  have hzone : scanZone (trimStart ['Z']) = .ok (0, []) := rfl
  have hdivider (s : List Char) : scanDivider ('T' :: s) = .ok s := rfl
  have hend : (trimStart []).isEmpty = true := rfl
  unfold Instant.parse parseInstant
  rw [hshape]
  simp only [bind, Except.bind, scanYmd_ymdText looseDash_cons, hdivider, scanClock_clockText,
    hzone, hend, if_true, assemble, Date.ofYmd?_parts]
  rw [Instant.ofLocal?_zero]
  rfl

end WalletConsole.Calendar
