import Mathlib
import WalletConsole.Wallet.Amount

/-!
# Amounts, shown and read back

An amount on the screen is a decimal number and a unit, with a minus sign in front if it is
negative. Nothing is rounded: whoever reads number and unit gets the amount back, also at both ends
of the range of a machine word.

* `readAmount?` — the amount that a text says, told by sign, number and unit
* `readQuantity?_msatText` — **a quantity is read back from its text**
* `readAmount?_showMsat`, `readAmount?_showSignedMsat` — so are amounts with and without a sign
* `AmountsFaithful` — what the texts of amounts tell
* `shown_amounts_are_faithful` — **every amount is told by its text**
-/

namespace WalletConsole

/-! ## Reading -/

/-- What a unit is worth, in thousandths of a satoshi. -/
def unitWorth? (unit : List Char) : Option Nat :=
  if unit = "sats".toList then some 1000 else if unit = "msats".toList then some 1 else none

/-- The quantity that a decimal number, a blank and a unit say. -/
def readQuantity? (s : List Char) : Option Nat :=
  match s.takeWhile Char.isDigit, s.dropWhile Char.isDigit with
  | d :: ds, ' ' :: unit => (unitWorth? unit).map (Nat.ofDigitChars 10 (d :: ds) 0 * ·)
  | _, _ => none

/-- The amount that a text says: a quantity, less than nothing if there is a minus sign in front. -/
def readAmount? (text : String) : Option Int :=
  match text.toList with
  | '-' :: s => (readQuantity? s).map fun n : Nat => -(n : Int)
  | s => (readQuantity? s).map fun n : Nat => (n : Int)

/-! ## Quantities -/

theorem readQuantity?_toDigits (n : Nat) (unit : List Char) :
    readQuantity? (Nat.toDigits 10 n ++ ' ' :: unit) = (unitWorth? unit).map (n * ·) := by
  have hdigits : ∀ c ∈ Nat.toDigits 10 n, c.isDigit = true := fun _ hc =>
    Nat.isDigit_of_mem_toDigits (by decide) (by decide) hc
  have hnumber : (Nat.toDigits 10 n ++ ' ' :: unit).takeWhile Char.isDigit = Nat.toDigits 10 n := by
    rw [List.takeWhile_append_of_pos hdigits]
    simp
  have hrest : (Nat.toDigits 10 n ++ ' ' :: unit).dropWhile Char.isDigit = ' ' :: unit := by
    rw [List.dropWhile_append_of_pos hdigits]
    simp
  rw [readQuantity?, hnumber, hrest]
  cases hd : Nat.toDigits 10 n with
  | nil => exact absurd hd Nat.toDigits_ne_nil
  | cons d ds =>
    show (unitWorth? unit).map (Nat.ofDigitChars 10 (d :: ds) 0 * ·) = _
    rw [← hd, Nat.ofDigitChars_ten_toDigits]

/-- A quantity is shown as a number of some unit, which together are worth as much. -/
theorem exists_unit_msatText (n : Nat) : ∃ number unit worth, unitWorth? unit = some worth ∧
    number * worth = n ∧ (msatText n).toList = Nat.toDigits 10 number ++ ' ' :: unit := by
  unfold msatText
  split
  · next hwhole =>
    have hworth : n / 1000 * 1000 = n := Nat.div_mul_cancel (Nat.dvd_of_mod_eq_zero hwhole)
    exact ⟨n / 1000, "sats".toList, 1000, rfl, hworth, by simp⟩
  · exact ⟨n, "msats".toList, 1, rfl, Nat.mul_one n, by simp⟩

/-- **A quantity is read back from its text.** -/
theorem readQuantity?_msatText (n : Nat) : readQuantity? (msatText n).toList = some n := by
  obtain ⟨number, unit, worth, hunit, hworth, htext⟩ := exists_unit_msatText n
  rw [htext, readQuantity?_toDigits, hunit, Option.map_some, hworth]

theorem minus_not_mem_of_unitWorth? {unit : List Char} {worth : Nat}
    (h : unitWorth? unit = some worth) : '-' ∉ unit := by
  unfold unitWorth? at h
  split at h
  · next hunit => simp [hunit]
  · split at h
    · next hunit => simp [hunit]
    · cases h

theorem minus_not_mem_msatText (n : Nat) : '-' ∉ (msatText n).toList := by
  obtain ⟨number, unit, worth, hunit, -, htext⟩ := exists_unit_msatText n
  rw [htext, List.mem_append, List.mem_cons]
  rintro (hdigit | hblank | hmem)
  · exact absurd (Nat.isDigit_of_mem_toDigits (by decide) (by decide) hdigit) (by decide)
  · exact absurd hblank (by decide)
  · exact minus_not_mem_of_unitWorth? hunit hmem

/-! ## Amounts -/

/-- A text without a minus sign says a quantity. -/
theorem readAmount?_msatText (n : Nat) : readAmount? (msatText n) = some (n : Int) := by
  unfold readAmount?
  split
  · next s heq =>
    have hminus : '-' ∈ (msatText n).toList := by simp [heq]
    exact absurd hminus (minus_not_mem_msatText n)
  · rw [readQuantity?_msatText, Option.map_some]

theorem readAmount?_minus_msatText (n : Nat) :
    readAmount? ("-" ++ msatText n) = some (-(n : Int)) := by
  have htext : ("-" ++ msatText n).toList = '-' :: (msatText n).toList := by simp
  rw [readAmount?, htext]
  show (readQuantity? (msatText n).toList).map _ = _
  rw [readQuantity?_msatText, Option.map_some]

/-- **An amount without a sign is read back from its text**, and a missing one is read as none. -/
theorem readAmount?_showMsat (a : Option UInt64) :
    readAmount? (showMsat a) = a.map fun n => (n.toNat : Int) := by
  cases a with
  | none => rfl
  | some n => exact readAmount?_msatText n.toNat

theorem showSignedMsat_of_neg {n : Int64} (h : n.toInt < 0) :
    showSignedMsat n = "-" ++ msatText n.toInt.natAbs :=
  if_pos (Int64.lt_iff_toInt_lt.mpr h)

theorem showSignedMsat_of_nonneg {n : Int64} (h : 0 ≤ n.toInt) :
    showSignedMsat n = msatText n.toInt.toNat := by
  have hlt : ¬ n < 0 := fun hlt => Int.not_lt.mpr h (Int64.lt_iff_toInt_lt.mp hlt)
  exact if_neg hlt

/-- **So is an amount with a sign**, the least of all included. -/
theorem readAmount?_showSignedMsat (n : Int64) : readAmount? (showSignedMsat n) = some n.toInt := by
  rcases Int.lt_or_le n.toInt 0 with hneg | hnonneg
  · rw [showSignedMsat_of_neg hneg, readAmount?_minus_msatText, Int.ofNat_natAbs_of_nonpos hneg.le,
      Int.neg_neg]
  · rw [showSignedMsat_of_nonneg hnonneg, readAmount?_msatText, Int.toNat_of_nonneg hnonneg]

theorem minus_mem_showSignedMsat_iff (n : Int64) :
    '-' ∈ (showSignedMsat n).toList ↔ n.toInt < 0 := by
  rcases Int.lt_or_le n.toInt 0 with hneg | hnonneg
  · simp [showSignedMsat_of_neg hneg, hneg]
  · rw [showSignedMsat_of_nonneg hnonneg]
    exact iff_of_false (minus_not_mem_msatText _) (Int.not_lt.mpr hnonneg)

/-! ### Different amounts -/

/-- Amounts that are read back differ in their texts. -/
theorem showMsat_inj {a b : Option UInt64} : showMsat a = showMsat b ↔ a = b := by
  refine ⟨fun h => ?_, congrArg showMsat⟩
  have hread := congrArg readAmount? h
  rw [readAmount?_showMsat, readAmount?_showMsat] at hread
  refine Option.map_injective (fun m n hmn => ?_) hread
  exact UInt64.toNat_inj.mp (Int.ofNat_inj.mp hmn)

theorem showSignedMsat_inj {a b : Int64} : showSignedMsat a = showSignedMsat b ↔ a = b := by
  refine ⟨fun h => ?_, congrArg showSignedMsat⟩
  have hread := congrArg readAmount? h
  rw [readAmount?_showSignedMsat, readAmount?_showSignedMsat] at hread
  exact Int64.toInt_inj.mp (Option.some.inj hread)

theorem showMsat_eq_showSignedMsat_iff {a : Option UInt64} {b : Int64} :
    showMsat a = showSignedMsat b ↔ ∃ n, a = some n ∧ (n.toNat : Int) = b.toInt := by
  constructor
  · intro h
    have hread := congrArg readAmount? h
    rw [readAmount?_showMsat, readAmount?_showSignedMsat] at hread
    exact Option.map_eq_some_iff.mp hread
  · rintro ⟨n, rfl, hn⟩
    rw [showSignedMsat_of_nonneg (by omega), ← hn, Int.toNat_natCast]
    rfl

/-- What the texts of amounts tell. -/
structure AmountsFaithful : Prop where
  /-- a text says the amount, and that of a missing amount says none -/
  unsigned : ∀ n : UInt64, readAmount? (showMsat (some n)) = some (n.toNat : Int)
  signed : ∀ n : Int64, readAmount? (showSignedMsat n) = some n.toInt
  missing : readAmount? (showMsat none) = none
  /-- no two amounts have the same text, one of which may be missing -/
  unsigned_inj : ∀ a b : Option UInt64, showMsat a = showMsat b ↔ a = b
  signed_inj : ∀ a b : Int64, showSignedMsat a = showSignedMsat b ↔ a = b
  /-- nor if one of them has a sign and the other has none -/
  mixed_inj : ∀ (a : Option UInt64) (b : Int64),
    showMsat a = showSignedMsat b ↔ ∃ n, a = some n ∧ (n.toNat : Int) = b.toInt
  /-- there is a minus sign exactly if the amount is negative -/
  minus_iff : ∀ n : Int64, '-' ∈ (showSignedMsat n).toList ↔ n.toInt < 0
  no_minus : ∀ n : UInt64, '-' ∉ (showMsat (some n)).toList

/--
**Every amount is told by its text**, with its sign, over the whole range of a machine word: sign,
number and unit are read back as the amount, and other amounts have other texts.
-/
theorem shown_amounts_are_faithful : AmountsFaithful where
  unsigned n := readAmount?_showMsat (some n)
  signed := readAmount?_showSignedMsat
  missing := readAmount?_showMsat none
  unsigned_inj _ _ := showMsat_inj
  signed_inj _ _ := showSignedMsat_inj
  mixed_inj _ _ := showMsat_eq_showSignedMsat_iff
  minus_iff := minus_mem_showSignedMsat_iff
  no_minus n := minus_not_mem_msatText n.toNat

end WalletConsole
