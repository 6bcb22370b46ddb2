import Mathlib
import WalletConsole.Listing.Footer
import WalletConsole.Listing.Operation

/-!
# Counting the page

Where a page starts and ends is counted in machine words, and counting fails where a word is too
small. Here it is told when that is: never when pages are counted, and when the rows of a page are
counted, or those that are missing on it, exactly if the page starts or ends behind the last word.
Where counting does not fail, it is right.

* `Word.ceilDiv_eq` — a quotient of words is a word
* `Viewport.PageFits`, `Viewport.FillersFit` — a page that starts and ends at a word
* `Viewport.countPages_eq`, `Viewport.clamp_eq`, `Viewport.cutPage_eq`, `Viewport.countFillers_eq` —
  what counting comes to
* `Footer.ofPage`, `Footer.countPage_of_room` — what the foot of a table says, and when it can be
  counted
* `Operation.attempt_eq` — what can be done to a list is done, unless it has to count such a page
-/

namespace WalletConsole

open Calendar

/-! ## Quotients -/

namespace Word

theorem size_pos : 0 < size := by decide

/-- Only zero is no divisor. -/
theorem ceilDiv_eq {a b : Nat} (ha : a < size) (hb : 0 < b) :
    ceilDiv a b = .ok ((a + b - 1) / b) := by
  have hsplit : a + b - 1 = b * (a / b) + (a % b + b - 1) := by
    have hdiv := Nat.div_add_mod a b
    omega
  have hrem : a % b < b := Nat.mod_lt a hb
  have hquot : (a + b - 1) / b = a / b + (a % b + b - 1) / b := by
    rw [hsplit, Nat.mul_add_div hb]
  unfold ceilDiv
  rw [if_neg hb.ne', hquot]
  split
  · next hzero =>
    have hnone : (a % b + b - 1) / b = 0 := Nat.div_eq_of_lt (by omega)
    rw [hnone, Nat.add_zero]
  · next hsome =>
    have hone : (a % b + b - 1) / b = 1 := Nat.div_eq_of_lt_le (by omega) (by omega)
    -- a divisor that leaves a rest is greater than one
    have hlt : a / b < a := Nat.div_lt_self (by grind) (by grind)
    rw [hone, add_of_lt (by omega)]

end Word

/-! ## Pages -/

namespace Viewport

variable {C α : Type} {v : Viewport C} {rows : List α} {total : Nat}

/-- How many rows of the list are missing for all pages up to this one to be full. -/
def fillers (total : Nat) (v : Viewport C) : Nat :=
  if v.page = 0 then 0 else (v.page + 1) * v.pageSize - total

/-- In a list of so many rows, the page starts and ends at a word. -/
def PageFits (total : Nat) (v : Viewport C) : Prop :=
  v.page * v.pageSize < Word.size ∧ min (v.page * v.pageSize) total + v.pageSize < Word.size

/-- A full page would end at a word, unless it is the first. -/
def FillersFit (v : Viewport C) : Prop := v.page = 0 ∨ (v.page + 1) * v.pageSize < Word.size

instance (total : Nat) (v : Viewport C) : Decidable (v.PageFits total) :=
  inferInstanceAs (Decidable (_ ∧ _))

instance (v : Viewport C) : Decidable v.FillersFit := inferInstanceAs (Decidable (_ ∨ _))

/-- What goes wrong on a page that starts behind the last word, or ends there. -/
def miscount (v : Viewport C) : Miscount :=
  if v.page * v.pageSize < Word.size then .adding else .multiplying

/-- A page that ends at a word comes before one whose number is a word. -/
theorem succ_lt_size (hstop : (v.page + 1) * v.pageSize < Word.size) : v.page + 1 < Word.size :=
  Nat.lt_of_le_of_lt (Nat.le_mul_of_pos_right _ v.pageSize_pos) hstop

/-- Pages can always be counted. -/
theorem countPages_eq (htotal : total < Word.size) :
    v.countPages total = .ok (v.pageCount total) := by
  rw [countPages, Word.ceilDiv_eq htotal v.pageSize_pos]
  rfl

/-- There is always a way back to the last page. -/
theorem clamp_eq (htotal : total < Word.size) : v.clamp total = .ok (v.backInRange total) := by
  have hpos : 1 ≤ v.pageCount total := Nat.le_max_left _ _
  rw [clamp, countPages_eq htotal]
  show (Word.sub (v.pageCount total) 1 >>= fun last => pure (v.goTo (min v.page last))) = _
  rw [Word.sub_of_le hpos]
  rfl

theorem pageBounds_of_fits (h : v.PageFits total) :
    v.pageBounds total = .ok (min (v.page * v.pageSize) total,
      min (min (v.page * v.pageSize) total + v.pageSize) total) := by
  unfold pageBounds
  simp only [Word.mul_of_lt h.1, Word.add_of_lt h.2, bind, Except.bind]
  rfl

theorem pageBounds_of_not_fits (h : ¬ v.PageFits total) :
    v.pageBounds total = .error v.miscount := by
  unfold pageBounds miscount
  by_cases hstart : v.page * v.pageSize < Word.size
  · have hstop : Word.size ≤ min (v.page * v.pageSize) total + v.pageSize :=
      Nat.not_lt.mp fun hlt => h ⟨hstart, hlt⟩
    simp only [Word.mul_of_lt hstart, Word.add_of_ge hstop, if_pos hstart, bind, Except.bind]
  · simp only [Word.mul_of_ge (Nat.not_lt.mp hstart), if_neg hstart, bind, Except.bind]

/-- A page lies within the rows and does not end before it starts. -/
theorem pageBounds_within {first last : Nat} (h : v.pageBounds total = .ok (first, last)) :
    first ≤ last ∧ last ≤ total := by
  by_cases hfit : v.PageFits total
  · rw [pageBounds_of_fits hfit] at h
    cases h
    omega
  · rw [pageBounds_of_not_fits hfit] at h
    cases h

/-- Positions that are kept within a list lead to the same rows. -/
theorem take_drop_within (rows : List α) (start size : Nat) :
    (rows.take (min (min start rows.length + size) rows.length)).drop (min start rows.length) =
      (rows.drop start).take size := by
  rw [List.drop_take]
  rcases Nat.le_total start rows.length with hin | hout
  · rw [Nat.min_eq_left hin, List.take_eq_take_iff, List.length_drop]
    omega
  · rw [Nat.min_eq_right hout, List.drop_length, List.drop_eq_nil_of_le hout, List.take_nil,
      List.take_nil]

theorem cutPage_of_fits (h : v.PageFits rows.length) : v.cutPage rows = .ok (v.pageOf rows) := by
  rw [cutPage, pageBounds_of_fits h]
  exact congrArg Except.ok (take_drop_within rows _ _)

theorem cutPage_of_not_fits (h : ¬ v.PageFits rows.length) :
    v.cutPage rows = .error v.miscount := by
  rw [cutPage, pageBounds_of_not_fits h]
  rfl

/-- **The rows of a page are cut out exactly if it starts and ends at a word**, and are the right
ones. -/
theorem cutPage_eq : v.cutPage rows =
    if v.PageFits rows.length then .ok (v.pageOf rows) else .error v.miscount := by
  split
  · next hfit => exact cutPage_of_fits hfit
  · next hfit => exact cutPage_of_not_fits hfit

theorem countFillers_of_fit (h : v.FillersFit) : v.countFillers total = .ok (v.fillers total) := by
  unfold countFillers fillers
  split
  · rfl
  · next hlater =>
    have hstop := h.resolve_left hlater
    simp only [Word.add_of_lt (succ_lt_size hstop), Word.mul_of_lt hstop, bind, Except.bind]
    rfl

/-- **The missing rows are counted exactly if a full page would end at a word.** -/
theorem countFillers_eq : v.countFillers total =
    if v.FillersFit then .ok (v.fillers total)
    else .error (if v.page + 1 < Word.size then .multiplying else .adding) := by
  split
  · next hfit => exact countFillers_of_fit hfit
  · next hfit =>
    obtain ⟨hlater, hstop⟩ := not_or.mp hfit
    unfold countFillers
    rw [if_neg hlater]
    by_cases hnext : v.page + 1 < Word.size
    · simp only [Word.add_of_lt hnext, Word.mul_of_ge (Nat.not_lt.mp hstop), if_pos hnext, bind,
        Except.bind]
    · simp only [Word.add_of_ge (Nat.not_lt.mp hnext), if_neg hnext, bind, Except.bind]

end Viewport

/-! ## The foot -/

namespace Footer

variable {C : Type} {page pageSize total : Nat}

/-- The foot of a page of `total` rows. -/
def ofPage (page pageSize total : Nat) : Footer where
  range :=
    if total = 0 then none else some (page * pageSize + 1, min (page * pageSize + pageSize) total)
  total
  isFirst := page = 0
  isLast := total ≤ (page + 1) * pageSize

/-- The foot of what is seen of `total` rows. -/
def ofView (v : Viewport C) (total : Nat) : Footer := ofPage v.page v.pageSize total

theorem countRange_of_room (hroom : page * pageSize + 1 + pageSize < Word.size) :
    countRange page pageSize total = .ok (ofPage page pageSize total).range := by
  unfold countRange ofPage
  by_cases htotal : total = 0
  · simp only [if_pos htotal]
  · have hstart : page * pageSize < Word.size := by omega
    have hfirst : page * pageSize + 1 < Word.size := by omega
    have hlast : page * pageSize + 1 + pageSize - 1 = page * pageSize + pageSize := by omega
    simp only [if_neg htotal, Word.mul_of_lt hstart, Word.add_of_lt hfirst, Word.add_of_lt hroom,
      Word.sub_of_le (Nat.le_add_right_of_le (Nat.le_add_left 1 _)), hlast, bind, Except.bind]
    rfl

/-- The foot of a page can be counted if there is a word behind its end. -/
theorem countPage_of_room (hsize : 0 < pageSize)
    (hroom : page * pageSize + 1 + pageSize < Word.size) :
    countPage page pageSize total = .ok (ofPage page pageSize total) := by
  have hstop : (page + 1) * pageSize < Word.size := by
    rw [Nat.succ_mul]
    omega
  have hnext : page + 1 < Word.size :=
    Nat.lt_of_le_of_lt (Nat.le_mul_of_pos_right _ hsize) hstop
  rw [countPage, countRange_of_room hroom]
  simp only [Word.add_of_lt hnext, Word.mul_of_lt hstop, bind, Except.bind]
  rfl

end Footer

/-! ## Operations -/

namespace Operation

variable {R : Type} [Record R]

/-- **What can be done to a list is done**, unless the page has to be counted and cannot be. -/
theorem attempt_eq (now : Instant) (l : Listing R) (op : Operation R) :
    op.attempt now l =
      if op.countsPage = true → l.view.PageFits (l.visible now).length then .ok (op.run now l)
      else .error l.view.miscount := by
  unfold attempt count
  by_cases hcounts : op.countsPage = true
  · rw [if_pos hcounts, Listing.cutPage, Viewport.cutPage_eq]
    simp only [imp_iff_right hcounts]
    split <;> rfl
  · rw [if_neg hcounts, if_pos fun h => absurd h hcounts]
    rfl

end Operation

end WalletConsole
