import Mathlib
import WalletConsole.Proofs.Listing.Partition

/-!
# The foot tells the truth

The foot of a table counts the rows of the page, and finds out whether there are pages before and
after, by formulas of its own. They agree with the pages that there are: the foot names the first
and the last row of the page, and its buttons can be pressed as long as they lead to a page that
exists. So a user who presses them sees pages that exist, and can see every row.

* `Footer.Tells` — what the foot says is true of the page
* `Viewport.press`, `Viewport.CanPress` — a button that can be pressed
* `Viewport.pressAll_lt`, `Viewport.turns_to` — buttons that can be pressed lead to pages that exist,
  and to each of them
* `foot_tells_truth` — all of this, for every table
-/

namespace WalletConsole

/-! ## What the foot says -/

section Tells

variable {C α : Type} {v : Viewport C} {rows : List α} {total : Nat}

/-- What is left of a list between two positions starts and ends there. -/
theorem ends_between {first last : Nat} (hfirst : first < last) (hlast : last ≤ rows.length) :
    ((rows.take last).drop first).head? = rows[first]? ∧
      ((rows.take last).drop first).getLast? = rows[last - 1]? ∧
      ((rows.take last).drop first).length = last - first := by
  have hlength : (rows.take last).length = last := by
    rw [List.length_take]
    omega
  refine ⟨?_, ?_, ?_⟩
  · rw [List.head?_drop, List.getElem?_take_of_lt hfirst]
  · rw [List.getLast?_drop, if_neg (by omega), List.getLast?_take, if_neg (by omega),
      List.getElem?_eq_getElem (by omega), Option.some_or]
  · rw [List.length_drop, hlength]

namespace Viewport

/-- With room for the page after the next, the page ends at a word. -/
theorem stop_of_room (hroom : (v.page + 2) * v.pageSize < Word.size) :
    (v.page + 1) * v.pageSize < Word.size :=
  Nat.lt_of_le_of_lt (Nat.mul_le_mul_right _ (Nat.le_succ _)) hroom

/-- The rows of a page are those between where it starts and where it ends. -/
theorem pageOf_eq_between : v.pageOf rows =
    (rows.take (min (v.page * v.pageSize + v.pageSize) rows.length)).drop
      (v.page * v.pageSize) := by
  rw [pageOf, List.drop_take, List.take_eq_take_iff, List.length_drop]
  omega

end Viewport

namespace Footer

/-- With room for the page after the next, the foot can be counted. -/
theorem countView_of_room (hroom : (v.page + 2) * v.pageSize < Word.size) :
    countView v total = .ok (ofView v total) := by
  have hpos := v.pageSize_pos
  rw [Nat.add_mul] at hroom
  exact countPage_of_room hpos (by omega)

/-- The positions of the rows on a page, counted from 1. -/
theorem range_ofView (htotal : total ≠ 0) : (ofView v total).range =
    some (v.page * v.pageSize + 1, min (v.page * v.pageSize + v.pageSize) total) :=
  if_neg htotal

theorem text_of_range {f : Footer} {first last : Nat} (h : f.range = some (first, last)) :
    f.text = toString first ++ "–" ++ toString last ++ " of " ++ toString f.total := by
  simp only [text, h]

/-- The button to the next page can be pressed exactly if there is one. -/
theorem isEnabled_after_iff :
    (ofView v total).isEnabled .after = true ↔ v.page + 1 < v.pageCount total := by
  have hrow : (ofView v total).isLast = false ↔ (v.page + 1) * v.pageSize < total :=
    isLast_eq_false_iff
  rw [v.page_lt_pageCount_iff, or_iff_right (Nat.succ_ne_zero _), ← hrow]
  exact Iff.of_eq (Bool.not_eq_true' _)

theorem isEnabled_before_iff : (ofView v total).isEnabled .before = true ↔ 0 < v.page := by
  have hlater : (ofView v total).isFirst = false ↔ 0 < v.page := isFirst_eq_false_iff
  rw [← hlater]
  exact Iff.of_eq (Bool.not_eq_true' _)

/-- What the foot says is true of the page. -/
structure Tells (v : Viewport C) (rows : List α) : Prop where
  /-- the page holds precisely the rows from the first position to the last -/
  range : rows ≠ [] → ∃ first last, (ofView v rows.length).range = some (first, last) ∧
    (ofView v rows.length).text =
      toString first ++ "–" ++ toString last ++ " of " ++ toString rows.length ∧
    0 < first ∧ first ≤ last ∧ last ≤ rows.length ∧
    v.pageOf rows = (rows.take last).drop (first - 1) ∧
    (v.pageOf rows).head? = rows[first - 1]? ∧ (v.pageOf rows).getLast? = rows[last - 1]? ∧
    (v.pageOf rows).length = last - first + 1
  /-- and its rows are counted right, as is the foot itself -/
  counted : v.cutPage rows = .ok (v.pageOf rows)
  countedFoot : countView v rows.length = .ok (ofView v rows.length)
  /-- no button leads behind the last page or before the first -/
  after : (ofView v rows.length).isEnabled .after = false ↔ v.page = v.pageCount rows.length - 1
  before : (ofView v rows.length).isEnabled .before = false ↔ v.page = 0

theorem tells (hpage : v.page < v.pageCount rows.length)
    (hroom : (v.page + 2) * v.pageSize < Word.size) : Tells v rows where
  range hrows := by
    have hpos := v.pageSize_pos
    have hlength : 0 < rows.length := List.length_pos_iff.mpr hrows
    have hstart := Viewport.start_lt hlength hpage
    have hrange := range_ofView (v := v) hlength.ne'
    have hlt : v.page * v.pageSize < min (v.page * v.pageSize + v.pageSize) rows.length := by omega
    have hbetween : v.pageOf rows = _ := Viewport.pageOf_eq_between
    obtain ⟨hhead, hlast, hcount⟩ := ends_between hlt (Nat.min_le_right _ _)
    rw [← hbetween] at hhead hlast hcount
    exact ⟨v.page * v.pageSize + 1, min (v.page * v.pageSize + v.pageSize) rows.length, hrange,
      text_of_range hrange, by omega, by omega, by omega, hbetween, hhead, hlast, by omega⟩
  counted := Viewport.cutPage_of_fits
    (Viewport.pageFits_of_stop (v := v) (Viewport.stop_of_room hroom))
  countedFoot := countView_of_room hroom
  after := by
    rw [← Bool.not_eq_true, isEnabled_after_iff]
    omega
  before := by
    rw [← Bool.not_eq_true, isEnabled_before_iff]
    omega

end Footer

end Tells

/-! ## Pressing the buttons -/

namespace Viewport

variable {C α : Type} {v : Viewport C} {rows : List α} {total : Nat} {button : Footer.Button}
  {buttons : List Footer.Button}

/-- The table after a button below it was pressed. -/
def press (v : Viewport C) (button : Footer.Button) : Viewport C := v.goTo (button.leadsTo v.page)

/-- The table after some buttons were pressed, one after the other. -/
def pressAll (v : Viewport C) (buttons : List Footer.Button) : Viewport C := buttons.foldl press v

/-- A button can be pressed, and there is room in the words for the page after the next. -/
def CanPress (total : Nat) (v : Viewport C) (button : Footer.Button) : Prop :=
  (Footer.ofView v total).isEnabled button = true ∧ (v.page + 2) * v.pageSize < Word.size

instance (total : Nat) (v : Viewport C) (button : Footer.Button) :
    Decidable (v.CanPress total button) := inferInstanceAs (Decidable (_ ∧ _))

/-- A button that can be pressed leads to a page that exists. -/
theorem press_lt (hpress : v.CanPress total button) (hpage : v.page < v.pageCount total) :
    (v.press button).page < (v.press button).pageCount total := by
  cases button with
  | before => exact Nat.lt_of_le_of_lt (Nat.sub_le _ _) hpage
  | after => exact Footer.isEnabled_after_iff.mp hpress.1

/-- So do buttons that are pressed one after the other. -/
theorem pressAll_lt (hpresses : Along press (CanPress total) v buttons)
    (hpage : v.page < v.pageCount total) :
    (v.pressAll buttons).page < (v.pressAll buttons).pageCount total :=
  Along.keeps (fun w => w.page < w.pageCount total) (fun _ _ => press_lt) hpresses hpage

/-- A page that exists is turned to by going on from the first. -/
theorem turns_to {page : Nat} (hpage : page < v.pageCount total)
    (hstop : (page + 1) * v.pageSize < Word.size) :
    Along press (CanPress total) (v.goTo 0) (List.replicate page .after) ∧
      (v.goTo 0).pressAll (List.replicate page .after) = v.goTo page := by
  induction page with
  | zero => exact ⟨trivial, rfl⟩
  | succ page ih =>
    have hroom : ((v.goTo page).page + 2) * (v.goTo page).pageSize < Word.size := hstop
    have henabled : (Footer.ofView (v.goTo page) total).isEnabled .after = true :=
      Footer.isEnabled_after_iff.mpr hpage
    obtain ⟨halong, hturned⟩ := ih (Nat.lt_of_succ_lt hpage) (stop_of_room hroom)
    unfold pressAll at hturned ⊢
    rw [List.replicate_succ', List.foldl_append, Along.append, hturned]
    exact ⟨⟨halong, ⟨henabled, hroom⟩, trivial⟩, rfl⟩

/-- Every row is found on a page that can be turned to. -/
theorem exists_presses {i : Nat} (hi : i < rows.length)
    (hroom : (i / v.pageSize + 2) * v.pageSize < Word.size) :
    ∃ buttons, Along press (CanPress rows.length) (v.goTo 0) buttons ∧
      ((v.goTo 0).pressAll buttons).page = i / v.pageSize ∧
      (((v.goTo 0).pressAll buttons).pageOf rows)[i % v.pageSize]? = rows[i]? := by
  have hstop : (i / v.pageSize + 1) * v.pageSize < Word.size :=
    stop_of_room (v := v.goTo (i / v.pageSize)) hroom
  have hstart : i / v.pageSize * v.pageSize ≤ i := Nat.div_mul_le_self i v.pageSize
  have hpage : i / v.pageSize < v.pageCount rows.length :=
    v.page_lt_pageCount_iff.mpr (.inr (by omega))
  obtain ⟨halong, hturned⟩ := turns_to hpage hstop
  refine ⟨List.replicate (i / v.pageSize) .after, halong, ?_⟩
  rw [hturned]
  refine ⟨rfl, ?_⟩
  show ((rows.drop (i / v.pageSize * v.pageSize)).take v.pageSize)[i % v.pageSize]? = rows[i]?
  rw [List.getElem?_take_of_lt (Nat.mod_lt i v.pageSize_pos), List.getElem?_drop,
    Nat.div_add_mod']

/-- What is true of the foot of a table, whichever page is shown. -/
structure FootIsTrue (rows : List α) (v : Viewport C) : Prop where
  tells : ∀ page, page < v.pageCount rows.length → (page + 2) * v.pageSize < Word.size →
    Footer.Tells (v.goTo page) rows
  /-- buttons that can be pressed, from the first page on, pass through pages that exist -/
  inRange : ∀ buttons, Along press (CanPress rows.length) (v.goTo 0) buttons →
    ∀ pressed, pressed <+: buttons →
      ((v.goTo 0).pressAll pressed).page < ((v.goTo 0).pressAll pressed).pageCount rows.length
  /-- and lead to every row -/
  reaches : ∀ i, i < rows.length → (i / v.pageSize + 2) * v.pageSize < Word.size →
    ∃ buttons, Along press (CanPress rows.length) (v.goTo 0) buttons ∧
      ((v.goTo 0).pressAll buttons).page = i / v.pageSize ∧
      (((v.goTo 0).pressAll buttons).pageOf rows)[i % v.pageSize]? = rows[i]?

end Viewport

/--
**The foot of a table tells the truth.** On every page that exists, as long as the page after the
next ends at a word, it names the positions of the first and the last row of the page, and its
buttons can be pressed exactly if they lead to a page that exists. Whoever presses them from the
first page on sees pages that exist, and can see every row.
-/
theorem foot_tells_truth {C α : Type} (v : Viewport C) (rows : List α) : v.FootIsTrue rows where
  tells _ hpage hroom := Footer.tells hpage hroom
  inRange buttons hpresses pressed hpressed := by
    obtain ⟨later, rfl⟩ := hpressed
    exact Viewport.pressAll_lt (Along.append.mp hpresses).1 ((v.goTo 0).pageCount_pos rows.length)
  reaches _ := Viewport.exists_presses

/-- On and on and back again, through seven rows. -/
theorem foot_tells_truth_of_seven :
    Footer.Tells (pagesOfThree.goTo 2) sevenRows ∧
      (Footer.ofView (pagesOfThree.goTo 2) 7).text = "7–7 of 7" ∧
      Along Viewport.press (Viewport.CanPress 7) (pagesOfThree.goTo 0) [.after, .after, .before] ∧
      ((pagesOfThree.goTo 0).pressAll [.after, .after]).page <
        ((pagesOfThree.goTo 0).pressAll [.after, .after]).pageCount 7 := by
  have htrue := foot_tells_truth pagesOfThree sevenRows
  have hpresses : Along Viewport.press (Viewport.CanPress 7) (pagesOfThree.goTo 0)
      [.after, .after, .before] := by decide
  exact ⟨htrue.tells 2 (by decide) (by decide), by cbv, hpresses,
    htrue.inRange _ hpresses _ (by decide)⟩

end WalletConsole
