import Mathlib
import WalletConsole.Proofs.Listing.PageArithmetic

/-!
# The pages make up the list

The number of pages, the rows of a page and the rows that are missing on it are three computations
of their own. Together they cut a list into pages: every row is on one page, in its old place, and
all pages are full but the last, which is filled up.

* `flatMap_windows` — windows of one width, one after the other, are what stands before the next
* `Viewport.pageFits_of_stop`, `Viewport.pageFits_of_room` — pages that can be counted
* `Viewport.CutsUp`, `pages_make_up_list` — the pages make up the list
-/

namespace WalletConsole

/-- Windows of one width, one after the other, are what stands before the next. -/
theorem flatMap_windows {α : Type} (rows : List α) (width count : Nat) :
    ((List.range count).flatMap fun i => (rows.drop (i * width)).take width) =
      rows.take (count * width) := by
  induction count with
  | zero => rw [List.range_zero, List.flatMap_nil, Nat.zero_mul, List.take_zero]
  | succ count ih =>
    rw [List.range_succ, List.flatMap_append, ih, List.flatMap_singleton, Nat.succ_mul,
      List.take_add]

namespace Viewport

variable {C α : Type} {v : Viewport C} {rows : List α} {page : Nat}

/-- There is a place on the pages for every row. -/
theorem le_pageCount_mul (v : Viewport C) (total : Nat) :
    total ≤ v.pageCount total * v.pageSize := by
  have hlast := v.page_lt_pageCount_iff.not.mp (Nat.lt_irrefl (v.pageCount total))
  omega

/-- A page whose end is a word can be counted in every list. -/
theorem pageFits_of_stop {total : Nat} (hstop : (page + 1) * v.pageSize < Word.size) :
    (v.goTo page).PageFits total := by
  rw [Nat.succ_mul] at hstop
  exact ⟨show page * v.pageSize < Word.size by omega,
    show min (page * v.pageSize) total + v.pageSize < Word.size by omega⟩

/-- A page that starts at a word can be counted if there is room for it behind the rows. -/
theorem pageFits_of_room {total : Nat} (hstart : page * v.pageSize < Word.size)
    (hroom : total + v.pageSize < Word.size) : (v.goTo page).PageFits total :=
  ⟨hstart, show min (page * v.pageSize) total + v.pageSize < Word.size by omega⟩

theorem length_pageOf_goTo :
    ((v.goTo page).pageOf rows).length = min v.pageSize (rows.length - page * v.pageSize) := by
  simp only [pageOf, goTo, List.length_take, List.length_drop]

/-! ## The pages that there are -/

/-- Nothing is lost, repeated or moved. -/
theorem flatMap_pageOf : ((List.range (v.pageCount rows.length)).flatMap fun page =>
    (v.goTo page).pageOf rows) = rows := by
  have hwindows := flatMap_windows rows v.pageSize (v.pageCount rows.length)
  exact hwindows.trans (List.take_of_length_le (v.le_pageCount_mul rows.length))

/-- A page with a page behind it is full. -/
theorem length_pageOf_of_succ_lt (hpage : page + 1 < v.pageCount rows.length) :
    ((v.goTo page).pageOf rows).length = v.pageSize := by
  have hrows := (v.page_lt_pageCount_iff.mp hpage).resolve_left (Nat.succ_ne_zero page)
  rw [Nat.succ_mul] at hrows
  rw [length_pageOf_goTo]
  omega

/-- The rows of a page behind the first, and those that are missing on it, make up a full page. -/
theorem length_pageOf_add_fillers (hlater : 0 < page) (hpage : page < v.pageCount rows.length) :
    ((v.goTo page).pageOf rows).length + (v.goTo page).fillers rows.length = v.pageSize := by
  have hstart := (v.page_lt_pageCount_iff.mp hpage).resolve_left hlater.ne'
  have hfillers : (v.goTo page).fillers rows.length = (page + 1) * v.pageSize - rows.length :=
    if_neg hlater.ne'
  rw [length_pageOf_goTo, hfillers, Nat.succ_mul]
  omega

/-- A page behind the last one is empty. -/
theorem pageOf_behind (hpage : v.pageCount rows.length ≤ page) : (v.goTo page).pageOf rows = [] := by
  have hstart : rows.length ≤ page * v.pageSize :=
    Nat.le_trans (v.le_pageCount_mul rows.length) (Nat.mul_le_mul_right _ hpage)
  exact (congrArg (List.take v.pageSize) (List.drop_eq_nil_of_le hstart)).trans List.take_nil

/-- A page that exists ends at a word if the last one does. -/
theorem stop_lt_size {total : Nat} (hfits : v.pageCount total * v.pageSize < Word.size)
    (hpage : page < v.pageCount total) : (page + 1) * v.pageSize < Word.size :=
  Nat.lt_of_le_of_lt (Nat.mul_le_mul_right _ hpage) hfits

/-- What cutting a list into pages comes to. -/
structure CutsUp (rows : List α) (v : Viewport C) : Prop where
  /-- nothing is lost, repeated or moved -/
  whole : ((List.range (v.pageCount rows.length)).flatMap fun page => (v.goTo page).pageOf rows) =
    rows
  full : ∀ page, page + 1 < v.pageCount rows.length →
    ((v.goTo page).pageOf rows).length = v.pageSize
  last : rows ≠ [] → (v.goTo (v.pageCount rows.length - 1)).pageOf rows ≠ []
  behind : ∀ page, v.pageCount rows.length ≤ page → page * v.pageSize < Word.size →
    rows.length + v.pageSize < Word.size → (v.goTo page).cutPage rows = .ok [] ∧
      (v.goTo page).pageOf rows = []
  filled : ∀ page, 0 < page → page < v.pageCount rows.length →
    ((v.goTo page).pageOf rows).length + (v.goTo page).fillers rows.length = v.pageSize
  /-- and every page is counted right -/
  counted : ∀ page, page < v.pageCount rows.length →
    (v.goTo page).cutPage rows = .ok ((v.goTo page).pageOf rows) ∧
      (v.goTo page).countFillers rows.length = .ok ((v.goTo page).fillers rows.length)

end Viewport

/--
**The pages make up the list.** Where the end of the last page is a word, the pages in their order
are the list, all but the last are full, the last one shows something of what there is, later pages
are empty, and the rows that are missing fill up the last page.
-/
theorem pages_make_up_list {C α : Type} (v : Viewport C) (rows : List α)
    (hfits : v.pageCount rows.length * v.pageSize < Word.size) : v.CutsUp rows where
  whole := Viewport.flatMap_pageOf
  full _ := Viewport.length_pageOf_of_succ_lt
  last hrows := Viewport.pageOf_ne_nil hrows
    (Nat.sub_lt (v.pageCount_pos rows.length) Nat.one_pos)
  behind page hpage hstart hroom := by
    have hfit : (v.goTo page).PageFits rows.length := Viewport.pageFits_of_room hstart hroom
    have hnil : (v.goTo page).pageOf rows = [] := Viewport.pageOf_behind hpage
    exact ⟨(Viewport.cutPage_of_fits hfit).trans (congrArg Except.ok hnil), hnil⟩
  filled _ := Viewport.length_pageOf_add_fillers
  counted page hpage := by
    have hstop : (page + 1) * v.pageSize < Word.size := Viewport.stop_lt_size hfits hpage
    exact ⟨Viewport.cutPage_of_fits (Viewport.pageFits_of_stop hstop),
      Viewport.countFillers_of_fit (.inr hstop)⟩

/-- A list of transactions, three on a page. -/
def pagesOfThree : Viewport TransactionColumn := (Viewport.ofOptions thinPages).resize 3

/-- Two full pages of three, and a row on the third. -/
def sevenRows : List Nat := [1, 2, 3, 4, 5, 6, 7]

theorem pages_make_up_list_of_seven :
    pagesOfThree.pageCount sevenRows.length * pagesOfThree.pageSize < Word.size ∧
      ((pagesOfThree.goTo 2).pageOf sevenRows).length + (pagesOfThree.goTo 2).fillers 7 = 3 ∧
      (pagesOfThree.goTo 3).cutPage sevenRows = .ok [] := by
  have hfits : pagesOfThree.pageCount sevenRows.length * pagesOfThree.pageSize < Word.size := by
    decide
  have hcuts := pages_make_up_list pagesOfThree sevenRows hfits
  exact ⟨hfits, hcuts.filled 2 (by decide) (by decide),
    (hcuts.behind 3 (by decide) (by decide) (by decide)).1⟩

end WalletConsole
