import Mathlib
import WalletConsole.Proofs.Listing.Paging

/-!
# Pages of every table

Whatever is done to a table, its pages can be counted. The rows of the page can be counted, and
those that are missing on it, exactly if the page starts and ends at a word. Every page that exists
does. A page that was left behind when larger pages were taken over need not.

* `Viewport.Change` — whatever is done to a table
* `Viewport.InWords.afterAll` — page and page size stay words
* `Viewport.CountedInWords`, `pages_counted_in_words` — what counting in words comes to, in every
  state of a table
-/

namespace WalletConsole

namespace Viewport

variable {C α : Type} {v : Viewport C}

/-! ## Whatever is done to a table -/

/-- Something that is done to a table. -/
inductive Change (C : Type) where
  | sortBy (column : C)
  | flipRow (id : String)
  | select (checked : Bool) (ids : List String)
  | goTo (page : Nat)
  | resize (pageSize : Nat)
  | setDense (dense : Bool)
  | adopt (preferences : Preferences)
  | afterDelete (onPage : Nat)
  | afterDeleteSelected (onPage total : Nat)
  | keepSelected (ids : List String)
  | backInRange (total : Nat)

/-- The table after something is done to it. -/
def Change.next [DecidableEq C] (v : Viewport C) : Change C → Viewport C
  | sortBy column => v.sortBy column
  | flipRow id => v.flipRow id
  | select checked ids => v.select checked ids
  | goTo page => v.goTo page
  | resize pageSize => v.resize pageSize
  | setDense dense => v.setDense dense
  | adopt preferences => v.adopt preferences
  | afterDelete onPage => v.afterDelete onPage
  | afterDeleteSelected onPage total => v.afterDeleteSelected onPage total
  | keepSelected ids => v.keepSelected ids
  | backInRange total => v.backInRange total

/-- The numbers that a change is given are words. -/
def Change.IsInWords : Change C → Prop
  | goTo page => page < Word.size
  | resize pageSize => pageSize < Word.size
  | afterDelete onPage => onPage < Word.size
  | afterDeleteSelected onPage total => onPage < Word.size ∧ total < Word.size
  | backInRange total => total < Word.size
  | _ => True

instance : (change : Change C) → Decidable change.IsInWords
  | .goTo _ | .resize _ | .afterDelete _ | .backInRange _ => inferInstanceAs (Decidable (_ < _))
  | .afterDeleteSelected _ _ => inferInstanceAs (Decidable (_ ∧ _))
  | .sortBy _ | .flipRow _ | .select _ _ | .setDense _ | .adopt _ | .keepSelected _ =>
    instDecidableTrue

/-- A table after a number of changes. -/
def afterAll [DecidableEq C] (v : Viewport C) (changes : List (Change C)) : Viewport C :=
  changes.foldl Change.next v

/-- Page and page size are words. -/
structure InWords (v : Viewport C) : Prop where
  page : v.page < Word.size
  pageSize : v.pageSize < Word.size

theorem pageCount_le (v : Viewport C) (total : Nat) : v.pageCount total ≤ max 1 total := by
  by_contra hmore
  have hlt : max 1 total < v.pageCount total := Nat.lt_of_not_le hmore
  have hrow := (v.page_lt_pageCount_iff.mp hlt).resolve_left (by omega)
  have hrows : max 1 total ≤ max 1 total * v.pageSize := Nat.le_mul_of_pos_right _ v.pageSize_pos
  omega

theorem inWords_ofOptions {o : ViewOptions C} (h : o.pageSize < Word.size) :
    (ofOptions o).InWords :=
  ⟨Word.size_pos, Nat.max_lt.mpr ⟨by decide, h⟩⟩

theorem InWords.next [DecidableEq C] {change : Change C} (hchange : change.IsInWords)
    (h : v.InWords) : (change.next v).InWords := by
  cases change with
  | sortBy column =>
    exact ⟨(sortBy_page column v).symm ▸ h.page, (sortBy_pageSize column v).symm ▸ h.pageSize⟩
  | goTo page => exact ⟨hchange, h.pageSize⟩
  | resize pageSize => exact ⟨Word.size_pos, Nat.max_lt.mpr ⟨by decide, hchange⟩⟩
  | adopt preferences =>
    exact ⟨h.page, Nat.max_lt.mpr ⟨by decide, preferences.pageSize.toNat_lt_size⟩⟩
  | afterDelete onPage =>
    refine ⟨?_, h.pageSize⟩
    have hpage := h.page
    simp only [Change.next, afterDelete]
    split <;> omega
  | afterDeleteSelected onPage total =>
    refine ⟨?_, h.pageSize⟩
    have hpage := h.page
    have htotal := hchange.2
    have hcount := v.pageCount_le (total - v.selected.length)
    simp only [Change.next, afterDeleteSelected_page]
    -- the last page of what is left comes before the number of rows
    repeat' split
    all_goals omega
  | backInRange total => exact ⟨Nat.lt_of_le_of_lt (Nat.min_le_left _ _) h.page, h.pageSize⟩
  | flipRow | select | setDense | keepSelected => exact ⟨h.page, h.pageSize⟩

theorem InWords.afterAll [DecidableEq C] {changes : List (Change C)}
    (hchanges : ∀ change ∈ changes, change.IsInWords) (h : v.InWords) :
    (v.afterAll changes).InWords := by
  induction changes generalizing v with
  | nil => exact h
  | cons change changes ih =>
    have hnext : (change.next v).InWords := h.next (hchanges change List.mem_cons_self)
    exact ih (fun c hc => hchanges c (List.mem_cons_of_mem _ hc)) hnext

/-! ## What counting in words comes to -/

/-- What it comes to when the pages of a table are counted in words. -/
structure CountedInWords (rows : List α) (total : Nat) (v : Viewport C) : Prop where
  /-- the pages can always be counted -/
  countPages : v.countPages total = .ok (v.pageCount total)
  clamp : v.clamp total = .ok (v.backInRange total)
  /-- the rows of the page can be counted exactly if it starts and ends at a word -/
  cutPage : v.cutPage rows =
    if v.PageFits rows.length then .ok (v.pageOf rows)
    else .error (if v.page * v.pageSize < Word.size then .adding else .multiplying)
  /-- it never ends before it starts, or behind the rows -/
  within : ∀ first last, v.pageBounds total = .ok (first, last) → first ≤ last ∧ last ≤ total
  /-- the missing rows can be counted exactly if a full page would end at a word -/
  countFillers : v.countFillers total =
    if v.FillersFit then .ok (v.fillers total)
    else .error (if v.page + 1 < Word.size then .multiplying else .adding)
  /-- both is so on every page that exists -/
  existing : v.page < v.pageCount total → total ≤ Word.size / 2 → v.PageFits total ∧ v.FillersFit

theorem InWords.counted (h : v.InWords) (rows : List α) {total : Nat} (htotal : total < Word.size) :
    v.CountedInWords rows total where
  countPages := countPages_eq htotal
  clamp := clamp_eq htotal
  cutPage := cutPage_eq
  within _ _ := pageBounds_within
  countFillers := countFillers_eq
  existing hpage hhalf := fits_of_lt_pageCount hpage h.pageSize hhalf

end Viewport

/--
**Pages are counted exactly as long as they end at a word.** In every state of a table, the number
of pages and the way back to the last one can be counted for every number of rows. The rows of the
page, and those that are missing on it, can be counted exactly if the page starts and ends at a
word, and then they are the right ones; else counting fails. It does not fail on any page that
exists.
-/
theorem pages_counted_in_words {C α : Type} [DecidableEq C] (o : ViewOptions C)
    (changes : List (Viewport.Change C)) (rows : List α) (total : Nat)
    (hstart : o.pageSize < Word.size) (hchanges : ∀ change ∈ changes, change.IsInWords)
    (htotal : total < Word.size) :
    ((Viewport.ofOptions o).afterAll changes).CountedInWords rows total :=
  ((Viewport.inWords_ofOptions hstart).afterAll hchanges).counted rows htotal

/-- A list of transactions, one on a page. -/
def thinPages : ViewOptions TransactionColumn := { sortColumn := .createdAt, pageSize := 1 }

/-- The third page is shown, of two transactions each. -/
def thirdOfPairs : List (Viewport.Change TransactionColumn) :=
  [.goTo 7, .afterDelete 1, .resize 2, .goTo 2, .adopt ⟨2, true⟩]

theorem pages_counted_in_words_up_to_third :
    (∀ change ∈ thirdOfPairs, change.IsInWords) ∧
      ((Viewport.ofOptions thinPages).afterAll thirdOfPairs).cutPage [1, 2, 3, 4, 5] = .ok [5] ∧
      ((Viewport.ofOptions thinPages).afterAll thirdOfPairs).countFillers 5 = .ok 1 := by
  have hwords : ∀ change ∈ thirdOfPairs, change.IsInWords := by decide
  have h := pages_counted_in_words thinPages thirdOfPairs [1, 2, 3, 4, 5] 5 (by decide) hwords
    (by decide)
  exact ⟨hwords, h.cutPage.trans (by decide), h.countFillers.trans (by decide)⟩

/-- The third page is shown when pages are taken over that hold half of the words each. -/
def halfOfWords : List (Viewport.Change TransactionColumn) :=
  [.goTo 2, .adopt ⟨9223372036854775808, false⟩]

/-- The second page is shown when pages are taken over that hold all words but one. -/
def mostWords : List (Viewport.Change TransactionColumn) :=
  [.goTo 1, .adopt ⟨18446744073709551615, false⟩]

/-- A page behind all rows is empty, but it cannot be counted. -/
theorem pages_too_far_to_count :
    (∀ change ∈ halfOfWords ++ mostWords, change.IsInWords) ∧
      ((Viewport.ofOptions thinPages).afterAll halfOfWords).pageOf [1, 2, 3] = [] ∧
      ((Viewport.ofOptions thinPages).afterAll halfOfWords).cutPage [1, 2, 3] =
        .error .multiplying ∧
      ((Viewport.ofOptions thinPages).afterAll halfOfWords).countFillers 3 = .error .multiplying ∧
      ((Viewport.ofOptions thinPages).afterAll mostWords).pageOf [1, 2, 3] = [] ∧
      ((Viewport.ofOptions thinPages).afterAll mostWords).cutPage [1, 2, 3] = .error .adding :=
  ⟨by decide, by decide, by decide, by decide, by decide, by decide⟩

end WalletConsole
