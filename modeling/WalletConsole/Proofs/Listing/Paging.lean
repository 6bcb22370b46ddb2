import Mathlib
import WalletConsole.Proofs.Listing.Counting
import WalletConsole.Proofs.Listing.Operations

/-!
# The page

What is shown of a list is one of the pages there are, and so it shows something as long as there
is something to be seen. Only what was remembered of an earlier visit can spoil this: it brings
pages of another size and leaves the page where it is.

* `Viewport.lt_pageCount_iff` — there is a page if a row is left for it, and the first is always
  there
* `ShowsPage` — the page exists, and it is not empty unless nothing is to be seen
* `Turns` — the operations of a list whose pages are turned by the buttons below it
* `KeepsPage` — what is taken over leaves a row for the page
* `shows_page_iff` — a run always shows a page exactly if that is so
-/

namespace WalletConsole

open Calendar

/-! ## Pages of a table -/

namespace Viewport

variable {C : Type} {v : Viewport C} {total : Nat}

theorem lt_pageCount_iff :
    v.page < v.pageCount total ↔ v.page = 0 ∨ v.page * v.pageSize < total := by
  have hpos := v.pageSize_pos
  have hsucc : (v.page + 1) * v.pageSize = v.page * v.pageSize + v.pageSize := Nat.succ_mul _ _
  have hdiv : v.page < (total + v.pageSize - 1) / v.pageSize ↔ v.page * v.pageSize < total := by
    rw [Nat.lt_iff_add_one_le, Nat.le_div_iff_mul_le hpos, hsucc]
    omega
  unfold pageCount
  rw [← hdiv]
  omega

theorem page_lt_pageCount_iff (v : Viewport C) {page total : Nat} :
    page < v.pageCount total ↔ page = 0 ∨ page * v.pageSize < total :=
  lt_pageCount_iff (v := v.goTo page)

theorem pageCount_pos (v : Viewport C) (total : Nat) : 0 < v.pageCount total :=
  v.page_lt_pageCount_iff.mpr (.inl rfl)

theorem pageCount_mono (v : Viewport C) {m n : Nat} (h : m ≤ n) :
    v.pageCount m ≤ v.pageCount n := by
  have hdiv : (m + v.pageSize - 1) / v.pageSize ≤ (n + v.pageSize - 1) / v.pageSize :=
    Nat.div_le_div_right (by omega)
  unfold pageCount
  omega

/-- Where too many rows go, the page is the last one of what is left. -/
theorem afterDeleteSelected_page (v : Viewport C) (onPage total : Nat) :
    (v.afterDeleteSelected onPage total).page =
      if v.page = 0 then 0
      else if v.selected.length = onPage then v.page - 1
      else if v.selected.length = total then 0
      else if onPage < v.selected.length then v.pageCount (total - v.selected.length) - 1
      else v.page := by
  have hlast (n : Nat) : (n + v.pageSize - 1) / v.pageSize - 1 = v.pageCount n - 1 := by
    unfold pageCount
    omega
  unfold afterDeleteSelected
  simp only [hlast]

/-- Going back in range leads to a page that exists. -/
theorem backInRange_lt : (v.backInRange total).page < (v.backInRange total).pageCount total := by
  show min v.page (v.pageCount total - 1) < v.pageCount total
  have hpos := v.pageCount_pos total
  omega

/-- A page that exists starts with one of the rows there are. -/
theorem start_lt (htotal : 0 < total) (hpage : v.page < v.pageCount total) :
    v.page * v.pageSize < total := by
  rcases lt_pageCount_iff.mp hpage with hfirst | hrow
  · rw [hfirst, Nat.zero_mul]
    exact htotal
  · exact hrow

/-- Where rows take up half of the words at most, the end of a page that exists is a word. -/
theorem end_lt_size (hpage : v.page < v.pageCount total) (hsize : v.pageSize < Word.size)
    (hhalf : total ≤ Word.size / 2) : (v.page + 1) * v.pageSize < Word.size := by
  rw [Nat.succ_mul]
  by_cases hfirst : v.page = 0
  · rw [hfirst, Nat.zero_mul, Nat.zero_add]
    exact hsize
  · have hrow : v.page * v.pageSize < total := (lt_pageCount_iff.mp hpage).resolve_left hfirst
    -- the pages before this one are full
    have hfull : v.pageSize ≤ v.page * v.pageSize :=
      Nat.le_mul_of_pos_left _ (Nat.pos_of_ne_zero hfirst)
    omega

/-- Where rows take up half of the words at most, a page that exists can be counted. -/
theorem fits_of_lt_pageCount (hpage : v.page < v.pageCount total) (hsize : v.pageSize < Word.size)
    (hhalf : total ≤ Word.size / 2) : v.PageFits total ∧ v.FillersFit := by
  have hstop := end_lt_size hpage hsize hhalf
  rw [Nat.succ_mul] at hstop
  exact ⟨⟨by omega, by omega⟩, .inr (by rwa [Nat.succ_mul])⟩

/-- A page that exists shows something of what there is. -/
theorem pageOf_ne_nil {α : Type} {rows : List α} (hrows : rows ≠ [])
    (hpage : v.page < v.pageCount rows.length) : v.pageOf rows ≠ [] := by
  have hpos := v.pageSize_pos
  have hstart : v.page * v.pageSize < rows.length :=
    start_lt (List.length_pos_iff.mpr hrows) hpage
  apply List.ne_nil_of_length_pos
  rw [pageOf, List.length_take, List.length_drop]
  omega

end Viewport

/-! ## The buttons -/

namespace Footer

variable {C : Type} {v : Viewport C} {total : Nat}

/-- There is a page before exactly if the button to it can be pressed. -/
theorem isFirst_eq_false_iff : (ofView v total).isFirst = false ↔ 0 < v.page := by
  simp [ofView, ofPage, Nat.pos_iff_ne_zero]

/-- There is a row after the page exactly if the button to the next can be pressed. -/
theorem isLast_eq_false_iff :
    (ofView v total).isLast = false ↔ (v.page + 1) * v.pageSize < total := by
  simp [ofView, ofPage]

end Footer

/-! ## The page of a list -/

variable {R : Type} [Record R] {now : Instant} {l : Listing R}

/-- Is there a page such as the one that is shown? -/
def Listing.PageExists (now : Instant) (l : Listing R) : Prop :=
  l.view.page < l.view.pageCount (l.visible now).length

instance (now : Instant) (l : Listing R) : Decidable (l.PageExists now) :=
  inferInstanceAs (Decidable (_ < _))

/-- The page exists, its rows can be counted, and it is not empty unless nothing is to be seen. -/
structure ShowsPage (now : Instant) (l : Listing R) : Prop where
  pageExists : l.PageExists now
  counted : l.cutPage now = .ok (l.onPage now)
  notEmpty : l.visible now ≠ [] → l.onPage now ≠ []

/-- A page can be counted in words, and all rows in half of them. -/
structure Listing.FitsWords (l : Listing R) : Prop where
  pageSize : l.view.pageSize < Word.size
  rows : l.replica.rows.length ≤ Word.size / 2

/-- The foot of a list. -/
def Listing.footer (now : Instant) (l : Listing R) : Footer :=
  .ofView l.view (l.visible now).length

/--
What is done to a list: pages are turned by the buttons that can be pressed, and no rows are taken
away without a word to the view. Page sizes are words, and rows fit in memory.
-/
def Turns (now : Instant) (l : Listing R) : Operation R → Prop
  | .goTo page =>
    ((l.footer now).isFirst = false ∧ l.view.page = page + 1) ∨
      ((l.footer now).isLast = false ∧ page = l.view.page + 1)
  | .resize pageSize => pageSize < Word.size
  | .receive rows | .endRefresh (.ok rows) => rows.length ≤ Word.size / 2
  | .dropRows _ => False
  | _ => True

/-- What was remembered leaves a row for the page that is shown, unless that is the first. -/
def KeepsPage (now : Instant) (l : Listing R) : Operation R → Prop
  | .adopt preferences =>
    l.view.page = 0 ∨ l.view.page * max 1 preferences.pageSize.toNat < (l.visible now).length
  | _ => True

instance (now : Instant) (l : Listing R) : (op : Operation R) → Decidable (Turns now l op)
  | .goTo _ => inferInstanceAs (Decidable ((_ = _ ∧ _ = _) ∨ (_ = _ ∧ _ = _)))
  | .resize _ => inferInstanceAs (Decidable (_ < _))
  | .receive _ | .endRefresh (.ok _) => inferInstanceAs (Decidable (_ ≤ _))
  | .dropRows _ => instDecidableFalse
  | .setKeyword _ | .setStatus _ | .flipLedger _ | .setEarliest _ | .setLatest _
  | .pickEarliest _ | .pickLatest _ | .takeAllOff | .takeOff _ | .sortBy _ | .flipRow _
  | .selectVisible _ | .setDense _ | .adopt _ | .askRow _ | .askSelected | .decline | .accept
  | .close | .forgetRow _ | .forgetRows _ | .startRefresh | .failRefresh | .endRefresh (.error _) =>
    instDecidableTrue

instance (now : Instant) (l : Listing R) : (op : Operation R) → Decidable (KeepsPage now l op)
  | .adopt _ => inferInstanceAs (Decidable (_ = _ ∨ _ < _))
  | .setKeyword _ | .setStatus _ | .flipLedger _ | .setEarliest _ | .setLatest _
  | .pickEarliest _ | .pickLatest _ | .takeAllOff | .takeOff _ | .sortBy _ | .flipRow _
  | .selectVisible _ | .goTo _ | .resize _ | .setDense _ | .askRow _ | .askSelected | .decline
  | .accept | .close | .forgetRow _ | .forgetRows _ | .dropRows _ | .startRefresh | .failRefresh
  | .receive _ | .endRefresh _ => instDecidableTrue

theorem Listing.visible_length_le : (l.visible now).length ≤ l.replica.rows.length := by
  unfold Listing.visible
  rw [(narrow_perm _ _ _ _ _).length_eq]
  exact List.length_filter_le _ _

/-- A page that exists can be counted. -/
theorem Listing.PageExists.pageFits (h : l.PageExists now) (hfits : l.FitsWords) :
    l.view.PageFits (l.visible now).length :=
  (Viewport.fits_of_lt_pageCount h hfits.pageSize
    (Nat.le_trans Listing.visible_length_le hfits.rows)).1

theorem Listing.PageExists.showsPage (h : l.PageExists now) (hfits : l.FitsWords) :
    ShowsPage now l where
  pageExists := h
  counted := Viewport.cutPage_of_fits (h.pageFits hfits)
  notEmpty hrows := Viewport.pageOf_ne_nil hrows h

/-- Whatever is done to a list whose page exists, no counting fails on the way. -/
theorem Listing.PageExists.attempt_eq (h : l.PageExists now) (hfits : l.FitsWords)
    (op : Operation R) : op.attempt now l = .ok (op.run now l) := by
  rw [Operation.attempt_eq, if_pos fun _ => h.pageFits hfits]

/-- Settling leads to a page that exists, whatever was shown before. -/
theorem Listing.pageExists_settle : (l.settle now).PageExists now := by
  show (l.settle now).view.page < (l.settle now).view.pageCount (l.visible now).length
  rw [← Listing.visibleIds_length]
  exact Viewport.backInRange_lt

/-- Where rows and criteria stay, a page of the same place and size still exists. -/
theorem Listing.PageExists.of_eq {l' : Listing R} (h : l.PageExists now)
    (hrows : l'.replica.rows = l.replica.rows) (hcriteria : l'.criteria = l.criteria)
    (hpage : l'.view.page = l.view.page) (hsize : l'.view.pageSize = l.view.pageSize) :
    l'.PageExists now := by
  have hlength : (l'.visible now).length = (l.visible now).length :=
    (Listing.visible_perm hrows hcriteria).length_eq
  unfold Listing.PageExists Viewport.pageCount
  rw [hlength, hpage, hsize]
  exact h

/-! ## Operations -/

theorem pageSize_next {op : Operation R} (hop : Turns now l op)
    (h : l.view.pageSize < Word.size) : (op.next now l).view.pageSize < Word.size := by
  cases op with
  | resize pageSize => exact Nat.max_lt.mpr ⟨by decide, hop⟩
  | adopt preferences => exact Nat.max_lt.mpr ⟨by decide, preferences.pageSize.toNat_lt_size⟩
  | takeOff criterion => cases criterion <;> exact h
  | sortBy column =>
    show (l.view.sortBy column).pageSize < Word.size
    rw [Viewport.sortBy_pageSize]
    exact h
  | askSelected =>
    show l.askSelected.1.view.pageSize < Word.size
    obtain ⟨confirmation, heq⟩ := l.askSelected_eq
    rw [heq]
    exact h
  | endRefresh result => cases result <;> exact h
  | _ => exact h

theorem rows_next {op : Operation R} (hop : Turns now l op)
    (h : l.replica.rows.length ≤ Word.size / 2) :
    (op.next now l).replica.rows.length ≤ Word.size / 2 := by
  have hfilter : ∀ (ids : List String) (rows : List R), rows.length ≤ Word.size / 2 →
      (Replica.without ids rows).length ≤ Word.size / 2 :=
    fun _ _ hrows => Nat.le_trans (List.length_filter_le _ _) hrows
  rw [Operation.replica_next]
  cases op with
  | forgetRow | forgetRows => exact hfilter _ _ h
  | dropRows => exact absurd hop id
  | receive rows => exact hfilter _ _ hop
  | endRefresh result =>
    cases result with
    | ok rows => exact hfilter _ _ hop
    | error => exact h
  | _ => exact h

theorem Listing.FitsWords.next {op : Operation R} (hop : Turns now l op) (h : l.FitsWords) :
    (op.next now l).FitsWords := ⟨pageSize_next hop h.pageSize, rows_next hop h.rows⟩

/-- A button below the list leads to a page that exists. -/
theorem pageExists_goTo {page : Nat} (hop : Turns now l (.goTo page)) (h : l.PageExists now) :
    ((Operation.goTo page).next now l).PageExists now := by
  rcases hop with ⟨-, hpage⟩ | ⟨hlast, rfl⟩
  · have hlt : page + 1 < l.view.pageCount (l.visible now).length := hpage ▸ h
    exact Nat.lt_of_succ_lt hlt
  · have hrow : (l.view.page + 1) * l.view.pageSize < (l.visible now).length :=
      Footer.isLast_eq_false_iff.mp hlast
    exact (Viewport.lt_pageCount_iff (v := l.view.goTo (l.view.page + 1))).mpr (.inr hrow)

/-- **An operation loses the page exactly if it takes over too large pages.** -/
theorem pageExists_next_iff {op : Operation R} (hop : Turns now l op) (h : l.PageExists now) :
    (op.next now l).PageExists now ↔ KeepsPage now l op := by
  by_cases hsettles : op.settles = true
  · have hexists : (op.next now l).PageExists now := by
      obtain ⟨l', heq, -⟩ := op.next_of_settles now l hsettles
      rw [heq]
      exact Listing.pageExists_settle
    have hkeeps : KeepsPage now l op := by
      cases op with
      | adopt => simp [Operation.settles] at hsettles
      | _ => trivial
    exact iff_of_true hexists hkeeps
  · cases op with
    | adopt preferences => exact Viewport.lt_pageCount_iff (v := l.view.adopt preferences)
    | goTo page => exact iff_of_true (pageExists_goTo hop h) trivial
    | resize pageSize =>
      exact iff_of_true (Viewport.lt_pageCount_iff (v := l.view.resize pageSize) |>.mpr (.inl rfl))
        trivial
    | sortBy column =>
      have hpage := Viewport.sortBy_page column l.view
      have hsize := Viewport.sortBy_pageSize column l.view
      exact iff_of_true (h.of_eq rfl rfl hpage hsize) trivial
    | askSelected =>
      refine iff_of_true ?_ trivial
      show l.askSelected.1.PageExists now
      obtain ⟨confirmation, heq⟩ := l.askSelected_eq
      rw [heq]
      exact h.of_eq rfl rfl rfl rfl
    | dropRows => exact absurd hop id
    | endRefresh result =>
      cases result with
      | ok => simp [Operation.settles] at hsettles
      | error => exact iff_of_true (h.of_eq rfl rfl rfl rfl) trivial
    | flipRow | selectVisible | setDense | askRow | decline | accept | close | startRefresh
    | failRefresh => exact iff_of_true (h.of_eq rfl rfl rfl rfl) trivial
    | _ => simp [Operation.settles] at hsettles

/-! ## Whole runs -/

theorem pageExists_new (hnew : l.IsNew) : l.PageExists now := by
  apply Viewport.lt_pageCount_iff.mpr
  left
  obtain ⟨o, rfl | ⟨rows, rfl⟩⟩ := hnew <;> rfl

theorem Listing.FitsWords.after {ops : List (Operation R)}
    (hops : Along (Operation.next now) (Turns now) l ops) (h : l.FitsWords) :
    (l.after now ops).FitsWords :=
  Along.keeps Listing.FitsWords (fun _ _ hop hl => hl.next hop) hops h

/-- On a run that keeps its page everything can be done: no counting fails on the way. -/
theorem Listing.attempt_after {ops : List (Operation R)} (hfits : l.FitsWords)
    (hpage : l.PageExists now) (hops : Along (Operation.next now) (Turns now) l ops)
    (hkeeps : Along (Operation.next now) (KeepsPage now) l ops) :
    ops.foldlM (fun l op => Prod.fst <$> op.attempt now l) l = .ok (l.after now ops) := by
  induction ops generalizing l with
  | nil => rfl
  | cons op ops ih =>
    have hnext : (op.next now l).PageExists now := (pageExists_next_iff hops.1 hpage).mpr hkeeps.1
    rw [List.foldlM_cons, hpage.attempt_eq hfits]
    exact ih (hfits.next hops.1) hnext hops.2 hkeeps.2

/--
**A list always shows a page exactly if no preferences lose it.** On every run of a new list whose
pages are turned by the buttons below it, the page that is shown exists and has a row to show all
along, if and only if whatever is taken over leaves a row for the page it is taken over on.
-/
theorem shows_page_iff (now : Instant) (start : Listing R) (ops : List (Operation R))
    (hnew : start.IsNew) (hfits : start.FitsWords)
    (hops : Along (Operation.next now) (Turns now) start ops) :
    (∀ passed, passed <+: ops → ShowsPage now (start.after now passed)) ↔
      Along (Operation.next now) (KeepsPage now) start ops := by
  have hstep : ∀ (l : Listing R) (op : Operation R), Turns now l op →
      l.FitsWords ∧ l.PageExists now →
      ((op.next now l).FitsWords ∧ (op.next now l).PageExists now ↔ KeepsPage now l op) := by
    intro l op hop ⟨hl, hpage⟩
    rw [pageExists_next_iff hop hpage]
    exact and_iff_right (hl.next hop)
  rw [← forall_passed_iff hstep hops ⟨hfits, pageExists_new hnew⟩]
  constructor
  · intro hshows passed hpassed
    obtain ⟨rest, rfl⟩ := hpassed
    exact ⟨hfits.after (Along.append.mp hops).1, (hshows passed ⟨rest, rfl⟩).pageExists⟩
  · intro hgood passed hpassed
    obtain ⟨hl, hpage⟩ := hgood passed hpassed
    exact hpage.showsPage hl

/-- The second page is shown, pages of one row are taken over, and its row is deleted. -/
def turningOperations : List (Operation LnAddress) :=
  [.goTo 1, .adopt ⟨1, true⟩, .goTo 0, .adopt ⟨0, false⟩, .goTo 1, .forgetRow "bob", .resize 5]

theorem shows_page_after_turning :
    Along (Operation.next newYear) (KeepsPage newYear) twoPages turningOperations ∧
      ∀ passed, passed <+: turningOperations →
        ShowsPage newYear (twoPages.after newYear passed) := by
  have hkeeps : Along (Operation.next newYear) (KeepsPage newYear) twoPages turningOperations := by
    decide_cbv
  have hiff := shows_page_iff newYear twoPages turningOperations twoPages_isNew
    ⟨by decide, by decide⟩ (by decide_cbv)
  exact ⟨hkeeps, hiff.mpr hkeeps⟩

/-- The second page is shown when pages are taken over that hold both rows. -/
def losingOperations : List (Operation LnAddress) := [.goTo 1, .adopt ⟨25, false⟩]

/-- Both rows are to be seen, and the page shows none of them. -/
theorem page_lost_by_preferences :
    Along (Operation.next newYear) (Turns newYear) twoPages losingOperations ∧
      (twoPages.after newYear losingOperations).visible newYear = [.named "ann", .named "bob"] ∧
      (twoPages.after newYear losingOperations).onPage newYear = [] ∧
      ¬ (twoPages.after newYear losingOperations).PageExists newYear := by
  exact ⟨by decide_cbv, by cbv, by cbv, by decide_cbv⟩

end WalletConsole
