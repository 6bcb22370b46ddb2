import Mathlib
import WalletConsole.Proofs.Listing.History
import WalletConsole.Proofs.Listing.Paging
import WalletConsole.Proofs.Listing.Selection

/-!
# The page after a delete

When rows are gone, the page that was shown may be gone, too, and another one is shown. Which one is
told by how many rows it held and how many were deleted, wherever the deleted rows were. So a page
that is still there can be left: to the one before when it held a single row, and to one further
on when more rows were deleted than it held.

* `Forgotten` — what a delete does to a list, whichever page is shown then
* `Listing.length_visible_le` — no more rows vanish from sight than are deleted
* `row_forgotten` — the page after a single delete
* `Listing.MovesOn`, `rows_forgotten` — the page after a bulk delete, and when it is a later one
-/

namespace WalletConsole

open Calendar

variable {R : Type} [Record R] {now : Instant} {l : Listing R}

/-! ## The rows that are left -/

/-- Of rows with distinct identifiers, no more are gone than identifiers were given. -/
theorem DistinctIds.length_le_without_add {rows : List R} (h : DistinctIds rows)
    (ids : List String) : rows.length ≤ (Replica.without ids rows).length + ids.length := by
  have hsplit := List.length_eq_length_filter_add (l := rows) fun row =>
    ids.contains (Record.id row)
  have hgone : (rows.filter fun row => ids.contains (Record.id row)).length ≤ ids.length := by
    rw [← List.length_map (f := Record.id)]
    refine List.Nodup.length_le_of_subset (h.filter _) fun id hid => ?_
    obtain ⟨row, hrow, rfl⟩ := List.mem_map.mp hid
    exact List.contains_iff_mem.mp (List.mem_filter.mp hrow).2
  unfold Replica.without
  omega

/-- When rows are gone, the others are to be seen as before. -/
theorem Listing.visible_perm_without {l' : Listing R} {ids : List String}
    (hrows : l'.replica.rows = Replica.without ids l.replica.rows)
    (hcriteria : l'.criteria = l.criteria) :
    (l'.visible now).Perm (Replica.without ids (l.visible now)) := by
  unfold Listing.visible
  rw [hrows, hcriteria]
  refine (narrow_perm _ _ _ _ _).trans ?_
  have hcomm : (Replica.without ids l.replica.rows).filter
      (fun row => Meets now l.criteria l.criteria.isInverted row) =
      Replica.without ids
        (l.replica.rows.filter fun row => Meets now l.criteria l.criteria.isInverted row) := by
    simp only [Replica.without, List.filter_filter, Bool.and_comm]
  rw [hcomm]
  exact ((narrow_perm _ _ _ _ _).filter _).symm

/-- No more rows vanish from sight than are deleted. -/
theorem Listing.length_visible_le {l' : Listing R} {ids : List String}
    (hdistinct : DistinctIds l.replica.rows)
    (hrows : l'.replica.rows = Replica.without ids l.replica.rows)
    (hcriteria : l'.criteria = l.criteria) :
    (l.visible now).length ≤ (l'.visible now).length + ids.length := by
  have hseen : DistinctIds (l.visible now) := Listing.visibleIds_nodup hdistinct
  rw [(Listing.visible_perm_without hrows hcriteria).length_eq]
  exact hseen.length_le_without_add ids

/-- The last page there is. -/
def Listing.lastPage (now : Instant) (l : Listing R) : Nat :=
  l.view.pageCount (l.visible now).length - 1

/-- Settling keeps the page if it can. -/
theorem Listing.settle_page (now : Instant) (l : Listing R) :
    (l.settle now).view.page = min l.view.page ((l.settle now).lastPage now) := by
  show min l.view.page (l.view.pageCount (l.visibleIds now).length - 1) =
    min l.view.page (l.view.pageCount (l.visible now).length - 1)
  rw [Listing.visibleIds_length]

/-! ## What every delete does -/

/-- What a delete does to a list, apart from the page. -/
structure Forgotten (now : Instant) (ids : List String) (l l' : Listing R) : Prop where
  rows : l'.replica.rows = l.replica.rows.filter fun row => Record.id row ∉ ids
  nothingSelected : l'.view.selected = []
  criteria : l'.criteria = l.criteria
  sortColumn : l'.view.sortColumn = l.view.sortColumn
  direction : l'.view.direction = l.view.direction
  confirmation : l'.confirmation = l.confirmation
  pageExists : l'.PageExists now

theorem forgotten_forgetRow (now : Instant) (l : Listing R) (id : String) :
    Forgotten now [id] l (l.forgetRow now id) :=
  ⟨Replica.without_eq_filter _ _, rfl, rfl, rfl, rfl, rfl, Listing.pageExists_settle⟩

theorem forgotten_forgetRows (now : Instant) (l : Listing R) (ids : List String) :
    Forgotten now ids l (l.forgetRows now ids) :=
  ⟨Replica.without_eq_filter _ _, rfl, rfl, rfl, rfl, rfl, Listing.pageExists_settle⟩

/-- As many rows are left to be seen as there were, but for the deleted ones. -/
theorem Forgotten.length_visible_le {l' : Listing R} {ids : List String}
    (h : Forgotten now ids l l') (hdistinct : DistinctIds l.replica.rows) :
    (l.visible now).length ≤ (l'.visible now).length + ids.length :=
  Listing.length_visible_le hdistinct (h.rows.trans (Replica.without_eq_filter _ _).symm) h.criteria

/-! ## A single delete -/

theorem forgetRow_page (now : Instant) (l : Listing R) (id : String) :
    (l.forgetRow now id).view.page =
      min (if 0 < l.view.page ∧ (l.onPage now).length < 2 then l.view.page - 1 else l.view.page)
        ((l.forgetRow now id).lastPage now) := by
  refine (Listing.settle_page now _).trans (congrArg (min · _) ?_)
  simp [Viewport.afterDelete]

/-- Without one row, the page before is still there. -/
theorem pred_le_lastPage_forgetRow {id : String} (hdistinct : DistinctIds l.replica.rows)
    (hpage : l.PageExists now) (hlater : 0 < l.view.page) :
    l.view.page - 1 ≤ (l.forgetRow now id).lastPage now := by
  have hrow : l.view.page * l.view.pageSize < (l.visible now).length :=
    (Viewport.lt_pageCount_iff.mp hpage).resolve_left (Nat.ne_of_gt hlater)
  have hleft : (l.visible now).length ≤ ((l.forgetRow now id).visible now).length + 1 :=
    (forgotten_forgetRow now l id).length_visible_le hdistinct
  have hpred : (l.view.page - 1) * l.view.pageSize < l.view.page * l.view.pageSize :=
    Nat.mul_lt_mul_of_pos_right (by omega) l.view.pageSize_pos
  have hlt : l.view.page - 1 < l.view.pageCount ((l.forgetRow now id).visible now).length :=
    l.view.page_lt_pageCount_iff.mpr (.inr (by omega))
  exact Nat.le_sub_one_of_lt hlt

/--
**After a single delete, the page that was shown is still shown if there is such a page**, unless it
was not the first and held a single row. If that was the deleted row, the page before is shown,
whether or not rows of later pages have moved up.
-/
theorem row_forgotten (now : Instant) (l : Listing R) (id : String)
    (hdistinct : DistinctIds l.replica.rows) (hpage : l.PageExists now) :
    Forgotten now [id] l (l.forgetRow now id) ∧
      (l.view.page = 0 ∨ 1 < (l.onPage now).length ∨
          (l.forgetRow now id).lastPage now < l.view.page →
        (l.forgetRow now id).view.page =
          min l.view.page ((l.forgetRow now id).lastPage now)) ∧
      (0 < l.view.page → (l.onPage now).map Record.id = [id] →
        (l.forgetRow now id).view.page = l.view.page - 1) := by
  refine ⟨forgotten_forgetRow now l id, ?_, ?_⟩
  · intro hcase
    rw [forgetRow_page]
    split <;> omega
  · intro hlater halone
    have hlength : (l.onPage now).length = 1 := by
      rw [← List.length_map (f := Record.id), halone]
      rfl
    rw [forgetRow_page, if_pos ⟨hlater, by omega⟩]
    exact Nat.min_eq_left (pred_le_lastPage_forgetRow hdistinct hpage hlater)

/-- The second page of some addresses of which nothing matters but the name. -/
def secondPageOf (pageSize : Nat) (names : List String) : Listing LnAddress :=
  let start : Listing LnAddress :=
    .ofRows { sortColumn := .createdAt, pageSize } (names.map LnAddress.named)
  start.after newYear [.goTo 1]

/-- Five addresses, each on a page of its own. -/
def secondOfFive : Listing LnAddress := secondPageOf 1 ["ann", "bob", "cid", "dan", "eve"]

/-- Three addresses, the last of them alone on the second page. -/
def lastOfThree : Listing LnAddress := secondPageOf 2 ["ann", "bob", "eve"]

theorem row_forgotten_on_page_before :
    DistinctIds lastOfThree.replica.rows ∧ lastOfThree.PageExists newYear ∧
      Forgotten newYear ["ann"] lastOfThree (lastOfThree.forgetRow newYear "ann") ∧
      (lastOfThree.forgetRow newYear "ann").view.page =
        min lastOfThree.view.page ((lastOfThree.forgetRow newYear "ann").lastPage newYear) := by
  have hdistinct : DistinctIds lastOfThree.replica.rows := by decide_cbv
  have hpage : lastOfThree.PageExists newYear := by decide_cbv
  obtain ⟨hforgotten, hkeeps, -⟩ := row_forgotten newYear lastOfThree "ann" hdistinct hpage
  have hgone : (lastOfThree.forgetRow newYear "ann").lastPage newYear < lastOfThree.view.page := by
    decide_cbv
  exact ⟨hdistinct, hpage, hforgotten, hkeeps (.inr (.inr hgone))⟩

/-- The second of five pages holds one row. It is deleted, and the first page is shown. -/
theorem second_page_left_though_there :
    DistinctIds secondOfFive.replica.rows ∧ secondOfFive.PageExists newYear ∧
      (secondOfFive.onPage newYear).map Record.id = ["bob"] ∧
      (secondOfFive.forgetRow newYear "bob").view.page = 0 ∧
      min secondOfFive.view.page ((secondOfFive.forgetRow newYear "bob").lastPage newYear) = 1 :=
  ⟨by decide_cbv, by decide_cbv, by cbv, by cbv, by cbv⟩

/-! ## A bulk delete -/

/--
More rows are deleted than the page holds, and if all of them were to be seen, there would be later
pages still.
-/
def Listing.MovesOn (now : Instant) (ids : List String) (l : Listing R) : Prop :=
  0 < l.view.page ∧ (l.onPage now).length < ids.length ∧
    (l.view.page + 1) * l.view.pageSize + ids.length < (l.visible now).length

instance (now : Instant) (ids : List String) (l : Listing R) : Decidable (l.MovesOn now ids) :=
  inferInstanceAs (Decidable (_ ∧ _ ∧ _))

theorem forgetRows_page (now : Instant) (l : Listing R) (ids : List String) :
    (l.forgetRows now ids).view.page =
      min (if l.view.page = 0 then 0
        else if ids.length = (l.onPage now).length then l.view.page - 1
        else if ids.length = (l.visible now).length then 0
        else if (l.onPage now).length < ids.length then
          l.view.pageCount ((l.visible now).length - ids.length) - 1
        else l.view.page) ((l.forgetRows now ids).lastPage now) :=
  (Listing.settle_page now _).trans
    (congrArg (min · _) (Viewport.afterDeleteSelected_page _ _ _))

theorem forgetRows_page_of_movesOn {ids : List String} (hdistinct : DistinctIds l.replica.rows)
    (h : l.MovesOn now ids) : (l.forgetRows now ids).view.page =
      l.view.pageCount ((l.visible now).length - ids.length) - 1 := by
  obtain ⟨hlater, hmore, hleft⟩ := h
  have hseen : (l.visible now).length ≤
      ((l.forgetRows now ids).visible now).length + ids.length :=
    (forgotten_forgetRows now l ids).length_visible_le hdistinct
  -- there are as many pages as that, so the page need not be brought back
  have hlast : l.view.pageCount ((l.visible now).length - ids.length) - 1 ≤
      (l.forgetRows now ids).lastPage now :=
    Nat.sub_le_sub_right (l.view.pageCount_mono (by omega)) 1
  rw [forgetRows_page, if_neg (by omega), if_neg (by omega), if_neg (by omega), if_pos hmore]
  exact Nat.min_eq_left hlast

/-- A bulk delete leads to a later page only if more rows go than the page holds, and stay. -/
theorem forgetRows_page_le {ids : List String} (h : ¬ l.MovesOn now ids) :
    (l.forgetRows now ids).view.page ≤ l.view.page := by
  rw [forgetRows_page]
  refine (Nat.min_le_left _ _).trans ?_
  split
  · exact Nat.zero_le _
  · next hlater =>
    split
    · exact Nat.sub_le _ _
    · split
      · exact Nat.zero_le _
      · split
        · next hmore =>
          by_contra hfurther
          have hlt : l.view.page + 1 <
              l.view.pageCount ((l.visible now).length - ids.length) := by omega
          have hrow := (l.view.page_lt_pageCount_iff.mp hlt).resolve_left (Nat.succ_ne_zero _)
          exact h ⟨by omega, hmore, by omega⟩
        · exact Nat.le_refl _

/--
**After a bulk delete, the page is not a later one, unless it was not the first, more rows were
deleted than it held, and so many are left that there are later pages still**; then it is the last
one of as many rows as would be left if all deleted rows had been to be seen.
-/
theorem rows_forgotten (now : Instant) (l : Listing R) (ids : List String)
    (hdistinct : DistinctIds l.replica.rows) :
    Forgotten now ids l (l.forgetRows now ids) ∧
      ((Operation.forgetRows ids).run now l).2 =
        .count (l.replica.rows.filter fun row => Record.id row ∈ ids).length ∧
      ((l.forgetRows now ids).view.page ≤ l.view.page ↔ ¬ l.MovesOn now ids) ∧
      (l.MovesOn now ids → (l.forgetRows now ids).view.page =
        l.view.pageCount ((l.visible now).length - ids.length) - 1) := by
  refine ⟨forgotten_forgetRows now l ids, congrArg _ (Replica.countOf_eq ids _), ⟨?_, ?_⟩,
    forgetRows_page_of_movesOn hdistinct⟩
  · intro hle hmoves
    have hpage := forgetRows_page_of_movesOn hdistinct hmoves
    obtain ⟨-, -, hleft⟩ := hmoves
    have hlt : l.view.page + 1 < l.view.pageCount ((l.visible now).length - ids.length) :=
      l.view.page_lt_pageCount_iff.mpr (.inr (by omega))
    omega
  · exact forgetRows_page_le

theorem rows_forgotten_beside_page :
    DistinctIds secondOfFive.replica.rows ∧
      ((Operation.forgetRows ["ann", "nobody"]).run newYear secondOfFive).2 = .count 1 ∧
      secondOfFive.MovesOn newYear ["ann", "nobody"] ∧
      (secondOfFive.forgetRows newYear ["ann", "nobody"]).view.page = 2 := by
  have hdistinct : DistinctIds secondOfFive.replica.rows := by decide_cbv
  obtain ⟨-, hcount, -, hmoves⟩ :=
    rows_forgotten newYear secondOfFive ["ann", "nobody"] hdistinct
  have hmovesOn : secondOfFive.MovesOn newYear ["ann", "nobody"] := by decide_cbv
  refine ⟨hdistinct, hcount.trans (congrArg _ (by cbv)), hmovesOn, ?_⟩
  exact (hmoves hmovesOn).trans (by cbv)

/-- Two of five rows are deleted from the second page, and the third is shown. -/
theorem third_page_after_second :
    DistinctIds secondOfFive.replica.rows ∧ secondOfFive.PageExists newYear ∧
      secondOfFive.view.page = 1 ∧
      (secondOfFive.forgetRows newYear ["bob", "eve"]).view.page = 2 :=
  ⟨by decide_cbv, by decide_cbv, by cbv, by cbv⟩

end WalletConsole
