import Mathlib
import WalletConsole.Proofs.Listing.Paging
import WalletConsole.Server.Site

/-!
# Every page is drawn

To draw a list its rows, the missing ones, their height and the foot are counted, and counting can
fail. It does not on a page that exists. The pages of the site show lists that have not been fetched
yet, on the first page, so the site has an answer to every request.

* `Html.rowHeight_le`, `Html.exists_fillerRow` — how tall missing rows are
* `Html.exists_listPanel` — a list is drawn if its page exists
* `Server.exists_answer` — every request is answered
-/

namespace WalletConsole

open Calendar

namespace Html

theorem rowHeight_le (dense : Bool) : rowHeight dense ≤ 56 := by
  cases dense <;> decide

theorem exists_fillerRow {count : Nat} {dense : Bool} (colspan : Nat)
    (htall : count * rowHeight dense < Word.size) :
    ∃ rows, fillerRow count dense colspan = .ok rows := by
  unfold fillerRow
  split
  · exact ⟨_, rfl⟩
  · rw [Word.mul_of_lt htall]
    exact ⟨_, rfl⟩

/-- The missing rows of a page that exists are less than a page. -/
theorem fillers_lt {C : Type} {v : Viewport C} {total : Nat} (hpage : v.page < v.pageCount total) :
    v.fillers total < v.pageSize := by
  have hpos := v.pageSize_pos
  unfold Viewport.fillers
  split
  · exact hpos
  · next hlater =>
    have hrow := (Viewport.lt_pageCount_iff.mp hpage).resolve_left hlater
    rw [Nat.succ_mul]
    omega

/-- Pages that are small enough for their height in pixels to be counted, of rows that fit in
memory. -/
structure IsDrawable {R : Type} [Record R] (now : Instant) (l : Listing R) : Prop where
  pageExists : l.PageExists now
  pageSize : l.view.pageSize * 56 < Word.size
  rows : (l.visible now).length ≤ Word.size / 2

section

variable {R : Type} [Viewed R] {now : Instant} {l : Listing R}

theorem exists_tableBody (h : IsDrawable now l) (fetch : FetchStatus) :
    ∃ body, tableBody now fetch l = .ok body := by
  have hsize : l.view.pageSize < Word.size := by
    have := h.pageSize
    omega
  obtain ⟨hfits, hfill⟩ := Viewport.fits_of_lt_pageCount h.pageExists hsize h.rows
  have htall : l.view.fillers (l.visible now).length * rowHeight l.view.dense < Word.size :=
    Nat.lt_of_le_of_lt
      (Nat.mul_le_mul (fillers_lt h.pageExists).le (rowHeight_le l.view.dense)) h.pageSize
  obtain ⟨filler, hfiller⟩ := exists_fillerRow
    ((Columns.all (C := Record.Column R)).length + (Viewed.extraHeadings R).length + 2) htall
  have hrows : l.cutPage now = .ok (l.onPage now) := Viewport.cutPage_of_fits hfits
  simp only [tableBody, hrows, Viewport.countFillers_of_fit hfill, hfiller, bind, Except.bind]
  exact ⟨_, rfl⟩

/-- **A list is drawn if its page exists**, whatever its state is otherwise. -/
theorem exists_listPanel (h : IsDrawable now l) (fetch : FetchStatus) :
    ∃ panel, listPanel now fetch l = .ok panel := by
  obtain ⟨body, hbody⟩ := exists_tableBody h fetch
  have hroom : l.view.page * l.view.pageSize + 1 + l.view.pageSize < Word.size := by
    have hpos := l.view.pageSize_pos
    have hsize := h.pageSize
    have hrows := h.rows
    rcases Viewport.lt_pageCount_iff.mp h.pageExists with hfirst | hrow
    · rw [hfirst]
      omega
    · omega
  have hfoot : Footer.countView l.view (l.visible now).length =
      .ok (.ofView l.view (l.visible now).length) :=
    Footer.countPage_of_room l.view.pageSize_pos hroom
  simp only [listPanel, hbody, hfoot, bind, Except.bind]
  exact ⟨_, rfl⟩

end

end Html

namespace Server

open Html

/-- A list before anything is fetched is drawn. -/
theorem Page.exists_emptyList (now : Instant) (R : Type) [Viewed R] (sortColumn : Record.Column R) :
    ∃ panel, emptyList now R sortColumn = .ok panel := by
  refine exists_listPanel ⟨?_, ?_, ?_⟩ .loading
  · exact Viewport.pageCount_pos _ _
  · show max 1 25 * 56 < Word.size
    decide
  · exact Nat.le_trans Listing.visible_length_le (Nat.zero_le _)

theorem Page.exists_content (now : Instant) (page : Page) :
    ∃ middle, page.content now = .ok middle := by
  cases page with
  | transactions =>
    obtain ⟨invoices, hinvoices⟩ := exists_emptyList now Invoice TransactionColumn.createdAt
    obtain ⟨payments, hpayments⟩ := exists_emptyList now Payment TransactionColumn.createdAt
    rw [content, hinvoices, hpayments]
    exact ⟨_, rfl⟩
  | lnAddresses =>
    obtain ⟨addresses, haddresses⟩ := exists_emptyList now LnAddress LnAddressColumn.createdAt
    rw [content, haddresses]
    exact ⟨_, rfl⟩
  | apiKeys =>
    obtain ⟨keys, hkeys⟩ := exists_emptyList now ApiKey ApiKeyColumn.createdAt
    rw [content, hkeys]
    exact ⟨_, rfl⟩
  | notFound => exact ⟨_, rfl⟩

theorem Page.exists_view (now : Instant) (location : String) :
    ∃ page, view now location = .ok page := by
  obtain ⟨middle, hmiddle⟩ := exists_content now (ofLocation location)
  rw [view, hmiddle]
  exact ⟨_, rfl⟩

/-- **The site answers every request**: with whatever method and for whatever path it comes. -/
theorem exists_answer (now : Instant) (method target : String) :
    ∃ reply, answer now method target = .ok reply := by
  obtain ⟨page, hpage⟩ := Page.exists_view now (location (requestPath target))
  unfold answer
  simp only [hpage]
  repeat' split
  all_goals exact ⟨_, rfl⟩

end Server

end WalletConsole
