import Mathlib.Data.List.DropRight
import WalletConsole.Listing.Replica

/-!
# The history of the rows at hand

The rows at hand keep no history: only rows, some identifiers and a word on how they relate to those
of the backend. Still the whole history tells what they are. Only its last two stretches matter: the
one after the last snapshot, and the one before it, whose deletes the snapshot may not know of.

* `Change`, `Replica.afterAll` — what is done to the rows at hand, once and many times
* `Change.sinceSnapshot`, `Change.beforeSnapshot`, `Change.lastSnapshot?` — what counts of a history
* `ToldBy` — the rows at hand are what the history says
* `replica_told_by_history` — so they are after every history
-/

namespace WalletConsole

variable {R : Type}

/-! ## Histories -/

/-- Something that is done to the rows at hand. -/
inductive Change (R : Type) where
  | startRefresh
  | failRefresh
  | forget (ids : List String)
  | receive (rows : List R)
  deriving DecidableEq

namespace Change

/-- The snapshot that arrives, if it is one. -/
def snapshot? : Change R → Option (List R)
  | .receive rows => some rows
  | _ => none

/-- The identifiers of the rows that are deleted. -/
def ids : Change R → List String
  | .forget ids => ids
  | _ => []

/-- Can the rows at hand differ from the last snapshot, or a new one be under way? -/
def unsettles : Change R → Bool
  | .forget _ | .startRefresh => true
  | _ => false

variable (history : List (Change R))

/-- All identifiers deleted in a history. -/
def deleted : List String := history.flatMap ids

/-- The last snapshot of a history. -/
def lastSnapshot? : Option (List R) := (history.filterMap snapshot?).getLast?

/-- What was done after the last snapshot, or since the start if there is none. -/
def sinceSnapshot : List (Change R) := history.rtakeWhile (·.snapshot?.isNone)

/-- What was done before the last snapshot, but after the one before that. -/
def beforeSnapshot : List (Change R) :=
  -- the snapshot itself is what `dropLast` drops
  sinceSnapshot (history.rdropWhile (·.snapshot?.isNone)).dropLast

section

variable {history} {c : Change R} {rows : List R}

@[simp] theorem deleted_nil : deleted ([] : List (Change R)) = [] := rfl

@[simp] theorem deleted_concat : deleted (history ++ [c]) = deleted history ++ c.ids := by
  simp [deleted]

@[simp] theorem sinceSnapshot_receive : sinceSnapshot (history ++ [.receive rows]) = [] :=
  List.rtakeWhile_concat_neg _ _ _ (by simp [snapshot?])

@[simp] theorem beforeSnapshot_receive :
    beforeSnapshot (history ++ [.receive rows]) = sinceSnapshot history := by
  unfold beforeSnapshot
  rw [List.rdropWhile_concat_neg _ _ _ (by simp [snapshot?]), List.dropLast_concat]

@[simp] theorem lastSnapshot?_receive :
    lastSnapshot? (history ++ [.receive rows]) = some rows := by
  simp [lastSnapshot?, snapshot?]

theorem sinceSnapshot_concat (h : c.snapshot? = none) :
    sinceSnapshot (history ++ [c]) = sinceSnapshot history ++ [c] :=
  List.rtakeWhile_concat_pos _ _ _ (by simp [h])

theorem beforeSnapshot_concat (h : c.snapshot? = none) :
    beforeSnapshot (history ++ [c]) = beforeSnapshot history := by
  unfold beforeSnapshot
  rw [List.rdropWhile_concat_pos _ _ _ (by simp [h])]

theorem lastSnapshot?_concat (h : c.snapshot? = none) :
    lastSnapshot? (history ++ [c]) = lastSnapshot? history := by
  simp [lastSnapshot?, h]

end

end Change

/-! ## Runs -/

/-- The rows at hand to start with: some, or none fetched yet. -/
def Replica.initial : Option (List R) → Replica R
  | none => .unfetched
  | some rows => .ofRows rows

variable [Record R]

/-- The rows at hand after a change. -/
def Change.apply (r : Replica R) : Change R → Replica R
  | .startRefresh => r.startRefresh
  | .failRefresh => r.failRefresh
  | .forget ids => r.forget ids
  | .receive rows => r.receive rows

/-- The rows at hand after a history. -/
def Replica.afterAll (r : Replica R) (history : List (Change R)) : Replica R :=
  history.foldl Change.apply r

theorem Replica.afterAll_concat (r : Replica R) (history : List (Change R)) (c : Change R) :
    r.afterAll (history ++ [c]) = c.apply (r.afterAll history) := by
  simp [Replica.afterAll]

/-! ## What a history tells -/

/-- The rows at hand are what the history says, after rows to start with. -/
structure ToldBy (initial : Option (List R)) (history : List (Change R)) (r : Replica R) :
    Prop where
  /-- the rows of the last snapshot, less those deleted since and those it may not know of -/
  rows : r.rows = ((Change.lastSnapshot? history).getD (initial.getD [])).filter fun row =>
    Record.id row ∉ Change.deleted (Change.beforeSnapshot history) ∧
      Record.id row ∉ Change.deleted (Change.sinceSnapshot history)
  deletedIds : r.deletedIds = Change.deleted (Change.sinceSnapshot history)
  sync : r.sync = .current ↔ ∀ c ∈ Change.sinceSnapshot history, c.unsettles = false

theorem toldBy_initial (initial : Option (List R)) :
    ToldBy initial [] (Replica.initial initial) := by
  cases initial with
  | none => exact ⟨rfl, rfl, by simp [Replica.initial, Replica.unfetched, Change.sinceSnapshot]⟩
  | some rows =>
    refine ⟨?_, rfl, by simp [Replica.initial, Replica.ofRows, Change.sinceSnapshot]⟩
    simp [Replica.initial, Replica.ofRows, Change.lastSnapshot?, Change.sinceSnapshot,
      Change.beforeSnapshot, Change.deleted]

namespace ToldBy

variable {initial : Option (List R)} {history : List (Change R)} {r : Replica R}

theorem receive (rows : List R) (h : ToldBy initial history r) :
    ToldBy initial (history ++ [.receive rows]) (r.receive rows) where
  rows := by simp [Replica.receive, Replica.without, h.deletedIds]
  deletedIds := by simp [Replica.receive]
  sync := by simp [Replica.receive]

/-- What is no snapshot adds to the stretch after the last one. -/
theorem of_concat {c : Change R} {r' : Replica R} (h : ToldBy initial history r)
    (hc : c.snapshot? = none)
    (hrows : r'.rows = r.rows.filter fun row => Record.id row ∉ c.ids)
    (hdeleted : r'.deletedIds = r.deletedIds ++ c.ids)
    (hsync : r'.sync = .current ↔ r.sync = .current ∧ c.unsettles = false) :
    ToldBy initial (history ++ [c]) r' where
  rows := by
    rw [hrows, h.rows, Change.lastSnapshot?_concat hc, Change.beforeSnapshot_concat hc,
      Change.sinceSnapshot_concat hc, Change.deleted_concat, List.filter_filter]
    refine List.filter_congr fun row _ => ?_
    rw [← Bool.decide_and]
    simp only [List.mem_append, not_or]
    exact decide_eq_decide.mpr (by tauto)
  deletedIds := by
    rw [hdeleted, h.deletedIds, Change.sinceSnapshot_concat hc, Change.deleted_concat]
  sync := by
    rw [hsync, h.sync, Change.sinceSnapshot_concat hc]
    simp [or_imp, forall_and]

theorem startRefresh (h : ToldBy initial history r) :
    ToldBy initial (history ++ [.startRefresh]) r.startRefresh :=
  h.of_concat rfl (by simp [Replica.startRefresh, Change.ids])
    (by simp [Replica.startRefresh, Change.ids])
    (by simp [Replica.startRefresh, Change.unsettles])

theorem failRefresh (h : ToldBy initial history r) :
    ToldBy initial (history ++ [.failRefresh]) r.failRefresh := by
  refine h.of_concat rfl (by simp [Replica.failRefresh, Change.ids])
    (by simp [Replica.failRefresh, Change.ids]) ?_
  -- a fetch that fails leaves the word on the rows, or says that they are stale
  cases hsync : r.sync <;> simp [Replica.failRefresh, Change.unsettles, hsync]

theorem forget (ids : List String) (h : ToldBy initial history r) :
    ToldBy initial (history ++ [.forget ids]) (r.forget ids) := by
  refine h.of_concat rfl (Replica.without_eq_filter ids r.rows) rfl ?_
  cases hsync : r.sync <;> simp [Replica.forget, Change.unsettles, hsync]

theorem apply (c : Change R) (h : ToldBy initial history r) :
    ToldBy initial (history ++ [c]) (c.apply r) := by
  cases c with
  | startRefresh => exact h.startRefresh
  | failRefresh => exact h.failRefresh
  | forget ids => exact h.forget ids
  | receive rows => exact h.receive rows

/-- The rows at hand are what the history says, however long it is. -/
theorem afterAll (initial : Option (List R)) (history : List (Change R)) :
    ToldBy initial history ((Replica.initial initial).afterAll history) := by
  induction history using List.reverseRecOn with
  | nil => exact toldBy_initial initial
  | append_singleton history c ih =>
    rw [Replica.afterAll_concat]
    exact ih.apply c

/-- No row at hand is remembered as deleted. -/
theorem apart (h : ToldBy initial history r) : ∀ row ∈ r.rows, Record.id row ∉ r.deletedIds := by
  intro row hrow
  rw [h.rows, List.mem_filter] at hrow
  rw [h.deletedIds]
  exact (of_decide_eq_true hrow.2).2

theorem deletedIds_of_current (h : ToldBy initial history r) (hsync : r.sync = .current) :
    r.deletedIds = [] := by
  rw [h.deletedIds, Change.deleted, List.flatMap_eq_nil_iff]
  intro c hc
  have hquiet : c.unsettles = false := h.sync.mp hsync c hc
  cases c with
  | forget => simp [Change.unsettles] at hquiet
  | _ => rfl

end ToldBy

/-! ## Single changes -/

/-- The rows that go are counted. -/
theorem Replica.countOf_eq (ids : List String) (r : Replica R) :
    r.countOf ids = (r.rows.filter fun row => Record.id row ∈ ids).length := by
  have hsplit := List.length_eq_length_filter_add (l := r.rows) fun row =>
    ids.contains (Record.id row)
  unfold Replica.countOf Replica.without
  simp only [List.contains_eq_mem] at hsplit ⊢
  omega

/-- A fetch that starts or fails says something of the rows and changes nothing else. -/
theorem Change.apply_of_fetch (r : Replica R) {c : Change R}
    (h : c = .startRefresh ∨ c = .failRefresh) : ∃ sync, c.apply r = { r with sync } := by
  rcases h with rfl | rfl <;> exact ⟨_, rfl⟩

/-- What a history says of the rows at hand and of what is done to them next. -/
structure HistoryTold (initial : Option (List R)) (history : List (Change R)) (r : Replica R) :
    Prop extends ToldBy initial history r where
  apart : ∀ row ∈ r.rows, Record.id row ∉ r.deletedIds
  nothingDeleted : r.sync = .current → r.deletedIds = []
  /-- a delete takes the rows with its identifiers and counts them -/
  deletes : ∀ ids, (Change.apply r (.forget ids)).rows =
      r.rows.filter (fun row => Record.id row ∉ ids) ∧
    r.countOf ids = (r.rows.filter fun row => Record.id row ∈ ids).length
  /-- a fetch that starts or fails changes nothing but the word on the rows -/
  fetches : ∀ c : Change R, c = .startRefresh ∨ c = .failRefresh →
    ∃ sync, c.apply r = { r with sync }

/--
**The rows at hand are what their history says.** After every run of fetches, deletes and snapshots,
they are the rows of the last snapshot without those deleted since and without those deleted between
it and the one before; they count as current exactly if nothing was deleted and no fetch started
since; and every delete is counted by the rows that it takes.
-/
theorem replica_told_by_history (initial : Option (List R)) (history : List (Change R)) :
    HistoryTold initial history ((Replica.initial initial).afterAll history) := by
  have htold := ToldBy.afterAll initial history
  refine ⟨htold, htold.apart, htold.deletedIds_of_current, ?_, ?_⟩
  · intro ids
    exact ⟨Replica.without_eq_filter ids _, Replica.countOf_eq ids _⟩
  · intro c hc
    exact Change.apply_of_fetch _ hc

end WalletConsole
