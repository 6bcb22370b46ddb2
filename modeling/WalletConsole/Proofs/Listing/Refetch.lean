import WalletConsole.Proofs.Listing.Operations

/-!
# A list and its backend

Fetches and deletes travel between a list and its backend and take their time. A snapshot that was
taken before a delete may arrive after it; deletes may overlap, fail, or be carried out and then not
be answered. What the list was told to forget must not come back by any of this.

* `Link` — a list, its backend, and what is under way between them
* `Link.Move`, `Link.next`, `Link.Possible` — what can happen next
* `Link.Sound` — what holds of the backend and the deletes at all times
* `Link.Gone` — what keeps an identifier away from the list for good
* `confirmed_delete_is_final` — a row whose delete was confirmed never comes back
-/

namespace WalletConsole

open Calendar

/-- A fetch. The backend looks at its rows at some moment between the question and the answer. -/
inductive Fetch (R : Type) where
  | idle
  | asked
  | captured (rows : List R)
  deriving DecidableEq

/-- A delete that is not answered yet. -/
structure Call where
  target : Target
  /-- has the backend deleted the rows? -/
  carriedOut : Bool
  deriving DecidableEq

/-- A list, its backend, and what is under way between them. -/
structure Link (R : Type) [Record R] where
  list : Listing R
  /-- the rows of the backend -/
  rows : List R
  /-- what the backend has ever deleted -/
  deletedIds : List String
  fetch : Fetch R
  calls : List Call

/-- Rows were deleted, one or many. -/
def Listing.forget {R : Type} [Record R] (now : Instant) (target : Target) (l : Listing R) :
    Listing R :=
  match target with
  | .one id => l.forgetRow now id
  | .many ids => l.forgetRows now ids

namespace Link

variable {R : Type} [Record R]

/-! ## What can happen -/

/-- Something that happens to a list or its backend. -/
inductive Move (R : Type) [Record R] where
  /-- something is done to the list that does not touch its rows -/
  | operate (op : Operation R)
  /-- the backend gets other rows by itself -/
  | change (rows : List R)
  /-- a fetch starts; one that is under way is given up -/
  | ask
  /-- the backend looks at its rows -/
  | capture
  /-- the rows arrive that the backend saw -/
  | arrive (rows : List R)
  /-- the fetch fails -/
  | failFetch (e : FetchError)
  /-- a delete is sent -/
  | send (target : Target)
  /-- the backend deletes the rows of a call -/
  | carryOut (target : Target)
  /-- the backend's word arrives that it has done so -/
  | confirm (target : Target)
  /-- a delete fails as far as the list is told, whether it was carried out or not -/
  | failDelete (call : Call)

/-- Can this happen? -/
def Possible (k : Link R) : Move R → Prop
  | .operate op => op.leavesRows = true
  -- what was deleted is not created again
  | .change rows => ∀ row ∈ rows, Record.id row ∉ k.deletedIds
  | .ask => True
  | .capture => k.fetch = .asked
  | .arrive rows => k.fetch = .captured rows
  | .failFetch _ => k.fetch ≠ .idle
  | .send _ => True
  | .carryOut target => ⟨target, false⟩ ∈ k.calls
  -- a delete is carried out before it is answered
  | .confirm target => ⟨target, true⟩ ∈ k.calls
  | .failDelete call => call ∈ k.calls

instance [DecidableEq R] (k : Link R) : (m : Move R) → Decidable (Possible k m)
  | .operate _ => inferInstanceAs (Decidable (_ = true))
  | .change rows => inferInstanceAs (Decidable (∀ row ∈ rows, Record.id row ∉ k.deletedIds))
  | .ask | .send _ => instDecidableTrue
  | .capture | .arrive _ => inferInstanceAs (Decidable (k.fetch = _))
  | .failFetch _ => inferInstanceAs (Decidable (k.fetch ≠ _))
  | .carryOut _ | .confirm _ | .failDelete _ => inferInstanceAs (Decidable (_ ∈ k.calls))

/-- What it comes to. -/
def next (now : Instant) (k : Link R) : Move R → Link R
  | .operate op => { k with list := op.next now k.list }
  | .change rows => { k with rows }
  | .ask => { k with list := Operation.startRefresh.next now k.list, fetch := .asked }
  | .capture => { k with fetch := .captured k.rows }
  | .arrive rows => { k with list := k.list.endRefresh now (.ok rows), fetch := .idle }
  | .failFetch e => { k with list := k.list.endRefresh now (.error e), fetch := .idle }
  | .send target => { k with calls := ⟨target, false⟩ :: k.calls }
  | .carryOut target =>
    { k with
      rows := Replica.without target.ids k.rows
      deletedIds := target.ids ++ k.deletedIds
      calls := ⟨target, true⟩ :: k.calls.erase ⟨target, false⟩ }
  | .confirm target =>
    { k with list := k.list.forget now target, calls := k.calls.erase ⟨target, true⟩ }
  | .failDelete call => { k with calls := k.calls.erase call }

/-- A list and its backend before any delete. -/
def start (list : Listing R) (rows : List R) (fetch : Fetch R) : Link R :=
  ⟨list, rows, [], fetch, []⟩

/-- Everything that happens, each at an instant of its own, is possible when it happens. -/
def Runs (k : Link R) (moves : List (Instant × Move R)) : Prop :=
  Along (fun k m => next m.1 k m.2) (fun k m => Possible k m.2) k moves

instance [DecidableEq R] (k : Link R) (moves : List (Instant × Move R)) :
    Decidable (Runs k moves) := Along.decidable _ _ _ _

/-- What becomes of a list and its backend. -/
def after (k : Link R) (moves : List (Instant × Move R)) : Link R :=
  moves.foldl (fun k m => next m.1 k m.2) k

/-! ## What holds at all times -/

/-- What holds of the backend and the deletes at all times. -/
structure Sound (k : Link R) : Prop where
  /-- what was deleted is not there -/
  rows : ∀ row ∈ k.rows, Record.id row ∉ k.deletedIds
  /-- what was carried out is deleted -/
  calls : ∀ target, ⟨target, true⟩ ∈ k.calls → ∀ id ∈ target.ids, id ∈ k.deletedIds

theorem sound_start (list : Listing R) (rows : List R) (fetch : Fetch R) :
    Sound (start list rows fetch) :=
  ⟨fun _ _ => List.not_mem_nil, fun _ h => absurd h List.not_mem_nil⟩

theorem Sound.next {k : Link R} {m : Instant × Move R} (hp : Possible k m.2) (h : Sound k) :
    Sound (next m.1 k m.2) := by
  obtain ⟨now, m⟩ := m
  cases m with
  | operate | ask | capture | arrive | failFetch => exact ⟨h.rows, h.calls⟩
  | change rows => exact ⟨hp, h.calls⟩
  | send target =>
    refine ⟨h.rows, fun t ht => ?_⟩
    rcases List.mem_cons.mp ht with heq | ht
    · cases heq
    · exact h.calls t ht
  | carryOut target =>
    constructor
    · intro row hrow hid
      obtain ⟨hrow, hnot⟩ := Replica.mem_without.mp hrow
      rcases List.mem_append.mp hid with hid | hid
      · exact hnot hid
      · exact h.rows row hrow hid
    · intro t ht id hid
      rcases List.mem_cons.mp ht with heq | ht
      · cases heq
        exact List.mem_append_left _ hid
      · exact List.mem_append_right _ (h.calls t (List.mem_of_mem_erase ht) id hid)
  | confirm target =>
    exact ⟨h.rows, fun t ht => h.calls t (List.mem_of_mem_erase ht)⟩
  | failDelete call =>
    exact ⟨h.rows, fun t ht => h.calls t (List.mem_of_mem_erase ht)⟩

/-- What keeps an identifier away from the list for good. -/
structure Gone (id : String) (k : Link R) : Prop where
  /-- no snapshot yet to be taken has it -/
  deleted : id ∈ k.deletedIds
  away : ∀ row ∈ k.list.replica.rows, Record.id row ≠ id
  /-- a snapshot that still has it is on its way to a list that remembers the delete -/
  caught : ∀ rows, k.fetch = .captured rows → id ∉ k.list.replica.deletedIds →
    ∀ row ∈ rows, Record.id row ≠ id

end Link

theorem Listing.forget_replica {R : Type} [Record R] (now : Instant) (target : Target)
    (l : Listing R) : (l.forget now target).replica = l.replica.forget target.ids := by
  cases target <;> rfl

namespace Link

variable {R : Type} [Record R]

theorem gone_of_confirm (now : Instant) {k : Link R} {target : Target} (hs : Sound k)
    (hp : Possible k (.confirm target)) {id : String} (hid : id ∈ target.ids) :
    Gone id (next now k (.confirm target)) := by
  have hreplica : (next now k (.confirm target)).list.replica =
      k.list.replica.forget target.ids := Listing.forget_replica now target k.list
  refine ⟨hs.calls target hp id hid, ?_, ?_⟩
  · intro row hrow heq
    rw [hreplica] at hrow
    obtain ⟨-, hnot⟩ := Replica.mem_without.mp hrow
    exact hnot (heq ▸ hid)
  · intro rows _ hnot
    rw [hreplica] at hnot
    exact absurd (List.mem_append_right _ hid) hnot

theorem Gone.next {id : String} {k : Link R} {m : Instant × Move R} (hs : Sound k)
    (hp : Possible k m.2) (h : Gone id k) : Gone id (next m.1 k m.2) := by
  obtain ⟨now, m⟩ := m
  cases m with
  | operate op =>
    have hreplica : (op.next now k.list).replica = k.list.replica :=
      Operation.replica_next_of_leavesRows now k.list hp
    refine ⟨h.deleted, ?_, ?_⟩
    · show ∀ row ∈ (op.next now k.list).replica.rows, _
      rw [hreplica]
      exact h.away
    · show ∀ rows, k.fetch = .captured rows → id ∉ (op.next now k.list).replica.deletedIds → _
      rw [hreplica]
      exact h.caught
  | change | send | failDelete => exact ⟨h.deleted, h.away, h.caught⟩
  | ask => exact ⟨h.deleted, h.away, fun _ heq => by cases heq⟩
  | capture =>
    -- the backend does not have the row any more
    refine ⟨h.deleted, h.away, ?_⟩
    intro rows heq _ row hrow hid
    cases heq
    exact hs.rows row hrow (hid ▸ h.deleted)
  | arrive rows =>
    refine ⟨h.deleted, ?_, fun _ heq => by cases heq⟩
    intro row hrow
    obtain ⟨hrow, hnot⟩ := Replica.mem_without.mp hrow
    by_cases hid : id ∈ k.list.replica.deletedIds
    · exact fun heq => hnot (heq ▸ hid)
    · exact h.caught rows hp hid row hrow
  | failFetch e => exact ⟨h.deleted, h.away, fun _ heq => by cases heq⟩
  | carryOut target => exact ⟨List.mem_append_right _ h.deleted, h.away, h.caught⟩
  | confirm target =>
    have hreplica : (k.list.forget now target).replica = k.list.replica.forget target.ids :=
      Listing.forget_replica now target k.list
    refine ⟨h.deleted, ?_, ?_⟩
    · show ∀ row ∈ (k.list.forget now target).replica.rows, _
      rw [hreplica]
      intro row hrow
      exact h.away row (Replica.mem_without.mp hrow).1
    · show ∀ rows, k.fetch = .captured rows →
        id ∉ (k.list.forget now target).replica.deletedIds → _
      rw [hreplica]
      intro rows heq hnot
      exact h.caught rows heq fun hid => hnot (List.mem_append_left _ hid)

/-! ## Whole runs -/

theorem Sound.after {k : Link R} {moves : List (Instant × Move R)} (hr : Runs k moves)
    (h : Sound k) : Sound (after k moves) :=
  Along.keeps Sound (fun _ _ hp hk => hk.next hp) hr h

theorem Gone.after {id : String} {k : Link R} {moves : List (Instant × Move R)}
    (hr : Runs k moves) (hs : Sound k) (h : Gone id k) : Gone id (after k moves) :=
  (Along.keeps (fun k => Sound k ∧ Gone id k)
    (fun _ _ hp hk => ⟨hk.1.next hp, hk.2.next hk.1 hp⟩) hr ⟨hs, h⟩).2

/--
**A delete that was confirmed is never undone.** However fetches and deletes overlap and fail, no
row with one of its identifiers is ever in the list again.
-/
theorem confirmed_delete_is_final (list : Listing R) (rows : List R) (fetch : Fetch R)
    (before later : List (Instant × Move R)) (now : Instant) (target : Target)
    (h : Runs (start list rows fetch) (before ++ (now, .confirm target) :: later)) :
    ∀ id ∈ target.ids, ∀ row ∈
      (after (start list rows fetch) (before ++ (now, .confirm target) :: later)).list.replica.rows,
      Record.id row ≠ id := by
  intro id hid
  obtain ⟨hbefore, hp, hlater⟩ := Along.append.mp h
  have hs : Sound (after (start list rows fetch) before) :=
    (sound_start list rows fetch).after hbefore
  have hgone := gone_of_confirm now hs hp hid
  have hsound := hs.next (m := (now, .confirm target)) hp
  unfold Link.after
  rw [List.foldl_append]
  exact (hgone.after hlater hsound).away

/-- A list of two addresses, and a backend that has them, too. -/
def twoAddresses : Link LnAddress := start twoPages [.named "ann", .named "bob"] .idle

/-- Two deletes overlap with a fetch; the backend looks at its rows before either of them. -/
def movesOfRace : List (Instant × Move LnAddress) :=
  [(newYear, .ask), (newYear, .capture), (newYear, .send (.one "ann")),
    (newYear, .send (.many ["bob"])), (newYear, .carryOut (.many ["bob"])),
    (newYear, .carryOut (.one "ann"))]

/-- The snapshot taken before arrives after the delete, then the backend gets a new row. -/
def movesAfterRace : List (Instant × Move LnAddress) :=
  [(newYear, .arrive [.named "ann", .named "bob"]), (newYear, .failDelete ⟨.many ["bob"], true⟩),
    (newYear, .ask), (newYear, .change [.named "eve"]), (newYear, .capture),
    (newYear, .arrive [.named "eve"])]

theorem confirmed_delete_is_final_in_race :
    Runs twoAddresses (movesOfRace ++ (newYear, .confirm (.one "ann")) :: movesAfterRace) ∧
      ∀ id ∈ Target.ids (.one "ann"), ∀ row ∈
        (after twoAddresses
          (movesOfRace ++ (newYear, .confirm (.one "ann")) :: movesAfterRace)).list.replica.rows,
        Record.id row ≠ id := by
  have hruns : Runs twoAddresses
      (movesOfRace ++ (newYear, .confirm (.one "ann")) :: movesAfterRace) := by decide
  exact ⟨hruns, confirmed_delete_is_final twoPages [.named "ann", .named "bob"] .idle movesOfRace
    movesAfterRace newYear (.one "ann") hruns⟩

end Link

end WalletConsole
