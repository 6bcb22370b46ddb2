import Mathlib
import WalletConsole.Proofs.Listing.Counting
import WalletConsole.Proofs.Session.Overlap

/-!
# Counting in a session

Before rows go, the page that they are on is counted, and counting can fail. Nothing else can go
wrong in a session. The deletes of a script are nested; its run is flat, and there it can be said
when counting does not fail: when the page can be counted each time that rows go.

* `Session.PageFits` — the page can be counted
* `Desk.Move.countsPage`, `Desk.Counts` — when it is counted, and that this does not fail
* `Desk.counts_movesOfAll_iff` — **a script can be counted exactly if its run can**
* `Step.attemptAll_eq_ok_iff` — what a script comes to
-/

namespace WalletConsole

open Calendar

/-- Two counts, one after the other, succeed if both do. -/
theorem Miscount.andThen_eq_ok_iff {first second : Except Miscount Unit} :
    (first >>= fun _ => second) = .ok () ↔ first = .ok () ∧ second = .ok () := by
  cases first with
  | error => exact iff_of_false (fun h => by cases h) fun h => by cases h.1
  | ok => exact (and_iff_right rfl).symm

/-! ## One count -/

theorem Listing.discard_cutPage_eq_ok_iff {R : Type} [Record R] {now : Instant} {l : Listing R} :
    discard (l.cutPage now) = .ok () ↔ l.view.PageFits (l.visible now).length := by
  rw [Listing.cutPage, Viewport.cutPage_eq]
  split
  · next hfit => exact iff_of_true rfl hfit
  · next hfit => exact iff_of_false (fun h => by cases h) hfit

section

variable {R : Type} [Record R] {now : Instant} {s : Session R}

/-- The page of the list can be counted, if the list is there. -/
def Session.PageFits (now : Instant) (s : Session R) : Prop :=
  ∀ l, s.list = some l → l.view.PageFits (l.visible now).length

theorem Session.pageFits_some {l : Listing R} (hlist : s.list = some l) :
    s.PageFits now ↔ l.view.PageFits (l.visible now).length := by
  unfold PageFits
  rw [hlist]
  simp

/-- The page is counted for an answer if rows are gone. -/
theorem Session.countAnswer_eq_ok_iff {answer : Except FetchError Nat} :
    s.countAnswer now answer = .ok () ↔ (answer.isOk = true → s.PageFits now) := by
  cases hlist : s.list with
  | none =>
    have hcount : s.countAnswer now answer = .ok () := by simp [countAnswer, hlist]
    exact iff_of_true hcount fun _ l hl => by rw [hlist] at hl; cases hl
  | some l =>
    rw [pageFits_some hlist]
    cases answer with
    | error e =>
      have hcount : s.countAnswer now (.error e) = .ok () := by simp [countAnswer, hlist]
      exact iff_of_true hcount fun h => by cases h
    | ok count =>
      have hcount : s.countAnswer now (.ok count) = discard (l.cutPage now) := by
        simp [countAnswer, hlist]
      rw [hcount, Listing.discard_cutPage_eq_ok_iff]
      exact ⟨fun h _ => h, fun h => h rfl⟩

theorem Operation.count_eq_ok_iff {l : Listing R} {op : Operation R} :
    op.count now l = .ok () ↔
      (op.countsPage = true → l.view.PageFits (l.visible now).length) := by
  unfold count
  split
  · next hcounts => rw [Listing.discard_cutPage_eq_ok_iff, forall_prop_of_true hcounts]
  · next hcounts => exact iff_of_true rfl fun h => absurd h hcounts

end

/-! ## The counts of a script -/

section

variable {R : Type} [Listed R] {now : Instant} {s : Session R}

namespace Desk

/-- Is the page counted before? -/
def Move.countsPage : Move R → Bool
  | .step (.operation op) => op.countsPage
  | .answer _ result => result.isOk
  | _ => false

/-- Counting before a move does not fail. -/
def Countable (now : Instant) (d : Desk R) (m : Move R) : Prop :=
  m.countsPage = true → d.session.PageFits now

/-- Counting does not fail along a run. -/
def Counts (d : Desk R) (moves : List (Instant × Move R)) : Prop :=
  Along (fun d m => next m.1 d m.2) (fun d m => Countable m.1 d m.2) d moves

theorem counts_cons {d : Desk R} {m : Instant × Move R} {moves : List (Instant × Move R)} :
    d.Counts (m :: moves) ↔ Countable m.1 d m.2 ∧ (d.next m.1 m.2).Counts moves := Iff.rfl

theorem counts_append {d : Desk R} {moves later : List (Instant × Move R)} :
    d.Counts (moves ++ later) ↔ d.Counts moves ∧ (d.after moves).Counts later := Along.append

theorem countable_step_iff {d : Desk R} {step : Step R} (hstep : step.isDelete = false) :
    Countable now d (.step step) ↔ step.count now d.session = .ok () := by
  cases step with
  | operation op =>
    cases hlist : d.session.list with
    | none =>
      have hcount : (Step.operation op).count now d.session = .ok () := by simp [Step.count, hlist]
      exact iff_of_true (fun _ l hl => by rw [hlist] at hl; cases hl) hcount
    | some l =>
      have hcount : (Step.operation op).count now d.session = op.count now l := by
        simp [Step.count, hlist]
      rw [hcount, Operation.count_eq_ok_iff, Countable, Session.pageFits_some hlist]
      rfl
  | act => cases hstep
  | _ => exact iff_of_true (fun h => by cases h) (by simp [Step.count])

/-- A delete that waits makes nothing harder to count. -/
theorem counts_awaiting {d : Desk R} {moves : List (Instant × Move R)} (errand : Errand)
    (h : d.Runs moves) : (awaiting errand d).Counts moves ↔ d.Counts moves := by
  induction moves generalizing d with
  | nil => exact Iff.rfl
  | cons m moves ih =>
    have hfirst : Countable m.1 (awaiting errand d) m.2 ↔ Countable m.1 d m.2 := Iff.rfl
    rw [counts_cons, counts_cons, next_awaiting m.1 errand h.1, hfirst, ih h.2]

end Desk

namespace Step

theorem count_act_of_none {action : Action} {wording : Wording}
    (h : s.errand? action wording = none) (answer : Answer) (during : List (Step R)) :
    (Step.act action wording answer during).count now s = .ok () := by
  unfold Session.errand? at h
  rw [count]
  cases hbegin : s.begin action with
  | mk s' comes =>
    cases comes with
    | calling => simp [hbegin] at h
    | _ => rfl

/-- What happens until the answer comes is counted first. -/
theorem count_act_of_some {action : Action} {wording : Wording} {errand : Errand}
    (h : s.errand? action wording = some errand) (answer : Answer) (during : List (Step R)) :
    (Step.act action wording answer during).count now s =
      (countAll now (s.atCall action errand.target) during >>= fun _ =>
        (runAll now (s.atCall action errand.target) during).countAnswer now
          (answer.to errand.target)) := by
  rw [← (Session.callMade_of_errand? h).started]
  unfold Session.errand? at h
  unfold Session.started
  rw [count]
  cases hbegin : s.begin action with
  | mk s' comes =>
    cases comes with
    | calling target accepted =>
      simp only [hbegin, Option.some.injEq] at h
      subst h
      rfl
    | _ => simp [hbegin] at h

end Step

namespace Desk

mutual

theorem counts_movesOf_iff (now : Instant) (d : Desk R) (step : Step R) :
    d.Counts (movesOf now d.session step) ↔ step.count now d.session = .ok () := by
  cases step with
  | act action wording answer during =>
    unfold movesOf
    split
    · rename_i hcall
      refine iff_of_true ?_ (Step.count_act_of_none hcall answer during)
      exact counts_cons.mpr ⟨fun h => (by cases h), trivial⟩
    · rename_i errand hcall
      -- the call is out while the rest happens, so the desk without it is looked at
      let alone : Desk R := { d with session := d.session.atCall action errand.target }
      have hbase := counts_movesOfAll_iff now alone during
      obtain ⟨hruns, hafter⟩ := after_movesOfAll now alone during
      have hstart : Countable now d (.start action wording) := fun h => (by cases h)
      have hanswer : (awaiting errand (alone.after (movesOfAll now alone.session during))).Counts
          [(now, .answer errand (answer.to errand.target))] ↔
            (Step.runAll now alone.session during).countAnswer now (answer.to errand.target) =
              .ok () := by
        rw [counts_cons, Session.countAnswer_eq_ok_iff, hafter]
        exact and_iff_left trivial
      rw [Step.count_act_of_some hcall, Miscount.andThen_eq_ok_iff, List.cons_append, counts_cons,
        next_start now hcall, and_iff_right hstart, counts_append, counts_awaiting errand hruns,
        (after_awaiting errand hruns).2, hanswer, hbase]
  | operation | announce | clear | expire | leave =>
    exact (and_iff_left trivial).trans (countable_step_iff rfl)

/-- **A script can be counted exactly if its run has a page that can be, whenever it needs one.** -/
theorem counts_movesOfAll_iff (now : Instant) (d : Desk R) (script : List (Step R)) :
    d.Counts (movesOfAll now d.session script) ↔ Step.countAll now d.session script = .ok () := by
  cases script with
  | nil => exact iff_of_true trivial (by rw [Step.countAll])
  | cons step rest =>
    have hstep := counts_movesOf_iff now d step
    have hrest := counts_movesOfAll_iff now { d with session := (step.run now d.session).1 } rest
    obtain ⟨-, hafter⟩ := after_movesOf now d step
    unfold movesOfAll
    rw [Step.countAll, Miscount.andThen_eq_ok_iff, counts_append, hstep, hafter, hrest]

end

end Desk

/-- A script that can be counted comes to what its run comes to; any other comes to nothing. -/
theorem Step.attemptAll_eq_ok_iff {script : List (Step R)} {after : Session R} :
    attemptAll now s script = .ok after ↔
      (Desk.Counts ⟨s, 0⟩ (Desk.movesOfAll now s script) ∧ runAll now s script = after) := by
  rw [Desk.counts_movesOfAll_iff now ⟨s, 0⟩ script]
  unfold attemptAll
  cases hcount : countAll now s script with
  | error e => exact iff_of_false (fun h => by cases h) fun h => by cases h.1
  | ok =>
    rw [and_iff_right rfl]
    exact ⟨fun h => by cases h; rfl, fun h => h ▸ rfl⟩

end

end WalletConsole
