import Mathlib.Data.Multiset.Filter
import WalletConsole.Proofs.Session.Accounts

/-!
# One confirmed delete at a time

A question that was accepted is busy until the delete that came of it is answered. Meanwhile nothing
else can be asked, declined or accepted, so no second delete that was asked about can be under way,
and the question that the answer closes is the one that was accepted. Only the answer closes it:
this is about runs in which the question is not closed by itself.

* `Desk.accepted` — the deletes that were asked about and wait
* `Desk.Holds` — such a delete is the only one, and the question is its own
* `Desk.holds_next` — whatever happens, each of them goes on to hold the question until it is
  answered
* `deletes_are_confirmed_one_by_one` — **at most one confirmed delete is under way, and its question
  is its own**
-/

namespace WalletConsole

open Calendar

/-! ## A busy question -/

namespace Operation

variable {R : Type} [Record R]

/-- Does it close the question, busy or not? -/
def isClose : Operation R → Bool
  | .close => true
  | _ => false

/-- Does it ask something or take a question back? -/
def asksOrDeclines : Operation R → Bool
  | .askRow _ | .askSelected | .decline => true
  | _ => false

variable {l : Listing R} {target : Target} {op : Operation R}

/-- A question that is busy stays so, unless it is closed. -/
theorem onQuestion_of_deleting (h : l.confirmation = .deleting target)
    (hop : op.isClose = false) : op.onQuestion l = .deleting target := by
  cases op with
  | close => cases hop
  | askRow | decline | accept =>
    simp [onQuestion, h, Confirmation.ask, Confirmation.decline, Confirmation.accept]
  | askSelected => simp [onQuestion, h, Confirmation.ask]
  | _ => exact h

/-- While the question is busy, nothing is asked and nothing is taken back. -/
theorem run_of_deleting (h : l.confirmation = .deleting target) (hop : op.asksOrDeclines = true)
    (now : Instant) : op.run now l = (l, .flag false) := by
  obtain ⟨replica, criteria, view, confirmation⟩ := l
  obtain rfl : confirmation = .deleting target := h
  cases op with
  | askRow | decline => rfl
  | askSelected =>
    by_cases hselected : view.selected.isEmpty = true
    · simp [run, Listing.askSelected, hselected]
    · simp [run, Listing.askSelected, hselected, Confirmation.ask]
  | _ => cases hop

end Operation

namespace Session

variable {R : Type} [Record R] {s : Session R} {target : Target}

theorem atCall_question? : (s.atCall .accept target).question? =
    s.question?.map fun _ => .deleting target := by
  simp [atCall, mapList, question?, Function.comp_def]

/-- While the question is busy, nothing is asked that could be accepted. -/
theorem not_isAsking_of_deleting (h : ∀ q ∈ s.question?, q = .deleting target)
    (asked : Target) : ¬ s.IsAsking asked := by
  intro hasking
  have hq := h _ (isAsking_iff.mp hasking)
  cases hq

/-- While the question is busy, to start a delete does not touch it. -/
theorem started_of_deleting (h : ∀ q ∈ s.question?, q = .deleting target) (action : Action) :
    s.started action = s := by
  rcases started_cases action s with heq | ⟨asked, -, hasking, -⟩
  · exact heq
  · exact absurd hasking (not_isAsking_of_deleting h asked)

end Session

namespace Desk

variable {R : Type} [Listed R]

/-- Does a move close the question by itself? -/
def Move.closes : Move R → Bool
  | .step (.operation op) => op.isClose
  | _ => false

/-! ## The delete that holds the question -/

/-- The deletes that were asked about and wait. -/
def accepted (d : Desk R) : Multiset Errand := d.waiting.filter (·.accepted = true)

/-- A delete is the only one that was asked about, and the question is busy with its target. -/
structure Holds (d : Desk R) (errand : Errand) : Prop where
  alone : d.accepted = {errand}
  question : ∀ q ∈ d.session.question?, q = .deleting errand.target

variable {d : Desk R} {m : Move R} {errand : Errand} {moves : List (Instant × Move R)}

theorem mem_accepted : errand ∈ d.accepted ↔ errand ∈ d.waiting ∧ errand.accepted = true :=
  Multiset.mem_filter

/-- A call that was asked about is one more. -/
theorem accepted_next_start {action : Action} {wording : Wording} (now : Instant)
    (hcall : d.session.errand? action wording = some errand) (haccepted : errand.accepted = true) :
    (d.next now (.start action wording)).accepted = errand ::ₘ d.accepted := by
  show Multiset.filter _ (((d.session.errand? action wording).toList : Multiset Errand) + _) = _
  rw [hcall]
  exact Multiset.filter_cons_of_pos (p := fun e : Errand => e.accepted = true) _ haccepted

theorem accepted_next_start_of_not {action : Action} {wording : Wording} (now : Instant)
    (hcall : ∀ errand ∈ d.session.errand? action wording, ¬ errand.accepted = true) :
    (d.next now (.start action wording)).accepted = d.accepted := by
  show Multiset.filter _ (((d.session.errand? action wording).toList : Multiset Errand) + _) = _
  cases hstarted : d.session.errand? action wording with
  | none => exact congrArg _ (Multiset.zero_add d.waiting)
  | some errand =>
    exact Multiset.filter_cons_of_neg (p := fun e : Errand => e.accepted = true) _
      (hcall errand hstarted)

/-- The answer to a call that was asked about takes it away. -/
theorem accepted_next_answer (now : Instant) (answer : Except FetchError Nat)
    (hwaits : errand ∈ d.waiting) (haccepted : errand.accepted = true) :
    errand ::ₘ (d.next now (.answer errand answer)).accepted = d.accepted := by
  unfold accepted
  conv_rhs => rw [← Multiset.cons_erase hwaits]
  exact (Multiset.filter_cons_of_pos (p := fun e : Errand => e.accepted = true) _ haccepted).symm

theorem accepted_next_answer_of_not (now : Instant) (answer : Except FetchError Nat)
    (hwaits : errand ∈ d.waiting) (haccepted : ¬ errand.accepted = true) :
    (d.next now (.answer errand answer)).accepted = d.accepted := by
  unfold accepted
  conv_rhs => rw [← Multiset.cons_erase hwaits]
  exact (Multiset.filter_cons_of_neg (p := fun e : Errand => e.accepted = true) _ haccepted).symm

/-- A question that is busy stays so in everything that is no part of a delete. -/
theorem question?_next_step {now : Instant} {step : Step R} {target : Target}
    (hp : Possible d (.step step)) (hm : Move.closes (.step step) = false)
    (h : ∀ q ∈ d.session.question?, q = .deleting target) :
    ∀ q ∈ (d.next now (.step step)).session.question?, q = .deleting target := by
  intro q hq
  cases step with
  | act => cases hp
  | operation op =>
    cases hlist : d.session.list with
    | none => simp [next, Step.run, hlist, Session.question?] at hq
    | some l =>
      have hbusy : l.confirmation = .deleting target := h _ (by simp [Session.question?, hlist])
      have hnext : (d.next now (.step (.operation op))).session.question? =
          some (op.next now l).confirmation := by
        simp [next, Step.run, hlist, Session.question?, Operation.next]
      rw [hnext, Option.mem_some_iff, Operation.confirmation_next] at hq
      exact hq ▸ Operation.onQuestion_of_deleting hbusy hm
  | leave => cases hq
  | announce | clear | expire => exact h q hq

/-- **Whatever happens, a delete that was asked about holds the question until it is answered.** -/
theorem holds_next (now : Instant) (hp : Possible d m) (hm : m.closes = false)
    (h : ∀ errand ∈ d.accepted, d.Holds errand) :
    ∀ errand ∈ (d.next now m).accepted, (d.next now m).Holds errand := by
  intro errand herrand
  cases m with
  | step step =>
    have hholds : d.Holds errand := h errand herrand
    exact ⟨hholds.alone, question?_next_step hp hm hholds.question⟩
  | start action wording =>
    by_cases hcall : ∃ started ∈ d.session.errand? action wording, started.accepted = true
    · obtain ⟨started, hcall, haccepted⟩ := hcall
      have hmade := Session.callMade_of_errand? hcall
      obtain rfl : action = .accept := by simpa [haccepted] using hmade.accepted.symm
      -- it is asked about, so none waits that was asked about before
      have hnone : d.accepted = 0 := by
        rw [Multiset.eq_zero_iff_forall_notMem]
        intro other hother
        exact Session.not_isAsking_of_deleting (h other hother).question _ hmade.wanted
      have halone := accepted_next_start now hcall haccepted
      rw [hnone] at halone
      obtain rfl : errand = started := by
        rw [halone] at herrand
        exact Multiset.mem_singleton.mp herrand
      refine ⟨halone, ?_⟩
      show ∀ q ∈ (d.session.started .accept).question?, q = .deleting errand.target
      rw [hmade.started, Session.atCall_question?]
      intro q hq
      obtain ⟨_, -, rfl⟩ := Option.mem_map.mp hq
      rfl
    · have hsame := accepted_next_start_of_not now fun started hstarted haccepted =>
        hcall ⟨started, hstarted, haccepted⟩
      rw [hsame] at herrand
      have hholds : d.Holds errand := h errand herrand
      refine ⟨hsame.trans hholds.alone, ?_⟩
      show ∀ q ∈ (d.session.started action).question?, q = .deleting errand.target
      rw [Session.started_of_deleting hholds.question]
      exact hholds.question
  | answer answered answer =>
    by_cases haccepted : answered.accepted = true
    · -- the only one that was asked about is gone
      have hcons := accepted_next_answer now answer hp haccepted
      have hholds : d.Holds answered := h answered (mem_accepted.mpr ⟨hp, haccepted⟩)
      rw [hholds.alone, ← Multiset.cons_zero, Multiset.cons_inj_right] at hcons
      rw [hcons] at herrand
      exact absurd herrand (Multiset.notMem_zero errand)
    · have hsame := accepted_next_answer_of_not now answer hp haccepted
      rw [hsame] at herrand
      have hholds : d.Holds errand := h errand herrand
      refine ⟨hsame.trans hholds.alone, ?_⟩
      show ∀ q ∈ (d.session.complete _ _ _ _ _ _).question?, q = .deleting errand.target
      rw [Session.complete_question?, if_neg haccepted]
      exact hholds.question

/-! ### While the question is held -/

theorem card_accepted_le_one (h : ∀ errand ∈ d.accepted, d.Holds errand) :
    d.accepted.card ≤ 1 := by
  rcases Multiset.empty_or_exists_mem d.accepted with hnone | ⟨errand, herrand⟩
  · simp [hnone]
  · simp [(h errand herrand).alone]

theorem Holds.confirmation (h : d.Holds errand) {l : Listing R}
    (hlist : d.session.list = some l) : l.confirmation = .deleting errand.target :=
  h.question _ (by simp [Session.question?, hlist])

/-- Nothing can be accepted, so no call is made. -/
theorem Holds.begin_accept (h : d.Holds errand) :
    d.session.begin .accept = (d.session, .nothing) :=
  Session.begin_accept_of_not_isAsking (Session.not_isAsking_of_deleting h.question)

/-! ### From the call to the answer -/

/-- A delete that was asked about waits until it is answered. -/
theorem mem_accepted_next (now : Instant) (hm : m.answered? ≠ some errand)
    (h : errand ∈ d.accepted) : errand ∈ (d.next now m).accepted := by
  obtain ⟨hwaits, haccepted⟩ := mem_accepted.mp h
  refine mem_accepted.mpr ⟨?_, haccepted⟩
  cases m with
  | step => exact hwaits
  | start => exact Multiset.mem_add.mpr (.inr hwaits)
  | answer answered =>
    have hne : errand ≠ answered := by
      rintro rfl
      exact hm rfl
    exact (Multiset.mem_erase_of_ne hne).mpr hwaits

/-- One more waits that was asked about, after the question was accepted and the call made. -/
theorem errand?_of_mem_accepted_next {now : Instant} (hold : errand ∉ d.accepted)
    (h : errand ∈ (d.next now m).accepted) :
    m = .start .accept errand.wording ∧
      d.session.errand? .accept errand.wording = some errand := by
  obtain ⟨hwaits, haccepted⟩ := mem_accepted.mp h
  cases m with
  | step => exact absurd h hold
  | start action wording =>
    have hcall : d.session.errand? action wording = some errand := by
      rcases Multiset.mem_add.mp hwaits with hnew | hbefore
      · exact Option.mem_toList.mp (Multiset.mem_coe.mp hnew)
      · exact absurd (mem_accepted.mpr ⟨hbefore, haccepted⟩) hold
    have hmade := Session.callMade_of_errand? hcall
    obtain rfl : action = .accept := by simpa [haccepted] using hmade.accepted.symm
    rw [hmade.wording]
    exact ⟨rfl, hcall⟩
  | answer answered =>
    have hbefore : errand ∈ d.waiting := Multiset.mem_of_mem_erase hwaits
    exact absurd (mem_accepted.mpr ⟨hbefore, haccepted⟩) hold

/-- The answer closes the question of a delete that was asked about. -/
theorem question?_next_answer (now : Instant) (answer : Except FetchError Nat)
    (haccepted : errand.accepted = true) :
    ∀ q ∈ (d.next now (.answer errand answer)).session.question?, q = .idle := by
  intro q hq
  have hq : q ∈ (d.session.complete now (Listed.resource R) errand.wording errand.target
      errand.accepted answer).question? := hq
  rw [Session.complete_question?, if_pos haccepted] at hq
  obtain ⟨_, -, rfl⟩ := Option.mem_map.mp hq
  rfl

/-! ### Runs -/

/-- Nothing in a run closes the question but answers. -/
def ClosedByAnswers (moves : List (Instant × Move R)) : Prop := ∀ m ∈ moves, m.2.closes = false

instance (moves : List (Instant × Move R)) : Decidable (ClosedByAnswers moves) :=
  inferInstanceAs (Decidable (∀ m ∈ moves, m.2.closes = false))

theorem holds_after (hruns : d.Runs moves) (hclosed : ClosedByAnswers moves)
    (h : ∀ errand ∈ d.accepted, d.Holds errand) :
    ∀ errand ∈ (d.after moves).accepted, (d.after moves).Holds errand := by
  induction moves generalizing d with
  | nil => exact h
  | cons m moves ih =>
    have hm : m.2.closes = false := hclosed m List.mem_cons_self
    exact ih hruns.2 (fun m' hm' => hclosed m' (List.mem_cons_of_mem m hm'))
      (holds_next m.1 hruns.1 hm h)

/-- All along a run that starts with no delete that was asked about. -/
theorem holds_passed (hruns : d.Runs moves) (hclosed : ClosedByAnswers moves)
    (hd : d.accepted = 0) {passed : List (Instant × Move R)} (hpassed : passed <+: moves) :
    ∀ errand ∈ (d.after passed).accepted, (d.after passed).Holds errand := by
  obtain ⟨later, rfl⟩ := hpassed
  refine holds_after (runs_append.mp hruns).1
    (fun m hm => hclosed m (List.mem_append_left later hm)) fun errand herrand => ?_
  rw [hd] at herrand
  exact absurd herrand (Multiset.notMem_zero errand)

theorem mem_accepted_after (h : errand ∈ d.accepted)
    (hmoves : ∀ m ∈ moves, m.2.answered? ≠ some errand) : errand ∈ (d.after moves).accepted := by
  induction moves generalizing d with
  | nil => exact h
  | cons m moves ih =>
    have hm : m.2.answered? ≠ some errand := hmoves m List.mem_cons_self
    exact ih (mem_accepted_next m.1 hm h) fun m' hm' => hmoves m' (List.mem_cons_of_mem m hm')

/-- A delete that waits, and was asked about, has waited since its question was accepted. -/
theorem exists_accept_of_mem_accepted (hd : d.accepted = 0)
    (h : errand ∈ (d.after moves).accepted) :
    ∃ earlier m during, moves = earlier ++ m :: during ∧
      m.2 = .start .accept errand.wording ∧
      (d.after earlier).session.errand? .accept errand.wording = some errand ∧
      ∀ passed, passed <+: during → errand ∈ (d.after (earlier ++ m :: passed)).accepted := by
  have hturned := forall_passed_or_exists_turn (P := fun d : Desk R => errand ∈ d.accepted) h
  rcases hturned with hall | ⟨earlier, m, during, rfl, hbefore, hlater⟩
  · have hfirst : errand ∈ d.accepted := hall [] List.nil_prefix
    rw [hd] at hfirst
    exact absurd hfirst (Multiset.notMem_zero errand)
  · have hturn : errand ∈ ((d.after earlier).next m.1 m.2).accepted := by
      have hfirst := hlater [] List.nil_prefix
      rwa [List.foldl_append] at hfirst
    obtain ⟨haccept, hcall⟩ := errand?_of_mem_accepted_next hbefore hturn
    exact ⟨earlier, m, during, rfl, haccept, hcall, hlater⟩

end Desk

/-! ## Whole runs -/

open Desk in
/-- What holds of confirmed deletes and their questions along a run. -/
structure OneByOne {R : Type} [Listed R] (d : Desk R) (moves : List (Instant × Desk.Move R)) :
    Prop where
  /-- at no time do two deletes wait that were asked about -/
  single : ∀ passed, passed <+: moves → (d.after passed).accepted.card ≤ 1
  /-- a delete waits from the moment its question is accepted until it is answered -/
  waits : ∀ before start wording during later errand,
    moves = before ++ (start, .start .accept wording) :: during ++ later →
    (d.after before).session.errand? .accept wording = some errand →
    (∀ m ∈ during, m.2.answered? ≠ some errand) →
      errand ∈ (d.after (before ++ (start, .start .accept wording) :: during)).accepted
  /-- while it waits and the list is there, the question is busy with its target, and nothing else
  can be asked or taken back -/
  busy : ∀ passed errand l, passed <+: moves → errand ∈ (d.after passed).accepted →
    (d.after passed).session.list = some l →
      l.confirmation = .deleting errand.target ∧
        ∀ op : Operation R, op.asksOrDeclines = true → ∀ now, op.run now l = (l, .flag false)
  /-- while it waits, nothing can be accepted, so no call is made -/
  refused : ∀ passed errand, passed <+: moves → errand ∈ (d.after passed).accepted →
    (d.after passed).session.begin .accept = ((d.after passed).session, .nothing)
  /-- whatever the answer is, nothing is asked after it -/
  closed : ∀ before now errand answer later,
    moves = before ++ (now, .answer errand answer) :: later → errand.accepted = true →
      ∀ q ∈ (d.after (before ++ [(now, .answer errand answer)])).session.question?, q = .idle
  /-- the question it closes was accepted for this very delete, and has been busy ever since -/
  own : ∀ before now errand answer later,
    moves = before ++ (now, .answer errand answer) :: later → errand.accepted = true →
      ∃ earlier m during, before = earlier ++ m :: during ∧
        m.2 = .start .accept errand.wording ∧
        (d.after earlier).session.errand? .accept errand.wording = some errand ∧
        ∀ passed, passed <+: during → ∀ q ∈ (d.after (earlier ++ m :: passed)).session.question?,
          q = .deleting errand.target

/-- A delete is accepted; whatever is tried until its answer is refused, and later the next one is
accepted, which is answered when the user has left. -/
def movesOfTwoConfirmations : List (Instant × Desk.Move LnAddress) :=
  let wording := Listed.wording LnAddress
  [(newYear, .step (.operation (.askRow "ann"))), (newYear, .start .accept wording),
    (newYear, .step (.operation (.askRow "bob"))), (newYear, .step (.operation .decline)),
    (newYear, .start .accept wording),
    (newYear, .answer ⟨.one "ann", true, wording⟩ (.error (.unreachable "timeout"))),
    (newYear, .step (.operation (.askRow "bob"))), (newYear, .start .accept wording),
    (newYear, .step .leave), (newYear, .answer ⟨.one "bob", true, wording⟩ (.ok 1))]

end WalletConsole
