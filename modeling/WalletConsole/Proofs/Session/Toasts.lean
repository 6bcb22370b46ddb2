import Mathlib
import WalletConsole.Proofs.Session.Accounts

/-!
# Toasts keep to their history

A toast is numbered when it comes up and taken down by its number: by the user, or by a timer that
was set when it came up. A timer may go off when its toast is gone and others are up, so a number
has to stand for one toast for ever. What is on the screen is then told by what has happened.

* `Toasts.Event`, `Toasts.after` — what can happen to the toasts, and the toasts after a history
* `Toasts.standing` — the toasts that have come up in a history and have not been cleared since
* `Toasts.stack_after`, `Toasts.next_after` — what a history does to toasts and numbers
* `mem_standing_iff`, `standing_ordered` — each toast has a number of its own, counted up
* `Toasts.Told` — what a history tells of the toasts
* `toasts_keep_to_history` — **so it is after every history**
* `Desk.toasts_after_eq` — in a session with deletes that overlap, toasts have a history, too
-/

namespace WalletConsole

open Calendar

namespace Toasts

/-! ## Histories -/

/-- Something that happens to the toasts. -/
inductive Event where
  | raise (level : Level) (message : String)
  | clear (id : Nat)
  deriving DecidableEq, Repr

/-- Does a toast come up? -/
def Event.isRaise : Event → Bool
  | .raise .. => true
  | .clear _ => false

/-- The toasts after an event. -/
def step (t : Toasts) : Event → Toasts
  | .raise level message => t.raise level message
  | .clear id => t.clear id

/-- The toasts after some events. -/
def after (t : Toasts) (events : List Event) : Toasts := events.foldl step t

/-- How many toasts have come up. -/
def raises (events : List Event) : Nat := events.countP Event.isRaise

/--
The toasts that come up in a history and are not cleared later in it. They are numbered from `first`
on as they come up, whether they are cleared or not.
-/
def standing (first : Nat) : List Event → List Toast
  | [] => []
  | .raise level message :: later =>
    if .clear first ∈ later then standing (first + 1) later
    else ⟨first, level, message⟩ :: standing (first + 1) later
  | .clear _ :: later => standing first later

/-! ## What a history does -/

@[simp] theorem raises_nil : raises [] = 0 := rfl

theorem raises_cons (event : Event) (events : List Event) :
    raises (event :: events) = raises [event] + raises events := by
  rw [← List.singleton_append, raises, List.countP_append, raises, raises]

/-- Every toast that comes up is counted, and nothing else is. -/
theorem next_after (t : Toasts) (events : List Event) :
    (t.after events).next = t.next + raises events := by
  induction events generalizing t with
  | nil => rfl
  | cons event later ih =>
    have hstep : (t.step event).next = t.next + raises [event] := by cases event <;> rfl
    show ((t.step event).after later).next = _
    rw [ih, hstep, raises_cons event later, Nat.add_assoc]

/-- Toasts that were up stay unless they are cleared, and those that stand come after them. -/
theorem stack_after (t : Toasts) (events : List Event) :
    (t.after events).stack =
      t.stack.filter (fun toast => .clear toast.id ∉ events) ++ standing t.next events := by
  induction events generalizing t with
  | nil => simp [after, standing]
  | cons event later ih =>
    show ((t.step event).after later).stack = _
    rw [ih]
    cases event with
    | raise level message =>
      -- the new toast is the last that is up, so it comes before those that come up later
      by_cases hcleared : Event.clear t.next ∈ later <;>
        simp [step, Toasts.raise, standing, hcleared]
    | clear id =>
      have hkept : (t.clear id).stack.filter (fun toast => .clear toast.id ∉ later) =
          t.stack.filter fun toast => .clear toast.id ∉ Event.clear id :: later := by
        rw [Toasts.clear, List.filter_filter]
        refine List.filter_congr fun toast _ => ?_
        simp [Bool.and_comm]
      rw [step, hkept]
      rfl

/-! ## Numbers -/

/-- A toast came up in a history, numbered in turn from `first` on, and was not cleared since. -/
def Stands (first : Nat) (events : List Event) (toast : Toast) : Prop :=
  ∃ before later, events = before ++ .raise toast.level toast.message :: later ∧
    toast.id = first + raises before ∧ .clear toast.id ∉ later

/-- It came up at once, or later. -/
theorem stands_cons_iff {first : Nat} {event : Event} {events : List Event} {toast : Toast} :
    Stands first (event :: events) toast ↔
      (event = .raise toast.level toast.message ∧ toast.id = first ∧ .clear toast.id ∉ events) ∨
        Stands (first + raises [event]) events toast := by
  constructor
  · rintro ⟨before, later, hevents, hid, hkept⟩
    cases before with
    | nil =>
      obtain ⟨rfl, rfl⟩ := List.cons.inj hevents
      exact .inl ⟨rfl, hid, hkept⟩
    | cons _ before =>
      obtain ⟨rfl, rfl⟩ := List.cons.inj hevents
      refine .inr ⟨before, later, rfl, ?_, hkept⟩
      rw [hid, raises_cons, Nat.add_assoc]
  · rintro (⟨rfl, hid, hkept⟩ | ⟨before, later, rfl, hid, hkept⟩)
    · exact ⟨[], events, rfl, hid, hkept⟩
    · refine ⟨event :: before, later, rfl, ?_, hkept⟩
      rw [hid, raises_cons event before, Nat.add_assoc]

theorem mem_standing_iff {first : Nat} {events : List Event} {toast : Toast} :
    toast ∈ standing first events ↔ Stands first events toast := by
  induction events generalizing first with
  | nil => simp [standing, Stands]
  | cons event events ih =>
    rw [stands_cons_iff, ← ih]
    cases event with
    | raise level message =>
      have hnew : Event.raise level message = .raise toast.level toast.message ∧
          toast.id = first ↔ toast = ⟨first, level, message⟩ := by
        obtain ⟨id, level', message'⟩ := toast
        simp only [Event.raise.injEq, Toast.mk.injEq]
        tauto
      rw [← and_assoc, hnew, show raises [.raise level message] = 1 from rfl, standing]
      split
      · next hcleared =>
        refine (or_iff_right ?_).symm
        rintro ⟨rfl, hkept⟩
        exact hkept hcleared
      · next hkept =>
        rw [List.mem_cons]
        refine or_congr_left (iff_self_and.mpr ?_)
        rintro rfl
        exact hkept
    | clear id => simp [standing, raises, Event.isRaise]

/-- Numbers are counted up, so no toast that stands has the number of another. -/
theorem standing_ordered (first : Nat) (events : List Event) :
    (standing first events).Pairwise fun a b => a.id < b.id := by
  induction events generalizing first with
  | nil => exact .nil
  | cons event events ih =>
    cases event with
    | raise level message =>
      rw [standing]
      split
      · exact ih _
      · refine .cons (fun toast htoast => ?_) (ih _)
        obtain ⟨before, later, -, hid, -⟩ := mem_standing_iff.mp htoast
        show first < toast.id
        omega
    | clear id => exact ih first

/-- A history up to the toast with some number is told by the number. -/
theorem eq_of_raises_eq {before before' later later' : List Event} {level level' : Level}
    {message message' : String}
    (h : before ++ .raise level message :: later = before' ++ .raise level' message' :: later')
    (hid : raises before = raises before') :
    before = before' ∧ level = level' ∧ message = message' ∧ later = later' := by
  have hcount (level : Level) (message : String) (events : List Event) :
      raises (.raise level message :: events) = 1 + raises events := raises_cons _ events
  induction before generalizing before' with
  | nil =>
    cases before' with
    | nil => simpa [and_assoc] using h
    | cons event before' =>
      obtain ⟨rfl, -⟩ := List.cons.inj h
      rw [hcount, raises_nil] at hid
      omega
  | cons event before ih =>
    cases before' with
    | nil =>
      obtain ⟨rfl, -⟩ := List.cons.inj h
      rw [hcount, raises_nil] at hid
      omega
    | cons event' before' =>
      obtain ⟨rfl, hrest⟩ := List.cons.inj h
      rw [raises_cons event before, raises_cons event before'] at hid
      obtain ⟨rfl, hsame⟩ := ih hrest (by omega)
      exact ⟨rfl, hsame⟩

/-! ## What a history tells -/

section

variable {events before later : List Event} {level : Level} {message : String} {toast : Toast}

theorem next_none_after (events : List Event) : (none.after events).next = raises events := by
  rw [next_after]
  exact Nat.zero_add _

theorem stack_none_after (events : List Event) : (none.after events).stack = standing 0 events :=
  stack_after none events

theorem up_iff : toast ∈ (none.after events).stack ↔ ∃ before later,
    events = before ++ .raise toast.level toast.message :: later ∧
      toast.id = raises before ∧ .clear toast.id ∉ later := by
  rw [stack_none_after, mem_standing_iff, Stands]
  simp only [Nat.zero_add]

/-- A toast that is up with the number of some toast is this toast, and it was not cleared since. -/
theorem eq_of_up (h : events = before ++ .raise level message :: later)
    (hup : toast ∈ (none.after events).stack) (hid : toast.id = raises before) :
    toast = ⟨raises before, level, message⟩ ∧ .clear (raises before) ∉ later := by
  obtain ⟨before', later', hevents, hid', hkept⟩ := up_iff.mp hup
  obtain ⟨rfl, rfl, rfl, rfl⟩ := eq_of_raises_eq (h.symm.trans hevents) (hid.symm.trans hid')
  exact ⟨by rw [← hid], hid ▸ hkept⟩

theorem id_lt_of_up (hup : toast ∈ (none.after events).stack) : toast.id < raises events := by
  obtain ⟨before, later, rfl, hid, -⟩ := up_iff.mp hup
  rw [hid, raises, raises, List.countP_append, List.countP_cons_of_pos rfl]
  omega

/-- To clear a number takes nothing away unless a toast with this number is up. -/
theorem clear_eq_self {t : Toasts} {id : Nat} (h : ∀ toast ∈ t.stack, toast.id ≠ id) :
    t.clear id = t := by
  have hstack : t.stack.filter (fun toast => toast.id ≠ id) = t.stack :=
    List.filter_eq_self.mpr fun toast htoast => decide_eq_true (h toast htoast)
  rw [clear, hstack]

/-- To clear the number of a toast takes away this toast, if it is up. -/
theorem clear_none_after (h : events = before ++ .raise level message :: later) :
    ((none.after events).clear (raises before)).stack =
      (none.after events).stack.erase ⟨raises before, level, message⟩ := by
  have hordered := stack_none_after events ▸ standing_ordered 0 events
  have hnodup : (none.after events).stack.Nodup :=
    hordered.imp fun hlt heq => absurd (heq ▸ hlt) (Nat.lt_irrefl _)
  rw [hnodup.erase_eq_filter]
  refine List.filter_congr fun toast hup => ?_
  have hsame : toast.id = raises before ↔ toast = ⟨raises before, level, message⟩ :=
    ⟨fun hid => (eq_of_up h hup hid).1, fun heq => congrArg Toast.id heq⟩
  simp [bne, beq_eq_decide, hsame]

end

/-- What a history tells of the toasts at its end. -/
structure Told (events : List Event) (t : Toasts) : Prop where
  /-- the toasts are those that came up, numbered 0, 1, 2, … in turn, and were not cleared since -/
  up_iff : ∀ toast, toast ∈ t.stack ↔ ∃ before later,
    events = before ++ .raise toast.level toast.message :: later ∧
      toast.id = raises before ∧ .clear toast.id ∉ later
  /-- they are in the order in which they came up -/
  ordered : t.stack.Pairwise fun a b => a.id < b.id
  stack : t.stack = standing 0 events
  /-- the next toast gets the next number, whatever is up -/
  numbered : ∀ level message,
    (t.raise level message).stack = t.stack ++ [⟨raises events, level, message⟩]
  /-- to clear a number takes away the toast that was given it, and no other -/
  clears : ∀ before level message later, events = before ++ .raise level message :: later →
    (t.clear (raises before)).stack = t.stack.erase ⟨raises before, level, message⟩
  /-- and nothing at all if that toast was cleared before -/
  late : ∀ before level message later, events = before ++ .raise level message :: later →
    .clear (raises before) ∈ later → t.clear (raises before) = t
  /-- nor if the number was not given to any toast -/
  unknown : ∀ id, raises events ≤ id → t.clear id = t
  /-- a machine word has numbers enough -/
  words : raises events < UInt64.size →
    t.next < UInt64.size ∧ ∀ toast ∈ t.stack, toast.id < UInt64.size

/--
**Toasts keep to their history.** Whatever comes up and is cleared, early, late or in vain, the
toasts that are up are those that were not cleared since they came up, in the order in which they
did, and to clear a number can take away nothing but the toast that was given it.
-/
theorem toasts_keep_to_history (events : List Event) : Told events (none.after events) where
  up_iff _ := up_iff
  ordered := stack_none_after events ▸ standing_ordered 0 events
  stack := stack_none_after events
  numbered level message := by rw [raise, next_none_after]
  clears _ _ _ _ h := clear_none_after h
  late before level message later h hcleared :=
    clear_eq_self fun _ hup hid => (eq_of_up h hup hid).2 hcleared
  unknown id hid := clear_eq_self fun _ hup heq => absurd (id_lt_of_up hup) (by omega)
  words hfew := by
    rw [next_none_after]
    exact ⟨hfew, fun _ hup => (id_lt_of_up hup).trans hfew⟩

/-- The timer of the first toast goes off when the user has cleared it and another one is up. -/
example : (none.after [.raise .info "one", .clear 0, .raise .error "two", .clear 0]).stack =
    [⟨1, .error, "two"⟩] := by decide

end Toasts

/-! ## The toasts of a session -/

namespace Desk

variable {R : Type} [Listed R] {d : Desk R} {moves : List (Instant × Move R)}

/-- What a move does to the toasts, as events. -/
def Move.toastEvents : Move R → List Toasts.Event
  | .step (.announce level message) => [.raise level message]
  | .step (.clear toast) => [.clear toast]
  | .answer errand (.ok count) =>
    [.raise .success (Session.doneMessage errand.wording errand.target count)]
  | .answer errand (.error e) =>
    [.raise .error (Session.failedMessage errand.wording errand.target e)]
  | _ => []

theorem Move.onToasts_eq (m : Move R) (t : Toasts) : m.onToasts t = t.after m.toastEvents := by
  cases m with
  | step step => cases step <;> rfl
  | start => rfl
  | answer errand answer => cases answer <;> rfl

/-- **In a session toasts keep to a history, too**, however deletes overlap in it. -/
theorem toasts_after_eq (h : d.Runs moves) :
    (d.after moves).session.toasts = d.session.toasts.after (moves.flatMap (·.2.toastEvents)) := by
  rw [toasts_after h, Toasts.after, List.foldl_flatMap]
  simp only [Move.onToasts_eq]
  rfl

end Desk

end WalletConsole
