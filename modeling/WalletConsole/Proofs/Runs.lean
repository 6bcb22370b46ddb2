/-!
# Runs

A run is a list of moves that are made one after another. What may be done can depend on the state
it is done to, so a run is lawful move by move.

* `Along` — every move of a run meets a condition in the state in which it is made
* `Along.keeps` — what every single move keeps, the whole run keeps
* `forall_passed_iff` — what holds of all states that a run passes through, said move by move
* `forall_passed_or_exists_turn` — what holds in the end holds since some move, or all along
-/

namespace WalletConsole

variable {S M : Type}

/-- Every move of a run meets a condition in the state in which it is made. -/
def Along (step : S → M → S) (fit : S → M → Prop) : S → List M → Prop
  | _, [] => True
  | s, m :: ms => fit s m ∧ Along step fit (step s m) ms

instance Along.decidable (step : S → M → S) (fit : S → M → Prop) [∀ s m, Decidable (fit s m)] :
    ∀ s ms, Decidable (Along step fit s ms)
  | _, [] => .isTrue trivial
  | s, m :: ms =>
    have := Along.decidable step fit (step s m) ms
    inferInstanceAs (Decidable (fit s m ∧ Along step fit (step s m) ms))

namespace Along

variable {step : S → M → S} {fit fit' : S → M → Prop} {s : S} {ms ns : List M}

theorem append : Along step fit s (ms ++ ns) ↔
    Along step fit s ms ∧ Along step fit (ms.foldl step s) ns := by
  induction ms generalizing s with
  | nil => simp [Along]
  | cons m ms ih => simp [Along, ih, and_assoc]

/-- **What every fitting move keeps, a run of fitting moves keeps.** -/
theorem keeps (Inv : S → Prop) (hstep : ∀ s m, fit s m → Inv s → Inv (step s m))
    (h : Along step fit s ms) (hs : Inv s) : Inv (ms.foldl step s) := by
  induction ms generalizing s with
  | nil => exact hs
  | cons m ms ih => exact ih h.2 (hstep s m h.1 hs)

end Along

/--
If a fitting move leads from a good state to a good one exactly under a condition, a run of fitting
moves passes through good states only exactly if every move of it meets that condition.
-/
theorem forall_passed_iff {step : S → M → S} {fit cond : S → M → Prop} {Good : S → Prop}
    (hstep : ∀ s m, fit s m → Good s → (Good (step s m) ↔ cond s m)) {s : S} {ms : List M}
    (h : Along step fit s ms) (hs : Good s) :
    (∀ passed, passed <+: ms → Good (passed.foldl step s)) ↔ Along step cond s ms := by
  induction ms generalizing s with
  | nil => simp [Along, hs]
  | cons m ms ih =>
    constructor
    · intro hall
      have hm : Good (step s m) := hall [m] (by simp)
      refine ⟨(hstep s m h.1 hs).mp hm, (ih h.2 hm).mp ?_⟩
      intro passed hp
      exact hall (m :: passed) (by simpa using hp)
    · rintro ⟨hc, hrest⟩ passed hp
      have hm : Good (step s m) := (hstep s m h.1 hs).mpr hc
      cases passed with
      | nil => exact hs
      | cons m' passed =>
        obtain ⟨rfl, hpassed⟩ := List.cons_prefix_cons.mp hp
        exact (ih h.2 hm).mpr hrest passed hpassed

/--
What holds at the end of a run has held ever since some move brought it about, or has held all
along.
-/
theorem forall_passed_or_exists_turn {step : S → M → S} {P : S → Prop} {s : S} {ms : List M}
    (h : P (ms.foldl step s)) :
    (∀ passed, passed <+: ms → P (passed.foldl step s)) ∨
      ∃ before m later, ms = before ++ m :: later ∧ ¬ P (before.foldl step s) ∧
        ∀ passed, passed <+: later → P ((before ++ m :: passed).foldl step s) := by
  induction ms generalizing s with
  | nil =>
    left
    intro passed hp
    rw [List.prefix_nil.mp hp]
    exact h
  | cons m ms ih =>
    rcases ih h with hall | ⟨before, turn, later, rfl, hbefore, hlater⟩
    · by_cases hs : P s
      · left
        intro passed hp
        cases passed with
        | nil => exact hs
        | cons m' passed =>
          obtain ⟨rfl, hpassed⟩ := List.cons_prefix_cons.mp hp
          exact hall passed hpassed
      · exact .inr ⟨[], m, ms, rfl, hs, hall⟩
    · exact .inr ⟨m :: before, turn, later, rfl, hbefore, hlater⟩

end WalletConsole
