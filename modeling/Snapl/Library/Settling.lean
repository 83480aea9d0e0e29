import Mathlib.Data.Nat.Find
import Mathlib.Data.Nat.Init

/-!
# States that settle

Actions of which none changes anything once any of them was applied.  A run may
apply them again and again, in any order and with pauses: its state changes at
the first of them at most, and is what that one made of the first state.
-/

namespace Snapl.Library

section Settling

variable {State Action : Type} (apply : Action → State → State)

/-- Whatever action was applied, no action changes the state any more. -/
def Absorbing : Prop :=
  ∀ first second state, apply second (apply first state) = apply first state

/-- The states of a run from `start` on, which applies an action or pauses at each time. -/
def RunsFrom (start : Nat) (taken : Nat → Option Action) (state : Nat → State) : Prop :=
  ∀ time, start ≤ time →
    state (time + 1) = (taken time).elim (state time) fun action => apply action (state time)

variable {apply} {start : Nat} {taken : Nat → Option Action} {state : Nat → State}

/-- Nothing changes before the first action. -/
theorem RunsFrom.unchanged
    (runs : RunsFrom apply start taken state) {time : Nat} (later : start ≤ time)
    (paused : ∀ earlier, start ≤ earlier → earlier < time → taken earlier = none) :
    state time = state start := by
  induction time, later using Nat.le_induction with
  | base => rfl
  | succ time later induction =>
      rw [runs time later, paused time later (Nat.lt_succ_self time), Option.elim_none]
      exact induction fun earlier begun before =>
        paused earlier begun (Nat.lt_succ_of_lt before)

/-- A state in which no action changes anything is kept. -/
theorem RunsFrom.kept
    (runs : RunsFrom apply start taken state) {time later : Nat} (begun : start ≤ time)
    (fixed : ∀ action, apply action (state time) = state time) (after : time ≤ later) :
    state later = state time := by
  induction later, after using Nat.le_induction with
  | base => rfl
  | succ later after induction =>
      rw [runs later (Nat.le_trans begun after), induction]
      rcases taken later with _ | action
      · rfl
      · exact fixed action

/-- After an action the state is what the first action made of the first state. -/
theorem RunsFrom.first
    (runs : RunsFrom apply start taken state) (absorbing : Absorbing apply)
    {time : Nat} (begun : start ≤ time) {action : Action} (acted : taken time = some action) :
    ∃ first initial, start ≤ first ∧ first ≤ time ∧ taken first = some initial ∧
      state (time + 1) = apply initial (state start) := by
  classical
  have some : ∃ first, start ≤ first ∧ taken first ≠ none :=
    ⟨time, begun, by simp [acted]⟩
  obtain ⟨later, present⟩ := Nat.find_spec some
  have earliest : Nat.find some ≤ time := Nat.find_min' some ⟨begun, by simp [acted]⟩
  obtain ⟨initial, taking⟩ := Option.ne_none_iff_exists'.1 present
  have paused : ∀ earlier, start ≤ earlier → earlier < Nat.find some →
      taken earlier = none := by
    intro earlier started before
    by_contra acting
    exact Nat.find_min some before ⟨started, acting⟩
  have changed : state (Nat.find some + 1) = apply initial (state start) := by
    rw [runs _ later, taking, Option.elim_some, runs.unchanged later paused]
  refine ⟨Nat.find some, initial, later, earliest, taking, ?_⟩
  rw [← changed]
  refine runs.kept (Nat.le_trans later (Nat.le_succ _)) ?_ (Nat.succ_le_succ earliest)
  intro other
  rw [changed]
  exact absorbing initial other (state start)

/-- After an action the state is kept for good. -/
theorem RunsFrom.settled
    (runs : RunsFrom apply start taken state) (absorbing : Absorbing apply)
    {time : Nat} (begun : start ≤ time) {action : Action} (acted : taken time = some action)
    {later : Nat} (after : time < later) : state later = state (time + 1) := by
  refine runs.kept (Nat.le_trans begun (Nat.le_succ _)) ?_ after
  intro other
  rw [runs time begun, acted, Option.elim_some]
  exact absorbing action other (state time)

end Settling

end Snapl.Library
