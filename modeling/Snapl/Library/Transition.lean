import Mathlib.Data.List.Basic

/-!
# Runs of a transition system

A transition is partial: an action that is not enabled has no next state.  A
list of actions is taken from a state up to the first action that is not
enabled, and `steps` lists the states met with the actions taken there.

An invariant need only survive the steps a run is allowed to take: a run whose
steps are all allowed keeps it.
-/

namespace Snapl.Library

variable {State Action : Type}

/-- A partial transition for each action. -/
abbrev Transition (State Action : Type) : Type := State → Action → Option State

namespace Transition

variable (step : Transition State Action)

/-- The state a run of these actions reaches. -/
def reached (state : State) : List Action → State
  | [] => state
  | action :: rest =>
      match step state action with
      | none => state
      | some next => reached next rest

/-- The states a run of these actions meets, with the actions taken there. -/
def steps (state : State) : List Action → List (State × Action)
  | [] => []
  | action :: rest =>
      match step state action with
      | none => []
      | some next => (state, action) :: steps next rest

variable {step} {state next : State} {action : Action} {rest : List Action}

theorem reached_cons (moves : step state action = some next) :
    step.reached state (action :: rest) = step.reached next rest := by
  rw [reached, moves]

theorem steps_cons (moves : step state action = some next) :
    step.steps state (action :: rest) = (state, action) :: step.steps next rest := by
  rw [steps, moves]

theorem steps_stuck (stuck : step state action = none) :
    step.steps state (action :: rest) = [] := by
  rw [steps, stuck]

/-- Every listed step is enabled. -/
theorem enabled_of_mem
    {actions : List Action} {entry : State × Action}
    (member : entry ∈ step.steps state actions) :
    ∃ next, step entry.1 entry.2 = some next := by
  induction actions generalizing state with
  | nil => cases member
  | cons action rest inductionHypothesis =>
      rcases moves : step state action with _ | next
      · rw [steps_stuck moves] at member
        cases member
      · rw [steps_cons moves] at member
        rcases List.mem_cons.1 member with rfl | later
        · exact ⟨next, moves⟩
        · exact inductionHypothesis later

section Invariant

variable {Invariant : State → Prop} {Allowed : State → Action → Prop}
variable
  (preserved : ∀ {state next : State} {action : Action}, Invariant state →
    Allowed state action → step state action = some next → Invariant next)

include preserved

/-- A run whose steps are all allowed keeps an invariant that allowed steps preserve. -/
theorem invariant_of_allowed
    {actions : List Action} (initial : Invariant state)
    (allowed : ∀ entry ∈ step.steps state actions, Allowed entry.1 entry.2) :
    (∀ entry ∈ step.steps state actions, Invariant entry.1) ∧
      Invariant (step.reached state actions) := by
  induction actions generalizing state with
  | nil => exact ⟨nofun, initial⟩
  | cons action rest inductionHypothesis =>
      rcases moves : step state action with _ | next
      · rw [steps_stuck moves, reached, moves]
        exact ⟨nofun, initial⟩
      · rw [steps_cons moves] at allowed ⊢
        rw [reached_cons moves]
        have kept : Invariant next :=
          preserved initial (allowed _ (List.mem_cons_self ..)) moves
        obtain ⟨met, final⟩ := inductionHypothesis kept
          fun entry member => allowed entry (List.mem_cons_of_mem _ member)
        refine ⟨?_, final⟩
        intro entry member
        rcases List.mem_cons.1 member with rfl | later
        · exact initial
        · exact met entry later

end Invariant

end Transition

end Snapl.Library
