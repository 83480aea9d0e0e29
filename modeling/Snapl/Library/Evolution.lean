import Mathlib.Order.Defs.Unbundled
import Snapl.Library.Program

/-!
# Programs that move the state forward

States are related by how they may evolve, a reflexive and transitive relation.  A
program moves the state forward when every run of it does, a failed one too.  What
holds of a state and of every state it may evolve to stays true across a program,
so that a result a program returned early is still good for what comes later.
-/

namespace Snapl.Library

namespace Program

variable {State Failure Result Next : Type}

/-- What is true of a state stays true as it evolves. -/
def Stable (evolves : State → State → Prop) (fact : State → Prop) : Prop :=
  ∀ before after, evolves before after → fact before → fact after

theorem Stable.and
    {evolves : State → State → Prop} {first second : State → Prop}
    (stable : Stable evolves first) (others : Stable evolves second) :
    Stable evolves fun state => first state ∧ second state :=
  fun before after moved holds =>
    ⟨stable before after moved holds.1, others before after moved holds.2⟩

/--
However a run from a state with `pre` ends, it moves the state forward; a result it
returns meets `post` in the state it leaves.
-/
def Moves (evolves : State → State → Prop) (pre : State → Prop)
    (program : Program State Failure Result) (post : Result → State → Prop) : Prop :=
  ∀ state, pre state → Meets program state fun ending after =>
    evolves state after ∧ ∀ result, ending = .ok result → post result after

namespace Moves

variable {evolves : State → State → Prop} {pre : State → Prop} {post : Result → State → Prop}
variable {program : Program State Failure Result}

/-- A program may be used where more is known and less is wanted. -/
theorem weaken
    {stronger : State → Prop} {weaker : Result → State → Prop}
    (moves : Moves evolves pre program post) (known : ∀ state, stronger state → pre state)
    (wanted : ∀ result state, post result state → weaker result state) :
    Moves evolves stronger program weaker := by
  intro state holds
  obtain ⟨moved, returned⟩ := moves state (known state holds)
  exact ⟨moved, fun result ended => wanted result _ (returned result ended)⟩

/-- A stable fact holds after a program as it did before. -/
theorem keeping
    {fact : State → Prop} (moves : Moves evolves pre program post)
    (stable : Stable evolves fact) :
    Moves evolves (fun state => pre state ∧ fact state) program
      fun result state => post result state ∧ fact state := by
  intro state ⟨holds, known⟩
  obtain ⟨moved, returned⟩ := moves state holds
  exact ⟨moved, fun result ended => ⟨returned result ended, stable state _ moved known⟩⟩

section

variable [Std.Refl evolves]

theorem pure {result : Result} (meets : ∀ state, pre state → post result state) :
    Moves evolves pre (Pure.pure result : Program State Failure Result) post := by
  intro state holds
  refine ⟨Std.Refl.refl state, fun other ended => ?_⟩
  obtain rfl : result = other := Except.ok.inj ended
  exact meets state holds

theorem raise (failure : Failure) :
    Moves evolves pre (Program.raise failure : Program State Failure Result) post := by
  intro state _
  exact ⟨Std.Refl.refl state, fun result ended => by cases ended⟩

theorem ofExcept
    {value : Except Failure Result}
    (meets : ∀ result state, value = .ok result → pre state → post result state) :
    Moves evolves pre (Program.ofExcept value) post := by
  intro state holds
  exact ⟨Std.Refl.refl state, fun result ended => meets result state ended holds⟩

/-- Looking at the state. -/
theorem read
    {view : State → Result} (meets : ∀ state, pre state → post (view state) state) :
    Moves evolves pre
      (Program.update fun state => (view state, state) : Program State Failure Result) post := by
  intro state holds
  refine ⟨Std.Refl.refl state, fun result ended => ?_⟩
  obtain rfl : view state = result := Except.ok.inj ended
  exact meets state holds

end

/-- A sequence: the second part starts with what the first one returned. -/
theorem bind
    [IsTrans State evolves] {next : Result → Program State Failure Next}
    {last : Next → State → Prop} (first : Moves evolves pre program post)
    (rest : ∀ result, Moves evolves (post result) (next result) last) :
    Moves evolves pre (program >>= next) last := by
  intro state holds
  refine Meets.bind (first state holds) ?_ ?_
  · rintro result after ⟨moved, returned⟩
    obtain ⟨further, returnedLater⟩ := rest result after (returned result rfl)
    exact ⟨IsTrans.trans _ _ _ moved further, returnedLater⟩
  · rintro failure after ⟨moved, -⟩
    exact ⟨moved, fun result ended => by cases ended⟩

end Moves

end Program

end Snapl.Library
