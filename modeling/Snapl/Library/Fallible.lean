import Mathlib.Data.List.Forall2

/-!
# Computations that may fail

When a sequence of fallible computations succeeds, and what it then yields.
-/

namespace Snapl.Library

universe u v

variable {Failure : Type u} {Input : Type v} {Output Result : Type v}

theorem bind_eq_ok
    (computation : Except Failure Output) (next : Output → Except Failure Result)
    (result : Result) :
    computation >>= next = .ok result ↔
      ∃ output, computation = .ok output ∧ next output = .ok result := by
  cases computation with
  | error failure =>
      constructor
      · intro equal
        cases equal
      · rintro ⟨output, equal, -⟩
        cases equal
  | ok output =>
      constructor
      · intro equal
        exact ⟨output, rfl, equal⟩
      · rintro ⟨other, equal, result⟩
        cases equal
        exact result

@[simp]
theorem ok_bind (output : Output) (next : Output → Except Failure Result) :
    (Except.ok output : Except Failure Output) >>= next = next output := rfl

@[simp]
theorem error_bind (failure : Failure) (next : Output → Except Failure Result) :
    (Except.error failure : Except Failure Output) >>= next = .error failure := rfl

/-- Mapping a fallible computation over a list succeeds item by item. -/
theorem mapM_eq_ok_iff
    (computation : Input → Except Failure Output) (inputs : List Input)
    (outputs : List Output) :
    inputs.mapM computation = .ok outputs ↔
      List.Forall₂ (fun input output => computation input = .ok output)
        inputs outputs := by
  induction inputs generalizing outputs with
  | nil =>
      rw [List.mapM_nil, List.forall₂_nil_left_iff]
      constructor
      · intro equal
        cases equal
        rfl
      · rintro rfl
        rfl
  | cons input rest induction =>
      rw [List.mapM_cons, bind_eq_ok, List.forall₂_cons_left_iff]
      constructor
      · rintro ⟨output, first, others⟩
        obtain ⟨tail, mapped, equal⟩ := (bind_eq_ok _ _ _).1 others
        cases equal
        exact ⟨output, tail, first, (induction tail).1 mapped, rfl⟩
      · rintro ⟨output, tail, first, related, rfl⟩
        refine ⟨output, first, (bind_eq_ok _ _ _).2 ⟨tail, ?_, rfl⟩⟩
        exact (induction tail).2 related

/-- A list of inputs that each succeed is mapped. -/
theorem exists_mapM_of_forall
    (computation : Input → Except Failure Output) (inputs : List Input)
    (succeeds : ∀ input ∈ inputs, ∃ output, computation input = .ok output) :
    ∃ outputs, inputs.mapM computation = .ok outputs := by
  induction inputs with
  | nil => exact ⟨[], rfl⟩
  | cons input rest induction =>
      obtain ⟨output, first⟩ := succeeds input (by simp)
      obtain ⟨tail, mapped⟩ :=
        induction fun other member => succeeds other (by simp [member])
      refine ⟨output :: tail, ?_⟩
      rw [List.mapM_cons, first, ok_bind, mapped, ok_bind]
      rfl

/-- Mapping through a change of inputs, with every output present. -/
theorem mapM_of_present
    {Source : Type v} {computation : Source → Except Failure (Option Output)}
    {underlying : Input → Except Failure Output} {view : Source → Input}
    {sources : List Source}
    (pointwise : ∀ source ∈ sources,
      computation source = (underlying (view source)).map some) :
    sources.mapM computation =
      ((sources.map view).mapM underlying).map (List.map some) := by
  induction sources with
  | nil => rfl
  | cons source rest induction =>
      rw [List.mapM_cons, List.map_cons, List.mapM_cons,
        pointwise source (by simp),
        induction fun other member => pointwise other (by simp [member])]
      rcases underlying (view source) with failure | output
      · rfl
      · rcases (rest.map view).mapM underlying with failure | outputs
        · rfl
        · rfl

theorem mapM_ok (value : Input → Output) (inputs : List Input) :
    inputs.mapM (fun input => (.ok (value input) : Except Failure Output)) =
      .ok (inputs.map value) := by
  induction inputs with
  | nil => rfl
  | cons input rest induction =>
      rw [List.mapM_cons, ok_bind, induction, ok_bind]
      rfl

/-- Every item on the left is related to one on the right. -/
theorem exists_mem_of_forall₂
    {related : Input → Output → Prop} {inputs : List Input}
    {outputs : List Output} (pairs : List.Forall₂ related inputs outputs)
    {input : Input} (member : input ∈ inputs) :
    ∃ output ∈ outputs, related input output := by
  induction pairs with
  | nil => cases member
  | @cons first output rest outputs head _ induction =>
      rcases List.mem_cons.1 member with rfl | member
      · exact ⟨output, by simp, head⟩
      · obtain ⟨other, otherMember, holds⟩ := induction member
        exact ⟨other, List.mem_cons_of_mem _ otherMember, holds⟩

/-- Every input of a mapped list succeeded. -/
theorem exists_of_mapM_eq_ok
    {computation : Input → Except Failure Output} {inputs : List Input}
    {outputs : List Output} (mapped : inputs.mapM computation = .ok outputs)
    {input : Input} (member : input ∈ inputs) :
    ∃ output, computation input = .ok output := by
  obtain ⟨output, -, succeeds⟩ :=
    exists_mem_of_forall₂ ((mapM_eq_ok_iff _ _ _).1 mapped) member
  exact ⟨output, succeeds⟩

/-- The outputs of a mapped list are those of its inputs. -/
theorem mem_of_mapM_eq_ok
    {computation : Input → Except Failure Output} {inputs : List Input}
    {outputs : List Output} (mapped : inputs.mapM computation = .ok outputs)
    (output : Output) :
    output ∈ outputs ↔ ∃ input ∈ inputs, computation input = .ok output := by
  rw [mapM_eq_ok_iff] at mapped
  induction mapped with
  | nil => simp
  | @cons input first inputs outputs head _ induction =>
      rw [List.mem_cons, induction, List.exists_mem_cons_iff, head, Except.ok.injEq,
        eq_comm (a := output)]

/-- Related lists, the left one mapped from the same items. -/
theorem forall₂_map_of_mapM
    {Value : Type v} {computation : Input → Except Failure Output}
    {inputs : List Input} {outputs : List Output} {related : Output → Value → Prop}
    (value : Input → Value)
    (mapped : inputs.mapM computation = .ok outputs)
    (pointwise : ∀ input ∈ inputs, ∀ output,
      computation input = .ok output → related output (value input)) :
    List.Forall₂ related outputs (inputs.map value) := by
  rw [mapM_eq_ok_iff] at mapped
  induction mapped with
  | nil => exact List.Forall₂.nil
  | @cons input output inputs outputs first rest induction =>
      refine List.Forall₂.cons (pointwise input (by simp) output first) ?_
      exact induction fun other member =>
        pointwise other (List.mem_cons_of_mem _ member)

/-- Related lists have as many items of related kinds. -/
theorem countP_eq_of_forall₂
    {related : Input → Output → Prop} {inputs : List Input} {outputs : List Output}
    {left : Input → Bool} {right : Output → Bool}
    (pairs : List.Forall₂ related inputs outputs)
    (same : ∀ input output, related input output → left input = right output) :
    inputs.countP left = outputs.countP right := by
  induction pairs with
  | nil => rfl
  | cons head _ induction =>
      rw [List.countP_cons, List.countP_cons, induction, same _ _ head]
/-- A stronger test counts as many items exactly when it holds of all of them. -/
theorem countP_eq_countP_iff
    {Item : Type} {first second : Item → Bool} {items : List Item}
    (implies : ∀ item ∈ items, first item = true → second item = true) :
    items.countP first = items.countP second ↔
      ∀ item ∈ items, second item = true → first item = true := by
  induction items with
  | nil => simp
  | cons item rest induction =>
      have tail : ∀ other ∈ rest, first other = true → second other = true :=
        fun other member => implies other (List.mem_cons_of_mem _ member)
      have fewer : rest.countP first ≤ rest.countP second := List.countP_mono_left tail
      rw [List.forall_mem_cons, List.countP_cons, List.countP_cons, ← induction tail]
      rcases left : first item with _ | _
      · rcases second item with _ | _
        · simp
        · simp
          omega
      · simp [implies item List.mem_cons_self left]

section Folds

variable {State : Type v} {step : State → Input → Except Failure State}
variable {inputs : List Input} {state final : State}

/-- A fold ends where each of its steps can be taken. -/
theorem foldlM_ok_iff
    (good : Input → Prop)
    (each : ∀ state input, (∃ next, step state input = .ok next) ↔ good input) :
    (∃ final, inputs.foldlM step state = .ok final) ↔ ∀ input ∈ inputs, good input := by
  induction inputs generalizing state with
  | nil =>
      constructor
      · intro _ input member
        cases member
      · intro _
        exact ⟨state, rfl⟩
  | cons input inputs induction =>
      rw [List.forall_mem_cons, ← each state input]
      constructor
      · rintro ⟨final, ended⟩
        rw [List.foldlM_cons] at ended
        obtain ⟨next, stepped, rest⟩ := (bind_eq_ok _ _ _).1 ended
        exact ⟨⟨next, stepped⟩, induction.1 ⟨final, rest⟩⟩
      · rintro ⟨⟨next, stepped⟩, others⟩
        obtain ⟨final, ended⟩ := (@induction next).2 others
        refine ⟨final, ?_⟩
        rw [List.foldlM_cons, stepped, ok_bind, ended]

/-- What a fold holds in the end, it held at the start or was brought it. -/
theorem foldlM_collects
    (holds : State → Prop) (brings : Input → Prop)
    (each : ∀ state input next, step state input = .ok next →
      (holds next ↔ holds state ∨ brings input))
    (ended : inputs.foldlM step state = .ok final) :
    holds final ↔ holds state ∨ ∃ input ∈ inputs, brings input := by
  induction inputs generalizing state with
  | nil =>
      obtain rfl : state = final := Except.ok.inj ended
      simp
  | cons input inputs induction =>
      rw [List.foldlM_cons] at ended
      obtain ⟨next, stepped, rest⟩ := (bind_eq_ok _ _ _).1 ended
      rw [induction rest, each state input next stepped, List.exists_mem_cons_iff, or_assoc]

/-- A fold keeps what each of its steps keeps. -/
theorem foldlM_keeps
    (invariant : State → Prop)
    (each : ∀ state, ∀ input ∈ inputs, ∀ next, invariant state →
      step state input = .ok next → invariant next)
    (start : invariant state) (ended : inputs.foldlM step state = .ok final) :
    invariant final := by
  induction inputs generalizing state with
  | nil =>
      obtain rfl : state = final := Except.ok.inj ended
      exact start
  | cons input inputs induction =>
      rw [List.foldlM_cons] at ended
      obtain ⟨next, stepped, rest⟩ := (bind_eq_ok _ _ _).1 ended
      apply induction _ (each state input List.mem_cons_self next start stepped) rest
      intro middle other member
      exact each middle other (List.mem_cons_of_mem input member)

end Folds

end Snapl.Library
