import Mathlib.Data.List.Forall2

/-!
# Programs over a state

A program reads and changes a state and ends in a result or in a failure.  The
changes made before a failure stay.  `Meets program state post` says that the
run of `program` from `state` ends as `post` demands, whichever way it ends;
the rules below compute it along the structure of the program.
-/

namespace Snapl.Library

variable {State Failure Result Next Item : Type}

/-- A computation over a state that ends in a result or in a failure. -/
def Program (State Failure Result : Type) : Type :=
  State → Except Failure Result × State

namespace Program

instance : Monad (Program State Failure) where
  pure result := fun state => (.ok result, state)
  bind program next := fun state =>
    match program state with
    | (.ok result, after) => next result after
    | (.error failure, after) => (.error failure, after)

/-- The way a run from `state` ends. -/
def ending (program : Program State Failure Result) (state : State) :
    Except Failure Result := (program state).1

/-- The state a run from `state` leaves. -/
def final (program : Program State Failure Result) (state : State) : State :=
  (program state).2

def raise (failure : Failure) : Program State Failure Result :=
  fun state => (.error failure, state)

/-- Change the state by a function that also gives the result. -/
def update (change : State → Result × State) : Program State Failure Result :=
  fun state => (.ok (change state).1, (change state).2)

/-- End as a computed value says. -/
def ofExcept (value : Except Failure Result) : Program State Failure Result :=
  fun state => (value, state)

/--
Run a program and go on with `next`.  A failure of the program itself, not of
what follows it, is passed to the handler.
-/
def attempt
    (program : Program State Failure Result)
    (handler : Failure → Program State Failure Next)
    (next : Result → Program State Failure Next) :
    Program State Failure Next := fun state =>
  match program state with
  | (.ok result, after) => next result after
  | (.error failure, after) => handler failure after

/-- Run a program for each item in order. -/
def forEach (body : Item → Program State Failure Unit) :
    List Item → Program State Failure Unit
  | [] => pure ()
  | item :: rest => do
      body item
      forEach body rest

theorem bind_of_ok
    {program : Program State Failure Result} {next : Result → Program State Failure Next}
    {state after : State} {result : Result} (ran : program state = (.ok result, after)) :
    (program >>= next) state = next result after := by
  have unfolded : (program >>= next) state =
      match program state with
      | (.ok result, after) => next result after
      | (.error failure, after) => (.error failure, after) := rfl
  rw [unfolded, ran]

theorem bind_of_error
    {program : Program State Failure Result} {next : Result → Program State Failure Next}
    {state after : State} {failure : Failure} (ran : program state = (.error failure, after)) :
    (program >>= next) state = (.error failure, after) := by
  have unfolded : (program >>= next) state =
      match program state with
      | (.ok result, after) => next result after
      | (.error failure, after) => (.error failure, after) := rfl
  rw [unfolded, ran]

theorem bind_assoc
    {Last : Type} (program : Program State Failure Result)
    (next : Result → Program State Failure Next) (last : Next → Program State Failure Last) :
    (program >>= next) >>= last = program >>= fun result => next result >>= last := by
  funext state
  rcases ran : program state with ⟨failure | result, after⟩
  · rw [bind_of_error ran, bind_of_error (bind_of_error ran)]
  · rw [bind_of_ok ran]
    rcases ranNext : next result after with ⟨failure | middle, final⟩
    · rw [bind_of_error ranNext, bind_of_error ((bind_of_ok ran).trans ranNext)]
    · rw [bind_of_ok ranNext, bind_of_ok ((bind_of_ok ran).trans ranNext)]

theorem pure_bind (result : Result) (next : Result → Program State Failure Next) :
    (pure result : Program State Failure Result) >>= next = next result := rfl

/-- A sequence returns a result when both of its parts do. -/
theorem bind_eq_ok_iff
    {program : Program State Failure Result} {next : Result → Program State Failure Next}
    {state final : State} {result : Next} :
    (program >>= next) state = (.ok result, final) ↔
      ∃ middle after, program state = (.ok middle, after) ∧
        next middle after = (.ok result, final) := by
  rcases ran : program state with ⟨failure | middle, after⟩
  · rw [bind_of_error ran]
    constructor
    · intro impossible
      cases impossible
    · rintro ⟨_, _, impossible, -⟩
      cases impossible
  · rw [bind_of_ok ran]
    constructor
    · intro rest
      exact ⟨middle, after, rfl, rest⟩
    · rintro ⟨_, _, same, rest⟩
      cases same
      exact rest

/-- A sequence that ends in a pure step fails exactly as its first part does. -/
theorem ending_bind_pure_eq_error_iff
    {program : Program State Failure Result} {view : Result → Next} {state : State}
    {failure : Failure} :
    ending (program >>= fun result => pure (view result)) state = .error failure ↔
      ending program state = .error failure := by
  rcases ran : program state with ⟨other | result, after⟩
  · rw [ending, bind_of_error ran, ending, ran, Except.error.injEq, Except.error.injEq]
  · rw [ending, bind_of_ok ran, ending, ran]
    constructor
    · intro impossible
      cases impossible
    · intro impossible
      cases impossible

theorem pure_eq_ok_iff {state final : State} {result other : Result} :
    (pure result : Program State Failure Result) state = (.ok other, final) ↔
      result = other ∧ state = final := by
  have unfolded : (pure result : Program State Failure Result) state = (.ok result, state) := rfl
  rw [unfolded, Prod.mk.injEq, Except.ok.injEq]

theorem ofExcept_eq_ok_iff {value : Except Failure Result} {state final : State}
    {result : Result} :
    ofExcept value state = (.ok result, final) ↔ value = .ok result ∧ state = final := by
  rw [ofExcept, Prod.mk.injEq]

/-- The run from `state` ends as `post` demands. -/
def Meets
    (program : Program State Failure Result) (state : State)
    (post : Except Failure Result → State → Prop) : Prop :=
  post (program.ending state) (program.final state)

variable {post : Except Failure Result → State → Prop} {state : State}

theorem meets_pure (result : Result) :
    Meets (pure result : Program State Failure Result) state post ↔
      post (.ok result) state := Iff.rfl

theorem meets_raise (failure : Failure) :
    Meets (raise failure : Program State Failure Result) state post ↔
      post (.error failure) state := Iff.rfl

theorem meets_update (change : State → Result × State) :
    Meets (update change : Program State Failure Result) state post ↔
      post (.ok (change state).1) (change state).2 := Iff.rfl

theorem meets_ofExcept (value : Except Failure Result) :
    Meets (ofExcept value) state post ↔ post value state := Iff.rfl

theorem meets_bind
    (program : Program State Failure Result)
    (next : Result → Program State Failure Next)
    {post : Except Failure Next → State → Prop} :
    Meets (program >>= next) state post ↔
      Meets program state fun ending after =>
        match ending with
        | .ok result => Meets (next result) after post
        | .error failure => post (.error failure) after := by
  have unfolded : (program >>= next) state =
      match program state with
      | (.ok result, after) => next result after
      | (.error failure, after) => (.error failure, after) := rfl
  rcases run : program state with ⟨_ | _, after⟩ <;>
    simp [Meets, ending, final, unfolded, run]

theorem meets_attempt
    (program : Program State Failure Result)
    (handler : Failure → Program State Failure Next)
    (next : Result → Program State Failure Next)
    {post : Except Failure Next → State → Prop} :
    Meets (attempt program handler next) state post ↔
      Meets program state fun ending after =>
        match ending with
        | .ok result => Meets (next result) after post
        | .error failure => Meets (handler failure) after post := by
  rcases run : program state with ⟨_ | _, after⟩ <;>
    simp [Meets, ending, final, attempt, run]

/-- A run that meets one demand meets every weaker one. -/
theorem Meets.mono
    {program : Program State Failure Result}
    {stronger : Except Failure Result → State → Prop}
    (meets : Meets program state stronger)
    (weaken : ∀ ending after, stronger ending after → post ending after) :
    Meets program state post :=
  weaken _ _ meets

/-- Two demands on one run are met together. -/
theorem Meets.both
    {program : Program State Failure Result}
    {first second : Except Failure Result → State → Prop}
    (meetsFirst : Meets program state first)
    (meetsSecond : Meets program state second) :
    Meets program state fun ending after => first ending after ∧ second ending after :=
  ⟨meetsFirst, meetsSecond⟩

/-- A sequence: the second part starts where the first one ended. -/
theorem Meets.bind
    {program : Program State Failure Result}
    {next : Result → Program State Failure Next}
    {middle : Except Failure Result → State → Prop}
    {post : Except Failure Next → State → Prop}
    (first : Meets program state middle)
    (onOk : ∀ result after, middle (.ok result) after → Meets (next result) after post)
    (onError : ∀ failure after, middle (.error failure) after →
      post (.error failure) after) :
    Meets (program >>= next) state post := by
  rw [meets_bind]
  refine first.mono ?_
  intro ending after holds
  cases ending with
  | ok result => exact onOk result after holds
  | error failure => exact onError failure after holds

/-- A guarded program: its own failure goes to the handler. -/
theorem Meets.attempt
    {program : Program State Failure Result}
    {handler : Failure → Program State Failure Next}
    {next : Result → Program State Failure Next}
    {middle : Except Failure Result → State → Prop}
    {post : Except Failure Next → State → Prop}
    (first : Meets program state middle)
    (onOk : ∀ result after, middle (.ok result) after → Meets (next result) after post)
    (onError : ∀ failure after, middle (.error failure) after →
      Meets (handler failure) after post) :
    Meets (Program.attempt program handler next) state post := by
  rw [meets_attempt]
  refine first.mono ?_
  intro ending after holds
  cases ending with
  | ok result => exact onOk result after holds
  | error failure => exact onError failure after holds

/--
A loop whose body keeps an invariant over the items done so far ends with the
invariant over all of them; a body that fails ends the loop.
-/
theorem Meets.forEach
    {body : Item → Program State Failure Unit}
    {invariant : List Item → State → Prop}
    {failed : Failure → State → Prop}
    (items done : List Item)
    (step : ∀ before item, ∀ state, invariant before state →
      Meets (body item) state fun ending after =>
        match ending with
        | .ok _ => invariant (before ++ [item]) after
        | .error failure => failed failure after)
    (start : invariant done state) :
    Meets (Program.forEach body items) state fun ending after =>
      match ending with
      | .ok _ => invariant (done ++ items) after
      | .error failure => failed failure after := by
  induction items generalizing done state with
  | nil =>
      rw [Program.forEach, meets_pure]
      simpa using start
  | cons item rest induction =>
      rw [Program.forEach]
      refine Meets.bind (step done item state start) ?_ ?_
      · intro _ after holds
        simpa using induction (done ++ [item]) holds
      · intro failure after holds
        exact holds

/-- Whichever way a run ends, it leaves the invariant as it found it. -/
def Keeps (invariant : State → Prop) (program : Program State Failure Result) : Prop :=
  ∀ state, invariant state → Meets program state fun _ after => invariant after

namespace Keeps

variable {invariant : State → Prop}

theorem pure (result : Result) :
    Keeps invariant (Pure.pure result : Program State Failure Result) :=
  fun _ holds => holds

theorem raise (failure : Failure) :
    Keeps invariant (Program.raise failure : Program State Failure Result) :=
  fun _ holds => holds

theorem ofExcept (value : Except Failure Result) : Keeps invariant (ofExcept value) :=
  fun _ holds => holds

theorem bind
    {program : Program State Failure Result} {next : Result → Program State Failure Next}
    (first : Keeps invariant program) (rest : ∀ result, Keeps invariant (next result)) :
    Keeps invariant (program >>= next) := by
  intro state holds
  refine Meets.bind (first state holds) ?_ ?_
  · exact fun result after kept => rest result after kept
  · exact fun _ _ kept => kept

theorem attempt
    {program : Program State Failure Result}
    {handler : Failure → Program State Failure Next}
    {next : Result → Program State Failure Next}
    (first : Keeps invariant program) (handled : ∀ failure, Keeps invariant (handler failure))
    (rest : ∀ result, Keeps invariant (next result)) :
    Keeps invariant (Program.attempt program handler next) := by
  intro state holds
  refine Meets.attempt (first state holds) ?_ ?_
  · exact fun result after kept => rest result after kept
  · exact fun failure after kept => handled failure after kept

end Keeps

/-- Every result a run returns meets the demand, from whatever state it starts. -/
def Returns (demand : Result → Prop) (program : Program State Failure Result) : Prop :=
  ∀ state, Meets program state fun ending _ => ∀ result, ending = .ok result → demand result

namespace Returns

variable {demand : Result → Prop}

theorem raise (failure : Failure) :
    Returns demand (Program.raise failure : Program State Failure Result) := by
  intro state result returned
  cases returned

theorem ofExcept
    {value : Except Failure Result} (meets : ∀ result, value = .ok result → demand result) :
    Returns demand (ofExcept value : Program State Failure Result) :=
  fun _ => meets

/-- A program of which nothing is known. -/
theorem anything (program : Program State Failure Result) :
    Returns (fun _ => True) program :=
  fun _ _ _ => trivial

theorem bind
    {program : Program State Failure Result} {next : Result → Program State Failure Next}
    {post : Next → Prop} (first : Returns demand program)
    (rest : ∀ result, demand result → Returns post (next result)) :
    Returns post (program >>= next) := by
  intro state
  refine Meets.bind (first state) ?_ ?_
  · exact fun result after meets => rest result (meets result rfl) after
  · intro failure after _ result returned
    cases returned

theorem attempt
    {program : Program State Failure Result}
    {handler : Failure → Program State Failure Next}
    {next : Result → Program State Failure Next}
    {post : Next → Prop} (first : Returns demand program)
    (handled : ∀ failure, Returns post (handler failure))
    (rest : ∀ result, demand result → Returns post (next result)) :
    Returns post (Program.attempt program handler next) := by
  intro state
  refine Meets.attempt (first state) ?_ ?_
  · exact fun result after meets => rest result (meets result rfl) after
  · exact fun failure after _ => handled failure after

end Returns

end Program

end Snapl.Library
