import Snapl.Library.Program

/-!
# Scripts

A script asks a server, one request at a time, and goes on with each answer; it
ends in a result or in a failure.  What a request is answered, and what it
changes, is the server's matter.  Run on its own, a script is a program over
the server's state.
-/

namespace Snapl.Library

variable {Request : Type} {Answer : Request → Type}
variable {State Failure Result Next : Type}

/-- A client of a server that answers each request with a value of its own type. -/
inductive Script (Request : Type) (Answer : Request → Type) (Failure Result : Type) where
  | ends (ending : Except Failure Result)
  | asks (request : Request) (next : Answer request → Script Request Answer Failure Result)

namespace Script

/-- Go on with the result of a script, unless it fails. -/
def andThen :
    Script Request Answer Failure Result →
      (Result → Script Request Answer Failure Next) → Script Request Answer Failure Next
  | .ends (.ok result), next => next result
  | .ends (.error failure), _ => .ends (.error failure)
  | .asks request rest, next => .asks request fun answer => (rest answer).andThen next

instance : Monad (Script Request Answer Failure) where
  pure result := .ends (.ok result)
  bind := andThen

/-- Ask one request. -/
def ask (request : Request) : Script Request Answer Failure (Answer request) :=
  .asks request fun answer => .ends (.ok answer)

def raise (failure : Failure) : Script Request Answer Failure Result :=
  .ends (.error failure)

/-- End as a computed value says. -/
def ofExcept (value : Except Failure Result) : Script Request Answer Failure Result :=
  .ends value

/-- Translate the failure of a script. -/
def mapError {Failure' : Type} (translate : Failure → Failure') :
    Script Request Answer Failure Result → Script Request Answer Failure' Result
  | .ends ending => .ends (ending.mapError translate)
  | .asks request next => .asks request fun answer => (next answer).mapError translate

variable {script : Script Request Answer Failure Result}

theorem bind_assoc
    {Last : Type} (script : Script Request Answer Failure Result)
    (next : Result → Script Request Answer Failure Next)
    (last : Next → Script Request Answer Failure Last) :
    script >>= next >>= last = script >>= fun result => next result >>= last := by
  induction script with
  | ends ending =>
      rcases ending with failure | result
      · rfl
      · rfl
  | asks request rest inductionHypothesis =>
      exact congrArg (Script.asks request) (funext inductionHypothesis)

section Run

variable (serve : (request : Request) → State → Answer request × State)

/-- Run a script on its own: every request is served at once. -/
def run : Script Request Answer Failure Result → Program State Failure Result
  | .ends ending => Program.ofExcept ending
  | .asks request next => fun state =>
      (next (serve request state).1).run (serve request state).2

variable {serve} {state : State} {post : Except Failure Result → State → Prop}

theorem meets_run_ends (ending : Except Failure Result) :
    Program.Meets (run serve (.ends ending : Script Request Answer Failure Result)) state post ↔
      post ending state := Iff.rfl

theorem meets_run_asks
    (request : Request) (next : Answer request → Script Request Answer Failure Result) :
    Program.Meets (run serve (.asks request next)) state post ↔
      Program.Meets (run serve (next (serve request state).1)) (serve request state).2 post :=
  Iff.rfl

/-- A run of a sequence is the sequence of the runs. -/
theorem run_bind
    (script : Script Request Answer Failure Result)
    (next : Result → Script Request Answer Failure Next) :
    run serve (script >>= next) = run serve script >>= fun result => run serve (next result) := by
  funext state
  induction script generalizing state with
  | ends ending =>
      rcases ending with failure | result
      · rfl
      · rfl
  | asks request rest inductionHypothesis => exact inductionHypothesis _ _

/-- A sequence: the second part starts where the first one ended. -/
theorem meets_run_bind
    {script : Script Request Answer Failure Result}
    {next : Result → Script Request Answer Failure Next}
    {middle : Except Failure Result → State → Prop}
    {post : Except Failure Next → State → Prop}
    (first : Program.Meets (run serve script) state middle)
    (onOk : ∀ result after, middle (.ok result) after →
      Program.Meets (run serve (next result)) after post)
    (onError : ∀ failure after, middle (.error failure) after → post (.error failure) after) :
    Program.Meets (run serve (script >>= next)) state post := by
  rw [run_bind]
  exact Program.Meets.bind first onOk onError

theorem meets_run_ask
    {request : Request} {post : Except Failure (Answer request) → State → Prop} :
    Program.Meets (run serve (ask request : Script Request Answer Failure (Answer request)))
        state post ↔
      post (.ok (serve request state).1) (serve request state).2 := Iff.rfl

theorem meets_run_mapError
    {Failure' : Type} {translate : Failure → Failure'}
    {script : Script Request Answer Failure Result}
    {post : Except Failure' Result → State → Prop} :
    Program.Meets (run serve (script.mapError translate)) state post ↔
      Program.Meets (run serve script) state fun ending after =>
        post (ending.mapError translate) after := by
  induction script generalizing state with
  | ends ending => exact Iff.rfl
  | asks request rest inductionHypothesis => exact inductionHypothesis _

/-- A script whose result is forgotten. -/
theorem meets_run_forget
    {script : Script Request Answer Failure Result} {post : Except Failure Unit → State → Prop} :
    Program.Meets (run serve (script >>= fun _ => pure ())) state post ↔
      Program.Meets (run serve script) state fun ending after =>
        post (ending.map fun _ => ()) after := by
  induction script generalizing state with
  | ends ending =>
      rcases ending with failure | result
      · exact Iff.rfl
      · exact Iff.rfl
  | asks request rest inductionHypothesis => exact inductionHypothesis _

end Run

/-- Every request of the script is of this kind. -/
def Asks (kind : Request → Prop) : Script Request Answer Failure Result → Prop
  | .ends _ => True
  | .asks request next => kind request ∧ ∀ answer, (next answer).Asks kind

namespace Asks

variable {kind : Request → Prop}

theorem bind
    {script : Script Request Answer Failure Result}
    {next : Result → Script Request Answer Failure Next}
    (first : script.Asks kind) (rest : ∀ result, (next result).Asks kind) :
    (script >>= next).Asks kind := by
  induction script with
  | ends ending =>
      rcases ending with failure | result
      · trivial
      · exact rest result
  | asks request answers inductionHypothesis =>
      exact ⟨first.1, fun answer => inductionHypothesis answer (first.2 answer)⟩

theorem ask {request : Request} (ofKind : kind request) :
    (Script.ask request : Script Request Answer Failure (Answer request)).Asks kind :=
  ⟨ofKind, fun _ => trivial⟩

theorem mapError
    {Failure' : Type} {translate : Failure → Failure'}
    {script : Script Request Answer Failure Result} (asks : script.Asks kind) :
    (script.mapError translate).Asks kind := by
  induction script with
  | ends ending => trivial
  | asks request rest inductionHypothesis =>
      exact ⟨asks.1, fun answer => inductionHypothesis answer (asks.2 answer)⟩

end Asks

section Obeys

variable {Stage : Type} (serve : (request : Request) → State → Answer request × State)
variable (met : Stage → State → Prop) (step : Stage → State → Request → Stage → Prop)

/--
A script keeps to a protocol from this stage on.  `met` is what is known of the
state at a stage, `step` how a request goes on to the next stage, and `post`
how a script may end.
-/
def Obeys (post : Stage → Except Failure Result → Prop) :
    Script Request Answer Failure Result → Stage → Prop
  | .ends ending, stage => post stage ending
  | .asks request next, stage => ∀ state, met stage state →
      ∃ later, step stage state request later ∧ (next (serve request state).1).Obeys post later

namespace Obeys

variable {serve met step}
variable {post : Stage → Except Failure Result → Prop} {stage : Stage}

/-- A sequence: the second part starts at the stage the first one ended at. -/
theorem bind
    {middle : Stage → Except Failure Result → Prop} {post : Stage → Except Failure Next → Prop}
    {script : Script Request Answer Failure Result}
    {next : Result → Script Request Answer Failure Next}
    (first : script.Obeys serve met step middle stage)
    (onOk : ∀ later result, middle later (.ok result) →
      (next result).Obeys serve met step post later)
    (onError : ∀ later failure, middle later (.error failure) → post later (.error failure)) :
    (script >>= next).Obeys serve met step post stage := by
  induction script generalizing stage with
  | ends ending =>
      rcases ending with failure | result
      · exact onError stage failure first
      · exact onOk stage result first
  | asks request rest inductionHypothesis =>
      intro state known
      obtain ⟨later, goes, obeys⟩ := first state known
      exact ⟨later, goes, inductionHypothesis _ obeys⟩

theorem mapError
    {Failure' : Type} {translate : Failure → Failure'}
    {post' : Stage → Except Failure' Result → Prop}
    {script : Script Request Answer Failure Result}
    (obeys : script.Obeys serve met step post stage)
    (translated : ∀ later ending, post later ending → post' later (ending.mapError translate)) :
    (script.mapError translate).Obeys serve met step post' stage := by
  induction script generalizing stage with
  | ends ending => exact translated stage ending obeys
  | asks request rest inductionHypothesis =>
      intro state known
      obtain ⟨later, goes, obeys⟩ := obeys state known
      exact ⟨later, goes, inductionHypothesis _ obeys⟩

/-- Requests that stay at a stage may go on for ever. -/
theorem of_asks
    {kind : Request → Prop} {script : Script Request Answer Failure Result}
    (asks : script.Asks kind)
    (stays : ∀ state request, kind request → met stage state → step stage state request stage)
    (ends : ∀ ending, post stage ending) : script.Obeys serve met step post stage := by
  induction script with
  | ends ending => exact ends ending
  | asks request rest inductionHypothesis =>
      intro state known
      exact ⟨stage, stays state request asks.1 known, inductionHypothesis _ (asks.2 _)⟩

end Obeys

end Obeys

end Script

end Snapl.Library
