import Snapl.Library.Program
import Snapl.Orchestrator.Models

/-!
# Workflow code on Temporal

A workflow run is a program over a journal: the audit events it recorded, the
activities and child workflows it started, and how often it asked for the time
or for an identifier.  What Temporal answers is data given from outside: the
outcome of every activity and child, the outcome of every audit append, and
the one await, if any, at which a cancellation reaches the run.

An audit append that is cut off by a cancellation may land or not.  The journal
lists the events that land, in the order in which the run is done with awaiting
their appends.
-/

namespace Snapl.Orchestrator

open Snapl.Library Snapl.Intent

/-! ## Outcomes -/

/-- The exception an activity error was raised from. -/
inductive FailureCause where
  | application (type : Option String) (message : String)
  | other (text : String)
deriving DecidableEq

/-- An activity error that is not a cancellation. -/
structure ActivityFailure where
  cause : Option FailureCause
  text : String
deriving DecidableEq

/-- A child workflow error that is not a cancellation. -/
structure ChildFailure where
  cause : Option String
  text : String
deriving DecidableEq

/-- The text of the cause, or of the error itself. -/
def ChildFailure.message (failure : ChildFailure) : String :=
  failure.cause.getD failure.text

inductive ActivityOutcome (Result : Type) where
  | returned (result : Result)
  | failed (failure : ActivityFailure)
deriving DecidableEq

inductive ChildOutcome (Result : Type) where
  | returned (result : Result)
  | alreadyStarted
  | failed (failure : ChildFailure)
  | cancelled
deriving DecidableEq

/-- What an audit append does when no cancellation cuts it off. -/
inductive AppendOutcome where
  | done
  | failed (landed : Bool) (failure : ActivityFailure)
deriving DecidableEq

/-- What a run may raise. -/
inductive Raised where
  | cancelled
  | activityError (failure : ActivityFailure)
  | alreadyStarted
  | childWorkflowError (failure : ChildFailure)
  | applicationError (message : String)
  | pyError (error : PyError)
deriving DecidableEq

/-- How the await of a child workflow ends. -/
def ChildOutcome.ending {Result : Type} : ChildOutcome Result → Except Raised Result
  | .returned result => .ok result
  | .alreadyStarted => .error .alreadyStarted
  | .failed failure => .error (.childWorkflowError failure)
  | .cancelled => .error .cancelled

/-- How the await of an append ends that is not cut off. -/
def AppendOutcome.ending : AppendOutcome → Except Raised Unit
  | .done => .ok ()
  | .failed _ failure => .error (.activityError failure)

/-- Whether the event of an append is in the log. -/
def AppendOutcome.lands : AppendOutcome → Bool
  | .done => true
  | .failed landed _ => landed

/-! ## Journals and surroundings -/

structure Journal (Command : Type) where
  events : List AuditEvent
  commands : List Command
  ticks : Nat
deriving DecidableEq

/-- The journal of a run that has not begun. -/
def Journal.blank {Command : Type} : Journal Command := ⟨[], [], 0⟩

/-- What the recorded events say, in order. -/
def Journal.trail {Command : Type} (journal : Journal Command) : List EventBody :=
  journal.events.map AuditEvent.toEventBody

/-- What a run finds around it, for the awaits of its workflow type. -/
structure Surroundings (Await : Type) where
  workflowId : String
  now : Nat → Int
  monotone : ∀ {earlier later : Nat}, earlier ≤ later → now earlier ≤ now later
  uuid4 : Nat → UUID
  appended : Await → AppendOutcome
  cancelAt : Option Await
  landed : Bool

variable {Command Await Result : Type} [DecidableEq Await]

/-- A workflow that starts commands of one type. -/
abbrev Workflow (Command Result : Type) : Type :=
  Program (Journal Command) Raised Result

namespace Surroundings

variable (surroundings : Surroundings Await)

/-- How an await of an activity ends. -/
def answer (await : Await) (outcome : ActivityOutcome Result) :
    Except Raised Result :=
  if surroundings.cancelAt = some await then .error .cancelled
  else
    match outcome with
    | .returned result => .ok result
    | .failed failure => .error (.activityError failure)

/-- How the await of an audit append ends. -/
def appendEnding (await : Await) : Except Raised Unit :=
  if surroundings.cancelAt = some await then .error .cancelled
  else (surroundings.appended await).ending

/-- Whether the event of an audit append is in the log. -/
def lands (await : Await) : Bool :=
  if surroundings.cancelAt = some await then surroundings.landed
  else (surroundings.appended await).lands

/-- Every append succeeds that no cancellation cuts off. -/
def AppendsSucceed : Prop := ∀ await, surroundings.appended await = .done

variable {surroundings} in
/-- Only a cancellation makes an await of an activity end in cancellation. -/
theorem answer_eq_cancelled_iff {await : Await} {outcome : ActivityOutcome Result} :
    surroundings.answer await outcome = .error .cancelled ↔
      surroundings.cancelAt = some await := by
  rw [answer.eq_def]
  by_cases cancelled : surroundings.cancelAt = some await
  · simp [cancelled]
  · rcases outcome with result | failure
    · simp [cancelled]
    · simp [cancelled]

variable {surroundings} in
/-- When appends succeed, only a cancellation cuts one off. -/
theorem appendEnding_of_succeed
    (succeed : surroundings.AppendsSucceed) (await : Await) :
    surroundings.appendEnding await =
      if surroundings.cancelAt = some await then .error .cancelled else .ok () := by
  rw [appendEnding, succeed await, AppendOutcome.ending]

variable {surroundings} in
theorem appended_iff (succeed : surroundings.AppendsSucceed) {await : Await} :
    surroundings.appendEnding await = .ok () ↔ surroundings.cancelAt ≠ some await := by
  rw [appendEnding_of_succeed succeed]
  split_ifs with cancelled <;> simp [cancelled]

variable {surroundings} in
theorem cut_of_failed
    (succeed : surroundings.AppendsSucceed) {await : Await} {raised : Raised}
    (failed : surroundings.appendEnding await = .error raised) :
    surroundings.cancelAt = some await ∧ raised = .cancelled := by
  rw [appendEnding_of_succeed succeed] at failed
  split_ifs at failed with cancelled
  cases failed
  exact ⟨cancelled, rfl⟩

variable {surroundings} in
/-- No append raises what a validator raises. -/
theorem appendEnding_ne_pyError (await : Await) (error : PyError) :
    surroundings.appendEnding await ≠ .error (.pyError error) := by
  rw [appendEnding]
  split_ifs
  · simp
  · rcases surroundings.appended await with _ | ⟨landed, failure⟩ <;>
      simp [AppendOutcome.ending]

/-- Surroundings in which appends succeed, with a cancellation at one await at most. -/
def calm (workflowId : String) (cancelAt : Option Await) : Surroundings Await where
  workflowId := workflowId
  now := fun tick => tick
  monotone := fun ordered => Int.ofNat_le.2 ordered
  uuid4 := fun tick => ⟨tick⟩
  appended := fun _ => .done
  cancelAt := cancelAt
  landed := false

end Surroundings

/-! ## Audit trails -/

/-- How a run ended, as its audit trail tells it. -/
inductive Ending where
  | success
  | failure
  | cancelled
deriving DecidableEq

/-- The ending a terminal event announces. -/
def announced (body : EventBody) : Option Ending :=
  match body.eventType with
  | .workflowTerminated =>
      if body.outcome = some "success" then some .success else some .failure
  | .workflowCancelled => some .cancelled
  | _ => none

/-- A trail that starts with the start and ends with its only terminal event. -/
def Closed (ending : Ending) (trail : List EventBody) : Prop :=
  ∃ first middle last, trail = first :: (middle ++ [last]) ∧
    first.eventType = .workflowStarted ∧
    (∀ body ∈ middle, announced body = none) ∧
    announced last = some ending

/-- Only the last event of a closed trail is terminal. -/
theorem Closed.announced_last
    {ending : Ending} {trail : List EventBody} (closed : Closed ending trail) :
    trail.filterMap announced = [ending] := by
  obtain ⟨first, middle, last, rfl, started, silent, final⟩ := closed
  have silentFirst : announced first = none := by
    rw [announced, started]
  have silentMiddle : middle.filterMap announced = [] :=
    List.filterMap_eq_nil_iff.2 silent
  simp [silentFirst, silentMiddle, final]

/-! ## Operations of a run -/

/-- The current time. -/
def now (surroundings : Surroundings Await) : Workflow Command Int :=
  Program.update fun journal =>
    (surroundings.now journal.ticks, { journal with ticks := journal.ticks + 1 })

def uuid4 (surroundings : Surroundings Await) : Workflow Command UUID :=
  Program.update fun journal =>
    (surroundings.uuid4 journal.ticks, { journal with ticks := journal.ticks + 1 })

/-- Start an activity or a child workflow. -/
def start (command : Command) : Workflow Command Unit :=
  Program.update fun journal =>
    ((), { journal with commands := journal.commands ++ [command] })

/-- Start an activity and await it. -/
def executeActivity
    (surroundings : Surroundings Await) (await : Await) (command : Command)
    (outcome : ActivityOutcome Result) : Workflow Command Result := do
  start command
  Program.ofExcept (surroundings.answer await outcome)

/-- Build a model, raising what its validator raises. -/
def validated (model : Except PyError Result) : Workflow Command Result :=
  Program.ofExcept (model.mapError Raised.pyError)

/-- Start a child workflow and await it. -/
def executeChildWorkflow (command : Command) (outcome : ChildOutcome Result) :
    Workflow Command Result := do
  start command
  Program.ofExcept outcome.ending

/-- A new event, built and not yet recorded. -/
def newEvent
    (surroundings : Surroundings Await) (workflowType : String) (body : EventBody) :
    Workflow Command AuditEvent := do
  let eventId ← uuid4 surroundings
  let timestamp ← now surroundings
  validated (AuditEvent.build eventId surroundings.workflowId workflowType timestamp body)

/-- The audit activity: the event lands or not, and the append answers. -/
def recordAuditEvent
    (lands : Bool) (answer : Except Raised Unit) (event : AuditEvent) :
    Workflow Command Unit := do
  Program.update fun journal =>
    ((), if lands then { journal with events := journal.events ++ [event] } else journal)
  Program.ofExcept answer

/-- Build an event and record it. -/
def record
    (surroundings : Surroundings Await) (workflowType : String) (await : Await)
    (body : EventBody) : Workflow Command Unit := do
  let event ← newEvent surroundings workflowType body
  recordAuditEvent (surroundings.lands await) (surroundings.appendEnding await) event

/-! ## What the operations do to a journal -/

/-- The later journal is the earlier one with these events and commands. -/
structure Journal.Grew
    (before after : Journal Command) (events : List EventBody)
    (commands : List Command) : Prop where
  trail : after.trail = before.trail ++ events
  commands : after.commands = before.commands ++ commands
  ticks : before.ticks ≤ after.ticks

namespace Journal.Grew

theorem refl (journal : Journal Command) : journal.Grew journal [] [] :=
  ⟨by simp, by simp, le_refl _⟩

theorem trans
    {first second third : Journal Command}
    {events later : List EventBody} {commands laterCommands : List Command}
    (earlierGrowth : first.Grew second events commands)
    (laterGrowth : second.Grew third later laterCommands) :
    first.Grew third (events ++ later) (commands ++ laterCommands) where
  trail := by rw [laterGrowth.trail, earlierGrowth.trail, List.append_assoc]
  commands := by
    rw [laterGrowth.commands, earlierGrowth.commands, List.append_assoc]
  ticks := le_trans earlierGrowth.ticks laterGrowth.ticks

end Journal.Grew

variable {surroundings : Surroundings Await} {journal : Journal Command}

omit [DecidableEq Await] in
/-- The time is read, and nothing else happens. -/
theorem now_meets :
    Program.Meets (now surroundings) journal fun ending after =>
      ending = .ok (surroundings.now journal.ticks) ∧
        journal.Grew after [] [] ∧ after.ticks = journal.ticks + 1 :=
  ⟨rfl, ⟨(List.append_nil _).symm, (List.append_nil _).symm, Nat.le_succ _⟩, rfl⟩

/-- An awaited activity is started, and answers. -/
theorem executeActivity_meets
    (await : Await) (command : Command) (outcome : ActivityOutcome Result) :
    Program.Meets (executeActivity surroundings await command outcome) journal
      fun ending after =>
        ending = surroundings.answer await outcome ∧
          journal.Grew after [] [command] :=
  ⟨rfl, ⟨(List.append_nil _).symm, rfl, le_refl _⟩⟩

omit [DecidableEq Await] in
/-- An awaited child workflow is started, and ends. -/
theorem executeChildWorkflow_meets
    (command : Command) (outcome : ChildOutcome Result) :
    Program.Meets (executeChildWorkflow command outcome) journal fun ending after =>
      ending = outcome.ending ∧ journal.Grew after [] [command] :=
  ⟨rfl, ⟨(List.append_nil _).symm, rfl, le_refl _⟩⟩

omit [DecidableEq Await] in
/-- A valid body makes an event. -/
theorem newEvent_meets
    (workflowType : String) {body : EventBody} (valid : body.Valid) :
    Program.Meets (newEvent surroundings workflowType body) journal
      fun ending after =>
        (∃ event, ending = .ok event ∧ event.toEventBody = body) ∧
          journal.Grew after [] [] := by
  have built := AuditEvent.build_of_valid valid (surroundings.uuid4 journal.ticks)
    surroundings.workflowId workflowType (surroundings.now (journal.ticks + 1))
  simp only [newEvent, uuid4, now, validated, Program.meets_bind, Program.meets_update,
    Program.meets_ofExcept, built, Except.mapError]
  exact ⟨⟨_, rfl, rfl⟩, (List.append_nil _).symm, (List.append_nil _).symm,
    Nat.le_add_right journal.ticks 2⟩

/-- An event is in the log if its append lands, and the append answers. -/
theorem recordAuditEvent_meets
    (lands : Bool) (answer : Except Raised Unit) (event : AuditEvent) :
    Program.Meets (recordAuditEvent lands answer event) journal fun ending after =>
      ending = answer ∧
        journal.Grew after (if lands then [event.toEventBody] else []) [] := by
  rw [recordAuditEvent, Program.meets_bind, Program.meets_update]
  refine ⟨rfl, ?_⟩
  rcases lands with _ | _
  · exact Journal.Grew.refl journal
  · exact ⟨by simp [Journal.trail, Program.final, Program.ofExcept],
      (List.append_nil _).symm, le_refl _⟩

/-- A valid event is recorded if its append lands, and the append answers. -/
theorem record_meets
    (workflowType : String) (await : Await) {body : EventBody} (valid : body.Valid) :
    Program.Meets (record surroundings workflowType await body) journal
      fun ending after =>
        ending = surroundings.appendEnding await ∧
          journal.Grew after (if surroundings.lands await then [body] else []) [] := by
  refine Program.Meets.bind (newEvent_meets workflowType valid) ?_ ?_
  · rintro event issued ⟨⟨given, equal, bodyGiven⟩, grew⟩
    cases equal
    refine (recordAuditEvent_meets _ _ event).mono ?_
    rintro ending after ⟨answer, grewOn⟩
    rw [bodyGiven] at grewOn
    exact ⟨answer, grew.trans grewOn⟩
  · rintro failure issued ⟨⟨given, equal, -⟩, -⟩
    cases equal

/-- An append that answers has landed. -/
theorem lands_of_appended
    {await : Await} (appended : surroundings.appendEnding await = .ok ()) :
    surroundings.lands await = true := by
  rw [Surroundings.appendEnding] at appended
  rw [Surroundings.lands]
  split_ifs at appended with cancelled
  rw [if_neg cancelled]
  rcases outcome : surroundings.appended await with _ | ⟨landed, failure⟩
  · rfl
  · rw [outcome] at appended
    cases appended

/--
When appends succeed, a valid event is recorded and the run goes on, or a
cancellation cuts off its append.
-/
theorem record_meets_of_succeed
    (succeed : surroundings.AppendsSucceed) (workflowType : String) (await : Await)
    {body : EventBody} (valid : body.Valid) :
    Program.Meets (record surroundings workflowType await body) journal
      fun ending after =>
        (surroundings.cancelAt ≠ some await ∧ ending = .ok () ∧
          journal.Grew after [body] []) ∨
        (surroundings.cancelAt = some await ∧ ending = .error .cancelled ∧
          journal.Grew after (if surroundings.landed then [body] else []) []) := by
  refine (record_meets workflowType await valid).mono ?_
  rintro ending after ⟨answer, grew⟩
  rw [Surroundings.appendEnding, succeed await, AppendOutcome.ending] at answer
  rw [Surroundings.lands, succeed await, AppendOutcome.lands] at grew
  by_cases cancelled : surroundings.cancelAt = some await
  · rw [if_pos cancelled] at answer grew
    exact Or.inr ⟨cancelled, answer, grew⟩
  · rw [if_neg cancelled] at answer grew
    exact Or.inl ⟨cancelled, answer, grew⟩

/-! ## What a run may start -/

/-- Every command started so far is allowed. -/
def Journal.Starts (allowed : Command → Prop) (journal : Journal Command) : Prop :=
  ∀ command ∈ journal.commands, allowed command

section Keeping

/-- Recording changes nothing that depends on the started commands only. -/
theorem keeps_record_commands
    (holds : List Command → Prop) (workflowType : String) (await : Await) (body : EventBody) :
    Program.Keeps (fun journal => holds journal.commands)
      (record surroundings workflowType await body) := by
  refine Program.Keeps.bind ?_ ?_
  · refine Program.Keeps.bind (fun _ holds => holds) fun eventId => ?_
    exact Program.Keeps.bind (fun _ holds => holds) fun timestamp => Program.Keeps.ofExcept _
  · intro event
    refine Program.Keeps.bind ?_ fun _ => Program.Keeps.ofExcept _
    intro journal holds
    rcases lands : surroundings.lands await with _ | _
    · exact holds
    · exact holds

variable {allowed : Command → Prop}

omit [DecidableEq Await] in
theorem keeps_now : Program.Keeps (Journal.Starts allowed) (now surroundings) :=
  fun _ holds => holds

theorem keeps_record (workflowType : String) (await : Await) (body : EventBody) :
    Program.Keeps (Journal.Starts allowed) (record surroundings workflowType await body) :=
  keeps_record_commands (fun commands => ∀ command ∈ commands, allowed command) workflowType
    await body

theorem keeps_executeActivity
    (await : Await) {command : Command} (outcome : ActivityOutcome Result)
    (legal : allowed command) :
    Program.Keeps (Journal.Starts allowed)
      (executeActivity surroundings await command outcome) := by
  intro journal holds started member
  rcases List.mem_append.1 member with earlier | last
  · exact holds started earlier
  · rw [List.mem_singleton.1 last]
    exact legal

end Keeping

end Snapl.Orchestrator
