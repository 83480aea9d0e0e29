import Snapl.Orchestrator.DeployIntent

/-!
# The course of a deploy

When audit appends succeed, a deploy is determined by the outcomes of its
activities: which activities it starts, which of them complete, and with which
verdict it ends.  That is its course.  The run records the events of its
course and returns the result of its verdict, unless a cancellation cuts off
one of its appends; then it raises, having recorded a prefix of those events.
-/

namespace Snapl.Orchestrator.DeployIntent

open Snapl.Library Snapl.Intent Snapl.Observability

/-- The activities started, the ones completed, and the verdict. -/
structure Course where
  commands : List Command
  completed : List Stage
  verdict : Verdict

namespace Course

/-- A course that ends at once. -/
def decided (verdict : Verdict) : Course := ⟨[], [], verdict⟩

/-- A course after the start of an activity. -/
def starting (course : Course) (command : Command) : Course :=
  { course with commands := command :: course.commands }

/-- A course after the completion of a stage. -/
def completing (course : Course) (stage : Stage) : Course :=
  { course with completed := stage :: course.completed }

/-- The course a guarded activity leads to. -/
def guarded
    {Result : Type} (command : Command) (answer : Except Raised Result)
    (failed : ActivityFailure → Verdict) (next : Result → Course) : Course :=
  match answer with
  | .ok result => (next result).starting command
  | .error (.activityError failure) => (decided (failed failure)).starting command
  | .error _ => (decided .cancelled).starting command

section Fields

variable {Result : Type} (command : Command) (failed : ActivityFailure → Verdict)
  (next : Result → Course)

@[simp]
theorem guarded_ok (result : Result) :
    guarded command (.ok result) failed next = (next result).starting command := rfl

@[simp]
theorem guarded_cancelled :
    guarded command (.error .cancelled) failed next = ⟨[command], [], .cancelled⟩ := rfl

@[simp]
theorem guarded_activityError (failure : ActivityFailure) :
    guarded command (.error (.activityError failure)) failed next =
      ⟨[command], [], failed failure⟩ := rfl

/-- A guarded activity is started first, and its result decides what is started next. -/
theorem commands_guarded (answer : Except Raised Result) :
    (guarded command answer failed next).commands =
      command :: match answer with
        | .ok result => (next result).commands
        | .error _ => [] := by
  rcases answer with raised | result
  · cases raised <;> rfl
  · rfl

end Fields

@[simp]
theorem commands_starting (course : Course) (command : Command) :
    (course.starting command).commands = command :: course.commands := rfl

@[simp]
theorem completed_starting (course : Course) (command : Command) :
    (course.starting command).completed = course.completed := rfl

@[simp]
theorem verdict_starting (course : Course) (command : Command) :
    (course.starting command).verdict = course.verdict := rfl

@[simp]
theorem commands_completing (course : Course) (stage : Stage) :
    (course.completing stage).commands = course.commands := rfl

@[simp]
theorem completed_completing (course : Course) (stage : Stage) :
    (course.completing stage).completed = stage :: course.completed := rfl

@[simp]
theorem verdict_completing (course : Course) (stage : Stage) :
    (course.completing stage).verdict = course.verdict := rfl

@[simp]
theorem decided_eq (verdict : Verdict) : decided verdict = ⟨[], [], verdict⟩ := rfl

/-- The events of a course. -/
def events (course : Course) (deviceId : UUID) : List EventBody :=
  course.completed.map (completedEvent deviceId) ++ [course.verdict.event deviceId]

/-- The audit points of a course. -/
def audits (course : Course) : List Await :=
  course.completed.map Await.completed ++ [.terminated]

end Course

section Outcomes

variable (setting : Setting)

/-- The answer of the activity of a stage. -/
def Setting.answers
    {Result : Type} (stage : Stage) (outcome : ActivityOutcome Result) :
    Except Raised Result :=
  setting.answer (.activity stage) outcome

/-- The verdict on a report. -/
def verdictOn (report : DriftReport) : Verdict :=
  if report.status = .error then
    .failure .collectFailed
      (orDefault (report.error.getD "") "drift detection returned ERROR status")
      collectFailed_fails
  else if ∀ item ∈ report.items, item.undesired = true then
    .success (undesiredPaths report)
  else .verificationFailed report.items

/-- The verdict on a failed fetch. -/
def fetchVerdict (failure : ActivityFailure) : Verdict :=
  if isIntentNotFound failure then
    .failure .deviceNotFound (formatCause failure "device not found in SoT")
      deviceNotFound_fails
  else
    .failure .intentUnavailable (formatCause failure "intent fetch failed")
      intentUnavailable_fails

def detectCourse (desired : DesiredState) (collected : CollectResult) : Course :=
  Course.guarded (.detectDrift desired collected)
    (setting.answers .detect setting.detected)
    (fun failure => .failure .collectFailed
      (formatCause failure "drift detection failed") collectFailed_fails)
    fun report => (Course.decided (verdictOn report)).completing .detect

def collectCourse (desired : DesiredState) : Course :=
  Course.guarded (.collectDriftState desired.device)
    (setting.answers .collect setting.collected)
    (fun failure => .failure .collectFailed
      (formatCause failure "collect activity failed") collectFailed_fails)
    fun collected => (detectCourse setting desired collected).completing .collect

def applyCourse (desired : DesiredState) : Course :=
  Course.guarded (.applyConfig desired)
    (setting.answers .apply setting.applied)
    (fun failure => .failure .applyFailed
      (formatCause failure "apply activity failed") applyFailed_fails)
    fun applyResult =>
      if applyResult.success = false then
        Course.decided (.failure .applyFailed
          (orDefault (applyResult.error.getD "") "apply reported success=False")
          applyFailed_fails)
      else (collectCourse setting desired).completing .apply

/-- The course of the whole deploy. -/
def course (deviceId : UUID) : Course :=
  Course.guarded (.fetchDesiredState deviceId)
    (setting.answers .fetch setting.fetched) fetchVerdict
    fun desired => (applyCourse setting desired).completing .fetch

end Outcomes

/-! ## Terminal events and results -/

theorem completedEvent_valid (deviceId : UUID) (stage : Stage) :
    (completedEvent deviceId stage).Valid := by
  constructor <;> simp [completedEvent, validOutcomes]

theorem startedEvent_valid (deviceId : UUID) : (startedEvent deviceId).Valid := by
  constructor <;> simp [startedEvent, AuditEventType.ofActivity]

theorem Verdict.event_valid (verdict : Verdict) (deviceId : UUID) :
    (verdict.event deviceId).Valid := by
  cases verdict with
  | success => constructor <;> simp [Verdict.event, validOutcomes, AuditEventType.ofActivity]
  | failure => constructor <;> simp [Verdict.event, validOutcomes, AuditEventType.ofActivity]
  | verificationFailed =>
      constructor <;> simp [Verdict.event, validOutcomes, AuditEventType.ofActivity]
  | cancelled => constructor <;> simp [Verdict.event, validOutcomes, AuditEventType.ofActivity]

/-- The result of a verdict passes its validator. -/
theorem Verdict.fields_valid
    (verdict : Verdict) (workflowId : String) (deviceId : UUID)
    {startedAt endedAt : Int} (ordered : startedAt ≤ endedAt) :
    (verdict.fields workflowId deviceId startedAt endedAt).Valid where
  success := by
    cases verdict with
    | success => simp [fields, succeeds, reason]
    | failure reason detail fails =>
        have unequal : reason ≠ .succeeded := by
          rintro rfl
          cases fails
        simp [fields, succeeds, Verdict.reason, unequal]
    | verificationFailed => simp [fields, succeeds, reason]
    | cancelled => simp [fields, succeeds, reason]
  items := by
    cases verdict with
    | verificationFailed => simp [fields, reason]
    | success => simp [fields, driftItems]
    | failure => simp [fields, driftItems]
    | cancelled => simp [fields, driftItems]
  time := ordered

theorem verdictOn_eq_classify
    (setting : Setting) (deviceId : UUID) (startedAt : Int) (report : DriftReport) :
    classify setting deviceId startedAt report =
      terminate setting deviceId startedAt (verdictOn report) := by
  have sameLength :
      (report.items.filter fun item => item.undesired).length = report.items.length ↔
        ∀ item ∈ report.items, item.undesired = true :=
    List.length_filter_eq_length_iff
  rw [classify, verdictOn]
  rcases status : report.status with _ | _ | _
  · have none := DriftReport.items_eq_nil_of_clean status
    simp [none, terminateSuccess]
  · by_cases all : ∀ item ∈ report.items, item.undesired = true
    · rw [if_pos (Or.inr ⟨rfl, sameLength.2 all⟩), if_neg (by decide), if_pos all]
      rfl
    · rw [if_neg (by simp [sameLength, all]), if_pos rfl, if_neg (by decide), if_neg all]
      rfl
  · simp [terminateFailure]

/-! ## Runs along a course -/

section Along

variable (setting : Setting) (deviceId : UUID) (startedAt : Int)

/--
A demand on how a run ends, by the course the run is on, that a verdict meets
and that the stages before it hand on.
-/
structure Along
    (demand : Course → Journal Command → Except Raised WorkflowResult →
      Journal Command → Prop) : Prop where
  terminates :
    ∀ (verdict : Verdict) (before : Journal Command), startedAt ≤ setting.now before.ticks →
      Program.Meets (terminate setting deviceId startedAt verdict) before
        (demand (Course.decided verdict) before)
  completes :
    ∀ (stage : Stage) (course : Course) (rest : Workflow Command WorkflowResult)
      (before : Journal Command), startedAt ≤ setting.now before.ticks →
      (∀ after : Journal Command, startedAt ≤ setting.now after.ticks →
        Program.Meets rest after (demand course after)) →
      Program.Meets
        (do
          recordEvent setting (.completed stage) (completedEvent deviceId stage)
          rest) before
        (demand (course.completing stage) before)
  starts :
    ∀ (command : Command) (course : Course) (before after final : Journal Command)
      (ending : Except Raised WorkflowResult), before.Grew after [] [command] →
      demand course after ending final → demand (course.starting command) before ending final

variable {setting deviceId startedAt}
variable
    {demand : Course → Journal Command → Except Raised WorkflowResult →
      Journal Command → Prop}
    (along : Along setting deviceId startedAt demand)
    {before : Journal Command}

include along

/-- A guarded activity is started, and its answer decides the rest. -/
theorem guarded_along
    {Result : Type} {stage : Stage} {command : Command}
    {outcome : ActivityOutcome Result} {failed : ActivityFailure → Verdict}
    {next : Result → Workflow Command WorkflowResult} {courseOf : Result → Course}
    {handler : ActivityFailure → Workflow Command WorkflowResult}
    (handled : ∀ failure, handler failure =
      terminate setting deviceId startedAt (failed failure))
    (begun : startedAt ≤ setting.now before.ticks)
    (follows : ∀ (result : Result) (after : Journal Command),
      startedAt ≤ setting.now after.ticks →
      Program.Meets (next result) after (demand (courseOf result) after)) :
    Program.Meets
      (Program.attempt
        (executeActivity setting.toSurroundings (.activity stage) command outcome)
        (exceptActivityError (terminateCancelled setting deviceId startedAt) handler)
        next) before
      (demand (Course.guarded command (setting.answers stage outcome) failed courseOf)
        before) := by
  refine Program.Meets.attempt (executeActivity_meets (Await.activity stage) command outcome) ?_ ?_
  · rintro result after ⟨answer, grew⟩
    rw [Setting.answers, ← answer]
    refine (follows result after (le_trans begun (setting.monotone grew.ticks))).mono ?_
    intro ending final followed
    exact along.starts command _ before after final ending grew followed
  · rintro raised after ⟨answer, grew⟩
    have later : startedAt ≤ setting.now after.ticks :=
      le_trans begun (setting.monotone grew.ticks)
    rw [Setting.answers, ← answer]
    simp only [Surroundings.answer] at answer
    split_ifs at answer with cancelled
    · cases answer
      exact (along.terminates .cancelled after later).mono
        fun ending final followed => along.starts command _ before after final ending grew followed
    · cases outcome with
      | returned result => cases answer
      | failed failure =>
          cases answer
          rw [exceptActivityError, handled]
          exact (along.terminates (failed failure) after later).mono
            fun ending final followed =>
              along.starts command _ before after final ending grew followed

theorem verify_along
    (desired : DesiredState) (collected : CollectResult)
    (begun : startedAt ≤ setting.now before.ticks) :
    Program.Meets (verify setting deviceId startedAt desired collected) before
      (demand (detectCourse setting desired collected) before) := by
  refine guarded_along along (fun _ => rfl) begun ?_
  intro report after later
  refine along.completes .detect _ _ after later ?_
  intro recorded latest
  rw [verdictOn_eq_classify]
  exact along.terminates (verdictOn report) recorded latest

theorem collectAndVerify_along
    (desired : DesiredState) (begun : startedAt ≤ setting.now before.ticks) :
    Program.Meets (collectAndVerify setting deviceId startedAt desired) before
      (demand (collectCourse setting desired) before) := by
  refine guarded_along along (fun _ => rfl) begun ?_
  intro collected after later
  refine along.completes .collect _ _ after later ?_
  intro recorded latest
  exact verify_along along desired collected latest

theorem applyAndVerify_along
    (desired : DesiredState) (begun : startedAt ≤ setting.now before.ticks) :
    Program.Meets (applyAndVerify setting deviceId startedAt desired) before
      (demand (applyCourse setting desired) before) := by
  refine guarded_along along (fun _ => rfl) begun ?_
  intro applyResult after later
  by_cases unsuccessful : applyResult.success = false
  · rw [if_pos unsuccessful, if_pos unsuccessful]
    exact along.terminates _ after later
  · rw [if_neg unsuccessful, if_neg unsuccessful]
    refine along.completes .apply _ _ after later ?_
    intro recorded latest
    exact collectAndVerify_along along desired latest

/-- The whole deploy, after its first event, runs along its course. -/
theorem fetchAndDeploy_along (begun : startedAt ≤ setting.now before.ticks) :
    Program.Meets (fetchAndDeploy setting deviceId startedAt) before
      (demand (course setting deviceId) before) := by
  refine guarded_along along ?_ begun ?_
  · intro failure
    rw [fetchVerdict]
    split_ifs <;> rfl
  · intro desired after later
    refine along.completes .fetch _ _ after later ?_
    intro recorded latest
    exact applyAndVerify_along along desired latest

end Along

/-! ## Runs follow their course -/

section Following

variable (setting : Setting) (deviceId : UUID) (startedAt : Int)

/-- A cancellation cuts off one of these audit appends. -/
def Cut (audits : List Await) : Prop :=
  ∃ await ∈ audits, setting.cancelAt = some await

/--
How a run that follows a course ends: undisturbed with the result of its
verdict, or cut off with a prefix of its events.
-/
inductive Follows
    (course : Course) (before : Journal Command) :
    Except Raised WorkflowResult → Journal Command → Prop where
  | undisturbed
      {after : Journal Command} {result : WorkflowResult} {endedAt : Int}
      (uncut : ¬ Cut setting course.audits)
      (grew : before.Grew after (course.events deviceId) course.commands)
      (returned : result.toWorkflowResultFields =
        course.verdict.fields setting.workflowId deviceId startedAt endedAt) :
      Follows course before (.ok result) after
  | cutOff
      {after : Journal Command} {events : List EventBody} {commands : List Command}
      (cut : Cut setting course.audits)
      (grew : before.Grew after events commands)
      (recorded : events <+: course.events deviceId)
      (started : commands <+: course.commands) :
      Follows course before (.error .cancelled) after

variable {setting deviceId startedAt}
variable {before : Journal Command}

theorem starting_follows
    {course : Course} {command : Command} {after final : Journal Command}
    {ending : Except Raised WorkflowResult} (grew : before.Grew after [] [command])
    (followed : Follows setting deviceId startedAt course after ending final) :
    Follows setting deviceId startedAt (course.starting command) before ending final := by
  cases followed with
  | undisturbed uncut grewRest returned =>
      exact Follows.undisturbed uncut (grew.trans grewRest) returned
  | cutOff cut grewRest recorded started =>
      exact Follows.cutOff cut (grew.trans grewRest) recorded
        ((List.prefix_cons_inj _).2 started)

variable (succeed : setting.AppendsSucceed)

include succeed

/-- A verdict is recorded and its result returned. -/
theorem terminate_follows
    (verdict : Verdict) (begun : startedAt ≤ setting.now before.ticks) :
    Program.Meets (terminate setting deviceId startedAt verdict) before
      (Follows setting deviceId startedAt (Course.decided verdict) before) := by
  refine Program.Meets.bind (record_meets_of_succeed succeed workflowType Await.terminated
    (verdict.event_valid deviceId)) ?_ ?_
  · rintro _ recorded (⟨uncut, _, grew⟩ | ⟨_, answer, _⟩)
    · refine Program.Meets.bind now_meets ?_ ?_
      · rintro endedAt after ⟨read, grewOn, -⟩
        cases read
        have ordered : startedAt ≤ setting.now recorded.ticks :=
          le_trans begun (setting.monotone grew.ticks)
        rw [validated, WorkflowResult.build_of_valid
          (verdict.fields_valid setting.workflowId deviceId ordered),
          Except.mapError, Program.meets_ofExcept]
        refine Follows.undisturbed ?_ ?_ rfl
        · rintro ⟨await, member, cancelled⟩
          rcases List.mem_singleton.1 member with rfl
          exact uncut cancelled
        · simpa [Course.events, Course.decided] using grew.trans grewOn
      · rintro failure after ⟨read, -⟩
        cases read
    · cases answer
  · rintro failure after (⟨_, answer, _⟩ | ⟨cancelled, answer, grew⟩)
    · cases answer
    · cases answer
      refine Follows.cutOff ⟨.terminated, by simp [Course.audits], cancelled⟩ grew ?_
        (List.prefix_refl _)
      by_cases landed : setting.landed = true
      · simp [landed, Course.events, Course.decided]
      · simp [landed]

/-- A completed stage is recorded before the rest of the course. -/
theorem completing_follows
    {rest : Workflow Command WorkflowResult} {course : Course} (stage : Stage)
    (begun : startedAt ≤ setting.now before.ticks)
    (follows : ∀ after : Journal Command, startedAt ≤ setting.now after.ticks →
      Program.Meets rest after (Follows setting deviceId startedAt course after)) :
    Program.Meets
      (do
        recordEvent setting (.completed stage) (completedEvent deviceId stage)
        rest) before
      (Follows setting deviceId startedAt (course.completing stage) before) := by
  refine Program.Meets.bind (record_meets_of_succeed succeed workflowType
    (Await.completed stage) (completedEvent_valid deviceId stage)) ?_ ?_
  · rintro _ recorded (⟨uncut, _, grew⟩ | ⟨_, answer, _⟩)
    · refine (follows recorded (le_trans begun (setting.monotone grew.ticks))).mono ?_
      intro ending after followed
      cases followed with
      | undisturbed uncutRest grewRest returned =>
          refine Follows.undisturbed ?_ (grew.trans grewRest) returned
          rintro ⟨await, member, cancelled⟩
          rcases List.mem_cons.1 member with rfl | member
          · exact uncut cancelled
          · exact uncutRest ⟨await, member, cancelled⟩
      | cutOff cut grewRest recordedRest startedRest =>
          obtain ⟨await, member, cancelled⟩ := cut
          exact Follows.cutOff ⟨await, List.mem_cons_of_mem _ member, cancelled⟩
            (grew.trans grewRest) ((List.prefix_cons_inj _).2 recordedRest) startedRest
    · cases answer
  · rintro failure after (⟨_, answer, _⟩ | ⟨cancelled, answer, grew⟩)
    · cases answer
    · cases answer
      refine Follows.cutOff
        ⟨.completed stage, by simp [Course.audits, Course.completing], cancelled⟩ grew ?_
        List.nil_prefix
      by_cases landed : setting.landed = true
      · simp [landed, Course.events, Course.completing]
      · simp [landed]

/-- When appends succeed, runs follow their course. -/
theorem follows_along :
    Along setting deviceId startedAt (Follows setting deviceId startedAt) where
  terminates verdict _ begun := terminate_follows succeed verdict begun
  completes stage _ _ _ begun follows := completing_follows succeed stage begun follows
  starts _ _ _ _ _ _ grew followed := starting_follows grew followed

variable (deviceId) in
/-- How a whole run ends, whichever await a cancellation reaches. -/
theorem run_follows :
    Program.Meets (run setting deviceId) Journal.blank fun ending after =>
      if setting.cancelAt = some .started then
        ending = .error .cancelled ∧
          Journal.blank.Grew after
            (if setting.landed then [startedEvent deviceId] else []) []
      else
        ∃ recorded, Journal.blank.Grew recorded [startedEvent deviceId] [] ∧
          Follows setting deviceId (setting.now 0) (course setting deviceId) recorded
            ending after := by
  refine Program.Meets.bind now_meets ?_ ?_
  · rintro startedAt begun ⟨read, grewFirst, -⟩
    cases read
    refine Program.Meets.bind (record_meets_of_succeed succeed workflowType Await.started
      (startedEvent_valid deviceId)) ?_ ?_
    · rintro _ recorded (⟨uncut, _, grew⟩ | ⟨_, answer, _⟩)
      · refine (fetchAndDeploy_along (follows_along succeed)
          (setting.monotone (Nat.zero_le recorded.ticks))).mono ?_
        intro ending after followed
        rw [if_neg uncut]
        exact ⟨recorded, grewFirst.trans grew, followed⟩
      · cases answer
    · rintro failure after (⟨_, answer, _⟩ | ⟨cancelled, answer, grew⟩)
      · cases answer
      · cases answer
        rw [if_pos cancelled]
        exact ⟨rfl, grewFirst.trans grew⟩
  · rintro failure after ⟨read, -⟩
    cases read

end Following

end Snapl.Orchestrator.DeployIntent
