import Snapl.Contract.DeployOutcome

/-!
# Failures of a deploy's activities

The audit append is an activity like the others, and any of its appends may
fail after its retries.  The four stages are guarded; the appends between them
are not, so an append that fails ends the run in an activity error, whatever
has been done to the device by then.  The failures of a deploy are all
returned exactly when none of the appends it comes to fails.
-/

namespace Snapl.Orchestrator.DeployIntent

open Snapl.Library Snapl.Intent Snapl.Observability

/-! ## How far a deploy gets -/

section Progress

variable (setting : Setting)

/-- The append at this audit point answers. -/
def Appended (await : Await) : Prop := setting.appendEnding await = .ok ()

/-- The stage answers with what the rest of the deploy builds on. -/
def Completes : Stage → Prop
  | .fetch => ∃ desired, setting.answers .fetch setting.fetched = .ok desired
  | .apply => ∃ applyResult,
      setting.answers .apply setting.applied = .ok applyResult ∧ applyResult.success = true
  | .collect => ∃ collected, setting.answers .collect setting.collected = .ok collected
  | .detect => ∃ report, setting.answers .detect setting.detected = .ok report

/-- The stage completes, and the event that says so is appended. -/
def Passes (stage : Stage) : Prop :=
  Completes setting stage ∧ Appended setting (.completed stage)

/-- The deploy comes to the activity of this stage. -/
def Reaches : Stage → Prop
  | .fetch => Appended setting .started
  | .apply => Appended setting .started ∧ Passes setting .fetch
  | .collect => Appended setting .started ∧ Passes setting .fetch ∧ Passes setting .apply
  | .detect => Appended setting .started ∧ Passes setting .fetch ∧ Passes setting .apply ∧
      Passes setting .collect

/-- The deploy comes to this audit append. -/
def Awaits : Await → Prop
  | .started => True
  | .activity _ => False
  | .completed stage => Reaches setting stage ∧ Completes setting stage
  | .terminated => (∃ stage, Reaches setting stage ∧ ¬ Completes setting stage) ∨
      (Reaches setting .detect ∧ Passes setting .detect)

/-- A step the deploy comes to fails, and this is its reason. -/
inductive StepFails : WorkflowReason → Prop where
  | append {await : Await} (awaited : Awaits setting await)
      (fails : Fails (setting.appendEnding await)) : StepFails .auditFailed
  | unknownDevice {failure : ActivityFailure} (reached : Reaches setting .fetch)
      (failed : setting.answers .fetch setting.fetched = .error (.activityError failure))
      (unknown : isIntentNotFound failure = true) : StepFails .deviceNotFound
  | fetch {failure : ActivityFailure} (reached : Reaches setting .fetch)
      (failed : setting.answers .fetch setting.fetched = .error (.activityError failure))
      (known : isIntentNotFound failure = false) : StepFails .intentUnavailable
  | apply (reached : Reaches setting .apply)
      (fails : Fails (setting.answers .apply setting.applied)) : StepFails .applyFailed
  | refused {applyResult : ApplyResult} (reached : Reaches setting .apply)
      (answered : setting.answers .apply setting.applied = .ok applyResult)
      (refused : applyResult.success = false) : StepFails .applyFailed
  | collect (reached : Reaches setting .collect)
      (fails : Fails (setting.answers .collect setting.collected)) :
      StepFails .collectFailed
  | detect (reached : Reaches setting .detect)
      (fails : Fails (setting.answers .detect setting.detected)) : StepFails .collectFailed
  | errored {report : DriftReport} (reached : Reaches setting .detect)
      (answered : setting.answers .detect setting.detected = .ok report)
      (errored : report.status = .error) : StepFails .collectFailed

/--
No activity failure escapes the deploy: when a step fails, it returns an
unsuccessful result with the reason of a step that failed.
-/
structure FailuresReturned (deviceId : UUID) : Prop where
  contained : ∀ failure,
    (run setting deviceId).ending Journal.blank ≠ .error (.activityError failure)
  told : setting.cancelAt = none → ∀ reason, StepFails setting reason →
    ∃ result, (run setting deviceId).ending Journal.blank = .ok result ∧
      result.success = false ∧ StepFails setting result.reason

end Progress

/-! ## A deploy ends as its appends do -/

section Ending

variable (setting : Setting) (deviceId : UUID) (startedAt : Int)

/-- How the appends at these audit points end, awaited in order. -/
def appendsEnding : List Await → Except Raised Unit
  | [] => .ok ()
  | await :: rest =>
    match setting.appendEnding await with
    | .ok _ => appendsEnding rest
    | .error raised => .error raised

/-- The audit points of a whole deploy, in order. -/
def auditPoints : List Await := .started :: (course setting deviceId).audits

/-- The run ends as its appends do, and else returns the result of its verdict. -/
inductive EndsAs
    (appends : Except Raised Unit) (verdict : Verdict) :
    Except Raised WorkflowResult → Prop where
  | returned {result : WorkflowResult} {endedAt : Int} (appended : appends = .ok ())
      (returned : result.toWorkflowResultFields =
        verdict.fields setting.workflowId deviceId startedAt endedAt) :
      EndsAs appends verdict (.ok result)
  | raised {raised : Raised} (broken : appends = .error raised) :
      EndsAs appends verdict (.error raised)

variable {setting}

@[simp]
theorem appendsEnding_nil : appendsEnding setting [] = .ok () := rfl

theorem appendsEnding_cons_of_appended
    {await : Await} (appended : Appended setting await) (rest : List Await) :
    appendsEnding setting (await :: rest) = appendsEnding setting rest := by
  have answered : setting.appendEnding await = .ok () := appended
  simp only [appendsEnding, answered]

theorem appendsEnding_cons_of_error
    {await : Await} {raised : Raised} (broken : setting.appendEnding await = .error raised)
    (rest : List Await) : appendsEnding setting (await :: rest) = .error raised := by
  simp only [appendsEnding, broken]

variable {deviceId startedAt}

theorem terminate_ends
    (verdict : Verdict) {before : Journal Command}
    (begun : startedAt ≤ setting.now before.ticks) :
    Program.Meets (terminate setting deviceId startedAt verdict) before fun ending _ =>
      EndsAs setting deviceId startedAt (appendsEnding setting [.terminated]) verdict
        ending := by
  refine Program.Meets.bind (record_meets workflowType Await.terminated
    (verdict.event_valid deviceId)) ?_ ?_
  · rintro _ recorded ⟨answer, grew⟩
    refine Program.Meets.bind now_meets ?_ ?_
    · rintro endedAt after ⟨read, -, -⟩
      cases read
      have ordered : startedAt ≤ setting.now recorded.ticks :=
        le_trans begun (setting.monotone grew.ticks)
      rw [validated, WorkflowResult.build_of_valid
        (verdict.fields_valid setting.workflowId deviceId ordered),
        Except.mapError, Program.meets_ofExcept]
      exact EndsAs.returned (appendsEnding_cons_of_appended answer.symm []) rfl
    · rintro failure after ⟨read, -⟩
      cases read
  · rintro raised after ⟨answer, -⟩
    exact EndsAs.raised (appendsEnding_cons_of_error answer.symm [])

theorem completing_ends
    (stage : Stage) (course : Course) (rest : Workflow Command WorkflowResult)
    {before : Journal Command} (begun : startedAt ≤ setting.now before.ticks)
    (follows : ∀ after : Journal Command, startedAt ≤ setting.now after.ticks →
      Program.Meets rest after fun ending _ =>
        EndsAs setting deviceId startedAt (appendsEnding setting course.audits)
          course.verdict ending) :
    Program.Meets
      (do
        recordEvent setting (.completed stage) (completedEvent deviceId stage)
        rest) before fun ending _ =>
      EndsAs setting deviceId startedAt
        (appendsEnding setting (.completed stage :: course.audits)) course.verdict ending := by
  refine Program.Meets.bind (record_meets workflowType (Await.completed stage)
    (completedEvent_valid deviceId stage)) ?_ ?_
  · rintro _ recorded ⟨answer, grew⟩
    rw [appendsEnding_cons_of_appended answer.symm]
    exact follows recorded (le_trans begun (setting.monotone grew.ticks))
  · rintro raised after ⟨answer, -⟩
    exact EndsAs.raised (appendsEnding_cons_of_error answer.symm _)

/-- Whatever its appends do, a run ends as they do along its course. -/
theorem ends_along :
    Along setting deviceId startedAt fun course _ ending _ =>
      EndsAs setting deviceId startedAt (appendsEnding setting course.audits) course.verdict
        ending where
  terminates verdict _ begun := terminate_ends verdict begun
  completes stage course rest _ begun follows :=
    completing_ends stage course rest begun follows
  starts _ _ _ _ _ _ _ ends := ends

variable (setting deviceId) in
theorem run_ends :
    EndsAs setting deviceId (setting.now 0)
      (appendsEnding setting (auditPoints setting deviceId))
      (course setting deviceId).verdict ((run setting deviceId).ending Journal.blank) := by
  suffices meets : Program.Meets (run setting deviceId) Journal.blank fun ending _ =>
      EndsAs setting deviceId (setting.now 0)
        (appendsEnding setting (auditPoints setting deviceId))
        (course setting deviceId).verdict ending from meets
  refine Program.Meets.bind now_meets ?_ ?_
  · rintro startedAt begun ⟨read, -, -⟩
    cases read
    refine Program.Meets.bind (record_meets workflowType Await.started
      (startedEvent_valid deviceId)) ?_ ?_
    · rintro _ recorded ⟨answer, -⟩
      rw [auditPoints, appendsEnding_cons_of_appended answer.symm]
      exact fetchAndDeploy_along ends_along (setting.monotone (Nat.zero_le recorded.ticks))
    · rintro raised after ⟨answer, -⟩
      exact EndsAs.raised (appendsEnding_cons_of_error answer.symm _)
  · rintro failure after ⟨read, -⟩
    cases read

end Ending

/-! ## The appends a deploy comes to -/

section Points

variable {setting : Setting}

theorem audits_of_incomplete
    {Result : Type} {command : Command} {answer : Except Raised Result}
    {failed : ActivityFailure → Verdict} {next : Result → Course}
    (incomplete : ¬ ∃ result, answer = .ok result) :
    (Course.guarded command answer failed next).audits = [.terminated] := by
  rcases answer with raised | result
  · cases raised <;> rfl
  · exact absurd ⟨result, rfl⟩ incomplete

variable (deviceId : UUID)

theorem audits_fetched (completes : Completes setting .fetch) :
    ∃ desired, (course setting deviceId).audits =
      .completed .fetch :: (applyCourse setting desired).audits := by
  obtain ⟨desired, answered⟩ := completes
  refine ⟨desired, ?_⟩
  rw [course, answered]
  rfl

theorem audits_unfetched (incomplete : ¬ Completes setting .fetch) :
    (course setting deviceId).audits = [.terminated] :=
  audits_of_incomplete incomplete

variable (desired : DesiredState) (collected : CollectResult)

theorem audits_applied (completes : Completes setting .apply) :
    (applyCourse setting desired).audits =
      .completed .apply :: (collectCourse setting desired).audits := by
  obtain ⟨applyResult, answered, success⟩ := completes
  rw [applyCourse, answered, Course.guarded_ok, if_neg (by simp [success])]
  rfl

theorem audits_unapplied (incomplete : ¬ Completes setting .apply) :
    (applyCourse setting desired).audits = [.terminated] := by
  by_cases answered : ∃ applyResult, setting.answers .apply setting.applied = .ok applyResult
  · obtain ⟨applyResult, answered⟩ := answered
    have refused : applyResult.success = false := by
      by_contra success
      exact incomplete ⟨applyResult, answered, by simpa using success⟩
    rw [applyCourse, answered, Course.guarded_ok, if_pos refused]
    rfl
  · exact audits_of_incomplete answered

theorem audits_collected (completes : Completes setting .collect) :
    ∃ collected, (collectCourse setting desired).audits =
      .completed .collect :: (detectCourse setting desired collected).audits := by
  obtain ⟨collected, answered⟩ := completes
  refine ⟨collected, ?_⟩
  rw [collectCourse, answered]
  rfl

theorem audits_uncollected (incomplete : ¬ Completes setting .collect) :
    (collectCourse setting desired).audits = [.terminated] :=
  audits_of_incomplete incomplete

theorem audits_detected (completes : Completes setting .detect) :
    (detectCourse setting desired collected).audits =
      [.completed .detect, .terminated] := by
  obtain ⟨report, answered⟩ := completes
  rw [detectCourse, answered]
  rfl

theorem audits_undetected (incomplete : ¬ Completes setting .detect) :
    (detectCourse setting desired collected).audits = [.terminated] :=
  audits_of_incomplete incomplete

/-! The appends still to come once a stage is reached. -/

theorem appends_from_fetch (reached : Reaches setting .fetch) :
    appendsEnding setting (auditPoints setting deviceId) =
      appendsEnding setting (course setting deviceId).audits :=
  appendsEnding_cons_of_appended reached _

theorem appends_from_apply (reached : Reaches setting .apply) :
    ∃ desired, appendsEnding setting (auditPoints setting deviceId) =
      appendsEnding setting (applyCourse setting desired).audits := by
  obtain ⟨started, completes, appended⟩ := reached
  obtain ⟨desired, points⟩ := audits_fetched deviceId completes
  refine ⟨desired, ?_⟩
  rw [appends_from_fetch deviceId started, points, appendsEnding_cons_of_appended appended]

theorem appends_from_collect (reached : Reaches setting .collect) :
    ∃ desired, appendsEnding setting (auditPoints setting deviceId) =
      appendsEnding setting (collectCourse setting desired).audits := by
  obtain ⟨started, fetches, completes, appended⟩ := reached
  obtain ⟨desired, ending⟩ := appends_from_apply deviceId ⟨started, fetches⟩
  refine ⟨desired, ?_⟩
  rw [ending, audits_applied desired completes, appendsEnding_cons_of_appended appended]

theorem appends_from_detect (reached : Reaches setting .detect) :
    ∃ desired collected, appendsEnding setting (auditPoints setting deviceId) =
      appendsEnding setting (detectCourse setting desired collected).audits := by
  obtain ⟨started, fetches, applies, completes, appended⟩ := reached
  obtain ⟨desired, ending⟩ := appends_from_collect deviceId ⟨started, fetches, applies⟩
  obtain ⟨collected, points⟩ := audits_collected desired completes
  refine ⟨desired, collected, ?_⟩
  rw [ending, points, appendsEnding_cons_of_appended appended]

/-- The appends from a completed stage on begin with that of its event. -/
theorem appends_from_completed
    {stage : Stage} (reached : Reaches setting stage) (completes : Completes setting stage) :
    ∃ rest, appendsEnding setting (auditPoints setting deviceId) =
      appendsEnding setting (.completed stage :: rest) := by
  cases stage with
  | fetch =>
      obtain ⟨desired, points⟩ := audits_fetched deviceId completes
      exact ⟨_, by rw [appends_from_fetch deviceId reached, points]⟩
  | apply =>
      obtain ⟨desired, ending⟩ := appends_from_apply deviceId reached
      exact ⟨_, by rw [ending, audits_applied desired completes]⟩
  | collect =>
      obtain ⟨desired, ending⟩ := appends_from_collect deviceId reached
      obtain ⟨collected, points⟩ := audits_collected desired completes
      exact ⟨_, by rw [ending, points]⟩
  | detect =>
      obtain ⟨desired, collected, ending⟩ := appends_from_detect deviceId reached
      exact ⟨_, by rw [ending, audits_detected desired collected completes]⟩

/-- A stage that does not complete leaves the terminal event to append. -/
theorem appends_from_incomplete
    {stage : Stage} (reached : Reaches setting stage)
    (incomplete : ¬ Completes setting stage) :
    appendsEnding setting (auditPoints setting deviceId) =
      appendsEnding setting [.terminated] := by
  cases stage with
  | fetch => rw [appends_from_fetch deviceId reached, audits_unfetched deviceId incomplete]
  | apply =>
      obtain ⟨desired, ending⟩ := appends_from_apply deviceId reached
      rw [ending, audits_unapplied desired incomplete]
  | collect =>
      obtain ⟨desired, ending⟩ := appends_from_collect deviceId reached
      rw [ending, audits_uncollected desired incomplete]
  | detect =>
      obtain ⟨desired, collected, ending⟩ := appends_from_detect deviceId reached
      rw [ending, audits_undetected desired collected incomplete]

theorem appends_from_verified
    (reached : Reaches setting .detect) (passes : Passes setting .detect) :
    appendsEnding setting (auditPoints setting deviceId) =
      appendsEnding setting [.terminated] := by
  obtain ⟨desired, collected, ending⟩ := appends_from_detect deviceId reached
  rw [ending, audits_detected desired collected passes.1,
    appendsEnding_cons_of_appended passes.2]

/-- An append the deploy comes to ends it, if it does not answer. -/
theorem appends_break
    {await : Await} (awaited : Awaits setting await) {raised : Raised}
    (broken : setting.appendEnding await = .error raised) :
    appendsEnding setting (auditPoints setting deviceId) = .error raised := by
  cases await with
  | started => exact appendsEnding_cons_of_error broken _
  | activity stage => exact absurd awaited not_false
  | completed stage =>
      obtain ⟨rest, ending⟩ := appends_from_completed deviceId awaited.1 awaited.2
      rw [ending, appendsEnding_cons_of_error broken]
  | terminated =>
      rcases awaited with ⟨stage, reached, incomplete⟩ | ⟨reached, passes⟩
      · rw [appends_from_incomplete deviceId reached incomplete,
          appendsEnding_cons_of_error broken]
      · rw [appends_from_verified deviceId reached passes,
          appendsEnding_cons_of_error broken]

/-- When every append the deploy comes to answers, it verifies or stops at a stage. -/
theorem appended_of_awaited
    (answered : ∀ await, Awaits setting await → Appended setting await) :
    appendsEnding setting (auditPoints setting deviceId) = .ok () := by
  have last : appendsEnding setting (auditPoints setting deviceId) =
      appendsEnding setting [.terminated] ∧ Awaits setting .terminated := by
    by_cases stopped : ∃ stage, Reaches setting stage ∧ ¬ Completes setting stage
    · obtain ⟨stage, reached, incomplete⟩ := stopped
      exact ⟨appends_from_incomplete deviceId reached incomplete,
        Or.inl ⟨stage, reached, incomplete⟩⟩
    · have passes : ∀ stage, Reaches setting stage → Passes setting stage := by
        intro stage reached
        have completes : Completes setting stage := by
          by_contra incomplete
          exact stopped ⟨stage, reached, incomplete⟩
        exact ⟨completes, answered (.completed stage) ⟨reached, completes⟩⟩
      have started : Appended setting .started := answered .started trivial
      have fetches := passes .fetch started
      have applies := passes .apply ⟨started, fetches⟩
      have collects := passes .collect ⟨started, fetches, applies⟩
      have reached : Reaches setting .detect := ⟨started, fetches, applies, collects⟩
      exact ⟨appends_from_verified deviceId reached (passes .detect reached),
        Or.inr ⟨reached, passes .detect reached⟩⟩
  rw [last.1, appendsEnding_cons_of_appended (answered .terminated last.2),
    appendsEnding_nil]

theorem awaited_of_broken
    {raised : Raised}
    (broken : appendsEnding setting (auditPoints setting deviceId) = .error raised) :
    ∃ await, Awaits setting await ∧ setting.appendEnding await = .error raised := by
  by_contra unbroken
  have answered : ∀ await, Awaits setting await → Appended setting await := by
    intro await awaited
    rcases ending : setting.appendEnding await with other | _
    · rw [appends_break deviceId awaited ending] at broken
      cases broken
      exact absurd ⟨await, awaited, ending⟩ unbroken
    · exact ending
  rw [appended_of_awaited deviceId answered] at broken
  cases broken

end Points

/-! ## Failures are returned unless an append fails -/

section Returning

variable {setting : Setting} (deviceId : UUID)

theorem verdict_from_apply (fetches : Completes setting .fetch) :
    ∃ desired, (course setting deviceId).verdict = (applyCourse setting desired).verdict := by
  obtain ⟨desired, answered⟩ := fetches
  exact ⟨desired, by rw [course, answered]; rfl⟩

theorem verdict_from_collect
    (fetches : Completes setting .fetch) (applies : Completes setting .apply) :
    ∃ desired, (course setting deviceId).verdict = (collectCourse setting desired).verdict := by
  obtain ⟨desired, verdict⟩ := verdict_from_apply deviceId fetches
  obtain ⟨applyResult, answered, success⟩ := applies
  refine ⟨desired, ?_⟩
  rw [verdict, applyCourse, answered, Course.guarded_ok, if_neg (by simp [success])]
  rfl

theorem verdict_from_detect
    (fetches : Completes setting .fetch) (applies : Completes setting .apply)
    (collects : Completes setting .collect) :
    ∃ desired collected,
      (course setting deviceId).verdict = (detectCourse setting desired collected).verdict := by
  obtain ⟨desired, verdict⟩ := verdict_from_collect deviceId fetches applies
  obtain ⟨collected, answered⟩ := collects
  exact ⟨desired, collected, by rw [verdict, collectCourse, answered]; rfl⟩

/-- The verdict of a deploy whose stage failed tells the reason of that stage. -/
theorem verdict_tells
    (answered : ∀ await, Awaits setting await → Appended setting await)
    {reason : WorkflowReason} (fails : StepFails setting reason) :
    (course setting deviceId).verdict.succeeds = false ∧
      (course setting deviceId).verdict.reason = reason := by
  cases fails with
  | append awaited fails =>
      obtain ⟨failure, broken⟩ := fails
      rw [answered _ awaited] at broken
      cases broken
  | unknownDevice reached failed unknown =>
      rw [course, failed, Course.guarded_activityError, fetchVerdict, if_pos unknown]
      exact ⟨rfl, rfl⟩
  | fetch reached failed known =>
      rw [course, failed, Course.guarded_activityError, fetchVerdict, if_neg (by simp [known])]
      exact ⟨rfl, rfl⟩
  | apply reached fails =>
      obtain ⟨desired, verdict⟩ := verdict_from_apply deviceId reached.2.1
      obtain ⟨failure, failed⟩ := fails
      rw [verdict, applyCourse, failed]
      exact ⟨rfl, rfl⟩
  | refused reached answer refused =>
      obtain ⟨desired, verdict⟩ := verdict_from_apply deviceId reached.2.1
      rw [verdict, applyCourse, answer, Course.guarded_ok, if_pos refused]
      exact ⟨rfl, rfl⟩
  | collect reached fails =>
      obtain ⟨desired, verdict⟩ := verdict_from_collect deviceId reached.2.1.1 reached.2.2.1
      obtain ⟨failure, failed⟩ := fails
      rw [verdict, collectCourse, failed]
      exact ⟨rfl, rfl⟩
  | detect reached fails =>
      obtain ⟨desired, collected, verdict⟩ :=
        verdict_from_detect deviceId reached.2.1.1 reached.2.2.1.1 reached.2.2.2.1
      obtain ⟨failure, failed⟩ := fails
      rw [verdict, detectCourse, failed]
      exact ⟨rfl, rfl⟩
  | errored reached answer errored =>
      obtain ⟨desired, collected, verdict⟩ :=
        verdict_from_detect deviceId reached.2.1.1 reached.2.2.1.1 reached.2.2.2.1
      rw [verdict, detectCourse, answer, Course.guarded_ok, Course.verdict_starting,
        Course.verdict_completing, Course.decided_eq, verdictOn, if_pos errored]
      exact ⟨rfl, rfl⟩

/-- An append that fails when the deploy comes to it ends the deploy in its error. -/
theorem escapes_of_failed
    {await : Await} (awaited : Awaits setting await) {failure : ActivityFailure}
    (failed : setting.appendEnding await = .error (.activityError failure)) :
    (run setting deviceId).ending Journal.blank = .error (.activityError failure) := by
  have broken := appends_break deviceId awaited failed
  have ends := run_ends setting deviceId
  rw [broken] at ends
  generalize (run setting deviceId).ending Journal.blank = ending at ends ⊢
  cases ends with
  | returned appended returned => cases appended
  | raised again =>
      cases again
      rfl

/-- An append that breaks without a cancellation fails. -/
theorem fails_of_uncancelled
    (uncancelled : setting.cancelAt = none) {await : Await} {raised : Raised}
    (broken : setting.appendEnding await = .error raised) :
    Fails (setting.appendEnding await) := by
  rw [broken]
  rw [Surroundings.appendEnding, uncancelled, if_neg (Option.some_ne_none await).symm] at broken
  rcases outcome : setting.appended await with _ | ⟨landed, failure⟩
  · rw [outcome] at broken
    cases broken
  · rw [outcome] at broken
    cases broken
    exact ⟨failure, rfl⟩

/--
Every failure of a deploy's activities is returned as a result with its reason
exactly when no audit append that the deploy comes to fails.
-/
theorem failures_returned_iff (setting : Setting) (deviceId : UUID) :
    FailuresReturned setting deviceId ↔
      ∀ await, Awaits setting await → ¬ Fails (setting.appendEnding await) := by
  constructor
  · rintro returned await awaited ⟨failure, failed⟩
    exact returned.contained failure (escapes_of_failed deviceId awaited failed)
  · intro unfailing
    have ends := run_ends setting deviceId
    constructor
    · intro failure escaped
      rw [escaped] at ends
      cases ends with
      | raised broken =>
          obtain ⟨await, awaited, failed⟩ := awaited_of_broken deviceId broken
          exact unfailing await awaited ⟨failure, failed⟩
    · intro uncancelled reason fails
      have answered : ∀ await, Awaits setting await → Appended setting await := by
        intro await awaited
        rcases ending : setting.appendEnding await with raised | _
        · exact absurd (fails_of_uncancelled uncancelled ending) (unfailing await awaited)
        · exact ending
      rw [appended_of_awaited deviceId answered] at ends
      obtain ⟨unsuccessful, told⟩ := verdict_tells deviceId answered fails
      generalize (run setting deviceId).ending Journal.blank = ending at ends ⊢
      cases ends with
      | raised broken => cases broken
      | @returned result endedAt appended returned =>
          have success : result.success = false := by
            rw [returned]
            exact unsuccessful
          have same : result.reason = reason := by
            rw [returned]
            exact told
          refine ⟨result, rfl, success, ?_⟩
          rw [same]
          exact fails

/-- The audit log breaks while a deploy records that its apply succeeded. -/
def brokenAuditLog : Setting where
  toSurroundings :=
    { Surroundings.calm "deploy-intent" none with
      appended := fun await =>
        if await = .completed .apply then
          .failed false ⟨some (.application (some "AuditLogError") "disk full"),
            "Activity task failed"⟩
        else .done }
  fetched := .returned ⟨⟨⟨1⟩, "leaf-01", "172.20.20.11", "dcfabric", none⟩, [], []⟩
  applied := .returned ⟨⟨1⟩, "leaf-01", true, none⟩
  collected := .failed ⟨none, "not reached"⟩
  detected := .failed ⟨none, "not reached"⟩

/-- The device is written, and the failure of the append escapes the deploy. -/
theorem failed_append_escapes :
    (∃ desired, Applied brokenAuditLog desired) ∧
      (run brokenAuditLog ⟨1⟩).ending Journal.blank =
        .error (.activityError ⟨some (.application (some "AuditLogError") "disk full"),
          "Activity task failed"⟩) ∧
      ¬ FailuresReturned brokenAuditLog ⟨1⟩ := by
  have escaped : (run brokenAuditLog ⟨1⟩).ending Journal.blank =
      .error (.activityError ⟨some (.application (some "AuditLogError") "disk full"),
        "Activity task failed"⟩) := rfl
  exact ⟨⟨_, rfl, _, rfl, rfl⟩, escaped, fun returned => returned.contained _ escaped⟩

end Returning

end Snapl.Orchestrator.DeployIntent
