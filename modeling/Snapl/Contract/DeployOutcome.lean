import Snapl.Orchestrator.DeployCourse

/-!
# Outcome classification of a deploy

The result of a deploy says what its activities did: success exactly when the
applied intent was verified, and otherwise the reason of the first activity
that failed.  No later activity is started.
-/

namespace Snapl.Orchestrator.DeployIntent

open Snapl.Library Snapl.Intent Snapl.Observability

/-! ## How far a deploy gets -/

section Progress

variable (setting : Setting)

def Fetched (desired : DesiredState) : Prop :=
  setting.answers .fetch setting.fetched = .ok desired

def Applied (desired : DesiredState) : Prop :=
  Fetched setting desired ∧
    ∃ applyResult, setting.answers .apply setting.applied = .ok applyResult ∧
      applyResult.success = true

def Collected (desired : DesiredState) (collected : CollectResult) : Prop :=
  Applied setting desired ∧
    setting.answers .collect setting.collected = .ok collected

def Detected
    (desired : DesiredState) (collected : CollectResult) (report : DriftReport) :
    Prop :=
  Collected setting desired collected ∧
    setting.answers .detect setting.detected = .ok report

/-- The answer is a failure of the activity, not a cancellation. -/
def Fails {Result : Type} (answer : Except Raised Result) : Prop :=
  ∃ failure, answer = .error (.activityError failure)

/-- A cancellation reaches the deploy while this activity is pending. -/
inductive Cancelled : Stage → Prop where
  | fetch (cancelled : setting.answers .fetch setting.fetched = .error .cancelled) :
      Cancelled .fetch
  | apply {desired : DesiredState} (fetched : Fetched setting desired)
      (cancelled : setting.answers .apply setting.applied = .error .cancelled) :
      Cancelled .apply
  | collect {desired : DesiredState} (applied : Applied setting desired)
      (cancelled : setting.answers .collect setting.collected = .error .cancelled) :
      Cancelled .collect
  | detect {desired : DesiredState} {collected : CollectResult}
      (collects : Collected setting desired collected)
      (cancelled : setting.answers .detect setting.detected = .error .cancelled) :
      Cancelled .detect

end Progress

/-- The report judges the applied change as in place. -/
def Verified (report : DriftReport) : Prop :=
  report.status = .clean ∨
    (report.status = .drifted ∧ ∀ item ∈ report.items, item.undesired = true)

/-- The result and the started activities are those the outcomes call for. -/
structure Classified
    (setting : Setting) (deviceId : UUID) (success : Bool) (reason : WorkflowReason)
    (driftItems : List DriftItem) (commands : List Command) : Prop where
  verified : success = true ↔
    ∃ desired collected report, Detected setting desired collected report ∧
      Verified report
  succeeded : reason = .succeeded ↔ success = true
  deviceNotFound : reason = .deviceNotFound ↔
    ∃ failure, setting.answers .fetch setting.fetched =
        .error (.activityError failure) ∧
      isIntentNotFound failure = true
  intentUnavailable : reason = .intentUnavailable ↔
    ∃ failure, setting.answers .fetch setting.fetched =
        .error (.activityError failure) ∧
      isIntentNotFound failure = false
  applyFailed : reason = .applyFailed ↔
    ∃ desired, Fetched setting desired ∧
      (Fails (setting.answers .apply setting.applied) ∨
        ∃ applyResult, setting.answers .apply setting.applied = .ok applyResult ∧
          applyResult.success = false)
  collectFailed : reason = .collectFailed ↔
    ∃ desired, Applied setting desired ∧
      (Fails (setting.answers .collect setting.collected) ∨
        ∃ collected, setting.answers .collect setting.collected = .ok collected ∧
          (Fails (setting.answers .detect setting.detected) ∨
            ∃ report, setting.answers .detect setting.detected = .ok report ∧
              report.status = .error))
  verificationFailed : reason = .verificationFailed ↔
    ∃ desired collected report, Detected setting desired collected report ∧
      report.status = .drifted ∧ driftItems = report.items ∧
        ∃ item ∈ report.items, item.undesired = false
  noItems : reason ≠ .verificationFailed → driftItems = []
  cancelled : reason = .cancelled ↔ ∃ stage, Cancelled setting stage
  fetches : commands.head? = some (.fetchDesiredState deviceId)
  applies : ∀ desired, .applyConfig desired ∈ commands ↔ Fetched setting desired
  collects : ∀ device, .collectDriftState device ∈ commands ↔
    ∃ desired, Applied setting desired ∧ device = desired.device
  detects : ∀ desired collected, .detectDrift desired collected ∈ commands ↔
    Collected setting desired collected
  once : commands.Nodup

theorem answers_cases
    (setting : Setting) {Result : Type} (stage : Stage) (outcome : ActivityOutcome Result) :
    (∃ result, setting.answers stage outcome = .ok result) ∨
      setting.answers stage outcome = .error .cancelled ∨
      ∃ failure, setting.answers stage outcome = .error (.activityError failure) := by
  rw [Setting.answers, Surroundings.answer.eq_def]
  split_ifs with cancelled
  · exact Or.inr (Or.inl rfl)
  · cases outcome with
    | returned result => exact Or.inl ⟨result, rfl⟩
    | failed failure => exact Or.inr (Or.inr ⟨failure, rfl⟩)

theorem cancelled_iff (setting : Setting) :
    (∃ stage, Cancelled setting stage) ↔
      setting.answers .fetch setting.fetched = .error .cancelled ∨
      (∃ desired, Fetched setting desired ∧
        setting.answers .apply setting.applied = .error .cancelled) ∨
      (∃ desired, Applied setting desired ∧
        setting.answers .collect setting.collected = .error .cancelled) ∨
      ∃ desired collected, Collected setting desired collected ∧
        setting.answers .detect setting.detected = .error .cancelled := by
  constructor
  · rintro ⟨stage, cancelled⟩
    cases cancelled with
    | fetch cancelled => exact Or.inl cancelled
    | apply fetched cancelled => exact Or.inr (Or.inl ⟨_, fetched, cancelled⟩)
    | collect applied cancelled => exact Or.inr (Or.inr (Or.inl ⟨_, applied, cancelled⟩))
    | detect collects cancelled =>
        exact Or.inr (Or.inr (Or.inr ⟨_, _, collects, cancelled⟩))
  · rintro (cancelled | ⟨desired, fetched, cancelled⟩ | ⟨desired, applied, cancelled⟩ |
      ⟨desired, collected, collects, cancelled⟩)
    · exact ⟨.fetch, .fetch cancelled⟩
    · exact ⟨.apply, .apply fetched cancelled⟩
    · exact ⟨.collect, .collect applied cancelled⟩
    · exact ⟨.detect, .detect collects cancelled⟩

/-! ## The verdict on a report -/

theorem verdictOn_of_verified (report : DriftReport) (verified : Verified report) :
    verdictOn report = .success (undesiredPaths report) := by
  rcases verified with clean | ⟨drifted, all⟩
  · rw [verdictOn, if_neg (by simp [clean]),
      if_pos (by simp [DriftReport.items_eq_nil_of_clean clean])]
  · rw [verdictOn, if_neg (by simp [drifted]), if_pos all]

theorem verdictOn_of_forward
    {report : DriftReport} (drifted : report.status = .drifted)
    (forward : ¬ ∀ item ∈ report.items, item.undesired = true) :
    verdictOn report = .verificationFailed report.items := by
  rw [verdictOn, if_neg (by simp [drifted]), if_neg forward]

theorem verdictOn_of_error {report : DriftReport} (errored : report.status = .error) :
    verdictOn report = .failure .collectFailed
      (orDefault (report.error.getD "") "drift detection returned ERROR status")
      (by decide) := by
  rw [verdictOn, if_pos errored]

/-! ## The classification, exit by exit -/

section Exits

variable {setting : Setting} (deviceId : UUID)

/-- The course, its result and its commands are classified. -/
abbrev CourseClassified (setting : Setting) (deviceId : UUID) (course : Course) : Prop :=
  Classified setting deviceId course.verdict.succeeds course.verdict.reason
    course.verdict.driftItems course.commands

theorem classified_of_unfetched
    (unfetched : ∀ desired, ¬ Fetched setting desired) :
    CourseClassified setting deviceId (course setting deviceId) := by
  have unapplied : ∀ desired, ¬ Applied setting desired :=
    fun desired applied => unfetched desired applied.1
  have uncollected : ∀ desired collected, ¬ Collected setting desired collected :=
    fun desired _ collects => unapplied desired collects.1
  have undetected : ∀ desired collected report,
      ¬ Detected setting desired collected report :=
    fun desired collected _ detects => uncollected desired collected detects.1
  rcases answers_cases setting .fetch setting.fetched with
    ⟨desired, fetch⟩ | fetch | ⟨failure, fetch⟩
  · exact absurd fetch (unfetched desired)
  · constructor <;>
      simp [cancelled_iff, course, unfetched, unapplied, uncollected, undetected, fetch,
        Verdict.succeeds, Verdict.reason, Verdict.driftItems]
  · rcases notFound : isIntentNotFound failure with _ | _
    · constructor <;>
        simp [cancelled_iff, course, unfetched, unapplied, uncollected, undetected, fetch,
          fetchVerdict, notFound, Verdict.succeeds, Verdict.reason, Verdict.driftItems]
    · constructor <;>
        simp [cancelled_iff, course, unfetched, unapplied, uncollected, undetected, fetch,
          fetchVerdict, notFound, Verdict.succeeds, Verdict.reason, Verdict.driftItems]

theorem classified_of_unapplied
    {desired : DesiredState}
    (fetch : setting.answers .fetch setting.fetched = .ok desired)
    (unapplied : ∀ desired, ¬ Applied setting desired) :
    CourseClassified setting deviceId (course setting deviceId) := by
  have fetched : ∀ other, Fetched setting other ↔ other = desired := by
    intro other
    rw [Fetched, fetch, Except.ok.injEq, eq_comm]
  have uncollected : ∀ desired collected, ¬ Collected setting desired collected :=
    fun desired _ collects => unapplied desired collects.1
  have undetected : ∀ desired collected report,
      ¬ Detected setting desired collected report :=
    fun desired collected _ detects => uncollected desired collected detects.1
  rcases answers_cases setting .apply setting.applied with
    ⟨applyResult, apply⟩ | apply | ⟨failure, apply⟩
  · have unsuccessful : applyResult.success = false := by
      rcases success : applyResult.success with _ | _
      · rfl
      · exact absurd ⟨fetch, applyResult, apply, success⟩ (unapplied desired)
    constructor <;>
      simp [cancelled_iff, course, applyCourse, fetched, unapplied, uncollected, undetected,
        fetch, apply, unsuccessful, Verdict.succeeds, Verdict.reason, Verdict.driftItems,
        Fails]
  · constructor <;>
      simp [cancelled_iff, course, applyCourse, fetched, unapplied, uncollected, undetected,
        fetch, apply, Verdict.succeeds, Verdict.reason, Verdict.driftItems, Fails]
  · constructor <;>
      simp [cancelled_iff, course, applyCourse, fetched, unapplied, uncollected, undetected,
        fetch, apply, Verdict.succeeds, Verdict.reason, Verdict.driftItems, Fails]

theorem classified_of_uncollected
    {desired : DesiredState} {applyResult : ApplyResult}
    (fetch : setting.answers .fetch setting.fetched = .ok desired)
    (apply : setting.answers .apply setting.applied = .ok applyResult)
    (success : applyResult.success = true)
    (uncollected : ∀ desired collected, ¬ Collected setting desired collected) :
    CourseClassified setting deviceId (course setting deviceId) := by
  have fetched : ∀ other, Fetched setting other ↔ other = desired := by
    intro other
    rw [Fetched, fetch, Except.ok.injEq, eq_comm]
  have applied : ∀ other, Applied setting other ↔ other = desired := by
    intro other
    simp [Applied, fetched, apply, success]
  have undetected : ∀ desired collected report,
      ¬ Detected setting desired collected report :=
    fun desired collected _ detects => uncollected desired collected detects.1
  rcases answers_cases setting .collect setting.collected with
    ⟨collected, collect⟩ | collect | ⟨failure, collect⟩
  · exact absurd ⟨(applied desired).2 rfl, collect⟩ (uncollected desired collected)
  · constructor <;>
      simp [cancelled_iff, course, applyCourse, collectCourse, fetched, applied, uncollected,
        undetected, fetch, apply, success, collect, Verdict.succeeds, Verdict.reason,
        Verdict.driftItems, Fails]
  · constructor <;>
      simp [cancelled_iff, course, applyCourse, collectCourse, fetched, applied, uncollected,
        undetected, fetch, apply, success, collect, Verdict.succeeds, Verdict.reason,
        Verdict.driftItems, Fails]

theorem classified_of_collected
    {desired : DesiredState} {applyResult : ApplyResult} {collected : CollectResult}
    (fetch : setting.answers .fetch setting.fetched = .ok desired)
    (apply : setting.answers .apply setting.applied = .ok applyResult)
    (success : applyResult.success = true)
    (collect : setting.answers .collect setting.collected = .ok collected) :
    CourseClassified setting deviceId (course setting deviceId) := by
  have fetched : ∀ other, Fetched setting other ↔ other = desired := by
    intro other
    rw [Fetched, fetch, Except.ok.injEq, eq_comm]
  have applied : ∀ other, Applied setting other ↔ other = desired := by
    intro other
    simp [Applied, fetched, apply, success]
  have collects : ∀ other given, Collected setting other given ↔
      other = desired ∧ given = collected := by
    intro other given
    rw [Collected, applied, collect, Except.ok.injEq, eq_comm (a := collected)]
  rcases answers_cases setting .detect setting.detected with
    ⟨report, detect⟩ | detect | ⟨failure, detect⟩
  · have detects : ∀ other given found, Detected setting other given found ↔
        (other = desired ∧ given = collected) ∧ found = report := by
      intro other given found
      rw [Detected, collects, detect, Except.ok.injEq, eq_comm (a := report)]
    rcases status : report.status with _ | _ | _
    · have verdict := verdictOn_of_verified report (Or.inl status)
      constructor <;>
        simp [cancelled_iff, course, applyCourse, collectCourse, detectCourse, fetched, applied,
          collects, detects, fetch, apply, success, collect, detect, verdict, status,
          Verified, Verdict.succeeds, Verdict.reason, Verdict.driftItems, Fails]
    · by_cases all : ∀ item ∈ report.items, item.undesired = true
      · have verdict := verdictOn_of_verified report (Or.inr ⟨status, all⟩)
        constructor <;>
          simp +contextual [cancelled_iff, course, applyCourse, collectCourse, detectCourse,
            fetched, applied, collects, detects, fetch, apply, success, collect, detect,
            verdict, all, status, Verified, Verdict.succeeds, Verdict.reason,
            Verdict.driftItems, Fails]
      · have verdict := verdictOn_of_forward status all
        have forward : ∃ item ∈ report.items, item.undesired = false := by simpa using all
        constructor <;>
          simp [forward, cancelled_iff, course, applyCourse, collectCourse, detectCourse, fetched,
            applied, collects, detects, fetch, apply, success, collect, detect, verdict, all,
            status, Verified, Verdict.succeeds, Verdict.reason, Verdict.driftItems, Fails]
    · have verdict := verdictOn_of_error status
      constructor <;>
        simp [cancelled_iff, course, applyCourse, collectCourse, detectCourse, fetched, applied,
          collects, detects, fetch, apply, success, collect, detect, verdict, status,
          Verified, Verdict.succeeds, Verdict.reason, Verdict.driftItems, Fails]
  · constructor <;>
      simp [cancelled_iff, course, applyCourse, collectCourse, detectCourse, fetched, applied,
        collects, Detected, fetch, apply, success, collect, detect, Verdict.succeeds,
        Verdict.reason, Verdict.driftItems, Fails]
  · constructor <;>
      simp [cancelled_iff, course, applyCourse, collectCourse, detectCourse, fetched, applied,
        collects, Detected, fetch, apply, success, collect, detect, Verdict.succeeds,
        Verdict.reason, Verdict.driftItems, Fails]

end Exits

/-- The course of a deploy is the one its outcomes call for. -/
theorem course_classified (setting : Setting) (deviceId : UUID) :
    CourseClassified setting deviceId (course setting deviceId) := by
  rcases answers_cases setting .fetch setting.fetched with
    ⟨desired, fetch⟩ | unfetched
  · rcases answers_cases setting .apply setting.applied with
      ⟨applyResult, apply⟩ | unapplied
    · rcases success : applyResult.success with _ | _
      · refine classified_of_unapplied deviceId fetch ?_
        rintro other ⟨-, given, answer, successful⟩
        rw [apply, Except.ok.injEq] at answer
        rw [← answer, success] at successful
        cases successful
      · rcases answers_cases setting .collect setting.collected with
          ⟨collected, collect⟩ | uncollected
        · exact classified_of_collected deviceId fetch apply success collect
        · refine classified_of_uncollected deviceId fetch apply success ?_
          rintro other given ⟨-, answer⟩
          rcases uncollected with raised | ⟨failure, raised⟩
          · rw [raised] at answer
            cases answer
          · rw [raised] at answer
            cases answer
    · refine classified_of_unapplied deviceId fetch ?_
      rintro other ⟨-, given, answer, -⟩
      rcases unapplied with raised | ⟨failure, raised⟩
      · rw [raised] at answer
        cases answer
      · rw [raised] at answer
        cases answer
  · refine classified_of_unfetched deviceId ?_
    intro other answer
    rcases unfetched with raised | ⟨failure, raised⟩
    · rw [Fetched, raised] at answer
      cases answer
    · rw [Fetched, raised] at answer
      cases answer

/-! ## The run -/

/-- The terminal event tells what the result says. -/
structure Tells (last : EventBody) (result : WorkflowResult) : Prop where
  cancelled : result.reason = .cancelled →
    last.eventType = .workflowCancelled ∧ last.outcome = some "cancelled" ∧ last.reason = none
  terminated : result.reason ≠ .cancelled →
    last.eventType = .workflowTerminated ∧ last.reason = some result.reason ∧
      last.outcome = some (if result.success then "success" else "failure")

theorem event_tells
    {verdict : Verdict} {deviceId : UUID} {workflowId : String} {startedAt endedAt : Int}
    {result : WorkflowResult}
    (returned : result.toWorkflowResultFields =
      verdict.fields workflowId deviceId startedAt endedAt) :
    Tells (verdict.event deviceId) result := by
  have success : result.success = verdict.succeeds := by rw [returned]; rfl
  have reason : result.reason = verdict.reason := by rw [returned]; rfl
  constructor
  · rw [reason]
    cases verdict with
    | success => simp [Verdict.reason]
    | failure reason detail fails =>
        rintro rfl
        cases fails
    | verificationFailed => simp [Verdict.reason]
    | cancelled => exact fun _ => ⟨rfl, rfl, rfl⟩
  · rw [reason, success]
    cases verdict with
    | cancelled => simp [Verdict.reason]
    | success => exact fun _ => ⟨rfl, rfl, rfl⟩
    | failure => exact fun _ => ⟨rfl, rfl, rfl⟩
    | verificationFailed => exact fun _ => ⟨rfl, rfl, rfl⟩

/-- How a deploy ended, by its result or by what it raised. -/
def howEnded : Except Raised WorkflowResult → Ending
  | .ok result =>
      if result.success then .success
      else if result.reason = .cancelled then .cancelled
      else .failure
  | .error .cancelled => .cancelled
  | .error _ => .failure

theorem announced_of_tells
    {last : EventBody} {result : WorkflowResult} (tells : Tells last result) :
    announced last = some (howEnded (.ok result)) := by
  by_cases cancelled : result.reason = .cancelled
  · have unsuccessful : result.success = false := by
      rw [Bool.eq_false_iff]
      intro success
      rw [result.valid.success.1 success] at cancelled
      cases cancelled
    rw [announced, (tells.cancelled cancelled).1]
    simp [howEnded, unsuccessful, cancelled]
  · obtain ⟨terminated, -, outcome⟩ := tells.terminated cancelled
    rw [announced, terminated]
    rcases success : result.success with _ | _
    · simp [howEnded, outcome, success, cancelled]
    · simp [howEnded, outcome, success]

theorem closed_of_course
    {course : Course} {deviceId : UUID} {ending : Ending}
    (final : announced (course.verdict.event deviceId) = some ending) :
    Closed ending (startedEvent deviceId :: course.events deviceId) := by
  refine ⟨startedEvent deviceId, course.completed.map (completedEvent deviceId),
    course.verdict.event deviceId, rfl, rfl, ?_, final⟩
  intro body member
  obtain ⟨stage, -, rfl⟩ := List.mem_map.1 member
  rfl

/-- A deploy that is cancelled at an activity at most follows its course to the end. -/
theorem returned_of_uncut
    (setting : Setting) (deviceId : UUID)
    (succeed : setting.AppendsSucceed)
    (onActivity : ∀ await, setting.cancelAt = some await →
      ∃ stage, await = .activity stage) :
    ∃ (result : WorkflowResult) (startedAt endedAt : Int),
      (run setting deviceId).ending Journal.blank = .ok result ∧
      result.toWorkflowResultFields = (course setting deviceId).verdict.fields
        setting.workflowId deviceId startedAt endedAt ∧
      ((run setting deviceId).final Journal.blank).trail =
        startedEvent deviceId :: (course setting deviceId).events deviceId ∧
      ((run setting deviceId).final Journal.blank).commands =
        (course setting deviceId).commands := by
  have followed := run_follows deviceId succeed
  rw [Program.Meets, if_neg (fun cancelled => by
    obtain ⟨stage, equal⟩ := onActivity _ cancelled
    cases equal)] at followed
  obtain ⟨recorded, begun, followed⟩ := followed
  generalize (run setting deviceId).ending Journal.blank = ending at followed ⊢
  generalize (run setting deviceId).final Journal.blank = final at followed ⊢
  cases followed with
  | undisturbed uncut grew returned =>
      exact ⟨_, _, _, rfl, returned, (begun.trans grew).trail, (begun.trans grew).commands⟩
  | cutOff cut grew recorded started =>
      obtain ⟨await, member, cancelled⟩ := cut
      obtain ⟨stage, rfl⟩ := onActivity await cancelled
      simp [Course.audits] at member

/--
Every deploy whose audit appends succeed undisturbed returns one result, which
its outcomes classify; no activity after the first failing one is started; the
trail is closed by a terminal event that tells the result.
-/
theorem deploy_classified
    (setting : Setting) (deviceId : UUID)
    (succeed : setting.AppendsSucceed)
    (onActivity : ∀ await, setting.cancelAt = some await →
      ∃ stage, await = .activity stage) :
    ∃ result : WorkflowResult,
      (run setting deviceId).ending Journal.blank = .ok result ∧
      Classified setting deviceId result.success result.reason result.driftItems
        ((run setting deviceId).final Journal.blank).commands ∧
      ∃ earlier last,
        ((run setting deviceId).final Journal.blank).trail = earlier ++ [last] ∧
        Closed (howEnded (.ok result)) (earlier ++ [last]) ∧
        Tells last result := by
  obtain ⟨result, startedAt, endedAt, ended, returned, trail, commands⟩ :=
    returned_of_uncut setting deviceId succeed onActivity
  have tells := event_tells returned
  refine ⟨result, ended, ?_, startedEvent deviceId ::
    (course setting deviceId).completed.map (completedEvent deviceId),
    (course setting deviceId).verdict.event deviceId, trail, ?_, tells⟩
  · rw [returned, commands]
    exact course_classified setting deviceId
  · exact closed_of_course (announced_of_tells tells)

/-- A deploy of an unknown device, with a cancellation at one await at most. -/
def unknownDevice (cancelAt : Option Await) : Setting where
  toSurroundings := Surroundings.calm "deploy-intent" cancelAt
  fetched := .failed (intentNotFound ⟨7⟩)
  applied := .failed ⟨none, "not reached"⟩
  collected := .failed ⟨none, "not reached"⟩
  detected := .failed ⟨none, "not reached"⟩

theorem unknownDevice_classified :
    ∃ result : WorkflowResult,
      (run (unknownDevice none) ⟨7⟩).ending Journal.blank = .ok result ∧
      result.reason = .deviceNotFound := by
  obtain ⟨result, returned, classified, -⟩ :=
    deploy_classified (unknownDevice none) ⟨7⟩ (fun _ => rfl) (fun _ cancelled => by
      cases cancelled)
  exact ⟨result, returned,
    classified.deviceNotFound.2 ⟨intentNotFound ⟨7⟩, rfl, rfl⟩⟩

/-- The terminal event of a cancelled deploy carries no reason. -/
theorem cancelled_event_without_reason :
    ∃ (result : WorkflowResult) (last : EventBody),
      (run (unknownDevice (some (.activity .fetch))) ⟨7⟩).ending Journal.blank =
        .ok result ∧
      ((run (unknownDevice (some (.activity .fetch))) ⟨7⟩).final
        Journal.blank).trail.getLast? = some last ∧
      last.reason ≠ some result.reason :=
  ⟨_, _, rfl, rfl, by decide⟩

end Snapl.Orchestrator.DeployIntent
