import Snapl.Contract.AuditTrail

/-!
# What a deploy records of its activities

A deploy records that an activity completed as soon as the activity returns,
whatever the result says, and records nothing of an activity that raises or of
an apply that reports a failure.  The scan of a device records its drift
detection by the status of the report.  The trail of a deploy therefore tells
the truth about its activities exactly when every one of them succeeds.
-/

namespace Snapl.Orchestrator.DeployIntent

open Snapl.Library Snapl.Intent Snapl.Observability

section Truth

variable (setting : Setting)

/-- The activity of this stage is run, and ends other than by a cancellation. -/
def RunToAnswer : Stage → Prop
  | .fetch => setting.answers .fetch setting.fetched ≠ .error .cancelled
  | .apply => (∃ desired, Fetched setting desired) ∧
      setting.answers .apply setting.applied ≠ .error .cancelled
  | .collect => (∃ desired, Applied setting desired) ∧
      setting.answers .collect setting.collected ≠ .error .cancelled
  | .detect => (∃ desired collected, Collected setting desired collected) ∧
      setting.answers .detect setting.detected ≠ .error .cancelled

/-- The activity returns, and what it returns reports success. -/
def Succeeds : Stage → Prop
  | .fetch => ∃ desired, setting.answers .fetch setting.fetched = .ok desired
  | .apply => ∃ applyResult,
      setting.answers .apply setting.applied = .ok applyResult ∧ applyResult.success = true
  | .collect => ∃ collected,
      setting.answers .collect setting.collected = .ok collected ∧ collected.success = true
  | .detect => ∃ report,
      setting.answers .detect setting.detected = .ok report ∧ report.status ≠ .error

/-- The event names the activity, and tells whether it succeeded. -/
structure RecordsOf (stage : Stage) (body : EventBody) : Prop where
  activity : body.activityName = some stage.activityName
  succeeded : Succeeds setting stage →
    body.eventType = .activityCompleted ∧ body.outcome = some "success"
  failed : ¬ Succeeds setting stage → body.eventType = .activityFailed

/--
Between the start and the terminal event, the trail holds one true event for
each activity that was run to an answer, in the order they were run.
-/
def TellsTruth (trail : List EventBody) : Prop :=
  ∃ first stages middle last, trail = first :: (middle ++ [last]) ∧
    first.eventType = .workflowStarted ∧ announced last ≠ none ∧
    List.Sublist stages [.fetch, .apply, .collect, .detect] ∧
    (∀ stage, stage ∈ stages ↔ RunToAnswer setting stage) ∧
    List.Forall₂ (RecordsOf setting) stages middle

end Truth

section Recorded

variable {setting : Setting} {deviceId : UUID}

theorem completed_guarded_sublist
    {Result : Type} {stages : List Stage} {command : Command} {answer : Except Raised Result}
    {failed : ActivityFailure → Verdict} {next : Result → Course}
    (sublist : ∀ result, List.Sublist (next result).completed stages) :
    List.Sublist (Course.guarded command answer failed next).completed stages := by
  rcases answer with raised | result
  · cases raised <;> exact List.nil_sublist _
  · exact sublist result

/-- The stages are recorded in the order of the deploy. -/
theorem completed_course_sublist :
    List.Sublist (course setting deviceId).completed [.fetch, .apply, .collect, .detect] := by
  apply completed_guarded_sublist
  intro desired
  apply List.Sublist.cons_cons
  apply completed_guarded_sublist
  intro applyResult
  split_ifs
  · exact List.nil_sublist _
  · apply List.Sublist.cons_cons
    apply completed_guarded_sublist
    intro collected
    apply List.Sublist.cons_cons
    apply completed_guarded_sublist
    intro report
    exact List.Sublist.refl _

/-- When every activity succeeds, the recorded ones are those run to an answer. -/
theorem auditReached_iff
    (truthful : ∀ stage, RunToAnswer setting stage → Succeeds setting stage) (stage : Stage) :
    AuditReached setting (.completed stage) ↔ RunToAnswer setting stage := by
  have answered : ∀ {Result : Type} {answer : Except Raised Result} {result : Result},
      answer = .ok result → answer ≠ .error .cancelled := by
    rintro Result answer result rfl
    exact nofun
  constructor
  · intro reached
    cases reached with
    | fetched fetched => exact answered fetched
    | applied applied =>
        obtain ⟨fetched, applyResult, applies, -⟩ := applied
        exact ⟨⟨_, fetched⟩, answered applies⟩
    | collected collects => exact ⟨⟨_, collects.1⟩, answered collects.2⟩
    | detected detects => exact ⟨⟨_, _, detects.1⟩, answered detects.2⟩
  · intro ran
    have succeeds := truthful stage ran
    cases stage with
    | fetch =>
        obtain ⟨desired, fetched⟩ := succeeds
        exact .fetched fetched
    | apply =>
        obtain ⟨⟨desired, fetched⟩, -⟩ := ran
        obtain ⟨applyResult, applies, success⟩ := succeeds
        exact .applied ⟨fetched, applyResult, applies, success⟩
    | collect =>
        obtain ⟨⟨desired, applied⟩, -⟩ := ran
        obtain ⟨collected, collects, -⟩ := succeeds
        exact .collected ⟨applied, collects⟩
    | detect =>
        obtain ⟨⟨desired, collected, collects⟩, -⟩ := ran
        obtain ⟨report, detects, -⟩ := succeeds
        exact .detected ⟨collects, detects⟩

/-- Every event the course of a deploy records says that an activity completed. -/
theorem succeeds_of_tellsTruth
    (truthful : TellsTruth setting
      (startedEvent deviceId :: (course setting deviceId).events deviceId))
    (stage : Stage) (ran : RunToAnswer setting stage) : Succeeds setting stage := by
  obtain ⟨first, stages, middle, last, trail, -, -, -, members, records⟩ := truthful
  have recorded : (course setting deviceId).completed.map (completedEvent deviceId) = middle :=
    (List.append_inj' (List.cons.inj trail).2 rfl).1
  obtain ⟨body, present, tells⟩ := exists_mem_of_forall₂ records ((members stage).2 ran)
  rw [← recorded] at present
  obtain ⟨other, -, rfl⟩ := List.mem_map.1 present
  by_contra unsuccessful
  exact absurd (tells.failed unsuccessful) (by simp [completedEvent])

theorem tellsTruth_of_succeeds
    (truthful : ∀ stage, RunToAnswer setting stage → Succeeds setting stage) :
    TellsTruth setting (startedEvent deviceId :: (course setting deviceId).events deviceId) := by
  have members : ∀ stage, stage ∈ (course setting deviceId).completed ↔
      RunToAnswer setting stage := by
    intro stage
    rw [completed_mem_course_iff, auditReached_iff truthful]
  refine ⟨startedEvent deviceId, (course setting deviceId).completed,
    (course setting deviceId).completed.map (completedEvent deviceId),
    (course setting deviceId).verdict.event deviceId, rfl, rfl, ?_,
    completed_course_sublist, members, ?_⟩
  · rcases (course setting deviceId).verdict with _ | _ | _ | _ <;> simp [announced, Verdict.event]
  · rw [List.forall₂_map_right_iff, List.forall₂_same]
    intro stage member
    have succeeds := truthful stage ((members stage).1 member)
    exact ⟨rfl, fun _ => ⟨rfl, rfl⟩, fun unsuccessful => absurd succeeds unsuccessful⟩

end Recorded

/--
The trail of a deploy whose appends succeed tells the truth about its
activities exactly when every activity that is run to an answer succeeds.
-/
theorem activities_told_iff
    (setting : Setting) (deviceId : UUID) (succeed : setting.AppendsSucceed)
    (onActivity : ∀ await, setting.cancelAt = some await →
      ∃ stage, await = .activity stage) :
    TellsTruth setting ((run setting deviceId).final Journal.blank).trail ↔
      ∀ stage, RunToAnswer setting stage → Succeeds setting stage := by
  obtain ⟨-, -, -, -, -, trail, -⟩ := returned_of_uncut setting deviceId succeed onActivity
  rw [trail]
  exact ⟨succeeds_of_tellsTruth, tellsTruth_of_succeeds⟩

/-- A device that is applied, and of which this is collected. -/
def collectedLeaf (success : Bool) (error : Option String)
    (succeeded : success = true → error = none)
    (failed : success = false → filled? error ≠ none) : Setting where
  toSurroundings := Surroundings.calm "deploy-intent" none
  fetched := .returned ⟨⟨⟨1⟩, "leaf-01", "172.20.20.11", "dcfabric", none⟩, [], []⟩
  applied := .returned ⟨⟨1⟩, "leaf-01", true, none⟩
  collected := .returned ⟨⟨1⟩, "leaf-01", success, Dict.empty, error, succeeded, failed⟩
  detected := .returned ⟨⟨1⟩, "leaf-01", .clean, [], none, 0, ⟨rfl, rfl⟩⟩

theorem collected_leaf_told :
    TellsTruth (collectedLeaf true none (fun _ => rfl) nofun)
      ((run (collectedLeaf true none (fun _ => rfl) nofun) ⟨1⟩).final Journal.blank).trail := by
  refine (activities_told_iff _ ⟨1⟩ (fun _ => rfl) (fun _ cancelled => by cases cancelled)).2 ?_
  intro stage _
  cases stage with
  | fetch => exact ⟨_, rfl⟩
  | apply => exact ⟨_, rfl, rfl⟩
  | collect => exact ⟨_, rfl, rfl⟩
  | detect => exact ⟨_, rfl, nofun⟩

/-- A collection that reports a failure, of an unreachable device. -/
def unreachedLeaf : Setting :=
  { collectedLeaf false (some "leaf-01: connection refused") nofun
      (fun _ => by decide) with
    detected := .returned (DriftReport.failed ⟨1⟩ "leaf-01" "leaf-01: connection refused" 0) }

/-- The trail says that collection and drift detection succeeded, which failed. -/
theorem unreached_leaf_untold :
    ((run unreachedLeaf ⟨1⟩).final Journal.blank).trail.filterMap
        (fun body => body.activityName.map fun name => (name, body.outcome)) =
      [("fetch_desired_state", some "success"), ("apply_config", some "success"),
        ("collect_drift_state", some "success"), ("detect_drift", some "success")] ∧
      ¬ TellsTruth unreachedLeaf ((run unreachedLeaf ⟨1⟩).final Journal.blank).trail := by
  refine ⟨by decide +kernel, ?_⟩
  intro truthful
  obtain ⟨-, -, -, -, -, trail, -⟩ :=
    returned_of_uncut unreachedLeaf ⟨1⟩ (fun _ => rfl) fun _ cancelled => by cases cancelled
  rw [trail] at truthful
  have applied : Applied unreachedLeaf
      ⟨⟨⟨1⟩, "leaf-01", "172.20.20.11", "dcfabric", none⟩, [], []⟩ := ⟨rfl, _, rfl, rfl⟩
  obtain ⟨collected, collects, success⟩ :=
    succeeds_of_tellsTruth truthful .collect ⟨⟨_, applied⟩, nofun⟩
  cases collects
  cases success

end Snapl.Orchestrator.DeployIntent
