import Snapl.Contract.DeployFailures

/-!
# What a deploy applies

A deploy starts its apply once its intent is fetched and the fetch is recorded,
for the state it fetched and no other, and it does not take it back.
-/

namespace Snapl.Orchestrator.DeployIntent

open Snapl.Library Snapl.Intent Snapl.Observability

/-- The device a command of a deploy writes to. -/
def Command.applied? : Command → Option UUID
  | .applyConfig desired => some desired.device.id
  | .fetchDesiredState _ | .collectDriftState _ | .detectDrift _ _ => none

/-- An invariant of the journal that recording keeps, and starting what is allowed. -/
structure Kept (setting : Setting) (allowed : Command → Prop)
    (invariant : Journal Command → Prop) : Prop where
  reads : Program.Keeps invariant (now setting.toSurroundings)
  records : ∀ (await : Await) (body : EventBody),
    Program.Keeps invariant (recordEvent setting await body)
  starts : ∀ {Result : Type} (stage : Stage) {command : Command}
    (outcome : ActivityOutcome Result), allowed command →
    Program.Keeps invariant
      (executeActivity setting.toSurroundings (.activity stage) command outcome)

/-- Starting none but allowed commands is such an invariant. -/
theorem kept_starts (setting : Setting) (allowed : Command → Prop) :
    Kept setting allowed (Journal.Starts allowed) where
  reads := keeps_now
  records await body := keeps_record _ await body
  starts stage _ outcome legal := keeps_executeActivity (Await.activity stage) outcome legal

/-- So is having started these commands first, whatever is started later. -/
theorem kept_begins (setting : Setting) (begun : List Command) :
    Kept setting (fun _ => True) fun journal => begun <+: journal.commands where
  reads := fun _ holds => holds
  records await body := keeps_record_commands (fun commands => begun <+: commands) _ await body
  starts stage command outcome _ := by
    intro journal holds
    exact holds.trans (List.prefix_append _ _)

theorem fetched_of_answered
    {setting : Setting} {desired : DesiredState}
    (answered : setting.answers .fetch setting.fetched = .ok desired) :
    setting.fetched = .returned desired := by
  rw [Setting.answers, Surroundings.answer.eq_def] at answered
  split_ifs at answered
  rcases outcome : setting.fetched with state | failure
  · rw [outcome] at answered
    cases answered
    rfl
  · rw [outcome] at answered
    cases answered

section Keeping

variable {setting : Setting} {deviceId : UUID} {startedAt : Int}
variable {allowed : Command → Prop} {invariant : Journal Command → Prop}
variable (kept : Kept setting allowed invariant)

include kept

theorem keeps_terminate (verdict : Verdict) :
    Program.Keeps invariant (terminate setting deviceId startedAt verdict) :=
  Program.Keeps.bind (kept.records _ _) fun _ =>
    Program.Keeps.bind kept.reads fun _ => Program.Keeps.ofExcept _

theorem keeps_exceptActivityError
    {failed : ActivityFailure → Workflow Command WorkflowResult}
    (handles : ∀ failure, Program.Keeps invariant (failed failure)) (raised : Raised) :
    Program.Keeps invariant
      (exceptActivityError (terminateCancelled setting deviceId startedAt) failed raised) := by
  cases raised with
  | cancelled => exact keeps_terminate kept _
  | activityError failure => exact handles failure
  | _ => exact Program.Keeps.raise _

theorem keeps_classify (report : DriftReport) :
    Program.Keeps invariant (classify setting deviceId startedAt report) := by
  rw [classify]
  split_ifs <;> exact keeps_terminate kept _

variable (others : ∀ command : Command, command.applied? = none → allowed command)

include others

theorem keeps_verify (desired : DesiredState) (collected : CollectResult) :
    Program.Keeps invariant (verify setting deviceId startedAt desired collected) := by
  refine Program.Keeps.attempt (kept.starts .detect _ (others _ rfl))
    (keeps_exceptActivityError kept fun _ => keeps_terminate kept _) fun report => ?_
  exact Program.Keeps.bind (kept.records _ _) fun _ => keeps_classify kept report

theorem keeps_collectAndVerify (desired : DesiredState) :
    Program.Keeps invariant (collectAndVerify setting deviceId startedAt desired) := by
  refine Program.Keeps.attempt (kept.starts .collect _ (others _ rfl))
    (keeps_exceptActivityError kept fun _ => keeps_terminate kept _) fun collected => ?_
  exact Program.Keeps.bind (kept.records _ _) fun _ => keeps_verify kept others desired collected

/-- A deploy keeps an invariant from the moment its apply is started. -/
theorem applyAndVerify_keeps
    {desired : DesiredState} {before : Journal Command}
    (started : Program.Meets
      (executeActivity setting.toSurroundings (Await.activity .apply) (.applyConfig desired)
        setting.applied) before fun _ after => invariant after) :
    Program.Meets (applyAndVerify setting deviceId startedAt desired) before fun _ after =>
      invariant after := by
  refine Program.Meets.attempt started ?_ ?_
  · intro applyResult after holds
    split_ifs
    · exact keeps_terminate kept _ after holds
    · exact Program.Keeps.bind (kept.records _ _)
        (fun _ => keeps_collectAndVerify kept others desired) after holds
  · intro raised after holds
    exact keeps_exceptActivityError kept (fun _ => keeps_terminate kept _) raised after holds

/-- The fetch has answered, and the deploy comes to its apply if the fetch is recorded. -/
theorem keeps_fetchAndDeploy
    (legal : ∀ desired, setting.fetched = .returned desired → Completes setting .fetch →
      Appended setting (.completed .fetch) → allowed (.applyConfig desired)) :
    Program.Keeps invariant (fetchAndDeploy setting deviceId startedAt) := by
  intro before holds
  have started : Program.Keeps invariant
      (executeActivity setting.toSurroundings (.activity .fetch)
        (.fetchDesiredState deviceId) setting.fetched) :=
    kept.starts .fetch _ (others _ rfl)
  refine Program.Meets.attempt ((executeActivity_meets _ _ _).both (started before holds)) ?_ ?_
  · rintro desired after ⟨⟨answer, -⟩, holds⟩
    have completes : Completes setting .fetch := ⟨desired, answer.symm⟩
    have fetched : setting.fetched = .returned desired := fetched_of_answered answer.symm
    refine Program.Meets.bind ((record_meets workflowType (Await.completed .fetch)
      (completedEvent_valid deviceId .fetch)).both (kept.records _ _ after holds)) ?_ ?_
    · rintro _ recorded ⟨⟨answer, -⟩, holds⟩
      exact applyAndVerify_keeps kept others (kept.starts .apply _
        (legal desired fetched completes answer.symm) recorded holds)
    · rintro raised recorded ⟨-, holds⟩
      exact holds
  · rintro raised after ⟨-, holds⟩
    refine keeps_exceptActivityError kept (fun failure => ?_) raised after holds
    split_ifs <;> exact keeps_terminate kept _

end Keeping

section Commands

variable {setting : Setting} {deviceId : UUID}

/-- A deploy starts an apply only where it comes to it, for the state it fetched. -/
theorem reached_of_applied
    {desired : DesiredState}
    (applied : Command.applyConfig desired ∈
      ((run setting deviceId).final Journal.blank).commands) :
    Reaches setting .apply ∧ setting.fetched = .returned desired := by
  let allowed : Command → Prop
    | .applyConfig desired => Reaches setting .apply ∧ setting.fetched = .returned desired
    | _ => True
  have kept := kept_starts setting allowed
  have others : ∀ command : Command, command.applied? = none → allowed command := by
    intro command none
    cases command with
    | applyConfig => cases none
    | _ => trivial
  suffices meets : Program.Meets (run setting deviceId) Journal.blank fun _ after =>
      Journal.Starts allowed after from meets (.applyConfig desired) applied
  have blank : Journal.Starts allowed (Journal.blank : Journal Command) := nofun
  refine Program.Meets.bind (kept.reads _ blank) ?_ fun _ _ holds => holds
  intro startedAt begun holds
  refine Program.Meets.bind ((record_meets workflowType Await.started
    (startedEvent_valid deviceId)).both (kept.records _ _ begun holds)) ?_ ?_
  · rintro _ recorded ⟨⟨answer, -⟩, holds⟩
    exact keeps_fetchAndDeploy kept others (fun desired fetched completes appended =>
      ⟨⟨answer.symm, completes, appended⟩, fetched⟩) recorded holds
  · rintro raised recorded ⟨-, holds⟩
    exact holds

/-- A deploy that comes to its apply has started it, right after the fetch. -/
theorem commands_of_reached (reached : Reaches setting .apply) :
    ∃ desired, setting.fetched = .returned desired ∧
      [.fetchDesiredState deviceId, .applyConfig desired] <+:
        ((run setting deviceId).final Journal.blank).commands := by
  obtain ⟨started, ⟨desired, answered⟩, recorded⟩ := reached
  refine ⟨desired, fetched_of_answered answered, ?_⟩
  suffices meets : Program.Meets (run setting deviceId) Journal.blank fun _ after =>
      [.fetchDesiredState deviceId, .applyConfig desired] <+: after.commands from meets
  have kept := kept_begins setting [.fetchDesiredState deviceId, .applyConfig desired]
  refine Program.Meets.bind now_meets ?_ (by rintro failure after ⟨read, -⟩; cases read)
  rintro startedAt begun ⟨-, grewFirst, -⟩
  refine Program.Meets.bind (record_meets workflowType Await.started
    (startedEvent_valid deviceId)) ?_ ?_
  · rintro _ opened ⟨-, grewOpened⟩
    refine Program.Meets.attempt (executeActivity_meets (Await.activity .fetch) _ _) ?_ ?_
    · rintro found fetched ⟨answer, grewFetched⟩
      cases answer.trans answered
      refine Program.Meets.bind (record_meets workflowType (Await.completed .fetch)
        (completedEvent_valid deviceId .fetch)) ?_ ?_
      · rintro _ told ⟨-, grewTold⟩
        refine applyAndVerify_keeps kept (fun _ _ => trivial)
          ((executeActivity_meets (Await.activity .apply) _ _).mono ?_)
        rintro ending applied ⟨-, grewApplied⟩
        rw [((((grewFirst.trans grewOpened).trans grewFetched).trans grewTold).trans
          grewApplied).commands]
        exact List.prefix_rfl
      · rintro raised told ⟨answer, -⟩
        cases answer.trans recorded
    · rintro raised fetched ⟨answer, -⟩
      cases answer.trans answered
  · rintro raised opened ⟨answer, -⟩
    cases answer.trans started

end Commands

end Snapl.Orchestrator.DeployIntent
