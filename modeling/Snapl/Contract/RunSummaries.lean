import Snapl.Contract.ReconcileAccounting
import Snapl.Contract.UnattendedWrites
import Snapl.Executor.Gnmi

/-!
# What a run summary says was written

The summary of a scheduled run counts a deploy as an attempted write when it
returned a result, or failed, whatever it came to.  A deploy that stopped
before its device was dialled is counted with the others, so the count is that
of the devices a set was attempted on exactly when every repaired device that
was not skipped was dialled.
-/

namespace Snapl.Orchestrator

open Snapl.Library Snapl.Intent Snapl.Observability Snapl.Executor

/-! ## Deploys of unknown devices -/

namespace DeployIntent

/-- What holds of every verdict a guarded activity can lead to holds of its course's. -/
theorem verdict_guarded
    {Result : Type} {holds : Verdict → Prop} {command : Command} {answer : Except Raised Result}
    {failed : ActivityFailure → Verdict} {next : Result → Course} (cancelled : holds .cancelled)
    (fails : ∀ failure, holds (failed failure)) (goesOn : ∀ result, holds (next result).verdict) :
    holds (Course.guarded command answer failed next).verdict := by
  rcases answer with raised | result
  · cases raised with
    | activityError failure => exact fails failure
    | _ => exact cancelled
  · exact goesOn result

variable {setting : Setting} {deviceId : UUID}

/-- Once the intent is fetched, no verdict says that the device is unknown. -/
theorem reason_of_applyCourse (desired : DesiredState) :
    (applyCourse setting desired).verdict.reason ≠ .deviceNotFound := by
  apply @verdict_guarded _ fun verdict => verdict.reason ≠ .deviceNotFound
  · intro same
    cases same
  · intro failure same
    cases same
  · intro applyResult
    split_ifs
    · intro same
      cases same
    apply @verdict_guarded _ fun verdict => verdict.reason ≠ .deviceNotFound
    · intro same
      cases same
    · intro failure same
      cases same
    · intro collected
      apply @verdict_guarded _ fun verdict => verdict.reason ≠ .deviceNotFound
      · intro same
        cases same
      · intro failure same
        cases same
      · intro report
        rw [Course.verdict_completing, Course.decided_eq, verdictOn]
        split_ifs <;>
          · intro same
            cases same

theorem appendsEnding_cons_eq_ok {await : Await} {rest : List Await} :
    appendsEnding setting (await :: rest) = .ok () ↔
      Appended setting await ∧ appendsEnding setting rest = .ok () := by
  rcases answer : setting.appendEnding await with raised | _
  · rw [appendsEnding_cons_of_error answer, Appended, answer]
    constructor
    · intro impossible
      cases impossible
    · rintro ⟨impossible, -⟩
      cases impossible
  · rw [appendsEnding_cons_of_appended answer]
    constructor
    · intro appended
      exact ⟨answer, appended⟩
    · rintro ⟨-, appended⟩
      exact appended

theorem appends_of_unfetched (incomplete : ¬ Completes setting .fetch) :
    appendsEnding setting (auditPoints setting deviceId) = .ok () ↔
      Appended setting .started ∧ Appended setting .terminated := by
  rw [auditPoints, audits_unfetched deviceId incomplete, appendsEnding_cons_eq_ok,
    appendsEnding_cons_eq_ok, appendsEnding_nil]
  simp

/-- A deploy says that its device is unknown when its fetch does, and its appends answer. -/
theorem unknown_iff :
    (∃ result, (run setting deviceId).ending Journal.blank = .ok result ∧
      result.reason = .deviceNotFound) ↔
    Appended setting .started ∧
      (∃ failure, setting.answers .fetch setting.fetched = .error (.activityError failure) ∧
        isIntentNotFound failure = true) ∧
      Appended setting .terminated := by
  have ends := run_ends setting deviceId
  constructor
  · rintro ⟨result, ended, reason⟩
    rw [ended] at ends
    cases ends with
    | returned appended returned =>
        have told : (course setting deviceId).verdict.reason = .deviceNotFound :=
          (congrArg WorkflowResultFields.reason returned).symm.trans reason
        rcases answer : setting.answers .fetch setting.fetched with raised | desired
        · have incomplete : ¬ Completes setting .fetch := by
            rintro ⟨desired, fetched⟩
            cases answer.symm.trans fetched
          obtain ⟨started, terminated⟩ := (appends_of_unfetched incomplete).1 appended
          rw [course, answer] at told
          cases raised with
          | activityError failure =>
              rw [Course.guarded_activityError, fetchVerdict] at told
              split_ifs at told with unknown
              · exact ⟨started, ⟨failure, rfl, unknown⟩, terminated⟩
              · cases told
          | _ => cases told
        · rw [course, answer] at told
          exact absurd told (reason_of_applyCourse desired)
  · rintro ⟨started, ⟨failure, failed, unknown⟩, terminated⟩
    have incomplete : ¬ Completes setting .fetch := by
      rintro ⟨desired, fetched⟩
      cases failed.symm.trans fetched
    rw [(appends_of_unfetched incomplete).2 ⟨started, terminated⟩] at ends
    generalize (run setting deviceId).ending Journal.blank = ending at ends
    cases ends with
    | raised broken => cases broken
    | @returned result endedAt appended returned =>
        refine ⟨result, rfl, ?_⟩
        rw [returned, Verdict.fields, course, failed, Course.guarded_activityError,
          fetchVerdict, if_pos unknown]
        rfl

end DeployIntent

/-! ## The deploys of a run -/

/--
The life of a deploy: what it finds around it, what the attempts of its apply
go through, and after how many activities it is terminated from outside, if it is.
-/
structure DeployLife where
  setting : DeployIntent.Setting
  attempts : List SetCourse
  terminatedAfter : Option Nat

namespace DeployLife

open DeployIntent (Command)

variable (executor : GnmiExecutor) (life : DeployLife) (deviceId : UUID)

/-- The activities the deploy has started when it is over. -/
def commands : List Command :=
  match life.terminatedAfter with
  | some count =>
      ((DeployIntent.run life.setting deviceId).final Journal.blank).commands.take count
  | none => ((DeployIntent.run life.setting deviceId).final Journal.blank).commands

/-- An attempt of the deploy's apply has set. -/
def sets : Bool :=
  (life.commands deviceId).any fun command =>
    match command with
    | .applyConfig desired =>
        life.attempts.any fun course => (Executor.deploy executor desired course).sets
    | _ => false

/-- The apply of a deploy is the second activity it starts. -/
theorem mem_commands {life : DeployLife} {deviceId : UUID} {desired : DesiredState} :
    Command.applyConfig desired ∈ life.commands deviceId ↔
      DeployIntent.Reaches life.setting .apply ∧ life.setting.fetched = .returned desired ∧
        ∀ count ∈ life.terminatedAfter, 2 ≤ count := by
  have started : DeployIntent.Reaches life.setting .apply →
      life.setting.fetched = .returned desired → ∃ rest,
        ((DeployIntent.run life.setting deviceId).final Journal.blank).commands =
          .fetchDesiredState deviceId :: .applyConfig desired :: rest := by
    intro reached fetched
    obtain ⟨other, otherFetched, rest, commands⟩ := DeployIntent.commands_of_reached reached
    cases fetched.symm.trans otherFetched
    exact ⟨rest, commands.symm⟩
  rcases terminated : life.terminatedAfter with _ | count
  · rw [commands, terminated]
    constructor
    · intro member
      obtain ⟨reached, fetched⟩ := DeployIntent.reached_of_applied member
      exact ⟨reached, fetched, nofun⟩
    · rintro ⟨reached, fetched, -⟩
      obtain ⟨rest, commands⟩ := started reached fetched
      rw [commands]
      exact List.mem_cons_of_mem _ List.mem_cons_self
  · rw [commands, terminated]
    constructor
    · intro member
      obtain ⟨reached, fetched⟩ := DeployIntent.reached_of_applied (List.mem_of_mem_take member)
      refine ⟨reached, fetched, ?_⟩
      rintro _ ⟨⟩
      obtain ⟨rest, commands⟩ := started reached fetched
      rw [commands] at member
      rcases count with _ | _ | count
      · cases member
      · cases List.mem_singleton.1 member
      · exact Nat.le_add_left 2 count
    · rintro ⟨reached, fetched, spared⟩
      obtain ⟨rest, commands⟩ := started reached fetched
      obtain ⟨more, rfl⟩ := Nat.exists_eq_add_of_le' (spared count rfl)
      rw [commands]
      exact List.mem_cons_of_mem _ List.mem_cons_self

/-- How the deploy ends, as its parent sees it.  A run that a validator stops never ends. -/
inductive EndsAs : ChildOutcome WorkflowResult → Prop where
  | returned {result : WorkflowResult} (whole : life.terminatedAfter = none)
      (ended : (DeployIntent.run life.setting deviceId).ending Journal.blank = .ok result) :
      EndsAs (.returned result)
  | cancelled (whole : life.terminatedAfter = none)
      (ended : (DeployIntent.run life.setting deviceId).ending Journal.blank =
        .error .cancelled) :
      EndsAs .cancelled
  | failed {error : ActivityFailure} {failure : ChildFailure}
      (whole : life.terminatedAfter = none)
      (ended : (DeployIntent.run life.setting deviceId).ending Journal.blank =
        .error (.activityError error)) :
      EndsAs (.failed failure)
  | terminated {count : Nat} {failure : ChildFailure}
      (cut : life.terminatedAfter = some count) : EndsAs (.failed failure)

/-- The apply of the deploy returned what its last attempt returned. -/
def Answers : Prop :=
  ∀ desired result, life.setting.fetched = .returned desired →
    life.setting.applied = .returned result →
    ∃ course, life.attempts.getLast? = some course ∧
      (Executor.deploy executor desired course).result = some result

end DeployLife

/-- A scheduled run, its reconcile, and the deploys of its devices. -/
structure RepairRun where
  executor : GnmiExecutor
  request : DriftResponseRequest
  setting : DriftResponse.Setting
  reconcile : ReconcileDevices.Setting
  deploy : UUID → DeployLife
  reconciled : ∀ scan result, setting.scanned = .returned scan →
    setting.reconciled = .returned result →
    (ReconcileDevices.run reconcile (DriftResponse.remediated request scan)).ending
      Journal.blank = .ok result
  children : ∀ deviceId, reconcile.child deviceId = .alreadyStarted ∨
    (deploy deviceId).EndsAs deviceId (reconcile.child deviceId)
  answers : ∀ deviceId, (deploy deviceId).Answers executor

namespace RepairRun

variable (run : RepairRun)

/-- The run's own deploy of the device attempted a set. -/
def sets (deviceId : UUID) : Bool :=
  run.reconcile.child deviceId ≠ .alreadyStarted &&
    (run.deploy deviceId).sets run.executor deviceId

/-- The devices the deploys of the run's reconcile attempted a set on. -/
def written (deviceIds : List UUID) : List UUID :=
  ((ReconcileDevices.run run.reconcile deviceIds).final Journal.blank).commands.filterMap
    fun
      | .deployIntent _ deviceId => if run.sets deviceId then some deviceId else none

/-- The summary says that something was written exactly when it was, and counts the devices. -/
structure WroteExactly (written : List UUID) (summary : RunSummary) : Prop where
  wrote : summary.wrote = true ↔ written ≠ []
  counted : summary.succeeded + summary.failed = written.length

/-- The source of truth knew no such device, and the deploy said so. -/
def Unknown (deviceId : UUID) : Prop :=
  (run.deploy deviceId).terminatedAfter = none ∧
    DeployIntent.Appended (run.deploy deviceId).setting .started ∧
    (∃ failure, (run.deploy deviceId).setting.answers .fetch
        (run.deploy deviceId).setting.fetched = .error (.activityError failure) ∧
      DeployIntent.isIntentNotFound failure = true) ∧
    DeployIntent.Appended (run.deploy deviceId).setting .terminated

/-- The deploy comes to its apply, and an attempt of it gets to the set. -/
def Dials (deviceId : UUID) : Prop :=
  DeployIntent.Reaches (run.deploy deviceId).setting .apply ∧
    (∀ count ∈ (run.deploy deviceId).terminatedAfter, 2 ≤ count) ∧
    ∃ desired payload, (run.deploy deviceId).setting.fetched = .returned desired ∧
      run.executor.render desired = .ok payload ∧
      desired.device.dialHost run.executor.host ≠ none ∧
      ∃ course ∈ (run.deploy deviceId).attempts, course ≠ .unlocked

variable {run} {deviceId : UUID}

theorem sets_deploy_iff :
    (run.deploy deviceId).sets run.executor deviceId = true ↔ run.Dials deviceId := by
  rw [DeployLife.sets, List.any_eq_true]
  constructor
  · rintro ⟨command, member, applied⟩
    cases command with
    | applyConfig desired =>
        obtain ⟨course, attempted, sets⟩ := List.any_eq_true.1 applied
        obtain ⟨reached, fetched, spared⟩ := DeployLife.mem_commands.1 member
        obtain ⟨⟨payload, rendered⟩, dialled, unlocked⟩ := (deploy_sets_iff _ _ _).1 sets
        exact ⟨reached, spared, desired, payload, fetched, rendered, dialled, course, attempted,
          unlocked⟩
    | _ => cases applied
  · rintro ⟨reached, spared, desired, payload, fetched, rendered, dialled, course, attempted,
      unlocked⟩
    refine ⟨.applyConfig desired, DeployLife.mem_commands.2 ⟨reached, fetched, spared⟩, ?_⟩
    exact List.any_eq_true.2 ⟨course, attempted,
      (deploy_sets_iff _ _ _).2 ⟨⟨payload, rendered⟩, dialled, unlocked⟩⟩

/-- A device is skipped when its deploy was already running, or did not know it. -/
theorem skips_iff :
    run.reconcile.skips deviceId = true ↔
      run.reconcile.child deviceId = .alreadyStarted ∨ run.Unknown deviceId := by
  constructor
  · intro skips
    rcases run.children deviceId with started | ends
    · exact Or.inl started
    · right
      rw [ReconcileDevices.Setting.skips] at skips
      generalize run.reconcile.child deviceId = child at skips ends
      cases ends with
      | @returned result whole ended =>
          exact ⟨whole, DeployIntent.unknown_iff.1 ⟨result, ended, of_decide_eq_true skips⟩⟩
      | _ => cases skips
  · rintro (started | ⟨whole, unknown⟩)
    · rw [ReconcileDevices.Setting.skips, started]
    · obtain ⟨result, returned, reason⟩ := (@DeployIntent.unknown_iff _ deviceId).2 unknown
      rw [ReconcileDevices.Setting.skips]
      rcases run.children deviceId with started | ends
      · rw [started]
      · generalize run.reconcile.child deviceId = child at ends
        cases ends with
        | returned _ ended =>
            cases returned.symm.trans ended
            exact decide_eq_true reason
        | cancelled _ ended => cases returned.symm.trans ended
        | failed _ ended => cases returned.symm.trans ended
        | terminated cut => cases whole.symm.trans cut

/-- A skipped device was not dialled. -/
theorem not_dials_of_unknown (unknown : run.Unknown deviceId) : ¬ run.Dials deviceId := by
  rintro ⟨⟨-, ⟨desired, fetched⟩, -⟩, -⟩
  obtain ⟨-, -, ⟨failure, failed, -⟩, -⟩ := unknown
  cases failed.symm.trans fetched

theorem sets_iff :
    run.sets deviceId = true ↔
      run.reconcile.child deviceId ≠ .alreadyStarted ∧ run.Dials deviceId := by
  rw [sets, Bool.and_eq_true, decide_eq_true_iff, sets_deploy_iff]

theorem not_skips_of_sets (sets : run.sets deviceId = true) :
    (!run.reconcile.skips deviceId) = true := by
  rw [Bool.not_eq_true', ← Bool.not_eq_true, skips_iff]
  obtain ⟨started, dials⟩ := sets_iff.1 sets
  rintro (again | unknown)
  · exact started again
  · exact not_dials_of_unknown unknown dials

/-- A device that was not skipped was set exactly when it is one of those a summary counts. -/
theorem sets_of_unskipped_iff :
    ((!run.reconcile.skips deviceId) = true → run.sets deviceId = true) ↔
      run.reconcile.child deviceId = .alreadyStarted ∨ run.Unknown deviceId ∨
        run.Dials deviceId := by
  rw [Bool.not_eq_true', ← Bool.not_eq_true, skips_iff, sets_iff]
  by_cases started : run.reconcile.child deviceId = .alreadyStarted
  · simp [started]
  · by_cases unknown : run.Unknown deviceId
    · simp [unknown]
    · simp [started, unknown]

/-! ## The counts -/

/-- The devices written are those of the repaired ones that were. -/
theorem written_eq
    {deviceIds : List UUID} (distinct : deviceIds.Nodup)
    (commands : ((ReconcileDevices.run run.reconcile deviceIds).final Journal.blank).commands =
      ReconcileDevices.deploys deviceIds) :
    run.written deviceIds = deviceIds.filter run.sets := by
  rw [written, commands, ReconcileDevices.deploys, ReconcileDevices.dedupe_of_nodup distinct,
    List.filterMap_map, ← List.filterMap_eq_filter]
  apply List.filterMap_congr
  intro deviceId _
  rfl

theorem attempted_eq
    {deviceIds : List UUID} (distinct : deviceIds.Nodup) {result : ReconcileResult}
    (accounted : ReconcileDevices.Accounted run.reconcile deviceIds result) :
    result.succeeded + result.failed =
      deviceIds.countP fun deviceId => !run.reconcile.skips deviceId := by
  have counts := result.valid.counts
  have total := accounted.total
  have skipped := accounted.skipped
  have split := @List.length_eq_countP_add_countP _ run.reconcile.skips deviceIds
  rw [← ReconcileDevices.dedupe_eq_eraseDups, ReconcileDevices.dedupe_of_nodup distinct]
    at total skipped
  simp only [Bool.not_eq_true, Bool.decide_eq_false] at split
  omega

theorem counts_of_fromResult
    {result : DriftResponseResult} {summary : RunSummary}
    (summarised : RunSummary.fromResult result = .ok summary) :
    summary.succeeded + summary.failed =
      match result.reconcile with
      | some reconcile => reconcile.succeeded + reconcile.failed
      | none => 0 := by
  rw [RunSummary.fromResult, RunSummary.build, dif_pos decide_eq_true_iff] at summarised
  cases summarised
  rcases result.reconcile with _ | reconcile
  · rfl
  · rfl

theorem wroteExactly_iff_counted {written : List UUID} {summary : RunSummary} :
    WroteExactly written summary ↔ summary.succeeded + summary.failed = written.length := by
  constructor
  · exact WroteExactly.counted
  · intro counted
    refine ⟨?_, counted⟩
    rw [summary.attempted, counted, Int.natCast_pos, List.length_pos_iff]

end RepairRun

/--
The summary of a completed run says exactly what was written if and only if
every device it repaired was skipped, because a deploy of it was running or did
not know it, or was dialled by its deploy.
-/
theorem wrote_exactly_iff
    (run : RepairRun) {scan : DriftScanResult} {result : DriftResponseResult}
    {summary : RunSummary} (scanned : run.setting.scanned = .returned scan)
    (completed : (DriftResponse.run run.setting run.request).ending Journal.blank = .ok result)
    (summarised : RunSummary.fromResult result = .ok summary) :
    RepairRun.WroteExactly (run.written (DriftResponse.remediated run.request scan)) summary ↔
      ∀ deviceId ∈ DriftResponse.remediated run.request scan,
        run.reconcile.child deviceId = .alreadyStarted ∨ run.Unknown deviceId ∨
          run.Dials deviceId := by
  have responded := DriftResponse.run_responded run.setting run.request
  rw [Program.Meets, completed] at responded
  generalize ((DriftResponse.run run.setting run.request).final Journal.blank).trail = trail
    at responded
  generalize ((DriftResponse.run run.setting run.request).final Journal.blank).commands =
    commands at responded
  cases responded with
  | @completed other reconciled _ _ _ _ _ returned _ known _ fields _ =>
    cases scanned.symm.trans returned
    have given : result.reconcile = reconciled := congrArg DriftResponseFields.reconcile fields
    rw [RepairRun.wroteExactly_iff_counted, RepairRun.counts_of_fromResult summarised, given]
    cases known with
    | unneeded empty =>
        rw [empty]
        have none : run.written [] = [] := by
          rw [RepairRun.written, ReconcileDevices.run, if_pos rfl]
          rfl
        simp [none]
    | @returned reconcile nonempty child =>
        have distinct := @DriftResponse.nodup_remediated run.request scan
        have ended := run.reconciled scan reconcile scanned child
        obtain ⟨ends, commands⟩ := ReconcileDevices.run_reconciled run.reconcile nonempty
        rw [ended] at ends
        generalize ((ReconcileDevices.run run.reconcile
          (DriftResponse.remediated run.request scan)).final Journal.blank).trail = trail at ends
        cases ends with
        | completed begun settled _ returned =>
            have deploys := commands.resolve_left fun failed => failed.1 begun
            simp only [RepairRun.attempted_eq distinct
              (ReconcileDevices.accounted_of_settled settled returned),
              RepairRun.written_eq distinct deploys, ← List.countP_eq_length_filter,
              Nat.cast_inj]
            rw [eq_comm, countP_eq_countP_iff fun deviceId _ => RepairRun.not_skips_of_sets]
            apply forall₂_congr
            intro deviceId _
            exact RepairRun.sets_of_unskipped_iff

/-! ## A repair that writes, and one that does not -/

/-- An executor that renders every state. -/
def plainExecutor : GnmiExecutor := ⟨none, fun _ => .ok (.obj []), id⟩

/-- A child that returned, or is taken as started before. -/
def childOf {Result : Type} : Except Raised Result → ChildOutcome Result
  | .ok result => .returned result
  | .error _ => .alreadyStarted

/-- The reconcile of deploys that all live this life. -/
def reconcileOfLife (life : DeployLife) : ReconcileDevices.Setting where
  toSurroundings := Surroundings.calm "reconcile" none
  child := fun deviceId => childOf ((DeployIntent.run life.setting deviceId).ending Journal.blank)
  schedule := []

/-- The repair of the scan with one device of each kind, whose deploys all live this life. -/
def repairOfLife (life : DeployLife) (whole : life.terminatedAfter = none)
    (answers : life.Answers plainExecutor) : RepairRun where
  executor := plainExecutor
  request := scheduledRepair
  setting :=
    { failedRepair with
      reconciled := childOf ((ReconcileDevices.run (reconcileOfLife life)
        (DriftResponse.remediated scheduledRepair mixedScan)).ending Journal.blank) }
  reconcile := reconcileOfLife life
  deploy := fun _ => life
  reconciled := by
    rintro scan result ⟨⟩ returned
    change childOf _ = .returned result at returned
    generalize (ReconcileDevices.run (reconcileOfLife life)
      (DriftResponse.remediated scheduledRepair mixedScan)).ending Journal.blank = ending
      at returned ⊢
    cases ending with
    | ok => cases returned; rfl
    | error => cases returned
  children := by
    intro deviceId
    change childOf _ = _ ∨ DeployLife.EndsAs _ _ (childOf _)
    rcases ended : (DeployIntent.run life.setting deviceId).ending Journal.blank with
      raised | result
    · exact Or.inl rfl
    · exact Or.inr (.returned whole ended)
  answers := fun _ => answers

/-- A deploy whose intent cannot be fetched. -/
def unreachableIntent : DeployLife where
  setting :=
    { leafApplied none with
      fetched := .failed ⟨some (.application (some "IntentConnectionError") "SoT unreachable"),
        "Activity task failed"⟩ }
  attempts := []
  terminatedAfter := none

/-- A deploy that writes its device. -/
def writtenLeaf : DeployLife where
  setting := leafApplied none
  attempts := [.unlocked, .returned]
  terminatedAfter := none

theorem writtenLeaf_answers : writtenLeaf.Answers plainExecutor := by
  rintro desired result ⟨⟩ ⟨⟩
  exact ⟨.returned, rfl, rfl⟩

theorem unreachableIntent_answers : unreachableIntent.Answers plainExecutor := by
  rintro desired result ⟨⟩

def unreachedRepair : RepairRun := repairOfLife unreachableIntent rfl unreachableIntent_answers

def writtenRepair : RepairRun := repairOfLife writtenLeaf rfl writtenLeaf_answers

/-- The summary of a run, if it completes. -/
def RepairRun.summary? (run : RepairRun) : Option RunSummary :=
  match (DriftResponse.run run.setting run.request).ending Journal.blank with
  | .ok result => (RunSummary.fromResult result).toOption
  | .error _ => none

theorem RepairRun.summarised
    {run : RepairRun} {summary : RunSummary} (completes : run.summary? = some summary) :
    ∃ result,
      (DriftResponse.run run.setting run.request).ending Journal.blank = .ok result ∧
      RunSummary.fromResult result = .ok summary := by
  rw [summary?] at completes
  rcases ended : (DriftResponse.run run.setting run.request).ending Journal.blank with
    raised | result
  · rw [ended] at completes
    cases completes
  · rw [ended] at completes
    refine ⟨result, rfl, ?_⟩
    change (RunSummary.fromResult result).toOption = some summary at completes
    generalize RunSummary.fromResult result = made at completes ⊢
    cases made with
    | ok => cases completes; rfl
    | error => cases completes

/-- The one device of this run was never dialled, and its summary says that it was written. -/
theorem unreached_repair_wrote :
    ∃ result summary,
      (DriftResponse.run unreachedRepair.setting unreachedRepair.request).ending
        Journal.blank = .ok result ∧
      RunSummary.fromResult result = .ok summary ∧ summary.wrote = true ∧
      summary.succeeded + summary.failed = 1 ∧
      unreachedRepair.written
        (DriftResponse.remediated unreachedRepair.request mixedScan) = [] := by
  have completes : unreachedRepair.summary? = some ⟨3, 0, 2, 1, 1, 0, 1, true, by decide⟩ := by
    decide +kernel
  obtain ⟨result, ended, summarised⟩ := RepairRun.summarised completes
  exact ⟨result, _, ended, summarised, rfl, rfl, by decide +kernel⟩

theorem written_repair_wrote :
    ∃ result summary,
      (DriftResponse.run writtenRepair.setting writtenRepair.request).ending
        Journal.blank = .ok result ∧
      RunSummary.fromResult result = .ok summary ∧
      RepairRun.WroteExactly (writtenRepair.written
        (DriftResponse.remediated writtenRepair.request mixedScan)) summary := by
  have completes : writtenRepair.summary? = some ⟨3, 0, 2, 1, 1, 0, 1, true, by decide⟩ := by
    decide +kernel
  obtain ⟨result, ended, summarised⟩ := RepairRun.summarised completes
  refine ⟨result, _, ended, summarised,
    (wrote_exactly_iff writtenRepair rfl ended summarised).2 ?_⟩
  intro deviceId member
  have dialled : (⟨⟨1⟩, "leaf-01", "172.20.20.11", "dcfabric", none⟩ : Device).dialHost
      none ≠ none := by decide
  exact Or.inr (Or.inr ⟨⟨rfl, ⟨⟨_, rfl⟩, rfl⟩⟩, nofun, _, _, rfl, rfl, dialled, .returned,
    List.mem_cons_of_mem _ List.mem_cons_self, nofun⟩)

end Snapl.Orchestrator
