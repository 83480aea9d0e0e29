import Snapl.Orchestrator.ScanRun
import Snapl.Presentation.Cli

/-!
# When an exit code of zero is an all-clear

`snapl scan` and `snapl reconcile --drifted` read the result of a scan.  Their
zero exits mean that every device was seen and is fine exactly when the scan is
not cancelled while it evaluates, its use case has devices, and no device is
errored without another one having drifted.
-/

namespace Snapl.Presentation

open Snapl.Library Snapl.Intent Snapl.Observability Snapl.Orchestrator

/-- Temporal is reachable, and no count says that it has no worker. -/
structure Session.Ready (session : Session) : Prop where
  reachable : session.unreachable = none
  polled : session.pollers ≠ some 0

theorem connect_eq_ok {session : Session} :
    connect session = .ok () ↔ session.unreachable = none := by
  rw [connect]
  rcases session.unreachable with _ | cause <;> simp

theorem requireWorker_eq_ok {session : Session} :
    requireWorker session = .ok () ↔ session.pollers ≠ some 0 := by
  rw [requireWorker]
  split_ifs with idle <;> simp [idle]

theorem executeWorkflow_eq_ok
    {Result : Type} {outcome : Except Raised Result} {result : Result} :
    executeWorkflow outcome = .ok result ↔ outcome = .ok result := by
  rcases outcome with raised | given <;> simp [executeWorkflow, Except.mapError]

/-- A scan exits with zero on a result without errored or drifted devices only. -/
theorem scan_eq_ok_iff {session : Session} {scanned : Except Raised DriftScanResult} :
    scan session scanned = .ok .ok ↔
      session.Ready ∧ ∃ result, scanned = .ok result ∧
        result.errored = 0 ∧ result.drifted = 0 := by
  have coded : ∀ result, scanCode result = .ok ↔
      result.errored = 0 ∧ result.drifted = 0 := by
    intro result
    rw [scanCode]
    split_ifs with errored drifted
    · simp [errored]
    · simp [drifted]
    · simpa using ⟨not_not.1 errored, not_not.1 drifted⟩
  rw [scan, bind_eq_ok]
  constructor
  · rintro ⟨_, connected, rest⟩
    obtain ⟨_, polled, rest⟩ := (bind_eq_ok _ _ _).1 rest
    obtain ⟨result, executed, code⟩ := (bind_eq_ok _ _ _).1 rest
    exact ⟨⟨connect_eq_ok.1 connected, requireWorker_eq_ok.1 polled⟩, result,
      executeWorkflow_eq_ok.1 executed, (coded result).1 (Except.ok.inj code)⟩
  · rintro ⟨ready, result, executed, fine⟩
    refine ⟨(), connect_eq_ok.2 ready.reachable, (bind_eq_ok _ _ _).2 ⟨(),
      requireWorker_eq_ok.2 ready.polled, (bind_eq_ok _ _ _).2 ⟨result,
        executeWorkflow_eq_ok.2 executed, ?_⟩⟩⟩
    exact congrArg Except.ok ((coded result).2 fine)

/-- Every failure of the scan command has a nonzero status. -/
theorem command_scan_eq_zero_iff
    {session : Session} {scanned : Except Raised DriftScanResult} :
    command (scan session scanned) = 0 ↔ scan session scanned = .ok .ok := by
  constructor
  · intro zero
    rcases unreachable : session.unreachable with _ | cause
    · by_cases idle : session.pollers = some 0
      · simp [scan, connect, unreachable, requireWorker, idle, command, ExitCode.status] at zero
      · rcases scanned with raised | result
        · simp [scan, connect, unreachable, requireWorker, idle, executeWorkflow,
            Except.mapError, command] at zero
        · have code : scan session (.ok result) = .ok (scanCode result) := by
            simp only [scan, connect, unreachable, requireWorker, if_neg idle, ok_bind]
            rfl
          rw [code] at zero ⊢
          rcases coded : scanCode result with _ | _ | _
          · rfl
          · rw [coded] at zero
            cases zero
          · rw [coded] at zero
            cases zero
    · simp [scan, connect, unreachable, command, ExitCode.status] at zero
  · intro exits
    rw [exits]
    rfl

/-- Nothing is reconciled when a scan without drifted devices came back. -/
theorem scanned_of_notice
    {session : Session} {arguments : ReconcileArguments} {answers : ReconcileAnswers}
    {stopped : ReconcileExit} (exits : reconcile session arguments answers = .ok stopped)
    (noticed : stopped.notice ≠ none) :
    ∃ result, answers.scanned = .ok result ∧ driftedIds result = [] := by
  have silent : ∀ targets, reconcileTargets arguments answers targets ≠ .ok stopped := by
    intro targets exits
    obtain ⟨_, -, rest⟩ := (bind_eq_ok _ _ _).1 exits
    obtain ⟨result, -, equal⟩ := (bind_eq_ok _ _ _).1 rest
    cases equal
    exact noticed rfl
  rw [reconcile] at exits
  split_ifs at exits with misused drifted
  · obtain ⟨_, -, rest⟩ := (bind_eq_ok _ _ _).1 exits
    obtain ⟨_, -, rest⟩ := (bind_eq_ok _ _ _).1 rest
    obtain ⟨result, executed, rest⟩ := (bind_eq_ok _ _ _).1 rest
    split_ifs at rest with none
    · exact ⟨result, executeWorkflow_eq_ok.1 executed, none⟩
    · exact absurd rest (silent _)
  · obtain ⟨_, -, rest⟩ := (bind_eq_ok _ _ _).1 exits
    obtain ⟨_, -, rest⟩ := (bind_eq_ok _ _ _).1 rest
    obtain ⟨targets, -, rest⟩ := (bind_eq_ok _ _ _).1 rest
    exact absurd rest (silent _)

/-- A session with a worker. -/
def ready : Session := ⟨"localhost:18033", "snapl", none, some 1⟩

/-- `snapl reconcile --drifted` on the default arguments. -/
def reconcileDrifted (useCase : String) : ReconcileArguments := ⟨[], useCase, true, false, false⟩

/-- A scan that came back, and nothing else. -/
def fineAnswers (result : DriftScanResult) : ReconcileAnswers :=
  ⟨.ok result, .ok [], false, fun _ => .error .cancelled⟩

/-- A scan without drifted devices stops the command with a zero exit. -/
theorem reconcile_of_none
    {useCase : String} {answers : ReconcileAnswers} {result : DriftScanResult}
    (scanned : answers.scanned = .ok result) (none : driftedIds result = []) :
    ∃ notice, reconcile ready (reconcileDrifted useCase) answers = .ok ⟨.ok, some notice⟩ := by
  refine ⟨"no drifted devices in " ++ useCase ++ " — nothing to reconcile", ?_⟩
  have executed : executeWorkflow answers.scanned = .ok result :=
    executeWorkflow_eq_ok.2 scanned
  have connected : connect ready = .ok () := rfl
  have polled : requireWorker ready = .ok () := rfl
  have asked : (reconcileDrifted useCase).drifted = true := rfl
  rw [reconcile, if_neg (by simp [reconcileDrifted]), connected, ok_bind, polled, ok_bind,
    if_pos asked, executed, ok_bind, if_pos none]
  rfl

end Snapl.Presentation

namespace Snapl.Orchestrator.ScanDrift

open Snapl.Library Snapl.Intent Snapl.Observability Snapl.Presentation

/-- What the outcomes of a device say about it. -/
def verdict (setting : Setting) (device : Device) : DriftStatus :=
  (evaluation setting device 0).status

theorem status_of_evaluated
    {setting : Setting} {device : Device} {report : DriftReport}
    (evaluated : Evaluated setting device report) :
    report.status = verdict setting device := by
  obtain ⟨time, rfl⟩ := evaluated
  rw [verdict, evaluation, evaluation]
  rcases setting.fetched device.id with desired | failure
  · rcases setting.collected device.id with collected | failure
    · rcases detects : setting.detection device.id desired collected with report | failure
      · simp only [detects]
      · simp only [detects]
        rfl
    · rfl
  · rfl

theorem statusCount_eq_zero_iff {status : DriftStatus} {reports : List DriftReport} :
    statusCount status reports = 0 ↔ ∀ report ∈ reports, report.status ≠ status := by
  simp [statusCount, List.countP_eq_zero]

theorem driftedIds_eq_nil_iff {result : DriftScanResult} :
    driftedIds result = [] ↔ ∀ report ∈ result.reports.values, report.status ≠ .drifted := by
  simp [driftedIds, List.filter_eq_nil_iff]

/-- The scan ran to completion, and every report of a device is of this kind. -/
def Sees
    (setting : Setting) (useCaseId : String) (devices : List Device)
    (fine : DriftStatus → Prop) : Prop :=
  ∃ result, (run setting useCaseId).ending Journal.blank = .ok result ∧
    Completes setting devices ∧
    ∀ device ∈ devices, ∃ report, result.reports.get? device.id = some report ∧
      fine report.status

/--
`snapl scan` exits with zero only when it saw some device and every device was
clean; `snapl reconcile --drifted` finds nothing to reconcile only when no
device was drifted or errored.
-/
structure NoFalseAllClear (setting : Setting) (useCaseId : String) : Prop where
  scan : ∀ session,
    command (Presentation.scan session ((run setting useCaseId).ending Journal.blank)) = 0 →
    ∃ devices, devices ≠ [] ∧ Sees setting useCaseId devices fun status => status = .clean
  reconcile : ∀ session arguments answers stopped,
    answers.scanned = (run setting useCaseId).ending Journal.blank →
    Presentation.reconcile session arguments answers = .ok stopped →
    stopped.notice ≠ none →
    ∃ devices, Sees setting useCaseId devices fun status =>
      status ≠ .drifted ∧ status ≠ .error

/-- When zero exits are all-clears. -/
structure SeesEnough (setting : Setting) : Prop where
  uncancelled : ¬ Cancels setting
  some : ∀ devices, Completes setting devices → devices ≠ []
  errored : ∀ devices, Completes setting devices →
    (∃ device ∈ devices, verdict setting device = .error) →
    ∃ device ∈ devices, verdict setting device = .drifted

section Clearing

variable {setting : Setting} {useCaseId : String}

/-- A result of a scan that completes, or of one that was cancelled. -/
theorem completes_or_cancels
    {result : DriftScanResult}
    (ended : (run setting useCaseId).ending Journal.blank = .ok result) :
    (∃ devices, Completes setting devices) ∨ Cancels setting := by
  have scanned := run_scanned setting useCaseId
  rw [Program.Meets, ended] at scanned
  generalize ((run setting useCaseId).final Journal.blank).trail = trail at scanned
  cases scanned with
  | cancelled begun scanning answered => exact Or.inr ⟨begun, scanning, answered⟩
  | completed completes => exact Or.inl ⟨_, completes⟩

variable (useCaseId) in
/-- The reports of a completed scan carry the verdicts on its devices. -/
theorem statuses_of_completes
    {devices : List Device} (completes : Completes setting devices) :
    ∃ result, (run setting useCaseId).ending Journal.blank = .ok result ∧
      (∀ status, (∀ report ∈ result.reports.values, report.status ≠ status) ↔
        ∀ device ∈ devices, verdict setting device ≠ status) ∧
      (∀ device ∈ devices, ∃ report, result.reports.get? device.id = some report ∧
        report.status = verdict setting device) ∧
      (result.errored = 0 ↔ ∀ device ∈ devices, verdict setting device ≠ .error) ∧
      (result.drifted = 0 ↔ ∀ device ∈ devices, verdict setting device ≠ .drifted) := by
  obtain ⟨reports, result, startedAt, endedAt, -, ended, evaluated, -, returned, -⟩ :=
    returned_of_completes (run_scanned setting useCaseId) completes
  have distinct := nodup_devices completes.fetched
  have statuses : ∀ status, (∀ report ∈ reports, report.status ≠ status) ↔
      ∀ device ∈ devices, verdict setting device ≠ status := by
    intro status
    constructor
    · intro never device member
      obtain ⟨report, present, own⟩ := exists_mem_of_forall₂ evaluated member
      rw [← status_of_evaluated own]
      exact never report present
    · intro never report present
      obtain ⟨device, member, own⟩ := exists_mem_of_forall₂ evaluated.flip present
      rw [status_of_evaluated own]
      exact never device member
  refine ⟨result, ended, ?_, ?_, ?_, ?_⟩
  · rwa [values_of_returned evaluated distinct returned]
  · intro device member
    obtain ⟨report, -, found, -, own⟩ := get?_of_returned evaluated distinct returned member
    exact ⟨report, found, status_of_evaluated own⟩
  · rw [← statuses, ← statusCount_eq_zero_iff, returned]
    exact Int.natCast_eq_zero
  · rw [← statuses, ← statusCount_eq_zero_iff, returned]
    exact Int.natCast_eq_zero

/-- A scan that sees enough gives no false all-clear. -/
theorem noFalseAllClear_of_seesEnough (enough : SeesEnough setting) :
    NoFalseAllClear setting useCaseId where
  scan := by
    intro session zero
    obtain ⟨-, result, ended, errored, drifted⟩ :=
      scan_eq_ok_iff.1 (command_scan_eq_zero_iff.1 zero)
    obtain ⟨devices, completes⟩ :=
      (completes_or_cancels ended).resolve_right enough.uncancelled
    obtain ⟨other, again, -, reported, noError, noDrift⟩ :=
      statuses_of_completes useCaseId completes
    cases ended.symm.trans again
    refine ⟨devices, enough.some devices completes, result, ended, completes, ?_⟩
    intro device member
    obtain ⟨report, found, status⟩ := reported device member
    refine ⟨report, found, ?_⟩
    have unerrored := noError.1 errored device member
    have undrifted := noDrift.1 drifted device member
    rw [status]
    rcases given : verdict setting device with _ | _ | _
    · rfl
    · exact absurd given undrifted
    · exact absurd given unerrored
  reconcile := by
    intro session arguments answers stopped scanned exits noticed
    obtain ⟨result, given, none⟩ := scanned_of_notice exits noticed
    have ended := scanned.symm.trans given
    obtain ⟨devices, completes⟩ :=
      (completes_or_cancels ended).resolve_right enough.uncancelled
    obtain ⟨other, again, statuses, reported, -, -⟩ :=
      statuses_of_completes useCaseId completes
    cases ended.symm.trans again
    have undrifted : ∀ device ∈ devices, verdict setting device ≠ .drifted :=
      (statuses .drifted).1 (driftedIds_eq_nil_iff.1 none)
    refine ⟨devices, result, ended, completes, ?_⟩
    intro device member
    obtain ⟨report, found, status⟩ := reported device member
    refine ⟨report, found, ?_, ?_⟩
    · rw [status]
      exact undrifted device member
    · rw [status]
      intro errored
      obtain ⟨witness, present, drifted⟩ :=
        enough.errored devices completes ⟨device, member, errored⟩
      exact undrifted witness present drifted

/-- A scan that gives no false all-clear sees enough. -/
theorem seesEnough_of_noFalseAllClear (sound : NoFalseAllClear setting useCaseId) :
    SeesEnough setting where
  uncancelled := by
    intro cancels
    obtain ⟨result, startedAt, endedAt, ended, returned⟩ :=
      returned_of_cancels (run_scanned setting useCaseId) cancels
    have zero : command
        (Presentation.scan ready ((run setting useCaseId).ending Journal.blank)) = 0 := by
      refine command_scan_eq_zero_iff.2 (scan_eq_ok_iff.2 ⟨⟨rfl, by decide⟩, result, ended, ?_⟩)
      rw [returned]
      exact ⟨rfl, rfl⟩
    obtain ⟨devices, -, -, -, completes, -⟩ := sound.scan ready zero
    exact not_scanning_of_completes completes cancels.scanning
  some := by
    intro devices completes empty
    obtain ⟨result, ended, -, -, noError, noDrift⟩ :=
      statuses_of_completes useCaseId completes
    have zero : command
        (Presentation.scan ready ((run setting useCaseId).ending Journal.blank)) = 0 := by
      refine command_scan_eq_zero_iff.2 (scan_eq_ok_iff.2 ⟨⟨rfl, by decide⟩, result, ended, ?_⟩)
      exact ⟨noError.2 (by simp [empty]), noDrift.2 (by simp [empty])⟩
    obtain ⟨others, nonempty, -, -, again, -⟩ := sound.scan ready zero
    exact nonempty ((devices_unique again completes).trans empty)
  errored := by
    intro devices completes ⟨device, member, errored⟩
    by_contra undrifted
    obtain ⟨result, ended, statuses, reported, -, -⟩ :=
      statuses_of_completes useCaseId completes
    have none : driftedIds result = [] := by
      refine driftedIds_eq_nil_iff.2 ((statuses .drifted).2 ?_)
      exact fun other present drifted => undrifted ⟨other, present, drifted⟩
    have scanned : (fineAnswers result).scanned = .ok result := rfl
    obtain ⟨notice, exits⟩ : ∃ notice, Presentation.reconcile ready
        (reconcileDrifted useCaseId) (fineAnswers result) = .ok ⟨.ok, some notice⟩ :=
      reconcile_of_none scanned none
    obtain ⟨others, other, again, completesAgain, fine⟩ :=
      sound.reconcile _ _ _ _ ended.symm exits (by simp)
    cases ended.symm.trans again
    cases devices_unique completes completesAgain
    obtain ⟨report, found, status⟩ := reported device member
    obtain ⟨sameReport, foundAgain, -, seen⟩ := fine device member
    cases found.symm.trans foundAgain
    exact seen (status.trans errored)

end Clearing

/--
A zero exit is an all-clear exactly when the scan is not cancelled while it
evaluates, its use case has devices, and an errored device never stands without
a drifted one.
-/
theorem no_false_all_clear_iff (setting : Setting) (useCaseId : String) :
    NoFalseAllClear setting useCaseId ↔ SeesEnough setting :=
  ⟨seesEnough_of_noFalseAllClear, noFalseAllClear_of_seesEnough⟩

/-- A use case with one device, cancelled while that device is evaluated. -/
def cancelledScan : Setting where
  toSurroundings := Surroundings.calm "scan-drift" (some .gather)
  text := PyText.ascii
  states := .returned [⟨⟨⟨1⟩, "leaf-01", "172.20.20.11", "dcfabric", none⟩, [], []⟩]
  fetched := fun _ => .failed notReached
  ownState := @ownState_of_notReached
  collected := fun _ => .failed ⟨none, "not reached"⟩
  detected := fun _ => .failed ⟨none, "not reached"⟩
  activityFailure := fun _ => ⟨none, "Activity task failed"⟩
  deviceAppended := fun _ => .done
  schedule := []
  inFlightLands := fun _ => false

/-- A cancelled scan that has seen nothing exits with zero. -/
theorem cancelled_scan_exits_zero :
    cancelledScan.devices =
        .returned [⟨⟨1⟩, "leaf-01", "172.20.20.11", "dcfabric", none⟩] ∧
      command (Presentation.scan ready
        ((run cancelledScan "dcfabric").ending Journal.blank)) = 0 ∧
      ¬ NoFalseAllClear cancelledScan "dcfabric" := by
  refine ⟨rfl, by decide +kernel, fun sound => ?_⟩
  refine (seesEnough_of_noFalseAllClear sound).uncancelled ⟨rfl, .evaluating rfl ?_, rfl⟩
  exact ⟨rfl, rfl, rfl⟩

end Snapl.Orchestrator.ScanDrift
