import Snapl.Contract.AuditTrail
import Snapl.Contract.Selection
import Snapl.Contract.DeployWrites
import Snapl.Orchestrator.ScanDrift

/-!
# Unattended writes

A scheduled run reaches a device only through its reconcile child, that child's
deploys and their applies.  An occurrence is one such run with everything its
descendants find around them, in whichever way they end; a history is a
sequence of occurrences.  Every write of a history was selected by the scan of
its own occurrence.
-/

namespace Snapl.Orchestrator

open Snapl.Library Snapl.Intent Snapl.Observability

/-- A scan has no command that writes. -/
def ScanDrift.Command.applied? : ScanDrift.Command → Option UUID
  | .fetchDevicesForUseCase _ | .fetchDesiredState _ | .collectDriftState _
  | .detectDrift _ _ => none

/--
One scheduled run, and what its descendants find around them.  The store
filters by the device it is asked for.
-/
structure Occurrence where
  request : DriftResponseRequest
  setting : DriftResponse.Setting
  scan : ScanDrift.Setting
  reconcile : ReconcileDevices.Setting
  deploy : UUID → DeployIntent.Setting
  ownState : ∀ {deviceId : UUID} {desired : DesiredState},
    (deploy deviceId).fetched = .returned desired → desired.device.id = deviceId

namespace Occurrence

variable (occurrence : Occurrence)

/-- The devices a deploy of the occurrence applies a configuration to. -/
def deployWrites (deviceId : UUID) : List UUID :=
  ((DeployIntent.run (occurrence.deploy deviceId) deviceId).final
    Journal.blank).commands.filterMap DeployIntent.Command.applied?

/-- The devices a reconcile of the occurrence applies a configuration to. -/
def reconcileWrites (deviceIds : List UUID) : List UUID :=
  ((ReconcileDevices.run occurrence.reconcile deviceIds).final
    Journal.blank).commands.flatMap fun
      | .deployIntent _ deviceId => occurrence.deployWrites deviceId

def scanWrites (useCaseId : String) : List UUID :=
  ((ScanDrift.run occurrence.scan useCaseId).final
    Journal.blank).commands.filterMap ScanDrift.Command.applied?

/-- The devices to which a configuration is applied on behalf of the occurrence. -/
def writes : List UUID :=
  ((DriftResponse.run occurrence.setting occurrence.request).final
    Journal.blank).commands.flatMap fun
      | .scanDrift _ useCaseId => occurrence.scanWrites useCaseId
      | .reconcileDevices _ _ deviceIds => occurrence.reconcileWrites deviceIds

/-- What must hold of an occurrence for it to write to a device. -/
structure Justifies (deviceId : UUID) : Prop where
  mode : occurrence.request.mode = .remediate
  selected : ∃ scan report, occurrence.setting.scanned = .returned scan ∧
    scan.cancelled = false ∧ scan.reports.get? deviceId = some report ∧
    report.status = .drifted ∧ ∃ item ∈ report.items, item.undesired = false

variable {occurrence}

theorem eq_of_mem_deployWrites
    {deviceId written : UUID} (member : written ∈ occurrence.deployWrites deviceId) :
    written = deviceId := by
  obtain ⟨command, started, applied⟩ := List.mem_filterMap.1 member
  cases command with
  | applyConfig desired =>
      cases applied
      exact occurrence.ownState ((DeployIntent.reached_of_applied started).2)
  | _ => cases applied

/-- A reconcile writes to none but its own targets. -/
theorem mem_of_mem_reconcileWrites
    {deviceIds : List UUID} {written : UUID}
    (member : written ∈ occurrence.reconcileWrites deviceIds) : written ∈ deviceIds := by
  obtain ⟨⟨workflowId, deviceId⟩, started, deployed⟩ := List.mem_flatMap.1 member
  cases eq_of_mem_deployWrites deployed
  by_cases nonempty : deviceIds = []
  · rw [ReconcileDevices.run, if_pos nonempty] at started
    cases started
  · obtain ⟨-, commands⟩ := ReconcileDevices.run_reconciled occurrence.reconcile nonempty
    rcases commands with ⟨-, none⟩ | deploys
    · rw [none] at started
      cases started
    · rw [deploys, ReconcileDevices.deploys] at started
      obtain ⟨target, isTarget, equal⟩ := List.mem_map.1 started
      cases equal
      exact (ReconcileDevices.mem_dedupe _ _).1 isTarget

theorem scanWrites_eq_nil (useCaseId : String) : occurrence.scanWrites useCaseId = [] := by
  refine List.filterMap_eq_nil_iff.2 fun command _ => ?_
  cases command <;> rfl

theorem dispatched_of_responded
    {setting : DriftResponse.Setting} {request : DriftResponseRequest}
    {ending : Except Raised DriftResponseResult} {trail : List EventBody}
    {commands : List DriftResponse.Command}
    (responded : DriftResponse.Responded setting request ending trail commands) :
    DriftResponse.Dispatched setting request commands := by
  cases responded with
  | appendFailed failed dispatched => exact dispatched
  | childStarted started dispatched => exact dispatched
  | scanIncomplete => exact .scan
  | scanCancelled => exact .scan
  | reconcileIncomplete returned completed reconciled =>
      refine .reconcile returned completed ?_
      cases reconciled with
      | failed nonempty => exact nonempty
      | cancelled nonempty => exact nonempty
  | misreported returned child total dispatched => exact dispatched
  | completed returned completed known decides fields dispatched => exact dispatched

/-- Every write of an occurrence is justified by its own request and scan. -/
theorem justifies_of_mem_writes
    {written : UUID} (member : written ∈ occurrence.writes) :
    occurrence.Justifies written := by
  have dispatched := dispatched_of_responded
    (DriftResponse.run_responded occurrence.setting occurrence.request)
  rw [writes] at member
  generalize ((DriftResponse.run occurrence.setting occurrence.request).final
    Journal.blank).commands = commands at dispatched member
  cases dispatched with
  | none => cases member
  | scan => simp [scanWrites_eq_nil] at member
  | reconcile returned completed nonempty =>
      simp only [DriftResponse.dispatch, List.flatMap_cons, List.flatMap_nil,
        scanWrites_eq_nil, List.nil_append, List.append_nil] at member
      obtain ⟨report, found, forward⟩ :=
        DriftResponse.forward_of_remediated (mem_of_mem_reconcileWrites member)
      obtain ⟨drifted, item⟩ := (hasForwardDrift_iff report).1 forward
      exact ⟨DriftResponse.remediate_of_nonempty nonempty, _, report, returned, completed,
        found, drifted, item⟩

end Occurrence

/-- The writes of a sequence of occurrences, each with the occurrence it belongs to. -/
def historyWrites (history : List Occurrence) : List (Occurrence × UUID) :=
  history.flatMap fun occurrence =>
    occurrence.writes.map fun deviceId => (occurrence, deviceId)

/--
In every history, a schedule writes to a device only on behalf of a remediate
run whose own scan completed and found forward drift on it.  So a report run, a
run whose scan failed or was cancelled, and a device that is clean, errored or
drifted by undesired items only never receive a write.
-/
theorem unattended_writes_justified (history : List Occurrence) :
    (∀ write ∈ historyWrites history,
      write.1 ∈ history ∧ write.1.Justifies write.2) ∧
    ∀ occurrence ∈ history,
      (occurrence.request.mode = .report → occurrence.writes = []) ∧
      ((∀ scan, occurrence.setting.scanned = .returned scan → scan.cancelled = true) →
        occurrence.writes = []) ∧
      ∀ scan, occurrence.setting.scanned = .returned scan →
        ∀ deviceId, (∀ report ∈ scan.reports.get? deviceId,
          report.status = .drifted → ∀ item ∈ report.items, item.undesired = true) →
        deviceId ∉ occurrence.writes := by
  constructor
  · rintro ⟨occurrence, written⟩ member
    obtain ⟨other, present, mapped⟩ := List.mem_flatMap.1 member
    obtain ⟨deviceId, wrote, equal⟩ := List.mem_map.1 mapped
    cases equal
    exact ⟨present, Occurrence.justifies_of_mem_writes wrote⟩
  · intro occurrence _
    refine ⟨?_, ?_, ?_⟩
    · intro report
      refine List.eq_nil_iff_forall_not_mem.2 fun deviceId member => ?_
      rw [(Occurrence.justifies_of_mem_writes member).mode] at report
      cases report
    · intro incomplete
      refine List.eq_nil_iff_forall_not_mem.2 fun deviceId member => ?_
      obtain ⟨scan, _, returned, completed, -⟩ :=
        (Occurrence.justifies_of_mem_writes member).selected
      rw [incomplete scan returned] at completed
      cases completed
    · intro scan returned deviceId unfit member
      obtain ⟨other, report, again, -, found, drifted, item, present, forward⟩ :=
        (Occurrence.justifies_of_mem_writes member).selected
      cases (returned.symm.trans again : ChildOutcome.returned scan = .returned other)
      rw [unfit report found drifted item present] at forward
      cases forward

/-- A scheduled run that deploys every device it selects. -/
def repairOccurrence : Occurrence where
  request := scheduledRepair
  setting := failedRepair
  scan := emptyUseCase
  reconcile := deploysInFlight
  deploy := fun deviceId =>
    { leafApplied none with
      fetched := .returned ⟨⟨deviceId, "leaf", "172.20.20.11", "dcfabric", none⟩, [], []⟩ }
  ownState := fun fetched => by cases fetched; rfl

-- Of the three devices of the scan, only the one with forward drift is written.
example : repairOccurrence.writes = [⟨1⟩] := by decide +kernel

end Snapl.Orchestrator
