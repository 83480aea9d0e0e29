import Snapl.Contract.PayloadReapplied
import Snapl.Contract.UnattendedWrites
import Snapl.Contract.Verification
import Snapl.Orchestrator.ReconcileRun

/-!
# What a scheduled run decides

Whether a scheduled run writes to a device is a function of the configuration
its scan found there: it writes only if the configuration can be read and does
not show the intent.  A run that nothing disturbs on the way to the device
writes exactly then.
-/

namespace Snapl.Orchestrator.ScanDrift

open Snapl.Library Snapl.Intent Snapl.Observability

variable {setting : Setting} {useCaseId : String} {result : DriftScanResult}

/-- A scan that returned uncancelled has evaluated its devices. -/
theorem completed_of_returned
    (ended : (run setting useCaseId).ending Journal.blank = .ok result)
    (uncancelled : result.cancelled = false) :
    ∃ devices reports startedAt endedAt, Completes setting devices ∧
      List.Forall₂ (Evaluated setting) devices reports ∧
      result.toDriftScanFields = scanFields setting useCaseId reports startedAt endedAt := by
  have scanned : Scanned setting useCaseId ((run setting useCaseId).ending Journal.blank)
      ((run setting useCaseId).final Journal.blank).trail := run_scanned setting useCaseId
  rw [ended] at scanned
  generalize ((run setting useCaseId).final Journal.blank).trail = trail at scanned
  cases scanned with
  | cancelled begun cancels answered silent returned =>
      have cancelled : result.cancelled = true := congrArg DriftScanFields.cancelled returned
      rw [uncancelled] at cancelled
      cases cancelled
  | completed completes evaluated silent recorded ordered returned =>
      exact ⟨_, _, _, _, completes, evaluated, returned⟩

/-- Drift is only ever reported by a detection. -/
theorem detected_of_drifted
    {device : Device} {report : DriftReport} (evaluated : Evaluated setting device report)
    (drifted : report.status = .drifted) :
    ∃ desired collected timestamp, setting.fetched device.id = .returned desired ∧
      setting.collected device.id = .returned collected ∧
      detectDrift setting.text timestamp desired collected = .ok report := by
  obtain ⟨time, rfl⟩ := evaluated
  rw [evaluation] at drifted ⊢
  rcases fetched : setting.fetched device.id with desired | failure
  · rcases collects : setting.collected device.id with collected | failure
    · rcases detects : setting.detection device.id desired collected with report | failure
      · simp only [fetched, collects, detects] at drifted ⊢
        refine ⟨desired, collected, ?_⟩
        rw [Setting.detection] at detects
        split at detects
        · cases detects
        · rename_i timestamp _
          split at detects
          · rename_i detected
            cases detects
            exact ⟨timestamp, rfl, rfl, detected⟩
          · cases detects
      · simp only [fetched, collects, detects] at drifted
        cases drifted
    · simp only [fetched, collects] at drifted
      cases drifted
  · simp only [fetched] at drifted
    cases drifted

/-- A report of drift holds the diff of what was collected. -/
theorem diff_of_drifted
    {text : PyText} {timestamp : Int} {desired : DesiredState} {collected : CollectResult}
    {report : DriftReport} (detected : detectDrift text timestamp desired collected = .ok report)
    (drifted : report.status = .drifted) :
    collected.success = true ∧ ∃ actual, normalizeSrlinuxState text collected.data = .ok actual ∧
      report.items = diffDesiredVsActual desired actual := by
  by_cases success : collected.success = true
  · rcases normalized : normalizeSrlinuxState text collected.data with error | actual
    · rw [detectDrift, if_pos success, normalized] at detected
      cases detected
    · have same : desired.device.id = collected.deviceId := by
        by_contra foreign
        rw [detectDrift, if_pos success, normalized, ok_bind, structuralDrift,
          if_pos foreign] at detected
        cases detected
      obtain ⟨other, again, -, -, items⟩ := detectDrift_of_normalized same success normalized
      cases detected.symm.trans again
      exact ⟨success, actual, rfl, items⟩
  · have failed : collected.success = false := by simpa using success
    rw [detectDrift, if_neg success, structuralDrift, if_pos failed] at detected
    split_ifs at detected
    rw [(build_report_eq_ok detected).2.1] at drifted
    cases drifted

end Snapl.Orchestrator.ScanDrift

namespace Snapl.Orchestrator.DriftResponse

open Snapl.Library Snapl.Intent Snapl.Observability

variable {setting : Setting} {request : DriftResponseRequest} {scan : DriftScanResult}

theorem commands_of_appended
    {before after : Journal Command} {events : List EventBody} {ending : Except Raised Unit}
    (appended : Appended setting before events ending after) :
    after.commands = before.commands := by
  rcases appended with ⟨-, grew⟩ | ⟨_, _, _, -, -, grew⟩
  · rw [grew.commands, List.append_nil]
  · rw [grew.commands, List.append_nil]

/-- Once its reconcile is done, a run starts nothing more. -/
theorem keeps_commands_conclude
    (started : List Command) (reconciled : Option ReconcileResult) (startedAt : Int) :
    Program.Keeps (fun journal => journal.commands = started)
      (conclude setting request scan (remediated request scan) (excluded request scan) reconciled
        startedAt) := by
  refine Program.Keeps.bind (fun _ holds => holds) fun endedAt => ?_
  refine Program.Keeps.bind (Program.Keeps.ofExcept _) fun result => ?_
  refine Program.Keeps.bind ?_ fun _ => Program.Keeps.pure _
  exact keeps_record_commands (fun commands => commands = started) _ _ _

/-- A run that is begun and selects devices starts the scan and one reconcile of them. -/
theorem commands_of_selected
    (begun : setting.appendEnding .started = .ok ())
    (returned : setting.scanned = .returned scan) (uncancelled : scan.cancelled = false)
    (nonempty : remediated request scan ≠ []) :
    ((run setting request).final Journal.blank).commands =
      [.scanDrift (scanId setting) request.useCaseId, dispatch setting request scan] := by
  suffices meets : Program.Meets (run setting request) Journal.blank fun _ after =>
      after.commands =
        [.scanDrift (scanId setting) request.useCaseId, dispatch setting request scan] from meets
  refine Program.Meets.bind now_meets ?_ (by rintro raised after ⟨read, -⟩; cases read)
  rintro startedAt first ⟨-, grewFirst, -⟩
  refine Program.Meets.bind (record_meets workflowType Await.started startedEvent_valid) ?_ ?_
  · rintro _ opened ⟨-, grewOpened⟩
    refine Program.Meets.attempt (executeChildWorkflow_meets _ _) ?_ ?_
    · rintro given scanned ⟨ended, grewScanned⟩
      rw [returned] at ended
      cases ended
      rw [if_neg (by simp [uncancelled])]
      have scanning : scanned.commands = [.scanDrift (scanId setting) request.useCaseId] :=
        ((grewFirst.trans grewOpened).trans grewScanned).commands
      have answered : ∀ {done : Journal Command},
          scanned.Grew done [] (dispatches setting request scan) → done.commands =
            [.scanDrift (scanId setting) request.useCaseId, dispatch setting request scan] := by
        intro done grew
        rw [grew.commands, scanning, dispatches, if_neg nonempty]
        rfl
      refine Program.Meets.bind reconcile_meets ?_ ?_
      · rintro ⟨reconciled, failure⟩ done ⟨grew, -⟩
        refine Program.Meets.bind (recordDecisions_meets reconciled) ?_ ?_
        · rintro _ recorded ⟨payloads, -, appended⟩
          have commands := (commands_of_appended appended).trans (answered grew)
          rcases failure with _ | incomplete
          · exact keeps_commands_conclude _ reconciled startedAt recorded commands
          · refine Program.Keeps.bind ?_ (fun _ => Program.Keeps.raise _) recorded commands
            exact keeps_record_commands (fun commands => commands =
              [.scanDrift (scanId setting) request.useCaseId, dispatch setting request scan]) _ _ _
        · rintro raised recorded ⟨payloads, -, appended⟩
          exact (commands_of_appended appended).trans (answered grew)
      · rintro raised done ⟨grew, -⟩
        exact answered grew
    · rintro raised scanned ⟨ended, -⟩
      rw [returned] at ended
      cases ended
  · rintro raised opened ⟨answer, -⟩
    cases answer.trans begun

end Snapl.Orchestrator.DriftResponse

namespace Snapl.Contract

open Snapl.Library Snapl.Library.KeyedTree Snapl.Intent Snapl.Executor
open Snapl.Observability Snapl.Orchestrator

/-- The adapter can read every address of the configuration. -/
def Readable (config : Json) : Prop :=
  ∀ entry ∈ interfacesOf config, ∃ address, readPrefixes (interfacePrefixes entry) = .ok address

/-- The drift a repair is for: a configuration that can be read and does not show the intent. -/
def Deviates (config : Json) (desired : DesiredState) : Prop :=
  Readable config ∧ ¬ Shows config desired

section Deviating

variable {text : PyText} {desired : DesiredState} {config : DeviceConfig}
variable {data actual : Dict String Json}

theorem deviates_iff
    (reports : Reports data config.tree)
    (normalized : normalizeSrlinuxState text data = .ok actual) :
    Deviates config.tree desired ↔
      ∃ item ∈ diffDesiredVsActual desired actual, item.undesired = false := by
  have readable : Readable config.tree :=
    (normalize_succeeds_iff text config.conforming reports).1 ⟨actual, normalized⟩
  rw [Deviates, and_iff_right readable, ← undesired_iff_shows reports normalized]
  simp

/-- A settled report is one of a configuration that can be read and shows the intent. -/
theorem settled_iff (reports : Reports data config.tree) :
    Settled text desired data ↔ Readable config.tree ∧ Shows config.tree desired := by
  constructor
  · rintro ⟨actual, normalized, undesired⟩
    exact ⟨(normalize_succeeds_iff text config.conforming reports).1 ⟨actual, normalized⟩,
      (undesired_iff_shows reports normalized).1 undesired⟩
  · rintro ⟨readable, shows⟩
    obtain ⟨actual, normalized⟩ :=
      (normalize_succeeds_iff text config.conforming reports).2 readable
    exact ⟨actual, normalized, (undesired_iff_shows reports normalized).2 shows⟩

end Deviating

end Snapl.Contract

namespace Snapl.Orchestrator.Occurrence

open Snapl.Library Snapl.Library.KeyedTree Snapl.Intent Snapl.Executor
open Snapl.Observability Snapl.Contract

/--
What an occurrence finds out about a device is true: its scan child returns
what the scan returned, the store answers with this intent, and a successful
collection reports this configuration.
-/
structure Finds
    (occurrence : Occurrence) (text : PyText) (deviceId : UUID) (desired : DesiredState)
    (config : Json) : Prop where
  text : occurrence.scan.text = text
  scanned : ∀ scan, occurrence.setting.scanned = .returned scan →
    (ScanDrift.run occurrence.scan occurrence.request.useCaseId).ending Journal.blank = .ok scan
  fetched : ∀ state, occurrence.scan.fetched deviceId = .returned state → state = desired
  deployed : ∀ state, (occurrence.deploy deviceId).fetched = .returned state → state = desired
  collected : ∀ collected, occurrence.scan.collected deviceId = .returned collected →
    collected.success = true → Reports collected.data config

/-- Nothing disturbs a repair run on its way from the scan to the apply on a device. -/
structure Reaches
    (occurrence : Occurrence) (deviceId : UUID) (desired : DesiredState) : Prop where
  remediates : occurrence.request.mode = .remediate
  begun : occurrence.setting.appendEnding .started = .ok ()
  scanned : ∃ scan, occurrence.setting.scanned = .returned scan ∧ scan.cancelled = false
  covered : ∃ devices, occurrence.scan.answer .fetchDevices occurrence.scan.devices =
    .ok devices ∧ ∃ device ∈ devices, device.id = deviceId
  fetched : occurrence.scan.fetched deviceId = .returned desired
  collected : ∃ collected, occurrence.scan.collected deviceId = .returned collected ∧
    collected.success = true ∧ collected.deviceId = deviceId
  detected : ∃ timestamp, occurrence.scan.detected deviceId = .ran timestamp
  reconciled : occurrence.reconcile.appendEnding .started = .ok ()
  applied : DeployIntent.Reaches (occurrence.deploy deviceId) .apply

section Deciding

variable {occurrence : Occurrence} {text : PyText} {deviceId : UUID} {desired : DesiredState}
variable {config : DeviceConfig}
variable (finds : occurrence.Finds text deviceId desired config.tree)

include finds

/-- Whatever disturbs an occurrence, it writes to no device but one that deviates. -/
theorem Finds.deviates_of_mem_writes (written : deviceId ∈ occurrence.writes) :
    Deviates config.tree desired := by
  obtain ⟨scan, report, returned, uncancelled, found, drifted, item, member, forward⟩ :=
    (justifies_of_mem_writes written).selected
  obtain ⟨devices, reports, startedAt, endedAt, completes, evaluated, fields⟩ :=
    ScanDrift.completed_of_returned (finds.scanned scan returned) uncancelled
  rw [Dict.get?_eq_some_iff, ScanDrift.entries_of_returned evaluated
    (ScanDrift.nodup_devices completes.fetched) fields] at found
  obtain ⟨other, present, equal⟩ := List.mem_map.1 found
  obtain ⟨own, rfl⟩ := Prod.mk.inj equal
  obtain ⟨device, -, evaluation⟩ := exists_mem_of_forall₂ evaluated.flip present
  have keyed : device.id = deviceId := by
    obtain ⟨time, rfl⟩ := evaluation
    rw [← own, ScanDrift.deviceId_evaluation]
  obtain ⟨state, collected, timestamp, fetched, collects, detected⟩ :=
    ScanDrift.detected_of_drifted evaluation drifted
  rw [keyed] at fetched collects
  rw [finds.text, finds.fetched state fetched] at detected
  obtain ⟨success, actual, normalized, items⟩ := ScanDrift.diff_of_drifted detected drifted
  rw [deviates_iff (finds.collected collected collects success) normalized, ← items]
  exact ⟨item, member, forward⟩

/-- A run that reaches a device that deviates selects it. -/
theorem Finds.remediated_of_deviates
    (reaches : occurrence.Reaches deviceId desired) (deviates : Deviates config.tree desired) :
    ∃ scan, occurrence.setting.scanned = .returned scan ∧ scan.cancelled = false ∧
      deviceId ∈ DriftResponse.remediated occurrence.request scan := by
  obtain ⟨scan, returned, uncancelled⟩ := reaches.scanned
  obtain ⟨devices, fetches, device, member, rfl⟩ := reaches.covered
  obtain ⟨collected, collects, success, own⟩ := reaches.collected
  obtain ⟨timestamp, ran⟩ := reaches.detected
  have reports := finds.collected collected collects success
  obtain ⟨actual, normalized⟩ :=
    (normalize_succeeds_iff text config.conforming reports).2 deviates.1
  obtain ⟨item, inDiff, forward⟩ := (deviates_iff reports normalized).1 deviates
  have same : desired.device.id = collected.deviceId := by
    rw [own, occurrence.scan.ownState reaches.fetched]
  obtain ⟨report, detected, -, status, items⟩ :=
    @detectDrift_of_normalized text timestamp desired collected actual same success normalized
  obtain ⟨others, given, startedAt, endedAt, completes, evaluated, fields⟩ :=
    ScanDrift.completed_of_returned (finds.scanned scan returned) uncancelled
  cases completes.fetched.symm.trans fetches
  obtain ⟨other, -, found, -, time, equal⟩ := ScanDrift.get?_of_returned evaluated
    (ScanDrift.nodup_devices completes.fetched) fields member
  have detection : occurrence.scan.detection device.id desired collected = .returned report := by
    rw [ScanDrift.Setting.detection, ran, finds.text]
    simp only [detected]
  have reported : other = report := by
    rw [equal, ScanDrift.evaluation]
    simp only [reaches.fetched, collects, detection]
  subst reported
  refine ⟨scan, returned, uncancelled, ?_⟩
  rw [DriftResponse.remediated, DriftResponse.selection_of_remediate reaches.remediates,
    mem_remediated_iff]
  refine ⟨other, found, (hasForwardDrift_iff other).2 ⟨?_, item, ?_, forward⟩⟩
  · rw [status, if_neg (List.ne_nil_of_mem inDiff)]
  · rw [items]
    exact inDiff

/-- A run that reaches a device writes to it exactly if it deviates. -/
theorem Finds.mem_writes_iff (reaches : occurrence.Reaches deviceId desired) :
    deviceId ∈ occurrence.writes ↔ Deviates config.tree desired := by
  refine ⟨finds.deviates_of_mem_writes, fun deviates => ?_⟩
  obtain ⟨scan, returned, uncancelled, selected⟩ :=
    finds.remediated_of_deviates reaches deviates
  have nonempty := List.ne_nil_of_mem selected
  rw [writes, DriftResponse.commands_of_selected reaches.begun returned uncancelled nonempty,
    List.flatMap_cons, List.flatMap_cons]
  refine List.mem_append_right _ (List.mem_append_left _ ?_)
  obtain ⟨-, commands⟩ := ReconcileDevices.run_reconciled occurrence.reconcile nonempty
  have deploys : ((ReconcileDevices.run occurrence.reconcile
      (DriftResponse.remediated occurrence.request scan)).final Journal.blank).commands =
        ReconcileDevices.deploys (DriftResponse.remediated occurrence.request scan) := by
    rcases commands with ⟨unbegun, -⟩ | deploys
    · exact absurd reaches.reconciled unbegun
    · exact deploys
  obtain ⟨state, fetched, commands⟩ :=
    @DeployIntent.commands_of_reached _ deviceId reaches.applied
  have own := occurrence.ownState fetched
  change deviceId ∈ occurrence.reconcileWrites _
  rw [reconcileWrites, deploys]
  refine List.mem_flatMap.2 ⟨.deployIntent (ReconcileDevices.deployIntentId deviceId) deviceId,
    List.mem_map.2 ⟨deviceId, (ReconcileDevices.mem_dedupe _ _).2 selected, rfl⟩, ?_⟩
  exact List.mem_filterMap.2 ⟨.applyConfig state, commands.mem (by simp), by
    rw [DeployIntent.Command.applied?, own]⟩

end Deciding

end Snapl.Orchestrator.Occurrence
