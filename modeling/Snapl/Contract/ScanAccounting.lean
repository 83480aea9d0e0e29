import Snapl.Orchestrator.ScanRun

/-!
# Accounting and isolation of a scan

An undisturbed scan has exactly one report for every device of the use case,
counts them by status and records one event for each.  The report of a device
is a function of the device's own outcomes: neither the other devices nor the
order of completion change it, but for the time an error report is stamped
with.
-/

namespace Snapl.Orchestrator.ScanDrift

open Snapl.Library Snapl.Intent Snapl.Observability

/-- No cancellation, no failed append, and these devices in the use case. -/
structure Undisturbed (setting : Setting) (devices : List Device) : Prop where
  uncancelled : setting.cancelAt = none
  succeed : setting.AppendsSucceed
  recorded : ∀ deviceId, setting.deviceAppended deviceId = .done
  fetched : setting.devices = .returned devices

/-- One report and one event for every device, and counts that agree. -/
structure Accounted
    (setting : Setting) (devices : List Device) (result : DriftScanResult)
    (trail : List EventBody) : Prop where
  keyed : result.reports.keys = devices.map Device.id
  own : ∀ device ∈ devices, ∃ report,
    result.reports.get? device.id = some report ∧ report.deviceId = device.id ∧
      Evaluated setting device report
  total : result.total = devices.length
  clean : result.clean = statusCount .clean result.reports.values
  drifted : result.drifted = statusCount .drifted result.reports.values
  errored : result.errored = statusCount .error result.reports.values
  uncancelled : result.cancelled = false
  audited : ∀ device ∈ devices, ∀ report,
    result.reports.get? device.id = some report →
      trail.filter (fun body => body.targetId = some (.device device.id)) =
        [deviceEvent report]

/-- The outcomes of one device are the same in two settings. -/
structure SameOutcomes (setting other : Setting) (deviceId : UUID) : Prop where
  fetched : setting.fetched deviceId = other.fetched deviceId
  collected : setting.collected deviceId = other.collected deviceId
  detection : setting.detection deviceId = other.detection deviceId

/-- What a report says, but for its time. -/
def content (report : DriftReport) :
    UUID × String × DriftStatus × List DriftItem × Option String :=
  (report.deviceId, report.deviceName, report.status, report.items, report.error)

/-- The report a scan returns for a device. -/
def reportOf? (setting : Setting) (useCaseId : String) (deviceId : UUID) :
    Option DriftReport :=
  match (run setting useCaseId).ending Journal.blank with
  | .ok result => result.reports.get? deviceId
  | .error _ => none

/-- All three activities of the device return. -/
def Detects (setting : Setting) (deviceId : UUID) : Prop :=
  ∃ desired collected report, setting.fetched deviceId = .returned desired ∧
    setting.collected deviceId = .returned collected ∧
    setting.detection deviceId desired collected = .returned report

theorem evaluation_of_sameOutcomes
    {setting other : Setting} {device : Device}
    (same : SameOutcomes setting other device.id) (time : Int) :
    evaluation setting device time = evaluation other device time := by
  rw [evaluation, evaluation, same.fetched, same.collected, same.detection]

theorem content_evaluation
    (setting : Setting) (device : Device) (time otherTime : Int) :
    content (evaluation setting device time) =
      content (evaluation setting device otherTime) := by
  rw [evaluation, evaluation]
  rcases setting.fetched device.id with desired | failure
  · rcases setting.collected device.id with collected | failure
    · rcases detects : setting.detection device.id desired collected with report | failure
      · simp only [detects]
      · simp only [detects]
        rfl
    · rfl
  · rfl

theorem evaluation_of_detects
    {setting : Setting} {device : Device} (detects : Detects setting device.id)
    (time otherTime : Int) :
    evaluation setting device time = evaluation setting device otherTime := by
  obtain ⟨desired, collected, report, fetched, collects, returned⟩ := detects
  simp only [evaluation, fetched, collects, returned]

/-- Among the events of distinct reports, one is about the device. -/
theorem filter_deviceEvents
    {reports : List DriftReport} (distinct : (reports.map DriftReport.deviceId).Nodup)
    {report : DriftReport} (member : report ∈ reports) :
    (reports.map deviceEvent).filter
        (fun body => body.targetId = some (.device report.deviceId)) =
      [deviceEvent report] := by
  induction reports with
  | nil => cases member
  | cons first rest induction =>
      rw [List.map_cons, List.nodup_cons] at distinct
      have others : ∀ other ∈ rest, other.deviceId ≠ first.deviceId := by
        intro other present equal
        exact distinct.1 (List.mem_map.2 ⟨other, present, equal⟩)
      rcases List.mem_cons.1 member with rfl | member
      · have none : (rest.map deviceEvent).filter
            (fun body => body.targetId = some (.device report.deviceId)) = [] := by
          rw [List.filter_eq_nil_iff]
          intro body present
          obtain ⟨other, found, rfl⟩ := List.mem_map.1 present
          simpa [deviceEvent] using others other found
        rw [List.map_cons, List.filter_cons, if_pos (by simp [deviceEvent]), none]
      · have different := others report member
        rw [List.map_cons, List.filter_cons,
          if_neg (by simpa [deviceEvent] using different.symm),
          induction distinct.2 member]

section Undisturbed

variable {setting : Setting} {devices : List Device}
variable (undisturbed : Undisturbed setting devices)

include undisturbed

theorem Undisturbed.fetches :
    setting.answer .fetchDevices setting.devices = .ok devices := by
  rw [Surroundings.answer.eq_def, if_neg (by simp [undisturbed.uncancelled]),
    undisturbed.fetched]

theorem Undisturbed.appends (await : Await) :
    setting.appendEnding await = .ok () := by
  rw [Surroundings.appendEnding, if_neg (by simp [undisturbed.uncancelled]),
    undisturbed.succeed await]
  rfl

/-- An undisturbed scan completes. -/
theorem Undisturbed.completed (useCaseId : String) :
    Program.Meets (run setting useCaseId) Journal.blank fun ending after =>
      ∃ (reports : List DriftReport) (result : DriftScanResult)
        (startedAt endedAt : Int) (events : List EventBody),
        ending = .ok result ∧
        List.Forall₂ (Evaluated setting) devices reports ∧
        events.Perm (reports.map deviceEvent) ∧
        result.toDriftScanFields =
          scanFields setting useCaseId reports startedAt endedAt ∧
        after.trail = startedEvent useCaseId :: (events ++
          [terminatedEvent useCaseId reports]) := by
  refine (run_scanned setting useCaseId).mono ?_
  intro ending after scanned
  refine returned_of_completes scanned ?_
  exact {
    started := undisturbed.appends _
    fetched := undisturbed.fetches
    uncancelled := fun pending => by
      cases undisturbed.uncancelled.symm.trans pending.1
    recorded := fun device _ => undisturbed.recorded device.id
    terminated := undisturbed.appends _ }

end Undisturbed

section Results

variable {setting : Setting} {useCaseId : String} {devices : List Device}
variable {reports : List DriftReport} {result : DriftScanResult} {startedAt endedAt : Int}

theorem accounted_of_returned
    (evaluated : List.Forall₂ (Evaluated setting) devices reports)
    (distinct : (devices.map Device.id).Nodup)
    (returned : result.toDriftScanFields =
      scanFields setting useCaseId reports startedAt endedAt)
    {events : List EventBody} (recorded : events.Perm (reports.map deviceEvent)) :
    Accounted setting devices result (startedEvent useCaseId :: (events ++
      [terminatedEvent useCaseId reports])) := by
  have entries := entries_of_returned evaluated distinct returned
  have values := values_of_returned evaluated distinct returned
  constructor
  · rw [Dict.keys, entries, List.map_map, ← map_deviceId evaluated]
    rfl
  · intro device member
    obtain ⟨report, -, found, keyed, own⟩ :=
      get?_of_returned evaluated distinct returned member
    exact ⟨report, found, keyed, own⟩
  · rw [returned, scanFields, evaluated.length_eq]
  · rw [values, returned, scanFields]
  · rw [values, returned, scanFields]
  · rw [values, returned, scanFields]
  · rw [returned, scanFields]
  · intro device member report found
    rw [Dict.get?_eq_some_iff, entries] at found
    obtain ⟨other, present, equal⟩ := List.mem_map.1 found
    obtain ⟨keyed, rfl⟩ := Prod.mk.inj equal
    have own := (recorded.filter
      (fun body => body.targetId = some (.device other.deviceId))).trans
      (List.Perm.of_eq (filter_deviceEvents (by rwa [map_deviceId evaluated]) present))
    rw [← keyed, List.filter_cons, if_neg (by simp [startedEvent]), List.filter_append,
      List.perm_singleton.1 own, List.filter_cons, if_neg (by simp [terminatedEvent])]
    rfl

end Results

/--
An undisturbed scan accounts for every device, and the report of a device is
determined by its own outcomes, but for the time of an error report.
-/
theorem scan_accounted_and_isolated
    (setting : Setting) (useCaseId : String) (devices : List Device)
    (undisturbed : Undisturbed setting devices) :
    (∃ result, (run setting useCaseId).ending Journal.blank = .ok result ∧
      Accounted setting devices result
        ((run setting useCaseId).final Journal.blank).trail) ∧
    ∀ (other : Setting) (otherUseCase : String) (otherDevices : List Device),
      Undisturbed other otherDevices →
      ∀ device ∈ devices, device ∈ otherDevices →
        SameOutcomes setting other device.id →
        (reportOf? setting useCaseId device.id).map content =
            (reportOf? other otherUseCase device.id).map content ∧
        (Detects setting device.id →
          reportOf? setting useCaseId device.id =
            reportOf? other otherUseCase device.id) := by
  have accounted : ∀ (some : Setting) (useCase : String) (found : List Device),
      Undisturbed some found →
      ∃ result, (run some useCase).ending Journal.blank = .ok result ∧
        Accounted some found result ((run some useCase).final Journal.blank).trail := by
    intro some useCase found quiet
    obtain ⟨reports, result, startedAt, endedAt, events, ending, evaluated, recorded,
      returned, trail⟩ := quiet.completed useCase
    refine ⟨result, ending, ?_⟩
    rw [trail]
    exact accounted_of_returned evaluated (nodup_devices quiet.fetches) returned recorded
  have reported : ∀ (some : Setting) (useCase : String) (found : List Device),
      Undisturbed some found → ∀ device ∈ found,
      ∃ time, reportOf? some useCase device.id = .some (evaluation some device time) := by
    intro some useCase found quiet device member
    obtain ⟨result, ending, accounts⟩ := accounted some useCase found quiet
    obtain ⟨report, present, -, time, rfl⟩ := accounts.own device member
    exact ⟨time, by rw [reportOf?, ending]; exact present⟩
  refine ⟨accounted setting useCaseId devices undisturbed, ?_⟩
  intro other otherUseCase otherDevices quiet device member otherMember same
  obtain ⟨time, own⟩ := reported setting useCaseId devices undisturbed device member
  obtain ⟨otherTime, others⟩ := reported other otherUseCase otherDevices quiet device otherMember
  rw [own, others, ← evaluation_of_sameOutcomes same]
  constructor
  · exact congrArg some (content_evaluation setting device time otherTime)
  · intro detects
    rw [evaluation_of_detects detects time otherTime]

def firstDevice : Device := ⟨⟨1⟩, "leaf-01", "172.20.20.11", "dcfabric", none⟩

def secondDevice : Device := ⟨⟨2⟩, "leaf-02", "172.20.20.12", "dcfabric", none⟩

/-- Both fetches fail, and complete in the order of the schedule. -/
def unreachableStore (schedule : List Nat) : Setting where
  toSurroundings := Surroundings.calm "scan-drift-dcfabric" none
  text := PyText.ascii
  states := .returned [⟨firstDevice, [], []⟩, ⟨secondDevice, [], []⟩]
  fetched := fun _ => .failed ⟨none, "Activity task failed"⟩
  ownState := fun fetched => by cases fetched
  collected := fun _ => .failed ⟨none, "not reached"⟩
  detected := fun _ => .failed ⟨none, "not reached"⟩
  activityFailure := fun _ => ⟨none, "Activity task failed"⟩
  deviceAppended := fun _ => .done
  schedule := schedule
  inFlightLands := fun _ => false

theorem undisturbed_unreachableStore (schedule : List Nat) :
    Undisturbed (unreachableStore schedule) [firstDevice, secondDevice] where
  uncancelled := rfl
  succeed := fun _ => rfl
  recorded := fun _ => rfl
  fetched := rfl

theorem unreachableStore_accounted :
    (∃ result, (run (unreachableStore []) "dcfabric").ending Journal.blank = .ok result ∧
      Accounted (unreachableStore []) [firstDevice, secondDevice] result
        ((run (unreachableStore []) "dcfabric").final Journal.blank).trail) ∧
    (reportOf? (unreachableStore []) "dcfabric" firstDevice.id).map content =
      (reportOf? (unreachableStore [1, 0]) "dcfabric" firstDevice.id).map content := by
  have settled := scan_accounted_and_isolated (unreachableStore []) "dcfabric"
    [firstDevice, secondDevice] (undisturbed_unreachableStore [])
  exact ⟨settled.1, (settled.2 (unreachableStore [1, 0]) "dcfabric"
    [firstDevice, secondDevice] (undisturbed_unreachableStore [1, 0]) firstDevice
    (by simp) (by simp) ⟨rfl, rfl, rfl⟩).1⟩

/-- The order of completion shows in the time of an error report. -/
theorem order_of_completion_shows :
    reportOf? (unreachableStore [0, 1]) "dcfabric" firstDevice.id ≠
      reportOf? (unreachableStore [1, 0]) "dcfabric" firstDevice.id := by
  decide +kernel

end Snapl.Orchestrator.ScanDrift
