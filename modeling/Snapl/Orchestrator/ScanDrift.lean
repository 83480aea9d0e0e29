import Snapl.Library.Interleaving
import Snapl.Orchestrator.Activities

/-!
# ScanDrift

The read-only drift evaluation of a use case.  Every device is evaluated by a
coroutine of its own; the gather of all of them ends when the last one has
returned its report, when one of them raises, or when a cancellation reaches
it while one of them is pending.

The order in which the activities of the coroutines complete is a schedule.
After the schedule the remaining activities complete device by device, so that
every order of completion is the run of some schedule.
-/

namespace Snapl.Orchestrator

open Snapl.Library Snapl.Intent Snapl.Observability

/-- A guard that handles cancellations and raises everything else again. -/
def exceptCancelled
    {Command Result : Type} (cancelled : Workflow Command Result) :
    Raised → Workflow Command Result
  | .cancelled => cancelled
  | raised => Program.raise raised

namespace ScanDrift

/-- The awaits of the workflow itself. -/
inductive Await where
  | started
  | fetchDevices
  | gather
  | cancelled
  | terminated
deriving DecidableEq

inductive Command where
  | fetchDevicesForUseCase (useCaseId : String)
  | fetchDesiredState (deviceId : UUID)
  | collectDriftState (device : Device)
  | detectDrift (desired : DesiredState) (collected : CollectResult)

/-- A detection runs at some time, or its activity fails. -/
inductive Detection where
  | ran (timestamp : Int)
  | failed (failure : ActivityFailure)

/-- What a scan finds around it.  The store answers for the device it is asked for. -/
structure Setting extends Surroundings Await where
  text : PyText
  states : ActivityOutcome (List DesiredState)
  fetched : UUID → ActivityOutcome DesiredState
  ownState : ∀ {deviceId : UUID} {desired : DesiredState},
    fetched deviceId = .returned desired → desired.device.id = deviceId
  collected : UUID → ActivityOutcome CollectResult
  detected : UUID → Detection
  activityFailure : PyError → ActivityFailure
  deviceAppended : UUID → AppendOutcome
  schedule : List Nat
  inFlightLands : UUID → Bool

/-- The outcome of an activity that a setting does not reach. -/
def notReached : ActivityFailure := ⟨none, "not reached"⟩

/-- A store that is not reached returns no state of another device. -/
theorem ownState_of_notReached
    {deviceId : UUID} {desired : DesiredState}
    (fetched : (ActivityOutcome.failed notReached : ActivityOutcome DesiredState) =
      .returned desired) :
    desired.device.id = deviceId := by
  cases fetched

def workflowType : String := "ScanDrift"

/-- The devices of the use case, each once. -/
def Setting.devices (setting : Setting) : ActivityOutcome (List Device) :=
  match setting.states with
  | .returned states => .returned (fetchDevicesForUseCase states)
  | .failed failure => .failed failure

/-- The outcome of the detection for a device. -/
def Setting.detection
    (setting : Setting) (deviceId : UUID) (desired : DesiredState)
    (collected : CollectResult) : ActivityOutcome DriftReport :=
  match setting.detected deviceId with
  | .failed failure => .failed failure
  | .ran timestamp =>
      match detectDrift setting.text timestamp desired collected with
      | .ok report => .returned report
      | .error error => .failed (setting.activityFailure error)

/-- Where the evaluation of a device stands. -/
inductive Stage where
  | fetching
  | collecting (desired : DesiredState)
  | detecting (desired : DesiredState) (collected : CollectResult)
  | recording (report : DriftReport) (event : AuditEvent)
  | finished (report : DriftReport)
  | raised (raised : Raised)

structure Evaluation where
  device : Device
  stage : Stage

/-- The event of a report, about the device itself. -/
def deviceEvent (report : DriftReport) : EventBody :=
  { targetId := some (.device report.deviceId),
    eventType := if report.status = .error then .activityFailed else .activityCompleted,
    activityName := some "detect_drift",
    outcome := some (if report.status = .error then "failure" else "success"),
    payload := [("status", .str report.status.value),
        ("drift_items", .int report.items.length)] ++
      (if report.items = [] then []
        else [("paths", .arr (report.items.map fun item => .str item.path))]) ++
      match filled? report.error with
      | some error => [("error", .str error)]
      | none => [] }

section Device

variable (setting : Setting)

/-- Record the result of a device. -/
def auditDevice (report : DriftReport) : Workflow Command Stage := do
  let event ← newEvent setting.toSurroundings workflowType (deviceEvent report)
  return .recording report event

/-- A device that could not be evaluated is reported as an error. -/
def evaluationFailed (device : Device) (error : String) : Workflow Command Stage := do
  let timestamp ← now setting.toSurroundings
  let report ← validated
    (DriftReport.build device.id device.name .error [] (some error) timestamp)
  auditDevice setting report

/-- Go on after the pending activity of a device. -/
def evaluate (device : Device) : Stage → Workflow Command Stage
  | .fetching =>
      match setting.fetched device.id with
      | .returned desired => do
          start (.collectDriftState device)
          return .collecting desired
      | .failed failure =>
          evaluationFailed setting device ("intent fetch failed: " ++ failure.text)
  | .collecting desired =>
      match setting.collected device.id with
      | .returned collected => do
          start (.detectDrift desired collected)
          return .detecting desired collected
      | .failed failure =>
          evaluationFailed setting device ("collect failed: " ++ failure.text)
  | .detecting desired collected =>
      match setting.detection device.id desired collected with
      | .returned report => auditDevice setting report
      | .failed failure =>
          evaluationFailed setting device ("detect_drift failed: " ++ failure.text)
  | .recording report event => do
      recordAuditEvent (setting.deviceAppended device.id).lands
        (setting.deviceAppended device.id).ending event
      return .finished report
  | stage => return stage

/-- The stage a program ends in. -/
def Stage.ofEnding : Except Raised Stage → Stage
  | .ok stage => stage
  | .error failure => .raised failure

/-- The coroutines of the devices. -/
def evaluations : Coroutines (Journal Command) Evaluation Raised DriftReport where
  status evaluation :=
    match evaluation.stage with
    | .finished report => .returned report
    | .raised failure => .raised failure
    | _ => .waiting
  resume journal evaluation :=
    ((evaluate setting evaluation.device evaluation.stage).final journal,
      { evaluation with
        stage := Stage.ofEnding
          ((evaluate setting evaluation.device evaluation.stage).ending journal) })

end Device

section Gather

variable (setting : Setting)

/-- Every coroutine runs up to its first activity. -/
def begin (devices : List Device) (journal : Journal Command) :
    Journal Command × List Evaluation :=
  ({ journal with commands := journal.commands ++
      (devices.map fun device => Command.fetchDesiredState device.id) },
    devices.map fun device => ⟨device, .fetching⟩)

/-- The event whose append is in flight, if it lands. -/
def Evaluation.inFlight? (evaluation : Evaluation) : Option AuditEvent :=
  match evaluation.stage with
  | .recording _ event =>
      if setting.inFlightLands evaluation.device.id then some event else none
  | _ => none

/-- The journal once the appends in flight have landed or not. -/
def abandon (state : Journal Command × List Evaluation) : Journal Command :=
  { state.1 with events := state.1.events ++
      state.2.filterMap (Evaluation.inFlight? setting) }

/-- How many times a coroutine can be resumed. -/
def resumptions : Nat := 4

/-- Let the scheduled completions happen. -/
def scheduled (state : Journal Command × List Evaluation) :
    Journal Command × List Evaluation :=
  (evaluations setting).interleave state setting.schedule

/-- Let the remaining completions happen. -/
def drained (state : Journal Command × List Evaluation) :
    Journal Command × List Evaluation :=
  (evaluations setting).interleave state
    (Coroutines.rounds state.2.length resumptions)

/--
Evaluate all devices in parallel.  A cancellation reaches the gather only while
it is pending.
-/
def gather (devices : List Device) : Workflow Command (List DriftReport) :=
  fun journal =>
    let state := scheduled setting (begin devices journal)
    if setting.cancelAt = some .gather ∧ (evaluations setting).Pending state.2 then
      (.error .cancelled, abandon setting state)
    else
      let ended := drained setting state
      match (evaluations setting).gathered ended.2 with
      | .ok reports => (.ok reports, ended.1)
      | .error raised => (.error raised, abandon setting ended)

end Gather

section Run

variable (setting : Setting) (useCaseId : String)

def audit (await : Await) (body : EventBody) : Workflow Command Unit :=
  record setting.toSurroundings workflowType await body

def startedEvent : EventBody :=
  { targetId := some (.useCase useCaseId), eventType := .workflowStarted }

def cancelledEvent : EventBody :=
  { targetId := some (.useCase useCaseId), eventType := .workflowCancelled,
    outcome := some "cancelled" }

/-- The number of reports with a status. -/
def statusCount (status : DriftStatus) (reports : List DriftReport) : Nat :=
  reports.countP fun report => report.status = status

def terminatedEvent (reports : List DriftReport) : EventBody :=
  { targetId := some (.useCase useCaseId), eventType := .workflowTerminated,
    outcome := some "success", reason := some .succeeded,
    payload := [("total", .int reports.length),
      ("clean", .int (statusCount .clean reports)),
      ("drifted", .int (statusCount .drifted reports)),
      ("errored", .int (statusCount .error reports))] }

/-- The result of the reports of all devices. -/
def scanFields
    (reports : List DriftReport) (startedAt endedAt : Int) : DriftScanFields where
  workflowId := setting.workflowId
  useCaseId := useCaseId
  reports := Dict.ofPairs (reports.map fun report => (report.deviceId, report))
  total := reports.length
  clean := statusCount .clean reports
  drifted := statusCount .drifted reports
  errored := statusCount .error reports
  startedAt := startedAt
  endedAt := endedAt
  cancelled := false

/-- The result of a cancelled scan, with the reports it has. -/
def cancelledFields
    (partialReports : Dict UUID DriftReport) (startedAt endedAt : Int) :
    DriftScanFields where
  workflowId := setting.workflowId
  useCaseId := useCaseId
  reports := partialReports
  total := partialReports.size
  clean := 0
  drifted := 0
  errored := partialReports.size
  startedAt := startedAt
  endedAt := endedAt
  cancelled := true

/-- Record the cancellation, then return what there is. -/
def cancel (startedAt : Int) (partialReports : Dict UUID DriftReport) :
    Workflow Command DriftScanResult := do
  audit setting .cancelled (cancelledEvent useCaseId)
  let endedAt ← now setting.toSurroundings
  validated (DriftScanResult.build
    (cancelledFields setting useCaseId partialReports startedAt endedAt))

/-- Count, record and return the reports of all devices. -/
def conclude (startedAt : Int) (reports : List DriftReport) :
    Workflow Command DriftScanResult := do
  audit setting .terminated (terminatedEvent useCaseId reports)
  let endedAt ← now setting.toSurroundings
  validated (DriftScanResult.build (scanFields setting useCaseId reports startedAt endedAt))

/-- Fetch the devices, then evaluate them. -/
def scanDevices (startedAt : Int) : Workflow Command DriftScanResult :=
  Program.attempt
    (executeActivity setting.toSurroundings .fetchDevices
      (.fetchDevicesForUseCase useCaseId) setting.devices)
    (exceptCancelled (cancel setting useCaseId startedAt Dict.empty))
    fun devices =>
      Program.attempt (gather setting devices)
        (exceptCancelled (cancel setting useCaseId startedAt Dict.empty))
        (conclude setting useCaseId startedAt)

/-- The run of a scan. -/
def run : Workflow Command DriftScanResult := do
  let startedAt ← now setting.toSurroundings
  audit setting .started (startedEvent useCaseId)
  scanDevices setting useCaseId startedAt

end Run

end ScanDrift

end Snapl.Orchestrator
