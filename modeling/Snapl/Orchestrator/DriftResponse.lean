import Snapl.Orchestrator.Remediation
import Snapl.Orchestrator.Temporal

/-!
# DriftResponse

One scheduled run: scan a use case as a child, then apply the response of the
schedule.  A report run writes nothing; a remediate run reconciles the devices
with forward drift as a second child.  Every decision is recorded, even when
that child does not complete.
-/

namespace Snapl.Orchestrator.DriftResponse

open Snapl.Library Snapl.Intent Snapl.Observability

/-- The audit points of a scheduled run. -/
inductive Await where
  | started
  | scanEnded
  | scanCancelled
  | deviceRecord (deviceId : UUID)
  | useCaseRecord
  | reconcileEnded
  | terminated
deriving DecidableEq

/-- What becomes of a child when its parent is closed. -/
inductive ParentClosePolicy where
  | abandon
  | terminate
deriving DecidableEq

/-- The children a scheduled run starts, with their identifiers. -/
inductive Command where
  | scanDrift (workflowId useCaseId : String)
  | reconcileDevices
      (workflowId : String) (policy : ParentClosePolicy) (deviceIds : List UUID)
deriving DecidableEq

/-- What a scheduled run finds around it.  Its own cancellation reaches it through a child. -/
structure Setting extends Surroundings Await where
  scanned : ChildOutcome DriftScanResult
  reconciled : ChildOutcome ReconcileResult
  patched : Bool

def workflowType : String := "DriftResponse"

/-- How a child ended that gave no result. -/
inductive Incomplete where
  | failed (failure : ChildFailure)
  | cancelled
deriving DecidableEq

def Incomplete.raised : Incomplete → Raised
  | .failed failure => .childWorkflowError failure
  | .cancelled => .cancelled

/-- A guard of a child: cancellations and child errors are handled. -/
def exceptChildWorkflowError
    {Result : Type} (handler : Incomplete → Workflow Command Result) :
    Raised → Workflow Command Result
  | .cancelled => handler .cancelled
  | .childWorkflowError failure => handler (.failed failure)
  | raised => Program.raise raised

section Records

variable (request : DriftResponseRequest)

/-- Unattended actions are told apart from human ones. -/
def actor : String := "schedule:" ++ request.scheduleId

def startedEvent : EventBody :=
  { targetId := some (.useCase request.useCaseId), eventType := .workflowStarted,
    payload := [("mode", .str request.mode.value)], actor := some (actor request) }

/-- The last record of a run when a child it waited on did not complete. -/
def endEvent (reason : WorkflowReason) : Incomplete → EventBody
  | .cancelled =>
      { targetId := some (.useCase request.useCaseId), eventType := .workflowCancelled,
        outcome := some "cancelled", actor := some (actor request) }
  | .failed failure =>
      { targetId := some (.useCase request.useCaseId), eventType := .workflowTerminated,
        outcome := some "failure", reason := some reason,
        payload := [("error", .str failure.message)], actor := some (actor request) }

def scanCancelledError (scan : DriftScanResult) : String :=
  "scan " ++ scan.workflowId ++ " was cancelled; nothing was evaluated"

def scanCancelledEvent (scan : DriftScanResult) : EventBody :=
  { targetId := some (.useCase request.useCaseId), eventType := .workflowTerminated,
    outcome := some "failure", reason := some .cancelled,
    payload := [("error", .str (scanCancelledError scan))],
    actor := some (actor request) }

def terminatedEvent : EventBody :=
  { targetId := some (.useCase request.useCaseId), eventType := .workflowTerminated,
    outcome := some "success", reason := some .succeeded,
    actor := some (actor request) }

/-- A decision about a device or about the whole use case. -/
def responseEvent (target : Target) (payload : List (String × Json)) : EventBody :=
  { targetId := some target, eventType := .driftResponse, payload := payload,
    actor := some (actor request) }

end Records

def optionalText : Option String → Json
  | some text => .str text
  | none => .null

/-- How many devices are excluded for each reason. -/
def excludedCounts (excluded : Dict UUID ExclusionReason) : Dict String Nat :=
  excluded.values.foldl
    (fun counts reason => counts.set reason.value ((counts.get? reason.value).getD 0 + 1))
    Dict.empty

def useCasePayload
    (mode : DriftResponseMode) (scan : DriftScanResult) (remediated : List UUID)
    (excluded : Dict UUID ExclusionReason) (reconcileWorkflowId : Option String) :
    List (String × Json) :=
  [("mode", .str mode.value),
    ("scan_workflow_id", .str scan.workflowId),
    ("clean", .int scan.clean),
    ("drifted", .int scan.drifted),
    ("errored", .int scan.errored),
    ("remediated", .int remediated.length),
    ("excluded", .obj ((excludedCounts excluded).entries.map fun entry =>
      (entry.1, .int entry.2))),
    ("reconcile_workflow_id", optionalText reconcileWorkflowId)]

/-- What became of the repair of a device. -/
def remediationResult (reconcile : Option ReconcileResult) (deviceId : UUID) : String :=
  match reconcile with
  | none => "unknown"
  | some result =>
      match result.deviceResults.get? deviceId with
      | none => "skipped"
      | some outcome => if outcome.success then "succeeded" else "failed"

/-- `scan.reports[device_id]`. -/
def reportOf (scan : DriftScanResult) (deviceId : UUID) : Except PyError DriftReport :=
  match scan.reports.get? deviceId with
  | some report => .ok report
  | none => .error .keyError

def paths (report : DriftReport) : Json :=
  .arr (report.items.map fun item => .str item.path)

def remediatedPayload
    (scan : DriftScanResult) (reconcile : Option ReconcileResult)
    (reconcileWorkflowId : Option String) (deviceId : UUID) (report : DriftReport) :
    List (String × Json) :=
  [("decision", .str "remediated"),
    ("scan_workflow_id", .str scan.workflowId),
    ("reconcile_workflow_id", optionalText reconcileWorkflowId),
    ("result", .str (remediationResult reconcile deviceId)),
    ("paths", paths report)]

def excludedPayload
    (scan : DriftScanResult) (reason : ExclusionReason) (report : DriftReport) :
    List (String × Json) :=
  [("decision", .str reason.value),
    ("scan_workflow_id", .str scan.workflowId),
    ("paths", paths report)] ++
    match filled? report.error with
    | some error => [("error", .str error)]
    | none => []

/-- One record for each repaired or excluded device. -/
def devicePayloads
    (scan : DriftScanResult) (remediated : List UUID)
    (excluded : Dict UUID ExclusionReason) (reconcile : Option ReconcileResult)
    (reconcileWorkflowId : Option String) :
    Except PyError (List (UUID × List (String × Json))) := do
  let repaired ← remediated.mapM fun deviceId => do
    let report ← reportOf scan deviceId
    return (deviceId, remediatedPayload scan reconcile reconcileWorkflowId deviceId report)
  let leftAlone ← excluded.entries.mapM fun entry => do
    let report ← reportOf scan entry.1
    return (entry.1, excludedPayload scan entry.2 report)
  return repaired ++ leftAlone

section Run

variable (setting : Setting) (request : DriftResponseRequest)

def audit (await : Await) (body : EventBody) : Workflow Command Unit :=
  record setting.toSurroundings workflowType await body

def scanId : String := setting.workflowId ++ "-scan"

def reconcileId : String := setting.workflowId ++ "-reconcile"

/-- The devices to reconcile and those left alone, by the mode of the run. -/
def selection (scan : DriftScanResult) : List UUID × Dict UUID ExclusionReason :=
  match request.mode with
  | .remediate => selectRemediation scan
  | .report => ([], Dict.empty)

/-- The workflow id the records name, if a reconcile was started. -/
def reconcileWorkflowId? (remediated : List UUID) : Option String :=
  if remediated = [] then none else some (reconcileId setting)

def closePolicy : ParentClosePolicy :=
  if setting.patched then .abandon else .terminate

/-- Reconcile the selected devices; a child that does not complete is kept for later. -/
def reconcile (remediated : List UUID) :
    Workflow Command (Option ReconcileResult × Option Incomplete) :=
  if remediated = [] then return (none, none)
  else
    Program.attempt
      (executeChildWorkflow
        (.reconcileDevices (reconcileId setting) (closePolicy setting) remediated)
        setting.reconciled)
      (exceptChildWorkflowError fun incomplete => return (none, some incomplete))
      fun result => return (some result, none)

/-- Record every decision: the devices first, then the use case. -/
def recordDecisions
    (scan : DriftScanResult) (remediated : List UUID)
    (excluded : Dict UUID ExclusionReason) (reconciled : Option ReconcileResult) :
    Workflow Command Unit := do
  let payloads ← validated (devicePayloads scan remediated excluded reconciled
    (reconcileWorkflowId? setting remediated))
  Program.forEach
    (fun entry => audit setting (.deviceRecord entry.1)
      (responseEvent request (.device entry.1) entry.2))
    payloads
  audit setting .useCaseRecord
    (responseEvent request (.useCase request.useCaseId)
      (useCasePayload request.mode scan remediated excluded
        (reconcileWorkflowId? setting remediated)))

/-- The result of a run that completed. -/
def resultFields
    (scan : DriftScanResult) (remediated : List UUID)
    (excluded : Dict UUID ExclusionReason) (reconciled : Option ReconcileResult)
    (startedAt endedAt : Int) : DriftResponseFields where
  workflowId := setting.workflowId
  scheduleId := request.scheduleId
  useCaseId := request.useCaseId
  mode := request.mode
  scan := scan
  remediated := remediated
  excluded := excluded
  reconcile := reconciled
  startedAt := startedAt
  endedAt := endedAt

/-- Build the result, record the success and return it. -/
def conclude
    (scan : DriftScanResult) (remediated : List UUID)
    (excluded : Dict UUID ExclusionReason) (reconciled : Option ReconcileResult)
    (startedAt : Int) : Workflow Command DriftResponseResult := do
  let endedAt ← now setting.toSurroundings
  let result ← validated (DriftResponseResult.build
    (resultFields setting request scan remediated excluded reconciled startedAt endedAt))
  audit setting .terminated (terminatedEvent request)
  return result

/-- Act on a completed scan. -/
def respond (startedAt : Int) (scan : DriftScanResult) :
    Workflow Command DriftResponseResult := do
  let (remediated, excluded) := selection request scan
  let (reconciled, failure) ← reconcile setting remediated
  recordDecisions setting request scan remediated excluded reconciled
  match failure with
  | some incomplete => do
      audit setting .reconcileEnded (endEvent request .remediationFailed incomplete)
      Program.raise incomplete.raised
  | none => conclude setting request scan remediated excluded reconciled startedAt

/-- Record a cancelled scan, and fail. -/
def refuse (scan : DriftScanResult) : Workflow Command DriftResponseResult := do
  audit setting .scanCancelled (scanCancelledEvent request scan)
  Program.raise (.applicationError (scanCancelledError scan))

/-- The run of a scheduled response. -/
def run : Workflow Command DriftResponseResult := do
  let startedAt ← now setting.toSurroundings
  audit setting .started (startedEvent request)
  Program.attempt
    (executeChildWorkflow (.scanDrift (scanId setting) request.useCaseId) setting.scanned)
    (exceptChildWorkflowError fun incomplete => do
      audit setting .scanEnded (endEvent request .intentUnavailable incomplete)
      Program.raise incomplete.raised)
    fun scan =>
      if scan.cancelled then refuse setting request scan
      else respond setting request startedAt scan

end Run

end Snapl.Orchestrator.DriftResponse
