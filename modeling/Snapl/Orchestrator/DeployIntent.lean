import Snapl.Orchestrator.Activities

/-!
# DeployIntent

The closed-loop deploy of one device: fetch intent, apply it, collect the
state, verify it.  Each stage is a guarded activity followed by an audit
record; every exit records a terminal event and returns a result.
-/

namespace Snapl.Orchestrator

open Snapl.Library Snapl.Intent Snapl.Observability

/-- A guard of an activity: cancellations and activity errors are handled. -/
def exceptActivityError
    {Command Result : Type} (cancelled : Workflow Command Result)
    (failed : ActivityFailure → Workflow Command Result) :
    Raised → Workflow Command Result
  | .cancelled => cancelled
  | .activityError failure => failed failure
  | raised => Program.raise raised

namespace DeployIntent

/-- The activities of a deploy, in order. -/
inductive Stage where
  | fetch
  | apply
  | collect
  | detect
deriving DecidableEq

def Stage.activityName : Stage → String
  | .fetch => "fetch_desired_state"
  | .apply => "apply_config"
  | .collect => "collect_drift_state"
  | .detect => "detect_drift"

/-- The awaits of a deploy: its four audit points and its four activities. -/
inductive Await where
  | started
  | activity (stage : Stage)
  | completed (stage : Stage)
  | terminated
deriving DecidableEq

/-- The activities a deploy starts, with their arguments. -/
inductive Command where
  | fetchDesiredState (deviceId : UUID)
  | applyConfig (desired : DesiredState)
  | collectDriftState (device : Device)
  | detectDrift (desired : DesiredState) (collected : CollectResult)

/-- What a deploy finds around it. -/
structure Setting extends Surroundings Await where
  fetched : ActivityOutcome DesiredState
  applied : ActivityOutcome ApplyResult
  collected : ActivityOutcome CollectResult
  detected : ActivityOutcome DriftReport

def workflowType : String := "DeployIntent"

/-- The failure originates from a device absent from the source of truth. -/
def isIntentNotFound (failure : ActivityFailure) : Bool :=
  match failure.cause with
  | some (.application type _) => type = some "IntentNotFoundError"
  | _ => false

/-- `text or default`. -/
def orDefault (text default : String) : String :=
  if text = "" then default else text

/-- A readable detail from the chain of an activity error. -/
def formatCause (failure : ActivityFailure) (default : String) : String :=
  match failure.cause with
  | some (.application _ message) => orDefault message default
  | some (.other text) => orDefault text default
  | none => orDefault failure.text default

/-- A reason of a run that neither succeeded nor was cancelled. -/
def isFailure (reason : WorkflowReason) : Bool :=
  reason ≠ .succeeded && reason ≠ .cancelled

theorem deviceNotFound_fails : isFailure .deviceNotFound = true := rfl

theorem intentUnavailable_fails : isFailure .intentUnavailable = true := rfl

theorem applyFailed_fails : isFailure .applyFailed = true := rfl

theorem collectFailed_fails : isFailure .collectFailed = true := rfl

/-- The four ways a deploy terminates. -/
inductive Verdict where
  | success (undesiredPaths : List String)
  | failure (reason : WorkflowReason) (detail : String)
      (fails : isFailure reason = true)
  | verificationFailed (driftItems : List DriftItem)
  | cancelled
deriving DecidableEq

namespace Verdict

/-- The terminal event of a verdict. -/
def event (deviceId : UUID) : Verdict → EventBody
  | success undesiredPaths =>
      { targetId := some (.device deviceId), eventType := .workflowTerminated,
        outcome := some "success", reason := some .succeeded,
        payload := if undesiredPaths = [] then []
          else [("undesired_paths", .arr (undesiredPaths.map .str))] }
  | failure reason detail _ =>
      { targetId := some (.device deviceId), eventType := .workflowTerminated,
        outcome := some "failure", reason := some reason,
        payload := [("detail", .str detail)] }
  | verificationFailed driftItems =>
      { targetId := some (.device deviceId), eventType := .workflowTerminated,
        outcome := some "failure", reason := some .verificationFailed,
        payload := [("drift_paths", .arr (driftItems.map fun item => .str item.path))] }
  | cancelled =>
      { targetId := some (.device deviceId), eventType := .workflowCancelled,
        outcome := some "cancelled" }

def succeeds : Verdict → Bool
  | success _ => true
  | _ => false

def reason : Verdict → WorkflowReason
  | success _ => .succeeded
  | failure reason _ _ => reason
  | verificationFailed _ => .verificationFailed
  | cancelled => .cancelled

def detail : Verdict → Option String
  | success undesiredPaths =>
      if undesiredPaths = [] then none
      else some (toString undesiredPaths.length ++
        " path(s) not in intent remain on the device — removal is not automatic")
  | failure _ detail _ => some detail
  | verificationFailed driftItems =>
      some ("post-apply drift on " ++ toString driftItems.length ++ " path(s)")
  | cancelled => some "workflow cancelled by caller"

def driftItems : Verdict → List DriftItem
  | verificationFailed driftItems => driftItems
  | _ => []

/-- The result of a verdict. -/
def fields
    (verdict : Verdict) (workflowId : String) (deviceId : UUID)
    (startedAt endedAt : Int) : WorkflowResultFields where
  workflowId := workflowId
  workflowType := workflowType
  targetId := .device deviceId
  success := verdict.succeeds
  reason := verdict.reason
  detail := verdict.detail
  startedAt := startedAt
  endedAt := endedAt
  driftItems := verdict.driftItems

end Verdict

section Run

variable (setting : Setting) (deviceId : UUID) (startedAt : Int)

def recordEvent (await : Await) (body : EventBody) : Workflow Command Unit :=
  record setting.toSurroundings workflowType await body

/-- The first event of a deploy. -/
def startedEvent : EventBody :=
  { targetId := some (.device deviceId), eventType := .workflowStarted }

/-- The event of a completed activity. -/
def completedEvent (stage : Stage) : EventBody :=
  { targetId := some (.device deviceId), eventType := .activityCompleted,
    activityName := some stage.activityName, outcome := some "success" }

/-- Record the terminal event of a verdict, then return its result. -/
def terminate (verdict : Verdict) : Workflow Command WorkflowResult := do
  recordEvent setting .terminated (verdict.event deviceId)
  let endedAt ← now setting.toSurroundings
  validated (WorkflowResult.build
    (verdict.fields setting.workflowId deviceId startedAt endedAt))

def terminateSuccess (undesiredPaths : List String) :
    Workflow Command WorkflowResult :=
  terminate setting deviceId startedAt (.success undesiredPaths)

def terminateFailure
    (reason : WorkflowReason) (detail : String) (fails : isFailure reason = true) :
    Workflow Command WorkflowResult :=
  terminate setting deviceId startedAt (.failure reason detail fails)

def terminateVerificationFailed (driftItems : List DriftItem) :
    Workflow Command WorkflowResult :=
  terminate setting deviceId startedAt (.verificationFailed driftItems)

def terminateCancelled : Workflow Command WorkflowResult :=
  terminate setting deviceId startedAt .cancelled

/-- The paths of the items intent never asked for. -/
def undesiredPaths (report : DriftReport) : List String :=
  (report.items.filter fun item => item.undesired).map DriftItem.path

/--
Terminal classification.  Verification judges the change just applied, so a
report whose items are all undesired does not fail the deploy.
-/
def classify (report : DriftReport) : Workflow Command WorkflowResult :=
  if report.status = .clean ∨
      (report.status = .drifted ∧
        (report.items.filter fun item => item.undesired).length =
          report.items.length) then
    terminateSuccess setting deviceId startedAt (undesiredPaths report)
  else if report.status = .drifted then
    terminateVerificationFailed setting deviceId startedAt report.items
  else
    terminateFailure setting deviceId startedAt .collectFailed
      (orDefault (report.error.getD "") "drift detection returned ERROR status")
      collectFailed_fails

/-- Verify via the observer. -/
def verify (desired : DesiredState) (collected : CollectResult) :
    Workflow Command WorkflowResult :=
  Program.attempt
    (executeActivity setting.toSurroundings (.activity .detect)
      (.detectDrift desired collected) setting.detected)
    (exceptActivityError (terminateCancelled setting deviceId startedAt)
      fun failure =>
        terminateFailure setting deviceId startedAt .collectFailed
          (formatCause failure "drift detection failed") collectFailed_fails)
    fun report => do
      recordEvent setting (.completed .detect) (completedEvent deviceId .detect)
      classify setting deviceId startedAt report

/-- Collect verification state. -/
def collectAndVerify (desired : DesiredState) :
    Workflow Command WorkflowResult :=
  Program.attempt
    (executeActivity setting.toSurroundings (.activity .collect)
      (.collectDriftState desired.device) setting.collected)
    (exceptActivityError (terminateCancelled setting deviceId startedAt)
      fun failure =>
        terminateFailure setting deviceId startedAt .collectFailed
          (formatCause failure "collect activity failed") collectFailed_fails)
    fun collected => do
      recordEvent setting (.completed .collect) (completedEvent deviceId .collect)
      verify setting deviceId startedAt desired collected

/-- Apply config. -/
def applyAndVerify (desired : DesiredState) :
    Workflow Command WorkflowResult :=
  Program.attempt
    (executeActivity setting.toSurroundings (.activity .apply)
      (.applyConfig desired) setting.applied)
    (exceptActivityError (terminateCancelled setting deviceId startedAt)
      fun failure =>
        terminateFailure setting deviceId startedAt .applyFailed
          (formatCause failure "apply activity failed") applyFailed_fails)
    fun applyResult =>
      if applyResult.success = false then
        terminateFailure setting deviceId startedAt .applyFailed
          (orDefault (applyResult.error.getD "") "apply reported success=False")
          applyFailed_fails
      else do
        recordEvent setting (.completed .apply) (completedEvent deviceId .apply)
        collectAndVerify setting deviceId startedAt desired

/-- Fetch intent. -/
def fetchAndDeploy : Workflow Command WorkflowResult :=
  Program.attempt
    (executeActivity setting.toSurroundings (.activity .fetch)
      (.fetchDesiredState deviceId) setting.fetched)
    (exceptActivityError (terminateCancelled setting deviceId startedAt)
      fun failure =>
        if isIntentNotFound failure then
          terminateFailure setting deviceId startedAt .deviceNotFound
            (formatCause failure "device not found in SoT") deviceNotFound_fails
        else
          terminateFailure setting deviceId startedAt .intentUnavailable
            (formatCause failure "intent fetch failed") intentUnavailable_fails)
    fun desired => do
      recordEvent setting (.completed .fetch) (completedEvent deviceId .fetch)
      applyAndVerify setting deviceId startedAt desired

/-- The run of a deploy. -/
def run : Workflow Command WorkflowResult := do
  let startedAt ← now setting.toSurroundings
  recordEvent setting .started (startedEvent deviceId)
  fetchAndDeploy setting deviceId startedAt

end Run

end DeployIntent

end Snapl.Orchestrator
