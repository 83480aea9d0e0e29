import Snapl.Library.Interleaving
import Snapl.Orchestrator.Temporal

/-!
# ReconcileDevices

Operator-initiated reconciliation: one deploy child for each target device, all
of them at once.  A child that finds a deploy of its device already running is
a skip; a child that failed unexpectedly is a failed result; a cancelled child
cancels the run.
-/

namespace Snapl.Orchestrator.ReconcileDevices

open Snapl.Library Snapl.Intent Snapl.Observability

inductive Await where
  | started
  | gather
  | cancelled
  | terminated
deriving DecidableEq

/-- A deploy child, with its deterministic identifier. -/
inductive Command where
  | deployIntent (workflowId : String) (deviceId : UUID)
deriving DecidableEq

/-- What a reconcile run finds around it. -/
structure Setting extends Surroundings Await where
  child : UUID → ChildOutcome WorkflowResult
  schedule : List Nat

def workflowType : String := "ReconcileDevices"

/-- The one deploy a device can have open. -/
def deployIntentId (deviceId : UUID) : String := "deploy-intent-" ++ deviceId.text

/-- Deploys of different devices have different identifiers. -/
theorem deployIntentId_injective : Function.Injective deployIntentId := by
  intro first second same
  have chars := congrArg String.toList same
  simp only [deployIntentId, String.toList_append] at chars
  exact UUID.text_injective (String.toList_inj.1 (List.append_cancel_left chars))

/-- The identifiers without repetitions, in order. -/
def dedupe (deviceIds : List UUID) : List UUID :=
  (Dict.ofPairs (deviceIds.map fun deviceId => (deviceId, ()))).keys

/-- Where the deploy of a device stands. -/
inductive Stage where
  | waiting
  | settled (outcome : Option WorkflowResult)
  | raised (raised : Raised)

structure Deployment where
  deviceId : UUID
  stage : Stage

section Device

variable (setting : Setting)

/-- The fields of the result of a child that failed unexpectedly. -/
def childFailedFields
    (deviceId : UUID) (failure : ChildFailure) (startedAt endedAt : Int) :
    WorkflowResultFields where
  workflowId := deployIntentId deviceId
  workflowType := "DeployIntent"
  targetId := .device deviceId
  success := false
  reason := .applyFailed
  detail := some ("child workflow failed: " ++ failure.message)
  startedAt := startedAt
  endedAt := endedAt
  driftItems := []

/-- Go on after the deploy child of a device; nothing is a skip. -/
def deployOne (deviceId : UUID) : Workflow Command (Option WorkflowResult) :=
  match setting.child deviceId with
  | .returned result =>
      if result.reason = .deviceNotFound then return none else return some result
  | .alreadyStarted => return none
  | .failed failure => do
      let startedAt ← now setting.toSurroundings
      let endedAt ← now setting.toSurroundings
      let result ← validated (WorkflowResult.build
        (childFailedFields deviceId failure startedAt endedAt))
      return some result
  | .cancelled => Program.raise .cancelled

def Stage.ofEnding : Except Raised (Option WorkflowResult) → Stage
  | .ok outcome => .settled outcome
  | .error failure => .raised failure

/-- The coroutines of the devices. -/
def deployments :
    Coroutines (Journal Command) Deployment Raised (Option WorkflowResult) where
  status deployment :=
    match deployment.stage with
    | .waiting => .waiting
    | .settled outcome => .returned outcome
    | .raised failure => .raised failure
  resume journal deployment :=
    ((deployOne setting deployment.deviceId).final journal,
      { deployment with
        stage := Stage.ofEnding ((deployOne setting deployment.deviceId).ending journal) })

end Device

section Gather

variable (setting : Setting)

/-- Every coroutine starts its child. -/
def begin (targets : List UUID) (journal : Journal Command) :
    Journal Command × List Deployment :=
  ({ journal with commands := journal.commands ++
      (targets.map fun deviceId =>
        Command.deployIntent (deployIntentId deviceId) deviceId) },
    targets.map fun deviceId => ⟨deviceId, .waiting⟩)

/-- Let the scheduled children complete. -/
def scheduled (state : Journal Command × List Deployment) :
    Journal Command × List Deployment :=
  (deployments setting).interleave state setting.schedule

/-- Let the remaining children complete. -/
def drained (state : Journal Command × List Deployment) :
    Journal Command × List Deployment :=
  (deployments setting).interleave state (Coroutines.rounds state.2.length 1)

/-- Deploy all targets at once.  A cancellation reaches the gather only while it is pending. -/
def gather (targets : List UUID) : Workflow Command (List (Option WorkflowResult)) :=
  fun journal =>
    let state := scheduled setting (begin targets journal)
    if setting.cancelAt = some .gather ∧ (deployments setting).Pending state.2 then
      (.error .cancelled, state.1)
    else
      let ended := drained setting state
      ((deployments setting).gathered ended.2, ended.1)

end Gather

structure Tally where
  deviceResults : Dict UUID WorkflowResult
  succeeded : Nat
  failed : Nat
  skipped : Nat

/-- Count one outcome. -/
def Tally.add (tally : Tally) (entry : UUID × Option WorkflowResult) : Tally :=
  match entry.2 with
  | none => { tally with skipped := tally.skipped + 1 }
  | some outcome =>
      if outcome.success then
        { tally with
          deviceResults := tally.deviceResults.set entry.1 outcome
          succeeded := tally.succeeded + 1 }
      else
        { tally with
          deviceResults := tally.deviceResults.set entry.1 outcome
          failed := tally.failed + 1 }

/-- Count the outcomes of the targets. -/
def tally (targets : List UUID) (outcomes : List (Option WorkflowResult)) : Tally :=
  (targets.zip outcomes).foldl Tally.add ⟨Dict.empty, 0, 0, 0⟩

/-- The result of a tally. -/
def Tally.fields
    (counts : Tally) (workflowId : String) (total : Nat) (startedAt endedAt : Int) :
    ReconcileFields where
  workflowId := workflowId
  deviceResults := counts.deviceResults
  total := total
  succeeded := counts.succeeded
  failed := counts.failed
  skipped := counts.skipped
  startedAt := startedAt
  endedAt := endedAt

section Run

variable (setting : Setting)

def audit (await : Await) (body : EventBody) : Workflow Command Unit :=
  record setting.toSurroundings workflowType await body

def startedEvent (targets duplicates : Nat) : EventBody :=
  { targetId := none, eventType := .workflowStarted,
    payload := [("device_count", .int targets),
      ("duplicate_ids_dropped", .int duplicates)] }

def cancelledEvent : EventBody :=
  { targetId := none, eventType := .workflowCancelled, outcome := some "cancelled" }

def terminatedEvent (total : Nat) (counts : Tally) : EventBody :=
  { targetId := none, eventType := .workflowTerminated,
    outcome := some "success", reason := some .succeeded,
    payload := [("total", .int total), ("succeeded", .int counts.succeeded),
      ("failed", .int counts.failed), ("skipped", .int counts.skipped)] }

/-- Record the cancellation, and raise it again. -/
def cancel : Workflow Command ReconcileResult := do
  audit setting .cancelled cancelledEvent
  Program.raise .cancelled

/-- Tally the outcomes, record the counts and return the result. -/
def conclude
    (targets : List UUID) (startedAt : Int) (outcomes : List (Option WorkflowResult)) :
    Workflow Command ReconcileResult := do
  let counts := tally targets outcomes
  audit setting .terminated (terminatedEvent targets.length counts)
  let endedAt ← now setting.toSurroundings
  validated (ReconcileResult.build
    (counts.fields setting.workflowId targets.length startedAt endedAt))

/-- A guard of the gather: a cancellation is handled, all else is raised again. -/
def exceptCancelledGather : Raised → Workflow Command ReconcileResult
  | .cancelled => cancel setting
  | raised => Program.raise raised

/-- Reconcile targets that are known to be distinct. -/
def reconcile (targets : List UUID) (duplicates : Nat) :
    Workflow Command ReconcileResult := do
  let startedAt ← now setting.toSurroundings
  audit setting .started (startedEvent targets.length duplicates)
  Program.attempt (gather setting targets) (exceptCancelledGather setting)
    (conclude setting targets startedAt)

/-- The run of a reconcile. -/
def run (deviceIds : List UUID) : Workflow Command ReconcileResult :=
  if deviceIds = [] then Program.raise (.pyError .valueError)
  else
    reconcile setting (dedupe deviceIds) (deviceIds.length - (dedupe deviceIds).length)

end Run

end Snapl.Orchestrator.ReconcileDevices
