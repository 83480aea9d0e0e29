import Snapl.Observability.Models

/-!
# Orchestrator models

The results workflows return and the events they record.  The fields of each
model come with the condition its validator checks, and the model itself
carries a proof of it.  `build` is the validating constructor of the source.
-/

namespace Snapl.Orchestrator

open Snapl.Library Snapl.Intent Snapl.Observability

/-- Terminal reason codes of a workflow result. -/
inductive WorkflowReason where
  | succeeded
  | intentUnavailable
  | applyFailed
  | collectFailed
  | verificationFailed
  | auditFailed
  | cancelled
  | deviceNotFound
  | remediationFailed
deriving DecidableEq

inductive AuditEventType where
  | workflowStarted
  | activityStarted
  | activityCompleted
  | activityFailed
  | workflowTerminated
  | workflowCancelled
  | scheduleChanged
  | driftResponse
deriving DecidableEq

/-- What a scheduled run does with what its scan found. -/
inductive DriftResponseMode where
  | report
  | remediate
deriving DecidableEq

def DriftResponseMode.value : DriftResponseMode → String
  | .report => "report"
  | .remediate => "remediate"

/-- Why a remediate run left a device alone. -/
inductive ExclusionReason where
  | undesiredOnly
  | errored
deriving DecidableEq

def ExclusionReason.value : ExclusionReason → String
  | .undesiredOnly => "undesired_only"
  | .errored => "errored"

/-- The kinds of change a schedule change event records. -/
def scheduleChanges : List String :=
  ["created", "interval_changed", "response_changed", "paused", "resumed",
    "triggered", "deleted"]

/-- What a workflow or an event is about. -/
inductive Target where
  | device (id : UUID)
  | useCase (name : String)
deriving DecidableEq

structure WorkflowResultFields where
  workflowId : String
  workflowType : String
  targetId : Target
  success : Bool
  reason : WorkflowReason
  detail : Option String
  startedAt : Int
  endedAt : Int
  driftItems : List DriftItem
deriving DecidableEq

/-- Success, reason and drift items agree, and time does not run backwards. -/
structure WorkflowResultFields.Valid (fields : WorkflowResultFields) : Prop where
  success : fields.success = true ↔ fields.reason = .succeeded
  items : fields.driftItems ≠ [] → fields.reason = .verificationFailed
  time : fields.startedAt ≤ fields.endedAt

instance (fields : WorkflowResultFields) : Decidable fields.Valid :=
  decidable_of_iff
    ((fields.success = true ↔ fields.reason = .succeeded) ∧
      (fields.driftItems ≠ [] → fields.reason = .verificationFailed) ∧
      fields.startedAt ≤ fields.endedAt)
    ⟨fun ⟨success, items, time⟩ => ⟨success, items, time⟩,
      fun ⟨success, items, time⟩ => ⟨success, items, time⟩⟩

/-- The terminal outcome of a single workflow run. -/
structure WorkflowResult extends WorkflowResultFields where
  valid : toWorkflowResultFields.Valid
deriving DecidableEq

def WorkflowResult.build (fields : WorkflowResultFields) :
    Except PyError WorkflowResult :=
  if valid : fields.Valid then .ok ⟨fields, valid⟩ else .error .valueError

theorem WorkflowResult.build_of_valid
    {fields : WorkflowResultFields} (valid : fields.Valid) :
    WorkflowResult.build fields = .ok ⟨fields, valid⟩ := dif_pos valid

structure DriftScanFields where
  workflowId : String
  useCaseId : String
  reports : Dict UUID DriftReport
  total : Int
  clean : Int
  drifted : Int
  errored : Int
  startedAt : Int
  endedAt : Int
  cancelled : Bool
deriving DecidableEq

/-- The counts sum to the total, which is the number of reports. -/
structure DriftScanFields.Valid (fields : DriftScanFields) : Prop where
  counts : fields.clean + fields.drifted + fields.errored = fields.total
  reports : (fields.reports.size : Int) = fields.total

instance (fields : DriftScanFields) : Decidable fields.Valid :=
  decidable_of_iff
    (fields.clean + fields.drifted + fields.errored = fields.total ∧
      (fields.reports.size : Int) = fields.total)
    ⟨fun ⟨counts, reports⟩ => ⟨counts, reports⟩,
      fun ⟨counts, reports⟩ => ⟨counts, reports⟩⟩

/-- The outcome of a drift scan. -/
structure DriftScanResult extends DriftScanFields where
  valid : toDriftScanFields.Valid
deriving DecidableEq

def DriftScanResult.build (fields : DriftScanFields) :
    Except PyError DriftScanResult :=
  if valid : fields.Valid then .ok ⟨fields, valid⟩ else .error .valueError

theorem DriftScanResult.build_of_valid
    {fields : DriftScanFields} (valid : fields.Valid) :
    DriftScanResult.build fields = .ok ⟨fields, valid⟩ := dif_pos valid

structure ReconcileFields where
  workflowId : String
  deviceResults : Dict UUID WorkflowResult
  total : Int
  succeeded : Int
  failed : Int
  skipped : Int
  startedAt : Int
  endedAt : Int
deriving DecidableEq

/-- The counts sum to the total, and so do the results with the skips. -/
structure ReconcileFields.Valid (fields : ReconcileFields) : Prop where
  counts : fields.succeeded + fields.failed + fields.skipped = fields.total
  results : (fields.deviceResults.size : Int) + fields.skipped = fields.total

instance (fields : ReconcileFields) : Decidable fields.Valid :=
  decidable_of_iff
    (fields.succeeded + fields.failed + fields.skipped = fields.total ∧
      (fields.deviceResults.size : Int) + fields.skipped = fields.total)
    ⟨fun ⟨counts, results⟩ => ⟨counts, results⟩,
      fun ⟨counts, results⟩ => ⟨counts, results⟩⟩

/-- The aggregated outcome of a reconcile run. -/
structure ReconcileResult extends ReconcileFields where
  valid : toReconcileFields.Valid
deriving DecidableEq

def ReconcileResult.build (fields : ReconcileFields) :
    Except PyError ReconcileResult :=
  if valid : fields.Valid then .ok ⟨fields, valid⟩ else .error .valueError

theorem ReconcileResult.build_of_valid
    {fields : ReconcileFields} (valid : fields.Valid) :
    ReconcileResult.build fields = .ok ⟨fields, valid⟩ := dif_pos valid

/-- An event without its identity: what happened, and to what. -/
structure EventBody where
  targetId : Option Target
  eventType : AuditEventType
  activityName : Option String := none
  outcome : Option String := none
  reason : Option WorkflowReason := none
  payload : List (String × Json) := []
  actor : Option String := none
deriving DecidableEq

/-- An event type that names an activity. -/
def AuditEventType.ofActivity : AuditEventType → Bool
  | .activityStarted | .activityCompleted | .activityFailed => true
  | _ => false

def validOutcomes : List String := ["success", "failure", "cancelled"]

/-- The value names a kind of schedule change. -/
def isScheduleChange : Json → Bool
  | .str change => change ∈ scheduleChanges
  | _ => false

/-- What each event type requires of the other fields. -/
structure EventBody.Valid (body : EventBody) : Prop where
  activity : body.eventType.ofActivity = true → body.activityName ≠ none
  terminated : body.eventType = .workflowTerminated → body.reason ≠ none
  outcome : ∀ outcome ∈ body.outcome, outcome ∈ validOutcomes
  actor : body.eventType = .scheduleChanged → filled? body.actor ≠ none
  change : body.eventType = .scheduleChanged →
    isScheduleChange ((body.payload.lookup "change").getD .null) = true

instance (body : EventBody) : Decidable body.Valid :=
  decidable_of_iff
    ((body.eventType.ofActivity = true → body.activityName ≠ none) ∧
      (body.eventType = .workflowTerminated → body.reason ≠ none) ∧
      (∀ outcome ∈ body.outcome, outcome ∈ validOutcomes) ∧
      (body.eventType = .scheduleChanged → filled? body.actor ≠ none) ∧
      (body.eventType = .scheduleChanged →
        isScheduleChange ((body.payload.lookup "change").getD .null) = true))
    ⟨fun ⟨activity, terminated, outcome, actor, change⟩ =>
        ⟨activity, terminated, outcome, actor, change⟩,
      fun ⟨activity, terminated, outcome, actor, change⟩ =>
        ⟨activity, terminated, outcome, actor, change⟩⟩

/-- A single durable, append-only audit record. -/
structure AuditEvent extends EventBody where
  eventId : UUID
  workflowId : String
  workflowType : String
  timestamp : Int
  valid : toEventBody.Valid
deriving DecidableEq

def AuditEvent.build
    (eventId : UUID) (workflowId workflowType : String) (timestamp : Int)
    (body : EventBody) : Except PyError AuditEvent :=
  if valid : body.Valid then
    .ok ⟨body, eventId, workflowId, workflowType, timestamp, valid⟩
  else .error .valueError

theorem AuditEvent.build_of_valid
    {body : EventBody} (valid : body.Valid)
    (eventId : UUID) (workflowId workflowType : String) (timestamp : Int) :
    AuditEvent.build eventId workflowId workflowType timestamp body =
      .ok ⟨body, eventId, workflowId, workflowType, timestamp, valid⟩ :=
  dif_pos valid

/-- The one drift schedule a use case can have. -/
def driftScheduleId (useCaseId : String) : String := "drift-response-" ++ useCaseId

/-- Drifted, with at least one item intent wants. -/
def hasForwardDrift (report : DriftReport) : Bool :=
  report.status = .drifted && report.items.any fun item => !item.undesired

/-- The single argument a schedule passes to every run it starts. -/
structure DriftResponseRequest where
  useCaseId : String
  mode : DriftResponseMode
  scheduleId : String
  nonempty : useCaseId ≠ ""
  scheduled : scheduleId = driftScheduleId useCaseId
deriving DecidableEq

structure DriftResponseFields where
  workflowId : String
  scheduleId : String
  useCaseId : String
  mode : DriftResponseMode
  scan : DriftScanResult
  remediated : List UUID
  excluded : Dict UUID ExclusionReason
  reconcile : Option ReconcileResult
  startedAt : Int
  endedAt : Int
deriving DecidableEq

/-- What a completed scheduled run must have done. -/
structure DriftResponseFields.Valid (fields : DriftResponseFields) : Prop where
  report : fields.mode = .report →
    fields.remediated = [] ∧ fields.excluded.keys = [] ∧ fields.reconcile = none
  present : fields.reconcile = none ↔ fields.remediated = []
  total : ∀ reconcile ∈ fields.reconcile,
    reconcile.total = fields.remediated.length
  disjoint : ∀ id ∈ fields.remediated, id ∉ fields.excluded.keys
  known : ∀ id ∈ fields.remediated ++ fields.excluded.keys,
    id ∈ fields.scan.reports.keys
  eligible : ∀ id ∈ fields.remediated, ∀ report ∈ fields.scan.reports.get? id,
    hasForwardDrift report = true
  time : fields.startedAt ≤ fields.endedAt

instance (fields : DriftResponseFields) : Decidable fields.Valid :=
  decidable_of_iff
    ((fields.mode = .report →
        fields.remediated = [] ∧ fields.excluded.keys = [] ∧
          fields.reconcile = none) ∧
      (fields.reconcile = none ↔ fields.remediated = []) ∧
      (∀ reconcile ∈ fields.reconcile,
        reconcile.total = fields.remediated.length) ∧
      (∀ id ∈ fields.remediated, id ∉ fields.excluded.keys) ∧
      (∀ id ∈ fields.remediated ++ fields.excluded.keys,
        id ∈ fields.scan.reports.keys) ∧
      (∀ id ∈ fields.remediated, ∀ report ∈ fields.scan.reports.get? id,
        hasForwardDrift report = true) ∧
      fields.startedAt ≤ fields.endedAt)
    ⟨fun ⟨report, present, total, disjoint, known, eligible, time⟩ =>
        ⟨report, present, total, disjoint, known, eligible, time⟩,
      fun ⟨report, present, total, disjoint, known, eligible, time⟩ =>
        ⟨report, present, total, disjoint, known, eligible, time⟩⟩

/-- The terminal outcome of one scheduled run. -/
structure DriftResponseResult extends DriftResponseFields where
  valid : toDriftResponseFields.Valid
deriving DecidableEq

def DriftResponseResult.build (fields : DriftResponseFields) :
    Except PyError DriftResponseResult :=
  if valid : fields.Valid then .ok ⟨fields, valid⟩ else .error .valueError

theorem DriftResponseResult.build_of_valid
    {fields : DriftResponseFields} (valid : fields.Valid) :
    DriftResponseResult.build fields = .ok ⟨fields, valid⟩ := dif_pos valid

/-- One completed scheduled run, as the schedule view summarises it. -/
structure RunSummary where
  total : Int
  clean : Int
  drifted : Int
  errored : Int
  remediated : Int
  succeeded : Int
  failed : Int
  wrote : Bool
  attempted : wrote = true ↔ 0 < succeeded + failed
deriving DecidableEq

def RunSummary.build
    (total clean drifted errored remediated succeeded failed : Int)
    (wrote : Bool) : Except PyError RunSummary :=
  if attempted : wrote = true ↔ 0 < succeeded + failed then
    .ok ⟨total, clean, drifted, errored, remediated, succeeded, failed, wrote,
      attempted⟩
  else .error .valueError

/-- The summary of a completed run. -/
def RunSummary.fromResult (result : DriftResponseResult) :
    Except PyError RunSummary :=
  let succeeded := match result.reconcile with
    | some reconcile => reconcile.succeeded
    | none => 0
  let failed := match result.reconcile with
    | some reconcile => reconcile.failed
    | none => 0
  RunSummary.build result.scan.total result.scan.clean result.scan.drifted
    result.scan.errored result.remediated.length succeeded failed
    (decide (0 < succeeded + failed))

end Snapl.Orchestrator
