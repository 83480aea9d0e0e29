import Mathlib.Data.List.Sort
import Snapl.Intent.UuidText
import Snapl.Library.JsonDumps
import Snapl.Library.Timestamps
import Snapl.Orchestrator.Models

/-!
# The audit logs

Two stores of audit events.  One keeps the events in a list and sorts what a
query finds by time.  The other keeps a table of text columns: identifiers in
their canonical text, payloads as JSON documents and timestamps as texts in UTC,
which its range query compares.  Its queries return rows in the order they were
inserted.  Both ignore an event whose identifier they hold already.

A row's sequence number is its place in the table.
-/

namespace Snapl.Orchestrator

open Snapl.Library Snapl.Intent

def AuditEventType.value : AuditEventType → String
  | .workflowStarted => "workflow_started"
  | .activityStarted => "activity_started"
  | .activityCompleted => "activity_completed"
  | .activityFailed => "activity_failed"
  | .workflowTerminated => "workflow_terminated"
  | .workflowCancelled => "workflow_cancelled"
  | .scheduleChanged => "schedule_changed"
  | .driftResponse => "drift_response"

def AuditEventType.all : List AuditEventType :=
  [.workflowStarted, .activityStarted, .activityCompleted, .activityFailed,
    .workflowTerminated, .workflowCancelled, .scheduleChanged, .driftResponse]

def WorkflowReason.value : WorkflowReason → String
  | .succeeded => "succeeded"
  | .intentUnavailable => "intent_unavailable"
  | .applyFailed => "apply_failed"
  | .collectFailed => "collect_failed"
  | .verificationFailed => "verification_failed"
  | .auditFailed => "audit_failed"
  | .cancelled => "cancelled"
  | .deviceNotFound => "device_not_found"
  | .remediationFailed => "remediation_failed"

def WorkflowReason.all : List WorkflowReason :=
  [.succeeded, .intentUnavailable, .applyFailed, .collectFailed, .verificationFailed,
    .auditFailed, .cancelled, .deviceNotFound, .remediationFailed]

/-- The member of an enumeration with a value. -/
def memberOf {Member : Type} (value : Member → String) (members : List Member) (text : String) :
    Except PyError Member :=
  match members.find? fun member => value member = text with
  | some member => .ok member
  | none => .error .valueError

theorem AuditEventType.memberOf_value (type : AuditEventType) :
    memberOf AuditEventType.value AuditEventType.all type.value = .ok type := by
  cases type <;> decide +kernel

theorem WorkflowReason.memberOf_value (reason : WorkflowReason) :
    memberOf WorkflowReason.value WorkflowReason.all reason.value = .ok reason := by
  cases reason <;> decide +kernel

theorem WorkflowReason.value_ne_empty (reason : WorkflowReason) : reason.value ≠ "" := by
  cases reason <;> decide

/-- An audit event with its timestamp as it was taken. -/
structure StampedEvent extends EventBody where
  eventId : UUID
  workflowId : String
  workflowType : String
  timestamp : Datetime
  valid : toEventBody.Valid

instance : DecidableEq StampedEvent := fun left right =>
  decidable_of_iff
    ((left.toEventBody = right.toEventBody ∧ left.eventId = right.eventId) ∧
      (left.workflowId = right.workflowId ∧ left.workflowType = right.workflowType) ∧
      left.timestamp = right.timestamp)
    (by
      obtain ⟨body, eventId, workflowId, workflowType, timestamp, valid⟩ := left
      obtain ⟨other, otherId, otherWorkflow, otherType, otherTime, otherValid⟩ := right
      rw [StampedEvent.mk.injEq]
      simp only [and_assoc])

def StampedEvent.build
    (eventId : UUID) (workflowId workflowType : String) (timestamp : Datetime)
    (body : EventBody) : Except PyError StampedEvent :=
  if valid : body.Valid then
    .ok ⟨body, eventId, workflowId, workflowType, timestamp, valid⟩
  else .error .valueError

theorem StampedEvent.build_of_valid
    {body : EventBody} (valid : body.Valid)
    (eventId : UUID) (workflowId workflowType : String) (timestamp : Datetime) :
    StampedEvent.build eventId workflowId workflowType timestamp body =
      .ok ⟨body, eventId, workflowId, workflowType, timestamp, valid⟩ :=
  dif_pos valid

/-- The event with its timestamp as an instant. -/
def StampedEvent.asInstant (event : StampedEvent) : AuditEvent :=
  ⟨event.toEventBody, event.eventId, event.workflowId, event.workflowType,
    event.timestamp.instant, event.valid⟩

/-- What the queries of both logs ask for. -/
inductive AuditQuery where
  | byWorkflow (workflowId : String)
  | byDevice (deviceId : UUID)
  | byTimeRange (start stop : Datetime)

/-- The events of the log and the set of their identifiers. -/
structure InMemoryAuditLog where
  events : List StampedEvent := []
  eventIds : List UUID := []

namespace InMemoryAuditLog

def append (log : InMemoryAuditLog) (event : StampedEvent) : InMemoryAuditLog :=
  if event.eventId ∈ log.eventIds then log
  else
    { events := log.events ++ [event]
      eventIds := log.eventIds ++ [event.eventId] }

/-- The event is among what a query asks for. -/
def matching : AuditQuery → StampedEvent → Bool
  | .byWorkflow workflowId, event => event.workflowId = workflowId
  | .byDevice deviceId, event => event.targetId = some (.device deviceId)
  | .byTimeRange start stop, event =>
      start.instant ≤ event.timestamp.instant && event.timestamp.instant < stop.instant

/-- The first event is no later than the second. -/
def NoLater (event other : StampedEvent) : Prop :=
  event.timestamp.instant ≤ other.timestamp.instant

instance : DecidableRel NoLater := fun _ _ => inferInstanceAs (Decidable (_ ≤ _))

instance : Std.Total NoLater := ⟨fun event other =>
  Int.le_total event.timestamp.instant other.timestamp.instant⟩

instance : IsTrans StampedEvent NoLater := ⟨fun _ _ _ first second => Int.le_trans first second⟩

/-- What a query returns: the events it asks for, sorted by time. -/
def query (log : InMemoryAuditLog) (asked : AuditQuery) : List StampedEvent :=
  (log.events.filter (matching asked)).insertionSort NoLater

end InMemoryAuditLog

/-- A row of the table. -/
structure AuditRow where
  eventId : String
  workflowId : String
  workflowType : String
  targetId : Option String
  eventType : String
  activityName : Option String
  outcome : Option String
  reason : Option String
  payloadJson : String
  timestamp : String
  actor : Option String
deriving DecidableEq

/-- An exception a call of the table log ends in. -/
inductive AuditLogFailure where
  | overflowError
  | python (error : PyError)
deriving DecidableEq

abbrev AuditTable := List AuditRow

namespace SqliteAuditLog

/-- The text of a timestamp in UTC. -/
def utcText (moment : Datetime) : Except AuditLogFailure String :=
  match moment.utcText? with
  | some text => .ok (String.ofList text)
  | none => .error .overflowError

def serializeTarget : Option Target → Option String
  | none => none
  | some (.device id) => some id.text
  | some (.useCase name) => some name

/-- The row of an event, given the texts of its payload and its timestamp. -/
def rowOf (event : StampedEvent) (payload timestamp : String) : AuditRow where
  eventId := event.eventId.text
  workflowId := event.workflowId
  workflowType := event.workflowType
  targetId := serializeTarget event.targetId
  eventType := event.eventType.value
  activityName := event.activityName
  outcome := event.outcome
  reason := event.reason.map WorkflowReason.value
  payloadJson := payload
  timestamp := timestamp
  actor := event.actor

/-- The row of an event. -/
def toRow (event : StampedEvent) : Except AuditLogFailure AuditRow := do
  let payload ← (JsonText.dumps (.obj event.payload)).mapError .python
  let timestamp ← utcText event.timestamp
  .ok (rowOf event (String.ofList payload) timestamp)

/-- Insert the row of an event unless the table has one with its identifier. -/
def append (table : AuditTable) (event : StampedEvent) : Except AuditLogFailure AuditTable := do
  let row ← toRow event
  if table.any fun stored => stored.eventId = row.eventId then .ok table
  else .ok (table ++ [row])

/-- A text is read as an identifier when it is one. -/
def readTarget : Option String → Option Target
  | none => none
  | some text =>
      match UUID.parse text with
      | some id => some (.device id)
      | none => some (.useCase text)

/-- A result, or an exception of the language. -/
def orValueError {Result : Type} : Option Result → Except PyError Result
  | some result => .ok result
  | none => .error .valueError

/-- The reason of a row; an empty text counts as none. -/
def readReason (text : Option String) : Except PyError (Option WorkflowReason) :=
  match filled? text with
  | none => .ok none
  | some value => (memberOf WorkflowReason.value WorkflowReason.all value).map some

/-- The payload of a row, which must be a dictionary. -/
def readPayload (text : String) : Except PyError (List (String × Json)) := do
  let value ← JsonText.loads text.toList
  match value with
  | .obj fields => .ok fields
  | _ => .error .valueError

/-- The event of a row. -/
def rowToEvent (row : AuditRow) : Except PyError StampedEvent := do
  let eventId ← orValueError (UUID.parse row.eventId)
  let eventType ← memberOf AuditEventType.value AuditEventType.all row.eventType
  let reason ← readReason row.reason
  let payload ← readPayload row.payloadJson
  let timestamp ← orValueError (Datetime.fromisoformat row.timestamp.toList)
  StampedEvent.build eventId row.workflowId row.workflowType timestamp
    { targetId := readTarget row.targetId
      eventType := eventType
      activityName := row.activityName
      outcome := row.outcome
      reason := reason
      payload := payload
      actor := row.actor }

/-- The condition a query puts on the rows. -/
def condition : AuditQuery → Except AuditLogFailure (AuditRow → Bool)
  | .byWorkflow workflowId => .ok fun row => row.workflowId = workflowId
  | .byDevice deviceId => .ok fun row => row.targetId = some deviceId.text
  | .byTimeRange start stop => do
      let first ← utcText start
      let last ← utcText stop
      .ok fun row => !(row.timestamp < first) && row.timestamp < last

/-- What a query returns: the events of the rows it asks for, as they were inserted. -/
def query (table : AuditTable) (asked : AuditQuery) :
    Except AuditLogFailure (List StampedEvent) := do
  let wanted ← condition asked
  ((table.filter wanted).mapM rowToEvent).mapError .python

end SqliteAuditLog

/-- The log in memory after a sequence of calls. -/
def memoryAfter (calls : List StampedEvent) : InMemoryAuditLog :=
  calls.foldl InMemoryAuditLog.append {}

/-- The table after a sequence of calls; a call that ends in an exception leaves it as it was. -/
def tableAfter (calls : List StampedEvent) : AuditTable :=
  calls.foldl (fun table event => (SqliteAuditLog.append table event).toOption.getD table) []

end Snapl.Orchestrator
