import Snapl.Library.Fallible
import Snapl.Library.FirstsByKey
import Snapl.Orchestrator.AuditLog

/-!
# What the audit logs hold and find

After any sequence of calls both logs hold the first event of each identifier, in
the order of the calls: the log in memory the events themselves, the table rows
that are read back as the events up to the clock that shows the time.  The
condition a query puts on a row is the one it would put on the event.
-/

namespace Snapl.Orchestrator

open Snapl.Library Snapl.Intent

/-- The event has a row: its payload can be written and its instant shown by a UTC clock. -/
structure Recordable (event : StampedEvent) : Prop where
  payload : JsonText.Encodable (.obj event.payload)
  instant : 0 ≤ event.timestamp.instant ∧ event.timestamp.instant < clockEnd

/-- The event as it is read back: a use case named like an identifier becomes one. -/
def AuditEvent.reread (event : AuditEvent) : AuditEvent where
  targetId := SqliteAuditLog.readTarget (SqliteAuditLog.serializeTarget event.targetId)
  eventType := event.eventType
  activityName := event.activityName
  outcome := event.outcome
  reason := event.reason
  payload := event.payload
  actor := event.actor
  eventId := event.eventId
  workflowId := event.workflowId
  workflowType := event.workflowType
  timestamp := event.timestamp
  valid := ⟨event.valid.activity, event.valid.terminated, event.valid.outcome, event.valid.actor,
    event.valid.change⟩

namespace SqliteAuditLog

theorem utc?_of_instant {moment : Datetime}
    (inRange : 0 ≤ moment.instant ∧ moment.instant < clockEnd) :
    ∃ utc, moment.utc? = some utc := by
  rw [Datetime.utc?, dif_pos inRange]
  exact ⟨_, rfl⟩

theorem utcText_eq {moment utc : Datetime} (converted : moment.utc? = some utc) :
    utcText moment = .ok (String.ofList (Datetime.isoformatUtc utc)) := by
  rw [utcText, Datetime.utcText?, converted]
  rfl

/-- A recordable event has a row of texts that are read back. -/
theorem exists_toRow {event : StampedEvent} (recordable : Recordable event) :
    ∃ payload utc, toRow event =
        .ok (rowOf event (String.ofList payload) (String.ofList (Datetime.isoformatUtc utc))) ∧
      JsonText.loads payload = .ok (.obj event.payload) ∧ event.timestamp.utc? = some utc := by
  obtain ⟨payload, dumped, loaded⟩ := JsonText.loads_dumps recordable.payload
  obtain ⟨utc, converted⟩ := utc?_of_instant recordable.instant
  refine ⟨payload, utc, ?_, loaded, converted⟩
  rw [toRow, dumped, utcText_eq converted]
  rfl

theorem readReason_value (reason : Option WorkflowReason) :
    readReason (reason.map WorkflowReason.value) = .ok reason := by
  cases reason with
  | none => rfl
  | some reason =>
      rw [Option.map_some, readReason, filled?_some reason.value_ne_empty]
      simp only [WorkflowReason.memberOf_value]
      rfl

/-- The row of an event is read as the event, with its time on a UTC clock. -/
theorem rowToEvent_rowOf
    {event : StampedEvent} {payload : List Char} {utc : Datetime}
    (loaded : JsonText.loads payload = .ok (.obj event.payload))
    (converted : event.timestamp.utc? = some utc) :
    ∃ found, rowToEvent (rowOf event (String.ofList payload)
        (String.ofList (Datetime.isoformatUtc utc))) = .ok found ∧
      found.asInstant = event.asInstant.reread := by
  obtain ⟨instant, offset⟩ := Datetime.instant_utc? converted
  have fields : readPayload (String.ofList payload) = .ok event.payload := by
    rw [readPayload, String.toList_ofList, loaded]
    rfl
  have time : Datetime.fromisoformat (String.ofList (Datetime.isoformatUtc utc)).toList =
      some utc := by
    rw [String.toList_ofList, Datetime.fromisoformat_isoformatUtc offset]
  refine ⟨⟨event.asInstant.reread.toEventBody, event.eventId, event.workflowId,
    event.workflowType, utc, event.asInstant.reread.valid⟩, ?_, ?_⟩
  · simp only [rowToEvent, rowOf, UUID.parse_text, AuditEventType.memberOf_value,
      readReason_value, fields, time, orValueError, ok_bind]
    exact StampedEvent.build_of_valid event.asInstant.reread.valid _ _ _ _
  · simp only [StampedEvent.asInstant, AuditEvent.reread, instant]

/-- The table holds the rows of the events. -/
def Holds (table : AuditTable) (events : List StampedEvent) : Prop :=
  List.Forall₂ (fun row event => toRow event = .ok row) table events

/-- The rows of events are read as the events. -/
theorem mapM_of_holds
    {table : AuditTable} {events : List StampedEvent} (holds : Holds table events)
    (recordable : ∀ event ∈ events, Recordable event) :
    ∃ found, table.mapM rowToEvent = .ok found ∧
      found.map StampedEvent.asInstant = events.map fun event => event.asInstant.reread := by
  induction holds with
  | nil => exact ⟨[], rfl, rfl⟩
  | @cons row event table events made _ induction =>
      obtain ⟨payload, utc, madeAs, loaded, converted⟩ :=
        exists_toRow (recordable event List.mem_cons_self)
      obtain rfl : row = _ := Except.ok.inj (made.symm.trans madeAs)
      obtain ⟨first, isFirst, firstSame⟩ := rowToEvent_rowOf loaded converted
      obtain ⟨found, isFound, foundSame⟩ := induction fun other member =>
        recordable other (List.mem_cons_of_mem event member)
      refine ⟨first :: found, ?_, ?_⟩
      · rw [List.mapM_cons, isFirst, isFound]
        rfl
      · rw [List.map_cons, List.map_cons, firstSame, foundSame]

/-- What the row of an event says. -/
theorem of_toRow_eq_ok {event : StampedEvent} {row : AuditRow} (made : toRow event = .ok row) :
    ∃ payload utc, event.timestamp.utc? = some utc ∧
      row = rowOf event payload (String.ofList (Datetime.isoformatUtc utc)) := by
  obtain ⟨payload, -, rest⟩ := (bind_eq_ok _ _ _).1 made
  obtain ⟨text, isText, last⟩ := (bind_eq_ok _ _ _).1 rest
  rcases converted : event.timestamp.utc? with _ | utc
  · rw [utcText, Datetime.utcText?, converted] at isText
    cases isText
  · rw [utcText_eq converted] at isText
    obtain rfl := Except.ok.inj isText
    exact ⟨_, utc, rfl, (Except.ok.inj last).symm⟩

/-- An identifier is in the table exactly when its event is held. -/
theorem any_eventId_iff
    {table : AuditTable} {events : List StampedEvent} (holds : Holds table events) (id : UUID) :
    (table.any fun stored => stored.eventId = id.text) = true ↔
      id ∈ events.map StampedEvent.eventId := by
  induction holds with
  | nil => simp
  | @cons row event table events made _ induction =>
      obtain ⟨payload, utc, -, rfl⟩ := of_toRow_eq_ok made
      rw [List.any_cons, Bool.or_eq_true, induction, List.map_cons, List.mem_cons,
        decide_eq_true_eq]
      apply or_congr_left
      rw [rowOf]
      constructor
      · intro same
        exact (UUID.text_injective same).symm
      · rintro rfl
        rfl

/-- A call adds the row of its event unless the event is held. -/
theorem append_of_holds
    {table : AuditTable} {events : List StampedEvent} {event : StampedEvent}
    (holds : Holds table events) (recordable : Recordable event) :
    ∃ after, append table event = .ok after ∧
      Holds after (if event.eventId ∈ events.map StampedEvent.eventId then events
        else events ++ [event]) := by
  obtain ⟨payload, utc, made, -, -⟩ := exists_toRow recordable
  have known := any_eventId_iff holds event.eventId
  rw [append, made, ok_bind]
  by_cases member : event.eventId ∈ events.map StampedEvent.eventId
  · rw [if_pos member]
    exact ⟨table, if_pos (known.2 member), holds⟩
  · rw [if_neg member]
    refine ⟨_, if_neg fun found => member (known.1 found), ?_⟩
    exact List.rel_append holds (.cons made .nil)

end SqliteAuditLog

/-- The table holds the first event of each identifier. -/
theorem tableAfter_holds {calls : List StampedEvent} (recordable : ∀ event ∈ calls, Recordable event) :
    SqliteAuditLog.Holds (tableAfter calls) (firstsByKey StampedEvent.eventId calls) := by
  induction calls using List.reverseRecOn with
  | nil => exact .nil
  | append_singleton calls event induction =>
      have before := induction fun other member => recordable other (List.mem_append_left _ member)
      obtain ⟨after, appended, holds⟩ := SqliteAuditLog.append_of_holds before
        (recordable event (List.mem_append_right _ List.mem_cons_self))
      rw [firstsByKey_concat, tableAfter, List.foldl_append]
      change SqliteAuditLog.Holds
        ((SqliteAuditLog.append (tableAfter calls) event).toOption.getD (tableAfter calls)) _
      rw [appended]
      exact holds

/-- The log in memory holds the first event of each identifier. -/
theorem memoryAfter_eq (calls : List StampedEvent) :
    (memoryAfter calls).events = firstsByKey StampedEvent.eventId calls ∧
      (memoryAfter calls).eventIds =
        (firstsByKey StampedEvent.eventId calls).map StampedEvent.eventId := by
  induction calls using List.reverseRecOn with
  | nil => exact ⟨rfl, rfl⟩
  | append_singleton calls event induction =>
      obtain ⟨events, eventIds⟩ := induction
      have step : memoryAfter (calls ++ [event]) = (memoryAfter calls).append event := by
        rw [memoryAfter, List.foldl_append]
        rfl
      rw [step, firstsByKey_concat, InMemoryAuditLog.append, eventIds]
      split_ifs
      · exact ⟨events, eventIds⟩
      · rw [events, List.map_append, List.map_singleton]
        exact ⟨rfl, rfl⟩

/-- The query can be asked: its bounds are instants a UTC clock can show. -/
def AuditQuery.Representable : AuditQuery → Prop
  | .byTimeRange start stop =>
      (0 ≤ start.instant ∧ start.instant < clockEnd) ∧
        (0 ≤ stop.instant ∧ stop.instant < clockEnd)
  | _ => True

namespace SqliteAuditLog

/-- The row of an event is among what a query asks for. -/
def matching : AuditQuery → StampedEvent → Bool
  | .byWorkflow workflowId, event => event.workflowId = workflowId
  | .byDevice deviceId, event => serializeTarget event.targetId = some deviceId.text
  | .byTimeRange start stop, event =>
      start.instant ≤ event.timestamp.instant && event.timestamp.instant < stop.instant

theorem ofList_lt_ofList_iff (first second : List Char) :
    String.ofList first < String.ofList second ↔ first < second := by
  change (String.ofList first).toList < (String.ofList second).toList ↔ _
  rw [String.toList_ofList, String.toList_ofList]

/-- The condition on the row of an event is one on the event. -/
theorem exists_condition {asked : AuditQuery} (representable : asked.Representable) :
    ∃ wanted, condition asked = .ok wanted ∧
      ∀ row event, toRow event = .ok row → wanted row = matching asked event := by
  cases asked with
  | byWorkflow workflowId =>
      refine ⟨_, rfl, ?_⟩
      intro row event made
      obtain ⟨payload, utc, -, rfl⟩ := of_toRow_eq_ok made
      rfl
  | byDevice deviceId =>
      refine ⟨_, rfl, ?_⟩
      intro row event made
      obtain ⟨payload, utc, -, rfl⟩ := of_toRow_eq_ok made
      rfl
  | byTimeRange start stop =>
      obtain ⟨first, isFirst⟩ := utc?_of_instant representable.1
      obtain ⟨last, isLast⟩ := utc?_of_instant representable.2
      refine ⟨_, by rw [condition, utcText_eq isFirst, utcText_eq isLast]; rfl, ?_⟩
      intro row event made
      obtain ⟨payload, utc, converted, rfl⟩ := of_toRow_eq_ok made
      have before := Datetime.utcText_lt_iff converted isFirst
      have after := Datetime.utcText_lt_iff converted isLast
      simp only [rowOf, matching, ofList_lt_ofList_iff, before, after, ← decide_not, Int.not_lt]

/--
A query finds the events it asks for among those the table holds, in the order
in which they were inserted.
-/
theorem query_of_holds
    {table : AuditTable} {events : List StampedEvent} (holds : Holds table events)
    (recordable : ∀ event ∈ events, Recordable event) {asked : AuditQuery}
    (representable : asked.Representable) :
    ∃ found, query table asked = .ok found ∧
      found.map StampedEvent.asInstant =
        (events.filter (matching asked)).map fun event => event.asInstant.reread := by
  obtain ⟨wanted, isWanted, same⟩ := exists_condition representable
  have rows : Holds (table.filter wanted) (events.filter (matching asked)) :=
    List.rel_filter (fun row event made => iff_of_eq (congrArg (· = true) (same row event made)))
      holds
  obtain ⟨found, isFound, foundSame⟩ := mapM_of_holds rows fun event member =>
    recordable event (List.mem_of_mem_filter member)
  refine ⟨found, ?_, foundSame⟩
  rw [query, isWanted, ok_bind, isFound]
  rfl

end SqliteAuditLog

/-- What a query finds in the table after a sequence of calls. -/
theorem query_tableAfter
    {calls : List StampedEvent} (recordable : ∀ event ∈ calls, Recordable event)
    {asked : AuditQuery} (representable : asked.Representable) :
    ∃ found, SqliteAuditLog.query (tableAfter calls) asked = .ok found ∧
      found.map StampedEvent.asInstant =
        ((firstsByKey StampedEvent.eventId calls).filter (SqliteAuditLog.matching asked)).map
          fun event => event.asInstant.reread :=
  SqliteAuditLog.query_of_holds (tableAfter_holds recordable)
    (fun event member => recordable event (mem_of_mem_firstsByKey member)) representable

end Snapl.Orchestrator
