import Snapl.Orchestrator.AuditLogRun

/-!
# Two audit logs, one store

Whatever events are appended, in whatever order and however often, the log in
memory and the table hold the same events and every query finds the same ones in
both.  Only the limits of the table's texts set them apart: an instant outside of
the years a UTC clock can show and an integer of too many digits end a call in an
exception, while the log in memory takes them.
-/

namespace Snapl.Contract

open Snapl.Library Snapl.Intent Snapl.Orchestrator

/-- The first event of each identifier. -/
abbrev kept (calls : List StampedEvent) : List StampedEvent :=
  firstsByKey StampedEvent.eventId calls

/-- The same events, field for field, with their timestamps as instants. -/
def SameEvents (events others : List StampedEvent) : Prop :=
  (events.map StampedEvent.asInstant).Perm (others.map StampedEvent.asInstant)

/--
After the calls both logs hold the first event of each identifier, and queries
of a kind find the same events in both: those that match.
-/
structure SameStore (calls : List StampedEvent) (asks : AuditQuery → Prop) : Prop where
  once : ((kept calls).map StampedEvent.eventId).Nodup
  memory : (memoryAfter calls).events = kept calls
  table : ∃ held, (tableAfter calls).mapM SqliteAuditLog.rowToEvent = .ok held ∧
    SameEvents held (kept calls)
  memoryFinds : ∀ asked, asks asked →
    SameEvents ((memoryAfter calls).query asked)
      ((kept calls).filter (InMemoryAuditLog.matching asked))
  tableFinds : ∀ asked, asks asked → ∃ found,
    SqliteAuditLog.query (tableAfter calls) asked = .ok found ∧
      SameEvents found ((kept calls).filter (InMemoryAuditLog.matching asked))

/-- The target of an event is no use case that is named like an identifier. -/
def PlainTarget (event : StampedEvent) : Prop :=
  ∀ name, event.targetId = some (.useCase name) → UUID.parse name = none

/--
The texts of timestamps in the table are in the order of the instants, and are read
as the instants; a range query selects the rows from its first bound up to its last.
-/
theorem utcText_orders_like_time
    (moment other start stop : Datetime)
    (inRange : 0 ≤ moment.instant ∧ moment.instant < clockEnd)
    (otherInRange : 0 ≤ other.instant ∧ other.instant < clockEnd)
    (representable : (AuditQuery.byTimeRange start stop).Representable) :
    ∃ text otherText wanted,
      SqliteAuditLog.utcText moment = .ok text ∧ SqliteAuditLog.utcText other = .ok otherText ∧
      (text < otherText ↔ moment.instant < other.instant) ∧
      (text = otherText ↔ moment.instant = other.instant) ∧
      (∃ read, Datetime.fromisoformat text.toList = some read ∧
        read.instant = moment.instant) ∧
      SqliteAuditLog.condition (.byTimeRange start stop) = .ok wanted ∧
      ∀ row : AuditRow, row.timestamp = text →
        (wanted row = true ↔ start.instant ≤ moment.instant ∧ moment.instant < stop.instant) := by
  obtain ⟨utc, converted⟩ := SqliteAuditLog.utc?_of_instant inRange
  obtain ⟨otherUtc, otherConverted⟩ := SqliteAuditLog.utc?_of_instant otherInRange
  obtain ⟨first, isFirst⟩ := SqliteAuditLog.utc?_of_instant representable.1
  obtain ⟨last, isLast⟩ := SqliteAuditLog.utc?_of_instant representable.2
  obtain ⟨instant, offset⟩ := Datetime.instant_utc? converted
  have order := Datetime.utcText_lt_iff converted otherConverted
  have reverse := Datetime.utcText_lt_iff otherConverted converted
  have filter : SqliteAuditLog.condition (.byTimeRange start stop) = .ok fun row =>
      !(row.timestamp < String.ofList (Datetime.isoformatUtc first)) &&
        row.timestamp < String.ofList (Datetime.isoformatUtc last) := by
    rw [SqliteAuditLog.condition, SqliteAuditLog.utcText_eq isFirst,
      SqliteAuditLog.utcText_eq isLast]
    rfl
  refine ⟨_, _, _, SqliteAuditLog.utcText_eq converted, SqliteAuditLog.utcText_eq otherConverted,
    ?_, ?_, ⟨utc, ?_, instant⟩, filter, ?_⟩
  · rw [SqliteAuditLog.ofList_lt_ofList_iff, order]
  · constructor
    · intro same
      have chars := String.ofList_injective same
      rw [chars] at order reverse
      have irreflexive := List.lt_irrefl (Datetime.isoformatUtc otherUtc)
      have notBefore : ¬ moment.instant < other.instant := fun less => irreflexive (order.2 less)
      have notAfter : ¬ other.instant < moment.instant := fun less => irreflexive (reverse.2 less)
      omega
    · intro same
      rw [Datetime.utc?_eq_of_instant same, otherConverted] at converted
      rw [Option.some.inj converted]
  · rw [String.toList_ofList, Datetime.fromisoformat_isoformatUtc offset]
  · intro row isText
    have before := Datetime.utcText_lt_iff converted isFirst
    have after := Datetime.utcText_lt_iff converted isLast
    simp only [isText, SqliteAuditLog.ofList_lt_ofList_iff, before, after, Bool.and_eq_true,
      Bool.not_eq_true', decide_eq_true_eq, decide_eq_false_iff_not, Int.not_lt]

/-- One o'clock in UTC on the first day, shown by a clock an hour ahead. -/
def eastClock : Datetime := ⟨7200000000, 3600000000, by decide, by decide⟩

/-- A microsecond later, shown by a clock an hour behind. -/
def westClock : Datetime := ⟨1, -3600000000, by decide, by decide⟩

theorem zero_clockInRange : 0 < clockEnd := by decide

theorem zero_offsetInRange : -(dayMicros : Int) < 0 ∧ (0 : Int) < dayMicros := by decide

/-- The first instant. -/
def firstInstant : Datetime := ⟨0, 0, zero_clockInRange, zero_offsetInRange⟩

theorem clocks_orderLikeTime :
    ∃ text otherText wanted,
      SqliteAuditLog.utcText eastClock = .ok text ∧
      SqliteAuditLog.utcText westClock = .ok otherText ∧
      (text < otherText ↔ eastClock.instant < westClock.instant) ∧
      (text = otherText ↔ eastClock.instant = westClock.instant) ∧
      (∃ read, Datetime.fromisoformat text.toList = some read ∧
        read.instant = eastClock.instant) ∧
      SqliteAuditLog.condition (.byTimeRange firstInstant westClock) = .ok wanted ∧
      ∀ row : AuditRow, row.timestamp = text →
        (wanted row = true ↔ firstInstant.instant ≤ eastClock.instant ∧
          eastClock.instant < westClock.instant) :=
  utcText_orders_like_time eastClock westClock firstInstant westClock (by decide) (by decide)
    ⟨by decide, by decide⟩

section

variable {event : StampedEvent}

theorem readTarget_serializeTarget (plain : PlainTarget event) :
    SqliteAuditLog.readTarget (SqliteAuditLog.serializeTarget event.targetId) =
      event.targetId := by
  rcases target : event.targetId with _ | id | name
  · rfl
  · rw [SqliteAuditLog.serializeTarget, SqliteAuditLog.readTarget, UUID.parse_text]
  · rw [SqliteAuditLog.serializeTarget, SqliteAuditLog.readTarget, plain name target]

/-- An event with such a target is read back as it is. -/
theorem reread_of_plain (plain : PlainTarget event) :
    event.asInstant.reread = event.asInstant := by
  have target := readTarget_serializeTarget plain
  simp only [AuditEvent.reread, StampedEvent.asInstant, target]

/-- The table finds an event exactly when the log in memory does. -/
theorem matching_of_plain (plain : PlainTarget event) (asked : AuditQuery) :
    SqliteAuditLog.matching asked event = InMemoryAuditLog.matching asked event := by
  cases asked with
  | byWorkflow workflowId => rfl
  | byTimeRange start stop => rfl
  | byDevice deviceId =>
      rw [SqliteAuditLog.matching, InMemoryAuditLog.matching, decide_eq_decide]
      rcases target : event.targetId with _ | id | name
      · exact iff_of_false (by intro none; cases none) (by intro none; cases none)
      · rw [SqliteAuditLog.serializeTarget, Option.some.injEq, Option.some.injEq,
          Target.device.injEq]
        exact UUID.text_injective.eq_iff
      · rw [SqliteAuditLog.serializeTarget]
        constructor
        · intro same
          have parsed := plain name target
          rw [Option.some.inj same, UUID.parse_text] at parsed
          cases parsed
        · intro same
          cases same

end

theorem sameEvents_query (log : InMemoryAuditLog) (asked : AuditQuery) :
    SameEvents (log.query asked) (log.events.filter (InMemoryAuditLog.matching asked)) :=
  (List.perm_insertionSort _ _).map StampedEvent.asInstant

/-- What the table finds are the events that match. -/
theorem sameEvents_of_plain
    {events found : List StampedEvent} (plain : ∀ event ∈ events, PlainTarget event)
    (asked : AuditQuery)
    (same : found.map StampedEvent.asInstant =
      (events.filter (SqliteAuditLog.matching asked)).map fun event => event.asInstant.reread) :
    SameEvents found (events.filter (InMemoryAuditLog.matching asked)) := by
  have matched : events.filter (SqliteAuditLog.matching asked) =
      events.filter (InMemoryAuditLog.matching asked) :=
    List.filter_congr fun event member => matching_of_plain (plain event member) asked
  rw [SameEvents, same, matched]
  apply List.Perm.of_eq
  apply List.map_congr_left
  intro event member
  exact reread_of_plain (plain event (List.mem_of_mem_filter member))

/--
Both logs are the same store for events whose instants a UTC clock can show, whose
payloads can be written and whose targets are no text that is read as an identifier.
-/
theorem stores_agree
    (calls : List StampedEvent) (recordable : ∀ event ∈ calls, Recordable event)
    (plain : ∀ event ∈ calls, PlainTarget event) :
    SameStore calls AuditQuery.Representable := by
  have plainKept : ∀ event ∈ kept calls, PlainTarget event :=
    fun event member => plain event (mem_of_mem_firstsByKey member)
  have events := (memoryAfter_eq calls).1
  refine ⟨nodup_keys_firstsFrom, events, ?_, ?_, ?_⟩
  · obtain ⟨held, isHeld, same⟩ := SqliteAuditLog.mapM_of_holds (tableAfter_holds recordable)
      fun event member => recordable event (mem_of_mem_firstsByKey member)
    refine ⟨held, isHeld, ?_⟩
    rw [SameEvents, same]
    apply List.Perm.of_eq
    apply List.map_congr_left
    intro event member
    exact reread_of_plain (plainKept event member)
  · intro asked _
    have found := sameEvents_query (memoryAfter calls) asked
    rw [events] at found
    exact found
  · intro asked representable
    obtain ⟨found, isFound, same⟩ := query_tableAfter recordable representable
    exact ⟨found, isFound, sameEvents_of_plain plainKept asked same⟩

/-- A started scan on the clock of a zone east of UTC. -/
def scanStarted : StampedEvent where
  targetId := some (.useCase "leaf-spine")
  eventType := .workflowStarted
  payload := [("devices", .int 2)]
  eventId := ⟨1⟩
  workflowId := "scan-1"
  workflowType := "ScanDrift"
  timestamp := ⟨7200000000, 3600000000, by decide, by decide⟩
  valid := by decide

/-- The same event, sent again with other content. -/
def scanStartedAgain : StampedEvent :=
  { scanStarted with
    payload := []
    valid := ⟨scanStarted.valid.activity, scanStarted.valid.terminated,
      scanStarted.valid.outcome, scanStarted.valid.actor, by decide⟩ }

theorem scanStarted_recordable : Recordable scanStarted where
  payload := by
    apply JsonText.Encodable.obj (by decide)
    intro field member
    rw [List.mem_singleton.1 member]
    exact .int (by decide +kernel)
  instant := by decide

theorem scanStartedAgain_recordable : Recordable scanStartedAgain where
  payload := by
    apply JsonText.Encodable.obj (by decide)
    intro field member
    cases member
  instant := by decide

theorem scanStarted_plain : PlainTarget scanStarted := by
  intro name target
  obtain rfl : "leaf-spine" = name := by
    rw [scanStarted, Option.some.injEq, Target.useCase.injEq] at target
    exact target
  decide +kernel

theorem resent_events_agree :
    SameStore [scanStarted, scanStartedAgain] AuditQuery.Representable := by
  apply stores_agree
  · intro event member
    rcases List.mem_pair.1 member with rfl | rfl
    · exact scanStarted_recordable
    · exact scanStartedAgain_recordable
  · intro event member
    rcases List.mem_pair.1 member with rfl | rfl
    · exact scanStarted_plain
    · exact scanStarted_plain

/-- An event before the year 1 in UTC. -/
def earlyEvent : StampedEvent :=
  { scanStartedAgain with timestamp := ⟨0, 3600000000, by decide, by decide⟩ }

/-- The least number with more digits than are converted. -/
@[irreducible]
def hugeInteger : Int := 10 ^ maxDigits

theorem power_not_lt (digits : Nat) : ¬ ((10 : Int) ^ digits).natAbs < 10 ^ digits := by
  rw [Int.natAbs_pow]
  exact Nat.lt_irrefl _

theorem hugeInteger_not_convertible : ¬ Convertible hugeInteger := by
  unfold Convertible hugeInteger
  exact power_not_lt maxDigits

/-- An event with an integer of too many digits. -/
def hugeEvent : StampedEvent :=
  { scanStarted with
    payload := [("devices", .int hugeInteger)]
    valid := ⟨scanStarted.valid.activity, scanStarted.valid.terminated,
      scanStarted.valid.outcome, scanStarted.valid.actor, by decide⟩ }

/-- A range that starts before the year 1 in UTC. -/
def earlyRange : AuditQuery := .byTimeRange earlyEvent.timestamp scanStarted.timestamp

/-- An event the table refuses is held by the log in memory only. -/
theorem not_sameStore_of_refused
    {event : StampedEvent} {failure : AuditLogFailure}
    (refused : SqliteAuditLog.toRow event = .error failure) (asks : AuditQuery → Prop) :
    ¬ SameStore [event] asks := by
  intro same
  have empty : tableAfter [event] = [] := by
    change (SqliteAuditLog.append [] event).toOption.getD [] = []
    rw [SqliteAuditLog.append, refused]
    rfl
  obtain ⟨held, isHeld, perm⟩ := same.table
  rw [empty] at isHeld
  obtain rfl := Except.ok.inj isHeld
  have length := perm.length_eq
  cases length

theorem toRow_earlyEvent : SqliteAuditLog.toRow earlyEvent = .error .overflowError := by
  have dumped : JsonText.dumps (.obj earlyEvent.payload) = .ok ['\x7b', '\x7d'] := by
    change JsonText.dumps (.obj []) = _
    rw [JsonText.dumps]
  have early : earlyEvent.timestamp.utc? = none := by decide
  rw [SqliteAuditLog.toRow, dumped, SqliteAuditLog.utcText, Datetime.utcText?, early]
  rfl

theorem toRow_hugeEvent :
    SqliteAuditLog.toRow hugeEvent = .error (.python .valueError) := by
  have dumped : JsonText.dumps (.obj hugeEvent.payload) = .error .valueError := by
    change JsonText.dumps (.obj [("devices", .int hugeInteger)]) = _
    rw [JsonText.dumps, JsonText.dumps, strOfInt, if_neg hugeInteger_not_convertible, error_bind]
  rw [SqliteAuditLog.toRow, dumped, Except.mapError, error_bind]

/--
The stores differ after an event before the year 1 in UTC, after an event with an
integer of too many digits, and when they are asked for a range from before the year 1.
-/
theorem stores_differ :
    (PlainTarget earlyEvent ∧ JsonText.Encodable (.obj earlyEvent.payload) ∧
      ¬ SameStore [earlyEvent] fun _ => True) ∧
    (PlainTarget hugeEvent ∧ hugeEvent.timestamp = scanStarted.timestamp ∧
      hugeEvent.payload = [("devices", .int hugeInteger)] ∧
      ¬ SameStore [hugeEvent] fun _ => True) ∧
    ¬ SameStore [] fun asked => asked = earlyRange := by
  refine ⟨⟨scanStarted_plain, scanStartedAgain_recordable.payload, ?_⟩,
    ⟨scanStarted_plain, rfl, rfl, ?_⟩, ?_⟩
  · exact not_sameStore_of_refused toRow_earlyEvent _
  · exact not_sameStore_of_refused toRow_hugeEvent _
  · intro same
    obtain ⟨found, isFound, -⟩ := same.tableFinds earlyRange rfl
    have early : earlyEvent.timestamp.utc? = none := by decide
    rw [SqliteAuditLog.query, earlyRange, SqliteAuditLog.condition, SqliteAuditLog.utcText,
      Datetime.utcText?, early] at isFound
    cases isFound

end Snapl.Contract
