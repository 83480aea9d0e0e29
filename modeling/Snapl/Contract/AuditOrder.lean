import Snapl.Contract.AuditStores

/-!
# The order of audit queries

The contract of an audit log promises the events of a query in chronological
order.  The log in memory sorts what it finds.  The table returns rows as they were
inserted, so it keeps the promise exactly when the events of the query were first
appended in the order of their timestamps.
-/

namespace Snapl.Contract

open Snapl.Library Snapl.Intent Snapl.Orchestrator

/-- The identifiers of events and the instants of their timestamps. -/
def stamps (events : List StampedEvent) : List (UUID × Int) :=
  events.map fun event => (event.eventId, event.timestamp.instant)

/-- The appended events in the order of their timestamps, ties as they were appended. -/
structure Chronological (appended result : List (UUID × Int)) : Prop where
  ordered : result.Pairwise fun stamp later => stamp.2 ≤ later.2
  ties : ∀ instant, (result.filter fun stamp => stamp.2 = instant) =
    appended.filter fun stamp => stamp.2 = instant

/-- A query of the table returns its events in chronological order. -/
def TableChronological (calls : List StampedEvent) (asked : AuditQuery) : Prop :=
  ∃ found, SqliteAuditLog.query (tableAfter calls) asked = .ok found ∧
    Chronological (stamps ((kept calls).filter (SqliteAuditLog.matching asked))) (stamps found)

/-- A query of the log in memory returns its events in chronological order. -/
def MemoryChronological (calls : List StampedEvent) (asked : AuditQuery) : Prop :=
  Chronological (stamps ((kept calls).filter (InMemoryAuditLog.matching asked)))
    (stamps ((memoryAfter calls).query asked))

/-- The events a query of the table finds were first appended in the order of their timestamps. -/
def AppendedInOrder (calls : List StampedEvent) (asked : AuditQuery) : Prop :=
  ((kept calls).filter (SqliteAuditLog.matching asked)).Pairwise InMemoryAuditLog.NoLater

/-- Sorting keeps the events of one instant as they were. -/
theorem filter_insertionSort (events : List StampedEvent) (instant : Int) :
    ((events.insertionSort InMemoryAuditLog.NoLater).filter fun event =>
        event.timestamp.instant = instant) =
      events.filter fun event => event.timestamp.instant = instant := by
  have tied : (events.filter fun event => event.timestamp.instant = instant).Pairwise
      InMemoryAuditLog.NoLater := by
    apply List.pairwise_of_forall_mem_list
    intro event member other otherMember
    have first := of_decide_eq_true (List.mem_filter.1 member).2
    have second := of_decide_eq_true (List.mem_filter.1 otherMember).2
    rw [InMemoryAuditLog.NoLater, first, second]
  have preserved := (List.sublist_insertionSort tied List.filter_sublist).filter
    fun event => event.timestamp.instant = instant
  rw [List.filter_filter] at preserved
  simp only [Bool.and_self] at preserved
  have size := ((List.perm_insertionSort InMemoryAuditLog.NoLater events).filter
    fun event => event.timestamp.instant = instant).length_eq
  exact (preserved.eq_of_length size.symm).symm

/-- What holds of the instants of stamped events holds of the events. -/
theorem filter_stamps (events : List StampedEvent) (instant : Int) :
    (stamps events).filter (fun stamp => stamp.2 = instant) =
      stamps (events.filter fun event => event.timestamp.instant = instant) := by
  rw [stamps, List.filter_map]
  rfl

/-- The log in memory sorts by time and keeps ties in the order of the calls. -/
theorem memory_chronological (calls : List StampedEvent) (asked : AuditQuery) :
    MemoryChronological calls asked := by
  rw [MemoryChronological, InMemoryAuditLog.query, (memoryAfter_eq calls).1]
  constructor
  · rw [stamps, List.pairwise_map]
    exact List.pairwise_insertionSort InMemoryAuditLog.NoLater _
  · intro instant
    rw [filter_stamps, filter_stamps, filter_insertionSort]

section

variable {calls : List StampedEvent} {asked : AuditQuery}

/-- Events with the same fields have the same stamps. -/
theorem stamps_eq_map (events : List StampedEvent) :
    stamps events =
      (events.map StampedEvent.asInstant).map fun event => (event.eventId, event.timestamp) := by
  rw [stamps, List.map_map]
  rfl

theorem stamps_of_reread
    {events found : List StampedEvent}
    (same : found.map StampedEvent.asInstant = events.map fun event => event.asInstant.reread) :
    stamps found = stamps events := by
  rw [stamps_eq_map, same, stamps_eq_map, List.map_map, List.map_map]
  rfl

/-- The table keeps the promise exactly for events that were appended in order. -/
theorem tableChronological_iff
    (recordable : ∀ event ∈ calls, Recordable event) (representable : asked.Representable) :
    TableChronological calls asked ↔ AppendedInOrder calls asked := by
  obtain ⟨found, isFound, same⟩ := query_tableAfter recordable representable
  have stamped := stamps_of_reread same
  constructor
  · rintro ⟨other, isOther, chronological⟩
    obtain rfl : found = other := Except.ok.inj (isFound.symm.trans isOther)
    have ordered := chronological.ordered
    rw [stamped, stamps, List.pairwise_map] at ordered
    exact ordered
  · intro inOrder
    refine ⟨found, isFound, ?_, ?_⟩
    · rw [stamped, stamps, List.pairwise_map]
      exact inOrder
    · intro instant
      rw [stamped]

end

/--
After any sequence of appended events, a query of both logs returns its events in
chronological order exactly when the events the table finds were first appended in
the order of their timestamps.
-/
theorem chronological_iff
    (calls : List StampedEvent) (recordable : ∀ event ∈ calls, Recordable event)
    (asked : AuditQuery) (representable : asked.Representable) :
    (TableChronological calls asked ∧ MemoryChronological calls asked) ↔
      AppendedInOrder calls asked := by
  rw [tableChronological_iff recordable representable]
  exact and_iff_left (memory_chronological calls asked)

theorem laterClock_inRange : 7260000000 < clockEnd := by decide

/-- A device of the scan that was looked at later. -/
def deviceChecked : StampedEvent :=
  { scanStartedAgain with
    eventId := ⟨2⟩
    timestamp := ⟨7260000000, 3600000000, laterClock_inRange, eastClock.offsetInRange⟩ }

theorem deviceChecked_recordable : Recordable deviceChecked where
  payload := scanStartedAgain_recordable.payload
  instant := by decide

theorem scan_chronological :
    TableChronological [scanStarted, deviceChecked] (.byWorkflow "scan-1") ∧
      MemoryChronological [scanStarted, deviceChecked] (.byWorkflow "scan-1") := by
  refine (chronological_iff _ ?_ _ (by trivial)).2 ?_
  · intro event member
    rcases List.mem_pair.1 member with rfl | rfl
    · exact scanStarted_recordable
    · exact deviceChecked_recordable
  · have both : (kept [scanStarted, deviceChecked]).filter
        (SqliteAuditLog.matching (.byWorkflow "scan-1")) = [scanStarted, deviceChecked] := by
      rfl
    rw [AppendedInOrder, both]
    decide

/-- An append that is retried comes behind that of a later event. -/
theorem retried_append_not_chronological :
    ¬ TableChronological [deviceChecked, scanStarted] (.byWorkflow "scan-1") := by
  intro chronological
  have inOrder := (tableChronological_iff (by
    intro event member
    rcases List.mem_pair.1 member with rfl | rfl
    · exact deviceChecked_recordable
    · exact scanStarted_recordable) (by trivial)).1 chronological
  have both : (kept [deviceChecked, scanStarted]).filter
      (SqliteAuditLog.matching (.byWorkflow "scan-1")) = [deviceChecked, scanStarted] := by
    rfl
  rw [AppendedInOrder, both] at inOrder
  exact absurd inOrder (by decide)

end Snapl.Contract
