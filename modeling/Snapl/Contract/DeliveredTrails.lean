import Snapl.Contract.AuditOrder
import Snapl.Library.Delivery

/-!
# Audit trails over retried appends

Every workflow appends its events about one target one after another, each as
an activity that is retried until it is acknowledged.  An attempt may have
written though nobody learned of it, and may write again long after the
workflow went on.  Many workflows write to one log.

Both logs nevertheless hold of every workflow and target the events up to the
last acknowledged one, or one more, each once and in the order in which they
were recorded; and so does what a query for the workflow returns.
-/

namespace Snapl.Contract

open Snapl.Library Snapl.Intent Snapl.Orchestrator

/-- A workflow, and what its events are about. -/
abbrev AuditStrand := String × Option Target

/-- The strand an event belongs to. -/
def strandOf (event : StampedEvent) : AuditStrand := (event.workflowId, event.targetId)

/-- The trails of workflows that record events a log can hold, by a clock that never goes back. -/
structure RecordedTrails extends Trails strandOf StampedEvent.eventId where
  recordable : ∀ strand, ∀ event ∈ trail strand, Recordable event
  plain : ∀ strand, ∀ event ∈ trail strand, PlainTarget event
  clocked : ∀ strand, (trail strand).Pairwise InMemoryAuditLog.NoLater

/-- Of this strand both logs hold these events and no others, also when asked for the workflow. -/
structure Recorded
    (calls : List StampedEvent) (strand : AuditStrand) (events : List StampedEvent) : Prop where
  memory : ((memoryAfter calls).events.filter fun event => strandOf event = strand) = events
  table : ∃ held, (tableAfter calls).mapM SqliteAuditLog.rowToEvent = .ok held ∧
    (held.filter fun event => strandOf event = strand).map StampedEvent.asInstant =
      events.map StampedEvent.asInstant
  memoryFinds : (((memoryAfter calls).query (.byWorkflow strand.1)).filter
    fun event => strandOf event = strand) = events
  tableFinds : ∃ found,
    SqliteAuditLog.query (tableAfter calls) (.byWorkflow strand.1) = .ok found ∧
      (found.filter fun event => strandOf event = strand).map StampedEvent.asInstant =
        events.map StampedEvent.asInstant

section Strands

variable {calls events : List StampedEvent} {strand : AuditStrand}

/-- The strand of an event is read off its instant form. -/
theorem filter_strand_of_asInstant
    {held : List StampedEvent} (same : held.map StampedEvent.asInstant =
      events.map StampedEvent.asInstant) :
    (held.filter fun event => strandOf event = strand).map StampedEvent.asInstant =
      (events.filter fun event => strandOf event = strand).map StampedEvent.asInstant := by
  have pushed : ∀ list : List StampedEvent,
      (list.filter fun event => strandOf event = strand).map StampedEvent.asInstant =
        (list.map StampedEvent.asInstant).filter fun event =>
          (event.workflowId, event.targetId) = strand := by
    intro list
    rw [List.filter_map]
    rfl
  rw [pushed, pushed, same]

/-- The events of a strand are among those of its workflow. -/
theorem filter_strand_of_workflow (events : List StampedEvent) :
    ((events.filter (InMemoryAuditLog.matching (.byWorkflow strand.1))).filter
        fun event => strandOf event = strand) =
      events.filter fun event => strandOf event = strand := by
  rw [List.filter_filter]
  refine List.filter_congr fun event _ => ?_
  by_cases same : strandOf event = strand
  · have workflow : event.workflowId = strand.1 := congrArg Prod.fst same
    simp [same, InMemoryAuditLog.matching, workflow]
  · simp [same]

/-- Sorting by time keeps the order of a strand whose clock never goes back. -/
theorem filter_strand_of_sorted
    {found : List StampedEvent}
    (held : (found.filter fun event => strandOf event = strand) = events)
    (clocked : events.Pairwise InMemoryAuditLog.NoLater) :
    ((found.insertionSort InMemoryAuditLog.NoLater).filter
      fun event => strandOf event = strand) = events := by
  have among : events.Sublist (found.insertionSort InMemoryAuditLog.NoLater) := by
    refine List.sublist_insertionSort clocked ?_
    rw [← held]
    exact List.filter_sublist
  have own : (events.filter fun event => strandOf event = strand) = events := by
    rw [← held, List.filter_filter]
    simp
  have within := among.filter fun event => decide (strandOf event = strand)
  rw [own] at within
  refine (within.eq_of_length ?_).symm
  rw [← held]
  exact ((List.perm_insertionSort _ found).filter _).length_eq.symm

theorem recorded_of_held
    (recordable : ∀ event ∈ calls, Recordable event) (plain : ∀ event ∈ calls, PlainTarget event)
    (held : ((kept calls).filter fun event => strandOf event = strand) = events)
    (clocked : events.Pairwise InMemoryAuditLog.NoLater) :
    Recorded calls strand events := by
  have stored := (memoryAfter_eq calls).1
  have keptRecordable : ∀ event ∈ kept calls, Recordable event :=
    fun event member => recordable event (mem_of_mem_firstsByKey member)
  have reread : ∀ events : List StampedEvent, (∀ event ∈ events, event ∈ kept calls) →
      (events.map fun event => event.asInstant.reread) = events.map StampedEvent.asInstant :=
    fun events among => List.map_congr_left fun event member =>
      reread_of_plain (plain event (mem_of_mem_firstsByKey (among event member)))
  refine ⟨by rw [stored, held], ?_, ?_, ?_⟩
  · obtain ⟨rows, isRows, same⟩ :=
      SqliteAuditLog.mapM_of_holds (tableAfter_holds recordable) keptRecordable
    rw [reread _ fun _ member => member] at same
    exact ⟨rows, isRows, (filter_strand_of_asInstant same).trans (by rw [held])⟩
  · rw [InMemoryAuditLog.query, stored]
    exact filter_strand_of_sorted ((filter_strand_of_workflow _).trans held) clocked
  · have asked : (AuditQuery.byWorkflow strand.1).Representable := trivial
    obtain ⟨found, isFound, same⟩ := query_tableAfter recordable asked
    have matched : (kept calls).filter (SqliteAuditLog.matching (.byWorkflow strand.1)) =
        (kept calls).filter (InMemoryAuditLog.matching (.byWorkflow strand.1)) := rfl
    rw [matched, reread _ fun _ member => List.mem_of_mem_filter member] at same
    refine ⟨found, isFound, (filter_strand_of_asInstant same).trans ?_⟩
    rw [filter_strand_of_workflow, held]

end Strands

/--
However appends of many workflows interleave, are retried and come late, the
logs hold of each strand what was acknowledged, or one event more, exactly
once and in order, and all of it once everything was acknowledged.
-/
theorem trails_exactly_once
    (trails : RecordedTrails) (deliveries : List (DeliveryEvent AuditStrand)) :
    let state := Transition.reached trails.step Delivery.blank deliveries
    (∀ strand, ∃ count, state.acknowledged strand ≤ count ∧
      count ≤ state.acknowledged strand + 1 ∧
      Recorded state.arrivals strand ((trails.trail strand).take count)) ∧
    ∀ strand, state.acknowledged strand = (trails.trail strand).length →
      Recorded state.arrivals strand (trails.trail strand) := by
  intro state
  have sound := trails.sound_reached deliveries
  have recordable : ∀ event ∈ state.arrivals, Recordable event := by
    intro event arrived
    obtain ⟨strand, member⟩ := sound.sent event arrived
    exact trails.recordable strand event member
  have plain : ∀ event ∈ state.arrivals, PlainTarget event := by
    intro event arrived
    obtain ⟨strand, member⟩ := sound.sent event arrived
    exact trails.plain strand event member
  constructor
  · intro strand
    obtain ⟨count, least, most, held⟩ := sound.held strand
    exact ⟨count, least, most, recorded_of_held recordable plain held
      ((trails.clocked strand).sublist (List.take_sublist _ _))⟩
  · intro strand complete
    exact recorded_of_held recordable plain (sound.heldOf_eq complete) (trails.clocked strand)

/-- The trail of a scan that looks at one device. -/
def scanTrail (strand : AuditStrand) : List StampedEvent :=
  if strand = strandOf scanStarted then [scanStarted, deviceChecked] else []

theorem mem_scanTrail {strand : AuditStrand} {event : StampedEvent}
    (member : event ∈ scanTrail strand) :
    strand = strandOf scanStarted ∧ (event = scanStarted ∨ event = deviceChecked) := by
  rw [scanTrail] at member
  split_ifs at member with same
  · simpa [same] using member
  · cases member

def scanTrails : RecordedTrails where
  trail := scanTrail
  own := by
    intro strand event member
    obtain ⟨rfl, rfl | rfl⟩ := mem_scanTrail member
    · rfl
    · rfl
  once := by
    intro strand
    rw [scanTrail]
    split_ifs
    · decide +kernel
    · exact List.nodup_nil
  keyed := by
    intro first second event member other otherMember same
    obtain ⟨-, rfl | rfl⟩ := mem_scanTrail member <;>
      obtain ⟨-, rfl | rfl⟩ := mem_scanTrail otherMember
    · rfl
    · cases same
    · cases same
    · rfl
  recordable := by
    intro strand event member
    obtain ⟨-, rfl | rfl⟩ := mem_scanTrail member
    · exact scanStarted_recordable
    · exact deviceChecked_recordable
  plain := by
    intro strand event member
    obtain ⟨-, rfl | rfl⟩ := mem_scanTrail member
    · exact scanStarted_plain
    · exact scanStarted_plain
  clocked := by
    intro strand
    rw [scanTrail]
    split_ifs
    · decide +kernel
    · exact List.Pairwise.nil

/-- The first append is acknowledged when it is retried, and arrives once more at the end. -/
def scanDeliveries : List (DeliveryEvent AuditStrand) :=
  [.arrives (strandOf scanStarted) 0, .arrives (strandOf scanStarted) 0,
    .acknowledges (strandOf scanStarted), .arrives (strandOf scanStarted) 1,
    .acknowledges (strandOf scanStarted), .arrives (strandOf scanStarted) 0]

theorem scanTrails_recorded :
    Recorded (Transition.reached scanTrails.step Delivery.blank scanDeliveries).arrivals
      (strandOf scanStarted) [scanStarted, deviceChecked] :=
  (trails_exactly_once scanTrails scanDeliveries).2 (strandOf scanStarted) (by decide +kernel)

end Snapl.Contract
