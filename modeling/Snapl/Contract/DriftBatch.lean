import Snapl.Observability.StructuralObserver

/-!
# Batches of drift detection

A batch is refused with nothing recorded, or every pair is observed, counted and
recorded.  The reports are kept by device: of a device in several pairs only the
last report is left, although all of them are counted.
-/

namespace Snapl.Contract

open Snapl.Library Snapl.Intent Snapl.Observability Snapl.Orchestrator
  Snapl.Orchestrator.ScanDrift

/-- The status the report of a pair must have. -/
def expectedStatus (pair : DesiredState × CollectResult) : DriftStatus :=
  if pair.2.success = false then .error
  else if diffDesiredVsActual pair.1 pair.2.data = [] then .clean
  else .drifted

/-- A batch report that holds and counts the report of every pair, each recorded once. -/
structure Complete (observer after : StructuralObserver)
    (pairs : List (DesiredState × CollectResult)) (batch : BatchDriftReport) : Prop where
  total : batch.total = pairs.length
  summed : batch.total = batch.clean + batch.drifted + batch.errored
  sized : batch.total = batch.reports.size
  held : ∀ pair ∈ pairs, ∃ report, batch.reports.get? pair.1.device.id = some report ∧
    ReportOf pair report ∧ report.status = expectedStatus pair
  clean : batch.clean = statusCount .clean batch.reports.values
  drifted : batch.drifted = statusCount .drifted batch.reports.values
  errored : batch.errored = statusCount .error batch.reports.values
  recorded : ∃ reports entries, List.Forall₂ ReportOf pairs reports ∧
    List.Forall₂ (EntryOf observer.componentName) reports entries ∧
    after.auditLog = entries.foldl AuditLog.append observer.auditLog

/-- Nothing is done, or everything. -/
def AllOrNothing (clock : Nat → Int) (observer : StructuralObserver)
    (pairs : List (DesiredState × CollectResult)) : Prop :=
  (Refused pairs ∧ ∃ error, observer.detectDriftBatch clock pairs = (.error error, observer)) ∨
    (¬Refused pairs ∧ ∃ batch after,
      observer.detectDriftBatch clock pairs = (.ok batch, after) ∧
        Complete observer after pairs batch)

variable {pairs : List (DesiredState × CollectResult)}

theorem nodup_of_length_eq
    {Item : Type} {distinct items : List Item} (nodup : distinct.Nodup)
    (covered : ∀ item ∈ distinct, item ∈ items) (enough : items.length = distinct.length) :
    items.Nodup := by
  have sub : distinct.Subperm items := List.subperm_of_subset nodup covered
  exact (sub.perm_of_length_le enough.le).nodup_iff.1 nodup

/-- The devices of the reports kept are devices of pairs. -/
theorem mem_keys_of_aggregates
    {observer after : StructuralObserver} {batch : BatchDriftReport} {reports : List DriftReport}
    (made : Aggregates observer after batch pairs reports) :
    ∀ deviceId ∈ batch.reports.keys, deviceId ∈ pairs.map fun pair => pair.1.device.id := by
  intro deviceId member
  rw [made.kept, Dict.ofPairs, Dict.mem_keys_update, List.map_map] at member
  rw [← devices_of_reported made.reported]
  rcases member with absent | present
  · cases absent
  · exact present

/-- With one pair for each device, no report is lost. -/
theorem complete_of_aggregates
    {observer after : StructuralObserver} {batch : BatchDriftReport} {reports : List DriftReport}
    (made : Aggregates observer after batch pairs reports)
    (distinct : (pairs.map fun pair => pair.1.device.id).Nodup) :
    Complete observer after pairs batch := by
  have devices := devices_of_reported made.reported
  have keyed : ((reports.map fun report => (report.deviceId, report)).map Prod.fst).Nodup := by
    rw [List.map_map]
    change (reports.map DriftReport.deviceId).Nodup
    rw [devices]
    exact distinct
  have entries : batch.reports.entries = reports.map fun report => (report.deviceId, report) := by
    rw [made.kept, Dict.entries_ofPairs keyed]
  have values : batch.reports.values = reports := by
    rw [Dict.values, entries, List.map_map]
    exact List.map_id reports
  obtain ⟨logged, entered, appended⟩ := made.logged
  refine
    { total := made.total
      summed := batch.summed.symm
      sized := ?_
      held := ?_
      clean := by rw [values, made.clean]
      drifted := by rw [values, made.drifted]
      errored := by rw [values, made.errored]
      recorded := ⟨reports, logged, made.reported, entered, appended⟩ }
  · rw [made.total, Dict.size, entries, List.length_map, made.reported.length_eq]
  · intro pair member
    obtain ⟨report, reportMember, ⟨timestamp, observed⟩⟩ :=
      exists_mem_of_forall₂ made.reported member
    refine ⟨report, ?_, ⟨timestamp, observed⟩, status_of_structuralDrift observed⟩
    rw [Dict.get?_eq_some_iff, entries, ← deviceId_of_structuralDrift observed]
    exact List.mem_map.2 ⟨report, reportMember, rfl⟩

/--
A batch does nothing or everything exactly where it is refused, or no device
stands in two of its pairs.
-/
theorem allOrNothing_iff
    (clock : Nat → Int) (observer : StructuralObserver)
    (pairs : List (DesiredState × CollectResult)) :
    AllOrNothing clock observer pairs ↔
      Refused pairs ∨ (pairs.map fun pair => pair.1.device.id).Nodup := by
  constructor
  · rintro (⟨refused, -⟩ | ⟨accepted, batch, after, returned, complete⟩)
    · exact Or.inl refused
    · obtain ⟨made, last, reports, detects, aggregates⟩ :=
        detectDriftBatch_of_same clock observer accepted
      rw [returned] at detects
      obtain ⟨sameBatch, -⟩ := Prod.mk.inj detects
      obtain rfl := Except.ok.inj sameBatch
      apply Or.inr
      apply nodup_of_length_eq batch.reports.keys_nodup (mem_keys_of_aggregates aggregates)
      rw [List.length_map, Dict.length_keys, ← complete.total, complete.sized]
  · intro condition
    by_cases refused : Refused pairs
    · exact Or.inl ⟨refused, _, detectDriftBatch_of_refused clock observer refused⟩
    · obtain ⟨batch, after, reports, detects, aggregates⟩ :=
        detectDriftBatch_of_same clock observer refused
      apply Or.inr
      exact ⟨refused, batch, after, detects,
        complete_of_aggregates aggregates (condition.resolve_left refused)⟩

/-- A device without interfaces and sessions. -/
def bareLeaf : DesiredState where
  device := ⟨⟨1⟩, "leaf-01", "172.20.20.11", "dcfabric", none⟩
  interfaces := []
  bgpSessions := []

theorem collected_error : true = true → (none : Option String) = none := fun _ => rfl

theorem collected_filled : true = false → filled? (none : Option String) ≠ none :=
  fun failed => Bool.noConfusion failed

theorem unreached_error : false = true → some "timeout after 30s" = none :=
  fun succeeded => Bool.noConfusion succeeded

theorem unreached_filled : false = false → filled? (some "timeout after 30s") ≠ none :=
  fun _ => by decide

/-- The device collected once, and then not reached. -/
def leafTwice : List (DesiredState × CollectResult) :=
  [(bareLeaf, ⟨⟨1⟩, "leaf-01", true, Dict.empty, none, collected_error, collected_filled⟩),
    (bareLeaf, ⟨⟨1⟩, "leaf-01", false, Dict.empty, some "timeout after 30s", unreached_error,
      unreached_filled⟩)]

def freshObserver : StructuralObserver := ⟨⟨[], none⟩, "StructuralObserver", 0⟩

/-- Of a device in two pairs one report is left, and two are counted. -/
theorem leafTwice_loses_report : ¬AllOrNothing (fun _ => 0) freshObserver leafTwice := by
  have counted : (freshObserver.detectDriftBatch (fun _ => 0) leafTwice).1.map
      (fun batch => (batch.total, batch.reports.size)) = .ok (2, 1) := by
    decide +kernel
  rintro (⟨-, error, raised⟩ | ⟨-, batch, after, returned, complete⟩)
  · rw [raised] at counted
    cases counted
  · rw [returned] at counted
    obtain ⟨total, size⟩ := Prod.mk.inj (Except.ok.inj counted)
    have sized := complete.sized
    rw [total, size] at sized
    cases sized

end Snapl.Contract
