import Snapl.Orchestrator.ScanRun

/-!
# The structural observer

The observer appends an entry to its audit log for every report it makes.  A
batch is refused before any report is made; then every pair is observed in turn,
its report put under its device and its status counted.

The observer reads a clock of its own, once for the report and once for the
entry.  Its event bus is left out: detection does not touch it.
-/

namespace Snapl.Observability

open Snapl.Library Snapl.Intent Snapl.Orchestrator Snapl.Orchestrator.ScanDrift

inductive AuditOperation where
  | detectDrift
  | emitEvent
  | logAudit
deriving DecidableEq

inductive AuditOutcome where
  | success
  | failure
deriving DecidableEq

/-- A record of one operation. -/
structure AuditEntry where
  operation : AuditOperation
  deviceId : Option UUID
  component : String
  outcome : AuditOutcome
  detail : List (String × Json)
  timestamp : Int
deriving DecidableEq

/-- An audit log, with the most entries it keeps if it is bounded. -/
structure AuditLog where
  entries : List AuditEntry
  maxlen : Option Nat
deriving DecidableEq

/-- Append an entry; a bounded log evicts its oldest one. -/
def AuditLog.append (log : AuditLog) (entry : AuditEntry) : AuditLog :=
  let entries := log.entries ++ [entry]
  match log.maxlen with
  | none => { log with entries := entries }
  | some most =>
      { log with entries := if most < entries.length then entries.tail else entries }

structure StructuralObserver where
  auditLog : AuditLog
  componentName : String
  /-- How often the clock was read. -/
  readings : Nat
deriving DecidableEq

/-- The entry of a report. -/
def reportEntry (component : String) (report : DriftReport) (timestamp : Int) : AuditEntry where
  operation := .detectDrift
  deviceId := some report.deviceId
  component := component
  outcome := .success
  detail := [("status", .str report.status.value), ("item_count", .int report.items.length)]
  timestamp := timestamp

/-- Compare a pair, and record the report. -/
def StructuralObserver.detectDrift
    (clock : Nat → Int) (observer : StructuralObserver) (desired : DesiredState)
    (actual : CollectResult) : Except PyError DriftReport × StructuralObserver :=
  match structuralDrift (clock observer.readings) desired actual with
  | .error error => (.error error, observer)
  | .ok report =>
      (.ok report,
        { observer with
          auditLog := observer.auditLog.append
            (reportEntry observer.componentName report (clock (observer.readings + 1)))
          readings := observer.readings + 2 })

/-- The aggregated outcome of a batch. -/
structure BatchDriftReport where
  reports : Dict UUID DriftReport
  total : Nat
  clean : Nat
  drifted : Nat
  errored : Nat
  summed : clean + drifted + errored = total

/-- Build a batch report, refusing counts that do not add up. -/
def BatchDriftReport.build
    (reports : Dict UUID DriftReport) (total clean drifted errored : Nat) :
    Except PyError BatchDriftReport :=
  if summed : clean + drifted + errored = total then
    .ok ⟨reports, total, clean, drifted, errored, summed⟩
  else .error .valueError

/-- What the loop of a batch accumulates. -/
structure Tally where
  reports : Dict UUID DriftReport
  clean : Nat
  drifted : Nat
  errored : Nat

def Tally.empty : Tally := ⟨Dict.empty, 0, 0, 0⟩

/-- Put a report under a device, and count its status. -/
def Tally.add (tally : Tally) (deviceId : UUID) (report : DriftReport) : Tally :=
  let reports := tally.reports.set deviceId report
  match report.status with
  | .clean => { tally with reports := reports, clean := tally.clean + 1 }
  | .drifted => { tally with reports := reports, drifted := tally.drifted + 1 }
  | .error => { tally with reports := reports, errored := tally.errored + 1 }

/-- Observe the pairs in turn. -/
def StructuralObserver.detectPairs (clock : Nat → Int) :
    StructuralObserver → Tally → List (DesiredState × CollectResult) →
      Except PyError Tally × StructuralObserver
  | observer, tally, [] => (.ok tally, observer)
  | observer, tally, (desired, actual) :: rest =>
      match observer.detectDrift clock desired actual with
      | (.error error, after) => (.error error, after)
      | (.ok report, after) =>
          after.detectPairs clock (tally.add desired.device.id report) rest

/-- Observe a batch of pairs, none of which is mismatched. -/
def StructuralObserver.detectDriftBatch
    (clock : Nat → Int) (observer : StructuralObserver)
    (pairs : List (DesiredState × CollectResult)) :
    Except PyError BatchDriftReport × StructuralObserver :=
  if pairs = [] then (.error .valueError, observer)
  else if ∃ pair ∈ pairs, pair.1.device.id ≠ pair.2.deviceId then (.error .valueError, observer)
  else
    match observer.detectPairs clock Tally.empty pairs with
    | (.error error, after) => (.error error, after)
    | (.ok tally, after) =>
        (BatchDriftReport.build tally.reports pairs.length tally.clean tally.drifted
          tally.errored, after)

/-- A pair of one device is always reported: its collection may fail, its observation does not. -/
theorem structuralDrift_of_same
    (timestamp : Int) {desired : DesiredState} {actual : CollectResult}
    (same : desired.device.id = actual.deviceId) :
    ∃ report, structuralDrift timestamp desired actual = .ok report := by
  rw [structuralDrift, if_neg (not_not.2 same)]
  split_ifs with failed clean
  · have present : actual.error ≠ none := by
      intro absent
      apply actual.failed failed
      rw [absent]
      rfl
    exact ⟨_, dif_pos ⟨rfl, present⟩⟩
  · exact ⟨_, dif_pos ⟨clean, rfl⟩⟩
  · exact ⟨_, dif_pos ⟨clean, rfl⟩⟩

/-- The status of a report: of a failed collection, of an empty diff, or of any other. -/
theorem status_of_structuralDrift
    {timestamp : Int} {desired : DesiredState} {actual : CollectResult} {report : DriftReport}
    (observed : structuralDrift timestamp desired actual = .ok report) :
    report.status =
      if actual.success = false then .error
      else if diffDesiredVsActual desired actual.data = [] then .clean
      else .drifted := by
  rw [structuralDrift] at observed
  split_ifs at observed ⊢
  all_goals exact (build_report_eq_ok observed).2.1

/-- A report of a pair, made at some time. -/
def ReportOf (pair : DesiredState × CollectResult) (report : DriftReport) : Prop :=
  ∃ timestamp, structuralDrift timestamp pair.1 pair.2 = .ok report

/-- An entry of a report, made at some time. -/
def EntryOf (component : String) (report : DriftReport) (entry : AuditEntry) : Prop :=
  ∃ timestamp, entry = reportEntry component report timestamp

theorem statusCount_cons (status : DriftStatus) (report : DriftReport) (rest : List DriftReport) :
    statusCount status (report :: rest) = statusCount status [report] + statusCount status rest := by
  rw [← List.singleton_append, statusCount, List.countP_append]
  rfl

theorem Tally.add_eq (tally : Tally) (deviceId : UUID) (report : DriftReport) :
    tally.add deviceId report =
      { reports := tally.reports.set deviceId report
        clean := tally.clean + statusCount .clean [report]
        drifted := tally.drifted + statusCount .drifted [report]
        errored := tally.errored + statusCount .error [report] } := by
  rw [Tally.add]
  rcases status : report.status with _ | _ | _
  all_goals simp [statusCount, status]

/-- What the loop makes of pairs of one device each: a report and an entry for every pair. -/
structure Detects (observer after : StructuralObserver) (before tally : Tally)
    (pairs : List (DesiredState × CollectResult)) (reports : List DriftReport) : Prop where
  reported : List.Forall₂ ReportOf pairs reports
  kept : tally.reports =
    before.reports.update (reports.map fun report => (report.deviceId, report))
  clean : tally.clean = before.clean + statusCount .clean reports
  drifted : tally.drifted = before.drifted + statusCount .drifted reports
  errored : tally.errored = before.errored + statusCount .error reports
  logged : ∃ entries, List.Forall₂ (EntryOf observer.componentName) reports entries ∧
    after.auditLog = entries.foldl AuditLog.append observer.auditLog

theorem detectPairs_of_same
    (clock : Nat → Int) (observer : StructuralObserver) (before : Tally)
    {pairs : List (DesiredState × CollectResult)}
    (same : ∀ pair ∈ pairs, pair.1.device.id = pair.2.deviceId) :
    ∃ tally after reports, observer.detectPairs clock before pairs = (.ok tally, after) ∧
      Detects observer after before tally pairs reports := by
  induction pairs generalizing observer before with
  | nil =>
      exact ⟨before, observer, [], rfl, .nil, rfl, rfl, rfl, rfl, [], .nil, rfl⟩
  | cons pair rest induction =>
      obtain ⟨desired, actual⟩ := pair
      obtain ⟨report, observed⟩ :=
        structuralDrift_of_same (clock observer.readings) (same _ List.mem_cons_self)
      obtain ⟨tally, after, reports, detects, rest⟩ := induction
        { observer with
          auditLog := observer.auditLog.append
            (reportEntry observer.componentName report (clock (observer.readings + 1)))
          readings := observer.readings + 2 }
        (before.add desired.device.id report)
        fun other member => same other (List.mem_cons_of_mem _ member)
      obtain ⟨entries, entered, logged⟩ := rest.logged
      have device := deviceId_of_structuralDrift observed
      refine ⟨tally, after, report :: reports, ?_, .cons ⟨_, observed⟩ rest.reported, ?_, ?_, ?_, ?_,
        _ :: entries, .cons ⟨_, rfl⟩ entered, logged⟩
      · rw [StructuralObserver.detectPairs, StructuralObserver.detectDrift, observed]
        exact detects
      · rw [rest.kept, Tally.add_eq, List.map_cons, device]
        rfl
      · rw [rest.clean, Tally.add_eq, Nat.add_assoc, ← statusCount_cons]
      · rw [rest.drifted, Tally.add_eq, Nat.add_assoc, ← statusCount_cons]
      · rw [rest.errored, Tally.add_eq, Nat.add_assoc, ← statusCount_cons]

/-- An empty batch, or one with a pair of two devices. -/
def Refused (pairs : List (DesiredState × CollectResult)) : Prop :=
  pairs = [] ∨ ∃ pair ∈ pairs, pair.1.device.id ≠ pair.2.deviceId

theorem detectDriftBatch_of_refused
    (clock : Nat → Int) (observer : StructuralObserver)
    {pairs : List (DesiredState × CollectResult)} (refused : Refused pairs) :
    observer.detectDriftBatch clock pairs = (.error .valueError, observer) := by
  rw [StructuralObserver.detectDriftBatch]
  by_cases empty : pairs = []
  · rw [if_pos empty]
  · rw [if_neg empty, if_pos (refused.resolve_left empty)]

/-- What a batch that is not refused makes: a report and an entry for every pair. -/
structure Aggregates (observer after : StructuralObserver) (batch : BatchDriftReport)
    (pairs : List (DesiredState × CollectResult)) (reports : List DriftReport) : Prop where
  reported : List.Forall₂ ReportOf pairs reports
  kept : batch.reports = Dict.ofPairs (reports.map fun report => (report.deviceId, report))
  total : batch.total = pairs.length
  clean : batch.clean = statusCount .clean reports
  drifted : batch.drifted = statusCount .drifted reports
  errored : batch.errored = statusCount .error reports
  logged : ∃ entries, List.Forall₂ (EntryOf observer.componentName) reports entries ∧
    after.auditLog = entries.foldl AuditLog.append observer.auditLog

/-- A batch that is not refused is observed to its end. -/
theorem detectDriftBatch_of_same
    (clock : Nat → Int) (observer : StructuralObserver)
    {pairs : List (DesiredState × CollectResult)} (accepted : ¬Refused pairs) :
    ∃ batch after reports, observer.detectDriftBatch clock pairs = (.ok batch, after) ∧
      Aggregates observer after batch pairs reports := by
  rw [Refused, not_or] at accepted
  obtain ⟨present, matched⟩ := accepted
  have same : ∀ pair ∈ pairs, pair.1.device.id = pair.2.deviceId := by
    intro pair member
    by_contra differs
    exact matched ⟨pair, member, differs⟩
  obtain ⟨tally, after, reports, detects, made⟩ :=
    detectPairs_of_same clock observer Tally.empty same
  have clean : tally.clean = statusCount .clean reports := made.clean.trans (Nat.zero_add _)
  have drifted : tally.drifted = statusCount .drifted reports := made.drifted.trans (Nat.zero_add _)
  have errored : tally.errored = statusCount .error reports := made.errored.trans (Nat.zero_add _)
  have summed : tally.clean + tally.drifted + tally.errored = pairs.length := by
    rw [clean, drifted, errored, statusCount_sum, made.reported.length_eq]
  refine ⟨⟨tally.reports, pairs.length, tally.clean, tally.drifted, tally.errored, summed⟩, after,
    reports, ?_, made.reported, made.kept, rfl, clean, drifted, errored, made.logged⟩
  rw [StructuralObserver.detectDriftBatch, if_neg present, if_neg matched, detects]
  change (BatchDriftReport.build tally.reports pairs.length tally.clean tally.drifted
    tally.errored, after) = _
  rw [BatchDriftReport.build, dif_pos summed]

theorem devices_of_reported
    {pairs : List (DesiredState × CollectResult)} {reports : List DriftReport}
    (reported : List.Forall₂ ReportOf pairs reports) :
    reports.map DriftReport.deviceId = pairs.map fun pair => pair.1.device.id := by
  induction reported with
  | nil => rfl
  | cons head _ induction =>
      obtain ⟨timestamp, observed⟩ := head
      rw [List.map_cons, List.map_cons, induction, deviceId_of_structuralDrift observed]

end Snapl.Observability
