import Snapl.Orchestrator.DriftResponseRun
import Snapl.Orchestrator.ReconcileRun

/-!
# The selection and the results agree

The selection partitions a scan, and whatever its reconcile then computes
passes every validator on the way to the summary of the run.  So a run that
completed never fails at its last step.
-/

namespace Snapl.Orchestrator

open Snapl.Library Snapl.Intent Snapl.Observability

/-- The devices a scan found clean. -/
def cleanDevices (scan : DriftScanResult) : List UUID :=
  (scan.reports.entries.filter fun entry => entry.2.status = .clean).map Prod.fst

theorem mem_cleanDevices_iff (scan : DriftScanResult) (deviceId : UUID) :
    deviceId ∈ cleanDevices scan ↔
      ∃ report, scan.reports.get? deviceId = some report ∧ report.status = .clean := by
  rw [cleanDevices, List.mem_map]
  constructor
  · rintro ⟨⟨other, report⟩, member, rfl⟩
    obtain ⟨present, clean⟩ := List.mem_filter.1 member
    exact ⟨report, (Dict.get?_eq_some_iff _ _ _).2 present, by simpa using clean⟩
  · rintro ⟨report, found, clean⟩
    exact ⟨(deviceId, report), List.mem_filter.2
      ⟨(Dict.get?_eq_some_iff _ _ _).1 found, by simpa using clean⟩, rfl⟩

theorem nodup_cleanDevices (scan : DriftScanResult) : (cleanDevices scan).Nodup :=
  List.Nodup.sublist (List.filter_sublist.map Prod.fst) scan.reports.distinct

theorem mem_excluded_iff (scan : DriftScanResult) (deviceId : UUID) :
    deviceId ∈ (selectRemediation scan).2.keys ↔
      ∃ report, scan.reports.get? deviceId = some report ∧ exclusion? report ≠ none := by
  rw [Dict.mem_keys_iff]
  constructor
  · rintro ⟨reason, given⟩
    obtain ⟨report, found, excluded⟩ := (excluded_get?_iff scan deviceId reason).1 given
    exact ⟨report, found, by simp [excluded]⟩
  · rintro ⟨report, found, excluded⟩
    obtain ⟨reason, given⟩ := Option.ne_none_iff_exists'.1 excluded
    exact ⟨reason, (excluded_get?_iff scan deviceId reason).2 ⟨report, found, given⟩⟩

/-- A report has forward drift, or is excluded, or is clean. -/
theorem forward_or_excluded_or_clean (report : DriftReport) :
    hasForwardDrift report = true ∨ exclusion? report ≠ none ∨ report.status = .clean := by
  by_cases forward : hasForwardDrift report = true
  · exact Or.inl forward
  · rcases status : report.status with _ | _ | _
    · exact Or.inr (Or.inr rfl)
    · simp [exclusion?, status, forward]
    · simp [exclusion?, status]

theorem exclusion?_of_clean {report : DriftReport} (clean : report.status = .clean) :
    exclusion? report = none := by
  simp [exclusion?, clean]

theorem exclusion?_eq_errored (report : DriftReport) :
    exclusion? report = some .errored ↔ report.status = .error := by
  rw [exclusion?]
  split_ifs with errored drifted <;> simp [errored]

theorem exclusion?_eq_undesiredOnly (report : DriftReport) :
    exclusion? report = some .undesiredOnly ↔
      report.status = .drifted ∧ ∀ item ∈ report.items, item.undesired = true := by
  rcases status : report.status with _ | _ | _ <;>
    simp [exclusion?, hasForwardDrift, status]

/-- Remediated, excluded and clean devices are the scanned devices, each once. -/
theorem selection_partitions (scan : DriftScanResult) :
    ((selectRemediation scan).1 ++ (selectRemediation scan).2.keys ++
      cleanDevices scan).Perm scan.reports.keys := by
  have disjoint : List.Disjoint (selectRemediation scan).1 (selectRemediation scan).2.keys :=
    fun _ remediated excluded => remediated_not_excluded scan remediated excluded
  have apart : List.Disjoint
      ((selectRemediation scan).1 ++ (selectRemediation scan).2.keys) (cleanDevices scan) := by
    intro deviceId selected clean
    obtain ⟨report, found, clean⟩ := (mem_cleanDevices_iff scan deviceId).1 clean
    rcases List.mem_append.1 selected with remediated | excluded
    · obtain ⟨other, foundOther, forward⟩ := (mem_remediated_iff scan deviceId).1 remediated
      cases found.symm.trans foundOther
      rw [drifted_of_hasForwardDrift forward] at clean
      cases clean
    · obtain ⟨other, foundOther, excluded⟩ := (mem_excluded_iff scan deviceId).1 excluded
      cases found.symm.trans foundOther
      exact excluded (exclusion?_of_clean clean)
  have distinct := ((remediated_nodup scan).append
    (selectRemediation scan).2.keys_nodup disjoint).append (nodup_cleanDevices scan) apart
  rw [List.perm_ext_iff_of_nodup distinct scan.reports.keys_nodup]
  intro deviceId
  rw [List.mem_append, List.mem_append, mem_remediated_iff, mem_excluded_iff,
    mem_cleanDevices_iff, Dict.mem_keys_iff]
  constructor
  · rintro ((⟨report, found, -⟩ | ⟨report, found, -⟩) | ⟨report, found, -⟩)
    all_goals exact ⟨report, found⟩
  · rintro ⟨report, found⟩
    rcases forward_or_excluded_or_clean report with forward | excluded | clean
    · exact Or.inl (Or.inl ⟨report, found, forward⟩)
    · exact Or.inl (Or.inr ⟨report, found, excluded⟩)
    · exact Or.inr ⟨report, found, clean⟩

/-- The summary of a result always passes its validator. -/
theorem exists_fromResult (result : DriftResponseResult) :
    ∃ summary, RunSummary.fromResult result = .ok summary := by
  refine ⟨_, dif_pos ?_⟩
  exact decide_eq_true_iff

/-- What a reconcile of a selection is given, computed from its outcomes. -/
def reconcileOf
    (targets : List UUID) (reconcile : ReconcileResult) : Option ReconcileResult :=
  if targets = [] then none else some reconcile

/-- The reconcile of some devices returned this, whatever it found around it. -/
def ReconciledBy (deviceIds : List UUID) (result : ReconcileResult) : Prop :=
  ∃ child : ReconcileDevices.Setting,
    (ReconcileDevices.run child deviceIds).ending Journal.blank = .ok result

/-- A reconcile of distinct devices counts each of them. -/
theorem total_of_reconciledBy
    {deviceIds : List UUID} {result : ReconcileResult} (distinct : deviceIds.Nodup)
    (reconciled : ReconciledBy deviceIds result) :
    result.total = deviceIds.length := by
  obtain ⟨child, returned⟩ := reconciled
  by_cases nonempty : deviceIds = []
  · rw [ReconcileDevices.run, if_pos nonempty] at returned
    cases returned
  · obtain ⟨ended, -⟩ := ReconcileDevices.run_reconciled child nonempty
    rw [returned] at ended
    generalize ((ReconcileDevices.run child deviceIds).final Journal.blank).trail = trail
      at ended
    cases ended with
    | completed begun settled answered fields =>
        rw [ReconcileDevices.dedupe_of_nodup distinct] at fields
        exact congrArg ReconcileFields.total fields

/-- No validator stands between a scheduled run and its result. -/
theorem run_ne_pyError
    {setting : DriftResponse.Setting} {request : DriftResponseRequest}
    (reconciles : ∀ scan, setting.scanned = .returned scan →
      ∀ result, setting.reconciled = .returned result →
        ReconciledBy (DriftResponse.remediated request scan) result)
    (error : PyError) :
    (DriftResponse.run setting request).ending Journal.blank ≠ .error (.pyError error) := by
  intro raised
  have responded := DriftResponse.run_responded setting request
  rw [Program.Meets, raised] at responded
  generalize ((DriftResponse.run setting request).final Journal.blank).trail = trail
    at responded
  generalize ((DriftResponse.run setting request).final Journal.blank).commands = commands
    at responded
  generalize given : (Except.error (Raised.pyError error) :
    Except Raised DriftResponseResult) = ending at responded
  cases responded with
  | appendFailed failed dispatched =>
      cases given
      exact Surroundings.appendEnding_ne_pyError _ _ failed
  | @scanIncomplete incomplete child =>
      cases incomplete <;> cases given
  | @reconcileIncomplete scan incomplete =>
      cases incomplete <;> cases given
  | misreported returned child total dispatched =>
      refine total ?_
      exact total_of_reconciledBy DriftResponse.nodup_remediated
        (reconciles _ returned _ child)
  | childStarted => cases given
  | scanCancelled => cases given
  | completed => cases given

/--
The selection partitions the scan.  Whatever the outcomes of a reconcile of the
remediated devices are, its result, the result of the scheduled run and its
summary pass their validators, and no scheduled run fails for one of them.
-/
theorem selection_and_results_agree (scan : DriftScanResult) :
    ((selectRemediation scan).1 ++ (selectRemediation scan).2.keys ++
        cleanDevices scan).Perm scan.reports.keys ∧
    ((selectRemediation scan).1 ++ (selectRemediation scan).2.keys ++
        cleanDevices scan).Nodup ∧
    (selectRemediation scan).1.Sublist scan.reports.keys ∧
    (∀ deviceId, deviceId ∈ (selectRemediation scan).1 ↔
      ∃ report, scan.reports.get? deviceId = some report ∧ report.status = .drifted ∧
        ∃ item ∈ report.items, item.undesired = false) ∧
    (∀ deviceId, (selectRemediation scan).2.get? deviceId = some .errored ↔
      ∃ report, scan.reports.get? deviceId = some report ∧ report.status = .error) ∧
    (∀ deviceId, (selectRemediation scan).2.get? deviceId = some .undesiredOnly ↔
      ∃ report, scan.reports.get? deviceId = some report ∧ report.status = .drifted ∧
        ∀ item ∈ report.items, item.undesired = true) ∧
    (∀ (outcomes : List (Option WorkflowResult)) (workflowId : String)
        (setting : DriftResponse.Setting) (request : DriftResponseRequest)
        (startedAt endedAt reconcileStartedAt reconcileEndedAt : Int),
      (selectRemediation scan).1.length = outcomes.length →
      request.mode = .remediate → startedAt ≤ endedAt →
      ∃ reconcile result summary,
        ReconcileResult.build
            ((ReconcileDevices.tally (selectRemediation scan).1 outcomes).fields workflowId
              (selectRemediation scan).1.length reconcileStartedAt reconcileEndedAt) =
          .ok reconcile ∧
        DriftResponseResult.build
            (DriftResponse.resultFields setting request scan (selectRemediation scan).1
              (selectRemediation scan).2
              (reconcileOf (selectRemediation scan).1 reconcile) startedAt endedAt) =
          .ok result ∧
        RunSummary.fromResult result = .ok summary) ∧
    ∀ (setting : DriftResponse.Setting) (request : DriftResponseRequest),
      setting.scanned = .returned scan →
      (∀ result, setting.reconciled = .returned result →
        ReconciledBy (DriftResponse.remediated request scan) result) →
      ∀ error, (DriftResponse.run setting request).ending Journal.blank ≠
        .error (.pyError error) := by
  have partitions := selection_partitions scan
  refine ⟨partitions, partitions.nodup_iff.2 scan.reports.keys_nodup,
    remediated_sublist scan, ?_, ?_, ?_, ?_, ?_⟩
  · intro deviceId
    simp only [mem_remediated_iff, hasForwardDrift_iff]
  · intro deviceId
    simp only [excluded_get?_iff, exclusion?_eq_errored]
  · intro deviceId
    simp only [excluded_get?_iff, exclusion?_eq_undesiredOnly]
  · intro outcomes workflowId setting request startedAt endedAt
      reconcileStartedAt reconcileEndedAt same mode ordered
    obtain ⟨reconcile, reconciles, total⟩ : ∃ reconcile : ReconcileResult,
        ReconcileResult.build
            ((ReconcileDevices.tally (selectRemediation scan).1 outcomes).fields workflowId
              (selectRemediation scan).1.length reconcileStartedAt reconcileEndedAt) =
          .ok reconcile ∧ reconcile.total = (selectRemediation scan).1.length :=
      ⟨_, ReconcileResult.build_of_valid (ReconcileDevices.tally_fields_valid same
        (remediated_nodup scan) workflowId reconcileStartedAt reconcileEndedAt), rfl⟩
    have selected : DriftResponse.selection request scan = selectRemediation scan :=
      DriftResponse.selection_of_remediate mode
    have responds : (DriftResponse.resultFields setting request scan
        (selectRemediation scan).1 (selectRemediation scan).2
        (reconcileOf (selectRemediation scan).1 reconcile) startedAt endedAt).Valid := by
      rw [← selected] at total ⊢
      refine DriftResponse.resultFields_valid ?_ ?_ ordered
      · rw [reconcileOf]
        split_ifs with empty <;> simp [empty]
      · intro result given
        rw [reconcileOf] at given
        split_ifs at given
        · cases given
        · cases given
          exact total
    obtain ⟨summary, summarised⟩ := exists_fromResult ⟨_, responds⟩
    exact ⟨reconcile, _, summary, reconciles,
      DriftResponseResult.build_of_valid responds, summarised⟩
  · intro setting request returned reconciles
    refine run_ne_pyError ?_
    intro other again
    cases (returned.symm.trans again : ChildOutcome.returned scan = .returned other)
    exact reconciles

def missingDescription : DriftItem where
  path := "/interface[name=ethernet-1/1]/description"
  desired := .str "uplink"
  actual := .null
  entityKind := "interface"
  undesired := false
  differs := rfl

def extraNeighbor : DriftItem where
  path := "/network-instance[name=default]/protocols/bgp/neighbor[peer-address=10.0.0.9]"
  desired := .null
  actual := .obj []
  entityKind := "bgp_session"
  undesired := true
  differs := rfl

/-- A device to repair, one with undesired config only, and one that was not seen. -/
def mixedScan : DriftScanResult where
  workflowId := "scan-drift"
  useCaseId := "dcfabric"
  reports := Dict.ofPairs
    [(⟨1⟩, ⟨⟨1⟩, "leaf-01", .drifted, [missingDescription], none, 0, by simp [StatusAgrees]⟩),
      (⟨2⟩, ⟨⟨2⟩, "leaf-02", .drifted, [extraNeighbor], none, 0, by simp [StatusAgrees]⟩),
      (⟨3⟩, DriftReport.failed ⟨3⟩ "leaf-03" "collect failed" 0)]
  total := 3
  clean := 0
  drifted := 2
  errored := 1
  startedAt := 0
  endedAt := 1
  cancelled := false
  valid := by decide

def scheduledRepair : DriftResponseRequest where
  useCaseId := "dcfabric"
  mode := .remediate
  scheduleId := driftScheduleId "dcfabric"
  nonempty := by decide
  scheduled := rfl

/-- A repair whose reconcile fails as a whole. -/
def failedRepair : DriftResponse.Setting where
  toSurroundings := Surroundings.calm "drift-response" none
  scanned := .returned mixedScan
  reconciled := .failed ⟨none, "Child Workflow execution failed"⟩
  patched := true

theorem mixedScan_agrees :
    ∃ reconcile result summary,
      ReconcileResult.build
          ((ReconcileDevices.tally (selectRemediation mixedScan).1 [none]).fields "reconcile"
            (selectRemediation mixedScan).1.length 0 0) = .ok reconcile ∧
        DriftResponseResult.build
            (DriftResponse.resultFields failedRepair scheduledRepair mixedScan
              (selectRemediation mixedScan).1 (selectRemediation mixedScan).2
              (reconcileOf (selectRemediation mixedScan).1 reconcile) 0 1) = .ok result ∧
        RunSummary.fromResult result = .ok summary := by
  obtain ⟨-, -, -, -, -, -, results, -⟩ := selection_and_results_agree mixedScan
  exact results [none] "reconcile" failedRepair scheduledRepair 0 1 0 0 rfl rfl (by decide)

end Snapl.Orchestrator
