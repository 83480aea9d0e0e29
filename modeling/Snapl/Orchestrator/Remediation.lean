import Snapl.Orchestrator.Models

/-!
# Which drifted devices a scheduled repair may touch

`selectRemediation` splits a scan into devices to reconcile and devices left
alone.  When reports are keyed by their own device, the split is determined
device by device, so it partitions the scan.
-/

namespace Snapl.Orchestrator

open Snapl.Library Snapl.Intent Snapl.Observability

/-- Put one report on its side of the selection. -/
def selectReport
    (selection : List UUID × Dict UUID ExclusionReason)
    (entry : UUID × DriftReport) : List UUID × Dict UUID ExclusionReason :=
  if entry.2.status = .error then
    (selection.1, selection.2.set entry.1 .errored)
  else if hasForwardDrift entry.2 then (selection.1 ++ [entry.1], selection.2)
  else if entry.2.status = .drifted then
    (selection.1, selection.2.set entry.1 .undesiredOnly)
  else selection

/-- Split a scan into devices to reconcile and devices deliberately left alone. -/
def selectRemediation (scan : DriftScanResult) :
    List UUID × Dict UUID ExclusionReason :=
  scan.reports.entries.foldl selectReport ([], Dict.empty)

/-- The reason a report is excluded for. -/
def exclusion? (report : DriftReport) : Option ExclusionReason :=
  if report.status = .error then some .errored
  else if hasForwardDrift report = false ∧ report.status = .drifted then
    some .undesiredOnly
  else none

theorem not_error_of_hasForwardDrift
    {report : DriftReport} (forward : hasForwardDrift report = true) :
    report.status ≠ .error := by
  intro errored
  simp [hasForwardDrift, errored] at forward

theorem drifted_of_hasForwardDrift
    {report : DriftReport} (forward : hasForwardDrift report = true) :
    report.status = .drifted := by
  simp only [hasForwardDrift, Bool.and_eq_true, decide_eq_true_eq] at forward
  exact forward.1

theorem hasForwardDrift_iff (report : DriftReport) :
    hasForwardDrift report = true ↔
      report.status = .drifted ∧ ∃ item ∈ report.items, item.undesired = false := by
  simp [hasForwardDrift, List.any_eq_true]

theorem exclusion?_eq_none_of_forward
    {report : DriftReport} (forward : hasForwardDrift report = true) :
    exclusion? report = none := by
  rw [exclusion?, if_neg (not_error_of_hasForwardDrift forward), if_neg]
  simp [forward]

/-- One report changes the selection by its own side only. -/
theorem selectReport_eq
    (selection : List UUID × Dict UUID ExclusionReason)
    (entry : UUID × DriftReport) :
    selectReport selection entry =
      (selection.1 ++ (if hasForwardDrift entry.2 then [entry.1] else []),
        match exclusion? entry.2 with
        | some reason => selection.2.set entry.1 reason
        | none => selection.2) := by
  rw [selectReport, exclusion?]
  by_cases errored : entry.2.status = .error
  · have notForward : hasForwardDrift entry.2 = false := by
      simp [hasForwardDrift, errored]
    simp [errored, notForward]
  · by_cases forward : hasForwardDrift entry.2 = true
    · simp [errored, forward]
    · have notForward : hasForwardDrift entry.2 = false := by simpa using forward
      by_cases drifted : entry.2.status = .drifted
      · simp [notForward, drifted]
      · simp [errored, notForward, drifted]

/-- The selection after the reports of a list. -/
theorem foldl_selectReport
    (entries : List (UUID × DriftReport))
    (selection : List UUID × Dict UUID ExclusionReason) :
    entries.foldl selectReport selection =
      (selection.1 ++
          (entries.filter fun entry => hasForwardDrift entry.2).map Prod.fst,
        selection.2.update (entries.filterMap fun entry =>
          (exclusion? entry.2).map fun reason => (entry.1, reason))) := by
  induction entries generalizing selection with
  | nil => simp [Dict.update]
  | cons entry rest induction =>
      rw [List.foldl_cons, selectReport_eq, induction]
      apply Prod.ext
      · by_cases forward : hasForwardDrift entry.2 = true
        · simp [forward]
        · simp [forward]
      · rcases reason : exclusion? entry.2 with _ | reason
        · simp [reason]
        · simp [reason, Dict.update]

theorem remediated_eq (scan : DriftScanResult) :
    (selectRemediation scan).1 =
      (scan.reports.entries.filter fun entry =>
        hasForwardDrift entry.2).map Prod.fst := by
  rw [selectRemediation, foldl_selectReport, List.nil_append]

/-- The excluded devices with their reasons, in scan order. -/
theorem excluded_entries_eq (scan : DriftScanResult) :
    (selectRemediation scan).2.entries =
      scan.reports.entries.filterMap fun entry =>
        (exclusion? entry.2).map fun reason => (entry.1, reason) := by
  rw [selectRemediation, foldl_selectReport]
  apply Dict.entries_ofPairs
  refine List.Nodup.sublist ?_ scan.reports.distinct
  have keys : (scan.reports.entries.filterMap fun entry =>
      (exclusion? entry.2).map fun reason => (entry.1, reason)).map Prod.fst =
        (scan.reports.entries.filter fun entry =>
          (exclusion? entry.2).isSome).map Prod.fst := by
    induction scan.reports.entries with
    | nil => rfl
    | cons entry rest induction =>
        rcases reason : exclusion? entry.2 with _ | reason
        · simpa [reason] using induction
        · simpa [reason] using induction
  rw [keys]
  exact List.filter_sublist.map Prod.fst

/-- A device is remediated exactly when its report has forward drift. -/
theorem mem_remediated_iff (scan : DriftScanResult) (id : UUID) :
    id ∈ (selectRemediation scan).1 ↔
      ∃ report, scan.reports.get? id = some report ∧
        hasForwardDrift report = true := by
  rw [remediated_eq, List.mem_map]
  constructor
  · rintro ⟨⟨other, report⟩, member, rfl⟩
    obtain ⟨present, forward⟩ := List.mem_filter.1 member
    exact ⟨report, (Dict.get?_eq_some_iff _ _ _).2 present, forward⟩
  · rintro ⟨report, found, forward⟩
    exact ⟨(id, report),
      List.mem_filter.2 ⟨(Dict.get?_eq_some_iff _ _ _).1 found, forward⟩, rfl⟩

/-- A device is excluded exactly for the reason its report gives. -/
theorem excluded_get?_iff
    (scan : DriftScanResult) (id : UUID) (reason : ExclusionReason) :
    (selectRemediation scan).2.get? id = some reason ↔
      ∃ report, scan.reports.get? id = some report ∧
        exclusion? report = some reason := by
  rw [Dict.get?_eq_some_iff, excluded_entries_eq, List.mem_filterMap]
  constructor
  · rintro ⟨⟨other, report⟩, member, equal⟩
    obtain ⟨given, excluded, pair⟩ := Option.map_eq_some_iff.1 equal
    cases pair
    exact ⟨report, (Dict.get?_eq_some_iff _ _ _).2 member, excluded⟩
  · rintro ⟨report, found, excluded⟩
    exact ⟨(id, report), (Dict.get?_eq_some_iff _ _ _).1 found, by simp [excluded]⟩

theorem remediated_nodup (scan : DriftScanResult) :
    (selectRemediation scan).1.Nodup := by
  rw [remediated_eq]
  exact List.Nodup.sublist (List.filter_sublist.map Prod.fst)
    scan.reports.distinct

/-- The remediated devices are in scan order. -/
theorem remediated_sublist (scan : DriftScanResult) :
    (selectRemediation scan).1.Sublist scan.reports.keys := by
  rw [remediated_eq]
  exact List.filter_sublist.map Prod.fst

/-- No device is both remediated and excluded. -/
theorem remediated_not_excluded
    (scan : DriftScanResult) {id : UUID}
    (remediated : id ∈ (selectRemediation scan).1) :
    id ∉ (selectRemediation scan).2.keys := by
  obtain ⟨report, found, forward⟩ := (mem_remediated_iff scan id).1 remediated
  intro excluded
  obtain ⟨reason, excludedFor⟩ := (Dict.mem_keys_iff _ id).1 excluded
  obtain ⟨other, foundOther, given⟩ := (excluded_get?_iff scan id reason).1 excludedFor
  rw [found, Option.some.injEq] at foundOther
  subst foundOther
  rw [exclusion?_eq_none_of_forward forward] at given
  cases given

/-- Every selected device was scanned. -/
theorem selected_scanned
    (scan : DriftScanResult) {id : UUID}
    (selected : id ∈ (selectRemediation scan).1 ++ (selectRemediation scan).2.keys) :
    id ∈ scan.reports.keys := by
  rcases List.mem_append.1 selected with remediated | excluded
  · exact (remediated_sublist scan).subset remediated
  · obtain ⟨reason, excludedFor⟩ := (Dict.mem_keys_iff _ id).1 excluded
    obtain ⟨report, found, -⟩ := (excluded_get?_iff scan id reason).1 excludedFor
    exact (Dict.mem_keys_iff _ id).2 ⟨report, found⟩

end Snapl.Orchestrator
