import Snapl.Contract.Selection

/-!
# The decision record of a scheduled run

When its audit appends succeed, a scheduled run leaves a complete record of what
it decided: which devices it repaired and how that ended, which it left alone
and why, and their counts.  It does so even when its reconcile did not complete.
-/

namespace Snapl.Orchestrator.DriftResponse

open Snapl.Library Snapl.Intent Snapl.Observability

/-! ## What a record holds -/

/-- The decision an event records. -/
def Decided (decision : String) (body : EventBody) : Bool :=
  body.payload.lookup "decision" = some (.str decision)

/-- The number of devices an event reports as repaired. -/
def remediatedCount (body : EventBody) : Option Json :=
  body.payload.lookup "remediated"

/-- The number of devices an event reports as excluded for a reason. -/
def excludedCount (body : EventBody) (reason : ExclusionReason) : Option Json :=
  match body.payload.lookup "excluded" with
  | some (.obj counts) => some ((counts.lookup reason.value).getD (.int 0))
  | _ => none

/-- The result of a reconcile child, if it returned one. -/
def result? : ChildOutcome ReconcileResult → Option ReconcileResult
  | .returned result => some result
  | _ => none

/-- The event of a device agrees with the selection, the scan and the reconcile. -/
structure DeviceRecord
    (setting : Setting) (request : DriftResponseRequest) (scan : DriftScanResult)
    (deviceId : UUID) (body : EventBody) : Prop where
  eventType : body.eventType = .driftResponse
  target : body.targetId = some (.device deviceId)
  scanned : body.payload.lookup "scan_workflow_id" = some (.str scan.workflowId)
  paths : ∃ report, scan.reports.get? deviceId = some report ∧
    body.payload.lookup "paths" = some (paths report)
  remediated : deviceId ∈ remediated request scan →
    Decided "remediated" body = true ∧
      body.payload.lookup "result" =
        some (.str (remediationResult (result? setting.reconciled) deviceId)) ∧
      body.payload.lookup "reconcile_workflow_id" = some (.str (reconcileId setting))
  excluded : ∀ reason, (excluded request scan).get? deviceId = some reason →
    Decided reason.value body = true

/-- The decisions about the devices of a scan, then the one about the use case. -/
structure DecisionRecord
    (setting : Setting) (request : DriftResponseRequest) (scan : DriftScanResult)
    (deviceEvents : List EventBody) (useCaseEvent : EventBody) : Prop where
  devices : List.Forall₂ (DeviceRecord setting request scan)
    (remediated request scan ++ (excluded request scan).keys) deviceEvents
  distinct : (remediated request scan ++ (excluded request scan).keys).Nodup
  reported : request.mode = .report → deviceEvents = []
  eventType : useCaseEvent.eventType = .driftResponse
  target : useCaseEvent.targetId = some (.useCase request.useCaseId)
  remediated : remediatedCount useCaseEvent =
    some (.int (deviceEvents.countP (Decided "remediated")))
  excluded : ∀ reason, excludedCount useCaseEvent reason =
    some (.int (deviceEvents.countP (Decided reason.value)))

/-! ## The counts -/

theorem value_injective {first second : ExclusionReason}
    (same : first.value = second.value) : first = second := by
  cases first <;> cases second <;> first | rfl | exact absurd same (by decide)

theorem excludedCounts_foldl
    (reasons : List ExclusionReason) (counts : Dict String Nat) (reason : ExclusionReason) :
    ((reasons.foldl
        (fun counts reason =>
          counts.set reason.value ((counts.get? reason.value).getD 0 + 1))
        counts).get? reason.value).getD 0 =
      (counts.get? reason.value).getD 0 + reasons.count reason := by
  induction reasons generalizing counts with
  | nil => rfl
  | cons given rest induction =>
      rw [List.foldl_cons, induction]
      by_cases equal : given = reason
      · subst equal
        rw [Dict.get?_set_self, List.count_cons_self, Option.getD_some]
        omega
      · have differs : reason.value ≠ given.value :=
          fun same => equal (value_injective same.symm)
        rw [Dict.get?_set_of_ne _ _ differs, List.count_cons_of_ne equal]

/-- The counts by reason are the numbers of excluded devices. -/
theorem excludedCounts_get? (left : Dict UUID ExclusionReason) (reason : ExclusionReason) :
    ((excludedCounts left).get? reason.value).getD 0 = left.values.count reason := by
  rw [excludedCounts, excludedCounts_foldl, Dict.get?_empty, Option.getD_none, Nat.zero_add]

theorem excludedCount_responseEvent
    (request : DriftResponseRequest) (target : Target) (mode : DriftResponseMode)
    (scan : DriftScanResult) (targets : List UUID) (left : Dict UUID ExclusionReason)
    (reconcileWorkflowId : Option String) (reason : ExclusionReason) :
    excludedCount
        (responseEvent request target
          (useCasePayload mode scan targets left reconcileWorkflowId)) reason =
      some (.int (left.values.count reason)) := by
  have looked : ((excludedCounts left).entries.map fun entry =>
      (entry.1, Json.int entry.2)).lookup reason.value =
        ((excludedCounts left).get? reason.value).map fun count : Nat => Json.int count :=
    lookup_map_value (fun count : Nat => Json.int count) _ _
  have counted := excludedCounts_get? left reason
  rw [← counted]
  change some ((((excludedCounts left).entries.map fun entry =>
      (entry.1, Json.int entry.2)).lookup reason.value).getD (.int 0)) = _
  rw [looked]
  rcases (excludedCounts left).get? reason.value with _ | count
  · rfl
  · rfl

/-! ## The decisions of a run -/

section Decisions

variable {setting : Setting} {request : DriftResponseRequest} {scan : DriftScanResult}
variable {reconciled : Option ReconcileResult} {failure : Option Incomplete}

/-- The records know the result of the reconcile child. -/
theorem result?_of_reconciled
    (known : Reconciled setting request scan reconciled failure)
    (nonempty : remediated request scan ≠ []) :
    reconciled = result? setting.reconciled := by
  cases known with
  | unneeded empty => exact absurd empty nonempty
  | returned _ child => rw [child]; rfl
  | failed _ child => rw [child]; rfl
  | cancelled _ child => rw [child]; rfl

theorem deviceRecord_of_repaired
    (known : Reconciled setting request scan reconciled failure)
    {deviceId : UUID} {entry : UUID × List (String × Json)}
    (selected : deviceId ∈ remediated request scan)
    (repaired : Repaired scan reconciled
      (reconcileWorkflowId? setting (remediated request scan)) deviceId entry) :
    DeviceRecord setting request scan deviceId
        (responseEvent request (.device entry.1) entry.2) ∧
      (∀ reason : ExclusionReason,
        Decided reason.value (responseEvent request (.device entry.1) entry.2) = false) := by
  obtain ⟨rfl, report, found, payload⟩ := repaired
  have nonempty := List.ne_nil_of_mem selected
  have named : reconcileWorkflowId? setting (remediated request scan) =
      some (reconcileId setting) := if_neg nonempty
  rw [payload, named, result?_of_reconciled known nonempty]
  refine ⟨⟨rfl, rfl, rfl, ⟨report, found, rfl⟩, fun _ => ⟨?_, rfl, rfl⟩, ?_⟩, ?_⟩
  · simp [Decided, responseEvent, remediatedPayload]
  · intro reason given
    exact absurd ((Dict.mem_keys_iff _ _).2 ⟨reason, given⟩)
      (not_excluded_of_remediated selected)
  · intro reason
    cases reason <;> simp [Decided, responseEvent, remediatedPayload, ExclusionReason.value]

theorem decided_of_leftAlone
    {choice : UUID × ExclusionReason} {entry : UUID × List (String × Json)}
    (leftAlone : LeftAlone scan choice entry) (decision : String) :
    Decided decision (responseEvent request (.device entry.1) entry.2) =
      decide (choice.2.value = decision) := by
  obtain ⟨own, report, found, payload⟩ := leftAlone
  simp [payload, Decided, responseEvent, excludedPayload]

theorem deviceRecord_of_leftAlone
    {choice : UUID × ExclusionReason} {entry : UUID × List (String × Json)}
    (chosen : choice ∈ (excluded request scan).entries)
    (leftAlone : LeftAlone scan choice entry) :
    DeviceRecord setting request scan choice.1
      (responseEvent request (.device entry.1) entry.2) := by
  have given : (excluded request scan).get? choice.1 = some choice.2 :=
    (Dict.get?_eq_some_iff _ _ _).2 chosen
  have decides : ∀ decision, Decided decision (responseEvent request (.device entry.1) entry.2) =
      decide (choice.2.value = decision) := decided_of_leftAlone leftAlone
  obtain ⟨own, report, found, payload⟩ := leftAlone
  rw [payload, own] at decides ⊢
  refine ⟨rfl, rfl, rfl, ⟨report, found, rfl⟩, ?_, ?_⟩
  · intro selected
    exact absurd ((Dict.mem_keys_iff _ _).2 ⟨choice.2, given⟩)
      (not_excluded_of_remediated selected)
  · intro reason again
    cases (given.symm.trans again : some choice.2 = some reason)
    rw [decides]
    exact decide_eq_true rfl

variable {repaired leftAlone : List (UUID × List (String × Json))}

/-- The repaired devices are recorded as such. -/
theorem countP_remediated
    (known : Reconciled setting request scan reconciled failure)
    (repairs : List.Forall₂ (fun deviceId entry => deviceId ∈ remediated request scan ∧
      Repaired scan reconciled
        (reconcileWorkflowId? setting (remediated request scan)) deviceId entry)
      (remediated request scan) repaired)
    (leaves : List.Forall₂ (LeftAlone scan) (excluded request scan).entries leftAlone) :
    ((repaired ++ leftAlone).map fun entry =>
        responseEvent request (.device entry.1) entry.2).countP (Decided "remediated") =
      (remediated request scan).length := by
  have repairedCount : (remediated request scan).countP (fun _ => true) =
      repaired.countP fun entry =>
        Decided "remediated" (responseEvent request (.device entry.1) entry.2) := by
    refine countP_eq_of_forall₂ repairs fun deviceId entry ⟨selected, repaired⟩ => ?_
    exact (((deviceRecord_of_repaired known selected repaired).1).remediated selected).1.symm
  have leftCount : (excluded request scan).entries.countP (fun _ => false) =
      leftAlone.countP fun entry =>
        Decided "remediated" (responseEvent request (.device entry.1) entry.2) := by
    refine countP_eq_of_forall₂ leaves fun choice entry leftAlone => ?_
    rw [decided_of_leftAlone leftAlone]
    rcases choice.2 with _ | _ <;> rfl
  rw [List.countP_true] at repairedCount
  rw [List.countP_false] at leftCount
  rw [List.countP_map, List.countP_append]
  simp only [Function.comp_def, ← repairedCount, ← leftCount]
  rfl

/-- The devices left alone for a reason are recorded so. -/
theorem countP_excluded
    (known : Reconciled setting request scan reconciled failure)
    (repairs : List.Forall₂ (fun deviceId entry => deviceId ∈ remediated request scan ∧
      Repaired scan reconciled
        (reconcileWorkflowId? setting (remediated request scan)) deviceId entry)
      (remediated request scan) repaired)
    (leaves : List.Forall₂ (LeftAlone scan) (excluded request scan).entries leftAlone)
    (reason : ExclusionReason) :
    ((repaired ++ leftAlone).map fun entry =>
        responseEvent request (.device entry.1) entry.2).countP (Decided reason.value) =
      (excluded request scan).values.count reason := by
  have repairedCount : (remediated request scan).countP (fun _ => false) =
      repaired.countP fun entry =>
        Decided reason.value (responseEvent request (.device entry.1) entry.2) := by
    refine countP_eq_of_forall₂ repairs fun deviceId entry ⟨selected, repaired⟩ => ?_
    exact ((deviceRecord_of_repaired known selected repaired).2 reason).symm
  have leftCount : (excluded request scan).entries.countP
      (fun choice => choice.2 == reason) =
      leftAlone.countP fun entry =>
        Decided reason.value (responseEvent request (.device entry.1) entry.2) := by
    refine countP_eq_of_forall₂ leaves fun choice entry leftAlone => ?_
    rw [decided_of_leftAlone leftAlone]
    rcases choice.2 with _ | _ <;> cases reason <;> rfl
  rw [List.countP_false] at repairedCount
  rw [List.countP_map, List.countP_append, Dict.values, List.count, List.countP_map]
  simp only [Function.comp_def, ← repairedCount, ← leftCount]
  exact Nat.zero_add _

/-- The decisions of a run are a complete record. -/
theorem decisionRecord_of_decides
    {payloads : List (UUID × List (String × Json))}
    (known : Reconciled setting request scan reconciled failure)
    (decides : Decides setting request scan reconciled payloads) :
    ∃ deviceEvents useCaseEvent,
      decisions setting request scan payloads = deviceEvents ++ [useCaseEvent] ∧
      DecisionRecord setting request scan deviceEvents useCaseEvent := by
  obtain ⟨repaired, leftAlone, built, repairs, leaves⟩ := devicePayloads_eq_ok reconciled
    (reconcileWorkflowId? setting (remediated request scan)) (known_of_selected request scan)
  cases (built.symm.trans decides : Except.ok _ = Except.ok payloads)
  have selectedRepairs : List.Forall₂ (fun deviceId entry =>
      deviceId ∈ remediated request scan ∧ Repaired scan reconciled
        (reconcileWorkflowId? setting (remediated request scan)) deviceId entry)
      (remediated request scan) repaired :=
    (List.forall₂_and_left _ _).2 ⟨fun _ member => member, repairs⟩
  refine ⟨_, _, rfl, ?_, ?_, ?_, rfl, rfl, ?_, ?_⟩
  · rw [List.map_append]
    refine List.rel_append ?_ ?_
    · refine List.forall₂_map_right_iff.2 (selectedRepairs.imp ?_)
      exact fun deviceId entry ⟨selected, repaired⟩ =>
        (deviceRecord_of_repaired known selected repaired).1
    · have chosenLeaves : List.Forall₂ (fun choice entry =>
          choice ∈ (excluded request scan).entries ∧ LeftAlone scan choice entry)
          (excluded request scan).entries leftAlone :=
        (List.forall₂_and_left _ _).2 ⟨fun _ member => member, leaves⟩
      refine List.forall₂_map_left_iff.2 (List.forall₂_map_right_iff.2 (chosenLeaves.imp ?_))
      exact fun choice entry ⟨chosen, leftAlone⟩ =>
        deviceRecord_of_leftAlone chosen leftAlone
  · exact nodup_remediated.append (excluded request scan).keys_nodup
      fun _ selected => not_excluded_of_remediated selected
  · intro report
    have none : selection request scan = ([], Dict.empty) := selection_of_report report
    rw [remediated, none] at repairs
    rw [excluded, none] at leaves
    cases repairs
    cases leaves
    rfl
  · rw [countP_remediated known selectedRepairs leaves]
    rfl
  · intro reason
    rw [excludedCount_responseEvent, countP_excluded known selectedRepairs leaves]

end Decisions

/-! ## Whole runs -/

section Runs

variable (setting : Setting) (request : DriftResponseRequest)

/-- The child a run was waiting for ended in a cancellation. -/
inductive AwaitedChildCancelled : Prop where
  | scan (cancelled : setting.scanned = .cancelled) : AwaitedChildCancelled
  | reconcile {scan : DriftScanResult} (returned : setting.scanned = .returned scan)
      (completed : scan.cancelled = false) (nonempty : remediated request scan ≠ [])
      (cancelled : setting.reconciled = .cancelled) : AwaitedChildCancelled

/--
Every append succeeds, and each child ends with a result, in failure or in
cancellation.
-/
structure Undisturbed : Prop where
  succeed : setting.AppendsSucceed
  uncancelled : setting.cancelAt = none
  scanEnds : setting.scanned ≠ .alreadyStarted
  reconcileEnds : setting.reconciled ≠ .alreadyStarted
  reconciles : ∀ scan, setting.scanned = .returned scan →
    ∀ result, setting.reconciled = .returned result →
      ReconciledBy (remediated request scan) result

/-- The trail of a run says what it decided and how it ended. -/
structure Recorded
    (ending : Except Raised DriftResponseResult) (first : EventBody)
    (middle : List EventBody) (last : EventBody) : Prop where
  started : first.eventType = .workflowStarted
  mode : first.payload.lookup "mode" = some (.str request.mode.value)
  silent : ∀ body ∈ middle, announced body = none
  terminal : announced last ≠ none
  success : announced last = some .success ↔ ∃ result, ending = .ok result
  cancelled : announced last = some .cancelled ↔ AwaitedChildCancelled setting request
  unevaluated : (∀ scan, setting.scanned = .returned scan → scan.cancelled = true) →
    ∀ body ∈ first :: (middle ++ [last]), body.eventType ≠ .driftResponse
  decided : ∀ scan, setting.scanned = .returned scan → scan.cancelled = false →
    ∃ deviceEvents useCaseEvent, middle = deviceEvents ++ [useCaseEvent] ∧
      DecisionRecord setting request scan deviceEvents useCaseEvent

variable {setting request}

theorem announced_decisions
    {scan : DriftScanResult} {payloads : List (UUID × List (String × Json))} :
    ∀ body ∈ decisions setting request scan payloads, announced body = none := by
  intro body member
  rcases List.mem_append.1 member with device | useCase
  · obtain ⟨entry, -, rfl⟩ := List.mem_map.1 device
    rfl
  · rw [List.mem_singleton.1 useCase]
    rfl

/-- A run without a completed scan records no decision. -/
theorem recorded_of_unevaluated
    {raised : Raised} {last : EventBody}
    (unevaluated : ∀ scan, setting.scanned = .returned scan → scan.cancelled = true)
    (terminal : announced last ≠ none) (unsuccessful : announced last ≠ some .success)
    (cancelled : announced last = some .cancelled ↔ setting.scanned = .cancelled) :
    Recorded setting request (.error raised) (startedEvent request) [] last where
  started := rfl
  mode := rfl
  silent := by simp
  terminal := terminal
  success := iff_of_false unsuccessful (by simp)
  cancelled := by
    rw [cancelled]
    constructor
    · exact .scan
    · rintro (cancelled | ⟨returned, completed, -, -⟩)
      · exact cancelled
      · rw [unevaluated _ returned] at completed
        cases completed
  unevaluated := by
    intro _ body member driftResponse
    rcases List.mem_cons.1 member with rfl | member
    · cases driftResponse
    · rcases List.mem_singleton.1 member with rfl
      rw [announced, driftResponse] at terminal
      exact terminal rfl
  decided := by
    intro scan returned completed
    rw [unevaluated scan returned] at completed
    cases completed

/-- A run with a completed scan records its decisions. -/
theorem recorded_of_decides
    {scan : DriftScanResult} {reconciled : Option ReconcileResult}
    {failure : Option Incomplete} {payloads : List (UUID × List (String × Json))}
    {ending : Except Raised DriftResponseResult} {last : EventBody}
    (returned : setting.scanned = .returned scan) (completed : scan.cancelled = false)
    (known : Reconciled setting request scan reconciled failure)
    (decides : Decides setting request scan reconciled payloads)
    (terminal : announced last ≠ none)
    (success : announced last = some .success ↔ ∃ result, ending = .ok result)
    (cancelled : announced last = some .cancelled ↔ failure = some .cancelled) :
    Recorded setting request ending (startedEvent request)
      (decisions setting request scan payloads) last where
  started := rfl
  mode := rfl
  silent := announced_decisions
  terminal := terminal
  success := success
  cancelled := by
    rw [cancelled]
    constructor
    · rintro rfl
      cases known with
      | cancelled nonempty child => exact .reconcile returned completed nonempty child
    · rintro (scanCancelled | @⟨other, again, -, nonempty, child⟩)
      · rw [returned] at scanCancelled
        cases scanCancelled
      · cases (returned.symm.trans again : ChildOutcome.returned scan = .returned other)
        cases known with
        | unneeded empty => exact absurd empty nonempty
        | returned _ ended => rw [child] at ended; cases ended
        | failed _ ended => rw [child] at ended; cases ended
        | cancelled => rfl
  unevaluated := by
    intro never
    rw [never scan returned] at completed
    cases completed
  decided := by
    intro other again _
    cases (returned.symm.trans again : ChildOutcome.returned scan = .returned other)
    exact decisionRecord_of_decides known decides

/--
Every scheduled run whose appends succeed leaves a complete decision record,
whichever way its children end.
-/
theorem decision_record_complete
    (setting : Setting) (request : DriftResponseRequest)
    (undisturbed : Undisturbed setting request) :
    ∃ first middle last,
      ((run setting request).final Journal.blank).trail = first :: (middle ++ [last]) ∧
      Recorded setting request ((run setting request).ending Journal.blank)
        first middle last := by
  have responded := run_responded setting request
  rw [Program.Meets] at responded
  generalize (run setting request).ending Journal.blank = ending at responded ⊢
  generalize ((run setting request).final Journal.blank).trail = trail at responded ⊢
  generalize ((run setting request).final Journal.blank).commands = commands at responded
  cases responded with
  | appendFailed failed =>
      have cut := (Surroundings.cut_of_failed undisturbed.succeed failed).1
      rw [undisturbed.uncancelled] at cut
      cases cut
  | childStarted started =>
      exact absurd started (not_or.2 ⟨undisturbed.scanEnds, undisturbed.reconcileEnds⟩)
  | @scanIncomplete incomplete child =>
      refine ⟨_, [], _, rfl, recorded_of_unevaluated ?_ ?_ ?_ ?_⟩
      · intro scan returned
        cases incomplete <;> cases child.symm.trans returned
      · cases incomplete <;> simp [endEvent, announced]
      · cases incomplete <;> simp [endEvent, announced]
      · cases incomplete with
        | failed failure =>
            have failed : setting.scanned = .failed failure := child
            simp [endEvent, announced, failed]
        | cancelled =>
            have cancelled : setting.scanned = .cancelled := child
            simp [endEvent, announced, cancelled]
  | scanCancelled returned cancelled =>
      refine ⟨_, [], _, rfl, recorded_of_unevaluated ?_ ?_ ?_ ?_⟩
      · intro other again
        cases returned.symm.trans again
        exact cancelled
      · simp [scanCancelledEvent, announced]
      · simp [scanCancelledEvent, announced]
      · simp [scanCancelledEvent, announced, returned]
  | @reconcileIncomplete scan incomplete _ returned completed known decides =>
      refine ⟨_, _, _, rfl, recorded_of_decides returned completed known decides ?_ ?_ ?_⟩
      all_goals cases incomplete
      all_goals simp [endEvent, announced]
  | misreported returned child total =>
      exact absurd (total_of_reconciledBy nodup_remediated
        (undisturbed.reconciles _ returned _ child)) total
  | completed returned completed known decides =>
      refine ⟨_, _, _, rfl, recorded_of_decides returned completed known decides ?_ ?_ ?_⟩
      all_goals simp [terminatedEvent, announced]

end Runs

/-! ## A repair that fails after its scan -/

theorem undisturbed_failedRepair : Undisturbed failedRepair scheduledRepair where
  succeed := fun _ => rfl
  uncancelled := rfl
  scanEnds := nofun
  reconcileEnds := nofun
  reconciles := fun _ _ _ => nofun

theorem failedRepair_recorded :
    ∃ first middle last,
      ((run failedRepair scheduledRepair).final Journal.blank).trail =
        first :: (middle ++ [last]) ∧
      Recorded failedRepair scheduledRepair
        ((run failedRepair scheduledRepair).ending Journal.blank) first middle last :=
  decision_record_complete failedRepair scheduledRepair undisturbed_failedRepair

-- Two devices are left alone, one is repaired with an unknown result, and the run fails.
example :
    ((run failedRepair scheduledRepair).final Journal.blank).trail.map EventBody.targetId =
      [some (.useCase "dcfabric"), some (.device ⟨1⟩), some (.device ⟨2⟩),
        some (.device ⟨3⟩), some (.useCase "dcfabric"), some (.useCase "dcfabric")] := by
  decide +kernel

end Snapl.Orchestrator.DriftResponse
