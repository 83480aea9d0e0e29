import Snapl.Library.Fallible
import Snapl.Orchestrator.DriftResponse

/-!
# The runs of a scheduled response

A run ends in one of a few ways, which the outcomes of its two children and of
its audit appends decide.  Each way says which children were started and, when
every append succeeded, what the trail holds.
-/

namespace Snapl.Orchestrator.DriftResponse

open Snapl.Library Snapl.Intent Snapl.Observability

/-! ## The selection of a run -/

section Selection

variable {request : DriftResponseRequest} {scan : DriftScanResult}

/-- The devices a run reconciles. -/
abbrev remediated (request : DriftResponseRequest) (scan : DriftScanResult) : List UUID :=
  (selection request scan).1

/-- The devices a run deliberately leaves alone. -/
abbrev excluded
    (request : DriftResponseRequest) (scan : DriftScanResult) :
    Dict UUID ExclusionReason :=
  (selection request scan).2

theorem selection_of_report (report : request.mode = .report) :
    selection request scan = ([], Dict.empty) := by
  rw [selection, report]

theorem selection_of_remediate (remediate : request.mode = .remediate) :
    selection request scan = selectRemediation scan := by
  rw [selection, remediate]

/-- A run that selects a device is a remediate run. -/
theorem remediate_of_nonempty (nonempty : remediated request scan ≠ []) :
    request.mode = .remediate := by
  rcases mode : request.mode with _ | _
  · rw [remediated, selection_of_report mode] at nonempty
    exact absurd rfl nonempty
  · rfl

theorem nodup_remediated : (remediated request scan).Nodup := by
  rcases mode : request.mode with _ | _
  · rw [remediated, selection_of_report mode]
    exact List.nodup_nil
  · rw [remediated, selection_of_remediate mode]
    exact remediated_nodup scan

theorem forward_of_remediated
    {deviceId : UUID} (member : deviceId ∈ remediated request scan) :
    ∃ report, scan.reports.get? deviceId = some report ∧
      hasForwardDrift report = true := by
  rw [remediated, selection_of_remediate
    (remediate_of_nonempty (List.ne_nil_of_mem member))] at member
  exact (mem_remediated_iff scan deviceId).1 member

theorem not_excluded_of_remediated
    {deviceId : UUID} (member : deviceId ∈ remediated request scan) :
    deviceId ∉ (excluded request scan).keys := by
  have mode := remediate_of_nonempty (List.ne_nil_of_mem member)
  rw [remediated, selection_of_remediate mode] at member
  rw [excluded, selection_of_remediate mode]
  exact remediated_not_excluded scan member

variable (request scan) in
theorem known_of_selected :
    ∀ deviceId ∈ remediated request scan ++ (excluded request scan).keys,
      deviceId ∈ scan.reports.keys := by
  intro deviceId selected
  rcases mode : request.mode with _ | _
  · rw [remediated, excluded, selection_of_report mode] at selected
    cases selected
  · rw [remediated, excluded, selection_of_remediate mode] at selected
    exact selected_scanned scan selected

end Selection

/-! ## The records of the devices -/

section Payloads

variable (scan : DriftScanResult) (reconciled : Option ReconcileResult)
variable (reconcileWorkflowId : Option String)

/-- The record of a device that was reconciled. -/
def Repaired (deviceId : UUID) (entry : UUID × List (String × Json)) : Prop :=
  entry.1 = deviceId ∧ ∃ report, scan.reports.get? deviceId = some report ∧
    entry.2 = remediatedPayload scan reconciled reconcileWorkflowId deviceId report

/-- The record of a device that was left alone. -/
def LeftAlone (choice : UUID × ExclusionReason) (entry : UUID × List (String × Json)) : Prop :=
  entry.1 = choice.1 ∧ ∃ report, scan.reports.get? choice.1 = some report ∧
    entry.2 = excludedPayload scan choice.2 report

variable {scan} {targets : List UUID} {left : Dict UUID ExclusionReason}

theorem reportOf_eq_ok {deviceId : UUID} {report : DriftReport} :
    reportOf scan deviceId = .ok report ↔ scan.reports.get? deviceId = some report := by
  rw [reportOf]
  rcases scan.reports.get? deviceId with _ | found <;> simp

/-- Every selected device has its record, in the order of the selection. -/
theorem devicePayloads_eq_ok
    (known : ∀ deviceId ∈ targets ++ left.keys, deviceId ∈ scan.reports.keys) :
    ∃ repaired leftAlone,
      devicePayloads scan targets left reconciled reconcileWorkflowId =
        .ok (repaired ++ leftAlone) ∧
      List.Forall₂ (Repaired scan reconciled reconcileWorkflowId) targets repaired ∧
      List.Forall₂ (LeftAlone scan) left.entries leftAlone := by
  have found : ∀ deviceId ∈ targets ++ left.keys,
      ∃ report, reportOf scan deviceId = .ok report := by
    intro deviceId selected
    obtain ⟨report, present⟩ := (Dict.mem_keys_iff _ deviceId).1 (known deviceId selected)
    exact ⟨report, reportOf_eq_ok.2 present⟩
  obtain ⟨repaired, repairs⟩ := exists_mapM_of_forall
    (fun deviceId => do
      let report ← reportOf scan deviceId
      return (deviceId,
        remediatedPayload scan reconciled reconcileWorkflowId deviceId report))
    targets (by
      intro deviceId member
      obtain ⟨report, given⟩ := found deviceId (List.mem_append_left _ member)
      exact ⟨_, by rw [given]; rfl⟩)
  obtain ⟨leftAlone, leaves⟩ := exists_mapM_of_forall
    (fun choice : UUID × ExclusionReason => do
      let report ← reportOf scan choice.1
      return (choice.1, excludedPayload scan choice.2 report))
    left.entries (by
      intro choice member
      have key : choice.1 ∈ left.keys := List.mem_map_of_mem member
      obtain ⟨report, given⟩ := found choice.1 (List.mem_append_right _ key)
      exact ⟨_, by rw [given]; rfl⟩)
  refine ⟨repaired, leftAlone, ?_, ?_, ?_⟩
  · rw [devicePayloads, repairs, ok_bind, leaves, ok_bind]
    rfl
  · refine ((mapM_eq_ok_iff _ _ _).1 repairs).imp ?_
    intro deviceId entry computed
    obtain ⟨report, given, equal⟩ := (bind_eq_ok _ _ _).1 computed
    cases equal
    exact ⟨rfl, report, reportOf_eq_ok.1 given, rfl⟩
  · refine ((mapM_eq_ok_iff _ _ _).1 leaves).imp ?_
    intro choice entry computed
    obtain ⟨report, given, equal⟩ := (bind_eq_ok _ _ _).1 computed
    cases equal
    exact ⟨rfl, report, reportOf_eq_ok.1 given, rfl⟩

end Payloads

/-! ## How a run ends -/

section Running

variable (setting : Setting) (request : DriftResponseRequest)

/-- The reconcile a run starts for a scan. -/
def dispatch (scan : DriftScanResult) : Command :=
  .reconcileDevices (reconcileId setting) (closePolicy setting) (remediated request scan)

/-- The children a run starts. -/
inductive Dispatched : List Command → Prop where
  | none : Dispatched []
  | scan : Dispatched [.scanDrift (scanId setting) request.useCaseId]
  | reconcile {scan : DriftScanResult} (returned : setting.scanned = .returned scan)
      (completed : scan.cancelled = false) (nonempty : remediated request scan ≠ []) :
      Dispatched [.scanDrift (scanId setting) request.useCaseId, dispatch setting request scan]

/-- What a run knows of its reconcile once it is done with it. -/
inductive Reconciled (scan : DriftScanResult) :
    Option ReconcileResult → Option Incomplete → Prop where
  | unneeded (empty : remediated request scan = []) : Reconciled scan none none
  | returned {result : ReconcileResult} (nonempty : remediated request scan ≠ [])
      (child : setting.reconciled = .returned result) : Reconciled scan (some result) none
  | failed {failure : ChildFailure} (nonempty : remediated request scan ≠ [])
      (child : setting.reconciled = .failed failure) :
      Reconciled scan none (some (.failed failure))
  | cancelled (nonempty : remediated request scan ≠ [])
      (child : setting.reconciled = .cancelled) :
      Reconciled scan none (some .cancelled)

/-- The records of all decisions, with the payloads of the devices. -/
def decisions (scan : DriftScanResult) (payloads : List (UUID × List (String × Json))) :
    List EventBody :=
  payloads.map (fun entry => responseEvent request (.device entry.1) entry.2) ++
    [responseEvent request (.useCase request.useCaseId)
      (useCasePayload request.mode scan (remediated request scan) (excluded request scan)
        (reconcileWorkflowId? setting (remediated request scan)))]

/-- The payloads of a run's decisions. -/
def Decides (scan : DriftScanResult) (reconciled : Option ReconcileResult)
    (payloads : List (UUID × List (String × Json))) : Prop :=
  devicePayloads scan (remediated request scan) (excluded request scan) reconciled
    (reconcileWorkflowId? setting (remediated request scan)) = .ok payloads

/-- The scan ended without a result. -/
def ScanIncomplete : Incomplete → Prop
  | .failed failure => setting.scanned = .failed failure
  | .cancelled => setting.scanned = .cancelled

/-- How a run ends, what its trail then holds, and what it has started. -/
inductive Responded :
    Except Raised DriftResponseResult → List EventBody → List Command → Prop where
  | appendFailed {await : Await} {raised : Raised} {trail : List EventBody}
      {commands : List Command} (failed : setting.appendEnding await = .error raised)
      (dispatched : Dispatched setting request commands) :
      Responded (.error raised) trail commands
  | childStarted {trail : List EventBody} {commands : List Command}
      (started : setting.scanned = .alreadyStarted ∨ setting.reconciled = .alreadyStarted)
      (dispatched : Dispatched setting request commands) :
      Responded (.error .alreadyStarted) trail commands
  | scanIncomplete {incomplete : Incomplete}
      (child : ScanIncomplete setting incomplete) :
      Responded (.error incomplete.raised)
        [startedEvent request, endEvent request .intentUnavailable incomplete]
        [.scanDrift (scanId setting) request.useCaseId]
  | scanCancelled {scan : DriftScanResult} (returned : setting.scanned = .returned scan)
      (cancelled : scan.cancelled = true) :
      Responded (.error (.applicationError (scanCancelledError scan)))
        [startedEvent request, scanCancelledEvent request scan]
        [.scanDrift (scanId setting) request.useCaseId]
  | reconcileIncomplete {scan : DriftScanResult} {incomplete : Incomplete}
      {payloads : List (UUID × List (String × Json))}
      (returned : setting.scanned = .returned scan) (completed : scan.cancelled = false)
      (reconciled : Reconciled setting request scan none (some incomplete))
      (decides : Decides setting request scan none payloads) :
      Responded (.error incomplete.raised)
        (startedEvent request :: (decisions setting request scan payloads ++
          [endEvent request .remediationFailed incomplete]))
        [.scanDrift (scanId setting) request.useCaseId, dispatch setting request scan]
  | misreported {scan : DriftScanResult} {result : ReconcileResult} {error : PyError}
      {trail : List EventBody} {commands : List Command}
      (returned : setting.scanned = .returned scan)
      (child : setting.reconciled = .returned result)
      (total : result.total ≠ (remediated request scan).length)
      (dispatched : Dispatched setting request commands) :
      Responded (.error (.pyError error)) trail commands
  | completed {scan : DriftScanResult} {reconciled : Option ReconcileResult}
      {payloads : List (UUID × List (String × Json))} {result : DriftResponseResult}
      {startedAt endedAt : Int} {commands : List Command}
      (returned : setting.scanned = .returned scan) (completed : scan.cancelled = false)
      (known : Reconciled setting request scan reconciled none)
      (decides : Decides setting request scan reconciled payloads)
      (fields : result.toDriftResponseFields = resultFields setting request scan
        (remediated request scan) (excluded request scan) reconciled startedAt endedAt)
      (dispatched : Dispatched setting request commands) :
      Responded (.ok result)
        (startedEvent request :: (decisions setting request scan payloads ++
          [terminatedEvent request]))
        commands

variable {setting request}

theorem startedEvent_valid : (startedEvent request).Valid := by
  constructor <;> simp [startedEvent, AuditEventType.ofActivity]

theorem endEvent_valid (reason : WorkflowReason) (incomplete : Incomplete) :
    (endEvent request reason incomplete).Valid := by
  cases incomplete <;> constructor <;>
    simp [endEvent, AuditEventType.ofActivity, validOutcomes]

theorem scanCancelledEvent_valid (scan : DriftScanResult) :
    (scanCancelledEvent request scan).Valid := by
  constructor <;> simp [scanCancelledEvent, AuditEventType.ofActivity, validOutcomes]

theorem terminatedEvent_valid : (terminatedEvent request).Valid := by
  constructor <;> simp [terminatedEvent, AuditEventType.ofActivity, validOutcomes]

theorem responseEvent_valid (target : Target) (payload : List (String × Json)) :
    (responseEvent request target payload).Valid := by
  constructor <;> simp [responseEvent, AuditEventType.ofActivity]

/-- The result of a run passes its validator when its reconcile accounts for the selection. -/
theorem resultFields_valid
    {scan : DriftScanResult} {reconciled : Option ReconcileResult} {startedAt endedAt : Int}
    (present : reconciled = none ↔ remediated request scan = [])
    (total : ∀ result ∈ reconciled, result.total = (remediated request scan).length)
    (ordered : startedAt ≤ endedAt) :
    (resultFields setting request scan (remediated request scan) (excluded request scan)
      reconciled startedAt endedAt).Valid where
  report := by
    intro mode
    have none : selection request scan = ([], Dict.empty) := selection_of_report mode
    simp only [resultFields] at mode ⊢
    rw [present, remediated, excluded, none]
    exact ⟨rfl, rfl, rfl⟩
  present := present
  total := total
  disjoint := fun _ member => not_excluded_of_remediated member
  known := known_of_selected request scan
  eligible := by
    intro deviceId member report given
    obtain ⟨found, present, forward⟩ := forward_of_remediated member
    cases (given.symm.trans present : some report = some found)
    exact forward
  time := ordered

variable {before : Journal Command} {scan : DriftScanResult}

/-- These events were recorded, or an append failed. -/
def Appended
    (setting : Setting) (before : Journal Command) (events : List EventBody)
    (ending : Except Raised Unit) (after : Journal Command) : Prop :=
  (ending = .ok () ∧ before.Grew after events []) ∨
    ∃ await raised landed, setting.appendEnding await = .error raised ∧
      ending = .error raised ∧ before.Grew after landed []

theorem audit_meets (await : Await) {body : EventBody} (valid : body.Valid) :
    Program.Meets (audit setting await body) before (Appended setting before [body]) := by
  refine (record_meets workflowType await valid).mono ?_
  rintro ending after ⟨answer, grew⟩
  rcases ended : setting.appendEnding await with raised | _
  · rw [ended] at answer
    exact Or.inr ⟨await, raised, _, ended, answer, grew⟩
  · rw [if_pos (lands_of_appended ended)] at grew
    rw [ended] at answer
    exact Or.inl ⟨answer, grew⟩

theorem Appended.trans
    {recorded after : Journal Command} {events later : List EventBody}
    {ending : Except Raised Unit}
    (earlier : before.Grew recorded events [])
    (appended : Appended setting recorded later ending after) :
    Appended setting before (events ++ later) ending after := by
  rcases appended with ⟨ended, grew⟩ | ⟨await, raised, landed, failed, ended, grew⟩
  · exact Or.inl ⟨ended, earlier.trans grew⟩
  · exact Or.inr ⟨await, raised, _, failed, ended, earlier.trans grew⟩

/-- One audit after another. -/
theorem forEach_audit_meets
    {Item : Type} (await : Item → Await) (body : Item → EventBody)
    (valid : ∀ item, (body item).Valid) (items : List Item) :
    Program.Meets (Program.forEach (fun item => audit setting (await item) (body item)) items)
      before (Appended setting before (items.map body)) := by
  induction items generalizing before with
  | nil => exact Or.inl ⟨rfl, Journal.Grew.refl before⟩
  | cons item rest induction =>
      refine Program.Meets.bind (audit_meets (await item) (valid item)) ?_ ?_
      · rintro _ recorded (⟨-, grew⟩ | ⟨_, _, _, _, ended, _⟩)
        · exact induction.mono fun ending after appended => Appended.trans grew appended
        · cases ended
      · rintro raised after (⟨ended, -⟩ | ⟨await, _, landed, failed, ended, grew⟩)
        · cases ended
        · cases ended
          exact Or.inr ⟨await, raised, landed, failed, rfl, grew⟩

/-- All decisions are recorded, or an append fails. -/
theorem recordDecisions_meets (reconciled : Option ReconcileResult) :
    Program.Meets
      (recordDecisions setting request scan (remediated request scan)
        (excluded request scan) reconciled)
      before fun ending after => ∃ payloads,
        Decides setting request scan reconciled payloads ∧
        Appended setting before (decisions setting request scan payloads) ending after := by
  obtain ⟨repaired, leftAlone, decides, -, -⟩ := devicePayloads_eq_ok reconciled
    (reconcileWorkflowId? setting (remediated request scan))
    (known_of_selected request scan)
  rw [recordDecisions, decides, validated, Except.mapError, Program.meets_bind,
    Program.meets_ofExcept]
  refine Program.Meets.bind (forEach_audit_meets _ _
    (fun entry => responseEvent_valid _ _) (repaired ++ leftAlone)) ?_ ?_
  · rintro _ recorded (⟨-, grew⟩ | ⟨_, _, _, _, ended, _⟩)
    · exact (audit_meets _ (responseEvent_valid _ _)).mono
        fun ending after appended => ⟨_, decides, Appended.trans grew appended⟩
    · cases ended
  · rintro raised after (⟨ended, -⟩ | failed)
    · cases ended
    · exact ⟨_, decides, Or.inr failed⟩

/-- The reconcile a run starts, if it selects any device. -/
def dispatches
    (setting : Setting) (request : DriftResponseRequest) (scan : DriftScanResult) :
    List Command :=
  if remediated request scan = [] then [] else [dispatch setting request scan]

/-- A run is done with its reconcile, or its child identifier is taken. -/
theorem reconcile_meets :
    Program.Meets (reconcile setting (remediated request scan)) before
      fun ending after =>
        before.Grew after [] (dispatches setting request scan) ∧
        ((∃ reconciled failure, ending = .ok (reconciled, failure) ∧
            Reconciled setting request scan reconciled failure) ∨
          setting.reconciled = .alreadyStarted ∧ ending = .error .alreadyStarted) := by
  rw [reconcile, dispatches]
  by_cases empty : remediated request scan = []
  · rw [if_pos empty, if_pos empty]
    exact ⟨Journal.Grew.refl before, Or.inl ⟨none, none, rfl, .unneeded empty⟩⟩
  · rw [if_neg empty, if_neg empty]
    refine Program.Meets.attempt (executeChildWorkflow_meets _ _) ?_ ?_
    · rintro result after ⟨ended, grew⟩
      rcases child : setting.reconciled with given | _ | failure | _
      all_goals rw [child] at ended
      all_goals cases ended
      exact ⟨grew, Or.inl ⟨some result, none, rfl, .returned empty child⟩⟩
    · rintro raised after ⟨ended, grew⟩
      rcases child : setting.reconciled with given | _ | failure | _
      all_goals rw [child] at ended
      all_goals cases ended
      · exact ⟨grew, Or.inr ⟨rfl, rfl⟩⟩
      · exact ⟨grew, Or.inl ⟨none, some (.failed failure), rfl, .failed empty child⟩⟩
      · exact ⟨grew, Or.inl ⟨none, some .cancelled, rfl, .cancelled empty child⟩⟩

theorem dispatched_of_completed
    (returned : setting.scanned = .returned scan) (completed : scan.cancelled = false) :
    Dispatched setting request
      (.scanDrift (scanId setting) request.useCaseId :: dispatches setting request scan) := by
  rw [dispatches]
  split_ifs with empty
  · exact .scan
  · exact .reconcile returned completed empty

/-- A run whose children completed builds its result, records its success and returns. -/
theorem conclude_meets
    {reconciled : Option ReconcileResult} {startedAt : Int}
    {payloads : List (UUID × List (String × Json))}
    (returned : setting.scanned = .returned scan) (completed : scan.cancelled = false)
    (known : Reconciled setting request scan reconciled none)
    (decides : Decides setting request scan reconciled payloads)
    (begun : startedAt ≤ setting.now before.ticks)
    (opened : before.trail = startedEvent request :: decisions setting request scan payloads)
    (dispatched : Dispatched setting request before.commands) :
    Program.Meets
      (conclude setting request scan (remediated request scan) (excluded request scan)
        reconciled startedAt)
      before fun ending after =>
        Responded setting request ending after.trail after.commands := by
  refine Program.Meets.bind now_meets ?_ ?_
  · rintro endedAt read ⟨given, grew, -⟩
    cases given
    by_cases valid : (resultFields setting request scan (remediated request scan)
        (excluded request scan) reconciled startedAt (setting.now before.ticks)).Valid
    · rw [DriftResponseResult.build_of_valid valid, validated, Except.mapError,
        Program.meets_bind, Program.meets_ofExcept]
      refine Program.Meets.bind (audit_meets .terminated terminatedEvent_valid) ?_ ?_
      · rintro _ after (⟨-, grewOn⟩ | ⟨_, _, _, _, ended, _⟩)
        · have commands : after.commands = before.commands := by
            simpa using (grew.trans grewOn).commands
          rw [Program.meets_pure, (grew.trans grewOn).trail, commands, opened]
          exact .completed returned completed known decides rfl dispatched
        · cases ended
      · rintro raised after (⟨ended, -⟩ | ⟨await, _, landed, failed, ended, grewOn⟩)
        · cases ended
        · cases ended
          have commands : after.commands = before.commands := by
            simpa using (grew.trans grewOn).commands
          rw [commands]
          exact .appendFailed failed dispatched
    · rw [DriftResponseResult.build, dif_neg valid, validated, Except.mapError,
        Program.meets_bind, Program.meets_ofExcept, grew.commands, List.append_nil]
      have mismatch : ∃ result, setting.reconciled = .returned result ∧
          result.total ≠ (remediated request scan).length := by
        cases known with
        | unneeded empty =>
            exact absurd (resultFields_valid (by simp [empty]) (by simp) begun) valid
        | @returned result nonempty child =>
            refine ⟨result, child, fun total => valid ?_⟩
            exact resultFields_valid (by simp [nonempty]) (by simp [total]) begun
      obtain ⟨result, child, total⟩ := mismatch
      exact .misreported returned child total dispatched
  · rintro raised after ⟨given, -⟩
    cases given

/-- A run whose reconcile did not complete records that and fails. -/
theorem fail_meets
    {incomplete : Incomplete} {payloads : List (UUID × List (String × Json))}
    (returned : setting.scanned = .returned scan) (completed : scan.cancelled = false)
    (known : Reconciled setting request scan none (some incomplete))
    (decides : Decides setting request scan none payloads)
    (opened : before.trail = startedEvent request :: decisions setting request scan payloads)
    (started : before.commands =
      .scanDrift (scanId setting) request.useCaseId :: dispatches setting request scan) :
    Program.Meets
      (do
        audit setting .reconcileEnded (endEvent request .remediationFailed incomplete)
        Program.raise incomplete.raised)
      before fun ending after =>
        Responded setting request ending after.trail after.commands := by
  have nonempty : remediated request scan ≠ [] := by
    cases known with
    | failed nonempty child => exact nonempty
    | cancelled nonempty child => exact nonempty
  refine Program.Meets.bind
    (audit_meets .reconcileEnded (endEvent_valid .remediationFailed incomplete)) ?_ ?_
  · rintro _ after (⟨-, grew⟩ | ⟨_, _, _, _, ended, _⟩)
    · rw [Program.meets_raise, grew.trail, grew.commands, opened, started, dispatches,
        if_neg nonempty]
      exact .reconcileIncomplete returned completed known decides
    · cases ended
  · rintro raised after (⟨ended, -⟩ | ⟨await, _, landed, failed, ended, grew⟩)
    · cases ended
    · cases ended
      rw [grew.commands, started, List.append_nil]
      exact .appendFailed failed (dispatched_of_completed returned completed)

/-- A completed scan is answered. -/
theorem respond_meets
    {startedAt : Int} (returned : setting.scanned = .returned scan)
    (completed : scan.cancelled = false) (begun : startedAt ≤ setting.now before.ticks)
    (opened : before.trail = [startedEvent request])
    (scanning : before.commands = [.scanDrift (scanId setting) request.useCaseId]) :
    Program.Meets (respond setting request startedAt scan) before fun ending after =>
      Responded setting request ending after.trail after.commands := by
  have dispatched : Dispatched setting request
      (.scanDrift (scanId setting) request.useCaseId :: dispatches setting request scan) :=
    dispatched_of_completed returned completed
  refine Program.Meets.bind reconcile_meets ?_ ?_
  · rintro ⟨reconciled, failure⟩ done ⟨grew, ⟨given, incomplete, equal, known⟩ | ⟨-, equal⟩⟩
    · cases equal
      have started : done.commands =
          .scanDrift (scanId setting) request.useCaseId :: dispatches setting request scan := by
        rw [grew.commands, scanning]
        rfl
      refine Program.Meets.bind (recordDecisions_meets reconciled) ?_ ?_
      · rintro _ recorded ⟨payloads, decides, ⟨-, grewOn⟩ | ⟨_, _, _, _, ended, _⟩⟩
        · have trail : recorded.trail =
              startedEvent request :: decisions setting request scan payloads := by
            rw [(grew.trans grewOn).trail, opened]
            rfl
          have commands : recorded.commands = done.commands := by
            rw [grewOn.commands, List.append_nil]
          rcases failure with _ | incomplete
          · refine conclude_meets returned completed known decides ?_ trail ?_
            · exact le_trans begun (setting.monotone (grew.trans grewOn).ticks)
            · rw [commands, started]
              exact dispatched
          · have absent : reconciled = none := by
              cases known <;> rfl
            subst absent
            exact fail_meets returned completed known decides trail
              (commands.trans started)
        · cases ended
      · rintro raised after ⟨payloads, decides, ⟨ended, -⟩ | ⟨await, _, _, failed, ended, grewOn⟩⟩
        · cases ended
        · cases ended
          rw [grewOn.commands, started, List.append_nil]
          exact .appendFailed failed dispatched
    · cases equal
  · rintro raised after ⟨grew, ⟨_, _, equal, _⟩ | ⟨child, equal⟩⟩
    · cases equal
    · cases equal
      rw [grew.commands, scanning]
      exact .childStarted (Or.inr child) dispatched

/-- A scan without a result ends the run. -/
theorem scanIncomplete_meets
    {incomplete : Incomplete} (child : ScanIncomplete setting incomplete)
    (opened : before.trail = [startedEvent request])
    (scanning : before.commands = [.scanDrift (scanId setting) request.useCaseId]) :
    Program.Meets
      (do
        audit setting .scanEnded (endEvent request .intentUnavailable incomplete)
        (Program.raise incomplete.raised : Workflow Command DriftResponseResult))
      before fun ending after =>
        Responded setting request ending after.trail after.commands := by
  refine Program.Meets.bind
    (audit_meets .scanEnded (endEvent_valid .intentUnavailable incomplete)) ?_ ?_
  · rintro _ after (⟨-, grew⟩ | ⟨_, _, _, _, ended, _⟩)
    · rw [Program.meets_raise, grew.trail, grew.commands, opened, scanning]
      exact .scanIncomplete child
    · cases ended
  · rintro raised after (⟨ended, -⟩ | ⟨await, _, landed, failed, ended, grew⟩)
    · cases ended
    · cases ended
      rw [grew.commands, scanning]
      exact .appendFailed failed .scan

/-- A cancelled scan is refused. -/
theorem refuse_meets
    (returned : setting.scanned = .returned scan) (cancelled : scan.cancelled = true)
    (opened : before.trail = [startedEvent request])
    (scanning : before.commands = [.scanDrift (scanId setting) request.useCaseId]) :
    Program.Meets (refuse setting request scan) before fun ending after =>
      Responded setting request ending after.trail after.commands := by
  refine Program.Meets.bind
    (audit_meets .scanCancelled (scanCancelledEvent_valid scan)) ?_ ?_
  · rintro _ after (⟨-, grew⟩ | ⟨_, _, _, _, ended, _⟩)
    · rw [Program.meets_raise, grew.trail, grew.commands, opened, scanning]
      exact .scanCancelled returned cancelled
    · cases ended
  · rintro raised after (⟨ended, -⟩ | ⟨await, _, landed, failed, ended, grew⟩)
    · cases ended
    · cases ended
      rw [grew.commands, scanning]
      exact .appendFailed failed .scan

/-- The scan is started, awaited and answered. -/
theorem scan_meets
    {startedAt : Int} (begun : startedAt ≤ setting.now before.ticks)
    (opened : before.trail = [startedEvent request]) (fresh : before.commands = []) :
    Program.Meets
      (Program.attempt
        (executeChildWorkflow (.scanDrift (scanId setting) request.useCaseId) setting.scanned)
        (exceptChildWorkflowError fun incomplete => do
          audit setting .scanEnded (endEvent request .intentUnavailable incomplete)
          Program.raise incomplete.raised)
        fun scan =>
          if scan.cancelled then refuse setting request scan
          else respond setting request startedAt scan)
      before fun ending after =>
        Responded setting request ending after.trail after.commands := by
  have scanning : ∀ scanned : Journal Command,
      before.Grew scanned [] [.scanDrift (scanId setting) request.useCaseId] →
        scanned.trail = [startedEvent request] ∧
          scanned.commands = [.scanDrift (scanId setting) request.useCaseId] := by
    intro scanned grew
    rw [grew.trail, grew.commands, opened, fresh]
    exact ⟨rfl, rfl⟩
  refine Program.Meets.attempt (executeChildWorkflow_meets _ _) ?_ ?_
  · rintro scan scanned ⟨ended, grew⟩
    obtain ⟨trail, commands⟩ := scanning scanned grew
    have child : setting.scanned = .returned scan := by
      rcases outcome : setting.scanned with given | _ | failure | _
      all_goals rw [outcome] at ended
      all_goals cases ended
      rfl
    rcases cancelled : scan.cancelled with _ | _
    · rw [if_neg (by decide)]
      exact respond_meets child cancelled (le_trans begun (setting.monotone grew.ticks))
        trail commands
    · rw [if_pos rfl]
      exact refuse_meets child cancelled trail commands
  · rintro raised scanned ⟨ended, grew⟩
    obtain ⟨trail, commands⟩ := scanning scanned grew
    rcases child : setting.scanned with given | _ | failure | _
    all_goals rw [child] at ended
    all_goals cases ended
    · change Responded setting request (.error .alreadyStarted) scanned.trail scanned.commands
      rw [commands]
      exact .childStarted (Or.inl child) .scan
    · have incomplete : ScanIncomplete setting (.failed failure) := child
      exact scanIncomplete_meets incomplete trail commands
    · have incomplete : ScanIncomplete setting .cancelled := child
      exact scanIncomplete_meets incomplete trail commands

variable (setting request) in
/-- Every run ends in one of these ways. -/
theorem run_responded :
    Program.Meets (run setting request) Journal.blank fun ending after =>
      Responded setting request ending after.trail after.commands := by
  refine Program.Meets.bind now_meets ?_ ?_
  · rintro startedAt begun ⟨read, grewFirst, -⟩
    cases read
    refine Program.Meets.bind (audit_meets .started startedEvent_valid) ?_ ?_
    · rintro _ recorded (⟨-, grew⟩ | ⟨_, _, _, _, ended, _⟩)
      · exact scan_meets (setting.monotone (Nat.zero_le _))
          (grewFirst.trans grew).trail (grewFirst.trans grew).commands
      · cases ended
    · rintro raised after (⟨ended, -⟩ | ⟨await, _, landed, failed, ended, grew⟩)
      · cases ended
      · cases ended
        rw [(grewFirst.trans grew).commands]
        exact .appendFailed failed .none
  · rintro raised begun ⟨read, -⟩
    cases read

end Running

end Snapl.Orchestrator.DriftResponse
