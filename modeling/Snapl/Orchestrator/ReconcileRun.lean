import Snapl.Library.Fallible
import Snapl.Orchestrator.ReconcileDevices

/-!
# The runs of a reconcile

Every target settles as its child ended: with a result, or as a skip.  The
tally of the outcomes counts each target once, so the result of a completed run
passes its validator.  A run that is cancelled, or that awaits a child that is,
raises the cancellation after recording it.
-/

namespace Snapl.Orchestrator.ReconcileDevices

open Snapl.Library Snapl.Intent Snapl.Observability

/-! ## The targets -/

theorem nodup_dedupe (deviceIds : List UUID) : (dedupe deviceIds).Nodup :=
  Dict.keys_nodup _

@[simp]
theorem mem_dedupe (deviceIds : List UUID) (deviceId : UUID) :
    deviceId ∈ dedupe deviceIds ↔ deviceId ∈ deviceIds := by
  rw [dedupe, Dict.ofPairs, Dict.mem_keys_update, List.map_map]
  simp [Dict.keys, Function.comp_def]

/-- Distinct identifiers are kept as they are. -/
theorem dedupe_of_nodup {deviceIds : List UUID} (distinct : deviceIds.Nodup) :
    dedupe deviceIds = deviceIds := by
  have entries : (Dict.ofPairs (deviceIds.map fun deviceId => (deviceId, ()))).entries =
      deviceIds.map fun deviceId => (deviceId, ()) :=
    Dict.entries_ofPairs (by simpa [Function.comp_def] using distinct)
  rw [dedupe, Dict.keys, entries, List.map_map]
  simp [Function.comp_def]

/-! ## The tally -/

/-- The result of an entry, keyed by its device. -/
def keyedResult? (entry : UUID × Option WorkflowResult) : Option (UUID × WorkflowResult) :=
  entry.2.map fun result => (entry.1, result)

/-- The outcome is a result with this success. -/
def succeedsAs (success : Bool) (outcome : Option WorkflowResult) : Bool :=
  match outcome with
  | some result => result.success == success
  | none => false

/-- The number of outcomes with a result of this success. -/
def outcomeCount (success : Bool) (outcomes : List (Option WorkflowResult)) : Nat :=
  outcomes.countP (succeedsAs success)

/-- The number of skips. -/
def skipCount (outcomes : List (Option WorkflowResult)) : Nat :=
  outcomes.countP Option.isNone

/-- The tally after the entries of a list. -/
theorem foldl_add (entries : List (UUID × Option WorkflowResult)) (start : Tally) :
    entries.foldl Tally.add start =
      ⟨start.deviceResults.update (entries.filterMap keyedResult?),
        start.succeeded + outcomeCount true (entries.map Prod.snd),
        start.failed + outcomeCount false (entries.map Prod.snd),
        start.skipped + skipCount (entries.map Prod.snd)⟩ := by
  induction entries generalizing start with
  | nil => rfl
  | cons entry rest induction =>
      rw [List.foldl_cons, induction]
      obtain ⟨deviceId, _ | result⟩ := entry
      · simp [Tally.add, List.filterMap_cons, keyedResult?, outcomeCount, skipCount,
          succeedsAs, Nat.add_assoc, Nat.add_comm 1]
      · rcases success : result.success with _ | _
        · simp [Tally.add, keyedResult?, outcomeCount, skipCount, succeedsAs, success,
            Dict.update, Nat.add_assoc, Nat.add_comm 1]
        · simp [Tally.add, keyedResult?, outcomeCount, skipCount, succeedsAs, success,
            Dict.update, Nat.add_assoc, Nat.add_comm 1]

section Counting

variable {targets : List UUID} {outcomes : List (Option WorkflowResult)}
variable (same : targets.length = outcomes.length)

include same

theorem map_snd_zip : (targets.zip outcomes).map Prod.snd = outcomes :=
  List.map_snd_zip (le_of_eq same.symm)

theorem tally_succeeded : (tally targets outcomes).succeeded = outcomeCount true outcomes := by
  rw [tally, foldl_add, map_snd_zip same]
  exact Nat.zero_add _

theorem tally_failed : (tally targets outcomes).failed = outcomeCount false outcomes := by
  rw [tally, foldl_add, map_snd_zip same]
  exact Nat.zero_add _

theorem tally_skipped : (tally targets outcomes).skipped = skipCount outcomes := by
  rw [tally, foldl_add, map_snd_zip same]
  exact Nat.zero_add _

/-- The results of distinct targets, in order. -/
theorem tally_entries (distinct : targets.Nodup) :
    (tally targets outcomes).deviceResults.entries =
      (targets.zip outcomes).filterMap keyedResult? := by
  rw [tally, foldl_add]
  refine Dict.entries_ofPairs (List.Nodup.sublist ?_ distinct)
  have keys : ((targets.zip outcomes).filterMap keyedResult?).map Prod.fst =
      ((targets.zip outcomes).filter fun entry => entry.2.isSome).map Prod.fst := by
    induction targets.zip outcomes with
    | nil => rfl
    | cons entry rest induction =>
        obtain ⟨deviceId, _ | result⟩ := entry
        · simpa [List.filterMap_cons, keyedResult?] using induction
        · simpa [List.filterMap_cons, keyedResult?] using induction
  rw [keys]
  have sublist := (List.filter_sublist
    (p := fun entry : UUID × Option WorkflowResult => entry.2.isSome)
    (l := targets.zip outcomes)).map Prod.fst
  rwa [List.map_fst_zip (le_of_eq same)] at sublist

omit same in
theorem count_sum (outcomes : List (Option WorkflowResult)) :
    outcomeCount true outcomes + outcomeCount false outcomes + skipCount outcomes =
      outcomes.length := by
  induction outcomes with
  | nil => rfl
  | cons outcome rest induction =>
      simp only [outcomeCount, skipCount, List.countP_cons, List.length_cons] at induction ⊢
      rcases outcome with _ | result
      · simp [succeedsAs]
        omega
      · rcases success : result.success with _ | _ <;> simp [succeedsAs, success] <;> omega

/-- The results and the skips make up the targets. -/
theorem size_add_skips (distinct : targets.Nodup) :
    (tally targets outcomes).deviceResults.size + skipCount outcomes = targets.length := by
  rw [Dict.size, tally_entries same distinct, same]
  clear distinct
  induction outcomes generalizing targets with
  | nil => simp [skipCount]
  | cons outcome rest induction =>
      rcases targets with _ | ⟨target, targets⟩
      · cases same
      · have step := induction (Nat.succ.inj same)
        rcases outcome with _ | result
        · simp only [List.zip_cons_cons, keyedResult?, Option.map_none, List.filterMap_cons,
            skipCount, List.countP_cons, Option.isNone_none, if_true, List.length_cons] at step ⊢
          omega
        · simp only [List.zip_cons_cons, keyedResult?, Option.map_some, List.filterMap_cons,
            skipCount, List.countP_cons, Option.isNone_some, List.length_cons] at step ⊢
          simp
          omega

/-- The result of a tally over distinct targets passes its validator. -/
theorem tally_fields_valid
    (distinct : targets.Nodup) (workflowId : String) (startedAt endedAt : Int) :
    ((tally targets outcomes).fields workflowId targets.length startedAt endedAt).Valid where
  counts := by
    have sum := count_sum outcomes
    simp only [Tally.fields, tally_succeeded same, tally_failed same, tally_skipped same]
    omega
  results := by
    have sum := size_add_skips same distinct
    simp only [Tally.fields, tally_skipped same]
    omega

/-- A device has the result its target settled with. -/
theorem tally_get?_iff
    (distinct : targets.Nodup) (deviceId : UUID) (result : WorkflowResult) :
    (tally targets outcomes).deviceResults.get? deviceId = some result ↔
      (deviceId, some result) ∈ targets.zip outcomes := by
  rw [Dict.get?_eq_some_iff, tally_entries same distinct, List.mem_filterMap]
  constructor
  · rintro ⟨⟨target, outcome⟩, member, keyed⟩
    obtain ⟨given, rfl, equal⟩ := Option.map_eq_some_iff.1 keyed
    cases equal
    exact member
  · intro member
    exact ⟨(deviceId, some result), member, rfl⟩

end Counting

/-! ## One target -/

/-- The outcome a target settles with, as its child ended. -/
inductive Settles (setting : Setting) (deviceId : UUID) : Option WorkflowResult → Prop where
  | unknown {result : WorkflowResult} (returned : setting.child deviceId = .returned result)
      (reason : result.reason = .deviceNotFound) :
      Settles setting deviceId none
  | returned {result : WorkflowResult} (returned : setting.child deviceId = .returned result)
      (reason : result.reason ≠ .deviceNotFound) :
      Settles setting deviceId (some result)
  | inFlight (started : setting.child deviceId = .alreadyStarted) :
      Settles setting deviceId none
  | failed {failure : ChildFailure} {result : WorkflowResult} {startedAt endedAt : Int}
      (raised : setting.child deviceId = .failed failure)
      (fields : result.toWorkflowResultFields =
        childFailedFields deviceId failure startedAt endedAt) :
      Settles setting deviceId (some result)

/-- What is known of a target at each stage. -/
inductive Stands (setting : Setting) (deviceId : UUID) : Stage → Prop where
  | waiting : Stands setting deviceId .waiting
  | settled {outcome : Option WorkflowResult} (settles : Settles setting deviceId outcome) :
      Stands setting deviceId (.settled outcome)
  | raised (cancelled : setting.child deviceId = .cancelled) :
      Stands setting deviceId (.raised .cancelled)

theorem childFailedFields_valid
    (deviceId : UUID) (failure : ChildFailure) {startedAt endedAt : Int}
    (ordered : startedAt ≤ endedAt) :
    (childFailedFields deviceId failure startedAt endedAt).Valid where
  success := by simp [childFailedFields]
  items := by simp [childFailedFields]
  time := ordered

section Targets

variable (setting : Setting) (deviceId : UUID) (journal : Journal Command)

/-- A resumed target has settled or raised, and nothing is recorded. -/
theorem deployOne_meets :
    Program.Meets (deployOne setting deviceId) journal fun ending after =>
      Stands setting deviceId (Stage.ofEnding ending) ∧
      Stage.ofEnding ending ≠ .waiting ∧ journal.Grew after [] [] := by
  rw [deployOne]
  rcases child : setting.child deviceId with result | _ | failure | _
  · by_cases unknown : result.reason = .deviceNotFound
    · simp only [if_pos unknown]
      exact ⟨.settled (.unknown child unknown), by simp [Stage.ofEnding, Program.ending, pure],
        Journal.Grew.refl journal⟩
    · simp only [if_neg unknown]
      exact ⟨.settled (.returned child unknown), by simp [Stage.ofEnding, Program.ending, pure],
        Journal.Grew.refl journal⟩
  · exact ⟨.settled (.inFlight child), by simp [Stage.ofEnding, Program.ending, pure],
      Journal.Grew.refl journal⟩
  · refine Program.Meets.bind now_meets ?_ ?_
    · rintro startedAt begun ⟨read, grew, ticks⟩
      cases read
      refine Program.Meets.bind now_meets ?_ ?_
      · rintro endedAt after ⟨readOn, grewOn, -⟩
        cases readOn
        have ordered : setting.now journal.ticks ≤ setting.now begun.ticks :=
          setting.monotone grew.ticks
        rw [validated, WorkflowResult.build_of_valid
          (childFailedFields_valid deviceId failure ordered)]
        exact ⟨.settled (.failed child rfl), Stage.noConfusion, grew.trans grewOn⟩
      · rintro raised after ⟨readOn, -⟩
        cases readOn
    · rintro raised begun ⟨read, -⟩
      cases read
  · exact ⟨.raised child, Stage.noConfusion, Journal.Grew.refl journal⟩

end Targets

/-! ## All targets -/

section Gathering

variable (setting : Setting) (targets : List UUID) (before : Journal Command)

/-- Every coroutine stands for its target, and every child was started. -/
structure Progressed (state : Journal Command × List Deployment) : Prop where
  stand : List.Forall₂
    (fun deviceId deployment =>
      deployment.deviceId = deviceId ∧ Stands setting deviceId deployment.stage)
    targets state.2
  grew : before.Grew state.1 []
    (targets.map fun deviceId => .deployIntent (deployIntentId deviceId) deviceId)

/-- A cancellation reaches the gather while a child is pending. -/
def CancelsGather : Prop :=
  setting.cancelAt = some .gather ∧
    (deployments setting).Pending (scheduled setting (begin targets before)).2

variable {setting targets before}

theorem begin_progressed : Progressed setting targets before (begin targets before) where
  stand := by
    rw [begin, List.forall₂_map_right_iff, List.forall₂_same]
    exact fun deviceId _ => ⟨rfl, .waiting⟩
  grew := ⟨(List.append_nil _).symm, rfl, le_refl _⟩

theorem Progressed.interleave
    {state : Journal Command × List Deployment}
    (progressed : Progressed setting targets before state) (schedule : List Nat) :
    Progressed setting targets before
      ((deployments setting).interleave state schedule) where
  stand := by
    refine (deployments setting).interleave_related ?_ schedule state progressed.stand
    rintro journal deviceId deployment ⟨own, stands⟩ waits
    refine ⟨own, ?_⟩
    rw [← own]
    exact (deployOne_meets setting deployment.deviceId journal).1
  grew := by
    refine (deployments setting).interleave_invariant
      (motive := fun state => before.Grew state.1 []
        (targets.map fun deviceId => .deployIntent (deployIntentId deviceId) deviceId))
      ?_ schedule state progressed.grew
    intro journal locals index current grew _ _ _
    simpa [deployments] using
      grew.trans (deployOne_meets setting current.deviceId journal).2.2

/-- The number of resumptions left. -/
def Stage.rank : Stage → Nat
  | .waiting => 1
  | _ => 0

theorem rank_resume
    (journal : Journal Command) (deployment : Deployment)
    (waits : (deployments setting).waits deployment = true) :
    ((deployments setting).resume journal deployment).2.stage.rank <
      deployment.stage.rank := by
  have moved := (deployOne_meets setting deployment.deviceId journal).2.1
  obtain ⟨deviceId, stage⟩ := deployment
  cases stage with
  | waiting =>
      have done : ∀ next : Stage, next ≠ .waiting → next.rank = 0 := by
        intro next moved
        cases next with
        | waiting => exact absurd rfl moved
        | _ => rfl
      exact lt_of_eq_of_lt (done _ moved) Nat.zero_lt_one
  | _ => cases waits

theorem rank_le (stage : Stage) : stage.rank ≤ 1 := by
  cases stage <;> simp [Stage.rank]

/-- Settled coroutines give the outcomes of their targets. -/
theorem outcomes_of_returned
    {locals : List Deployment} {outcomes : List (Option WorkflowResult)}
    (stand : List.Forall₂
      (fun deviceId deployment =>
        deployment.deviceId = deviceId ∧ Stands setting deviceId deployment.stage)
      targets locals)
    (returned : List.Forall₂
      (fun deployment outcome => (deployments setting).status deployment = .returned outcome)
      locals outcomes) :
    List.Forall₂ (Settles setting) targets outcomes := by
  induction stand generalizing outcomes with
  | nil =>
      cases returned
      exact List.Forall₂.nil
  | @cons deviceId deployment targets locals stands rest induction =>
      rcases returned with _ | ⟨status, others⟩
      obtain ⟨own, stage⟩ := deployment
      cases stands.2 with
      | settled settles =>
          cases status
          exact List.Forall₂.cons settles (induction others)
      | _ => cases status

/-- How the deploys of all targets end. -/
inductive Gathered
    (setting : Setting) (targets : List UUID) (before : Journal Command) :
    Except Raised (List (Option WorkflowResult)) → Prop where
  | cancelled (cancels : CancelsGather setting targets before) :
      Gathered setting targets before (.error .cancelled)
  | childCancelled {deviceId : UUID} (uncancelled : ¬ CancelsGather setting targets before)
      (member : deviceId ∈ targets) (child : setting.child deviceId = .cancelled) :
      Gathered setting targets before (.error .cancelled)
  | completed {outcomes : List (Option WorkflowResult)}
      (uncancelled : ¬ CancelsGather setting targets before)
      (settled : List.Forall₂ (Settles setting) targets outcomes) :
      Gathered setting targets before (.ok outcomes)

theorem gather_meets :
    Program.Meets (gather setting targets) before fun ending after =>
      Gathered setting targets before ending ∧
        before.Grew after []
          (targets.map fun deviceId =>
            .deployIntent (deployIntentId deviceId) deviceId) := by
  have progressed : Progressed setting targets before
      (scheduled setting (begin targets before)) :=
    begin_progressed.interleave setting.schedule
  rw [Program.Meets, Program.ending, Program.final, gather]
  by_cases cancels : setting.cancelAt = some .gather ∧
      (deployments setting).Pending (scheduled setting (begin targets before)).2
  · rw [if_pos cancels]
    exact ⟨.cancelled cancels, progressed.grew⟩
  · rw [if_neg cancels]
    have finished : Progressed setting targets before
        (drained setting (scheduled setting (begin targets before))) :=
      progressed.interleave _
    rcases (deployments setting).gathered_rounds rank_resume
        (fun deployment => rank_le deployment.stage)
        (scheduled setting (begin targets before)) with
      ⟨deployment, present, failure, status, raised⟩ | ⟨outcomes, gathers, returned⟩
    · obtain ⟨own, stage⟩ := deployment
      obtain ⟨deviceId, member, -, stands⟩ :=
        exists_mem_of_forall₂ (List.Forall₂.flip finished.stand) present
      cases stands with
      | raised child =>
          cases status
          simp only [drained, raised]
          exact ⟨.childCancelled cancels member child, finished.grew⟩
      | _ => cases status
    · simp only [drained, gathers]
      exact ⟨.completed cancels (outcomes_of_returned finished.stand returned),
        finished.grew⟩

end Gathering

/-! ## How a reconcile ends -/

section Running

variable (setting : Setting)

/-- The journal with which a reconcile reaches its gather holds this. -/
def openingEvent (deviceIds : List UUID) : EventBody :=
  startedEvent (dedupe deviceIds).length (deviceIds.length - (dedupe deviceIds).length)

/-- A cancellation reaches the run while its children are pending, or one of them ends so. -/
inductive CancelledWhileDeploying (targets : List UUID) : Prop where
  | gathering {before : Journal Command} (cancels : CancelsGather setting targets before) :
      CancelledWhileDeploying targets
  | child {deviceId : UUID} (member : deviceId ∈ targets)
      (child : setting.child deviceId = .cancelled) :
      CancelledWhileDeploying targets

/-- How a reconcile of some devices ends, and what its trail then holds. -/
inductive Reconciled (deviceIds : List UUID) :
    Except Raised ReconcileResult → List EventBody → Prop where
  | startFailed {raised : Raised} (failed : setting.appendEnding .started = .error raised) :
      Reconciled deviceIds (.error raised)
        (if setting.lands .started then [openingEvent deviceIds] else [])
  | cancelled (begun : setting.appendEnding .started = .ok ())
      (cancels : CancelledWhileDeploying setting (dedupe deviceIds))
      (answered : setting.appendEnding .cancelled = .ok ()) :
      Reconciled deviceIds (.error .cancelled) [openingEvent deviceIds, cancelledEvent]
  | cancelFailed {raised : Raised} (begun : setting.appendEnding .started = .ok ())
      (cancels : CancelledWhileDeploying setting (dedupe deviceIds))
      (failed : setting.appendEnding .cancelled = .error raised) :
      Reconciled deviceIds (.error raised) (openingEvent deviceIds ::
        if setting.lands .cancelled then [cancelledEvent] else [])
  | terminateFailed {raised : Raised} {counts : Tally}
      (begun : setting.appendEnding .started = .ok ())
      (uncancelled : ∀ deviceId ∈ deviceIds, setting.child deviceId ≠ .cancelled)
      (failed : setting.appendEnding .terminated = .error raised) :
      Reconciled deviceIds (.error raised) (openingEvent deviceIds ::
        if setting.lands .terminated then
          [terminatedEvent (dedupe deviceIds).length counts] else [])
  | completed {outcomes : List (Option WorkflowResult)} {result : ReconcileResult}
      {startedAt endedAt : Int}
      (begun : setting.appendEnding .started = .ok ())
      (settled : List.Forall₂ (Settles setting) (dedupe deviceIds) outcomes)
      (answered : setting.appendEnding .terminated = .ok ())
      (returned : result.toReconcileFields =
        (tally (dedupe deviceIds) outcomes).fields setting.workflowId
          (dedupe deviceIds).length startedAt endedAt) :
      Reconciled deviceIds (.ok result) [openingEvent deviceIds,
        terminatedEvent (dedupe deviceIds).length (tally (dedupe deviceIds) outcomes)]

variable {setting}

theorem startedEvent_valid (targets duplicates : Nat) :
    (startedEvent targets duplicates).Valid := by
  constructor <;> simp [startedEvent, AuditEventType.ofActivity]

theorem cancelledEvent_valid : cancelledEvent.Valid := by
  constructor <;> simp [cancelledEvent, AuditEventType.ofActivity, validOutcomes]

theorem terminatedEvent_valid (total : Nat) (counts : Tally) :
    (terminatedEvent total counts).Valid := by
  constructor <;> simp [terminatedEvent, AuditEventType.ofActivity, validOutcomes]

theorem child_ne_cancelled_of_settled
    {targets : List UUID} {outcomes : List (Option WorkflowResult)}
    (settled : List.Forall₂ (Settles setting) targets outcomes) :
    ∀ deviceId ∈ targets, setting.child deviceId ≠ .cancelled := by
  intro deviceId member child
  obtain ⟨outcome, -, settles⟩ := exists_mem_of_forall₂ settled member
  cases settles with
  | unknown returned => rw [child] at returned; cases returned
  | returned returned => rw [child] at returned; cases returned
  | inFlight started => rw [child] at started; cases started
  | failed raised => rw [child] at raised; cases raised

/-- The deploys a reconcile starts. -/
def deploys (deviceIds : List UUID) : List Command :=
  (dedupe deviceIds).map fun deviceId => .deployIntent (deployIntentId deviceId) deviceId

variable {deviceIds : List UUID} {before : Journal Command}

/-- A completed gather is tallied, recorded and returned. -/
theorem conclude_meets
    {outcomes : List (Option WorkflowResult)} {startedAt : Int}
    (begun : setting.appendEnding .started = .ok ())
    (settled : List.Forall₂ (Settles setting) (dedupe deviceIds) outcomes)
    (opened : before.trail = [openingEvent deviceIds]) :
    Program.Meets (conclude setting (dedupe deviceIds) startedAt outcomes) before
      fun ending after =>
        Reconciled setting deviceIds ending after.trail ∧ after.commands = before.commands := by
  refine Program.Meets.bind
    (record_meets workflowType Await.terminated (terminatedEvent_valid _ _)) ?_ ?_
  · rintro _ recorded ⟨answer, grew⟩
    rw [if_pos (lands_of_appended answer.symm)] at grew
    refine Program.Meets.bind now_meets ?_ ?_
    · rintro endedAt after ⟨read, grewOn, -⟩
      rw [validated, ReconcileResult.build_of_valid
        (tally_fields_valid settled.length_eq (nodup_dedupe deviceIds) _ startedAt endedAt),
        Except.mapError, Program.meets_ofExcept]
      have both := grew.trans grewOn
      rw [both.trail, both.commands, opened]
      exact ⟨.completed begun settled answer.symm rfl, List.append_nil _⟩
    · rintro failure after ⟨read, -⟩
      cases read
  · rintro failure after ⟨answer, grew⟩
    rw [grew.trail, grew.commands, opened]
    refine ⟨.terminateFailed begun (fun deviceId member => ?_) answer.symm,
      List.append_nil _⟩
    exact child_ne_cancelled_of_settled settled deviceId ((mem_dedupe _ _).2 member)

/-- A cancellation is recorded and raised again. -/
theorem cancel_meets
    (begun : setting.appendEnding .started = .ok ())
    (cancels : CancelledWhileDeploying setting (dedupe deviceIds))
    (opened : before.trail = [openingEvent deviceIds]) :
    Program.Meets (cancel setting) before fun ending after =>
      Reconciled setting deviceIds ending after.trail ∧ after.commands = before.commands := by
  refine Program.Meets.bind
    (record_meets workflowType Await.cancelled cancelledEvent_valid) ?_ ?_
  · rintro _ after ⟨answer, grew⟩
    rw [if_pos (lands_of_appended answer.symm)] at grew
    change Reconciled setting deviceIds (.error .cancelled) after.trail ∧
      after.commands = before.commands
    rw [grew.trail, grew.commands, opened]
    exact ⟨.cancelled begun cancels answer.symm, List.append_nil _⟩
  · rintro failure after ⟨answer, grew⟩
    rw [grew.trail, grew.commands, opened]
    exact ⟨.cancelFailed begun cancels answer.symm, List.append_nil _⟩

variable (setting) in
/-- Every run over some devices ends in one of these ways. -/
theorem run_reconciled (nonempty : deviceIds ≠ []) :
    Program.Meets (run setting deviceIds) Journal.blank fun ending after =>
      Reconciled setting deviceIds ending after.trail ∧
        ((setting.appendEnding .started ≠ .ok () ∧ after.commands = []) ∨
          after.commands = deploys deviceIds) := by
  rw [run, if_neg nonempty]
  refine Program.Meets.bind now_meets ?_ ?_
  · rintro startedAt begun ⟨read, grewFirst, -⟩
    refine Program.Meets.bind
      (record_meets workflowType Await.started (startedEvent_valid _ _)) ?_ ?_
    · rintro _ recorded ⟨answer, grew⟩
      rw [if_pos (lands_of_appended answer.symm)] at grew
      have opened := grewFirst.trans grew
      refine Program.Meets.attempt gather_meets ?_ ?_
      · rintro outcomes gathered ⟨ended, grewGather⟩
        have reached := opened.trans grewGather
        cases ended with
        | completed uncancelled settled =>
            refine (conclude_meets answer.symm settled reached.trail).mono ?_
            rintro ending after ⟨reconciled, commands⟩
            exact ⟨reconciled, Or.inr (commands.trans reached.commands)⟩
      · rintro raised gathered ⟨ended, grewGather⟩
        have reached := opened.trans grewGather
        have cancelling : CancelledWhileDeploying setting (dedupe deviceIds) →
            Program.Meets (cancel setting) gathered fun ending after =>
              Reconciled setting deviceIds ending after.trail ∧
                ((setting.appendEnding .started ≠ .ok () ∧ after.commands = []) ∨
                  after.commands = deploys deviceIds) := by
          intro cancels
          refine (cancel_meets answer.symm cancels reached.trail).mono ?_
          rintro ending after ⟨reconciled, commands⟩
          exact ⟨reconciled, Or.inr (commands.trans reached.commands)⟩
        cases ended with
        | cancelled cancels => exact cancelling (.gathering cancels)
        | childCancelled uncancelled member child => exact cancelling (.child member child)
    · rintro failure after ⟨answer, grew⟩
      have opened := grewFirst.trans grew
      rw [opened.trail]
      refine ⟨.startFailed answer.symm, Or.inl ⟨?_, opened.commands⟩⟩
      rw [← answer]
      nofun
  · rintro failure after ⟨read, -⟩
    cases read

end Running

end Snapl.Orchestrator.ReconcileDevices
