import Snapl.Contract.DeployOutcome
import Snapl.Orchestrator.ReconcileRun
import Snapl.Orchestrator.ScanRun

/-!
# Closed audit trails

A run leaves a closed trail when it starts with the start and ends with its
only terminal event, which tells how the run ended.  When audit appends succeed
unless a cancellation cuts them off, exactly these runs do: deploys whose
cancellation does not reach an audit append, scans that are not cancelled at
their first or last append and can fetch their devices, and reconciles over
some device that are not cancelled at their first or last append.
-/

namespace Snapl.Orchestrator

open Snapl.Library Snapl.Intent Snapl.Observability

/-! ## Trails that are not closed -/

theorem not_closed_nil (ending : Ending) : ¬ Closed ending [] := by
  rintro ⟨first, middle, last, equal, -⟩
  cases equal

theorem not_closed_of_silent
    {ending : Ending} {trail : List EventBody}
    (silent : ∀ body ∈ trail, announced body = none) :
    ¬ Closed ending trail := by
  intro closed
  have last := closed.announced_last
  rw [List.filterMap_eq_nil_iff.2 silent] at last
  cases last

theorem closed_of_silent
    {ending : Ending} {first last : EventBody} {middle : List EventBody}
    (started : first.eventType = .workflowStarted)
    (silent : ∀ body ∈ middle, announced body = none)
    (final : announced last = some ending) :
    Closed ending (first :: (middle ++ [last])) :=
  ⟨first, middle, last, rfl, started, silent, final⟩

theorem closed_pair
    {ending : Ending} {first last : EventBody}
    (started : first.eventType = .workflowStarted) (final : announced last = some ending) :
    Closed ending [first, last] :=
  ⟨first, [], last, rfl, started, by simp, final⟩

/-- The last event of a trail with one terminal event tells the ending. -/
theorem ending_of_closed
    {ending told : Ending} {first last : EventBody} {middle : List EventBody}
    (started : announced first = none)
    (silent : ∀ body ∈ middle, announced body = none)
    (final : announced last = some told)
    (closed : Closed ending (first :: (middle ++ [last]))) : ending = told := by
  have only := closed.announced_last
  rw [List.filterMap_cons, started, List.filterMap_append,
    List.filterMap_eq_nil_iff.2 silent] at only
  simpa [final, eq_comm] using only

/-! ## Deploys -/

namespace DeployIntent

/-- A deploy gets as far as this audit append unless it is cut off before. -/
inductive AuditReached (setting : Setting) : Await → Prop where
  | started : AuditReached setting .started
  | fetched {desired : DesiredState} (fetched : Fetched setting desired) :
      AuditReached setting (.completed .fetch)
  | applied {desired : DesiredState} (applied : Applied setting desired) :
      AuditReached setting (.completed .apply)
  | collected {desired : DesiredState} {collected : CollectResult}
      (collects : Collected setting desired collected) :
      AuditReached setting (.completed .collect)
  | detected {desired : DesiredState} {collected : CollectResult} {report : DriftReport}
      (detects : Detected setting desired collected report) :
      AuditReached setting (.completed .detect)
  | terminated : AuditReached setting .terminated

theorem mem_completed_guarded
    {Result : Type} (stage : Stage) (command : Command) (answer : Except Raised Result)
    (failed : ActivityFailure → Verdict) (next : Result → Course) :
    stage ∈ (Course.guarded command answer failed next).completed ↔
      ∃ result, answer = .ok result ∧ stage ∈ (next result).completed := by
  rcases answer with raised | result
  · cases raised <;> simp [Course.guarded, Course.starting]
  · simp

/-- The recorded stages are those the outcomes reach. -/
theorem completed_mem_course_iff (setting : Setting) (deviceId : UUID) (stage : Stage) :
    stage ∈ (course setting deviceId).completed ↔
      AuditReached setting (.completed stage) := by
  simp only [course, applyCourse, collectCourse, detectCourse, mem_completed_guarded,
    Course.completed_completing, List.mem_cons]
  constructor
  · rintro ⟨desired, fetch, rfl | inApply⟩
    · exact .fetched fetch
    · obtain ⟨applyResult, apply, inApply⟩ := inApply
      rcases success : applyResult.success with _ | _
      · simp [success] at inApply
      · have applied : Applied setting desired := ⟨fetch, applyResult, apply, success⟩
        rw [success, if_neg (by decide), Course.completed_completing, List.mem_cons,
          mem_completed_guarded] at inApply
        rcases inApply with rfl | ⟨collected, collect, inCollect⟩
        · exact .applied applied
        · rw [Course.completed_completing, List.mem_cons, mem_completed_guarded] at inCollect
          rcases inCollect with rfl | ⟨report, detect, inDetect⟩
          · exact .collected ⟨applied, collect⟩
          · have last : stage = .detect := by simpa using inDetect
            subst last
            exact .detected ⟨⟨applied, collect⟩, detect⟩
  · intro reached
    cases reached with
    | fetched fetch => exact ⟨_, fetch, Or.inl rfl⟩
    | applied applied =>
        obtain ⟨fetch, applyResult, apply, success⟩ := applied
        refine ⟨_, fetch, Or.inr ⟨applyResult, apply, ?_⟩⟩
        simp [success]
    | collected collects =>
        obtain ⟨⟨fetch, applyResult, apply, success⟩, collect⟩ := collects
        refine ⟨_, fetch, Or.inr ⟨applyResult, apply, ?_⟩⟩
        rw [success, if_neg (by decide), Course.completed_completing, List.mem_cons,
          mem_completed_guarded]
        exact Or.inr ⟨_, collect, by simp⟩
    | detected detects =>
        obtain ⟨⟨⟨fetch, applyResult, apply, success⟩, collect⟩, detect⟩ := detects
        refine ⟨_, fetch, Or.inr ⟨applyResult, apply, ?_⟩⟩
        rw [success, if_neg (by decide), Course.completed_completing, List.mem_cons,
          mem_completed_guarded]
        refine Or.inr ⟨_, collect, ?_⟩
        rw [Course.completed_completing, List.mem_cons, mem_completed_guarded]
        exact Or.inr ⟨_, detect, by simp⟩

theorem cut_iff (setting : Setting) (deviceId : UUID) :
    Cut setting (course setting deviceId).audits ↔
      ∃ await, await ≠ .started ∧ AuditReached setting await ∧
        setting.cancelAt = some await := by
  constructor
  · rintro ⟨await, member, cancelled⟩
    rcases List.mem_append.1 member with completed | last
    · obtain ⟨stage, present, rfl⟩ := List.mem_map.1 completed
      exact ⟨_, by simp, (completed_mem_course_iff setting deviceId stage).1 present, cancelled⟩
    · rcases List.mem_singleton.1 last with rfl
      exact ⟨_, by simp, .terminated, cancelled⟩
  · rintro ⟨await, later, reached, cancelled⟩
    refine ⟨await, ?_, cancelled⟩
    have recorded : ∀ stage, await = .completed stage →
        await ∈ (course setting deviceId).audits := by
      rintro stage rfl
      exact List.mem_append_left _
        (List.mem_map.2 ⟨stage, (completed_mem_course_iff setting deviceId stage).2 reached, rfl⟩)
    cases reached with
    | started => exact absurd rfl later
    | terminated => simp [Course.audits]
    | _ => exact recorded _ rfl

/-- A verdict of cancellation comes from a cancelled activity. -/
theorem cancelAt_of_verdict
    {setting : Setting} {deviceId : UUID}
    (told : announced ((course setting deviceId).verdict.event deviceId) =
      some .cancelled) :
    ∃ stage, setting.cancelAt = some (.activity stage) := by
  have reason : (course setting deviceId).verdict.reason = .cancelled := by
    rcases verdict : (course setting deviceId).verdict with _ | _ | _ | _
    all_goals rw [verdict] at told
    all_goals first | rfl | cases told
  obtain ⟨stage, cancelled⟩ := (course_classified setting deviceId).cancelled.1 reason
  cases cancelled with
  | fetch cancelled => exact ⟨_, Surroundings.answer_eq_cancelled_iff.1 cancelled⟩
  | apply _ cancelled => exact ⟨_, Surroundings.answer_eq_cancelled_iff.1 cancelled⟩
  | collect _ cancelled => exact ⟨_, Surroundings.answer_eq_cancelled_iff.1 cancelled⟩
  | detect _ cancelled => exact ⟨_, Surroundings.answer_eq_cancelled_iff.1 cancelled⟩

/-- A deploy's trail is closed exactly when no cancellation cuts off an append. -/
theorem closed_iff
    (setting : Setting) (deviceId : UUID) (succeed : setting.AppendsSucceed) :
    Closed (howEnded ((run setting deviceId).ending Journal.blank))
        ((run setting deviceId).final Journal.blank).trail ↔
      ∀ await, AuditReached setting await → setting.cancelAt ≠ some await := by
  have followed := run_follows deviceId succeed
  rw [Program.Meets] at followed
  generalize (run setting deviceId).ending Journal.blank = ending at followed ⊢
  generalize (run setting deviceId).final Journal.blank = final at followed ⊢
  by_cases atStart : setting.cancelAt = some .started
  · rw [if_pos atStart] at followed
    obtain ⟨-, grew⟩ := followed
    refine iff_of_false ?_ fun never => never .started .started atStart
    refine not_closed_of_silent ?_
    rw [grew.trail]
    intro body member
    by_cases landed : setting.landed = true
    · simp only [landed, if_true, Journal.blank, Journal.trail, List.map_nil, List.nil_append,
        List.mem_singleton] at member
      rw [member]
      rfl
    · simp [landed, Journal.blank, Journal.trail] at member
  · rw [if_neg atStart] at followed
    obtain ⟨recorded, begun, followed⟩ := followed
    cases followed with
    | undisturbed uncut grew returned =>
        refine iff_of_true ?_ ?_
        · rw [(begun.trans grew).trail]
          exact closed_of_course (announced_of_tells (event_tells returned))
        · intro await reached cancelled
          by_cases start : await = .started
          · exact atStart (start ▸ cancelled)
          · exact uncut ((cut_iff setting deviceId).2 ⟨await, start, reached, cancelled⟩)
    | @cutOff _ events commands cut grew prefixed started =>
        obtain ⟨await, -, reached, cancelled⟩ := (cut_iff setting deviceId).1 cut
        refine iff_of_false ?_ fun never => never await reached cancelled
        rw [(begun.trans grew).trail]
        intro closed
        have only : ([startedEvent deviceId] ++ events).filterMap announced = [.cancelled] :=
          closed.announced_last
        have told : Ending.cancelled ∈
            ([startedEvent deviceId] ++ events).filterMap announced := by
          rw [only]
          exact List.mem_singleton.2 rfl
        obtain ⟨body, member, tells⟩ := List.mem_filterMap.1 told
        rcases List.mem_cons.1 member with rfl | member
        · cases tells
        · rcases List.mem_append.1 (prefixed.subset member) with stage | verdict
          · obtain ⟨stage, -, rfl⟩ := List.mem_map.1 stage
            cases tells
          · rcases List.mem_singleton.1 verdict with rfl
            obtain ⟨stage, activity⟩ := cancelAt_of_verdict tells
            rw [activity] at cancelled
            cases cancelled
            cases reached

end DeployIntent

/-! ## Scans -/

namespace ScanDrift

/-- How a scan ended, by its result or by what it raised. -/
def howEnded : Except Raised DriftScanResult → Ending
  | .ok result => if result.cancelled then .cancelled else .success
  | .error .cancelled => .cancelled
  | .error _ => .failure

/-- The devices of a use case are fetched when the store answers in time. -/
theorem fetched_iff (setting : Setting) :
    (∃ devices, setting.answer .fetchDevices setting.devices = .ok devices) ↔
      (∃ states, setting.states = .returned states) ∧
        setting.cancelAt ≠ some .fetchDevices := by
  rw [Surroundings.answer.eq_def, Setting.devices]
  by_cases cancelled : setting.cancelAt = some .fetchDevices
  · simp [cancelled]
  · rcases given : setting.states with states | failure
    · simp [cancelled]
    · simp [cancelled]

/-- A scan's cancellation reaches it before its last append. -/
theorem cancelAt_of_scanning
    {setting : Setting} (cancels : CancelledWhileScanning setting) :
    setting.cancelAt = some .fetchDevices ∨
      (∃ states, setting.states = .returned states) ∧ setting.cancelAt = some .gather := by
  cases cancels with
  | fetching cancelled => exact Or.inl (Surroundings.answer_eq_cancelled_iff.1 cancelled)
  | evaluating fetched pending =>
      exact Or.inr ⟨((fetched_iff setting).1 ⟨_, fetched⟩).1, pending.1⟩

/--
A scan's trail is closed exactly when neither its first append nor its last one
is cut off, and its devices are fetched or the fetch is cancelled.
-/
theorem closed_iff
    (setting : Setting) (useCaseId : String) (succeed : setting.AppendsSucceed)
    (recorded : ∀ deviceId, setting.deviceAppended deviceId = .done) :
    Closed (howEnded ((run setting useCaseId).ending Journal.blank))
        ((run setting useCaseId).final Journal.blank).trail ↔
      setting.cancelAt ≠ some .started ∧
        (setting.cancelAt = some .fetchDevices ∨
          (∃ states, setting.states = .returned states) ∧
            setting.cancelAt ≠ some .terminated) := by
  have scanned := run_scanned setting useCaseId
  rw [Program.Meets] at scanned
  generalize (run setting useCaseId).ending Journal.blank = ending at scanned ⊢
  generalize ((run setting useCaseId).final Journal.blank).trail = trail at scanned ⊢
  cases scanned with
  | startFailed failed =>
      refine iff_of_false (not_closed_of_silent ?_) fun never =>
        never.1 (Surroundings.cut_of_failed succeed failed).1
      intro body member
      split_ifs at member
      · rw [List.mem_singleton.1 member]
        rfl
      · cases member
  | devicesFailed begun failed =>
      refine iff_of_false (not_closed_of_silent (by simp [announced, startedEvent])) ?_
      rintro ⟨-, fetching | ⟨returned, -⟩⟩
      · rw [Surroundings.answer_eq_cancelled_iff.2 fetching] at failed
        cases failed
      · by_cases fetching : setting.cancelAt = some .fetchDevices
        · rw [Surroundings.answer_eq_cancelled_iff.2 fetching] at failed
          cases failed
        · obtain ⟨devices, fetched⟩ := (fetched_iff setting).2 ⟨returned, fetching⟩
          rw [fetched] at failed
          cases failed
  | cancelled begun cancels answered silent returned =>
      have ended : howEnded (.ok _) = .cancelled :=
        if_pos (congrArg DriftScanFields.cancelled returned)
      refine iff_of_true ?_ ⟨(Surroundings.appended_iff succeed).1 begun, ?_⟩
      · rw [ended]
        exact closed_of_silent rfl silent rfl
      · rcases cancelAt_of_scanning cancels with fetching | ⟨states, gathering⟩
        · exact Or.inl fetching
        · exact Or.inr ⟨states, by simp [gathering]⟩
  | cancelFailed begun cancels failed =>
      have atCancel := (Surroundings.cut_of_failed succeed failed).1
      rcases cancelAt_of_scanning cancels with fetching | ⟨-, gathering⟩
      · rw [atCancel] at fetching
        cases fetching
      · rw [atCancel] at gathering
        cases gathering
  | deviceFailed begun fetched uncancelled member appended =>
      rw [recorded] at appended
      cases appended
  | terminateFailed begun fetched uncancelled silent failed =>
      obtain ⟨atEnd, rfl⟩ := Surroundings.cut_of_failed succeed failed
      refine iff_of_false ?_ ?_
      · rw [howEnded]
        intro closed
        split_ifs at closed
        · cases ending_of_closed rfl silent rfl closed
        · rw [List.append_nil] at closed
          exact not_closed_of_silent (List.forall_mem_cons.2 ⟨rfl, silent⟩) closed
      · rintro ⟨-, fetching | ⟨-, notEnd⟩⟩
        · rw [atEnd] at fetching
          cases fetching
        · exact notEnd atEnd
  | @completed _ _ result _ _ _ completes evaluated silent perm ordered returned =>
      have uncancelled : result.cancelled = false :=
        congrArg DriftScanFields.cancelled returned
      have ended : howEnded (.ok result) = .success := by
        rw [howEnded, if_neg (by simp [uncancelled])]
      refine iff_of_true ?_ ⟨(Surroundings.appended_iff succeed).1 completes.started, Or.inr
        ⟨((fetched_iff setting).1 ⟨_, completes.fetched⟩).1,
          (Surroundings.appended_iff succeed).1 completes.terminated⟩⟩
      rw [ended]
      exact closed_of_silent rfl silent rfl

end ScanDrift

/-! ## Reconciles -/

namespace ReconcileDevices

/-- How a reconcile ended, by its result or by what it raised. -/
def howEnded : Except Raised ReconcileResult → Ending
  | .ok _ => .success
  | .error .cancelled => .cancelled
  | .error _ => .failure

/-- Some deploy child of these devices ends in cancellation. -/
def ChildCancelled (setting : Setting) (deviceIds : List UUID) : Prop :=
  ∃ deviceId ∈ deviceIds, setting.child deviceId = .cancelled

/-- A reconcile's cancellation reaches it or one of its children. -/
theorem cancelAt_of_deploying
    {setting : Setting} {deviceIds : List UUID}
    (cancels : CancelledWhileDeploying setting (dedupe deviceIds)) :
    setting.cancelAt = some .gather ∨ ChildCancelled setting deviceIds := by
  cases cancels with
  | gathering cancels => exact Or.inl cancels.1
  | child member child => exact Or.inr ⟨_, (mem_dedupe _ _).1 member, child⟩

/--
A reconcile's trail is closed exactly when it has devices, neither its first
append nor its last one is cut off, and the event of its cancellation lands.
-/
theorem closed_iff
    (setting : Setting) (deviceIds : List UUID) (succeed : setting.AppendsSucceed) :
    Closed (howEnded ((run setting deviceIds).ending Journal.blank))
        ((run setting deviceIds).final Journal.blank).trail ↔
      deviceIds ≠ [] ∧ setting.cancelAt ≠ some .started ∧
        (setting.cancelAt = some .terminated → ChildCancelled setting deviceIds) ∧
        (setting.cancelAt = some .cancelled → ChildCancelled setting deviceIds →
          setting.landed = true) := by
  by_cases nonempty : deviceIds = []
  · refine iff_of_false ?_ fun holds => holds.1 nonempty
    rw [run, if_pos nonempty]
    exact not_closed_nil _
  obtain ⟨reconciled, -⟩ := run_reconciled setting nonempty
  generalize (run setting deviceIds).ending Journal.blank = ending at reconciled ⊢
  generalize ((run setting deviceIds).final Journal.blank).trail = trail at reconciled ⊢
  cases reconciled with
  | startFailed failed =>
      refine iff_of_false (not_closed_of_silent ?_) fun holds =>
        holds.2.1 (Surroundings.cut_of_failed succeed failed).1
      intro body member
      split_ifs at member
      · rw [List.mem_singleton.1 member]
        rfl
      · cases member
  | cancelled begun cancels answered =>
      refine iff_of_true ?_ ⟨nonempty, (Surroundings.appended_iff succeed).1 begun, ?_, ?_⟩
      · exact closed_pair rfl rfl
      · intro atEnd
        exact (cancelAt_of_deploying cancels).resolve_left (by simp [atEnd])
      · intro atCancel
        exact absurd atCancel ((Surroundings.appended_iff succeed).1 answered)
  | cancelFailed begun cancels failed =>
      obtain ⟨atCancel, rfl⟩ := Surroundings.cut_of_failed succeed failed
      have child := (cancelAt_of_deploying cancels).resolve_left (by simp [atCancel])
      rw [Surroundings.lands, if_pos atCancel]
      rcases landed : setting.landed with _ | _
      · refine iff_of_false (not_closed_of_silent ?_) fun holds => by
          cases holds.2.2.2 atCancel child
        simp [announced, openingEvent, startedEvent]
      · refine iff_of_true (closed_pair rfl rfl) ?_
        exact ⟨nonempty, (Surroundings.appended_iff succeed).1 begun, by simp [atCancel],
          fun _ _ => rfl⟩
  | terminateFailed begun uncancelled failed =>
      obtain ⟨atEnd, rfl⟩ := Surroundings.cut_of_failed succeed failed
      refine iff_of_false ?_ ?_
      · rw [howEnded]
        intro closed
        split_ifs at closed
        · have only : [Ending.success] = [Ending.cancelled] := closed.announced_last
          cases only
        · exact not_closed_of_silent (by simp [announced, openingEvent, startedEvent]) closed
      · rintro ⟨-, -, reached, -⟩
        obtain ⟨deviceId, member, child⟩ := reached atEnd
        exact uncancelled deviceId member child
  | completed begun settled answered returned =>
      refine iff_of_true (closed_pair rfl rfl) ?_
      refine ⟨nonempty, (Surroundings.appended_iff succeed).1 begun, fun atEnd =>
        absurd atEnd ((Surroundings.appended_iff succeed).1 answered), ?_⟩
      rintro - ⟨deviceId, member, child⟩
      exact absurd child
        (child_ne_cancelled_of_settled settled deviceId ((mem_dedupe _ _).2 member))

end ReconcileDevices

/-! ## All runs -/

/--
Exactly these runs leave a closed audit trail, when every append succeeds that
no cancellation cuts off.
-/
theorem audit_trails_closed_iff
    (deploy : DeployIntent.Setting) (deployAppends : deploy.AppendsSucceed)
    (scan : ScanDrift.Setting) (scanAppends : scan.AppendsSucceed)
    (deviceAppends : ∀ deviceId, scan.deviceAppended deviceId = .done)
    (reconcile : ReconcileDevices.Setting) (reconcileAppends : reconcile.AppendsSucceed)
    (deviceId : UUID) (useCaseId : String) (deviceIds : List UUID) :
    (Closed (DeployIntent.howEnded
          ((DeployIntent.run deploy deviceId).ending Journal.blank))
        ((DeployIntent.run deploy deviceId).final Journal.blank).trail ↔
      ∀ await, DeployIntent.AuditReached deploy await → deploy.cancelAt ≠ some await) ∧
    (Closed (ScanDrift.howEnded ((ScanDrift.run scan useCaseId).ending Journal.blank))
        ((ScanDrift.run scan useCaseId).final Journal.blank).trail ↔
      scan.cancelAt ≠ some .started ∧
        (scan.cancelAt = some .fetchDevices ∨
          (∃ states, scan.states = .returned states) ∧
            scan.cancelAt ≠ some .terminated)) ∧
    (Closed (ReconcileDevices.howEnded
          ((ReconcileDevices.run reconcile deviceIds).ending Journal.blank))
        ((ReconcileDevices.run reconcile deviceIds).final Journal.blank).trail ↔
      deviceIds ≠ [] ∧ reconcile.cancelAt ≠ some .started ∧
        (reconcile.cancelAt = some .terminated →
          ReconcileDevices.ChildCancelled reconcile deviceIds) ∧
        (reconcile.cancelAt = some .cancelled →
          ReconcileDevices.ChildCancelled reconcile deviceIds →
            reconcile.landed = true)) :=
  ⟨DeployIntent.closed_iff deploy deviceId deployAppends,
    ScanDrift.closed_iff scan useCaseId scanAppends deviceAppends,
    ReconcileDevices.closed_iff reconcile deviceIds reconcileAppends⟩

/-- A device that is applied, and a cancellation at this await. -/
def leafApplied (cancelAt : Option DeployIntent.Await) : DeployIntent.Setting where
  toSurroundings := Surroundings.calm "deploy-intent" cancelAt
  fetched := .returned ⟨⟨⟨1⟩, "leaf-01", "172.20.20.11", "dcfabric", none⟩, [], []⟩
  applied := .returned ⟨⟨1⟩, "leaf-01", true, none⟩
  collected := .failed ⟨none, "Activity task timed out"⟩
  detected := .failed ⟨none, "not reached"⟩

/-- A use case without devices. -/
def emptyUseCase : ScanDrift.Setting where
  toSurroundings := Surroundings.calm "scan-drift" none
  text := PyText.ascii
  states := .returned []
  fetched := fun _ => .failed ScanDrift.notReached
  ownState := @ScanDrift.ownState_of_notReached
  collected := fun _ => .failed ⟨none, "not reached"⟩
  detected := fun _ => .failed ⟨none, "not reached"⟩
  activityFailure := fun _ => ⟨none, "Activity task failed"⟩
  deviceAppended := fun _ => .done
  schedule := []
  inFlightLands := fun _ => false

/-- A use case of one device, which cannot be collected from. -/
def unreadableLeaf : ScanDrift.Setting :=
  { emptyUseCase with
    states := .returned [⟨⟨⟨1⟩, "leaf-01", "172.20.20.11", "dcfabric", none⟩, [], []⟩]
    fetched := fun deviceId =>
      .returned ⟨⟨deviceId, "leaf-01", "172.20.20.11", "dcfabric", none⟩, [], []⟩
    ownState := fun fetched => by cases fetched; rfl
    collected := fun _ => .failed ⟨none, "Activity task timed out"⟩ }

/-- Every target has a deploy in flight already. -/
def deploysInFlight : ReconcileDevices.Setting where
  toSurroundings := Surroundings.calm "reconcile" none
  child := fun _ => .alreadyStarted
  schedule := []

theorem uncancelled_trails_closed :
    Closed .failure
        ((DeployIntent.run (leafApplied none) ⟨1⟩).final Journal.blank).trail ∧
      Closed .success ((ScanDrift.run unreadableLeaf "dcfabric").final Journal.blank).trail ∧
      Closed .success
        ((ReconcileDevices.run deploysInFlight [⟨1⟩]).final Journal.blank).trail := by
  obtain ⟨deploy, scan, reconcile⟩ := audit_trails_closed_iff
    (leafApplied none) (fun _ => rfl) unreadableLeaf (fun _ => rfl) (fun _ => rfl)
    deploysInFlight (fun _ => rfl) ⟨1⟩ "dcfabric" [⟨1⟩]
  refine ⟨deploy.2 ?_, scan.2 ?_, reconcile.2 ?_⟩
  · intro await reached cancelled
    cases cancelled
  · have uncancelled : ∀ await, unreadableLeaf.cancelAt ≠ some await := nofun
    exact ⟨uncancelled _, Or.inr ⟨⟨_, rfl⟩, uncancelled _⟩⟩
  · have uncancelled : ∀ await, deploysInFlight.cancelAt ≠ some await := nofun
    exact ⟨List.cons_ne_nil _ _, uncancelled _, fun atEnd => absurd atEnd (uncancelled _),
      fun atCancel => absurd atCancel (uncancelled _)⟩

/--
A deploy that is cancelled while it records a successful apply has written to
its device and leaves no terminal event.
-/
theorem applied_without_terminal_event :
    (leafApplied (some (.completed .apply))).AppendsSucceed ∧
      (leafApplied (some (.completed .apply))).applied =
        .returned ⟨⟨1⟩, "leaf-01", true, none⟩ ∧
      ((DeployIntent.run (leafApplied (some (.completed .apply))) ⟨1⟩).final
        Journal.blank).commands.length = 2 ∧
      ((DeployIntent.run (leafApplied (some (.completed .apply))) ⟨1⟩).final
        Journal.blank).trail.filterMap announced = [] ∧
      ∀ ending, ¬ Closed ending
        ((DeployIntent.run (leafApplied (some (.completed .apply))) ⟨1⟩).final
          Journal.blank).trail := by
  have silent : ((DeployIntent.run (leafApplied (some (.completed .apply))) ⟨1⟩).final
      Journal.blank).trail.filterMap announced = [] := by
    decide +kernel
  refine ⟨fun _ => rfl, rfl, by decide +kernel, silent, ?_⟩
  intro ending closed
  rw [closed.announced_last] at silent
  cases silent

end Snapl.Orchestrator
