import Snapl.Collector.Batch
import Snapl.Executor.Entrypoints

/-!
# Entry points

The entry points of the executor render alike: a dry run succeeds exactly where
an apply or a rollback gets to its set, and shows what they set.  A batch of the
executor or of the collector gives every device what a call for it alone gives,
in whatever order the calls end, and nothing that goes wrong with a device is
raised.
-/

namespace Snapl.Contract

open Snapl.Library Snapl.Intent Snapl.Orchestrator Snapl.Executor Snapl.Collector

/-- The results of the entry points on one state, and what an apply and a rollback did. -/
structure RendersAlike (desired : DesiredState) (dry : DryRunResult)
    (applied rolled : GnmiApplyResult) (applyEvents rollbackEvents : List Event) : Prop where
  past_apply : dry.success = true ↔
    ∃ payload, .rendered desired.device.id (.ok payload) ∈ applyEvents
  past_rollback : dry.success = true ↔
    ∃ payload, .rendered desired.device.id (.ok payload) ∈ rollbackEvents
  same_payload : dry.success = true → ∃ payload, dry.payload = some payload ∧
    applied.payload = payload ∧ rolled.payload = payload ∧
    ∀ host sent, .dialled host sent ∈ applyEvents ++ rollbackEvents → sent = payload
  same_error : dry.success = false → ∃ error, dry.renderError = some error ∧
    applied.success = false ∧ applied.error = some error ∧
    rolled.success = false ∧ rolled.error = some error ∧
    ∀ event ∈ applyEvents ++ rollbackEvents, event.dials = false

/-- All entry points return for a state; a dry run dials nothing. -/
def StateAgrees (executor : GnmiExecutor) (devices : GnmiExecutor.Devices)
    (desired : DesiredState) : Prop :=
  ∃ dry dryEvents applied applyEvents rolled rollbackEvents,
    executor.dryRun (some desired) = (.ok dry, dryEvents) ∧
    executor.apply devices (some desired) = (.ok applied, applyEvents) ∧
    executor.rollback devices (some desired) = (.ok rolled, rollbackEvents) ∧
    (∀ event ∈ dryEvents, event.dials = false) ∧
    RendersAlike desired dry applied rolled applyEvents rollbackEvents

section Setting

variable (executor : GnmiExecutor) (devices : GnmiExecutor.Devices) (desired : DesiredState)
  (isRollback : Bool) (payload : Json)

theorem payload_setPayload :
    (executor.setPayload devices desired isRollback payload).1.payload = payload := by
  rw [GnmiExecutor.setPayload]
  rcases executor.dialHost desired with error | host
  · rfl
  · change (GnmiExecutor.setResult desired isRollback payload
      (devices desired host payload)).payload = payload
    rcases devices desired host payload with error | response
    · rfl
    · rfl

theorem sent_of_setPayload
    {before : Event} {host : String} {sent : Json} (rendered : before.dials = false)
    (member : .dialled host sent ∈
      before :: (executor.setPayload devices desired isRollback payload).2) :
    sent = payload := by
  rcases List.mem_cons.1 member with same | dialled
  · rw [← same] at rendered
    cases rendered
  · rw [GnmiExecutor.setPayload] at dialled
    rcases found : executor.dialHost desired with error | target
    · rw [found] at dialled
      cases dialled
    · rw [found] at dialled
      exact (Event.dialled.inj (List.mem_singleton.1 dialled)).2

end Setting

theorem stateAgrees
    (executor : GnmiExecutor) (devices : GnmiExecutor.Devices) (desired : DesiredState) :
    StateAgrees executor devices desired := by
  rw [StateAgrees, GnmiExecutor.dryRun, GnmiExecutor.apply, GnmiExecutor.rollback,
    GnmiExecutor.deploy, GnmiExecutor.deploy]
  rcases executor.renderPayload desired with error | payload
  · refine ⟨_, _, _, _, _, _, rfl, rfl, rfl, ?_, ?_, ?_, ?_, ?_⟩
    · intro event member
      rw [List.mem_singleton.1 member]
      rfl
    · simp
    · simp
    · intro succeeded
      cases succeeded
    · intro _
      refine ⟨error, rfl, rfl, rfl, rfl, rfl, ?_⟩
      intro event member
      rcases List.mem_append.1 member with applied | rolled
      · rw [List.mem_singleton.1 applied]
        rfl
      · rw [List.mem_singleton.1 rolled]
        rfl
  · refine ⟨_, _, _, _, _, _, rfl, rfl, rfl, ?_, ?_, ?_, ?_, ?_⟩
    · intro event member
      rw [List.mem_singleton.1 member]
      rfl
    · exact iff_of_true rfl ⟨payload, List.mem_cons_self⟩
    · exact iff_of_true rfl ⟨payload, List.mem_cons_self⟩
    · intro _
      refine ⟨payload, rfl, payload_setPayload executor devices desired false payload,
        payload_setPayload executor devices desired true payload, ?_⟩
      intro host sent member
      rcases List.mem_append.1 member with applied | rolled
      · exact sent_of_setPayload executor devices desired false payload rfl applied
      · exact sent_of_setPayload executor devices desired true payload rfl rolled
    · intro failed
      cases failed

/-- A batch of the executor is refused untouched, or gives every device what `apply` gives it. -/
structure ApplyBatchAgrees (executor : GnmiExecutor) (devices : GnmiExecutor.Devices)
    (states : List DesiredState) (schedule : List Nat) : Prop where
  refused : states = [] ∨ ¬(states.map fun desired => desired.device.id).Nodup →
    executor.applyBatch devices states schedule = (some (.error .valueError), [])
  returned : states ≠ [] → (states.map fun desired => desired.device.id).Nodup →
    ∀ outcome, (executor.applyBatch devices states schedule).1 = some outcome →
      ∃ batch single, outcome = .ok batch ∧
        (∀ desired, (executor.apply devices (some desired)).1 = .ok (single desired)) ∧
        BatchHolds states (fun desired => desired.device.id) GnmiApplyResult.success single batch
  ends : ∃ more, (executor.applyBatch devices states (schedule ++ more)).1 ≠ none

/-- A batch of the collector is refused untouched, or gives every device what `collect` gives it. -/
structure CollectBatchAgrees (text : GnmiText) (collector : GnmiCollector) (paths : List String)
    (targets : Targets) (devices : List Device) (schedule : List Nat) : Prop where
  refused : devices = [] ∨ ¬(devices.map Device.id).Nodup →
    collectBatch text collector paths targets devices schedule = (some (.error .valueError), [])
  returned : devices ≠ [] → (devices.map Device.id).Nodup →
    ∀ outcome, (collectBatch text collector paths targets devices schedule).1 = some outcome →
      (outcome = .error .valueError ∧ ∀ device,
        collect text collector device paths (targets device) = .error .valueError) ∨
      ∃ batch single, outcome = .ok batch ∧
        (∀ device, collect text collector device paths (targets device) = .ok (single device)) ∧
        BatchHolds devices Device.id CollectResult.success single batch.toBatch
  ends : ∃ more,
    (collectBatch text collector paths targets devices (schedule ++ more)).1 ≠ none

section Executing

variable (executor : GnmiExecutor) (devices : GnmiExecutor.Devices)

theorem deviceId_deploy (desired : DesiredState) (isRollback : Bool) :
    (executor.deploy devices desired isRollback).1.deviceId = desired.device.id := by
  rw [GnmiExecutor.deploy]
  rcases executor.renderPayload desired with error | payload
  · rfl
  · change (executor.setPayload devices desired isRollback payload).1.deviceId = _
    rw [GnmiExecutor.setPayload]
    rcases executor.dialHost desired with error | host
    · rfl
    · change (GnmiExecutor.setResult desired isRollback payload
        (devices desired host payload)).deviceId = _
      rcases devices desired host payload with error | response
      · rfl
      · rfl

/-- Once the deployments of a batch have ended, it returns. -/
theorem applyBatch_of_ended
    {states : List DesiredState} {schedule : List Nat} (present : states ≠ [])
    (distinct : (states.map fun desired => desired.device.id).Nodup)
    (ended : ∀ current ∈ ((executor.deployments devices).interleave
        (⟨[], []⟩, states.map .fresh) schedule).2,
      (executor.deployments devices).waits current = false) :
    (executor.applyBatch devices states schedule).1 =
      some (.ok (batchOf GnmiApplyResult.deviceId GnmiApplyResult.success
        (states.map fun desired => (executor.deploy devices desired false).1))) := by
  have settled := ((executor.deployments devices).not_pending_iff
    (executor.stops_deployment devices)).2 ended
  rw [GnmiExecutor.applyBatch, if_neg present, if_neg (not_not.2 distinct)]
  change (if (executor.deployments devices).Pending _ then none else some (Except.map _ _)) = _
  rw [if_neg settled, executor.gathered_deployments devices ended]
  rfl

theorem applyBatchAgrees (states : List DesiredState) (schedule : List Nat) :
    ApplyBatchAgrees executor devices states schedule := by
  have refusal : states = [] ∨ ¬(states.map fun desired => desired.device.id).Nodup →
      ∀ order, executor.applyBatch devices states order = (some (.error .valueError), []) := by
    intro refused order
    rw [GnmiExecutor.applyBatch]
    by_cases empty : states = []
    · rw [if_pos empty]
    · rw [if_neg empty, if_pos (refused.resolve_left empty)]
  refine ⟨fun refused => refusal refused schedule, ?_, ?_⟩
  · intro present distinct outcome returned
    have ended : ∀ current ∈ ((executor.deployments devices).interleave
        (⟨[], []⟩, states.map .fresh) schedule).2,
        (executor.deployments devices).waits current = false := by
      rw [← (executor.deployments devices).not_pending_iff (executor.stops_deployment devices)]
      intro pending
      rw [GnmiExecutor.applyBatch, if_neg present, if_neg (not_not.2 distinct)] at returned
      change (if (executor.deployments devices).Pending _ then none else some _) = _ at returned
      rw [if_pos pending] at returned
      cases returned
    rw [applyBatch_of_ended executor devices present distinct ended] at returned
    refine ⟨_, fun desired => (executor.deploy devices desired false).1,
      (Option.some.inj returned).symm, fun _ => rfl, ?_⟩
    exact batchHolds_batchOf GnmiApplyResult.success
      (fun desired => deviceId_deploy executor devices desired false) distinct
  · by_cases refused : states = [] ∨ ¬(states.map fun desired => desired.device.id).Nodup
    · refine ⟨[], ?_⟩
      rw [refusal refused]
      exact Option.some_ne_none _
    · rw [not_or, not_not] at refused
      obtain ⟨more, ended⟩ := executor.exists_ended devices states schedule
      refine ⟨more, ?_⟩
      rw [applyBatch_of_ended executor devices refused.1 refused.2 ended]
      exact Option.some_ne_none _

end Executing

section Collecting

variable (text : GnmiText) (collector : GnmiCollector) (paths : List String) (targets : Targets)

/-- Once the collections of a batch have ended, it returns. -/
theorem collectBatch_of_ended
    {devices : List Device} {schedule : List Nat} (present : devices ≠ [])
    (requested : paths ≠ []) (distinct : (devices.map Device.id).Nodup)
    (ended : ∀ current ∈ ((collections text collector paths targets).interleave
        ([], devices.map .fresh) schedule).2,
      (collections text collector paths targets).waits current = false) :
    ∃ batch, (collectBatch text collector paths targets devices schedule).1 = some (.ok batch) ∧
      BatchHolds devices Device.id CollectResult.success
        (collectOne text collector paths targets) batch.toBatch := by
  have settled := ((collections text collector paths targets).not_pending_iff
    (stops_collection text collector paths targets)).2 ended
  have holds := batchHolds_batchOf CollectResult.success
    (deviceId_collectOne text collector paths targets) distinct
  have summed := batchOf_summed CollectResult.deviceId CollectResult.success
    (devices.map (collectOne text collector paths targets))
  refine ⟨⟨_, summed⟩, ?_, holds⟩
  rw [collectBatch, if_neg present, if_neg requested, if_neg (not_not.2 distinct)]
  change (if (collections text collector paths targets).Pending _ then none
    else some (Except.bind _ _)) = _
  rw [if_neg settled, gathered_collections text collector paths targets ended, ← holds.total]
  change some (BatchCollectResult.build (batchOf _ _ _)) = _
  rw [BatchCollectResult.build, dif_pos summed]

theorem collectBatchAgrees (devices : List Device) (schedule : List Nat) :
    CollectBatchAgrees text collector paths targets devices schedule := by
  have refusal : devices = [] ∨ ¬(devices.map Device.id).Nodup → ∀ order,
      collectBatch text collector paths targets devices order =
        (some (.error .valueError), []) := by
    intro refused order
    rw [collectBatch]
    by_cases empty : devices = []
    · rw [if_pos empty]
    · rw [if_neg empty, if_pos (refused.resolve_left empty), ite_self]
  have unrequested : devices ≠ [] → paths = [] → ∀ order,
      collectBatch text collector paths targets devices order =
        (some (.error .valueError), []) := by
    intro present empty order
    rw [collectBatch, if_neg present, if_pos empty]
  refine ⟨fun refused => refusal refused schedule, ?_, ?_⟩
  · intro present distinct outcome returned
    by_cases requested : paths = []
    · apply Or.inl
      rw [unrequested present requested schedule] at returned
      refine ⟨(Option.some.inj returned).symm, ?_⟩
      intro device
      rw [collect, if_pos requested]
    · apply Or.inr
      have ended : ∀ current ∈ ((collections text collector paths targets).interleave
          ([], devices.map .fresh) schedule).2,
          (collections text collector paths targets).waits current = false := by
        rw [← (collections text collector paths targets).not_pending_iff
          (stops_collection text collector paths targets)]
        intro pending
        rw [collectBatch, if_neg present, if_neg requested, if_neg (not_not.2 distinct)]
          at returned
        change (if (collections text collector paths targets).Pending _ then none
          else some _) = _ at returned
        rw [if_pos pending] at returned
        cases returned
      obtain ⟨batch, gives, holds⟩ := collectBatch_of_ended text collector paths targets present
        requested distinct ended
      rw [gives] at returned
      exact ⟨batch, collectOne text collector paths targets, (Option.some.inj returned).symm,
        collect_eq_collectOne text collector paths targets requested, holds⟩
  · by_cases refused : devices = [] ∨ ¬(devices.map Device.id).Nodup
    · refine ⟨[], ?_⟩
      rw [refusal refused]
      exact Option.some_ne_none _
    · rw [not_or, not_not] at refused
      by_cases requested : paths = []
      · refine ⟨[], ?_⟩
        rw [unrequested refused.1 requested]
        exact Option.some_ne_none _
      · obtain ⟨more, ended⟩ := exists_ended text collector paths targets devices schedule
        obtain ⟨batch, gives, -⟩ := collectBatch_of_ended text collector paths targets refused.1
          requested refused.2 ended
        refine ⟨more, ?_⟩
        rw [gives]
        exact Option.some_ne_none _

end Collecting

/--
The entry points agree and raise nothing for any state, and every batch gives
each of its devices what the call for it alone gives.
-/
theorem entryPoints_agree
    (executor : GnmiExecutor) (devices : GnmiExecutor.Devices) (text : GnmiText)
    (collector : GnmiCollector) (paths : List String) (targets : Targets) :
    (∀ desired, StateAgrees executor devices desired) ∧
      (∀ states schedule, ApplyBatchAgrees executor devices states schedule) ∧
      ∀ batch schedule, CollectBatchAgrees text collector paths targets batch schedule :=
  ⟨stateAgrees executor devices, applyBatchAgrees executor devices,
    collectBatchAgrees text collector paths targets⟩

end Snapl.Contract
