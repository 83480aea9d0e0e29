import Snapl.Collector.Gnmi
import Snapl.Library.Batches
import Snapl.Library.Interleaving

/-!
# Collecting from several devices

A batch collects every device on its own, all of them at once.  A collection
that raises would be turned into a failed result of its device.  The addresses
dialled are remembered, also where the batch raises.
-/

namespace Snapl.Collector

open Snapl.Library Snapl.Intent Snapl.Orchestrator

/-- How every device answers at an address. -/
abbrev Targets : Type :=
  Device → String → String → Except GnmiFailure (List GnmiNotification)

/-- The aggregated outcome of a batch. -/
structure BatchCollectResult extends Batch UUID CollectResult where
  summed : succeeded + failed = total

/-- Build a batch result, refusing counts that do not add up. -/
def BatchCollectResult.build (batch : Batch UUID CollectResult) :
    Except PyError BatchCollectResult :=
  if summed : batch.succeeded + batch.failed = batch.total then .ok ⟨batch, summed⟩
  else .error .valueError

variable (text : GnmiText) (collector : GnmiCollector) (paths : List String) (targets : Targets)

/-- Collect one device of a batch; what that raises is a failed result. -/
def collectOne (device : Device) : CollectResult :=
  match collect text collector device paths (targets device) with
  | .ok result => result
  | .error _ =>
      failedCollect device
        (classifyError collector.timeout (.malformed "paths must not be empty"))
        (classifyError_ne_empty _ _)

/-- How far a collection of a batch has come. -/
inductive Collection where
  | fresh (device : Device)
  | fetching (device : Device)
  | done (result : CollectResult)

/-- Resume a collection up to its next wait. -/
def resume (dialled : List String) : Collection → List String × Collection
  | .fresh device =>
      match collector.dialHost device with
      | none => (dialled, .done (collectOne text collector paths targets device))
      | some host => (dialled ++ [host], .fetching device)
  | .fetching device => (dialled, .done (collectOne text collector paths targets device))
  | .done result => (dialled, .done result)

/-- The collections of a batch.  None of them raises. -/
def collections : Coroutines (List String) Collection PyError CollectResult where
  status collection :=
    match collection with
    | .done result => .returned result
    | _ => .waiting
  resume := resume text collector paths targets

/--
Collect a batch, the collections resumed in this order: what was returned or
raised unless some collection still waits, and the addresses dialled.
-/
def collectBatch (devices : List Device) (schedule : List Nat) :
    Option (Except PyError BatchCollectResult) × List String :=
  if devices = [] then (some (.error .valueError), [])
  else if paths = [] then (some (.error .valueError), [])
  else if ¬(devices.map Device.id).Nodup then (some (.error .valueError), [])
  else
    let (dialled, locals) :=
      (collections text collector paths targets).interleave ([], devices.map .fresh) schedule
    (if (collections text collector paths targets).Pending locals then none
      else some (((collections text collector paths targets).gathered locals).bind fun results =>
        BatchCollectResult.build
          { batchOf CollectResult.deviceId CollectResult.success results with
            total := devices.length }),
      dialled)

/-- What a collection ends with is what is collected of its device alone. -/
def Leads (device : Device) : Collection → Prop
  | .fresh own | .fetching own => own = device
  | .done result => result = collectOne text collector paths targets device

theorem leads_resume
    (dialled : List String) {device : Device} {collection : Collection}
    (leads : Leads text collector paths targets device collection) :
    Leads text collector paths targets device
      (resume text collector paths targets dialled collection).2 := by
  cases collection with
  | fresh own =>
      obtain rfl : own = device := leads
      rw [resume]
      rcases collector.dialHost own with _ | host
      · rfl
      · rfl
  | fetching own =>
      obtain rfl : own = device := leads
      rfl
  | done result => exact leads

theorem stops_collection (collection : Collection) :
    (collections text collector paths targets).stops collection = false := by
  cases collection with
  | fresh => rfl
  | fetching => rfl
  | done => rfl

theorem status_of_leads
    {device : Device} {collection : Collection}
    (leads : Leads text collector paths targets device collection)
    (ended : (collections text collector paths targets).waits collection = false) :
    (collections text collector paths targets).status collection =
      .returned (collectOne text collector paths targets device) := by
  cases collection with
  | done result =>
      obtain rfl : result = collectOne text collector paths targets device := leads
      rfl
  | fresh => cases ended
  | fetching => cases ended

theorem leads_fresh (devices : List Device) :
    List.Forall₂ (Leads text collector paths targets) devices (devices.map .fresh) := by
  rw [List.forall₂_map_right_iff, List.forall₂_same]
  intro device _
  rfl

/-- Collections that have all ended give what each gives alone. -/
theorem gathered_collections
    {devices : List Device} {schedule : List Nat}
    (ended : ∀ current ∈ ((collections text collector paths targets).interleave
        ([], devices.map .fresh) schedule).2,
      (collections text collector paths targets).waits current = false) :
    (collections text collector paths targets).gathered
        ((collections text collector paths targets).interleave
          ([], devices.map .fresh) schedule).2 =
      .ok (devices.map (collectOne text collector paths targets)) := by
  have kept : ∀ (dialled : List String) (device : Device) (collection : Collection),
      Leads text collector paths targets device collection →
      (collections text collector paths targets).waits collection = true →
      Leads text collector paths targets device
        (resume text collector paths targets dialled collection).2 := by
    intro dialled device collection leads _
    exact leads_resume text collector paths targets dialled leads
  have returns : ∀ (device : Device) (collection : Collection),
      Leads text collector paths targets device collection →
      (collections text collector paths targets).waits collection = false →
      (collections text collector paths targets).status collection =
        .returned (collectOne text collector paths targets device) := by
    intro device collection leads waits
    exact status_of_leads text collector paths targets leads waits
  exact Coroutines.gathered_interleave kept returns
    (leads_fresh text collector paths targets devices) ended

/-- A collection is about its device. -/
theorem deviceId_of_collect
    {device : Device} {get : String → String → Except GnmiFailure (List GnmiNotification)}
    {result : CollectResult} (collected : collect text collector device paths get = .ok result) :
    result.deviceId = device.id := by
  rw [collect] at collected
  split at collected
  · cases collected
  · split at collected
    · rw [← Except.ok.inj collected]
      rfl
    · split at collected
      · rw [← Except.ok.inj collected]
        rfl
      · split at collected
        · rw [← Except.ok.inj collected]
          rfl
        · rw [← Except.ok.inj collected]

theorem deviceId_collectOne (device : Device) :
    (collectOne text collector paths targets device).deviceId = device.id := by
  rw [collectOne]
  split
  · next collected => exact deviceId_of_collect text collector paths collected
  · rfl

/-- With paths to collect, nothing is raised. -/
theorem collect_eq_collectOne (requested : paths ≠ []) (device : Device) :
    collect text collector device paths (targets device) =
      .ok (collectOne text collector paths targets device) := by
  rw [collectOne]
  split
  · next collected => exact collected
  · next error raised =>
      rw [collect, if_neg requested] at raised
      split at raised
      · cases raised
      · split at raised
        · cases raised
        · split at raised
          · cases raised
          · cases raised

/-- How many waits a collection has before it at most. -/
def remaining : Collection → Nat
  | .fresh _ => 2
  | .fetching _ => 1
  | .done _ => 0

theorem remaining_resume
    (dialled : List String) {collection : Collection}
    (waits : (collections text collector paths targets).waits collection = true) :
    remaining (resume text collector paths targets dialled collection).2 <
      remaining collection := by
  cases collection with
  | fresh device =>
      rw [resume]
      rcases collector.dialHost device with _ | host
      · exact Nat.zero_lt_succ 1
      · exact Nat.lt_succ_self 1
  | fetching device => exact Nat.zero_lt_succ 0
  | done result => cases waits

/-- Whatever was resumed before, the collections of a batch end after some more resumptions. -/
theorem exists_ended (devices : List Device) (schedule : List Nat) :
    ∃ more, ∀ current ∈ ((collections text collector paths targets).interleave
        ([], devices.map .fresh) (schedule ++ more)).2,
      (collections text collector paths targets).waits current = false := by
  have progress : ∀ (dialled : List String) (locals : List Collection), True →
      (∃ current ∈ locals, (collections text collector paths targets).waits current = true) →
      ∃ (index : Nat) (current : Collection), locals[index]? = some current ∧
        (collections text collector paths targets).waits current = true ∧
        remaining (resume text collector paths targets dialled current).2 <
          remaining current := by
    rintro dialled locals - ⟨current, member, waits⟩
    obtain ⟨index, found⟩ := List.mem_iff_getElem?.1 member
    exact ⟨index, current, found, waits,
      remaining_resume text collector paths targets dialled waits⟩
  exact Coroutines.exists_ended_after (motive := fun _ => True)
    (fun _ _ _ _ _ _ _ => trivial)
    (stops_collection text collector paths targets) progress _ trivial schedule

end Snapl.Collector
