import Snapl.Executor.Gnmi
import Snapl.Library.Batches
import Snapl.Library.Interleaving

/-!
# The entry points of the executor

`apply`, `rollback` and `dry_run` render one desired state in one way; the
first two then set it.  A batch deploys several states at once.  Sets of one
address are taken one at a time, and a deployment that waits for its address is
overtaken by any other.

What an entry point renders and dials is remembered, also where it raises.
-/

namespace Snapl.Executor

open Snapl.Library Snapl.Intent Snapl.Orchestrator

/-- What an entry point does besides returning. -/
inductive Event where
  | rendered (deviceId : UUID) (outcome : Except String Json)
  | dialled (host : String) (payload : Json)
deriving DecidableEq

/-- An event that dials. -/
def Event.dials : Event → Bool
  | .rendered _ _ => false
  | .dialled _ _ => true

/-- The outcome of applying a configuration, with what was set. -/
structure GnmiApplyResult where
  deviceId : UUID
  deviceName : String
  success : Bool
  payload : Json
  deviceResponse : Option String
  error : Option String
  isRollback : Bool
deriving DecidableEq

/-- What workflows read of an outcome. -/
def GnmiApplyResult.toApplyResult (result : GnmiApplyResult) : ApplyResult :=
  ⟨result.deviceId, result.deviceName, result.success, result.error⟩

structure DryRunResult where
  deviceId : UUID
  deviceName : String
  success : Bool
  payload : Option Json
  renderError : Option String
deriving DecidableEq

abbrev BatchResult : Type := Batch UUID GnmiApplyResult

namespace GnmiExecutor

variable (executor : GnmiExecutor)

/-- How a device takes a payload that is set at an address: a response, or what is raised. -/
abbrev Devices : Type := DesiredState → String → Json → Except String String

/-! ## One device -/

/-- Render a state, or say why it cannot be rendered. -/
def renderPayload (desired : DesiredState) : Except String Json :=
  (executor.render desired).mapError fun error =>
    "render failed for use case " ++ executor.repr desired.device.useCase ++ ": " ++ error

/-- The address to dial, or the error of a device without one. -/
def dialHost (desired : DesiredState) : Except String String :=
  match desired.device.dialHost executor.host with
  | some host => .ok host
  | none => .error (undialable executor desired)

/-- The result of a state that was not rendered. -/
def renderFailed (desired : DesiredState) (isRollback : Bool) (error : String) :
    GnmiApplyResult where
  deviceId := desired.device.id
  deviceName := desired.device.name
  success := false
  payload := .obj []
  deviceResponse := none
  error := some error
  isRollback := isRollback

/-- The result of a set that ended, or did not begin for want of an address. -/
def setResult (desired : DesiredState) (isRollback : Bool) (payload : Json) :
    Except String String → GnmiApplyResult
  | .ok response =>
      { deviceId := desired.device.id
        deviceName := desired.device.name
        success := true
        payload := payload
        deviceResponse := some response
        error := none
        isRollback := isRollback }
  | .error error =>
      { deviceId := desired.device.id
        deviceName := desired.device.name
        success := false
        payload := payload
        deviceResponse := none
        error := some error
        isRollback := isRollback }

variable (devices : Devices)

/-- Set a rendered payload. -/
def setPayload (desired : DesiredState) (isRollback : Bool) (payload : Json) :
    GnmiApplyResult × List Event :=
  match executor.dialHost desired with
  | .error error => (setResult desired isRollback payload (.error error), [])
  | .ok host =>
      (setResult desired isRollback payload (devices desired host payload),
        [.dialled host payload])

/-- Render and set; a render failure is a failed result, and nothing is dialled. -/
def deploy (desired : DesiredState) (isRollback : Bool) : GnmiApplyResult × List Event :=
  let outcome := executor.renderPayload desired
  match outcome with
  | .error error =>
      (renderFailed desired isRollback error, [.rendered desired.device.id outcome])
  | .ok payload =>
      let (result, events) := executor.setPayload devices desired isRollback payload
      (result, .rendered desired.device.id outcome :: events)

def apply (desired : Option DesiredState) : Except PyError GnmiApplyResult × List Event :=
  match desired with
  | none => (.error .valueError, [])
  | some desired =>
      let (result, events) := executor.deploy devices desired false
      (.ok result, events)

def rollback (desired : Option DesiredState) : Except PyError GnmiApplyResult × List Event :=
  match desired with
  | none => (.error .valueError, [])
  | some desired =>
      let (result, events) := executor.deploy devices desired true
      (.ok result, events)

def dryRun (desired : Option DesiredState) : Except PyError DryRunResult × List Event :=
  match desired with
  | none => (.error .valueError, [])
  | some desired =>
      let outcome := executor.renderPayload desired
      match outcome with
      | .error error =>
          (.ok
            { deviceId := desired.device.id
              deviceName := desired.device.name
              success := false
              payload := none
              renderError := some error }, [.rendered desired.device.id outcome])
      | .ok payload =>
          (.ok
            { deviceId := desired.device.id
              deviceName := desired.device.name
              success := true
              payload := some payload
              renderError := none }, [.rendered desired.device.id outcome])

/-- A deployment is an attempt that is not cut off, for what workflows read of it. -/
theorem attempt_of_deploy (desired : DesiredState) (isRollback : Bool) :
    ∃ course, Executor.deploy executor desired course =
      ⟨(executor.deploy devices desired isRollback).2.any Event.dials,
        some (executor.deploy devices desired isRollback).1.toApplyResult⟩ := by
  rcases rendered : executor.render desired with error | payload
  · refine ⟨.returned, ?_⟩
    rw [Executor.deploy, deploy, renderPayload, rendered]
    rfl
  · rcases dialled : desired.device.dialHost executor.host with _ | host
    · refine ⟨.returned, ?_⟩
      rw [Executor.deploy, gnmiSet, deploy, renderPayload, rendered]
      change _ = Attempted.mk ((executor.setPayload devices desired isRollback payload).2.any
        Event.dials) (some (executor.setPayload devices desired isRollback payload).1.toApplyResult)
      rw [setPayload, dialHost, dialled]
      rfl
    · rcases answered : devices desired host payload with error | response
      · refine ⟨.raised error, ?_⟩
        rw [Executor.deploy, gnmiSet, deploy, renderPayload, rendered]
        change _ = Attempted.mk ((executor.setPayload devices desired isRollback payload).2.any
          Event.dials)
          (some (executor.setPayload devices desired isRollback payload).1.toApplyResult)
        rw [setPayload, dialHost, dialled]
        change _ = Attempted.mk true
          (some (setResult desired isRollback payload (devices desired host payload)).toApplyResult)
        rw [answered]
        rfl
      · refine ⟨.returned, ?_⟩
        rw [Executor.deploy, gnmiSet, deploy, renderPayload, rendered]
        change _ = Attempted.mk ((executor.setPayload devices desired isRollback payload).2.any
          Event.dials)
          (some (executor.setPayload devices desired isRollback payload).1.toApplyResult)
        rw [setPayload, dialHost, dialled]
        change _ = Attempted.mk true
          (some (setResult desired isRollback payload (devices desired host payload)).toApplyResult)
        rw [answered]
        rfl

/-! ## Several devices -/

/-- How far a deployment of a batch has come. -/
inductive Deployment where
  | fresh (desired : DesiredState)
  | acquiring (desired : DesiredState) (payload : Json) (host : String)
  | setting (desired : DesiredState) (payload : Json) (host : String)
  | done (result : GnmiApplyResult)

/-- The addresses whose set locks are taken, and what was done. -/
structure Sets where
  locked : List String
  events : List Event

/-- Take the lock of an address and dial it, or wait. -/
def acquire (sets : Sets) (desired : DesiredState) (payload : Json) (host : String) :
    Sets × Deployment :=
  if host ∈ sets.locked then (sets, .acquiring desired payload host)
  else
    (⟨host :: sets.locked, sets.events ++ [.dialled host payload]⟩,
      .setting desired payload host)

/-- Resume a deployment up to its next wait. -/
def resume (sets : Sets) : Deployment → Sets × Deployment
  | .fresh desired =>
      let outcome := executor.renderPayload desired
      let rendered : Sets := ⟨sets.locked, sets.events ++ [.rendered desired.device.id outcome]⟩
      match outcome with
      | .error error => (rendered, .done (renderFailed desired false error))
      | .ok payload =>
          match executor.dialHost desired with
          | .error error => (rendered, .done (setResult desired false payload (.error error)))
          | .ok host => acquire rendered desired payload host
  | .acquiring desired payload host => acquire sets desired payload host
  | .setting desired payload host =>
      (⟨sets.locked.erase host, sets.events⟩,
        .done (setResult desired false payload (devices desired host payload)))
  | .done result => (sets, .done result)

/-- The deployments of a batch.  None of them raises. -/
def deployments : Coroutines Sets Deployment PyError GnmiApplyResult where
  status deployment :=
    match deployment with
    | .done result => .returned result
    | _ => .waiting
  resume := executor.resume devices

/--
Deploy a batch, the deployments resumed in this order: what was returned or
raised unless some deployment still waits, and what was done.
-/
def applyBatch (states : List DesiredState) (schedule : List Nat) :
    Option (Except PyError BatchResult) × List Event :=
  if states = [] then (some (.error .valueError), [])
  else if ¬(states.map fun desired => desired.device.id).Nodup then
    (some (.error .valueError), [])
  else
    let (sets, locals) :=
      (executor.deployments devices).interleave (⟨[], []⟩, states.map .fresh) schedule
    (if (executor.deployments devices).Pending locals then none
      else some (((executor.deployments devices).gathered locals).map
        (batchOf GnmiApplyResult.deviceId GnmiApplyResult.success)),
      sets.events)

/-! ## What a deployment ends with -/

/-- What a deployment ends with is what a deployment alone returns. -/
def Leads (desired : DesiredState) : Deployment → Prop
  | .fresh own => own = desired
  | .acquiring own payload host | .setting own payload host =>
      own = desired ∧ executor.renderPayload desired = .ok payload ∧
        executor.dialHost desired = .ok host
  | .done result => result = (executor.deploy devices desired false).1

theorem leads_resume
    (sets : Sets) {desired : DesiredState} {deployment : Deployment}
    (leads : executor.Leads devices desired deployment) :
    executor.Leads devices desired (executor.resume devices sets deployment).2 := by
  have taken : ∀ (before : Sets) {payload : Json} {host : String},
      executor.renderPayload desired = .ok payload → executor.dialHost desired = .ok host →
        executor.Leads devices desired (acquire before desired payload host).2 := by
    intro before payload host rendered dialled
    rw [acquire]
    split_ifs
    · exact ⟨rfl, rendered, dialled⟩
    · exact ⟨rfl, rendered, dialled⟩
  cases deployment with
  | fresh own =>
      obtain rfl : own = desired := leads
      rw [resume]
      rcases rendered : executor.renderPayload own with error | payload
      · change renderFailed own false error = _
        rw [deploy, rendered]
      · rcases dialled : executor.dialHost own with error | host
        · change setResult own false payload (.error error) = _
          rw [deploy, rendered]
          change _ = (executor.setPayload devices own false payload).1
          rw [setPayload, dialled]
        · exact taken _ rendered dialled
  | acquiring own payload host =>
      obtain ⟨rfl, rendered, dialled⟩ := leads
      exact taken sets rendered dialled
  | setting own payload host =>
      obtain ⟨rfl, rendered, dialled⟩ := leads
      change setResult own false payload (devices own host payload) = _
      rw [deploy, rendered]
      change _ = (executor.setPayload devices own false payload).1
      rw [setPayload, dialled]
  | done result => exact leads

theorem stops_deployment (deployment : Deployment) :
    (executor.deployments devices).stops deployment = false := by
  cases deployment with
  | fresh => rfl
  | acquiring => rfl
  | setting => rfl
  | done => rfl

theorem status_of_leads
    {desired : DesiredState} {deployment : Deployment}
    (leads : executor.Leads devices desired deployment)
    (ended : (executor.deployments devices).waits deployment = false) :
    (executor.deployments devices).status deployment =
      .returned (executor.deploy devices desired false).1 := by
  cases deployment with
  | done result =>
      obtain rfl : result = (executor.deploy devices desired false).1 := leads
      rfl
  | fresh => cases ended
  | acquiring => cases ended
  | setting => cases ended

theorem leads_fresh (states : List DesiredState) :
    List.Forall₂ (executor.Leads devices) states (states.map .fresh) := by
  rw [List.forall₂_map_right_iff, List.forall₂_same]
  intro desired _
  rfl

/-- Deployments that have all ended give what each gives alone. -/
theorem gathered_deployments
    {states : List DesiredState} {schedule : List Nat}
    (ended : ∀ current ∈ ((executor.deployments devices).interleave
        (⟨[], []⟩, states.map .fresh) schedule).2,
      (executor.deployments devices).waits current = false) :
    (executor.deployments devices).gathered ((executor.deployments devices).interleave
        (⟨[], []⟩, states.map .fresh) schedule).2 =
      .ok (states.map fun desired => (executor.deploy devices desired false).1) := by
  have kept : ∀ (sets : Sets) (desired : DesiredState) (deployment : Deployment),
      executor.Leads devices desired deployment →
      (executor.deployments devices).waits deployment = true →
      executor.Leads devices desired (executor.resume devices sets deployment).2 := by
    intro sets desired deployment leads _
    exact executor.leads_resume devices sets leads
  have returns : ∀ (desired : DesiredState) (deployment : Deployment),
      executor.Leads devices desired deployment →
      (executor.deployments devices).waits deployment = false →
      (executor.deployments devices).status deployment =
        .returned (executor.deploy devices desired false).1 := by
    intro desired deployment leads waits
    exact executor.status_of_leads devices leads waits
  exact Coroutines.gathered_interleave kept returns (executor.leads_fresh devices states) ended

/-! ## Every batch can end -/

/-- How many waits a deployment has before it at most. -/
def remaining : Deployment → Nat
  | .fresh _ => 3
  | .acquiring _ _ _ => 2
  | .setting _ _ _ => 1
  | .done _ => 0

/-- Every lock that is taken is held by a deployment that sets. -/
def Held (state : Sets × List Deployment) : Prop :=
  state.1.locked.Nodup ∧ ∀ host ∈ state.1.locked,
    ∃ desired payload, .setting desired payload host ∈ state.2

/-- Another deployment stays where it is. -/
theorem mem_set_of_ne
    {locals : List Deployment} {index : Nat} {current other : Deployment}
    (found : locals[index]? = some current) (member : other ∈ locals) (different : other ≠ current)
    (after : Deployment) : other ∈ locals.set index after := by
  obtain ⟨position, bound, own⟩ := List.mem_iff_getElem.1 member
  have apart : index ≠ position := by
    rintro rfl
    rw [List.getElem?_eq_getElem bound, own] at found
    exact different (Option.some.inj found)
  refine List.mem_iff_getElem.2 ⟨position, by rwa [List.length_set], ?_⟩
  rw [List.getElem_set_ne apart, own]

theorem held_acquire
    {sets : Sets} {locals : List Deployment} {index : Nat} {current : Deployment}
    (held : Held (sets, locals)) (found : locals[index]? = some current)
    (idle : ∀ desired payload host, current ≠ .setting desired payload host)
    (desired : DesiredState) (payload : Json) (host : String) :
    Held ((acquire sets desired payload host).1,
      locals.set index (acquire sets desired payload host).2) := by
  obtain ⟨distinct, holders⟩ := held
  obtain ⟨bound, -⟩ := List.getElem?_eq_some_iff.1 found
  have kept : ∀ after, ∀ other ∈ sets.locked, ∃ desired payload,
      Deployment.setting desired payload other ∈ locals.set index after := by
    intro after other member
    obtain ⟨own, carried, holds⟩ := holders other member
    exact ⟨own, carried, mem_set_of_ne found holds (Ne.symm (idle own carried other)) after⟩
  rw [acquire]
  split_ifs with taken
  · exact ⟨distinct, kept _⟩
  · refine ⟨List.nodup_cons.2 ⟨taken, distinct⟩, ?_⟩
    intro other member
    rcases List.mem_cons.1 member with rfl | earlier
    · exact ⟨desired, payload, List.mem_set bound _⟩
    · exact kept _ other earlier

/-- Resuming a deployment keeps every lock held. -/
theorem held_resume
    {sets : Sets} {locals : List Deployment} {index : Nat} {current : Deployment}
    (held : Held (sets, locals)) (found : locals[index]? = some current) :
    Held ((executor.resume devices sets current).1,
      locals.set index (executor.resume devices sets current).2) := by
  -- a deployment that does not set holds no lock, whatever it becomes
  have idle : ∀ (events : List Event) (after : Deployment),
      (∀ desired payload host, current ≠ .setting desired payload host) →
      Held (⟨sets.locked, events⟩, locals.set index after) := by
    intro events after apart
    refine ⟨held.1, ?_⟩
    intro host member
    obtain ⟨desired, payload, holds⟩ := held.2 host member
    exact ⟨desired, payload,
      mem_set_of_ne found holds (Ne.symm (apart desired payload host)) after⟩
  cases current with
  | fresh desired =>
      have apart : ∀ other payload host,
          Deployment.fresh desired ≠ .setting other payload host := by
        intro other payload host same
        cases same
      rw [resume]
      rcases executor.renderPayload desired with error | payload
      · exact idle _ _ apart
      · rcases executor.dialHost desired with error | host
        · exact idle _ _ apart
        · have events : Held (⟨sets.locked,
              sets.events ++ [.rendered desired.device.id (.ok payload)]⟩, locals) := held
          exact held_acquire events found apart desired payload host
  | acquiring desired payload host =>
      apply held_acquire held found
      intro other carried taken same
      cases same
  | setting desired payload host =>
      refine ⟨held.1.erase host, ?_⟩
      intro other member
      obtain ⟨different, taken⟩ := held.1.mem_erase_iff.1 member
      obtain ⟨own, carried, holds⟩ := held.2 other taken
      refine ⟨own, carried, mem_set_of_ne found holds ?_ _⟩
      intro same
      cases same
      exact different rfl
  | done result =>
      apply idle sets.events
      intro other payload host same
      cases same

theorem remaining_acquire
    (sets : Sets) (desired : DesiredState) (payload : Json) (host : String) :
    remaining (acquire sets desired payload host).2 ≤ 2 := by
  rw [acquire]
  split_ifs
  · exact Nat.le_refl 2
  · exact Nat.le_succ 1

/-- Where a deployment waits, one of them can be brought further. -/
theorem exists_further
    {sets : Sets} {locals : List Deployment} (held : Held (sets, locals))
    (waiting : ∃ current ∈ locals, (executor.deployments devices).waits current = true) :
    ∃ (index : Nat) (current : Deployment), locals[index]? = some current ∧
      (executor.deployments devices).waits current = true ∧
      remaining (executor.resume devices sets current).2 < remaining current := by
  have at_index : ∀ {current : Deployment}, current ∈ locals →
      (executor.deployments devices).waits current = true →
      remaining (executor.resume devices sets current).2 < remaining current →
      ∃ (index : Nat) (current : Deployment), locals[index]? = some current ∧
        (executor.deployments devices).waits current = true ∧
        remaining (executor.resume devices sets current).2 < remaining current := by
    intro current member waits further
    obtain ⟨index, found⟩ := List.mem_iff_getElem?.1 member
    exact ⟨index, current, found, waits, further⟩
  obtain ⟨current, member, waits⟩ := waiting
  cases current with
  | fresh desired =>
      apply at_index member waits
      rw [resume]
      rcases executor.renderPayload desired with error | payload
      · exact Nat.zero_lt_succ 2
      · rcases executor.dialHost desired with error | host
        · exact Nat.zero_lt_succ 2
        · exact Nat.lt_succ_of_le (remaining_acquire _ desired payload host)
  | acquiring desired payload host =>
      by_cases taken : host ∈ sets.locked
      · -- its lock is held by a deployment that sets, which ends first
        obtain ⟨own, carried, holds⟩ := held.2 host taken
        exact at_index holds rfl (Nat.zero_lt_succ 0)
      · apply at_index member waits
        rw [resume, acquire, if_neg taken]
        exact Nat.lt_succ_self 1
  | setting desired payload host => exact at_index member waits (Nat.zero_lt_succ 0)
  | done result => cases waits

/-- Whatever was resumed before, the deployments of a batch end after some more resumptions. -/
theorem exists_ended (states : List DesiredState) (schedule : List Nat) :
    ∃ more, ∀ current ∈ ((executor.deployments devices).interleave
        (⟨[], []⟩, states.map .fresh) (schedule ++ more)).2,
      (executor.deployments devices).waits current = false := by
  have kept : ∀ (sets : Sets) (locals : List Deployment) (index : Nat) (current : Deployment),
      Held (sets, locals) → locals[index]? = some current →
      (executor.deployments devices).waits current = true →
      Held ((executor.resume devices sets current).1,
        locals.set index (executor.resume devices sets current).2) := by
    intro sets locals index current held found _
    exact executor.held_resume devices held found
  have start : Held (⟨[], []⟩, states.map .fresh) := by
    refine ⟨List.nodup_nil, ?_⟩
    intro host member
    cases member
  exact Coroutines.exists_ended_after kept (executor.stops_deployment devices)
    (fun sets locals held waiting => executor.exists_further devices held waiting) _ start schedule

end GnmiExecutor

end Snapl.Executor
