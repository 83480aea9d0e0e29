import Snapl.Executor.Renderer
import Snapl.Orchestrator.SerializationRun

/-!
# At most one deploy touches a device

A deploy is safe to dial its device when no set of another deploy of that
device is in flight, and a set is safe to land while its run has not ended.
That holds in every run whose endings leave no live attempt behind.  A cancelled
deploy does not wait for its attempt, so an ending may leave one behind.
-/

namespace Snapl.Orchestrator.Serialization

open Snapl.Library Snapl.Intent Snapl.Orchestrator.ReconcileDevices

/-- No other deploy of the device has a set in flight. -/
def Alone (world : World) (attempt : Attempt) : Prop :=
  ∀ other ∈ world.attempts, other.InFlight → other.run ≠ attempt.run →
    world.deviceId? other.run ≠ world.deviceId? attempt.run

/-- A step dials a device alone, and lands a set on it before its run has ended. -/
def Exclusive (world : World) : Action → Prop
  | .issue token =>
      ∀ attempt ∈ world.attempts[token]?, Alone world attempt
  | .complete token _ =>
      ∀ attempt ∈ world.attempts[token]?, attempt.InFlight →
        world.phase? attempt.run ≠ some .ended
  | _ => True

instance (world : World) (attempt : Attempt) : Decidable (Alone world attempt) :=
  inferInstanceAs (Decidable (∀ other ∈ world.attempts, _))

instance (world : World) (action : Action) : Decidable (Exclusive world action) :=
  match action with
  | .issue token => inferInstanceAs (Decidable (∀ attempt ∈ world.attempts[token]?, _))
  | .complete token _ => inferInstanceAs (Decidable (∀ attempt ∈ world.attempts[token]?, _))
  | .deploy _ | .reconcile _ | .fetched _ _ | .pickUp _ _ | .abandon _ | .timeOut _
  | .cancel _ | .terminate _ | .close _ => inferInstanceAs (Decidable True)

section Clean

variable {renders : DesiredState → Bool} {world : World}

theorem World.OpenAt.deviceId?_eq
    {index : Nat} {deviceId : UUID} (opened : world.OpenAt index deviceId) :
    world.deviceId? index = some deviceId := by
  obtain ⟨run, found, -, rfl⟩ := opened
  rw [World.deviceId?, found, Option.map_some]

theorem World.OpenAt.phase?_ne_ended
    {index : Nat} {deviceId : UUID} (opened : world.OpenAt index deviceId) :
    world.phase? index ≠ some .ended := by
  obtain ⟨run, found, isOpen, -⟩ := opened
  rw [World.phase?, found, Option.map_some]
  intro ended
  rw [Run.isOpen, Option.some.inj ended] at isOpen
  cases isOpen

/-- Live attempts of one device belong to one run. -/
theorem Serialized.run_eq
    (serialized : Serialized renders world) {attempt other : Attempt}
    (member : attempt ∈ world.attempts) (live : attempt.Live renders)
    (otherMember : other ∈ world.attempts) (otherLive : other.Live renders)
    (same : world.deviceId? other.run = world.deviceId? attempt.run) :
    other.run = attempt.run := by
  obtain ⟨deviceId, opened⟩ := serialized.owned attempt member live
  obtain ⟨otherId, otherOpened⟩ := serialized.owned other otherMember otherLive
  rw [opened.deviceId?_eq, otherOpened.deviceId?_eq] at same
  cases same
  exact serialized.single otherOpened opened

theorem Serialized.exclusive
    (serialized : Serialized renders world) {action : Action} {next : World}
    (moves : step renders world action = some next) :
    Exclusive world action := by
  cases action with
  | issue token =>
      intro attempt found other otherMember inFlight distinct same
      rw [Option.mem_def] at found
      simp only [step, found] at moves
      split_ifs at moves with may
      exact distinct (serialized.run_eq (List.mem_of_getElem? found)
        (Or.inl ⟨may.1, may.2.1⟩) otherMember (Or.inr inFlight) same)
  | complete token report =>
      intro attempt found inFlight
      obtain ⟨deviceId, opened⟩ :=
        serialized.owned attempt (List.mem_of_getElem? found) (Or.inr inFlight)
      exact opened.phase?_ne_ended
  | _ => exact trivial

end Clean

/--
In every run of operators, schedules, workers and Temporal whose endings leave
no live attempt behind, a device is dialled by one deploy at a time, and every
set lands before its run has ended.
-/
theorem deploys_exclusive_of_endsClean
    (renders : DesiredState → Bool) (actions : List Action)
    (clean : ∀ entry ∈ (step renders).steps World.empty actions,
      EndsClean renders entry.1 entry.2) :
    ∀ entry ∈ (step renders).steps World.empty actions, Exclusive entry.1 entry.2 := by
  intro entry member
  obtain ⟨next, moves⟩ := Transition.enabled_of_mem member
  obtain ⟨met, -⟩ := Transition.invariant_of_allowed Serialized.preserved
    Serialized.empty clean
  exact (met entry member).exclusive moves

/-- The intent of a leaf with a dial target and nothing to configure. -/
def leafIntent : DesiredState :=
  ⟨⟨⟨1⟩, "leaf-01", "172.20.20.11", "dcfabric", none⟩, [], []⟩

/-- The templates render the intent. -/
def rendered (desired : DesiredState) : Bool :=
  (Executor.render PyText.ascii desired).isOk

/-- A deploy that runs to its end undisturbed. -/
def undisturbedDeploy : List Action :=
  [.deploy ⟨1⟩, .fetched 0 (.ok leafIntent), .pickUp 0 0, .issue 0,
    .complete 0 (.returned true), .pickUp 0 1, .issue 1, .complete 1 (.returned true),
    .close 0, .reconcile ⟨1⟩]

theorem undisturbedDeploy_exclusive :
    ((step rendered).steps World.empty undisturbedDeploy).length = 10 ∧
      ∀ entry ∈ (step rendered).steps World.empty undisturbedDeploy,
        Exclusive entry.1 entry.2 := by
  refine ⟨by decide +kernel, deploys_exclusive_of_endsClean _ _ ?_⟩
  decide +kernel

/--
A deploy that is cancelled while its set is in flight, and a second deploy of
the device whose attempt another worker takes.
-/
def cancelledDeploy : List Action :=
  [.deploy ⟨1⟩, .fetched 0 (.ok leafIntent), .pickUp 0 0, .issue 0, .cancel 0, .close 0,
    .deploy ⟨1⟩, .fetched 1 (.ok leafIntent), .pickUp 1 1, .issue 1,
    .complete 0 (.returned true)]

/--
The second deploy sets while the first one's set is in flight, and that set
lands after the first deploy has ended.
-/
theorem cancelledDeploy_not_exclusive :
    ¬ ∀ entry ∈ (step rendered).steps World.empty cancelledDeploy,
      Exclusive entry.1 entry.2 := by
  decide +kernel

end Snapl.Orchestrator.Serialization
