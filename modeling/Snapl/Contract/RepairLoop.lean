import Snapl.Contract.Convergence
import Snapl.Contract.RepairDecision
import Snapl.Contract.ScanAccounting

/-!
# The closed loop over time

Any number of scheduled runs and operators work on a fabric whose intent
stands.  Their applies take effect on a device in any order, as often as they
are retried, and whatever becomes of the runs they belong to; and now and then
somebody else changes a device.  As long as nobody does, a device is changed by
the first apply only.  What a scheduled run does afterwards is decided by that
one configuration: when it shows the intent no run writes to the device again,
and when it does not every run that reaches the device writes to it again, in
vain.
-/

namespace Snapl.Contract

open Snapl.Library Snapl.Library.KeyedTree Snapl.Intent Snapl.Executor
open Snapl.Observability Snapl.Orchestrator

/-- Whose apply it is: that of a scheduled run, or of an operator's command. -/
inductive Origin (Run : Type) where
  | scheduled (run : Run)
  | operator

/-- What happens to a device at one time. -/
inductive Happening (Run : Type) where
  /-- An apply takes effect on the device, which puts new entries where `place` says. -/
  | applied (origin : Origin Run) (deviceId : UUID) (place : Placement)
  /-- Somebody else changes the configuration of the device. -/
  | changed (deviceId : UUID)

/-- The device something happens to. -/
def Happening.target {Run : Type} : Happening Run → UUID
  | .applied _ deviceId _ => deviceId
  | .changed deviceId => deviceId

/-- What an apply of this intent makes of a configuration. -/
def Applies
    (text : PyText) (desired : DesiredState) (place : Placement)
    (before after : DeviceConfig) : Prop :=
  ∃ payload, render text desired = .ok payload ∧
    after.tree = merge place [] configSchema before.tree payload

/--
The devices of a fabric over time, with the runs that work on it.  A run scans
a device at some time, and its applies take effect later, if it has any.
-/
structure Execution (Run : Type) where
  text : PyText
  intent : UUID → DesiredState
  occurrence : Run → Occurrence
  scannedAt : Run → UUID → Nat
  config : Nat → UUID → DeviceConfig
  happening : Nat → Option (Happening Run)
  finds : ∀ run deviceId, (occurrence run).Finds text deviceId (intent deviceId)
    (config (scannedAt run deviceId) deviceId).tree
  caused : ∀ {time run deviceId place},
    happening time = some (.applied (.scheduled run) deviceId place) →
      deviceId ∈ (occurrence run).writes ∧ scannedAt run deviceId ≤ time
  applies : ∀ {time origin deviceId place},
    happening time = some (.applied origin deviceId place) →
      Applies text (intent deviceId) place (config time deviceId) (config (time + 1) deviceId)
  others : ∀ time deviceId, (∀ happens ∈ happening time, happens.target ≠ deviceId) →
    config (time + 1) deviceId = config time deviceId

namespace Execution

variable {Run : Type} (execution : Execution Run) (deviceId : UUID)

/-- From this time on nobody but an apply changes the device. -/
def LeftAlone (start : Nat) : Prop :=
  ∀ time, start ≤ time → execution.happening time ≠ some (.changed deviceId)

/-- The place of the apply that takes effect on the device at a time. -/
def appliedAt (time : Nat) : Option Placement :=
  match execution.happening time with
  | some (.applied _ target place) => if target = deviceId then some place else none
  | _ => none

/-- An apply takes effect on the device at this time. -/
def AppliedAt (time : Nat) : Prop :=
  ∃ origin place, execution.happening time = some (.applied origin deviceId place)

/-- What the loop does to a device once an apply took effect on it. -/
structure Closed (start time : Nat) : Prop where
  kept : ∀ later, time < later →
    execution.config later deviceId = execution.config (time + 1) deviceId
  justified : ∀ run, time < execution.scannedAt run deviceId →
    deviceId ∈ (execution.occurrence run).writes →
      Deviates (execution.config (time + 1) deviceId).tree (execution.intent deviceId)
  repeated : ∀ run, time < execution.scannedAt run deviceId →
    (execution.occurrence run).Reaches deviceId (execution.intent deviceId) →
      (deviceId ∈ (execution.occurrence run).writes ↔
        Deviates (execution.config (time + 1) deviceId).tree (execution.intent deviceId))
  quiet : RepairVisible (execution.intent deviceId) (execution.config start deviceId).tree →
    ∀ run, time < execution.scannedAt run deviceId → deviceId ∉ (execution.occurrence run).writes
  futile : ¬ RepairVisible (execution.intent deviceId) (execution.config start deviceId).tree →
    Readable (execution.config (time + 1) deviceId).tree →
    (∀ earlier ≤ time, ∀ place ∈ execution.appliedAt deviceId earlier, place = lastPlacement) →
    ∀ run, time < execution.scannedAt run deviceId →
      (execution.occurrence run).Reaches deviceId (execution.intent deviceId) →
        deviceId ∈ (execution.occurrence run).writes

variable {execution deviceId} {start time : Nat}

theorem appliedAt_eq_some_iff {place : Placement} :
    execution.appliedAt deviceId time = some place ↔
      ∃ origin, execution.happening time = some (.applied origin deviceId place) := by
  rw [appliedAt]
  rcases execution.happening time with _ | ⟨origin, target, other⟩ | target
  · simp
  · by_cases same : target = deviceId
    · simp [same]
    · simp [same]
  · simp

/-- The configurations of a device left alone run through applies of the payload. -/
theorem runsFrom
    (plain : PlainState execution.text (execution.intent deviceId))
    (left : execution.LeftAlone deviceId start) :
    RunsFrom (DeviceConfig.applied execution.text (execution.intent deviceId)) start
      (execution.appliedAt deviceId) (fun time => execution.config time deviceId) := by
  intro time later
  rcases taken : execution.appliedAt deviceId time with _ | place
  · refine execution.others time deviceId fun happens member same => ?_
    rcases happens with ⟨origin, target, place⟩ | target
    · obtain rfl : target = deviceId := same
      rw [appliedAt_eq_some_iff.2 ⟨origin, member⟩] at taken
      cases taken
    · obtain rfl : target = deviceId := same
      exact left time later member
  · obtain ⟨origin, happens⟩ := appliedAt_eq_some_iff.1 taken
    obtain ⟨payload, rendered, tree⟩ := execution.applies happens
    obtain ⟨-, -, rfl⟩ := (render_eq_ok_iff plain payload).1 rendered
    exact DeviceConfig.eq_of_tree tree

/-- An applied configuration is the first configuration after one update. -/
theorem exists_update
    (distinguished : Distinguished (execution.intent deviceId))
    (plain : PlainState execution.text (execution.intent deviceId))
    (left : execution.LeftAlone deviceId start) (later : start ≤ time)
    (applied : execution.AppliedAt deviceId time) :
    ∃ earlier place, start ≤ earlier ∧ earlier ≤ time ∧
      execution.appliedAt deviceId earlier = some place ∧
      (execution.config (time + 1) deviceId).tree =
        updated execution.text (execution.intent deviceId) place
          (execution.config start deviceId).tree := by
  obtain ⟨origin, place, happens⟩ := applied
  obtain ⟨earlier, initial, begun, before, taken, changed⟩ :=
    (runsFrom plain left).first (absorbing_applied distinguished) later
      (appliedAt_eq_some_iff.2 ⟨origin, happens⟩)
  exact ⟨earlier, initial, begun, before, taken, congrArg DeviceConfig.tree changed⟩

/-- A rendered payload takes effect at the apply of an execution. -/
theorem rendered_of_applied (applied : execution.AppliedAt deviceId time) :
    ∃ payload, render execution.text (execution.intent deviceId) = .ok payload := by
  obtain ⟨origin, place, happens⟩ := applied
  obtain ⟨payload, rendered, -⟩ := execution.applies happens
  exact ⟨payload, rendered⟩

/-- What a run finds that scans the device after an apply. -/
theorem finds_after
    (kept : ∀ later, time < later →
      execution.config later deviceId = execution.config (time + 1) deviceId)
    {run : Run} (scanned : time < execution.scannedAt run deviceId) :
    (execution.occurrence run).Finds execution.text deviceId (execution.intent deviceId)
      (execution.config (time + 1) deviceId).tree := by
  rw [← kept _ scanned]
  exact execution.finds run deviceId

/--
While nobody but applies changes a device, the first of them is the last to
change it, and it alone decides what every run does that scans the device
afterwards: nothing once the repair is visible, and the same apply again
otherwise.
-/
theorem repair_loop_closed
    (execution : Execution Run) {deviceId : UUID}
    (distinguished : Distinguished (execution.intent deviceId))
    (plain : PlainState execution.text (execution.intent deviceId))
    {start time : Nat} (left : execution.LeftAlone deviceId start) (later : start ≤ time)
    (applied : execution.AppliedAt deviceId time) :
    execution.Closed deviceId start time := by
  have kept : ∀ later, time < later →
      execution.config later deviceId = execution.config (time + 1) deviceId := by
    obtain ⟨origin, place, happens⟩ := applied
    exact fun after => (runsFrom plain left).settled (absorbing_applied distinguished) later
      (appliedAt_eq_some_iff.2 ⟨origin, happens⟩)
  obtain ⟨payload, rendered⟩ := rendered_of_applied applied
  obtain ⟨complete, writable, -⟩ := (render_eq_ok_iff plain payload).1 rendered
  obtain ⟨earlier, place, begun, before, taken, tree⟩ :=
    exists_update distinguished plain left later applied
  have reports := reports_qualifiedReport (execution.config (time + 1) deviceId).tree
  have updates : Reports (qualifiedReport (execution.config (time + 1) deviceId).tree)
      (updated execution.text (execution.intent deviceId) place
        (execution.config start deviceId).tree) := by
    rw [← tree]
    exact reports
  refine ⟨kept, ?_, ?_, ?_, ?_⟩
  · intro run scanned written
    exact (finds_after kept scanned).deviates_of_mem_writes written
  · intro run scanned reaches
    exact (finds_after kept scanned).mem_writes_iff reaches
  · intro visible run scanned written
    have settled := settled_of_repairVisible distinguished.names distinguished.peers writable
      complete visible place updates
    exact ((finds_after kept scanned).deviates_of_mem_writes written).2
      ((settled_iff reports).1 settled).2
  · intro hidden readable last run scanned reaches
    obtain rfl := last earlier before place taken
    refine ((finds_after kept scanned).mem_writes_iff reaches).2 ⟨readable, fun shows => hidden ?_⟩
    exact repairVisible_of_settled distinguished.names distinguished.peers updates
      ((settled_iff reports).2 ⟨readable, shows⟩)

end Execution

/-- What the parent of a child sees of the way it ended. -/
def childOutcome {Result : Type} : Except Raised Result → ChildOutcome Result
  | .ok result => .returned result
  | .error .cancelled => .cancelled
  | .error _ => .failed ⟨none, "Child Workflow execution failed"⟩

theorem eq_ok_of_childOutcome
    {Result : Type} {ending : Except Raised Result} {result : Result}
    (returned : childOutcome ending = .returned result) : ending = .ok result := by
  rcases ending with raised | given
  · cases raised <;> cases returned
  · cases returned
    rfl

/-- The sample device is the only one the store knows. -/
def sampleFetched (deviceId : UUID) : ActivityOutcome DesiredState :=
  if deviceId = sampleDevice.id then .returned sampleState else .failed ScanDrift.notReached

theorem own_sampleFetched
    {deviceId : UUID} {desired : DesiredState}
    (fetched : sampleFetched deviceId = .returned desired) :
    desired.device.id = deviceId ∧ desired = sampleState := by
  rw [sampleFetched] at fetched
  split_ifs at fetched with same
  cases fetched
  exact ⟨same.symm, rfl⟩

/-- A scan of the use case that finds this configuration on the device. -/
def sampleScan (config : Json) : ScanDrift.Setting where
  toSurroundings := Surroundings.calm "drift-response-scan" none
  text := PyText.ascii
  states := .returned [sampleState]
  fetched := sampleFetched
  ownState := fun fetched => (own_sampleFetched fetched).1
  collected := fun deviceId =>
    if deviceId = sampleDevice.id then
      .returned (collection sampleDevice (qualifiedReport config))
    else .failed ScanDrift.notReached
  detected := fun _ => .ran 0
  activityFailure := fun _ => ⟨none, "Activity task failed"⟩
  deviceAppended := fun _ => .done
  schedule := []
  inFlightLands := fun _ => false

/-- A scheduled repair of which every part goes through, up to the apply. -/
def sampleRepair (config : Json) : Occurrence where
  request := scheduledRepair
  setting :=
    { toSurroundings := Surroundings.calm "drift-response" none
      scanned := childOutcome
        ((ScanDrift.run (sampleScan config) scheduledRepair.useCaseId).ending Journal.blank)
      reconciled := .cancelled
      patched := true }
  scan := sampleScan config
  reconcile := deploysInFlight
  deploy := fun deviceId =>
    { toSurroundings := Surroundings.calm "deploy-intent" none
      fetched := sampleFetched deviceId
      applied := .returned ⟨sampleDevice.id, sampleDevice.name, true, none⟩
      collected := .failed ScanDrift.notReached
      detected := .failed ScanDrift.notReached }
  ownState := fun fetched => (own_sampleFetched fetched).1

theorem undisturbed_sampleScan (config : Json) :
    ScanDrift.Undisturbed (sampleScan config) [sampleDevice] where
  uncancelled := rfl
  succeed := fun _ => rfl
  recorded := fun _ => rfl
  fetched := rfl

@[simp] theorem scan_sampleRepair (config : Json) :
    (sampleRepair config).scan = sampleScan config := rfl

@[simp] theorem request_sampleRepair (config : Json) :
    (sampleRepair config).request = scheduledRepair := rfl

@[simp] theorem scanned_sampleRepair (config : Json) :
    (sampleRepair config).setting.scanned = childOutcome
      ((ScanDrift.run (sampleScan config) scheduledRepair.useCaseId).ending Journal.blank) := by
  simp only [sampleRepair]

theorem finds_sampleRepair
    {deviceId : UUID} {config found : Json} (own : deviceId = sampleDevice.id → found = config) :
    (sampleRepair found).Finds PyText.ascii deviceId sampleState config where
  text := rfl
  scanned := by
    intro scan returned
    rw [scanned_sampleRepair] at returned
    rw [scan_sampleRepair, request_sampleRepair, eq_ok_of_childOutcome returned]
  fetched := fun _ fetched => (own_sampleFetched fetched).2
  deployed := fun _ fetched => (own_sampleFetched fetched).2
  collected := by
    intro collected returned _
    change (if deviceId = sampleDevice.id then
      ActivityOutcome.returned (collection sampleDevice (qualifiedReport found))
        else .failed ScanDrift.notReached) = .returned collected at returned
    split_ifs at returned with same
    cases returned
    rw [← own same]
    exact reports_qualifiedReport found

theorem reaches_sampleRepair (config : Json) :
    (sampleRepair config).Reaches sampleDevice.id sampleState where
  remediates := rfl
  begun := rfl
  scanned := by
    obtain ⟨reports, result, startedAt, endedAt, events, ended, -, -, fields, -⟩ :=
      (undisturbed_sampleScan config).completed scheduledRepair.useCaseId
    refine ⟨result, ?_, congrArg DriftScanFields.cancelled fields⟩
    rw [scanned_sampleRepair, ended, childOutcome]
  covered := ⟨[sampleDevice], rfl, sampleDevice, List.mem_singleton.2 rfl, rfl⟩
  fetched := rfl
  collected := ⟨_, rfl, rfl, rfl⟩
  detected := ⟨0, rfl⟩
  reconciled := rfl
  applied := ⟨rfl, ⟨sampleState, rfl⟩, rfl⟩

/-- The repair writes to a device that deviates. -/
theorem written_of_sampleRepair
    {config : DeviceConfig} (deviates : Deviates config.tree sampleState) :
    sampleDevice.id ∈ (sampleRepair config.tree).writes :=
  ((finds_sampleRepair fun _ => rfl).mem_writes_iff (reaches_sampleRepair config.tree)).2 deviates

theorem emptyDevice_deviates : Deviates emptyDevice.tree sampleState := by
  refine ⟨nofun, fun shows => ?_⟩
  obtain ⟨entry, member, -⟩ := shows.interfaces _ List.mem_cons_self
  cases member

/-- The sample device before the first run, and after its apply. -/
def sampleConfig (time : Nat) : DeviceConfig :=
  if time = 0 then emptyDevice
  else DeviceConfig.applied PyText.ascii sampleState lastPlacement emptyDevice

/-- One run after the other, of which the first finds the device empty and repairs it. -/
def sampleExecution : Execution Nat where
  text := PyText.ascii
  intent := fun _ => sampleState
  occurrence := fun run => sampleRepair (sampleConfig run).tree
  scannedAt := fun run _ => run
  config := fun time deviceId =>
    if deviceId = sampleDevice.id then sampleConfig time else emptyDevice
  happening := fun time =>
    if time = 0 then some (.applied (.scheduled 0) sampleDevice.id lastPlacement) else none
  finds := fun run deviceId => finds_sampleRepair fun same => by rw [if_pos same]
  caused := by
    intro time run deviceId place happens
    split_ifs at happens with first
    cases happens
    subst first
    exact ⟨written_of_sampleRepair emptyDevice_deviates, le_refl 0⟩
  applies := by
    intro time origin deviceId place happens
    split_ifs at happens with first
    cases happens
    subst first
    exact ⟨_, (render_eq_ok_iff sampleState_replayable.plain _).2
      ⟨prefixesComplete_of_addresses sampleState_replayable.complete,
        sampleState_replayable.writable, rfl⟩, rfl⟩
  others := by
    intro time deviceId others
    rcases time with _ | time
    · have foreign : deviceId ≠ sampleDevice.id := fun same =>
        others _ rfl same.symm
      rw [if_neg foreign, if_neg foreign]
    · rfl

theorem leftAlone_sampleExecution : sampleExecution.LeftAlone sampleDevice.id 0 := by
  intro time _
  rcases time with _ | time
  · nofun
  · nofun

/-- The first run repairs the device, and no later run writes to it. -/
theorem sample_repaired_once :
    sampleDevice.id ∈ (sampleExecution.occurrence 0).writes ∧
      ∀ run, 0 < run → sampleDevice.id ∉ (sampleExecution.occurrence run).writes :=
  ⟨written_of_sampleRepair emptyDevice_deviates,
    (Execution.repair_loop_closed sampleExecution
      ⟨sampleState_replayable.names, sampleState_replayable.peers⟩ sampleState_replayable.plain
      leftAlone_sampleExecution (le_refl 0) ⟨.scheduled 0, lastPlacement, rfl⟩).quiet
        sampleState_visible⟩

end Snapl.Contract
