import Snapl.Contract.DeployOutcome
import Snapl.Contract.RoundTrip
import Snapl.Contract.Visibility
import Snapl.Orchestrator.Remediation

/-!
# Convergence of repair

A repair converges when every complete report of the updated device is free of
forward drift, so that the deploy succeeds and no later scheduled run picks the
device again.  It does so exactly when it is visible: where the payload leaves
something out, the device must already agree with intent.
-/

namespace Snapl.Contract

open Snapl.Library Snapl.Library.KeyedTree Snapl.Intent Snapl.Executor
open Snapl.Observability Snapl.Orchestrator

/-- The activities of a deploy of this state all return, with this verification. -/
structure DeployReturns
    (setting : DeployIntent.Setting) (desired : DesiredState)
    (collected : CollectResult) (report : DriftReport) : Prop where
  succeed : setting.AppendsSucceed
  uncancelled : setting.cancelAt = none
  fetched : setting.fetched = .returned desired
  applied : ∃ applyResult, setting.applied = .returned applyResult ∧
    applyResult.success = true
  collects : setting.collected = .returned collected
  detects : setting.detected = .returned report

/-- What a repair is to bring about, once a collection of the device is at hand. -/
structure Repaired
    (text : PyText) (desired : DesiredState) (timestamp : Int)
    (collected : CollectResult) (report : DriftReport) : Prop where
  detected : detectDrift text timestamp desired collected = .ok report
  settled : hasForwardDrift report = false
  deployed : ∀ setting, DeployReturns setting desired collected report →
    ∃ result : WorkflowResult,
      (DeployIntent.run setting desired.device.id).ending Journal.blank = .ok result ∧
        result.reason = .succeeded
  unpicked : ∀ scan : DriftScanResult,
    scan.reports.get? desired.device.id = some report →
      desired.device.id ∉ (selectRemediation scan).1

/--
Wherever the device puts new entries, every complete report of the updated
configuration shows no forward drift, and everything downstream agrees.
-/
def Converges
    (text : PyText) (desired : DesiredState) (payload : Json) (config : DeviceConfig) :
    Prop :=
  ∀ place data, Reports data (merge place [] configSchema config.tree payload) →
    Settled text desired data ∧
    ∀ (collected : CollectResult) (timestamp : Int),
      collected.deviceId = desired.device.id → collected.success = true →
      collected.data = data →
      ∃ report, Repaired text desired timestamp collected report

theorem hasForwardDrift_of_settled
    {report : DriftReport} (undesired : ∀ item ∈ report.items, item.undesired = true) :
    hasForwardDrift report = false := by
  rw [Bool.eq_false_iff]
  intro forward
  obtain ⟨-, item, member, wanted⟩ := (hasForwardDrift_iff report).1 forward
  rw [undesired item member] at wanted
  cases wanted

/-- A deploy that is verified by a settled report succeeds. -/
theorem succeeded_of_settled
    {setting : DeployIntent.Setting} {desired : DesiredState} {collected : CollectResult}
    {report : DriftReport} (returns : DeployReturns setting desired collected report)
    (verified : DeployIntent.Verified report) :
    ∃ result : WorkflowResult,
      (DeployIntent.run setting desired.device.id).ending Journal.blank = .ok result ∧
        result.reason = .succeeded := by
  obtain ⟨result, startedAt, endedAt, ended, returned, -, -⟩ :=
    DeployIntent.returned_of_uncut setting desired.device.id returns.succeed
      (by simp [returns.uncancelled])
  obtain ⟨applyResult, applied, success⟩ := returns.applied
  have answers : ∀ {Result : Type} (stage : DeployIntent.Stage) (result : Result),
      setting.answers stage (.returned result) = .ok result := by
    intro Result stage result
    simp [DeployIntent.Setting.answers, Surroundings.answer, returns.uncancelled]
  have detects : DeployIntent.Detected setting desired collected report := by
    refine ⟨⟨⟨?_, applyResult, ?_, success⟩, ?_⟩, ?_⟩
    · rw [DeployIntent.Fetched, returns.fetched, answers]
    · rw [applied, answers]
    · rw [returns.collects, answers]
    · rw [returns.detects, answers]
  have classified := DeployIntent.course_classified setting desired.device.id
  refine ⟨result, ended, ?_⟩
  rw [returned]
  exact classified.succeeded.2 (classified.verified.2 ⟨_, _, _, detects, verified⟩)

/-- A settled collection repairs the device, as far as the code can tell. -/
theorem repaired_of_settled
    {text : PyText} {desired : DesiredState} {collected : CollectResult}
    (settled : Settled text desired collected.data) (timestamp : Int)
    (own : collected.deviceId = desired.device.id) (success : collected.success = true) :
    ∃ report, Repaired text desired timestamp collected report := by
  obtain ⟨actual, normalized, undesired⟩ := settled
  obtain ⟨report, detected, -, status, items⟩ :=
    detectDrift_of_normalized own.symm success normalized
  have settled : ∀ item ∈ report.items, item.undesired = true := by
    rw [items]
    exact undesired
  have noForward := hasForwardDrift_of_settled settled
  refine ⟨report, detected, noForward, ?_, ?_⟩
  · intro setting returns
    refine succeeded_of_settled returns ?_
    by_cases none : diffDesiredVsActual desired actual = []
    · rw [if_pos none] at status
      exact Or.inl status
    · rw [if_neg none] at status
      exact Or.inr ⟨status, settled⟩
  · intro scan found remediated
    obtain ⟨other, again, forward⟩ := (mem_remediated_iff scan _).1 remediated
    cases found.symm.trans again
    rw [noForward] at forward
    cases forward

section

variable {text : PyText} {desired : DesiredState} {payload : Json} {config : DeviceConfig}
variable (names : (desired.interfaces.map Interface.name).Nodup)
variable (peers : (desired.bgpSessions.map BGPSession.peerAddress).Nodup)
variable (plain : PlainState text desired) (rendered : render text desired = .ok payload)

include names peers plain rendered

theorem converges_of_repairVisible (visible : RepairVisible desired config.tree) :
    Converges text desired payload config := by
  obtain ⟨complete, writable, rfl⟩ := (render_eq_ok_iff plain payload).1 rendered
  intro place data reports
  have settled := settled_of_repairVisible names peers writable complete visible place reports
  refine ⟨settled, ?_⟩
  rintro collected timestamp own success rfl
  exact repaired_of_settled settled timestamp own success

theorem repairVisible_of_converges (converges : Converges text desired payload config) :
    RepairVisible desired config.tree := by
  obtain ⟨-, -, rfl⟩ := (render_eq_ok_iff plain payload).1 rendered
  have reports := reports_qualifiedReport (updated text desired lastPlacement config.tree)
  exact repairVisible_of_settled names peers reports (converges _ _ reports).1

end

/-- A rendered repair converges exactly when it is visible. -/
theorem repair_converges_iff
    (text : PyText) (desired : DesiredState) (payload : Json) (config : DeviceConfig)
    (names : (desired.interfaces.map Interface.name).Nodup)
    (peers : (desired.bgpSessions.map BGPSession.peerAddress).Nodup)
    (plain : PlainState text desired) (rendered : render text desired = .ok payload) :
    Converges text desired payload config ↔ RepairVisible desired config.tree :=
  ⟨repairVisible_of_converges names peers plain rendered,
    converges_of_repairVisible names peers plain rendered⟩

/-- A device without configuration. -/
def emptyDevice : DeviceConfig := ⟨.obj [], by decide +kernel⟩

theorem sampleState_visible : RepairVisible sampleState emptyDevice.tree where
  description := by decide +kernel
  address := by decide +kernel
  peerGroup := by decide +kernel
  readable := nofun

theorem sampleState_converges :
    ∃ payload, render PyText.ascii sampleState = .ok payload ∧
      Converges PyText.ascii sampleState payload emptyDevice := by
  have rendered := (render_eq_ok_iff sampleState_replayable.plain _).2
    ⟨prefixesComplete_of_addresses sampleState_replayable.complete,
      sampleState_replayable.writable, rfl⟩
  exact ⟨_, rendered, (repair_converges_iff _ _ _ emptyDevice sampleState_replayable.names
    sampleState_replayable.peers sampleState_replayable.plain rendered).2 sampleState_visible⟩

/-- An interface whose description intent leaves unset. -/
def undescribedState : DesiredState where
  device := sampleDevice
  interfaces := [⟨"ethernet-1/1", none, none, none, true, none⟩]
  bgpSessions := []

/-- A device on which that interface has a description. -/
def describedDevice : DeviceConfig where
  tree := .obj [("interface", .arr
    [.obj [("name", .str "ethernet-1/1"), ("description", .str "to spine-01")]])]
  conforming := by decide +kernel

theorem undescribedState_replayable : Replayable PyText.ascii undescribedState where
  names := by decide
  peers := by decide
  plain := ⟨by decide, by decide, by decide, by decide, by decide,
    by decide +kernel⟩
  descriptions := by decide
  groups := by decide
  addresses := by decide
  complete := by decide
  writable := ⟨by decide +kernel, by decide +kernel, by decide +kernel⟩

/--
A well-formed intent is rendered without the description it leaves unset; the
device keeps its own, and the repair never converges.
-/
theorem kept_description_never_converges :
    Replayable PyText.ascii undescribedState ∧
      ∃ payload, render PyText.ascii undescribedState = .ok payload ∧
        ¬ Converges PyText.ascii undescribedState payload describedDevice := by
  have rendered := (render_eq_ok_iff undescribedState_replayable.plain _).2
    ⟨prefixesComplete_of_addresses undescribedState_replayable.complete,
      undescribedState_replayable.writable, rfl⟩
  refine ⟨undescribedState_replayable, _, rendered, fun converges => ?_⟩
  have visible := repairVisible_of_converges undescribedState_replayable.names
    undescribedState_replayable.peers undescribedState_replayable.plain rendered converges
  have agrees := visible.description _ (List.mem_singleton.2 rfl) rfl
  exact absurd agrees (by decide +kernel)

end Snapl.Contract
