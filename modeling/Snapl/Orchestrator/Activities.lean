import Snapl.Observability.Diff
import Snapl.Orchestrator.Srlinux
import Snapl.Orchestrator.Temporal

/-!
# Activities

What the activities compute from what the blocks below them return.  The
results of the collector and of the executor keep the fields workflows read.
-/

namespace Snapl.Orchestrator

open Snapl.Library Snapl.Intent Snapl.Observability

/-- The outcome of applying a configuration. -/
structure ApplyResult where
  deviceId : UUID
  deviceName : String
  success : Bool
  error : Option String
deriving DecidableEq

/-- The outcome of a collection: data on success, an error otherwise. -/
structure CollectResult where
  deviceId : UUID
  deviceName : String
  success : Bool
  data : Dict String Json
  error : Option String
  succeeded : success = true → error = none
  failed : success = false → filled? error ≠ none

/-- The failure of a device the source of truth does not know. -/
def intentNotFound (deviceId : UUID) : ActivityFailure where
  cause := some (.application (some "IntentNotFoundError")
    ("No desired state found for device " ++ deviceId.text))
  text := "Activity task failed"

/-- The first of the states found for a device. -/
def fetchDesiredState (deviceId : UUID) (states : List DesiredState) :
    ActivityOutcome DesiredState :=
  match states with
  | [] => .failed (intentNotFound deviceId)
  | state :: _ => .returned state

/-- Every device of the states of a use case, each once, in order. -/
def fetchDevicesForUseCase (states : List DesiredState) : List Device :=
  (Dict.ofPairs (states.map fun state => (state.device.id, state.device))).values

/-- The observer: compare a desired state with a normalized collection. -/
def structuralDrift
    (timestamp : Int) (desired : DesiredState) (actual : CollectResult) :
    Except PyError DriftReport :=
  if desired.device.id ≠ actual.deviceId then .error .valueError
  else if actual.success = false then
    DriftReport.build desired.device.id desired.device.name .error [] actual.error
      timestamp
  else
    DriftReport.build desired.device.id desired.device.name
      (if diffDesiredVsActual desired actual.data = [] then .clean else .drifted)
      (diffDesiredVsActual desired actual.data) none timestamp

/-- The activity: normalize a successful collection, then observe. -/
def detectDrift
    (text : PyText) (timestamp : Int) (desired : DesiredState)
    (collected : CollectResult) : Except PyError DriftReport :=
  if collected.success = true then do
    let data ← normalizeSrlinuxState text collected.data
    structuralDrift timestamp desired { collected with data := data }
  else structuralDrift timestamp desired collected

theorem build_report_eq_ok
    {deviceId : UUID} {deviceName : String} {status : DriftStatus}
    {items : List DriftItem} {error : Option String} {timestamp : Int}
    {report : DriftReport}
    (built : DriftReport.build deviceId deviceName status items error timestamp =
      .ok report) :
    report.deviceId = deviceId ∧ report.status = status ∧ report.items = items := by
  rw [DriftReport.build] at built
  split_ifs at built
  cases built
  exact ⟨rfl, rfl, rfl⟩

/-- A report is about the device of the desired state. -/
theorem deviceId_of_structuralDrift
    {timestamp : Int} {desired : DesiredState} {actual : CollectResult}
    {report : DriftReport}
    (observed : structuralDrift timestamp desired actual = .ok report) :
    report.deviceId = desired.device.id := by
  rw [structuralDrift] at observed
  split_ifs at observed
  all_goals exact (build_report_eq_ok observed).1

theorem deviceId_of_detectDrift
    {text : PyText} {timestamp : Int} {desired : DesiredState}
    {collected : CollectResult} {report : DriftReport}
    (detected : detectDrift text timestamp desired collected = .ok report) :
    report.deviceId = desired.device.id := by
  rw [detectDrift] at detected
  split_ifs at detected
  · obtain ⟨data, -, observed⟩ := (bind_eq_ok _ _ _).1 detected
    exact deviceId_of_structuralDrift observed
  · exact deviceId_of_structuralDrift detected

/-- The report of a successful collection holds the items of the diff. -/
theorem detectDrift_of_normalized
    {text : PyText} {timestamp : Int} {desired : DesiredState}
    {collected : CollectResult} {data : Dict String Json}
    (same : desired.device.id = collected.deviceId)
    (success : collected.success = true)
    (normalized : normalizeSrlinuxState text collected.data = .ok data) :
    ∃ report, detectDrift text timestamp desired collected = .ok report ∧
      report.deviceId = desired.device.id ∧
      report.status =
        (if diffDesiredVsActual desired data = [] then .clean else .drifted) ∧
      report.items = diffDesiredVsActual desired data := by
  have agrees : StatusAgrees
      (if diffDesiredVsActual desired data = [] then .clean else .drifted)
      (diffDesiredVsActual desired data) none := by
    by_cases none : diffDesiredVsActual desired data = []
    · simp [StatusAgrees, none]
    · simp [StatusAgrees, none]
  refine ⟨⟨desired.device.id, desired.device.name, _, _, none, timestamp, agrees⟩,
    ?_, rfl, rfl, rfl⟩
  rw [detectDrift, if_pos success, normalized, ok_bind, structuralDrift,
    if_neg (by simpa using same), if_neg (by simp [success]), DriftReport.build,
    dif_pos agrees]

/-- Each device of a use case is listed under its own identifier. -/
theorem fetchDevicesForUseCase_keys (states : List DesiredState) :
    (fetchDevicesForUseCase states).map Device.id =
      (Dict.ofPairs (states.map fun state => (state.device.id, state.device))).keys := by
  rw [fetchDevicesForUseCase, Dict.values, Dict.keys, List.map_map]
  refine List.map_congr_left fun entry member => ?_
  rcases Dict.mem_entries_update _ _ member with pair | absent
  · obtain ⟨state, -, rfl⟩ := List.mem_map.1 pair
    rfl
  · cases absent

/-- The devices of a use case have distinct identifiers. -/
theorem nodup_fetchDevicesForUseCase (states : List DesiredState) :
    ((fetchDevicesForUseCase states).map Device.id).Nodup := by
  rw [fetchDevicesForUseCase_keys]
  exact Dict.keys_nodup _

end Snapl.Orchestrator
