import Snapl.Intent.Models

/-!
# Observability models

A drift item carries the proof that its two values differ, and a drift report
the proof that its status, items and error agree, so that neither can be built
otherwise.  `build` is the validating constructor of the source.
-/

namespace Snapl.Observability

open Snapl.Library Snapl.Intent

inductive DriftStatus where
  | clean
  | drifted
  | error
deriving DecidableEq

/-- The text of a status. -/
def DriftStatus.value : DriftStatus → String
  | .clean => "clean"
  | .drifted => "drifted"
  | .error => "error"

inductive EventType where
  | driftDetected
  | stateClean
  | driftError
deriving DecidableEq

/-- The event type of a report with this status. -/
def statusToEventType : DriftStatus → EventType
  | .drifted => .driftDetected
  | .clean => .stateClean
  | .error => .driftError

/-- A single detected discrepancy between desired and actual state. -/
structure DriftItem where
  path : String
  desired : Json
  actual : Json
  entityKind : String
  undesired : Bool
  differs : Json.pyEq desired actual = false
deriving DecidableEq

/-- Build an item, refusing equal values. -/
def DriftItem.build
    (path : String) (desired actual : Json) (entityKind : String)
    (undesired : Bool) : Except PyError DriftItem :=
  if differs : Json.pyEq desired actual = false then
    .ok ⟨path, desired, actual, entityKind, undesired, differs⟩
  else .error .valueError

/-- What the status of a report says about its items and its error. -/
def StatusAgrees (status : DriftStatus) (items : List DriftItem)
    (error : Option String) : Prop :=
  match status with
  | .clean => items = [] ∧ error = none
  | .drifted => items ≠ [] ∧ error = none
  | .error => items = [] ∧ error ≠ none

instance (status : DriftStatus) (items : List DriftItem)
    (error : Option String) : Decidable (StatusAgrees status items error) := by
  cases status <;> exact inferInstanceAs (Decidable (_ ∧ _))

/-- The complete drift analysis of a single device. -/
structure DriftReport where
  deviceId : UUID
  deviceName : String
  status : DriftStatus
  items : List DriftItem
  error : Option String
  timestamp : Int
  agrees : StatusAgrees status items error
deriving DecidableEq

/-- Build a report, refusing a status that disagrees with the rest. -/
def DriftReport.build
    (deviceId : UUID) (deviceName : String) (status : DriftStatus)
    (items : List DriftItem) (error : Option String) (timestamp : Int) :
    Except PyError DriftReport :=
  if agrees : StatusAgrees status items error then
    .ok ⟨deviceId, deviceName, status, items, error, timestamp, agrees⟩
  else .error .valueError

/-- The report of a device that could not be evaluated. -/
def DriftReport.failed
    (deviceId : UUID) (deviceName error : String) (timestamp : Int) :
    DriftReport :=
  ⟨deviceId, deviceName, .error, [], some error, timestamp, by simp [StatusAgrees]⟩

theorem DriftReport.build_failed
    (deviceId : UUID) (deviceName error : String) (timestamp : Int) :
    DriftReport.build deviceId deviceName .error [] (some error) timestamp =
      .ok (DriftReport.failed deviceId deviceName error timestamp) := by
  rw [DriftReport.build, dif_pos (by simp [StatusAgrees])]
  rfl

theorem DriftReport.items_eq_nil_of_clean
    {report : DriftReport} (clean : report.status = .clean) :
    report.items = [] := by
  have agrees := report.agrees
  rw [clean] at agrees
  exact agrees.1

theorem DriftReport.items_ne_nil_of_drifted
    {report : DriftReport} (drifted : report.status = .drifted) :
    report.items ≠ [] := by
  have agrees := report.agrees
  rw [drifted] at agrees
  exact agrees.1

theorem DriftReport.items_eq_nil_of_error
    {report : DriftReport} (errored : report.status = .error) :
    report.items = [] := by
  have agrees := report.agrees
  rw [errored] at agrees
  exact agrees.1

end Snapl.Observability
