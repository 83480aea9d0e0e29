import Snapl.Orchestrator.Activities

/-!
# The gNMI executor

One attempt of the apply activity: render the desired state, find the address
to dial, wait for the set lock of that address, and set.  A device is dialled
in the set only, so an attempt that fails to render, finds no address or is cut
off while it waits has not touched it.
-/

namespace Snapl.Executor

open Snapl.Library Snapl.Intent Snapl.Orchestrator

/-- What an executor is built with: rendering, and the quoting of its texts. -/
structure GnmiExecutor where
  host : Option String
  render : DesiredState → Except String Json
  repr : String → String

/-- What happens once the set lock of the address is asked for. -/
inductive SetCourse where
  | unlocked
  | lost
  | returned
  | raised (error : String)
deriving DecidableEq

/-- What an attempt did: whether it set, and what it returned unless it was cut off. -/
structure Attempted where
  sets : Bool
  result : Option ApplyResult

section Apply

variable (executor : GnmiExecutor) (desired : DesiredState)

def succeededApply : ApplyResult where
  deviceId := desired.device.id
  deviceName := desired.device.name
  success := true
  error := none

def failedApply (error : String) : ApplyResult where
  deviceId := desired.device.id
  deviceName := desired.device.name
  success := false
  error := some error

/-- The error of a device nothing can dial. -/
def undialable : String :=
  "no gNMI dial target for device " ++ executor.repr desired.device.name ++
    ": lab_node_name and management_address are empty and no fallback host is configured"

/-- Set a rendered payload, one set at a time for each address. -/
def gnmiSet (course : SetCourse) : Attempted :=
  match desired.device.dialHost executor.host with
  | none => ⟨false, some (failedApply desired (undialable executor desired))⟩
  | some _ =>
      match course with
      | .unlocked => ⟨false, none⟩
      | .lost => ⟨true, none⟩
      | .returned => ⟨true, some (succeededApply desired)⟩
      | .raised error => ⟨true, some (failedApply desired error)⟩

/-- Render and set; a render failure is a failed result, and nothing is dialled. -/
def deploy (course : SetCourse) : Attempted :=
  match executor.render desired with
  | .error error =>
      ⟨false, some (failedApply desired
        ("render failed for use case " ++ executor.repr desired.device.useCase ++ ": " ++
          error))⟩
  | .ok _ => gnmiSet executor desired course

/-- The set of an attempt is started once rendering, an address and the lock are there. -/
theorem deploy_sets_iff (course : SetCourse) :
    (deploy executor desired course).sets = true ↔
      (∃ payload, executor.render desired = .ok payload) ∧
        desired.device.dialHost executor.host ≠ none ∧ course ≠ .unlocked := by
  rw [deploy]
  rcases executor.render desired with error | payload
  · simp
  · rcases host : desired.device.dialHost executor.host with _ | host
    · simp [gnmiSet, host]
    · cases course <;> simp [gnmiSet, host]

end Apply

end Snapl.Executor
