import Snapl.Library.Transition
import Snapl.Orchestrator.DeployCourse
import Snapl.Orchestrator.ReconcileDevices

/-!
# Deploys side by side

All deploy runs of all devices, with the attempts of their activities on the
workers.  Three mechanisms keep the writes of a device apart: the workflow
identifier a device's deploys share, the skip of a reconcile that finds a
deploy already started, and the lock a worker's executor holds for each dial
host while it sets.

Between them stands what Temporal does: an await ends at once when its
activity is cancelled or times out, while the attempt goes on at its worker.

Runs and attempts are never removed.  A run is known by its position among the
runs, and an attempt, or token, by its position among the attempts.
-/

namespace Snapl.Orchestrator.Serialization

open Snapl.Library Snapl.Intent Snapl.Orchestrator.ReconcileDevices

/-- The activities of a deploy that dial its device. -/
inductive Operation where
  | apply
  | collect
deriving DecidableEq

/--
Where a deploy run stands.  While it performs an operation it knows the number
of the attempt and, once a worker took it, its token.  A closing run dials no
device any more: it verifies, or records its terminal event.
-/
inductive Phase where
  | fetching
  | performing
      (operation : Operation) (desired : DesiredState) (number : Nat)
      (current : Option Nat)
  | closing
  | ended
deriving DecidableEq

structure Run where
  workflowId : String
  deviceId : UUID
  phase : Phase

/-- A workflow that has not ended holds its identifier. -/
def Run.isOpen (run : Run) : Bool := run.phase ≠ .ended

/-- `maximum_attempts` of the apply and of the collect activity. -/
def maximumAttempts : Nat := 3

namespace Phase

/-- The phase after the intent was fetched. -/
def ofFetched : Except Raised DesiredState → Phase
  | .ok desired => .performing .apply desired 1 none
  | .error _ => .closing

/-- The phase after the await of an operation ended: whether it succeeded, or what it raised. -/
def ofPerformed (operation : Operation) (desired : DesiredState) :
    Except Raised Bool → Phase
  | .ok success =>
      match operation with
      | .apply => if success then .performing .collect desired 1 none else .closing
      | .collect => .closing
  | .error _ => .closing

/-- The phase after an attempt failed: the next attempt, or the end of the await. -/
def retried (operation : Operation) (desired : DesiredState) (number : Nat) : Phase :=
  if number < maximumAttempts then .performing operation desired (number + 1) none
  else ofPerformed operation desired (.error (.activityError ⟨none, "Activity task failed"⟩))

/-- The operation starts this activity. -/
def commands : Phase → List DeployIntent.Command
  | .performing .apply desired _ _ => [.applyConfig desired]
  | .performing .collect desired _ _ => [.collectDriftState desired.device]
  | _ => []

end Phase

/-- What an attempt reports: the success of its result, or a failure. -/
inductive Report where
  | returned (success : Bool)
  | failed
deriving DecidableEq

/-- The phase after a report; reports of attempts that are not current are dropped. -/
def Phase.informed (phase : Phase) (token : Nat) (report : Report) : Phase :=
  match phase with
  | .performing operation desired number current =>
      if current = some token then
        match report with
        | .returned success => ofPerformed operation desired (.ok success)
        | .failed => retried operation desired number
      else phase
  | phase => phase

/-- A waiting attempt has not dialled; a locked one holds the lock of its host. -/
inductive AttemptState where
  | waiting
  | issued (locked : Bool)
  | ended
deriving DecidableEq

structure Attempt where
  run : Nat
  operation : Operation
  desired : DesiredState
  worker : Nat
  state : AttemptState

/-- The dial target of a device: its lab node name, or else its management address. -/
def dialHost (device : Device) : Option String :=
  match filled? device.labNodeName with
  | some host => some host
  | none => filled? (some device.managementAddress)

namespace Attempt

/-- A set of this attempt has been sent and has not returned. -/
def InFlight (attempt : Attempt) : Prop :=
  attempt.operation = .apply ∧ ∃ locked, attempt.state = .issued locked

instance (attempt : Attempt) : Decidable attempt.InFlight :=
  inferInstanceAs (Decidable (_ ∧ ∃ _ : Bool, _))

/-- The attempt holds the set lock of this host on this worker. -/
def Holds (attempt : Attempt) (worker : Nat) (host : Option String) : Prop :=
  attempt.operation = .apply ∧ attempt.state = .issued true ∧
    attempt.worker = worker ∧ dialHost attempt.desired.device = host

instance (attempt : Attempt) (worker : Nat) (host : Option String) :
    Decidable (attempt.Holds worker host) :=
  inferInstanceAs (Decidable (_ ∧ _ ∧ _ ∧ _))

/-- A waiting attempt can get to dialling: an apply renders, and there is a host to dial. -/
def Dials (renders : DesiredState → Bool) (attempt : Attempt) : Prop :=
  (attempt.operation = .apply → renders attempt.desired = true) ∧
    dialHost attempt.desired.device ≠ none

instance (renders : DesiredState → Bool) (attempt : Attempt) :
    Decidable (attempt.Dials renders) :=
  inferInstanceAs (Decidable (_ ∧ _))

/-- The attempt can still write to its device, or start to read from it. -/
def Live (renders : DesiredState → Bool) (attempt : Attempt) : Prop :=
  (attempt.state = .waiting ∧ attempt.Dials renders) ∨ attempt.InFlight

instance (renders : DesiredState → Bool) (attempt : Attempt) :
    Decidable (attempt.Live renders) :=
  inferInstanceAs (Decidable (_ ∨ _))

end Attempt

structure World where
  runs : List Run
  attempts : List Attempt

/-- No deploy was ever started. -/
def World.empty : World := ⟨[], []⟩

namespace World

/-- A workflow of this identifier is open. -/
def Opened (world : World) (workflowId : String) : Prop :=
  ∃ run ∈ world.runs, run.isOpen = true ∧ run.workflowId = workflowId

instance (world : World) (workflowId : String) : Decidable (world.Opened workflowId) :=
  inferInstanceAs (Decidable (∃ run ∈ world.runs, _))

def phase? (world : World) (index : Nat) : Option Phase :=
  (world.runs[index]?).map Run.phase

def deviceId? (world : World) (index : Nat) : Option UUID :=
  (world.runs[index]?).map Run.deviceId

def setPhase (world : World) (index : Nat) (phase : Phase → Phase) : World :=
  { world with
    runs := world.runs.modify index fun run => { run with phase := phase run.phase } }

def setState (world : World) (token : Nat) (state : AttemptState) : World :=
  { world with
    attempts := world.attempts.modify token fun attempt => { attempt with state } }

/-- Start a deploy of a device, unless one is open: Temporal keeps the identifier unique. -/
def executeDeploy (world : World) (deviceId : UUID) : World :=
  if world.Opened (deployIntentId deviceId) then world
  else
    { world with
      runs := world.runs ++ [⟨deployIntentId deviceId, deviceId, .fetching⟩] }

/-- An attempt of a run's operation, taken by a worker. -/
def pickUp
    (world : World) (index worker : Nat) (operation : Operation)
    (desired : DesiredState) (number : Nat) : World where
  runs := (world.setPhase index fun _ =>
    .performing operation desired number (some world.attempts.length)).runs
  attempts := world.attempts ++ [⟨index, operation, desired, worker, .waiting⟩]

/-- The attempt may dial now: it waited for the lock, if it sets. -/
def MayIssue (renders : DesiredState → Bool) (world : World) (attempt : Attempt) : Prop :=
  attempt.state = .waiting ∧ attempt.Dials renders ∧
    (attempt.operation = .apply →
      ∀ holder ∈ world.attempts,
        ¬ holder.Holds attempt.worker (dialHost attempt.desired.device))

instance (renders : DesiredState → Bool) (world : World) (attempt : Attempt) :
    Decidable (world.MayIssue renders attempt) :=
  inferInstanceAs (Decidable (_ ∧ _ ∧ _))

end World

/-- What operators, schedules, workers and Temporal may do. -/
inductive Action where
  | deploy (deviceId : UUID)
  | reconcile (deviceId : UUID)
  | fetched (run : Nat) (answer : Except Raised DesiredState)
  | pickUp (run worker : Nat)
  | issue (token : Nat)
  | complete (token : Nat) (report : Report)
  | abandon (token : Nat)
  | timeOut (run : Nat)
  | cancel (run : Nat)
  | terminate (run : Nat)
  | close (run : Nat)

/-- An attempt that never dialled cannot report a success. -/
def Attempt.MayReport (attempt : Attempt) (report : Report) : Prop :=
  attempt.state ≠ .ended ∧ (attempt.state = .waiting → report ≠ .returned true)

instance (attempt : Attempt) (report : Report) : Decidable (attempt.MayReport report) :=
  inferInstanceAs (Decidable (_ ∧ _))

/--
What an attempt is left at when its worker cancels its task: the lock is
released, and a call that was sent goes on in its thread.
-/
def AttemptState.abandoned : AttemptState → AttemptState
  | .waiting => .ended
  | .issued _ => .issued false
  | .ended => .ended

section Step

variable (renders : DesiredState → Bool)

/--
One step.  `snapl deploy` joins an open deploy of its device; a device of a
reconcile run, by an operator or as a scheduled repair, is skipped.
-/
def step : Transition World Action := fun world action =>
  match action with
  | .deploy deviceId => some (world.executeDeploy deviceId)
  | .reconcile deviceId => some (world.executeDeploy deviceId)
  | .fetched index answer =>
      match world.phase? index with
      | some .fetching => some (world.setPhase index fun _ => .ofFetched answer)
      | _ => none
  | .pickUp index worker =>
      match world.phase? index with
      | some (.performing operation desired number none) =>
          some (world.pickUp index worker operation desired number)
      | _ => none
  | .issue token =>
      match world.attempts[token]? with
      | some attempt =>
          if world.MayIssue renders attempt then
            some (world.setState token (.issued (attempt.operation = .apply)))
          else none
      | none => none
  | .complete token report =>
      match world.attempts[token]? with
      | some attempt =>
          if attempt.MayReport report then
            some ((world.setState token .ended).setPhase attempt.run
              fun phase => phase.informed token report)
          else none
      | none => none
  | .abandon token =>
      match world.attempts[token]? with
      | some attempt =>
          if attempt.state ≠ .ended then
            some ((world.setState token attempt.state.abandoned).setPhase attempt.run
              fun phase => phase.informed token .failed)
          else none
      | none => none
  | .timeOut index =>
      match world.phase? index with
      | some (.performing operation desired number (some _)) =>
          some (world.setPhase index fun _ => .retried operation desired number)
      | _ => none
  | .cancel index =>
      match world.phase? index with
      | some .ended => none
      | some _ => some (world.setPhase index fun _ => .closing)
      | none => none
  | .terminate index =>
      match world.phase? index with
      | some .ended => none
      | some _ => some (world.setPhase index fun _ => .ended)
      | none => none
  | .close index =>
      match world.phase? index with
      | some .closing => some (world.setPhase index fun _ => .ended)
      | _ => none

end Step

end Snapl.Orchestrator.Serialization
