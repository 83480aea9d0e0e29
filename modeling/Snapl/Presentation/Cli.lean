import Snapl.Orchestrator.Temporal

/-!
# The command line

The commands that scan a use case and reconcile its devices, up to the exit
status the caller reads.  The workflow results they act on come from outside,
and reach them unchanged.
-/

namespace Snapl.Presentation

open Snapl.Library Snapl.Intent Snapl.Observability Snapl.Orchestrator

inductive ExitCode where
  | ok
  | error
  | drift
deriving DecidableEq

/-- The exit status of a code. -/
def ExitCode.status : ExitCode → Nat
  | .ok => 0
  | .error => 1
  | .drift => 2

/-- An anticipated failure, with the code the command exits with. -/
structure CliError where
  message : String
  code : ExitCode := .error
  hint : Option String := none
deriving DecidableEq

/-- Why the body of a command does not return. -/
inductive Failure where
  | cliError (error : CliError)
  | interrupted
  | workflowFailed (raised : Raised)
deriving DecidableEq

/-- The exit status of a command, by how its body ends. -/
def command : Except Failure ExitCode → Nat
  | .ok code => code.status
  | .error (.cliError error) => error.code.status
  | .error .interrupted => ExitCode.error.status
  -- A failed workflow keeps its traceback, and the interpreter exits with 1.
  | .error (.workflowFailed _) => 1

/-- Errored devices outrank drift: they were never evaluated. -/
def scanCode (result : DriftScanResult) : ExitCode :=
  if result.errored ≠ 0 then .error
  else if result.drifted ≠ 0 then .drift
  else .ok

def reconcileCode (result : ReconcileResult) : ExitCode :=
  if result.failed ≠ 0 then .error else .ok

/-- What a command finds when it connects; a failure is known by its first line. -/
structure Session where
  temporalHost : String
  taskQueue : String
  unreachable : Option String
  pollers : Option Nat

def connect (session : Session) : Except Failure Unit :=
  match session.unreachable with
  | none => .ok ()
  | some cause =>
      .error (.cliError
        { message := "Temporal unreachable at " ++ session.temporalHost ++ ": " ++ cause
          hint := some ("Set TEMPORAL_HOST if it lives elsewhere, or start the stack: " ++
            "uv run invoke dev.deps") })

/-- Refuse to start work nothing will pick up; a failed count is ignored. -/
def requireWorker (session : Session) : Except Failure Unit :=
  if session.pollers = some 0 then
    .error (.cliError
      { message := "no worker is polling task queue '" ++ session.taskQueue ++ "'"
        hint := some "Start one in another terminal: uv run invoke orchestrator.start" })
  else .ok ()

/-- Await a workflow that was started. -/
def executeWorkflow {Result : Type} (outcome : Except Raised Result) : Except Failure Result :=
  outcome.mapError .workflowFailed

/-- Scan a use case for drift. -/
def scan (session : Session) (scanned : Except Raised DriftScanResult) :
    Except Failure ExitCode := do
  connect session
  requireWorker session
  let result ← executeWorkflow scanned
  return scanCode result

structure ReconcileArguments where
  devices : List String
  useCase : String
  drifted : Bool
  yes : Bool
  asJson : Bool

/-- What a reconcile command is answered. -/
structure ReconcileAnswers where
  scanned : Except Raised DriftScanResult
  resolved : Except CliError (List UUID)
  confirmed : Bool
  reconciled : List UUID → Except Raised ReconcileResult

/-- How a reconcile command exits, and what it prints if it stops early. -/
structure ReconcileExit where
  code : ExitCode
  notice : Option String
deriving DecidableEq

/-- Gate a write to several devices behind a prompt. -/
def confirm (arguments : ReconcileArguments) (confirmed : Bool) : Except Failure Unit :=
  if arguments.yes then .ok ()
  else if arguments.asJson then
    .error (.cliError
      { message := "--json requires --yes for a command that writes to devices" })
  else if confirmed then .ok ()
  else .error (.cliError { message := "aborted" })

/-- The devices of a scan that drifted. -/
def driftedIds (result : DriftScanResult) : List UUID :=
  (result.reports.values.filter fun report => report.status = .drifted).map
    DriftReport.deviceId

/-- Reconcile devices that are known. -/
def reconcileTargets
    (arguments : ReconcileArguments) (answers : ReconcileAnswers) (targets : List UUID) :
    Except Failure ReconcileExit := do
  confirm arguments answers.confirmed
  let result ← executeWorkflow (answers.reconciled targets)
  return ⟨reconcileCode result, none⟩

/-- Re-apply intent to devices that are named, or to every drifted one. -/
def reconcile
    (session : Session) (arguments : ReconcileArguments) (answers : ReconcileAnswers) :
    Except Failure ReconcileExit :=
  if (!arguments.devices.isEmpty) = arguments.drifted then
    .error (.cliError
      { message := "name devices to reconcile, or pass --drifted — not both, not neither" })
  else do
    connect session
    requireWorker session
    if arguments.drifted then
      let scanResult ← executeWorkflow answers.scanned
      if driftedIds scanResult = [] then
        return ⟨.ok, some ("no drifted devices in " ++ arguments.useCase ++
          " — nothing to reconcile")⟩
      else reconcileTargets arguments answers (driftedIds scanResult)
    else
      let targets ← answers.resolved.mapError .cliError
      reconcileTargets arguments answers targets

end Snapl.Presentation
