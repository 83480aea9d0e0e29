import Snapl.Intent.Identity
import Snapl.Library.Histories
import Snapl.Orchestrator.ReconcileDevices
import Snapl.Presentation.ScheduleCommands

/-!
# Operator commands

The commands an operator deploys, scans, reconciles, audits and checks with, as
scripts: what they ask of the Source of Truth, of Temporal, of the audit log
and of the operator, one request at a time.  Others act in between, so nothing
is assumed of the answers.

A failure is known by its first line.  What is printed is the value a command
ends with; how it is laid out, and the closing of the audit log, are left out.
-/

namespace Snapl.Presentation

open Snapl.Library Snapl.Intent Snapl.Observability Snapl.Orchestrator
open Snapl.Orchestrator.Schedules (DriftScheduleView)

/-- Why desired states could not be loaded. -/
inductive LoadFailure where
  | attribution (message : String)
  | unavailable (cause : String)
  | raised (message : String)
deriving DecidableEq

/-- What opening the audit log finds. -/
inductive LogAnswer where
  | absent
  | failed (message : String)
  | opened
deriving DecidableEq

/-- A workflow that is running. -/
structure RunningWorkflowInfo where
  workflowId : String
  workflowType : String
  startTime : Int
  taskQueue : String
deriving DecidableEq

/-- What a command asks of what is around it. -/
inductive OperatorRequest where
  | loadStates (useCase : String)
  | connect
  | countPollers
  | executeDeployIntent (workflowId : String) (deviceId : UUID)
  | executeScanDrift (useCase : String)
  | executeReconcileDevices (deviceIds : List UUID)
  | prompt (message : String)
  | openAuditLog
  | queryByWorkflow (workflowId : String)
  | queryByDevice (deviceId : UUID)
  | listRunningWorkflows
  | findDriftSchedule (useCase : String)
  | readIdentity
deriving DecidableEq

abbrev OperatorAnswer : OperatorRequest → Type
  | .loadStates _ => Except LoadFailure (List DesiredState)
  | .connect => Option String
  | .countPollers => Except String Nat
  | .executeDeployIntent _ _ => Except Raised WorkflowResult
  | .executeScanDrift _ => Except Raised DriftScanResult
  | .executeReconcileDevices _ => Except Raised ReconcileResult
  | .prompt _ => Bool
  | .openAuditLog => LogAnswer
  | .queryByWorkflow _ | .queryByDevice _ => Except String (List AuditEvent)
  | .listRunningWorkflows => Except String (List RunningWorkflowInfo)
  | .findDriftSchedule _ => Except String (Option DriftScheduleView)
  | .readIdentity => SotReading

/-- The workflow a request starts writes to devices. -/
def OperatorRequest.writes : OperatorRequest → Bool
  | .executeDeployIntent _ _ | .executeReconcileDevices _ => true
  | _ => false

/-- Where a command looks. -/
structure CliSettings where
  temporalHost : String
  taskQueue : String
  infrahubAddress : String
  auditDb : String

/-- One line of a status. -/
structure StatusCheck where
  label : String
  fine : Bool
  detail : String
deriving DecidableEq

/-- What a command prints. -/
inductive Printed where
  | deploy (result : WorkflowResult)
  | scan (result : DriftScanResult)
  | reconcile (result : ReconcileResult)
  | notice (text : String)
  | audit (events : List AuditEvent)
  | status (checks : List StatusCheck) (running : List RunningWorkflowInfo)
deriving DecidableEq

structure OperatorExit where
  code : ExitCode
  printed : Printed
deriving DecidableEq

/-- Why a command does not return: anticipated, or with a traceback. -/
inductive OperatorFailure where
  | failed (failure : Failure)
  | raised (message : String)
deriving DecidableEq

/-- The exit status of a command, by how its body ends. -/
def operatorStatus : Except OperatorFailure OperatorExit → Nat
  | .ok exit => command (.ok exit.code)
  | .error (.failed failure) => command (.error failure)
  | .error (.raised _) => 1

abbrev OperatorScript (Result : Type) : Type :=
  Script OperatorRequest OperatorAnswer OperatorFailure Result

/-- An anticipated failure. -/
def cliFailure (error : CliError) : OperatorFailure := .failed (.cliError error)

def connectionCliError (subsystem address envVar cause : String) : CliError where
  message := subsystem ++ " unreachable at " ++ address ++ ": " ++ cause
  hint := some ("Set " ++ envVar ++ " if it lives elsewhere, or start the stack: " ++
    "uv run invoke dev.deps")

/-- `', '.join(sorted(names))`. -/
def sortedNames (names : List String) : String :=
  ", ".intercalate (names.mergeSort fun left right => decide (left ≤ right))

def unknownDeviceError (text : PyText) (name : String) (known : List String) : CliError where
  message := "no device named " ++ text.reprStr name ++ " in the Source of Truth"
  hint := some (if known = [] then "Is the SoT seeded? uv run invoke demo.seed"
    else "Known devices: " ++ sortedNames known)

def ambiguousDeviceError (text : PyText) (name : String) (useCases : List String) :
    CliError where
  message := "device name " ++ text.reprStr name ++ " is ambiguous — it exists in " ++
    toString useCases.length ++ " use cases"
  hint := some ("Disambiguate with --use-case: " ++ sortedNames useCases)

/-- The identifier of the device of a name; of several none is picked. -/
def resolveDevice (text : PyText) (states : List DesiredState) (name : String) :
    Except CliError UUID :=
  match states.filter fun state => state.device.name = name with
  | [] =>
      .error (unknownDeviceError text name (states.map fun state => state.device.name))
  | [state] => .ok state.device.id
  | several =>
      .error (ambiguousDeviceError text name (several.map fun state => state.device.useCase))

def resolveDevices (text : PyText) (states : List DesiredState) (names : List String) :
    Except CliError (List UUID) := names.mapM (resolveDevice text states)

namespace OperatorScript

variable (settings : CliSettings)

/-- Fetch the desired states of a use case. -/
def loadStates (useCase : String) : OperatorScript (List DesiredState) := do
  let answer ← Script.ask (OperatorRequest.loadStates useCase)
  Script.ofExcept (answer.mapError fun
    | .attribution message =>
        cliFailure
          { message := message
            hint := some "Check those nodes' device relation in the Source of Truth" }
    | .unavailable cause =>
        cliFailure (connectionCliError "Source of Truth" settings.infrahubAddress
          "INFRAHUB_ADDRESS" cause)
    | .raised message => .raised message)

/-- What connecting to Temporal raises. -/
def unreachable (cause : String) : CliError :=
  connectionCliError "Temporal" settings.temporalHost "TEMPORAL_HOST" cause

def connect : OperatorScript Unit := do
  let answer ← Script.ask OperatorRequest.connect
  Script.ofExcept (match answer with
    | none => .ok ()
    | some cause => .error (cliFailure (unreachable settings cause)))

/-- Refuse to start work nothing will pick up; a failed count is ignored. -/
def requireWorker : OperatorScript Unit := do
  let pollers ← Script.ask OperatorRequest.countPollers
  Script.ofExcept (match pollers with
    | .ok 0 =>
        .error (cliFailure
          { message := "no worker is polling task queue '" ++ settings.taskQueue ++ "'"
            hint := some "Start one in another terminal: uv run invoke orchestrator.start" })
    | _ => .ok ())

def openAuditLog : OperatorScript Unit := do
  let answer ← Script.ask OperatorRequest.openAuditLog
  Script.ofExcept (match answer with
    | .opened => .ok ()
    | .failed message => .error (.raised message)
    | .absent =>
        .error (cliFailure
          { message := "no audit log at " ++ settings.auditDb
            hint := some ("Set SNAPL_AUDIT_DB to the path the worker writes, " ++
              "or run a workflow first.") }))

/-- Gate a write to several devices behind a prompt. -/
def confirm (message : String) (yes asJson : Bool) : OperatorScript Unit :=
  if yes then pure ()
  else if asJson then
    Script.raise (cliFailure
      { message := "--json requires --yes for a command that writes to devices" })
  else do
    let confirmed ← Script.ask (OperatorRequest.prompt message)
    Script.ofExcept
      (if confirmed then .ok () else .error (cliFailure { message := "aborted" }))

/-- Await a workflow that was started. -/
def executed {Result : Type} (outcome : Except Raised Result) : OperatorScript Result :=
  Script.ofExcept (outcome.mapError fun raised => .failed (.workflowFailed raised))

variable (text : PyText)

def deployCode (result : WorkflowResult) : ExitCode := if result.success then .ok else .error

/-- Deploy intended state to one device. -/
def deploy (device useCase : String) : OperatorScript OperatorExit := do
  let states ← loadStates settings useCase
  let deviceId ← Script.ofExcept ((resolveDevice text states device).mapError cliFailure)
  connect settings
  requireWorker settings
  let outcome ← Script.ask
    (OperatorRequest.executeDeployIntent (ReconcileDevices.deployIntentId deviceId) deviceId)
  let result ← executed outcome
  pure ⟨deployCode result, .deploy result⟩

/-- Scan a use case for drift. -/
def scan (useCase : String) : OperatorScript OperatorExit := do
  connect settings
  requireWorker settings
  let outcome ← Script.ask (OperatorRequest.executeScanDrift useCase)
  let result ← executed outcome
  pure ⟨scanCode result, .scan result⟩

/-- The names of the devices of a scan that drifted. -/
def driftedNames (result : DriftScanResult) : List String :=
  (result.reports.values.filter fun report => report.status = .drifted).map
    DriftReport.deviceName

def reconcilePrompt (targets : List UUID) (names : List String) : String :=
  "Reconcile " ++ toString targets.length ++ " device(s) — " ++ ", ".intercalate names ++ "?"

/-- Reconcile devices that are known. -/
def reconcileTargets (targets : List UUID) (names : List String) (yes asJson : Bool) :
    OperatorScript OperatorExit := do
  confirm (reconcilePrompt targets names) yes asJson
  let outcome ← Script.ask (OperatorRequest.executeReconcileDevices targets)
  let result ← executed outcome
  pure ⟨reconcileCode result, .reconcile result⟩

/-- Re-apply intent to devices that are named, or to every drifted one. -/
def reconcile (arguments : ReconcileArguments) : OperatorScript OperatorExit :=
  if (!arguments.devices.isEmpty) = arguments.drifted then
    Script.raise (cliFailure
      { message := "name devices to reconcile, or pass --drifted — not both, not neither" })
  else do
    connect settings
    requireWorker settings
    if arguments.drifted then do
      let outcome ← Script.ask (OperatorRequest.executeScanDrift arguments.useCase)
      let scanResult ← executed outcome
      if driftedIds scanResult = [] then
        pure ⟨.ok, .notice ("no drifted devices in " ++ arguments.useCase ++
          " — nothing to reconcile")⟩
      else
        reconcileTargets (driftedIds scanResult) (driftedNames scanResult) arguments.yes
          arguments.asJson
    else do
      let states ← loadStates settings arguments.useCase
      let targets ← Script.ofExcept
        ((resolveDevices text states arguments.devices).mapError cliFailure)
      reconcileTargets targets arguments.devices arguments.yes arguments.asJson

/-- Read the audit trail of a workflow or of a device. -/
def audit (workflow device : Option String) (useCase : String) :
    OperatorScript OperatorExit :=
  if (filled? workflow).isSome = (filled? device).isSome then
    Script.raise (cliFailure { message := "pass exactly one of --workflow or --device" })
  else do
    openAuditLog settings
    let found ← match filled? workflow with
      | some workflowId => Script.ask (OperatorRequest.queryByWorkflow workflowId)
      | none => do
          let states ← loadStates settings useCase
          let deviceId ← Script.ofExcept
            ((resolveDevice text states (device.getD "")).mapError cliFailure)
          Script.ask (OperatorRequest.queryByDevice deviceId)
    let events ← Script.ofExcept (found.mapError OperatorFailure.raised)
    pure ⟨.ok, .audit events⟩

def driftScheduleCheck (useCase : String) :
    Except String (Option DriftScheduleView) → StatusCheck
  | .error cause => ⟨"drift schedule", true, "could not inspect: " ++ cause⟩
  | .ok none => ⟨"drift schedule", true, "none — snapl schedule create"⟩
  | .ok (some view) =>
      let state :=
        if view.paused then
          match filled? view.note with
          | some note => "paused — \"" ++ note ++ "\""
          | none => "paused"
        else "active"
      ⟨"drift schedule", true, useCase ++ ": every " ++ formatInterval view.interval ++ ", " ++
        view.mode.value ++ ", " ++ state⟩

def workerCheck : Except String Nat → StatusCheck
  | .error cause => ⟨"worker", false, "could not inspect " ++ settings.taskQueue ++ ": " ++ cause⟩
  | .ok 0 =>
      ⟨"worker", false,
        "nothing polling " ++ settings.taskQueue ++ " — uv run invoke orchestrator.start"⟩
  | .ok pollers => ⟨"worker", true, toString pollers ++ " polling " ++ settings.taskQueue⟩

/-- What is checked of Temporal. -/
def temporalChecks (useCase : String) :
    OperatorScript (List StatusCheck × List RunningWorkflowInfo) := do
  let answer ← Script.ask OperatorRequest.connect
  match answer with
  | some cause => pure ([⟨"temporal", false, (unreachable settings cause).message⟩], [])
  | none => do
      let listed ← Script.ask OperatorRequest.listRunningWorkflows
      let running ← Script.ofExcept (listed.mapError OperatorFailure.raised)
      let pollers ← Script.ask OperatorRequest.countPollers
      let view ← Script.ask (OperatorRequest.findDriftSchedule useCase)
      pure ([⟨"temporal", true, settings.temporalHost⟩, workerCheck settings pollers,
        driftScheduleCheck useCase view], running)

/-- What is checked of the Source of Truth. -/
def sotChecks (useCase : String) : OperatorScript (List StatusCheck) := do
  let answer ← Script.ask (OperatorRequest.loadStates useCase)
  match answer with
  | .error (.raised message) => Script.raise (.raised message)
  | .error (.attribution message) => pure [⟨"source of truth", false, message⟩]
  | .error (.unavailable cause) =>
      pure [⟨"source of truth", false,
        (connectionCliError "Source of Truth" settings.infrahubAddress "INFRAHUB_ADDRESS"
          cause).message⟩]
  | .ok states => do
      let reading ← Script.ask OperatorRequest.readIdentity
      let identity := Identity.identify settings.infrahubAddress reading
      pure [⟨"source of truth", true, settings.infrahubAddress⟩,
        ⟨"source of truth is snapl's", !identity.isForeign, identity.detail⟩,
        ⟨"'" ++ useCase ++ "' seeded", !states.isEmpty, toString states.length ++ " devices"⟩]

/-- Report whether Temporal, the Source of Truth and the worker are healthy. -/
def status (useCase : String) : OperatorScript OperatorExit := do
  let (checks, running) ← temporalChecks settings useCase
  let more ← sotChecks settings useCase
  pure ⟨if (checks ++ more).all StatusCheck.fine then .ok else .error,
    .status (checks ++ more) running⟩

end OperatorScript

inductive OperatorCommand where
  | deploy (device useCase : String)
  | scan (useCase : String)
  | reconcile (arguments : ReconcileArguments)
  | audit (workflow device : Option String) (useCase : String)
  | status (useCase : String)

/-- What a command line runs. -/
def OperatorCommand.script (settings : CliSettings) (text : PyText) :
    OperatorCommand → OperatorScript OperatorExit
  | .deploy device useCase => OperatorScript.deploy settings text device useCase
  | .scan useCase => OperatorScript.scan settings useCase
  | .reconcile arguments => OperatorScript.reconcile settings text arguments
  | .audit workflow device useCase =>
      OperatorScript.audit settings text workflow device useCase
  | .status useCase => OperatorScript.status settings useCase

end Snapl.Presentation
