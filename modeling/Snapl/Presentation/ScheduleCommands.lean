import Snapl.Orchestrator.ScheduleHistory
import Snapl.Presentation.Cli

/-!
# Schedule commands

The commands that create and steer a use case's drift schedule.  Each reads the
settings, asks the operator where that is due, opens the audit log, connects,
and makes one call.  Warnings about missing workers are left out: they change
nothing.
-/

namespace Snapl.Presentation

open Snapl.Library Snapl.Intent Snapl.Orchestrator Snapl.Orchestrator.Schedules

/-- Why a schedule command does not return: anticipated, or raised by its call. -/
inductive ScheduleFailure where
  | failed (failure : Failure)
  | raised (error : ScheduleError)
deriving DecidableEq

/-- A command under a connected client. -/
abbrev CommandScript (Result : Type) : Type := Script Request Answer ScheduleFailure Result

def noSchedule (useCase : String) : CliError where
  message := "no drift schedule for " ++ useCase
  hint := some ("Create one: snapl schedule create --use-case " ++ useCase)

def unreadableSchedule (useCase message : String) : CliError where
  message := message
  hint := some ("Restore an interval: snapl schedule create --use-case " ++ useCase ++
    " --every 5m")

/-- What a schedule command finds on its own side. -/
structure Desk where
  session : Session
  auditDb : String
  auditExists : Bool
  initialized : Except String Unit
  /-- What makes the Source of Truth another project's. -/
  foreign : Option String
  /-- How many devices the use case has, unless the Source of Truth is unreachable. -/
  devices : Option Nat
  actor : String
  /-- How the operator answers a prompt. -/
  answers : String → Bool

/-- The desk of an operator who answers every prompt like this. -/
def answering (answer : Bool) : Desk where
  session := ⟨"localhost:7233", "snapl", none, some 1⟩
  auditDb := ":memory:"
  auditExists := false
  initialized := .ok ()
  foreign := none
  devices := some 2
  actor := "ops"
  answers _ := answer

/-- The worker's audit log; a path that does not exist is refused. -/
def openAuditLog (desk : Desk) : Except ScheduleFailure Unit :=
  if desk.auditDb ≠ ":memory:" ∧ desk.auditExists = false then
    .error (.failed (.cliError
      { message := "no audit log at " ++ desk.auditDb
        hint := some ("Set SNAPL_AUDIT_DB to the path the worker writes, " ++
          "or run a workflow first.") }))
  else desk.initialized.mapError fun message => .raised (.auditLogError message)

def refuseForeignSot (desk : Desk) : Except ScheduleFailure Unit :=
  match desk.foreign with
  | none => .ok ()
  | some detail =>
      .error (.failed (.cliError
        { message := "refusing to create a drift schedule: " ++ detail
          hint := some "Point INFRAHUB_ADDRESS at snapl's Infrahub." }))

/-- Gate a command behind a prompt. -/
def confirmPrompt (desk : Desk) (message : String) (yes asJson : Bool) :
    Except ScheduleFailure Unit :=
  if yes then .ok ()
  else if asJson then
    .error (.failed (.cliError
      { message := "--json requires --yes for a command that writes to devices" }))
  else if desk.answers message then .ok ()
  else .error (.failed (.cliError { message := "aborted" }))

/-- The prompt of a reconcile is the same gate. -/
theorem confirm_eq (arguments : ReconcileArguments) (desk : Desk) (message : String) :
    (confirm arguments (desk.answers message)).mapError .failed =
      confirmPrompt desk message arguments.yes arguments.asJson := by
  rw [confirm, confirmPrompt]
  split_ifs <;> rfl

def formatInterval (interval : Duration) : String :=
  let seconds := totalSeconds interval
  if seconds % 3600 = 0 then toString (seconds / 3600) ++ "h"
  else if seconds % 60 = 0 then toString (seconds / 60) ++ "m"
  else toString seconds ++ "s"

/-- What switching to remediate, or triggering it, authorizes. -/
def remediateAuthorization (desk : Desk) (interval : Duration) : String :=
  let devices :=
    match desk.devices with
    | some count => toString count
    | none => "unknown (SoT unreachable)"
  "  Every " ++ formatInterval interval ++
    ", devices whose scan shows drift a deploy can fix will be redeployed\n" ++
    "  without asking — including devices whose intent was changed in the Source of\n" ++
    "  Truth. Undesired config is never removed. Devices: " ++ devices ++ ".\n" ++
    "  A failed repair is retried every run until you switch back to report.\n" ++
    "Continue?"

def switchPrompt (desk : Desk) (useCase : String) (view : DriftScheduleView) : String :=
  "Switch " ++ useCase ++ " to remediate?\n" ++ remediateAuthorization desk view.interval

def triggerPrompt (desk : Desk) (useCase : String) (view : DriftScheduleView) : String :=
  "Trigger a remediate run of " ++ useCase ++ " now?\n" ++ remediateAuthorization desk view.interval

/-- A switch to remediate is confirmed. -/
def switchGate
    (desk : Desk) (useCase : String) (yes asJson : Bool) (target : DriftResponseMode)
    (view : DriftScheduleView) : Except ScheduleFailure Unit :=
  if target = .remediate then confirmPrompt desk (switchPrompt desk useCase view) yes asJson
  else .ok ()

/-- A trigger of a schedule that remediates needs the same consent. -/
def triggerGate
    (desk : Desk) (useCase : String) (yes : Bool) (view : DriftScheduleView) :
    Except ScheduleFailure Unit :=
  if view.mode = .remediate then confirmPrompt desk (triggerPrompt desk useCase view) yes false
  else .ok ()

def deletePrompt (useCase : String) : String :=
  "Delete the drift schedule for " ++ useCase ++ "? Drift will no longer be found on its own."

/-- What a schedule write makes of a failure of its call. -/
def writeFailure (useCase : String) : ScheduleFailure → ScheduleFailure
  | .raised (.scheduleNotFound _) => .failed (.cliError (noSchedule useCase))
  | .raised (.unreadableSchedule message) =>
      .failed (.cliError (unreadableSchedule useCase message))
  | .raised (.runInProgress message) =>
      .failed (.cliError { message := message, hint := some "Follow it: snapl schedule show" })
  | failure => failure

/-- Run one mutating schedule call with the audit log open. -/
def scheduleWrite {Result : Type} (desk : Desk) (useCase : String)
    (operation : CommandScript Result) : CommandScript Result := do
  Script.ofExcept (openAuditLog desk)
  ((do
    Script.ofExcept ((connect desk.session).mapError .failed)
    operation) : CommandScript Result).mapError (writeFailure useCase)

/-- What a schedule command shows. -/
inductive Shown where
  | schedule (view : DriftScheduleView)
  | paused (useCase reason : String)
  | resumed (useCase : String)
  | triggered (useCase : String) (mode : DriftResponseMode)
  | deleted (useCase : String)

/-- The line a command prints, where it does not show the schedule. -/
def Shown.notice : Shown → Option String
  | .schedule _ => none
  | .paused useCase reason =>
      some ("drift schedule for " ++ useCase ++ " paused — \"" ++ reason ++ "\"")
  | .resumed useCase => some ("drift schedule for " ++ useCase ++ " resumed")
  | .triggered useCase mode =>
      some ("triggered " ++ driftScheduleId useCase ++ " (" ++ mode.value ++
        ") — follow runs named " ++ driftScheduleId useCase ++ "-<time>: snapl schedule show")
  | .deleted useCase => some ("drift schedule for " ++ useCase ++ " deleted")

section Commands

variable (text : PyText) (desk : Desk)

/-- Put a use case on a report-only schedule, or change its interval. -/
def scheduleCreate (useCase : String) (every : Except ScheduleFailure Duration) :
    CommandScript Shown := do
  let interval ← Script.ofExcept every
  Script.ofExcept (refuseForeignSot desk)
  Script.ofExcept (openAuditLog desk)
  Script.ofExcept ((connect desk.session).mapError .failed)
  let view ← (ensureDriftSchedule text useCase desk.session.taskQueue desk.actor
    interval).mapError .raised
  return .schedule view

def schedulePause (useCase : String) (reason : Option String) : CommandScript Shown :=
  match reason.filter hasReason with
  | none =>
      Script.raise (.failed (.cliError
        { message := "pause needs --reason"
          hint := some "For example: --reason \"maintenance: spine-01 optics\"" }))
  | some reason => do
      scheduleWrite desk useCase
        ((pauseDriftSchedule text useCase reason desk.actor).mapError .raised)
      return .paused useCase reason

def scheduleResume (useCase : String) (note : Option String) : CommandScript Shown := do
  scheduleWrite desk useCase
    ((resumeDriftSchedule text useCase desk.actor note).mapError .raised)
  return .resumed useCase

/-- The response an operator names. -/
def responseMode? (name : String) : Option DriftResponseMode :=
  [DriftResponseMode.report, .remediate].find? fun mode => mode.value = name

/-- Choose what scheduled runs do with the drift they find. -/
def scheduleMode (useCase mode : String) (yes asJson : Bool) : CommandScript Shown :=
  match responseMode? mode with
  | none =>
      Script.raise (.failed (.cliError
        { message := "unknown mode " ++ text.reprStr mode ++ " — use report or remediate"
          hint := some ("To stop scheduled runs entirely, pause instead: " ++
            "snapl schedule pause --reason ...") }))
  | some target => do
      let view ← scheduleWrite desk useCase (do
        let current ← (describeDriftSchedule text useCase).mapError .raised
        Script.ofExcept (switchGate desk useCase yes asJson target current)
        (setDriftResponse text useCase target desk.actor).mapError .raised)
      return .schedule view

/-- Start one scheduled run now, under the schedule's current response. -/
def scheduleTrigger (useCase : String) (yes : Bool) : CommandScript Shown := do
  let mode ← scheduleWrite desk useCase (do
    let current ← (describeDriftSchedule text useCase).mapError .raised
    Script.ofExcept (triggerGate desk useCase yes current)
    (triggerDriftSchedule text useCase desk.actor).mapError .raised)
  return .triggered useCase mode

/-- Remove a use case's schedule; a run in progress finishes. -/
def scheduleDelete (useCase : String) (yes : Bool) : CommandScript Shown := do
  Script.ofExcept (confirmPrompt desk (deletePrompt useCase) yes false)
  scheduleWrite desk useCase
    ((deleteDriftSchedule text useCase desk.actor).mapError .raised)
  return .deleted useCase

end Commands

/-- A schedule command, with what it is given. -/
inductive ScheduleCommand where
  | create (useCase : String) (every : Except ScheduleFailure Duration)
  | mode (useCase mode : String) (yes asJson : Bool)
  | pause (useCase : String) (reason : Option String)
  | resume (useCase : String) (note : Option String)
  | trigger (useCase : String) (yes : Bool)
  | delete (useCase : String) (yes : Bool)

namespace ScheduleCommand

def useCase : ScheduleCommand → String
  | create useCase _ => useCase
  | mode useCase _ _ _ => useCase
  | pause useCase _ => useCase
  | resume useCase _ => useCase
  | trigger useCase _ => useCase
  | delete useCase _ => useCase

def script (text : PyText) (desk : Desk) : ScheduleCommand → CommandScript Shown
  | create useCase every => scheduleCreate text desk useCase every
  | mode useCase target yes asJson => scheduleMode text desk useCase target yes asJson
  | pause useCase reason => schedulePause text desk useCase reason
  | resume useCase note => scheduleResume text desk useCase note
  | trigger useCase yes => scheduleTrigger text desk useCase yes
  | delete useCase yes => scheduleDelete text desk useCase yes

end ScheduleCommand

end Snapl.Presentation
