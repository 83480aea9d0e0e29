import Mathlib.Logic.Function.Basic
import Snapl.Library.Script
import Snapl.Orchestrator.Models

/-!
# Drift schedules

The functions that create, describe and steer the schedule of a use case, as
scripts of the requests they make of Temporal and of the audit log.  Updating a
schedule is two requests: it is described, and then replaced as a whole.

A request that is refused changes nothing at Temporal; an audit append that
fails may have stored the event.
-/

namespace Snapl.Orchestrator.Schedules

open Snapl.Library Snapl.Intent

/-! ## Durations -/

/-- A duration, in microseconds. -/
abbrev Duration := Int

def minScanInterval : Duration := 60000000

def runTimeout : Duration := 1800000000

/-- `int(interval.total_seconds())`. -/
def totalSeconds (interval : Duration) : Int := interval.tdiv 1000000

/-- A number with zeros in front. -/
def padded (width : Nat) (number : Int) : String :=
  String.ofList (List.replicate (width - (toString number).length) '0') ++ toString number

/-- The text of a duration. -/
def durationText (interval : Duration) : String :=
  let days := interval / 86400000000
  let rest := interval % 86400000000
  let clock := toString (rest / 3600000000) ++ ":" ++ padded 2 (rest / 60000000 % 60) ++ ":" ++
    padded 2 (rest / 1000000 % 60)
  let dayText := if days = 0 then "" else
    toString days ++ " day" ++ (if days.natAbs = 1 then "" else "s") ++ ", "
  let fraction := if rest % 1000000 = 0 then "" else "." ++ padded 6 (rest % 1000000)
  dayText ++ clock ++ fraction

/-! ## Schedules -/

inductive OverlapPolicy where
  | skip
  | bufferOne
  | bufferAll
  | cancelOther
  | terminateOther
  | allowAll
deriving DecidableEq

/--
The workflow a schedule starts.  Its arguments are what the client decodes them
to: a request, or what decoding or validating them raises.
-/
structure ScheduleAction where
  workflow : String
  args : Except PyError DriftResponseRequest
  id : String
  taskQueue : String
  executionTimeout : Option Duration
  staticSummary : Option String

structure ScheduleSpec where
  intervals : List Duration

structure SchedulePolicy where
  overlap : OverlapPolicy
  catchupWindow : Duration
  pauseOnFailure : Bool

structure ScheduleState where
  note : Option String
  paused : Bool

structure Schedule where
  action : ScheduleAction
  spec : ScheduleSpec
  policy : SchedulePolicy
  state : ScheduleState

/-! ## Failures -/

inductive RpcStatus where
  | notFound
  | other (code : Nat)
deriving DecidableEq

structure RpcError where
  status : RpcStatus
  message : String
deriving DecidableEq

/-- What the schedule functions raise. -/
inductive ScheduleError where
  | valueError (message : String)
  | pyError (error : PyError)
  | scheduleNotFound (message : String)
  | runInProgress (message : String)
  | unreadableSchedule (message : String)
  | rpcError (error : RpcError)
  | auditLogError (message : String)
deriving DecidableEq

/-- Why a schedule is not created. -/
inductive CreateRefusal where
  | alreadyRunning
  | rpcError (error : RpcError)

/-! ## Requests -/

/-- What Temporal knows of a schedule. -/
structure Description where
  id : String
  schedule : Schedule
  running : List String

inductive Request where
  | createSchedule (id : String) (schedule : Schedule)
  | describe (id : String)
  | replace (id : String) (schedule : Schedule)
  | pause (id : String) (note : String)
  | unpause (id : String) (note : Option String)
  | trigger (id : String)
  | delete (id : String)
  | stamp
  | append (event : AuditEvent)

abbrev Answer : Request → Type
  | .createSchedule _ _ => Except CreateRefusal Unit
  | .describe _ => Except RpcError Description
  | .replace _ _ | .pause _ _ | .unpause _ _ | .trigger _ | .delete _ => Except RpcError Unit
  | .stamp => UUID × Int
  | .append _ => Except String Unit

/-- A function over a connected client and an open audit log. -/
abbrev Operation (Result : Type) : Type := Script Request Answer ScheduleError Result

namespace Ask

def createSchedule (id : String) (schedule : Schedule) : Operation (Except CreateRefusal Unit) :=
  Script.ask (Request.createSchedule id schedule)

def describe (id : String) : Operation (Except RpcError Description) :=
  Script.ask (Request.describe id)

def replace (id : String) (schedule : Schedule) : Operation (Except RpcError Unit) :=
  Script.ask (Request.replace id schedule)

def pause (id note : String) : Operation (Except RpcError Unit) :=
  Script.ask (Request.pause id note)

def unpause (id : String) (note : Option String) : Operation (Except RpcError Unit) :=
  Script.ask (Request.unpause id note)

def trigger (id : String) : Operation (Except RpcError Unit) :=
  Script.ask (Request.trigger id)

def delete (id : String) : Operation (Except RpcError Unit) :=
  Script.ask (Request.delete id)

/-- An identifier and the time, of the client's own. -/
def stamp : Operation (UUID × Int) := Script.ask Request.stamp

def append (event : AuditEvent) : Operation (Except String Unit) :=
  Script.ask (Request.append event)

end Ask

/-! ## Building a schedule -/

def DriftResponseRequest.build
    (useCaseId : String) (mode : DriftResponseMode) (scheduleId : String) :
    Except PyError DriftResponseRequest :=
  if valid : useCaseId ≠ "" ∧ scheduleId = driftScheduleId useCaseId then
    .ok ⟨useCaseId, mode, scheduleId, valid.1, valid.2⟩
  else .error .valueError

/-- The action of a use case's schedule. -/
def action (useCaseId : String) (mode : DriftResponseMode) (taskQueue : String) :
    Except PyError ScheduleAction := do
  let request ← DriftResponseRequest.build useCaseId mode (driftScheduleId useCaseId)
  return {
    workflow := "DriftResponse"
    args := .ok request
    id := driftScheduleId useCaseId
    taskQueue := taskQueue
    executionTimeout := some runTimeout
    staticSummary := some ("drift response: " ++ mode.value) }

def buildDriftSchedule
    (useCaseId : String) (interval : Duration) (taskQueue : String)
    (mode : DriftResponseMode) : Except ScheduleError Schedule :=
  if interval < minScanInterval then
    .error (.valueError ("interval " ++ durationText interval ++ " is below the 1m minimum"))
  else do
    let action ← (action useCaseId mode taskQueue).mapError .pyError
    return {
      action := action
      spec := ⟨[interval]⟩
      policy := ⟨.skip, interval, false⟩
      state := ⟨none, false⟩ }

/-! ## Recording a change -/

inductive ScheduleChange where
  | created
  | intervalChanged
  | responseChanged
  | paused
  | resumed
  | triggered
  | deleted
deriving DecidableEq

def ScheduleChange.value : ScheduleChange → String
  | .created => "created"
  | .intervalChanged => "interval_changed"
  | .responseChanged => "response_changed"
  | .paused => "paused"
  | .resumed => "resumed"
  | .triggered => "triggered"
  | .deleted => "deleted"

/-- What the event of a change says. -/
def changeBody
    (useCaseId actor : String) (change : ScheduleChange) (payload : List (String × Json)) :
    EventBody where
  targetId := some (.useCase useCaseId)
  eventType := .scheduleChanged
  payload := ("change", .str change.value) :: payload
  actor := some actor

/-- Append the event of a change to the audit log. -/
def recordChange
    (useCaseId actor : String) (change : ScheduleChange) (payload : List (String × Json)) :
    Operation Unit := do
  let stamp ← Ask.stamp
  let event ← Script.ofExcept ((AuditEvent.build stamp.1 (driftScheduleId useCaseId)
    "DriftSchedule" stamp.2 (changeBody useCaseId actor change payload)).mapError .pyError)
  let appended ← Ask.append event
  Script.ofExcept (appended.mapError .auditLogError)

/-- Record a change there was. -/
def recordWhen (changed : Bool) (record : Operation Unit) : Operation Unit :=
  if changed then record else pure ()

/-! ## Reading a schedule -/

/-- A schedule as the presentation shows it. -/
structure DriftScheduleView where
  scheduleId : String
  useCaseId : String
  interval : Duration
  mode : DriftResponseMode
  paused : Bool
  note : Option String
  running : List String

/-- A refusal of the server; a missing schedule has an error of its own. -/
def refused (text : PyText) (useCaseId : String) (error : RpcError) : ScheduleError :=
  if error.status = .notFound then
    .scheduleNotFound ("no drift schedule for use case " ++ text.reprStr useCaseId)
  else .rpcError error

/-- What `describe` makes of a description. -/
def viewOf (description : Description) : Except ScheduleError DriftScheduleView :=
  match description.schedule.spec.intervals with
  | [] =>
      .error (.unreadableSchedule ("drift schedule " ++ description.id ++
        " has no interval; it was changed outside snapl"))
  | interval :: _ => do
      let request ← description.schedule.action.args.mapError .pyError
      return {
        scheduleId := description.id
        useCaseId := request.useCaseId
        interval := interval
        mode := request.mode
        paused := description.schedule.state.paused
        note := filled? description.schedule.state.note
        running := description.running }

def describeDriftSchedule (text : PyText) (useCaseId : String) :
    Operation DriftScheduleView := do
  let described ← Ask.describe (driftScheduleId useCaseId)
  let description ← Script.ofExcept (described.mapError (refused text useCaseId))
  Script.ofExcept (viewOf description)

/-! ## Updating a schedule -/

/-- What an updater saw, and the schedule it returns, if any. -/
abbrev Updater (Seen : Type) : Type := Schedule → Except ScheduleError (Seen × Option Schedule)

/-- Describe a schedule and replace it by what the updater returns. -/
def update
    {Seen : Type} (useCaseId : String) (translate : RpcError → ScheduleError)
    (updater : Updater Seen) : Operation Seen := do
  let described ← Ask.describe (driftScheduleId useCaseId)
  let description ← Script.ofExcept (described.mapError translate)
  let (seen, replacement) ← Script.ofExcept (updater description.schedule)
  match replacement with
  | none => return seen
  | some schedule => do
      let replaced ← Ask.replace (driftScheduleId useCaseId) schedule
      Script.ofExcept (replaced.mapError translate)
      return seen

/-- Change only the interval, and add the timeout of runs where it is missing. -/
def intervalUpdater (interval : Duration) : Updater (Option Duration) := fun current =>
  let old := current.spec.intervals.head?
  if old = some interval ∧ current.action.executionTimeout = some runTimeout then
    .ok (old, none)
  else
    .ok (old, some { current with
      action := { current.action with executionTimeout := some runTimeout }
      spec := ⟨[interval]⟩
      policy := { current.policy with catchupWindow := interval } })

/-- Rebuild only the action. -/
def modeUpdater (useCaseId : String) (mode : DriftResponseMode) : Updater DriftResponseMode :=
  fun schedule => do
    let request ← schedule.action.args.mapError .pyError
    if request.mode = mode then return (request.mode, none)
    else
      let action ← (action useCaseId mode schedule.action.taskQueue).mapError .pyError
      return (request.mode, some { schedule with action := action })

/-! ## Operator control -/

/-- Create the use case's schedule, or change only its interval. -/
def ensureDriftSchedule
    (text : PyText) (useCaseId taskQueue actor : String) (interval : Duration) :
    Operation DriftScheduleView := do
  let schedule ← Script.ofExcept (buildDriftSchedule useCaseId interval taskQueue .report)
  let created ← Ask.createSchedule (driftScheduleId useCaseId) schedule
  match created with
  | .error (.rpcError error) => Script.raise (.rpcError error)
  | .error .alreadyRunning => do
      let previous ← update useCaseId .rpcError (intervalUpdater interval)
      recordWhen (previous ≠ some interval)
        (recordChange useCaseId actor .intervalChanged
          [("from_seconds", .ofInt? (previous.map totalSeconds)),
            ("to_seconds", .int (totalSeconds interval))])
      describeDriftSchedule text useCaseId
  | .ok () => do
      recordChange useCaseId actor .created
        [("interval_seconds", .int (totalSeconds interval)),
          ("mode", .str DriftResponseMode.report.value)]
      describeDriftSchedule text useCaseId

/-- Switch what scheduled runs do. -/
def setDriftResponse
    (text : PyText) (useCaseId : String) (mode : DriftResponseMode) (actor : String) :
    Operation DriftScheduleView := do
  let previous ← update useCaseId (refused text useCaseId) (modeUpdater useCaseId mode)
  recordWhen (previous ≠ mode)
    (recordChange useCaseId actor .responseChanged
      [("from", .str previous.value), ("to", .str mode.value)])
  describeDriftSchedule text useCaseId

/-- Make a request of the server, then record the change. -/
def requestAndRecord
    (text : PyText) (useCaseId actor : String) (requested : Operation (Except RpcError Unit))
    (change : ScheduleChange) (payload : List (String × Json)) : Operation Unit := do
  let answered ← requested
  Script.ofExcept (answered.mapError (refused text useCaseId))
  recordChange useCaseId actor change payload

/-- A reason that is not blank. -/
def hasReason (reason : String) : Bool := reason.toList.any fun char => !isWhitespace char

/-- Suppress scheduled runs until resumed. -/
def pauseDriftSchedule (text : PyText) (useCaseId reason actor : String) : Operation Unit :=
  if hasReason reason then
    requestAndRecord text useCaseId actor
      (Ask.pause (driftScheduleId useCaseId) reason) .paused [("reason", .str reason)]
  else Script.raise (.valueError "pausing a drift schedule requires a reason")

def resumeDriftSchedule
    (text : PyText) (useCaseId actor : String) (note : Option String) : Operation Unit :=
  requestAndRecord text useCaseId actor
    (Ask.unpause (driftScheduleId useCaseId) note) .resumed [("note", .ofString? note)]

/-- One run now, under the current response. -/
def triggerDriftSchedule (text : PyText) (useCaseId actor : String) :
    Operation DriftResponseMode := do
  let view ← describeDriftSchedule text useCaseId
  if view.running ≠ [] then
    Script.raise (.runInProgress ("a run of " ++ view.scheduleId ++ " is already in progress (" ++
      String.intercalate ", " view.running ++ "); nothing was triggered"))
  else do
    requestAndRecord text useCaseId actor
      (Ask.trigger (driftScheduleId useCaseId)) .triggered
      [("mode", .str view.mode.value)]
    return view.mode

/-- No further runs start. -/
def deleteDriftSchedule (text : PyText) (useCaseId actor : String) : Operation Unit :=
  requestAndRecord text useCaseId actor
    (Ask.delete (driftScheduleId useCaseId)) .deleted []

/-! ## The server -/

/-- A schedule, with the runs it started that are not over. -/
structure Entry where
  schedule : Schedule
  running : List String

/-- A run a schedule started. -/
structure Run where
  id : String
  scheduleId : String
  args : Except PyError DriftResponseRequest

/-- What an audit append does. -/
inductive AppendFate where
  | stored
  | failed (stored : Bool) (message : String)

/-- What one request meets. -/
structure Circumstance where
  refusal : Option RpcError
  append : AppendFate
  stamp : UUID × Int
  runId : String

/-- What requests meet, by when they are served, and what a server puts into a schedule. -/
structure Setting where
  circumstance : Nat → Circumstance
  missing : String
  pausedNote : String → Option String
  resumedNote : Option String → Option String

/-- Nothing is refused, and the log stores every event. -/
def Setting.plain : Setting where
  circumstance tick := ⟨none, .stored, (⟨tick⟩, tick), "run"⟩
  missing := "schedule not found"
  pausedNote := some
  resumedNote := id

/-- Temporal and the audit log, with the changing requests Temporal accepted. -/
structure World where
  schedules : String → Option Entry
  runs : List Run
  accepted : List Request
  events : List AuditEvent
  ticks : Nat

namespace Setting

variable (setting : Setting)

/-- What the next request meets. -/
def now (world : World) : Circumstance := setting.circumstance world.ticks

/-- The entry a request is about, unless the request is refused. -/
def found (id : String) (world : World) : Except RpcError Entry :=
  match (setting.now world).refusal, world.schedules id with
  | some error, _ => .error error
  | none, none => .error ⟨.notFound, setting.missing⟩
  | none, some entry => .ok entry

end Setting

/-- Time passes. -/
def World.tick (world : World) : World := { world with ticks := world.ticks + 1 }

/-- A changing request is accepted. -/
def World.accept (world : World) (request : Request) (id : String) (entry : Option Entry) : World :=
  { world with
    schedules := Function.update world.schedules id entry
    accepted := world.accepted ++ [request] }

/-- A trigger starts a run, unless one is skipped. -/
def Entry.starts (entry : Entry) : Bool :=
  entry.schedule.policy.overlap ≠ .skip ∨ entry.running = []

/-- A run starts. -/
def World.start (world : World) (id runId : String) (entry : Entry) : World :=
  { world with
    schedules := Function.update world.schedules id
      (some { entry with running := entry.running ++ [runId] })
    runs := world.runs ++ [⟨runId, id, entry.schedule.action.args⟩] }

/-- A schedule fires. -/
def World.fire (world : World) (id runId : String) (entry : Entry) : World :=
  if entry.starts then world.start id runId entry else world

section Serving

variable (setting : Setting)

/-- Accept a request about a schedule that exists. -/
def acceptFound
    (request : Request) (id : String) (change : Entry → Option Entry) (world : World) :
    Except RpcError Unit × World :=
  match setting.found id world with
  | .error error => (.error error, world.tick)
  | .ok entry => (.ok (), world.tick.accept request id (change entry))

/-- Answer a request. -/
def serve : (request : Request) → World → Answer request × World
  | .createSchedule id schedule => fun world =>
      match (setting.now world).refusal, world.schedules id with
      | some error, _ => (.error (.rpcError error), world.tick)
      | none, some _ => (.error .alreadyRunning, world.tick)
      | none, none =>
          (.ok (), world.tick.accept (.createSchedule id schedule) id (some ⟨schedule, []⟩))
  | .describe id => fun world =>
      ((setting.found id world).map fun entry => ⟨id, entry.schedule, entry.running⟩, world.tick)
  | .replace id schedule =>
      acceptFound setting (.replace id schedule) id fun entry =>
        some { entry with schedule := schedule }
  | .pause id note =>
      acceptFound setting (.pause id note) id fun entry =>
        some { entry with
          schedule := { entry.schedule with state := ⟨setting.pausedNote note, true⟩ } }
  | .unpause id note =>
      acceptFound setting (.unpause id note) id fun entry =>
        some { entry with
          schedule := { entry.schedule with state := ⟨setting.resumedNote note, false⟩ } }
  | .trigger id => fun world =>
      match setting.found id world with
      | .error error => (.error error, world.tick)
      | .ok entry =>
          (.ok (), (world.tick.accept (.trigger id) id (some entry)).fire id
            (setting.now world).runId entry)
  | .delete id => acceptFound setting (.delete id) id fun _ => none
  | .stamp => fun world => ((setting.now world).stamp, world.tick)
  | .append event => fun world =>
      match (setting.now world).append with
      | .stored => (.ok (), { world.tick with events := world.events ++ [event] })
      | .failed stored message =>
          (.error message, if stored then { world.tick with events := world.events ++ [event] }
            else world.tick)

end Serving

end Snapl.Orchestrator.Schedules
