import Mathlib.Data.List.Sort
import Snapl.Library.Retention
import Snapl.Observability.StructuralObserver

/-!
# The event bus

An observer also tells others what it found.  An event carries the proof that its
type agrees with the status of its report.  The bus calls its handlers in the order
in which they were registered; what one of them raises is logged, and the next one
is called all the same.

A handler acts on a world of its own kind, which all handlers of a bus share.  That
world holds neither the bus nor the observer: a handler that registers others while
it is called is left out, and so are exceptions that are not of class `Exception`.
-/

namespace Snapl.Observability

open Snapl.Library Snapl.Intent Snapl.Orchestrator

def EventType.value : EventType → String
  | .driftDetected => "drift_detected"
  | .stateClean => "state_clean"
  | .driftError => "drift_error"

/-- A structured notification emitted after a drift check. -/
structure ObservabilityEvent where
  eventType : EventType
  deviceId : UUID
  deviceName : String
  report : DriftReport
  timestamp : Int
  agrees : eventType = statusToEventType report.status
deriving DecidableEq

/-- Build an event, refusing a type that does not match the status of the report. -/
def ObservabilityEvent.build
    (eventType : EventType) (deviceId : UUID) (deviceName : String) (report : DriftReport)
    (timestamp : Int) : Except PyError ObservabilityEvent :=
  if agrees : eventType = statusToEventType report.status then
    .ok ⟨eventType, deviceId, deviceName, report, timestamp, agrees⟩
  else .error .valueError

/-- The event of a report. -/
def eventOf (report : DriftReport) (timestamp : Int) : ObservabilityEvent where
  eventType := statusToEventType report.status
  deviceId := report.deviceId
  deviceName := report.deviceName
  report := report
  timestamp := timestamp
  agrees := rfl

/-- The event of a report is never refused. -/
theorem build_event (report : DriftReport) (timestamp : Int) :
    ObservabilityEvent.build (statusToEventType report.status) report.deviceId report.deviceName
      report timestamp = .ok (eventOf report timestamp) :=
  dif_pos rfl

/-- The entry of an event. -/
def eventEntry (component : String) (event : ObservabilityEvent) (timestamp : Int) :
    AuditEntry where
  operation := .emitEvent
  deviceId := some event.deviceId
  component := component
  outcome := .success
  detail := [("event_type", .str event.eventType.value)]
  timestamp := timestamp

/-- An exception, by the name of its class and its text. -/
structure HandlerError where
  typeName : String
  text : String

/-- What a handler does to the world with an event, and what it raises after that. -/
structure EventHandler (World : Type) where
  qualname : String
  handle : World → ObservabilityEvent → World × Option HandlerError

/-- What a caller may try to register. -/
inductive Registrant (World : Type) where
  | handler (handler : EventHandler World)
  | other (typeName : String)

/-- The handlers, in the order of their registration. -/
structure EventBus (World : Type) where
  handlers : List (EventHandler World) := []

variable {World : Type}

/-- Register a handler; the error of anything else is an `ObserverError` with this text. -/
def EventBus.register (bus : EventBus World) :
    Registrant World → Except String (EventBus World)
  | .handler handler => .ok { handlers := bus.handlers ++ [handler] }
  | .other typeName => .error ("handler must be callable, got " ++ typeName)

/-- The warning of a handler that raised. -/
def EventHandler.warning (handler : EventHandler World) (raised : HandlerError) : String :=
  "EventBus handler " ++ handler.qualname ++ " raised " ++ raised.typeName ++ ": " ++ raised.text

/-- Call handlers in turn; the warnings are those of the ones that raised. -/
def EventBus.dispatch (event : ObservabilityEvent) :
    List (EventHandler World) → World → World × List String
  | [], world => (world, [])
  | handler :: rest, world =>
      match handler.handle world event with
      | (next, none) => dispatch event rest next
      | (next, some raised) =>
          let (last, warnings) := dispatch event rest next
          (last, handler.warning raised :: warnings)

def EventBus.emit (bus : EventBus World) (event : ObservabilityEvent) (world : World) :
    World × List String :=
  dispatch event bus.handlers world

/-- What one call of a handler leaves: the world, and a warning if it raised. -/
def deliver (handler : EventHandler World) (event : ObservabilityEvent) (world : World) :
    World × List String :=
  match handler.handle world event with
  | (next, none) => (next, [])
  | (next, some raised) => (next, [handler.warning raised])

/-- What calls of handlers leave, one after another. -/
def deliverAll :
    List (EventHandler World × ObservabilityEvent) → World → World × List String
  | [], world => (world, [])
  | (handler, event) :: rest, world =>
      let (next, warnings) := deliver handler event world
      let (last, others) := deliverAll rest next
      (last, warnings ++ others)

theorem deliverAll_append
    (first second : List (EventHandler World × ObservabilityEvent)) (world : World) :
    deliverAll (first ++ second) world =
      ((deliverAll second (deliverAll first world).1).1,
        (deliverAll first world).2 ++ (deliverAll second (deliverAll first world).1).2) := by
  induction first generalizing world with
  | nil => rfl
  | cons call rest induction =>
      obtain ⟨handler, event⟩ := call
      rw [List.cons_append, deliverAll, deliverAll]
      simp only [induction, List.append_assoc]

/-- A dispatch delivers the event to every handler, whichever of them raise. -/
theorem EventBus.dispatch_eq_deliverAll
    (event : ObservabilityEvent) (handlers : List (EventHandler World)) (world : World) :
    EventBus.dispatch event handlers world =
      deliverAll (handlers.map fun handler => (handler, event)) world := by
  induction handlers generalizing world with
  | nil => rfl
  | cons handler rest induction =>
      rw [dispatch, List.map_cons, deliverAll, deliver]
      rcases handler.handle world event with ⟨next, _ | raised⟩
      · exact induction next
      · simp only [induction next, List.singleton_append]

namespace AuditLog

/-- A bounded log; its bound must be positive. -/
def bounded (maxlen : Int) : Except PyError AuditLog :=
  if maxlen ≤ 0 then .error .valueError
  else .ok { entries := [], maxlen := some maxlen.toNat }

/-- The first entry is no later than the second. -/
def NoLater (entry other : AuditEntry) : Prop := entry.timestamp ≤ other.timestamp

instance : DecidableRel NoLater := fun _ _ => inferInstanceAs (Decidable (_ ≤ _))

/-- The entries of a device, in chronological order. -/
def queryByDevice (log : AuditLog) (deviceId : UUID) : List AuditEntry :=
  (log.entries.filter fun entry => entry.deviceId = some deviceId).insertionSort NoLater

/-- Every entry, in chronological order. -/
def all (log : AuditLog) : List AuditEntry := log.entries.insertionSort NoLater

/-- The log holds what its bound lets it hold of a record. -/
structure Retains (log : AuditLog) (record : List AuditEntry) : Prop where
  positive : ∀ most, log.maxlen = some most → 0 < most
  entries : log.entries = retained log.maxlen record

variable {log : AuditLog} {record : List AuditEntry}

/-- A new log, bounded or not, holds an empty record. -/
theorem retains_of_bounded {maxlen : Int} (built : bounded maxlen = .ok log) :
    log.Retains [] := by
  rw [bounded] at built
  split_ifs at built with refused
  cases built
  refine ⟨fun most same => ?_, (List.rtake_nil _).symm⟩
  obtain rfl := Option.some.inj same
  omega

/-- A log holds the record with an entry appended to both. -/
theorem Retains.append (held : log.Retains record) (entry : AuditEntry) :
    (log.append entry).Retains (record ++ [entry]) := by
  obtain ⟨entries, maxlen⟩ := log
  obtain ⟨positive, same⟩ := held
  obtain rfl : entries = retained maxlen record := same
  cases maxlen with
  | none => exact ⟨positive, rfl⟩
  | some most => exact ⟨positive, pushLast_rtake (positive most rfl) record entry⟩

theorem Retains.foldl_append (held : log.Retains record) (entries : List AuditEntry) :
    (entries.foldl AuditLog.append log).Retains (record ++ entries) := by
  induction entries generalizing log record with
  | nil => rwa [List.append_nil]
  | cons entry rest induction =>
      have longer := induction (held.append entry)
      rwa [List.append_assoc] at longer

theorem maxlen_foldl_append (entries : List AuditEntry) (log : AuditLog) :
    (entries.foldl AuditLog.append log).maxlen = log.maxlen := by
  induction entries generalizing log with
  | nil => rfl
  | cons entry rest induction =>
      rw [List.foldl_cons, induction, AuditLog.append]
      split <;> rfl

end AuditLog

/-- An observer and the bus it emits to. -/
structure NotifyingObserver (World : Type) extends StructuralObserver where
  eventBus : EventBus World

namespace NotifyingObserver

/-- Compare a pair, and record the report; the bus is left alone. -/
def detectDrift (clock : Nat → Int) (observer : NotifyingObserver World)
    (desired : DesiredState) (actual : CollectResult) :
    Except PyError DriftReport × NotifyingObserver World :=
  let (answer, after) := observer.toStructuralObserver.detectDrift clock desired actual
  (answer, { after with eventBus := observer.eventBus })

def detectDriftBatch (clock : Nat → Int) (observer : NotifyingObserver World)
    (pairs : List (DesiredState × CollectResult)) :
    Except PyError BatchDriftReport × NotifyingObserver World :=
  let (answer, after) := observer.toStructuralObserver.detectDriftBatch clock pairs
  (answer, { after with eventBus := observer.eventBus })

/-- Emit the event of a report, and record that; what the handlers warn of is logged. -/
def emitEvent (clock : Nat → Int) (observer : NotifyingObserver World)
    (report : DriftReport) (world : World) :
    ObservabilityEvent × NotifyingObserver World × World × List String :=
  let event := eventOf report (clock observer.readings)
  let (told, warnings) := observer.eventBus.emit event world
  (event,
    { observer with
      auditLog := observer.auditLog.append
        (eventEntry observer.componentName event (clock (observer.readings + 1)))
      readings := observer.readings + 2 },
    told, warnings)

def logAudit (observer : NotifyingObserver World) (entry : AuditEntry) :
    NotifyingObserver World :=
  { observer with auditLog := observer.auditLog.append entry }

def register (observer : NotifyingObserver World) (registrant : Registrant World) :
    Except String (NotifyingObserver World) :=
  (observer.eventBus.register registrant).map fun bus => { observer with eventBus := bus }

end NotifyingObserver

/-- What is compared with intent: a successful collection is normalized first. -/
def normalizedCollection (text : PyText) (collected : CollectResult) :
    Except PyError CollectResult :=
  if collected.success = true then
    (normalizeSrlinuxState text collected.data).map fun data => { collected with data := data }
  else .ok collected

/-- The activity of a worker: normalize what was collected, compare, and emit the report. -/
def NotifyingObserver.detectDriftActivity
    (text : PyText) (clock : Nat → Int) (observer : NotifyingObserver World)
    (desired : DesiredState) (collected : CollectResult) (world : World) :
    Except PyError DriftReport × NotifyingObserver World × World × List String :=
  match normalizedCollection text collected with
  | .error error => (.error error, observer, world, [])
  | .ok actual =>
      match observer.detectDrift clock desired actual with
      | (.error error, after) => (.error error, after, world, [])
      | (.ok report, after) =>
          let (_, last, told, warnings) := after.emitEvent clock report world
          (.ok report, last, told, warnings)

/-- A call of the observer, of its bus, or of the activity that uses both. -/
inductive ObserverCall (World : Type) where
  | register (registrant : Registrant World)
  | detectDrift (desired : DesiredState) (actual : CollectResult)
  | detectDriftBatch (pairs : List (DesiredState × CollectResult))
  | emitEvent (report : DriftReport)
  | logAudit (entry : AuditEntry)
  | detectDriftActivity (desired : DesiredState) (collected : CollectResult)

/-- How a call ends. -/
inductive ObserverAnswer where
  | done
  | refused (text : String)
  | reported (report : DriftReport)
  | aggregated (batch : BatchDriftReport)
  | emitted (event : ObservabilityEvent)
  | raised (error : PyError)

/-- The observer, the world its handlers act on, and the warnings logged so far. -/
structure Watch (World : Type) where
  observer : NotifyingObserver World
  world : World
  warnings : List String := []

/-- The answer of a call that returns a value or raises. -/
def answerOf {Result : Type} (answer : Result → ObserverAnswer) :
    Except PyError Result → ObserverAnswer
  | .ok result => answer result
  | .error error => .raised error

namespace Watch

/-- One call. -/
def call (text : PyText) (clock : Nat → Int) (watch : Watch World) :
    ObserverCall World → ObserverAnswer × Watch World
  | .register registrant =>
      match watch.observer.register registrant with
      | .ok observer => (.done, { watch with observer := observer })
      | .error refusal => (.refused refusal, watch)
  | .detectDrift desired actual =>
      let (answer, observer) := watch.observer.detectDrift clock desired actual
      (answerOf .reported answer, { watch with observer := observer })
  | .detectDriftBatch pairs =>
      let (answer, observer) := watch.observer.detectDriftBatch clock pairs
      (answerOf .aggregated answer, { watch with observer := observer })
  | .emitEvent report =>
      let (event, observer, world, warnings) :=
        watch.observer.emitEvent clock report watch.world
      (.emitted event, ⟨observer, world, watch.warnings ++ warnings⟩)
  | .logAudit entry =>
      (.done, { watch with observer := watch.observer.logAudit entry })
  | .detectDriftActivity desired collected =>
      let (answer, observer, world, warnings) :=
        watch.observer.detectDriftActivity text clock desired collected watch.world
      (answerOf .reported answer, ⟨observer, world, watch.warnings ++ warnings⟩)

/-- Calls, one after another, with their answers. -/
def run (text : PyText) (clock : Nat → Int) :
    Watch World → List (ObserverCall World) → List ObserverAnswer × Watch World
  | watch, [] => ([], watch)
  | watch, asked :: rest =>
      let (answer, next) := watch.call text clock asked
      let (answers, last) := run text clock next rest
      (answer :: answers, last)

end Watch

end Snapl.Observability
