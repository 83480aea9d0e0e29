import Snapl.Observability.WatchRun

/-!
# Notifications

Whatever is asked of an observer and in whatever order, nothing it emits is lost to a
handler because another one raised, and its log holds exactly the last entries of all
that was recorded.  The observer of a worker announces every completed drift check in
the worker's own log, once, in the order of the checks.
-/

namespace Snapl.Orchestrator

open Snapl.Library Snapl.Intent Snapl.Observability

inductive LogLevel where
  | info
  | warning
deriving DecidableEq

structure LogLine where
  level : LogLevel
  text : String
deriving DecidableEq

/-- The line a worker logs about an event. -/
def driftLine (event : ObservabilityEvent) : LogLine :=
  if event.eventType = .stateClean then
    ⟨.info, "drift check clean: device=" ++ event.deviceName⟩
  else
    ⟨.warning, "drift event " ++ event.eventType.value ++ ": device=" ++ event.deviceName ++
      " items=" ++ toString event.report.items.length ++
      " error=" ++ event.report.error.getD "None"⟩

/-- The worker's handler of drift events. -/
def logDriftEvent : EventHandler (List LogLine) where
  qualname := "_log_drift_event"
  handle lines event := (lines ++ [driftLine event], none)

/-- The observer a worker builds: one handler, and a log of a thousand entries. -/
def buildObserver : Option (NotifyingObserver (List LogLine)) := do
  let bus ← (EventBus.register {} (.handler logDriftEvent)).toOption
  let log ← (AuditLog.bounded 1000).toOption
  some { auditLog := log, componentName := "StructuralObserver", readings := 0, eventBus := bus }

end Snapl.Orchestrator

namespace Snapl.Contract

open Snapl.Library Snapl.Intent Snapl.Observability Snapl.Orchestrator

variable {World : Type}

/-- What a run leaves: what its calls recorded, told and registered, and nothing else. -/
structure AccountKept (text : PyText) (clock : Nat → Int) (watch : Watch World)
    (record : List AuditEntry) (calls : List (ObserverCall World))
    (effects : List (CallEffect World)) : Prop where
  accounts : RunDoes text watch.observer.componentName calls
    (watch.run text clock calls).1 effects
  retained : (watch.run text clock calls).2.observer.auditLog.Retains (record ++ recordOf effects)
  handlers : (watch.run text clock calls).2.observer.eventBus.handlers =
    watch.observer.eventBus.handlers ++ effects.flatMap CallEffect.subscribed
  world : (watch.run text clock calls).2.world =
    (deliverAll (deliveriesOf watch.observer.eventBus.handlers effects) watch.world).1
  warnings : (watch.run text clock calls).2.warnings = watch.warnings ++
    (deliverAll (deliveriesOf watch.observer.eventBus.handlers effects) watch.world).2
  /-- With a clock that never goes back, a log of the observer's own entries reads as written. -/
  inOrder : record = [] → (∀ entry, .logAudit entry ∉ calls) → Onward clock →
    (watch.run text clock calls).2.observer.auditLog.all =
        (watch.run text clock calls).2.observer.auditLog.entries ∧
      ∀ deviceId, (watch.run text clock calls).2.observer.auditLog.queryByDevice deviceId =
        (watch.run text clock calls).2.observer.auditLog.entries.filter
          fun entry => entry.deviceId = some deviceId

/-- Entries that are in order stay as they are. -/
theorem queries_of_pairwise {log : AuditLog} (ordered : log.entries.Pairwise AuditLog.NoLater) :
    log.all = log.entries ∧ ∀ deviceId, log.queryByDevice deviceId =
      log.entries.filter fun entry => entry.deviceId = some deviceId :=
  ⟨ordered.insertionSort_eq, fun _ => (ordered.filter _).insertionSort_eq⟩

theorem pairwise_of_retains
    {log : AuditLog} {record : List AuditEntry} (held : log.Retains record)
    (ordered : record.Pairwise AuditLog.NoLater) : log.entries.Pairwise AuditLog.NoLater := by
  rw [held.entries]
  exact ordered.sublist (retained_suffix log.maxlen record).sublist

/--
Every run of calls leaves what its calls add, each in one of its ways: the log holds
the last entries of all that was recorded, every event was handed to every handler
registered before it whatever the others raised, and the warnings are theirs.
-/
theorem observer_keeps_account
    (text : PyText) (clock : Nat → Int) (calls : List (ObserverCall World))
    {watch : Watch World} {record : List AuditEntry}
    (held : watch.observer.auditLog.Retains record) :
    ∃ effects, AccountKept text clock watch record calls effects := by
  obtain ⟨effects, accounts, follows, stamped⟩ := watch_follows text clock watch calls
  obtain ⟨world, warnings⟩ := Prod.mk.inj follows.told
  have retains := held.foldl_append (recordOf effects)
  rw [← follows.logged] at retains
  refine ⟨effects, accounts, retains, follows.handlers, world, warnings, ?_⟩
  rintro rfl own onward
  exact queries_of_pairwise (pairwise_of_retains retains ((stamped own).pairwise onward))

/-- A handler that raises whatever it is called with. -/
def notifyPager : EventHandler (List LogLine) where
  qualname := "notify_pager"
  handle lines _ := (lines, some ⟨"ConnectionError", "pager is down"⟩)

/-- An observer with that handler, and a log of one entry. -/
def pagerWatch : Watch (List LogLine) where
  observer :=
    { auditLog := ⟨[], some 1⟩
      componentName := "StructuralObserver"
      readings := 0
      eventBus := { handlers := [notifyPager] } }
  world := []

/-- A second handler is registered, then a failed check is emitted. -/
def pagerCalls : List (ObserverCall (List LogLine)) :=
  [.register (.handler logDriftEvent),
    .emitEvent (DriftReport.failed ⟨1⟩ "leaf-01" "timeout after 30s" 0)]

/-- The second handler is told of what the first one raised on. -/
theorem pager_accounted :
    (pagerWatch.run PyText.ascii Int.ofNat pagerCalls).2.world =
      [⟨.warning, "drift event drift_error: device=leaf-01 items=0 error=timeout after 30s"⟩] ∧
    (pagerWatch.run PyText.ascii Int.ofNat pagerCalls).2.warnings =
      ["EventBus handler notify_pager raised ConnectionError: pager is down"] ∧
    ∃ effects, AccountKept PyText.ascii Int.ofNat pagerWatch [] pagerCalls effects :=
  ⟨by decide +kernel, by decide +kernel,
    observer_keeps_account PyText.ascii Int.ofNat pagerCalls
      (@AuditLog.retains_of_bounded _ 1 rfl)⟩

/-- The report of an answer, if it has one. -/
def reported? : ObserverAnswer → Option DriftReport
  | .reported report => some report
  | _ => none

/-- What a worker logs about a report, whenever it does. -/
def reportLine (report : DriftReport) : LogLine := driftLine (eventOf report 0)

/-- The answer of a check: the report of the pair, or the error that kept it from having one. -/
def ChecksPair (text : PyText) (pair : DesiredState × CollectResult) (answer : ObserverAnswer) :
    Prop :=
  (∃ timestamp report, detectDrift text timestamp pair.1 pair.2 = .ok report ∧
    answer = .reported report) ∨
  ∃ error, (∀ timestamp, detectDrift text timestamp pair.1 pair.2 = .error error) ∧
    answer = .raised error

/-- Two entries for every report: that it was made, and that it was emitted. -/
inductive RecordedTwice (component : String) : List DriftReport → List AuditEntry → Prop where
  | nil : RecordedTwice component [] []
  | cons {report : DriftReport} {reports : List DriftReport} {entry : AuditEntry}
      {entries : List AuditEntry} (made : EntryOf component report entry) (emitted logged : Int)
      (rest : RecordedTwice component reports entries) :
      RecordedTwice component (report :: reports)
        (entry :: eventEntry component (eventOf report emitted) logged :: entries)

/-- What a run of checks adds. -/
structure Checked (text : PyText) (component : String)
    (pairs : List (DesiredState × CollectResult)) (answers : List ObserverAnswer)
    (effects : List (CallEffect World)) : Prop where
  answered : List.Forall₂ (ChecksPair text) pairs answers
  recorded : RecordedTwice component (answers.filterMap reported?) (recordOf effects)
  lines : (effects.flatMap CallEffect.events).map driftLine =
    (answers.filterMap reported?).map reportLine
  unsubscribed : ∀ effect ∈ effects, effect.subscribed = []

/-- The call of the activity for a pair. -/
def checkOf (pair : DesiredState × CollectResult) : ObserverCall World :=
  .detectDriftActivity pair.1 pair.2

theorem checked_of_accounts
    {text : PyText} {component : String} {pairs : List (DesiredState × CollectResult)}
    {answers : List ObserverAnswer} {effects : List (CallEffect World)}
    (accounts : RunDoes text component (pairs.map checkOf) answers effects) :
    Checked text component pairs answers effects := by
  induction pairs generalizing answers effects with
  | nil =>
      cases accounts
      exact ⟨.nil, .nil, rfl, fun _ member => absurd member List.not_mem_nil⟩
  | cons pair rest induction =>
      obtain ⟨desired, collected⟩ := pair
      cases accounts with
      | cons does others =>
          obtain ⟨answered, recorded, lines, unsubscribed⟩ := induction others
          cases does with
          | checks detected entered emitted logged =>
              refine ⟨.cons (Or.inl ⟨_, _, detected, rfl⟩) answered,
                .cons entered emitted logged recorded, ?_, ?_⟩
              · rw [List.flatMap_cons, List.map_append, lines]
                rfl
              · exact List.forall_mem_cons.2 ⟨rfl, unsubscribed⟩
          | fails undetected =>
              refine ⟨.cons (Or.inr ⟨_, undetected, rfl⟩) answered, recorded, lines, ?_⟩
              exact List.forall_mem_cons.2 ⟨rfl, unsubscribed⟩

/-- Where nobody is registered on the way, every event goes to the handlers of the start. -/
theorem deliveriesOf_of_unsubscribed
    (handlers : List (EventHandler World)) {effects : List (CallEffect World)}
    (unsubscribed : ∀ effect ∈ effects, effect.subscribed = []) :
    deliveriesOf handlers effects = deliveries handlers (effects.flatMap CallEffect.events) := by
  induction effects with
  | nil => rfl
  | cons effect rest induction =>
      obtain ⟨first, others⟩ := List.forall_mem_cons.1 unsubscribed
      rw [deliveriesOf, first, List.append_nil, induction others, List.flatMap_cons, deliveries,
        deliveries, deliveries, List.flatMap_append]

/-- The worker's handler logs a line for every event, and never raises. -/
theorem deliverAll_logDriftEvent (events : List ObservabilityEvent) (lines : List LogLine) :
    deliverAll (deliveries [logDriftEvent] events) lines =
      (lines ++ events.map driftLine, []) := by
  induction events generalizing lines with
  | nil => exact congrArg (Prod.mk · []) (List.append_nil lines).symm
  | cons event rest induction =>
      have one : deliver logDriftEvent event lines = (lines ++ [driftLine event], []) := rfl
      rw [deliveries, List.flatMap_cons, List.map_singleton, List.singleton_append, deliverAll, one]
      change ((deliverAll (deliveries [logDriftEvent] rest) (lines ++ [driftLine event])).1,
        (deliverAll (deliveries [logDriftEvent] rest) (lines ++ [driftLine event])).2) = _
      rw [induction, List.append_assoc, List.singleton_append, List.map_cons]

/-- What a worker leaves of its drift checks. -/
structure Announced (text : PyText) (clock : Nat → Int)
    (observer : NotifyingObserver (List LogLine))
    (pairs : List (DesiredState × CollectResult)) (answers : List ObserverAnswer)
    (last : Watch (List LogLine)) : Prop where
  answered : List.Forall₂ (ChecksPair text) pairs answers
  lines : last.world = (answers.filterMap reported?).map reportLine
  quiet : last.warnings = []
  bounded : last.observer.auditLog.entries.length ≤ 1000
  recorded : ∃ record, RecordedTwice observer.componentName (answers.filterMap reported?) record ∧
    last.observer.auditLog.entries = record.rtake 1000 ∧
    (Onward clock → last.observer.auditLog.all = record.rtake 1000)

/-- What a new observer with the worker's handler and bound leaves. -/
theorem announced_of_new
    (text : PyText) (clock : Nat → Int) {observer : NotifyingObserver (List LogLine)}
    (handlers : observer.eventBus.handlers = [logDriftEvent])
    (log : observer.auditLog = { entries := [], maxlen := some 1000 })
    (pairs : List (DesiredState × CollectResult)) :
    Announced text clock observer pairs
      (Watch.run text clock ⟨observer, [], []⟩ (pairs.map checkOf)).1
      (Watch.run text clock ⟨observer, [], []⟩ (pairs.map checkOf)).2 := by
  obtain ⟨effects, accounts, follows, stamped⟩ :=
    watch_follows text clock ⟨observer, [], []⟩ (pairs.map checkOf)
  have checked := checked_of_accounts accounts
  obtain ⟨world, warnings⟩ := Prod.mk.inj follows.told
  rw [deliveriesOf_of_unsubscribed _ checked.unsubscribed, handlers,
    deliverAll_logDriftEvent] at world warnings
  have new : observer.auditLog.Retains [] := by
    rw [log]
    exact @AuditLog.retains_of_bounded _ 1000 rfl
  have retains := new.foldl_append (recordOf effects)
  have bound :
      ((recordOf effects).foldl AuditLog.append observer.auditLog).maxlen = some 1000 := by
    rw [AuditLog.maxlen_foldl_append, log]
  rw [← follows.logged] at retains bound
  have entries := retains.entries
  rw [bound] at entries
  have own : ∀ entry, ObserverCall.logAudit entry ∉ pairs.map (@checkOf (List LogLine)) := by
    intro entry member
    obtain ⟨pair, -, same⟩ := List.mem_map.1 member
    rw [checkOf] at same
    cases same
  refine ⟨checked.answered, world.trans checked.lines, warnings, ?_,
    recordOf effects, checked.recorded, entries, fun onward => ?_⟩
  · rw [entries]
    exact length_retained_le 1000 _
  · have ordered := pairwise_of_retains retains ((stamped own).pairwise onward)
    exact (queries_of_pairwise ordered).1.trans entries

/--
A worker answers every drift check with its report or with the error that kept it
from having one, logs one line for each report in the order of the checks, and keeps
the last thousand of the two entries that each report leaves.
-/
theorem worker_announces (text : PyText) (clock : Nat → Int) :
    ∃ observer, buildObserver = some observer ∧
      ∀ pairs, Announced text clock observer pairs
        (Watch.run text clock ⟨observer, [], []⟩ (pairs.map checkOf)).1
        (Watch.run text clock ⟨observer, [], []⟩ (pairs.map checkOf)).2 := by
  exact ⟨_, rfl, announced_of_new text clock rfl rfl⟩

end Snapl.Contract
