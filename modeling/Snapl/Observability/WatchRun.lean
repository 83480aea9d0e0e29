import Snapl.Observability.EventBus

/-!
# Runs of an observer

What one call adds: entries to the audit log, events for the handlers registered by
then, and handlers to the bus.  A whole run adds what its calls add, in their order.
Entries the observer makes itself carry readings of its clock, later ones later
readings.
-/

namespace Snapl.Observability

open Snapl.Library Snapl.Intent Snapl.Orchestrator

variable {World : Type}

/-! ## Effects -/

/-- What a call adds. -/
structure CallEffect (World : Type) where
  entries : List AuditEntry := []
  events : List ObservabilityEvent := []
  subscribed : List (EventHandler World) := []

/-- Every way in which a call may end, with what it adds. -/
inductive Does (text : PyText) (component : String) :
    ObserverCall World → ObserverAnswer → CallEffect World → Prop where
  | registers (handler : EventHandler World) :
      Does text component (.register (.handler handler)) .done { subscribed := [handler] }
  | refuses (typeName : String) :
      Does text component (.register (.other typeName))
        (.refused ("handler must be callable, got " ++ typeName)) {}
  | detects {desired : DesiredState} {actual : CollectResult} {report : DriftReport}
      {entry : AuditEntry} (observed : ReportOf (desired, actual) report)
      (entered : EntryOf component report entry) :
      Does text component (.detectDrift desired actual) (.reported report) { entries := [entry] }
  | mismatched {desired : DesiredState} {actual : CollectResult}
      (differs : desired.device.id ≠ actual.deviceId) :
      Does text component (.detectDrift desired actual) (.raised .valueError) {}
  | detectsBatch {pairs : List (DesiredState × CollectResult)} {reports : List DriftReport}
      {entries : List AuditEntry} {batch : BatchDriftReport}
      (reported : List.Forall₂ ReportOf pairs reports)
      (entered : List.Forall₂ (EntryOf component) reports entries)
      (kept : batch.reports = Dict.ofPairs (reports.map fun report => (report.deviceId, report))) :
      Does text component (.detectDriftBatch pairs) (.aggregated batch) { entries := entries }
  | refusesBatch {pairs : List (DesiredState × CollectResult)} (refused : Refused pairs) :
      Does text component (.detectDriftBatch pairs) (.raised .valueError) {}
  | emits (report : DriftReport) (emitted logged : Int) :
      Does text component (.emitEvent report) (.emitted (eventOf report emitted))
        { entries := [eventEntry component (eventOf report emitted) logged]
          events := [eventOf report emitted] }
  | logs (entry : AuditEntry) :
      Does text component (.logAudit entry) .done { entries := [entry] }
  | checks {desired : DesiredState} {collected : CollectResult} {report : DriftReport}
      {entry : AuditEntry} {timestamp : Int}
      (detected : detectDrift text timestamp desired collected = .ok report)
      (entered : EntryOf component report entry) (emitted logged : Int) :
      Does text component (.detectDriftActivity desired collected) (.reported report)
        { entries := [entry, eventEntry component (eventOf report emitted) logged]
          events := [eventOf report emitted] }
  | fails {desired : DesiredState} {collected : CollectResult} {error : PyError}
      (undetected : ∀ timestamp, detectDrift text timestamp desired collected = .error error) :
      Does text component (.detectDriftActivity desired collected) (.raised error) {}

/-- Calls of handlers: every handler is called with every event. -/
def deliveries (handlers : List (EventHandler World)) (events : List ObservabilityEvent) :
    List (EventHandler World × ObservabilityEvent) :=
  events.flatMap fun event => handlers.map fun handler => (handler, event)

/-- Calls of handlers over a run: an event goes to those that were registered before it. -/
def deliveriesOf :
    List (EventHandler World) → List (CallEffect World) →
      List (EventHandler World × ObservabilityEvent)
  | _, [] => []
  | handlers, effect :: rest =>
      deliveries handlers effect.events ++ deliveriesOf (handlers ++ effect.subscribed) rest

/-! ## Times -/

/-- Entries that carry readings of the clock, each a later one than those before it. -/
structure StampedWithin (clock : Nat → Int) (first : Nat) (entries : List AuditEntry) (last : Nat) :
    Prop where
  forward : first ≤ last
  readings : ∃ readings : List Nat,
    entries.map AuditEntry.timestamp = readings.map clock ∧
      readings.Pairwise (· < ·) ∧ ∀ reading ∈ readings, first ≤ reading ∧ reading < last

section

variable {clock : Nat → Int} {first middle last : Nat} {entries others : List AuditEntry}

theorem stamped_nil (clock : Nat → Int) (reading : Nat) : StampedWithin clock reading [] reading :=
  ⟨Nat.le_refl reading, [], rfl, .nil, fun _ member => absurd member List.not_mem_nil⟩

theorem stamped_one {entry : AuditEntry} (taken : entry.timestamp = clock (first + 1)) :
    StampedWithin clock first [entry] (first + 2) := by
  refine ⟨by omega, [first + 1], by rw [List.map_singleton, taken]; rfl,
    List.pairwise_singleton _ _, ?_⟩
  intro reading member
  rw [List.mem_singleton.1 member]
  omega

theorem StampedWithin.append
    (earlier : StampedWithin clock first entries middle)
    (later : StampedWithin clock middle others last) :
    StampedWithin clock first (entries ++ others) last := by
  obtain ⟨readings, stamps, increasing, within⟩ := earlier.readings
  obtain ⟨more, moreStamps, moreIncreasing, moreWithin⟩ := later.readings
  have before := earlier.forward
  have after := later.forward
  refine ⟨before.trans after, readings ++ more, ?_, ?_, ?_⟩
  · rw [List.map_append, List.map_append, stamps, moreStamps]
  · refine List.pairwise_append.2 ⟨increasing, moreIncreasing, ?_⟩
    intro reading member other otherMember
    exact (within reading member).2.trans_le (moreWithin other otherMember).1
  · intro reading member
    rcases List.mem_append.1 member with inFirst | inMore
    · exact ⟨(within reading inFirst).1, (within reading inFirst).2.trans_le after⟩
    · exact ⟨before.trans (moreWithin reading inMore).1, (moreWithin reading inMore).2⟩

/-- A clock that never goes back. -/
def Onward (clock : Nat → Int) : Prop :=
  ∀ earlier later, earlier ≤ later → clock earlier ≤ clock later

/-- Such a clock stamps entries in their order. -/
theorem StampedWithin.pairwise
    (stamped : StampedWithin clock first entries last) (onward : Onward clock) :
    entries.Pairwise AuditLog.NoLater := by
  obtain ⟨readings, stamps, increasing, -⟩ := stamped.readings
  have ordered : (readings.map clock).Pairwise (· ≤ ·) :=
    List.pairwise_map.2 (increasing.imp fun less => onward _ _ (Nat.le_of_lt less))
  rw [← stamps, List.pairwise_map] at ordered
  exact ordered

end

/-! ## Detection -/

section

variable (clock : Nat → Int)

/-- A pair of two devices is refused with nothing recorded, any other pair is reported. -/
theorem detectDrift_cases
    (observer : StructuralObserver) (desired : DesiredState) (actual : CollectResult) :
    (desired.device.id ≠ actual.deviceId ∧
      observer.detectDrift clock desired actual = (.error .valueError, observer)) ∨
    ∃ report, structuralDrift (clock observer.readings) desired actual = .ok report ∧
      observer.detectDrift clock desired actual =
        (.ok report,
          { observer with
            auditLog := observer.auditLog.append
              (reportEntry observer.componentName report (clock (observer.readings + 1)))
            readings := observer.readings + 2 }) := by
  by_cases same : desired.device.id = actual.deviceId
  · obtain ⟨report, observed⟩ := structuralDrift_of_same (clock observer.readings) same
    refine Or.inr ⟨report, observed, ?_⟩
    rw [StructuralObserver.detectDrift, observed]
  · refine Or.inl ⟨same, ?_⟩
    rw [StructuralObserver.detectDrift, structuralDrift, if_pos same]

/-- What the loop of a batch leaves: a report and a stamped entry for every pair. -/
structure Batched (observer after : StructuralObserver) (before tally : Tally)
    (pairs : List (DesiredState × CollectResult)) (reports : List DriftReport)
    (entries : List AuditEntry) : Prop where
  reported : List.Forall₂ ReportOf pairs reports
  entered : List.Forall₂ (EntryOf observer.componentName) reports entries
  kept : tally.reports =
    before.reports.update (reports.map fun report => (report.deviceId, report))
  component : after.componentName = observer.componentName
  logged : after.auditLog = entries.foldl AuditLog.append observer.auditLog
  stamped : StampedWithin clock observer.readings entries after.readings

theorem batched_of_same
    (observer : StructuralObserver) (before : Tally)
    {pairs : List (DesiredState × CollectResult)}
    (same : ∀ pair ∈ pairs, pair.1.device.id = pair.2.deviceId) :
    ∃ tally after reports entries,
      observer.detectPairs clock before pairs = (.ok tally, after) ∧
        Batched clock observer after before tally pairs reports entries := by
  induction pairs generalizing observer before with
  | nil =>
      exact ⟨before, observer, [], [], rfl, .nil, .nil, rfl, rfl, rfl,
        stamped_nil clock observer.readings⟩
  | cons pair rest induction =>
      obtain ⟨desired, actual⟩ := pair
      rcases detectDrift_cases clock observer desired actual with
        ⟨differs, -⟩ | ⟨report, observed, detected⟩
      · exact absurd (same _ List.mem_cons_self) differs
      · obtain ⟨tally, after, reports, entries, detects, batched⟩ := induction
          { observer with
            auditLog := observer.auditLog.append
              (reportEntry observer.componentName report (clock (observer.readings + 1)))
            readings := observer.readings + 2 }
          (before.add desired.device.id report)
          fun other member => same other (List.mem_cons_of_mem _ member)
        refine ⟨tally, after, report :: reports,
          reportEntry observer.componentName report (clock (observer.readings + 1)) :: entries,
          ?_, .cons ⟨_, observed⟩ batched.reported, .cons ⟨_, rfl⟩ batched.entered, ?_,
          batched.component, batched.logged, ?_⟩
        · rw [StructuralObserver.detectPairs, detected]
          exact detects
        · rw [batched.kept, Tally.add_eq, List.map_cons, deviceId_of_structuralDrift observed]
          rfl
        · exact (stamped_one rfl).append batched.stamped

/-- A batch is refused with nothing recorded, or every pair is reported and recorded. -/
theorem detectDriftBatch_cases
    (observer : StructuralObserver) (pairs : List (DesiredState × CollectResult)) :
    (Refused pairs ∧ observer.detectDriftBatch clock pairs = (.error .valueError, observer)) ∨
    ∃ batch tally after reports entries,
      observer.detectDriftBatch clock pairs = (.ok batch, after) ∧
        batch.reports = tally.reports ∧
        Batched clock observer after Tally.empty tally pairs reports entries := by
  by_cases refused : Refused pairs
  · exact Or.inl ⟨refused, detectDriftBatch_of_refused clock observer refused⟩
  · obtain ⟨batch, last, made, returned, -⟩ := detectDriftBatch_of_same clock observer refused
    have accepted := refused
    rw [Refused, not_or] at accepted
    obtain ⟨present, matched⟩ := accepted
    have same : ∀ pair ∈ pairs, pair.1.device.id = pair.2.deviceId := by
      intro pair member
      by_contra differs
      exact matched ⟨pair, member, differs⟩
    obtain ⟨tally, after, reports, entries, detects, batched⟩ :=
      batched_of_same clock observer Tally.empty same
    have built := returned
    rw [StructuralObserver.detectDriftBatch, if_neg present, if_neg matched, detects] at built
    obtain ⟨summed, rfl⟩ := Prod.mk.inj built
    refine Or.inr ⟨batch, tally, after, reports, entries, returned, ?_, batched⟩
    rw [BatchDriftReport.build] at summed
    split_ifs at summed
    rw [← Except.ok.inj summed]

end

/-- The activity compares what was normalized. -/
theorem detectDrift_eq
    (text : PyText) (timestamp : Int) (desired : DesiredState) (collected : CollectResult) :
    detectDrift text timestamp desired collected =
      (normalizedCollection text collected).bind (structuralDrift timestamp desired) := by
  rw [detectDrift, normalizedCollection]
  split_ifs with success
  · cases normalizeSrlinuxState text collected.data <;> rfl
  · rfl

/-- An observer that has recorded a report. -/
def NotifyingObserver.recorded (clock : Nat → Int) (observer : NotifyingObserver World)
    (report : DriftReport) : NotifyingObserver World :=
  { observer with
    auditLog := observer.auditLog.append
      (reportEntry observer.componentName report (clock (observer.readings + 1)))
    readings := observer.readings + 2 }

/-- The activity fails with nothing recorded and nothing emitted, or its report is emitted. -/
theorem detectDriftActivity_cases
    (text : PyText) (clock : Nat → Int) (observer : NotifyingObserver World)
    (desired : DesiredState) (collected : CollectResult) (world : World) :
    (∃ error, (∀ timestamp, detectDrift text timestamp desired collected = .error error) ∧
      observer.detectDriftActivity text clock desired collected world =
        (.error error, observer, world, [])) ∨
    ∃ report, detectDrift text (clock observer.readings) desired collected = .ok report ∧
      observer.detectDriftActivity text clock desired collected world =
        (.ok report, ((observer.recorded clock report).emitEvent clock report world).2) := by
  rw [NotifyingObserver.detectDriftActivity]
  simp only [detectDrift_eq]
  cases normalizedCollection text collected with
  | error error => exact Or.inl ⟨error, fun _ => rfl, rfl⟩
  | ok actual =>
      simp only [Except.bind, NotifyingObserver.detectDrift]
      rcases detectDrift_cases clock observer.toStructuralObserver desired actual with
        ⟨differs, refused⟩ | ⟨report, observed, detected⟩
      · refine Or.inl ⟨.valueError, fun timestamp => ?_, by rw [refused]⟩
        rw [structuralDrift, if_pos differs]
      · refine Or.inr ⟨report, observed, ?_⟩
        rw [detected]
        rfl

/-! ## One call -/

/-- What a call leaves, by what it adds. -/
structure CallFollows (watch next : Watch World) (effect : CallEffect World) : Prop where
  component : next.observer.componentName = watch.observer.componentName
  logged : next.observer.auditLog = effect.entries.foldl AuditLog.append watch.observer.auditLog
  handlers : next.observer.eventBus.handlers =
    watch.observer.eventBus.handlers ++ effect.subscribed
  told : (next.world, next.warnings) =
    let told := deliverAll (deliveries watch.observer.eventBus.handlers effect.events) watch.world
    (told.1, watch.warnings ++ told.2)

/-- The entries of a call are stamped by the observer's own clock. -/
def OwnTimes (clock : Nat → Int) (watch next : Watch World) (effect : CallEffect World) : Prop :=
  StampedWithin clock watch.observer.readings effect.entries next.observer.readings

variable {watch : Watch World} {observer : NotifyingObserver World}

/-- A call that tells nobody and registers nobody. -/
theorem follows_quietly
    {entries : List AuditEntry}
    (component : observer.componentName = watch.observer.componentName)
    (logged : observer.auditLog = entries.foldl AuditLog.append watch.observer.auditLog)
    (bus : observer.eventBus = watch.observer.eventBus) :
    CallFollows watch { watch with observer := observer } { entries := entries } where
  component := component
  logged := logged
  handlers := by rw [bus]; exact (List.append_nil _).symm
  told := congrArg (Prod.mk watch.world) (List.append_nil _).symm

/-- A call that emits one event, after it recorded other entries. -/
theorem follows_emitEvent
    {clock : Nat → Int} {earlier : List AuditEntry} (report : DriftReport)
    (component : observer.componentName = watch.observer.componentName)
    (logged : observer.auditLog = earlier.foldl AuditLog.append watch.observer.auditLog)
    (bus : observer.eventBus = watch.observer.eventBus) :
    CallFollows watch
      ⟨(observer.emitEvent clock report watch.world).2.1,
        (observer.emitEvent clock report watch.world).2.2.1,
        watch.warnings ++ (observer.emitEvent clock report watch.world).2.2.2⟩
      { entries := earlier ++ [eventEntry watch.observer.componentName
          (eventOf report (clock observer.readings)) (clock (observer.readings + 1))]
        events := [eventOf report (clock observer.readings)] } where
  component := component
  logged := by
    rw [List.foldl_append, ← logged, ← component]
    rfl
  handlers := by
    rw [List.append_nil]
    exact congrArg EventBus.handlers bus
  told := by
    simp only [NotifyingObserver.emitEvent, EventBus.emit, EventBus.dispatch_eq_deliverAll,
      deliveries, List.flatMap_singleton, bus]

variable (text : PyText) (clock : Nat → Int)

/-- Every call ends in one of the ways, and adds what that way adds. -/
theorem does_call (watch : Watch World) (asked : ObserverCall World) :
    ∃ effect, Does text watch.observer.componentName asked (watch.call text clock asked).1 effect ∧
      CallFollows watch (watch.call text clock asked).2 effect ∧
      ((∀ entry, asked ≠ .logAudit entry) →
        OwnTimes clock watch (watch.call text clock asked).2 effect) := by
  have still := stamped_nil clock watch.observer.readings
  cases asked with
  | register registrant =>
      cases registrant with
      | handler handler =>
          refine ⟨_, .registers handler, ⟨rfl, rfl, rfl, ?_⟩, fun _ => still⟩
          exact congrArg (Prod.mk watch.world) (List.append_nil _).symm
      | other typeName =>
          exact ⟨_, .refuses typeName, follows_quietly rfl rfl rfl, fun _ => still⟩
  | detectDrift desired actual =>
      simp only [Watch.call, NotifyingObserver.detectDrift]
      rcases detectDrift_cases clock watch.observer.toStructuralObserver desired actual with
        ⟨differs, refused⟩ | ⟨report, observed, detected⟩
      · rw [refused]
        exact ⟨_, .mismatched differs, follows_quietly rfl rfl rfl, fun _ => still⟩
      · rw [detected]
        exact ⟨_, .detects ⟨_, observed⟩ ⟨_, rfl⟩, follows_quietly rfl rfl rfl,
          fun _ => stamped_one rfl⟩
  | detectDriftBatch pairs =>
      simp only [Watch.call, NotifyingObserver.detectDriftBatch]
      rcases detectDriftBatch_cases clock watch.observer.toStructuralObserver pairs with
        ⟨refused, unchanged⟩ | ⟨batch, tally, after, reports, entries, detected, same, batched⟩
      · rw [unchanged]
        exact ⟨_, .refusesBatch refused, follows_quietly rfl rfl rfl, fun _ => still⟩
      · rw [detected]
        exact ⟨_, .detectsBatch batched.reported batched.entered (same.trans batched.kept),
          follows_quietly batched.component batched.logged rfl, fun _ => batched.stamped⟩
  | emitEvent report =>
      exact ⟨_, .emits report _ _,
        @follows_emitEvent _ watch watch.observer clock [] report rfl rfl rfl,
        fun _ => stamped_one rfl⟩
  | logAudit entry =>
      exact ⟨_, .logs entry, follows_quietly rfl rfl rfl, fun own => absurd rfl (own entry)⟩
  | detectDriftActivity desired collected =>
      simp only [Watch.call]
      rcases detectDriftActivity_cases text clock watch.observer desired collected watch.world with
        ⟨error, undetected, unchanged⟩ | ⟨report, detected, emitted⟩
      · rw [unchanged]
        rw [List.append_nil]
        exact ⟨_, .fails undetected, follows_quietly rfl rfl rfl, fun _ => still⟩
      · rw [emitted]
        refine ⟨_, .checks detected ⟨_, rfl⟩ _ _,
          @follows_emitEvent _ watch (watch.observer.recorded clock report) clock [_] report
            rfl rfl rfl, fun _ => ?_⟩
        exact (stamped_one rfl).append (stamped_one rfl)

/-! ## Runs -/

/-- The calls of a run, their answers and what each of them adds. -/
inductive RunDoes (text : PyText) (component : String) :
    List (ObserverCall World) → List ObserverAnswer → List (CallEffect World) → Prop where
  | nil : RunDoes text component [] [] []
  | cons {asked : ObserverCall World} {answer : ObserverAnswer} {effect : CallEffect World}
      {calls : List (ObserverCall World)} {answers : List ObserverAnswer}
      {effects : List (CallEffect World)} (does : Does text component asked answer effect)
      (rest : RunDoes text component calls answers effects) :
      RunDoes text component (asked :: calls) (answer :: answers) (effect :: effects)

/-- The entries of a run, in their order. -/
def recordOf (effects : List (CallEffect World)) : List AuditEntry :=
  effects.flatMap CallEffect.entries

/-- What a run leaves, by what its calls add. -/
structure RunFollows (watch last : Watch World) (effects : List (CallEffect World)) : Prop where
  component : last.observer.componentName = watch.observer.componentName
  logged : last.observer.auditLog =
    (recordOf effects).foldl AuditLog.append watch.observer.auditLog
  handlers : last.observer.eventBus.handlers =
    watch.observer.eventBus.handlers ++ effects.flatMap CallEffect.subscribed
  told : (last.world, last.warnings) =
    let told := deliverAll (deliveriesOf watch.observer.eventBus.handlers effects) watch.world
    (told.1, watch.warnings ++ told.2)

theorem CallFollows.cons
    {watch next last : Watch World} {effect : CallEffect World} {effects : List (CallEffect World)}
    (first : CallFollows watch next effect) (rest : RunFollows next last effects) :
    RunFollows watch last (effect :: effects) where
  component := rest.component.trans first.component
  logged := by
    rw [rest.logged, first.logged, recordOf, recordOf, List.flatMap_cons, List.foldl_append]
  handlers := by
    rw [rest.handlers, first.handlers, List.flatMap_cons, List.append_assoc]
  told := by
    obtain ⟨world, warnings⟩ := Prod.mk.inj first.told
    rw [rest.told, world, warnings, first.handlers, deliveriesOf, deliverAll_append]
    simp only [List.append_assoc]

/-- A run adds what its calls add, each in one of its ways. -/
theorem watch_follows (watch : Watch World) (calls : List (ObserverCall World)) :
    ∃ effects, RunDoes text watch.observer.componentName calls
        (watch.run text clock calls).1 effects ∧
      RunFollows watch (watch.run text clock calls).2 effects ∧
      ((∀ entry, .logAudit entry ∉ calls) →
        StampedWithin clock watch.observer.readings (recordOf effects)
          (watch.run text clock calls).2.observer.readings) := by
  induction calls generalizing watch with
  | nil =>
      refine ⟨[], .nil, ⟨rfl, rfl, (List.append_nil _).symm, ?_⟩,
        fun _ => stamped_nil clock watch.observer.readings⟩
      exact congrArg (Prod.mk watch.world) (List.append_nil _).symm
  | cons asked rest induction =>
      obtain ⟨effect, does, follows, own⟩ := does_call text clock watch asked
      obtain ⟨effects, accounts, after, stamped⟩ := induction (watch.call text clock asked).2
      rw [follows.component] at accounts
      refine ⟨effect :: effects, .cons does accounts, follows.cons after, ?_⟩
      intro without
      rw [recordOf, List.flatMap_cons]
      exact (own fun entry same => without entry (same ▸ List.mem_cons_self)).append
        (stamped fun entry member => without entry (List.mem_cons_of_mem _ member))

end Snapl.Observability
