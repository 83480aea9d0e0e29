import Snapl.Orchestrator.Schedules

/-!
# What a schedule call does

A call of a schedule function finds a schedule, or none, and changes it in one
way at most.  `change?` says which, and what is recorded of it.  Run on its
own, the call leaves the world as it was, or makes its change, and records it
if the audit log stores the event.
-/

namespace Snapl.Orchestrator.Schedules

open Snapl.Library Snapl.Intent

/-! ## Calls -/

/-- A call of one of the six functions that change a schedule. -/
inductive Call where
  | ensure (useCaseId taskQueue actor : String) (interval : Duration)
  | set (useCaseId : String) (mode : DriftResponseMode) (actor : String)
  | pause (useCaseId reason actor : String)
  | resume (useCaseId actor : String) (note : Option String)
  | trigger (useCaseId actor : String)
  | delete (useCaseId actor : String)
deriving DecidableEq

namespace Call

def useCaseId : Call → String
  | ensure useCaseId _ _ _ => useCaseId
  | set useCaseId _ _ => useCaseId
  | pause useCaseId _ _ => useCaseId
  | resume useCaseId _ _ => useCaseId
  | trigger useCaseId _ => useCaseId
  | delete useCaseId _ => useCaseId

def actor : Call → String
  | ensure _ _ actor _ => actor
  | set _ _ actor => actor
  | pause _ _ actor => actor
  | resume _ actor _ => actor
  | trigger _ actor => actor
  | delete _ actor => actor

/-- The call starts a run, and changes no schedule. -/
def triggers : Call → Bool
  | trigger _ _ => true
  | _ => false

/-- The schedule a call is about. -/
def scheduleId (call : Call) : String := driftScheduleId call.useCaseId

/-- The requests of a call, without its result. -/
def script (text : PyText) : Call → Operation Unit
  | ensure useCaseId taskQueue actor interval => do
      let _ ← ensureDriftSchedule text useCaseId taskQueue actor interval
  | set useCaseId mode actor => do
      let _ ← setDriftResponse text useCaseId mode actor
  | pause useCaseId reason actor => pauseDriftSchedule text useCaseId reason actor
  | resume useCaseId actor note => resumeDriftSchedule text useCaseId actor note
  | trigger useCaseId actor => do
      let _ ← triggerDriftSchedule text useCaseId actor
  | delete useCaseId actor => deleteDriftSchedule text useCaseId actor

end Call

/-! ## Changes -/

/-- A change of one schedule: the request that makes it, and what is recorded. -/
structure Change where
  request : Request
  schedule : Option Schedule
  record : Option (ScheduleChange × List (String × Json))
  /-- How many requests the call makes before it turns to the audit log. -/
  before : Nat

/-- The change of a request about a schedule that exists. -/
def foundChange
    (request : Request) (schedule : Option Schedule) (change : ScheduleChange)
    (payload : List (String × Json)) (before : Nat) : Option Change :=
  some ⟨request, schedule, some (change, payload), before⟩

/-- The change a call makes of what it finds, if it makes one. -/
def Call.change? (setting : Setting) : Call → Option Schedule → Option Change
  | .ensure useCaseId taskQueue _ interval, current => do
      let id := driftScheduleId useCaseId
      let schedule ← (buildDriftSchedule useCaseId interval taskQueue .report).toOption
      match current with
      | none =>
          foundChange (.createSchedule id schedule) (some schedule) .created
            [("interval_seconds", .int (totalSeconds interval)),
              ("mode", .str DriftResponseMode.report.value)] 1
      | some current => do
          let (previous, replacement) ← (intervalUpdater interval current).toOption
          let schedule ← replacement
          some ⟨.replace id schedule, some schedule,
            if previous ≠ some interval then
              some (.intervalChanged, [("from_seconds", .ofInt? (previous.map totalSeconds)),
                ("to_seconds", .int (totalSeconds interval))])
            else none, 3⟩
  | .set useCaseId mode _, current => do
      let id := driftScheduleId useCaseId
      let (previous, replacement) ← (modeUpdater useCaseId mode (← current)).toOption
      let schedule ← replacement
      foundChange (.replace id schedule) (some schedule) .responseChanged
        [("from", .str previous.value), ("to", .str mode.value)] 2
  | .pause useCaseId reason _, current => do
      let schedule ← current
      if hasReason reason then
        foundChange (.pause (driftScheduleId useCaseId) reason)
          (some { schedule with state := ⟨setting.pausedNote reason, true⟩ }) .paused
          [("reason", .str reason)] 1
      else none
  | .resume useCaseId _ note, current => do
      let schedule ← current
      foundChange (.unpause (driftScheduleId useCaseId) note)
        (some { schedule with state := ⟨setting.resumedNote note, false⟩ }) .resumed
        [("note", .ofString? note)] 1
  | .trigger useCaseId _, current => do
      let id := driftScheduleId useCaseId
      let schedule ← current
      let view ← (viewOf ⟨id, schedule, []⟩).toOption
      foundChange (.trigger id) (some schedule) .triggered [("mode", .str view.mode.value)] 2
  | .delete useCaseId _, current => do
      let _ ← current
      foundChange (.delete (driftScheduleId useCaseId)) none .deleted [] 1

/-- The schedule a call makes of what it finds. -/
def Call.effect (setting : Setting) (call : Call) (current : Option Schedule) : Option Schedule :=
  match call.change? setting current with
  | none => current
  | some change => change.schedule

theorem Call.effect_of_none
    {setting : Setting} {call : Call} {current : Option Schedule}
    (nothing : call.change? setting current = none) : call.effect setting current = current := by
  rw [Call.effect, nothing]

theorem Call.effect_of_some
    {setting : Setting} {call : Call} {current : Option Schedule} {change : Change}
    (found : call.change? setting current = some change) :
    call.effect setting current = change.schedule := by
  rw [Call.effect, found]

/-! ## Worlds -/

/-- The schedule stored under an identifier. -/
def World.schedule (world : World) (id : String) : Option Schedule :=
  (world.schedules id).map Entry.schedule

/-- Time has passed, and these events were stored. -/
def World.Logs (world after : World) (events : List AuditEvent) : Prop :=
  after = { world with ticks := after.ticks, events := world.events ++ events }

namespace World.Logs

variable {world after final : World} {events later : List AuditEvent}

theorem refl (world : World) : world.Logs world [] := by
  rw [World.Logs, List.append_nil]

theorem tick (world : World) : world.Logs world.tick [] := by
  rw [World.Logs, List.append_nil]
  rfl

theorem trans (first : world.Logs after events) (second : after.Logs final later) :
    world.Logs final (events ++ later) := by
  rw [World.Logs] at *
  rw [second, first, List.append_assoc]

theorem schedules (logs : world.Logs after events) : after.schedules = world.schedules := by
  rw [logs]

theorem schedule (logs : world.Logs after events) (id : String) :
    after.schedule id = world.schedule id := by
  rw [World.schedule, logs.schedules]
  rfl

theorem runs (logs : world.Logs after events) : after.runs = world.runs := by rw [logs]

theorem accepted (logs : world.Logs after events) : after.accepted = world.accepted := by
  rw [logs]

theorem log (logs : world.Logs after events) : after.events = world.events ++ events := by
  rw [logs]

end World.Logs

/-! ## Records -/

/-- The append stores the event. -/
def AppendFate.stores : AppendFate → Bool
  | .stored => true
  | .failed kept _ => kept

/-- What the log gains when a change is recorded from this tick on. -/
def recordedAt
    (setting : Setting) (tick : Nat) (useCaseId actor : String) (change : ScheduleChange)
    (payload : List (String × Json)) : List AuditEvent :=
  match AuditEvent.build (setting.circumstance tick).stamp.1 (driftScheduleId useCaseId)
      "DriftSchedule" (setting.circumstance tick).stamp.2
      (changeBody useCaseId actor change payload) with
  | .error _ => []
  | .ok event => if (setting.circumstance (tick + 1)).append.stores then [event] else []

/-- What the log gains of a change, if anything is to be recorded of it. -/
def Change.recorded
    (setting : Setting) (call : Call) (tick : Nat) (change : Change) : List AuditEvent :=
  match change.record with
  | none => []
  | some (kind, payload) =>
      recordedAt setting (tick + change.before) call.useCaseId call.actor kind payload

section Requests

variable {setting : Setting} {world : World}

/-- The client's own identifier and time, and nothing else. -/
theorem stamp_meets :
    Program.Meets (Script.run (serve setting) Ask.stamp) world fun ending after =>
      ending = .ok (setting.circumstance world.ticks).stamp ∧
        after.ticks = world.ticks + 1 ∧ world.Logs after [] :=
  ⟨rfl, rfl, World.Logs.tick world⟩

theorem append_meets (event : AuditEvent) :
    Program.Meets (Script.run (serve setting) (Ask.append event)) world fun _ after =>
      world.Logs after
        (if (setting.circumstance world.ticks).append.stores then [event] else []) := by
  refine (Script.meets_run_asks _ _).2 ((Script.meets_run_ends _).2 ?_)
  simp only [serve, Setting.now]
  rcases (setting.circumstance world.ticks).append with _ | ⟨kept, message⟩
  · rfl
  · rcases kept with _ | _
    · exact World.Logs.tick world
    · rfl

theorem recordChange_meets
    (useCaseId actor : String) (change : ScheduleChange) (payload : List (String × Json)) :
    Program.Meets (Script.run (serve setting) (recordChange useCaseId actor change payload)) world
      fun _ after =>
        world.Logs after (recordedAt setting world.ticks useCaseId actor change payload) := by
  refine Script.meets_run_bind stamp_meets ?_ ?_
  · rintro stamp stamped ⟨given, ticks, passed⟩
    cases given
    rw [recordedAt]
    rcases AuditEvent.build (setting.circumstance world.ticks).stamp.1
      (driftScheduleId useCaseId) "DriftSchedule" (setting.circumstance world.ticks).stamp.2
      (changeBody useCaseId actor change payload) with error | event
    · exact passed
    · show Program.Meets (Script.run (serve setting) (Ask.append event >>= _)) stamped _
      refine Script.meets_run_bind (append_meets event) ?_ ?_
      · intro answer after stored
        rw [ticks] at stored
        exact passed.trans stored
      · intro failure after stored
        rw [ticks] at stored
        exact passed.trans stored
  · rintro failure after ⟨impossible, -⟩
    cases impossible

end Requests

/-! ## Changes of the world -/

/-- A changing request was accepted, and one schedule is what it makes of it. -/
structure World.Changes
    (world after : World) (request : Request) (id : String) (schedule : Option Schedule) :
    Prop where
  schedule : after.schedule id = schedule
  others : ∀ other, other ≠ id → after.schedules other = world.schedules other
  accepted : after.accepted = world.accepted ++ [request]
  events : after.events = world.events

theorem World.Changes.of_logs
    {world middle after : World} {request : Request} {id : String} {schedule : Option Schedule}
    (changes : middle.Changes after request id schedule) (logs : world.Logs middle []) :
    world.Changes after request id schedule where
  schedule := changes.schedule
  others := by
    intro other different
    rw [changes.others other different, logs.schedules]
  accepted := by rw [changes.accepted, logs.accepted]
  events := by rw [changes.events, logs.log, List.append_nil]

/-- No request is refused that is served at these ticks. -/
def Setting.Grants (setting : Setting) (start count : Nat) : Prop :=
  ∀ offset < count, (setting.circumstance (start + offset)).refusal = none

namespace Setting.Grants

variable {setting : Setting} {start first second count : Nat}

theorem one : setting.Grants start 1 ↔ (setting.circumstance start).refusal = none := by
  constructor
  · intro grants
    exact grants 0 Nat.one_pos
  · intro granted offset bound
    rw [Nat.lt_one_iff.1 bound]
    exact granted

theorem add
    (grants : setting.Grants start first) (more : setting.Grants (start + first) second) :
    setting.Grants start (first + second) := by
  intro offset bound
  by_cases early : offset < first
  · exact grants offset early
  · have late := more (offset - first) (by omega)
    rwa [show start + first + (offset - first) = start + offset by omega] at late

theorem take (grants : setting.Grants start count) (fewer : first ≤ count) :
    setting.Grants start first := fun offset bound => grants offset (by omega)

theorem drop (grants : setting.Grants start (first + second)) :
    setting.Grants (start + first) second := by
  intro offset bound
  rw [Nat.add_assoc]
  exact grants (first + offset) (by omega)

end Setting.Grants

/-- A request about a schedule fails for one of these reasons. -/
def Setting.Denies (setting : Setting) (world : World) (id : String) : Prop :=
  ¬setting.Grants world.ticks 1 ∨ world.schedule id = none

/-- A call made its change, and recorded it if the log stores the event. -/
structure Applied (setting : Setting) (call : Call) (change : Change) (world after : World) :
    Prop where
  found : call.change? setting (world.schedule call.scheduleId) = some change
  granted : setting.Grants world.ticks change.before
  schedule : after.schedule call.scheduleId = change.schedule
  others : ∀ other, other ≠ call.scheduleId → after.schedules other = world.schedules other
  accepted : after.accepted = world.accepted ++ [change.request]
  events : after.events = world.events ++ change.recorded setting call world.ticks

/-- What the run of a call comes to. -/
inductive Outcome
    (setting : Setting) (call : Call) (world : World) : Except ScheduleError Unit → World → Prop
  | same {ending : Except ScheduleError Unit} {after : World}
      (logs : world.Logs after [])
      (idle : call.change? setting (world.schedule call.scheduleId) = none ∨
        call.triggers = true ∨
        (∃ change, call.change? setting (world.schedule call.scheduleId) = some change ∧
            ¬setting.Grants world.ticks change.before) ∧
          ∃ error, ending = .error error) :
      Outcome setting call world ending after
  | applied {ending : Except ScheduleError Unit} {after : World} {change : Change}
      (applied : Applied setting call change world after) :
      Outcome setting call world ending after

theorem Outcome.unchanged
    {setting : Setting} {call : Call} {world after : World} {ending : Except ScheduleError Unit}
    (logs : world.Logs after [])
    (nothing : call.change? setting (world.schedule call.scheduleId) = none) :
    Outcome setting call world ending after :=
  .same logs (Or.inl nothing)

theorem Outcome.refused
    {setting : Setting} {call : Call} {world after : World} {change : Change}
    {error : ScheduleError} (logs : world.Logs after [])
    (found : call.change? setting (world.schedule call.scheduleId) = some change)
    (refuses : ¬setting.Grants world.ticks change.before) :
    Outcome setting call world (.error error) after :=
  .same logs (Or.inr (Or.inr ⟨⟨change, found, refuses⟩, error, rfl⟩))

section Runs

variable {setting : Setting} {world : World} {text : PyText} {useCaseId actor : String}

theorem found_eq_ok
    {id : String} {entry : Entry} (found : setting.found id world = .ok entry) :
    world.schedules id = some entry := by
  rcases refusal : (setting.now world).refusal with _ | error
  · rcases stored : world.schedules id with _ | other
    · simp [Setting.found, refusal, stored] at found
    · simpa [Setting.found, refusal, stored] using found
  · simp [Setting.found, refusal] at found

theorem grants_of_found
    {id : String} {entry : Entry} (found : setting.found id world = .ok entry) :
    setting.Grants world.ticks 1 := by
  rcases refusal : (setting.now world).refusal with _ | error
  · exact Setting.Grants.one.2 refusal
  · simp [Setting.found, refusal] at found

theorem not_grants_of_refusal
    {error : RpcError} (refused : (setting.now world).refusal = some error) :
    ¬setting.Grants world.ticks 1 := by
  intro grants
  rw [Setting.now, Setting.Grants.one.1 grants] at refused
  cases refused

theorem denies_of_found
    {id : String} {error : RpcError} (found : setting.found id world = .error error) :
    setting.Denies world id := by
  rcases refusal : (setting.now world).refusal with _ | refusing
  · refine Or.inr ?_
    rcases stored : world.schedules id with _ | entry
    · rw [World.schedule, stored]
      rfl
    · simp [Setting.found, refusal, stored] at found
  · exact Or.inl (not_grants_of_refusal refusal)

/-- Describing a schedule changes nothing. -/
theorem ask_describe_meets (id : String) :
    Program.Meets (Script.run (serve setting) (Ask.describe id)) world fun ending after =>
      after.ticks = world.ticks + 1 ∧ world.Logs after [] ∧
        ((∃ error, ending = .ok (.error error) ∧ setting.Denies world id) ∨
          ∃ entry, world.schedules id = some entry ∧ setting.Grants world.ticks 1 ∧
            ending = .ok (.ok ⟨id, entry.schedule, entry.running⟩)) := by
  refine Script.meets_run_ask.2 ⟨rfl, World.Logs.tick world, ?_⟩
  simp only [serve]
  rcases found : setting.found id world with error | entry
  · exact Or.inl ⟨error, rfl, denies_of_found found⟩
  · exact Or.inr ⟨entry, found_eq_ok found, grants_of_found found, rfl⟩

theorem describeDriftSchedule_meets :
    Program.Meets (Script.run (serve setting) (describeDriftSchedule text useCaseId)) world
      fun ending after =>
        after.ticks = world.ticks + 1 ∧ world.Logs after [] ∧
          (((∃ error, ending = .error error) ∧ setting.Denies world (driftScheduleId useCaseId)) ∨
            ∃ entry, world.schedules (driftScheduleId useCaseId) = some entry ∧
              setting.Grants world.ticks 1 ∧
              ending = viewOf ⟨driftScheduleId useCaseId, entry.schedule, entry.running⟩) := by
  refine Script.meets_run_bind (ask_describe_meets _) ?_ ?_
  · rintro answer after
      ⟨ticks, logs, ⟨error, refused, denied⟩ | ⟨entry, stored, granted, described⟩⟩
    · cases refused
      exact ⟨ticks, logs, Or.inl ⟨⟨_, rfl⟩, denied⟩⟩
    · cases described
      exact ⟨ticks, logs, Or.inr ⟨entry, stored, granted, rfl⟩⟩
  · rintro failure after ⟨-, -, ⟨error, refused, -⟩ | ⟨entry, -, -, described⟩⟩
    · cases refused
    · cases described

/-- A request about a schedule is refused, or makes this change of what it finds. -/
def Requests
    (setting : Setting) (requested : Operation (Except RpcError Unit)) (request : Request)
    (id : String) (effect : Schedule → Option Schedule) : Prop :=
  ∀ world, Program.Meets (Script.run (serve setting) requested) world fun ending after =>
    after.ticks = world.ticks + 1 ∧
      (((∃ error, ending = .ok (.error error)) ∧ world.Logs after [] ∧
          setting.Denies world id) ∨
        ∃ current, world.schedule id = some current ∧ setting.Grants world.ticks 1 ∧
          ending = .ok (.ok ()) ∧ world.Changes after request id (effect current))

theorem schedule_of_stored {id : String} {entry : Entry} (stored : world.schedules id = some entry) :
    world.schedule id = some entry.schedule := by
  rw [World.schedule, stored]
  rfl

theorem requests_of_acceptFound
    {requested : Operation (Except RpcError Unit)} {request : Request} {id : String}
    {change : Entry → Option Entry} {effect : Schedule → Option Schedule}
    (serves : ∀ world, Script.run (serve setting) requested world =
      (.ok (acceptFound setting request id change world).1,
        (acceptFound setting request id change world).2))
    (effective : ∀ entry, (change entry).map Entry.schedule = effect entry.schedule) :
    Requests setting requested request id effect := by
  intro world
  rw [Program.Meets, Program.ending, Program.final, serves, acceptFound]
  rcases found : setting.found id world with error | entry
  · exact ⟨rfl, Or.inl ⟨⟨error, rfl⟩, World.Logs.tick world, denies_of_found found⟩⟩
  · refine ⟨rfl, Or.inr ⟨entry.schedule, schedule_of_stored (found_eq_ok found),
      grants_of_found found, rfl, ?_⟩⟩
    constructor
    · rw [← effective]
      simp [World.schedule, World.accept]
    · intro other different
      exact Function.update_of_ne different _ _
    · rfl
    · rfl

theorem requests_pause (id note : String) :
    Requests setting (Ask.pause id note) (.pause id note) id fun schedule =>
      some { schedule with state := ⟨setting.pausedNote note, true⟩ } :=
  requests_of_acceptFound (fun _ => rfl) fun _ => rfl

theorem requests_unpause (id : String) (note : Option String) :
    Requests setting (Ask.unpause id note) (.unpause id note) id fun schedule =>
      some { schedule with state := ⟨setting.resumedNote note, false⟩ } :=
  requests_of_acceptFound (fun _ => rfl) fun _ => rfl

theorem requests_delete (id : String) :
    Requests setting (Ask.delete id) (.delete id) id fun _ => none :=
  requests_of_acceptFound (fun _ => rfl) fun _ => rfl

theorem requests_replace (id : String) (schedule : Schedule) :
    Requests setting (Ask.replace id schedule) (.replace id schedule) id fun _ => some schedule :=
  requests_of_acceptFound (fun _ => rfl) fun _ => rfl

/-- A firing changes no schedule, whether a run starts or is skipped. -/
theorem fire_fields
    {id : String} {entry : Entry} (runId : String) (stored : world.schedules id = some entry) :
    (world.fire id runId entry).schedule id = some entry.schedule ∧
      (∀ other, other ≠ id → (world.fire id runId entry).schedules other = world.schedules other) ∧
      (world.fire id runId entry).accepted = world.accepted ∧
      (world.fire id runId entry).events = world.events ∧
      (world.fire id runId entry).ticks = world.ticks := by
  rw [World.fire]
  split_ifs
  · refine ⟨by simp [World.schedule, World.start], ?_, rfl, rfl, rfl⟩
    intro other different
    exact Function.update_of_ne different _ _
  · exact ⟨schedule_of_stored stored, fun _ _ => rfl, rfl, rfl, rfl⟩

/-- A trigger that is accepted changes no schedule. -/
theorem requests_trigger (id : String) :
    Requests setting (Ask.trigger id) (.trigger id) id some := by
  intro world
  refine Script.meets_run_ask.2 ?_
  simp only [serve]
  rcases found : setting.found id world with error | entry
  · exact ⟨rfl, Or.inl ⟨⟨error, rfl⟩, World.Logs.tick world, denies_of_found found⟩⟩
  · have stored : (world.tick.accept (.trigger id) id (some entry)).schedules id = some entry :=
      Function.update_self _ _ _
    obtain ⟨schedule, others, accepted, events, ticks⟩ :=
      fire_fields (setting.now world).runId stored
    refine ⟨ticks, Or.inr ⟨entry.schedule, schedule_of_stored (found_eq_ok found),
      grants_of_found found, rfl, ?_⟩⟩
    refine ⟨schedule, ?_, accepted, events⟩
    intro other different
    exact (others other different).trans (Function.update_of_ne different _ _)

/-- A change that is recorded. -/
theorem applied_of_logs
    {call : Call} {change : Change} {after final : World} {kind : ScheduleChange}
    {payload : List (String × Json)}
    (found : call.change? setting (world.schedule call.scheduleId) = some change)
    (granted : setting.Grants world.ticks change.before)
    (changes : world.Changes after change.request call.scheduleId change.schedule)
    (ticks : after.ticks = world.ticks + change.before)
    (record : change.record = some (kind, payload))
    (logs : after.Logs final
      (recordedAt setting after.ticks call.useCaseId call.actor kind payload)) :
    Applied setting call change world final where
  found := found
  granted := granted
  schedule := by rw [logs.schedule, changes.schedule]
  others := by
    intro other different
    rw [logs.schedules, changes.others other different]
  accepted := by rw [logs.accepted, changes.accepted]
  events := by rw [logs.log, changes.events, ticks, Change.recorded, record]

/-- A request is refused, or makes its change, which is then recorded. -/
theorem requestAndRecord_meets
    {requested : Operation (Except RpcError Unit)} {request : Request} {id : String}
    {effect : Schedule → Option Schedule} (requests : Requests setting requested request id effect)
    (change : ScheduleChange) (payload : List (String × Json)) :
    Program.Meets
      (Script.run (serve setting)
        (requestAndRecord text useCaseId actor requested change payload)) world
      fun ending after =>
        ((∃ error, ending = .error error) ∧ world.Logs after [] ∧ setting.Denies world id) ∨
          ∃ current middle, world.schedule id = some current ∧ setting.Grants world.ticks 1 ∧
            middle.ticks = world.ticks + 1 ∧ world.Changes middle request id (effect current) ∧
            middle.Logs after
              (recordedAt setting middle.ticks useCaseId actor change payload) := by
  refine Script.meets_run_bind (requests world) ?_ ?_
  · rintro answer middle
      ⟨ticks, ⟨⟨error, refused⟩, logs, denied⟩ | ⟨current, found, granted, accepted, changes⟩⟩
    · cases refused
      exact Or.inl ⟨⟨_, rfl⟩, logs, denied⟩
    · cases accepted
      show Program.Meets (Script.run (serve setting) (recordChange useCaseId actor change payload))
        middle _
      refine (recordChange_meets useCaseId actor change payload).mono ?_
      intro ending after logs
      exact Or.inr ⟨current, middle, found, granted, ticks, changes, logs⟩
  · rintro failure after ⟨-, ⟨⟨error, refused⟩, -⟩ | ⟨current, -, -, accepted, -⟩⟩
    · cases refused
    · cases accepted

/-- An update keeps the schedule, or replaces it by what the updater makes of it. -/
theorem update_meets
    {Seen : Type} {translate : RpcError → ScheduleError} {updater : Updater Seen} :
    Program.Meets (Script.run (serve setting) (update useCaseId translate updater)) world
      fun ending after =>
        (world.Logs after [] ∧
          ((∃ current seen, world.schedule (driftScheduleId useCaseId) = some current ∧
              updater current = .ok (seen, none) ∧ ending = .ok seen) ∨
            (∃ error, ending = .error error) ∧
              ((¬setting.Grants world.ticks 2 ∨
                  world.schedule (driftScheduleId useCaseId) = none) ∨
                ∃ current error, world.schedule (driftScheduleId useCaseId) = some current ∧
                  updater current = .error error))) ∨
        ∃ current seen schedule, world.schedule (driftScheduleId useCaseId) = some current ∧
          updater current = .ok (seen, some schedule) ∧ ending = .ok seen ∧
          setting.Grants world.ticks 2 ∧ after.ticks = world.ticks + 2 ∧
          world.Changes after (.replace (driftScheduleId useCaseId) schedule)
            (driftScheduleId useCaseId) (some schedule) := by
  refine Script.meets_run_bind (ask_describe_meets _) ?_ ?_
  · rintro answer described
      ⟨ticks, logs, ⟨error, refused, denied⟩ | ⟨entry, stored, granted, found⟩⟩
    · cases refused
      have denied' := denied.imp_left fun refuses grants =>
        refuses (Setting.Grants.take grants (show 1 ≤ 2 by omega))
      exact Or.inl ⟨logs, Or.inr ⟨⟨_, rfl⟩, Or.inl denied'⟩⟩
    · cases found
      have current := schedule_of_stored stored
      show Program.Meets (Script.run (serve setting)
        (Script.ofExcept (updater entry.schedule) >>= _)) described _
      rcases updated : updater entry.schedule with error | ⟨seen, _ | schedule⟩
      · exact Or.inl ⟨logs, Or.inr ⟨⟨_, rfl⟩, Or.inr ⟨_, error, current, updated⟩⟩⟩
      · exact Or.inl ⟨logs, Or.inl ⟨_, seen, current, updated, rfl⟩⟩
      · show Program.Meets (Script.run (serve setting)
          (Ask.replace (driftScheduleId useCaseId) schedule >>= _)) described _
        refine Script.meets_run_bind (requests_replace _ schedule described) ?_ ?_
        · rintro answer after
            ⟨later, ⟨⟨error, refused⟩, kept, denied⟩ | ⟨other, -, more, accepted, changes⟩⟩
          · cases refused
            rw [Setting.Denies, logs.schedule, ticks] at denied
            have denied' := denied.imp_left fun refuses grants =>
              refuses (Setting.Grants.drop grants)
            exact Or.inl ⟨logs.trans kept, Or.inr ⟨⟨_, rfl⟩, Or.inl denied'⟩⟩
          · cases accepted
            have passed : after.ticks = world.ticks + 2 := by omega
            rw [ticks] at more
            exact Or.inr ⟨entry.schedule, seen, schedule, current, updated, rfl,
              granted.add more, passed, changes.of_logs logs⟩
        · rintro failure after ⟨-, ⟨⟨error, refused⟩, -⟩ | ⟨other, -, -, accepted, -⟩⟩
          · cases refused
          · cases accepted
  · rintro failure after ⟨-, -, ⟨error, refused, -⟩ | ⟨entry, -, -, described⟩⟩
    · cases refused
    · cases described

end Runs

/-! ## The outcome of a call -/

section Outcomes

variable {setting : Setting} {world : World} {text : PyText}

theorem recordWhen_meets
    {changed : Bool} {useCaseId actor : String} {change : ScheduleChange}
    {payload : List (String × Json)} :
    Program.Meets
      (Script.run (serve setting)
        (recordWhen changed (recordChange useCaseId actor change payload))) world
      fun _ after => world.Logs after
        (if changed then recordedAt setting world.ticks useCaseId actor change payload else []) := by
  rcases changed with _ | _
  · exact World.Logs.refl world
  · exact recordChange_meets useCaseId actor change payload

/-- What is left of a call after its change only reads. -/
theorem reads_after
    {useCaseId : String} {record : Operation Unit} {events : List AuditEvent}
    (recorded : Program.Meets (Script.run (serve setting) record) world fun _ after =>
      world.Logs after events) :
    Program.Meets
      (Script.run (serve setting) (record >>= fun _ => describeDriftSchedule text useCaseId)) world
      fun _ after => world.Logs after events := by
  refine Script.meets_run_bind recorded ?_ fun _ _ logs => logs
  intro _ middle logs
  refine describeDriftSchedule_meets.mono ?_
  rintro view after ⟨-, passed, -⟩
  have both := logs.trans passed
  rwa [List.append_nil] at both

/-- A call that makes a request and records it. -/
theorem outcome_of_requests
    {call : Call} {requested : Operation (Except RpcError Unit)} {request : Request}
    {effect : Schedule → Option Schedule} {kind : ScheduleChange}
    {payload : List (String × Json)}
    (requests : Requests setting requested request call.scheduleId effect)
    (changes : ∀ current, call.change? setting (some current) =
      foundChange request (effect current) kind payload 1)
    (absent : call.change? setting none = none) :
    Program.Meets
      (Script.run (serve setting)
        (requestAndRecord text call.useCaseId call.actor requested kind payload)) world
      (Outcome setting call world) := by
  refine (requestAndRecord_meets requests kind payload).mono ?_
  rintro ending after
    (⟨⟨error, rfl⟩, logs, denied⟩ | ⟨current, middle, found, granted, ticks, changed, logs⟩)
  · rcases found : world.schedule call.scheduleId with _ | current
    · refine .unchanged logs ?_
      rw [found, absent]
    · have refuses : ¬setting.Grants world.ticks 1 :=
        denied.resolve_right fun missing => by
          rw [found] at missing
          cases missing
      have change := (congrArg (call.change? setting) found).trans (changes current)
      exact .refused logs change refuses
  · have found' : call.change? setting (world.schedule call.scheduleId) =
        some ⟨request, effect current, some (kind, payload), 1⟩ := by
      rw [found, changes]
      rfl
    exact .applied (applied_of_logs found' granted changed ticks rfl logs)

theorem pause_outcome (useCaseId reason actor : String) :
    Program.Meets (Script.run (serve setting) ((Call.pause useCaseId reason actor).script text))
      world (Outcome setting (.pause useCaseId reason actor) world) := by
  rw [Call.script, pauseDriftSchedule]
  split_ifs with reasoned
  · have changes : ∀ current, (Call.pause useCaseId reason actor).change? setting (some current) =
        foundChange (.pause (driftScheduleId useCaseId) reason)
          (some { current with state := ⟨setting.pausedNote reason, true⟩ }) .paused
          [("reason", .str reason)] 1 := by
      intro current
      simp [Call.change?, reasoned]
    exact @outcome_of_requests setting world text (.pause useCaseId reason actor) _ _ _ _ _
      (requests_pause (driftScheduleId useCaseId) reason) changes rfl
  · refine .unchanged (World.Logs.refl world) ?_
    rcases world.schedule _ with _ | current
    · rfl
    · simp [Call.change?, reasoned]

theorem resume_outcome (useCaseId actor : String) (note : Option String) :
    Program.Meets (Script.run (serve setting) ((Call.resume useCaseId actor note).script text))
      world (Outcome setting (.resume useCaseId actor note) world) :=
  @outcome_of_requests setting world text (.resume useCaseId actor note) _ _ _ _ _
    (requests_unpause (driftScheduleId useCaseId) note) (fun _ => rfl) rfl

theorem delete_outcome (useCaseId actor : String) :
    Program.Meets (Script.run (serve setting) ((Call.delete useCaseId actor).script text))
      world (Outcome setting (.delete useCaseId actor) world) :=
  @outcome_of_requests setting world text (.delete useCaseId actor) _ _ _ _ _
    (requests_delete (driftScheduleId useCaseId)) (fun _ => rfl) rfl

/-- A schedule is created only where there is none. -/
theorem createSchedule_meets (id : String) (schedule : Schedule) :
    Program.Meets (Script.run (serve setting) (Ask.createSchedule id schedule)) world
      fun ending after =>
        after.ticks = world.ticks + 1 ∧
          (((∃ error, ending = .ok (.error (.rpcError error))) ∧ world.Logs after [] ∧
              ¬setting.Grants world.ticks 1) ∨
            (ending = .ok (.error .alreadyRunning) ∧ world.Logs after [] ∧
              setting.Grants world.ticks 1 ∧ world.schedule id ≠ none) ∨
            world.schedule id = none ∧ setting.Grants world.ticks 1 ∧ ending = .ok (.ok ()) ∧
              world.Changes after (.createSchedule id schedule) id (some schedule)) := by
  refine Script.meets_run_ask.2 ?_
  simp only [serve]
  rcases refused : (setting.now world).refusal with _ | error
  · rcases stored : world.schedules id with _ | entry
    · refine ⟨rfl, Or.inr (Or.inr ⟨?_, Setting.Grants.one.2 refused, rfl, ?_, ?_, rfl, rfl⟩)⟩
      · rw [World.schedule, stored]
        rfl
      · simp [World.schedule, World.accept]
      · intro other different
        exact Function.update_of_ne different _ _
    · refine ⟨rfl, Or.inr (Or.inl ⟨rfl, World.Logs.tick world, Setting.Grants.one.2 refused, ?_⟩)⟩
      rw [schedule_of_stored stored]
      nofun
  · exact ⟨rfl, Or.inl ⟨⟨error, rfl⟩, World.Logs.tick world, not_grants_of_refusal refused⟩⟩

/-- A call that forgets what its operation returns. -/
theorem outcome_forget
    {Result : Type} {call : Call} {operation : Operation Result}
    (meets : Program.Meets (Script.run (serve setting) operation) world fun ending after =>
      Outcome setting call world (ending.map fun _ => ()) after) :
    Program.Meets
      (Script.run (serve setting) (do
        let _ ← operation)) world (Outcome setting call world) :=
  Script.meets_run_bind meets (fun _ _ outcome => outcome) fun _ _ outcome => outcome

theorem Applied.mono
    {call : Call} {change : Change} {after final : World}
    (applied : Applied setting call change world after) (logs : after.Logs final []) :
    Applied setting call change world final where
  found := applied.found
  granted := applied.granted
  schedule := by rw [logs.schedule, applied.schedule]
  others := by
    intro other different
    rw [logs.schedules, applied.others other different]
  accepted := by rw [logs.accepted, applied.accepted]
  events := by rw [logs.log, applied.events, List.append_nil]

/-- An updated schedule, recorded or not, that is then described. -/
theorem updated_outcome
    (call : Call) {change : Change} {middle : World} {changed : Bool} {kind : ScheduleChange}
    {payload : List (String × Json)}
    (found : call.change? setting (world.schedule call.scheduleId) = some change)
    (granted : setting.Grants world.ticks change.before)
    (changes : world.Changes middle change.request call.scheduleId change.schedule)
    (ticks : middle.ticks = world.ticks + change.before)
    (record : change.record = if changed then some (kind, payload) else none) :
    Program.Meets
      (Script.run (serve setting) (do
        recordWhen changed (recordChange call.useCaseId call.actor kind payload)
        describeDriftSchedule text call.useCaseId)) middle
      fun _ after => Applied setting call change world after := by
  refine (reads_after recordWhen_meets).mono ?_
  intro _ after logs
  refine ⟨found, granted, ?_, ?_, ?_, ?_⟩
  · rw [logs.schedule, changes.schedule]
  · intro other different
    rw [logs.schedules, changes.others other different]
  · rw [logs.accepted, changes.accepted]
  · rw [logs.log, changes.events, ticks, Change.recorded, record]
    rcases changed with _ | _
    · rfl
    · rfl

section Ensure

variable {useCaseId taskQueue actor : String} {interval : Duration} {schedule : Schedule}
variable (built : buildDriftSchedule useCaseId interval taskQueue .report = .ok schedule)

include built

theorem change?_ensure_absent :
    (Call.ensure useCaseId taskQueue actor interval).change? setting none =
      some ⟨.createSchedule (driftScheduleId useCaseId) schedule, some schedule,
        some (.created, [("interval_seconds", .int (totalSeconds interval)),
          ("mode", .str DriftResponseMode.report.value)]), 1⟩ := by
  rw [Call.change?, built]
  rfl

theorem change?_ensure_kept
    {current : Schedule} {seen : Option Duration}
    (kept : intervalUpdater interval current = .ok (seen, none)) :
    (Call.ensure useCaseId taskQueue actor interval).change? setting (some current) = none := by
  rw [Call.change?, built]
  show ((intervalUpdater interval current).toOption.bind _) = none
  rw [kept]
  rfl

theorem change?_ensure_updated
    {current replacement : Schedule} {seen : Option Duration}
    (updated : intervalUpdater interval current = .ok (seen, some replacement)) :
    (Call.ensure useCaseId taskQueue actor interval).change? setting (some current) =
      some ⟨.replace (driftScheduleId useCaseId) replacement, some replacement,
        if seen ≠ some interval then
          some (.intervalChanged, [("from_seconds", .ofInt? (seen.map totalSeconds)),
            ("to_seconds", .int (totalSeconds interval))])
        else none, 3⟩ := by
  rw [Call.change?, built]
  show ((intervalUpdater interval current).toOption.bind _) = _
  rw [updated]
  rfl

end Ensure

/-- The interval's updater does not fail. -/
theorem intervalUpdater_ok (interval : Duration) (current : Schedule) :
    ∃ replacement, intervalUpdater interval current =
      .ok (current.spec.intervals.head?, replacement) := by
  rw [intervalUpdater]
  split_ifs
  · exact ⟨none, rfl⟩
  · exact ⟨some _, rfl⟩

/-- Ensuring a schedule changes nothing, or makes one request or more first. -/
theorem ensure_change
    {useCaseId taskQueue actor : String} {interval : Duration} {schedule : Schedule}
    (built : buildDriftSchedule useCaseId interval taskQueue .report = .ok schedule)
    (found : Option Schedule) :
    (Call.ensure useCaseId taskQueue actor interval).change? setting found = none ∨
      ∃ change, (Call.ensure useCaseId taskQueue actor interval).change? setting found =
        some change ∧ 1 ≤ change.before := by
  rcases found with _ | current
  · exact Or.inr ⟨_, change?_ensure_absent built, Nat.le_refl 1⟩
  · obtain ⟨_ | replacement, updates⟩ := intervalUpdater_ok interval current
    · exact Or.inl (change?_ensure_kept built updates)
    · exact Or.inr ⟨_, change?_ensure_updated built updates, show 1 ≤ 3 by omega⟩

/-- The schedule exists: its interval is updated. -/
theorem ensure_updates
    {useCaseId taskQueue actor : String} {interval : Duration} {schedule : Schedule}
    {asked : World} (built : buildDriftSchedule useCaseId interval taskQueue .report = .ok schedule)
    (logs : world.Logs asked []) (ticks : asked.ticks = world.ticks + 1)
    (granted : setting.Grants world.ticks 1)
    (present : world.schedule (driftScheduleId useCaseId) ≠ none) :
    Program.Meets
      (Script.run (serve setting)
        (update useCaseId .rpcError (intervalUpdater interval) >>= fun previous =>
          recordWhen (previous ≠ some interval)
            (recordChange useCaseId actor .intervalChanged
              [("from_seconds", .ofInt? (previous.map totalSeconds)),
                ("to_seconds", .int (totalSeconds interval))]) >>= fun _ =>
            describeDriftSchedule text useCaseId)) asked
      fun ending after =>
        Outcome setting (.ensure useCaseId taskQueue actor interval) world
          (ending.map fun _ => ()) after := by
  have same : asked.schedule (driftScheduleId useCaseId) =
      world.schedule (driftScheduleId useCaseId) := logs.schedule _
  refine Script.meets_run_bind update_meets ?_ ?_
  · rintro previous updated
      (⟨kept, ⟨current, seen, found, idle, returned⟩ | ⟨⟨error, raised⟩, -⟩⟩ |
        ⟨current, seen, replacement, found, replaced, returned, more, later, changes⟩)
    · cases returned
      -- nothing to change: the interval seen is the interval asked for
      have unchanged : previous = some interval := by
        rw [intervalUpdater] at idle
        split_ifs at idle with equal
        · rw [← equal.1]
          exact (congrArg Prod.fst (Except.ok.inj idle)).symm
        · cases idle
      have nothing : (Call.ensure useCaseId taskQueue actor interval).change? setting
          (world.schedule (driftScheduleId useCaseId)) = none := by
        rw [← same, found]
        exact change?_ensure_kept built idle
      have quiet : decide (previous ≠ some interval) = false := by simp [unchanged]
      rw [quiet]
      refine (reads_after recordWhen_meets).mono ?_
      intro ending after read
      exact .unchanged ((logs.trans kept).trans read) nothing
    · cases raised
    · cases returned
      have change := (congrArg
        ((Call.ensure useCaseId taskQueue actor interval).change? setting)
        (same.symm.trans found)).trans (change?_ensure_updated built replaced)
      have passed : updated.ticks = world.ticks + 3 := by omega
      rw [ticks] at more
      refine (updated_outcome (.ensure useCaseId taskQueue actor interval) change
        (granted.add more) (changes.of_logs logs) passed ?_).mono
        fun _ _ applied => .applied applied
      simp
  · rintro failure updated
      (⟨kept, ⟨current, seen, found, idle, returned⟩ |
          ⟨-, (refuses | missing) | ⟨current, error, -, failed⟩⟩⟩ |
        ⟨current, seen, replacement, found, replaced, returned, -⟩)
    · cases returned
    · obtain ⟨current, found⟩ := Option.ne_none_iff_exists'.1 present
      obtain ⟨_ | replacement, updates⟩ := intervalUpdater_ok interval current
      · refine .unchanged (logs.trans kept) ?_
        exact (congrArg ((Call.ensure useCaseId taskQueue actor interval).change? setting)
          found).trans (change?_ensure_kept built updates)
      · have change := (congrArg
          ((Call.ensure useCaseId taskQueue actor interval).change? setting) found).trans
          (change?_ensure_updated built updates)
        refine .refused (logs.trans kept) change fun grants => refuses ?_
        rw [ticks]
        exact Setting.Grants.drop grants
    · exact absurd (same.symm.trans missing) present
    · obtain ⟨replacement, updates⟩ := intervalUpdater_ok interval current
      rw [updates] at failed
      cases failed
    · cases returned

theorem ensure_outcome (useCaseId taskQueue actor : String) (interval : Duration) :
    Program.Meets
      (Script.run (serve setting) ((Call.ensure useCaseId taskQueue actor interval).script text))
      world (Outcome setting (.ensure useCaseId taskQueue actor interval) world) := by
  refine outcome_forget ?_
  rw [ensureDriftSchedule]
  rcases built : buildDriftSchedule useCaseId interval taskQueue .report with error | schedule
  · refine .unchanged (World.Logs.refl world) ?_
    rw [Call.change?, built]
    rfl
  show Program.Meets (Script.run (serve setting)
    (Ask.createSchedule (driftScheduleId useCaseId) schedule >>= _)) world _
  refine Script.meets_run_bind (createSchedule_meets _ _) ?_ ?_
  · rintro answer asked ⟨ticks, ⟨⟨error, refused⟩, logs, refuses⟩ |
      ⟨running, logs, granted, present⟩ | ⟨missing, granted, accepted, changes⟩⟩
    · cases refused
      rcases ensure_change built (world.schedule (driftScheduleId useCaseId)) with
        nothing | ⟨change, found, before⟩
      · exact .unchanged logs nothing
      · exact .refused logs found fun grants => refuses (grants.take before)
    · cases running
      exact ensure_updates built logs ticks granted present
    · cases accepted
      have change := (congrArg
        ((Call.ensure useCaseId taskQueue actor interval).change? setting) missing).trans
        (change?_ensure_absent built)
      have meets : Program.Meets
          (Script.run (serve setting)
            (recordWhen true (recordChange useCaseId actor .created
              [("interval_seconds", .int (totalSeconds interval)),
                ("mode", .str DriftResponseMode.report.value)]) >>= fun _ =>
              describeDriftSchedule text useCaseId)) asked _ :=
        updated_outcome (.ensure useCaseId taskQueue actor interval) change granted changes ticks
          rfl
      exact meets.mono fun _ _ applied => .applied applied
  · rintro failure after ⟨-, ⟨⟨error, refused⟩, -⟩ | ⟨running, -⟩ | ⟨-, -, accepted, -⟩⟩
    · cases refused
    · cases running
    · cases accepted

section SetResponse

variable {useCaseId actor : String} {mode : DriftResponseMode} {current : Schedule}

theorem change?_set_kept
    {seen : DriftResponseMode} (kept : modeUpdater useCaseId mode current = .ok (seen, none)) :
    (Call.set useCaseId mode actor).change? setting (some current) = none := by
  show ((modeUpdater useCaseId mode current).toOption.bind _) = none
  rw [kept]
  rfl

theorem change?_set_failed
    {error : ScheduleError} (failed : modeUpdater useCaseId mode current = .error error) :
    (Call.set useCaseId mode actor).change? setting (some current) = none := by
  show ((modeUpdater useCaseId mode current).toOption.bind _) = none
  rw [failed]
  rfl

theorem change?_set_updated
    {seen : DriftResponseMode} {replacement : Schedule}
    (updated : modeUpdater useCaseId mode current = .ok (seen, some replacement)) :
    (Call.set useCaseId mode actor).change? setting (some current) =
      some ⟨.replace (driftScheduleId useCaseId) replacement, some replacement,
        some (.responseChanged, [("from", .str seen.value), ("to", .str mode.value)]), 2⟩ := by
  show ((modeUpdater useCaseId mode current).toOption.bind _) = _
  rw [updated]
  rfl

/-- A schedule is replaced when its mode is another one. -/
theorem modeUpdater_replaces
    {seen : DriftResponseMode} {replacement : Option Schedule}
    (updated : modeUpdater useCaseId mode current = .ok (seen, replacement)) :
    replacement = none ↔ seen = mode := by
  rw [modeUpdater] at updated
  rcases decoded : current.action.args with error | request
  · rw [decoded] at updated
    cases updated
  · rw [decoded] at updated
    change (if request.mode = mode then (Except.ok (request.mode, none) :
      Except ScheduleError (DriftResponseMode × Option Schedule)) else _) = _ at updated
    split_ifs at updated with same
    · cases updated
      simp [same]
    · rcases acted : action useCaseId mode current.action.taskQueue with error | rebuilt
      · rw [acted] at updated
        cases updated
      · rw [acted] at updated
        cases updated
        simp [same]

end SetResponse

theorem set_outcome (useCaseId : String) (mode : DriftResponseMode) (actor : String) :
    Program.Meets (Script.run (serve setting) ((Call.set useCaseId mode actor).script text)) world
      (Outcome setting (.set useCaseId mode actor) world) := by
  refine outcome_forget (Script.meets_run_bind update_meets ?_ ?_)
  · rintro previous updated
      (⟨kept, ⟨current, seen, found, idle, returned⟩ | ⟨⟨error, raised⟩, -⟩⟩ |
        ⟨current, seen, replacement, found, replaced, returned, granted, later, changes⟩)
    · cases returned
      have quiet : decide (previous ≠ mode) = false := by
        simp [(modeUpdater_replaces idle).1 rfl]
      have nothing := (congrArg ((Call.set useCaseId mode actor).change? setting) found).trans
        (change?_set_kept idle)
      rw [quiet]
      refine (reads_after recordWhen_meets).mono ?_
      intro ending after read
      exact .unchanged (kept.trans read) nothing
    · cases raised
    · cases returned
      have differs : decide (previous ≠ mode) = true := by
        have other : previous ≠ mode := fun same => by
          cases (modeUpdater_replaces replaced).2 same
        exact decide_eq_true other
      have change := (congrArg ((Call.set useCaseId mode actor).change? setting) found).trans
        (change?_set_updated replaced)
      rw [differs]
      exact (updated_outcome (.set useCaseId mode actor) change granted changes later rfl).mono
        fun _ _ applied => .applied applied
  · rintro failure updated
      (⟨kept, ⟨current, seen, found, idle, returned⟩ |
          ⟨-, (refuses | missing) | ⟨current, error, found, failed⟩⟩⟩ |
        ⟨current, seen, replacement, found, replaced, returned, -⟩)
    · cases returned
    · rcases found : world.schedule (driftScheduleId useCaseId) with _ | current
      · exact .unchanged kept (congrArg ((Call.set useCaseId mode actor).change? setting) found)
      · rcases updates : modeUpdater useCaseId mode current with error | ⟨seen, _ | replacement⟩
        · exact .unchanged kept
            ((congrArg ((Call.set useCaseId mode actor).change? setting) found).trans
              (change?_set_failed updates))
        · exact .unchanged kept
            ((congrArg ((Call.set useCaseId mode actor).change? setting) found).trans
              (change?_set_kept updates))
        · have change := (congrArg ((Call.set useCaseId mode actor).change? setting) found).trans
            (change?_set_updated updates)
          exact .refused kept change refuses
    · exact .unchanged kept (congrArg ((Call.set useCaseId mode actor).change? setting) missing)
    · exact .unchanged kept
        ((congrArg ((Call.set useCaseId mode actor).change? setting) found).trans
          (change?_set_failed failed))
    · cases returned

section Trigger

variable {useCaseId actor : String} {current : Schedule}

/-- A view says of the runs in progress what the description says, and nothing else of them. -/
theorem viewOf_running
    {id : String} {schedule : Schedule} {running : List String} {view : DriftScheduleView}
    (viewed : viewOf ⟨id, schedule, running⟩ = .ok view) :
    viewOf ⟨id, schedule, []⟩ = .ok { view with running := [] } := by
  rw [viewOf] at viewed ⊢
  rcases intervals : schedule.spec.intervals with _ | ⟨interval, rest⟩
  · simp only [intervals] at viewed
    cases viewed
  · rcases decoded : schedule.action.args with error | request
    · simp only [intervals, decoded] at viewed
      cases viewed
    · simp only [intervals, decoded] at viewed ⊢
      cases viewed
      rfl

/-- A description that cannot be read cannot be read whatever runs are in progress. -/
theorem viewOf_error
    {id : String} {schedule : Schedule} {running : List String} {error : ScheduleError}
    (failed : viewOf ⟨id, schedule, running⟩ = .error error) :
    viewOf ⟨id, schedule, []⟩ = .error error := by
  rw [viewOf] at failed ⊢
  rcases intervals : schedule.spec.intervals with _ | ⟨interval, rest⟩
  · simp only [intervals] at failed ⊢
    exact failed
  · rcases decoded : schedule.action.args with error | request
    · simp only [intervals, decoded] at failed ⊢
      exact failed
    · simp only [intervals, decoded] at failed
      cases failed

theorem change?_trigger
    {running : List String} {view : DriftScheduleView}
    (viewed : viewOf ⟨driftScheduleId useCaseId, current, running⟩ = .ok view) :
    (Call.trigger useCaseId actor).change? setting (some current) =
      some ⟨.trigger (driftScheduleId useCaseId), some current,
        some (.triggered, [("mode", .str view.mode.value)]), 2⟩ := by
  show (viewOf _).toOption.bind _ = _
  rw [viewOf_running viewed]
  rfl

theorem change?_trigger_failed
    {error : ScheduleError}
    (failed : viewOf ⟨driftScheduleId useCaseId, current, []⟩ = .error error) :
    (Call.trigger useCaseId actor).change? setting (some current) = none := by
  show (viewOf _).toOption.bind _ = _
  rw [failed]
  rfl

/-- A trigger leaves the schedule as it is. -/
theorem effect_trigger (found : Option Schedule) :
    (Call.trigger useCaseId actor).effect setting found = found := by
  rcases found with _ | current
  · rfl
  · rcases viewed : viewOf ⟨driftScheduleId useCaseId, current, []⟩ with error | view
    · exact Call.effect_of_none (change?_trigger_failed viewed)
    · exact Call.effect_of_some (change?_trigger viewed)

end Trigger

/-- A call that has nothing to change, or triggers, has no effect. -/
theorem effect_of_idle
    {call : Call} {found : Option Schedule} {refuses : Prop}
    (idle : call.change? setting found = none ∨ call.triggers = true ∨ refuses) :
    call.effect setting found = found ∨ refuses := by
  rcases idle with nothing | triggers | refusal
  · exact Or.inl (Call.effect_of_none nothing)
  · cases call with
    | trigger useCaseId actor => exact Or.inl (effect_trigger found)
    | ensure | set | pause | resume | delete => cases triggers
  · exact Or.inr refusal

theorem trigger_outcome (useCaseId actor : String) :
    Program.Meets (Script.run (serve setting) ((Call.trigger useCaseId actor).script text)) world
      (Outcome setting (.trigger useCaseId actor) world) := by
  refine outcome_forget (Script.meets_run_bind describeDriftSchedule_meets ?_ ?_)
  · rintro view described
      ⟨ticks, logs, ⟨⟨error, raised⟩, -⟩ | ⟨entry, stored, granted, viewed⟩⟩
    · cases raised
    · split_ifs with running
      · exact .same logs (Or.inr (Or.inl rfl))
      · have current := schedule_of_stored stored
        have change := (congrArg ((Call.trigger useCaseId actor).change? setting) current).trans
          (change?_trigger viewed.symm)
        have requested : Program.Meets
            (Script.run (serve setting)
              (requestAndRecord text useCaseId actor (Ask.trigger (driftScheduleId useCaseId))
                .triggered [("mode", .str view.mode.value)])) described _ :=
          requestAndRecord_meets (requests_trigger _) _ _
        refine Script.meets_run_bind requested ?_ ?_
        · rintro result after
            (⟨⟨error, raised⟩, -⟩ | ⟨other, middle, found, more, later, changes, recorded⟩)
          · cases raised
          · have same : some other = some entry.schedule := by
              rw [← found, logs.schedule, current]
            cases same
            have passed : middle.ticks = world.ticks + 2 := by omega
            rw [ticks] at more
            exact .applied (applied_of_logs change (granted.add more) (changes.of_logs logs)
              passed rfl recorded)
        · rintro failure after
            (⟨-, kept, -⟩ | ⟨other, middle, found, more, later, changes, recorded⟩)
          · exact .same (logs.trans kept) (Or.inr (Or.inl rfl))
          · have same : some other = some entry.schedule := by
              rw [← found, logs.schedule, current]
            cases same
            have passed : middle.ticks = world.ticks + 2 := by omega
            rw [ticks] at more
            exact .applied (applied_of_logs change (granted.add more) (changes.of_logs logs)
              passed rfl recorded)
  · rintro failure after ⟨-, logs, -⟩
    exact .same logs (Or.inr (Or.inl rfl))

/-- A call leaves the world as it was, or makes its change and records it. -/
theorem call_outcome (call : Call) :
    Program.Meets (Script.run (serve setting) (call.script text)) world
      (Outcome setting call world) := by
  cases call with
  | ensure useCaseId taskQueue actor interval =>
      exact ensure_outcome useCaseId taskQueue actor interval
  | set useCaseId mode actor => exact set_outcome useCaseId mode actor
  | pause useCaseId reason actor => exact pause_outcome useCaseId reason actor
  | resume useCaseId actor note => exact resume_outcome useCaseId actor note
  | trigger useCaseId actor => exact trigger_outcome useCaseId actor
  | delete useCaseId actor => exact delete_outcome useCaseId actor

end Outcomes

end Snapl.Orchestrator.Schedules
