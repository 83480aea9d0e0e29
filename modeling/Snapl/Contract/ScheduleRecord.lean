import Snapl.Contract.SchedulePolicy

/-!
# The audit log as the schedule's history

While audit appends succeed, each call leaves one event exactly when it changed
something, and replaying the events of a use case gives back whether it has a
schedule, at which interval, in which mode, and whether it is paused.
-/

namespace Snapl.Orchestrator.Schedules

open Snapl.Library Snapl.Intent

/-! ## What a schedule stands at -/

/-- What an operator decides about a schedule. -/
structure Standing where
  interval : Duration
  mode : DriftResponseMode
  paused : Bool
deriving DecidableEq

def Schedule.standing? (schedule : Schedule) : Option Standing :=
  match schedule.spec.intervals, schedule.action.args with
  | interval :: _, .ok request => some ⟨interval, request.mode, schedule.state.paused⟩
  | _, _ => none

def World.standing? (world : World) (id : String) : Option Standing :=
  (world.schedule id).bind Schedule.standing?

theorem standing?_eq_some
    {schedule : Schedule} {interval : Duration} {rest : List Duration}
    {request : DriftResponseRequest} (timed : schedule.spec.intervals = interval :: rest)
    (decoded : schedule.action.args = .ok request) :
    schedule.standing? = some ⟨interval, request.mode, schedule.state.paused⟩ := by
  rw [Schedule.standing?, timed, decoded]

/-! ## Replaying the log -/

def allChanges : List ScheduleChange :=
  [.created, .intervalChanged, .responseChanged, .paused, .resumed, .triggered, .deleted]

/-- The change a recorded value names. -/
def change? : Json → Option ScheduleChange
  | .str text => allChanges.find? fun change => change.value = text
  | _ => none

/-- The duration of a recorded number of seconds. -/
def seconds? : Json → Option Duration
  | .int seconds => some (seconds * 1000000)
  | _ => none

/-- The mode a recorded value names. -/
def mode? : Json → Option DriftResponseMode
  | .str text => [DriftResponseMode.report, .remediate].find? fun mode => mode.value = text
  | _ => none

/-- A value of an event's payload. -/
def payloadValue (body : EventBody) (key : String) : Json := (body.payload.lookup key).getD .null

/-- What the standing becomes by a recorded change. -/
def replayChange (body : EventBody) (current : Option Standing) : ScheduleChange → Option Standing
  | .created => do
      return ⟨← seconds? (payloadValue body "interval_seconds"),
        ← mode? (payloadValue body "mode"), false⟩
  | .intervalChanged => do
      return { ← current with interval := ← seconds? (payloadValue body "to_seconds") }
  | .responseChanged => do return { ← current with mode := ← mode? (payloadValue body "to") }
  | .paused => current.map fun standing => { standing with paused := true }
  | .resumed => current.map fun standing => { standing with paused := false }
  | .triggered => current
  | .deleted => none

/-- Follow one event, if it is about this schedule. -/
def replayStep (id : String) (current : Option Standing) (event : AuditEvent) : Option Standing :=
  if event.workflowId = id ∧ event.eventType = .scheduleChanged then
    (change? (payloadValue event.toEventBody "change")).bind
      (replayChange event.toEventBody current)
  else current

/-- Where the events of a log leave a schedule. -/
def replay (id : String) (events : List AuditEvent) : Option Standing :=
  events.foldl (replayStep id) none

section Values

theorem change?_value (change : ScheduleChange) : change? (.str change.value) = some change := by
  cases change <;> decide

theorem mode?_value (mode : DriftResponseMode) : mode? (.str mode.value) = some mode := by
  cases mode <;> decide

/-- A duration of whole seconds. -/
def WholeSeconds (interval : Duration) : Prop := (1000000 : Int) ∣ interval

theorem seconds?_totalSeconds {interval : Duration} (whole : WholeSeconds interval) :
    seconds? (.int (totalSeconds interval)) = some interval := by
  rw [seconds?, totalSeconds, Int.tdiv_mul_cancel whole]

end Values

/-! ## Recorded events -/

/-- The event of a call's change: who changed what, and how. -/
structure Records
    (event : AuditEvent) (call : Call) (kind : ScheduleChange)
    (payload : List (String × Json)) : Prop where
  workflowId : event.workflowId = call.scheduleId
  workflowType : event.workflowType = "DriftSchedule"
  body : event.toEventBody = changeBody call.useCaseId call.actor kind payload

theorem changeBody_valid
    {actor : String} (named : actor ≠ "") (useCaseId : String) (change : ScheduleChange)
    (payload : List (String × Json)) : (changeBody useCaseId actor change payload).Valid where
  activity := nofun
  terminated := nofun
  outcome := nofun
  actor := by simp [changeBody, filled?, named]
  change := by
    intro _
    cases change <;> simp [changeBody, isScheduleChange, scheduleChanges, ScheduleChange.value]

/-- Every append stores its event. -/
def Setting.Appends (setting : Setting) : Prop :=
  ∀ tick, (setting.circumstance tick).append = .stored

/-- A recorded change is one event, which names the actor. -/
theorem recordedAt_eq
    {setting : Setting} (appends : setting.Appends) {call : Call} (named : call.actor ≠ "")
    (tick : Nat) (kind : ScheduleChange) (payload : List (String × Json)) :
    ∃ event, recordedAt setting tick call.useCaseId call.actor kind payload = [event] ∧
      Records event call kind payload := by
  have valid := changeBody_valid named call.useCaseId kind payload
  rw [recordedAt, AuditEvent.build_of_valid valid, appends (tick + 1)]
  exact ⟨_, rfl, rfl, rfl, rfl⟩

/-- Following the event of a change does what the event says. -/
theorem replayStep_records
    {event : AuditEvent} {call : Call} {kind : ScheduleChange} {payload : List (String × Json)}
    (records : Records event call kind payload) (current : Option Standing) :
    replayStep call.scheduleId current event =
      replayChange (changeBody call.useCaseId call.actor kind payload) current kind := by
  have changed : event.eventType = .scheduleChanged := by rw [records.body]; rfl
  have named : payloadValue (changeBody call.useCaseId call.actor kind payload) "change" =
      .str kind.value := by
    simp [payloadValue, changeBody]
  rw [replayStep, if_pos ⟨records.workflowId, changed⟩, records.body, named, change?_value]
  rfl

/-- Events about other schedules are passed over. -/
theorem replayStep_other
    {event : AuditEvent} {call : Call} {kind : ScheduleChange} {payload : List (String × Json)}
    (records : Records event call kind payload) {id : String} (other : id ≠ call.scheduleId)
    (current : Option Standing) : replayStep id current event = current := by
  refine if_neg fun same => other ?_
  rw [← same.1, records.workflowId]

/-! ## What a change records -/

/-- The schedule's interval, if it has one, is of whole seconds. -/
def Schedule.Whole (schedule : Schedule) : Prop :=
  ∀ interval ∈ schedule.spec.intervals, WholeSeconds interval

/-- An interval a call asks for is of whole seconds. -/
def Call.Whole : Call → Prop
  | .ensure _ _ _ interval => WholeSeconds interval
  | _ => True

section Makes

variable {setting : Setting} {call : Call} {current : Option Schedule} {change : Change}

theorem Conforms.standing?
    {useCaseId : String} {schedule : Schedule} (conforms : Conforms useCaseId schedule) :
    ∃ interval request, schedule.spec.intervals = [interval] ∧
      schedule.action.args = .ok request ∧
      schedule.standing? = some ⟨interval, request.mode, schedule.state.paused⟩ := by
  obtain ⟨request, decoded, -⟩ := conforms.request
  obtain ⟨interval, -, timed, -⟩ := conforms.interval
  exact ⟨interval, request, timed, decoded, standing?_eq_some timed decoded⟩

/-- A change of a conforming schedule is recorded. -/
theorem Makes.recorded
    (makes : Makes setting call current change)
    (conforming : ∀ schedule, current = some schedule → Conforms call.useCaseId schedule) :
    ∃ kind payload, change.record = some (kind, payload) := by
  cases makes with
  | retimed long outdated =>
      refine ⟨_, _, if_pos fun same => ?_⟩
      exact outdated same (conforming _ rfl).timeout
  | created long built => exact ⟨_, _, rfl⟩
  | switched decoded differs built => exact ⟨_, _, rfl⟩
  | paused reasoned => exact ⟨_, _, rfl⟩
  | resumed => exact ⟨_, _, rfl⟩
  | triggered viewed => exact ⟨_, _, rfl⟩
  | deleted => exact ⟨_, _, rfl⟩

/-- What is recorded of a change says what the schedule stands at after it. -/
theorem Makes.replayed
    (makes : Makes setting call current change)
    (conforming : ∀ schedule, current = some schedule → Conforms call.useCaseId schedule)
    (whole : call.Whole) {kind : ScheduleChange} {payload : List (String × Json)}
    (record : change.record = some (kind, payload)) :
    replayChange (changeBody call.useCaseId call.actor kind payload)
        (current.bind Schedule.standing?) kind =
      change.schedule.bind Schedule.standing? := by
  cases makes with
  | @created useCaseId taskQueue actor interval acted long built =>
      obtain ⟨request, -, reports, shape⟩ := action_eq_ok built
      have decoded : acted.args = .ok request := by rw [shape]
      have after : (freshSchedule interval acted).standing? =
          some ⟨interval, request.mode, false⟩ := standing?_eq_some rfl decoded
      cases record
      simp [replayChange, payloadValue, changeBody, List.lookup_cons, seconds?_totalSeconds whole,
        mode?_value, after, reports]
  | @retimed useCaseId taskQueue actor interval schedule long outdated =>
      obtain ⟨previous, request, timed, decoded, standing⟩ := (conforming _ rfl).standing?
      have after : (Schedules.retimed interval schedule).standing? =
          some ⟨interval, request.mode, schedule.state.paused⟩ := standing?_eq_some rfl decoded
      have different : schedule.spec.intervals.head? ≠ some interval :=
        fun same => outdated same (conforming _ rfl).timeout
      rw [if_pos different] at record
      cases record
      simp [replayChange, payloadValue, changeBody, List.lookup_cons, seconds?_totalSeconds whole,
        standing, after]
  | @switched useCaseId actor mode schedule request acted decoded differs built =>
      obtain ⟨previous, request, timed, decoded, standing⟩ := (conforming _ rfl).standing?
      obtain ⟨rebuilt, -, turned, shape⟩ := action_eq_ok built
      have decoded' : acted.args = .ok rebuilt := by rw [shape]
      have after : ({ schedule with action := acted } : Schedule).standing? =
          some ⟨previous, rebuilt.mode, schedule.state.paused⟩ := standing?_eq_some timed decoded'
      cases record
      simp [replayChange, payloadValue, changeBody, List.lookup_cons, mode?_value, standing, after,
        turned]
  | @paused useCaseId reason actor schedule reasoned =>
      obtain ⟨previous, request, timed, decoded, standing⟩ := (conforming _ rfl).standing?
      have after : ({ schedule with
            state := ⟨setting.pausedNote reason, true⟩ } : Schedule).standing? =
          some ⟨previous, request.mode, true⟩ := standing?_eq_some timed decoded
      cases record
      simp [replayChange, standing, after]
  | @resumed useCaseId actor note schedule =>
      obtain ⟨previous, request, timed, decoded, standing⟩ := (conforming _ rfl).standing?
      have after : ({ schedule with
            state := ⟨setting.resumedNote note, false⟩ } : Schedule).standing? =
          some ⟨previous, request.mode, false⟩ := standing?_eq_some timed decoded
      cases record
      simp [replayChange, standing, after]
  | triggered viewed =>
      cases record
      rfl
  | deleted =>
      cases record
      rfl

/-- A change keeps intervals of whole seconds. -/
theorem Makes.whole
    (makes : Makes setting call current change) (asked : call.Whole)
    (before : ∀ schedule, current = some schedule → schedule.Whole) :
    ∀ schedule, change.schedule = some schedule → schedule.Whole := by
  intro schedule made
  cases makes with
  | created long built =>
      cases made
      intro interval member
      rwa [List.mem_singleton.1 member]
  | retimed long outdated =>
      cases made
      intro interval member
      rwa [List.mem_singleton.1 member]
  | switched decoded differs built =>
      have former := before _ rfl
      cases made
      exact former
  | paused reasoned =>
      have former := before _ rfl
      cases made
      exact former
  | resumed =>
      have former := before _ rfl
      cases made
      exact former
  | triggered viewed =>
      have former := before _ rfl
      cases made
      exact former
  | deleted => cases made

/-- What is recorded as the former interval or mode is what the schedule stood at. -/
structure StatesBefore (payload : List (String × Json)) (before : Option Standing) : Prop where
  interval : ∀ value, payload.lookup "from_seconds" = some value →
    ∃ standing, before = some standing ∧ seconds? value = some standing.interval
  mode : ∀ value, payload.lookup "from" = some value →
    ∃ standing, before = some standing ∧ mode? value = some standing.mode

theorem Makes.statesBefore
    (makes : Makes setting call current change)
    (conforming : ∀ schedule, current = some schedule → Conforms call.useCaseId schedule)
    (whole : ∀ schedule, current = some schedule → schedule.Whole) {kind : ScheduleChange}
    {payload : List (String × Json)} (record : change.record = some (kind, payload)) :
    StatesBefore (("change", .str kind.value) :: payload) (current.bind Schedule.standing?) := by
  cases makes with
  | created long built =>
      cases record
      constructor <;> simp [List.lookup_cons, List.lookup_nil]
  | @retimed useCaseId taskQueue actor interval schedule long outdated =>
      obtain ⟨previous, request, timed, decoded, standing⟩ := (conforming _ rfl).standing?
      have different : schedule.spec.intervals.head? ≠ some interval :=
        fun same => outdated same (conforming _ rfl).timeout
      have former : WholeSeconds previous := whole _ rfl previous (by simp [timed])
      rw [if_pos different] at record
      cases record
      constructor
      · simp [List.lookup_cons, timed, standing, Json.ofInt?, seconds?_totalSeconds former]
      · simp [List.lookup_cons, List.lookup_nil]
  | @switched useCaseId actor mode schedule request acted decoded differs built =>
      obtain ⟨previous, stored, timed, decoded', standing⟩ := (conforming _ rfl).standing?
      cases decoded.symm.trans decoded'
      cases record
      constructor
      · simp [List.lookup_cons, List.lookup_nil]
      · simp [List.lookup_cons, standing, mode?_value]
  | paused reasoned =>
      cases record
      constructor <;> simp [List.lookup_cons, List.lookup_nil]
  | resumed =>
      cases record
      constructor <;> simp [List.lookup_cons, List.lookup_nil]
  | triggered viewed =>
      cases record
      constructor <;> simp [List.lookup_cons, List.lookup_nil]
  | deleted =>
      cases record
      constructor <;> simp [List.lookup_cons, List.lookup_nil]

/-- A call that updates a schedule, and may find nothing to change. -/
def Call.updates : Call → Bool
  | .ensure .. | .set .. => true
  | _ => false

/-- The interval and the mode a schedule stands at, if there is one. -/
def terms (standing : Option Standing) : Option (Duration × DriftResponseMode) :=
  standing.map fun standing => (standing.interval, standing.mode)

/-- An update that is made changes the interval or the mode. -/
theorem Makes.terms
    (makes : Makes setting call current change)
    (conforming : ∀ schedule, current = some schedule → Conforms call.useCaseId schedule)
    (updates : call.updates = true) :
    Schedules.terms (change.schedule.bind Schedule.standing?) ≠
      Schedules.terms (current.bind Schedule.standing?) := by
  cases makes with
  | @created useCaseId taskQueue actor interval acted long built =>
      obtain ⟨previous, request, timed, decoded, standing⟩ :=
        (Conforms.created long built).standing?
      simp [Schedules.terms, standing]
  | @retimed useCaseId taskQueue actor interval schedule long outdated =>
      obtain ⟨previous, request, timed, decoded, standing⟩ := (conforming _ rfl).standing?
      have after : (Schedules.retimed interval schedule).standing? =
          some ⟨interval, request.mode, schedule.state.paused⟩ := standing?_eq_some rfl decoded
      have different : interval ≠ previous := by
        rintro rfl
        exact outdated (by rw [timed]; rfl) (conforming _ rfl).timeout
      simp [Schedules.terms, standing, after, different]
  | @switched useCaseId actor mode schedule request acted decoded differs built =>
      obtain ⟨previous, stored, timed, decoded', standing⟩ := (conforming _ rfl).standing?
      cases decoded.symm.trans decoded'
      obtain ⟨rebuilt, -, turned, shape⟩ := action_eq_ok built
      have redecoded : acted.args = .ok rebuilt := by rw [shape]
      have after : ({ schedule with action := acted } : Schedule).standing? =
          some ⟨previous, rebuilt.mode, schedule.state.paused⟩ := standing?_eq_some timed redecoded
      have different : mode ≠ request.mode := differs.symm
      simp [Schedules.terms, standing, after, turned, different]
  | paused reasoned => cases updates
  | resumed => cases updates
  | triggered viewed => cases updates
  | deleted => cases updates

end Makes

/-! ## The log of a history -/

/-- Every stored interval is of whole seconds. -/
def World.Whole (world : World) : Prop :=
  ∀ id schedule, world.schedule id = some schedule → schedule.Whole

/-- What a call did has its record in the log. -/
structure Logged (world after : World) (call : Call) : Prop where
  effective :
    (∃ request, after.accepted = world.accepted ++ [request]) →
    (call.updates = true → terms (after.standing? call.scheduleId) ≠
      terms (world.standing? call.scheduleId)) →
    ∃ event kind payload, after.events = world.events ++ [event] ∧
      Records event call kind payload ∧ event.toEventBody.Valid ∧
      StatesBefore event.payload (world.standing? call.scheduleId)
  idle :
    ¬((∃ request, after.accepted = world.accepted ++ [request]) ∧
      (call.updates = true → terms (after.standing? call.scheduleId) ≠
        terms (world.standing? call.scheduleId))) →
    after.events = world.events

section Histories

variable {text : PyText} {setting : Setting}

/-- What holds of a world whose log tells the histories of its schedules. -/
structure World.Mirrored (world : World) : Prop where
  orderly : world.Orderly
  whole : world.Whole
  replayed : ∀ id, replay id world.events = world.standing? id

/-- A call whose changes are recorded. -/
structure Call.Recordable (call : Call) : Prop where
  named : call.actor ≠ ""
  whole : call.Whole

variable {world : World} {call : Call}

theorem World.Mirrored.conforming
    (mirrored : world.Mirrored) :
    ∀ schedule, world.schedule call.scheduleId = some schedule →
      Conforms call.useCaseId schedule := by
  intro schedule stored
  obtain ⟨useCaseId, identified, conforms⟩ := mirrored.orderly _ _ stored
  rwa [driftScheduleId_injective identified]

/-- A change that is made is one event, which says what was before and what is now. -/
theorem applied_event
    (appends : setting.Appends) (recordable : call.Recordable) (mirrored : world.Mirrored)
    {change : Change} {after : World} (applied : Applied setting call change world after) :
    ∃ event kind payload, after.events = world.events ++ [event] ∧
      Records event call kind payload ∧
      StatesBefore event.payload (world.standing? call.scheduleId) ∧
      replayStep call.scheduleId (world.standing? call.scheduleId) event =
        after.standing? call.scheduleId := by
  have makes := makes_of_change? applied.found
  have conforming : ∀ schedule, world.schedule call.scheduleId = some schedule →
      Conforms call.useCaseId schedule := mirrored.conforming
  obtain ⟨kind, payload, record⟩ := makes.recorded conforming
  obtain ⟨event, recorded, records⟩ :=
    recordedAt_eq appends recordable.named (world.ticks + change.before) kind payload
  refine ⟨event, kind, payload, ?_, records, ?_, ?_⟩
  · rw [applied.events, Change.recorded, record, ← recorded]
  · rw [records.body]
    exact makes.statesBefore conforming (fun schedule stored => mirrored.whole _ _ stored) record
  · rw [replayStep_records records, World.standing?, World.standing?, applied.schedule]
    exact makes.replayed conforming recordable.whole record

/-- A schedule that exists stands at something. -/
theorem World.Mirrored.standing?_eq_none (mirrored : world.Mirrored) (id : String) :
    world.standing? id = none ↔ world.schedule id = none := by
  rw [World.standing?]
  rcases stored : world.schedule id with _ | schedule
  · simp
  · obtain ⟨useCaseId, -, conforms⟩ := mirrored.orderly id schedule stored
    obtain ⟨interval, request, -, -, standing⟩ := conforms.standing?
    simp [standing]

theorem perform_logged
    (appends : setting.Appends) (recordable : call.Recordable) (mirrored : world.Mirrored) :
    Logged world (perform text setting world call) call := by
  rcases perform_cases world call with
    logs | ⟨change, applied⟩
  · constructor
    · rintro accepts -
      exact absurd accepts (not_accepts_of_logs logs)
    · intro _
      rw [logs.log, List.append_nil]
  · obtain ⟨event, kind, payload, events, records, before, -⟩ :=
      applied_event appends recordable mirrored applied
    constructor
    · rintro - -
      exact ⟨event, kind, payload, events, records, event.valid, before⟩
    · intro ineffective
      refine absurd ⟨⟨_, applied.accepted⟩, fun updates => ?_⟩ ineffective
      rw [World.standing?, applied.schedule]
      exact (makes_of_change? applied.found).terms mirrored.conforming updates

theorem perform_mirrored
    (appends : setting.Appends) (recordable : call.Recordable) (mirrored : world.Mirrored) :
    (perform text setting world call).Mirrored := by
  rcases perform_cases world call with
    logs | ⟨change, applied⟩
  · refine ⟨perform_orderly world call mirrored.orderly, ?_, ?_⟩
    · intro id schedule stored
      exact mirrored.whole id schedule ((logs.schedule id).symm.trans stored)
    · intro id
      rw [logs.log, List.append_nil, mirrored.replayed id, World.standing?, World.standing?,
        logs.schedule]
  · obtain ⟨event, kind, payload, events, records, -, step⟩ :=
      applied_event appends recordable mirrored applied
    refine ⟨perform_orderly world call mirrored.orderly, ?_, ?_⟩
    · intro id schedule stored
      by_cases same : id = call.scheduleId
      · subst same
        exact (makes_of_change? applied.found).whole recordable.whole
          (fun former found => mirrored.whole _ former found) schedule
          (applied.schedule.symm.trans stored)
      · exact mirrored.whole id schedule
          ((perform_others_schedule world call same).symm.trans stored)
    · intro id
      rw [replay, events, List.foldl_append, List.foldl_cons, List.foldl_nil, ← replay,
        mirrored.replayed id]
      by_cases same : id = call.scheduleId
      · rw [same]
        exact step
      · rw [replayStep_other records same, World.standing?, World.standing?,
          perform_others_schedule world call same]

theorem empty_mirrored : World.empty.Mirrored where
  orderly := empty_orderly
  whole := by
    intro id schedule stored
    rw [World.empty_schedule] at stored
    cases stored
  replayed := fun _ => rfl

theorem history_mirrored
    (appends : setting.Appends) (calls : List Call)
    (recordable : ∀ call ∈ calls, call.Recordable) :
    (history text setting calls).Mirrored :=
  history_invariant empty_mirrored
    (fun _ _ recordable mirrored => perform_mirrored appends recordable mirrored) calls recordable

/--
While appends succeed, every call of a history has its record in the log, and
the log replayed says where each schedule stands.
-/
theorem audit_log_is_history
    (text : PyText) (setting : Setting) (calls : List Call) (appends : setting.Appends)
    (recordable : ∀ call ∈ calls, call.Recordable) :
    (∀ before call after, calls = before ++ call :: after →
      Logged (history text setting before) (history text setting (before ++ [call])) call) ∧
    ∀ useCaseId, replay (driftScheduleId useCaseId) (history text setting calls).events =
        (history text setting calls).standing? (driftScheduleId useCaseId) ∧
      ((history text setting calls).standing? (driftScheduleId useCaseId) = none ↔
        (history text setting calls).schedule (driftScheduleId useCaseId) = none) := by
  have mirrored : (history text setting calls).Mirrored :=
    history_mirrored appends calls recordable
  refine ⟨?_, fun useCaseId => ⟨mirrored.replayed _, mirrored.standing?_eq_none _⟩⟩
  rintro before call after rfl
  have earlier : ∀ other ∈ before, other.Recordable :=
    fun other member => recordable other (List.mem_append_left _ member)
  rw [history_concat]
  exact perform_logged appends (recordable call (by simp)) (history_mirrored appends before earlier)

end Histories

theorem paused_repair_replays :
    replay (driftScheduleId "dc1")
      (history PyText.ascii Setting.plain
        [.ensure "dc1" "snapl" "ops" 300000000, .set "dc1" .remediate "ops",
          .pause "dc1" "maintenance" "ops"]).events =
      some ⟨300000000, .remediate, true⟩ := by
  refine ((audit_log_is_history PyText.ascii Setting.plain _ (fun _ => rfl) ?_).2 "dc1").1.trans ?_
  · simp only [List.forall_mem_cons]
    exact ⟨⟨by decide, 300, rfl⟩, ⟨by decide, trivial⟩, ⟨by decide, trivial⟩, nofun⟩
  · decide +kernel

end Snapl.Orchestrator.Schedules
