import Snapl.Contract.ScheduleRecord
import Snapl.Presentation.ScheduleOutcome

/-!
# Schedule changes and their records

A schedule command changes the schedule at Temporal first, and then appends the
event of the change to the audit log.  Nothing takes the change back if the
append fails.  What a command leaves behind agrees with what it recorded
exactly as far as a change that was accepted is also stored.
-/

namespace Snapl.Presentation

open Snapl.Library Snapl.Intent Snapl.Orchestrator Snapl.Orchestrator.Schedules

/-- What runs of a schedule may do, and when. -/
structure Policy where
  interval : Option Duration
  mode : Option DriftResponseMode
  paused : Bool
deriving DecidableEq

def policyOf (schedule : Schedule) : Policy where
  interval := schedule.spec.intervals.head?
  mode := schedule.action.args.toOption.map DriftResponseRequest.mode
  paused := schedule.state.paused

/-- A change of this kind lies between two policies. -/
def Policy.differs (before after : Policy) : ScheduleChange → Bool
  | .intervalChanged => before.interval ≠ after.interval
  | .responseChanged => before.mode ≠ after.mode
  | .paused => !before.paused && after.paused
  | .resumed => before.paused && !after.paused
  | .created | .deleted | .triggered => false

theorem policies_differ_iff {before after : Policy} :
    before ≠ after ↔ ∃ kind, before.differs after kind = true := by
  constructor
  · intro different
    by_cases interval : before.interval = after.interval
    · by_cases mode : before.mode = after.mode
      · have paused : before.paused ≠ after.paused := by
          intro same
          cases before
          cases after
          simp_all
        rcases was : before.paused with _ | _
        · exact ⟨.paused, by simp_all [Policy.differs]⟩
        · exact ⟨.resumed, by simp_all [Policy.differs]⟩
      · exact ⟨.responseChanged, by simp [Policy.differs, mode]⟩
    · exact ⟨.intervalChanged, by simp [Policy.differs, interval]⟩
  · rintro ⟨kind, differs⟩ rfl
    cases kind <;> simp [Policy.differs] at differs

/-- A change of this kind lies between what was stored and what is. -/
def differs (before after : Option Schedule) (kind : ScheduleChange) : Bool :=
  match before, after with
  | none, none => false
  | none, some _ => kind = .created
  | some _, none => kind = .deleted
  | some old, some new => (policyOf old).differs (policyOf new) kind

/-- Existence, interval, mode or paused flag differ where a change lies between. -/
theorem differs_iff (before after : Option Schedule) :
    before.map policyOf ≠ after.map policyOf ↔ ∃ kind, differs before after kind = true := by
  rcases before with _ | old
  · rcases after with _ | new
    · simp [differs]
    · simp [differs]
  · rcases after with _ | new
    · simp [differs]
    · show some (policyOf old) ≠ some (policyOf new) ↔ _
      rw [ne_eq, Option.some_inj]
      exact policies_differ_iff

/-- One of these events says who made a change of this kind to the schedule. -/
def RecordsChange
    (useCase actor : String) (kind : ScheduleChange) (events : List AuditEvent) : Prop :=
  ∃ event ∈ events, event.workflowId = driftScheduleId useCase ∧
    ∃ payload, event.toEventBody = changeBody useCase actor kind payload

section Recorded

variable {setting : Setting} {useCase actor : String} {kind : ScheduleChange}

theorem value_injective {first second : ScheduleChange} (same : first.value = second.value) :
    first = second := by
  have named := change?_value second
  rw [← same, change?_value first] at named
  exact Option.some.inj named

theorem changeBody_kind
    {first second : ScheduleChange} {payload other : List (String × Json)}
    (same : changeBody useCase actor first payload = changeBody useCase actor second other) :
    first = second := by
  have heads := congrArg EventBody.payload same
  simp only [changeBody, List.cons.injEq, Prod.mk.injEq, Json.str.injEq, true_and] at heads
  exact value_injective heads.1

theorem named_of_valid
    {payload : List (String × Json)} (valid : (changeBody useCase actor kind payload).Valid) :
    actor ≠ "" := by
  rintro rfl
  exact valid.actor rfl rfl

/-- What is recorded of a change is its event, if somebody is named and the log stores it. -/
theorem recordsChange_recordedAt
    {tick : Nat} {recorded : ScheduleChange} {payload : List (String × Json)} :
    RecordsChange useCase actor kind (recordedAt setting tick useCase actor recorded payload) ↔
      kind = recorded ∧ actor ≠ "" ∧ (setting.circumstance (tick + 1)).append.stores = true := by
  rw [recordedAt]
  by_cases valid : (changeBody useCase actor recorded payload).Valid
  · simp only [AuditEvent.build_of_valid valid]
    constructor
    · rintro ⟨event, member, -, other, body⟩
      split_ifs at member with stores
      · cases List.mem_singleton.1 member
        exact ⟨(changeBody_kind body).symm, named_of_valid valid, stores⟩
      · cases member
    · rintro ⟨rfl, -, stores⟩
      rw [if_pos stores]
      exact ⟨_, List.mem_singleton_self _, rfl, payload, rfl⟩
  · simp only [AuditEvent.build, dif_neg valid]
    constructor
    · rintro ⟨event, member, -⟩
      cases member
    · rintro ⟨-, named, -⟩
      exact absurd (changeBody_valid named useCase recorded payload) valid

end Recorded

/-- The call pauses what is paused, or resumes what is not. -/
def repeats (call : Call) (current : Option Schedule) : Bool :=
  match call, current with
  | .pause _ _ _, some schedule => schedule.state.paused
  | .resume _ _ _, some schedule => !schedule.state.paused
  | _, _ => false

/-- What differs after a call is what is to be recorded of it, unless it repeats what is. -/
theorem differs_of_makes
    {setting : Setting} {call : Call} {current : Option Schedule} {change : Change}
    (makes : Makes setting call current change) {kind : ScheduleChange} (policy : kind ≠ .triggered) :
    differs current change.schedule kind = true ↔
      (∃ payload, change.record = some (kind, payload)) ∧ repeats call current = false := by
  cases makes with
  | created long built => simp [differs, repeats, eq_comm]
  | @retimed _ _ _ interval current long outdated =>
      by_cases same : current.spec.intervals.head? = some interval
      · cases kind <;> simp [differs, Policy.differs, policyOf, retimed, repeats, same]
      · cases kind <;> simp [differs, Policy.differs, policyOf, retimed, repeats, same]
  | @switched _ _ mode current request acted decoded other built =>
      obtain ⟨switched, -, same, rfl⟩ := action_eq_ok built
      cases kind <;>
        simp [differs, Policy.differs, policyOf, repeats, decoded, Except.toOption, same, other]
  | @paused _ _ _ current reasoned =>
      cases kind <;> simp [differs, Policy.differs, policyOf, repeats]
  | @resumed _ _ _ current => cases kind <;> simp [differs, Policy.differs, policyOf, repeats]
  | triggered viewed =>
      cases kind <;> simp [differs, Policy.differs] at policy ⊢
  | deleted => simp [differs, repeats, eq_comm]

section Commands

variable (setting : Setting) (text : PyText) (desk : Desk) (command : ScheduleCommand)
variable (world : World)

/-- The world a command leaves. -/
def commanded : World := (Script.run (serve setting) (command.script text desk)).final world

/-- What differs after a command is what the log gained the event of. -/
def ChangesWithRecord : Prop :=
  ∀ kind, kind ≠ .triggered →
    (differs (world.schedule command.scheduleId)
        ((commanded setting text desk command world).schedule command.scheduleId) kind = true ↔
      RecordsChange command.useCase desk.actor kind
        ((commanded setting text desk command world).events.drop world.events.length))

/--
A change that the requests up to it are granted for is stored by an append in a
name, unless it repeats what is; then it is not stored.
-/
def StoresWhatIsAccepted : Prop :=
  ∀ call change kind payload,
    command.call? desk (world.schedule command.scheduleId) = some call →
    call.change? setting (world.schedule command.scheduleId) = some change →
    change.record = some (kind, payload) → kind ≠ .triggered →
    setting.Grants world.ticks (command.reads + change.before) →
    (repeats call (world.schedule command.scheduleId) = false ↔
      desk.actor ≠ "" ∧
        (setting.circumstance
          (world.ticks + command.reads + change.before + 1)).append.stores = true)

end Commands

section Exact

variable {setting : Setting} {text : PyText} {desk : Desk} {command : ScheduleCommand}
variable {world : World}

/-- The call of a command is about its schedule, in the name of its operator. -/
theorem call?_about
    {current : Option Schedule} {call : Call} (calls : command.call? desk current = some call) :
    call.useCaseId = command.useCase ∧ call.actor = desk.actor := by
  cases command with
  | create useCase every =>
      rcases every with failure | interval
      · cases calls
      · simp only [ScheduleCommand.call?] at calls
        split_ifs at calls
        cases calls
        exact ⟨rfl, rfl⟩
  | mode useCase name yes asJson =>
      simp only [ScheduleCommand.call?, Option.bind_eq_bind, Option.bind_eq_some_iff] at calls
      obtain ⟨target, -, view, -, calls⟩ := calls
      split_ifs at calls
      cases calls
      exact ⟨rfl, rfl⟩
  | pause useCase reason =>
      rcases given : reason.filter hasReason with _ | reason
      · simp only [ScheduleCommand.call?, given] at calls
        cases calls
      · simp only [ScheduleCommand.call?, given] at calls
        split_ifs at calls
        cases calls
        exact ⟨rfl, rfl⟩
  | resume useCase note =>
      simp only [ScheduleCommand.call?] at calls
      split_ifs at calls
      cases calls
      exact ⟨rfl, rfl⟩
  | trigger useCase yes =>
      simp only [ScheduleCommand.call?, Option.bind_eq_bind, Option.bind_eq_some_iff] at calls
      obtain ⟨view, -, calls⟩ := calls
      split_ifs at calls
      cases calls
      exact ⟨rfl, rfl⟩
  | delete useCase yes =>
      simp only [ScheduleCommand.call?] at calls
      split_ifs at calls
      cases calls
      exact ⟨rfl, rfl⟩

theorem differs_self (current : Option Schedule) (kind : ScheduleChange) :
    differs current current kind = false := by
  rcases current with _ | schedule
  · rfl
  · cases kind <;> simp [differs, Policy.differs]

theorem recordsChange_nil (useCase actor : String) (kind : ScheduleChange) :
    ¬RecordsChange useCase actor kind [] := by
  rintro ⟨event, member, -⟩
  cases member

/-- A command that only reads changes nothing and records nothing. -/
theorem changesWithRecord_of_logs
    (logs : world.Logs (commanded setting text desk command world) []) :
    ChangesWithRecord setting text desk command world := by
  intro kind _
  rw [logs.schedule, logs.log, List.append_nil, List.drop_length, differs_self]
  simp [recordsChange_nil]

theorem triggered_of_triggers
    {call : Call} {current : Option Schedule} {change : Change} (triggers : call.triggers = true)
    (found : call.change? setting current = some change) :
    ∃ payload, change.record = some (.triggered, payload) := by
  cases makes_of_change? found with
  | triggered viewed => exact ⟨_, rfl⟩
  | created | retimed | switched | paused | resumed | deleted => cases triggers

/-- A call that leaves everything as it was has no change that was accepted. -/
theorem storesWhatIsAccepted_of_idle
    {call : Call} {ticks : Nat} {error : Prop}
    (calls : command.call? desk (world.schedule command.scheduleId) = some call)
    (granted : ticks = world.ticks + command.reads)
    (idle : call.change? setting (world.schedule command.scheduleId) = none ∨
      call.triggers = true ∨
      (∃ change, call.change? setting (world.schedule command.scheduleId) = some change ∧
        ¬setting.Grants ticks change.before) ∧ error) :
    StoresWhatIsAccepted setting desk command world := by
  intro other change kind payload calls' found record policy accepted
  cases calls.symm.trans calls'
  rcases idle with nothing | triggers | ⟨⟨same, found', refuses⟩, -⟩
  · rw [nothing] at found
    cases found
  · obtain ⟨triggered, recorded⟩ := triggered_of_triggers triggers found
    rw [record] at recorded
    cases recorded
    exact absurd rfl policy
  · cases found.symm.trans found'
    rw [granted] at refuses
    exact absurd accepted.drop refuses

/-- What is recorded of a change, of what differs by it. -/
theorem recorded_iff
    {call : Call} {change : Change} {tick : Nat} {recorded kind : ScheduleChange}
    {payload : List (String × Json)} {current : Option Schedule}
    (about : call.useCaseId = command.useCase ∧ call.actor = desk.actor)
    (found : call.change? setting current = some change)
    (record : change.record = some (recorded, payload)) (policy : kind ≠ .triggered) :
    (differs current change.schedule kind = true ↔
        RecordsChange command.useCase desk.actor kind (change.recorded setting call tick)) ↔
      (kind = recorded → (repeats call current = false ↔
        desk.actor ≠ "" ∧
          (setting.circumstance (tick + change.before + 1)).append.stores = true)) := by
  have differ : differs current change.schedule kind = true ↔
      kind = recorded ∧ repeats call current = false := by
    have same : (∃ payload', change.record = some (kind, payload')) ↔ kind = recorded := by
      rw [record]
      constructor
      · rintro ⟨payload', equal⟩
        cases equal
        rfl
      · rintro rfl
        exact ⟨payload, rfl⟩
    rw [differs_of_makes (makes_of_change? found) policy, same]
  rw [differ, Change.recorded, record, about.1, about.2]
  simp only [recordsChange_recordedAt]
  exact and_congr_right_iff

/-- A change that nothing is recorded of is none. -/
theorem unrecorded_iff
    {call : Call} {change : Change} {tick : Nat} {kind : ScheduleChange}
    {current : Option Schedule} (found : call.change? setting current = some change)
    (record : change.record = none) (policy : kind ≠ .triggered) :
    differs current change.schedule kind = true ↔
      RecordsChange command.useCase desk.actor kind (change.recorded setting call tick) := by
  rw [differs_of_makes (makes_of_change? found) policy, Change.recorded, record]
  simp [recordsChange_nil]

/-- A change that was accepted agrees with its record if it is stored. -/
theorem applied_iff
    {call : Call} {change : Change} {after : World}
    (calls : command.call? desk (world.schedule command.scheduleId) = some call)
    (found : call.change? setting (world.schedule command.scheduleId) = some change)
    (granted : setting.Grants world.ticks (command.reads + change.before))
    (schedule : after.schedule command.scheduleId = change.schedule)
    (events : after.events =
      world.events ++ change.recorded setting call (world.ticks + command.reads)) :
    (∀ kind, kind ≠ .triggered →
      (differs (world.schedule command.scheduleId) (after.schedule command.scheduleId) kind = true ↔
        RecordsChange command.useCase desk.actor kind
          (after.events.drop world.events.length))) ↔
      StoresWhatIsAccepted setting desk command world := by
  rw [schedule, events, List.drop_left]
  rcases record : change.record with _ | ⟨recorded, payload⟩
  · refine iff_of_true (fun kind policy => unrecorded_iff found record policy) ?_
    intro call' change' kind payload calls' found' record'
    cases calls.symm.trans calls'
    cases found.symm.trans found'
    cases record.symm.trans record'
  · constructor
    · intro agrees call' change' kind payload' calls' found' record' policy _
      cases calls.symm.trans calls'
      cases found.symm.trans found'
      cases record.symm.trans record'
      exact (recorded_iff (call?_about calls) found record policy).1 (agrees _ policy) rfl
    · intro stores kind policy
      refine (recorded_iff (call?_about calls) found record policy).2 ?_
      rintro rfl
      exact stores call change _ payload calls found record policy granted

/-- What is left behind agrees with what is recorded exactly if accepted changes are stored. -/
theorem changesWithRecord_iff :
    ChangesWithRecord setting text desk command world ↔
      StoresWhatIsAccepted setting desk command world := by
  have outcome : CommandOutcome setting desk command world
      (commanded setting text desk command world) := command_outcome command
  cases outcome with
  | stopped logs stops =>
      refine iff_of_true (changesWithRecord_of_logs logs) ?_
      intro call change kind payload calls found _ _ granted
      rcases stops with nothing | refused
      · rw [nothing] at calls
        cases calls
      · exact absurd (granted.take (Nat.le_add_right _ _)) refused
  | @called call middle ending calls granted logs ticks outcome =>
      obtain ⟨useCase, actor⟩ := call?_about calls
      have id : call.scheduleId = command.scheduleId := by
        rw [Call.scheduleId, useCase]
        rfl
      cases outcome with
      | same kept idle =>
          refine iff_of_true (changesWithRecord_of_logs (logs.trans kept)) ?_
          rw [id, logs.schedule] at idle
          exact storesWhatIsAccepted_of_idle calls ticks idle
      | applied applied =>
          have found := applied.found
          have accepted := applied.granted
          have schedule := applied.schedule
          have events := applied.events
          rw [id, logs.schedule] at found
          rw [ticks] at accepted events
          rw [id] at schedule
          rw [logs.log, List.append_nil] at events
          exact applied_iff calls found (granted.add accepted) schedule events

end Exact

/-- An audit log that opens, and stores nothing. -/
def lockedLog : Setting where
  circumstance tick :=
    { Setting.plain.circumstance tick with append := .failed false "database is locked" }
  missing := Setting.plain.missing
  pausedNote := Setting.plain.pausedNote
  resumedNote := Setting.plain.resumedNote

/-- A switch to remediate is in force, and nothing says who made it. -/
theorem switch_is_unrecorded :
    ¬∀ (setting : Setting) (text : PyText) (desk : Desk) (command : ScheduleCommand)
      (world : World), ChangesWithRecord setting text desk command world := by
  intro claim
  have agrees := claim lockedLog PyText.ascii (answering true) (.mode "dc1" "remediate" true false)
    reportingWorld .responseChanged (by decide)
  have nothing : (commanded lockedLog PyText.ascii (answering true)
      (.mode "dc1" "remediate" true false) reportingWorld).events.drop
        reportingWorld.events.length = [] := by
    decide +kernel
  rw [nothing] at agrees
  exact recordsChange_nil _ _ _ (agrees.1 (by decide +kernel))

end Snapl.Presentation
