import Snapl.Presentation.TriggerStages

/-!
# What a trigger runs

What a triggered run repairs, what was consented to and what is recorded agree
as far as nobody else changed the mode, or started a run, between the requests
of the command.
-/

namespace Snapl.Presentation

open Snapl.Library Snapl.Intent Snapl.Orchestrator Snapl.Orchestrator.Schedules

/-! ## What was promised -/

section Outcomes

variable (setting : Setting) (desk : Desk) (useCase : String) (yes : Bool) (operator : Operator)

/-- The runs an operator started have the mode that was shown and recorded. -/
def RunsWhatItRecords : Prop :=
  ∀ run ∈ started setting operator, ∃ mode, runMode? run = some mode ∧
    (∀ shown, operator.result? = some shown → shown = .triggered useCase mode) ∧
    ∀ event ∈ logged setting operator, event.payload = triggeredPayload mode

/-- The operator confirmed a remediate run, or was not to be asked. -/
def Consented : Prop :=
  yes = true ∨ ∃ view, FirstView useCase operator.asked view ∧ view.mode = .remediate ∧
    desk.answers (triggerPrompt desk useCase view) = true

/-- A run an operator started repairs only if that was consented to. -/
def RunsWhatWasConfirmed : Prop :=
  ∀ run ∈ started setting operator, runMode? run = some .remediate →
    Consented desk useCase yes operator

/-- What an operator recorded of a trigger is of a run. -/
def RecordsARun : Prop :=
  logged setting operator ≠ [] → started setting operator ≠ []

end Outcomes

/-! ## What an operator did, by stage -/

section Recorded

variable (setting : Setting) (desk : Desk) (useCase : String) (yes : Bool) (promises : Promises)

/-- What the requests of an operator at a stage started and stored. -/
def Recorded (operator : Operator) : TriggerStage → Prop
  | .start => operator.asked = []
  | .described view =>
      FirstView useCase operator.asked view ∧
        started setting operator = [] ∧ logged setting operator = []
  | .checked view _ =>
      FirstView useCase operator.asked view ∧ Confirms desk useCase yes view ∧
        started setting operator = [] ∧ logged setting operator = []
  | .triggered view seen =>
      FirstView useCase operator.asked view ∧ Confirms desk useCase yes view ∧
        (promises.mode → ∀ run ∈ started setting operator, runMode? run = some seen.mode) ∧
        (promises.switch → ∀ run ∈ started setting operator,
          runMode? run = some .remediate → view.mode = .remediate) ∧
        (promises.start → started setting operator ≠ []) ∧
        ∀ event ∈ logged setting operator, event.payload = triggeredPayload seen.mode
  | .stopped => started setting operator = [] ∧ logged setting operator = []

end Recorded

section Served

variable {setting : Setting} {desk : Desk} {useCase : String} {yes : Bool} {promises : Promises}
variable {operator : Operator} {world : World} {request : Request}
variable {next : Answer request → CommandScript Shown}

theorem started_served :
    started setting (operator.served (scheduleServer setting) world request next) =
      started setting operator ++ startedBy setting (world, request) := by
  simp [started, Client.served]

theorem logged_served :
    logged setting (operator.served (scheduleServer setting) world request next) =
      logged setting operator ++ loggedBy setting (world, request) := by
  simp [logged, Client.served]

theorem firstView_served
    {view : DriftScheduleView} (first : FirstView useCase operator.asked view) :
    FirstView useCase
      (operator.served (scheduleServer setting) world request next).asked view := by
  obtain ⟨met, rest, entry, asked, stored, shown⟩ := first
  refine ⟨met, rest ++ [(world, request)], entry, ?_, stored, shown⟩
  simp [Client.served, asked]

/-- Before it triggered, an operator started nothing and stored nothing. -/
theorem nothing_of_recorded
    {stage : TriggerStage} (recorded : Recorded setting desk useCase yes promises operator stage)
    (before : ¬stage.Triggered) :
    started setting operator = [] ∧ logged setting operator = [] := by
  cases stage with
  | start =>
      have fresh : operator.asked = [] := recorded
      simp [started, logged, fresh]
  | described view => exact recorded.2
  | checked view seen => exact recorded.2.2
  | triggered view seen => exact absurd trivial before
  | stopped => exact recorded

/-- A request adds to what an operator did only what its stage allows. -/
theorem recorded_served
    {stage later : TriggerStage}
    (recorded : Recorded setting desk useCase yes promises operator stage)
    (goes : Goes setting desk useCase yes promises stage world request later) :
    Recorded setting desk useCase yes promises
      (operator.served (scheduleServer setting) world request next) later := by
  obtain ⟨exchange, -, runs, events⟩ := goes
  cases exchange with
  | @describes view entry asks stored shown =>
      have fresh : operator.asked = [] := recorded
      refine ⟨⟨world, [], entry, ?_, stored, shown⟩, ?_, ?_⟩
      · rw [← asks]
        simp [Client.served, fresh]
      · rw [started_served, runs not_false]
        simp [started, fresh]
      · rw [logged_served, events not_false]
        simp [logged, fresh]
  | checks asks confirms =>
      obtain ⟨first, nothing, silent⟩ := recorded
      refine ⟨firstView_served first, confirms, ?_, ?_⟩
      · rw [started_served, runs not_false, nothing, List.append_nil]
      · rw [logged_served, events not_false, silent, List.append_nil]
  | triggers asks mode switch start =>
      obtain ⟨first, confirms, nothing, silent⟩ := recorded
      refine ⟨firstView_served first, confirms, ?_, ?_, ?_, ?_⟩
      · rwa [started_served, nothing, List.nil_append]
      · rwa [started_served, nothing, List.nil_append]
      · rwa [started_served, nothing, List.nil_append]
      · intro event member
        rw [logged_served, silent, events not_false] at member
        exact absurd member List.not_mem_nil
  | records quiet payloads =>
      obtain ⟨first, confirms, mode, switch, start, recorded⟩ := recorded
      refine ⟨firstView_served first, confirms, ?_, ?_, ?_, ?_⟩
      · rwa [started_served, quiet, List.append_nil]
      · rwa [started_served, quiet, List.append_nil]
      · rwa [started_served, quiet, List.append_nil]
      · intro event member
        rw [logged_served] at member
        exact (List.mem_append.1 member).elim (recorded event) (payloads event)
  | fails asks =>
      have before : ¬stage.Triggered := by
        cases stage with
        | triggered view seen => cases asks
        | start | described | checked | stopped => exact not_false
      obtain ⟨nothing, silent⟩ := nothing_of_recorded recorded before
      refine ⟨?_, ?_⟩
      · rw [started_served, nothing, runs not_false]
        rfl
      · rw [logged_served, silent, events before]
        rfl

end Served

/-! ## What others do to a schedule at rest -/

section Idle

variable {setting : Setting} {world : World} {id : String}

/-- A schedule stays at rest unless a run of it starts. -/
def StaysIdle (id : String) (world after : World) : Prop :=
  runCount after id = runCount world id → Idle world id → Idle after id

theorem staysIdle_accept
    {request : Request} {written : String} {entry : Option Entry}
    (rest : written = id → Idle world id → ∀ changed ∈ entry, changed.running = []) :
    StaysIdle id world (world.tick.accept request written entry) := by
  intro _ idle changed stored
  by_cases same : id = written
  · subst same
    refine rest rfl idle changed ?_
    simpa [World.accept] using stored
  · refine idle changed ?_
    simpa [World.accept, World.tick, Function.update_of_ne same] using stored

theorem staysIdle_start
    {fired runId : String} {entry : Entry} :
    StaysIdle id world (world.start fired runId entry) := by
  intro count idle changed stored
  by_cases same : id = fired
  · subst same
    simp [runCount, World.start, List.filter_append] at count
  · refine idle changed ?_
    simpa [World.start, Function.update_of_ne same] using stored

theorem staysIdle_fire
    {fired runId : String} {entry : Entry} :
    StaysIdle id world (world.fire fired runId entry) := by
  rw [World.fire]
  split_ifs
  · exact staysIdle_start
  · exact fun _ idle => idle

/-- A request about a schedule that exists keeps what runs of it are in progress. -/
theorem staysIdle_acceptFound
    {request : Request} {written : String} {change : Entry → Option Entry}
    (keeps : ∀ entry, ∀ changed ∈ change entry, changed.running = entry.running) :
    StaysIdle id world (acceptFound setting request written change world).2 := by
  rw [acceptFound]
  rcases found : setting.found written world with error | entry
  · exact fun _ idle => idle
  · refine staysIdle_accept fun same idle changed member => ?_
    subst same
    exact (keeps entry changed member).trans (idle entry (found_eq_ok found))

theorem staysIdle_serve (request : Request) :
    StaysIdle id world (serve setting request world).2 := by
  cases request with
  | createSchedule created schedule =>
      simp only [serve]
      rcases (setting.now world).refusal with _ | error
      · rcases world.schedules created with _ | entry
        · exact staysIdle_accept fun _ _ changed member => by cases member; rfl
        · exact fun _ idle => idle
      · exact fun _ idle => idle
  | describe described => exact fun _ idle => idle
  | replace replaced schedule =>
      exact staysIdle_acceptFound fun entry changed member => by cases member; rfl
  | pause paused note =>
      exact staysIdle_acceptFound fun entry changed member => by cases member; rfl
  | unpause resumed note =>
      exact staysIdle_acceptFound fun entry changed member => by cases member; rfl
  | trigger triggered =>
      rcases trigger_cases setting world triggered with
        ⟨error, -, served⟩ | ⟨entry, stored, served⟩
      · rw [served]
        exact fun _ idle => idle
      · rw [served]
        intro count idle
        refine staysIdle_fire count (staysIdle_accept ?_ rfl idle)
        rintro rfl _ changed member
        cases member
        exact idle entry stored
  | delete deleted => exact staysIdle_acceptFound fun entry changed member => by cases member
  | stamp => exact fun _ idle => idle
  | append event =>
      have logs : world.Logs (serve setting (.append event) world).2 _ := append_meets event
      intro _ idle entry stored
      rw [logs.schedules] at stored
      exact idle entry stored

theorem staysIdle_happen (happening : Happening) :
    StaysIdle id world (happen happening world) := by
  cases happening with
  | fires fired runId =>
      rcases stored : world.schedules fired with _ | entry
      · simp only [happen, stored]
        exact fun _ idle => idle
      · simp only [happen, stored]
        split_ifs
        · exact fun _ idle => idle
        · exact staysIdle_fire
  | finishes finished runId =>
      rcases stored : world.schedules finished with _ | entry
      · simp only [happen, stored]
        exact fun _ idle => idle
      · simp only [happen, stored]
        intro _ idle changed kept
        by_cases same : id = finished
        · subst same
          have erased : { entry with running := entry.running.erase runId } = changed := by
            simpa using kept
          rw [← erased, idle entry stored]
          rfl
        · refine idle changed ?_
          simpa [Function.update_of_ne same] using kept

end Idle

/-! ## What an operator knows while others move -/

section Attended

variable {setting : Setting} {text : PyText} {desk : Desk} {useCase : String} {yes : Bool}
variable {index : Nat} {promises : Promises}

/-- What a step of the pool keeps, by the promises. -/
structure Permitted (setting : Setting) (useCase : String) (index : Nat) (promises : Promises)
    (entry : Office × Move Happening) : Prop where
  mode : promises.mode → keepsMode setting index useCase entry = true
  switch : promises.switch → staysUnswitched setting index useCase entry = true
  start : promises.start → startsNone setting index useCase entry = true

/-- The operator of a trigger stands at this stage of it. -/
structure Attends (setting : Setting) (desk : Desk) (useCase : String) (yes : Bool)
    (promises : Promises) (world : World) (operator : Operator) (stage : TriggerStage) :
    Prop where
  keeps : Keeps setting desk useCase yes promises (TriggerEnds (Shown.triggered useCase))
    operator.script stage
  known : ∀ request next, operator.script = .asks request next →
    Known useCase promises stage world
  recorded : Recorded setting desk useCase yes promises operator stage

theorem attends_served
    {world : World} {operator : Operator} {stage : TriggerStage} {request : Request}
    {next : Answer request → CommandScript Shown}
    (attends : Attends setting desk useCase yes promises world operator stage)
    (asks : operator.script = .asks request next) :
    ∃ later, Attends setting desk useCase yes promises (serve setting request world).2
      (operator.served (scheduleServer setting) world request next) later := by
  have keeps := attends.keeps
  rw [asks] at keeps
  obtain ⟨later, goes, obeys⟩ := keeps world (attends.known request next asks)
  exact ⟨later, obeys, fun _ _ _ => goes.2.1, recorded_served attends.recorded goes⟩

/-- What the next request of an operator is. -/
theorem awaits_of_stage
    {world : World} {operator : Operator} {stage : TriggerStage} {request : Request}
    {next : Answer request → CommandScript Shown}
    (attends : Attends setting desk useCase yes promises world operator stage)
    (asks : operator.script = .asks request next) (due : stage.due useCase ≠ none) :
    stage.due useCase = some request := by
  have keeps := attends.keeps
  rw [asks] at keeps
  obtain ⟨later, ⟨exchange, -⟩, -⟩ := keeps world (attends.known request next asks)
  cases exchange with
  | describes asked => rw [asked]; rfl
  | checks asked => rw [asked]; rfl
  | triggers asked => rw [asked]; rfl
  | records => exact absurd rfl due
  | fails asked => exact asked

theorem keeps_of_meanwhile
    {awaits : Operator → Bool} {keeps : World → World → Bool} {pool next : Office}
    {move : Move Happening} {operator : Operator}
    (kept : meanwhile setting index awaits keeps (pool, move) = true)
    (found : pool.clients[index]? = some operator)
    (moves : Pool.step (scheduleServer setting) pool move = some next)
    (other : isOwn index move = false) (waiting : awaits operator = true) :
    keeps pool.state next.state = true := by
  simpa [meanwhile, found, moves, other, waiting] using kept

theorem awaitsDecision_of_stage
    {operator : Operator} {view : DriftScheduleView} {request : Request}
    {next : Answer request → CommandScript Shown}
    (first : FirstView useCase operator.asked view) (asks : operator.script = .asks request next)
    (due : request = .describe (driftScheduleId useCase) ∨
      request = .trigger (driftScheduleId useCase)) : awaitsDecision operator = true := by
  obtain ⟨met, rest, entry, asked, -⟩ := first
  rcases due with rfl | rfl
  · simp [awaitsDecision, asked, asks]
  · simp [awaitsDecision, asked, asks]

/-- What others may do leaves an operator's knowledge true. -/
theorem attends_kept
    {pool next : Office} {move : Move Happening} {operator : Operator} {stage : TriggerStage}
    (attends : Attends setting desk useCase yes promises pool.state operator stage)
    (found : pool.clients[index]? = some operator)
    (moves : Pool.step (scheduleServer setting) pool move = some next)
    (other : isOwn index move = false)
    (permitted : Permitted setting useCase index promises (pool, move)) :
    Attends setting desk useCase yes promises next.state operator stage := by
  refine ⟨attends.keeps, fun request rest asks => ?_, attends.recorded⟩
  have known := attends.known request rest asks
  cases stage with
  | start | triggered | stopped => trivial
  | described view =>
      have due := Option.some.inj (awaits_of_stage attends asks (Option.some_ne_none _))
      have waiting := awaitsDecision_of_stage attends.recorded.1 asks (Or.inl due.symm)
      intro promised remediates
      have kept := keeps_of_meanwhile (permitted.switch promised) found moves other waiting
      refine known promised ?_
      simpa [remediates] using kept
  | checked view seen =>
      have due := Option.some.inj (awaits_of_stage attends asks (Option.some_ne_none _))
      have waiting := awaitsDecision_of_stage attends.recorded.1 asks (Or.inr due.symm)
      have ready : awaitsTrigger operator = true := by
        subst due
        simp [awaitsTrigger, asks]
      obtain ⟨switch, mode, rest⟩ := known
      refine ⟨?_, ?_, ?_⟩
      · intro promised remediates
        have kept := keeps_of_meanwhile (permitted.switch promised) found moves other waiting
        refine switch promised ?_
        simpa [remediates] using kept
      · intro promised
        have kept := keeps_of_meanwhile (permitted.mode promised) found moves other ready
        rcases Bool.or_eq_true_iff.1 kept with gone | stays
        · exact Or.inr (Option.isNone_iff_eq_none.1 gone)
        · obtain ⟨present, same⟩ := Bool.and_eq_true_iff.1 stays
          refine Or.inl ((of_decide_eq_true same).trans ((mode promised).resolve_right ?_))
          exact Option.isSome_iff_ne_none.1 present
      · intro promised idle
        have kept := keeps_of_meanwhile (permitted.start promised) found moves other ready
        have count := of_decide_eq_true kept
        have stays : StaysIdle (driftScheduleId useCase) pool.state next.state := by
          cases Pool.steps_of_step moves with
          | happens happening => exact staysIdle_happen happening
          | @client _ _ request _ _ _ => exact staysIdle_serve request
        exact stays count (rest promised idle)

/-- The operator with this index stands at some stage of a trigger. -/
def Attended (setting : Setting) (desk : Desk) (useCase : String) (yes : Bool) (index : Nat)
    (promises : Promises) (pool : Office) : Prop :=
  ∃ operator stage, pool.clients[index]? = some operator ∧
    Attends setting desk useCase yes promises pool.state operator stage

theorem attended_step
    {pool next : Office} {move : Move Happening}
    (attended : Attended setting desk useCase yes index promises pool)
    (permitted : Permitted setting useCase index promises (pool, move))
    (moves : Pool.step (scheduleServer setting) pool move = some next) :
    Attended setting desk useCase yes index promises next := by
  obtain ⟨operator, stage, found, attends⟩ := attended
  rcases own : isOwn index move with _ | _
  · have different : move ≠ .client index := by
      rintro rfl
      simp [isOwn] at own
    refine ⟨operator, stage, ?_, attends_kept attends found moves own permitted⟩
    rw [Pool.client_kept moves different, found]
  · obtain rfl : move = .client index := by
      cases move with
      | client other => simpa [isOwn] using own
      | happens happening => simp [isOwn] at own
    obtain ⟨request, rest, asks, state, served⟩ := Pool.client_moved found moves
    obtain ⟨later, attends⟩ := attends_served attends asks
    refine ⟨_, later, served, ?_⟩
    rw [state]
    exact attends

theorem attended_start
    {world : World} {commands : List (Desk × ScheduleCommand)}
    (given : commands[index]? = some (desk, .trigger useCase yes)) :
    Attended setting desk useCase yes index promises (office text world commands) := by
  refine ⟨⟨(desk, .trigger useCase yes), [], scheduleTrigger text desk useCase yes⟩, .start, ?_,
    scheduleTrigger_keeps, fun _ _ _ => trivial, rfl⟩
  rw [office, Pool.start, List.getElem?_map, given]
  rfl

theorem attended_reached
    {pool : Office} {moves : List (Move Happening)}
    (attended : Attended setting desk useCase yes index promises pool)
    (permitted : ∀ entry ∈ (Pool.step (scheduleServer setting)).steps pool moves,
      Permitted setting useCase index promises entry) :
    Attended setting desk useCase yes index promises
      ((Pool.step (scheduleServer setting)).reached pool moves) :=
  (Transition.invariant_of_allowed attended_step attended permitted).2

/-! ## What a trigger came to -/

variable {world : World} {operator : Operator} {stage : TriggerStage}

/-- An operator did nothing yet, or stands where it triggered. -/
theorem nothing_or_triggered
    (attends : Attends setting desk useCase yes promises world operator stage) :
    started setting operator = [] ∧ logged setting operator = [] ∨
      ∃ view seen, stage = .triggered view seen := by
  cases stage with
  | triggered view seen => exact Or.inr ⟨view, seen, rfl⟩
  | start | described | checked | stopped =>
      exact Or.inl (nothing_of_recorded attends.recorded not_false)

theorem shown_of_attends
    {view seen : DriftScheduleView} {shown : Shown}
    (attends : Attends setting desk useCase yes promises world operator (.triggered view seen))
    (returned : operator.result? = some shown) : shown = .triggered useCase seen.mode := by
  have keeps := attends.keeps
  rw [Client.result?] at returned
  rcases ended : operator.script with (failure | result) | ⟨request, next⟩
  · simp only [ended] at returned
    cases returned
  · simp only [ended] at returned
    cases returned
    rw [ended] at keeps
    exact keeps shown rfl
  · simp only [ended] at returned
    cases returned

theorem runsWhatItRecords_of_attends
    (attends : Attends setting desk useCase yes promises world operator stage)
    (promised : promises.mode) : RunsWhatItRecords setting useCase operator := by
  intro run member
  rcases nothing_or_triggered attends with ⟨nothing, -⟩ | ⟨view, seen, rfl⟩
  · rw [nothing] at member
    exact absurd member List.not_mem_nil
  · obtain ⟨-, -, mode, -, -, payloads⟩ := attends.recorded
    exact ⟨seen.mode, mode promised run member, fun _ => shown_of_attends attends, payloads⟩

theorem runsWhatWasConfirmed_of_attends
    (attends : Attends setting desk useCase yes promises world operator stage)
    (promised : promises.switch) :
    RunsWhatWasConfirmed setting desk useCase yes operator := by
  intro run member remediates
  rcases nothing_or_triggered attends with ⟨nothing, -⟩ | ⟨view, seen, rfl⟩
  · rw [nothing] at member
    exact absurd member List.not_mem_nil
  · obtain ⟨first, confirms, -, switch, -⟩ := attends.recorded
    have shown := switch promised run member remediates
    have passed := confirms shown
    rw [confirmPrompt] at passed
    split_ifs at passed with unasked _ answered
    · exact Or.inl unasked
    · exact Or.inr ⟨view, first, shown, answered⟩

theorem recordsARun_of_attends
    (attends : Attends setting desk useCase yes promises world operator stage)
    (promised : promises.start) : RecordsARun setting operator := by
  intro recorded
  rcases nothing_or_triggered attends with ⟨-, silent⟩ | ⟨view, seen, rfl⟩
  · exact absurd silent recorded
  · obtain ⟨-, -, -, -, start, -⟩ := attends.recorded
    exact start promised

end Attended

/--
Whatever else goes on, the run a trigger starts has the mode that is returned
and recorded if nobody changes the mode between its check and its request; it
repairs only what was confirmed if nobody switches to remediate after the
description the operator was shown; and what is recorded is a run if none
starts between the check and the request.
-/
theorem trigger_runs_what_was_confirmed
    (setting : Setting) (text : PyText) (world : World)
    (earlier later : List (Desk × ScheduleCommand)) (desk : Desk) (useCase : String) (yes : Bool)
    (moves : List (Move Happening)) :
    let commands := earlier ++ (desk, .trigger useCase yes) :: later
    let index := earlier.length
    let taken := (Pool.step (scheduleServer setting)).steps (office text world commands) moves
    ∃ operator,
      ((Pool.step (scheduleServer setting)).reached (office text world commands)
        moves).clients[index]? = some operator ∧
      ((∀ entry ∈ taken, keepsMode setting index useCase entry = true) →
        RunsWhatItRecords setting useCase operator) ∧
      ((∀ entry ∈ taken, staysUnswitched setting index useCase entry = true) →
        RunsWhatWasConfirmed setting desk useCase yes operator) ∧
      ((∀ entry ∈ taken, startsNone setting index useCase entry = true) →
        RecordsARun setting operator) := by
  intro commands index taken
  have given : commands[index]? = some (desk, .trigger useCase yes) := by simp [commands, index]
  let promises : Promises := {
    mode := ∀ entry ∈ taken, keepsMode setting index useCase entry = true
    switch := ∀ entry ∈ taken, staysUnswitched setting index useCase entry = true
    start := ∀ entry ∈ taken, startsNone setting index useCase entry = true }
  have permitted : ∀ entry ∈ taken, Permitted setting useCase index promises entry :=
    fun entry member =>
      ⟨fun kept => kept entry member, fun kept => kept entry member, fun kept => kept entry member⟩
  have attended : Attended setting desk useCase yes index promises _ :=
    attended_reached (attended_start given) permitted
  obtain ⟨operator, stage, found, attends⟩ := attended
  exact ⟨operator, found, runsWhatItRecords_of_attends attends,
    runsWhatWasConfirmed_of_attends attends, recordsARun_of_attends attends⟩

/-! ## A trigger of a schedule that repairs, and of one that is switched -/

def repairingWorld : World :=
  perform PyText.ascii Setting.plain reportingWorld (.set "dc1" .remediate "ops")

/-- The office of a trigger and one other command. -/
def triggerAnd
    (answer : Bool) (world : World) (other : ScheduleCommand) (moves : List (Move Happening)) :
    Office :=
  (Pool.step (scheduleServer Setting.plain)).reached
    (office PyText.ascii world [(answering answer, .trigger "dc1" false), (answering true, other)])
    moves

/-- A confirmed trigger repairs, also if the schedule is paused meanwhile. -/
theorem confirmed_trigger_repairs :
    let moves := [.client 0, .client 0, .client 1, .client 0, .client 0, .client 0]
    let reached := triggerAnd true repairingWorld (.pause "dc1" (some "maintenance")) moves
    (reached.clients[0]?.map fun operator =>
      (started Setting.plain operator).map runMode?) = some [some .remediate] ∧
      ∃ operator, reached.clients[0]? = some operator ∧
        RunsWhatItRecords Setting.plain "dc1" operator ∧
        RunsWhatWasConfirmed Setting.plain (answering true) "dc1" false operator ∧
        RecordsARun Setting.plain operator := by
  intro moves reached
  refine ⟨by decide +kernel, ?_⟩
  obtain ⟨operator, found, records, confirmed, runs⟩ :=
    trigger_runs_what_was_confirmed Setting.plain PyText.ascii repairingWorld []
      [(answering true, .pause "dc1" (some "maintenance"))] (answering true) "dc1" false moves
  exact ⟨operator, found, records (by decide +kernel), confirmed (by decide +kernel),
    runs (by decide +kernel)⟩

/-- The schedule is switched to remediate after the check of a trigger. -/
def switchBetween : List (Move Happening) :=
  [.client 0, .client 0, .client 1, .client 1, .client 1, .client 0, .client 0, .client 0]

/-- A switch between the check and the request makes a trigger repair unasked. -/
theorem switched_trigger_repairs_unasked :
    ¬∀ (setting : Setting) (text : PyText) (world : World)
      (earlier later : List (Desk × ScheduleCommand)) (desk : Desk) (useCase : String)
      (yes : Bool) (moves : List (Move Happening)) (operator : Operator),
      ((Pool.step (scheduleServer setting)).reached
        (office text world (earlier ++ (desk, .trigger useCase yes) :: later))
        moves).clients[earlier.length]? = some operator →
      RunsWhatItRecords setting useCase operator ∧
        RunsWhatWasConfirmed setting desk useCase yes operator ∧
        RecordsARun setting operator := by
  intro claim
  obtain ⟨operator, found⟩ : ∃ operator, (triggerAnd false reportingWorld
      (.mode "dc1" "remediate" true false) switchBetween).clients[0]? = some operator :=
    Option.isSome_iff_exists.1 (by decide +kernel)
  obtain ⟨-, confirmed, -⟩ := claim Setting.plain PyText.ascii reportingWorld []
    [(answering true, .mode "dc1" "remediate" true false)] (answering false) "dc1" false
    switchBetween operator found
  have repairs : (started Setting.plain operator).map runMode? = [some .remediate] := by
    have known : ((triggerAnd false reportingWorld (.mode "dc1" "remediate" true false)
        switchBetween).clients[0]?.map fun operator =>
          (started Setting.plain operator).map runMode?) = some [some .remediate] := by
      decide +kernel
    rw [found] at known
    exact Option.some.inj known
  obtain ⟨run, member, remediates⟩ := List.mem_map.1
    (repairs ▸ List.mem_singleton_self _ : some .remediate ∈
      (started Setting.plain operator).map runMode?)
  rcases confirmed run member remediates with unasked | ⟨view, -, -, answered⟩
  · cases unasked
  · cases answered

end Snapl.Presentation
