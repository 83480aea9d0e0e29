import Snapl.Orchestrator.ScheduleOperators
import Snapl.Presentation.ScheduleCommands

/-!
# The stages of a trigger

A trigger command describes the schedule, asks for consent if it repairs,
describes it again to see that no run is in progress, and then triggers it.
The schedule may change between these requests.  What the command knows at
each stage it knows as far as nobody else changed the mode, or started a run,
in between.
-/

namespace Snapl.Presentation

open Snapl.Library Snapl.Intent Snapl.Orchestrator Snapl.Orchestrator.Schedules

/-! ## Operators -/

/-- A command under way, with the desk it is given at. -/
abbrev Operator : Type := Client (Desk × ScheduleCommand) World Request Answer ScheduleFailure Shown

abbrev Office : Type := Pool (Desk × ScheduleCommand) World Request Answer ScheduleFailure Shown

/-- Commands none of which has made a request. -/
def office (text : PyText) (world : World) (commands : List (Desk × ScheduleCommand)) : Office :=
  Pool.start (fun given => given.2.script text given.1) world commands

section Requests

variable (setting : Setting)

/-- The runs a request starts. -/
def startedBy (asked : World × Request) : List Run :=
  (serve setting asked.2 asked.1).2.runs.drop asked.1.runs.length

/-- The events a request stores. -/
def loggedBy (asked : World × Request) : List AuditEvent :=
  (serve setting asked.2 asked.1).2.events.drop asked.1.events.length

/-- The runs an operator's requests started. -/
def started (operator : Operator) : List Run := operator.asked.flatMap (startedBy setting)

/-- The events an operator's requests stored. -/
def logged (operator : Operator) : List AuditEvent := operator.asked.flatMap (loggedBy setting)

end Requests

/-- The mode a run has in its request. -/
def runMode? (run : Run) : Option DriftResponseMode := run.args.toOption.map DriftResponseRequest.mode

/-- The mode a stored schedule has in its request. -/
def storedMode? (world : World) (id : String) : Option DriftResponseMode :=
  (world.schedule id).bind fun schedule =>
    schedule.action.args.toOption.map DriftResponseRequest.mode

/-- How many runs a schedule started. -/
def runCount (world : World) (id : String) : Nat :=
  (world.runs.filter fun run => run.scheduleId = id).length

/-- No run of the schedule is in progress. -/
def Idle (world : World) (id : String) : Prop :=
  ∀ entry, world.schedules id = some entry → entry.running = []

/-- The operator confirms what this view shows, if that needs a confirmation. -/
def Confirms (desk : Desk) (useCase : String) (yes : Bool) (view : DriftScheduleView) : Prop :=
  view.mode = .remediate → confirmPrompt desk (triggerPrompt desk useCase view) yes false = .ok ()

/-- The first description an operator was given shows this view. -/
def FirstView (useCase : String) (asked : List (World × Request)) (view : DriftScheduleView) :
    Prop :=
  ∃ world rest entry, asked = (world, .describe (driftScheduleId useCase)) :: rest ∧
    world.schedules (driftScheduleId useCase) = some entry ∧
    viewOf ⟨driftScheduleId useCase, entry.schedule, entry.running⟩ = .ok view

/-! ## What others may do meanwhile -/

/-- The operator's next request is the trigger. -/
def awaitsTrigger (operator : Operator) : Bool :=
  match operator.script with
  | .asks (.trigger _) _ => true
  | _ => false

/-- The operator was given a description, and has not made the trigger request. -/
def awaitsDecision (operator : Operator) : Bool :=
  !operator.asked.isEmpty &&
    match operator.script with
    | .asks (.describe _) _ | .asks (.trigger _) _ => true
    | _ => false

def isOwn (index : Nat) : Move Happening → Bool
  | .client other => other = index
  | .happens _ => false

section Meanwhile

variable (setting : Setting) (index : Nat) (useCase : String)

/-- While the operator awaits something, what others do keeps a relation of the worlds. -/
def meanwhile
    (awaits : Operator → Bool) (keeps : World → World → Bool) (entry : Office × Move Happening) :
    Bool :=
  match entry.1.clients[index]?, Pool.step (scheduleServer setting) entry.1 entry.2 with
  | some operator, some next =>
      isOwn index entry.2 || !awaits operator || keeps entry.1.state next.state
  | _, _ => true

/-- The schedule keeps its mode, or goes, between the check of a trigger and its request. -/
def keepsMode : Office × Move Happening → Bool :=
  meanwhile setting index awaitsTrigger fun before after =>
    (after.schedule (driftScheduleId useCase)).isNone ||
      (before.schedule (driftScheduleId useCase)).isSome &&
        storedMode? after (driftScheduleId useCase) = storedMode? before (driftScheduleId useCase)

/-- Nobody switches to remediate between the first description and the trigger request. -/
def staysUnswitched : Office × Move Happening → Bool :=
  meanwhile setting index awaitsDecision fun before after =>
    storedMode? after (driftScheduleId useCase) ≠ some .remediate ||
      storedMode? before (driftScheduleId useCase) = some .remediate

/-- No run of the schedule starts between the check of a trigger and its request. -/
def startsNone : Office × Move Happening → Bool :=
  meanwhile setting index awaitsTrigger fun before after =>
    runCount after (driftScheduleId useCase) = runCount before (driftScheduleId useCase)

end Meanwhile

/-! ## The stages of a trigger -/

/-- Where a trigger command stands: what it was shown, and whether it triggered. -/
inductive TriggerStage where
  | start
  | described (view : DriftScheduleView)
  | checked (view seen : DriftScheduleView)
  | triggered (view seen : DriftScheduleView)
  | stopped

def TriggerStage.Triggered : TriggerStage → Prop
  | .triggered _ _ => True
  | _ => False

/-- The request a trigger command makes next. -/
def TriggerStage.due (useCase : String) : TriggerStage → Option Request
  | .start | .described _ => some (.describe (driftScheduleId useCase))
  | .checked _ _ => some (.trigger (driftScheduleId useCase))
  | .triggered _ _ | .stopped => none

/-- What is promised of the others: each promise is kept where it is used. -/
structure Promises where
  mode : Prop
  switch : Prop
  start : Prop

section Stages

variable (setting : Setting) (desk : Desk) (useCase : String) (yes : Bool) (promises : Promises)

/-- What is known of the world at a stage. -/
def Known : TriggerStage → World → Prop
  | .described view, world =>
      promises.switch → storedMode? world (driftScheduleId useCase) = some .remediate →
        view.mode = .remediate
  | .checked view seen, world =>
      (promises.switch → storedMode? world (driftScheduleId useCase) = some .remediate →
        view.mode = .remediate) ∧
      (promises.mode → storedMode? world (driftScheduleId useCase) = some seen.mode ∨
        world.schedule (driftScheduleId useCase) = none) ∧
      (promises.start → seen.running = [] → Idle world (driftScheduleId useCase))
  | _, _ => True

/-- The payload of the event of a trigger. -/
def triggeredPayload (mode : DriftResponseMode) : List (String × Json) :=
  [("change", .str ScheduleChange.triggered.value), ("mode", .str mode.value)]

/-- How a request takes a trigger command from one stage to the next. -/
inductive Exchange (world : World) (request : Request) : TriggerStage → TriggerStage → Prop
  | describes {view : DriftScheduleView} {entry : Entry}
      (asks : request = .describe (driftScheduleId useCase))
      (stored : world.schedules (driftScheduleId useCase) = some entry)
      (shown : viewOf ⟨driftScheduleId useCase, entry.schedule, entry.running⟩ = .ok view) :
      Exchange world request .start (.described view)
  | checks {view seen : DriftScheduleView}
      (asks : request = .describe (driftScheduleId useCase))
      (confirms : Confirms desk useCase yes view) :
      Exchange world request (.described view) (.checked view seen)
  | triggers {view seen : DriftScheduleView}
      (asks : request = .trigger (driftScheduleId useCase))
      (mode : promises.mode → ∀ run ∈ startedBy setting (world, request),
        runMode? run = some seen.mode)
      (switch : promises.switch → ∀ run ∈ startedBy setting (world, request),
        runMode? run = some .remediate → view.mode = .remediate)
      (start : promises.start → startedBy setting (world, request) ≠ []) :
      Exchange world request (.checked view seen) (.triggered view seen)
  | records {view seen : DriftScheduleView}
      (quiet : startedBy setting (world, request) = [])
      (events : ∀ event ∈ loggedBy setting (world, request),
        event.payload = triggeredPayload seen.mode) :
      Exchange world request (.triggered view seen) (.triggered view seen)
  | fails {stage : TriggerStage}
      (asks : stage.due useCase = some request) :
      Exchange world request stage .stopped

/-- A request takes a trigger command on, and starts and stores only what its stage allows. -/
def Goes (stage : TriggerStage) (world : World) (request : Request) (later : TriggerStage) : Prop :=
  Exchange setting desk useCase yes promises world request stage later ∧
    Known useCase promises later (serve setting request world).2 ∧
    (¬later.Triggered → startedBy setting (world, request) = []) ∧
    (¬stage.Triggered → loggedBy setting (world, request) = [])

end Stages

/-- A trigger command fails, or ends in what its mode gives once it triggered. -/
def TriggerEnds
    {Failure Result : Type} (result : DriftResponseMode → Result) (stage : TriggerStage)
    (ending : Except Failure Result) : Prop :=
  match stage with
  | .triggered _ seen => ∀ value, ending = .ok value → value = result seen.mode
  | _ => ∃ failure, ending = .error failure

/-! ## What single requests start and store -/

section Served

variable {setting : Setting} {world : World}

theorem startedBy_of_runs
    {request : Request} (same : (serve setting request world).2.runs = world.runs) :
    startedBy setting (world, request) = [] := by
  rw [startedBy, same]
  exact List.drop_length

theorem loggedBy_of_events
    {request : Request} (same : (serve setting request world).2.events = world.events) :
    loggedBy setting (world, request) = [] := by
  rw [loggedBy, same]
  exact List.drop_length

theorem loggedBy_of_append
    {request : Request} {events : List AuditEvent}
    (longer : (serve setting request world).2.events = world.events ++ events) :
    loggedBy setting (world, request) = events := by
  rw [loggedBy, longer]
  exact List.drop_left

theorem loggedBy_append (event : AuditEvent) :
    ∀ stored ∈ loggedBy setting (world, .append event), stored = event := by
  have logs : world.Logs (serve setting (.append event) world).2 _ := append_meets event
  rw [loggedBy_of_append logs.log]
  intro stored member
  split_ifs at member
  · exact List.mem_singleton.1 member
  · cases member

theorem startedBy_append (event : AuditEvent) : startedBy setting (world, .append event) = [] := by
  have logs : world.Logs (serve setting (.append event) world).2 _ := append_meets event
  exact startedBy_of_runs logs.runs

/-- A trigger that is refused starts nothing; one that is accepted fires the schedule. -/
theorem trigger_cases (setting : Setting) (world : World) (id : String) :
    (∃ error, setting.found id world = .error error ∧
        serve setting (.trigger id) world = (.error error, world.tick)) ∨
      ∃ entry, world.schedules id = some entry ∧
        serve setting (.trigger id) world =
          (.ok (), (world.tick.accept (.trigger id) id (some entry)).fire id
            (setting.now world).runId entry) := by
  simp only [serve]
  rcases found : setting.found id world with error | entry
  · exact Or.inl ⟨error, rfl, rfl⟩
  · exact Or.inr ⟨entry, found_eq_ok found, rfl⟩

/-- An accepted trigger starts a run with the stored request, or is skipped. -/
theorem startedBy_trigger
    {id : String} {entry : Entry} {answer : Except RpcError Unit}
    (served : serve setting (.trigger id) world =
      (answer, (world.tick.accept (.trigger id) id (some entry)).fire id
        (setting.now world).runId entry)) :
    startedBy setting (world, .trigger id) =
      if entry.starts then [⟨(setting.now world).runId, id, entry.schedule.action.args⟩]
      else [] := by
  rw [startedBy, served, World.fire]
  split_ifs
  · exact List.drop_left
  · exact List.drop_length

theorem loggedBy_trigger (id : String) : loggedBy setting (world, .trigger id) = [] := by
  refine loggedBy_of_events ?_
  rcases trigger_cases setting world id with
    ⟨error, -, served⟩ | ⟨entry, -, served⟩
  · rw [served]
    rfl
  · rw [served, World.fire]
    split_ifs
    · rfl
    · rfl

theorem storedMode?_of_stored
    {id : String} {entry : Entry} (stored : world.schedules id = some entry) :
    storedMode? world id = entry.schedule.action.args.toOption.map DriftResponseRequest.mode := by
  rw [storedMode?, schedule_of_stored stored]
  rfl

/-- A view shows the mode that is stored. -/
theorem storedMode?_of_view
    {id : String} {entry : Entry} {view : DriftScheduleView}
    (stored : world.schedules id = some entry)
    (shown : viewOf ⟨id, entry.schedule, entry.running⟩ = .ok view) :
    storedMode? world id = some view.mode ∧ view.running = entry.running := by
  rw [storedMode?_of_stored stored]
  rw [viewOf] at shown
  rcases intervals : entry.schedule.spec.intervals with _ | ⟨interval, rest⟩
  · simp only [intervals] at shown
    cases shown
  · rcases decoded : entry.schedule.action.args with error | request
    · simp only [intervals, decoded] at shown
      cases shown
    · simp only [intervals, decoded] at shown
      cases shown
      exact ⟨rfl, rfl⟩

end Served

/-! ## The script of a trigger -/

section Script

variable {setting : Setting} {text : PyText} {desk : Desk} {useCase : String} {yes : Bool}
variable {promises : Promises}

/-- A script of a trigger command keeps to the stages. -/
def Keeps (setting : Setting) (desk : Desk) (useCase : String) (yes : Bool) (promises : Promises)
    {Failure Result : Type} (post : TriggerStage → Except Failure Result → Prop)
    (script : Script Request Answer Failure Result) (stage : TriggerStage) : Prop :=
  script.Obeys (serve setting) (Known useCase promises)
    (Goes setting desk useCase yes promises) post stage

/-- A request that starts and stores nothing fails, and that is all. -/
theorem goes_stopped
    {stage : TriggerStage} {world : World} {request : Request}
    (asks : stage.due useCase = some request)
    (runs : startedBy setting (world, request) = [])
    (events : loggedBy setting (world, request) = []) :
    Goes setting desk useCase yes promises stage world request .stopped :=
  ⟨.fails asks, trivial, fun _ => runs, fun _ => events⟩

theorem describe_quiet (setting : Setting) (world : World) (id : String) :
    startedBy setting (world, .describe id) = [] ∧ loggedBy setting (world, .describe id) = [] :=
  ⟨startedBy_of_runs rfl, loggedBy_of_events rfl⟩

/-- A description shows a view, or fails. -/
def DescribeEnds
    {Failure : Type} (target : DriftScheduleView → TriggerStage) (stage : TriggerStage)
    (ending : Except Failure DriftScheduleView) : Prop :=
  (∃ view, stage = target view ∧ ending = .ok view) ∨
    stage = .stopped ∧ ∃ failure, ending = .error failure

/-- A description shows a view of what is stored, or fails. -/
theorem describe_keeps
    {stage : TriggerStage} {target : DriftScheduleView → TriggerStage}
    (asks : stage.due useCase = some (.describe (driftScheduleId useCase)))
    (shows : ∀ world entry view, Known useCase promises stage world →
      world.schedules (driftScheduleId useCase) = some entry →
      viewOf ⟨driftScheduleId useCase, entry.schedule, entry.running⟩ = .ok view →
      Goes setting desk useCase yes promises stage world (.describe (driftScheduleId useCase))
        (target view)) :
    Keeps setting desk useCase yes promises (DescribeEnds target)
      (describeDriftSchedule text useCase) stage := by
  intro world known
  obtain ⟨runs, events⟩ := describe_quiet setting world (driftScheduleId useCase)
  simp only [serve]
  rcases found : setting.found (driftScheduleId useCase) world with error | entry
  · exact ⟨.stopped, goes_stopped asks runs events, Or.inr ⟨rfl, _, rfl⟩⟩
  · have stored := found_eq_ok found
    rcases shown : viewOf ⟨driftScheduleId useCase, entry.schedule, entry.running⟩ with
      error | view
    · refine ⟨.stopped, goes_stopped asks runs events, Or.inr ⟨rfl, error, shown⟩⟩
    · exact ⟨target view, shows world entry view known stored shown, Or.inl ⟨view, rfl, shown⟩⟩

theorem first_description :
    Keeps setting desk useCase yes promises (DescribeEnds .described)
      (describeDriftSchedule text useCase) .start := by
  refine describe_keeps rfl ?_
  intro world entry view _ stored shown
  obtain ⟨runs, events⟩ := describe_quiet setting world (driftScheduleId useCase)
  refine ⟨.describes rfl stored shown, ?_, fun _ => runs, fun _ => events⟩
  intro _ remediates
  have mode : storedMode? world (driftScheduleId useCase) = some view.mode :=
    (storedMode?_of_view stored shown).1
  exact Option.some.inj (mode.symm.trans remediates)

theorem second_description
    {view : DriftScheduleView} (confirms : Confirms desk useCase yes view) :
    Keeps setting desk useCase yes promises (DescribeEnds (.checked view))
      (describeDriftSchedule text useCase) (.described view) := by
  refine describe_keeps rfl ?_
  intro world entry seen known stored shown
  obtain ⟨runs, events⟩ := describe_quiet setting world (driftScheduleId useCase)
  obtain ⟨mode, running⟩ := storedMode?_of_view stored shown
  refine ⟨.checks rfl confirms, ⟨known, fun _ => Or.inl mode, ?_⟩, fun _ => runs, fun _ => events⟩
  intro _ idle other otherStored
  cases stored.symm.trans otherStored
  exact running.symm.trans idle

/-- The trigger request itself. -/
theorem trigger_keeps {view seen : DriftScheduleView} (idle : seen.running = []) :
    Keeps setting desk useCase yes promises
      (fun later ending => (later = .triggered view seen ∧ ∃ answer, ending = .ok answer) ∨
        later = .stopped ∧ ∃ error, ending = .ok (.error error))
      (Ask.trigger (driftScheduleId useCase)) (.checked view seen) := by
  intro world known
  have events : loggedBy setting (world, .trigger (driftScheduleId useCase)) = [] :=
    loggedBy_trigger _
  rcases trigger_cases setting world (driftScheduleId useCase) with
    ⟨error, -, served⟩ | ⟨entry, stored, served⟩
  · have runs : startedBy setting (world, .trigger (driftScheduleId useCase)) = [] := by
      refine startedBy_of_runs ?_
      rw [served]
      rfl
    refine ⟨.stopped, goes_stopped rfl runs events, Or.inr ⟨rfl, error, ?_⟩⟩
    rw [served]
  · have runs := startedBy_trigger served
    have mode := storedMode?_of_stored stored
    obtain ⟨switch, kept, free⟩ := known
    refine ⟨.triggered view seen, ⟨.triggers rfl ?_ ?_ ?_, trivial, ?_, fun _ => events⟩,
      Or.inl ⟨rfl, _, rfl⟩⟩
    · intro promised run member
      rw [runs] at member
      split_ifs at member
      · cases List.mem_singleton.1 member
        refine mode.symm.trans ((kept promised).resolve_right ?_)
        rw [schedule_of_stored stored]
        nofun
      · cases member
    · intro promised run member remediates
      rw [runs] at member
      split_ifs at member
      · cases List.mem_singleton.1 member
        exact switch promised (mode.trans remediates)
      · cases member
    · intro promised
      have starts : entry.starts = true := by
        simp [Entry.starts, free promised idle entry stored]
      rw [runs, if_pos starts]
      exact List.cons_ne_nil _ _
    · exact fun different => absurd trivial different

/-- A change is recorded by a stamp and an append of its event. -/
theorem asks_record (useCaseId actor : String) (change : ScheduleChange)
    (payload : List (String × Json)) :
    (recordChange useCaseId actor change payload).Asks fun request =>
      request = .stamp ∨ ∃ event, request = .append event ∧
        event.payload = ("change", .str change.value) :: payload := by
  refine Script.Asks.bind (Script.Asks.ask (Or.inl rfl)) fun stamp => ?_
  rw [AuditEvent.build]
  split_ifs with valid
  · show Script.Asks _ (Ask.append _ >>= _)
    refine Script.Asks.bind (Script.Asks.ask ?_) fun _ => trivial
    exact Or.inr ⟨_, rfl, rfl⟩
  · trivial

theorem goes_record
    {view seen : DriftScheduleView} {world : World} {request : Request}
    (runs : startedBy setting (world, request) = [])
    (events : ∀ event ∈ loggedBy setting (world, request),
      event.payload = triggeredPayload seen.mode) :
    Goes setting desk useCase yes promises (.triggered view seen) world request
      (.triggered view seen) :=
  ⟨.records runs events, trivial, fun _ => runs, fun different => absurd trivial different⟩

/-- Once it triggered, a command records that, and no more. -/
theorem record_keeps
    {Failure Result : Type} {post : TriggerStage → Except Failure Result → Prop}
    {view seen : DriftScheduleView} {script : Script Request Answer Failure Result}
    (asks : script.Asks fun request =>
      request = .stamp ∨ ∃ event, request = .append event ∧
        event.payload = triggeredPayload seen.mode)
    (ends : ∀ ending, post (.triggered view seen) ending) :
    Keeps setting desk useCase yes promises post script (.triggered view seen) := by
  refine Script.Obeys.of_asks asks ?_ ends
  rintro world request (rfl | ⟨event, rfl, payload⟩) -
  · exact goes_record (startedBy_of_runs rfl) fun event member => by
      rw [loggedBy_of_events rfl] at member
      cases member
  · refine goes_record (startedBy_append event) fun stored member => ?_
    rw [loggedBy_append event stored member]
    exact payload

/-! ## The whole command -/

/-- The trigger request, and its record. -/
theorem requestAndRecord_keeps
    {view seen : DriftScheduleView} (actor : String) (idle : seen.running = []) :
    Keeps setting desk useCase yes promises
      (fun later ending => later = .triggered view seen ∨
        later = .stopped ∧ ∃ failure, ending = .error failure)
      (requestAndRecord text useCase actor (Ask.trigger (driftScheduleId useCase)) .triggered
        [("mode", .str seen.mode.value)]) (.checked view seen) := by
  refine (trigger_keeps idle).bind ?_ ?_
  · rintro later answered (⟨rfl, -⟩ | ⟨rfl, error, refuses⟩)
    · rcases answered with error | done
      · exact Or.inl rfl
      · exact record_keeps (asks_record _ _ _ _) fun _ => Or.inl rfl
    · cases refuses
      exact Or.inr ⟨rfl, _, rfl⟩
  · rintro later failure (⟨-, answer, impossible⟩ | ⟨-, error, impossible⟩)
    · cases impossible
    · cases impossible

theorem triggerDriftSchedule_keeps
    {view : DriftScheduleView} (actor : String) (confirms : Confirms desk useCase yes view) :
    Keeps setting desk useCase yes promises (TriggerEnds id)
      (triggerDriftSchedule text useCase actor) (.described view) := by
  refine (second_description confirms).bind ?_ ?_
  · rintro later seen (⟨other, rfl, same⟩ | ⟨-, failure, impossible⟩)
    · cases same
      split_ifs with running
      · exact ⟨_, rfl⟩
      · refine (requestAndRecord_keeps actor (not_not.1 running)).bind ?_ ?_
        · rintro later done (rfl | ⟨-, failure, impossible⟩)
          · intro mode returned
            cases returned
            rfl
          · cases impossible
        · rintro later failure (rfl | ⟨rfl, -⟩)
          · intro mode impossible
            cases impossible
          · exact ⟨failure, rfl⟩
    · cases impossible
  · rintro later failure (⟨seen, -, impossible⟩ | ⟨rfl, -⟩)
    · cases impossible
    · exact ⟨failure, rfl⟩

/-- A translation of failures keeps how a command ends. -/
theorem TriggerEnds.mapError
    {Failure Failure' Result : Type} {translate : Failure → Failure'}
    {result : DriftResponseMode → Result} {stage : TriggerStage} {ending : Except Failure Result}
    (ends : TriggerEnds result stage ending) :
    TriggerEnds result stage (ending.mapError translate) := by
  rcases ending with failure | value
  · cases stage with
    | triggered view seen =>
        intro value impossible
        cases impossible
    | start | described | checked | stopped => exact ⟨_, rfl⟩
  · cases stage with
    | triggered view seen =>
        intro other same
        cases same
        exact ends value rfl
    | start | described | checked | stopped =>
        obtain ⟨failure, impossible⟩ := ends
        cases impossible

theorem confirmed
    {view : DriftScheduleView} {done : Unit}
    (confirms : triggerGate desk useCase yes view = .ok done) :
    Confirms desk useCase yes view := by
  intro remediates
  rwa [triggerGate, if_pos remediates] at confirms

/-- The call of a trigger command: describe, confirm, trigger. -/
theorem confirmedTrigger_keeps :
    Keeps setting desk useCase yes promises (TriggerEnds id)
      (do
        let current ← (describeDriftSchedule text useCase).mapError ScheduleFailure.raised
        Script.ofExcept (triggerGate desk useCase yes current)
        (triggerDriftSchedule text useCase desk.actor).mapError .raised) .start := by
  have described : Keeps setting desk useCase yes promises (DescribeEnds .described)
      ((describeDriftSchedule text useCase).mapError ScheduleFailure.raised) .start := by
    refine first_description.mapError ?_
    rintro later ending (⟨view, rfl, rfl⟩ | ⟨rfl, failure, rfl⟩)
    · exact Or.inl ⟨view, rfl, rfl⟩
    · exact Or.inr ⟨rfl, _, rfl⟩
  refine described.bind ?_ ?_
  · rintro later view (⟨other, rfl, same⟩ | ⟨-, failure, impossible⟩)
    · cases same
      show Keeps setting desk useCase yes promises _
        (Script.ofExcept (triggerGate desk useCase yes view) >>= _) _
      generalize confirms : triggerGate desk useCase yes view = confirmation
      rcases confirmation with failure | done
      · exact ⟨failure, rfl⟩
      · exact (triggerDriftSchedule_keeps _ (confirmed confirms)).mapError
          fun _ _ ends => ends.mapError
    · cases impossible
  · rintro later failure (⟨view, -, impossible⟩ | ⟨rfl, -⟩)
    · cases impossible
    · exact ⟨failure, rfl⟩

/-- A schedule write that fails before its call fails at the start. -/
theorem scheduleWrite_keeps
    {Result : Type} {result : DriftResponseMode → Result} {operation : CommandScript Result}
    (keeps : Keeps setting desk useCase yes promises (TriggerEnds result) operation .start) :
    Keeps setting desk useCase yes promises (TriggerEnds result)
      (scheduleWrite desk useCase operation) .start := by
  rw [scheduleWrite]
  rcases opened : openAuditLog desk with failure | done
  · exact ⟨failure, rfl⟩
  · show Keeps setting desk useCase yes promises _ (Script.mapError _ (_ >>= _)) _
    rcases connected : connect desk.session with failure | session
    · exact ⟨_, rfl⟩
    · exact keeps.mapError fun _ _ ends => ends.mapError

theorem scheduleTrigger_keeps :
    Keeps setting desk useCase yes promises (TriggerEnds (Shown.triggered useCase))
      (scheduleTrigger text desk useCase yes) .start := by
  refine (scheduleWrite_keeps confirmedTrigger_keeps).bind ?_ ?_
  · rintro later mode ends
    cases later with
    | triggered view seen =>
        intro shown returned
        cases returned
        rw [ends mode rfl]
        rfl
    | start | described | checked | stopped =>
        obtain ⟨failure, impossible⟩ := ends
        cases impossible
  · rintro later failure ends
    cases later with
    | triggered view seen =>
        intro shown impossible
        cases impossible
    | start | described | checked | stopped => exact ⟨failure, rfl⟩

end Script

end Snapl.Presentation
