import Snapl.Library.Linearization
import Snapl.Orchestrator.ScheduleHistory

/-!
# Operators of one schedule

Calls about one schedule, under way at once, with firings and ends of runs
between their requests.  What is seen of a world is the stored schedule.  Each
call takes its effect at one request: at the one that changes the schedule, or
at the description that shows there is nothing to change.
-/

namespace Snapl.Orchestrator.Schedules

open Snapl.Library Snapl.Intent

inductive Happening where
  | fires (id runId : String)
  | finishes (id runId : String)

/-- A schedule that is not paused fires; a run of a schedule ends. -/
def happen : Happening → World → World
  | .fires id runId, world =>
      match world.schedules id with
      | none => world
      | some entry => if entry.schedule.state.paused then world else world.fire id runId entry
  | .finishes id runId, world =>
      match world.schedules id with
      | none => world
      | some entry =>
          { world with
            schedules := Function.update world.schedules id
              (some { entry with running := entry.running.erase runId }) }

theorem start_schedule
    {world : World} {id runId : String} {entry : Entry}
    (stored : world.schedules id = some entry) (other : String) :
    (world.start id runId entry).schedule other = world.schedule other := by
  by_cases same : other = id
  · subst same
    simp [World.schedule, World.start, stored]
  · simp [World.schedule, World.start, Function.update_of_ne same]

theorem fire_schedule
    {world : World} {id runId : String} {entry : Entry}
    (stored : world.schedules id = some entry) (other : String) :
    (world.fire id runId entry).schedule other = world.schedule other := by
  rw [World.fire]
  split_ifs
  · exact start_schedule stored other
  · rfl

/-- Nothing that happens changes a schedule. -/
theorem happen_schedule (happening : Happening) (world : World) (id : String) :
    (happen happening world).schedule id = world.schedule id := by
  cases happening with
  | fires fired runId =>
      rcases stored : world.schedules fired with _ | entry
      · simp only [happen, stored]
      · simp only [happen, stored]
        split_ifs
        · rfl
        · exact fire_schedule stored id
  | finishes finished runId =>
      rcases stored : world.schedules finished with _ | entry
      · simp only [happen, stored]
      · simp only [happen, stored]
        by_cases same : id = finished
        · subst same
          simp [World.schedule, stored]
        · simp [World.schedule, Function.update_of_ne same]

/-- The request was accepted, and may have changed a schedule. -/
def wrote : (request : Request) → Answer request → Bool
  | .createSchedule _ _, answer => answer.isOk
  | .replace _ _, answer | .pause _ _, answer | .unpause _ _, answer | .delete _, answer =>
      answer.isOk
  | .describe _, _ | .trigger _, _ | .stamp, _ | .append _, _ => false

/-- The request replaces a schedule that was described before. -/
def Request.replaces : Request → Bool
  | .replace _ _ => true
  | _ => false

def scheduleServer (setting : Setting) : Server World Request Answer Happening where
  serve := serve setting
  happen := happen

/-- The server, as it is seen through one schedule. -/
def viewedServer (setting : Setting) (id : String) :
    ViewedServer World (Option Schedule) Request Answer Happening where
  toServer := scheduleServer setting
  view world := world.schedule id
  writes := wrote
  replaces := Request.replaces
  gone := Option.isNone
  view_happen happening world := happen_schedule happening world id

section Quiet

variable {setting : Setting} {id : String}

theorem quiet_stamp : Quiet (viewedServer setting id) Request.stamp := fun _ => ⟨rfl, rfl⟩

theorem quiet_describe : Quiet (viewedServer setting id) (Request.describe id) :=
  fun _ => ⟨rfl, rfl⟩

theorem quiet_append (event : AuditEvent) : Quiet (viewedServer setting id) (.append event) := by
  intro world
  have logs : world.Logs (serve setting (.append event) world).2 _ := append_meets event
  exact ⟨logs.schedule id, rfl⟩

theorem quiet_trigger : Quiet (viewedServer setting id) (Request.trigger id) := by
  intro world
  refine ⟨?_, rfl⟩
  have requests : Requests setting (Ask.trigger id) _ id _ := requests_trigger id
  obtain ⟨-, ⟨-, logs, -⟩ | ⟨current, found, -, -, changes⟩⟩ := requests world
  · exact logs.schedule id
  · exact changes.schedule.trans found.symm

theorem asks_recordChange
    (useCaseId actor : String) (change : ScheduleChange) (payload : List (String × Json)) :
    (recordChange useCaseId actor change payload).Asks (Quiet (viewedServer setting id)) := by
  refine Script.Asks.bind (Script.Asks.ask quiet_stamp) fun stamp => ?_
  refine Script.Asks.bind trivial fun event => ?_
  exact Script.Asks.bind (Script.Asks.ask (quiet_append event)) fun _ => trivial

theorem asks_recordWhen
    (changed : Bool) (useCaseId actor : String) (change : ScheduleChange)
    (payload : List (String × Json)) :
    (recordWhen changed (recordChange useCaseId actor change payload)).Asks
      (Quiet (viewedServer setting id)) := by
  rcases changed with _ | _
  · trivial
  · exact asks_recordChange useCaseId actor change payload

theorem asks_describeDriftSchedule (text : PyText) (useCaseId : String) :
    (describeDriftSchedule text useCaseId).Asks
      (Quiet (viewedServer setting (driftScheduleId useCaseId))) := by
  refine Script.Asks.bind (Script.Asks.ask quiet_describe) fun described => ?_
  exact Script.Asks.bind trivial fun description => trivial

/-- A trigger makes quiet requests only: the schedule stays what it is. -/
theorem asks_triggerDriftSchedule (text : PyText) (useCaseId actor : String) :
    (triggerDriftSchedule text useCaseId actor).Asks
      (Quiet (viewedServer setting (driftScheduleId useCaseId))) := by
  refine Script.Asks.bind (asks_describeDriftSchedule text useCaseId) fun view => ?_
  split_ifs
  · trivial
  · refine Script.Asks.bind ?_ fun _ => trivial
    refine Script.Asks.bind (Script.Asks.ask quiet_trigger) fun answered => ?_
    exact Script.Asks.bind trivial fun _ => asks_recordChange _ _ _ _

end Quiet

section Effects

variable {setting : Setting} {text : PyText} {useCaseId : String}
variable {effect : Option Schedule → Option Schedule}

/-- A call took effect, or failed before it did. -/
def Finished {Result : Type}
    (later : Phase (Option Schedule)) (ending : Except ScheduleError Result) : Prop :=
  (later = .written ∨ ∃ seen, later = .settled seen) ∨
    later = .fresh ∧ ∃ failure, ending = .error failure

/-- What is left of a call that took effect, or failed. -/
theorem follows_rest
    {Result Next : Type} {id : String} {first : Operation Result} {rest : Result → Operation Next}
    {phase : Phase (Option Schedule)}
    (follows : Follows (viewedServer setting id) effect (fun later ending =>
      Finished later ending) first phase)
    (quiet : ∀ result, (rest result).Asks (Quiet (viewedServer setting id))) :
    Follows (viewedServer setting id) effect (fun later ending => later.Ends ending)
      (first >>= rest) phase := by
  refine follows.bind ?_ ?_
  · rintro later result (effective | ⟨-, failure, impossible⟩)
    · exact follows_of_quiet (quiet result) effective
    · cases impossible
  · rintro later failure ((rfl | ⟨seen, rfl⟩) | ⟨rfl, -⟩)
    · trivial
    · trivial
    · exact ⟨failure, rfl⟩

/-- A request about a schedule is refused, or is a write with this effect. -/
theorem moves_acceptFound
    {request : Request} {change : Entry → Option Entry} {id : String}
    (effective : ∀ entry, (change entry).map Entry.schedule = effect (some entry.schedule))
    (translate : RpcError → ScheduleError) (world : World) :
    ∃ later, Phase.Moves effect .fresh (world.schedule id)
        ((acceptFound setting request id change world).2.schedule id)
        (acceptFound setting request id change world).1.isOk later ∧
      Finished later ((acceptFound setting request id change world).1.mapError translate) := by
  rw [acceptFound]
  rcases found : setting.found id world with error | entry
  · exact ⟨.fresh, .reads _, Or.inr ⟨rfl, _, rfl⟩⟩
  · have changed : (world.tick.accept request id (change entry)).schedule id =
        effect (world.schedule id) := by
      rw [schedule_of_stored (found_eq_ok found), ← effective]
      simp [World.schedule, World.accept]
    refine ⟨.written, ?_, Or.inl (Or.inl rfl)⟩
    simp only [changed]
    exact .writes _

/-- An update that read what it replaces, or finds nothing left. -/
theorem moves_replace
    {id : String} {current replacement : Schedule}
    (effective : effect (some current) = some replacement)
    (translate : RpcError → ScheduleError) (world : World)
    (undisturbed : world.schedule id = some current ∨ (world.schedule id).isNone = true) :
    ∃ later, Phase.Moves effect (.held (some current)) (world.schedule id)
        ((serve setting (.replace id replacement) world).2.schedule id)
        (serve setting (.replace id replacement) world).1.isOk later ∧
      Finished later ((serve setting (.replace id replacement) world).1.mapError translate) := by
  simp only [serve, acceptFound]
  rcases found : setting.found id world with error | entry
  · exact ⟨.fresh, .refused _ _, Or.inr ⟨rfl, _, rfl⟩⟩
  · have stored := schedule_of_stored (found_eq_ok found)
    rcases undisturbed with same | gone
    · have changed : (world.tick.accept (.replace id replacement) id
          (some { entry with schedule := replacement })).schedule id =
          effect (world.schedule id) := by
        rw [same, effective]
        simp [World.schedule, World.accept]
      refine ⟨.written, ?_, Or.inl (Or.inl rfl)⟩
      simp only [changed, same]
      exact .replaces _
    · rw [stored] at gone
      cases gone

/-- An update takes effect at its replacement, or at its description. -/
theorem follows_update
    {Seen : Type} {translate : RpcError → ScheduleError} {updater : Updater Seen}
    (keeps : ∀ current seen, updater current = .ok (seen, none) →
      effect (some current) = some current)
    (replaces : ∀ current seen replacement, updater current = .ok (seen, some replacement) →
      effect (some current) = some replacement) :
    Follows (viewedServer setting (driftScheduleId useCaseId)) effect Finished
      (update useCaseId translate updater) .fresh := by
  refine follows_asks fun world => ?_
  show ∃ later, Phase.Moves effect .fresh (world.schedule _) (world.schedule _) false later ∧ _
  simp only [viewedServer, scheduleServer, serve]
  rcases found : setting.found (driftScheduleId useCaseId) world with error | entry
  · exact ⟨.fresh, .reads _, Or.inr ⟨rfl, _, rfl⟩⟩
  · have stored := schedule_of_stored (found_eq_ok found)
    rcases updated : updater entry.schedule with error | ⟨seen, _ | replacement⟩
    · refine ⟨.fresh, .reads _, ?_⟩
      show Follows _ effect _ (Script.ofExcept (updater entry.schedule) >>= _) _
      rw [updated]
      exact Or.inr ⟨rfl, error, rfl⟩
    · refine ⟨.settled (world.schedule _), .settles ?_, ?_⟩
      · rw [stored]
        exact keeps _ seen updated
      · show Follows _ effect _ (Script.ofExcept (updater entry.schedule) >>= _) _
        rw [updated]
        exact Or.inl (Or.inr ⟨_, rfl⟩)
    · refine ⟨.held (world.schedule _), .holds _, ?_⟩
      show Follows _ effect _ (Script.ofExcept (updater entry.schedule) >>= _) _
      rw [updated, stored]
      refine follows_replaces rfl fun later undisturbed => ?_
      obtain ⟨phase, moves, finished⟩ :=
        moves_replace (replaces _ seen _ updated) translate later undisturbed
      refine ⟨phase, moves, ?_⟩
      show Follows _ effect _
        (Script.ofExcept ((serve setting (.replace _ replacement) later).1.mapError translate) >>= _)
        _
      generalize (serve setting (.replace _ replacement) later).1.mapError translate = ending
        at finished ⊢
      rcases ending with failure | done
      · apply finished.imp_right
        rintro ⟨fresh, -⟩
        exact ⟨fresh, failure, rfl⟩
      · apply finished.imp_right
        rintro ⟨-, _, impossible⟩
        cases impossible

/-- Once an effect is all there is to come, the rest of a call only reads and records. -/
theorem follows_forget
    {Result : Type} {id : String} {operation : Operation Result} {phase : Phase (Option Schedule)}
    (follows : Follows (viewedServer setting id) effect
      (fun later ending => later.Ends ending) operation phase) :
    Follows (viewedServer setting id) effect (fun later ending => later.Ends ending)
      (do
        let _ ← operation) phase := by
  refine follows.bind (fun later result ends => ?_) fun later failure ends => ?_
  · rcases later with _ | seen | seen | _
    · obtain ⟨failure, impossible⟩ := ends
      cases impossible
    · obtain ⟨failure, impossible⟩ := ends
      cases impossible
    · trivial
    · trivial
  · rcases later with _ | seen | seen | _
    · exact ⟨failure, rfl⟩
    · exact ⟨failure, rfl⟩
    · trivial
    · trivial

end Effects

section Calls

variable {setting : Setting} {text : PyText}

/-- A call follows its effect on the schedule it is about. -/
def Call.FollowsEffect (setting : Setting) (text : PyText) (call : Call) : Prop :=
  Follows (viewedServer setting call.scheduleId) (call.effect setting)
    (fun later ending => later.Ends ending) (call.script text) .fresh

theorem requestAndRecord_eq
    (useCaseId actor : String) (requested : Operation (Except RpcError Unit))
    (change : ScheduleChange) (payload : List (String × Json)) :
    requestAndRecord text useCaseId actor requested change payload =
      (requested >>= fun answered =>
        Script.ofExcept (answered.mapError (refused text useCaseId))) >>= fun _ =>
        recordChange useCaseId actor change payload :=
  (Script.bind_assoc _ _ _).symm

theorem pause_follows (useCaseId reason actor : String) :
    (Call.pause useCaseId reason actor).FollowsEffect setting text := by
  rw [Call.FollowsEffect, Call.script, pauseDriftSchedule]
  split_ifs with reasoned
  · rw [requestAndRecord_eq]
    refine follows_rest (follows_asks fun world => ?_) fun _ => asks_recordChange _ _ _ _
    refine moves_acceptFound (fun entry => ?_) _ world
    simp [Call.effect, Call.change?, reasoned, foundChange]
  · exact ⟨_, rfl⟩

theorem resume_follows (useCaseId actor : String) (note : Option String) :
    (Call.resume useCaseId actor note).FollowsEffect setting text := by
  rw [Call.FollowsEffect, Call.script, resumeDriftSchedule, requestAndRecord_eq]
  refine follows_rest (follows_asks fun world => ?_) fun _ => asks_recordChange _ _ _ _
  exact moves_acceptFound (fun _ => rfl) _ world

theorem delete_follows (useCaseId actor : String) :
    (Call.delete useCaseId actor).FollowsEffect setting text := by
  rw [Call.FollowsEffect, Call.script, deleteDriftSchedule, requestAndRecord_eq]
  refine follows_rest (follows_asks fun world => ?_) fun _ => asks_recordChange _ _ _ _
  exact moves_acceptFound (fun _ => rfl) _ world

theorem set_follows (useCaseId : String) (mode : DriftResponseMode) (actor : String) :
    (Call.set useCaseId mode actor).FollowsEffect setting text := by
  refine follows_forget (follows_rest (follows_update ?_ ?_) fun previous => ?_)
  · intro current seen kept
    exact Call.effect_of_none (change?_set_kept kept)
  · intro current seen replacement replaced
    exact Call.effect_of_some (change?_set_updated replaced)
  · exact Script.Asks.bind (asks_recordWhen _ _ _ _ _) fun _ => asks_describeDriftSchedule _ _

/-- A trigger changes no schedule, whatever it is answered. -/
theorem trigger_follows (useCaseId actor : String) :
    (Call.trigger useCaseId actor).FollowsEffect setting text := by
  refine follows_forget ?_
  exact follows_of_idle effect_trigger (asks_triggerDriftSchedule text useCaseId actor)

/-- A schedule that exists already is updated. -/
theorem updates_follow
    {useCaseId taskQueue : String} {interval : Duration} {schedule : Schedule}
    (built : buildDriftSchedule useCaseId interval taskQueue .report = .ok schedule)
    (actor : String) :
    Follows (viewedServer setting (driftScheduleId useCaseId))
      ((Call.ensure useCaseId taskQueue actor interval).effect setting)
      (fun later ending => later.Ends ending)
      (update useCaseId .rpcError (intervalUpdater interval) >>= fun previous =>
        recordWhen (previous ≠ some interval)
          (recordChange useCaseId actor .intervalChanged
            [("from_seconds", .ofInt? (previous.map totalSeconds)),
              ("to_seconds", .int (totalSeconds interval))]) >>= fun _ =>
          describeDriftSchedule text useCaseId) .fresh := by
  refine follows_rest (follows_update ?_ ?_) fun previous => ?_
  · intro current seen kept
    exact Call.effect_of_none (change?_ensure_kept built kept)
  · intro current seen replacement replaced
    exact Call.effect_of_some (change?_ensure_updated built replaced)
  · exact Script.Asks.bind (asks_recordWhen _ _ _ _ _) fun _ => asks_describeDriftSchedule _ _

theorem serve_createSchedule (world : World) (id : String) (schedule : Schedule) :
    (∃ error, serve setting (.createSchedule id schedule) world =
        (.error (.rpcError error), world.tick)) ∨
      serve setting (.createSchedule id schedule) world = (.error .alreadyRunning, world.tick) ∨
      world.schedule id = none ∧ ∃ after,
        serve setting (.createSchedule id schedule) world = (.ok (), after) ∧
          after.schedule id = some schedule := by
  simp only [serve]
  rcases (setting.now world).refusal with _ | error
  · rcases stored : world.schedules id with _ | entry
    · refine Or.inr (Or.inr ⟨?_, _, rfl, ?_⟩)
      · rw [World.schedule, stored]
        rfl
      · simp [World.schedule, World.accept]
    · exact Or.inr (Or.inl rfl)
  · exact Or.inl ⟨error, rfl⟩

theorem ensure_follows (useCaseId taskQueue actor : String) (interval : Duration) :
    (Call.ensure useCaseId taskQueue actor interval).FollowsEffect setting text := by
  refine follows_forget ?_
  rw [ensureDriftSchedule]
  rcases built : buildDriftSchedule useCaseId interval taskQueue .report with error | schedule
  · exact ⟨error, rfl⟩
  · refine follows_asks fun world => ?_
    simp only [viewedServer, scheduleServer]
    rcases serve_createSchedule world (driftScheduleId useCaseId) schedule with
      ⟨error, served⟩ | served | ⟨missing, after, served, stored⟩
    · rw [served]
      exact ⟨.fresh, .reads _, _, rfl⟩
    · rw [served]
      exact ⟨.fresh, .reads _, updates_follow built actor⟩
    · have created : (Call.ensure useCaseId taskQueue actor interval).effect setting
          (world.schedule (driftScheduleId useCaseId)) = some schedule := by
        rw [missing]
        exact Call.effect_of_some (change?_ensure_absent built)
      rw [served]
      refine ⟨.written, ?_, follows_of_quiet ?_ (Or.inl rfl)⟩
      · show Phase.Moves _ .fresh _ (after.schedule (driftScheduleId useCaseId)) true .written
        rw [stored, ← created]
        exact .writes _
      · have quiet : Script.Asks (Quiet (viewedServer setting (driftScheduleId useCaseId)))
            (recordChange useCaseId actor .created
              [("interval_seconds", .int (totalSeconds interval)),
                ("mode", .str DriftResponseMode.report.value)] >>= fun _ =>
              describeDriftSchedule text useCaseId) :=
          Script.Asks.bind (asks_recordChange _ _ _ _) fun _ => asks_describeDriftSchedule _ _
        exact quiet

/-- Every call takes its effect at one of its requests. -/
theorem call_follows (call : Call) : call.FollowsEffect setting text := by
  cases call with
  | ensure useCaseId taskQueue actor interval =>
      exact ensure_follows useCaseId taskQueue actor interval
  | set useCaseId mode actor => exact set_follows useCaseId mode actor
  | pause useCaseId reason actor => exact pause_follows useCaseId reason actor
  | resume useCaseId actor note => exact resume_follows useCaseId actor note
  | trigger useCaseId actor => exact trigger_follows useCaseId actor
  | delete useCaseId actor => exact delete_follows useCaseId actor

end Calls

end Snapl.Orchestrator.Schedules
