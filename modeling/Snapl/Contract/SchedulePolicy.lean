import Snapl.Orchestrator.ScheduleHistory

/-!
# The policy of drift schedules

What holds of every schedule after every history of calls: it is stored under
its own use case, runs at one interval of a minute or more, catches up at most
one interval, skips overlapping runs and bounds each run.  It repairs only if
it was switched to do so after it was last created, and not switched back
since.
-/

namespace Snapl.Orchestrator.Schedules

open Snapl.Library Snapl.Intent

theorem driftScheduleId_injective : Function.Injective driftScheduleId := by
  intro first second same
  exact (String.append_right_inj "drift-response-").1 same

/-- What holds of the schedule of a use case. -/
structure Conforms (useCaseId : String) (schedule : Schedule) : Prop where
  request : ∃ request : DriftResponseRequest, schedule.action.args = .ok request ∧
    request.useCaseId = useCaseId ∧ request.scheduleId = driftScheduleId useCaseId
  action : schedule.action.id = driftScheduleId useCaseId
  interval : ∃ interval, minScanInterval ≤ interval ∧ schedule.spec.intervals = [interval] ∧
    schedule.policy.catchupWindow = interval
  overlap : schedule.policy.overlap = .skip
  timeout : schedule.action.executionTimeout = some runTimeout

namespace Conforms

variable {setting : Setting} {useCaseId taskQueue : String} {mode : DriftResponseMode}
variable {acted : ScheduleAction} {schedule : Schedule}

theorem created
    {interval : Duration} (long : minScanInterval ≤ interval)
    (built : Schedules.action useCaseId mode taskQueue = .ok acted) :
    Conforms useCaseId (freshSchedule interval acted) := by
  obtain ⟨request, rfl, -, rfl⟩ := action_eq_ok built
  exact ⟨⟨request, rfl, rfl, request.scheduled⟩, rfl, ⟨interval, long, rfl, rfl⟩, rfl, rfl⟩

theorem retimed
    {interval : Duration} (conforms : Conforms useCaseId schedule)
    (long : minScanInterval ≤ interval) :
    Conforms useCaseId (Schedules.retimed interval schedule) :=
  ⟨conforms.request, conforms.action, ⟨interval, long, rfl, rfl⟩, conforms.overlap, rfl⟩

theorem switched
    (conforms : Conforms useCaseId schedule)
    (built : Schedules.action useCaseId mode taskQueue = .ok acted) :
    Conforms useCaseId { schedule with action := acted } := by
  obtain ⟨request, rfl, -, rfl⟩ := action_eq_ok built
  exact ⟨⟨request, rfl, rfl, request.scheduled⟩, rfl, conforms.interval, conforms.overlap, rfl⟩

theorem withState
    (conforms : Conforms useCaseId schedule) (state : ScheduleState) :
    Conforms useCaseId { schedule with state := state } :=
  ⟨conforms.request, conforms.action, conforms.interval, conforms.overlap, conforms.timeout⟩

end Conforms

/-- A change makes a conforming schedule of a conforming one. -/
theorem Makes.conforms
    {setting : Setting} {call : Call} {current : Option Schedule} {change : Change}
    (makes : Makes setting call current change)
    (before : ∀ schedule, current = some schedule → Conforms call.useCaseId schedule) :
    ∀ schedule, change.schedule = some schedule → Conforms call.useCaseId schedule := by
  intro schedule made
  cases makes with
  | created long built =>
      cases made
      exact .created long built
  | retimed long outdated =>
      cases made
      exact (before _ rfl).retimed long
  | switched decoded differs built =>
      cases made
      exact (before _ rfl).switched built
  | paused reasoned =>
      cases made
      exact (before _ rfl).withState _
  | resumed =>
      cases made
      exact (before _ rfl).withState _
  | triggered viewed =>
      cases made
      exact before _ rfl
  | deleted => cases made

/-- Every schedule is stored under its own use case. -/
def World.Orderly (world : World) : Prop :=
  ∀ id schedule, world.schedule id = some schedule →
    ∃ useCaseId, id = driftScheduleId useCaseId ∧ Conforms useCaseId schedule

section Calls

variable {text : PyText} {setting : Setting}

/-- No call changes the schedule of another use case. -/
theorem perform_others
    (world : World) (call : Call) {id : String} (other : id ≠ call.scheduleId) :
    (perform text setting world call).schedules id = world.schedules id := by
  rcases perform_cases world call with logs | ⟨change, applied⟩
  · rw [logs.schedules]
  · exact applied.others id other

theorem perform_others_schedule
    (world : World) (call : Call) {id : String} (other : id ≠ call.scheduleId) :
    (perform text setting world call).schedule id = world.schedule id := by
  rw [World.schedule, perform_others world call other]
  rfl

theorem perform_orderly (world : World) (call : Call) (orderly : world.Orderly) :
    (perform text setting world call).Orderly := by
  intro id schedule stored
  by_cases same : id = call.scheduleId
  · rcases perform_cases world call with
      logs | ⟨change, applied⟩
    · exact orderly id schedule ((logs.schedule id).symm.trans stored)
    · subst same
      refine ⟨call.useCaseId, rfl, ?_⟩
      refine (makes_of_change? applied.found).conforms ?_ schedule
        (applied.schedule.symm.trans stored)
      intro current found
      obtain ⟨useCaseId, identified, conforms⟩ := orderly _ _ found
      rwa [driftScheduleId_injective identified]
  · exact orderly id schedule ((perform_others_schedule world call same).symm.trans stored)

theorem empty_orderly : World.empty.Orderly := by
  intro id schedule stored
  rw [World.empty_schedule] at stored
  cases stored

theorem history_orderly (calls : List Call) : (history text setting calls).Orderly :=
  history_invariant empty_orderly
    (fun world call _ => perform_orderly world call) calls fun _ _ => trivial

/-- Ensuring a schedule that exists keeps its response, its pause and its note. -/
theorem ensure_keeps
    (world : World) (useCaseId taskQueue actor : String) (interval : Duration)
    {current : Schedule} (found : world.schedule (driftScheduleId useCaseId) = some current) :
    ∃ after, (perform text setting world (.ensure useCaseId taskQueue actor interval)).schedule
        (driftScheduleId useCaseId) = some after ∧
      after.action.args = current.action.args ∧ after.state = current.state := by
  rcases perform_cases world
    (.ensure useCaseId taskQueue actor interval) with logs | ⟨change, applied⟩
  · exact ⟨current, (logs.schedule _).trans found, rfl, rfl⟩
  · have makes := makes_of_change? applied.found
    have after := applied.schedule
    rw [show world.schedule (Call.ensure useCaseId taskQueue actor interval).scheduleId =
      some current from found] at makes
    cases makes
    exact ⟨_, after, rfl, rfl⟩

/-- Setting the response keeps the interval, the policy, the pause and the note. -/
theorem set_keeps
    (world : World) (useCaseId : String) (mode : DriftResponseMode) (actor : String)
    {current : Schedule} (found : world.schedule (driftScheduleId useCaseId) = some current) :
    ∃ after, (perform text setting world (.set useCaseId mode actor)).schedule
        (driftScheduleId useCaseId) = some after ∧
      after.spec = current.spec ∧ after.policy = current.policy ∧ after.state = current.state := by
  rcases perform_cases world (.set useCaseId mode actor) with
    logs | ⟨change, applied⟩
  · exact ⟨current, (logs.schedule _).trans found, rfl, rfl, rfl⟩
  · have makes := makes_of_change? applied.found
    have after := applied.schedule
    rw [show world.schedule (Call.set useCaseId mode actor).scheduleId = some current
      from found] at makes
    cases makes
    exact ⟨_, after, rfl, rfl, rfl⟩

end Calls

/-- The runs of a schedule repair what they find. -/
def Schedule.Remediates (schedule : Schedule) : Prop :=
  ∃ request, schedule.action.args = .ok request ∧ request.mode = .remediate

section Switches

variable (text : PyText) (setting : Setting)

/-- Temporal accepts a change of the call. -/
def Accepts (world : World) (call : Call) : Prop :=
  ∃ request, (perform text setting world call).accepted = world.accepted ++ [request]

/-- Temporal accepts that the call creates a schedule. -/
def Creates (world : World) (call : Call) : Prop :=
  ∃ id schedule, (perform text setting world call).accepted =
    world.accepted ++ [.createSchedule id schedule]

/-- A call that neither creates the use case's schedule nor switches it back to report. -/
structure LeavesSwitched (world : World) (call : Call) (useCaseId : String) : Prop where
  created : call.useCaseId = useCaseId → ¬Creates text setting world call
  report : ∀ actor, call = .set useCaseId .report actor →
    ¬Accepts text setting world call ∧ ∃ error, result text setting world call = .error error

/--
A set to remediate was accepted, and no later call created the schedule or set
it back to report.
-/
def SwitchedToRemediate (calls : List Call) (useCaseId : String) : Prop :=
  ∃ before actor after, calls = before ++ .set useCaseId .remediate actor :: after ∧
    Accepts text setting (history text setting before) (.set useCaseId .remediate actor) ∧
    ∀ earlier call later, after = earlier ++ call :: later →
      LeavesSwitched text setting
        (history text setting (before ++ .set useCaseId .remediate actor :: earlier))
        call useCaseId

variable {text setting}

theorem SwitchedToRemediate.concat
    {calls : List Call} {call : Call} {useCaseId : String}
    (switched : SwitchedToRemediate text setting calls useCaseId)
    (leaves : LeavesSwitched text setting (history text setting calls) call useCaseId) :
    SwitchedToRemediate text setting (calls ++ [call]) useCaseId := by
  obtain ⟨before, actor, after, rfl, accepts, kept⟩ := switched
  refine ⟨before, actor, after ++ [call], by simp, accepts, ?_⟩
  intro earlier other later split
  rcases List.eq_nil_or_concat later with rfl | ⟨rest, last, rfl⟩
  · obtain ⟨rfl, same⟩ := List.append_inj' split rfl
    cases same
    exact leaves
  · have shifted : after ++ [call] = (earlier ++ other :: rest) ++ [last] := by
      simpa using split
    obtain ⟨rfl, -⟩ := List.append_inj' shifted rfl
    exact kept earlier other rest rfl

variable {world : World} {call : Call} {useCaseId : String}

theorem accepted_ne_concat {request : Request} (accepted : List Request) :
    accepted ≠ accepted ++ [request] := by
  intro same
  have longer := congrArg List.length same
  simp at longer

theorem not_accepts_of_logs (logs : world.Logs (perform text setting world call) []) :
    ¬Accepts text setting world call := by
  rintro ⟨request, accepted⟩
  exact accepted_ne_concat _ (logs.accepted.symm.trans accepted)

theorem not_creates_of_logs (logs : world.Logs (perform text setting world call) []) :
    ¬Creates text setting world call := by
  rintro ⟨id, schedule, accepted⟩
  exact accepted_ne_concat _ (logs.accepted.symm.trans accepted)

theorem not_creates_of_applied
    {change : Change} (applied : Applied setting call change world (perform text setting world call))
    (other : ∀ id schedule, change.request ≠ .createSchedule id schedule) :
    ¬Creates text setting world call := by
  rintro ⟨id, schedule, accepted⟩
  have same := List.append_cancel_left (applied.accepted.symm.trans accepted)
  exact other id schedule (List.singleton_inj.1 same)

/-- Setting a repairing schedule to report is a change, or is refused. -/
theorem set_report_of_logs
    {actor : String} {current : Schedule}
    (found : world.schedule (driftScheduleId useCaseId) = some current)
    (conforms : Conforms useCaseId current) (remediates : current.Remediates)
    (logs : world.Logs (perform text setting world (.set useCaseId .report actor)) []) :
    ∃ error, result text setting world (.set useCaseId .report actor) = .error error := by
  obtain ⟨request, decoded, mode⟩ := remediates
  obtain ⟨other, decoded', owner, -⟩ := conforms.request
  cases decoded.symm.trans decoded'
  have differs : request.mode ≠ .report := by
    rw [mode]
    nofun
  have named : useCaseId ≠ "" := owner ▸ request.nonempty
  obtain ⟨acted, built, updated⟩ := modeUpdater_switches named decoded differs
  have change := (congrArg ((Call.set useCaseId .report actor).change? setting) found).trans
    (change?_set_updated updated)
  have outcome : Outcome setting _ world _ (perform text setting world _) :=
    perform_outcome world (.set useCaseId .report actor)
  cases outcome with
  | same kept idle =>
      rcases effect_of_idle idle with unchanged | ⟨-, raised⟩
      · -- the action that would be stored reports, the one that is stored repairs
        obtain ⟨rebuilt, -, reports, rfl⟩ := action_eq_ok built
        have same := ((Call.effect_of_some change).symm.trans unchanged).trans found
        have args := congrArg (fun schedule : Schedule => schedule.action.args)
          (Option.some.inj same)
        have equal : rebuilt = request := Except.ok.inj (args.trans decoded)
        rw [equal, mode] at reports
        cases reports
      · exact raised
  | applied applied =>
      exact absurd (logs.accepted.symm.trans applied.accepted) (accepted_ne_concat _)

/-- A call that made its change and left a schedule that repairs. -/
theorem switched_of_applied
    {calls : List Call} {call : Call} {change : Change} {schedule : Schedule}
    (applied : Applied setting call change (history text setting calls)
      (perform text setting (history text setting calls) call))
    (after : change.schedule = some schedule) (remediates : schedule.Remediates)
    (earlier : ∀ before, (history text setting calls).schedule call.scheduleId = some before →
      before.Remediates → SwitchedToRemediate text setting calls call.useCaseId) :
    SwitchedToRemediate text setting (calls ++ [call]) call.useCaseId := by
  have makes := makes_of_change? applied.found
  have kept : ∀ before, (history text setting calls).schedule call.scheduleId = some before →
      before.Remediates → (∀ id other, change.request ≠ .createSchedule id other) →
      (∀ actor, call ≠ .set call.useCaseId .report actor) →
      SwitchedToRemediate text setting (calls ++ [call]) call.useCaseId := by
    intro before found repaired another unset
    refine (earlier before found repaired).concat
      ⟨fun _ => not_creates_of_applied applied another, ?_⟩
    intro actor same
    exact absurd same (unset actor)
  generalize found : (history text setting calls).schedule call.scheduleId = current at makes
  cases makes with
  | created long built =>
      obtain ⟨request, -, reports, rfl⟩ := action_eq_ok built
      obtain ⟨stored, decoded, repairs⟩ := remediates
      cases after
      cases decoded
      rw [reports] at repairs
      cases repairs
  | retimed long outdated =>
      cases after
      exact kept _ found remediates (by simp) (by simp)
  | @switched useCaseId actor mode current request acted decoded differs built =>
      obtain ⟨rebuilt, -, turned, rfl⟩ := action_eq_ok built
      obtain ⟨stored, decoded, repairs⟩ := remediates
      cases after
      cases decoded
      rw [turned] at repairs
      subst repairs
      refine ⟨calls, actor, [], rfl, ⟨_, applied.accepted⟩, ?_⟩
      intro earlier other later empty
      exact absurd empty.symm (List.append_ne_nil_of_right_ne_nil _ (List.cons_ne_nil _ _))
  | paused reasoned =>
      cases after
      exact kept _ found remediates (by simp) (by simp)
  | resumed =>
      cases after
      exact kept _ found remediates (by simp) (by simp)
  | triggered viewed =>
      cases after
      exact kept _ found remediates (by simp) (by simp)
  | deleted => cases after

/-- A history after which a schedule repairs has switched it to. -/
theorem switched_of_remediates
    (calls : List Call) (useCaseId : String) {schedule : Schedule}
    (stored : (history text setting calls).schedule (driftScheduleId useCaseId) = some schedule)
    (remediates : schedule.Remediates) :
    SwitchedToRemediate text setting calls useCaseId := by
  induction calls using List.reverseRecOn generalizing schedule with
  | nil =>
      rw [history, List.foldl_nil, World.empty_schedule] at stored
      cases stored
  | append_singleton calls call inductionHypothesis =>
      rw [history_concat] at stored
      by_cases own : call.useCaseId = useCaseId
      · rcases perform_cases (history text setting calls) call
          with logs | ⟨change, applied⟩
        · have before := (logs.schedule _).symm.trans stored
          refine (inductionHypothesis before remediates).concat ⟨fun _ => ?_, ?_⟩
          · exact not_creates_of_logs logs
          · rintro actor rfl
            obtain ⟨owner, identified, conforms⟩ := history_orderly calls _ _ before
            rw [← driftScheduleId_injective identified] at conforms
            exact ⟨not_accepts_of_logs logs, set_report_of_logs before conforms remediates logs⟩
        · subst own
          exact switched_of_applied applied (applied.schedule.symm.trans stored) remediates
            fun before found => inductionHypothesis found
      · have before := (perform_others_schedule (history text setting calls) call
          fun same => own (driftScheduleId_injective same).symm).symm.trans stored
        refine (inductionHypothesis before remediates).concat
          ⟨fun same => absurd same own, ?_⟩
        rintro actor rfl
        exact absurd rfl own

end Switches

/-- What holds of the schedules after a history, and what one more call leaves as it is. -/
structure HistoryPolicy (text : PyText) (setting : Setting) (calls : List Call) : Prop where
  own : (history text setting calls).Orderly
  unique : ∀ id other schedule otherSchedule request otherRequest,
    (history text setting calls).schedule id = some schedule →
    (history text setting calls).schedule other = some otherSchedule →
    schedule.action.args = .ok request → otherSchedule.action.args = .ok otherRequest →
    request.useCaseId = otherRequest.useCaseId → id = other
  remediate : ∀ useCaseId schedule,
    (history text setting calls).schedule (driftScheduleId useCaseId) = some schedule →
    schedule.Remediates → SwitchedToRemediate text setting calls useCaseId
  ensured : ∀ useCaseId taskQueue actor interval current,
    (history text setting calls).schedule (driftScheduleId useCaseId) = some current →
    ∃ after, (history text setting (calls ++ [.ensure useCaseId taskQueue actor interval])).schedule
        (driftScheduleId useCaseId) = some after ∧
      after.action.args = current.action.args ∧ after.state = current.state
  set : ∀ useCaseId mode actor current,
    (history text setting calls).schedule (driftScheduleId useCaseId) = some current →
    ∃ after, (history text setting (calls ++ [.set useCaseId mode actor])).schedule
        (driftScheduleId useCaseId) = some after ∧
      after.spec = current.spec ∧ after.policy = current.policy ∧ after.state = current.state
  others : ∀ call id, id ≠ call.scheduleId →
    (history text setting (calls ++ [call])).schedules id =
      (history text setting calls).schedules id

/-- The schedules of two identifiers are of different use cases. -/
theorem World.Orderly.unique
    {world : World} (orderly : world.Orderly) {id other : String}
    {schedule otherSchedule : Schedule} {request otherRequest : DriftResponseRequest}
    (stored : world.schedule id = some schedule)
    (otherStored : world.schedule other = some otherSchedule)
    (decoded : schedule.action.args = .ok request)
    (otherDecoded : otherSchedule.action.args = .ok otherRequest)
    (same : request.useCaseId = otherRequest.useCaseId) : id = other := by
  obtain ⟨useCaseId, rfl, conforms⟩ := orderly id schedule stored
  obtain ⟨otherUseCaseId, rfl, otherConforms⟩ := orderly other otherSchedule otherStored
  obtain ⟨own, found, owner, -⟩ := conforms.request
  obtain ⟨otherOwn, otherFound, otherOwner, -⟩ := otherConforms.request
  cases decoded.symm.trans found
  cases otherDecoded.symm.trans otherFound
  rw [← owner, ← otherOwner, same]

/-- The policy of drift schedules holds after every history. -/
theorem history_policy (text : PyText) (setting : Setting) (calls : List Call) :
    HistoryPolicy text setting calls where
  own := history_orderly calls
  unique := by
    intro id other schedule otherSchedule request otherRequest stored otherStored
    exact (history_orderly calls).unique stored otherStored
  remediate := by
    intro useCaseId schedule stored remediates
    exact switched_of_remediates calls useCaseId stored remediates
  ensured := by
    intro useCaseId taskQueue actor interval current found
    rw [history_concat]
    exact ensure_keeps _ useCaseId taskQueue actor interval found
  set := by
    intro useCaseId mode actor current found
    rw [history_concat]
    exact set_keeps _ useCaseId mode actor found
  others := by
    intro call id other
    rw [history_concat]
    exact perform_others _ call other

end Snapl.Orchestrator.Schedules
