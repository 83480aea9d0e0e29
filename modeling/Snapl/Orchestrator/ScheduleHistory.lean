import Mathlib.Data.List.Induction
import Snapl.Orchestrator.ScheduleCalls

/-!
# Histories of schedule calls

Calls made one after the other, from a server that has no schedule.  Each call
leaves everything as it was, or makes one of the changes listed here; what
these changes keep holds after every history.
-/

namespace Snapl.Orchestrator.Schedules

open Snapl.Library Snapl.Intent

theorem action_eq_ok
    {useCaseId taskQueue : String} {mode : DriftResponseMode} {built : ScheduleAction}
    (acted : action useCaseId mode taskQueue = .ok built) :
    ∃ request : DriftResponseRequest, request.useCaseId = useCaseId ∧ request.mode = mode ∧
      built = ⟨"DriftResponse", .ok request, driftScheduleId useCaseId, taskQueue,
        some runTimeout, some ("drift response: " ++ mode.value)⟩ := by
  rw [action, DriftResponseRequest.build] at acted
  split_ifs at acted with valid
  · exact ⟨⟨useCaseId, mode, driftScheduleId useCaseId, valid.1, valid.2⟩, rfl, rfl,
      (Except.ok.inj acted).symm⟩
  · cases acted

/-- A schedule as the interval's updater returns it. -/
def retimed (interval : Duration) (current : Schedule) : Schedule :=
  { current with
    action := { current.action with executionTimeout := some runTimeout }
    spec := ⟨[interval]⟩
    policy := { current.policy with catchupWindow := interval } }

/-- A schedule as it is created. -/
def freshSchedule (interval : Duration) (action : ScheduleAction) : Schedule where
  action := action
  spec := ⟨[interval]⟩
  policy := ⟨.skip, interval, false⟩
  state := ⟨none, false⟩

theorem buildDriftSchedule_eq_ok
    {useCaseId taskQueue : String} {interval : Duration} {mode : DriftResponseMode}
    {schedule : Schedule}
    (built : buildDriftSchedule useCaseId interval taskQueue mode = .ok schedule) :
    minScanInterval ≤ interval ∧ ∃ acted, action useCaseId mode taskQueue = .ok acted ∧
      schedule = freshSchedule interval acted := by
  rw [buildDriftSchedule] at built
  split_ifs at built with short
  rcases acted : action useCaseId mode taskQueue with error | result
  · rw [acted] at built
    cases built
  · rw [acted] at built
    exact ⟨not_lt.1 short, result, rfl, (Except.ok.inj built).symm⟩

theorem intervalUpdater_eq_some
    {interval : Duration} {current replacement : Schedule} {seen : Option Duration}
    (updated : intervalUpdater interval current = .ok (seen, some replacement)) :
    seen = current.spec.intervals.head? ∧ replacement = retimed interval current ∧
      (seen = some interval → current.action.executionTimeout ≠ some runTimeout) := by
  rw [intervalUpdater] at updated
  split_ifs at updated with kept
  · cases updated
  · cases updated
    refine ⟨rfl, rfl, ?_⟩
    intro same timed
    exact kept ⟨same, timed⟩

theorem modeUpdater_eq_some
    {useCaseId : String} {mode seen : DriftResponseMode} {current replacement : Schedule}
    (updated : modeUpdater useCaseId mode current = .ok (seen, some replacement)) :
    ∃ request acted, current.action.args = .ok request ∧ seen = request.mode ∧
      request.mode ≠ mode ∧ action useCaseId mode current.action.taskQueue = .ok acted ∧
      replacement = { current with action := acted } := by
  have differs : seen ≠ mode := fun same => by
    cases (modeUpdater_replaces updated).2 same
  rw [modeUpdater] at updated
  rcases decoded : current.action.args with error | request
  · rw [decoded] at updated
    cases updated
  · rw [decoded] at updated
    change (if request.mode = mode then (Except.ok (request.mode, none) :
      Except ScheduleError (DriftResponseMode × Option Schedule)) else _) = _ at updated
    split_ifs at updated with same
    · cases updated
    · rcases acted : action useCaseId mode current.action.taskQueue with error | rebuilt
      · rw [acted] at updated
        cases updated
      · rw [acted] at updated
        cases updated
        exact ⟨request, rebuilt, rfl, rfl, differs, rfl, rfl⟩

/-- A schedule whose mode is another one is replaced. -/
theorem modeUpdater_switches
    {useCaseId : String} {mode : DriftResponseMode} {current : Schedule}
    {request : DriftResponseRequest} (named : useCaseId ≠ "")
    (decoded : current.action.args = .ok request) (differs : request.mode ≠ mode) :
    ∃ acted, action useCaseId mode current.action.taskQueue = .ok acted ∧
      modeUpdater useCaseId mode current =
        .ok (request.mode, some { current with action := acted }) := by
  have built : ∃ acted, action useCaseId mode current.action.taskQueue = .ok acted := by
    rw [action, DriftResponseRequest.build, dif_pos ⟨named, rfl⟩]
    exact ⟨_, rfl⟩
  obtain ⟨acted, built⟩ := built
  refine ⟨acted, built, ?_⟩
  rw [modeUpdater, decoded]
  change (if request.mode = mode then (Except.ok (request.mode, none) :
    Except ScheduleError (DriftResponseMode × Option Schedule)) else _) = _
  rw [if_neg differs, built]
  rfl

/-- The changes a call can make of the schedule it finds. -/
inductive Makes (setting : Setting) : Call → Option Schedule → Change → Prop
  | created {useCaseId taskQueue actor : String} {interval : Duration} {acted : ScheduleAction}
      (long : minScanInterval ≤ interval)
      (built : action useCaseId .report taskQueue = .ok acted) :
      Makes setting (.ensure useCaseId taskQueue actor interval) none
        ⟨.createSchedule (driftScheduleId useCaseId) (freshSchedule interval acted),
          some (freshSchedule interval acted),
          some (.created, [("interval_seconds", .int (totalSeconds interval)),
            ("mode", .str DriftResponseMode.report.value)]), 1⟩
  | retimed {useCaseId taskQueue actor : String} {interval : Duration} {current : Schedule}
      (long : minScanInterval ≤ interval)
      (outdated : current.spec.intervals.head? = some interval →
        current.action.executionTimeout ≠ some runTimeout) :
      Makes setting (.ensure useCaseId taskQueue actor interval) (some current)
        ⟨.replace (driftScheduleId useCaseId) (retimed interval current),
          some (retimed interval current),
          if current.spec.intervals.head? ≠ some interval then
            some (.intervalChanged,
              [("from_seconds", .ofInt? (current.spec.intervals.head?.map totalSeconds)),
                ("to_seconds", .int (totalSeconds interval))])
          else none, 3⟩
  | switched {useCaseId actor : String} {mode : DriftResponseMode} {current : Schedule}
      {request : DriftResponseRequest} {acted : ScheduleAction}
      (decoded : current.action.args = .ok request) (differs : request.mode ≠ mode)
      (built : action useCaseId mode current.action.taskQueue = .ok acted) :
      Makes setting (.set useCaseId mode actor) (some current)
        ⟨.replace (driftScheduleId useCaseId) { current with action := acted },
          some { current with action := acted },
          some (.responseChanged,
            [("from", .str request.mode.value), ("to", .str mode.value)]), 2⟩
  | paused {useCaseId reason actor : String} {current : Schedule}
      (reasoned : hasReason reason = true) :
      Makes setting (.pause useCaseId reason actor) (some current)
        ⟨.pause (driftScheduleId useCaseId) reason,
          some { current with state := ⟨setting.pausedNote reason, true⟩ },
          some (.paused, [("reason", .str reason)]), 1⟩
  | resumed {useCaseId actor : String} {note : Option String} {current : Schedule} :
      Makes setting (.resume useCaseId actor note) (some current)
        ⟨.unpause (driftScheduleId useCaseId) note,
          some { current with state := ⟨setting.resumedNote note, false⟩ },
          some (.resumed, [("note", .ofString? note)]), 1⟩
  | triggered {useCaseId actor : String} {current : Schedule} {view : DriftScheduleView}
      (viewed : viewOf ⟨driftScheduleId useCaseId, current, []⟩ = .ok view) :
      Makes setting (.trigger useCaseId actor) (some current)
        ⟨.trigger (driftScheduleId useCaseId), some current,
          some (.triggered, [("mode", .str view.mode.value)]), 2⟩
  | deleted {useCaseId actor : String} {current : Schedule} :
      Makes setting (.delete useCaseId actor) (some current)
        ⟨.delete (driftScheduleId useCaseId), none, some (.deleted, []), 1⟩

section Inversion

variable {setting : Setting} {current : Option Schedule} {change : Change}

theorem makes_ensure
    {useCaseId taskQueue actor : String} {interval : Duration}
    (found : (Call.ensure useCaseId taskQueue actor interval).change? setting current =
      some change) :
    Makes setting (.ensure useCaseId taskQueue actor interval) current change := by
  rcases built : buildDriftSchedule useCaseId interval taskQueue .report with error | schedule
  · rw [Call.change?, built] at found
    cases found
  · obtain ⟨long, acted, performed, rfl⟩ := buildDriftSchedule_eq_ok built
    rcases current with _ | current
    · rw [change?_ensure_absent built] at found
      cases found
      exact .created long performed
    · rcases updated : intervalUpdater interval current with error | ⟨seen, _ | replacement⟩
      · obtain ⟨replacement, updates⟩ := intervalUpdater_ok interval current
        rw [updates] at updated
        cases updated
      · rw [change?_ensure_kept built updated] at found
        cases found
      · rw [change?_ensure_updated built updated] at found
        obtain ⟨rfl, rfl, outdated⟩ := intervalUpdater_eq_some updated
        cases found
        exact .retimed long outdated

theorem makes_set
    {useCaseId actor : String} {mode : DriftResponseMode}
    (found : (Call.set useCaseId mode actor).change? setting current = some change) :
    Makes setting (.set useCaseId mode actor) current change := by
  rcases current with _ | current
  · cases found
  · rcases updated : modeUpdater useCaseId mode current with error | ⟨seen, _ | replacement⟩
    · rw [change?_set_failed updated] at found
      cases found
    · rw [change?_set_kept updated] at found
      cases found
    · rw [change?_set_updated updated] at found
      obtain ⟨request, acted, decoded, rfl, differs, built, rfl⟩ := modeUpdater_eq_some updated
      cases found
      exact .switched decoded differs built

theorem makes_trigger
    {useCaseId actor : String}
    (found : (Call.trigger useCaseId actor).change? setting current = some change) :
    Makes setting (.trigger useCaseId actor) current change := by
  rcases current with _ | current
  · cases found
  · rcases viewed : viewOf ⟨driftScheduleId useCaseId, current, []⟩ with error | view
    · rw [change?_trigger_failed viewed] at found
      cases found
    · rw [change?_trigger viewed] at found
      cases found
      exact .triggered viewed

/-- A call makes no other change than those listed. -/
theorem makes_of_change?
    {call : Call} (found : call.change? setting current = some change) :
    Makes setting call current change := by
  cases call with
  | ensure useCaseId taskQueue actor interval => exact makes_ensure found
  | set useCaseId mode actor => exact makes_set found
  | trigger useCaseId actor => exact makes_trigger found
  | pause useCaseId reason actor =>
      rcases current with _ | current
      · cases found
      · simp only [Call.change?, bind, Option.bind] at found
        split_ifs at found with reasoned
        cases found
        exact .paused reasoned
  | resume useCaseId actor note =>
      rcases current with _ | current
      · cases found
      · cases found
        exact .resumed
  | delete useCaseId actor =>
      rcases current with _ | current
      · cases found
      · cases found
        exact .deleted

end Inversion

/-- A server with no schedule, and an empty audit log. -/
def World.empty : World where
  schedules := fun _ => none
  runs := []
  accepted := []
  events := []
  ticks := 0

theorem World.empty_schedule (id : String) : World.empty.schedule id = none := rfl

section History

variable (text : PyText) (setting : Setting)

/-- The world a call leaves. -/
def perform (world : World) (call : Call) : World :=
  (Script.run (serve setting) (call.script text)).final world

/-- How a call ends. -/
def result (world : World) (call : Call) : Except ScheduleError Unit :=
  (Script.run (serve setting) (call.script text)).ending world

/-- The world after these calls, one after the other. -/
def history (calls : List Call) : World := calls.foldl (perform text setting) World.empty

/-- A schedule that reports every five minutes. -/
def reportingWorld : World :=
  perform PyText.ascii Setting.plain World.empty (.ensure "dc1" "snapl" "ops" 300000000)

variable {text setting}

theorem history_concat (calls : List Call) (call : Call) :
    history text setting (calls ++ [call]) =
      perform text setting (history text setting calls) call := by
  simp [history]

theorem perform_outcome (world : World) (call : Call) :
    Outcome setting call world (result text setting world call) (perform text setting world call) :=
  call_outcome call

/-- A call leaves schedules, requests and log as they were, or makes a change. -/
theorem perform_cases (world : World) (call : Call) :
    world.Logs (perform text setting world call) [] ∨
      ∃ change, Applied setting call change world (perform text setting world call) := by
  have outcome : Outcome setting call world (result text setting world call)
      (perform text setting world call) := perform_outcome world call
  cases outcome with
  | same logs idle => exact Or.inl logs
  | applied applied => exact Or.inr ⟨_, applied⟩

/-- What every call of a kind keeps holds after every history of such calls. -/
theorem history_invariant
    {motive : World → Prop} {kind : Call → Prop} (initial : motive World.empty)
    (kept : ∀ world call, kind call → motive world → motive (perform text setting world call))
    (calls : List Call) (ofKind : ∀ call ∈ calls, kind call) :
    motive (history text setting calls) := by
  induction calls using List.reverseRecOn with
  | nil => exact initial
  | append_singleton calls call inductionHypothesis =>
      rw [history_concat]
      refine kept _ call (ofKind call (by simp)) (inductionHypothesis ?_)
      exact fun earlier member => ofKind earlier (List.mem_append_left _ member)

end History

end Snapl.Orchestrator.Schedules
