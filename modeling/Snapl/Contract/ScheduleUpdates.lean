import Mathlib.Data.List.Permutation
import Snapl.Orchestrator.ScheduleOperators

/-!
# Concurrent updates of a schedule

An update reads a schedule and replaces it as a whole, so that what others
write in between is lost: a pause is undone by a change of the interval.  When
nobody else's write falls between an update's read and its replacement, the
calls that took effect leave what they leave in some serial order.
-/

namespace Snapl.Orchestrator.Schedules

open Snapl.Library Snapl.Intent

/-- The same server, refusing nothing. -/
def Setting.unrefused (setting : Setting) : Setting :=
  { setting with
    circumstance := fun tick => { setting.circumstance tick with refusal := none } }

section Serial

variable (text : PyText) (setting : Setting)

/-- The world after these calls, one after the other. -/
def serially (world : World) (order : List Call) : World :=
  order.foldl (perform text setting) world

variable {text setting}

theorem effect_unrefused (call : Call) (current : Option Schedule) :
    call.effect setting.unrefused current = call.effect setting current := by
  cases call <;> rfl

/-- A call that is not refused has its effect. -/
theorem perform_unrefused (world : World) (call : Call) :
    (perform text setting.unrefused world call).schedule call.scheduleId =
      call.effect setting (world.schedule call.scheduleId) := by
  rw [← effect_unrefused]
  have outcome : Outcome setting.unrefused call world _ (perform text setting.unrefused world call) :=
    perform_outcome world call
  cases outcome with
  | same logs idle =>
      rcases effect_of_idle idle with unchanged | ⟨⟨change, -, refuses⟩, -⟩
      · rw [logs.schedule, unchanged]
      · exact absurd (fun _ _ => rfl) refuses
  | applied applied => rw [applied.schedule, Call.effect_of_some applied.found]

/-- Calls about one schedule, one after the other, have their effects on it. -/
theorem serially_unrefused
    {useCaseId : String} {order : List Call} (about : ∀ call ∈ order, call.useCaseId = useCaseId)
    (world : World) :
    (serially text setting.unrefused world order).schedule (driftScheduleId useCaseId) =
      outcome (Call.effect setting) (world.schedule (driftScheduleId useCaseId)) order := by
  induction order generalizing world with
  | nil => rfl
  | cons call rest inductionHypothesis =>
      have own : call.useCaseId = useCaseId := about call (List.mem_cons_self ..)
      have later := inductionHypothesis
        (fun other member => about other (List.mem_cons_of_mem _ member))
        (perform text setting.unrefused world call)
      subst own
      exact later.trans (congrArg (fun found => outcome (Call.effect setting) found rest)
        (perform_unrefused world call))

end Serial

/-- Operators whose calls are under way at once. -/
abbrev Operators : Type := Pool Call World Request Answer ScheduleError Unit

/-- Calls none of which has made a request. -/
def operators (text : PyText) (world : World) (calls : List Call) : Operators :=
  Pool.start (Call.script text) world calls

/-- Where these moves lead. -/
def interleaved
    (text : PyText) (setting : Setting) (world : World) (calls : List Call)
    (moves : List (Move Happening)) : Operators :=
  (Pool.step (scheduleServer setting)).reached (operators text world calls) moves

/-- The calls that changed the schedule, or ended without a failure. -/
def successful (setting : Setting) (useCaseId : String) (pool : Operators) : List Call :=
  pool.effective (viewedServer setting (driftScheduleId useCaseId))

/-- Nobody changes the schedule while another call is about to replace it, except by deleting it. -/
def undisturbed
    (text : PyText) (setting : Setting) (useCaseId : String) (world : World) (calls : List Call)
    (moves : List (Move Happening)) : Bool :=
  ((Pool.step (scheduleServer setting)).steps (operators text world calls) moves).all
    fun entry => entry.1.calm (viewedServer setting (driftScheduleId useCaseId)) entry.2

/--
Calls on one use case leave what some serial order of the successful ones
leaves, if nobody writes between another's read and its replacement.
-/
theorem calls_serialize
    (text : PyText) (setting : Setting) (useCaseId : String) (world : World) (calls : List Call)
    (moves : List (Move Happening)) (about : ∀ call ∈ calls, call.useCaseId = useCaseId)
    (calm : undisturbed text setting useCaseId world calls moves = true) :
    ∃ order, order.Perm (successful setting useCaseId
        (interleaved text setting world calls moves)) ∧
      (serially text setting.unrefused world order).schedule (driftScheduleId useCaseId) =
        (interleaved text setting world calls moves).state.schedule
          (driftScheduleId useCaseId) := by
  have follows : ∀ call ∈ calls,
      Follows (viewedServer setting (driftScheduleId useCaseId)) (call.effect setting)
        (fun later ending => later.Ends ending) (call.script text) .fresh := by
    intro call member
    rw [← about call member]
    exact call_follows call
  obtain ⟨order, perm, leaves⟩ := exists_serial_order follows (List.all_eq_true.1 calm)
  refine ⟨order, perm, ?_⟩
  have member : ∀ call ∈ order, call.useCaseId = useCaseId := by
    intro call member
    obtain ⟨client, among, effective⟩ := List.mem_filterMap.1 (perm.mem_iff.1 member)
    have own : client.command = call := by
      rw [Client.effective?] at effective
      split_ifs at effective
      exact Option.some.inj effective
    have known : client.command ∈
        (interleaved text setting world calls moves).commands := List.mem_map_of_mem among
    rw [interleaved, Pool.commands_reached, operators, Pool.commands_start, own] at known
    exact about call known
  exact (serially_unrefused member world).trans leaves

/-- A pause that comes after the change of the interval is kept. -/
theorem later_pause_serializes :
    ∃ order, order.Perm (successful Setting.plain "dc1"
        (interleaved PyText.ascii Setting.plain World.empty
          [.ensure "dc1" "snapl" "ops" 300000000, .pause "dc1" "maintenance" "noc"]
          [.client 0, .client 0, .client 1, .client 0, .client 0, .client 1, .client 1])) ∧
      (serially PyText.ascii Setting.plain.unrefused World.empty order).schedule
          (driftScheduleId "dc1") =
        (interleaved PyText.ascii Setting.plain World.empty
          [.ensure "dc1" "snapl" "ops" 300000000, .pause "dc1" "maintenance" "noc"]
          [.client 0, .client 0, .client 1, .client 0, .client 0, .client 1,
            .client 1]).state.schedule (driftScheduleId "dc1") :=
  calls_serialize PyText.ascii Setting.plain "dc1" World.empty _ _ (by decide) (by decide +kernel)

/-- A change of the interval, and a pause, of one schedule. -/
def retimeAndPause : List Call :=
  [.ensure "dc1" "snapl" "ops" 600000000, .pause "dc1" "maintenance" "noc"]

/-- The schedule is read, then paused, and then replaced as it was read. -/
def pauseBetween : List (Move Happening) :=
  [.client 0, .client 0, .client 1, .client 1, .client 1, .client 0, .client 0, .client 0,
    .client 0]

def scheduleIsPaused (world : World) : Bool :=
  ((world.schedule (driftScheduleId "dc1")).map fun schedule => schedule.state.paused).getD false

/-- Both calls end without a failure. -/
theorem retimeAndPause_successful :
    successful Setting.plain "dc1"
      (interleaved PyText.ascii Setting.plain reportingWorld retimeAndPause pauseBetween) =
      retimeAndPause := by
  decide +kernel

/-- The pause is undone, although the calls pause the schedule in both serial orders. -/
theorem pause_is_lost :
    ¬∀ (text : PyText) (setting : Setting) (useCaseId : String) (world : World)
      (calls : List Call) (moves : List (Move Happening)),
      (∀ call ∈ calls, call.useCaseId = useCaseId) →
      ∃ order, order.Perm (successful setting useCaseId
          (interleaved text setting world calls moves)) ∧
        (serially text setting.unrefused world order).schedule (driftScheduleId useCaseId) =
          (interleaved text setting world calls moves).state.schedule
            (driftScheduleId useCaseId) := by
  intro claim
  obtain ⟨order, perm, same⟩ := claim PyText.ascii Setting.plain "dc1" reportingWorld
    retimeAndPause pauseBetween (by decide)
  rw [retimeAndPause_successful] at perm
  have stopped : scheduleIsPaused
      (serially PyText.ascii Setting.plain.unrefused reportingWorld order) = true := by
    rcases List.perm_pair.1 perm with rfl | rfl
    · decide +kernel
    · decide +kernel
  have running : scheduleIsPaused (interleaved PyText.ascii Setting.plain reportingWorld
      retimeAndPause pauseBetween).state = false := by
    decide +kernel
  rw [scheduleIsPaused, same, ← scheduleIsPaused, running] at stopped
  cases stopped

end Snapl.Orchestrator.Schedules
