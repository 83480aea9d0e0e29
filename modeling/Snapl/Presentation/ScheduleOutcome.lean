import Snapl.Presentation.ScheduleCommands

/-!
# What a schedule command comes to

A schedule command is stopped before its call, by its own checks or by the
description it asks for, and then changes nothing; or it makes its call.
-/

namespace Snapl.Presentation

open Snapl.Library Snapl.Intent Snapl.Orchestrator Snapl.Orchestrator.Schedules

/-- The audit log opens, and Temporal is reached. -/
def opens (desk : Desk) : Bool := (openAuditLog desk).isOk && (connect desk.session).isOk

/-- The view of a schedule that a command confirms. -/
def currentView? (useCase : String) (current : Option Schedule) : Option DriftScheduleView := do
  (viewOf ⟨driftScheduleId useCase, ← current, []⟩).toOption

namespace ScheduleCommand

/-- The schedule a command is about. -/
def scheduleId (command : ScheduleCommand) : String := driftScheduleId command.useCase

/-- How many requests a command makes before its call. -/
def reads : ScheduleCommand → Nat
  | mode _ _ _ _ | trigger _ _ => 1
  | create _ _ | pause _ _ | resume _ _ | delete _ _ => 0

/-- The call a command makes of the schedule it finds, if nothing stops it. -/
def call? (desk : Desk) (current : Option Schedule) : ScheduleCommand → Option Call
  | create useCase every =>
      match every with
      | .error _ => none
      | .ok interval =>
          if (refuseForeignSot desk).isOk ∧ opens desk = true then
            some (.ensure useCase desk.session.taskQueue desk.actor interval)
          else none
  | mode useCase name yes asJson => do
      let target ← responseMode? name
      let view ← currentView? useCase current
      if opens desk = true ∧ switchGate desk useCase yes asJson target view = .ok () then
        some (.set useCase target desk.actor)
      else none
  | pause useCase reason =>
      match reason.filter hasReason with
      | none => none
      | some reason => if opens desk then some (.pause useCase reason desk.actor) else none
  | resume useCase note => if opens desk then some (.resume useCase desk.actor note) else none
  | trigger useCase yes => do
      let view ← currentView? useCase current
      if opens desk = true ∧ triggerGate desk useCase yes view = .ok () then
        some (.trigger useCase desk.actor)
      else none
  | delete useCase yes =>
      if opens desk = true ∧ confirmPrompt desk (deletePrompt useCase) yes false = .ok () then
        some (.delete useCase desk.actor)
      else none

end ScheduleCommand

/-- What the run of a command comes to. -/
inductive CommandOutcome
    (setting : Setting) (desk : Desk) (command : ScheduleCommand) (world after : World) : Prop
  | stopped
      (logs : world.Logs after [])
      (stops : command.call? desk (world.schedule command.scheduleId) = none ∨
        ¬setting.Grants world.ticks command.reads)
  | called {call : Call} {middle : World} {ending : Except ScheduleError Unit}
      (calls : command.call? desk (world.schedule command.scheduleId) = some call)
      (granted : setting.Grants world.ticks command.reads)
      (logs : world.Logs middle []) (ticks : middle.ticks = world.ticks + command.reads)
      (outcome : Outcome setting call middle ending after)

section Outcomes

variable {setting : Setting} {text : PyText} {desk : Desk} {world : World}

/-- A schedule write makes its call if the log opens and Temporal is reached. -/
theorem scheduleWrite_meets
    {Result : Type} {useCase : String} {operation : CommandScript Result} {post : World → Prop}
    (stopped : opens desk = false → post world)
    (runs : opens desk = true →
      Program.Meets (Script.run (serve setting) operation) world fun _ after => post after) :
    Program.Meets (Script.run (serve setting) (scheduleWrite desk useCase operation)) world
      fun _ after => post after := by
  rw [scheduleWrite]
  rcases opened : openAuditLog desk with failure | done
  · exact stopped (by rw [opens, opened]; rfl)
  · show Program.Meets (Script.run (serve setting) (Script.mapError _ (_ >>= _))) world _
    rcases connected : connect desk.session with failure | session
    · exact stopped (by rw [opens, opened, connected]; rfl)
    · exact Script.meets_run_mapError.2 (runs (by rw [opens, opened, connected]; rfl))

/-- A sequence whose second part only returns. -/
theorem returns_meets
    {Result : Type} {script : CommandScript Result} {shown : Result → Shown}
    {post : World → Prop}
    (meets : Program.Meets (Script.run (serve setting) script) world fun _ after => post after) :
    Program.Meets (Script.run (serve setting) (script >>= fun result => pure (shown result))) world
      fun _ after => post after :=
  Script.meets_run_bind meets (fun _ _ kept => kept) fun _ _ kept => kept

/-- The call of a command is its last part. -/
theorem called_meets
    {Result : Type} {command : ScheduleCommand} {call : Call} {middle : World}
    {operation : Operation Result}
    (calls : command.call? desk (world.schedule command.scheduleId) = some call)
    (granted : setting.Grants world.ticks command.reads) (logs : world.Logs middle [])
    (ticks : middle.ticks = world.ticks + command.reads)
    (outcome : Program.Meets (Script.run (serve setting) operation) middle fun ending after =>
      Outcome setting call middle (ending.map fun _ => ()) after) :
    Program.Meets (Script.run (serve setting) (operation.mapError ScheduleFailure.raised)) middle
      fun _ after => CommandOutcome setting desk command world after := by
  refine Script.meets_run_mapError.2 (outcome.mono ?_)
  intro ending after done
  exact .called calls granted logs ticks done

/-- What a call comes to does not depend on what it returns. -/
theorem outcome_map
    {call : Call} {ending : Except ScheduleError Unit} {after : World}
    (outcome : Outcome setting call world ending after) :
    Outcome setting call world (ending.map fun _ => ()) after := by
  rcases ending with error | done
  · exact outcome
  · exact outcome

theorem grants_none (start : Nat) : setting.Grants start 0 := fun _ bound => absurd bound (by omega)

theorem pause_commandOutcome (useCase : String) (reason : Option String) :
    Program.Meets
      (Script.run (serve setting) ((ScheduleCommand.pause useCase reason).script text desk)) world
      fun _ after => CommandOutcome setting desk (.pause useCase reason) world after := by
  rw [ScheduleCommand.script, schedulePause]
  rcases given : reason.filter hasReason with _ | reason'
  · refine .stopped (World.Logs.refl world) (Or.inl ?_)
    simp [ScheduleCommand.call?, given]
  · refine returns_meets (scheduleWrite_meets (fun closed => ?_) fun opened => ?_)
    · refine .stopped (World.Logs.refl world) (Or.inl ?_)
      simp [ScheduleCommand.call?, given, closed]
    · refine called_meets ?_ (grants_none _) (World.Logs.refl world) rfl
        ((call_outcome (.pause useCase reason' desk.actor)).mono fun _ _ => outcome_map)
      simp [ScheduleCommand.call?, given, opened]

theorem resume_commandOutcome (useCase : String) (note : Option String) :
    Program.Meets
      (Script.run (serve setting) ((ScheduleCommand.resume useCase note).script text desk)) world
      fun _ after => CommandOutcome setting desk (.resume useCase note) world after := by
  refine returns_meets (scheduleWrite_meets (fun closed => ?_) fun opened => ?_)
  · refine .stopped (World.Logs.refl world) (Or.inl ?_)
    simp [ScheduleCommand.call?, closed]
  · refine called_meets ?_ (grants_none _) (World.Logs.refl world) rfl
      ((call_outcome (.resume useCase desk.actor note)).mono fun _ _ => outcome_map)
    simp [ScheduleCommand.call?, opened]

theorem delete_commandOutcome (useCase : String) (yes : Bool) :
    Program.Meets
      (Script.run (serve setting) ((ScheduleCommand.delete useCase yes).script text desk)) world
      fun _ after => CommandOutcome setting desk (.delete useCase yes) world after := by
  rw [ScheduleCommand.script, scheduleDelete]
  rcases confirms : confirmPrompt desk (deletePrompt useCase) yes false with failure | done
  · refine .stopped (World.Logs.refl world) (Or.inl ?_)
    simp [ScheduleCommand.call?, confirms]
  · refine returns_meets (scheduleWrite_meets (fun closed => ?_) fun opened => ?_)
    · refine .stopped (World.Logs.refl world) (Or.inl ?_)
      simp [ScheduleCommand.call?, closed]
    · refine called_meets ?_ (grants_none _) (World.Logs.refl world) rfl
        ((call_outcome (.delete useCase desk.actor)).mono fun _ _ => outcome_map)
      simp [ScheduleCommand.call?, opened, confirms]

theorem create_commandOutcome (useCase : String) (every : Except ScheduleFailure Duration) :
    Program.Meets
      (Script.run (serve setting) ((ScheduleCommand.create useCase every).script text desk)) world
      fun _ after => CommandOutcome setting desk (.create useCase every) world after := by
  rw [ScheduleCommand.script, scheduleCreate]
  rcases every with failure | interval
  · exact .stopped (World.Logs.refl world) (Or.inl rfl)
  rcases refuses : refuseForeignSot desk with failure | done
  · refine .stopped (World.Logs.refl world) (Or.inl ?_)
    simp [ScheduleCommand.call?, refuses, Except.isOk, Except.toBool]
  rcases opened : openAuditLog desk with failure | done
  · refine .stopped (World.Logs.refl world) (Or.inl ?_)
    simp [ScheduleCommand.call?, opens, opened, Except.isOk, Except.toBool]
  rcases connected : connect desk.session with failure | done
  · refine .stopped (World.Logs.refl world) (Or.inl ?_)
    simp [ScheduleCommand.call?, opens, connected, Except.isOk, Except.toBool]
  · have opened' : opens desk = true := by rw [opens, opened, connected]; rfl
    have called : Program.Meets
        (Script.run (serve setting)
          ((ensureDriftSchedule text useCase desk.session.taskQueue desk.actor interval).mapError
            ScheduleFailure.raised >>= fun view => pure (Shown.schedule view))) world
        fun _ after =>
          CommandOutcome setting desk (.create useCase (.ok interval)) world after := by
      refine returns_meets (called_meets ?_ (grants_none _) (World.Logs.refl world) rfl
        (Script.meets_run_forget.1
          (call_outcome (.ensure useCase desk.session.taskQueue desk.actor interval))))
      simp [ScheduleCommand.call?, refuses, opened', Except.isOk, Except.toBool]
    exact called

/-- The description a command asks for shows what is stored, or stops the command. -/
theorem description_meets (useCase : String) :
    Program.Meets
      (Script.run (serve setting)
        ((describeDriftSchedule text useCase).mapError ScheduleFailure.raised)) world
      fun ending after =>
        after.ticks = world.ticks + 1 ∧ world.Logs after [] ∧
          (((∃ failure, ending = .error failure) ∧
              (¬setting.Grants world.ticks 1 ∨
                currentView? useCase (world.schedule (driftScheduleId useCase)) = none)) ∨
            ∃ view, ending = .ok view ∧ setting.Grants world.ticks 1 ∧
              currentView? useCase (world.schedule (driftScheduleId useCase)) =
                some { view with running := [] }) := by
  refine Script.meets_run_mapError.2 (describeDriftSchedule_meets.mono ?_)
  rintro ending after ⟨ticks, logs, ⟨⟨error, rfl⟩, denied⟩ | ⟨entry, stored, granted, rfl⟩⟩
  · refine ⟨ticks, logs, Or.inl ⟨⟨_, rfl⟩, denied.imp_right fun missing => ?_⟩⟩
    rw [missing]
    rfl
  · refine ⟨ticks, logs, ?_⟩
    rw [schedule_of_stored stored]
    rcases viewed : viewOf ⟨driftScheduleId useCase, entry.schedule, entry.running⟩ with
      error | view
    · refine Or.inl ⟨⟨_, rfl⟩, Or.inr ?_⟩
      show (viewOf _).toOption = none
      rw [viewOf_error viewed]
      rfl
    · refine Or.inr ⟨view, rfl, granted, ?_⟩
      show (viewOf _).toOption = _
      rw [viewOf_running viewed]
      rfl

/-- A command that describes the schedule first goes on with a view of it. -/
theorem described_meets
    {Result : Type} (command : ScheduleCommand)
    {operation : DriftScheduleView → CommandScript Result} (reads : command.reads = 1)
    (unseen : currentView? command.useCase (world.schedule command.scheduleId) = none →
      command.call? desk (world.schedule command.scheduleId) = none)
    (seen : ∀ view middle,
      currentView? command.useCase (world.schedule command.scheduleId) =
        some { view with running := [] } →
      setting.Grants world.ticks command.reads → world.Logs middle [] →
      middle.ticks = world.ticks + command.reads →
      Program.Meets (Script.run (serve setting) (operation view)) middle
        fun _ after => CommandOutcome setting desk command world after) :
    Program.Meets
      (Script.run (serve setting)
        ((describeDriftSchedule text command.useCase).mapError ScheduleFailure.raised >>=
          operation)) world
      fun _ after => CommandOutcome setting desk command world after := by
  rw [reads] at seen
  refine Script.meets_run_bind (description_meets command.useCase) ?_ ?_
  · rintro view middle ⟨ticks, logs, ⟨⟨failure, impossible⟩, -⟩ | ⟨view', same, granted, viewed⟩⟩
    · cases impossible
    · cases same
      exact seen view middle viewed granted logs ticks
  · rintro failure after ⟨-, logs, ⟨-, refuses | nothing⟩ | ⟨view, impossible, -⟩⟩
    · exact .stopped logs (Or.inr (by rwa [reads]))
    · exact .stopped logs (Or.inl (unseen nothing))
    · cases impossible

/-- A confirmation that fails stops a command. -/
theorem gated_meets
    {Result : Type} {command : ScheduleCommand} {middle : World} {gate : Except ScheduleFailure Unit}
    {operation : CommandScript Result} (logs : world.Logs middle [])
    (refuses : gate ≠ .ok () → command.call? desk (world.schedule command.scheduleId) = none)
    (passes : gate = .ok () → Program.Meets (Script.run (serve setting) operation) middle
      fun _ after => CommandOutcome setting desk command world after) :
    Program.Meets
      (Script.run (serve setting) (Script.ofExcept gate >>= fun _ => operation)) middle
      fun _ after => CommandOutcome setting desk command world after := by
  rcases gate with failure | done
  · refine .stopped logs (Or.inl (refuses ?_))
    simp
  · exact passes rfl

theorem mode_commandOutcome (useCase name : String) (yes asJson : Bool) :
    Program.Meets
      (Script.run (serve setting)
        ((ScheduleCommand.mode useCase name yes asJson).script text desk)) world
      fun _ after => CommandOutcome setting desk (.mode useCase name yes asJson) world after := by
  rw [ScheduleCommand.script, scheduleMode]
  rcases named : responseMode? name with _ | target
  · refine .stopped (World.Logs.refl world) (Or.inl ?_)
    simp [ScheduleCommand.call?, named]
  refine returns_meets (scheduleWrite_meets (fun closed => ?_) fun opened => ?_)
  · refine .stopped (World.Logs.refl world) (Or.inl ?_)
    simp [ScheduleCommand.call?, closed]
  refine described_meets (.mode useCase name yes asJson) rfl (fun unseen => ?_) ?_
  · simp only [ScheduleCommand.useCase] at unseen
    simp [ScheduleCommand.call?, named, unseen]
  · intro view middle viewed granted logs ticks
    simp only [ScheduleCommand.useCase] at viewed
    refine gated_meets logs (fun refuses => ?_) fun passes => ?_
    · have closed : switchGate desk useCase yes asJson target { view with running := [] } ≠
        .ok () := refuses
      simp [ScheduleCommand.call?, named, viewed, closed]
    · have passed : switchGate desk useCase yes asJson target { view with running := [] } =
        .ok () := passes
      refine called_meets ?_ granted logs ticks
        (Script.meets_run_forget.1 (call_outcome (.set useCase target desk.actor)))
      simp [ScheduleCommand.call?, named, viewed, opened, passed]

theorem trigger_commandOutcome (useCase : String) (yes : Bool) :
    Program.Meets
      (Script.run (serve setting) ((ScheduleCommand.trigger useCase yes).script text desk)) world
      fun _ after => CommandOutcome setting desk (.trigger useCase yes) world after := by
  refine returns_meets (scheduleWrite_meets (fun closed => ?_) fun opened => ?_)
  · refine .stopped (World.Logs.refl world) (Or.inl ?_)
    simp [ScheduleCommand.call?, closed]
  refine described_meets (.trigger useCase yes) rfl (fun unseen => ?_) ?_
  · simp only [ScheduleCommand.useCase] at unseen
    simp [ScheduleCommand.call?, unseen]
  · intro view middle viewed granted logs ticks
    simp only [ScheduleCommand.useCase] at viewed
    refine gated_meets logs (fun refuses => ?_) fun passes => ?_
    · have closed : triggerGate desk useCase yes { view with running := [] } ≠ .ok () := refuses
      simp [ScheduleCommand.call?, viewed, closed]
    · have passed : triggerGate desk useCase yes { view with running := [] } = .ok () := passes
      refine called_meets ?_ granted logs ticks
        (Script.meets_run_forget.1 (call_outcome (.trigger useCase desk.actor)))
      simp [ScheduleCommand.call?, viewed, opened, passed]

/-- A command is stopped before its call, or makes it. -/
theorem command_outcome (command : ScheduleCommand) :
    Program.Meets (Script.run (serve setting) (command.script text desk)) world
      fun _ after => CommandOutcome setting desk command world after := by
  cases command with
  | create useCase every => exact create_commandOutcome useCase every
  | mode useCase name yes asJson => exact mode_commandOutcome useCase name yes asJson
  | pause useCase reason => exact pause_commandOutcome useCase reason
  | resume useCase note => exact resume_commandOutcome useCase note
  | trigger useCase yes => exact trigger_commandOutcome useCase yes
  | delete useCase yes => exact delete_commandOutcome useCase yes

end Outcomes

end Snapl.Presentation
