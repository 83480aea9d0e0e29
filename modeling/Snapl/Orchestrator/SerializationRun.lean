import Snapl.Orchestrator.Serialization

/-!
# What keeps deploys apart

A device has at most one deploy open at a time, whatever happens.  That a live
attempt belongs to an open run is kept by every step but one: a run that ends
while an attempt of it is live leaves that attempt behind.
-/

namespace Snapl.Orchestrator.Serialization

open Snapl.Library Snapl.Intent Snapl.Orchestrator.ReconcileDevices

/-! ## Phases -/

theorem Phase.ofPerformed_ne_ended
    (operation : Operation) (desired : DesiredState) (answer : Except Raised Bool) :
    ofPerformed operation desired answer ≠ .ended := by
  rcases answer with raised | success
  · nofun
  · cases operation with
    | apply => cases success <;> nofun
    | collect => nofun

theorem Phase.retried_ne_ended
    (operation : Operation) (desired : DesiredState) (number : Nat) :
    retried operation desired number ≠ .ended := by
  rw [retried]
  split_ifs
  · nofun
  · exact ofPerformed_ne_ended _ _ _

theorem Phase.ofFetched_ne_ended (answer : Except Raised DesiredState) :
    ofFetched answer ≠ .ended := by
  cases answer <;> nofun

/-- No report ends a run, or brings one back. -/
theorem Phase.informed_eq_ended_iff (phase : Phase) (token : Nat) (report : Report) :
    phase.informed token report = .ended ↔ phase = .ended := by
  cases phase with
  | performing operation desired number current =>
      simp only [informed]
      split_ifs with isCurrent
      · cases report with
        | returned success =>
            exact iff_of_false (ofPerformed_ne_ended _ _ _) (by nofun)
        | failed => exact iff_of_false (retried_ne_ended _ _ _) (by nofun)
      · exact Iff.rfl
  | fetching => exact Iff.rfl
  | closing => exact Iff.rfl
  | ended => exact Iff.rfl

/-! ## The workflow behind a run -/

/-- The activity dials the device. -/
def dials : DeployIntent.Command → Bool
  | .applyConfig _ | .collectDriftState _ => true
  | .fetchDesiredState _ | .detectDrift _ _ => false

/-- What the phases of a run start, given the answers of its fetch and of its apply. -/
def Phase.dialled
    (fetched : Except Raised DesiredState) (applied : Except Raised ApplyResult) :
    List DeployIntent.Command :=
  match fetched with
  | .ok desired =>
      (ofFetched (.ok desired)).commands ++
        (ofPerformed .apply desired (applied.map ApplyResult.success)).commands
  | .error raised => (ofFetched (.error raised)).commands

/-- The phases of a run start the dialling activities of the deploy workflow, in its order. -/
theorem filter_dials_course
    (setting : DeployIntent.Setting) (deviceId : UUID) :
    (DeployIntent.course setting deviceId).commands.filter dials =
      Phase.dialled (setting.answers .fetch setting.fetched)
        (setting.answers .apply setting.applied) := by
  rw [DeployIntent.course, DeployIntent.Course.commands_guarded]
  rcases setting.answers .fetch setting.fetched with raised | desired
  · rfl
  · simp only [DeployIntent.Course.commands_completing, DeployIntent.applyCourse,
      DeployIntent.Course.commands_guarded]
    rcases setting.answers .apply setting.applied with raised | applied
    · rfl
    · have performed : Phase.dialled (.ok desired) (.ok applied) =
          .applyConfig desired ::
            (Phase.ofPerformed .apply desired (.ok applied.success)).commands := rfl
      rw [performed]
      rcases success : applied.success with _ | _
      · simp only [success, if_true]
        rfl
      · simp only [success, Bool.true_eq_false, if_false, DeployIntent.Course.commands_completing,
          DeployIntent.collectCourse, DeployIntent.Course.commands_guarded]
        rcases setting.answers .collect setting.collected with raised | collected
        · rfl
        · simp only [DeployIntent.Course.commands_completing, DeployIntent.detectCourse,
            DeployIntent.Course.commands_guarded]
          rcases setting.answers .detect setting.detected with raised | report
          · rfl
          · rfl

/-! ## What a step can do -/

/-- The effects of the actions. -/
inductive Effect (renders : DesiredState → Bool) (world : World) : Action → World → Prop where
  | started {action : Action} (deviceId : UUID) :
      Effect renders world action (world.executeDeploy deviceId)
  | moved
      {action : Action} {before phase : Phase} (index : Nat)
      (current : world.phase? index = some before) (running : before ≠ .ended)
      (lasting : phase ≠ .ended) :
      Effect renders world action (world.setPhase index fun _ => phase)
  | closed (index : Nat) :
      Effect renders world (.close index) (world.setPhase index fun _ => .ended)
  | terminated (index : Nat) :
      Effect renders world (.terminate index) (world.setPhase index fun _ => .ended)
  | picked
      {action : Action} (index worker : Nat)
      (operation : Operation) (desired : DesiredState) (number : Nat)
      (current : world.phase? index = some (.performing operation desired number none)) :
      Effect renders world action (world.pickUp index worker operation desired number)
  | issued
      {token : Nat} {attempt : Attempt} (found : world.attempts[token]? = some attempt)
      (may : world.MayIssue renders attempt) :
      Effect renders world (.issue token)
        (world.setState token (.issued (attempt.operation = .apply)))
  | reported
      {action : Action} {token : Nat} {attempt : Attempt} {state : AttemptState}
      (report : Report) (found : world.attempts[token]? = some attempt)
      (fades : state ≠ .waiting ∧
        ∀ {locked}, state = .issued locked → ∃ before, attempt.state = .issued before) :
      Effect renders world action
        ((world.setState token state).setPhase attempt.run
          fun phase => phase.informed token report)

/-- Every step has one of these effects. -/
theorem effect_of_step
    {renders : DesiredState → Bool} {world next : World} {action : Action}
    (moves : step renders world action = some next) :
    Effect renders world action next := by
  cases action with
  | deploy deviceId =>
      cases moves
      exact .started deviceId
  | reconcile deviceId =>
      cases moves
      exact .started deviceId
  | fetched index answer =>
      simp only [step] at moves
      split at moves
      · rename_i fetching
        cases moves
        exact .moved index fetching (by nofun) (Phase.ofFetched_ne_ended answer)
      · cases moves
  | pickUp index worker =>
      simp only [step] at moves
      split at moves
      · rename_i performing
        cases moves
        exact .picked index worker _ _ _ performing
      · cases moves
  | issue token =>
      simp only [step] at moves
      split at moves
      · rename_i found
        split_ifs at moves with may
        cases moves
        exact .issued found may
      · cases moves
  | complete token report =>
      simp only [step] at moves
      split at moves
      · rename_i found
        split_ifs at moves
        cases moves
        exact .reported report found ⟨by nofun, by nofun⟩
      · cases moves
  | abandon token =>
      simp only [step] at moves
      split at moves
      · rename_i attempt found
        split_ifs at moves with running
        cases moves
        refine .reported .failed found ?_
        rcases attempt.state with _ | locked | _
        · exact ⟨by nofun, by nofun⟩
        · exact ⟨by nofun, fun _ => ⟨locked, rfl⟩⟩
        · exact ⟨by nofun, by nofun⟩
      · cases moves
  | timeOut index =>
      simp only [step] at moves
      split at moves
      · rename_i performing
        cases moves
        exact .moved index performing (by nofun) (Phase.retried_ne_ended _ _ _)
      · cases moves
  | cancel index =>
      simp only [step] at moves
      split at moves
      · cases moves
      · rename_i before running current
        cases moves
        exact .moved index current running (by nofun)
      · cases moves
  | terminate index =>
      simp only [step] at moves
      split at moves
      · cases moves
      · cases moves
        exact .terminated index
      · cases moves
  | close index =>
      simp only [step] at moves
      split at moves
      · cases moves
        exact .closed index
      · cases moves

/-- The step ends a run only when no attempt of it is live. -/
def EndsClean (renders : DesiredState → Bool) (world : World) : Action → Prop
  | .close index | .terminate index =>
      ∀ attempt ∈ world.attempts, attempt.run = index → ¬ attempt.Live renders
  | _ => True

instance (renders : DesiredState → Bool) (world : World) (action : Action) :
    Decidable (EndsClean renders world action) :=
  match action with
  | .close _ | .terminate _ => inferInstanceAs (Decidable (∀ attempt ∈ world.attempts, _))
  | .deploy _ | .reconcile _ | .fetched _ _ | .pickUp _ _ | .issue _ | .complete _ _
  | .abandon _ | .timeOut _ | .cancel _ => inferInstanceAs (Decidable True)

/-! ## Open runs -/

/-- The run at this position is a deploy of this device and has not ended. -/
def World.OpenAt (world : World) (index : Nat) (deviceId : UUID) : Prop :=
  ∃ run, world.runs[index]? = some run ∧ run.isOpen = true ∧ run.deviceId = deviceId

/-- What keeps the deploys of a device apart. -/
structure Serialized (renders : DesiredState → Bool) (world : World) : Prop where
  named : ∀ {index : Nat} {run : Run}, world.runs[index]? = some run →
    run.workflowId = deployIntentId run.deviceId
  single : ∀ {first second : Nat} {deviceId : UUID},
    world.OpenAt first deviceId → world.OpenAt second deviceId → first = second
  owned : ∀ attempt ∈ world.attempts, attempt.Live renders →
    ∃ deviceId, world.OpenAt attempt.run deviceId

section Worlds

variable {world : World}

theorem World.getElem?_runs_setPhase (index other : Nat) (phase : Phase → Phase) :
    (world.setPhase index phase).runs[other]? =
      (world.runs[other]?).map fun run =>
        if index = other then { run with phase := phase run.phase } else run :=
  List.getElem?_modify _ _ _ _

/-- A run that has a phase before its end is open. -/
theorem World.openAt_of_phase?
    {index : Nat} {phase : Phase} (current : world.phase? index = some phase)
    (lasting : phase ≠ .ended) :
    ∃ deviceId, world.OpenAt index deviceId := by
  obtain ⟨run, found, rfl⟩ := Option.map_eq_some_iff.1 current
  exact ⟨run.deviceId, run, found, decide_eq_true lasting, rfl⟩

@[simp]
theorem World.attempts_setPhase (index : Nat) (phase : Phase → Phase) :
    (world.setPhase index phase).attempts = world.attempts := rfl

@[simp]
theorem World.runs_setState (token : Nat) (state : AttemptState) :
    (world.setState token state).runs = world.runs := rfl

@[simp]
theorem World.openAt_setState (token : Nat) (state : AttemptState)
    (index : Nat) (deviceId : UUID) :
    (world.setState token state).OpenAt index deviceId ↔ world.OpenAt index deviceId :=
  Iff.rfl

/-- A run that is open after a change of phase was open, unless the change reopens it. -/
theorem World.openAt_of_setPhase
    {index other : Nat} {phase : Phase → Phase} {deviceId : UUID}
    (closed : world.phase? index = some .ended → phase .ended = .ended)
    (opened : (world.setPhase index phase).OpenAt other deviceId) :
    world.OpenAt other deviceId := by
  obtain ⟨after, found, isOpen, named⟩ := opened
  rw [getElem?_runs_setPhase, Option.map_eq_some_iff] at found
  obtain ⟨run, foundRun, rfl⟩ := found
  by_cases same : index = other
  · rw [if_pos same] at isOpen named
    refine ⟨run, foundRun, ?_, named⟩
    rw [Run.isOpen, decide_eq_true_iff] at isOpen ⊢
    intro ended
    refine isOpen ?_
    dsimp only
    rw [ended, closed]
    rw [World.phase?, same, foundRun, Option.map_some, ended]
  · rw [if_neg same] at isOpen named
    exact ⟨run, foundRun, isOpen, named⟩

/-- An open run stays open when the phase of another run changes, or when its own does not end. -/
theorem World.OpenAt.setPhase
    {index other : Nat} {phase : Phase → Phase} {deviceId : UUID}
    (opened : world.OpenAt other deviceId)
    (stays : index = other → ∀ before, before ≠ .ended → phase before ≠ .ended) :
    (world.setPhase index phase).OpenAt other deviceId := by
  obtain ⟨run, found, isOpen, named⟩ := opened
  refine ⟨_, by rw [getElem?_runs_setPhase, found, Option.map_some], ?_, ?_⟩
  · by_cases same : index = other
    · rw [if_pos same]
      rw [Run.isOpen, decide_eq_true_iff] at isOpen ⊢
      exact stays same run.phase isOpen
    · rw [if_neg same]
      exact isOpen
  · by_cases same : index = other
    · rw [if_pos same]
      exact named
    · rw [if_neg same]
      exact named

end Worlds

namespace Serialized

variable {renders : DesiredState → Bool} {world : World}

theorem empty : Serialized renders World.empty where
  named := nofun
  single := by
    rintro first second deviceId ⟨run, found, -⟩
    cases found
  owned := nofun

/-! ## What the changes of a world keep -/

/-- Starting a deploy opens a run only where the device has none. -/
theorem executeDeploy (serialized : Serialized renders world) (deviceId : UUID) :
    Serialized renders (world.executeDeploy deviceId) := by
  rw [World.executeDeploy]
  split_ifs with opened
  · exact serialized
  have grown : ∀ {index : Nat} {run : Run},
      (world.runs ++ [⟨deployIntentId deviceId, deviceId, .fetching⟩])[index]? = some run →
      world.runs[index]? = some run ∨
        (index = world.runs.length ∧ run = ⟨deployIntentId deviceId, deviceId, .fetching⟩) := by
    intro index run found
    rw [List.getElem?_append] at found
    split_ifs at found with inside
    · exact Or.inl found
    · rw [List.getElem?_singleton] at found
      split_ifs at found with last
      · exact Or.inr ⟨by omega, (Option.some.inj found).symm⟩
  have fresh : ∀ {index : Nat}, ¬ world.OpenAt index deviceId := by
    rintro index ⟨run, found, isOpen, rfl⟩
    exact opened ⟨run, List.mem_of_getElem? found, isOpen, serialized.named found⟩
  refine ⟨?_, ?_, ?_⟩
  · intro index run found
    rcases grown found with old | ⟨-, rfl⟩
    · exact serialized.named old
    · rfl
  · rintro first second other ⟨run, found, isOpen, named⟩ ⟨run', found', isOpen', named'⟩
    rcases grown found with old | ⟨rfl, rfl⟩
    · rcases grown found' with old' | ⟨rfl, rfl⟩
      · exact serialized.single ⟨run, old, isOpen, named⟩ ⟨run', old', isOpen', named'⟩
      · cases named'
        exact absurd ⟨run, old, isOpen, named⟩ fresh
    · cases named
      rcases grown found' with old' | ⟨rfl, rfl⟩
      · exact absurd ⟨run', old', isOpen', named'⟩ fresh
      · rfl
  · intro attempt member live
    obtain ⟨other, run, found, isOpen, named⟩ := serialized.owned attempt member live
    refine ⟨other, run, ?_, isOpen, named⟩
    rw [List.getElem?_append_left (List.getElem?_eq_some_iff.1 found).1]
    exact found

/-- A change of phase that reopens no run, and ends none that a live attempt belongs to. -/
theorem setPhase
    (serialized : Serialized renders world) {index : Nat} {phase : Phase → Phase}
    (closed : world.phase? index = some .ended → phase .ended = .ended)
    (stays : (∀ before, before ≠ .ended → phase before ≠ .ended) ∨
      ∀ attempt ∈ world.attempts, attempt.run = index → ¬ attempt.Live renders) :
    Serialized renders (world.setPhase index phase) where
  named := by
    intro other run found
    rw [World.getElem?_runs_setPhase, Option.map_eq_some_iff] at found
    obtain ⟨before, foundBefore, rfl⟩ := found
    have named := serialized.named foundBefore
    by_cases same : index = other
    · rw [if_pos same]
      exact named
    · rw [if_neg same]
      exact named
  single := fun opened opened' =>
    serialized.single (World.openAt_of_setPhase closed opened)
      (World.openAt_of_setPhase closed opened')
  owned := by
    intro attempt member live
    obtain ⟨deviceId, opened⟩ := serialized.owned attempt member live
    refine ⟨deviceId, opened.setPhase ?_⟩
    intro same
    rcases stays with stays | dead
    · exact stays
    · exact absurd live (dead attempt member same.symm)

/-- An attempt whose state changes, and that is live only if it was. -/
theorem setState
    (serialized : Serialized renders world) {token : Nat} {attempt : Attempt}
    {state : AttemptState} (found : world.attempts[token]? = some attempt)
    (fades : Attempt.Live renders { attempt with state } → attempt.Live renders) :
    Serialized renders (world.setState token state) where
  named := serialized.named
  single := serialized.single
  owned := by
    intro changed member live
    obtain ⟨position, foundChanged⟩ := List.mem_iff_getElem?.1 member
    rw [World.setState, List.getElem?_modify, Option.map_eq_map,
      Option.map_eq_some_iff] at foundChanged
    obtain ⟨before, foundBefore, rfl⟩ := foundChanged
    by_cases same : token = position
    · rw [if_pos same] at live ⊢
      rw [same, foundBefore] at found
      cases found
      exact serialized.owned attempt (List.mem_of_getElem? foundBefore) (fades live)
    · rw [if_neg same] at live ⊢
      exact serialized.owned before (List.mem_of_getElem? foundBefore) live

/-- An attempt of an open run is added. -/
theorem addAttempt
    (serialized : Serialized renders world) {attempt : Attempt} {deviceId : UUID}
    (opened : world.OpenAt attempt.run deviceId) :
    Serialized renders { world with attempts := world.attempts ++ [attempt] } where
  named := serialized.named
  single := serialized.single
  owned := by
    intro other member live
    rcases List.mem_append.1 member with old | added
    · exact serialized.owned other old live
    · rcases List.mem_singleton.1 added with rfl
      exact ⟨deviceId, opened⟩

/-! ## Steps -/

/-- Every step that leaves no live attempt behind keeps deploys apart. -/
theorem preserved
    {next : World} {action : Action} (serialized : Serialized renders world)
    (clean : EndsClean renders world action)
    (moves : step renders world action = some next) :
    Serialized renders next := by
  cases effect_of_step moves with
  | started deviceId => exact serialized.executeDeploy deviceId
  | moved index current running lasting =>
      refine serialized.setPhase ?_ (Or.inl fun _ _ => lasting)
      intro ended
      rw [current] at ended
      exact absurd (Option.some.inj ended) running
  | closed index => exact serialized.setPhase (fun _ => rfl) (Or.inr clean)
  | terminated index => exact serialized.setPhase (fun _ => rfl) (Or.inr clean)
  | picked index worker operation desired number current =>
      have running : ∀ before, before ≠ Phase.ended →
          Phase.performing operation desired number (some world.attempts.length) ≠ .ended := by
        nofun
      have changed := serialized.setPhase (fun ended => by
        rw [current] at ended
        cases ended) (Or.inl running)
      obtain ⟨deviceId, opened⟩ := World.openAt_of_phase? current (by nofun)
      exact changed.addAttempt (opened.setPhase fun _ => running)
  | issued found may =>
      refine serialized.setState found ?_
      intro _
      exact Or.inl ⟨may.1, may.2.1⟩
  | reported report found fades =>
      refine (serialized.setState found ?_).setPhase ?_ (Or.inl ?_)
      · rintro (⟨waiting, -⟩ | ⟨isApply, locked, issued⟩)
        · exact absurd waiting fades.1
        · exact Or.inr ⟨isApply, fades.2 issued⟩
      · intro _
        exact (Phase.informed_eq_ended_iff _ _ _).2 rfl
      · intro before lasting ended
        exact lasting ((Phase.informed_eq_ended_iff _ _ _).1 ended)

end Serialized

end Snapl.Orchestrator.Serialization
