import Snapl.Contract.AttendedWrites

/-!
# Status before other commands

`snapl status` exits with zero exactly where Temporal, a worker and the Source
of Truth of the use case are there.  In a world that then stays as it is no
other command is turned away before the workflow it is for, except for a name
that is not that of one device, or for want of the operator's agreement.
-/

namespace Snapl.Presentation.OperatorScript

open Snapl.Library Snapl.Intent Snapl.Observability Snapl.Orchestrator Snapl.Contract

/-! ## A world that stays as it is -/

/-- What every request is answered. -/
abbrev Surroundings : Type := (request : OperatorRequest) → OperatorAnswer request

/-- What a command asks in these surroundings. -/
def requests {Result : Type} (script : OperatorScript Result) (answers : Surroundings) :
    List OperatorRequest :=
  (script.follow answers).1.map Turn.request

/-- Everything a status looks at is there. -/
structure Healthy (settings : CliSettings) (useCase : String) (answers : Surroundings) :
    Prop where
  connects : answers .connect = none
  lists : ∃ running, answers .listRunningWorkflows = .ok running
  polled : ∃ pollers, answers .countPollers = .ok pollers ∧ pollers ≠ 0
  seeded : ∃ states, answers (.loadStates useCase) = .ok states ∧ states ≠ []
  ours : (Identity.identify settings.infrahubAddress (answers .readIdentity)).isForeign = false

/-! ## What a status tells -/

section Status

variable {settings : CliSettings} {useCase : String} {answers : Surroundings}

/-- How the checks of Temporal end. -/
theorem ending_temporalChecks :
    ((temporalChecks settings useCase).follow answers).2 =
      match answers .connect with
      | some cause => .ok ([⟨"temporal", false, (unreachable settings cause).message⟩], [])
      | none =>
          ((answers .listRunningWorkflows).mapError OperatorFailure.raised).map fun running =>
            ([⟨"temporal", true, settings.temporalHost⟩,
              workerCheck settings (answers .countPollers),
              driftScheduleCheck useCase (answers (.findDriftSchedule useCase))], running) := by
  rw [temporalChecks, Script.follow_ask_bind]
  rcases connects : answers .connect with _ | cause
  · rcases listed : answers .listRunningWorkflows with message | running
    · simp only [Script.follow_ask_bind, listed]
      rfl
    · simp only [Script.follow_ask_bind, listed]
      rfl
  · rfl

/-- How the checks of the Source of Truth end. -/
theorem ending_sotChecks :
    ((sotChecks settings useCase).follow answers).2 =
      match answers (.loadStates useCase) with
      | .error (.raised message) => .error (.raised message)
      | .error (.attribution message) => .ok [⟨"source of truth", false, message⟩]
      | .error (.unavailable cause) =>
          .ok [⟨"source of truth", false,
            (connectionCliError "Source of Truth" settings.infrahubAddress "INFRAHUB_ADDRESS"
              cause).message⟩]
      | .ok states =>
          let identity := Identity.identify settings.infrahubAddress (answers .readIdentity)
          .ok [⟨"source of truth", true, settings.infrahubAddress⟩,
            ⟨"source of truth is snapl's", !identity.isForeign, identity.detail⟩,
            ⟨"'" ++ useCase ++ "' seeded", !states.isEmpty,
              toString states.length ++ " devices"⟩] := by
  rw [sotChecks, Script.follow_ask_bind]
  rcases answers (.loadStates useCase) with (message | cause | message) | states
  · rfl
  · rfl
  · rfl
  · rfl

theorem driftScheduleCheck_fine (found : Except String (Option Schedules.DriftScheduleView)) :
    (driftScheduleCheck useCase found).fine = true := by
  rcases found with cause | _ | view
  · rfl
  · rfl
  · rfl

/-- The exit status of a status whose parts end. -/
theorem status_of_parts (checks more : List StatusCheck) (running : List RunningWorkflowInfo) :
    operatorStatus (.ok ⟨if (checks ++ more).all StatusCheck.fine then .ok else .error,
        .status (checks ++ more) running⟩) = 0 ↔
      checks.all StatusCheck.fine = true ∧ more.all StatusCheck.fine = true := by
  rw [List.all_append, ← Bool.and_eq_true]
  rcases checks.all StatusCheck.fine && more.all StatusCheck.fine
  · exact ⟨fun zero => absurd zero Nat.one_ne_zero, fun fine => absurd fine Bool.false_ne_true⟩
  · exact ⟨fun _ => rfl, fun _ => rfl⟩

/-- A step that only reads fails with a nonzero status. -/
theorem exitsNonZero_of_reads
    {Result : Type} {script : OperatorScript Result} {learns : Past → Result → Prop}
    (reads : OnlyReads script learns) {failure : OperatorFailure}
    (fails : (script.follow answers).2 = .error failure) : ExitsNonZero failure :=
  ((reads (.status "") [] unwritten_nil).ending_of_course
    (Script.course_follow answers)).2.2.2 failure fails

/-- A status exits with zero if both its parts end, and find everything fine. -/
theorem status_eq_zero_iff_parts :
    operatorStatus ((status settings useCase).follow answers).2 = 0 ↔
      (∃ checks running,
        ((temporalChecks settings useCase).follow answers).2 = .ok (checks, running) ∧
          checks.all StatusCheck.fine = true) ∧
      ∃ more, ((sotChecks settings useCase).follow answers).2 = .ok more ∧
        more.all StatusCheck.fine = true := by
  rw [status, Script.follow_bind_snd]
  rcases checked : ((temporalChecks settings useCase).follow answers).2 with
    failure | ⟨checks, running⟩
  · refine ⟨fun zero => ?_, ?_⟩
    · exact absurd zero
        (exitsNonZero_of_reads (reads_temporalChecks settings useCase) checked)
    · rintro ⟨⟨checks, running, impossible, -⟩, -⟩
      cases impossible
  rw [ok_bind, Script.follow_bind_snd]
  rcases read : ((sotChecks settings useCase).follow answers).2 with failure | more
  · refine ⟨fun zero => ?_, ?_⟩
    · exact absurd zero (exitsNonZero_of_reads (reads_sotChecks settings useCase) read)
    · rintro ⟨-, more, impossible, -⟩
      cases impossible
  refine (status_of_parts checks more running).trans ⟨?_, ?_⟩
  · rintro ⟨fine, moreFine⟩
    exact ⟨⟨checks, running, rfl, fine⟩, more, rfl, moreFine⟩
  · rintro ⟨⟨own, ownRunning, same, fine⟩, ownMore, sameMore, moreFine⟩
    cases same
    cases sameMore
    exact ⟨fine, moreFine⟩

theorem temporal_fine_iff :
    (∃ checks running,
      ((temporalChecks settings useCase).follow answers).2 = .ok (checks, running) ∧
        checks.all StatusCheck.fine = true) ↔
      answers .connect = none ∧ (∃ running, answers .listRunningWorkflows = .ok running) ∧
        ∃ pollers, answers .countPollers = .ok pollers ∧ pollers ≠ 0 := by
  rw [ending_temporalChecks]
  rcases answers .connect with _ | cause
  · rcases answers .listRunningWorkflows with message | running
    · refine ⟨?_, ?_⟩
      · rintro ⟨checks, running, impossible, -⟩
        cases impossible
      · rintro ⟨-, ⟨running, impossible⟩, -⟩
        cases impossible
    · rw [← workerCheck_fine_iff settings]
      refine ⟨?_, ?_⟩
      · rintro ⟨checks, own, same, fine⟩
        cases same
        simp only [List.all_cons, Bool.and_eq_true] at fine
        exact ⟨rfl, ⟨running, rfl⟩, fine.2.1⟩
      · rintro ⟨-, -, worker⟩
        refine ⟨_, _, rfl, ?_⟩
        simp only [List.all_cons, Bool.and_eq_true, List.all_nil]
        exact ⟨trivial, worker, driftScheduleCheck_fine _, trivial⟩
  · refine ⟨?_, ?_⟩
    · rintro ⟨checks, running, same, fine⟩
      cases same
      cases fine
    · rintro ⟨impossible, -⟩
      cases impossible

theorem sot_fine_iff :
    (∃ more, ((sotChecks settings useCase).follow answers).2 = .ok more ∧
        more.all StatusCheck.fine = true) ↔
      (∃ states, answers (.loadStates useCase) = .ok states ∧ states ≠ []) ∧
        (Identity.identify settings.infrahubAddress (answers .readIdentity)).isForeign =
          false := by
  rw [ending_sotChecks]
  rcases answers (.loadStates useCase) with (message | cause | message) | states
  · refine ⟨?_, ?_⟩
    · rintro ⟨more, same, fine⟩
      cases same
      cases fine
    · rintro ⟨⟨states, impossible, -⟩, -⟩
      cases impossible
  · refine ⟨?_, ?_⟩
    · rintro ⟨more, same, fine⟩
      cases same
      cases fine
    · rintro ⟨⟨states, impossible, -⟩, -⟩
      cases impossible
  · refine ⟨?_, ?_⟩
    · rintro ⟨more, same, -⟩
      cases same
    · rintro ⟨⟨states, impossible, -⟩, -⟩
      cases impossible
  · refine ⟨?_, ?_⟩
    · rintro ⟨more, same, fine⟩
      cases same
      simp only [List.all_cons, List.all_nil, Bool.and_eq_true, Bool.not_eq_true',
        List.isEmpty_eq_false_iff] at fine
      exact ⟨⟨states, rfl, fine.2.2.1⟩, fine.2.1⟩
    · rintro ⟨⟨own, same, seeded⟩, ours⟩
      cases same
      refine ⟨_, rfl, ?_⟩
      simp only [List.all_cons, List.all_nil, Bool.and_eq_true, Bool.not_eq_true',
        List.isEmpty_eq_false_iff]
      exact ⟨trivial, ours, seeded, trivial⟩

/-- A status exits with zero exactly in a healthy world. -/
theorem status_eq_zero_iff :
    operatorStatus ((status settings useCase).follow answers).2 = 0 ↔
      Healthy settings useCase answers := by
  rw [status_eq_zero_iff_parts, temporal_fine_iff, sot_fine_iff]
  constructor
  · rintro ⟨⟨connects, lists, polled⟩, seeded, ours⟩
    exact ⟨connects, lists, polled, seeded, ours⟩
  · rintro ⟨connects, lists, polled, seeded, ours⟩
    exact ⟨⟨connects, lists, polled⟩, seeded, ours⟩

end Status

/-! ## What other commands then ask -/

/-- The operator agrees, or is not to be asked. -/
def Agrees (answers : Surroundings) (arguments : ReconcileArguments) (targets : List UUID)
    (names : List String) : Prop :=
  arguments.yes = true ∨
    arguments.asJson = false ∧ answers (.prompt (reconcilePrompt targets names)) = true

/-- The commands about a use case go on to their workflows. -/
structure Admits (settings : CliSettings) (text : PyText) (useCase : String)
    (answers : Surroundings) (states : List DesiredState) : Prop where
  scan : .executeScanDrift useCase ∈ requests (scan settings useCase) answers
  deploy : ∀ device deviceId,
    .executeDeployIntent (ReconcileDevices.deployIntentId deviceId) deviceId ∈
        requests (deploy settings text device useCase) answers ↔
      Resolves states device deviceId
  named : ∀ arguments : ReconcileArguments, arguments.useCase = useCase →
    arguments.devices ≠ [] → arguments.drifted = false → ∀ targets,
      .executeReconcileDevices targets ∈ requests (reconcile settings text arguments) answers ↔
        List.Forall₂ (Resolves states) arguments.devices targets ∧
          Agrees answers arguments targets arguments.devices
  drifted : ∀ arguments : ReconcileArguments, arguments.useCase = useCase →
    arguments.devices = [] → arguments.drifted = true → ∀ targets,
      .executeReconcileDevices targets ∈ requests (reconcile settings text arguments) answers ↔
        ∃ result, answers (.executeScanDrift useCase) = .ok result ∧
          targets = driftedIds result ∧ targets ≠ [] ∧
          Agrees answers arguments targets (driftedNames result)

section Requests

variable {settings : CliSettings} {text : PyText} {useCase : String} {answers : Surroundings}
variable {Result Next : Type} {script : OperatorScript Result}
  {next : Result → OperatorScript Next} {request : OperatorRequest}

theorem requests_bind_of_ok
    {result : Result} (ended : (script.follow answers).2 = .ok result) :
    requests (script >>= next) answers =
      requests script answers ++ requests (next result) answers := by
  rw [requests, Script.follow_bind_of_ok (Prod.ext rfl ended)]
  exact List.map_append

theorem requests_bind_of_error
    {failure : OperatorFailure} (ended : (script.follow answers).2 = .error failure) :
    requests (script >>= next) answers = requests script answers := by
  rw [requests, Script.follow_bind_of_error (Prod.ext rfl ended)]
  rfl

theorem requests_ask_bind
    (request : OperatorRequest) (rest : OperatorAnswer request → OperatorScript Result) :
    requests (Script.ask request >>= rest) answers =
      request :: requests (rest (answers request)) answers := rfl

theorem requests_ofExcept_error_bind (failure : OperatorFailure) :
    requests (Script.ofExcept (.error failure) >>= next) answers = [] := rfl

theorem requests_ofExcept_ok_bind (result : Result) :
    requests (Script.ofExcept (.ok result) >>= next) answers =
      requests (next result) answers := rfl

theorem requests_pure (result : Result) :
    requests (pure result) answers = [] := rfl

/-- Nothing is asked after a workflow. -/
theorem requests_executed (outcome : Except Raised Result) (finish : Result → OperatorExit) :
    requests (executed outcome >>= fun result => pure (finish result)) answers = [] := by
  rcases outcome with raised | result
  · rfl
  · rfl

section Healthy

variable (healthy : Healthy settings useCase answers)
include healthy

theorem connect_of_healthy :
    ((connect settings).follow answers).2 = .ok () ∧
      requests (connect settings) answers = [.connect] := by
  rw [requests, connect, Script.follow_ask_bind, healthy.connects]
  exact ⟨rfl, rfl⟩

theorem requireWorker_of_healthy :
    ((requireWorker settings).follow answers).2 = .ok () ∧
      requests (requireWorker settings) answers = [.countPollers] := by
  obtain ⟨pollers, counted, some⟩ := healthy.polled
  rw [requests, requireWorker, Script.follow_ask_bind, counted]
  rcases pollers with _ | pollers
  · exact absurd rfl some
  · exact ⟨rfl, rfl⟩

/-- Connecting comes before what a command is for, and does not get in its way. -/
theorem requests_cleared (rest : OperatorScript Result) :
    requests (connect settings >>= fun _ => requireWorker settings >>= fun _ => rest) answers =
      [.connect, .countPollers] ++ requests rest answers := by
  obtain ⟨connected, asksConnect⟩ := connect_of_healthy healthy
  obtain ⟨required, asksWorker⟩ := requireWorker_of_healthy healthy
  rw [requests_bind_of_ok connected, asksConnect, requests_bind_of_ok required, asksWorker]
  rfl

end Healthy

variable (settings) in
theorem requests_loadStates
    {states : List DesiredState} (loaded : answers (.loadStates useCase) = .ok states) :
    ((loadStates settings useCase).follow answers).2 = .ok states ∧
      requests (loadStates settings useCase) answers = [.loadStates useCase] := by
  rw [requests, loadStates, Script.follow_ask_bind, loaded]
  exact ⟨rfl, rfl⟩

/-- The operator is asked, or is not to be asked, and agrees. -/
theorem confirm_of_agrees
    {arguments : ReconcileArguments} {targets : List UUID} {names : List String}
    (agrees : Agrees answers arguments targets names) :
    ((confirm (reconcilePrompt targets names) arguments.yes arguments.asJson).follow
      answers).2 = .ok () := by
  rw [confirm]
  rcases agrees with isYes | ⟨notJson, confirmed⟩
  · rw [if_pos isYes]
    rfl
  · split_ifs with isYes isJson
    · rfl
    · rw [notJson] at isJson
      cases isJson
    · rw [Script.follow_ask_bind, confirmed]
      rfl

theorem agrees_of_confirm
    {arguments : ReconcileArguments} {targets : List UUID} {names : List String}
    (confirmed : ((confirm (reconcilePrompt targets names) arguments.yes
      arguments.asJson).follow answers).2 = .ok ()) :
    Agrees answers arguments targets names := by
  rw [confirm] at confirmed
  split_ifs at confirmed with isYes isJson
  · exact Or.inl isYes
  · cases confirmed
  · refine Or.inr ⟨Bool.not_eq_true _ ▸ isJson, ?_⟩
    rw [Script.follow_ask_bind] at confirmed
    rcases agreed : answers (.prompt (reconcilePrompt targets names)) with _ | _
    · rw [agreed] at confirmed
      cases confirmed
    · rfl

/-- A prompt asks nothing of devices. -/
theorem requests_confirm_subset
    (message : String) (yes asJson : Bool) :
    requests (confirm message yes asJson) answers ⊆ [.prompt message] := by
  rw [confirm]
  split_ifs
  · exact List.nil_subset _
  · exact List.nil_subset _
  · exact fun _ member => member

/-- Known devices are reconciled exactly if the operator agrees. -/
theorem reconciles_iff
    {arguments : ReconcileArguments} {targets own : List UUID} {names : List String} :
    .executeReconcileDevices own ∈
        requests (reconcileTargets targets names arguments.yes arguments.asJson) answers ↔
      own = targets ∧ Agrees answers arguments targets names := by
  rw [reconcileTargets]
  rcases confirmed : ((confirm (reconcilePrompt targets names) arguments.yes
    arguments.asJson).follow answers).2 with failure | _
  · rw [requests_bind_of_error confirmed]
    refine ⟨fun member => ?_, fun agrees => ?_⟩
    · cases List.mem_singleton.1 (requests_confirm_subset _ _ _ member)
    · rw [confirm_of_agrees agrees.2] at confirmed
      cases confirmed
  · rw [requests_bind_of_ok confirmed, requests_ask_bind, requests_executed, List.mem_append,
      List.mem_singleton]
    refine ⟨?_, fun agrees => Or.inr (congrArg _ agrees.1)⟩
    rintro (member | same)
    · cases List.mem_singleton.1 (requests_confirm_subset _ _ _ member)
    · cases same
      exact ⟨rfl, agrees_of_confirm confirmed⟩

/-- A name that is that of one state resolves. -/
theorem resolveDevice_of_resolves
    {states : List DesiredState} {name : String} {deviceId : UUID}
    (resolves : Resolves states name deviceId) :
    resolveDevice text states name = .ok deviceId := by
  obtain ⟨state, only, rfl⟩ := resolves
  rw [resolveDevice, only]

theorem resolveDevices_of_resolves
    {states : List DesiredState} {names : List String} {deviceIds : List UUID}
    (resolves : List.Forall₂ (Resolves states) names deviceIds) :
    resolveDevices text states names = .ok deviceIds :=
  (mapM_eq_ok_iff _ _ _).2 (resolves.imp fun _ _ => resolveDevice_of_resolves)

end Requests

/-! ## Healthy worlds -/

section Admission

variable {settings : CliSettings} {text : PyText} {useCase : String} {answers : Surroundings}
variable (healthy : Healthy settings useCase answers) {states : List DesiredState}
  (loaded : answers (.loadStates useCase) = .ok states)
include healthy

theorem scan_admitted : .executeScanDrift useCase ∈ requests (scan settings useCase) answers := by
  rw [scan, requests_cleared healthy, requests_ask_bind]
  exact List.mem_append_right _ List.mem_cons_self

include loaded in
theorem deploy_admitted_iff (device : String) (deviceId : UUID) :
    .executeDeployIntent (ReconcileDevices.deployIntentId deviceId) deviceId ∈
        requests (deploy settings text device useCase) answers ↔
      Resolves states device deviceId := by
  obtain ⟨loads, asksLoad⟩ := requests_loadStates settings loaded
  rw [deploy, requests_bind_of_ok loads, asksLoad]
  rcases resolved : resolveDevice text states device with error | own
  · simp only [Except.mapError, requests_ofExcept_error_bind]
    refine ⟨fun member => ?_, fun resolves => ?_⟩
    · cases List.mem_singleton.1 member
    · rw [resolveDevice_of_resolves resolves] at resolved
      cases resolved
  · simp only [Except.mapError, requests_ofExcept_ok_bind]
    rw [requests_cleared healthy, requests_ask_bind, requests_executed]
    refine ⟨fun member => ?_, fun resolves => ?_⟩
    · have same : OperatorRequest.executeDeployIntent
          (ReconcileDevices.deployIntentId deviceId) deviceId =
          .executeDeployIntent (ReconcileDevices.deployIntentId own) own := by
        simpa using member
      obtain ⟨-, rfl⟩ := OperatorRequest.executeDeployIntent.inj same
      exact resolveDevice_eq_ok resolved
    · rw [resolveDevice_of_resolves resolves] at resolved
      cases resolved
      exact List.mem_append_right _ (List.mem_append_right _ List.mem_cons_self)

include loaded in
theorem named_admitted_iff
    {arguments : ReconcileArguments} (isUseCase : arguments.useCase = useCase)
    (some : arguments.devices ≠ []) (isNamed : arguments.drifted = false)
    (targets : List UUID) :
    .executeReconcileDevices targets ∈ requests (reconcile settings text arguments) answers ↔
      List.Forall₂ (Resolves states) arguments.devices targets ∧
        Agrees answers arguments targets arguments.devices := by
  subst isUseCase
  obtain ⟨loads, asksLoad⟩ := requests_loadStates settings loaded
  rw [reconcile, if_neg (by simpa [isNamed] using some), requests_cleared healthy,
    if_neg (by simp [isNamed]), requests_bind_of_ok loads, asksLoad]
  rcases resolved : resolveDevices text states arguments.devices with error | own
  · simp only [Except.mapError, requests_ofExcept_error_bind]
    refine ⟨fun member => ?_, fun agreed => ?_⟩
    · simp at member
    · rw [resolveDevices_of_resolves agreed.1] at resolved
      cases resolved
  · simp only [Except.mapError, requests_ofExcept_ok_bind]
    have others : .executeReconcileDevices targets ∈ [OperatorRequest.connect, .countPollers] ++
          ([.loadStates arguments.useCase] ++
            requests (reconcileTargets own arguments.devices arguments.yes arguments.asJson)
              answers) ↔
        .executeReconcileDevices targets ∈
          requests (reconcileTargets own arguments.devices arguments.yes arguments.asJson)
            answers := by
      simp
    refine others.trans (reconciles_iff.trans ⟨?_, ?_⟩)
    · rintro ⟨rfl, agrees⟩
      exact ⟨((mapM_eq_ok_iff _ _ _).1 resolved).imp fun _ _ => resolveDevice_eq_ok, agrees⟩
    · rintro ⟨resolves, agrees⟩
      rw [resolveDevices_of_resolves resolves] at resolved
      cases resolved
      exact ⟨rfl, agrees⟩

theorem drifted_admitted_iff
    {arguments : ReconcileArguments} (isUseCase : arguments.useCase = useCase)
    (none : arguments.devices = []) (isDrifted : arguments.drifted = true)
    (targets : List UUID) :
    .executeReconcileDevices targets ∈ requests (reconcile settings text arguments) answers ↔
      ∃ result, answers (.executeScanDrift useCase) = .ok result ∧
        targets = driftedIds result ∧ targets ≠ [] ∧
        Agrees answers arguments targets (driftedNames result) := by
  subst isUseCase
  rw [reconcile, if_neg (by simp [none, isDrifted]), requests_cleared healthy,
    if_pos isDrifted, requests_ask_bind]
  rcases scanned : answers (.executeScanDrift arguments.useCase) with raised | result
  · refine ⟨fun member => ?_, ?_⟩
    · rw [executed] at member
      simp only [Except.mapError, requests_ofExcept_error_bind] at member
      simp at member
    · rintro ⟨result, impossible, -⟩
      cases impossible
  rw [executed]
  simp only [Except.mapError, requests_ofExcept_ok_bind]
  by_cases nothing : driftedIds result = []
  · rw [if_pos nothing, requests_pure]
    refine ⟨fun member => ?_, ?_⟩
    · simp at member
    · rintro ⟨own, same, rfl, some, -⟩
      cases same
      exact absurd nothing some
  · rw [if_neg nothing]
    have others : .executeReconcileDevices targets ∈ [OperatorRequest.connect, .countPollers] ++
          (.executeScanDrift arguments.useCase ::
            requests (reconcileTargets (driftedIds result) (driftedNames result) arguments.yes
              arguments.asJson) answers) ↔
        .executeReconcileDevices targets ∈
          requests (reconcileTargets (driftedIds result) (driftedNames result) arguments.yes
            arguments.asJson) answers := by
      simp
    refine others.trans (reconciles_iff.trans ⟨?_, ?_⟩)
    · rintro ⟨rfl, agrees⟩
      exact ⟨result, rfl, rfl, nothing, agrees⟩
    · rintro ⟨own, same, rfl, -, agrees⟩
      cases same
      exact ⟨rfl, agrees⟩

include loaded in
theorem admits_of_healthy : Admits settings text useCase answers states where
  scan := scan_admitted healthy
  deploy := deploy_admitted_iff healthy loaded
  named _ isUseCase some isNamed := named_admitted_iff healthy loaded isUseCase some isNamed
  drifted _ isUseCase none isDrifted := drifted_admitted_iff healthy isUseCase none isDrifted

end Admission

/-- The detail a schedule is refused with, as the identity check gives it. -/
def foreignDetail (settings : CliSettings) (answers : Surroundings) : Option String :=
  let identity := Identity.identify settings.infrahubAddress (answers .readIdentity)
  if identity.isForeign then some identity.detail else none

/--
Where a status exits with zero and nothing changes, a scan starts, a name is
deployed exactly if it is that of one device, named devices are reconciled
exactly if each name is that of one device and the operator agrees, drifted
ones exactly if the scan finds some and the operator agrees, and no schedule is
refused for the Source of Truth.
-/
theorem status_preflight
    (settings : CliSettings) (text : PyText) (useCase : String) (answers : Surroundings)
    (zero : operatorStatus ((status settings useCase).follow answers).2 = 0) :
    (∃ states, answers (.loadStates useCase) = .ok states ∧ states ≠ [] ∧
      Admits settings text useCase answers states) ∧
    ∀ desk : Desk, desk.foreign = foreignDetail settings answers →
      refuseForeignSot desk = .ok () := by
  have healthy := status_eq_zero_iff.1 zero
  obtain ⟨states, loaded, some⟩ := healthy.seeded
  refine ⟨⟨states, loaded, some, admits_of_healthy healthy loaded⟩, ?_⟩
  intro desk isForeign
  rw [foreignDetail, healthy.ours] at isForeign
  rw [refuseForeignSot, isForeign]
  rfl

/-! ## The commands of a caller -/

section Agreement

variable (settings : CliSettings) (text : PyText) (answers : Surroundings)

/-- What a command finds when it connects in these surroundings. -/
def sessionOf : Session where
  temporalHost := settings.temporalHost
  taskQueue := settings.taskQueue
  unreachable := answers .connect
  pollers := (answers .countPollers).toOption

theorem ending_connect :
    ((connect settings).follow answers).2 =
      (Presentation.connect (sessionOf settings answers)).mapError .failed := by
  rw [connect, Script.follow_ask_bind, Presentation.connect, sessionOf]
  rcases answers .connect with _ | cause
  · rfl
  · rfl

theorem ending_requireWorker :
    ((requireWorker settings).follow answers).2 =
      (Presentation.requireWorker (sessionOf settings answers)).mapError .failed := by
  rw [requireWorker, Script.follow_ask_bind, Presentation.requireWorker, sessionOf]
  rcases answers .countPollers with cause | _ | pollers
  · rfl
  · rfl
  · rfl

theorem ending_executed {Result : Type} (outcome : Except Raised Result) :
    ((executed outcome).follow answers).2 = (executeWorkflow outcome).mapError .failed := by
  rcases outcome with raised | result
  · rfl
  · rfl

/-- A scan exits as the scan of the session does. -/
theorem scan_agrees (useCase : String) :
    (((scan settings useCase).follow answers).2).map OperatorExit.code =
      (Presentation.scan (sessionOf settings answers)
        (answers (.executeScanDrift useCase))).mapError .failed := by
  rw [scan, Script.follow_bind_snd, ending_connect, Presentation.scan]
  rcases Presentation.connect (sessionOf settings answers) with failure | _
  · rfl
  change (((requireWorker settings >>= _ : OperatorScript OperatorExit).follow answers).2).map _ = _
  rw [Script.follow_bind_snd, ending_requireWorker]
  rcases Presentation.requireWorker (sessionOf settings answers) with failure | _
  · rfl
  change (((Script.ask _ >>= _ : OperatorScript OperatorExit).follow answers).2).map _ = _
  rw [Script.follow_ask_bind, Script.follow_bind_snd, ending_executed]
  rcases answers (.executeScanDrift useCase) with raised | result
  · rfl
  · rfl

/-- The devices named in a reconcile, or why they are not known. -/
def resolvedIn (arguments : ReconcileArguments) : Except CliError (List UUID) :=
  match answers (.loadStates arguments.useCase) with
  | .ok states => resolveDevices text states arguments.devices
  | .error (.attribution message) =>
      .error
        { message := message
          hint := some "Check those nodes' device relation in the Source of Truth" }
  | .error (.unavailable cause) =>
      .error (connectionCliError "Source of Truth" settings.infrahubAddress "INFRAHUB_ADDRESS"
        cause)
  | .error (.raised message) => .error { message := message }

/-- What the operator of a reconcile is asked, once the targets are known. -/
def promptOf (arguments : ReconcileArguments) : String :=
  if arguments.drifted then
    match answers (.executeScanDrift arguments.useCase) with
    | .ok result => reconcilePrompt (driftedIds result) (driftedNames result)
    | .error _ => ""
  else
    match resolvedIn settings text answers arguments with
    | .ok targets => reconcilePrompt targets arguments.devices
    | .error _ => ""

/-- What a reconcile is answered in these surroundings. -/
def answersOf (arguments : ReconcileArguments) : ReconcileAnswers where
  scanned := answers (.executeScanDrift arguments.useCase)
  resolved := resolvedIn settings text answers arguments
  confirmed := answers (.prompt (promptOf settings text answers arguments))
  reconciled targets := answers (.executeReconcileDevices targets)

theorem ending_confirm (arguments : ReconcileArguments) (message : String) :
    ((confirm message arguments.yes arguments.asJson).follow answers).2 =
      (Presentation.confirm arguments (answers (.prompt message))).mapError .failed := by
  rw [confirm, Presentation.confirm]
  split_ifs with isYes isJson confirmed
  · rfl
  · rfl
  · rw [Script.follow_ask_bind, confirmed]
    rfl
  · rw [Script.follow_ask_bind, Bool.eq_false_of_not_eq_true confirmed]
    rfl

theorem ending_reconcileTargets
    {arguments : ReconcileArguments} {targets : List UUID} {names : List String}
    (prompted : promptOf settings text answers arguments = reconcilePrompt targets names) :
    (((reconcileTargets targets names arguments.yes arguments.asJson).follow answers).2).map
        OperatorExit.code =
      ((Presentation.reconcileTargets arguments (answersOf settings text answers arguments)
        targets).mapError .failed).map ReconcileExit.code := by
  rw [reconcileTargets, Script.follow_bind_snd, ending_confirm, Presentation.reconcileTargets]
  change _ = (((Presentation.confirm arguments (answers (.prompt (promptOf settings text answers
    arguments))) >>= _ : Except Failure ReconcileExit)).mapError _).map _
  rw [prompted]
  rcases Presentation.confirm arguments (answers (.prompt (reconcilePrompt targets names))) with
    failure | _
  · rfl
  change (((Script.ask _ >>= _ : OperatorScript OperatorExit).follow answers).2).map _ = _
  rw [Script.follow_ask_bind, Script.follow_bind_snd, ending_executed]
  change _ = (((executeWorkflow (answers (.executeReconcileDevices targets)) >>= _ :
    Except Failure ReconcileExit)).mapError _).map _
  rcases answers (.executeReconcileDevices targets) with raised | result
  · rfl
  · rfl

/-- A reconcile exits as the reconcile of the session does, unless loading breaks down. -/
theorem reconcile_agrees
    (arguments : ReconcileArguments)
    (loads : ∀ message, answers (.loadStates arguments.useCase) ≠ .error (.raised message)) :
    (((reconcile settings text arguments).follow answers).2).map OperatorExit.code =
      ((Presentation.reconcile (sessionOf settings answers) arguments
        (answersOf settings text answers arguments)).mapError .failed).map
          ReconcileExit.code := by
  rw [reconcile, Presentation.reconcile]
  split_ifs with unclear isDrifted
  · rfl
  · rw [Script.follow_bind_snd, ending_connect]
    rcases Presentation.connect (sessionOf settings answers) with failure | _
    · rfl
    change (((requireWorker settings >>= _ : OperatorScript OperatorExit).follow
      answers).2).map _ = _
    rw [Script.follow_bind_snd, ending_requireWorker]
    rcases Presentation.requireWorker (sessionOf settings answers) with failure | _
    · rfl
    change (((Script.ask _ >>= _ : OperatorScript OperatorExit).follow answers).2).map _ =
      (((executeWorkflow (answers (.executeScanDrift arguments.useCase)) >>= _ :
        Except Failure ReconcileExit)).mapError _).map _
    rw [Script.follow_ask_bind, Script.follow_bind_snd, ending_executed]
    have prompted : ∀ result, answers (.executeScanDrift arguments.useCase) = .ok result →
        promptOf settings text answers arguments =
          reconcilePrompt (driftedIds result) (driftedNames result) := by
      intro result scanned
      rw [promptOf, if_pos isDrifted, scanned]
    rcases scanned : answers (.executeScanDrift arguments.useCase) with raised | result
    · rfl
    have agrees := ending_reconcileTargets settings text answers (prompted result scanned)
    by_cases none : driftedIds result = []
    · change (((if _ then _ else _ : OperatorScript OperatorExit).follow answers).2).map _ =
        (((if _ then _ else _ : Except Failure ReconcileExit)).mapError _).map _
      rw [if_pos none, if_pos none]
      rfl
    · change (((if _ then _ else _ : OperatorScript OperatorExit).follow answers).2).map _ =
        (((if _ then _ else _ : Except Failure ReconcileExit)).mapError _).map _
      rw [if_neg none, if_neg none]
      exact agrees
  · rw [Script.follow_bind_snd, ending_connect]
    rcases Presentation.connect (sessionOf settings answers) with failure | _
    · rfl
    change (((requireWorker settings >>= _ : OperatorScript OperatorExit).follow
      answers).2).map _ = _
    rw [Script.follow_bind_snd, ending_requireWorker]
    rcases Presentation.requireWorker (sessionOf settings answers) with failure | _
    · rfl
    change (((loadStates settings _ >>= _ : OperatorScript OperatorExit).follow
      answers).2).map _ = ((((resolvedIn settings text answers arguments).mapError
        Failure.cliError >>= _ : Except Failure ReconcileExit)).mapError _).map _
    have prompted : ∀ targets, resolvedIn settings text answers arguments = .ok targets →
        promptOf settings text answers arguments =
          reconcilePrompt targets arguments.devices := by
      intro targets resolved
      rw [promptOf, if_neg isDrifted, resolved]
    rw [loadStates, Script.bind_assoc, Script.follow_ask_bind]
    rcases loaded : answers (.loadStates arguments.useCase) with
      (message | cause | message) | states
    · rw [resolvedIn, loaded]
      rfl
    · rw [resolvedIn, loaded]
      rfl
    · exact absurd loaded (loads message)
    · have resolves : resolvedIn settings text answers arguments =
          resolveDevices text states arguments.devices := by
        rw [resolvedIn, loaded]
      rw [resolves] at prompted ⊢
      change (((Script.ofExcept ((resolveDevices text states arguments.devices).mapError
        cliFailure) >>= _ : OperatorScript OperatorExit).follow answers).2).map _ = _
      rcases resolved : resolveDevices text states arguments.devices with error | targets
      · rfl
      · exact ending_reconcileTargets settings text answers (prompted targets resolved)

end Agreement

/-! ## A healthy fabric -/

/-- The schema of an instance that carries the marker. -/
def markedRegistry : Registry :=
  .dict (Dict.empty.set Identity.snaplDeviceKind ⟨some [some "name", some "use_case"]⟩)

/-- A fabric of one device, with a worker. -/
def fabricSurroundings : Surroundings
  | .loadStates _ => .ok [fabricState]
  | .connect => none
  | .countPollers => .ok 1
  | .executeDeployIntent _ _ => .ok fabricDeployed
  | .executeScanDrift _ => .error .cancelled
  | .executeReconcileDevices _ => .error .cancelled
  | .prompt _ => false
  | .openAuditLog => .absent
  | .queryByWorkflow _ => .ok []
  | .queryByDevice _ => .ok []
  | .listRunningWorkflows => .ok []
  | .findDriftSchedule _ => .ok none
  | .readIdentity => ⟨some markedRegistry, some 1⟩

/-- The status of the fabric exits with zero, so its device is deployed by its name. -/
theorem fabric_admitted :
    .executeDeployIntent (ReconcileDevices.deployIntentId ⟨1⟩) ⟨1⟩ ∈
      requests (deploy ⟨"localhost:7233", "snapl", "", ""⟩ PyText.ascii "fabric" "fabric")
        fabricSurroundings := by
  have healthy : Healthy ⟨"localhost:7233", "snapl", "", ""⟩ "fabric" fabricSurroundings :=
    ⟨rfl, ⟨[], rfl⟩, ⟨1, rfl, Nat.one_ne_zero⟩, ⟨_, rfl, List.cons_ne_nil _ _⟩,
      by decide +kernel⟩
  obtain ⟨⟨states, loaded, -, admits⟩, -⟩ := status_preflight
    ⟨"localhost:7233", "snapl", "", ""⟩ PyText.ascii "fabric" fabricSurroundings
    (status_eq_zero_iff.2 healthy)
  cases loaded
  exact (admits.deploy "fabric" ⟨1⟩).2 ⟨fabricState, by decide, rfl⟩

end Snapl.Presentation.OperatorScript
