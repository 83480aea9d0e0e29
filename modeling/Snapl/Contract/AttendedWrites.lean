import Snapl.Contract.FetchedStates
import Snapl.Contract.SeedIdempotence
import Snapl.Presentation.OperatorCommands

/-!
# Attended writes

What an operator's command writes to, whatever it is answered and wherever it
is cut off: the one device of each name the operator typed, in the Source of
Truth its names were looked up in, or the devices its own scan reported
drifted; once, as the last thing it does, after it reached Temporal and a
worker, and after the operator agreed where several devices are written to.
And what a command has done that exits with zero.
-/

namespace Snapl.Contract

open Snapl.Library Snapl.Intent Snapl.Observability Snapl.Orchestrator Snapl.Presentation

/-! ## What a write needs -/

/-- What a command has asked so far, with the answers. -/
abbrev Past : Type := List (Turn OperatorRequest OperatorAnswer)

/-- Nothing was written. -/
def Unwritten (past : Past) : Prop := ∀ turn ∈ past, turn.request.writes = false

/-- Temporal was reached, and no worker was found missing. -/
structure Cleared (past : Past) : Prop where
  connected : ⟨.connect, none⟩ ∈ past
  counted : ∃ pollers, ⟨.countPollers, pollers⟩ ∈ past ∧ pollers ≠ .ok 0

/-- The one state of this name is of this device. -/
def Resolves (states : List DesiredState) (name : String) (deviceId : UUID) : Prop :=
  ∃ state, (states.filter fun state => state.device.name = name) = [state] ∧
    state.device.id = deviceId

/-- The operator agreed, or was not to be asked. -/
def Agreed (yes asJson : Bool) (message : String) (past : Past) : Prop :=
  yes = true ∨ asJson = false ∧ ⟨.prompt message, true⟩ ∈ past

/-- What gives a command the right to a write. -/
inductive Mandate (past : Past) : OperatorCommand → OperatorRequest → Prop
  | deploy
      {device useCase : String} {states : List DesiredState} {deviceId : UUID}
      (loaded : ⟨.loadStates useCase, .ok states⟩ ∈ past)
      (resolves : Resolves states device deviceId) :
      Mandate past (.deploy device useCase)
        (.executeDeployIntent (ReconcileDevices.deployIntentId deviceId) deviceId)
  | named
      {arguments : ReconcileArguments} {states : List DesiredState} {deviceIds : List UUID}
      (isNamed : arguments.drifted = false)
      (loaded : ⟨.loadStates arguments.useCase, .ok states⟩ ∈ past)
      (resolves : List.Forall₂ (Resolves states) arguments.devices deviceIds)
      (agreed : Agreed arguments.yes arguments.asJson
        (OperatorScript.reconcilePrompt deviceIds arguments.devices) past) :
      Mandate past (.reconcile arguments) (.executeReconcileDevices deviceIds)
  | drifted
      {arguments : ReconcileArguments} {result : DriftScanResult}
      (isDrifted : arguments.drifted = true)
      (scanned : ⟨.executeScanDrift arguments.useCase, .ok result⟩ ∈ past)
      (some : driftedIds result ≠ [])
      (agreed : Agreed arguments.yes arguments.asJson
        (OperatorScript.reconcilePrompt (driftedIds result) (OperatorScript.driftedNames result))
        past) :
      Mandate past (.reconcile arguments) (.executeReconcileDevices (driftedIds result))

/-- What a command may ask after what it has asked. -/
def MayAsk (command : OperatorCommand) (past : Past) (request : OperatorRequest) : Prop :=
  Unwritten past ∧ (request.writes = true → Cleared past ∧ Mandate past command request)

/-- What a status shows of Temporal where it found everything fine. -/
inductive TemporalFine (settings : CliSettings) (past : Past) (useCase : String) :
    List StatusCheck → List RunningWorkflowInfo → Prop
  | intro
      {running : List RunningWorkflowInfo} {pollers : Nat}
      {found : Except String (Option Schedules.DriftScheduleView)}
      (connected : ⟨.connect, none⟩ ∈ past)
      (listed : ⟨.listRunningWorkflows, .ok running⟩ ∈ past)
      (counted : ⟨.countPollers, .ok pollers⟩ ∈ past) (some : pollers ≠ 0)
      (inspected : ⟨.findDriftSchedule useCase, found⟩ ∈ past) :
      TemporalFine settings past useCase
        [⟨"temporal", true, settings.temporalHost⟩,
          OperatorScript.workerCheck settings (.ok pollers),
          OperatorScript.driftScheduleCheck useCase found] running

/-- What a status shows of the Source of Truth where it found everything fine. -/
inductive SotFine (settings : CliSettings) (past : Past) (useCase : String) :
    List StatusCheck → Prop
  | intro
      {states : List DesiredState} {reading : SotReading}
      (loaded : ⟨.loadStates useCase, .ok states⟩ ∈ past) (seeded : states ≠ [])
      (read : ⟨.readIdentity, reading⟩ ∈ past)
      (own : (Identity.identify settings.infrahubAddress reading).isForeign = false) :
      SotFine settings past useCase
        [⟨"source of truth", true, settings.infrahubAddress⟩,
          ⟨"source of truth is snapl's", true,
            (Identity.identify settings.infrahubAddress reading).detail⟩,
          ⟨"'" ++ useCase ++ "' seeded", true, toString states.length ++ " devices"⟩]

/-- What a command of exit status zero has done, and what it prints. -/
inductive Accomplished (settings : CliSettings) (past : Past) : OperatorCommand → Printed → Prop
  | deploy
      {device useCase workflowId : String} {deviceId : UUID} {result : WorkflowResult}
      (mandate : Mandate past (.deploy device useCase) (.executeDeployIntent workflowId deviceId))
      (deployed : ⟨.executeDeployIntent workflowId deviceId, .ok result⟩ ∈ past)
      (success : result.success = true) :
      Accomplished settings past (.deploy device useCase) (.deploy result)
  | scan
      {useCase : String} {result : DriftScanResult}
      (scanned : ⟨.executeScanDrift useCase, .ok result⟩ ∈ past)
      (errored : result.errored = 0) (drifted : result.drifted = 0) :
      Accomplished settings past (.scan useCase) (.scan result)
  | reconcile
      {arguments : ReconcileArguments} {deviceIds : List UUID} {result : ReconcileResult}
      (mandate : Mandate past (.reconcile arguments) (.executeReconcileDevices deviceIds))
      (reconciled : ⟨.executeReconcileDevices deviceIds, .ok result⟩ ∈ past)
      (failed : result.failed = 0) :
      Accomplished settings past (.reconcile arguments) (.reconcile result)
  | nothingDrifted
      {arguments : ReconcileArguments} {result : DriftScanResult}
      (isDrifted : arguments.drifted = true) (unwritten : Unwritten past)
      (scanned : ⟨.executeScanDrift arguments.useCase, .ok result⟩ ∈ past)
      (none : driftedIds result = []) :
      Accomplished settings past (.reconcile arguments)
        (.notice ("no drifted devices in " ++ arguments.useCase ++ " — nothing to reconcile"))
  | auditWorkflow
      {workflow device : Option String} {useCase workflowId : String} {events : List AuditEvent}
      (unwritten : Unwritten past) (opened : ⟨.openAuditLog, .opened⟩ ∈ past)
      (only : filled? workflow = some workflowId ∧ filled? device = none)
      (queried : ⟨.queryByWorkflow workflowId, .ok events⟩ ∈ past) :
      Accomplished settings past (.audit workflow device useCase) (.audit events)
  | auditDevice
      {workflow device : Option String} {useCase name : String} {states : List DesiredState}
      {deviceId : UUID} {events : List AuditEvent}
      (unwritten : Unwritten past) (opened : ⟨.openAuditLog, .opened⟩ ∈ past)
      (only : filled? workflow = none ∧ filled? device = some name)
      (loaded : ⟨.loadStates useCase, .ok states⟩ ∈ past)
      (resolves : Resolves states name deviceId)
      (queried : ⟨.queryByDevice deviceId, .ok events⟩ ∈ past) :
      Accomplished settings past (.audit workflow device useCase) (.audit events)
  | status
      {useCase : String} {checks more : List StatusCheck} {running : List RunningWorkflowInfo}
      (unwritten : Unwritten past)
      (temporal : TemporalFine settings past useCase checks running)
      (sot : SotFine settings past useCase more) :
      Accomplished settings past (.status useCase) (.status (checks ++ more) running)

/-- The names an operator typed. -/
def typedNames : OperatorCommand → List String
  | .deploy device _ => [device]
  | .reconcile arguments => arguments.devices
  | _ => []

/-- The use case a command is about. -/
def useCaseOf : OperatorCommand → String
  | .deploy _ useCase | .scan useCase | .audit _ _ useCase | .status useCase => useCase
  | .reconcile arguments => arguments.useCase

/-- The devices a request writes to. -/
def targetsOf : OperatorRequest → List UUID
  | .executeDeployIntent _ deviceId => [deviceId]
  | .executeReconcileDevices deviceIds => deviceIds
  | _ => []

/-- The only device of the use case with this name has this identifier. -/
def OnlyDevice (runtime : Runtime) (contents : Contents) (useCase name : String)
    (deviceId : UUID) : Prop :=
  ∃ node, ((contents.nodes .dcimDevice).filter fun node =>
      node.attributes "use_case" = .str useCase ∧ node.attributes "name" = .str name) = [node] ∧
    runtime.readUuid node.id = some deviceId

/-- The scan of a command reported the device drifted. -/
def ReportedDrifted (past : Past) (useCase : String) (deviceId : UUID) : Prop :=
  ∃ result : DriftScanResult, ⟨.executeScanDrift useCase, .ok result⟩ ∈ past ∧
    ∃ report ∈ result.reports.values, report.deviceId = deviceId ∧ report.status = .drifted

/-- A command that exits with zero has done what it is for, and prints what it found. -/
def Concludes (settings : CliSettings) (command : OperatorCommand) (past : Past)
    (ending : Except OperatorFailure OperatorExit) : Prop :=
  operatorStatus ending = 0 →
    ∃ printed, ending = .ok ⟨.ok, printed⟩ ∧ Accomplished settings past command printed

/-! ## Steps that only read -/

section Steps

variable {settings : CliSettings} {command : OperatorCommand} {past later : Past}
variable {Result Next : Type}

theorem Agreed.mono
    {yes asJson : Bool} {message : String} (agreed : Agreed yes asJson message past)
    (included : past ⊆ later) : Agreed yes asJson message later :=
  agreed.imp_right fun prompted => ⟨prompted.1, included prompted.2⟩

/-- A right to write is not lost by asking more. -/
theorem Mandate.mono
    {request : OperatorRequest} (mandate : Mandate past command request)
    (included : past ⊆ later) : Mandate later command request := by
  cases mandate with
  | deploy loaded resolves => exact .deploy (included loaded) resolves
  | named isNamed loaded resolves agreed =>
      exact .named isNamed (included loaded) resolves (agreed.mono included)
  | drifted isDrifted scanned some agreed =>
      exact .drifted isDrifted (included scanned) some (agreed.mono included)

theorem TemporalFine.mono
    {useCase : String} {checks : List StatusCheck} {running : List RunningWorkflowInfo}
    (temporal : TemporalFine settings past useCase checks running) (included : past ⊆ later) :
    TemporalFine settings later useCase checks running := by
  obtain ⟨connected, listed, counted, some, inspected⟩ := temporal
  exact ⟨included connected, included listed, included counted, some, included inspected⟩

theorem SotFine.mono
    {useCase : String} {checks : List StatusCheck} (sot : SotFine settings past useCase checks)
    (included : past ⊆ later) : SotFine settings later useCase checks := by
  obtain ⟨loaded, seeded, read, own⟩ := sot
  exact ⟨included loaded, seeded, included read, own⟩

theorem unwritten_nil : Unwritten [] := fun _ member => absurd member List.not_mem_nil

theorem Unwritten.snoc
    (unwritten : Unwritten past) (turn : Turn OperatorRequest OperatorAnswer)
    (isRead : turn.request.writes = false) : Unwritten (past ++ [turn]) := by
  intro other member
  rcases List.mem_append.1 member with isPast | isTurn
  · exact unwritten other isPast
  · rw [List.mem_singleton.1 isTurn]
    exact isRead

/-- Reading is allowed as long as nothing was written. -/
theorem mayAsk_read
    (unwritten : Unwritten past) (request : OperatorRequest)
    (isRead : request.writes = false) : MayAsk command past request := by
  refine ⟨unwritten, ?_⟩
  rw [isRead]
  exact fun impossible => absurd impossible Bool.false_ne_true

/-- A command that fails like this does not exit with zero. -/
def ExitsNonZero (failure : OperatorFailure) : Prop := operatorStatus (.error failure) ≠ 0

/--
A step writes nothing, and fails with a report; a result is there only where
the answers give it.
-/
def OnlyReads (script : OperatorScript Result) (learns : Past → Result → Prop) : Prop :=
  ∀ command past, Unwritten past → script.Keeps (MayAsk command)
    (fun later ending => Unwritten later ∧ past ⊆ later ∧
      (∀ result, ending = .ok result → learns later result) ∧
      ∀ failure, ending = .error failure → ExitsNonZero failure) past

/-- What follows a step that reads may use what it has learnt. -/
theorem OnlyReads.bind
    {script : OperatorScript Result} {learns : Past → Result → Prop}
    {next : Result → OperatorScript OperatorExit} (reads : OnlyReads script learns)
    (unwritten : Unwritten past)
    (rest : ∀ later result, Unwritten later → past ⊆ later → learns later result →
      (next result).Keeps (MayAsk command) (Concludes settings command) later) :
    (script >>= next).Keeps (MayAsk command) (Concludes settings command) past := by
  refine (reads command past unwritten).bind ?_ ?_
  · rintro later result ⟨stillUnwritten, included, learnt, -⟩
    exact rest later result stillUnwritten included (learnt result rfl)
  · rintro later failure ⟨-, -, -, nonZero⟩ zero
    exact absurd zero (nonZero failure rfl)

/-- One request, and what is made of its answer. -/
theorem reads_ask
    (request : OperatorRequest) (isRead : request.writes = false)
    {judge : OperatorAnswer request → Except OperatorFailure Result}
    {learns : Past → Result → Prop}
    (onOk : ∀ answer result later, judge answer = .ok result → ⟨request, answer⟩ ∈ later →
      learns later result)
    (onError : ∀ answer failure, judge answer = .error failure → ExitsNonZero failure) :
    OnlyReads (Script.ask request >>= fun answer => Script.ofExcept (judge answer)) learns := by
  intro command past unwritten
  refine Script.Keeps.ask_bind (mayAsk_read unwritten request isRead) fun answer => ?_
  refine ⟨unwritten.snoc _ isRead, List.subset_append_left _ _, ?_, ?_⟩
  · intro result judged
    exact onOk answer result _ judged (List.mem_append_right _ List.mem_cons_self)
  · intro failure judged
    exact onError answer failure judged

/-- Less is made of what a step has learnt. -/
theorem OnlyReads.mono
    {script : OperatorScript Result} {learns weaker : Past → Result → Prop}
    (reads : OnlyReads script learns)
    (weakens : ∀ later result, learns later result → weaker later result) :
    OnlyReads script weaker := by
  intro command past unwritten
  refine (reads command past unwritten).mono ?_
  rintro later ending ⟨unwrittenStill, included, learnt, nonZero⟩
  exact ⟨unwrittenStill, included, fun result same => weakens later result (learnt result same),
    nonZero⟩

/-- Steps that read one after the other; the later ones may use what the first has learnt. -/
theorem OnlyReads.andThen
    {script : OperatorScript Result} {next : Result → OperatorScript Next}
    {learns : Past → Result → Prop} {learnsNext : Past → Next → Prop}
    (reads : OnlyReads script learns)
    (rest : ∀ earlier result, learns earlier result →
      OnlyReads (next result) fun later final => earlier ⊆ later → learnsNext later final) :
    OnlyReads (script >>= next) learnsNext := by
  intro command past unwritten
  refine (reads command past unwritten).bind ?_ ?_
  · rintro later result ⟨stillUnwritten, included, learnt, -⟩
    refine (rest later result (learnt result rfl) command later stillUnwritten).mono ?_
    rintro final ending ⟨unwrittenStill, includedLater, learntNext, nonZero⟩
    exact ⟨unwrittenStill, List.Subset.trans included includedLater,
      fun result same => learntNext result same includedLater, nonZero⟩
  · rintro later failure ⟨stillUnwritten, included, -, nonZero⟩
    refine ⟨stillUnwritten, included, nofun, ?_⟩
    rintro own ⟨⟩
    exact nonZero failure rfl

theorem reads_pure (result : Result) : OnlyReads (pure result) fun _ own => own = result := by
  intro command past unwritten
  refine ⟨unwritten, fun _ member => member, ?_, nofun⟩
  rintro own ⟨⟩
  rfl

/-- A request that is only read. -/
theorem reads_request (request : OperatorRequest) (isRead : request.writes = false) :
    OnlyReads (Script.ask request) fun later answer => ⟨request, answer⟩ ∈ later := by
  intro command past unwritten
  refine ⟨mayAsk_read unwritten request isRead, fun answer => ?_⟩
  refine ⟨unwritten.snoc _ isRead, List.subset_append_left _ _, ?_, nofun⟩
  rintro own ⟨⟩
  exact List.mem_append_right _ List.mem_cons_self

/-- A failure with a traceback ends with a nonzero status. -/
theorem reads_raisedAnswer (value : Except String Result) :
    OnlyReads (Script.ofExcept (value.mapError OperatorFailure.raised)) fun _ result =>
      value = .ok result := by
  intro command past unwritten
  refine ⟨unwritten, fun _ member => member, ?_, ?_⟩
  · rcases value with message | result
    · nofun
    · rintro own ⟨⟩
      rfl
  · rcases value with message | result
    · rintro failure ⟨⟩
      exact Nat.one_ne_zero
    · nofun

/-- Only one exit code gives the status zero. -/
theorem code_of_status {exit : OperatorExit} (zero : operatorStatus (.ok exit) = 0) :
    exit.code = .ok := by
  change exit.code.status = 0 at zero
  rcases code : exit.code with _ | _ | _
  · rfl
  · rw [code] at zero
    cases zero
  · rw [code] at zero
    cases zero

/-- A command that only reads. -/
theorem keeps_of_reads
    {script : OperatorScript OperatorExit}
    (reads : OnlyReads script fun later exit =>
      exit.code = .ok → Unwritten later → Accomplished settings later command exit.printed) :
    script.Keeps (MayAsk command) (Concludes settings command) [] := by
  refine (reads command [] unwritten_nil).mono ?_
  rintro later (failure | exit) ⟨unwritten, -, learnt, nonZero⟩ zero
  · exact absurd zero (nonZero failure rfl)
  · have code := code_of_status zero
    refine ⟨exit.printed, ?_, learnt exit rfl code unwritten⟩
    rw [← code]

/-- What is raised as an anticipated failure ends with a nonzero status. -/
theorem exitsNonZero_cliFailure {error : CliError} (isError : error.code = .error) :
    ExitsNonZero (cliFailure error) := by
  change error.code.status ≠ 0
  rw [isError]
  decide

/-- A workflow is started last, and the exit status tells how it went. -/
theorem keeps_execute
    (request : OperatorRequest) (outcome : OperatorAnswer request → Except Raised Result)
    {finish : Result → OperatorExit} (may : MayAsk command past request)
    (accomplished : ∀ answer result, outcome answer = .ok result → (finish result).code = .ok →
      Accomplished settings (past ++ [⟨request, answer⟩]) command (finish result).printed) :
    (Script.ask request >>= fun answer => OperatorScript.executed (outcome answer) >>=
      fun result => pure (finish result) : OperatorScript OperatorExit).Keeps (MayAsk command)
        (Concludes settings command) past := by
  refine Script.Keeps.ask_bind may fun answer => ?_
  refine Script.Keeps.ofExcept_bind ?_ ?_
  · intro result executed zero
    rcases ended : outcome answer with raised | value
    · rw [ended] at executed
      cases executed
    · rw [ended] at executed
      cases executed
      have code := code_of_status zero
      refine ⟨(finish result).printed, ?_, accomplished answer result ended code⟩
      rw [← code]
  · intro failure executed zero
    rcases ended : outcome answer with raised | value
    · rw [ended] at executed
      cases executed
      cases zero
    · rw [ended] at executed
      cases executed

end Steps

/-! ## The steps of the commands -/

section Commands

variable (settings : CliSettings) (text : PyText)

theorem reads_loadStates (useCase : String) :
    OnlyReads (OperatorScript.loadStates settings useCase) fun later states =>
      ⟨.loadStates useCase, .ok states⟩ ∈ later := by
  refine reads_ask (.loadStates useCase) rfl ?_ ?_
  · rintro (failure | states) result later judged member
    · cases judged
    · cases judged
      exact member
  · rintro ((message | cause | message) | states) failure judged
    · cases judged
      exact exitsNonZero_cliFailure rfl
    · cases judged
      exact exitsNonZero_cliFailure rfl
    · cases judged
      exact Nat.one_ne_zero
    · cases judged

theorem reads_connect :
    OnlyReads (OperatorScript.connect settings) fun later _ => ⟨.connect, none⟩ ∈ later := by
  refine reads_ask .connect rfl ?_ ?_
  · rintro (_ | cause) result later judged member
    · exact member
    · cases judged
  · rintro (_ | cause) failure judged
    · cases judged
    · cases judged
      exact exitsNonZero_cliFailure rfl

theorem reads_requireWorker :
    OnlyReads (OperatorScript.requireWorker settings) fun later _ =>
      ∃ pollers, ⟨.countPollers, pollers⟩ ∈ later ∧ pollers ≠ .ok 0 := by
  refine reads_ask .countPollers rfl ?_ ?_
  · rintro (cause | _ | pollers) result later judged member
    · exact ⟨_, member, nofun⟩
    · cases judged
    · exact ⟨_, member, nofun⟩
  · rintro (cause | _ | pollers) failure judged
    · cases judged
    · cases judged
      exact exitsNonZero_cliFailure rfl
    · cases judged

theorem reads_openAuditLog :
    OnlyReads (OperatorScript.openAuditLog settings) fun later _ =>
      ⟨.openAuditLog, .opened⟩ ∈ later := by
  refine reads_ask .openAuditLog rfl ?_ ?_
  · rintro (_ | message | _) result later judged member
    · cases judged
    · cases judged
    · exact member
  · rintro (_ | message | _) failure judged
    · cases judged
      exact exitsNonZero_cliFailure rfl
    · cases judged
      exact Nat.one_ne_zero
    · cases judged

theorem reads_confirm (message : String) (yes asJson : Bool) :
    OnlyReads (OperatorScript.confirm message yes asJson) fun later _ =>
      Agreed yes asJson message later := by
  rw [OperatorScript.confirm]
  by_cases isYes : yes = true
  · rw [if_pos isYes]
    intro command past unwritten
    exact ⟨unwritten, fun _ member => member, fun _ _ => Or.inl isYes, nofun⟩
  rw [if_neg isYes]
  by_cases isJson : asJson = true
  · rw [if_pos isJson]
    intro command past unwritten
    refine ⟨unwritten, fun _ member => member, nofun, ?_⟩
    intro failure raised
    cases raised
    exact exitsNonZero_cliFailure rfl
  · rw [if_neg isJson]
    refine reads_ask (.prompt message) rfl ?_ ?_
    · rintro (_ | _) result later judged member
      · cases judged
      · exact Or.inr ⟨Bool.not_eq_true _ ▸ isJson, member⟩
    · rintro (_ | _) failure judged
      · cases judged
        exact exitsNonZero_cliFailure rfl
      · cases judged

variable {text}

/-- A name that resolves is the name of one state. -/
theorem resolveDevice_eq_ok {states : List DesiredState} {name : String} {deviceId : UUID}
    (resolved : resolveDevice text states name = .ok deviceId) :
    Resolves states name deviceId := by
  rw [resolveDevice] at resolved
  split at resolved
  · cases resolved
  · rename_i state only
    cases resolved
    exact ⟨state, only, rfl⟩
  · cases resolved

theorem resolveDevice_eq_error {states : List DesiredState} {name : String} {error : CliError}
    (refused : resolveDevice text states name = .error error) : error.code = .error := by
  rw [resolveDevice] at refused
  split at refused
  · cases refused
    rfl
  · cases refused
  · cases refused
    rfl

theorem resolveDevices_eq_error {states : List DesiredState} {names : List String}
    {error : CliError} (refused : resolveDevices text states names = .error error) :
    error.code = .error := by
  induction names with
  | nil => cases refused
  | cons name names inductionHypothesis =>
      rw [resolveDevices, List.mapM_cons] at refused
      rcases first : resolveDevice text states name with own | deviceId
      · rw [first] at refused
        cases refused
        exact resolveDevice_eq_error first
      · rw [first] at refused
        rcases others : resolveDevices text states names with own | deviceIds
        · rw [resolveDevices] at others
          rw [ok_bind, others] at refused
          cases refused
          exact inductionHypothesis others
        · rw [resolveDevices] at others
          rw [ok_bind, others] at refused
          cases refused

/-! ## The commands -/

variable (text)

/-- A name is resolved to the device of the one state that has it. -/
theorem reads_resolved (states : List DesiredState) (name : String) :
    OnlyReads (Script.ofExcept ((resolveDevice text states name).mapError cliFailure))
      fun _ deviceId => Resolves states name deviceId := by
  intro command past unwritten
  refine ⟨unwritten, fun _ member => member, ?_, ?_⟩
  · rcases resolved : resolveDevice text states name with error | deviceId
    · nofun
    · rintro own ⟨⟩
      exact resolveDevice_eq_ok resolved
  · rcases resolved : resolveDevice text states name with error | deviceId
    · rintro failure ⟨⟩
      exact exitsNonZero_cliFailure (resolveDevice_eq_error resolved)
    · nofun

theorem reads_resolvedAll (states : List DesiredState) (names : List String) :
    OnlyReads (Script.ofExcept ((resolveDevices text states names).mapError cliFailure))
      fun _ targets => List.Forall₂ (Resolves states) names targets := by
  intro command past unwritten
  refine ⟨unwritten, fun _ member => member, ?_, ?_⟩
  · rcases resolved : resolveDevices text states names with error | targets
    · nofun
    · rintro own ⟨⟩
      exact ((mapM_eq_ok_iff _ _ _).1 resolved).imp fun name own => resolveDevice_eq_ok
  · rcases resolved : resolveDevices text states names with error | targets
    · rintro failure ⟨⟩
      exact exitsNonZero_cliFailure (resolveDevices_eq_error resolved)
    · nofun

/-- Loading, and resolving a name. -/
theorem keeps_deploy (device useCase : String) :
    (OperatorScript.deploy settings text device useCase).Keeps
      (MayAsk (.deploy device useCase)) (Concludes settings (.deploy device useCase)) [] := by
  refine (reads_loadStates settings useCase).bind unwritten_nil ?_
  intro loaded states unwritten _ isLoaded
  refine (reads_resolved text states device).bind unwritten ?_
  intro resolved deviceId unwritten includedResolved resolves
  refine (reads_connect settings).bind unwritten ?_
  intro connected _ unwritten includedConnected isConnected
  refine (reads_requireWorker settings).bind unwritten ?_
  rintro counted _ unwritten includedCounted isCounted
  have mandate : Mandate counted (.deploy device useCase)
      (.executeDeployIntent (ReconcileDevices.deployIntentId deviceId) deviceId) :=
    .deploy (includedCounted (includedConnected (includedResolved isLoaded))) resolves
  refine keeps_execute
    (.executeDeployIntent (ReconcileDevices.deployIntentId deviceId) deviceId) id
    ⟨unwritten, fun _ => ⟨?_, mandate⟩⟩ ?_
  · exact ⟨includedCounted isConnected, isCounted⟩
  · rintro answer result rfl code
    refine .deploy (mandate.mono (List.subset_append_left _ _))
      (List.mem_append_right _ List.mem_cons_self) ?_
    by_contra failed
    change OperatorScript.deployCode result = .ok at code
    rw [OperatorScript.deployCode, if_neg failed] at code
    cases code

theorem keeps_scan (useCase : String) :
    (OperatorScript.scan settings useCase).Keeps
      (MayAsk (.scan useCase)) (Concludes settings (.scan useCase)) [] := by
  refine (reads_connect settings).bind unwritten_nil ?_
  intro connected _ unwritten _ _
  refine (reads_requireWorker settings).bind unwritten ?_
  intro counted _ unwritten _ _
  refine keeps_execute (.executeScanDrift useCase) id (mayAsk_read unwritten _ rfl) ?_
  rintro answer result rfl code
  change scanCode result = .ok at code
  rw [scanCode] at code
  split_ifs at code with errored drifted
  exact .scan (List.mem_append_right _ List.mem_cons_self) (not_not.1 errored)
    (not_not.1 drifted)

/-- What is left to do once the targets are known. -/
theorem keeps_reconcileTargets
    {arguments : ReconcileArguments} {past : Past} {targets : List UUID} {names : List String}
    (unwritten : Unwritten past) (cleared : Cleared past)
    (mandate : ∀ later, past ⊆ later → Agreed arguments.yes arguments.asJson
        (OperatorScript.reconcilePrompt targets names) later →
      Mandate later (.reconcile arguments) (.executeReconcileDevices targets)) :
    (OperatorScript.reconcileTargets targets names arguments.yes arguments.asJson).Keeps
      (MayAsk (.reconcile arguments)) (Concludes settings (.reconcile arguments)) past := by
  refine (reads_confirm _ _ _).bind unwritten ?_
  intro confirmed _ unwritten included agreed
  refine keeps_execute (.executeReconcileDevices targets) id
    ⟨unwritten, fun _ => ⟨?_, mandate _ included agreed⟩⟩ ?_
  · obtain ⟨connected, pollers, counted, some⟩ := cleared
    exact ⟨included connected, pollers, included counted, some⟩
  · rintro answer result rfl code
    refine .reconcile
      ((mandate confirmed included agreed).mono (List.subset_append_left _ _))
      (List.mem_append_right _ List.mem_cons_self) ?_
    by_contra failed
    change reconcileCode result = .ok at code
    rw [reconcileCode, if_pos failed] at code
    cases code

theorem keeps_reconcile (arguments : ReconcileArguments) :
    (OperatorScript.reconcile settings text arguments).Keeps
      (MayAsk (.reconcile arguments)) (Concludes settings (.reconcile arguments)) [] := by
  rw [OperatorScript.reconcile]
  by_cases unclear : (!arguments.devices.isEmpty) = arguments.drifted
  · rw [if_pos unclear]
    exact fun zero => absurd zero (exitsNonZero_cliFailure rfl)
  rw [if_neg unclear]
  refine (reads_connect settings).bind unwritten_nil ?_
  intro connected _ unwritten _ isConnected
  refine (reads_requireWorker settings).bind unwritten ?_
  intro counted _ unwritten includedCounted isCounted
  have cleared : Cleared counted := ⟨includedCounted isConnected, isCounted⟩
  by_cases isDrifted : arguments.drifted = true
  · rw [if_pos isDrifted]
    refine Script.Keeps.ask_bind (mayAsk_read unwritten (.executeScanDrift _) rfl) ?_
    rintro (raised | result)
    · exact fun zero => absurd zero Nat.one_ne_zero
    have unwrittenScan := unwritten.snoc
      ⟨.executeScanDrift arguments.useCase, .ok result⟩ rfl
    have scanned : (⟨.executeScanDrift arguments.useCase, .ok result⟩ :
        Turn OperatorRequest OperatorAnswer) ∈ counted ++
          [⟨.executeScanDrift arguments.useCase, .ok result⟩] :=
      List.mem_append_right _ List.mem_cons_self
    refine Script.Keeps.ofExcept_bind ?_ nofun
    intro own same
    cases same
    by_cases none : driftedIds result = []
    · rw [if_pos none]
      exact fun _ => ⟨_, rfl, .nothingDrifted isDrifted unwrittenScan scanned none⟩
    · rw [if_neg none]
      refine keeps_reconcileTargets settings unwrittenScan ?_ ?_
      · obtain ⟨isConnected, pollers, isCounted, some⟩ := cleared
        exact ⟨List.mem_append_left _ isConnected, pollers, List.mem_append_left _ isCounted,
          some⟩
      · exact fun later included agreed => .drifted isDrifted (included scanned) none agreed
  · rw [if_neg isDrifted]
    refine (reads_loadStates settings arguments.useCase).bind unwritten ?_
    intro loaded states unwritten includedLoaded isLoaded
    refine (reads_resolvedAll text states arguments.devices).bind unwritten ?_
    intro resolved targets unwritten includedResolved resolves
    refine keeps_reconcileTargets settings unwritten ?_ ?_
    · obtain ⟨isConnected, pollers, isCounted, some⟩ := cleared
      exact ⟨includedResolved (includedLoaded isConnected), pollers,
        includedResolved (includedLoaded isCounted), some⟩
    · exact fun later included agreed => .named (Bool.not_eq_true _ ▸ isDrifted)
        (included (includedResolved isLoaded)) resolves agreed

/-- Of one of two options that is set, what the other is. -/
theorem filled?_eq_none_of_ne
    {workflow device : Option String} {workflowId : String}
    (clear : (filled? workflow).isSome ≠ (filled? device).isSome)
    (isFilled : filled? workflow = some workflowId) : filled? device = none := by
  rw [isFilled] at clear
  rcases other : filled? device with _ | name
  · rfl
  · rw [other] at clear
    exact absurd rfl clear

theorem filled?_eq_some_of_ne
    {workflow device : Option String}
    (clear : (filled? workflow).isSome ≠ (filled? device).isSome)
    (isEmpty : filled? workflow = none) : filled? device = some (device.getD "") := by
  rw [isEmpty] at clear
  rcases device with _ | name
  · exact absurd rfl clear
  · by_cases blank : name = ""
    · subst blank
      exact absurd rfl clear
    · exact filled?_some blank

theorem keeps_audit (workflow device : Option String) (useCase : String) :
    (OperatorScript.audit settings text workflow device useCase).Keeps
      (MayAsk (.audit workflow device useCase))
      (Concludes settings (.audit workflow device useCase)) [] := by
  rw [OperatorScript.audit]
  split_ifs with unclear
  · exact fun zero => absurd zero (exitsNonZero_cliFailure rfl)
  refine keeps_of_reads ?_
  refine (reads_openAuditLog settings).andThen fun opened _ isOpened => ?_
  rcases isFilled : filled? workflow with _ | workflowId
  · refine (reads_loadStates settings useCase).andThen fun loaded states isLoaded => ?_
    refine (reads_resolved text states _).andThen fun resolved deviceId resolves => ?_
    refine (reads_request (.queryByDevice deviceId) rfl).andThen fun queried found isQueried => ?_
    refine (reads_raisedAnswer found).andThen fun judged events isFound => ?_
    refine (reads_pure _).mono ?_
    rintro later exit rfl inJudged inQueried inResolved inLoaded inOpened - unwritten
    subst isFound
    exact .auditDevice unwritten (inOpened isOpened)
      ⟨isFilled, filled?_eq_some_of_ne unclear isFilled⟩ (inLoaded isLoaded) resolves
      (inQueried isQueried)
  · refine (reads_request (.queryByWorkflow workflowId) rfl).andThen
      fun queried found isQueried => ?_
    refine (reads_raisedAnswer found).andThen fun judged events isFound => ?_
    refine (reads_pure _).mono ?_
    rintro later exit rfl inJudged inQueried inOpened - unwritten
    subst isFound
    exact .auditWorkflow unwritten (inOpened isOpened)
      ⟨isFilled, filled?_eq_none_of_ne unclear isFilled⟩ (inQueried isQueried)

/-- A worker check is fine only if something polls. -/
theorem workerCheck_fine_iff (polled : Except String Nat) :
    (OperatorScript.workerCheck settings polled).fine = true ↔
      ∃ pollers, polled = .ok pollers ∧ pollers ≠ 0 := by
  rcases polled with cause | _ | pollers
  · simp [OperatorScript.workerCheck]
  · simp [OperatorScript.workerCheck]
  · simp [OperatorScript.workerCheck]

theorem reads_temporalChecks (useCase : String) :
    OnlyReads (OperatorScript.temporalChecks settings useCase) fun later shown =>
      shown.1.all StatusCheck.fine = true →
        TemporalFine settings later useCase shown.1 shown.2 := by
  refine (reads_request .connect rfl).andThen fun connected answer isConnected => ?_
  rcases answer with _ | cause
  · refine (reads_request .listRunningWorkflows rfl).andThen fun listed answer isListed => ?_
    refine (reads_raisedAnswer answer).andThen fun judged running isRunning => ?_
    refine (reads_request .countPollers rfl).andThen fun counted polled isCounted => ?_
    refine (reads_request (.findDriftSchedule useCase) rfl).andThen
      fun inspected found isInspected => ?_
    refine (reads_pure _).mono ?_
    rintro later shown rfl inInspected inCounted inJudged inListed inConnected fine
    subst isRunning
    rw [List.all_cons, List.all_cons, Bool.and_eq_true, Bool.and_eq_true] at fine
    obtain ⟨pollers, rfl, some⟩ := (workerCheck_fine_iff settings polled).1 fine.2.1
    exact ⟨inConnected isConnected, inListed isListed, inCounted isCounted, some,
      inInspected isInspected⟩
  · refine (reads_pure _).mono ?_
    rintro later shown rfl - fine
    exact absurd fine Bool.false_ne_true

theorem reads_sotChecks (useCase : String) :
    OnlyReads (OperatorScript.sotChecks settings useCase) fun later shown =>
      shown.all StatusCheck.fine = true → SotFine settings later useCase shown := by
  refine (reads_request (.loadStates useCase) rfl).andThen fun loaded answer isLoaded => ?_
  rcases answer with (message | cause | message) | states
  · refine (reads_pure _).mono ?_
    rintro later shown rfl - fine
    exact absurd fine Bool.false_ne_true
  · refine (reads_pure _).mono ?_
    rintro later shown rfl - fine
    exact absurd fine Bool.false_ne_true
  · refine (reads_raisedAnswer (.error message)).mono ?_
    nofun
  · refine (reads_request .readIdentity rfl).andThen fun identified reading isRead => ?_
    refine (reads_pure _).mono ?_
    rintro later shown rfl inIdentified inLoaded fine
    simp only [List.all_cons, List.all_nil, Bool.and_eq_true, Bool.not_eq_true', Bool.and_true,
      true_and] at fine
    obtain ⟨own, seeded⟩ := fine
    rw [own, seeded]
    refine ⟨inLoaded isLoaded, ?_, inIdentified isRead, own⟩
    rintro rfl
    cases seeded

theorem keeps_status (useCase : String) :
    (OperatorScript.status settings useCase).Keeps
      (MayAsk (.status useCase)) (Concludes settings (.status useCase)) [] := by
  refine keeps_of_reads ?_
  refine (reads_temporalChecks settings useCase).andThen fun checked shown temporal => ?_
  refine (reads_sotChecks settings useCase).andThen fun read more sot => ?_
  refine (reads_pure _).mono ?_
  rintro later exit rfl inRead inChecked code unwritten
  have fine : (shown.1 ++ more).all StatusCheck.fine = true := by
    by_contra notFine
    change (if (shown.1 ++ more).all StatusCheck.fine then ExitCode.ok else .error) = .ok at code
    rw [if_neg notFine] at code
    cases code
  rw [List.all_append, Bool.and_eq_true] at fine
  exact .status unwritten ((temporal fine.1).mono inChecked) ((sot fine.2).mono inRead)

/-- Every command keeps to what it may ask, and ends as it should. -/
theorem keeps_command (command : OperatorCommand) :
    (command.script settings text).Keeps (MayAsk command) (Concludes settings command) [] := by
  cases command with
  | deploy device useCase => exact keeps_deploy settings text device useCase
  | scan useCase => exact keeps_scan settings useCase
  | reconcile arguments => exact keeps_reconcile settings text arguments
  | audit workflow device useCase => exact keeps_audit settings text workflow device useCase
  | status useCase => exact keeps_status settings useCase

end Commands

/-! ## Whom a command writes to -/

section Targets

variable {store : InfrahubIntentStore} {runtime : Runtime} {turns : Past} {sotAt : Nat → Sot}

/-- Every load that was answered found the devices the Source of Truth held at the time. -/
def LoadsAnswered (store : InfrahubIntentStore) (runtime : Runtime) (sotAt : Nat → Sot)
    (turns : Past) : Prop :=
  ∀ index useCase states, turns[index]? = some ⟨.loadStates useCase, .ok states⟩ →
    LoadedOf runtime ((sotAt index (store.resolvedBranch none)).matching .dcimDevice
      (StateQuery.filters { useCase := some useCase })) states

/--
The device is the only one of the use case with a name the operator typed, at
the time of a load that this was looked up in.
-/
def TypedFor (store : InfrahubIntentStore) (runtime : Runtime) (sotAt : Nat → Sot)
    (command : OperatorCommand) (past : Past) (target : UUID) : Prop :=
  ∃ name ∈ typedNames command, ∃ index states,
    past[index]? = some ⟨.loadStates (useCaseOf command), .ok states⟩ ∧
    OnlyDevice runtime (sotAt index (store.resolvedBranch none)) (useCaseOf command) name target

/-- A name resolved in loaded states is that of one device of the use case. -/
theorem onlyDevice_of_resolves
    {contents : Contents} {useCase name : String} {states : List DesiredState} {deviceId : UUID}
    (loaded : LoadedOf runtime (contents.matching .dcimDevice
      (StateQuery.filters { useCase := some useCase })) states)
    (resolves : Resolves states name deviceId) :
    OnlyDevice runtime contents useCase name deviceId := by
  obtain ⟨state, only, rfl⟩ := resolves
  obtain ⟨node, same, identified⟩ := loaded.only only
  refine ⟨node, ?_, identified⟩
  rw [← same, Contents.matching, List.filter_filter]
  apply List.filter_congr
  intro other _
  simp [StateQuery.filters, Filter.passes, and_comm]

/-- A name that was resolved after an answered load was typed for the device it gave. -/
theorem typedFor_of_resolves
    {command : OperatorCommand} {name : String} {states : List DesiredState} {deviceId : UUID}
    (answered : LoadsAnswered store runtime sotAt turns) (isTyped : name ∈ typedNames command)
    (loaded : ⟨.loadStates (useCaseOf command), .ok states⟩ ∈ turns)
    (resolves : Resolves states name deviceId) :
    TypedFor store runtime sotAt command turns deviceId := by
  obtain ⟨index, isAt⟩ := List.mem_iff_getElem?.1 loaded
  exact ⟨name, isTyped, index, states, isAt,
    onlyDevice_of_resolves (answered index _ states isAt) resolves⟩

/-- What holds of the loads of a course holds of those of its beginning. -/
theorem LoadsAnswered.before
    {before after : Past} (answered : LoadsAnswered store runtime sotAt (before ++ after)) :
    LoadsAnswered store runtime sotAt before := by
  intro index useCase states isAt
  refine answered index useCase states ?_
  obtain ⟨inside, -⟩ := List.getElem?_eq_some_iff.1 isAt
  rwa [List.getElem?_append_left inside]

/-- The drifted devices of a scan are reported drifted. -/
theorem reportedDrifted_of_mem
    {past : Past} {useCase : String} {result : DriftScanResult} {deviceId : UUID}
    (scanned : ⟨.executeScanDrift useCase, .ok result⟩ ∈ past)
    (member : deviceId ∈ driftedIds result) : ReportedDrifted past useCase deviceId := by
  obtain ⟨report, isDrifted, rfl⟩ := List.mem_map.1 member
  obtain ⟨isReport, drifted⟩ := List.mem_filter.1 isDrifted
  exact ⟨result, scanned, report, isReport, rfl, of_decide_eq_true drifted⟩

/-- The targets of a mandate were typed, or reported drifted. -/
theorem targets_of_mandate
    {past : Past} {command : OperatorCommand} {request : OperatorRequest}
    (mandate : Mandate past command request)
    (answered : LoadsAnswered store runtime sotAt past) :
    ∀ target ∈ targetsOf request,
      TypedFor store runtime sotAt command past target ∨
      ReportedDrifted past (useCaseOf command) target := by
  intro target isTarget
  cases mandate with
  | deploy loaded resolves =>
      obtain rfl := List.mem_singleton.1 isTarget
      exact Or.inl (typedFor_of_resolves answered List.mem_cons_self loaded resolves)
  | named isNamed loaded resolves agreed =>
      obtain ⟨name, isTyped, own⟩ := exists_mem_of_forall₂ resolves.flip isTarget
      exact Or.inl (typedFor_of_resolves answered isTyped loaded own)
  | drifted isDrifted scanned some agreed =>
      exact Or.inr (reportedDrifted_of_mem scanned isTarget)

end Targets

/--
Whatever an operator's command is answered, and wherever it is cut off: it
writes at most once and asks nothing after, it was cleared and has a mandate,
and every device it writes to is the only one of a name the operator typed, in
the Source of Truth as it was when the name was looked up, or one its own scan
reported drifted.  A command that exits with zero has done what it is for, and
prints what it found.
-/
theorem operator_writes_attended
    (settings : CliSettings) (text : PyText) (store : InfrahubIntentStore) (runtime : Runtime)
    (command : OperatorCommand) {turns : Past} {ending : Except OperatorFailure OperatorExit}
    (course : (command.script settings text).Course turns ending)
    (sotAt : Nat → Sot) (answered : LoadsAnswered store runtime sotAt turns) :
    (∀ before turn after, turns = before ++ turn :: after → turn.request.writes = true →
      after = [] ∧ Cleared before ∧ Mandate before command turn.request ∧
      ∀ target ∈ targetsOf turn.request,
        TypedFor store runtime sotAt command before target ∨
        ReportedDrifted before (useCaseOf command) target) ∧
    (operatorStatus ending = 0 →
      ∃ printed, ending = .ok ⟨.ok, printed⟩ ∧ Accomplished settings turns command printed) := by
  have keeps := keeps_command settings text command
  refine ⟨?_, keeps.ending_of_course course⟩
  rintro before turn after rfl isWrite
  obtain ⟨-, allowed⟩ := keeps.request_of_course course rfl
  obtain ⟨cleared, mandate⟩ := allowed isWrite
  rw [List.nil_append] at cleared mandate
  refine ⟨?_, cleared, mandate, targets_of_mandate mandate answered.before⟩
  rcases after with _ | ⟨next, rest⟩
  · rfl
  · have later : before ++ turn :: next :: rest = (before ++ [turn]) ++ next :: rest := by
      rw [List.append_assoc, List.cons_append, List.nil_append]
    obtain ⟨unwritten, -⟩ := keeps.request_of_course course later
    have isRead := unwritten turn (by simp)
    rw [isWrite] at isRead
    cases isRead

/-! ## A deploy of the one device of a fabric -/

/-- A fabric of one device. -/
def oneDevice : Contents where
  nodes
    | .dcimDevice => [namedNode 1 "fabric"]
    | _ => []
  distinct kind := by cases kind <;> decide +kernel

/-- What the fabric's device is to be. -/
def fabricState : DesiredState := ⟨⟨⟨1⟩, "fabric", "", "fabric", none⟩, [], []⟩

/-- A deploy that succeeded. -/
def fabricDeployed : WorkflowResult where
  workflowId := ReconcileDevices.deployIntentId ⟨1⟩
  workflowType := "DeployIntent"
  targetId := .device ⟨1⟩
  success := true
  reason := .succeeded
  detail := none
  startedAt := 0
  endedAt := 0
  driftItems := []
  valid := by decide

def fabricTurns : Past :=
  [⟨.loadStates "fabric", .ok [fabricState]⟩, ⟨.connect, none⟩, ⟨.countPollers, .ok 1⟩,
    ⟨.executeDeployIntent (ReconcileDevices.deployIntentId ⟨1⟩) ⟨1⟩, .ok fabricDeployed⟩]

theorem course_fabricTurns :
    ((OperatorCommand.deploy "fabric" "fabric").script ⟨"localhost:7233", "snapl", "", ""⟩
      PyText.ascii).Course fabricTurns (.ok ⟨.ok, .deploy fabricDeployed⟩) := by
  exact .asks (.asks (.asks (.asks (.ends _))))

theorem fetched_fabricState :
    Program.ending ((⟨labClient, "main"⟩ : InfrahubIntentStore).getDesiredState Runtime.ascii
      { useCase := some "fabric" } none) (fun _ => oneDevice) = .ok [fabricState] := by
  decide +kernel

/-- The load of the course found the one device of the fabric. -/
theorem loadsAnswered_fabricTurns :
    LoadsAnswered ⟨labClient, "main"⟩ Runtime.ascii (fun _ _ => oneDevice) fabricTurns := by
  intro index useCase states isAt
  have isLoad := List.mem_of_getElem? isAt
  simp [fabricTurns] at isLoad
  obtain ⟨rfl, rfl⟩ := isLoad
  exact loadedOf_fetched fetched_fabricState

/-- The deploy writes to the one device of the name, and succeeds. -/
theorem fabric_write_attended :
    (TypedFor ⟨labClient, "main"⟩ Runtime.ascii (fun _ _ => oneDevice)
        (.deploy "fabric" "fabric") (fabricTurns.take 3) ⟨1⟩ ∨
      ReportedDrifted (fabricTurns.take 3) "fabric" ⟨1⟩) ∧
    Accomplished ⟨"localhost:7233", "snapl", "", ""⟩ fabricTurns (.deploy "fabric" "fabric")
      (.deploy fabricDeployed) := by
  obtain ⟨writes, zero⟩ := operator_writes_attended ⟨"localhost:7233", "snapl", "", ""⟩
    PyText.ascii ⟨labClient, "main"⟩ Runtime.ascii (.deploy "fabric" "fabric")
    course_fabricTurns (fun _ _ => oneDevice) loadsAnswered_fabricTurns
  refine ⟨?_, ?_⟩
  · obtain ⟨-, -, -, targets⟩ := writes (fabricTurns.take 3) _ [] rfl rfl
    exact targets ⟨1⟩ List.mem_cons_self
  · obtain ⟨printed, same, accomplished⟩ := zero rfl
    cases same
    exact accomplished

end Snapl.Contract
