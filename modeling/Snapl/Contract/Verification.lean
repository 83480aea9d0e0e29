import Snapl.Contract.Convergence

/-!
# What a verification has seen

The forward pass is empty exactly when the device shows, for every intended
interface and session, the fields the diff compares.  These are not all the
leaves a payload sets: the BGP instance's own leaves, its address families and
groups, and where on an interface an address stands, are not compared.
-/

namespace Snapl.Contract

open Snapl.Library Snapl.Library.KeyedTree Snapl.Intent Snapl.Executor
open Snapl.Observability Snapl.Orchestrator

/-- The device's entry shows the compared fields of an interface. -/
structure ShowsInterface (iface : Interface) (entry : Json) : Prop where
  name : entry.field "name" = .str iface.name
  description : entry.field "description" = .ofString? iface.description
  state : entry.field "admin-state" = .str "enable" ↔ iface.enabled = true
  mtu : ∀ mtu ∈ iface.mtu, Json.pyEq (.int mtu) (entry.field "mtu") = true
  address : readPrefixes (interfacePrefixes entry) =
    .ok (iface.ipAddress, iface.prefixLength)

/-- The device's entry shows the compared fields of a session. -/
structure ShowsSession (session : BGPSession) (entry : Json) : Prop where
  peer : entry.field "peer-address" = .str session.peerAddress
  asn : Json.pyEq (.int session.peerAsn) (entry.field "peer-as") = true
  group : entry.field "peer-group" = .ofString? session.peerGroup
  state : entry.field "admin-state" = .str "enable" ↔ session.enabled = true

/-- The device shows every intended interface and session. -/
structure Shows (config : Json) (desired : DesiredState) : Prop where
  interfaces : ∀ iface ∈ desired.interfaces,
    ∃ entry ∈ interfacesOf config, ShowsInterface iface entry
  sessions : ∀ session ∈ desired.bgpSessions,
    ∃ entry ∈ neighborsOf config, ShowsSession session entry

/-! ## Entries that agree -/

theorem pyEq_ofString?_right (value : Option String) (right : Json) :
    Json.pyEq (.ofString? value) right = true ↔ right = .ofString? value := by
  cases value <;> simp [Json.ofString?]

theorem state_agrees_iff (enabled : Bool) (state : Json) :
    Json.pyEq (.bool enabled) (.bool (Json.pyEq state (.str "enable"))) = true ↔
      (state = .str "enable" ↔ enabled = true) := by
  rw [Json.pyEq_bool_bool, ← Json.pyEq_right_str_iff, Bool.eq_iff_iff]
  exact iff_comm

theorem showsInterface_iff
    {iface : Interface} {entry : Json} {address : Option String × Option Int}
    (name : entry.field "name" = .str iface.name)
    (read : readPrefixes (interfacePrefixes entry) = .ok address) :
    Agrees interfaceSpec (interfaceAttribute iface) (flatInterface entry address) ↔
      ShowsInterface iface entry := by
  rw [agrees_interface_iff, pyEq_ofString?_right, state_agrees_iff]
  constructor
  · rintro ⟨description, rfl, state, mtu⟩
    refine ⟨name, description, state, ?_, read⟩
    intro value set
    rcases mtu with unset | equal
    · rw [unset] at set
      cases set
    · rw [Option.mem_def.1 set] at equal
      exact equal
  · intro shows
    refine ⟨shows.description, Except.ok.inj (read.symm.trans shows.address), shows.state, ?_⟩
    rcases set : iface.mtu with _ | mtu
    · exact Or.inl rfl
    · exact Or.inr (shows.mtu mtu set)

theorem showsSession_iff
    {session : BGPSession} {entry : Json}
    (peer : entry.field "peer-address" = .str session.peerAddress) :
    Agrees bgpSessionSpec (sessionAttribute session) (flatNeighbor entry) ↔
      ShowsSession session entry := by
  rw [agrees_session_iff, pyEq_ofString?_right, state_agrees_iff]
  constructor
  · rintro ⟨-, asn, group, state⟩
    exact ⟨peer, asn, group, state⟩
  · intro shows
    exact ⟨(Json.pyEq_str_iff _ _).2 peer, shows.asn, shows.group, shows.state⟩

/-- An entity the device does not have never agrees. -/
theorem not_agrees_interface_null (iface : Interface) :
    ¬ Agrees interfaceSpec (interfaceAttribute iface) .null := by
  intro agrees
  rcases agrees "enabled" (by decide) with ⟨-, skipped⟩ | equal
  · exact absurd skipped (by decide)
  · have absent : Json.pyEq (.bool iface.enabled) .null = true := equal
    simp [Json.pyEq, Json.number?] at absent

theorem not_agrees_session_null (session : BGPSession) :
    ¬ Agrees bgpSessionSpec (sessionAttribute session) .null := by
  intro agrees
  rcases agrees "enabled" (by decide) with ⟨-, skipped⟩ | equal
  · exact absurd skipped (by decide)
  · have absent : Json.pyEq (.bool session.enabled) .null = true := equal
    simp [Json.pyEq, Json.number?] at absent

/-! ## Where a flat entry comes from -/

section Entries

variable {config : Json} {actual : Dict String Json}
variable (conforming : conforms true configSchema config = true)
variable (made : ActualOf config actual)

include conforming made

theorem interface_of_entry
    {name : String} {flat : Json} (found : actual.get? (interfaceSpec.path name) = some flat) :
    ∃ entry ∈ interfacesOf config, entry.field "name" = .str name ∧
      ∃ address, readPrefixes (interfacePrefixes entry) = .ok address ∧
        flat = flatInterface entry address := by
  have key : interfaceSpec.path name ∈ actual.keys :=
    (Dict.mem_keys_iff _ _).2 ⟨flat, found⟩
  rw [made.keys, List.mem_append] at key
  rcases key with key | key
  · obtain ⟨entry, member, path⟩ := List.mem_map.1 key
    have own := EntitySpec.path_injective interfaceSpec path
    obtain ⟨-, text, named⟩ := interface_shape conforming member
    obtain ⟨address, read, entered⟩ := made.interface entry member
    rw [named, textOf] at own
    rw [named, textOf, own, found] at entered
    exact ⟨entry, member, named.trans (congrArg Json.str own), address, read,
      Option.some.inj entered⟩
  · obtain ⟨entry, -, path⟩ := List.mem_map.1 key
    exact absurd path.symm (interface_path_ne_neighbor_path _ _)

theorem neighbor_of_entry
    {peer : String} {flat : Json} (found : actual.get? (bgpSessionSpec.path peer) = some flat) :
    ∃ entry ∈ neighborsOf config, entry.field "peer-address" = .str peer ∧
      flat = flatNeighbor entry := by
  have key : bgpSessionSpec.path peer ∈ actual.keys :=
    (Dict.mem_keys_iff _ _).2 ⟨flat, found⟩
  rw [made.keys, List.mem_append] at key
  rcases key with key | key
  · obtain ⟨entry, -, path⟩ := List.mem_map.1 key
    exact absurd path (interface_path_ne_neighbor_path _ _)
  · obtain ⟨entry, member, path⟩ := List.mem_map.1 key
    have own := EntitySpec.path_injective bgpSessionSpec path
    obtain ⟨-, text, named⟩ := neighbor_shape conforming member
    have entered := made.neighbor entry member
    rw [named, textOf] at own
    rw [named, textOf, own, found] at entered
    exact ⟨entry, member, named.trans (congrArg Json.str own), Option.some.inj entered⟩

theorem agrees_interface_iff_shown (iface : Interface) :
    Agrees interfaceSpec (interfaceAttribute iface)
        ((actual.get? (interfaceSpec.path iface.name)).getD .null) ↔
      ∃ entry ∈ interfacesOf config, ShowsInterface iface entry := by
  constructor
  · intro agrees
    rcases found : actual.get? (interfaceSpec.path iface.name) with _ | flat
    · rw [found] at agrees
      exact absurd agrees (not_agrees_interface_null iface)
    · obtain ⟨entry, member, named, address, read, rfl⟩ :=
        interface_of_entry conforming made found
      rw [found] at agrees
      exact ⟨entry, member, (showsInterface_iff named read).1 agrees⟩
  · rintro ⟨entry, member, shows⟩
    obtain ⟨address, read, found⟩ := made.interface entry member
    rw [shows.name, textOf] at found
    rw [found]
    exact (showsInterface_iff shows.name read).2 shows

theorem agrees_session_iff_shown (session : BGPSession) :
    Agrees bgpSessionSpec (sessionAttribute session)
        ((actual.get? (bgpSessionSpec.path session.peerAddress)).getD .null) ↔
      ∃ entry ∈ neighborsOf config, ShowsSession session entry := by
  constructor
  · intro agrees
    rcases found : actual.get? (bgpSessionSpec.path session.peerAddress) with _ | flat
    · rw [found] at agrees
      exact absurd agrees (not_agrees_session_null session)
    · obtain ⟨entry, member, named, rfl⟩ := neighbor_of_entry conforming made found
      rw [found] at agrees
      exact ⟨entry, member, (showsSession_iff named).1 agrees⟩
  · rintro ⟨entry, member, shows⟩
    have found := made.neighbor entry member
    rw [shows.peer, textOf] at found
    rw [found]
    exact (showsSession_iff shows.peer).2 shows

end Entries

/-- The forward pass is empty exactly when the device shows the intent. -/
theorem undesired_iff_shows
    {text : PyText} {desired : DesiredState} {config : DeviceConfig}
    {data actual : Dict String Json} (reports : Reports data config.tree)
    (normalized : normalizeSrlinuxState text data = .ok actual) :
    (∀ item ∈ diffDesiredVsActual desired actual, item.undesired = true) ↔
      Shows config.tree desired := by
  have made := actualOf_of_normalize text config.conforming config.distinct reports normalized
  rw [all_undesired_iff, forwardItems_eq_nil_iff]
  constructor
  · rintro ⟨interfaces, sessions⟩
    exact ⟨fun iface member =>
        (agrees_interface_iff_shown config.conforming made iface).1 (interfaces iface member),
      fun session member =>
        (agrees_session_iff_shown config.conforming made session).1 (sessions session member)⟩
  · intro shows
    exact ⟨fun iface member =>
        (agrees_interface_iff_shown config.conforming made iface).2
          (shows.interfaces iface member),
      fun session member =>
        (agrees_session_iff_shown config.conforming made session).2
          (shows.sessions session member)⟩

end Snapl.Contract

namespace Snapl.Orchestrator.DeployIntent

open Snapl.Library Snapl.Intent Snapl.Observability

/-! ## Only a verified deploy reports success -/

/-- A result that claims success is that of a verified deploy. -/
def SuccessVerified (setting : Setting) (result : WorkflowResult) : Prop :=
  result.success = true →
    ∃ desired collected report, Detected setting desired collected report ∧ Verified report

section Returning

variable {setting : Setting} (deviceId : UUID) (startedAt : Int)

theorem executeActivity_returns
    {Result : Type} (stage : Stage) (command : Command) (outcome : ActivityOutcome Result) :
    (executeActivity setting.toSurroundings (.activity stage) command outcome).Returns
      fun result => setting.answers stage outcome = .ok result := by
  refine Program.Returns.bind (Program.Returns.anything _) ?_
  exact fun _ _ => Program.Returns.ofExcept fun result answered => answered

theorem terminate_returns (verdict : Verdict) :
    (terminate setting deviceId startedAt verdict).Returns
      fun result => result.success = verdict.succeeds := by
  refine Program.Returns.bind (Program.Returns.anything _) fun _ _ => ?_
  refine Program.Returns.bind (Program.Returns.anything _) fun endedAt _ => ?_
  refine Program.Returns.ofExcept fun result built => ?_
  rw [WorkflowResult.build] at built
  split_ifs at built
  · cases built
    rfl
  · cases built

theorem terminate_unsuccessful {verdict : Verdict} (unsuccessful : verdict.succeeds = false) :
    (terminate setting deviceId startedAt verdict).Returns (SuccessVerified setting) := by
  intro journal result returned success
  have told : result.success = verdict.succeeds :=
    terminate_returns deviceId startedAt verdict journal result returned
  rw [unsuccessful, success] at told
  cases told

theorem exceptActivityError_returns
    {Result : Type} {demand : Result → Prop} {cancelled : Workflow Command Result}
    {failed : ActivityFailure → Workflow Command Result}
    (onCancelled : cancelled.Returns demand) (onFailed : ∀ failure, (failed failure).Returns demand)
    (raised : Raised) : (exceptActivityError cancelled failed raised).Returns demand := by
  cases raised with
  | cancelled => exact onCancelled
  | activityError failure => exact onFailed failure
  | alreadyStarted => exact Program.Returns.raise _
  | childWorkflowError failure => exact Program.Returns.raise _
  | applicationError message => exact Program.Returns.raise _
  | pyError error => exact Program.Returns.raise _

theorem classify_returns
    {desired : DesiredState} {collected : CollectResult} {report : DriftReport}
    (detected : Detected setting desired collected report) :
    (classify setting deviceId startedAt report).Returns (SuccessVerified setting) := by
  rw [verdictOn_eq_classify]
  intro journal result returned success
  have told : result.success = (verdictOn report).succeeds :=
    terminate_returns deviceId startedAt (verdictOn report) journal result returned
  rw [success] at told
  refine ⟨desired, collected, report, detected, ?_⟩
  rcases status : report.status with _ | _ | _
  · exact Or.inl status
  · by_cases undesired : ∀ item ∈ report.items, item.undesired = true
    · exact Or.inr ⟨status, undesired⟩
    · rw [verdictOn, if_neg (by simp [status]), if_neg undesired] at told
      cases told
  · rw [verdictOn, if_pos status] at told
    cases told

theorem verify_returns
    {desired : DesiredState} {collected : CollectResult}
    (collects : Collected setting desired collected) :
    (verify setting deviceId startedAt desired collected).Returns (SuccessVerified setting) := by
  refine Program.Returns.attempt (executeActivity_returns .detect _ _) ?_ ?_
  · exact exceptActivityError_returns (terminate_unsuccessful _ _ rfl)
      fun failure => terminate_unsuccessful _ _ rfl
  · intro report detected
    refine Program.Returns.bind (Program.Returns.anything _) fun _ _ => ?_
    exact classify_returns deviceId startedAt ⟨collects, detected⟩

theorem collectAndVerify_returns
    {desired : DesiredState} (applied : Applied setting desired) :
    (collectAndVerify setting deviceId startedAt desired).Returns (SuccessVerified setting) := by
  refine Program.Returns.attempt (executeActivity_returns .collect _ _) ?_ ?_
  · exact exceptActivityError_returns (terminate_unsuccessful _ _ rfl)
      fun failure => terminate_unsuccessful _ _ rfl
  · intro collected answered
    refine Program.Returns.bind (Program.Returns.anything _) fun _ _ => ?_
    exact verify_returns deviceId startedAt ⟨applied, answered⟩

theorem applyAndVerify_returns
    {desired : DesiredState} (fetched : Fetched setting desired) :
    (applyAndVerify setting deviceId startedAt desired).Returns (SuccessVerified setting) := by
  refine Program.Returns.attempt (executeActivity_returns .apply _ _) ?_ ?_
  · exact exceptActivityError_returns (terminate_unsuccessful _ _ rfl)
      fun failure => terminate_unsuccessful _ _ rfl
  · intro applyResult answered
    split_ifs with refused
    · exact terminate_unsuccessful _ _ rfl
    · refine Program.Returns.bind (Program.Returns.anything _) fun _ _ => ?_
      refine collectAndVerify_returns deviceId startedAt ⟨fetched, applyResult, answered, ?_⟩
      simpa using refused

theorem fetchAndDeploy_returns :
    (fetchAndDeploy setting deviceId startedAt).Returns (SuccessVerified setting) := by
  refine Program.Returns.attempt (executeActivity_returns .fetch _ _) ?_ ?_
  · refine exceptActivityError_returns (terminate_unsuccessful _ _ rfl) fun failure => ?_
    split_ifs
    · exact terminate_unsuccessful _ _ rfl
    · exact terminate_unsuccessful _ _ rfl
  · intro desired fetched
    refine Program.Returns.bind (Program.Returns.anything _) fun _ _ => ?_
    exact applyAndVerify_returns deviceId startedAt fetched

variable (setting) in
/-- Whatever its surroundings do, a deploy that returns success was verified. -/
theorem run_returns : (run setting deviceId).Returns (SuccessVerified setting) := by
  refine Program.Returns.bind (Program.Returns.anything _) fun startedAt _ => ?_
  refine Program.Returns.bind (Program.Returns.anything _) fun _ _ => ?_
  exact fetchAndDeploy_returns deviceId startedAt

end Returning

end Snapl.Orchestrator.DeployIntent

namespace Snapl.Contract

open Snapl.Library Snapl.Library.KeyedTree Snapl.Intent Snapl.Executor
open Snapl.Observability Snapl.Orchestrator

/-! ## What a successful deploy has seen -/

/-- The deploy is of this intent, and is verified by a drift report on this data. -/
structure Observes
    (text : PyText) (setting : DeployIntent.Setting) (desired : DesiredState)
    (data : Dict String Json) : Prop where
  fetched : setting.fetched = .returned desired
  detected : ∃ collected timestamp report, collected.data = data ∧
    setting.collected = .returned collected ∧
    detectDrift text timestamp desired collected = .ok report ∧
    setting.detected = .returned report

/-- A verified report of a readable device has no item of the forward pass. -/
theorem undesired_of_verified
    {text : PyText} {timestamp : Int} {desired : DesiredState} {collected : CollectResult}
    {actual : Dict String Json} {report : DriftReport}
    (normalized : normalizeSrlinuxState text collected.data = .ok actual)
    (detected : detectDrift text timestamp desired collected = .ok report)
    (verified : DeployIntent.Verified report) :
    ∀ item ∈ diffDesiredVsActual desired actual, item.undesired = true := by
  by_cases success : collected.success = true
  · have same : desired.device.id = collected.deviceId := by
      by_contra foreign
      rw [detectDrift, if_pos success, normalized, ok_bind, structuralDrift,
        if_pos foreign] at detected
      cases detected
    obtain ⟨other, again, -, status, items⟩ :=
      detectDrift_of_normalized same success normalized
    cases detected.symm.trans again
    rw [← items]
    rcases verified with clean | ⟨-, undesired⟩
    · rw [DriftReport.items_eq_nil_of_clean clean]
      intro item impossible
      cases impossible
    · exact undesired
  · have failed : collected.success = false := by simpa using success
    rw [detectDrift, if_neg success, structuralDrift, if_pos failed] at detected
    split_ifs at detected with foreign
    obtain ⟨-, status, -⟩ := build_report_eq_ok detected
    rcases verified with clean | ⟨drifted, -⟩
    · rw [status] at clean
      cases clean
    · rw [status] at drifted
      cases drifted

theorem answers_returned
    {setting : DeployIntent.Setting} {Result : Type} {stage : DeployIntent.Stage}
    {given result : Result} (answered : setting.answers stage (.returned given) = .ok result) :
    given = result := by
  rw [DeployIntent.Setting.answers, Surroundings.answer] at answered
  split_ifs at answered
  exact Except.ok.inj answered

theorem shows_of_succeeded
    {text : PyText} {desired : DesiredState} {config : DeviceConfig}
    {data actual : Dict String Json} (reports : Reports data config.tree)
    (normalized : normalizeSrlinuxState text data = .ok actual)
    {setting : DeployIntent.Setting} (observes : Observes text setting desired data)
    {deviceId : UUID} {journal : Journal DeployIntent.Command} {result : WorkflowResult}
    (ended : (DeployIntent.run setting deviceId).ending journal = .ok result)
    (succeeded : result.reason = .succeeded) : Shows config.tree desired := by
  obtain ⟨collected, timestamp, report, rfl, collects, detects, detection⟩ := observes.detected
  obtain ⟨other, otherCollected, otherReport, seen, verified⟩ :=
    DeployIntent.run_returns setting deviceId journal result ended
      (result.valid.success.2 succeeded)
  have own : report = otherReport := by
    have answered := seen.2
    rw [detection] at answered
    exact answers_returned answered
  subst own
  exact (undesired_iff_shows reports normalized).1
    (undesired_of_verified normalized detects verified)

/--
No item of the forward pass is left exactly when the device shows every
intended interface and session, and a deploy verified on the report succeeds
only then.
-/
theorem verification_sound
    {text : PyText} {desired : DesiredState} {config : DeviceConfig}
    {data actual : Dict String Json} (reports : Reports data config.tree)
    (normalized : normalizeSrlinuxState text data = .ok actual) :
    ((∀ item ∈ diffDesiredVsActual desired actual, item.undesired = true) ↔
      Shows config.tree desired) ∧
    ∀ setting deviceId journal result, Observes text setting desired data →
      (DeployIntent.run setting deviceId).ending journal = .ok result →
      result.reason = .succeeded → Shows config.tree desired :=
  ⟨undesired_iff_shows reports normalized, fun _ _ _ _ observes ended succeeded =>
    shows_of_succeeded reports normalized observes ended succeeded⟩

/-- A deploy whose activities return this, around which nothing fails. -/
def undisturbed
    (desired : DesiredState) (collected : CollectResult) (report : DriftReport) :
    DeployIntent.Setting where
  toSurroundings := Surroundings.calm "deploy" none
  fetched := .returned desired
  applied := .returned ⟨desired.device.id, desired.device.name, true, none⟩
  collected := .returned collected
  detected := .returned report

theorem success_without_error (_ : true = true) : (none : Option String) = none := rfl

theorem success_is_no_failure (impossible : true = false) : filled? none ≠ none :=
  Bool.noConfusion impossible

/-- A collection that succeeded with this data. -/
def collection (device : Device) (data : Dict String Json) : CollectResult :=
  ⟨device.id, device.name, true, data, none, success_without_error, success_is_no_failure⟩

/-- A settled report of a configuration makes a deploy that observes it succeed. -/
theorem succeeded_of_shows
    {text : PyText} {desired : DesiredState} {config : DeviceConfig}
    {data actual : Dict String Json} (reports : Reports data config.tree)
    (normalized : normalizeSrlinuxState text data = .ok actual)
    (shows : Shows config.tree desired) :
    ∃ setting result, Observes text setting desired data ∧
      (DeployIntent.run setting desired.device.id).ending Journal.blank = .ok result ∧
      result.reason = .succeeded := by
  have undesired := (undesired_iff_shows reports normalized).2 shows
  obtain ⟨report, repaired⟩ := repaired_of_settled
    (show Settled text desired (collection desired.device data).data from
      ⟨actual, normalized, undesired⟩) 0 rfl rfl
  have returns : DeployReturns
      (undisturbed desired (collection desired.device data) report) desired
      (collection desired.device data) report :=
    ⟨fun _ => rfl, rfl, rfl, ⟨_, rfl, rfl⟩, rfl, rfl⟩
  obtain ⟨result, ended, reason⟩ := repaired.deployed _ returns
  exact ⟨_, result, ⟨rfl, _, 0, report, rfl, rfl, repaired.detected, rfl⟩, ended, reason⟩

/-- A device that shows the sample intent, on which half of it is not in effect. -/
def halfConfigured : DeviceConfig where
  tree := .obj
    [("interface", .arr
      [.obj
        [("name", .str "ethernet-1/1"), ("admin-state", .str "enable"),
          ("mtu", .int 9000), ("description", .str "to <spine>"),
          ("subinterface", .arr
            [.obj
              [("index", .int 7), ("ipv4", .obj [("address", .arr
                [.obj [("ip-prefix", .str "10.0.0.1/31")]])])]])],
        .obj [("name", .str "lo0")]]),
    ("network-instance", .arr
      [.obj
        [("name", .str "default"),
          ("protocols", .obj
            [("bgp", .obj
              [("admin-state", .str "disable"), ("autonomous-system", .int 1),
                ("neighbor", .arr
                  [.obj
                    [("peer-address", .str "10.0.0.0"), ("peer-as", .int 65000),
                      ("admin-state", .str "enable"),
                      ("peer-group", .str "spines")]])])])]])]
  conforming := by decide +kernel

theorem halfConfigured_shows : Shows halfConfigured.tree sampleState where
  interfaces := by
    intro iface member
    simp only [sampleState, List.mem_cons, List.not_mem_nil, or_false] at member
    rcases member with rfl | rfl
    · exact ⟨_, List.mem_cons_self, rfl, rfl, by decide, by decide, rfl⟩
    · exact ⟨_, List.mem_cons_of_mem _ List.mem_cons_self, rfl, rfl, by decide, by decide, rfl⟩
  sessions := by
    intro session member
    simp only [sampleState, List.mem_cons, List.not_mem_nil, or_false] at member
    rcases member with rfl
    exact ⟨_, List.mem_cons_self, rfl, by decide, rfl, by decide⟩

theorem halfConfigured_readable :
    ∃ actual, normalizeSrlinuxState PyText.ascii (qualifiedReport halfConfigured.tree) =
      .ok actual := by
  refine (normalize_succeeds_iff _ halfConfigured.conforming (reports_qualifiedReport _)).2 ?_
  intro iface member
  rcases List.mem_cons.1 member with rfl | member
  · exact ⟨_, rfl⟩
  · rw [List.mem_singleton.1 member]
    exact ⟨_, rfl⟩

/-- The bound on what verification compares, on a device that shows the intent. -/
theorem halfConfigured_verified :
    (∀ item ∈ diffDesiredVsActual sampleState halfConfigured_readable.choose,
      item.undesired = true) ∧ Shows halfConfigured.tree sampleState :=
  ⟨(verification_sound (reports_qualifiedReport halfConfigured.tree)
    halfConfigured_readable.choose_spec).1.2 halfConfigured_shows, halfConfigured_shows⟩

/--
The forward pass is empty and a deploy succeeds, while the subinterface, its
states and the instance's own leaves are not as rendered.
-/
theorem halfConfigured_unseen :
    ∃ payload actual, render PyText.ascii sampleState = .ok payload ∧
      normalizeSrlinuxState PyText.ascii (qualifiedReport halfConfigured.tree) = .ok actual ∧
      (∀ item ∈ diffDesiredVsActual sampleState actual, item.undesired = true) ∧
      carries configSchema halfConfigured.tree payload = false ∧
      ∃ setting result, Observes PyText.ascii setting sampleState
          (qualifiedReport halfConfigured.tree) ∧
        (DeployIntent.run setting sampleState.device.id).ending Journal.blank = .ok result ∧
        result.reason = .succeeded := by
  have rendered := (render_eq_ok_iff sampleState_replayable.plain _).2
    ⟨prefixesComplete_of_addresses sampleState_replayable.complete,
      sampleState_replayable.writable, rfl⟩
  obtain ⟨actual, normalized⟩ := halfConfigured_readable
  have reports := reports_qualifiedReport halfConfigured.tree
  refine ⟨_, actual, rendered, normalized, ?_, by decide +kernel, ?_⟩
  · exact (undesired_iff_shows reports normalized).2 halfConfigured_shows
  · exact succeeded_of_shows reports normalized halfConfigured_shows

end Snapl.Contract
