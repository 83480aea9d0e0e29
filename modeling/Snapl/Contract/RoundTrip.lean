import Snapl.Contract.Agreement

/-!
# The render and observe round trip

What the renderer writes, replayed verbatim as a report of the device, is
compared clean against the intent it was rendered from.  The round trip needs
numbers short enough to be written, and addresses that are absent or non-empty.
-/

namespace Snapl.Contract

open Snapl.Library Snapl.Library.KeyedTree Snapl.Intent Snapl.Executor
open Snapl.Observability Snapl.Orchestrator

/-- An address is set and has no separator. -/
def HasAddress (iface : Interface) : Prop :=
  ∃ address ∈ iface.ipAddress, address ≠ "" ∧ '/' ∉ address.toList

instance (iface : Interface) : Decidable (HasAddress iface) :=
  inferInstanceAs (Decidable (∃ address ∈ iface.ipAddress, _))

/-- A prefix length is set and not negative. -/
def HasLength (iface : Interface) : Prop :=
  ∃ length ∈ iface.prefixLength, 0 ≤ length

instance (iface : Interface) : Decidable (HasLength iface) :=
  inferInstanceAs (Decidable (∃ length ∈ iface.prefixLength, _))

/-- Distinct keys, verbatim strings, and addresses together with their lengths. -/
structure WellFormedIntent (text : PyText) (desired : DesiredState) : Prop where
  names : (desired.interfaces.map Interface.name).Nodup
  peers : (desired.bgpSessions.map BGPSession.peerAddress).Nodup
  plain : PlainState text desired
  descriptions : ∀ iface ∈ desired.interfaces, iface.description ≠ some ""
  groups : ∀ session ∈ desired.bgpSessions, session.peerGroup ≠ some ""
  addresses : ∀ iface ∈ desired.interfaces, HasAddress iface ↔ HasLength iface

/-- An interface without an address, or with a complete one. -/
def AddressComplete (iface : Interface) : Prop :=
  (iface.ipAddress = none ∧ iface.prefixLength = none) ∨
    (HasAddress iface ∧ HasLength iface)

instance (iface : Interface) : Decidable (AddressComplete iface) :=
  inferInstanceAs (Decidable (_ ∨ _))

/-- The desired states whose rendered payload replays cleanly. -/
structure Replayable (text : PyText) (desired : DesiredState) : Prop
    extends WellFormedIntent text desired where
  complete : ∀ iface ∈ desired.interfaces, AddressComplete iface
  writable : Writable desired

section

variable {text : PyText} {desired : DesiredState}

theorem prefixesComplete_of_addresses
    (complete : ∀ iface ∈ desired.interfaces, AddressComplete iface) :
    PrefixesComplete desired := by
  intro iface member filled
  rcases complete iface member with ⟨absent, -⟩ | ⟨-, length, present, -⟩
  · rw [absent] at filled
    exact absurd rfl filled
  · rw [Option.mem_def.1 present]
    simp

theorem filled?_eq_self {value : Option String} (notEmpty : value ≠ some "") :
    filled? value = value := by
  rcases value with _ | text
  · rfl
  · exact filled?_some fun equal => notEmpty (by rw [equal])

/-- A complete address is read back from the rendered entry. -/
theorem readPrefixes_rendered
    {iface : Interface} (complete : AddressComplete iface)
    (writable : InterfaceWritable iface) :
    readPrefixes (interfacePrefixes (.obj (interfaceFields iface))) =
      .ok (iface.ipAddress, iface.prefixLength) := by
  rw [interfacePrefixes_rendered, ipPrefix?]
  rcases complete with
    ⟨noAddress, noLength⟩ |
    ⟨⟨address, present, nonempty, noSlash⟩, length, lengthPresent, nonnegative⟩
  · rw [noAddress, noLength]
    rfl
  · obtain ⟨magnitude, rfl⟩ := Int.eq_ofNat_of_zero_le nonnegative
    rw [Option.mem_def] at present lengthPresent
    have filled : filled? iface.ipAddress = some address := by
      rw [present, filled?_some nonempty]
    have convertible : Convertible (magnitude : Int) :=
      writable.2 (by simp [filled]) magnitude lengthPresent
    have digits : decimalText (magnitude : Int) = Nat.toDigits 10 magnitude := by
      rw [decimalText, if_neg (by omega), Int.natAbs_natCast]
    have read := readPrefixText_of_parts nonempty noSlash convertible
    have set : String.ofList (address.toList ++ '/' :: Nat.toDigits 10 magnitude) ≠
        "" := by
      intro equal
      have chars := congrArg String.toList equal
      simp at chars
    rw [filled, lengthPresent, present]
    simp only [Option.map_some, digits, Option.toList_some]
    rw [readPrefixes, firstPrefix?, List.find?_cons]
    simp only [set, ne_eq, not_false_eq_true, decide_true]
    exact read

/-- The rendered entry of an interface agrees with the interface. -/
theorem agrees_rendered_interface
    {iface : Interface} (description : iface.description ≠ some "") :
    Agrees interfaceSpec (interfaceAttribute iface)
      (flatInterface (.obj (interfaceFields iface))
        (iface.ipAddress, iface.prefixLength)) := by
  rw [agrees_interface_iff]
  refine ⟨?_, rfl, ?_, ?_⟩
  · rw [field_eq, fieldsOf_obj, interfaceFields_description,
      filled?_eq_self description]
    rcases iface.description with _ | value <;> simp [Json.ofString?]
  · rw [field_eq, fieldsOf_obj, interfaceFields_state]
    exact isEnabled_adminState iface.enabled
  · rw [field_eq, fieldsOf_obj, interfaceFields_mtu]
    rcases iface.mtu with _ | mtu
    · exact Or.inl rfl
    · exact Or.inr ((Json.pyEq_int_int mtu mtu).2 rfl)

/-- The rendered entry of a session agrees with the session. -/
theorem agrees_rendered_session
    {session : BGPSession} (group : session.peerGroup ≠ some "") :
    Agrees bgpSessionSpec (sessionAttribute session)
      (flatNeighbor (.obj (neighborFields session))) := by
  rw [agrees_session_iff]
  refine ⟨?_, ?_, ?_, ?_⟩
  · rw [field_eq, fieldsOf_obj, neighborFields_peer]
    exact (Json.pyEq_str_iff _ _).2 rfl
  · rw [field_eq, fieldsOf_obj, neighborFields_asn]
    exact (Json.pyEq_int_int _ _).2 rfl
  · rw [field_eq, fieldsOf_obj, neighborFields_group, filled?_eq_self group]
    rcases session.peerGroup with _ | value <;> simp [Json.ofString?]
  · rw [field_eq, fieldsOf_obj, neighborFields_state]
    exact isEnabled_adminState session.enabled

end

/-- Nothing is undesired when every reported path is an intended one. -/
theorem undesiredEntities_eq_nil
    {spec : EntitySpec} {actual : Dict String Json} {keys : List String}
    (intended : ∀ path ∈ actual.keys,
      spec.key? path = none ∨ ∃ key ∈ keys, path = spec.path key) :
    undesiredEntities spec actual keys = [] := by
  rw [undesiredEntities, List.flatMap_eq_nil_iff]
  intro path member
  rw [List.mem_mergeSort] at member
  rw [undesiredEntity]
  rcases found : spec.key? path with _ | key
  · rfl
  · rcases intended path member with none | ⟨intendedKey, keyMember, rfl⟩
    · rw [none] at found
      cases found
    · rw [key?_path found]
      simp [keyMember]

/-- Nothing is undesired when every reported path is that of an intended entity. -/
theorem undesiredItems_eq_nil
    {desired : DesiredState} {actual : Dict String Json}
    (intended : ∀ path ∈ actual.keys,
      (∃ name ∈ desired.interfaces.map Interface.name, path = interfaceSpec.path name) ∨
        ∃ peer ∈ desired.bgpSessions.map BGPSession.peerAddress,
          path = bgpSessionSpec.path peer) :
    undesiredItems desired actual = [] := by
  rw [undesiredItems, List.append_eq_nil_iff]
  constructor
  · apply undesiredEntities_eq_nil
    intro path member
    rcases intended path member with own | ⟨peer, -, rfl⟩
    · exact Or.inr own
    · exact Or.inl (key?_interface_of_neighbor_path peer)
  · apply undesiredEntities_eq_nil
    intro path member
    rcases intended path member with ⟨name, -, rfl⟩ | own
    · exact Or.inl (key?_neighbor_of_interface_path name)
    · exact Or.inr own

/-- Rendering succeeds, and its payload, reported verbatim, compares clean. -/
theorem rendered_payload_diffs_clean
    (text : PyText) (desired : DesiredState)
    (replayable : Replayable text desired) :
    ∃ payload, render text desired = .ok payload ∧
      ∀ data, Reports data payload →
        ∃ actual, normalizeSrlinuxState text data = .ok actual ∧
          diffDesiredVsActual desired actual = [] := by
  refine ⟨.obj (payloadFields text desired),
    (render_eq_ok_iff replayable.plain _).2
      ⟨prefixesComplete_of_addresses replayable.complete, replayable.writable,
        rfl⟩, ?_⟩
  intro data reports
  have conforming := conforms_payload text desired
  have readable : ∀ iface ∈ desired.interfaces,
      readPrefixes (interfacePrefixes (.obj (interfaceFields iface))) =
        .ok (iface.ipAddress, iface.prefixLength) :=
    fun iface member =>
      readPrefixes_rendered (replayable.complete iface member)
        (replayable.writable.interfaces iface member)
  obtain ⟨actual, normalized⟩ :=
    (normalize_succeeds_iff text conforming reports).2 (by
      rw [interfacesOf_payload]
      intro entry member
      obtain ⟨iface, ifaceMember, rfl⟩ := List.mem_map.1 member
      exact ⟨_, readable iface ifaceMember⟩)
  refine ⟨actual, normalized, ?_⟩
  have entries := actualOf_of_normalize text conforming
    (distinct_payload text replayable.names replayable.peers) reports normalized
  have keys := entries.keys
  rw [interfacesOf_payload, neighborsOf_payload, List.map_map, List.map_map]
    at keys
  have forward : forwardItems desired actual = [] := by
    rw [forwardItems_eq_nil_iff]
    constructor
    · intro iface member
      have present : Json.obj (interfaceFields iface) ∈
          interfacesOf (.obj (payloadFields text desired)) :=
        List.mem_map.2 ⟨iface, member, rfl⟩
      obtain ⟨address, read, found⟩ := entries.interface _ present
      rw [readable iface member] at read
      cases read
      have path : interfaceSpec.path
          (textOf ((Json.obj (interfaceFields iface)).field "name")) =
            interfaceSpec.path iface.name := rfl
      rw [path] at found
      rw [found]
      exact agrees_rendered_interface (replayable.descriptions iface member)
    · intro session member
      have present : Json.obj (neighborFields session) ∈
          neighborsOf (.obj (payloadFields text desired)) := by
        rw [neighborsOf_payload]
        exact List.mem_map.2 ⟨session, member, rfl⟩
      have found := entries.neighbor _ present
      have path : bgpSessionSpec.path
          (textOf ((Json.obj (neighborFields session)).field "peer-address")) =
            bgpSessionSpec.path session.peerAddress := rfl
      rw [path] at found
      rw [found]
      exact agrees_rendered_session (replayable.groups session member)
  have pathCases : ∀ path ∈ actual.keys,
      (∃ name ∈ desired.interfaces.map Interface.name,
        path = interfaceSpec.path name) ∨
      ∃ peer ∈ desired.bgpSessions.map BGPSession.peerAddress,
        path = bgpSessionSpec.path peer := by
    rw [keys]
    intro path member
    rcases List.mem_append.1 member with member | member
    · obtain ⟨iface, ifaceMember, rfl⟩ := List.mem_map.1 member
      exact Or.inl ⟨iface.name, List.mem_map.2 ⟨iface, ifaceMember, rfl⟩, rfl⟩
    · obtain ⟨session, sessionMember, rfl⟩ := List.mem_map.1 member
      exact Or.inr ⟨session.peerAddress,
        List.mem_map.2 ⟨session, sessionMember, rfl⟩, rfl⟩
  have reverse := undesiredItems_eq_nil pathCases
  rw [diffDesiredVsActual, forward, reverse]
  rfl

/-- A desired state with a described, addressed interface and one session. -/
def sampleState : DesiredState where
  device := sampleDevice
  interfaces :=
    [⟨"ethernet-1/1", some "to <spine>", some "10.0.0.1", some 31, true,
      some 9000⟩, ⟨"lo0", none, none, none, false, none⟩]
  bgpSessions := [⟨65001, "10.0.0.0", 65000, some "spines", "ipv4_unicast", true⟩]

theorem sampleState_replayable : Replayable PyText.ascii sampleState where
  names := by decide
  peers := by decide
  plain := ⟨by decide, by decide, by decide, by decide, by decide,
    by decide +kernel⟩
  descriptions := by decide
  groups := by decide
  addresses := by decide
  complete := by decide
  writable := ⟨by decide +kernel, by decide +kernel, by decide +kernel⟩

theorem sampleState_diffs_clean :
    ∃ payload, render PyText.ascii sampleState = .ok payload ∧
      ∀ data, Reports data payload →
        ∃ actual, normalizeSrlinuxState PyText.ascii data = .ok actual ∧
          diffDesiredVsActual sampleState actual = [] :=
  rendered_payload_diffs_clean PyText.ascii sampleState sampleState_replayable

/-- An interface whose mtu has more digits than a number may be written with. -/
def longNumberState : DesiredState where
  device := sampleDevice
  interfaces := [⟨"lo0", none, none, none, true, some (10 ^ 4300)⟩]
  bgpSessions := []

/-- An interface whose address is set, but empty. -/
def emptyAddressState : DesiredState where
  device := sampleDevice
  interfaces := [⟨"lo0", none, some "", none, true, none⟩]
  bgpSessions := []

/-- The payload of `emptyAddressState`, as a report. -/
def emptyAddressReport : Dict String Json :=
  Dict.ofPairs
    [("/interface", .obj
      [("interface", .arr
        [.obj [("name", .str "lo0"), ("admin-state", .str "enable")]])])]

theorem wellFormed_longNumberState :
    WellFormedIntent PyText.ascii longNumberState where
  names := by decide
  peers := by decide
  plain := ⟨by decide, by decide, by decide, by decide, by decide,
    by decide +kernel⟩
  descriptions := by decide
  groups := by decide
  addresses := by decide

theorem wellFormed_emptyAddressState :
    WellFormedIntent PyText.ascii emptyAddressState where
  names := by decide
  peers := by decide
  plain := ⟨by decide, by decide, by decide, by decide, by decide,
    by decide +kernel⟩
  descriptions := by decide
  groups := by decide
  addresses := by decide

/--
Of two well-formed intents, one is not rendered and the other is rendered into
a payload whose report still differs from it.
-/
theorem wellFormed_intents_that_do_not_replay :
    (WellFormedIntent PyText.ascii longNumberState ∧
      render PyText.ascii longNumberState = .error (.pyError .valueError)) ∧
    (WellFormedIntent PyText.ascii emptyAddressState ∧
      ∃ payload, render PyText.ascii emptyAddressState = .ok payload ∧
        Reports emptyAddressReport payload ∧
        ∀ actual,
          normalizeSrlinuxState PyText.ascii emptyAddressReport = .ok actual →
            diffDesiredVsActual emptyAddressState actual ≠ []) := by
  refine ⟨⟨wellFormed_longNumberState, by decide +kernel⟩,
    wellFormed_emptyAddressState,
    .obj (payloadFields PyText.ascii emptyAddressState), by decide +kernel,
    ⟨by decide +kernel, by decide +kernel⟩, ?_⟩
  intro actual normalized equal
  have drifted :
      (normalizeSrlinuxState PyText.ascii emptyAddressReport).map
        (diffDesiredVsActual emptyAddressState) ≠ .ok [] := by
    decide +kernel
  rw [normalized] at drifted
  exact drifted (congrArg Except.ok equal)

end Snapl.Contract
