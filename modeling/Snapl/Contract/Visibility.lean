import Mathlib.Data.List.TakeWhile
import Snapl.Contract.Update

/-!
# When a repair is visible

Rendering leaves out a description or a peer group that is not set, and the
device may show an address of its own before the rendered one.  A repair is
visible when the device already agrees with intent in these places.  This is
exactly when the forward pass is empty after the update.
-/

namespace Snapl.Contract

open Snapl.Library Snapl.Library.KeyedTree Snapl.Intent Snapl.Executor
open Snapl.Observability Snapl.Orchestrator

/-- What a device must already agree on for an update to be seen complete. -/
structure RepairVisible (desired : DesiredState) (config : Json) : Prop where
  description : ∀ iface ∈ desired.interfaces, filled? iface.description = none →
    Json.pyEq (.ofString? iface.description)
      ((ownInterface config iface).field "description") = true
  address : ∀ iface ∈ desired.interfaces,
    readPrefixes (shownPrefixes iface (ownInterface config iface)) =
      .ok (iface.ipAddress, iface.prefixLength)
  peerGroup : ∀ session ∈ desired.bgpSessions, filled? session.peerGroup = none →
    Json.pyEq (.ofString? session.peerGroup)
      ((ownNeighbor config session).field "peer-group") = true
  readable : ∀ entry ∈ interfacesOf config,
    (∀ iface ∈ desired.interfaces, entry.field "name" ≠ .str iface.name) →
      ∃ address, readPrefixes (interfacePrefixes entry) = .ok address

section

variable (place : Placement) (config : Json)

theorem updatedInterface_state (iface : Interface) :
    (updatedInterface place config iface).field "admin-state" =
      .str (adminState iface.enabled) :=
  field_merge_of_leaf place _ _ (interfaceFields_keys_nodup iface)
    (interfaceFields_state iface)
    (show interfaceSchema.lookup "admin-state" = some .leaf from rfl) trivial

theorem updatedInterface_mtu {iface : Interface} {mtu : Int}
    (set : iface.mtu = some mtu) :
    (updatedInterface place config iface).field "mtu" = .int mtu := by
  have present : (interfaceFields iface).lookup "mtu" = some (.int mtu) := by
    rw [interfaceFields_mtu, set]
    rfl
  exact field_merge_of_leaf place _ _ (interfaceFields_keys_nodup iface) present
    (show interfaceSchema.lookup "mtu" = some .leaf from rfl) trivial

theorem updatedInterface_description_set {iface : Interface} {text : String}
    (set : filled? iface.description = some text) :
    (updatedInterface place config iface).field "description" = .str text := by
  have present : (interfaceFields iface).lookup "description" =
      some (.str text) := by
    rw [interfaceFields_description, set]
    rfl
  exact field_merge_of_leaf place _ _ (interfaceFields_keys_nodup iface) present
    (show interfaceSchema.lookup "description" = some .leaf from rfl) trivial

theorem updatedInterface_description_kept {iface : Interface}
    (unset : filled? iface.description = none) :
    (updatedInterface place config iface).field "description" =
      (ownInterface config iface).field "description" := by
  have absent : (interfaceFields iface).lookup "description" = none := by
    rw [interfaceFields_description, unset]
    rfl
  exact field_merge_of_absent place _ _ _ (interfaceFields_keys_nodup iface) absent

theorem updatedNeighbor_leaf {session : BGPSession} {name : String} {value : Json}
    (present : (neighborFields session).lookup name = some value)
    (named : neighborSchema.lookup name = some .leaf) (leaf : IsLeaf value) :
    (updatedNeighbor place config session).field name = value :=
  field_merge_of_leaf place _ _ (neighborFields_keys_nodup session) present named
    leaf

theorem updatedNeighbor_group_kept {session : BGPSession}
    (unset : filled? session.peerGroup = none) :
    (updatedNeighbor place config session).field "peer-group" =
      (ownNeighbor config session).field "peer-group" := by
  have absent : (neighborFields session).lookup "peer-group" = none := by
    rw [neighborFields_group, unset]
    rfl
  exact field_merge_of_absent place _ _ _ (neighborFields_keys_nodup session) absent

/-- An updated interface agrees up to its description and its address. -/
theorem agrees_updatedInterface_iff
    (iface : Interface) (address : Option String × Option Int) :
    Agrees interfaceSpec (interfaceAttribute iface)
        (flatInterface (updatedInterface place config iface) address) ↔
      (filled? iface.description = none →
        Json.pyEq (.ofString? iface.description)
          ((ownInterface config iface).field "description") = true) ∧
        address = (iface.ipAddress, iface.prefixLength) := by
  rw [agrees_interface_iff, updatedInterface_state]
  have state := isEnabled_adminState iface.enabled
  have mtu : iface.mtu = none ∨ Json.pyEq (.ofInt? iface.mtu)
      ((updatedInterface place config iface).field "mtu") = true := by
    rcases set : iface.mtu with _ | mtu
    · exact Or.inl rfl
    · right
      rw [updatedInterface_mtu place config set]
      exact (Json.pyEq_int_int mtu mtu).2 rfl
  rcases unset : filled? iface.description with _ | text
  · rw [updatedInterface_description_kept place config unset]
    constructor
    · rintro ⟨description, shown, -, -⟩
      exact ⟨fun _ => description, shown⟩
    · rintro ⟨description, shown⟩
      exact ⟨description rfl, shown, state, mtu⟩
  · rw [updatedInterface_description_set place config unset]
    have description : Json.pyEq (.ofString? iface.description) (.str text) =
        true := by
      rw [((filled?_eq_some_iff _ _).1 unset).1]
      exact (Json.pyEq_str_iff _ _).2 rfl
    constructor
    · rintro ⟨-, shown, -, -⟩
      exact ⟨fun impossible => (by cases impossible), shown⟩
    · rintro ⟨-, shown⟩
      exact ⟨description, shown, state, mtu⟩

/-- An updated neighbour agrees up to its peer group. -/
theorem agrees_updatedNeighbor_iff (session : BGPSession) :
    Agrees bgpSessionSpec (sessionAttribute session)
        (flatNeighbor (updatedNeighbor place config session)) ↔
      (filled? session.peerGroup = none →
        Json.pyEq (.ofString? session.peerGroup)
          ((ownNeighbor config session).field "peer-group") = true) := by
  have peer := updatedNeighbor_leaf place config (neighborFields_peer session)
    (show neighborSchema.lookup "peer-address" = some .leaf from rfl) trivial
  have asn := updatedNeighbor_leaf place config (neighborFields_asn session)
    (show neighborSchema.lookup "peer-as" = some .leaf from rfl) trivial
  have state := updatedNeighbor_leaf place config (neighborFields_state session)
    (show neighborSchema.lookup "admin-state" = some .leaf from rfl) trivial
  have peerAgrees : Json.pyEq (.str session.peerAddress)
      (.str session.peerAddress) = true := (Json.pyEq_str_iff _ _).2 rfl
  have asnAgrees : Json.pyEq (.int session.peerAsn) (.int session.peerAsn) =
      true := (Json.pyEq_int_int _ _).2 rfl
  have stateAgrees := isEnabled_adminState session.enabled
  rw [agrees_session_iff, peer, asn, state]
  rcases unset : filled? session.peerGroup with _ | group
  · rw [updatedNeighbor_group_kept place config unset]
    constructor
    · rintro ⟨-, -, groupAgrees, -⟩ _
      exact groupAgrees
    · intro groupAgrees
      exact ⟨peerAgrees, asnAgrees, groupAgrees rfl, stateAgrees⟩
  · have present : (neighborFields session).lookup "peer-group" =
        some (.str group) := by
      rw [neighborFields_group, unset]
      rfl
    rw [updatedNeighbor_leaf place config present
      (show neighborSchema.lookup "peer-group" = some .leaf from rfl) trivial]
    constructor
    · rintro - impossible
      cases impossible
    · intro _
      refine ⟨peerAgrees, asnAgrees, ?_, stateAgrees⟩
      rw [((filled?_eq_some_iff _ _).1 unset).1]
      exact (Json.pyEq_str_iff _ _).2 rfl

end

/-- The parts a prefix was read as. -/
theorem parts_of_readPrefixText
    {shown address : String} {length : Int}
    (read : readPrefixText shown = .ok (some address, some length)) :
    address ≠ "" ∧ '/' ∉ address.toList ∧ 0 ≤ length := by
  rw [readPrefixText] at read
  obtain ⟨number, numberRead, equal⟩ := (bind_eq_ok _ _ _).1 read
  have parts := Prod.mk.inj (Except.ok.inj equal)
  constructor
  · intro empty
    have head := parts.1
    split_ifs at head with none
    rw [Option.some.injEq] at head
    rw [empty] at head
    exact none (String.ofList_inj.1 head)
  constructor
  · have head := parts.1
    split_ifs at head with none
    rw [Option.some.injEq] at head
    rw [← head, String.toList_ofList]
    intro member
    have kept := List.mem_takeWhile_imp member
    simp at kept
  · have tail := parts.2
    subst tail
    rw [readLength] at numberRead
    split_ifs at numberRead with digits
    · rcases number : intOfDigits (partitionTail '/' shown.toList) with
        error | value
      · rw [number] at numberRead
        cases numberRead
      · rw [number] at numberRead
        cases numberRead
        rw [intOfDigits] at number
        split_ifs at number
        split at number
        · cases number
          exact Int.natCast_nonneg _
        · cases number
    · cases numberRead

/-- A device that shows the intended address reads the rendered one the same. -/
theorem readPrefixText_rendered
    {iface : Interface} {shown ipPrefix : String}
    (writable : InterfaceWritable iface) (complete : iface.prefixLength ≠ none)
    (rendered : ipPrefix? iface = some ipPrefix)
    (read : readPrefixText shown = .ok (iface.ipAddress, iface.prefixLength)) :
    readPrefixText ipPrefix = .ok (iface.ipAddress, iface.prefixLength) := by
  obtain ⟨length, lengthSet⟩ := Option.ne_none_iff_exists'.1 complete
  obtain ⟨address, filled, equal⟩ := Option.map_eq_some_iff.1 rendered
  obtain ⟨addressSet, nonempty⟩ := (filled?_eq_some_iff _ _).1 filled
  rw [addressSet, lengthSet] at read ⊢
  obtain ⟨-, noSlash, nonnegative⟩ := parts_of_readPrefixText read
  obtain ⟨magnitude, rfl⟩ := Int.eq_ofNat_of_zero_le nonnegative
  have convertible : Convertible (magnitude : Int) :=
    writable.2 (by simp [filled]) magnitude lengthSet
  have digits : decimalText (magnitude : Int) = Nat.toDigits 10 magnitude := by
    rw [decimalText, if_neg (by omega), Int.natAbs_natCast]
  rw [lengthSet] at equal
  rw [← equal]
  simp only [digits]
  exact readPrefixText_of_parts nonempty noSlash convertible

/-- What an updated interface shows, when it can be read as intended. -/
theorem readPrefixes_updated
    (place : Placement) (config : Json) {iface : Interface}
    (writable : InterfaceWritable iface)
    (complete : filled? iface.ipAddress ≠ none → iface.prefixLength ≠ none)
    (shown : readPrefixes (shownPrefixes iface (ownInterface config iface)) =
      .ok (iface.ipAddress, iface.prefixLength)) :
    readPrefixes (interfacePrefixes (updatedInterface place config iface)) =
      .ok (iface.ipAddress, iface.prefixLength) := by
  rw [shownPrefixes] at shown
  rcases rendered : ipPrefix? iface with _ | ipPrefix
  · rw [rendered] at shown
    have absent : (interfaceFields iface).lookup "subinterface" = none := by
      rw [interfaceFields_subinterface, rendered]
      rfl
    have kept := field_merge_of_absent place
      [.str "interface", .str iface.name] interfaceSchema
      (ownInterface config iface) (interfaceFields_keys_nodup iface) absent
    rw [interfacePrefixes, updatedInterface, kept]
    exact shown
  · rw [rendered] at shown
    have set := ne_empty_of_ipPrefix? rendered
    obtain ⟨core, rest, inserted, prefixes⟩ := interfacePrefixes_merged place
      [.str "interface", .str iface.name] ipPrefix rendered
      (ownInterface config iface)
    obtain ⟨first, -⟩ := firstPrefix?_of_inserted set inserted rest
    rw [updatedInterface, prefixes, readPrefixes]
    rw [readPrefixes] at shown
    rcases first with same | own
    · rw [same]
      exact shown
    · rw [own]
      have filled : filled? iface.ipAddress ≠ none := by
        intro none
        rw [ipPrefix?, none] at rendered
        cases rendered
      simp only at shown ⊢
      rcases first : firstPrefix?
          ((throughIndexZero
            (itemsOf ((ownInterface config iface).field "subinterface"))).flatMap
              prefixesOf ++ [ipPrefix]) with _ | visible
      · rw [firstPrefix?_append, firstPrefix?_cons set] at first
        simp at first
      · rw [first] at shown
        exact readPrefixText_rendered writable (complete filled) rendered shown

/-- With new entries last, an updated interface shows the first of its prefixes. -/
theorem readPrefixes_updated_last (config : Json) (iface : Interface) :
    readPrefixes (interfacePrefixes (updatedInterface lastPlacement config iface)) =
      readPrefixes (shownPrefixes iface (ownInterface config iface)) := by
  rw [shownPrefixes]
  rcases rendered : ipPrefix? iface with _ | ipPrefix
  · have absent : (interfaceFields iface).lookup "subinterface" = none := by
      rw [interfaceFields_subinterface, rendered]
      rfl
    have kept := field_merge_of_absent lastPlacement
      [.str "interface", .str iface.name] interfaceSchema
      (ownInterface config iface) (interfaceFields_keys_nodup iface) absent
    rw [interfacePrefixes, updatedInterface, kept]
    rfl
  · obtain ⟨core, rest, inserted, prefixes⟩ := interfacePrefixes_merged lastPlacement
      [.str "interface", .str iface.name] ipPrefix rendered
      (ownInterface config iface)
    obtain ⟨-, last⟩ := firstPrefix?_of_inserted (ne_empty_of_ipPrefix? rendered)
      inserted rest
    rw [updatedInterface, prefixes, readPrefixes, last rfl, readPrefixes]

section

variable {text : PyText} {desired : DesiredState}

/-- The forward pass of one report of the updated device finds nothing. -/
def Settled (text : PyText) (desired : DesiredState) (data : Dict String Json) :
    Prop :=
  ∃ actual, normalizeSrlinuxState text data = .ok actual ∧
    ∀ item ∈ diffDesiredVsActual desired actual, item.undesired = true

/-- A report of the updated device is settled when the repair is visible. -/
theorem settled_of_repairVisible
    (names : (desired.interfaces.map Interface.name).Nodup)
    (peers : (desired.bgpSessions.map BGPSession.peerAddress).Nodup)
    (writable : Writable desired) (complete : PrefixesComplete desired)
    {config : DeviceConfig} (visible : RepairVisible desired config.tree)
    (place : Placement) {data : Dict String Json}
    (reports : Reports data (updated text desired place config.tree)) :
    Settled text desired data := by
  let after := config.update place _ (conforms_payload text desired)
  have addresses : ∀ iface ∈ desired.interfaces,
      readPrefixes (interfacePrefixes (updatedInterface place config.tree iface)) =
        .ok (iface.ipAddress, iface.prefixLength) :=
    fun iface member =>
      readPrefixes_updated place config.tree (writable.interfaces iface member)
        (complete iface member) (visible.address iface member)
  obtain ⟨actual, normalized⟩ :=
    (normalize_succeeds_iff text after.conforming reports).2 (by
      intro entry member
      rcases mem_updated_interfaces text place names peers config member with
        ⟨iface, ifaceMember, rfl⟩ | ⟨own, unmanaged⟩
      · exact ⟨_, addresses iface ifaceMember⟩
      · exact visible.readable entry own unmanaged)
  refine ⟨actual, normalized, ?_⟩
  have entries := actualOf_of_normalize text after.conforming after.distinct
    reports normalized
  rw [all_undesired_iff, forwardItems_eq_nil_iff]
  constructor
  · intro iface member
    obtain ⟨present, name⟩ := keyedItem?_eq_some
      (keyedItem?_updated_interface text place names peers config.tree member)
    obtain ⟨address, read, found⟩ := entries.interface _ present
    rw [addresses iface member] at read
    cases read
    rw [name] at found
    simp only [textOf] at found
    rw [found, Option.getD_some, agrees_updatedInterface_iff]
    exact ⟨visible.description iface member, rfl⟩
  · intro session member
    obtain ⟨present, peer⟩ := keyedItem?_eq_some
      (keyedItem?_updated_neighbor text place names peers config.tree member)
    have found := entries.neighbor _ present
    rw [peer] at found
    simp only [textOf] at found
    rw [found, Option.getD_some, agrees_updatedNeighbor_iff]
    exact visible.peerGroup session member

/-- A repair is visible when a full report, with new entries last, is settled. -/
theorem repairVisible_of_settled
    (names : (desired.interfaces.map Interface.name).Nodup)
    (peers : (desired.bgpSessions.map BGPSession.peerAddress).Nodup)
    {config : DeviceConfig} {data : Dict String Json}
    (reports : Reports data (updated text desired lastPlacement config.tree))
    (settled : Settled text desired data) :
    RepairVisible desired config.tree := by
  let after := config.update lastPlacement _ (conforms_payload text desired)
  obtain ⟨actual, normalized, undesired⟩ := settled
  rw [all_undesired_iff, forwardItems_eq_nil_iff] at undesired
  obtain ⟨interfaces, sessions⟩ := undesired
  have entries := actualOf_of_normalize text after.conforming after.distinct
    reports normalized
  have interface : ∀ iface ∈ desired.interfaces,
      (filled? iface.description = none →
        Json.pyEq (.ofString? iface.description)
          ((ownInterface config.tree iface).field "description") = true) ∧
        readPrefixes (shownPrefixes iface (ownInterface config.tree iface)) =
          .ok (iface.ipAddress, iface.prefixLength) := by
    intro iface member
    obtain ⟨present, name⟩ := keyedItem?_eq_some
      (keyedItem?_updated_interface text lastPlacement names peers config.tree member)
    obtain ⟨address, read, found⟩ := entries.interface _ present
    rw [name] at found
    simp only [textOf] at found
    have agrees := interfaces iface member
    rw [found, Option.getD_some, agrees_updatedInterface_iff] at agrees
    obtain ⟨description, rfl⟩ := agrees
    rw [readPrefixes_updated_last] at read
    exact ⟨description, read⟩
  refine ⟨fun iface member => (interface iface member).1,
    fun iface member => (interface iface member).2, ?_, ?_⟩
  · intro session member
    obtain ⟨present, peer⟩ := keyedItem?_eq_some
      (keyedItem?_updated_neighbor text lastPlacement names peers config.tree member)
    have found := entries.neighbor _ present
    rw [peer] at found
    simp only [textOf] at found
    have agrees := sessions session member
    rw [found, Option.getD_some, agrees_updatedNeighbor_iff] at agrees
    exact agrees
  · intro entry member unmanaged
    have kept : entry ∈
        interfacesOf (updated text desired lastPlacement config.tree) :=
      mem_updated_of_unmanaged text lastPlacement names peers config member
        unmanaged
    obtain ⟨address, read, -⟩ := entries.interface _ kept
    exact ⟨address, read⟩

end

end Snapl.Contract
