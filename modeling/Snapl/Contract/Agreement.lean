import Snapl.Contract.Report
import Snapl.Executor.Renderer

/-!
# When an entity agrees with a report

The forward pass finds nothing exactly when every intended interface and
session agrees with the device's entry of its key, field by field.  A rendered
entry, replayed as it is, agrees up to the fields rendering leaves out.
-/

namespace Snapl.Contract

open Snapl.Library Snapl.Library.KeyedTree Snapl.Intent Snapl.Executor
open Snapl.Observability Snapl.Orchestrator

theorem agrees_interface_iff
    (iface : Interface) (entry : Json)
    (address : Option String × Option Int) :
    Agrees interfaceSpec (interfaceAttribute iface) (flatInterface entry address) ↔
      Json.pyEq (.ofString? iface.description) (entry.field "description") = true ∧
        address = (iface.ipAddress, iface.prefixLength) ∧
        Json.pyEq (.bool iface.enabled)
          (.bool (Json.pyEq (entry.field "admin-state") (.str "enable"))) = true ∧
        (iface.mtu = none ∨
          Json.pyEq (.ofInt? iface.mtu) (entry.field "mtu") = true) := by
  constructor
  · intro agrees
    have strict : ∀ field ∈ interfaceSpec.fields, field ≠ "mtu" →
        Json.pyEq (interfaceAttribute iface field)
          ((flatInterface entry address).field field) = true := by
      intro field member other
      rcases agrees field member with ⟨-, skipped⟩ | equal
      · exact absurd (List.mem_singleton.1 skipped) other
      · exact equal
    have ipAddress : Json.pyEq (.ofString? iface.ipAddress)
        (.ofString? address.1) = true :=
      strict "ip_address" (by decide) (by decide)
    have prefixLength : Json.pyEq (.ofInt? iface.prefixLength)
        (.ofInt? address.2) = true :=
      strict "prefix_length" (by decide) (by decide)
    refine ⟨strict "description" (by decide) (by decide), ?_,
      strict "enabled" (by decide) (by decide), ?_⟩
    · rw [(Json.pyEq_ofString?_iff _ _).1 ipAddress,
        (Json.pyEq_ofInt?_iff _ _).1 prefixLength]
    · rcases agrees "mtu" (by decide) with ⟨unset, -⟩ | equal
      · left
        have unset : Json.ofInt? iface.mtu = .null := unset
        rcases mtu : iface.mtu with _ | value
        · rfl
        · rw [mtu] at unset
          cases unset
      · exact Or.inr equal
  · rintro ⟨description, rfl, enabled, mtu⟩ field member
    simp only [interfaceSpec, List.mem_cons, List.not_mem_nil, or_false] at member
    rcases member with rfl | rfl | rfl | rfl | rfl
    · exact Or.inr description
    · exact Or.inr (Json.pyEq_ofString?_self _)
    · exact Or.inr (Json.pyEq_ofInt?_self _)
    · exact Or.inr enabled
    · rcases mtu with unset | equal
      · left
        refine ⟨?_, List.mem_singleton_self _⟩
        show Json.ofInt? iface.mtu = .null
        rw [unset]
        rfl
      · exact Or.inr equal

theorem agrees_session_iff (session : BGPSession) (entry : Json) :
    Agrees bgpSessionSpec (sessionAttribute session) (flatNeighbor entry) ↔
      Json.pyEq (.str session.peerAddress) (entry.field "peer-address") = true ∧
        Json.pyEq (.int session.peerAsn) (entry.field "peer-as") = true ∧
        Json.pyEq (.ofString? session.peerGroup) (entry.field "peer-group") = true ∧
        Json.pyEq (.bool session.enabled)
          (.bool (Json.pyEq (entry.field "admin-state") (.str "enable"))) = true := by
  simp [Agrees, bgpSessionSpec, sessionAttribute, flatNeighbor, Json.field,
    List.lookup_cons]

section

variable (iface : Interface) (session : BGPSession)

theorem interfaceFields_state :
    (interfaceFields iface).lookup "admin-state" =
      some (.str (adminState iface.enabled)) := rfl

theorem interfaceFields_mtu :
    (interfaceFields iface).lookup "mtu" = iface.mtu.map Json.int := by
  rw [interfaceFields]
  rcases iface.mtu with _ | mtu <;>
    rcases filled? iface.description with _ | description <;>
      rcases ipPrefix? iface with _ | ipPrefix <;> rfl

theorem interfaceFields_description :
    (interfaceFields iface).lookup "description" =
      (filled? iface.description).map Json.str := by
  rw [interfaceFields]
  rcases iface.mtu with _ | mtu <;>
    rcases filled? iface.description with _ | description <;>
      rcases ipPrefix? iface with _ | ipPrefix <;> rfl

theorem interfaceFields_subinterface :
    (interfaceFields iface).lookup "subinterface" =
      (ipPrefix? iface).map fun ipPrefix => .arr [subinterfaceValue ipPrefix] := by
  rw [interfaceFields]
  rcases iface.mtu with _ | mtu <;>
    rcases filled? iface.description with _ | description <;>
      rcases ipPrefix? iface with _ | ipPrefix <;> rfl

theorem neighborFields_peer :
    (neighborFields session).lookup "peer-address" =
      some (.str session.peerAddress) := rfl

theorem neighborFields_asn :
    (neighborFields session).lookup "peer-as" = some (.int session.peerAsn) := rfl

theorem neighborFields_state :
    (neighborFields session).lookup "admin-state" =
      some (.str (adminState session.enabled)) := rfl

theorem neighborFields_group :
    (neighborFields session).lookup "peer-group" =
      (filled? session.peerGroup).map Json.str := by
  rw [neighborFields]
  rcases filled? session.peerGroup with _ | group <;> rfl

theorem conforms_interface :
    conforms false (.container interfaceSchema) (.obj (interfaceFields iface)) =
      true := by
  rw [interfaceFields]
  rcases iface.mtu with _ | mtu <;>
    rcases filled? iface.description with _ | description <;>
      rcases ipPrefix? iface with _ | ipPrefix <;> rfl

theorem conforms_neighbor :
    conforms false (.container neighborSchema) (.obj (neighborFields session)) =
      true := by
  rw [neighborFields]
  rcases filled? session.peerGroup with _ | group <;> rfl

theorem isEnabled_adminState (enabled : Bool) :
    Json.pyEq (.bool enabled)
      (.bool (Json.pyEq (.str (adminState enabled)) (.str "enable"))) = true := by
  cases enabled <;> decide

end

theorem conforms_namedList
    (key : String) (other : key ≠ "admin-state") (names : List String) :
    conforms false (.list key true (namedSchema key))
      (.arr (names.map (namedValue key))) = true := by
  rw [conforms_list_iff]
  refine ⟨fun asked => (Bool.false_ne_true asked).elim, fun _ item member => ?_,
    fun item member => ?_⟩
  · obtain ⟨name, -, rfl⟩ := List.mem_map.1 member
    exact ⟨name, by simp [namedValue, Json.field]⟩
  · obtain ⟨name, -, rfl⟩ := List.mem_map.1 member
    rw [namedValue, conforms_container_iff]
    refine ⟨by simp [other], ?_⟩
    intro field fieldMember schema named
    simp only [List.mem_cons, List.not_mem_nil, or_false] at fieldMember
    rcases fieldMember with rfl | rfl
    · rw [namedSchema, List.lookup_cons_self, Option.some.injEq] at named
      rw [← named]
      rfl
    · rw [namedSchema, lookup_cons_of_ne _ _ (Ne.symm other)] at named
      simp only [List.lookup_cons_self, Option.some.injEq] at named
      rw [← named]
      rfl

theorem conforms_bgp
    (text : PyText) (routerId : String) (sessions : List BGPSession) :
    conforms false (.container bgpSchema)
      (.obj (bgpFields text routerId sessions)) = true := by
  have families := conforms_namedList "afi-safi-name" (by decide)
    ((unique text (sessions.map BGPSession.addressFamily)).map fun family =>
      String.ofList (hyphenated family))
  rw [List.map_map] at families
  have groups := conforms_namedList "group-name" (by decide)
    (groupNames text sessions)
  have neighbors : conforms false (.list "peer-address" true neighborSchema)
      (.arr (sessions.map fun session => .obj (neighborFields session))) =
        true := by
    rw [conforms_list_iff]
    refine ⟨fun asked => (Bool.false_ne_true asked).elim, fun _ item member => ?_,
      fun item member => ?_⟩
    · obtain ⟨session, -, rfl⟩ := List.mem_map.1 member
      exact ⟨session.peerAddress, rfl⟩
    · obtain ⟨session, -, rfl⟩ := List.mem_map.1 member
      exact conforms_neighbor session
  rw [conforms_container_iff]
  refine ⟨bgpFields_keys_nodup text routerId sessions, ?_⟩
  intro field member schema named
  rw [bgpFields, List.mem_append, List.mem_append] at member
  rcases member with (member | member) | member
  · simp only [List.mem_cons, List.not_mem_nil, or_false] at member
    rcases member with rfl | rfl | rfl | rfl
    · cases named
      rfl
    · cases named
      rfl
    · cases named
      rfl
    · cases named
      exact families
  · rcases names : groupNames text sessions with _ | ⟨first, rest⟩
    · rw [names] at member
      cases member
    · rw [names] at member groups
      obtain rfl := List.mem_singleton.1 member
      cases named
      exact groups
  · obtain rfl := List.mem_singleton.1 member
    cases named
    exact neighbors

/-- The rendered payload has the shape of a configuration. -/
theorem conforms_payload (text : PyText) (desired : DesiredState) :
    conforms false configSchema (.obj (payloadFields text desired)) = true := by
  have interfaces : conforms false (.list "name" true interfaceSchema)
      (.arr (desired.interfaces.map fun iface => .obj (interfaceFields iface))) =
        true := by
    rw [conforms_list_iff]
    refine ⟨fun asked => (Bool.false_ne_true asked).elim, fun _ item member => ?_,
      fun item member => ?_⟩
    · obtain ⟨iface, -, rfl⟩ := List.mem_map.1 member
      exact ⟨iface.name, rfl⟩
    · obtain ⟨iface, -, rfl⟩ := List.mem_map.1 member
      exact conforms_interface iface
  have bgp := conforms_bgp text (selectRouterId text desired) desired.bgpSessions
  have instances : conforms false (.list "name" true networkInstanceSchema)
      (.arr [.obj [("name", .str "default"),
        ("protocols", .obj [("bgp",
          .obj (bgpFields text (selectRouterId text desired)
            desired.bgpSessions))])]]) = true := by
    simp only [conforms, conformItems, conformFields, networkInstanceSchema,
      protocolsSchema, List.lookup_cons_self] at bgp ⊢
    simp [Json.field, isText, List.lookup_cons, bgp]
  rw [configSchema, conforms_container_iff, payloadFields]
  split_ifs
  · refine ⟨by simp, ?_⟩
    intro field member schema named
    obtain rfl := List.mem_singleton.1 member
    cases named
    exact interfaces
  · refine ⟨by simp, ?_⟩
    intro field member schema named
    simp only [List.mem_cons, List.not_mem_nil, or_false] at member
    rcases member with rfl | rfl
    · cases named
      exact interfaces
    · cases named
      exact instances

theorem interfacesOf_payload (text : PyText) (desired : DesiredState) :
    interfacesOf (.obj (payloadFields text desired)) =
      desired.interfaces.map fun iface => .obj (interfaceFields iface) := rfl

theorem neighborsOf_payload (text : PyText) (desired : DesiredState) :
    neighborsOf (.obj (payloadFields text desired)) =
      desired.bgpSessions.map fun session => .obj (neighborFields session) := by
  by_cases sessions : desired.bgpSessions = []
  · rw [payloadFields, if_pos sessions, sessions]
    rfl
  · have last : (bgpFields text (selectRouterId text desired)
        desired.bgpSessions).lookup "neighbor" =
          some (.arr (desired.bgpSessions.map fun session =>
            .obj (neighborFields session))) := by
      rw [bgpFields]
      rcases groupNames text desired.bgpSessions with _ | ⟨first, rest⟩ <;> rfl
    have bgp : bgpOf (.obj (payloadFields text desired)) =
        .obj (bgpFields text (selectRouterId text desired)
          desired.bgpSessions) := by
      rw [payloadFields, if_neg sessions]
      rfl
    rw [neighborsOf, bgp, Json.field, last]
    rfl

/-- The rendered payload tells its entities apart. -/
theorem distinct_payload
    (text : PyText) {desired : DesiredState}
    (names : (desired.interfaces.map Interface.name).Nodup)
    (peers : (desired.bgpSessions.map BGPSession.peerAddress).Nodup) :
    DistinctEntities (.obj (payloadFields text desired)) := by
  have inject : Function.Injective Json.str := by
    intro left right equal
    cases equal
    rfl
  constructor
  · rw [interfacesOf_payload, List.map_map]
    have mapped := names.map inject
    rwa [List.map_map] at mapped
  · rw [neighborsOf_payload, List.map_map]
    have mapped := peers.map inject
    rwa [List.map_map] at mapped

theorem interfacePrefixes_rendered (iface : Interface) :
    interfacePrefixes (.obj (interfaceFields iface)) = (ipPrefix? iface).toList := by
  rw [interfacePrefixes, field_eq, fieldsOf_obj, interfaceFields_subinterface]
  rcases ipPrefix? iface with _ | ipPrefix <;> rfl

/-- A prefix with an address and a length is read as them. -/
theorem readPrefixText_of_parts
    {address : String} {length : Nat} (nonempty : address ≠ "")
    (noSlash : '/' ∉ address.toList) (convertible : Convertible length) :
    readPrefixText
        (String.ofList (address.toList ++ '/' :: Nat.toDigits 10 length)) =
      .ok (some address, some (length : Int)) := by
  have chars : address.toList ≠ [] := by
    intro equal
    exact nonempty (String.toList_inj.1 equal)
  rw [readPrefixText, String.toList_ofList, partitionHead_append _ noSlash,
    partitionTail_append _ noSlash, readLength, if_pos (isdigit_toDigits length),
    intOfDigits_toDigits convertible, if_neg chars, String.ofList_toList]
  rfl

/-- A device of the fabric. -/
def sampleDevice : Device where
  id := ⟨1⟩
  name := "leaf-01"
  managementAddress := "172.20.20.11"
  useCase := "dcfabric"
  labNodeName := some "clab-dcfabric-leaf-01"

end Snapl.Contract
