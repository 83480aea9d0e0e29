import Snapl.Contract.Update
import Snapl.Executor.Unique
import Snapl.Library.Reapplication
import Snapl.Library.Settling

/-!
# A payload applied again

A rendered payload agrees with itself: its interfaces are told apart by their
names, its neighbours by their addresses, and of the address families and
groups it renders nothing but the name.  So a device on which it was applied
is not changed by applying it again.
-/

namespace Snapl.Contract

open Snapl.Library Snapl.Library.KeyedTree Snapl.Intent Snapl.Executor
open Snapl.Observability Snapl.Orchestrator

/-- An intent in which names tell interfaces apart, and addresses sessions. -/
structure Distinguished (desired : DesiredState) : Prop where
  names : (desired.interfaces.map Interface.name).Nodup
  peers : (desired.bgpSessions.map BGPSession.peerAddress).Nodup

theorem unambiguous_interface (iface : Interface) :
    unambiguous (.container interfaceSchema) (.obj (interfaceFields iface)) = true := by
  rw [interfaceFields, ipPrefix?]
  rcases iface.mtu with _ | mtu <;> rcases filled? iface.description with _ | description <;>
    rcases filled? iface.ipAddress with _ | address <;>
    simp [unambiguous, unambiguousFields, unambiguousItems, interfaceSchema, subinterfaceValue,
      subinterfaceSchema, ipv4Schema, addressSchema, List.lookup_cons]

theorem unambiguous_neighbor (session : BGPSession) :
    unambiguous (.container neighborSchema) (.obj (neighborFields session)) = true := by
  rw [neighborFields]
  rcases filled? session.peerGroup with _ | group <;> rfl

theorem unambiguous_named (key name : String) :
    unambiguous (.container (namedSchema key)) (namedValue key name) = true := by
  rw [namedValue, unambiguous_container_iff]
  intro field member schema named
  simp only [List.mem_cons, List.not_mem_nil, or_false] at member
  rcases member with rfl | rfl <;> simp [unambiguous]

/-- A list of entries that are told apart by the key agrees with itself. -/
theorem unambiguous_map
    {Item : Type} {key : String} {textual : Bool} {children : List (String × Schema)}
    {entry : Item → Json} {items : List Item}
    (apart : ∀ item ∈ items, ∀ other ∈ items,
      (entry item).field key = (entry other).field key → entry item = entry other)
    (entries : ∀ item, unambiguous (.container children) (entry item) = true) :
    unambiguous (.list key textual children) (.arr (items.map entry)) = true := by
  rw [unambiguous_list_iff]
  constructor
  · intro first firstMember other otherMember same
    obtain ⟨item, member, rfl⟩ := List.mem_map.1 firstMember
    obtain ⟨another, anotherMember, rfl⟩ := List.mem_map.1 otherMember
    exact apart item member another anotherMember same
  · intro first firstMember
    obtain ⟨item, -, rfl⟩ := List.mem_map.1 firstMember
    exact entries item

theorem unambiguous_namedList (key : String) (names : List String) :
    unambiguous (.list key true (namedSchema key)) (.arr (names.map (namedValue key))) = true := by
  refine unambiguous_map (fun name _ other _ same => ?_) (unambiguous_named key)
  have equal : name = other := by simpa [namedValue, Json.field] using same
  rw [equal]

section Payload

variable {text : PyText} {desired : DesiredState}

theorem unambiguous_neighbors {sessions : List BGPSession}
    (peers : (sessions.map BGPSession.peerAddress).Nodup) :
    unambiguous (.list "peer-address" true neighborSchema)
      (.arr (sessions.map fun session => .obj (neighborFields session))) = true := by
  refine unambiguous_map (fun session member other otherMember same => ?_) unambiguous_neighbor
  have address : session.peerAddress = other.peerAddress := Json.str.inj same
  rw [List.inj_on_of_nodup_map peers member otherMember address]

theorem unambiguous_interfaces {interfaces : List Interface}
    (names : (interfaces.map Interface.name).Nodup) :
    unambiguous (.list "name" true interfaceSchema)
      (.arr (interfaces.map fun iface => .obj (interfaceFields iface))) = true := by
  refine unambiguous_map (fun iface member other otherMember same => ?_) unambiguous_interface
  have name : iface.name = other.name := Json.str.inj same
  rw [List.inj_on_of_nodup_map names member otherMember name]

theorem unambiguous_bgp
    (routerId : String) {sessions : List BGPSession}
    (peers : (sessions.map BGPSession.peerAddress).Nodup) :
    unambiguous (.container bgpSchema) (.obj (bgpFields text routerId sessions)) = true := by
  have families := unambiguous_namedList "afi-safi-name"
    ((unique text (sessions.map BGPSession.addressFamily)).map fun family =>
      String.ofList (hyphenated family))
  rw [List.map_map] at families
  have groups := unambiguous_namedList "group-name" (groupNames text sessions)
  rw [unambiguous_container_iff]
  intro field member schema named
  rw [bgpFields, List.mem_append, List.mem_append] at member
  rcases member with (member | member) | member
  · simp only [List.mem_cons, List.not_mem_nil, or_false] at member
    rcases member with rfl | rfl | rfl | rfl
    · cases named
      rfl
    · cases named
      rfl
    · cases named
      rfl
    · cases named
      exact families
  · rcases names : groupNames text sessions with _ | ⟨first, rest⟩
    · rw [names] at member
      cases member
    · rw [names] at member groups
      obtain rfl := List.mem_singleton.1 member
      cases named
      exact groups
  · obtain rfl := List.mem_singleton.1 member
    cases named
    exact unambiguous_neighbors peers

/-- A payload of a distinguished intent agrees with itself. -/
theorem unambiguous_payload (distinguished : Distinguished desired) :
    unambiguous configSchema (.obj (payloadFields text desired)) = true := by
  have interfaces := unambiguous_interfaces distinguished.names
  have bgp := @unambiguous_bgp text (selectRouterId text desired) _ distinguished.peers
  have instances : unambiguous (.list "name" true networkInstanceSchema)
      (.arr [.obj [("name", .str "default"),
        ("protocols", .obj [("bgp",
          .obj (bgpFields text (selectRouterId text desired)
            desired.bgpSessions))])]]) = true := by
    simp only [unambiguous, unambiguousItems, unambiguousFields, networkInstanceSchema,
      protocolsSchema, List.lookup_cons_self] at bgp ⊢
    simp [List.lookup_cons, bgp]
  rw [configSchema, unambiguous_container_iff, payloadFields]
  split_ifs
  · intro field member schema named
    obtain rfl := List.mem_singleton.1 member
    cases named
    exact interfaces
  · intro field member schema named
    simp only [List.mem_cons, List.not_mem_nil, or_false] at member
    rcases member with rfl | rfl
    · cases named
      exact interfaces
    · cases named
      exact instances

variable (text desired) in
/-- The configuration after an apply, with new entries where `place` says. -/
def DeviceConfig.applied (place : Placement) (config : DeviceConfig) : DeviceConfig :=
  config.update place (.obj (payloadFields text desired)) (conforms_payload text desired)

theorem DeviceConfig.eq_of_tree {config other : DeviceConfig} (same : config.tree = other.tree) :
    config = other := by
  rcases config with ⟨tree, conforming⟩
  rcases other with ⟨otherTree, otherConforming⟩
  obtain rfl : tree = otherTree := same
  rfl

/-- Applying a payload to a device that has it changes nothing. -/
theorem absorbing_applied (distinguished : Distinguished desired) :
    Absorbing (DeviceConfig.applied text desired) := by
  intro first second config
  exact DeviceConfig.eq_of_tree (merge_merge second first [] wellKeyed_configSchema config.tree
    (.obj (payloadFields text desired)) (conforms_payload text desired)
    (unambiguous_payload distinguished))

end Payload

end Snapl.Contract
