import Snapl.Intent.InterfaceAddress
import Snapl.Intent.SeedDeclarations

/-!
# What models show of records

A model read from the node of a record shows what the record says: the fields
it gives, the address it names split into its parts, the numbers of the systems
a session runs between, and the copy of its peer group.  Fields a record leaves
out are read from the node all the same, and nothing is said of them here.
-/

namespace Snapl.Intent

open Snapl.Library

/-- The device shows what an item says of it. -/
structure Device.Shows (text : PyText) (item : Payload) (device : Device) : Prop where
  name : ∀ value, item.get? "name" = some value → asText value = .ok device.name
  managementAddress : ∀ value, item.get? "management_ip" = some value →
    ∃ shown, text.str (if value.truthy then value else .str "") = .ok shown ∧
      device.managementAddress = String.ofList (partitionHead '/' shown.toList)
  useCase : ∀ value, item.get? "use_case" = some value → asText value = .ok device.useCase
  labNodeName : ∀ value, item.get? "lab_node_name" = some value →
    asText? value = .ok device.labNodeName

/-- Configuration of this status is enabled. -/
def Enables (status : Json) : Prop := status = .null ∨ status ∈ enabledStatuses

/-- The interface shows what an item says of it; its address is the one the item names. -/
structure Interface.Shows (text : PyText) (item : Payload) (interface : Interface) : Prop where
  name : ∀ value, item.get? "name" = some value → asText value = .ok interface.name
  description : ∀ value, item.get? "description" = some value →
    asText? value = .ok interface.description
  mtu : ∀ value, item.get? "mtu" = some value → asInt? value = .ok interface.mtu
  enabled : ∀ status, item.get? "status" = some status →
    (interface.enabled = true ↔ Enables status)
  address : ∀ value, item.get? "ip_address" = some value →
    ∃ address length, splitCidr text value = .ok (address, length) ∧
      interface.ipAddress = address ∧ interface.prefixLength = address.bind fun _ => length

/-- The session shows what a record says of it; its peer group is the copy on its own device. -/
structure BGPSession.Shows (text : PyText) (record : Payload) (session : BGPSession) : Prop where
  localAsn : ∀ value, record.get? "local_as" = some value →
    asIntOrZero value = .ok session.localAsn
  peerAsn : ∀ value, record.get? "remote_as" = some value →
    asIntOrZero value = .ok session.peerAsn
  peerAddress : ∀ value, record.get? "remote_ip" = some value →
    ∃ address length, splitCidr text value = .ok (address, length) ∧
      session.peerAddress = address.getD ""
  peerGroup : ∀ group, groupOf record = some group →
    asText? (copyName text group ((record.get? "local_device").getD .null)) =
      .ok session.peerGroup
  enabled : ∀ status, record.get? "status" = some status →
    (session.enabled = true ↔ Enables status)

section Reading

variable {runtime : Runtime} {contents : Contents} {node : Node}

theorem find?_of_mem {kind : Kind} {peer : Node} (member : peer ∈ contents.nodes kind) :
    (contents.nodes kind).find? (fun other => other.id = peer.id) = some peer := by
  rcases found : (contents.nodes kind).find? (fun other => other.id = peer.id) with _ | other
  · have misses := List.find?_eq_none.1 found peer member
    simp at misses
  · have sameId := List.find?_some found
    have same : other = peer :=
      List.inj_on_of_nodup_map (contents.distinct kind) (List.mem_of_find?_eq_some found) member
        (of_decide_eq_true sameId)
    exact found.trans (congrArg some same)

/-- What is read through a reference is what the record names. -/
theorem peerValue_of_leads
    {rel : Rel} {field : String} {name : Json} (leads : rel.Leads contents node field name) :
    peerValue contents rel.peerKind node field rel.lookupAttr = name := by
  obtain ⟨peer, member, related, named⟩ := leads
  rw [peerValue, peerNode, related, List.head?_cons, Option.bind_some, find?_of_mem member,
    Option.map_some, Option.getD_some, named]

/-- The one candidate of an interface is chosen. -/
theorem selectInterfaceIp_singleton (candidate : String × Option Int) :
    selectInterfaceIp [candidate] = (some candidate.1, candidate.2) := by
  rcases candidate with ⟨address, length⟩
  rw [selectInterfaceIp, List.find?_singleton]
  split_ifs
  · rfl
  · rfl

/-- An interface of one address is given its parts. -/
theorem selected_of_leads
    {text : PyText} {name : Json} {candidates : List (String × Option Int)}
    (leads : addressRel.Leads contents node "ip_addresses" name)
    (offers : ipCandidates text contents (node.relations "ip_addresses") = .ok candidates) :
    ∃ address length, splitCidr text name = .ok (address, length) ∧
      selectInterfaceIp candidates = (address, address.bind fun _ => length) := by
  obtain ⟨peer, member, related, named⟩ := leads
  have found := find?_of_mem member
  rw [addressRel] at found named
  rw [related, ipCandidates, found, Option.map_some, Option.getD_some, named] at offers
  obtain ⟨⟨address, length⟩, splits, offers⟩ := (bind_eq_ok _ _ _).1 offers
  rw [ipCandidates, ok_bind, Except.ok.injEq] at offers
  refine ⟨address, length, splits, ?_⟩
  rcases address with _ | address
  · subst offers
    rfl
  · subst offers
    exact selectInterfaceIp_singleton _

theorem statusEnabled_iff : statusEnabled node = true ↔ Enables (node.attributes "status") := by
  rw [statusEnabled, Bool.or_eq_true, decide_eq_true_eq, decide_eq_true_eq, Enables]

theorem asText_eq_ok {value : Json} {shown : String} (read : asText value = .ok shown) :
    value = .str shown := by
  rcases value with _ | _ | _ | _ | _ | _ | _ <;> cases read
  rfl

theorem shows_of_nodeToDevice
    {item : Payload} {device : Device}
    (agrees : ∀ field ∈ ["name", "management_ip", "use_case", "lab_node_name"], ∀ value,
      item.get? field = some value → node.attributes field = value)
    (read : nodeToDevice runtime node = .ok device) : device.Shows runtime.text item := by
  obtain ⟨shown, texts, read⟩ := (bind_eq_ok _ _ _).1 read
  obtain ⟨id, -, read⟩ := (bind_eq_ok _ _ _).1 read
  obtain ⟨name, named, read⟩ := (bind_eq_ok _ _ _).1 read
  obtain ⟨role, -, read⟩ := (bind_eq_ok _ _ _).1 read
  obtain ⟨useCase, used, read⟩ := (bind_eq_ok _ _ _).1 read
  obtain ⟨description, -, read⟩ := (bind_eq_ok _ _ _).1 read
  obtain ⟨labNodeName, labelled, read⟩ := (bind_eq_ok _ _ _).1 read
  cases read
  refine ⟨?_, ?_, ?_, ?_⟩
  · intro value given
    rw [← agrees "name" (by simp) value given]
    exact named
  · intro value given
    refine ⟨shown, ?_, rfl⟩
    rw [← agrees "management_ip" (by simp) value given]
    exact texts
  · intro value given
    rw [← agrees "use_case" (by simp) value given]
    exact used
  · intro value given
    rw [← agrees "lab_node_name" (by simp) value given]
    exact labelled

/-- The name and the identifier of a device are those of its node. -/
theorem named_of_nodeToDevice
    {device : Device} (read : nodeToDevice runtime node = .ok device) :
    node.attributes "name" = .str device.name ∧ runtime.readUuid node.id = some device.id := by
  obtain ⟨shown, -, read⟩ := (bind_eq_ok _ _ _).1 read
  obtain ⟨id, identified, read⟩ := (bind_eq_ok _ _ _).1 read
  obtain ⟨name, named, read⟩ := (bind_eq_ok _ _ _).1 read
  obtain ⟨role, -, read⟩ := (bind_eq_ok _ _ _).1 read
  obtain ⟨useCase, -, read⟩ := (bind_eq_ok _ _ _).1 read
  obtain ⟨description, -, read⟩ := (bind_eq_ok _ _ _).1 read
  obtain ⟨labNodeName, -, read⟩ := (bind_eq_ok _ _ _).1 read
  cases read
  refine ⟨asText_eq_ok named, ?_⟩
  rw [readId] at identified
  rcases known : runtime.readUuid node.id with _ | other
  · rw [known] at identified
    cases identified
  · rw [known] at identified
    cases identified
    rfl

theorem shows_of_nodeToInterface
    {item : Payload} {interface : Interface}
    (agrees : ∀ field ∈ ["name", "description", "mtu", "status"], ∀ value,
      item.get? field = some value → node.attributes field = value)
    (leads : ∀ value, item.get? "ip_address" = some value →
      addressRel.Leads contents node "ip_addresses" value)
    (read : nodeToInterface runtime contents node = .ok interface) :
    interface.Shows runtime.text item := by
  obtain ⟨candidates, offers, read⟩ := (bind_eq_ok _ _ _).1 read
  obtain ⟨id, -, read⟩ := (bind_eq_ok _ _ _).1 read
  obtain ⟨name, named, read⟩ := (bind_eq_ok _ _ _).1 read
  obtain ⟨description, described, read⟩ := (bind_eq_ok _ _ _).1 read
  obtain ⟨mtu, sized, read⟩ := (bind_eq_ok _ _ _).1 read
  obtain ⟨peerDevice, -, read⟩ := (bind_eq_ok _ _ _).1 read
  obtain ⟨peerInterface, -, read⟩ := (bind_eq_ok _ _ _).1 read
  cases read
  refine ⟨?_, ?_, ?_, ?_, ?_⟩
  · intro value given
    rw [← agrees "name" (by simp) value given]
    exact named
  · intro value given
    rw [← agrees "description" (by simp) value given]
    exact described
  · intro value given
    rw [← agrees "mtu" (by simp) value given]
    exact sized
  · intro status given
    rw [← agrees "status" (by simp) status given]
    exact statusEnabled_iff
  · intro value given
    obtain ⟨address, length, splits, selected⟩ := selected_of_leads (leads value given) offers
    exact ⟨address, length, splits, congrArg Prod.fst selected, congrArg Prod.snd selected⟩

theorem shows_of_nodeToBgpSession
    {record : Payload} {session : BGPSession}
    (agrees : ∀ value, record.get? "status" = some value → node.attributes "status" = value)
    (leads : ∀ field name, sessionPeers runtime.text record field = some name →
      ∃ rel, (vocabulary .bgpSessions).targets.lookup field = some rel ∧
        rel.Leads contents node field name)
    (read : nodeToBgpSession runtime contents node = .ok session) :
    session.Shows runtime.text record := by
  obtain ⟨⟨address, length⟩, splits, read⟩ := (bind_eq_ok _ _ _).1 read
  obtain ⟨id, -, read⟩ := (bind_eq_ok _ _ _).1 read
  obtain ⟨localAsn, isLocal, read⟩ := (bind_eq_ok _ _ _).1 read
  obtain ⟨peerAsn, isPeer, read⟩ := (bind_eq_ok _ _ _).1 read
  obtain ⟨peerGroup, isGroup, read⟩ := (bind_eq_ok _ _ _).1 read
  obtain ⟨exportPolicies, -, read⟩ := (bind_eq_ok _ _ _).1 read
  obtain ⟨importPolicies, -, read⟩ := (bind_eq_ok _ _ _).1 read
  cases read
  refine ⟨?_, ?_, ?_, ?_, ?_⟩
  · intro value given
    obtain ⟨rel, target, leadsTo⟩ := leads "local_as" value given
    cases target
    rw [← peerValue_of_leads leadsTo]
    exact isLocal
  · intro value given
    obtain ⟨rel, target, leadsTo⟩ := leads "remote_as" value given
    cases target
    rw [← peerValue_of_leads leadsTo]
    exact isPeer
  · intro value given
    obtain ⟨rel, target, leadsTo⟩ := leads "remote_ip" value given
    cases target
    refine ⟨address, length, ?_, rfl⟩
    rw [← peerValue_of_leads leadsTo]
    exact splits
  · intro group given
    have named : sessionPeers runtime.text record "peer_group" =
        some (copyName runtime.text group ((record.get? "local_device").getD .null)) := by
      change (groupOf record).map _ = _
      rw [given, Option.map_some]
    obtain ⟨rel, target, leadsTo⟩ := leads "peer_group" _ named
    cases target
    rw [← peerValue_of_leads leadsTo]
    exact isGroup
  · intro status given
    rw [← agrees status given]
    exact statusEnabled_iff

end Reading

end Snapl.Intent
