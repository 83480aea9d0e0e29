import Snapl.Contract.ChildAttribution
import Snapl.Contract.SeedIdempotence

/-!
# Fetching devices together and one by one

The states fetched for all devices of a use case are the ones fetched for each
of its devices alone.  A single fetch places every child it is given on its
device; a fetch of several places a child by its reference, by which the query
that returned it has chosen it as well.
-/

namespace Snapl.Contract

open Snapl.Library Snapl.Intent

/-- The schema's cardinality: an interface or session refers to one device at most. -/
def OneDeviceEach (contents : Contents) : Prop :=
  ∀ kind ∈ [Kind.interfacePhysical, .routingBGPSession],
    ∀ node ∈ contents.nodes kind, (node.relations "device").length ≤ 1

section Fetching

variable {runtime : Runtime} {contents : Contents}

/-- The children of some devices are those whose reference is one of them. -/
theorem childrenOn_eq
    (single : OneDeviceEach contents) {kind : Kind}
    (child : kind ∈ [Kind.interfacePhysical, .routingBGPSession]) (deviceIds : List String) :
    childrenOn contents kind deviceIds =
      ((contents.nodes kind).filter fun node =>
        ∃ device ∈ deviceIds, (node.relations "device").head? = some device).map
          ChildNode.ofNode := by
  rw [childrenOn, Contents.matching]
  congr 1
  apply List.filter_congr
  intro node member
  have short := single kind child node member
  rcases relations : node.relations "device" with _ | ⟨own, _ | ⟨second, rest⟩⟩
  · simp [Filter.passes, relations]
  · simp [Filter.passes, relations, List.any_eq]
  · rw [relations] at short
    simp at short

/-- The share of a device in the children of several is its own children. -/
theorem shareOf_childrenOn
    (single : OneDeviceEach contents) {kind : Kind}
    (child : kind ∈ [Kind.interfacePhysical, .routingBGPSession]) {deviceIds : List String}
    {device : String} (queried : device ∈ deviceIds) :
    shareOf (placedOn deviceIds) (childrenOn contents kind deviceIds) device =
      childrenOn contents kind [device] := by
  by_cases alone : deviceIds = [device]
  · subst alone
    rw [shareOf, List.filter_eq_self]
    intro node _
    rw [decide_eq_true_eq, placedOn_eq_some_iff]
    exact ⟨rfl, queried⟩
  · have several : ∀ other, deviceIds ≠ [other] := by
      rintro other rfl
      rw [List.mem_singleton.1 queried] at alone
      exact alone rfl
    rw [childrenOn_eq single child, childrenOn_eq single child, shareOf, List.filter_map,
      List.filter_filter]
    congr 1
    apply List.filter_congr
    intro node _
    simp only [Function.comp_apply, placedOn_eq_some_iff, placeOf_of_not_single several,
      peerId_ofNode, List.mem_singleton, exists_eq_left]
    rw [Bool.eq_iff_iff]
    simp only [Bool.and_eq_true, decide_eq_true_eq]
    constructor
    · rintro ⟨⟨own, -⟩, -⟩
      exact own
    · intro own
      exact ⟨⟨own, queried⟩, device, queried, own⟩

/-- A device that is fetched alone has the state built from its own children. -/
theorem statesOn_single
    {query : StateQuery} {node : Node} (found : contents.matching .dcimDevice query.filters = [node])
    {state : StampedState}
    (built : BuiltFrom runtime contents node (childrenOn contents .interfacePhysical [node.id])
      (childrenOn contents .routingBGPSession [node.id]) state) :
    statesOn runtime contents query = .ok [state] := by
  have placed : ∀ kind, ∀ child ∈ childrenOn contents kind [node.id], Placed [node.id] child :=
    fun _ child _ => placed_of_single node.id child
  have share : ∀ kind, shareOf (placedOn [node.id]) (childrenOn contents kind [node.id]) node.id =
      childrenOn contents kind [node.id] := by
    intro kind
    rw [shareOf, List.filter_eq_self]
    intro child _
    rw [decide_eq_true_eq, placedOn_eq_some_iff]
    exact ⟨rfl, List.mem_singleton_self _⟩
  obtain ⟨interfaces, interfacesGrouped⟩ : ∃ grouped, groupChildren .interfacePhysical [node.id]
      (childrenOn contents .interfacePhysical [node.id]) = .ok grouped := by
    rw [groupChildren_eq, if_pos (placed _)]
    exact ⟨_, rfl⟩
  obtain ⟨sessions, sessionsGrouped⟩ : ∃ grouped, groupChildren .routingBGPSession [node.id]
      (childrenOn contents .routingBGPSession [node.id]) = .ok grouped := by
    rw [groupChildren_eq, if_pos (placed _)]
    exact ⟨_, rfl⟩
  have own : buildState runtime contents interfaces sessions node = .ok state := by
    rw [buildState_eq_ok_iff, get?_groupChildren interfacesGrouped,
      get?_groupChildren sessionsGrouped, share, share]
    exact built
  rw [statesOn, found, desiredStates_eq _ _ _ (List.cons_ne_nil _ _), List.map_singleton,
    interfacesGrouped, ok_bind, sessionsGrouped, ok_bind,
    (mapM_eq_ok_iff _ _ _).2 (.cons own .nil)]
  rfl

/-- A query for an identifier finds the one device of that identifier. -/
theorem matching_id
    {node : Node} (member : node ∈ contents.nodes .dcimDevice) {device : UUID}
    (same : node.id = device.text) :
    contents.matching .dcimDevice { deviceId := some device : StateQuery }.filters = [node] := by
  obtain ⟨before, after, split⟩ := List.append_of_mem member
  have distinct := contents.distinct .dcimDevice
  rw [split, List.map_append, List.map_cons] at distinct
  have others : ∀ other, other ∈ before ∨ other ∈ after → other.id ≠ node.id := by
    rintro other (earlier | later) equal
    · exact (List.nodup_append.1 distinct).2.2 _ (List.mem_map.2 ⟨other, earlier, rfl⟩) _
        List.mem_cons_self equal
    · exact (List.nodup_cons.1 (List.nodup_append.1 distinct).2.1).1
        (List.mem_map.2 ⟨other, later, equal⟩)
  have chosen : ∀ other : Node,
      ({ deviceId := some device : StateQuery }.filters.all fun filter => filter.passes other) =
        decide (other.id = node.id) := by
    intro other
    simp [StateQuery.filters, Filter.passes, same]
  have none : ∀ part : List Node, (∀ other ∈ part, other.id ≠ node.id) →
      part.filter (fun other => decide (other.id = node.id)) = [] := by
    intro part different
    rw [List.filter_eq_nil_iff]
    intro other inside
    simpa using different other inside
  rw [Contents.matching, split]
  simp only [chosen]
  rw [List.filter_append, List.filter_cons, if_pos (decide_eq_true rfl),
    none before fun other inside => others other (Or.inl inside),
    none after fun other inside => others other (Or.inr inside), List.nil_append]

end Fetching

/-- The states of a use case are those of its devices alone. -/
theorem statesOn_agrees
    (runtime : Runtime) {contents : Contents} (single : OneDeviceEach contents)
    (useCase : String) {states : List StampedState}
    (returned : statesOn runtime contents { useCase := some useCase } = .ok states) :
    List.Forall₂ (fun node state => ∀ device : UUID, node.id = device.text →
        statesOn runtime contents { deviceId := some device } = .ok [state])
      (contents.matching .dcimDevice { useCase := some useCase : StateQuery }.filters) states := by
  generalize listed : contents.matching .dcimDevice
    { useCase := some useCase : StateQuery }.filters = devices
  rw [statesOn, listed] at returned
  by_cases queried : devices = []
  · rw [desiredStates, if_pos queried] at returned
    cases returned
    rw [queried]
    exact .nil
  obtain ⟨-, -, built⟩ := built_of_desiredStates queried returned
  rw [List.forall₂_iff_zip] at built ⊢
  refine ⟨built.1, ?_⟩
  intro node state pair device same
  have member : node ∈ devices := (List.of_mem_zip pair).1
  have own := built.2 pair
  have queriedId : node.id ∈ devices.map Node.id := List.mem_map.2 ⟨node, member, rfl⟩
  rw [shareOf_childrenOn single (by simp) queriedId, shareOf_childrenOn single (by simp) queriedId]
    at own
  apply statesOn_single (matching_id _ same) own
  rw [← listed] at member
  exact List.mem_of_mem_filter member

/--
What is fetched for a use case has, for each of its devices, the state that is
fetched for the device alone, down to the identifiers its children are stamped
with; so the store returns the same states.
-/
theorem batch_agrees
    (store : InfrahubIntentStore) (runtime : Runtime) (branch : Option String) (sot : Sot)
    (single : OneDeviceEach (sot (store.resolvedBranch branch))) (useCase : String) :
    let contents := sot (store.resolvedBranch branch)
    let devices := contents.matching .dcimDevice { useCase := some useCase : StateQuery }.filters
    (∀ states, statesOn runtime contents { useCase := some useCase } = .ok states →
      List.Forall₂ (fun node state => ∀ device : UUID, node.id = device.text →
        statesOn runtime contents { deviceId := some device } = .ok [state]) devices states) ∧
    ∀ states, Program.ending
        (store.getDesiredState runtime { useCase := some useCase } branch) sot = .ok states →
      List.Forall₂ (fun node state => ∀ device : UUID, node.id = device.text →
        Program.ending (store.getDesiredState runtime { deviceId := some device } branch) sot =
          .ok [state]) devices states := by
  refine ⟨fun states returned => statesOn_agrees runtime single useCase returned, ?_⟩
  intro states returned
  rw [getDesiredState_eq] at returned
  rcases fetched : statesOn runtime (sot (store.resolvedBranch branch))
    { useCase := some useCase } with error | stamped
  · rw [fetched] at returned
    cases returned
  rw [fetched] at returned
  cases returned
  rw [List.forall₂_map_right_iff]
  apply (statesOn_agrees runtime single useCase fetched).imp
  intro node state same device named
  rw [getDesiredState_eq, same device named]
  rfl

/-- An interface node that refers to a device. -/
def portOf (number : BitVec 128) (name : String) (device : BitVec 128) : Node where
  id := UUID.text ⟨number⟩
  attributes field := if field = "name" then .str name else .null
  relations field := if field = "device" then [UUID.text ⟨device⟩] else []

/-- Two devices of one use case, with three interfaces. -/
def twoDevices : Contents where
  nodes
    | .dcimDevice => [namedNode 1 "fabric", namedNode 2 "fabric"]
    | .interfacePhysical =>
        [portOf 11 "ethernet-1/1" 1, portOf 12 "ethernet-1/1" 2, portOf 13 "ethernet-1/2" 1]
    | _ => []
  distinct kind := by cases kind <;> decide +kernel

theorem twoDevices_single : OneDeviceEach twoDevices := by
  intro kind child node member
  rcases List.mem_pair.1 child with rfl | rfl
  · revert node
    decide +kernel
  · cases member

theorem twoDevices_agree :
    ∃ states, statesOn Runtime.ascii twoDevices { useCase := some "fabric" } = .ok states ∧
      List.Forall₂ (fun node state => ∀ device : UUID, node.id = device.text →
          statesOn Runtime.ascii twoDevices { deviceId := some device } = .ok [state])
        [namedNode 1 "fabric", namedNode 2 "fabric"] states := by
  rcases returned : statesOn Runtime.ascii twoDevices { useCase := some "fabric" } with
    error | states
  · have succeeds : (statesOn Runtime.ascii twoDevices { useCase := some "fabric" }).toBool =
        true := by
      decide +kernel
    rw [returned] at succeeds
    cases succeeds
  · exact ⟨states, rfl, (batch_agrees ⟨labClient, "main"⟩ Runtime.ascii none
      (fun _ => twoDevices) twoDevices_single "fabric").1 states returned⟩

end Snapl.Contract
