import Snapl.Intent.InfrahubStore
import Snapl.Library.Fallible
import Snapl.Library.Sharing

/-!
# Children of devices

Interfaces and sessions are queried for several devices at once and placed on
the device each names.  The client exposes the reference to a device in
several ways: on the relation, or only on the peer it resolves to, as text or
as a UUID, or not at all.  A child that cannot be placed refuses the whole
query, so no child is ever left out.
-/

namespace Snapl.Intent

open Snapl.Library

/-- An identifier of the client: text, or a UUID object. -/
inductive SdkId where
  | text (value : String)
  | uuid (id : UUID)
deriving DecidableEq

/-- The `str` of an identifier. -/
def SdkId.str : SdkId → String
  | .text value => value
  | .uuid id => id.text

/-- What looking up the peer of a relation gives. -/
inductive PeerLookup where
  | raises
  | missing
  | found (id : Option SdkId)

/-- A relation of cardinality one. -/
structure RelatedNode where
  id : Option SdkId
  peer : PeerLookup

/-- An interface or session node with its relation to a device. -/
structure ChildNode where
  node : Node
  device : Option RelatedNode

/-- The peer of a relation; one that cannot be resolved counts as none. -/
def resolvePeer : Option RelatedNode → Option (Option SdkId)
  | none => none
  | some related =>
      match related.peer with
      | .raises => none
      | .missing => none
      | .found id => some id

/-- The identifier of the device a child refers to. -/
def peerId (child : ChildNode) : Option String :=
  let own := child.device.bind RelatedNode.id
  let resolved :=
    match own with
    | some id => some id
    | none => (resolvePeer child.device).join
  resolved.map SdkId.str

/-- The device a child is placed on: the only one queried, or the one it refers to. -/
def placeOf (deviceIds : List String) (child : ChildNode) : Option String :=
  match deviceIds with
  | [only] => some only
  | _ => peerId child

/-- The queried device a child is placed on. -/
def placedOn (deviceIds : List String) (child : ChildNode) : Option String :=
  (placeOf deviceIds child).filter (· ∈ deviceIds)

/-- Place children one by one, and keep the identifiers of those that cannot be placed. -/
def placeChildren (deviceIds : List String) :
    Dict String (List ChildNode) → List String → List ChildNode →
      Dict String (List ChildNode) × List String
  | grouped, unattributed, [] => (grouped, unattributed)
  | grouped, unattributed, child :: rest =>
      match placedOn deviceIds child with
      | some device =>
          placeChildren deviceIds
            (grouped.set device ((grouped.get? device).getD [] ++ [child])) unattributed rest
      | none => placeChildren deviceIds grouped (unattributed ++ [child.node.id]) rest

/-- Group children by the devices they are placed on; refuse if some cannot be placed. -/
def groupChildren (kind : Kind) (deviceIds : List String) (children : List ChildNode) :
    Except IntentError (Dict String (List ChildNode)) :=
  let (grouped, unattributed) := placeChildren deviceIds Dict.empty [] children
  if unattributed = [] then .ok grouped else .error (.attribution kind unattributed)

/-- A model with the identifier of the device it was placed on. -/
structure Stamped (Model : Type) where
  deviceId : UUID
  model : Model

/-- The desired state of a device, with the identifiers its children were stamped with. -/
structure StampedState where
  device : Device
  interfaces : List (Stamped Interface)
  bgpSessions : List (Stamped BGPSession)

section Building

variable (runtime : Runtime) (contents : Contents)

/-- The models of children, stamped with the identifier of their device. -/
def stampAll {Model : Type} (read : Node → Except PyError Model) (deviceId : UUID)
    (children : List ChildNode) : Except PyError (List (Stamped Model)) :=
  children.mapM fun child => (read child.node).map (Stamped.mk deviceId)

/-- The desired state of a device node with the children placed on it. -/
def buildState (interfaces sessions : Dict String (List ChildNode)) (node : Node) :
    Except PyError StampedState := do
  let device ← nodeToDevice runtime node
  let interfaceModels ← stampAll (nodeToInterface runtime contents) device.id
    ((interfaces.get? node.id).getD [])
  let sessionModels ← stampAll (nodeToBgpSession runtime contents) device.id
    ((sessions.get? node.id).getD [])
  .ok ⟨device, interfaceModels, sessionModels⟩

/--
The desired states of the queried devices, with what querying the children of
some devices returns.
-/
def desiredStates (children : Kind → List String → List ChildNode) (devices : List Node) :
    Except IntentError (List StampedState) :=
  if devices = [] then .ok []
  else do
    let ids := devices.map Node.id
    let interfaces ← groupChildren .interfacePhysical ids (children .interfacePhysical ids)
    let sessions ← groupChildren .routingBGPSession ids (children .routingBGPSession ids)
    (devices.mapM (buildState runtime contents interfaces sessions)).mapError .python

end Building

/-- A child names a queried device, or is placed on the only one. -/
def Placed (deviceIds : List String) (child : ChildNode) : Prop :=
  ∃ device ∈ deviceIds, placeOf deviceIds child = some device

instance (deviceIds : List String) (child : ChildNode) : Decidable (Placed deviceIds child) :=
  inferInstanceAs (Decidable (∃ device ∈ deviceIds, placeOf deviceIds child = some device))

theorem placed_of_single (device : String) (child : ChildNode) : Placed [device] child :=
  ⟨device, List.mem_singleton_self device, rfl⟩

theorem placedOn_eq_some_iff (deviceIds : List String) (child : ChildNode) (device : String) :
    placedOn deviceIds child = some device ↔
      placeOf deviceIds child = some device ∧ device ∈ deviceIds := by
  rw [placedOn, Option.filter_eq_some_iff, decide_eq_true_eq]

theorem placedOn_eq_none_iff (deviceIds : List String) (child : ChildNode) :
    placedOn deviceIds child = none ↔ ¬ Placed deviceIds child := by
  rw [Option.eq_none_iff_forall_ne_some, Placed]
  constructor
  · rintro none ⟨device, member, named⟩
    exact none device ((placedOn_eq_some_iff _ _ _).2 ⟨named, member⟩)
  · intro unplaced device placed
    obtain ⟨named, member⟩ := (placedOn_eq_some_iff _ _ _).1 placed
    exact unplaced ⟨device, member, named⟩

/-- Placing children adds to every device its share of them. -/
theorem get?_placeChildren
    (deviceIds : List String) (grouped : Dict String (List ChildNode))
    (unattributed : List String) (children : List ChildNode) (device : String) :
    ((placeChildren deviceIds grouped unattributed children).1.get? device).getD [] =
      (grouped.get? device).getD [] ++ shareOf (placedOn deviceIds) children device := by
  induction children generalizing grouped unattributed with
  | nil => rw [placeChildren, shareOf, List.filter_nil, List.append_nil]
  | cons child rest induction =>
      rw [placeChildren, shareOf, List.filter_cons]
      rcases own : placedOn deviceIds child with _ | place
      · rw [if_neg (by simp)]
        exact induction grouped _
      · by_cases same : place = device
        · subst same
          rw [if_pos (by simp)]
          change ((placeChildren deviceIds (grouped.set place _) unattributed rest).1.get?
            place).getD [] = _
          rw [induction, Dict.get?_set_self, Option.getD_some, List.append_assoc,
            List.singleton_append]
          rfl
        · rw [if_neg (by simpa using same)]
          change ((placeChildren deviceIds (grouped.set place _) unattributed rest).1.get?
            device).getD [] = _
          rw [induction, Dict.get?_set_of_ne _ _ (Ne.symm same)]
          rfl

/-- Placing children keeps apart those that cannot be placed. -/
theorem unattributed_placeChildren
    (deviceIds : List String) (grouped : Dict String (List ChildNode))
    (unattributed : List String) (children : List ChildNode) :
    (placeChildren deviceIds grouped unattributed children).2 =
      unattributed ++
        (children.filter fun child => ¬ Placed deviceIds child).map fun child =>
          child.node.id := by
  induction children generalizing grouped unattributed with
  | nil => rw [placeChildren, List.filter_nil, List.map_nil, List.append_nil]
  | cons child rest induction =>
      rw [placeChildren, List.filter_cons]
      rcases own : placedOn deviceIds child with _ | place
      · have unplaced := (placedOn_eq_none_iff _ _).1 own
        rw [if_pos (decide_eq_true unplaced), List.map_cons]
        change (placeChildren deviceIds grouped (unattributed ++ [child.node.id]) rest).2 = _
        rw [induction, List.append_assoc, List.singleton_append]
      · have placed : Placed deviceIds child := by
          by_contra unplaced
          rw [(placedOn_eq_none_iff _ _).2 unplaced] at own
          cases own
        rw [if_neg (by simpa using placed)]
        exact induction _ unattributed

/-- Grouping shares out the children if all can be placed, and otherwise refuses. -/
theorem groupChildren_eq
    (kind : Kind) (deviceIds : List String) (children : List ChildNode) :
    groupChildren kind deviceIds children =
      if ∀ child ∈ children, Placed deviceIds child then
        .ok (placeChildren deviceIds Dict.empty [] children).1
      else
        .error (.attribution kind
          ((children.filter fun child => ¬ Placed deviceIds child).map fun child =>
            child.node.id)) := by
  have apart := unattributed_placeChildren deviceIds Dict.empty [] children
  rw [List.nil_append] at apart
  have none : (placeChildren deviceIds Dict.empty [] children).2 = [] ↔
      ∀ child ∈ children, Placed deviceIds child := by
    rw [apart, List.map_eq_nil_iff, List.filter_eq_nil_iff]
    simp
  rw [← apart]
  change (if (placeChildren deviceIds Dict.empty [] children).2 = [] then _ else _) = _
  by_cases all : ∀ child ∈ children, Placed deviceIds child
  · rw [if_pos all, if_pos (none.2 all)]
  · rw [if_neg all, if_neg fun empty => all (none.1 empty)]

/-- Grouping that does not refuse gives every device its share of the children. -/
theorem get?_groupChildren
    {kind : Kind} {deviceIds : List String} {children : List ChildNode}
    {grouped : Dict String (List ChildNode)}
    (groups : groupChildren kind deviceIds children = .ok grouped) (device : String) :
    (grouped.get? device).getD [] = shareOf (placedOn deviceIds) children device := by
  rw [groupChildren_eq] at groups
  split_ifs at groups
  cases groups
  rw [get?_placeChildren, Dict.get?_empty, Option.getD_none, List.nil_append]

/-- A child as the client returns it: its relation carries the identifier of the device. -/
def ChildNode.ofNode (node : Node) : ChildNode where
  node := node
  device := (node.relations "device").head?.map fun id => ⟨some (.text id), .raises⟩

/-- The children of some devices on a branch. -/
def childrenOn (contents : Contents) (kind : Kind) (deviceIds : List String) : List ChildNode :=
  (contents.matching kind [.peers "device" (deviceIds.map Json.str)]).map ChildNode.ofNode

/-- The desired states on a branch that match a query. -/
def statesOn (runtime : Runtime) (contents : Contents) (query : StateQuery) :
    Except IntentError (List StampedState) :=
  desiredStates runtime contents (childrenOn contents)
    (contents.matching .dcimDevice query.filters)

/-- A desired state without the identifiers its children were stamped with. -/
def StampedState.unstamped (state : StampedState) : DesiredState :=
  ⟨state.device, state.interfaces.map Stamped.model, state.bgpSessions.map Stamped.model⟩

@[simp]
theorem peerId_ofNode (node : Node) :
    peerId (ChildNode.ofNode node) = (node.relations "device").head? := by
  rw [peerId, ChildNode.ofNode]
  rcases (node.relations "device").head? with _ | id
  · rfl
  · rfl

theorem deviceRef_eq (deviceIds : List String) (node : Node) :
    deviceRef deviceIds node = placedOn deviceIds (ChildNode.ofNode node) := by
  rcases deviceIds with _ | ⟨only, _ | ⟨second, rest⟩⟩
  · change _ = (peerId (ChildNode.ofNode node)).filter _
    rw [peerId_ofNode]
    rfl
  · change some only = (some only).filter _
    rw [Option.filter_some_pos (by simp)]
  · change _ = (peerId (ChildNode.ofNode node)).filter _
    rw [peerId_ofNode]
    rfl

/-- Grouping nodes is grouping the children they are. -/
theorem groupByDevice_eq (kind : Kind) (deviceIds : List String) (nodes : List Node) :
    groupByDevice kind deviceIds nodes =
      (groupChildren kind deviceIds (nodes.map ChildNode.ofNode)).map fun grouped device =>
        ((grouped.get? device).getD []).map ChildNode.node := by
  have lost : ∀ node, (deviceRef deviceIds node).isNone = true ↔
      ¬ Placed deviceIds (ChildNode.ofNode node) := by
    intro node
    rw [deviceRef_eq, Option.isNone_iff_eq_none, placedOn_eq_none_iff]
  have unattributed : nodes.filter (fun node => (deviceRef deviceIds node).isNone) =
      nodes.filter fun node => ¬ Placed deviceIds (ChildNode.ofNode node) := by
    apply List.filter_congr
    intro node _
    rw [Bool.eq_iff_iff, lost, decide_eq_true_eq]
  rw [groupByDevice, unattributed]
  by_cases all : ∀ node ∈ nodes, Placed deviceIds (ChildNode.ofNode node)
  · have placed : ∀ child ∈ nodes.map ChildNode.ofNode, Placed deviceIds child := by
      intro child member
      obtain ⟨node, inside, rfl⟩ := List.mem_map.1 member
      exact all node inside
    have none : nodes.filter (fun node => ¬ Placed deviceIds (ChildNode.ofNode node)) = [] := by
      rw [List.filter_eq_nil_iff]
      intro node member
      simpa using all node member
    rw [none, groupChildren_eq, if_pos placed]
    change Except.ok _ = Except.ok _
    congr 1
    funext device
    change _ = ((((placeChildren deviceIds Dict.empty [] (nodes.map ChildNode.ofNode)).1.get?
      device).getD []).map ChildNode.node)
    rw [get?_placeChildren, Dict.get?_empty, Option.getD_none, List.nil_append, shareOf,
      List.filter_map, List.map_map]
    simp only [deviceRef_eq]
    exact (List.map_id _).symm
  · have some : nodes.filter (fun node => ¬ Placed deviceIds (ChildNode.ofNode node)) ≠ [] := by
      push Not at all
      obtain ⟨node, member, unplaced⟩ := all
      exact List.ne_nil_of_mem (List.mem_filter.2 ⟨member, decide_eq_true unplaced⟩)
    have unplaced : ¬ ∀ child ∈ nodes.map ChildNode.ofNode, Placed deviceIds child := by
      intro placed
      exact all fun node member => placed _ (List.mem_map.2 ⟨node, member, rfl⟩)
    rw [groupChildren_eq, if_neg unplaced, if_neg (by simpa using some), List.filter_map,
      List.map_map]
    rfl

theorem stampAll_cons
    {Model : Type} (read : Node → Except PyError Model) (deviceId : UUID) (child : ChildNode)
    (rest : List ChildNode) :
    stampAll read deviceId (child :: rest) =
      read child.node >>= fun model =>
        stampAll read deviceId rest >>= fun models => .ok (⟨deviceId, model⟩ :: models) := by
  rw [stampAll, stampAll, List.mapM_cons]
  rcases read child.node with error | model
  · rfl
  · rfl

/-- Models without the identifiers they are stamped with are read from the nodes alone. -/
theorem stampAll_models
    {Model : Type} (read : Node → Except PyError Model) (deviceId : UUID)
    (children : List ChildNode) :
    (children.map ChildNode.node).mapM read =
      (stampAll read deviceId children).map (List.map Stamped.model) := by
  induction children with
  | nil => rfl
  | cons child rest induction =>
      rw [List.map_cons, List.mapM_cons, induction, stampAll_cons]
      rcases read child.node with error | model
      · rfl
      · rcases stampAll read deviceId rest with error | models
        · rfl
        · rfl

theorem assemble_eq
    (runtime : Runtime) (contents : Contents) (interfaces sessions : Dict String (List ChildNode))
    (devices : List Node) :
    InfrahubIntentStore.assemble runtime contents
        (fun device => ((interfaces.get? device).getD []).map ChildNode.node)
        (fun device => ((sessions.get? device).getD []).map ChildNode.node) devices =
      (devices.mapM (buildState runtime contents interfaces sessions)).map
        (List.map StampedState.unstamped) := by
  induction devices with
  | nil => rfl
  | cons node rest induction =>
      rw [InfrahubIntentStore.assemble, List.mapM_cons, buildState, induction]
      rcases nodeToDevice runtime node with error | device
      · rfl
      rw [ok_bind, ok_bind, stampAll_models _ device.id, stampAll_models _ device.id]
      rcases stampAll (nodeToInterface runtime contents) device.id
        ((interfaces.get? node.id).getD []) with error | interfaceModels
      · rfl
      rcases stampAll (nodeToBgpSession runtime contents) device.id
        ((sessions.get? node.id).getD []) with error | sessionModels
      · rfl
      rcases rest.mapM (buildState runtime contents interfaces sessions) with error | states
      · rfl
      · rfl

/-- What the store returns is what a branch holds for the query. -/
theorem getDesiredState_eq
    (store : InfrahubIntentStore) (runtime : Runtime) (query : StateQuery)
    (branch : Option String) (sot : Sot) :
    Program.ending (store.getDesiredState runtime query branch) sot =
      (statesOn runtime (sot (store.resolvedBranch branch)) query).map
        (List.map StampedState.unstamped) := by
  have fetched : ∀ (kind : Kind) (filters : List Filter),
      store.client.filters kind filters (some (store.resolvedBranch branch)) sot =
        (.ok (((sot (store.resolvedBranch branch)).matching kind filters).map fun node =>
          ⟨store.resolvedBranch branch, kind, node⟩), sot) :=
    fun _ _ => rfl
  have nodes : ∀ (kind : Kind) (found : List Node),
      (found.map fun node => (⟨store.resolvedBranch branch, kind, node⟩ : FetchedNode)).map
        FetchedNode.node = found := by
    intro kind found
    rw [List.map_map]
    exact List.map_id found
  have ids : ∀ found : List Node,
      (found.map fun node =>
        (⟨store.resolvedBranch branch, .dcimDevice, node⟩ : FetchedNode)).map
          (fun fetched => fetched.node.id) = found.map Node.id := by
    intro found
    rw [List.map_map]
    rfl
  rw [InfrahubIntentStore.getDesiredState, Program.ending, Program.bind_of_ok (fetched _ _),
    statesOn, desiredStates]
  by_cases none : (sot (store.resolvedBranch branch)).matching .dcimDevice query.filters = []
  · rw [if_pos none, none]
    rfl
  · rw [if_neg none, if_neg (by simpa using none), ids, Program.bind_of_ok (fetched _ _),
      Program.bind_of_ok (fetched _ _), nodes, nodes, nodes, groupByDevice_eq, groupByDevice_eq]
    rw [← childrenOn, ← childrenOn]
    dsimp only
    generalize (sot (store.resolvedBranch branch)).matching .dcimDevice query.filters = devices
    rcases groupChildren .interfacePhysical (devices.map Node.id)
      (childrenOn (sot (store.resolvedBranch branch)) .interfacePhysical
        (devices.map Node.id)) with error | interfaces
    · rfl
    rcases groupChildren .routingBGPSession (devices.map Node.id)
      (childrenOn (sot (store.resolvedBranch branch)) .routingBGPSession
        (devices.map Node.id)) with error | sessions
    · rfl
    · change (InfrahubIntentStore.assemble runtime (sot (store.resolvedBranch branch)) _ _
        devices).mapError IntentError.python = _
      rw [assemble_eq]
      rw [ok_bind, ok_bind]
      rcases devices.mapM (buildState runtime (sot (store.resolvedBranch branch)) interfaces
        sessions) with error | states
      · rfl
      · rfl

end Snapl.Intent
