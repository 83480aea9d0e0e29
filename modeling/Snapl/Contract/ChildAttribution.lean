import Snapl.Intent.DeviceAttribution

/-!
# No child is dropped

The interfaces and sessions that are queried for some devices are attributed
to them without loss: every child is in the state of exactly one device, the
one it names, in the order it was returned and stamped with that device's
identifier.  A child that names none of several devices refuses the query; so
does, in another way, a node that cannot be read as the model it is a node of.
-/

namespace Snapl.Contract

open Snapl.Library Snapl.Intent

/-- Every child belongs to exactly one device, the one it is placed on, in the order it came. -/
structure Attribution (deviceIds : List String) (children : List ChildNode)
    (childrenOf : String → List ChildNode) : Prop where
  placed : ∀ device ∈ deviceIds, ∀ child ∈ childrenOf device,
    placeOf deviceIds child = some device
  ordered : ∀ device ∈ deviceIds, (childrenOf device).Sublist children
  whole : (deviceIds.flatMap childrenOf).Perm children

/-- Models read from children, in order, and stamped with the identifier of a device. -/
def StampedFrom {Model : Type} (read : Node → Except PyError Model) (deviceId : UUID)
    (children : List ChildNode) (models : List (Stamped Model)) : Prop :=
  List.Forall₂ (fun child stamped =>
    stamped.deviceId = deviceId ∧ read child.node = .ok stamped.model) children models

/-- The state of a device node with some interfaces and sessions. -/
structure BuiltFrom (runtime : Runtime) (contents : Contents) (node : Node)
    (interfaces sessions : List ChildNode) (state : StampedState) : Prop where
  device : nodeToDevice runtime node = .ok state.device
  interfaces :
    StampedFrom (nodeToInterface runtime contents) state.device.id interfaces state.interfaces
  sessions :
    StampedFrom (nodeToBgpSession runtime contents) state.device.id sessions state.bgpSessions

/-- The nodes can be read as the models they are nodes of. -/
structure AllReadable (runtime : Runtime) (contents : Contents) (devices : List Node)
    (interfaces sessions : List ChildNode) : Prop where
  devices : ∀ node ∈ devices, ∃ device, nodeToDevice runtime node = .ok device
  interfaces : ∀ child ∈ interfaces, ∃ iface, nodeToInterface runtime contents child.node = .ok iface
  sessions : ∀ child ∈ sessions, ∃ session, nodeToBgpSession runtime contents child.node = .ok session

/-- Several devices are queried, and a child names none of them. -/
def Unattributable (deviceIds : List String) (children : List ChildNode) : Prop :=
  1 < deviceIds.length ∧ ∃ child ∈ children, ∀ device ∈ deviceIds, peerId child ≠ some device

theorem placeOf_of_not_single
    {deviceIds : List String} (several : ∀ device, deviceIds ≠ [device]) (child : ChildNode) :
    placeOf deviceIds child = peerId child := by
  rcases deviceIds with _ | ⟨first, _ | ⟨second, rest⟩⟩
  · rfl
  · exact absurd rfl (several first)
  · rfl

/-- Of some devices, a child cannot be placed exactly when it names none of several. -/
theorem exists_not_placed_iff
    {deviceIds : List String} (queried : deviceIds ≠ []) (children : List ChildNode) :
    (∃ child ∈ children, ¬ Placed deviceIds child) ↔ Unattributable deviceIds children := by
  by_cases single : ∃ device, deviceIds = [device]
  · obtain ⟨device, rfl⟩ := single
    constructor
    · rintro ⟨child, -, unplaced⟩
      exact absurd (placed_of_single device child) unplaced
    · rintro ⟨several, -⟩
      exact absurd several (lt_irrefl 1)
  · have several : ∀ device, deviceIds ≠ [device] := fun device same => single ⟨device, same⟩
    have long : 1 < deviceIds.length := by
      rcases deviceIds with _ | ⟨first, _ | ⟨second, rest⟩⟩
      · exact absurd rfl queried
      · exact absurd rfl (several first)
      · simp
    have unplaced : ∀ child, ¬ Placed deviceIds child ↔
        ∀ device ∈ deviceIds, peerId child ≠ some device := by
      intro child
      rw [Placed, placeOf_of_not_single several]
      simp
    simp only [unplaced, Unattributable, long, true_and]

theorem attribution_of_placed
    {deviceIds : List String} (distinct : deviceIds.Nodup) {children : List ChildNode}
    (placed : ∀ child ∈ children, Placed deviceIds child) :
    Attribution deviceIds children (shareOf (placedOn deviceIds) children) where
  placed device _ child member :=
    ((placedOn_eq_some_iff _ _ _).1 (mem_shareOf.1 member).2).1
  ordered device _ := shareOf_sublist _ _ _
  whole := by
    apply shares_perm _ distinct
    intro child member
    obtain ⟨device, queried, named⟩ := placed child member
    exact ⟨device, queried, (placedOn_eq_some_iff _ _ _).2 ⟨named, queried⟩⟩

section Building

variable {runtime : Runtime} {contents : Contents}

theorem stampAll_eq_ok_iff
    {Model : Type} (read : Node → Except PyError Model) (deviceId : UUID)
    (children : List ChildNode) (models : List (Stamped Model)) :
    stampAll read deviceId children = .ok models ↔ StampedFrom read deviceId children models := by
  rw [stampAll, mapM_eq_ok_iff, StampedFrom]
  have stamped : ∀ (child : ChildNode) (model : Stamped Model),
      (read child.node).map (Stamped.mk deviceId) = .ok model ↔
        model.deviceId = deviceId ∧ read child.node = .ok model.model := by
    rintro child ⟨stamp, model⟩
    rcases read child.node with error | own
    · simp [Except.map]
    · simp [Except.map, eq_comm]
  simp only [stamped]

theorem buildState_eq_ok_iff
    (interfaces sessions : Dict String (List ChildNode)) (node : Node) (state : StampedState) :
    buildState runtime contents interfaces sessions node = .ok state ↔
      BuiltFrom runtime contents node ((interfaces.get? node.id).getD [])
        ((sessions.get? node.id).getD []) state := by
  constructor
  · intro built
    obtain ⟨device, read, built⟩ := (bind_eq_ok _ _ _).1 built
    obtain ⟨interfaceModels, interfacesRead, built⟩ := (bind_eq_ok _ _ _).1 built
    obtain ⟨sessionModels, sessionsRead, built⟩ := (bind_eq_ok _ _ _).1 built
    cases built
    exact ⟨read, (stampAll_eq_ok_iff _ _ _ _).1 interfacesRead,
      (stampAll_eq_ok_iff _ _ _ _).1 sessionsRead⟩
  · intro built
    rw [buildState, built.device, ok_bind, (stampAll_eq_ok_iff _ _ _ _).2 built.interfaces,
      ok_bind, (stampAll_eq_ok_iff _ _ _ _).2 built.sessions]
    rfl

theorem exists_stampedFrom
    {Model : Type} {read : Node → Except PyError Model} {children : List ChildNode}
    (readable : ∀ child ∈ children, ∃ model, read child.node = .ok model) (deviceId : UUID) :
    ∃ models, StampedFrom read deviceId children models := by
  obtain ⟨models, stamped⟩ := exists_mapM_of_forall
    (fun child : ChildNode => (read child.node).map (Stamped.mk deviceId)) children (by
      intro child member
      obtain ⟨model, own⟩ := readable child member
      exact ⟨⟨deviceId, model⟩, by rw [own]; rfl⟩)
  exact ⟨models, (stampAll_eq_ok_iff _ _ _ _).1 stamped⟩

end Building

/-- Reading the desired states of some devices, taken apart. -/
theorem desiredStates_eq
    (runtime : Runtime) (contents : Contents) (children : Kind → List String → List ChildNode)
    {devices : List Node} (queried : devices ≠ []) :
    desiredStates runtime contents children devices =
      groupChildren .interfacePhysical (devices.map Node.id)
          (children .interfacePhysical (devices.map Node.id)) >>= fun interfaces =>
        groupChildren .routingBGPSession (devices.map Node.id)
            (children .routingBGPSession (devices.map Node.id)) >>= fun sessions =>
          (devices.mapM (buildState runtime contents interfaces sessions)).mapError .python := by
  rw [desiredStates, if_neg queried]

/-- An exception of the language is no refusal. -/
theorem mapError_python_ne
    {Result : Type} (outcome : Except PyError Result) (kind : Kind) (nodes : List String) :
    outcome.mapError IntentError.python ≠ .error (.attribution kind nodes) := by
  rcases outcome with error | result <;> exact nofun

section Attributing

variable {runtime : Runtime} {contents : Contents}
  {children : Kind → List String → List ChildNode} {devices : List Node}

/-- The query is refused exactly when a child names none of several devices. -/
theorem refused_iff :
    (∃ kind nodes, desiredStates runtime contents children devices =
        .error (.attribution kind nodes)) ↔
      Unattributable (devices.map Node.id)
        (children .interfacePhysical (devices.map Node.id) ++
          children .routingBGPSession (devices.map Node.id)) := by
  by_cases queried : devices = []
  · subst queried
    simp [desiredStates, Unattributable]
  have ids : devices.map Node.id ≠ [] := by simpa using queried
  rw [desiredStates_eq _ _ _ queried, ← exists_not_placed_iff ids, groupChildren_eq,
    groupChildren_eq]
  by_cases interfaces : ∀ child ∈ children .interfacePhysical (devices.map Node.id),
      Placed (devices.map Node.id) child
  · by_cases sessions : ∀ child ∈ children .routingBGPSession (devices.map Node.id),
        Placed (devices.map Node.id) child
    · rw [if_pos interfaces, if_pos sessions, ok_bind, ok_bind]
      constructor
      · rintro ⟨kind, nodes, refused⟩
        exact absurd refused (mapError_python_ne _ kind nodes)
      · rintro ⟨child, member, unplaced⟩
        rcases List.mem_append.1 member with own | other
        · exact absurd (interfaces child own) unplaced
        · exact absurd (sessions child other) unplaced
    · rw [if_pos interfaces, if_neg sessions, ok_bind, error_bind]
      push Not at sessions
      obtain ⟨child, member, unplaced⟩ := sessions
      exact ⟨fun _ => ⟨child, List.mem_append_right _ member, unplaced⟩,
        fun _ => ⟨_, _, rfl⟩⟩
  · rw [if_neg interfaces, error_bind]
    push Not at interfaces
    obtain ⟨child, member, unplaced⟩ := interfaces
    exact ⟨fun _ => ⟨child, List.mem_append_left _ member, unplaced⟩, fun _ => ⟨_, _, rfl⟩⟩

/-- What is returned is built from the share of every device. -/
theorem built_of_desiredStates
    (queried : devices ≠ []) {states : List StampedState}
    (returned : desiredStates runtime contents children devices = .ok states) :
    (∀ child ∈ children .interfacePhysical (devices.map Node.id),
        Placed (devices.map Node.id) child) ∧
      (∀ child ∈ children .routingBGPSession (devices.map Node.id),
        Placed (devices.map Node.id) child) ∧
      List.Forall₂ (fun node state => BuiltFrom runtime contents node
          (shareOf (placedOn (devices.map Node.id))
            (children .interfacePhysical (devices.map Node.id)) node.id)
          (shareOf (placedOn (devices.map Node.id))
            (children .routingBGPSession (devices.map Node.id)) node.id) state)
        devices states := by
  rw [desiredStates_eq _ _ _ queried] at returned
  obtain ⟨interfaces, interfacesGrouped, returned⟩ := (bind_eq_ok _ _ _).1 returned
  obtain ⟨sessions, sessionsGrouped, returned⟩ := (bind_eq_ok _ _ _).1 returned
  have placed : ∀ {kind grouped},
      groupChildren kind (devices.map Node.id) (children kind (devices.map Node.id)) =
        .ok grouped → ∀ child ∈ children kind (devices.map Node.id),
          Placed (devices.map Node.id) child := by
    intro kind grouped groups
    rw [groupChildren_eq] at groups
    split_ifs at groups with all
    exact all
  refine ⟨placed interfacesGrouped, placed sessionsGrouped, ?_⟩
  rcases built : devices.mapM (buildState runtime contents interfaces sessions) with error | made
  · rw [built] at returned
    cases returned
  rw [built] at returned
  cases returned
  apply ((mapM_eq_ok_iff _ _ _).1 built).imp
  intro node state own
  rw [buildState_eq_ok_iff, get?_groupChildren interfacesGrouped,
    get?_groupChildren sessionsGrouped] at own
  exact own

/-- Where no child is refused and every node can be read, the states are returned. -/
theorem exists_desiredStates
    (attributable : ¬ Unattributable (devices.map Node.id)
      (children .interfacePhysical (devices.map Node.id) ++
        children .routingBGPSession (devices.map Node.id)))
    (readable : AllReadable runtime contents devices
      (children .interfacePhysical (devices.map Node.id))
      (children .routingBGPSession (devices.map Node.id))) :
    ∃ states, desiredStates runtime contents children devices = .ok states := by
  by_cases queried : devices = []
  · exact ⟨[], by rw [desiredStates, if_pos queried]⟩
  have ids : devices.map Node.id ≠ [] := by simpa using queried
  rw [← exists_not_placed_iff ids] at attributable
  push Not at attributable
  obtain ⟨interfaces, interfacesGrouped⟩ : ∃ grouped, groupChildren .interfacePhysical
      (devices.map Node.id) (children .interfacePhysical (devices.map Node.id)) = .ok grouped := by
    rw [groupChildren_eq, if_pos fun child member =>
      attributable child (List.mem_append_left _ member)]
    exact ⟨_, rfl⟩
  obtain ⟨sessions, sessionsGrouped⟩ : ∃ grouped, groupChildren .routingBGPSession
      (devices.map Node.id) (children .routingBGPSession (devices.map Node.id)) = .ok grouped := by
    rw [groupChildren_eq, if_pos fun child member =>
      attributable child (List.mem_append_right _ member)]
    exact ⟨_, rfl⟩
  obtain ⟨states, built⟩ := exists_mapM_of_forall
    (buildState runtime contents interfaces sessions) devices (by
      intro node member
      obtain ⟨device, read⟩ := readable.devices node member
      obtain ⟨interfaceModels, interfacesRead⟩ := exists_stampedFrom
        (fun child inside => readable.interfaces child
          ((shareOf_sublist (placedOn (devices.map Node.id)) _ node.id).mem inside)) device.id
      obtain ⟨sessionModels, sessionsRead⟩ := exists_stampedFrom
        (fun child inside => readable.sessions child
          ((shareOf_sublist (placedOn (devices.map Node.id)) _ node.id).mem inside)) device.id
      refine ⟨⟨device, interfaceModels, sessionModels⟩, ?_⟩
      rw [buildState_eq_ok_iff, get?_groupChildren interfacesGrouped,
        get?_groupChildren sessionsGrouped]
      exact ⟨read, interfacesRead, sessionsRead⟩)
  rw [desiredStates_eq _ _ _ queried, interfacesGrouped, ok_bind, sessionsGrouped, ok_bind, built]
  exact ⟨states, rfl⟩

end Attributing

/-- The states of some devices: one for each, in order, with every child in exactly one of them. -/
structure AllAttributed (runtime : Runtime) (contents : Contents) (devices : List Node)
    (interfaces sessions : List ChildNode) (interfacesOf sessionsOf : String → List ChildNode)
    (states : List StampedState) : Prop where
  interfaces : devices ≠ [] → Attribution (devices.map Node.id) interfaces interfacesOf
  sessions : devices ≠ [] → Attribution (devices.map Node.id) sessions sessionsOf
  built : List.Forall₂ (fun node state => BuiltFrom runtime contents node (interfacesOf node.id)
    (sessionsOf node.id) state) devices states

/--
A query is refused exactly when a child names none of several devices, and
otherwise returns states to which all children are attributed.
-/
structure ChildrenAttributed (runtime : Runtime) (contents : Contents)
    (children : Kind → List String → List ChildNode) (devices : List Node) : Prop where
  refused : (∃ kind nodes, desiredStates runtime contents children devices =
      .error (.attribution kind nodes)) ↔
    Unattributable (devices.map Node.id)
      (children .interfacePhysical (devices.map Node.id) ++
        children .routingBGPSession (devices.map Node.id))
  returned : ¬ Unattributable (devices.map Node.id)
      (children .interfacePhysical (devices.map Node.id) ++
        children .routingBGPSession (devices.map Node.id)) →
    ∃ states interfacesOf sessionsOf,
      desiredStates runtime contents children devices = .ok states ∧
      AllAttributed runtime contents devices
        (children .interfacePhysical (devices.map Node.id))
        (children .routingBGPSession (devices.map Node.id)) interfacesOf sessionsOf states

section Attributed

variable {runtime : Runtime} {contents : Contents}
  {children : Kind → List String → List ChildNode} {devices : List Node}
  {interfaces sessions : List ChildNode} {interfacesOf sessionsOf : String → List ChildNode}
  {states : List StampedState}

/-- What is returned attributes all children. -/
theorem allAttributed_of_desiredStates
    (distinct : (devices.map Node.id).Nodup)
    (returned : desiredStates runtime contents children devices = .ok states) :
    ∃ interfacesOf sessionsOf, AllAttributed runtime contents devices
      (children .interfacePhysical (devices.map Node.id))
      (children .routingBGPSession (devices.map Node.id)) interfacesOf sessionsOf states := by
  by_cases queried : devices = []
  · subst queried
    cases returned
    exact ⟨fun _ => [], fun _ => [], fun some => absurd rfl some, fun some => absurd rfl some, .nil⟩
  · obtain ⟨interfaces, sessions, built⟩ := built_of_desiredStates queried returned
    exact ⟨_, _, fun _ => attribution_of_placed distinct interfaces,
      fun _ => attribution_of_placed distinct sessions, built⟩

/-- A child that was attributed is a child of one of the devices. -/
theorem Attribution.exists_device
    (attributed : Attribution (devices.map Node.id) interfaces interfacesOf) {child : ChildNode}
    (member : child ∈ interfaces) : ∃ node ∈ devices, child ∈ interfacesOf node.id := by
  obtain ⟨device, isDevice, own⟩ := List.mem_flatMap.1 (attributed.whole.mem_iff.2 member)
  obtain ⟨node, isNode, rfl⟩ := List.mem_map.1 isDevice
  exact ⟨node, isNode, own⟩

/-- A model that was stamped was read. -/
theorem StampedFrom.exists_read
    {Model : Type} {read : Node → Except PyError Model} {deviceId : UUID}
    {models : List (Stamped Model)} (stamped : StampedFrom read deviceId interfaces models)
    {child : ChildNode} (member : child ∈ interfaces) : ∃ model, read child.node = .ok model := by
  obtain ⟨model, -, -, own⟩ := exists_mem_of_forall₂ stamped member
  exact ⟨model.model, own⟩

/-- The nodes that states were built from could be read. -/
theorem AllAttributed.readable
    (attributed : AllAttributed runtime contents devices interfaces sessions interfacesOf
      sessionsOf states) (queried : devices ≠ []) :
    AllReadable runtime contents devices interfaces sessions where
  devices node isNode := by
    obtain ⟨state, -, built⟩ := exists_mem_of_forall₂ attributed.built isNode
    exact ⟨_, built.device⟩
  interfaces child member := by
    obtain ⟨node, isNode, own⟩ := (attributed.interfaces queried).exists_device member
    obtain ⟨state, -, built⟩ := exists_mem_of_forall₂ attributed.built isNode
    exact built.interfaces.exists_read own
  sessions child member := by
    obtain ⟨node, isNode, own⟩ := (attributed.sessions queried).exists_device member
    obtain ⟨state, -, built⟩ := exists_mem_of_forall₂ attributed.built isNode
    exact built.sessions.exists_read own

end Attributed

/--
All children are attributed, or the query is refused where they cannot be,
exactly when the query is refused or all its nodes can be read; a query that
finds no device asks for no children.
-/
theorem children_attributed_iff
    (runtime : Runtime) (contents : Contents) (children : Kind → List String → List ChildNode)
    (devices : List Node) (distinct : (devices.map Node.id).Nodup) :
    ChildrenAttributed runtime contents children devices ↔
      devices = [] ∨
      Unattributable (devices.map Node.id)
        (children .interfacePhysical (devices.map Node.id) ++
          children .routingBGPSession (devices.map Node.id)) ∨
      AllReadable runtime contents devices
        (children .interfacePhysical (devices.map Node.id))
        (children .routingBGPSession (devices.map Node.id)) := by
  constructor
  · intro attributed
    by_cases queried : devices = []
    · exact Or.inl queried
    by_cases unattributable : Unattributable (devices.map Node.id)
        (children .interfacePhysical (devices.map Node.id) ++
          children .routingBGPSession (devices.map Node.id))
    · exact Or.inr (Or.inl unattributable)
    · obtain ⟨states, interfacesOf, sessionsOf, -, all⟩ := attributed.returned unattributable
      exact Or.inr (Or.inr (all.readable queried))
  · intro condition
    refine ⟨refused_iff, fun attributable => ?_⟩
    obtain ⟨states, returned⟩ :
        ∃ states, desiredStates runtime contents children devices = .ok states := by
      rcases condition with none | unattributable | readable
      · exact ⟨[], by rw [desiredStates, if_pos none]⟩
      · exact absurd unattributable attributable
      · exact exists_desiredStates attributable readable
    obtain ⟨interfacesOf, sessionsOf, all⟩ := allAttributed_of_desiredStates distinct returned
    exact ⟨states, interfacesOf, sessionsOf, returned, all⟩

/-- A node with an identifier and a name. -/
def namedNode (number : BitVec 128) (name : String) : Node where
  id := UUID.text ⟨number⟩
  attributes field :=
    if field ∈ ["name", "role", "use_case"] then .str name else .null
  relations _ := []

/-- An interface of the first device by its relation, and one of the second by its peer. -/
def portsOfTwo : Kind → List String → List ChildNode
  | .interfacePhysical, _ =>
      [⟨namedNode 11 "ethernet-1/1", some ⟨some (.text (UUID.text ⟨1⟩)), .raises⟩⟩,
        ⟨namedNode 12 "ethernet-1/2", some ⟨none, .found (some (.uuid ⟨2⟩))⟩⟩]
  | _, _ => []

/-- A session whose device cannot be resolved. -/
def lostSession : Kind → List String → List ChildNode
  | .routingBGPSession, _ => [⟨namedNode 13 "session", some ⟨none, .raises⟩⟩]
  | _, _ => []

theorem exists_of_toBool {Result : Type} {outcome : Except PyError Result}
    (succeeds : outcome.toBool = true) : ∃ result, outcome = .ok result := by
  rcases outcome with error | result
  · cases succeeds
  · exact ⟨result, rfl⟩

/-- Both ports are attributed, and the session is refused. -/
theorem portsOfTwo_attributed :
    ChildrenAttributed Runtime.ascii Contents.empty portsOfTwo
        [namedNode 1 "leaf-01", namedNode 2 "leaf-02"] ∧
      ChildrenAttributed Runtime.ascii Contents.empty lostSession
        [namedNode 1 "leaf-01", namedNode 2 "leaf-02"] := by
  have distinct : ([namedNode 1 "leaf-01", namedNode 2 "leaf-02"].map Node.id).Nodup := by
    decide +kernel
  constructor
  · apply (children_attributed_iff Runtime.ascii Contents.empty portsOfTwo _ distinct).2
    refine Or.inr (Or.inr ⟨?_, ?_, fun _ member => absurd member List.not_mem_nil⟩)
    · intro node member
      apply exists_of_toBool
      revert node
      decide +kernel
    · intro child member
      apply exists_of_toBool
      revert child
      decide +kernel
  · apply (children_attributed_iff Runtime.ascii Contents.empty lostSession _ distinct).2
    refine Or.inr (Or.inl ⟨by decide, _, List.mem_singleton_self _, ?_⟩)
    decide +kernel

/-- A device whose role is not set. -/
def rolelessNode : Node where
  id := UUID.text ⟨1⟩
  attributes field := if field ∈ ["name", "use_case"] then .str "leaf-01" else .null
  relations _ := []

/-- A device without a role and without children is neither refused nor returned. -/
theorem roleless_not_attributed :
    desiredStates Runtime.ascii Contents.empty (fun _ _ => []) [rolelessNode] =
        .error (.python .valueError) ∧
      ¬ ChildrenAttributed Runtime.ascii Contents.empty (fun _ _ => []) [rolelessNode] := by
  have raised : desiredStates Runtime.ascii Contents.empty (fun _ _ => []) [rolelessNode] =
      .error (.python .valueError) := by rfl
  refine ⟨raised, fun attributed => ?_⟩
  obtain ⟨states, -, -, returned, -⟩ := attributed.returned fun unattributable =>
    absurd unattributable.1 (lt_irrefl 1)
  rw [raised] at returned
  cases returned

end Snapl.Contract
