import Snapl.Contract.FetchedStates
import Snapl.Contract.SeedFaithfulness

/-!
# What was seeded is what is fetched

A dataset that settles is seeded, and desired states are fetched from the same
branch.  Every state then shows each record of the dataset about its device,
under the fields of its models; and of a device that had no interfaces or no
sessions before it shows no others.  Whatever else the branch holds may make the
fetch fail, but never a state that says less.
-/

namespace Snapl.Contract

open Snapl.Library Snapl.Intent Snapl.Intent.SeedIngester

/-! ## What a state shows -/

/-- The schema's constraint: no two devices have one name. -/
def NamedApart (contents : Contents) : Prop :=
  ((contents.nodes .dcimDevice).map fun node => node.attributes "name").Nodup

/-- No node of the kind is on the device. -/
def Vacant (runtime : Runtime) (contents : Contents) (kind : Kind) (device : UUID) : Prop :=
  ∀ node ∈ contents.nodes kind, ∀ id ∈ node.relations "device",
    runtime.readUuid id ≠ some device

/-- A query that asks for values asks for those of the item. -/
structure MatchesQuery (query : StateQuery) (item : Payload) : Prop where
  deviceId : query.deviceId = none
  useCase : ∀ value, query.useCase = some value → item.get? "use_case" = some (.str value)
  role : ∀ value, query.role = some value → item.get? "role" = some (.str value)
  name : ∀ value, query.name = some value → item.get? "name" = some (.str value)

/-- The state shows what the dataset says of its device, and nothing else that is new. -/
structure StateShows
    (runtime : Runtime) (dataset : Dataset) (before : Contents) (state : DesiredState) : Prop where
  device : ∀ item ∈ seededItems dataset .devices,
    item.get? "name" = some (.str state.device.name) → state.device.Shows runtime.text item
  interfaces : ∀ item ∈ seededItems dataset .interfaces,
    item.get? "device" = some (.str state.device.name) →
      ∃ interface ∈ state.interfaces, interface.Shows runtime.text item
  sessions : ∀ record ∈ seededEntries dataset .bgpSessions,
    record.get? "local_device" = some (.str state.device.name) →
      ∃ session ∈ state.bgpSessions, session.Shows runtime.text record
  noOtherInterface : Vacant runtime before .interfacePhysical state.device.id →
    ∀ interface ∈ state.interfaces, ∃ item ∈ seededItems dataset .interfaces,
      item.get? "device" = some (.str state.device.name) ∧ interface.Shows runtime.text item
  noOtherSession : Vacant runtime before .routingBGPSession state.device.id →
    ∀ session ∈ state.bgpSessions, ∃ record ∈ seededEntries dataset .bgpSessions,
      record.get? "local_device" = some (.str state.device.name) ∧
        session.Shows runtime.text record

/-! ## Children and their devices -/

section Children

variable {contents : Contents} {kind : Kind} {ids : List String} {device : String}

/-- What is placed on a device leads to it. -/
theorem leads_of_mem_share
    {child : ChildNode} (member : child ∈ shareOf (placedOn ids) (childrenOn contents kind ids)
      device) :
    child.node ∈ contents.nodes kind ∧ device ∈ child.node.relations "device" := by
  obtain ⟨inChildren, placed⟩ := mem_shareOf.1 member
  obtain ⟨node, matches', rfl⟩ := List.mem_map.1 inChildren
  obtain ⟨inNodes, passes⟩ := List.mem_filter.1 matches'
  refine ⟨inNodes, ?_⟩
  obtain ⟨named, queried⟩ := (placedOn_eq_some_iff _ _ _).1 placed
  by_cases single : ∃ only, ids = [only]
  · obtain ⟨only, rfl⟩ := single
    obtain rfl := List.mem_singleton.1 queried
    simpa [Filter.passes, ChildNode.ofNode] using passes
  · rw [placeOf_of_not_single fun only same => single ⟨only, same⟩, peerId_ofNode] at named
    exact List.mem_of_mem_head? named

/-- What leads to a queried device, and to nothing else, is placed on it. -/
theorem mem_share_of_leads
    {node : Node} (member : node ∈ contents.nodes kind)
    (leads : node.relations "device" = [device]) (queried : device ∈ ids) :
    ChildNode.ofNode node ∈ shareOf (placedOn ids) (childrenOn contents kind ids) device := by
  refine mem_shareOf.2 ⟨List.mem_map_of_mem (List.mem_filter.2 ⟨member, ?_⟩), ?_⟩
  · simpa [Filter.passes, leads] using queried
  · refine (placedOn_eq_some_iff _ _ _).2 ⟨?_, queried⟩
    by_cases single : ∃ only, ids = [only]
    · obtain ⟨only, rfl⟩ := single
      rw [List.mem_singleton.1 queried]
      rfl
    · rw [placeOf_of_not_single fun only same => single ⟨only, same⟩, peerId_ofNode, leads,
        List.head?_cons]

/-- The model of a child is among those that are stamped, and stamped models are of children. -/
theorem mem_models_iff
    {Model : Type} {read : Node → Except PyError Model} {deviceId : UUID}
    {children : List ChildNode} {models : List (Stamped Model)}
    (stamped : StampedFrom read deviceId children models) (model : Model) :
    model ∈ models.map Stamped.model ↔ ∃ child ∈ children, read child.node = .ok model := by
  constructor
  · intro member
    obtain ⟨own, isOwn, rfl⟩ := List.mem_map.1 member
    obtain ⟨child, isChild, -, reads⟩ := exists_mem_of_forall₂ stamped.flip isOwn
    exact ⟨child, isChild, reads⟩
  · rintro ⟨child, isChild, reads⟩
    obtain ⟨own, isOwn, -, same⟩ := exists_mem_of_forall₂ stamped isChild
    rw [reads, Except.ok.injEq] at same
    exact List.mem_map.2 ⟨own, isOwn, same.symm⟩

end Children

/-! ## Where nodes come from -/

section Origins

variable {client : InfrahubClient} {text : PyText} {order : SetOrder} {dataset : Dataset}
  {useCase : String} {sot after : Sot} {result : SeedResult}

/-- What is written of items and sessions is declared, under the same key. -/
theorem exists_declared
    {name : SectionName} (notGroups : name ≠ .bgpPeerGroups) {before : Contents}
    {record : Declaration} (member : record ∈ written text order dataset before name) :
    ∃ declaration ∈ declared text dataset name,
      (vocabulary name).key record = (vocabulary name).key declaration := by
  by_cases generic : name ∉ bgpSections
  · rw [written_of_generic generic] at member
    rw [declared_of_generic generic]
    obtain ⟨item, isItem, rfl⟩ := List.mem_map.1 member
    exact ⟨_, List.mem_map_of_mem isItem, key_declare generic _ _ item⟩
  · rcases List.mem_cons.1 (not_not.1 generic) with isGroups | isSessions
    · exact absurd isGroups notGroups
    · obtain rfl := List.mem_singleton.1 isSessions
      obtain ⟨session, isSession, rfl⟩ := List.mem_map.1 member
      exact ⟨_, List.mem_map_of_mem isSession, rfl⟩

/-- A node that is there after a seed led where it leads before, or some record speaks of it. -/
theorem origin_of_seed
    (settles : SettlesIn text order dataset (client.home sot))
    (ran : seed client text order useCase dataset client.defaultBranch sot = (.ok result, after))
    {name : SectionName} (notGroups : name ≠ .bgpPeerGroups) {node : Node}
    (member : node ∈ (client.home after).nodes (vocabulary name).sec.kind) :
    (∃ old ∈ (client.home sot).nodes (vocabulary name).sec.kind,
        node.relations = old.relations) ∨
      ∃ declaration ∈ declared text dataset name,
        (vocabulary name).subject (client.home after) declaration = some node := by
  obtain ⟨requests, served⟩ := served_of_seed (realisable_of_settles settles) ran name
  rcases served.serves.origin (id_write _)
      (fun _ _ made => Section.hits_of_made served.wellFormed.keyed made)
      (fun _ _ made => Section.write_of_made made) ((client.home after).distinct _) member with
    ⟨old, isOld, portion, rfl⟩ | ⟨request, isRequest, found⟩
  · exact Or.inl ⟨old, isOld, relations_writeAll _ portion old⟩
  · obtain ⟨record, isRecord, realises, keyed⟩ :=
      exists_mem_of_forall₂ served.realised.flip isRequest
    obtain ⟨declaration, isDeclared, sameKey⟩ := exists_declared notGroups isRecord
    refine Or.inr ⟨declaration, isDeclared, ?_⟩
    rw [← Vocabulary.subject_congr sameKey, ← served.find?_after realises keyed]
    exact found

/-- A seed makes no second device of a name. -/
theorem namedApart_of_seed
    (settles : SettlesIn text order dataset (client.home sot))
    (ran : seed client text order useCase dataset client.defaultBranch sot = (.ok result, after))
    (distinct : NamedApart (client.home sot)) : NamedApart (client.home after) := by
  obtain ⟨requests, served⟩ := served_of_seed (realisable_of_settles settles) ran .devices
  refine served.serves.nodup_map (fun node : Node => node.attributes "name") ?_ ?_ distinct
  · intro request node hit
    change (node.assignValues .dcimDevice request).attributes "name" = _
    rw [Node.assignValues_attributes, if_pos (by decide)]
    rcases given : request.get? "name" with _ | name
    · rfl
    · have named := (Section.hits_iff _ _ _).1 hit "name" List.mem_cons_self name given
      exact (of_decide_eq_true named).symm
  · rintro request node other ⟨-, id, -, rfl⟩ same
    apply (Section.hits_iff _ _ _).2
    intro key isKey value given
    obtain rfl := List.mem_singleton.1 isKey
    change other.attributes "name" = ((request.get? "name").getD _) at same
    rw [given, Option.getD_some] at same
    exact decide_eq_true same

end Origins

/-! ## States -/

section States

variable {runtime : Runtime} {dataset : Dataset} {before after : Contents}

/-- There is only one device of a name. -/
theorem eq_of_names
    (distinct : NamedApart after) {node other : Node}
    (member : node ∈ after.nodes .dcimDevice) (otherMember : other ∈ after.nodes .dcimDevice)
    (same : node.attributes "name" = other.attributes "name") : node = other :=
  List.inj_on_of_nodup_map distinct member otherMember same

/-- The node of an item that is no BGP record has the values the item gives. -/
theorem values_of_item
    (faithful : Faithful runtime.text dataset after) {name : SectionName}
    (generic : name ∉ bgpSections) {item : Payload} (member : item ∈ seededItems dataset name) :
    ∃ node ∈ after.nodes (sections name).kind,
      (vocabulary name).subject after ((sections name).declare Json.truthy item) = some node ∧
      (∀ field ∉ (sections name).peerFields, ∀ value, item.get? field = some value →
        node.attributes field = value) ∧
      ∀ field peer, (sections name).peersOf Json.truthy item field = some peer →
        ∃ rel, (sections name).targets.lookup field = some rel ∧
          rel.Leads after node field peer := by
  obtain ⟨node, isSubject, values, peers⟩ := faithful name
    ((sections name).declare Json.truthy item) (by
      rw [declared_of_generic generic]
      exact List.mem_map_of_mem member)
  refine ⟨node, ?_, isSubject, ?_, ?_⟩
  · rw [vocabulary_of_generic generic] at isSubject
    exact List.mem_of_find?_eq_some isSubject
  · intro field isValue value given
    refine (values field value ?_).2
    rw [Section.declare]
    exact (if_neg isValue).trans given
  · intro field peer named
    obtain ⟨rel, target, leads⟩ := peers field peer named
    rw [vocabulary_of_generic generic] at target
    exact ⟨rel, target, leads⟩

/--
A node stands for a record: it is on the device the record names, and a model
read from it shows the record.
-/
structure StandsFor
    {Model : Type} (contents : Contents) (read : Node → Except PyError Model)
    (shows : Payload → Model → Prop) (deviceOf : Payload → Option Json) (record : Payload)
    (child : Node) : Prop where
  placed : ∃ device ∈ contents.nodes .dcimDevice,
    child.relations "device" = [device.id] ∧ deviceOf record = some (device.attributes "name")
  shown : ∀ model, read child = .ok model → shows record model

/-- Every record has a node, and every node stands for a record or is where one was before. -/
structure StoodFor
    {Model : Type} (before after : Contents) (kind : Kind)
    (read : Node → Except PyError Model) (shows : Payload → Model → Prop)
    (deviceOf : Payload → Option Json) (records : List Payload) : Prop where
  standing : ∀ record ∈ records, ∃ child ∈ after.nodes kind,
    StandsFor after read shows deviceOf record child
  origin : ∀ child ∈ after.nodes kind,
    (∃ old ∈ before.nodes kind, child.relations = old.relations) ∨
      ∃ record ∈ records, StandsFor after read shows deviceOf record child

/-- The interface an item speaks of stands for it. -/
theorem interface_of_item
    (faithful : Faithful runtime.text dataset after) {item : Payload}
    (member : item ∈ seededItems dataset .interfaces) :
    ∃ child ∈ after.nodes .interfacePhysical,
      (vocabulary .interfaces).subject after ((sections .interfaces).declare Json.truthy item) =
        some child ∧
      StandsFor after (nodeToInterface runtime after) (fun item interface =>
        interface.Shows runtime.text item) (fun item => item.get? "device") item child := by
  have keyed := (faithful .interfaces ((sections .interfaces).declare Json.truthy item)
    (List.mem_map_of_mem member)).keyed
  obtain ⟨name, named⟩ : ∃ name, item.get? "device" = some name :=
    keyed.peers (by decide : "device" ∈ (vocabulary .interfaces).sec.lookup) (by decide)
  obtain ⟨child, isNode, isSubject, values, peers⟩ :=
    values_of_item faithful (by decide : SectionName.interfaces ∉ bgpSections) member
  refine ⟨child, isNode, isSubject, ?_, ?_⟩
  · obtain ⟨rel, target, device, isDevice, leads, isName⟩ := peers "device" name named
    cases target
    exact ⟨device, isDevice, leads, named.trans (congrArg some isName.symm)⟩
  · intro interface read
    refine shows_of_nodeToInterface ?_ ?_ read
    · intro field isField
      refine values field ?_
      revert field
      decide
    · intro value given
      obtain ⟨rel, target, leads⟩ := peers "ip_addresses" value given
      cases target
      exact leads

/-- The session a record speaks of stands for it, if the record names a device. -/
theorem session_of_record
    (faithful : Faithful runtime.text dataset after) {record : Payload}
    (member : record ∈ seededEntries dataset .bgpSessions) {name : Json}
    (named : record.get? "local_device" = some name) :
    ∃ child ∈ after.nodes .routingBGPSession,
      (vocabulary .bgpSessions).subject after (declareSession runtime.text record) =
        some child ∧
      StandsFor after (nodeToBgpSession runtime after) (fun record session =>
        session.Shows runtime.text record) (fun record => record.get? "local_device") record
        child := by
  obtain ⟨child, isSubject, values, peers⟩ := faithful .bgpSessions
    (declareSession runtime.text record) (List.mem_map_of_mem member)
  refine ⟨child, List.mem_of_find?_eq_some isSubject, isSubject, ?_, ?_⟩
  · obtain ⟨rel, target, device, isDevice, leads, isName⟩ := peers "device" name named
    cases target
    exact ⟨device, isDevice, leads, named.trans (congrArg some isName.symm)⟩
  · intro session read
    refine shows_of_nodeToBgpSession ?_ peers read
    intro value given
    refine (values "status" value ?_).2
    rw [declareSession]
    dsimp only
    rw [if_neg (by decide), given]

/-- What stands for a record is shown among the models placed on the device it names. -/
theorem exists_shown
    {Model : Type} {kind : Kind} {read : Node → Except PyError Model}
    {shows : Payload → Model → Prop} {deviceOf : Payload → Option Json} {record : Payload}
    {ids : List String} {child : Node} (stands : StandsFor after read shows deviceOf record child)
    (isChild : child ∈ after.nodes kind) :
    ∃ node ∈ after.nodes .dcimDevice, deviceOf record = some (node.attributes "name") ∧
      (node.id ∈ ids → ∀ deviceId models,
        StampedFrom read deviceId
          (shareOf (placedOn ids) (childrenOn after kind ids) node.id) models →
        ∃ model ∈ models.map Stamped.model, shows record model) := by
  obtain ⟨⟨device, isDevice, leads, ofDevice⟩, shown⟩ := stands
  refine ⟨device, isDevice, ofDevice, fun queried deviceId models stamped => ?_⟩
  obtain ⟨model, isModel, -, reads⟩ :=
    exists_mem_of_forall₂ stamped (mem_share_of_leads isChild leads queried)
  exact ⟨model.model, List.mem_map_of_mem isModel, shown model.model reads⟩

/-- The models placed on a device show its records, and no others if none was there before. -/
theorem StoodFor.models
    {Model : Type} {kind : Kind} {read : Node → Except PyError Model}
    {shows : Payload → Model → Prop} {deviceOf : Payload → Option Json}
    {records : List Payload}
    (stood : StoodFor before after kind read shows deviceOf records)
    (distinct : NamedApart after) {node : Node} (member : node ∈ after.nodes .dcimDevice)
    {device : Device} (named : nodeToDevice runtime node = .ok device) {ids : List String}
    (queried : node.id ∈ ids) {models : List (Stamped Model)}
    (stamped : StampedFrom read device.id
      (shareOf (placedOn ids) (childrenOn after kind ids) node.id) models) :
    (∀ record ∈ records, deviceOf record = some (.str device.name) →
      ∃ model ∈ models.map Stamped.model, shows record model) ∧
    (Vacant runtime before kind device.id → ∀ model ∈ models.map Stamped.model,
      ∃ record ∈ records, deviceOf record = some (.str device.name) ∧ shows record model) := by
  obtain ⟨isName, isId⟩ := named_of_nodeToDevice named
  constructor
  · intro record isRecord ofDevice
    obtain ⟨child, isChild, stands⟩ := stood.standing record isRecord
    obtain ⟨other, isDevice, ofOther, shown⟩ := exists_shown stands isChild
    have same : other = node := by
      apply eq_of_names distinct isDevice member
      rw [isName, ← Option.some.injEq, ← ofOther, ofDevice]
    subst same
    exact shown queried device.id models stamped
  · intro vacant model isModel
    obtain ⟨child, inShare, reads⟩ := (mem_models_iff stamped model).1 isModel
    obtain ⟨isChild, leads⟩ := leads_of_mem_share inShare
    rcases stood.origin child.node isChild with
      ⟨old, isOld, same⟩ | ⟨record, isRecord, ⟨other, isDevice, only, ofOther⟩, shown⟩
    · rw [same] at leads
      exact absurd isId (vacant old isOld node.id leads)
    · rw [only] at leads
      have same : node = other :=
        List.inj_on_of_nodup_map (after.distinct .dcimDevice) member isDevice
          (List.mem_singleton.1 leads)
      rw [← same, isName] at ofOther
      exact ⟨record, isRecord, ofOther, shown model reads⟩

end States

/-! ## After a seed -/

section Seeded

variable {store : InfrahubIntentStore} {runtime : Runtime} {dataset : Dataset}
  {useCase : String} {sot after : Sot} {result : SeedResult}

/-- A session without a device fails the seed. -/
theorem located_of_seedSessions
    {client : InfrahubClient} {vrfId : String} {ids : ShadowIds} {entries : List Payload}
    {start stop : Sot}
    (ran : seedSessions client client.defaultBranch vrfId ids entries start = (.ok (), stop)) :
    ∀ session ∈ entries, ∃ device, session.get? "local_device" = some device := by
  obtain ⟨-, requests, reads, -⟩ := seedSessions_serves (List.nil_subset _) ran
  intro session member
  obtain ⟨request, -, read⟩ := exists_mem_of_forall₂ reads member
  obtain ⟨device, -, -, -, -, located, -⟩ := sessionIn_eq_ok_iff.1 read
  exact ⟨device, required_eq_ok located⟩

theorem located_of_seed
    {client : InfrahubClient} {text : PyText} {order : SetOrder}
    (ran : seed client text order useCase dataset client.defaultBranch sot = (.ok result, after))
    {session : Payload} (member : session ∈ seededEntries dataset .bgpSessions) :
    ∃ device, session.get? "local_device" = some device := by
  obtain ⟨-, -, records, middle, -, -, bgp⟩ := seed_eq_ok ran
  rcases present : dataset .bgpSessions with _ | sessions
  · rw [seededEntries_of_absent present] at member
    cases member
  have nonempty : (bgpSections.filterMap dataset).isEmpty = false := by
    rw [List.isEmpty_eq_false_iff_exists_mem]
    exact ⟨sessions, List.mem_filterMap.2 ⟨.bgpSessions, by decide, present⟩⟩
  rw [seedBgp, nonempty, if_neg Bool.false_ne_true, Program.bind_eq_ok_iff] at bgp
  obtain ⟨vrfId, start, -, bgp⟩ := bgp
  rw [Program.bind_eq_ok_iff] at bgp
  obtain ⟨shadows, grouped, -, bgp⟩ := bgp
  rw [Program.bind_eq_ok_iff] at bgp
  obtain ⟨count, last, seeded, -⟩ := bgp
  rw [seedSessionSection, present] at seeded
  dsimp only at seeded
  rw [seedBgpSessions, Program.bind_eq_ok_iff] at seeded
  obtain ⟨entries, start, computesEntries, seeded⟩ := seeded
  obtain ⟨entriesOk, rfl⟩ := compute_eq_ok_iff.1 computesEntries
  rw [Program.bind_eq_ok_iff] at seeded
  obtain ⟨_, stop, each, -⟩ := seeded
  rw [seededEntries, present, Option.map_some, entriesOk] at member
  exact located_of_seedSessions each session member

variable
  (settles : SettlesIn runtime.text runtime.order dataset (store.client.home sot))
  (ran : seed store.client runtime.text runtime.order useCase dataset store.client.defaultBranch
    sot = (.ok result, after))

include settles ran

theorem stoodFor_interfaces :
    StoodFor (store.client.home sot) (store.client.home after) .interfacePhysical
      (nodeToInterface runtime (store.client.home after))
      (fun item interface => interface.Shows runtime.text item) (fun item => item.get? "device")
      (seededItems dataset .interfaces) := by
  have faithful := faithful_of_settles ran settles
  constructor
  · intro item member
    obtain ⟨child, isNode, -, stands⟩ := interface_of_item faithful member
    exact ⟨child, isNode, stands⟩
  · intro child isNode
    rcases origin_of_seed settles ran (by decide : SectionName.interfaces ≠ .bgpPeerGroups)
      isNode with old | ⟨declaration, isDeclared, isSubject⟩
    · exact Or.inl old
    · obtain ⟨item, member, rfl⟩ := List.mem_map.1 isDeclared
      obtain ⟨other, -, otherSubject, stands⟩ := interface_of_item faithful member
      obtain rfl := Option.some.inj (otherSubject.symm.trans isSubject)
      exact Or.inr ⟨item, member, stands⟩

theorem stoodFor_sessions :
    StoodFor (store.client.home sot) (store.client.home after) .routingBGPSession
      (nodeToBgpSession runtime (store.client.home after))
      (fun record session => session.Shows runtime.text record)
      (fun record => record.get? "local_device") (seededEntries dataset .bgpSessions) := by
  have faithful := faithful_of_settles ran settles
  constructor
  · intro record member
    obtain ⟨name, named⟩ := located_of_seed ran member
    obtain ⟨child, isNode, -, stands⟩ := session_of_record faithful member named
    exact ⟨child, isNode, stands⟩
  · intro child isNode
    rcases origin_of_seed settles ran (by decide : SectionName.bgpSessions ≠ .bgpPeerGroups)
      isNode with old | ⟨declaration, isDeclared, isSubject⟩
    · exact Or.inl old
    · obtain ⟨record, member, rfl⟩ := List.mem_map.1 isDeclared
      obtain ⟨name, named⟩ := located_of_seed ran member
      obtain ⟨other, -, otherSubject, stands⟩ := session_of_record faithful member named
      obtain rfl := Option.some.inj (otherSubject.symm.trans isSubject)
      exact Or.inr ⟨record, member, stands⟩

/-- The state built of a device shows what the dataset says of it. -/
theorem stateShows_of_built
    (distinct : NamedApart (store.client.home sot)) {node : Node}
    (member : node ∈ (store.client.home after).nodes .dcimDevice) {ids : List String}
    (queried : node.id ∈ ids) {state : StampedState}
    (built : BuiltFrom runtime (store.client.home after) node
      (shareOf (placedOn ids) (childrenOn (store.client.home after) .interfacePhysical ids)
        node.id)
      (shareOf (placedOn ids) (childrenOn (store.client.home after) .routingBGPSession ids)
        node.id) state) :
    StateShows runtime dataset (store.client.home sot) state.unstamped := by
  have faithful := faithful_of_settles ran settles
  have apart := namedApart_of_seed settles ran distinct
  obtain ⟨isName, -⟩ := named_of_nodeToDevice built.device
  obtain ⟨interfaces, noOthers⟩ :=
    (stoodFor_interfaces settles ran).models apart member built.device queried built.interfaces
  obtain ⟨sessions, noOtherSessions⟩ :=
    (stoodFor_sessions settles ran).models apart member built.device queried built.sessions
  refine ⟨?_, interfaces, sessions, noOthers, noOtherSessions⟩
  intro item isItem named
  obtain ⟨other, isNode, -, values, -⟩ :=
    values_of_item faithful (by decide : SectionName.devices ∉ bgpSections) isItem
  have same : other = node := by
    apply eq_of_names apart isNode member
    rw [isName]
    exact values "name" (by decide) _ named
  subst same
  refine shows_of_nodeToDevice ?_ built.device
  intro field isField
  refine values field ?_
  revert field
  decide

end Seeded

/-- A device whose item has the values a query asks for is found by the query. -/
theorem mem_matching_of_answers
    {query : StateQuery} {item : Payload} (answers : MatchesQuery query item) {contents : Contents}
    {node : Node} (member : node ∈ contents.nodes .dcimDevice)
    (values : ∀ field ∈ ["use_case", "role", "name"], ∀ value, item.get? field = some value →
      node.attributes field = value) :
    node ∈ contents.matching .dcimDevice query.filters := by
  refine List.mem_filter.2 ⟨member, List.all_eq_true.2 ?_⟩
  intro filter isFilter
  simp only [StateQuery.filters, answers.deviceId, List.mem_append, Option.mem_toList,
    Option.map_eq_some_iff, Option.map_none, Option.toList_none, List.nil_append] at isFilter
  rcases isFilter with (⟨value, asked, rfl⟩ | ⟨value, asked, rfl⟩) | ⟨value, asked, rfl⟩
  · exact decide_eq_true (values "use_case" (by simp) _ (answers.useCase value asked))
  · exact decide_eq_true (values "role" (by simp) _ (answers.role value asked))
  · exact decide_eq_true (values "name" (by simp) _ (answers.name value asked))

section Fetched

variable {store : InfrahubIntentStore} {runtime : Runtime} {useCase : String} {dataset : Dataset}
  {branch : Option String} {sot after : Sot} {result : SeedResult} {query : StateQuery}
  {states : List DesiredState}
  (home : store.resolvedBranch branch = store.client.defaultBranch)
  (settles : SettlesIn runtime.text runtime.order dataset (store.client.home sot))
  (seeded : store.seed runtime useCase dataset branch sot = (.ok result, after))
  (fetched : Program.ending (store.getDesiredState runtime query branch) after = .ok states)

include home settles seeded fetched

/-- A state fetched after a seed shows what the dataset says of its device. -/
theorem stateShows_of_fetched
    (distinct : NamedApart (store.client.home sot)) {state : DesiredState}
    (isState : state ∈ states) :
    StateShows runtime dataset (store.client.home sot) state := by
  rw [InfrahubIntentStore.seed, home] at seeded
  have built := built_of_fetched fetched
  rw [home] at built
  obtain ⟨node, isFound, own, rfl, ofNode⟩ := exists_mem_of_forall₂ built.flip isState
  exact stateShows_of_built settles seeded distinct (List.mem_of_mem_filter isFound)
    (List.mem_map_of_mem isFound) ofNode

/-- A device whose item answers the query has a state. -/
theorem exists_state_of_answers
    {item : Payload} (member : item ∈ seededItems dataset .devices)
    (answers : MatchesQuery query item) :
    ∃ state ∈ states, item.get? "name" = some (.str state.device.name) := by
  rw [InfrahubIntentStore.seed, home] at seeded
  have faithful := faithful_of_settles seeded settles
  obtain ⟨node, isNode, -, values, -⟩ :=
    values_of_item faithful (by decide : SectionName.devices ∉ bgpSections) member
  have isFound : node ∈ (store.client.home after).matching .dcimDevice query.filters := by
    refine mem_matching_of_answers answers isNode ?_
    intro field isField
    refine values field ?_
    revert field
    decide
  have built := built_of_fetched fetched
  rw [home] at built
  obtain ⟨state, isState, own, rfl, ofNode⟩ := exists_mem_of_forall₂ built isFound
  refine ⟨own.unstamped, isState, ?_⟩
  obtain ⟨isName, -⟩ := named_of_nodeToDevice ofNode.device
  have keyed := (faithful .devices ((sections .devices).declare Json.truthy item)
    (List.mem_map_of_mem member)).keyed
  obtain ⟨name, given⟩ : ∃ name, item.get? "name" = some name :=
    keyed.values (by decide : "name" ∈ (vocabulary .devices).sec.lookup) (by decide)
  rw [given, ← values "name" (by decide) name given, isName]
  rfl

end Fetched

/--
The states fetched after a seed show everything the dataset says of their
devices, and the devices it declares are among those a query for their values
returns.
-/
theorem seeded_states_shown
    (store : InfrahubIntentStore) (runtime : Runtime) {useCase : String} {dataset : Dataset}
    {branch : Option String} (home : store.resolvedBranch branch = store.client.defaultBranch)
    {sot after : Sot} {result : SeedResult}
    (distinct : NamedApart (store.client.home sot))
    (settles : SettlesIn runtime.text runtime.order dataset (store.client.home sot))
    (seeded : store.seed runtime useCase dataset branch sot = (.ok result, after))
    {query : StateQuery} {states : List DesiredState}
    (fetched : Program.ending (store.getDesiredState runtime query branch) after = .ok states) :
    (∀ state ∈ states, StateShows runtime dataset (store.client.home sot) state) ∧
    ∀ item ∈ seededItems dataset .devices, MatchesQuery query item →
      ∃ state ∈ states, item.get? "name" = some (.str state.device.name) :=
  ⟨fun _ isState => stateShows_of_fetched home settles seeded fetched distinct isState,
    fun _ member answers => exists_state_of_answers home settles seeded fetched member answers⟩

/-! ## The lab, fetched -/

def labStore : InfrahubIntentStore := ⟨labClient, "main"⟩

/-- The identifiers of the lab are told by their lengths. -/
def labRuntime : Runtime where
  text := .ascii
  order := insertionOrder
  readUuid id := some ⟨BitVec.ofNat 128 id.length⟩

/-- The state of the lab's spine, with its session and the spine's copy of the peer group. -/
def spineState : DesiredState where
  device := ⟨⟨9⟩, "spine", "10.0.0.1", "dcfabric", none⟩
  interfaces := [⟨"ethernet-1/1", none, some "10.10.1.0", some 31, true, none⟩]
  bgpSessions := [⟨65000, "10.10.1.1", 65001, some "underlay@spine", "ipv4_unicast", true⟩]

def leafState : DesiredState where
  device := ⟨⟨11⟩, "leaf", "10.0.0.2", "dcfabric", none⟩
  interfaces := [⟨"ethernet-1/1", none, some "10.10.1.1", some 31, true, none⟩]
  bgpSessions := []

theorem labFetch_ok :
    Program.ending (labStore.getDesiredState labRuntime { useCase := some "dcfabric" } none)
      pairSeed.2 = .ok [spineState, leafState] := by
  decide +kernel

theorem namedApart_bare : NamedApart bareContents := List.nodup_nil

theorem lab_seeded :
    labStore.seed labRuntime "dcfabric" pairDataset none (fun _ => bareContents) =
      (.ok ⟨"dcfabric", 2, 0, 11, "main"⟩, pairSeed.2) := by
  have same : labStore.seed labRuntime "dcfabric" pairDataset none (fun _ => bareContents) =
      pairSeed := rfl
  rw [same, ← pairSeed_ok]

/-- The spine's state shows the dataset, its session with the leaf included. -/
theorem lab_state_shown :
    StateShows labRuntime pairDataset bareContents spineState ∧
      (∃ item ∈ seededItems pairDataset .interfaces, Interface.Shows PyText.ascii item
        ⟨"ethernet-1/1", none, some "10.10.1.0", some 31, true, none⟩) ∧
      BGPSession.Shows PyText.ascii pairSession
        ⟨65000, "10.10.1.1", 65001, some "underlay@spine", "ipv4_unicast", true⟩ := by
  have shows : StateShows labRuntime pairDataset bareContents spineState :=
    (@seeded_states_shown labStore labRuntime "dcfabric" pairDataset none rfl
      (fun _ => bareContents) pairSeed.2 _ namedApart_bare settlesIn_pair lab_seeded _
      [spineState, leafState] labFetch_ok).1 spineState List.mem_cons_self
  refine ⟨shows, ?_, ?_⟩
  · obtain ⟨item, member, -, shown⟩ := shows.noOtherInterface nofun _ List.mem_cons_self
    exact ⟨item, member, shown⟩
  · obtain ⟨session, isSession, shown⟩ := shows.sessions pairSession List.mem_cons_self rfl
    obtain rfl := List.mem_singleton.1 isSession
    exact shown

end Snapl.Contract
