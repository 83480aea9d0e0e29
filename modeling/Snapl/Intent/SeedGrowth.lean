import Snapl.Intent.SeedDeclarations
import Snapl.Library.Evolution

/-!
# What a seed leaves of a Source of Truth

A seed adds nodes and assigns values.  However it ends, every node keeps its place,
its identifier and what its relationships lead to; branches other than the default
one and the one that is seeded are left alone.  Where the relationships that the seed
wires lead to nodes of the right kind before a step, they do after it, those of the
nodes it adds included: the identifiers it puts there are ones it has read.
-/

namespace Snapl.Intent

open Snapl.Library SeedIngester

/-! ## Wired relationships -/

/-- The kind of node a relationship the seed wires leads to. -/
def Kind.wired? : Kind → String → Option Kind
  | .dcimDeviceType, "manufacturer" => some .organizationManufacturer
  | .routingAutonomousSystem, "organization" => some .organizationProvider
  | .ipamVRF, "namespace" => some .ipamNamespace
  | .ipamPrefix, "ip_namespace" => some .ipamNamespace
  | .ipamIPAddress, "ip_namespace" => some .ipamNamespace
  | .dcimDevice, "device_type" => some .dcimDeviceType
  | .dcimDevice, "platform" => some .dcimPlatform
  | .dcimDevice, "location" => some .locationSite
  | .dcimDevice, "asn" => some .routingAutonomousSystem
  | .dcimDevice, "primary_address" => some .ipamIPAddress
  | .interfacePhysical, "device" => some .dcimDevice
  | .interfacePhysical, "ip_addresses" => some .ipamIPAddress
  | .routingBGPPeerGroup, "device" => some .dcimDevice
  | .routingBGPPeerGroup, "vrf" => some .ipamVRF
  | .routingBGPSession, "device" => some .dcimDevice
  | .routingBGPSession, "vrf" => some .ipamVRF
  | .routingBGPSession, "local_as" => some .routingAutonomousSystem
  | .routingBGPSession, "remote_as" => some .routingAutonomousSystem
  | .routingBGPSession, "local_ip" => some .ipamIPAddress
  | .routingBGPSession, "remote_ip" => some .ipamIPAddress
  | .routingBGPSession, "peer_group" => some .routingBGPPeerGroup
  | _, _ => none

/-- The relationships to addresses that a section wires for its items. -/
def Section.addressLinks (sec : Section) : List String :=
  (if sec.ipField.isSome then ["ip_addresses"] else []) ++
    if sec.primaryAddressField.isSome then ["primary_address"] else []

/-- The relationships of a section are wired to the kinds it looks their peers up in. -/
structure Section.Wires (sec : Section) : Prop where
  peers : ∀ entry ∈ sec.relationships, sec.kind.wired? entry.1 = some entry.2.peerKind
  namespaces : ∀ field, sec.namespaceField = some field →
    sec.kind.wired? field = some .ipamNamespace
  addresses : sec.ipField.isSome = true → sec.kind.wired? "ip_addresses" = some .ipamIPAddress
  primary : sec.primaryAddressField.isSome = true →
    sec.kind.wired? "primary_address" = some .ipamIPAddress
  complete : ∀ field peer, sec.kind.wired? field = some peer →
    field ∈ sec.relationships.map Prod.fst ∨ sec.namespaceField = some field ∨
      field ∈ sec.addressLinks

theorem wires_sections {name : SectionName} (generic : name ∉ bgpSections) :
    (sections name).Wires := by
  constructor
  · cases name <;> simp [sections, Kind.wired?]
  · cases name <;> simp [sections, Kind.wired?]
  · cases name <;> simp [sections, Kind.wired?]
  · cases name <;> simp [sections, Kind.wired?]
  · intro field peer wired
    cases name with
    | bgpPeerGroups => exact absurd List.mem_cons_self generic
    | bgpSessions => exact absurd (List.mem_cons_of_mem _ List.mem_cons_self) generic
    | _ =>
        rw [sections] at wired ⊢
        unfold Kind.wired? at wired
        split at wired <;> simp_all [Section.addressLinks]

/-- The branches a seed of a branch works on. -/
def Seeded (client : InfrahubClient) (branch home : String) : Prop :=
  home = client.defaultBranch ∨ home = branch

/-- A node of a kind has the identifier, on the default branch or on the one that is seeded. -/
def KnownNode (client : InfrahubClient) (branch : String) (kind : Kind) (id : String) (sot : Sot) :
    Prop :=
  ∃ home, Seeded client branch home ∧ ∃ node ∈ (sot home).nodes kind, node.id = id

/-- Every wired relationship of a node leads to nodes of its kind. -/
def Linked (client : InfrahubClient) (branch : String) (sot : Sot) : Prop :=
  ∀ home, Seeded client branch home → ∀ kind, ∀ node ∈ (sot home).nodes kind,
    ∀ field peer, kind.wired? field = some peer →
      ∀ id ∈ node.relations field, KnownNode client branch peer id sot

/-! ## Growth -/

/-- What no value assigned to a node changes. -/
def Node.bones (node : Node) : String × (String → List String) := (node.id, node.relations)

/-- The nodes of a kind on a branch, without their values. -/
def bonesOf (sot : Sot) (home : String) (kind : Kind) : List (String × (String → List String)) :=
  ((sot home).nodes kind).map Node.bones

/-- A step that only adds nodes, and only on the branch that is seeded. -/
structure Grows (client : InfrahubClient) (branch : String) (before after : Sot) : Prop where
  others : ∀ other, ¬Seeded client branch other → after other = before other
  added : ∀ home kind, bonesOf before home kind <+: bonesOf after home kind
  same : ∀ home kind, home ≠ branch → bonesOf after home kind = bonesOf before home kind

/-- A step that only adds nodes, and leaves no wired relationship without its node. -/
def Advances (client : InfrahubClient) (branch : String) (before after : Sot) : Prop :=
  Grows client branch before after ∧ (Linked client branch before → Linked client branch after)

variable {client : InfrahubClient} {branch : String}

theorem Grows.refl (sot : Sot) : Grows client branch sot sot :=
  ⟨fun _ _ => rfl, fun _ _ => List.prefix_refl _, fun _ _ _ => rfl⟩

theorem Grows.trans {before middle after : Sot} (first : Grows client branch before middle)
    (second : Grows client branch middle after) : Grows client branch before after where
  others other outside := (second.others other outside).trans (first.others other outside)
  added home kind := (first.added home kind).trans (second.added home kind)
  same home kind elsewhere :=
    (second.same home kind elsewhere).trans (first.same home kind elsewhere)

instance : Std.Refl (Advances client branch) := ⟨fun sot => ⟨Grows.refl sot, id⟩⟩

instance : IsTrans Sot (Advances client branch) := ⟨fun _ _ _ first second =>
  ⟨first.1.trans second.1, fun linked => second.2 (first.2 linked)⟩⟩

theorem mem_bonesOf {sot : Sot} {home : String} {kind : Kind}
    {bones : String × (String → List String)} :
    bones ∈ bonesOf sot home kind ↔ ∃ node ∈ (sot home).nodes kind, node.bones = bones :=
  List.mem_map

/-- What is known stays known. -/
theorem KnownNode.grows
    {kind : Kind} {id : String} {before after : Sot}
    (known : KnownNode client branch kind id before)
    (grows : Grows client branch before after) : KnownNode client branch kind id after := by
  obtain ⟨home, seeded, node, member, rfl⟩ := known
  have kept : node.bones ∈ bonesOf after home kind :=
    (grows.added home kind).subset (List.mem_map_of_mem member)
  obtain ⟨other, otherMember, same⟩ := mem_bonesOf.1 kept
  exact ⟨home, seeded, other, otherMember, congrArg Prod.fst same⟩

theorem stable_known (kind : Kind) (id : String) :
    Program.Stable (Advances client branch) (KnownNode client branch kind id) :=
  fun _ _ moved known => known.grows moved.1

/-! ## Payloads -/

/-- The wired relationships of a payload lead to nodes, those still to be resolved apart. -/
def Refers (client : InfrahubClient) (branch : String) (kind : Kind) (pending : List String)
    (payload : Payload) (sot : Sot) : Prop :=
  ∀ field peer, kind.wired? field = some peer → field ∉ pending →
    ∀ value, payload.get? field = some value → ∀ id ∈ peerIds value,
      KnownNode client branch peer id sot

theorem stable_refers (kind : Kind) (pending : List String) (payload : Payload) :
    Program.Stable (Advances client branch) (Refers client branch kind pending payload) := by
  intro before after moved refers field peer wired resolved value present id member
  exact stable_known peer id before after moved
    (refers field peer wired resolved value present id member)

section

variable {kind : Kind} {pending : List String} {payload : Payload} {sot : Sot}

/-- A field that is absent needs no resolving. -/
theorem Refers.absent
    {field : String} (refers : Refers client branch kind (field :: pending) payload sot)
    (absent : payload.get? field = none) : Refers client branch kind pending payload sot := by
  intro other peer wired resolved value present
  refine refers other peer wired ?_ value present
  rw [List.mem_cons, not_or]
  refine ⟨?_, resolved⟩
  rintro rfl
  rw [absent] at present
  cases present

/-- The less is pending, the more is known. -/
theorem Refers.mono
    {more : List String} (refers : Refers client branch kind pending payload sot)
    (subset : pending ⊆ more) : Refers client branch kind more payload sot :=
  fun field peer wired resolved => refers field peer wired fun member => resolved (subset member)

theorem Refers.erase
    {field : String} (refers : Refers client branch kind pending payload sot) :
    Refers client branch kind pending (payload.erase field) sot := by
  intro other peer wired resolved value present
  rw [Dict.get?_eq_some_iff, Dict.erase] at present
  exact refers other peer wired resolved value
    ((Dict.get?_eq_some_iff _ _ _).2 (List.mem_of_mem_filter present))

end

/-! ## Payloads built from fields -/

section

variable {kind : Kind} {sot : Sot}

/-- A field leads nowhere, or to nodes that are known. -/
def FieldKnown (client : InfrahubClient) (branch : String) (kind : Kind) (field : String)
    (value : Json) (sot : Sot) : Prop :=
  ∀ peer, kind.wired? field = some peer → ∀ id ∈ peerIds value, KnownNode client branch peer id sot

theorem fieldKnown_unwired {field : String} (unwired : kind.wired? field = none) (value : Json) :
    FieldKnown client branch kind field value sot := by
  intro peer wired
  rw [unwired] at wired
  cases wired

theorem fieldKnown_id
    {field id : String} {peer : Kind} (wired : kind.wired? field = some peer)
    (known : KnownNode client branch peer id sot) :
    FieldKnown client branch kind field (.str id) sot := by
  intro other same found member
  rw [wired] at same
  obtain rfl := Option.some.inj same
  rw [List.mem_singleton.1 member]
  exact known

theorem refers_ofPairs
    {pairs : List (String × Json)}
    (known : ∀ pair ∈ pairs, FieldKnown client branch kind pair.1 pair.2 sot) :
    Refers client branch kind [] (Dict.ofPairs pairs) sot := by
  intro field peer wired _ value present
  rcases Dict.mem_entries_update _ _ ((Dict.get?_eq_some_iff _ _ _).1 present) with pair | absent
  · exact known (field, value) pair peer wired
  · cases absent

/-- Setting a field resolves it when what it leads to is known. -/
theorem Refers.set
    {field : String} {value : Json} {pending : List String} {payload : Payload}
    (refers : Refers client branch kind (field :: pending) payload sot)
    (known : FieldKnown client branch kind field value sot) :
    Refers client branch kind pending (payload.set field value) sot := by
  intro other peer wired resolved found present id member
  by_cases same : other = field
  · subst same
    rw [Dict.get?_set_self] at present
    obtain rfl := Option.some.inj present
    exact known peer wired id member
  · rw [Dict.get?_set_of_ne _ _ same] at present
    refine refers other peer wired ?_ found present id member
    rw [List.mem_cons, not_or]
    exact ⟨same, resolved⟩

/-- A payload may be linked to a node that is known. -/
theorem Refers.link
    {field id : String} {peer : Kind} {payload : Payload}
    (refers : Refers client branch kind [] payload sot) (wired : kind.wired? field = some peer)
    (known : KnownNode client branch peer id sot) :
    Refers client branch kind [] (payload.set field (.str id)) sot :=
  (refers.mono (List.nil_subset [field])).set (fieldKnown_id wired known)

/-- Fields that are not wired may be copied from anywhere. -/
theorem Refers.copyFields
    {fields pending : List String} {payload : Payload}
    (refers : Refers client branch kind pending payload sot)
    (unwired : ∀ field ∈ fields, kind.wired? field = none) (record : Payload) :
    Refers client branch kind pending (SeedIngester.copyFields record fields payload) sot := by
  intro field peer wired resolved value present
  have outside : field ∉ fields := by
    intro member
    rw [unwired field member] at wired
    cases wired
  rw [copyFields_of_not_mem record outside] at present
  exact refers field peer wired resolved value present

end

/-! ## Steps on the Source of Truth -/

/-- Contents that keep their nodes but for values. -/
theorem advances_of_bones
    {before after : Sot}
    (others : ∀ other, ¬Seeded client branch other → after other = before other)
    (same : ∀ home kind, bonesOf after home kind = bonesOf before home kind) :
    Advances client branch before after := by
  have grows : Grows client branch before after :=
    ⟨others, fun home kind => by rw [same], fun home kind _ => same home kind⟩
  refine ⟨grows, ?_⟩
  intro linked home seeded kind node member field peer wired id related
  have kept : node.bones ∈ bonesOf before home kind := by
    rw [← same]
    exact List.mem_map_of_mem member
  obtain ⟨other, otherMember, sameBones⟩ := mem_bonesOf.1 kept
  obtain ⟨-, relations⟩ := Prod.mk.inj sameBones
  rw [← relations] at related
  exact (linked home seeded kind other otherMember field peer wired id related).grows grows

/-- Saving values of a node of the default branch. -/
theorem advances_put
    (sot : Sot) {kind : Kind} {node saved : Node} (member : node ∈ (client.home sot).nodes kind)
    (same : saved.bones = node.bones) :
    Advances client branch sot (Function.update sot client.defaultBranch
      ((client.home sot).put kind saved)) := by
  obtain ⟨ids, relations⟩ := Prod.mk.inj same
  apply advances_of_bones
  · intro other outside
    exact Function.update_of_ne (fun isHome => outside (Or.inl isHome)) _ _
  · intro home other
    rw [bonesOf, bonesOf]
    by_cases isHome : home = client.defaultBranch
    · subst isHome
      rw [Function.update_self]
      by_cases isKind : other = kind
      · subst isKind
        rw [Contents.nodes_put, List.map_map]
        apply List.map_congr_left
        intro present presentMember
        rw [Function.comp_apply]
        split_ifs with isSaved
        · have equal : present = node := by
            apply List.inj_on_of_nodup_map ((client.home sot).distinct other) presentMember member
            rw [isSaved, ids]
          rw [same, equal]
        · rfl
      · rw [Contents.nodes_put_of_ne _ _ isKind]
        rfl
    · rw [Function.update_of_ne isHome]

theorem grows_insert
    (sot : Sot) (kind : Kind) (node : Node) (fresh : node.id ∉ (sot branch).mentioned) :
    Grows client branch sot
      (Function.update sot branch ((sot branch).insert kind node fresh)) := by
  refine ⟨?_, ?_, ?_⟩
  · intro other outside
    exact Function.update_of_ne (fun isBranch => outside (Or.inr isBranch)) _ _
  · intro home other
    rw [bonesOf, bonesOf]
    by_cases isBranch : home = branch
    · subst isBranch
      rw [Function.update_self]
      by_cases isKind : other = kind
      · subst isKind
        rw [Contents.nodes_insert, List.map_append]
        exact List.prefix_append _ _
      · rw [Contents.nodes_insert_of_ne _ _ _ isKind]
    · rw [Function.update_of_ne isBranch]
  · intro home other elsewhere
    rw [bonesOf, bonesOf, Function.update_of_ne elsewhere]

/-- A node that is there after another was added was there before, or is the one added. -/
theorem mem_nodes_update_insert
    {sot : Sot} {kind other : Kind} {node present : Node} {home : String}
    {fresh : node.id ∉ (sot branch).mentioned}
    (member : present ∈
      (Function.update sot branch ((sot branch).insert kind node fresh) home).nodes other) :
    present ∈ (sot home).nodes other ∨ (other = kind ∧ present = node) := by
  by_cases isBranch : home = branch
  · subst isBranch
    rw [Function.update_self] at member
    by_cases isKind : other = kind
    · subst isKind
      rw [Contents.nodes_insert] at member
      rcases List.mem_append.1 member with earlier | new
      · exact Or.inl earlier
      · exact Or.inr ⟨rfl, List.mem_singleton.1 new⟩
    · rw [Contents.nodes_insert_of_ne _ _ _ isKind] at member
      exact Or.inl member
  · rw [Function.update_of_ne isBranch] at member
    exact Or.inl member

/-- Adding a node whose wired relationships lead to nodes that are known. -/
theorem advances_insert
    (sot : Sot) (kind : Kind) (node : Node) (fresh : node.id ∉ (sot branch).mentioned)
    (refers : ∀ field peer, kind.wired? field = some peer → ∀ id ∈ node.relations field,
      KnownNode client branch peer id sot) :
    Advances client branch sot
      (Function.update sot branch ((sot branch).insert kind node fresh)) := by
  have grows := @grows_insert client branch sot kind node fresh
  refine ⟨grows, ?_⟩
  intro linked home seeded other present member field peer wired id related
  rcases mem_nodes_update_insert member with earlier | ⟨rfl, rfl⟩
  · exact (linked home seeded other present earlier field peer wired id related).grows grows
  · exact (refers field peer wired id related).grows grows

theorem known_insert
    (sot : Sot) (kind : Kind) (node : Node) (fresh : node.id ∉ (sot branch).mentioned) :
    KnownNode client branch kind node.id
      (Function.update sot branch ((sot branch).insert kind node fresh)) := by
  refine ⟨branch, Or.inr rfl, node, ?_, rfl⟩
  rw [Function.update_self, Contents.nodes_insert]
  exact List.mem_append_right _ (List.mem_singleton_self node)

/-! ## Calls of the client -/

section

variable (client) (branch)

/-- A lookup returns nodes of the default branch, and changes nothing. -/
theorem moves_filters (kind : Kind) (filters : List Filter) (pre : Sot → Prop) :
    Program.Moves (Advances client branch) pre (client.filters kind filters none)
      fun results sot => (∀ fetched ∈ results, fetched.branch = client.defaultBranch ∧
        fetched.kind = kind ∧ fetched.node ∈ (client.home sot).nodes kind) ∧ pre sot := by
  apply Program.Moves.read
  intro sot holds
  refine ⟨fun fetched member => ?_, holds⟩
  obtain ⟨node, found, rfl⟩ := List.mem_map.1 member
  exact ⟨rfl, rfl, List.mem_of_mem_filter found⟩

/-- A new node is known once it is saved, if its payload refers to known nodes. -/
theorem moves_saveNew (kind : Kind) (payload : Payload) :
    Program.Moves (Advances client branch) (Refers client branch kind [] payload)
      (client.saveNew (client.create kind payload (some branch)))
      fun created => KnownNode client branch kind created.node.id := by
  intro sot refers
  have advances := @advances_insert client branch sot kind
    (Node.ofPayload kind payload (client.newId (sot branch).mentioned)) (client.newId_fresh _)
    (by
      intro field peer wired id related
      rw [Node.ofPayload] at related
      dsimp only at related
      split_ifs at related
      · cases present : payload.get? field with
        | none =>
            rw [present] at related
            exact absurd related List.not_mem_nil
        | some value =>
            rw [present] at related
            exact refers field peer wired List.not_mem_nil value present id related
      · exact absurd related List.not_mem_nil)
  refine ⟨advances, fun created ended => ?_⟩
  obtain rfl := Except.ok.inj ended
  exact known_insert sot kind _ (client.newId_fresh _)

/-- Values are saved to a node that was looked up. -/
theorem moves_save {kind : Kind} {fetched : FetchedNode} (payload : Payload)
    (isHome : fetched.branch = client.defaultBranch) (isKind : fetched.kind = kind) :
    Program.Moves (Advances client branch)
      (fun sot => fetched.node ∈ (client.home sot).nodes kind)
      (FetchedNode.save { fetched with node := fetched.node.assignValues kind payload })
      fun _ => KnownNode client branch kind fetched.node.id := by
  obtain ⟨home, other, node⟩ := fetched
  obtain rfl : home = client.defaultBranch := isHome
  obtain rfl : other = kind := isKind
  intro sot member
  have advances := @advances_put client branch sot other node (node.assignValues other payload)
    member (by rw [Node.bones, Node.bones, Node.assignValues_id, Node.assignValues_relations])
  have known : KnownNode client branch other node.id sot :=
    ⟨client.defaultBranch, Or.inl rfl, node, member, rfl⟩
  exact ⟨advances, fun _ _ => known.grows advances.1⟩

/-- An upsert ends with the identifier of a node that is known. -/
theorem moves_upsertNode (kind : Kind) (filters : List Filter) (payload : Payload) :
    Program.Moves (Advances client branch) (Refers client branch kind [] payload)
      (upsertNode client kind filters payload branch)
      fun outcome => KnownNode client branch kind outcome.1 := by
  apply (moves_filters client branch kind filters _).bind
  intro existing
  rcases existing with _ | ⟨found, rest⟩
  · refine ((moves_saveNew client branch kind payload).weaken (fun _ holds => holds.2)
      fun _ _ known => known).bind fun created => ?_
    exact Program.Moves.pure fun _ known => known
  · intro sot holds
    obtain ⟨isHome, isKind, member⟩ := holds.1 found List.mem_cons_self
    refine ((moves_save client branch payload isHome isKind).bind fun _ => ?_) sot member
    exact Program.Moves.pure fun _ known => known

end

end Snapl.Intent
