import Snapl.Intent.Seed
import Snapl.Library.Upsert

/-!
# Runs of the seed

What the parts of a seed do to the default branch of the client.  The items of
a section are served as upsert requests against the nodes of the section's
kind; the natural key of a request is among the fields it writes, so a write
never changes what a node is looked up by.
-/

namespace Snapl.Intent

open Snapl.Library

theorem Node.assignValue_attributes (kind : Kind) (node : Node) (field other : String)
    (value : Json) :
    (node.assignValue kind field value).attributes other =
      if other = field ∧ other ∈ kind.attributes then value else node.attributes other := by
  rw [Node.assignValue]
  by_cases known : field ∈ kind.attributes
  · rw [if_pos known]
    by_cases same : other = field
    · subst same
      rw [if_pos ⟨rfl, known⟩]
      exact Function.update_self other value node.attributes
    · rw [if_neg fun both => same both.1]
      exact Function.update_of_ne same value node.attributes
  · rw [if_neg known, if_neg]
    rintro ⟨rfl, known'⟩
    exact known known'

/-- After the loop an attribute has the value the payload gives it, if it gives one. -/
theorem Node.assignValues_attributes
    (kind : Kind) (node : Node) (payload : Payload) (field : String) :
    (node.assignValues kind payload).attributes field =
      if field ∈ kind.attributes then (payload.get? field).getD (node.attributes field)
      else node.attributes field := by
  obtain ⟨entries, distinct⟩ := payload
  rw [Node.assignValues, Dict.get?]
  induction entries generalizing node with
  | nil =>
      rw [List.foldl_nil, List.lookup_nil, Option.getD_none, ite_self]
  | cons entry rest induction =>
      obtain ⟨key, value⟩ := entry
      rw [List.map_cons, List.nodup_cons] at distinct
      have later := induction (node.assignValue kind key value) distinct.2
      rw [List.foldl_cons, later, Node.assignValue_attributes]
      by_cases known : field ∈ kind.attributes
      · rw [if_pos known, if_pos known]
        by_cases same : field = key
        · subst same
          have absent : rest.lookup field = none :=
            (lookup_eq_none_iff_not_mem rest field).2 distinct.1
          rw [absent, Option.getD_none, if_pos ⟨rfl, known⟩, List.lookup_cons_self,
            Option.getD_some]
        · rw [lookup_cons_of_ne _ _ same, if_neg fun both => same both.1]
      · rw [if_neg known, if_neg known, if_neg fun both => known both.2]

theorem Node.assignValue_id (kind : Kind) (node : Node) (field : String) (value : Json) :
    (node.assignValue kind field value).id = node.id := by
  rw [Node.assignValue]
  split_ifs <;> rfl

theorem Node.assignValue_relations (kind : Kind) (node : Node) (field : String) (value : Json) :
    (node.assignValue kind field value).relations = node.relations := by
  rw [Node.assignValue]
  split_ifs <;> rfl

@[simp]
theorem Node.assignValues_id (kind : Kind) (node : Node) (payload : Payload) :
    (node.assignValues kind payload).id = node.id := by
  rw [Node.assignValues]
  generalize payload.entries = entries
  induction entries generalizing node with
  | nil => rfl
  | cons entry rest induction => rw [List.foldl_cons, induction, Node.assignValue_id]

@[simp]
theorem Node.assignValues_relations (kind : Kind) (node : Node) (payload : Payload) :
    (node.assignValues kind payload).relations = node.relations := by
  rw [Node.assignValues]
  generalize payload.entries = entries
  induction entries generalizing node with
  | nil => rfl
  | cons entry rest induction => rw [List.foldl_cons, induction, Node.assignValue_relations]

@[ext]
theorem Node.ext {left right : Node} (ids : left.id = right.id)
    (attributes : ∀ field, left.attributes field = right.attributes field)
    (relations : left.relations = right.relations) : left = right := by
  cases left
  cases right
  rw [Node.mk.injEq]
  exact ⟨ids, funext attributes, relations⟩

/-- Two payloads that agree on the attributes of a kind write the same. -/
theorem Node.assignValues_congr
    {kind : Kind} {payload other : Payload}
    (agree : ∀ field ∈ kind.attributes, payload.get? field = other.get? field) (node : Node) :
    node.assignValues kind payload = node.assignValues kind other := by
  apply Node.ext
  · rw [assignValues_id, assignValues_id]
  · intro field
    rw [assignValues_attributes, assignValues_attributes]
    by_cases known : field ∈ kind.attributes
    · rw [if_pos known, if_pos known, agree field known]
    · rw [if_neg known, if_neg known]
  · rw [assignValues_relations, assignValues_relations]

/-- Every filter for the natural key of a payload passes. -/
def Section.hits (sec : Section) (payload : Payload) (node : Node) : Bool :=
  (SeedIngester.lookupFilters sec payload).all fun filter => filter.passes node

theorem Section.hits_iff (sec : Section) (payload : Payload) (node : Node) :
    sec.hits payload node = true ↔
      ∀ key ∈ sec.lookup, ∀ value, payload.get? key = some value →
        (SeedIngester.lookupFilter sec key value).passes node = true := by
  rw [Section.hits, SeedIngester.lookupFilters, List.all_eq_true]
  constructor
  · intro passes key member value present
    apply passes
    exact List.mem_filterMap.2 ⟨key, member, by rw [present, Option.map_some]⟩
  · intro holds filter member
    obtain ⟨key, keyMember, made⟩ := List.mem_filterMap.1 member
    obtain ⟨value, present, rfl⟩ := Option.map_eq_some_iff.1 made
    exact holds key keyMember value present

theorem passes_lookupFilter_of_mem
    {sec : Section} {key : String} (isRel : key ∈ sec.lookupRelFields) (value : Json)
    (node : Node) :
    (SeedIngester.lookupFilter sec key value).passes node =
      (node.relations key).any fun peer => value = .str peer := by
  rw [SeedIngester.lookupFilter, if_pos isRel, Filter.passes, List.any_cons, List.any_nil,
    Bool.or_false]

theorem passes_lookupFilter_of_not_mem
    {sec : Section} {key : String} (notRel : key ∉ sec.lookupRelFields) (value : Json)
    (node : Node) :
    (SeedIngester.lookupFilter sec key value).passes node =
      decide (node.attributes key = value) := by
  rw [SeedIngester.lookupFilter, if_neg notRel, Filter.passes]

/-- A write leaves the natural key of the node as it was. -/
theorem Section.hits_assignValues
    {sec : Section} {payload other : Payload} {node : Node}
    (hit : sec.hits other node = true) :
    sec.hits payload (node.assignValues sec.kind other) = sec.hits payload node := by
  have key : ∀ key ∈ sec.lookup, key ∉ sec.lookupRelFields →
      (node.assignValues sec.kind other).attributes key = node.attributes key := by
    intro key member notRel
    rw [Node.assignValues_attributes]
    split_ifs
    · rcases present : other.get? key with _ | value
      · rfl
      · have same := (sec.hits_iff other node).1 hit key member value present
        rw [passes_lookupFilter_of_not_mem notRel, decide_eq_true_eq] at same
        rw [same, Option.getD_some]
    · rfl
  rw [Bool.eq_iff_iff, Section.hits_iff, Section.hits_iff]
  apply forall_congr'
  intro field
  apply forall_congr'
  intro member
  apply forall_congr'
  intro value
  apply forall_congr'
  intro present
  by_cases isRel : field ∈ sec.lookupRelFields
  · rw [passes_lookupFilter_of_mem isRel, passes_lookupFilter_of_mem isRel,
      Node.assignValues_relations]
  · rw [passes_lookupFilter_of_not_mem isRel, passes_lookupFilter_of_not_mem isRel,
      key field member isRel]

/-- The upserts of a section. -/
def Section.upserting (sec : Section) : Upserting Node Payload where
  hits := sec.hits
  write payload node := node.assignValues sec.kind payload
  stable := Section.hits_assignValues
  absorbs := by
    intro request others record
    have attributes : ∀ first second : Node, first.id = second.id →
        first.relations = second.relations →
        (∀ field, (field ∈ sec.kind.attributes → request.get? field = none) →
          first.attributes field = second.attributes field) →
        first.assignValues sec.kind request = second.assignValues sec.kind request := by
      intro first second ids relations rest
      apply Node.ext
      · rw [Node.assignValues_id, Node.assignValues_id, ids]
      · intro field
        rw [Node.assignValues_attributes, Node.assignValues_attributes]
        by_cases known : field ∈ sec.kind.attributes
        · rw [if_pos known, if_pos known]
          rcases present : request.get? field with _ | value
          · exact rest field fun _ => present
          · rfl
        · rw [if_neg known, if_neg known]
          exact rest field fun isKnown => absurd isKnown known
      · rw [Node.assignValues_relations, Node.assignValues_relations, relations]
    apply attributes
    · have ids : ∀ (requests : List Payload) (node : Node),
          (requests.foldl (fun current other => current.assignValues sec.kind other) node).id =
            node.id := by
        intro requests
        induction requests with
        | nil => exact fun _ => rfl
        | cons first rest induction =>
            intro node
            rw [List.foldl_cons, induction, Node.assignValues_id]
      rw [ids, ids, Node.assignValues_id]
    · have relations : ∀ (requests : List Payload) (node : Node),
          (requests.foldl (fun current other =>
            current.assignValues sec.kind other) node).relations = node.relations := by
        intro requests
        induction requests with
        | nil => exact fun _ => rfl
        | cons first rest induction =>
            intro node
            rw [List.foldl_cons, induction, Node.assignValues_relations]
      rw [relations, relations, Node.assignValues_relations]
    · intro field unwritten
      have congruent : ∀ (requests : List Payload) (first second : Node),
          first.attributes field = second.attributes field →
          (requests.foldl (fun current other =>
            current.assignValues sec.kind other) first).attributes field =
          (requests.foldl (fun current other =>
            current.assignValues sec.kind other) second).attributes field := by
        intro requests
        induction requests with
        | nil => exact fun _ _ same => same
        | cons head rest induction =>
            intro first second same
            rw [List.foldl_cons, List.foldl_cons]
            apply induction
            rw [Node.assignValues_attributes, Node.assignValues_attributes, same]
      apply congruent
      rw [Node.assignValues_attributes]
      split_ifs with known
      · rw [unwritten known, Option.getD_none]
      · rfl

/-- Two payloads with the same attributes and the same natural key. -/
def Section.Agrees (sec : Section) (payload other : Payload) : Prop :=
  ∀ field, field ∈ sec.kind.attributes ∨ field ∈ sec.lookup →
    payload.get? field = other.get? field

namespace Section.Agrees

variable {sec : Section} {payload other third : Payload}

theorem refl (payload : Payload) : sec.Agrees payload payload := fun _ _ => rfl

theorem symm (agrees : sec.Agrees payload other) : sec.Agrees other payload :=
  fun field known => (agrees field known).symm

theorem trans (agrees : sec.Agrees payload other) (rest : sec.Agrees other third) :
    sec.Agrees payload third :=
  fun field known => (agrees field known).trans (rest field known)

theorem set {field : String} (unknown : field ∉ sec.kind.attributes)
    (notKey : field ∉ sec.lookup) (value : Json) :
    sec.Agrees payload (payload.set field value) := by
  intro other known
  rw [Dict.get?_set_of_ne]
  rintro rfl
  exact known.elim unknown notKey

theorem erase {field : String} (unknown : field ∉ sec.kind.attributes)
    (notKey : field ∉ sec.lookup) : sec.Agrees payload (payload.erase field) := by
  intro other known
  rw [Dict.get?_erase_of_ne]
  rintro rfl
  exact known.elim unknown notKey

theorem hits_eq (agrees : sec.Agrees payload other) : sec.hits payload = sec.hits other := by
  funext node
  rw [Bool.eq_iff_iff, Section.hits_iff, Section.hits_iff]
  apply forall_congr'
  intro field
  apply forall_congr'
  intro member
  rw [agrees field (Or.inr member)]

theorem writeFirst_eq (agrees : sec.Agrees payload other) :
    sec.upserting.writeFirst payload = sec.upserting.writeFirst other := by
  funext nodes
  induction nodes with
  | nil => rfl
  | cons node rest induction =>
      have hits : sec.upserting.hits payload node = sec.upserting.hits other node :=
        congrFun agrees.hits_eq node
      have writes : sec.upserting.write payload node = sec.upserting.write other node :=
        Node.assignValues_congr (fun field known => agrees field (Or.inl known)) node
      rw [Upserting.writeFirst, Upserting.writeFirst, hits, writes, induction]

theorem present_iff (agrees : sec.Agrees payload other) (nodes : List Node) :
    sec.upserting.Present payload nodes ↔ sec.upserting.Present other nodes := by
  have hits : sec.upserting.hits payload = sec.upserting.hits other := agrees.hits_eq
  rw [Upserting.Present, Upserting.Present, hits]

end Section.Agrees

/--
What the lookups and references of a section rely on: its key is made of
attributes and resolved references, the fields that wire addresses are neither,
and its nodes are no addresses and refer to other kinds.
-/
structure Section.WellFormed (sec : Section) : Prop where
  attributes : ∀ key ∈ sec.lookup, key ∉ sec.lookupRelFields → key ∈ sec.kind.attributes
  relationships : ∀ key ∈ sec.lookupRelFields, key ∈ sec.lookup ∧
    key ∈ sec.kind.relationships ∧ key ∈ sec.relationships.map Prod.fst
  keyedNamespace : ∀ field ∈ sec.namespaceField, field ∉ sec.lookupRelFields
  ipField : ∀ field ∈ sec.ipField,
    field ∉ sec.kind.attributes ∧ field ∉ sec.lookup ∧
      "ip_addresses" ∉ sec.kind.attributes ∧ "ip_addresses" ∉ sec.lookup
  primaryAddress : sec.primaryAddressField.isSome →
    "primary_address" ∉ sec.kind.attributes ∧ "primary_address" ∉ sec.lookup
  oneAddress : sec.ipField = none ∨ sec.primaryAddressField = none
  notAddress : sec.kind ≠ .ipamIPAddress
  otherPeers : ∀ rel ∈ sec.relationships.map Prod.snd,
    rel.peerKind ≠ sec.kind ∧ rel.peerKind ≠ .ipamIPAddress

/-- The sections of the generic upsert are well formed. -/
theorem wellFormed_sections {name : SectionName} (generic : name ∉ bgpSections) :
    (sections name).WellFormed := by
  constructor
  all_goals cases name <;> simp_all [sections, bgpSections, Kind.attributes, Kind.relationships]

end Snapl.Intent
