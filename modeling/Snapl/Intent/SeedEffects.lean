import Mathlib.Data.List.Infix
import Snapl.Intent.SeedRun

/-!
# Effects of the seed's steps

Each step of a seed works on the default branch of the client: it changes nodes
of some kinds only, never takes an address away, and forgets no identifier.  An
item of a section is planned against the nodes its references lead to, and then
served as a request against the nodes of the section's kind.
-/

namespace Snapl.Intent

open Snapl.Library

/-- The contents of the default branch. -/
def InfrahubClient.home (client : InfrahubClient) (sot : Sot) : Contents :=
  sot client.defaultBranch

/-- A step on the default branch that changes nodes of the given kinds only. -/
structure Evolves (client : InfrahubClient) (kinds : List Kind) (before after : Sot) : Prop where
  branches : ∀ branch, branch ≠ client.defaultBranch → after branch = before branch
  others : ∀ kind, kind ∉ kinds →
    (client.home after).nodes kind = (client.home before).nodes kind
  addresses : (client.home before).nodes .ipamIPAddress <+:
    (client.home after).nodes .ipamIPAddress
  mentioned : (client.home before).mentioned ⊆ (client.home after).mentioned
  /-- A node whose identifier was mentioned before was there before. -/
  fresh : ∀ kind, ∀ node ∈ (client.home after).nodes kind,
    node.id ∈ (client.home before).mentioned →
      ∃ present ∈ (client.home before).nodes kind, present.id = node.id

namespace Evolves

variable {client : InfrahubClient} {kinds more : List Kind} {before middle after : Sot}

theorem refl (kinds : List Kind) (sot : Sot) : Evolves client kinds sot sot where
  branches _ _ := rfl
  others _ _ := rfl
  addresses := List.prefix_refl _
  mentioned := List.Subset.refl _
  fresh _ node member _ := ⟨node, member, rfl⟩

theorem trans (first : Evolves client kinds before middle)
    (second : Evolves client kinds middle after) : Evolves client kinds before after where
  branches branch other := (second.branches branch other).trans (first.branches branch other)
  others kind other := (second.others kind other).trans (first.others kind other)
  addresses := first.addresses.trans second.addresses
  mentioned := List.Subset.trans first.mentioned second.mentioned
  fresh kind node member known := by
    obtain ⟨present, inMiddle, same⟩ := second.fresh kind node member (first.mentioned known)
    rw [← same] at known
    obtain ⟨original, inBefore, sameOriginal⟩ := first.fresh kind present inMiddle known
    exact ⟨original, inBefore, sameOriginal.trans same⟩

theorem mono (evolves : Evolves client kinds before after) (subset : kinds ⊆ more) :
    Evolves client more before after where
  branches := evolves.branches
  others kind other := evolves.others kind fun member => other (subset member)
  addresses := evolves.addresses
  mentioned := evolves.mentioned
  fresh := evolves.fresh

/-- A step that ends with the same nodes of every kind changes nothing. -/
theorem eq_of_nodes (evolves : Evolves client kinds before after)
    (same : ∀ kind ∈ kinds,
      (client.home after).nodes kind = (client.home before).nodes kind) :
    after = before := by
  funext branch
  by_cases isHome : branch = client.defaultBranch
  · subst isHome
    apply Contents.ext
    intro kind
    by_cases member : kind ∈ kinds
    · exact same kind member
    · exact evolves.others kind member
  · exact evolves.branches branch isHome

end Evolves

theorem Contents.mem_mentioned_iff (contents : Contents) (id : String) :
    id ∈ contents.mentioned ↔
      ∃ kind, ∃ node ∈ contents.nodes kind,
        id = node.id ∨ ∃ field ∈ kind.relationships, id ∈ node.relations field := by
  rw [Contents.mentioned, List.mem_flatMap]
  constructor
  · rintro ⟨kind, -, member⟩
    obtain ⟨node, nodeMember, member⟩ := List.mem_flatMap.1 member
    refine ⟨kind, node, nodeMember, ?_⟩
    rcases List.mem_cons.1 member with same | member
    · exact Or.inl same
    · exact Or.inr (List.mem_flatMap.1 member)
  · rintro ⟨kind, node, nodeMember, same⟩
    refine ⟨kind, kind.mem_all, List.mem_flatMap.2 ⟨node, nodeMember, ?_⟩⟩
    rcases same with same | related
    · exact List.mem_cons.2 (Or.inl same)
    · exact List.mem_cons.2 (Or.inr (List.mem_flatMap.2 related))

/-- Contents that keep the identifiers and relationships of their nodes keep what they mention. -/
theorem Contents.mentioned_subset
    {before after : Contents}
    (kept : ∀ kind, ∀ node ∈ before.nodes kind, ∃ other ∈ after.nodes kind,
      other.id = node.id ∧ other.relations = node.relations) :
    before.mentioned ⊆ after.mentioned := by
  intro id member
  obtain ⟨kind, node, nodeMember, related⟩ := (before.mem_mentioned_iff id).1 member
  obtain ⟨other, otherMember, ids, relations⟩ := kept kind node nodeMember
  apply (after.mem_mentioned_iff id).2
  refine ⟨kind, other, otherMember, ?_⟩
  rw [ids, relations]
  exact related

namespace InfrahubClient

variable (client : InfrahubClient)

theorem filters_apply (kind : Kind) (filters : List Filter) (sot : Sot) :
    client.filters kind filters none sot =
      (.ok (((client.home sot).matching kind filters).map fun node =>
        ⟨client.defaultBranch, kind, node⟩), sot) := rfl

/-- Replacing the default branch by contents that differ in one kind. -/
theorem evolves_update
    {kind : Kind} {sot : Sot} {contents : Contents}
    (others : ∀ other, other ≠ kind → contents.nodes other = (client.home sot).nodes other)
    (addresses : (client.home sot).nodes .ipamIPAddress <+: contents.nodes .ipamIPAddress)
    (mentioned : (client.home sot).mentioned ⊆ contents.mentioned)
    (fresh : ∀ node ∈ contents.nodes kind, node.id ∈ (client.home sot).mentioned →
      ∃ present ∈ (client.home sot).nodes kind, present.id = node.id) :
    Evolves client [kind] sot (Function.update sot client.defaultBranch contents) where
  branches branch other := Function.update_of_ne other contents sot
  others other notKind := by
    rw [home, Function.update_self]
    exact others other fun same => notKind (List.mem_singleton.2 same)
  addresses := by
    rw [home, home, Function.update_self]
    exact addresses
  mentioned := by
    rw [home, home, Function.update_self]
    exact mentioned
  fresh other node member known := by
    rw [home, Function.update_self] at member
    by_cases same : other = kind
    · subst same
      exact fresh node member known
    · rw [others other same] at member
      exact ⟨node, member, rfl⟩

theorem home_update (sot : Sot) (contents : Contents) :
    client.home (Function.update sot client.defaultBranch contents) = contents := by
  rw [home, Function.update_self]

end InfrahubClient

theorem Contents.nodes_insert (contents : Contents) (kind : Kind) (node : Node)
    (fresh : node.id ∉ contents.mentioned) :
    (contents.insert kind node fresh).nodes kind = contents.nodes kind ++ [node] :=
  Function.update_self kind _ contents.nodes

theorem Contents.nodes_insert_of_ne (contents : Contents) {kind other : Kind} (node : Node)
    (fresh : node.id ∉ contents.mentioned) (different : other ≠ kind) :
    (contents.insert kind node fresh).nodes other = contents.nodes other :=
  Function.update_of_ne different _ contents.nodes

theorem Contents.nodes_put (contents : Contents) (kind : Kind) (node : Node) :
    (contents.put kind node).nodes kind =
      (contents.nodes kind).map fun present =>
        if present.id = node.id then node else present :=
  Function.update_self kind _ contents.nodes

theorem Contents.nodes_put_of_ne (contents : Contents) {kind other : Kind} (node : Node)
    (different : other ≠ kind) :
    (contents.put kind node).nodes other = contents.nodes other :=
  Function.update_of_ne different _ contents.nodes

/-- Adding a node changes its kind only. -/
theorem evolves_insert
    (client : InfrahubClient) (sot : Sot) (kind : Kind) (node : Node)
    (fresh : node.id ∉ (client.home sot).mentioned) :
    Evolves client [kind] sot
      (Function.update sot client.defaultBranch ((client.home sot).insert kind node fresh)) := by
  apply client.evolves_update
  · intro other different
    exact Contents.nodes_insert_of_ne _ node fresh different
  · by_cases same : Kind.ipamIPAddress = kind
    · subst same
      rw [Contents.nodes_insert]
      exact List.prefix_append _ _
    · rw [Contents.nodes_insert_of_ne _ node fresh same]
  · apply Contents.mentioned_subset
    intro other present member
    refine ⟨present, ?_, rfl, rfl⟩
    by_cases same : other = kind
    · subst same
      rw [Contents.nodes_insert]
      exact List.mem_append_left _ member
    · rw [Contents.nodes_insert_of_ne _ node fresh same]
      exact member
  · intro other member known
    rw [Contents.nodes_insert] at member
    rcases List.mem_append.1 member with inBefore | isNew
    · exact ⟨other, inBefore, rfl⟩
    · rw [List.mem_singleton.1 isNew] at known
      exact absurd known fresh

/-- Saving values of a node changes its kind only. -/
theorem evolves_put
    (client : InfrahubClient) (sot : Sot) {kind : Kind} (notAddress : kind ≠ .ipamIPAddress)
    {node saved : Node} (member : node ∈ (client.home sot).nodes kind)
    (ids : saved.id = node.id) (relations : saved.relations = node.relations) :
    Evolves client [kind] sot
      (Function.update sot client.defaultBranch ((client.home sot).put kind saved)) := by
  apply client.evolves_update
  · intro other different
    exact Contents.nodes_put_of_ne _ saved different
  · rw [Contents.nodes_put_of_ne _ saved notAddress.symm]
  · apply Contents.mentioned_subset
    intro other present presentMember
    by_cases same : other = kind
    · subst same
      rw [Contents.nodes_put]
      refine ⟨_, List.mem_map_of_mem presentMember, ?_⟩
      by_cases isSaved : present.id = saved.id
      · have equal : present = node := by
          apply List.inj_on_of_nodup_map ((client.home sot).distinct other) presentMember member
          rw [isSaved, ids]
        rw [if_pos isSaved, equal]
        exact ⟨ids, relations⟩
      · rw [if_neg isSaved]
        exact ⟨rfl, rfl⟩
    · rw [Contents.nodes_put_of_ne _ saved same]
      exact ⟨present, presentMember, rfl, rfl⟩
  · intro other otherMember _
    rw [Contents.nodes_put] at otherMember
    obtain ⟨present, presentMember, rfl⟩ := List.mem_map.1 otherMember
    refine ⟨present, presentMember, ?_⟩
    by_cases isSaved : present.id = saved.id
    · rw [if_pos isSaved, isSaved]
    · rw [if_neg isSaved]

/-- Saving the first node a request hits writes the request to it. -/
theorem map_put_eq_writeFirst
    (sec : Section) (payload : Payload) {nodes : List Node} (distinct : (nodes.map Node.id).Nodup)
    {node : Node} {rest : List Node} (found : nodes.filter (sec.hits payload) = node :: rest) :
    (nodes.map fun present =>
      if present.id = (node.assignValues sec.kind payload).id then
        node.assignValues sec.kind payload
      else present) = sec.upserting.writeFirst payload nodes := by
  rw [Node.assignValues_id]
  induction nodes with
  | nil => cases found
  | cons first others induction =>
      rw [List.map_cons, List.nodup_cons] at distinct
      cases hit : sec.hits payload first with
      | true =>
          rw [List.filter_cons_of_pos hit, List.cons.injEq] at found
          obtain ⟨rfl, -⟩ := found
          have kept : ∀ present ∈ others,
              (if present.id = first.id then first.assignValues sec.kind payload
                else present) = present := by
            intro present member
            apply if_neg
            intro same
            apply distinct.1
            rw [← same]
            exact List.mem_map_of_mem member
          rw [Upserting.writeFirst_cons_of_hits hit, List.map_cons, if_pos rfl,
            List.map_congr_left kept, List.map_id']
          rfl
      | false =>
          have misses : ¬ sec.hits payload first = true := ne_true_of_eq_false hit
          rw [List.filter_cons_of_neg misses] at found
          have later : node ∈ others := by
            apply List.mem_of_mem_filter
            rw [found]
            exact List.mem_cons_self
          have different : first.id ≠ node.id := by
            intro same
            apply distinct.1
            rw [same]
            exact List.mem_map_of_mem later
          rw [Upserting.writeFirst_cons_of_misses hit, List.map_cons, if_neg different,
            induction distinct.2 found]

end Snapl.Intent
