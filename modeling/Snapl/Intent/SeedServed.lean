import Snapl.Intent.SeedRecords

/-!
# The generic sections of a whole run

Over a whole seed the items of every generic section are served as requests
against the nodes that were there at first; what later sections do to other
nodes makes no difference to them.  Nodes keep the keys they are looked up by,
so a name that had a node leads to the same node afterwards.
-/

namespace Snapl.Intent

open Snapl.Library SeedIngester

variable {client : InfrahubClient}

/-- The kinds of the generic sections that are not among the names keep their nodes. -/
theorem seedSections_others
    {dataset : Dataset} {namespaceId : Option String} {names : List SectionName}
    {tally final : Tally} {sot after : Sot}
    (ran : seedSections client dataset client.defaultBranch namespaceId names tally sot =
      (.ok final, after)) {kind : Kind} (notAddress : kind ≠ .ipamIPAddress)
    (apart : ∀ other ∈ names, other ∉ bgpSections → kind ≠ (sections other).kind) :
    (client.home after).nodes kind = (client.home sot).nodes kind := by
  apply (seedSections_evolves ran).1.others
  intro member
  rcases List.mem_cons.1 member with isAddress | member
  · exact notAddress isAddress
  · obtain ⟨other, inNames, generic, isKind⟩ := mem_genericKinds.1 member
    exact apart other inNames generic isKind.symm

/-- Every generic section is served once, over the run of all of them. -/
theorem seedSections_served
    {dataset : Dataset} {namespaceId : Option String} {names : List SectionName}
    (ordered : names.Pairwise Independent) {tally final : Tally} {taken : List String}
    {sot after : Sot} (known : taken ⊆ (client.home sot).mentioned)
    (ran : seedSections client dataset client.defaultBranch namespaceId names tally sot =
      (.ok final, after)) :
    ∀ name ∈ names, name ∉ bgpSections → ∃ requests,
      List.Forall₂ ((sections name).Requests namespaceId (client.home after))
        (seededItems dataset name) requests ∧
      (sections name).upserting.Serves ((sections name).Made taken) requests
        ((client.home sot).nodes (sections name).kind)
        ((client.home after).nodes (sections name).kind) := by
  induction names generalizing tally sot with
  | nil =>
      intro name member
      cases member
  | cons first rest induction =>
      obtain ⟨independent, orderedRest⟩ := List.pairwise_cons.1 ordered
      rcases seedSections_cons_eq_ok ran with
        ⟨skipped, ranRest⟩ |
        ⟨isGeneric, value, items, next, middle, present, itemsOk, seeded, ranRest⟩
      · intro name member generic
        rcases List.mem_cons.1 member with rfl | later
        · have noItems : seededItems dataset name = [] := by
            rw [seededItems, skipped.resolve_right generic]
            rfl
          have same := seedSections_others ranRest (wellFormed_sections generic).notAddress
            fun other inRest otherGeneric => (independent other inRest generic otherGeneric).1
          rw [noItems, same]
          exact ⟨[], .nil, .done _⟩
        · exact induction orderedRest known ranRest name later generic
      · have wellFormed := wellFormed_sections isGeneric
        obtain ⟨evolves, -⟩ := seedItems_serves wellFormed known seeded
        obtain ⟨requests, itemRequests, serves⟩ := seedItems_requests wellFormed known seeded
        have grown := (seedSections_evolves ranRest).1.addresses
        intro name member generic
        rcases List.mem_cons.1 member with rfl | later
        · have same := seedSections_others ranRest wellFormed.notAddress
            fun other inRest otherGeneric => (independent other inRest generic otherGeneric).1
          have isItems : seededItems dataset name = items := by
            rw [seededItems, present, Option.map_some, itemsOk]
          rw [isItems, same]
          refine ⟨requests, itemRequests.imp fun _ _ isRequest => isRequest.mono ?_ grown, serves⟩
          intro rel isRel
          exact seedSections_others ranRest (wellFormed.otherPeers rel isRel).2
            fun other inRest otherGeneric =>
              (independent other inRest generic otherGeneric).2 rel isRel
        · obtain ⟨others, requestsLater, servesLater⟩ := induction orderedRest
            (List.Subset.trans known evolves.mentioned) ranRest name later generic
          refine ⟨others, requestsLater, ?_⟩
          have same : (client.home middle).nodes (sections name).kind =
              (client.home sot).nodes (sections name).kind := by
            apply evolves.others
            rw [List.mem_cons, List.mem_singleton, not_or]
            exact ⟨(independent name later isGeneric generic).1.symm,
              (wellFormed_sections generic).notAddress⟩
          rw [← same]
          exact servesLater

section

variable {sec : Section} {taken : List String} {requests : List Payload}
  {before after : Contents}

/-- A request for the nodes of a name. -/
def nameRequest (field : String) (name : Json) : Payload := Dict.ofPairs [(field, name)]

theorem hits_nameRequest
    {field : String} (lookup : sec.lookup = [field]) (noRels : sec.lookupRelFields = [])
    (name : Json) (node : Node) :
    sec.upserting.hits (nameRequest field name) node = decide (node.attributes field = name) := by
  have given : (nameRequest field name).get? field = some name := by
    simp [nameRequest, Dict.ofPairs, Dict.update]
  have notRel : field ∉ sec.lookupRelFields := by
    rw [noRels]
    exact List.not_mem_nil
  have hits := sec.hits_iff (nameRequest field name) node
  rw [Bool.eq_iff_iff, decide_eq_true_eq]
  refine hits.trans ?_
  rw [lookup]
  constructor
  · intro passes
    have passed := passes field List.mem_cons_self name given
    rwa [passes_lookupFilter_of_not_mem notRel, decide_eq_true_eq] at passed
  · intro same key member value present
    rw [List.mem_singleton.1 member] at present ⊢
    rw [given, Option.some.injEq] at present
    rw [passes_lookupFilter_of_not_mem notRel, decide_eq_true_eq, same, present]

/-- A node that was there is still there, under the key it had. -/
theorem exists_later_of_serves
    (keyed : sec.Keyed)
    (serves : sec.upserting.Serves (sec.Made taken) requests (before.nodes sec.kind)
      (after.nodes sec.kind)) {node : Node} (member : node ∈ before.nodes sec.kind) :
    ∃ aimed later, later ∈ after.nodes sec.kind ∧ later.id = node.id ∧
      later = sec.upserting.writeAll aimed node ∧
      aimed = sec.upserting.aimedAt Node.id (before.nodes sec.kind) node.id requests ∧
      ∀ request, sec.upserting.hits request later = sec.upserting.hits request node := by
  have hits := fun (request : Payload) (node : Node) (made : sec.Made taken request node) =>
    Section.hits_of_made keyed made
  have fixed := fun (request : Payload) (node : Node) (made : sec.Made taken request node) =>
    Section.write_of_made made
  obtain ⟨extra, equal⟩ := serves.eq_map_append (id_write sec) hits fixed
    (after.distinct sec.kind)
  have distinct := serves.distinct_before (id_write sec) hits fixed (after.distinct sec.kind)
  refine ⟨_, sec.upserting.writeAll (sec.upserting.aimedAt Node.id (before.nodes sec.kind)
    node.id requests) node, ?_, Upserting.identify_writeAll (id_write sec) _ node, rfl, rfl, ?_⟩
  · rw [equal]
    exact List.mem_append_left extra (List.mem_map_of_mem member)
  · apply Upserting.hits_writeAll
    intro request aimed
    exact Upserting.hits_of_mem_aimedAt distinct member aimed

theorem exists_named_of_serves
    (keyed : sec.Keyed) {field : String} (lookup : sec.lookup = [field])
    (noRels : sec.lookupRelFields = [])
    (serves : sec.upserting.Serves (sec.Made taken) requests (before.nodes sec.kind)
      (after.nodes sec.kind)) {node : Node} (member : node ∈ before.nodes sec.kind) :
    ∃ later ∈ after.nodes sec.kind, later.id = node.id ∧
      later.attributes field = node.attributes field := by
  obtain ⟨-, later, inAfter, sameId, -, -, sameHits⟩ := exists_later_of_serves keyed serves member
  refine ⟨later, inAfter, sameId, ?_⟩
  have same := sameHits (nameRequest field (node.attributes field))
  rw [hits_nameRequest lookup noRels, hits_nameRequest lookup noRels, decide_eq_true rfl] at same
  exact of_decide_eq_true same

/-- The first node of a name stays the first. -/
theorem steady_of_serves
    (keyed : sec.Keyed) {rel : Rel} (kind : rel.peerKind = sec.kind)
    (lookup : sec.lookup = [rel.lookupAttr]) (noRels : sec.lookupRelFields = [])
    (serves : sec.upserting.Serves (sec.Made taken) requests (before.nodes sec.kind)
      (after.nodes sec.kind))
    (fresh : ∀ node ∈ after.nodes sec.kind, node.id ∈ before.mentioned →
      ∃ present ∈ before.nodes sec.kind, present.id = node.id) : rel.Steady before after := by
  have named : ∀ (contents : Contents) (name : Json), rel.node? contents name =
      (contents.nodes sec.kind).find? (sec.upserting.hits (nameRequest rel.lookupAttr name)) := by
    intro contents name
    rw [Rel.node?, kind]
    apply List.find?_congr
    intro node _
    rw [hits_nameRequest lookup noRels]
  constructor
  · intro name peer found
    rw [named] at found ⊢
    have landed := serves.find?_of_present (id_write sec)
      (fun _ _ made => Section.hits_of_made keyed made)
      (fun _ _ made => Section.write_of_made made) (after.distinct sec.kind) found
    exact ⟨_, landed, Upserting.identify_writeAll (id_write sec) _ peer⟩
  · intro name later absent found mentioned
    obtain ⟨inAfter, hasName⟩ := Rel.node?_eq_some found
    rw [kind] at inAfter
    obtain ⟨present, inBefore, sameId⟩ := fresh later inAfter mentioned
    obtain ⟨other, otherInAfter, otherId, otherName⟩ :=
      exists_named_of_serves keyed lookup noRels serves inBefore
    have same : other = later :=
      List.inj_on_of_nodup_map (after.distinct sec.kind) otherInAfter inAfter
        (otherId.trans sameId)
    rw [same, hasName] at otherName
    rw [Rel.node?, List.find?_eq_none] at absent
    apply absent present (kind ▸ inBefore)
    exact decide_eq_true otherName.symm

end

end Snapl.Intent
