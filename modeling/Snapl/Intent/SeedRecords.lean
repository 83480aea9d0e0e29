import Snapl.Intent.SeedLinks
import Snapl.Intent.SeedSubjects

/-!
# Items as records

The request an item of a generic section comes down to realises what the item
declares: its attributes are written as they are, and its references lead to
nodes of the names they give.  So the items of a section are served as records,
against contents in which no section's references change after it.
-/

namespace Snapl.Intent

open Snapl.Library SeedIngester

variable {client : InfrahubClient}

/-! ## Resolved references -/

theorem Rel.node?_eq_head? (rel : Rel) (contents : Contents) (name : Json) :
    rel.node? contents name =
      (contents.matching rel.peerKind [.value rel.lookupAttr name]).head? := by
  rw [Rel.node?, Contents.matching, List.head?_filter]
  simp [Filter.passes]

theorem resolveIn_cons_eq_ok
    {contents : Contents} {kind : Kind} {field : String} {rel : Rel}
    {rest : List (String × Rel)} {item resolved : Payload}
    (ran : resolveIn contents kind ((field, rel) :: rest) item = .ok resolved) :
    (item.get? field = none ∧ resolveIn contents kind rest item = .ok resolved) ∨
    ∃ name peer, item.get? field = some name ∧ rel.node? contents name = some peer ∧
      resolveIn contents kind rest (item.set field (.str peer.id)) = .ok resolved := by
  rw [resolveIn] at ran
  rcases present : item.get? field with _ | name
  · rw [present] at ran
    exact Or.inl ⟨rfl, ran⟩
  · rw [present] at ran
    dsimp only at ran
    have head := rel.node?_eq_head? contents name
    rcases found : contents.matching rel.peerKind [.value rel.lookupAttr name] with
      _ | ⟨peer, others⟩
    · rw [found] at ran
      cases ran
    · rw [found] at ran head
      exact Or.inr ⟨name, peer, rfl, head, ran⟩

/-- A reference is led to the first node of its name. -/
theorem resolveIn_get?_of_lookup
    {contents : Contents} {kind : Kind} {relationships : List (String × Rel)}
    {item resolved : Payload} (distinct : (relationships.map Prod.fst).Nodup)
    (ran : resolveIn contents kind relationships item = .ok resolved) {field : String} {rel : Rel}
    (member : relationships.lookup field = some rel) :
    (item.get? field = none ∧ resolved.get? field = none) ∨
    ∃ name peer, item.get? field = some name ∧ rel.node? contents name = some peer ∧
      resolved.get? field = some (.str peer.id) := by
  induction relationships generalizing item with
  | nil => cases member
  | cons entry rest induction =>
      obtain ⟨other, otherRel⟩ := entry
      rw [List.map_cons, List.nodup_cons] at distinct
      by_cases same : field = other
      · subst same
        rw [List.lookup_cons_self, Option.some.injEq] at member
        subst member
        rcases resolveIn_cons_eq_ok ran with ⟨absent, ran⟩ | ⟨name, peer, given, found, ran⟩
        · exact Or.inl ⟨absent, (resolveIn_get?_of_not_mem ran distinct.1).trans absent⟩
        · refine Or.inr ⟨name, peer, given, found, ?_⟩
          rw [resolveIn_get?_of_not_mem ran distinct.1, Dict.get?_set_self]
      · rw [lookup_cons_of_ne _ _ same] at member
        rcases resolveIn_cons_eq_ok ran with ⟨-, ran⟩ | ⟨name, peer, -, -, ran⟩
        · exact induction distinct.2 ran member
        · have later := induction distinct.2 ran member
          rwa [Dict.get?_set_of_ne _ _ same] at later

/-! ## Fields of the generic sections -/

/-- The references of a section are relationships of its nodes, and no field has two meanings. -/
structure Section.Clear (sec : Section) : Prop where
  distinct : (sec.relationships.map Prod.fst).Nodup
  relationships : ∀ field ∈ sec.relationships.map Prod.fst,
    field ∈ sec.kind.relationships ∧ field ∉ sec.kind.attributes ∧
      field ∉ sec.namespaceField ∧ field ∉ sec.wiring
  namespaceField : ∀ field ∈ sec.namespaceField,
    field ∉ sec.kind.attributes ∧ field ∉ sec.ipField ∧ field ∉ sec.primaryAddressField ∧
      field ≠ "ip_addresses" ∧ field ≠ "primary_address"
  ipField : ∀ field ∈ sec.ipField, "ip_addresses" ∈ sec.kind.relationships ∧
    field ∉ sec.relationships.map Prod.fst ∧ field ≠ "ip_addresses"
  primaryAddress : ∀ field ∈ sec.primaryAddressField,
    "primary_address" ∈ sec.kind.relationships ∧ field ∉ sec.relationships.map Prod.fst

theorem clear_sections {name : SectionName} (generic : name ∉ bgpSections) :
    (sections name).Clear := by
  constructor
  all_goals
    cases name <;>
      simp_all [sections, bgpSections, Kind.attributes, Kind.relationships, Section.wiring]

theorem vocabulary_of_generic {name : SectionName} (generic : name ∉ bgpSections) :
    vocabulary name = { sec := sections name, targets := (sections name).targets } := by
  cases name <;> first | rfl | exact absurd (by decide) generic

/-- A named relationship is a reference of the section or leads to an address. -/
theorem Section.targets_cases
    {sec : Section} {field : String} {rel : Rel} (target : sec.targets.lookup field = some rel) :
    sec.relationships.lookup field = some rel ∨
    field ∉ sec.relationships.map Prod.fst ∧ rel = addressRel ∧
      (field = "ip_addresses" ∧ sec.ipField.isSome ∨
        field = "primary_address" ∧ sec.primaryAddressField.isSome) := by
  rw [targets, List.append_assoc, List.lookup_append] at target
  rcases found : sec.relationships.lookup field with _ | own
  · have outside := (lookup_eq_none_iff_not_mem sec.relationships field).1 found
    rw [found, Option.none_or] at target
    refine Or.inr ⟨outside, ?_⟩
    have member := mem_of_lookup target
    rcases List.mem_append.1 member with isIp | isPrimary
    · cases ipField : sec.ipField.isSome with
      | false =>
          rw [ipField] at isIp
          cases isIp
      | true =>
          rw [ipField, if_pos rfl, List.mem_singleton, Prod.mk.injEq] at isIp
          exact ⟨isIp.2, Or.inl ⟨isIp.1, rfl⟩⟩
    · cases primary : sec.primaryAddressField.isSome with
      | false =>
          rw [primary] at isPrimary
          cases isPrimary
      | true =>
          rw [primary, if_pos rfl, List.mem_singleton, Prod.mk.injEq] at isPrimary
          exact ⟨isPrimary.2, Or.inr ⟨isPrimary.1, rfl⟩⟩
  · rw [found, Option.some_or] at target
    exact Or.inl target

theorem Section.mem_names_of_lookup
    {sec : Section} {field : String} {rel : Rel}
    (member : sec.relationships.lookup field = some rel) :
    field ∈ sec.relationships.map Prod.fst :=
  List.mem_map_of_mem (mem_of_lookup member)

/-- No target of a generic section is an attribute. -/
theorem Section.Clear.target_relationship
    {sec : Section} (clear : sec.Clear) {field : String} {rel : Rel}
    (target : sec.targets.lookup field = some rel) : field ∈ sec.kind.relationships := by
  rcases Section.targets_cases target with own | ⟨-, -, ⟨rfl, present⟩ | ⟨rfl, present⟩⟩
  · exact (clear.relationships field (Section.mem_names_of_lookup own)).1
  · obtain ⟨ip, isIp⟩ := Option.isSome_iff_exists.1 present
    exact (clear.ipField ip isIp).1
  · obtain ⟨primary, isPrimary⟩ := Option.isSome_iff_exists.1 present
    exact (clear.primaryAddress primary isPrimary).1

/-! ## Requests of items -/

theorem exists_of_addressNodes
    {contents : Contents} {namespaceId : String} {address : Json} {node : Node} {rest : List Node}
    (found : addressNodes contents namespaceId address = node :: rest) :
    node ∈ contents.nodes addressRel.peerKind ∧
      node.attributes addressRel.lookupAttr = address := by
  have member : node ∈ addressNodes contents namespaceId address := by
    rw [found]
    exact List.mem_cons_self
  rw [addressNodes_eq_filter, List.mem_filter] at member
  refine ⟨member.1, ?_⟩
  have passes := List.all_eq_true.1 member.2 _ List.mem_cons_self
  exact of_decide_eq_true passes

section

variable {sec : Section} {namespaceId : Option String} {contents : Contents}
  {item resolved request : Payload}

/-- A field without a meaning of its own is written as it is. -/
theorem get?_of_plain
    (resolves : resolveIn contents sec.kind sec.relationships item = .ok resolved)
    (wired : sec.Wired namespaceId contents (withNamespace sec namespaceId resolved) request)
    {field : String} (notRel : field ∉ sec.relationships.map Prod.fst)
    (notNamespace : field ∉ sec.namespaceField) (notWired : field ∉ sec.wiring) :
    request.get? field = item.get? field := by
  rw [wired.others field notWired, get?_withNamespace notNamespace,
    resolveIn_get?_of_not_mem resolves notRel]

/-- Before the addresses are wired, fields other than references are the item's own. -/
theorem get?_of_unwired
    (resolves : resolveIn contents sec.kind sec.relationships item = .ok resolved)
    {field : String} (notRel : field ∉ sec.relationships.map Prod.fst)
    (notNamespace : field ∉ sec.namespaceField) :
    (withNamespace sec namespaceId resolved).get? field = item.get? field := by
  rw [get?_withNamespace notNamespace, resolveIn_get?_of_not_mem resolves notRel]

end

theorem Section.peersOf_of_mem
    {sec : Section} {field : String} (member : field ∈ sec.relationships.map Prod.fst)
    (counts : Json → Bool) (item : Payload) : sec.peersOf counts item field = item.get? field :=
  if_pos member

theorem Section.peersOf_addresses
    {sec : Section} (outside : "ip_addresses" ∉ sec.relationships.map Prod.fst)
    (counts : Json → Bool) (item : Payload) :
    sec.peersOf counts item "ip_addresses" = sec.ipField.bind item.get? := by
  rw [peersOf, if_neg outside, if_pos rfl]

theorem Section.peersOf_primary
    {sec : Section} (outside : "primary_address" ∉ sec.relationships.map Prod.fst)
    (counts : Json → Bool) (item : Payload) :
    sec.peersOf counts item "primary_address" =
      (sec.primaryAddressField.bind item.get?).filter counts := by
  rw [peersOf, if_neg outside, if_neg (by decide), if_pos rfl]

/-- The request an item comes down to writes what the item declares. -/
theorem realises_of_requests
    {name : SectionName} (generic : name ∉ bgpSections) {namespaceId : Option String}
    (addressed : (sections name).ipField.isSome → namespaceId.isSome)
    {contents : Contents} {item request : Payload}
    (requests : (sections name).Requests namespaceId contents item request) :
    (vocabulary name).Realises contents
      ((sections name).declare (fun _ => namespaceId.isSome) item) request := by
  obtain ⟨resolved, resolves, linked⟩ := requests
  have wired := linked.toWired
  have clear := clear_sections generic
  have wellFormed := wellFormed_sections generic
  rw [vocabulary_of_generic generic]
  have addresses : ∀ ip ∈ (sections name).ipField,
      (withNamespace (sections name) namespaceId resolved).get? ip = item.get? ip := by
    intro ip isIp
    exact get?_of_unwired resolves (clear.ipField ip isIp).2.1
      fun injected => (clear.namespaceField ip injected).2.1 isIp
  have primaries : ∀ primary ∈ (sections name).primaryAddressField,
      (withNamespace (sections name) namespaceId resolved).get? primary =
        item.get? primary := by
    intro primary isPrimary
    exact get?_of_unwired resolves (clear.primaryAddress primary isPrimary).2
      fun injected => (clear.namespaceField primary injected).2.2.1 isPrimary
  have own : ∀ field rel, (sections name).relationships.lookup field = some rel →
      (item.get? field = none ∧ request.get? field = none) ∨
      ∃ given peer, item.get? field = some given ∧ rel.node? contents given = some peer ∧
        request.get? field = some (.str peer.id) := by
    intro field rel isRel
    obtain ⟨-, -, notNamespace, notWired⟩ :=
      clear.relationships field (Section.mem_names_of_lookup isRel)
    rw [wired.others field notWired, get?_withNamespace notNamespace]
    exact resolveIn_get?_of_lookup clear.distinct resolves isRel
  constructor
  · intro field known
    have notRel : field ∉ (sections name).relationships.map Prod.fst :=
      fun isRel => (clear.relationships field isRel).2.1 known
    have notIp : field ∉ (sections name).ipField :=
      fun isIp => (wellFormed.ipField field isIp).1 known
    have notPeer : field ∉ (sections name).peerFields := by
      rw [Section.peerFields, List.mem_append, Option.mem_toList, not_or]
      exact ⟨notRel, notIp⟩
    rw [get?_of_plain resolves wired notRel
      (fun injected => (clear.namespaceField field injected).1 known)
      (wellFormed.not_mem_wiring (Or.inl known))]
    exact (if_neg notPeer).symm
  · intro field rel given target named
    rcases Section.targets_cases target with
      isRel | ⟨outside, rfl, ⟨rfl, present⟩ | ⟨rfl, present⟩⟩
    · have peers : item.get? field = some given :=
        (Section.peersOf_of_mem (Section.mem_names_of_lookup isRel) _ item).symm.trans named
      rcases own field rel isRel with ⟨absent, -⟩ | ⟨other, peer, isGiven, found, written⟩
      · rw [peers] at absent
        cases absent
      · rw [peers, Option.some.injEq] at isGiven
        subst isGiven
        obtain ⟨inNodes, hasName⟩ := Rel.node?_eq_some found
        exact ⟨peer, inNodes, hasName, by rw [written]; rfl⟩
    · obtain ⟨ip, isIp⟩ := Option.isSome_iff_exists.1 present
      obtain ⟨id, isId⟩ := Option.isSome_iff_exists.1 (addressed present)
      have peers : item.get? ip = some given := by
        have all := (Section.peersOf_addresses outside _ item).symm.trans named
        rwa [isIp, Option.bind_some] at all
      obtain ⟨node, rest, found, written⟩ :=
        wired.addresses id isId ip isIp given ((addresses ip isIp).trans peers)
      obtain ⟨inNodes, hasName⟩ := exists_of_addressNodes found
      exact ⟨node, inNodes, hasName, by rw [written]; rfl⟩
    · obtain ⟨primary, isPrimary⟩ := Option.isSome_iff_exists.1 present
      have peers : item.get? primary = some given ∧ namespaceId.isSome = true := by
        have all := (Section.peersOf_primary outside _ item).symm.trans named
        rw [isPrimary, Option.bind_some] at all
        exact Option.filter_eq_some_iff.1 all
      obtain ⟨id, isId⟩ := Option.isSome_iff_exists.1 peers.2
      obtain ⟨node, rest, found, written⟩ :=
        linked.primaryNode id isId primary isPrimary given
          ((primaries primary isPrimary).trans peers.1)
      obtain ⟨inNodes, hasName⟩ := exists_of_addressNodes found
      exact ⟨node, inNodes, hasName, by rw [written]; rfl⟩
  · intro field rel target unnamed
    rcases Section.targets_cases target with
      isRel | ⟨outside, rfl, ⟨rfl, present⟩ | ⟨rfl, present⟩⟩
    · have absent : item.get? field = none :=
        (Section.peersOf_of_mem (Section.mem_names_of_lookup isRel) _ item).symm.trans unnamed
      rcases own field rel isRel with ⟨-, unwritten⟩ | ⟨other, peer, isGiven, -⟩
      · rw [unwritten, Section.declare]
        simp [absent]
      · rw [absent] at isGiven
        cases isGiven
    · obtain ⟨ip, isIp⟩ := Option.isSome_iff_exists.1 present
      have absent : item.get? ip = none := by
        have all := (Section.peersOf_addresses outside _ item).symm.trans unnamed
        rwa [isIp, Option.bind_some] at all
      have notPeer : "ip_addresses" ∉ (sections name).peerFields := by
        rw [Section.peerFields, List.mem_append, Option.mem_toList, not_or]
        refine ⟨outside, ?_⟩
        intro same
        exact (clear.ipField _ same).2.2 rfl
      rw [linked.noAddresses ip isIp ((addresses ip isIp).trans absent),
        get?_of_unwired resolves outside fun injected =>
          (clear.namespaceField _ injected).2.2.2.1 rfl]
      exact (if_neg notPeer).symm
    · obtain ⟨primary, isPrimary⟩ := Option.isSome_iff_exists.1 present
      have noIp : (sections name).ipField = none := by
        apply wellFormed.oneAddress.resolve_right
        rw [isPrimary]
        exact Option.some_ne_none primary
      have absent : item.get? primary = none ∨ namespaceId = none := by
        have all := (Section.peersOf_primary outside _ item).symm.trans unnamed
        rw [isPrimary, Option.bind_some] at all
        rcases namespaceId with _ | id
        · exact Or.inr rfl
        · rcases given : item.get? primary with _ | address
          · exact Or.inl rfl
          · rw [given] at all
            cases all
      have notPeer : "primary_address" ∉ (sections name).peerFields := by
        rw [Section.peerFields, noIp, List.mem_append, not_or]
        exact ⟨outside, List.not_mem_nil⟩
      rw [linked.noPrimary primary isPrimary
          (absent.imp_left fun none => (primaries primary isPrimary).trans none),
        get?_of_unwired resolves outside fun injected =>
          (clear.namespaceField _ injected).2.2.2.2 rfl]
      exact (if_neg notPeer).symm
  · intro field isKey rel given target named
    have inNames := (wellFormed.relationships field isKey).2.2
    have isRel : (sections name).relationships.lookup field = some rel := by
      rcases Section.targets_cases target with isRel | ⟨outside, -⟩
      · exact isRel
      · exact absurd inNames outside
    have peers : item.get? field = some given :=
      (Section.peersOf_of_mem inNames _ item).symm.trans named
    rcases own field rel isRel with ⟨absent, -⟩ | ⟨other, peer, isGiven, found, written⟩
    · rw [peers] at absent
      cases absent
    · rw [peers, Option.some.injEq] at isGiven
      subst isGiven
      exact ⟨peer, found, written⟩

/-! ## New addresses -/

/-- Every address node that is new has one of the addresses. -/
def NewAddresses (client : InfrahubClient) (addresses : List Json) (before after : Sot) : Prop :=
  ∀ node ∈ (client.home after).nodes .ipamIPAddress,
    node ∈ (client.home before).nodes .ipamIPAddress ∨ node.attributes "address" ∈ addresses

theorem NewAddresses.of_evolves
    {kinds : List Kind} {before after : Sot} (evolves : Evolves client kinds before after)
    (noAddress : Kind.ipamIPAddress ∉ kinds) (addresses : List Json) :
    NewAddresses client addresses before after := by
  intro node member
  rw [evolves.others _ noAddress] at member
  exact Or.inl member

theorem NewAddresses.trans
    {first second : List Json} {before middle after : Sot}
    (newAddresses : NewAddresses client first before middle)
    (rest : NewAddresses client second middle after) :
    NewAddresses client (first ++ second) before after := by
  intro node member
  rcases rest node member with inMiddle | isNew
  · exact (newAddresses node inMiddle).imp_right (List.mem_append_left second)
  · exact Or.inr (List.mem_append_right first isNew)

theorem materialiseIpAddress_newAddresses
    {address : Json} {namespaceId id : String} {sot after : Sot}
    (ran : materialiseIpAddress client address namespaceId client.defaultBranch sot =
      (.ok id, after)) : NewAddresses client [address] sot after := by
  rcases found : addressNodes (client.home sot) namespaceId address with _ | ⟨node, rest⟩
  · obtain ⟨node, made, fresh⟩ : ∃ node, node = Node.ofPayload .ipamIPAddress
        (Dict.ofPairs [("address", address), ("ip_namespace", .str namespaceId)])
        (client.newId (client.home sot).mentioned) ∧ node.id ∉ (client.home sot).mentioned :=
      ⟨_, rfl, client.newId_fresh _⟩
    have creates : materialiseIpAddress client address namespaceId client.defaultBranch sot =
        (.ok node.id, Function.update sot client.defaultBranch
          ((client.home sot).insert .ipamIPAddress node fresh)) := by
      rw [materialiseIpAddress, Program.bind_of_ok (client.filters_apply _ _ sot),
        ← addressNodes, found]
      subst made
      rfl
    rw [creates, Prod.mk.injEq] at ran
    obtain ⟨-, rfl⟩ := ran
    intro other member
    rw [client.home_update, Contents.nodes_insert, List.mem_append] at member
    refine member.imp_right fun isNew => ?_
    rw [List.mem_singleton.1 isNew, made]
    simp [Node.ofPayload, Kind.attributes, Dict.ofPairs, Dict.update, Dict.get?_set_of_ne]
  · rw [materialiseIpAddress_of_found found, Prod.mk.injEq] at ran
    obtain ⟨-, rfl⟩ := ran
    exact fun other member => Or.inl member

/-- Wiring the addresses of a payload adds nodes of those addresses only. -/
theorem wireAddresses_newAddresses
    {sec : Section} {namespaceId : Option String} {payload wired : Payload} {sot after : Sot}
    (oneAddress : sec.ipField = none ∨ sec.primaryAddressField = none)
    (ran : wireAddresses client sec client.defaultBranch namespaceId payload sot =
      (.ok wired, after)) :
    NewAddresses client ((sec.ipField.bind payload.get?).toList ++
      ((sec.primaryAddressField.bind payload.get?).filter fun _ => namespaceId.isSome).toList)
      sot after := by
  have same : ∀ addresses, NewAddresses client addresses sot sot :=
    fun addresses => .of_evolves (Evolves.refl [] sot) List.not_mem_nil addresses
  rcases wireAddresses_eq_ok oneAddress ran with ⟨wires, noPrimary⟩ | ⟨wires, noIp⟩
  · rcases wireIpAddresses_eq_ok wires with
      ⟨-, rfl, -⟩ | ⟨id, ip, address, ipId, -, ipField, present, materialised, -⟩
    · exact same _
    · have newAddresses := materialiseIpAddress_newAddresses materialised
      simpa [ipField, present, noPrimary] using newAddresses
  · rcases wirePrimaryAddress_eq_ok wires with
      ⟨-, rfl, -⟩ | ⟨id, primary, address, ipId, isId, primaryField, present, materialised, -⟩
    · exact same _
    · have newAddresses := materialiseIpAddress_newAddresses materialised
      simpa [primaryField, present, noIp, isId, Option.filter] using newAddresses

theorem NewAddresses.mono
    {addresses more : List Json} {before after : Sot}
    (newAddresses : NewAddresses client addresses before after)
    (subset : addresses ⊆ more) : NewAddresses client more before after :=
  fun node member => (newAddresses node member).imp_right fun isAddress => subset isAddress

/-- An upsert changes nodes of its kind only. -/
theorem upsertNode_evolves
    {sec : Section} (keyed : sec.Keyed) {payload : Payload} {sot after : Sot}
    {outcome : String × Bool}
    (ran : upsertNode client sec.kind (lookupFilters sec payload) payload client.defaultBranch sot =
      (.ok outcome, after)) : Evolves client [sec.kind] sot after := by
  by_cases present : sec.upserting.Present payload ((client.home sot).nodes sec.kind)
  · obtain ⟨id, final, run, evolves, -⟩ := upsertNode_present keyed present client.defaultBranch
    rw [run, Prod.mk.injEq] at ran
    exact ran.2 ▸ evolves
  · have absent : ((client.home sot).nodes sec.kind).filter (sec.hits payload) = [] :=
      not_not.1 fun nonempty => present ((present_iff_filter_ne_nil sec payload _).2 nonempty)
    obtain ⟨node, fresh, -, run⟩ := upsertNode_of_absent absent
    rw [run, Prod.mk.injEq] at ran
    exact ran.2 ▸ evolves_insert client sot sec.kind node fresh

/-- An item adds nodes of its own addresses only. -/
theorem upsertItem_newAddresses
    {name : SectionName} (generic : name ∉ bgpSections) {item : Payload}
    {namespaceId : Option String} {sot after : Sot} {created : Bool}
    (ran : upsertItem client (sections name) item client.defaultBranch namespaceId sot =
      (.ok created, after)) :
    NewAddresses client ((sections name).declare (fun _ => namespaceId.isSome) item).addresses
      sot after := by
  have clear := clear_sections generic
  have wellFormed := wellFormed_sections generic
  obtain ⟨resolved, request, middle, outcome, resolvesIn, wires, upserts⟩ := upsertItem_eq_ok ran
  have newAddresses := wireAddresses_newAddresses wellFormed.oneAddress wires
  have upserted : NewAddresses client [] middle after := by
    apply NewAddresses.of_evolves (upsertNode_evolves wellFormed.keyed upserts)
    rw [List.mem_singleton]
    exact wellFormed.notAddress.symm
  apply (newAddresses.trans upserted).mono
  rw [List.append_nil, Declaration.addresses]
  intro address member
  rw [List.mem_append, Option.mem_toList, Option.mem_toList] at member ⊢
  rcases member with isIp | isPrimary
  · obtain ⟨ip, ipField, present⟩ := Option.bind_eq_some_iff.1 isIp
    rw [get?_of_unwired resolvesIn (clear.ipField ip ipField).2.1
      fun injected => (clear.namespaceField ip injected).2.1 ipField] at present
    have outside : "ip_addresses" ∉ (sections name).relationships.map Prod.fst := by
      intro isRel
      apply (clear.relationships _ isRel).2.2.2
      simp [Section.wiring, ipField]
    refine Or.inl ((Section.peersOf_addresses outside _ item).trans ?_)
    rw [ipField, Option.bind_some, present]
  · obtain ⟨given, counts⟩ := Option.filter_eq_some_iff.1 isPrimary
    obtain ⟨primary, primaryField, present⟩ := Option.bind_eq_some_iff.1 given
    rw [get?_of_unwired resolvesIn (clear.primaryAddress primary primaryField).2
      fun injected => (clear.namespaceField primary injected).2.2.1 primaryField] at present
    have outside : "primary_address" ∉ (sections name).relationships.map Prod.fst := by
      intro isRel
      apply (clear.relationships _ isRel).2.2.2
      simp [Section.wiring, primaryField]
    refine Or.inr ((Section.peersOf_primary outside _ item).trans ?_)
    rw [primaryField, Option.bind_some, present]
    exact Option.filter_eq_some_iff.2 ⟨rfl, counts⟩

/-- The items of a section add nodes of their own addresses only. -/
theorem seedItems_newAddresses
    {name : SectionName} (generic : name ∉ bgpSections) {namespaceId : Option String}
    {items : List Payload} {tally final : Tally} {sot after : Sot}
    (ran : seedItems client name client.defaultBranch namespaceId items tally sot =
      (.ok final, after)) :
    NewAddresses client ((items.map ((sections name).declare fun _ => namespaceId.isSome)).flatMap
      Declaration.addresses) sot after := by
  induction items generalizing tally sot with
  | nil =>
      obtain ⟨-, rfl⟩ := Program.pure_eq_ok_iff.1 ran
      exact .of_evolves (Evolves.refl [] sot) List.not_mem_nil _
  | cons item rest induction =>
      rw [seedItems, Program.bind_eq_ok_iff] at ran
      obtain ⟨created, middle, first, ran⟩ := ran
      exact (upsertItem_newAddresses generic first).trans (induction ran)

/-- The generic sections add nodes of the addresses of their items only. -/
theorem seedSections_newAddresses
    {dataset : Dataset} {namespaceId : Option String}
    (namespaced : wantsNamespace dataset = namespaceId.isSome)
    {names : List SectionName}
    {tally final : Tally} {sot after : Sot}
    (ran : seedSections client dataset client.defaultBranch namespaceId names tally sot =
      (.ok final, after)) :
    NewAddresses client (names.flatMap fun name =>
      (writtenItems dataset name).flatMap Declaration.addresses) sot after := by
  induction names generalizing tally sot with
  | nil =>
      obtain ⟨-, rfl⟩ := Program.pure_eq_ok_iff.1 ran
      exact .of_evolves (Evolves.refl [] sot) List.not_mem_nil _
  | cons name rest induction =>
      rw [List.flatMap_cons]
      rcases seedSections_cons_eq_ok ran with
        ⟨-, ran⟩ | ⟨generic, value, items, next, middle, present, itemsOk, seeded, ran⟩
      · exact (induction ran).mono (List.subset_append_right _ _)
      · apply NewAddresses.trans _ (induction ran)
        have newAddresses := seedItems_newAddresses generic seeded
        have isItems : seededItems dataset name = items := by
          rw [seededItems, present, Option.map_some, itemsOk]
        rw [writtenItems, isItems, namespaced]
        exact newAddresses

end Snapl.Intent
