import Snapl.Intent.SeedEffects

/-!
# Items of the seed

An item of a generic section is resolved against the nodes its references lead
to, its addresses get nodes, and the payload is served as one request against
the nodes of the section's kind.  When the request and the addresses find their
nodes, the item creates nothing.
-/

namespace Snapl.Intent

open Snapl.Library SeedIngester

variable (client : InfrahubClient)

/-! ## One upsert -/

/-- A node made for a payload, under an identifier that was not taken. -/
def Section.Made (sec : Section) (taken : List String) (payload : Payload) (node : Node) :
    Prop :=
  (∀ key ∈ sec.lookupRelFields, ∀ value, payload.get? key = some value →
    ∃ id, value = .str id) ∧
  ∃ id, id ∉ taken ∧ node = Node.ofPayload sec.kind payload id

/-- A key of a section: its fields are attributes or references. -/
structure Section.Keyed (sec : Section) : Prop where
  attributes : ∀ key ∈ sec.lookup, key ∉ sec.lookupRelFields → key ∈ sec.kind.attributes
  relationships : ∀ key ∈ sec.lookupRelFields, key ∈ sec.kind.relationships
  notAddress : sec.kind ≠ .ipamIPAddress

theorem Section.WellFormed.keyed {sec : Section} (wellFormed : sec.WellFormed) : sec.Keyed where
  attributes := wellFormed.attributes
  relationships key member := (wellFormed.relationships key member).2.1
  notAddress := wellFormed.notAddress

/-- A node made for a payload has its natural key. -/
theorem Section.hits_of_made
    {sec : Section} (keyed : sec.Keyed) {taken : List String} {payload : Payload} {node : Node}
    (made : sec.Made taken payload node) : sec.upserting.hits payload node = true := by
  obtain ⟨resolved, id, -, rfl⟩ := made
  apply (sec.hits_iff payload _).2
  intro key member value present
  by_cases isRel : key ∈ sec.lookupRelFields
  · obtain ⟨peer, rfl⟩ := resolved key isRel value present
    rw [passes_lookupFilter_of_mem isRel, Node.ofPayload]
    simp [keyed.relationships key isRel, present, peerIds]
  · rw [passes_lookupFilter_of_not_mem isRel, Node.ofPayload]
    simp [keyed.attributes key member isRel, present]

/-- A node made for a payload already has its values. -/
theorem Section.write_of_made
    {sec : Section} {taken : List String} {payload : Payload} {node : Node}
    (made : sec.Made taken payload node) : sec.upserting.write payload node = node := by
  obtain ⟨-, id, -, rfl⟩ := made
  apply Node.ext
  · exact Node.assignValues_id _ _ _
  · intro field
    have written : (sec.upserting.write payload
          (Node.ofPayload sec.kind payload id)).attributes field =
        if field ∈ sec.kind.attributes then
          (payload.get? field).getD ((Node.ofPayload sec.kind payload id).attributes field)
        else (Node.ofPayload sec.kind payload id).attributes field :=
      Node.assignValues_attributes _ _ _ _
    rw [written, Node.ofPayload]
    by_cases known : field ∈ sec.kind.attributes
    · simp only [if_pos known]
      rcases payload.get? field with _ | value
      · rfl
      · rfl
    · simp only [if_neg known]
  · exact Node.assignValues_relations _ _ _

variable {client}

theorem matching_lookupFilters (sec : Section) (payload : Payload) (contents : Contents) :
    contents.matching sec.kind (lookupFilters sec payload) =
      (contents.nodes sec.kind).filter (sec.hits payload) := rfl

theorem upsertNode_of_found
    {kind : Kind} {filters : List Filter} {payload : Payload} {sot : Sot} {node : Node}
    {rest : List Node} (found : (client.home sot).matching kind filters = node :: rest)
    (branch : String) :
    upsertNode client kind filters payload branch sot =
      (.ok (node.id, false), Function.update sot client.defaultBranch
        ((client.home sot).put kind (node.assignValues kind payload))) := by
  rw [upsertNode, Program.bind_of_ok (client.filters_apply kind filters sot), found]
  rfl

theorem upsertNode_of_absent
    {kind : Kind} {filters : List Filter} {payload : Payload} {sot : Sot}
    (absent : (client.home sot).matching kind filters = []) :
    ∃ node fresh, node = Node.ofPayload kind payload (client.newId (client.home sot).mentioned) ∧
      upsertNode client kind filters payload client.defaultBranch sot =
        (.ok (node.id, true), Function.update sot client.defaultBranch
          ((client.home sot).insert kind node fresh)) := by
  refine ⟨_, client.newId_fresh _, rfl, ?_⟩
  rw [upsertNode, Program.bind_of_ok (client.filters_apply kind filters sot), absent]
  rfl

theorem present_iff_filter_ne_nil (sec : Section) (payload : Payload) (nodes : List Node) :
    sec.upserting.Present payload nodes ↔ nodes.filter (sec.hits payload) ≠ [] := by
  constructor
  · rintro ⟨node, member, hit⟩ empty
    have inFilter : node ∈ nodes.filter (sec.hits payload) :=
      List.mem_filter.2 ⟨member, hit⟩
    rw [empty] at inFilter
    cases inFilter
  · intro nonempty
    obtain ⟨node, member⟩ := List.exists_mem_of_ne_nil _ nonempty
    obtain ⟨inNodes, hit⟩ := List.mem_filter.1 member
    exact ⟨node, inNodes, hit⟩

/-- A request that finds a node writes to it and returns it. -/
theorem upsertNode_present
    {sec : Section} (keyed : sec.Keyed) {payload : Payload} {sot : Sot}
    (present : sec.upserting.Present payload ((client.home sot).nodes sec.kind))
    (branch : String) :
    ∃ id after,
      upsertNode client sec.kind (lookupFilters sec payload) payload branch sot =
        (.ok (id, false), after) ∧
      Evolves client [sec.kind] sot after ∧
      (client.home after).nodes sec.kind =
        sec.upserting.writeFirst payload ((client.home sot).nodes sec.kind) := by
  have nonempty := (present_iff_filter_ne_nil sec payload _).1 present
  rcases found : ((client.home sot).nodes sec.kind).filter (sec.hits payload) with _ | ⟨node, rest⟩
  · exact absurd found nonempty
  · have member : node ∈ (client.home sot).nodes sec.kind := by
      apply List.mem_of_mem_filter
      rw [found]
      exact List.mem_cons_self
    refine ⟨_, _, upsertNode_of_found found branch, ?_, ?_⟩
    · exact evolves_put client sot keyed.notAddress member (Node.assignValues_id _ _ _)
        (Node.assignValues_relations _ _ _)
    · rw [client.home_update, Contents.nodes_put]
      exact map_put_eq_writeFirst sec payload ((client.home sot).distinct sec.kind) found

/-- Whatever a request finds, it is served. -/
theorem upsertNode_serves
    {sec : Section} (keyed : sec.Keyed) {payload : Payload} {taken : List String}
    (resolved : ∀ key ∈ sec.lookupRelFields, ∀ value, payload.get? key = some value →
      ∃ id, value = .str id)
    {sot after : Sot} {outcome : String × Bool}
    (known : taken ⊆ (client.home sot).mentioned)
    (ran : upsertNode client sec.kind (lookupFilters sec payload) payload client.defaultBranch sot =
      (.ok outcome, after)) :
    Evolves client [sec.kind] sot after ∧
    sec.upserting.Serves (sec.Made taken) [payload] ((client.home sot).nodes sec.kind)
      ((client.home after).nodes sec.kind) := by
  by_cases present : sec.upserting.Present payload ((client.home sot).nodes sec.kind)
  · obtain ⟨id, final, run, evolves, nodes⟩ :=
      upsertNode_present keyed present client.defaultBranch
    rw [run, Prod.mk.injEq] at ran
    obtain ⟨-, rfl⟩ := ran
    refine ⟨evolves, ?_⟩
    rw [nodes]
    exact .updated present (.done _)
  · have absent : ((client.home sot).nodes sec.kind).filter (sec.hits payload) = [] :=
      not_not.1 fun nonempty => present ((present_iff_filter_ne_nil sec payload _).2 nonempty)
    obtain ⟨node, fresh, made, run⟩ := upsertNode_of_absent absent
    rw [run, Prod.mk.injEq] at ran
    obtain ⟨-, rfl⟩ := ran
    refine ⟨evolves_insert client sot sec.kind node fresh, ?_⟩
    rw [client.home_update, Contents.nodes_insert]
    apply Upserting.Serves.created present
    · refine ⟨resolved, _, ?_, made⟩
      intro member
      exact client.newId_fresh _ (known member)
    · exact .done _

/-! ## References -/

/-- The payload of an item once its references are rewritten to identifiers. -/
def resolveIn (contents : Contents) (kind : Kind) :
    List (String × Rel) → Payload → Except ValidationProblem Payload
  | [], resolved => .ok resolved
  | (field, rel) :: rest, resolved =>
      match resolved.get? field with
      | none => resolveIn contents kind rest resolved
      | some value =>
          match contents.matching rel.peerKind [.value rel.lookupAttr value] with
          | [] => .error (.unresolved field value kind rel.peerKind rel.lookupAttr)
          | peer :: _ => resolveIn contents kind rest (resolved.set field (.str peer.id))

/-- Resolving references reads the default branch and changes nothing. -/
theorem resolveRelationships_eq
    (kind : Kind) (relationships : List (String × Rel)) (item : Payload) (sot : Sot) :
    resolveRelationships client kind relationships item sot =
      ((resolveIn (client.home sot) kind relationships item).mapError .validation, sot) := by
  induction relationships generalizing item with
  | nil => rfl
  | cons entry rest induction =>
      obtain ⟨field, rel⟩ := entry
      rw [resolveRelationships, resolveIn]
      rcases item.get? field with _ | value
      · exact induction item
      · dsimp only
        rw [Program.bind_of_ok (client.filters_apply _ _ sot)]
        rcases (client.home sot).matching rel.peerKind [.value rel.lookupAttr value] with
          _ | ⟨peer, others⟩
        · rfl
        · exact induction _

/-- Resolving reads the nodes of the peers' kinds only. -/
theorem resolveIn_congr
    {contents other : Contents} (kind : Kind) {relationships : List (String × Rel)}
    (same : ∀ rel ∈ relationships.map Prod.snd,
      contents.nodes rel.peerKind = other.nodes rel.peerKind) (item : Payload) :
    resolveIn contents kind relationships item = resolveIn other kind relationships item := by
  induction relationships generalizing item with
  | nil => rfl
  | cons entry rest induction =>
      obtain ⟨field, rel⟩ := entry
      have later : ∀ rel ∈ rest.map Prod.snd,
          contents.nodes rel.peerKind = other.nodes rel.peerKind := by
        intro rel member
        exact same rel (List.mem_cons_of_mem _ member)
      have first : contents.matching rel.peerKind = other.matching rel.peerKind := by
        funext filters
        rw [Contents.matching, Contents.matching, same rel List.mem_cons_self]
      rw [resolveIn, resolveIn, first]
      rcases item.get? field with _ | value
      · exact induction later item
      · dsimp only
        rcases other.matching rel.peerKind [.value rel.lookupAttr value] with _ | ⟨peer, others⟩
        · rfl
        · exact induction later _

/-- A field that holds an identifier goes on holding one. -/
theorem resolveIn_keeps_id
    {contents : Contents} {kind : Kind} {relationships : List (String × Rel)}
    {item resolved : Payload}
    (ran : resolveIn contents kind relationships item = .ok resolved) {field : String}
    (holds : ∀ value, item.get? field = some value → ∃ id, value = .str id) :
    ∀ value, resolved.get? field = some value → ∃ id, value = .str id := by
  induction relationships generalizing item with
  | nil =>
      cases ran
      exact holds
  | cons entry rest induction =>
      obtain ⟨other, rel⟩ := entry
      rw [resolveIn] at ran
      rcases present : item.get? other with _ | value
      · rw [present] at ran
        exact induction ran holds
      · rw [present] at ran
        dsimp only at ran
        rcases found : contents.matching rel.peerKind [.value rel.lookupAttr value] with
          _ | ⟨peer, others⟩
        · rw [found] at ran
          cases ran
        · rw [found] at ran
          apply induction ran
          intro current held
          by_cases same : field = other
          · subst same
            rw [Dict.get?_set_self, Option.some.injEq] at held
            exact ⟨peer.id, held.symm⟩
          · rw [Dict.get?_set_of_ne _ _ same] at held
            exact holds current held

/-- Every reference field of a resolved payload holds an identifier. -/
theorem resolveIn_ids
    {contents : Contents} {kind : Kind} {relationships : List (String × Rel)}
    {item resolved : Payload}
    (ran : resolveIn contents kind relationships item = .ok resolved) :
    ∀ field ∈ relationships.map Prod.fst, ∀ value,
      resolved.get? field = some value → ∃ id, value = .str id := by
  induction relationships generalizing item with
  | nil =>
      intro field member
      cases member
  | cons entry rest induction =>
      obtain ⟨other, rel⟩ := entry
      intro field member
      rw [resolveIn] at ran
      rcases present : item.get? other with _ | value
      · rw [present] at ran
        rcases List.mem_cons.1 member with rfl | later
        · apply resolveIn_keeps_id ran
          intro value held
          rw [present] at held
          cases held
        · exact induction ran field later
      · rw [present] at ran
        dsimp only at ran
        rcases found : contents.matching rel.peerKind [.value rel.lookupAttr value] with
          _ | ⟨peer, others⟩
        · rw [found] at ran
          cases ran
        · rw [found] at ran
          rcases List.mem_cons.1 member with rfl | later
          · apply resolveIn_keeps_id ran
            intro current held
            rw [Dict.get?_set_self, Option.some.injEq] at held
            exact ⟨peer.id, held.symm⟩
          · exact induction ran field later

/-- Fields that are no references are left as they are. -/
theorem resolveIn_get?_of_not_mem
    {contents : Contents} {kind : Kind} {relationships : List (String × Rel)}
    {item resolved : Payload}
    (ran : resolveIn contents kind relationships item = .ok resolved) {key : String}
    (outside : key ∉ relationships.map Prod.fst) : resolved.get? key = item.get? key := by
  induction relationships generalizing item with
  | nil =>
      cases ran
      rfl
  | cons entry rest induction =>
      obtain ⟨field, rel⟩ := entry
      rw [List.map_cons, List.mem_cons, not_or] at outside
      rw [resolveIn] at ran
      rcases present : item.get? field with _ | value
      · rw [present] at ran
        exact induction ran outside.2
      · rw [present] at ran
        dsimp only at ran
        rcases found : contents.matching rel.peerKind [.value rel.lookupAttr value] with
          _ | ⟨peer, others⟩
        · rw [found] at ran
          cases ran
        · rw [found] at ran
          rw [induction ran outside.2, Dict.get?_set_of_ne _ _ outside.1]

/-! ## Addresses -/

/-- The nodes of an address in a namespace. -/
def addressNodes (contents : Contents) (namespaceId : String) (address : Json) : List Node :=
  contents.matching .ipamIPAddress
    [.value "address" address, .peers "ip_namespace" [.str namespaceId]]

theorem addressNodes_eq_filter (contents : Contents) (namespaceId : String) (address : Json) :
    addressNodes contents namespaceId address =
      (contents.nodes .ipamIPAddress).filter fun node =>
        [Filter.value "address" address, .peers "ip_namespace" [.str namespaceId]].all
          fun filter => filter.passes node := rfl

/-- Addresses that are there stay there, the first of several included. -/
theorem addressNodes_of_prefix
    {before after : Contents}
    (grown : before.nodes .ipamIPAddress <+: after.nodes .ipamIPAddress)
    {namespaceId : String} {address : Json} {node : Node} {rest : List Node}
    (found : addressNodes before namespaceId address = node :: rest) :
    ∃ more, addressNodes after namespaceId address = node :: more := by
  obtain ⟨extra, equal⟩ := grown
  rw [addressNodes_eq_filter, ← equal, List.filter_append, ← addressNodes_eq_filter, found,
    List.cons_append]
  exact ⟨_, rfl⟩

theorem materialiseIpAddress_of_found
    {sot : Sot} {namespaceId : String} {address : Json} {node : Node} {rest : List Node}
    (found : addressNodes (client.home sot) namespaceId address = node :: rest)
    (branch : String) :
    materialiseIpAddress client address namespaceId branch sot = (.ok node.id, sot) := by
  rw [materialiseIpAddress, Program.bind_of_ok (client.filters_apply _ _ sot),
    ← addressNodes, found]
  rfl

/--
Materialising an address adds at most an address node; its node is there
afterwards, and nothing changes when it was there before.
-/
theorem materialiseIpAddress_spec
    (sot : Sot) (namespaceId : String) (address : Json) :
    ∃ id after, materialiseIpAddress client address namespaceId client.defaultBranch sot =
        (.ok id, after) ∧
      Evolves client [.ipamIPAddress] sot after ∧
      (∃ node rest, addressNodes (client.home after) namespaceId address = node :: rest ∧
        node.id = id) ∧
      (addressNodes (client.home sot) namespaceId address ≠ [] → after = sot) := by
  rcases found : addressNodes (client.home sot) namespaceId address with _ | ⟨node, rest⟩
  · obtain ⟨node, made, fresh⟩ : ∃ node, node = Node.ofPayload .ipamIPAddress
        (Dict.ofPairs [("address", address), ("ip_namespace", .str namespaceId)])
        (client.newId (client.home sot).mentioned) ∧ node.id ∉ (client.home sot).mentioned :=
      ⟨_, rfl, client.newId_fresh _⟩
    refine ⟨node.id, _, ?_, evolves_insert client sot .ipamIPAddress node fresh,
      ⟨node, [], ?_, rfl⟩, fun present => absurd rfl present⟩
    · rw [materialiseIpAddress, Program.bind_of_ok (client.filters_apply _ _ sot),
        ← addressNodes, found]
      subst made
      rfl
    · have passes : [Filter.value "address" address, .peers "ip_namespace" [.str namespaceId]].all
          (fun filter => filter.passes node) = true := by
        rw [made]
        simp [Filter.passes, Node.ofPayload, Kind.attributes, Kind.relationships, Dict.ofPairs,
          Dict.update, Dict.get?_set_of_ne, peerIds]
      rw [client.home_update, addressNodes_eq_filter, Contents.nodes_insert, List.filter_append,
        ← addressNodes_eq_filter, found, List.nil_append]
      exact List.filter_cons_of_pos passes
  · exact ⟨node.id, sot, materialiseIpAddress_of_found found _, Evolves.refl _ sot,
      ⟨node, rest, found, rfl⟩, fun _ => rfl⟩

/-- The fields wiring the addresses of a section touches. -/
def Section.wiring (sec : Section) : List String :=
  sec.ipField.toList ++ (if sec.ipField.isSome then ["ip_addresses"] else []) ++
    (if sec.primaryAddressField.isSome then ["primary_address"] else [])

theorem Section.WellFormed.not_mem_wiring
    {sec : Section} (wellFormed : sec.WellFormed) {field : String}
    (known : field ∈ sec.kind.attributes ∨ field ∈ sec.lookup) : field ∉ sec.wiring := by
  intro member
  rw [wiring, List.mem_append, List.mem_append] at member
  rcases member with (isIp | isAddresses) | isPrimary
  · have excluded := wellFormed.ipField field (Option.mem_toList.1 isIp)
    exact known.elim excluded.1 excluded.2.1
  · rcases present : sec.ipField with _ | ip
    · rw [present] at isAddresses
      cases isAddresses
    · rw [present] at isAddresses
      obtain rfl := List.mem_singleton.1 isAddresses
      have excluded := wellFormed.ipField ip present
      exact known.elim excluded.2.2.1 excluded.2.2.2
  · cases present : sec.primaryAddressField.isSome with
    | false =>
        rw [present] at isPrimary
        cases isPrimary
    | true =>
        rw [present] at isPrimary
        obtain rfl := List.mem_singleton.1 isPrimary
        have excluded := wellFormed.primaryAddress present
        exact known.elim excluded.1 excluded.2

/-- The payload is wired to the nodes of its addresses. -/
structure Section.Wired (sec : Section) (namespaceId : Option String) (contents : Contents)
    (payload wired : Payload) : Prop where
  others : ∀ field, field ∉ sec.wiring → wired.get? field = payload.get? field
  addresses : ∀ id ∈ namespaceId, ∀ field ∈ sec.ipField, ∀ address,
    payload.get? field = some address →
      ∃ node rest, addressNodes contents id address = node :: rest ∧
        wired.get? "ip_addresses" = some (.arr [.str node.id])
  primary : ∀ id ∈ namespaceId, ∀ field ∈ sec.primaryAddressField, ∀ address,
    payload.get? field = some address → addressNodes contents id address ≠ []

theorem Section.Wired.mono
    {sec : Section} {namespaceId : Option String} {before after : Contents}
    {payload wired : Payload} (isWired : sec.Wired namespaceId before payload wired)
    (grown : before.nodes .ipamIPAddress <+: after.nodes .ipamIPAddress) :
    sec.Wired namespaceId after payload wired where
  others := isWired.others
  addresses id isId field isField address present := by
    obtain ⟨node, rest, found, linked⟩ := isWired.addresses id isId field isField address present
    obtain ⟨more, still⟩ := addressNodes_of_prefix grown found
    exact ⟨node, more, still, linked⟩
  primary id isId field isField address present := by
    have nonempty := isWired.primary id isId field isField address present
    obtain ⟨node, rest, found⟩ := List.exists_cons_of_ne_nil nonempty
    obtain ⟨more, still⟩ := addressNodes_of_prefix grown found
    rw [still]
    exact List.cons_ne_nil _ _

theorem Section.Wired.agrees
    {sec : Section} (wellFormed : sec.WellFormed) {namespaceId : Option String}
    {contents : Contents} {payload wired : Payload}
    (isWired : sec.Wired namespaceId contents payload wired) : sec.Agrees payload wired :=
  fun field known => (isWired.others field (wellFormed.not_mem_wiring known)).symm

/-- Every address of the payload that gets a node has one. -/
structure Section.Addressed (sec : Section) (namespaceId : Option String) (contents : Contents)
    (payload : Payload) : Prop where
  addresses : ∀ id ∈ namespaceId, ∀ field ∈ sec.ipField, ∀ address,
    payload.get? field = some address → addressNodes contents id address ≠ []
  primary : ∀ id ∈ namespaceId, ∀ field ∈ sec.primaryAddressField, ∀ address,
    payload.get? field = some address → addressNodes contents id address ≠ []

theorem Section.Wired.addressed
    {sec : Section} {namespaceId : Option String} {contents : Contents}
    {payload wired : Payload} (isWired : sec.Wired namespaceId contents payload wired) :
    sec.Addressed namespaceId contents payload where
  addresses id isId field isField address present := by
    obtain ⟨node, rest, found, -⟩ := isWired.addresses id isId field isField address present
    rw [found]
    exact List.cons_ne_nil _ _
  primary := isWired.primary

theorem wireIpAddresses_of_none
    {sec : Section} {namespaceId : Option String}
    (unwired : sec.ipField = none ∨ namespaceId = none) (branch : String) (payload : Payload)
    (sot : Sot) :
    wireIpAddresses client sec branch namespaceId payload sot = (.ok payload, sot) := by
  unfold wireIpAddresses
  rcases unwired with noField | noNamespace
  · rw [noField]
    rfl
  · rw [noNamespace]
    rcases sec.ipField with _ | field <;> rfl

theorem wirePrimaryAddress_of_none
    {sec : Section} {namespaceId : Option String}
    (unwired : sec.primaryAddressField = none ∨ namespaceId = none) (branch : String)
    (payload : Payload) (sot : Sot) :
    wirePrimaryAddress client sec branch namespaceId payload sot = (.ok payload, sot) := by
  unfold wirePrimaryAddress
  rcases unwired with noField | noNamespace
  · rw [noField]
    rfl
  · rw [noNamespace]
    rcases sec.primaryAddressField with _ | field <;> rfl

theorem wireIpAddresses_of_absent
    {sec : Section} {ip id : String} (ipField : sec.ipField = some ip) {payload : Payload}
    (absent : payload.get? ip = none) (branch : String) (sot : Sot) :
    wireIpAddresses client sec branch (some id) payload sot = (.ok payload, sot) := by
  unfold wireIpAddresses
  rw [ipField]
  dsimp only
  rw [absent]
  rfl

theorem wireIpAddresses_of_present
    {sec : Section} {ip id : String} (ipField : sec.ipField = some ip) {payload : Payload}
    {address : Json} (present : payload.get? ip = some address) {branch ipId : String}
    {sot after : Sot}
    (ran : materialiseIpAddress client address id branch sot = (.ok ipId, after)) :
    wireIpAddresses client sec branch (some id) payload sot =
      (.ok ((payload.erase ip).set "ip_addresses" (.arr [.str ipId])), after) := by
  unfold wireIpAddresses
  rw [ipField]
  dsimp only
  rw [present]
  dsimp only
  rw [Program.bind_of_ok ran]
  rfl

theorem wirePrimaryAddress_of_absent
    {sec : Section} {primary id : String} (primaryField : sec.primaryAddressField = some primary)
    {payload : Payload} (absent : payload.get? primary = none) (branch : String) (sot : Sot) :
    wirePrimaryAddress client sec branch (some id) payload sot = (.ok payload, sot) := by
  unfold wirePrimaryAddress
  rw [primaryField]
  dsimp only
  rw [absent]
  rfl

theorem wirePrimaryAddress_of_present
    {sec : Section} {primary id : String} (primaryField : sec.primaryAddressField = some primary)
    {payload : Payload} {address : Json} (present : payload.get? primary = some address)
    {branch ipId : String} {sot after : Sot}
    (ran : materialiseIpAddress client address id branch sot = (.ok ipId, after)) :
    wirePrimaryAddress client sec branch (some id) payload sot =
      (.ok (payload.set "primary_address" (.str ipId)), after) := by
  unfold wirePrimaryAddress
  rw [primaryField]
  dsimp only
  rw [present]
  dsimp only
  rw [Program.bind_of_ok ran]
  rfl

/-- A payload without addresses to wire is wired as it is. -/
theorem Section.wired_self
    {sec : Section} {namespaceId : Option String} {payload : Payload}
    (noIp : ∀ id ∈ namespaceId, ∀ field ∈ sec.ipField, payload.get? field = none)
    (noPrimary : ∀ id ∈ namespaceId, ∀ field ∈ sec.primaryAddressField,
      payload.get? field = none) (contents : Contents) :
    sec.Wired namespaceId contents payload payload where
  others _ _ := rfl
  addresses id isId field isField address present := by
    rw [noIp id isId field isField] at present
    cases present
  primary id isId field isField address present := by
    rw [noPrimary id isId field isField] at present
    cases present

/-- Wiring adds address nodes only, and none when they are all there. -/
theorem wireAddresses_spec
    {sec : Section} (wellFormed : sec.WellFormed) (namespaceId : Option String)
    (payload : Payload) (sot : Sot) :
    ∃ wired after, wireAddresses client sec client.defaultBranch namespaceId payload sot =
        (.ok wired, after) ∧
      Evolves client [.ipamIPAddress] sot after ∧
      sec.Wired namespaceId (client.home after) payload wired ∧
      (sec.Addressed namespaceId (client.home sot) payload → after = sot) := by
  rcases namespaceId with _ | id
  · refine ⟨payload, sot, ?_, Evolves.refl _ sot, Section.wired_self ?_ ?_ _, fun _ => rfl⟩
    · rw [wireAddresses, Program.bind_of_ok (wireIpAddresses_of_none (Or.inr rfl) _ payload sot),
        wirePrimaryAddress_of_none (Or.inr rfl)]
    · intro id isId
      cases isId
    · intro id isId
      cases isId
  rcases ipField : sec.ipField with _ | ip
  · have first := @wireIpAddresses_of_none client sec (some id) (Or.inl ipField)
      client.defaultBranch payload sot
    have noIp : ∀ other ∈ some id, ∀ field ∈ sec.ipField, payload.get? field = none := by
      intro other _ field isField
      rw [ipField] at isField
      cases isField
    rw [wireAddresses, Program.bind_of_ok first]
    rcases primaryField : sec.primaryAddressField with _ | primary
    · refine ⟨payload, sot, wirePrimaryAddress_of_none (Or.inl primaryField) _ payload sot,
        Evolves.refl _ sot, Section.wired_self noIp ?_ _, fun _ => rfl⟩
      intro other _ field isField
      rw [primaryField] at isField
      cases isField
    · rcases present : payload.get? primary with _ | address
      · refine ⟨payload, sot, wirePrimaryAddress_of_absent primaryField present _ sot,
          Evolves.refl _ sot, Section.wired_self noIp ?_ _, fun _ => rfl⟩
        intro other _ field isField
        rw [primaryField] at isField
        cases isField
        exact present
      · obtain ⟨ipId, after, ran, evolves, ⟨node, rest, found, -⟩, unchanged⟩ :=
          @materialiseIpAddress_spec client sot id address
        refine ⟨_, after, wirePrimaryAddress_of_present primaryField present ran, evolves,
          ⟨?_, ?_, ?_⟩, ?_⟩
        · intro field outside
          apply Dict.get?_set_of_ne
          rintro rfl
          apply outside
          simp [Section.wiring, primaryField]
        · intro other isId field isField current isAddress
          rw [noIp other isId field isField] at isAddress
          cases isAddress
        · intro other isId field isField current isAddress
          rw [primaryField] at isField
          cases isField
          cases isId
          rw [present] at isAddress
          cases isAddress
          rw [found]
          exact List.cons_ne_nil _ _
        · intro addressed
          exact unchanged (addressed.primary id rfl primary primaryField address present)
  · have noPrimary : sec.primaryAddressField = none :=
      wellFormed.oneAddress.resolve_left (by rw [ipField]; exact Option.some_ne_none ip)
    have noPrimaryField : ∀ other ∈ some id, ∀ field ∈ sec.primaryAddressField,
        payload.get? field = none := by
      intro other _ field isField
      rw [noPrimary] at isField
      cases isField
    rcases present : payload.get? ip with _ | address
    · refine ⟨payload, sot, ?_, Evolves.refl _ sot, Section.wired_self ?_ noPrimaryField _,
        fun _ => rfl⟩
      · rw [wireAddresses, Program.bind_of_ok (wireIpAddresses_of_absent ipField present _ sot),
          wirePrimaryAddress_of_none (Or.inl noPrimary)]
      · intro other _ field isField
        rw [ipField] at isField
        cases isField
        exact present
    · obtain ⟨ipId, after, ran, evolves, ⟨node, rest, found, isNode⟩, unchanged⟩ :=
        @materialiseIpAddress_spec client sot id address
      refine ⟨(payload.erase ip).set "ip_addresses" (.arr [.str ipId]), after, ?_, evolves,
        ⟨?_, ?_, ?_⟩, ?_⟩
      · rw [wireAddresses, Program.bind_of_ok (wireIpAddresses_of_present ipField present ran),
          wirePrimaryAddress_of_none (Or.inl noPrimary)]
      · intro field outside
        have notIp : field ≠ ip := by
          rintro rfl
          apply outside
          simp [Section.wiring, ipField]
        have notAddresses : field ≠ "ip_addresses" := by
          rintro rfl
          apply outside
          simp [Section.wiring, ipField]
        rw [Dict.get?_set_of_ne _ _ notAddresses, Dict.get?_erase_of_ne _ notIp]
      · intro other isId field isField current isAddress
        rw [ipField] at isField
        cases isField
        cases isId
        rw [present] at isAddress
        cases isAddress
        refine ⟨node, rest, found, ?_⟩
        rw [isNode, Dict.get?_set_self]
      · intro other _ field isField
        rw [noPrimary] at isField
        cases isField
      · intro addressed
        exact unchanged (addressed.addresses id rfl ip ipField address present)

/-! ## One item -/

/-- The request an item comes down to. -/
def Section.Plans (sec : Section) (namespaceId : Option String) (contents : Contents)
    (item request : Payload) : Prop :=
  ∃ resolved, resolveIn contents sec.kind sec.relationships item = .ok resolved ∧
    sec.Wired namespaceId contents (withNamespace sec namespaceId resolved) request

/-- A plan outlives changes to nodes its references do not lead to. -/
theorem Section.Plans.mono
    {sec : Section} {namespaceId : Option String} {before after : Contents}
    {item request : Payload} (plans : sec.Plans namespaceId before item request)
    (same : ∀ rel ∈ sec.relationships.map Prod.snd,
      after.nodes rel.peerKind = before.nodes rel.peerKind)
    (grown : before.nodes .ipamIPAddress <+: after.nodes .ipamIPAddress) :
    sec.Plans namespaceId after item request := by
  obtain ⟨resolved, resolves, wired⟩ := plans
  exact ⟨resolved, (resolveIn_congr sec.kind same item).trans resolves, wired.mono grown⟩

theorem get?_withNamespace
    {sec : Section} {namespaceId : Option String} {payload : Payload} {field : String}
    (other : field ∉ sec.namespaceField) :
    (withNamespace sec namespaceId payload).get? field = payload.get? field := by
  unfold withNamespace
  rcases present : sec.namespaceField with _ | injected
  · rfl
  · rcases namespaceId with _ | id
    · rfl
    · apply Dict.get?_set_of_ne
      rintro rfl
      exact other present

/-- The references among the key of a planned request are identifiers. -/
theorem Section.Plans.resolved
    {sec : Section} (wellFormed : sec.WellFormed) {namespaceId : Option String}
    {contents : Contents} {item request : Payload}
    (plans : sec.Plans namespaceId contents item request) :
    ∀ key ∈ sec.lookupRelFields, ∀ value, request.get? key = some value →
      ∃ id, value = .str id := by
  obtain ⟨resolved, resolves, wired⟩ := plans
  intro key member value present
  have facts := wellFormed.relationships key member
  rw [wired.others key (wellFormed.not_mem_wiring (Or.inr facts.1)),
    get?_withNamespace fun injected => wellFormed.keyedNamespace key injected member] at present
  exact resolveIn_ids resolves key facts.2.2 value present

/-- An item that is upserted comes down to a request that is served. -/
theorem upsertItem_serves
    {sec : Section} (wellFormed : sec.WellFormed) {item : Payload}
    {namespaceId : Option String} {taken : List String} {sot after : Sot} {created : Bool}
    (known : taken ⊆ (client.home sot).mentioned)
    (ran : upsertItem client sec item client.defaultBranch namespaceId sot =
      (.ok created, after)) :
    Evolves client [sec.kind, .ipamIPAddress] sot after ∧
    ∃ request, sec.Plans namespaceId (client.home after) item request ∧
      sec.upserting.Serves (sec.Made taken) [request] ((client.home sot).nodes sec.kind)
        ((client.home after).nodes sec.kind) := by
  rw [upsertItem, Program.bind_eq_ok_iff] at ran
  obtain ⟨resolved, start, resolves, ran⟩ := ran
  rw [resolveRelationships_eq, Prod.mk.injEq] at resolves
  obtain ⟨resolves, rfl⟩ := resolves
  have resolvesIn : resolveIn (client.home sot) sec.kind sec.relationships item =
      .ok resolved := by
    rcases result : resolveIn (client.home sot) sec.kind sec.relationships item with
      problem | other
    · rw [result] at resolves
      cases resolves
    · rw [result] at resolves
      cases resolves
      rfl
  rw [Program.bind_eq_ok_iff] at ran
  obtain ⟨request, middle, wires, ran⟩ := ran
  obtain ⟨wired, final, wiresTo, evolves, isWired, -⟩ :=
    wireAddresses_spec wellFormed namespaceId (withNamespace sec namespaceId resolved) sot
  rw [wiresTo, Prod.mk.injEq, Except.ok.injEq] at wires
  obtain ⟨rfl, rfl⟩ := wires
  rw [Program.bind_eq_ok_iff] at ran
  obtain ⟨outcome, last, upserts, ran⟩ := ran
  obtain ⟨-, rfl⟩ := Program.pure_eq_ok_iff.1 ran
  have peers : ∀ rel ∈ sec.relationships.map Prod.snd,
      (client.home final).nodes rel.peerKind = (client.home sot).nodes rel.peerKind := by
    intro rel member
    apply evolves.others
    intro isAddress
    exact (wellFormed.otherPeers rel member).2 (List.mem_singleton.1 isAddress)
  have plans : sec.Plans namespaceId (client.home final) item wired :=
    ⟨resolved, (resolveIn_congr sec.kind peers item).trans resolvesIn, isWired⟩
  obtain ⟨upserted, serves⟩ := upsertNode_serves wellFormed.keyed
    (plans.resolved wellFormed) (List.Subset.trans known evolves.mentioned) upserts
  have sameNodes : (client.home final).nodes sec.kind = (client.home sot).nodes sec.kind := by
    apply evolves.others
    intro isAddress
    exact wellFormed.notAddress (List.mem_singleton.1 isAddress)
  refine ⟨(evolves.mono ?_).trans (upserted.mono ?_), wired, plans.mono ?_ upserted.addresses, ?_⟩
  · intro kind member
    exact List.mem_cons_of_mem _ member
  · intro kind member
    rw [List.mem_singleton.1 member]
    exact List.mem_cons_self
  · intro rel member
    apply upserted.others
    intro isKind
    exact (wellFormed.otherPeers rel member).1 (List.mem_singleton.1 isKind)
  · rw [← sameNodes]
    exact serves

/-- An item whose nodes are all there creates none. -/
theorem upsertItem_again
    {sec : Section} (wellFormed : sec.WellFormed) {item request : Payload}
    {namespaceId : Option String} {sot : Sot}
    (plans : sec.Plans namespaceId (client.home sot) item request)
    (present : sec.upserting.Present request ((client.home sot).nodes sec.kind)) :
    ∃ after, upsertItem client sec item client.defaultBranch namespaceId sot =
        (.ok false, after) ∧
      Evolves client [sec.kind] sot after ∧
      (client.home after).nodes sec.kind =
        sec.upserting.writeFirst request ((client.home sot).nodes sec.kind) := by
  obtain ⟨resolved, resolves, isWired⟩ := plans
  have resolvesTo : resolveRelationships client sec.kind sec.relationships item sot =
      (.ok resolved, sot) := by
    rw [resolveRelationships_eq, resolves]
    rfl
  obtain ⟨wired, final, wires, -, rewired, unchanged⟩ :=
    wireAddresses_spec wellFormed namespaceId (withNamespace sec namespaceId resolved) sot
  obtain rfl : final = sot := unchanged isWired.addressed
  have agrees : sec.Agrees request wired :=
    (isWired.agrees wellFormed).symm.trans (rewired.agrees wellFormed)
  obtain ⟨id, after, upserts, evolves, nodes⟩ := upsertNode_present wellFormed.keyed
    ((agrees.present_iff _).1 present) client.defaultBranch
  refine ⟨after, ?_, evolves, ?_⟩
  · rw [upsertItem, Program.bind_of_ok resolvesTo, Program.bind_of_ok wires,
      Program.bind_of_ok upserts]
    rfl
  · rw [nodes, agrees.writeFirst_eq]

end Snapl.Intent
