import Snapl.Intent.SeedSections

/-!
# What wiring links

The payload of an item is linked to nodes of its addresses, and only to those.
The plan of an item that was enough to seed it again does not say so of its
management address; a link does.
-/

namespace Snapl.Intent

open Snapl.Library SeedIngester

variable {client : InfrahubClient}

/-- Wiring leaves a payload as it is, or gives its address a node. -/
theorem wireIpAddresses_eq_ok
    {sec : Section} {branch : String} {namespaceId : Option String} {payload wired : Payload}
    {sot after : Sot}
    (ran : wireIpAddresses client sec branch namespaceId payload sot = (.ok wired, after)) :
    (wired = payload ∧ after = sot ∧
      (namespaceId = none ∨ sec.ipField.bind payload.get? = none)) ∨
    ∃ id ip address ipId, namespaceId = some id ∧ sec.ipField = some ip ∧
      payload.get? ip = some address ∧
      materialiseIpAddress client address id branch sot = (.ok ipId, after) ∧
      wired = (payload.erase ip).set "ip_addresses" (.arr [.str ipId]) := by
  rcases namespaceId with _ | id
  · rw [wireIpAddresses_of_none (Or.inr rfl), Prod.mk.injEq, Except.ok.injEq] at ran
    exact Or.inl ⟨ran.1.symm, ran.2.symm, Or.inl rfl⟩
  rcases ipField : sec.ipField with _ | ip
  · rw [wireIpAddresses_of_none (Or.inl ipField), Prod.mk.injEq, Except.ok.injEq] at ran
    exact Or.inl ⟨ran.1.symm, ran.2.symm, Or.inr rfl⟩
  rcases present : payload.get? ip with _ | address
  · rw [wireIpAddresses_of_absent ipField present, Prod.mk.injEq, Except.ok.injEq] at ran
    exact Or.inl ⟨ran.1.symm, ran.2.symm, Or.inr present⟩
  · unfold wireIpAddresses at ran
    rw [ipField] at ran
    dsimp only at ran
    rw [present] at ran
    dsimp only at ran
    rw [Program.bind_eq_ok_iff] at ran
    obtain ⟨ipId, middle, materialised, ran⟩ := ran
    obtain ⟨rfl, rfl⟩ := Program.pure_eq_ok_iff.1 ran
    exact Or.inr ⟨id, ip, address, ipId, rfl, rfl, present, materialised, rfl⟩

theorem wirePrimaryAddress_eq_ok
    {sec : Section} {branch : String} {namespaceId : Option String} {payload wired : Payload}
    {sot after : Sot}
    (ran : wirePrimaryAddress client sec branch namespaceId payload sot = (.ok wired, after)) :
    (wired = payload ∧ after = sot ∧
      (namespaceId = none ∨ sec.primaryAddressField.bind payload.get? = none)) ∨
    ∃ id primary address ipId, namespaceId = some id ∧
      sec.primaryAddressField = some primary ∧ payload.get? primary = some address ∧
      materialiseIpAddress client address id branch sot = (.ok ipId, after) ∧
      wired = payload.set "primary_address" (.str ipId) := by
  rcases namespaceId with _ | id
  · rw [wirePrimaryAddress_of_none (Or.inr rfl), Prod.mk.injEq, Except.ok.injEq] at ran
    exact Or.inl ⟨ran.1.symm, ran.2.symm, Or.inl rfl⟩
  rcases primaryField : sec.primaryAddressField with _ | primary
  · rw [wirePrimaryAddress_of_none (Or.inl primaryField), Prod.mk.injEq, Except.ok.injEq] at ran
    exact Or.inl ⟨ran.1.symm, ran.2.symm, Or.inr rfl⟩
  rcases present : payload.get? primary with _ | address
  · rw [wirePrimaryAddress_of_absent primaryField present, Prod.mk.injEq, Except.ok.injEq] at ran
    exact Or.inl ⟨ran.1.symm, ran.2.symm, Or.inr present⟩
  · unfold wirePrimaryAddress at ran
    rw [primaryField] at ran
    dsimp only at ran
    rw [present] at ran
    dsimp only at ran
    rw [Program.bind_eq_ok_iff] at ran
    obtain ⟨ipId, middle, materialised, ran⟩ := ran
    obtain ⟨rfl, rfl⟩ := Program.pure_eq_ok_iff.1 ran
    exact Or.inr ⟨id, primary, address, ipId, rfl, rfl, present, materialised, rfl⟩

/-- A section wires one kind of address at most, so one step of the two does all there is. -/
theorem wireAddresses_eq_ok
    {sec : Section} (oneAddress : sec.ipField = none ∨ sec.primaryAddressField = none)
    {branch : String} {namespaceId : Option String} {payload wired : Payload} {sot after : Sot}
    (ran : wireAddresses client sec branch namespaceId payload sot = (.ok wired, after)) :
    (wireIpAddresses client sec branch namespaceId payload sot = (.ok wired, after) ∧
      sec.primaryAddressField = none) ∨
    (wirePrimaryAddress client sec branch namespaceId payload sot = (.ok wired, after) ∧
      sec.ipField = none) := by
  rw [wireAddresses, Program.bind_eq_ok_iff] at ran
  obtain ⟨middle, between, first, second⟩ := ran
  rcases oneAddress with noIp | noPrimary
  · rw [wireIpAddresses_of_none (Or.inl noIp), Prod.mk.injEq, Except.ok.injEq] at first
    obtain ⟨rfl, rfl⟩ := first
    exact Or.inr ⟨second, noIp⟩
  · rw [wirePrimaryAddress_of_none (Or.inl noPrimary), Prod.mk.injEq, Except.ok.injEq] at second
    obtain ⟨rfl, rfl⟩ := second
    exact Or.inl ⟨first, noPrimary⟩

/-- The payload is wired to nodes of its addresses, and to nothing where it has none. -/
structure Section.Linked (sec : Section) (namespaceId : Option String) (contents : Contents)
    (payload wired : Payload) : Prop extends sec.Wired namespaceId contents payload wired where
  primaryNode : ∀ id ∈ namespaceId, ∀ field ∈ sec.primaryAddressField, ∀ address,
    payload.get? field = some address →
      ∃ node rest, addressNodes contents id address = node :: rest ∧
        wired.get? "primary_address" = some (.str node.id)
  noAddresses : ∀ field ∈ sec.ipField, payload.get? field = none →
    wired.get? "ip_addresses" = payload.get? "ip_addresses"
  noPrimary : ∀ field ∈ sec.primaryAddressField, payload.get? field = none ∨ namespaceId = none →
    wired.get? "primary_address" = payload.get? "primary_address"

theorem Section.Linked.mono
    {sec : Section} {namespaceId : Option String} {before after : Contents}
    {payload wired : Payload} (linked : sec.Linked namespaceId before payload wired)
    (grown : before.nodes .ipamIPAddress <+: after.nodes .ipamIPAddress) :
    sec.Linked namespaceId after payload wired where
  toWired := linked.toWired.mono grown
  primaryNode id isId field isField address present := by
    obtain ⟨node, rest, found, isLinked⟩ :=
      linked.primaryNode id isId field isField address present
    obtain ⟨more, still⟩ := addressNodes_of_prefix grown found
    exact ⟨node, more, still, isLinked⟩
  noAddresses := linked.noAddresses
  noPrimary := linked.noPrimary

theorem wireAddresses_linked
    {sec : Section} (wellFormed : sec.WellFormed) {namespaceId : Option String}
    {payload wired : Payload} {sot after : Sot}
    (ran : wireAddresses client sec client.defaultBranch namespaceId payload sot =
      (.ok wired, after)) : sec.Linked namespaceId (client.home after) payload wired := by
  obtain ⟨other, final, run, -, isWired, -⟩ :=
    @wireAddresses_spec client sec wellFormed namespaceId payload sot
  rw [run, Prod.mk.injEq, Except.ok.injEq] at ran
  obtain ⟨rfl, rfl⟩ := ran
  refine ⟨isWired, ?_, ?_, ?_⟩
  · intro id isId primary isPrimary address present
    rcases wireAddresses_eq_ok wellFormed.oneAddress run with ⟨-, noPrimary⟩ | ⟨wires, -⟩
    · rw [noPrimary] at isPrimary
      cases isPrimary
    rcases wirePrimaryAddress_eq_ok wires with
      ⟨-, -, noNamespace | absent⟩ | ⟨own, field, given, ipId, isOwn, isField, isGiven, makes, rfl⟩
    · rw [noNamespace] at isId
      cases isId
    · rw [isPrimary, Option.bind_some, present] at absent
      cases absent
    · rw [isPrimary, Option.some.injEq] at isField
      subst isField
      rw [present, Option.some.injEq] at isGiven
      subst isGiven
      rw [isOwn] at isId
      cases isId
      obtain ⟨made, last, makesTo, -, ⟨node, rest, found, isNode⟩, -⟩ :=
        @materialiseIpAddress_spec client sot id address
      rw [makesTo, Prod.mk.injEq, Except.ok.injEq] at makes
      obtain ⟨rfl, rfl⟩ := makes
      exact ⟨node, rest, found, by rw [isNode, Dict.get?_set_self]⟩
  · intro ip isIp absent
    rcases wireAddresses_eq_ok wellFormed.oneAddress run with ⟨wires, -⟩ | ⟨-, noIp⟩
    · rcases wireIpAddresses_eq_ok wires with
        ⟨rfl, -, -⟩ | ⟨id, field, address, ipId, -, isField, present, -, -⟩
      · rfl
      · rw [isIp, Option.some.injEq] at isField
        subst isField
        rw [absent] at present
        cases present
    · rw [noIp] at isIp
      cases isIp
  · intro primary isPrimary unlinked
    rcases wireAddresses_eq_ok wellFormed.oneAddress run with ⟨-, noPrimary⟩ | ⟨wires, -⟩
    · rw [noPrimary] at isPrimary
      cases isPrimary
    rcases wirePrimaryAddress_eq_ok wires with
      ⟨rfl, -, -⟩ | ⟨id, field, address, ipId, isId, isField, present, -, -⟩
    · rfl
    · rw [isPrimary, Option.some.injEq] at isField
      subst isField
      rcases unlinked with absent | noNamespace
      · rw [absent] at present
        cases present
      · rw [noNamespace] at isId
        cases isId

/-- The request an item comes down to, with all its links. -/
def Section.Requests (sec : Section) (namespaceId : Option String) (contents : Contents)
    (item request : Payload) : Prop :=
  ∃ resolved, resolveIn contents sec.kind sec.relationships item = .ok resolved ∧
    sec.Linked namespaceId contents (withNamespace sec namespaceId resolved) request

theorem Section.Requests.plans
    {sec : Section} {namespaceId : Option String} {contents : Contents} {item request : Payload}
    (requests : sec.Requests namespaceId contents item request) :
    sec.Plans namespaceId contents item request := by
  obtain ⟨resolved, resolves, linked⟩ := requests
  exact ⟨resolved, resolves, linked.toWired⟩

/-- Links outlive changes to nodes the references of the item do not lead to. -/
theorem Section.Requests.mono
    {sec : Section} {namespaceId : Option String} {before after : Contents}
    {item request : Payload} (requests : sec.Requests namespaceId before item request)
    (same : ∀ rel ∈ sec.relationships.map Prod.snd,
      after.nodes rel.peerKind = before.nodes rel.peerKind)
    (grown : before.nodes .ipamIPAddress <+: after.nodes .ipamIPAddress) :
    sec.Requests namespaceId after item request := by
  obtain ⟨resolved, resolves, linked⟩ := requests
  exact ⟨resolved, (resolveIn_congr sec.kind same item).trans resolves, linked.mono grown⟩

/-- The steps of an upsert that returns. -/
theorem upsertItem_eq_ok
    {sec : Section} {item : Payload} {branch : String} {namespaceId : Option String}
    {sot after : Sot} {created : Bool}
    (ran : upsertItem client sec item branch namespaceId sot = (.ok created, after)) :
    ∃ resolved request middle outcome,
      resolveIn (client.home sot) sec.kind sec.relationships item = .ok resolved ∧
      wireAddresses client sec branch namespaceId (withNamespace sec namespaceId resolved) sot =
        (.ok request, middle) ∧
      upsertNode client sec.kind (lookupFilters sec request) request branch middle =
        (.ok outcome, after) := by
  rw [upsertItem, Program.bind_eq_ok_iff] at ran
  obtain ⟨resolved, start, resolves, ran⟩ := ran
  rw [resolveRelationships_eq, Prod.mk.injEq] at resolves
  obtain ⟨resolves, rfl⟩ := resolves
  rw [Program.bind_eq_ok_iff] at ran
  obtain ⟨request, middle, wires, ran⟩ := ran
  rw [Program.bind_eq_ok_iff] at ran
  obtain ⟨outcome, last, upserts, ran⟩ := ran
  obtain ⟨-, rfl⟩ := Program.pure_eq_ok_iff.1 ran
  refine ⟨resolved, request, middle, outcome, ?_, wires, upserts⟩
  rcases result : resolveIn (client.home sot) sec.kind sec.relationships item with
    problem | other
  · rw [result] at resolves
    cases resolves
  · rw [result] at resolves
    cases resolves
    rfl

/-- The request an item is served as has all its links. -/
theorem upsertItem_requests
    {sec : Section} (wellFormed : sec.WellFormed) {item : Payload}
    {namespaceId : Option String} {taken : List String} {sot after : Sot} {created : Bool}
    (known : taken ⊆ (client.home sot).mentioned)
    (ran : upsertItem client sec item client.defaultBranch namespaceId sot =
      (.ok created, after)) :
    ∃ request, sec.Requests namespaceId (client.home after) item request ∧
      sec.upserting.Serves (sec.Made taken) [request] ((client.home sot).nodes sec.kind)
        ((client.home after).nodes sec.kind) := by
  obtain ⟨resolved, request, middle, outcome, resolves, wires, upserts⟩ := upsertItem_eq_ok ran
  have linked := wireAddresses_linked wellFormed wires
  have evolves : Evolves client [.ipamIPAddress] sot middle := by
    obtain ⟨other, final, run, evolves, -⟩ :=
      @wireAddresses_spec client sec wellFormed namespaceId
        (withNamespace sec namespaceId resolved) sot
    rw [run, Prod.mk.injEq] at wires
    exact wires.2 ▸ evolves
  have untouched : ∀ kind, kind ≠ .ipamIPAddress →
      (client.home middle).nodes kind = (client.home sot).nodes kind := by
    intro kind notAddress
    exact evolves.others kind fun member => notAddress (List.mem_singleton.1 member)
  have requests : sec.Requests namespaceId (client.home middle) item request := by
    refine ⟨resolved, (resolveIn_congr sec.kind ?_ item).trans resolves, linked⟩
    intro rel member
    exact untouched _ (wellFormed.otherPeers rel member).2
  obtain ⟨upserted, serves⟩ := upsertNode_serves wellFormed.keyed
    (requests.plans.resolved wellFormed) (List.Subset.trans known evolves.mentioned) upserts
  refine ⟨request, requests.mono ?_ upserted.addresses, ?_⟩
  · intro rel member
    apply upserted.others
    intro isKind
    exact (wellFormed.otherPeers rel member).1 (List.mem_singleton.1 isKind)
  · rw [← untouched _ wellFormed.notAddress]
    exact serves

/-- The items of a section are served in order, each with all its links. -/
theorem seedItems_requests
    {name : SectionName} (wellFormed : (sections name).WellFormed)
    {namespaceId : Option String} {taken : List String} {items : List Payload}
    {tally final : Tally} {sot after : Sot} (known : taken ⊆ (client.home sot).mentioned)
    (ran : seedItems client name client.defaultBranch namespaceId items tally sot =
      (.ok final, after)) :
    ∃ requests,
      List.Forall₂ ((sections name).Requests namespaceId (client.home after)) items requests ∧
      (sections name).upserting.Serves ((sections name).Made taken) requests
        ((client.home sot).nodes (sections name).kind)
        ((client.home after).nodes (sections name).kind) := by
  induction items generalizing tally sot with
  | nil =>
      obtain ⟨-, rfl⟩ := Program.pure_eq_ok_iff.1 ran
      exact ⟨[], .nil, .done _⟩
  | cons item rest induction =>
      rw [seedItems, Program.bind_eq_ok_iff] at ran
      obtain ⟨created, middle, first, ran⟩ := ran
      obtain ⟨evolves, -⟩ := upsertItem_serves wellFormed known first
      obtain ⟨request, itemRequests, serves⟩ := upsertItem_requests wellFormed known first
      have knownLater := List.Subset.trans known evolves.mentioned
      obtain ⟨evolvesRest, -⟩ := seedItems_serves wellFormed knownLater ran
      obtain ⟨requests, restRequests, servesRest⟩ := induction knownLater ran
      refine ⟨request :: requests, .cons ?_ restRequests, serves.append servesRest⟩
      apply itemRequests.mono
      · intro rel member
        obtain ⟨notKind, notAddress⟩ := wellFormed.otherPeers rel member
        apply evolvesRest.others
        rw [List.mem_cons, List.mem_singleton, not_or]
        exact ⟨notKind, notAddress⟩
      · exact evolvesRest.addresses

end Snapl.Intent
