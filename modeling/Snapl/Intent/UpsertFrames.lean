import Snapl.Intent.SeedSessions

/-!
# What an upsert touches

An upsert is prepared and then made.  Preparing reads the default branch and
adds address nodes at most; the upsert itself writes to the first node that
passes the filters, or creates one.  It touches only nodes of its own exactly
when that first node, if there is one, is its own.
-/

namespace Snapl.Intent

open Snapl.Library SeedIngester

variable {client : InfrahubClient} {text : PyText} {kind : Kind} {branch : String}
variable {before middle after : Sot}

/-- Every node that was there and was not touched is still there as it was. -/
def Keeps (touched : String → Kind → String → Prop) (before after : Sot) : Prop :=
  ∀ branch kind, ∀ node ∈ (before branch).nodes kind,
    ¬ touched branch kind node.id → node ∈ (after branch).nodes kind

/-- Every node that was there is still there as it was. -/
def KeepsAll (before after : Sot) : Prop := Keeps (fun _ _ _ => False) before after

theorem KeepsAll.keeps
    (kept : KeepsAll before after) (touched : String → Kind → String → Prop) :
    Keeps touched before after :=
  fun branch kind node member _ => kept branch kind node member not_false

theorem KeepsAll.refl (sot : Sot) : KeepsAll sot sot :=
  fun _ _ _ member _ => member

theorem KeepsAll.trans_keeps
    {touched : String → Kind → String → Prop} (first : KeepsAll before middle)
    (second : Keeps touched middle after) : Keeps touched before after := by
  intro branch kind node member untouched
  apply second branch kind node
  · exact first branch kind node member not_false
  · exact untouched

/-- A node is added and the others stay. -/
theorem keepsAll_insert
    (sot : Sot) (branch : String) (kind : Kind) (node : Node)
    (fresh : node.id ∉ (sot branch).mentioned) :
    KeepsAll sot (Function.update sot branch ((sot branch).insert kind node fresh)) := by
  intro other otherKind present member _
  by_cases isBranch : other = branch
  · subst isBranch
    rw [Function.update_self]
    by_cases isKind : otherKind = kind
    · subst isKind
      rw [Contents.nodes_insert]
      exact List.mem_append_left _ member
    · rw [Contents.nodes_insert_of_ne _ _ _ isKind]
      exact member
  · rw [Function.update_of_ne isBranch]
    exact member

/-- A node is replaced and the others stay. -/
theorem keeps_put (sot : Sot) (branch : String) (kind : Kind) (node : Node) :
    Keeps (fun home other id => home = branch ∧ other = kind ∧ id = node.id) sot
      (Function.update sot branch ((sot branch).put kind node)) := by
  intro other otherKind present member untouched
  by_cases isBranch : other = branch
  · subst isBranch
    rw [Function.update_self]
    by_cases isKind : otherKind = kind
    · subst isKind
      rw [Contents.nodes_put]
      apply List.mem_map.2
      refine ⟨present, member, if_neg ?_⟩
      intro same
      exact untouched ⟨rfl, rfl, same⟩
    · rw [Contents.nodes_put_of_ne _ _ isKind]
      exact member
  · rw [Function.update_of_ne isBranch]
    exact member

/-- Only address nodes were added. -/
structure AddsAddresses (before after : Sot) : Prop where
  others : ∀ branch kind, kind ≠ .ipamIPAddress →
    (after branch).nodes kind = (before branch).nodes kind
  addresses : ∀ branch,
    (before branch).nodes .ipamIPAddress <+: (after branch).nodes .ipamIPAddress

namespace AddsAddresses

theorem refl (sot : Sot) : AddsAddresses sot sot where
  others _ _ _ := rfl
  addresses _ := List.prefix_rfl

theorem trans (first : AddsAddresses before middle) (second : AddsAddresses middle after) :
    AddsAddresses before after where
  others branch kind notAddress :=
    (second.others branch kind notAddress).trans (first.others branch kind notAddress)
  addresses branch := (first.addresses branch).trans (second.addresses branch)

theorem keepsAll (adds : AddsAddresses before after) : KeepsAll before after := by
  intro branch kind node member _
  by_cases isAddress : kind = .ipamIPAddress
  · subst isAddress
    exact (adds.addresses branch).subset member
  · rw [adds.others branch kind isAddress]
    exact member

theorem insert
    (sot : Sot) (branch : String) (node : Node) (fresh : node.id ∉ (sot branch).mentioned) :
    AddsAddresses sot
      (Function.update sot branch ((sot branch).insert .ipamIPAddress node fresh)) where
  others other kind notAddress := by
    by_cases isBranch : other = branch
    · subst isBranch
      rw [Function.update_self, Contents.nodes_insert_of_ne _ _ _ notAddress]
    · rw [Function.update_of_ne isBranch]
  addresses other := by
    by_cases isBranch : other = branch
    · subst isBranch
      rw [Function.update_self, Contents.nodes_insert]
      exact List.prefix_append _ _
    · rw [Function.update_of_ne isBranch]

end AddsAddresses

/-- What an upsert that ends with the identifier and the mark of a new node may have done. -/
structure TouchesOwn
    (client : InfrahubClient) (kind : Kind) (branch : String) (own : Node → Prop)
    (before : Sot) (ran : Except IntentError (String × Bool) × Sot) : Prop where
  /-- An update is one of a node of its own, and leaves every other node as it was. -/
  updated : ∀ id, ran.1 = .ok (id, false) →
    (∃ node ∈ (client.home before).nodes kind, node.id = id ∧ own node) ∧
    Keeps (fun home other touched => home = client.defaultBranch ∧ other = kind ∧ touched = id)
      before ran.2
  /-- A creation adds a node and leaves every node as it was. -/
  created : ∀ id, ran.1 = .ok (id, true) →
    (∀ node ∈ (before branch).nodes kind, node.id ≠ id) ∧
    (∃ node ∈ (ran.2 branch).nodes kind, node.id = id) ∧ KeepsAll before ran.2
  /-- A failure leaves every node as it was. -/
  raised : ∀ failure, ran.1 = .error failure → KeepsAll before ran.2

theorem touchesOwn_raised
    {own : Node → Prop} {failure : IntentError} (kept : KeepsAll before after) :
    TouchesOwn client kind branch own before (.error failure, after) where
  updated id ended := by cases ended
  created id ended := by cases ended
  raised _ _ := kept

/-- The run of an upsert that finds nothing. -/
theorem upsertNode_creates
    {filters : List Filter} {payload : Payload} {sot : Sot}
    (absent : (client.home sot).matching kind filters = []) (branch : String) :
    ∃ node fresh, upsertNode client kind filters payload branch sot =
      (.ok (node.id, true), Function.update sot branch ((sot branch).insert kind node fresh)) := by
  refine ⟨Node.ofPayload kind payload (client.newId (sot branch).mentioned),
    client.newId_fresh _, ?_⟩
  rw [upsertNode, Program.bind_of_ok (client.filters_apply kind filters sot), absent]
  rfl

theorem mem_home_of_matching
    {contents : Contents} {filters : List Filter} {node : Node} {rest : List Node}
    (found : contents.matching kind filters = node :: rest) : node ∈ contents.nodes kind := by
  have member : node ∈ contents.matching kind filters := by
    rw [found]
    exact List.mem_cons_self
  exact List.mem_of_mem_filter member

theorem Contents.eq_of_id
    (contents : Contents) {node other : Node} (member : node ∈ contents.nodes kind)
    (otherMember : other ∈ contents.nodes kind) (same : node.id = other.id) : node = other :=
  List.inj_on_of_nodup_map (contents.distinct kind) member otherMember same

/--
An upsert that was prepared touches only its own node exactly when the first
node that passes the filters, if there is one, is its own.
-/
theorem touchesOwn_prepared
    {prepare : SotProgram (List Filter × Payload)} {request : List Filter × Payload}
    {own : Node → Prop} (prepared : prepare before = (.ok request, middle))
    (adds : AddsAddresses before middle) (notAddress : kind ≠ .ipamIPAddress) :
    TouchesOwn client kind branch own before ((do
        let request ← prepare
        upsertNode client kind request.1 request.2 branch : SotProgram (String × Bool)) before) ↔
      ∀ node rest, (client.home before).matching kind request.1 = node :: rest → own node := by
  have sameNodes (home : String) : (middle home).nodes kind = (before home).nodes kind :=
    adds.others home kind notAddress
  have sameMatching : (client.home middle).matching kind request.1 =
      (client.home before).matching kind request.1 := by
    rw [Contents.matching, Contents.matching, InfrahubClient.home, InfrahubClient.home,
      sameNodes client.defaultBranch]
  rw [Program.bind_of_ok prepared]
  rcases found : (client.home before).matching kind request.1 with _ | ⟨first, others⟩
  · obtain ⟨node, fresh, ran⟩ := @upsertNode_creates client kind request.1 request.2 middle
      (sameMatching.trans found) branch
    rw [ran]
    constructor
    · intro _ node rest impossible
      cases impossible
    · intro _
      have kept := keepsAll_insert middle branch kind node fresh
      refine ⟨?_, ?_, ?_⟩
      · intro id ended
        cases ended
      · intro id ended
        cases ended
        refine ⟨?_, ⟨node, ?_, rfl⟩, adds.keepsAll.trans_keeps kept⟩
        · intro present member same
          rw [← sameNodes branch] at member
          apply fresh
          rw [← same]
          exact Contents.id_mem_mentioned member
        · dsimp only
          rw [Function.update_self, Contents.nodes_insert]
          exact List.mem_append_right _ (List.mem_singleton_self node)
      · intro failure ended
        cases ended
  · rw [upsertNode_of_found (sameMatching.trans found) branch]
    have firstMember : first ∈ (client.home before).nodes kind := mem_home_of_matching found
    constructor
    · intro touches node rest same
      cases same
      obtain ⟨⟨touched, member, sameId, isOwn⟩, -⟩ := touches.updated first.id rfl
      rw [← (client.home before).eq_of_id member firstMember sameId]
      exact isOwn
    · intro isOwn
      have kept := keeps_put middle client.defaultBranch kind
        (first.assignValues kind request.2)
      rw [Node.assignValues_id] at kept
      refine ⟨?_, ?_, ?_⟩
      · intro id ended
        cases ended
        exact ⟨⟨first, firstMember, rfl, isOwn first others rfl⟩,
          adds.keepsAll.trans_keeps kept⟩
      · intro id ended
        cases ended
      · intro failure ended
        cases ended

theorem materialiseIpAddress_adds
    (sot : Sot) (namespaceId branch : String) (address : Json) :
    ∃ id after, materialiseIpAddress client address namespaceId branch sot = (.ok id, after) ∧
      AddsAddresses sot after := by
  rcases found : addressNodes (client.home sot) namespaceId address with _ | ⟨node, rest⟩
  · refine ⟨client.newId (sot branch).mentioned, _, ?_, AddsAddresses.insert sot branch
      (Node.ofPayload .ipamIPAddress
        (Dict.ofPairs [("address", address), ("ip_namespace", .str namespaceId)])
        (client.newId (sot branch).mentioned)) (client.newId_fresh _)⟩
    rw [materialiseIpAddress, Program.bind_of_ok (client.filters_apply _ _ sot), ← addressNodes,
      found]
    rfl
  · exact ⟨node.id, sot, materialiseIpAddress_of_found found branch, AddsAddresses.refl sot⟩

theorem wireIpAddresses_adds
    (sec : Section) (branch : String) (namespaceId : Option String) (payload : Payload)
    (sot : Sot) :
    ∃ wired after, wireIpAddresses client sec branch namespaceId payload sot =
        (.ok wired, after) ∧ AddsAddresses sot after ∧
      ∀ field, field ∉ sec.wiring → wired.get? field = payload.get? field := by
  rcases namespaceId with _ | id
  · exact ⟨payload, sot, wireIpAddresses_of_none (Or.inr rfl) branch payload sot,
      AddsAddresses.refl sot, fun _ _ => rfl⟩
  rcases ipField : sec.ipField with _ | ip
  · exact ⟨payload, sot, wireIpAddresses_of_none (Or.inl ipField) branch payload sot,
      AddsAddresses.refl sot, fun _ _ => rfl⟩
  rcases present : payload.get? ip with _ | address
  · exact ⟨payload, sot, wireIpAddresses_of_absent ipField present branch sot,
      AddsAddresses.refl sot, fun _ _ => rfl⟩
  obtain ⟨ipId, after, ran, adds⟩ := @materialiseIpAddress_adds client sot id branch address
  refine ⟨_, after, wireIpAddresses_of_present ipField present ran, adds, ?_⟩
  intro field outside
  rw [Section.wiring, ipField] at outside
  simp only [Option.toList_some, Option.isSome_some, if_true, List.cons_append, List.nil_append,
    List.mem_cons, not_or] at outside
  rw [Dict.get?_set_of_ne _ _ outside.2.1, Dict.get?_erase_of_ne _ outside.1]

theorem wirePrimaryAddress_adds
    (sec : Section) (branch : String) (namespaceId : Option String) (payload : Payload)
    (sot : Sot) :
    ∃ wired after, wirePrimaryAddress client sec branch namespaceId payload sot =
        (.ok wired, after) ∧ AddsAddresses sot after ∧
      ∀ field, field ∉ sec.wiring → wired.get? field = payload.get? field := by
  rcases namespaceId with _ | id
  · exact ⟨payload, sot, wirePrimaryAddress_of_none (Or.inr rfl) branch payload sot,
      AddsAddresses.refl sot, fun _ _ => rfl⟩
  rcases primaryField : sec.primaryAddressField with _ | primary
  · exact ⟨payload, sot, wirePrimaryAddress_of_none (Or.inl primaryField) branch payload sot,
      AddsAddresses.refl sot, fun _ _ => rfl⟩
  rcases present : payload.get? primary with _ | address
  · exact ⟨payload, sot, wirePrimaryAddress_of_absent primaryField present branch sot,
      AddsAddresses.refl sot, fun _ _ => rfl⟩
  obtain ⟨ipId, after, ran, adds⟩ := @materialiseIpAddress_adds client sot id branch address
  refine ⟨_, after, wirePrimaryAddress_of_present primaryField present ran, adds, ?_⟩
  intro field outside
  apply Dict.get?_set_of_ne
  rintro rfl
  apply outside
  rw [Section.wiring, primaryField]
  exact List.mem_append_right _ (List.mem_singleton_self _)

/-- Wiring adds address nodes at most and leaves the fields it does not wire. -/
theorem wireAddresses_adds
    (sec : Section) (branch : String) (namespaceId : Option String) (payload : Payload)
    (sot : Sot) :
    ∃ wired after, wireAddresses client sec branch namespaceId payload sot =
        (.ok wired, after) ∧ AddsAddresses sot after ∧
      ∀ field, field ∉ sec.wiring → wired.get? field = payload.get? field := by
  obtain ⟨first, middle, ranFirst, addsFirst, sameFirst⟩ :=
    @wireIpAddresses_adds client sec branch namespaceId payload sot
  obtain ⟨second, after, ranSecond, addsSecond, sameSecond⟩ :=
    @wirePrimaryAddress_adds client sec branch namespaceId first middle
  refine ⟨second, after, ?_, addsFirst.trans addsSecond, ?_⟩
  · rw [wireAddresses, Program.bind_of_ok ranFirst, ranSecond]
  · intro field outside
    exact (sameSecond field outside).trans (sameFirst field outside)

end Snapl.Intent
