import Snapl.Intent.InterfaceAddress

/-!
# The address of an interface and the order of its peers

An interface is given the first IPv4 address its peers offer, and the first
address of any kind when they offer none.  So reading the peers in another
order gives the same address exactly when the addresses that are considered do
not differ: two IPv4 addresses on one interface make the result depend on the
order.
-/

namespace Snapl.Contract

open Snapl.Library Snapl.Intent

/-- A node whose `ip_addresses` relation lists these peers. -/
def withPeers (node : Node) (peers : List String) : Node :=
  { node with relations := Function.update node.relations "ip_addresses" peers }

/-- In every order of its peers an interface is read with the same address, or not at all. -/
def AddressStable (runtime : Runtime) (contents : Contents) (node : Node) : Prop :=
  ∀ peers : List String, peers.Perm (node.relations "ip_addresses") →
    interfaceAddress runtime contents (withPeers node peers) =
      interfaceAddress runtime contents node

/--
The peers offer one IPv4 address at most; if they offer none, they offer one
address at most.
-/
structure OneAddress (text : PyText) (contents : Contents) (peers : List String) : Prop where
  ipv4 : OneResult (ipv4Offered text contents) peers
  other : (∀ peer ∈ peers, ipv4Offered text contents peer = none) →
    OneResult (offered text contents) peers

@[simp]
theorem withPeers_relations (node : Node) (peers : List String) :
    (withPeers node peers).relations "ip_addresses" = peers := by
  change Function.update node.relations "ip_addresses" peers "ip_addresses" = peers
  exact Function.update_self _ _ _

/-- Listing other peers leaves everything else that is read. -/
theorem readable_withPeers_iff (runtime : Runtime) (node : Node) (peers : List String) :
    InterfaceReadable runtime (withPeers node peers) ↔ InterfaceReadable runtime node :=
  ⟨fun readable => ⟨readable.id, readable.name, readable.description, readable.mtu,
      readable.peerDevice, readable.peerInterface⟩,
    fun readable => ⟨readable.id, readable.name, readable.description, readable.mtu,
      readable.peerDevice, readable.peerInterface⟩⟩

variable {text : PyText} {contents : Contents}

theorem splittable_perm_iff {peers others : List String} (reordered : others.Perm peers) :
    Splittable text contents others ↔ Splittable text contents peers :=
  ⟨fun splits id member => splits id (reordered.mem_iff.2 member),
    fun splits id member => splits id (reordered.mem_iff.1 member)⟩

/-- The chosen offer is the same in every order exactly when there is one to choose. -/
theorem chosen_perm_iff (peers : List String) :
    (∀ others : List String, others.Perm peers →
      chosen text contents others = chosen text contents peers) ↔
        OneAddress text contents peers := by
  constructor
  · intro same
    have unchanged : ∀ others : List String, others.Perm peers →
        others.findSome? (ipv4Offered text contents) =
          peers.findSome? (ipv4Offered text contents) := by
      intro others reordered
      have equal := same others reordered
      rw [chosen, chosen] at equal
      rcases found : peers.findSome? (ipv4Offered text contents) with _ | candidate
      · rw [List.findSome?_eq_none_iff] at found ⊢
        intro peer member
        exact found peer (reordered.mem_iff.1 member)
      · rcases foundOther : others.findSome? (ipv4Offered text contents) with _ | other
        · rw [List.findSome?_eq_none_iff] at foundOther
          obtain ⟨peer, member, gives⟩ := List.exists_of_findSome?_eq_some found
          rw [foundOther peer (reordered.mem_iff.2 member)] at gives
          cases gives
        · rw [found, foundOther] at equal
          exact equal
    refine ⟨(findSome?_perm_iff _ _).1 unchanged, ?_⟩
    intro none
    apply (findSome?_perm_iff _ _).1
    intro others reordered
    have equal := same others reordered
    have absent := List.findSome?_eq_none_iff.2 none
    rw [chosen, chosen, unchanged others reordered, absent, Option.none_or, Option.none_or]
      at equal
    exact equal
  · intro one others reordered
    rw [chosen, chosen, (findSome?_perm_iff _ _).2 one.ipv4 others reordered]
    rcases found : peers.findSome? (ipv4Offered text contents) with _ | candidate
    · rw [List.findSome?_eq_none_iff] at found
      rw [(findSome?_perm_iff _ _).2 (one.other found) others reordered]
    · rfl

/--
An interface is read alike in every order of its peers exactly when it cannot
be read, or has one address to choose.
-/
theorem address_stable_iff (runtime : Runtime) (contents : Contents) (node : Node) :
    AddressStable runtime contents node ↔
      (InterfaceReadable runtime node →
        Splittable runtime.text contents (node.relations "ip_addresses") →
          OneAddress runtime.text contents (node.relations "ip_addresses")) := by
  have pairs : ∀ first second : Option (String × Option Int),
      (first.map Prod.fst, first.bind Prod.snd) = (second.map Prod.fst, second.bind Prod.snd) →
        first = second := by
    rintro (_ | ⟨address, length⟩) (_ | ⟨other, otherLength⟩) equal
    · rfl
    · cases equal
    · cases equal
    · simp only [Option.map_some, Option.bind_some, Prod.mk.injEq, Option.some.injEq] at equal
      rw [equal.1, equal.2]
  constructor
  · intro stable readable splits
    apply (chosen_perm_iff _).1
    intro others reordered
    have read : interfaceAddress runtime contents (withPeers node others) = some _ :=
      (interfaceAddress_eq_some_iff _ _ _ _).2
        ⟨(readable_withPeers_iff _ _ _).2 readable,
          (splittable_perm_iff (by rw [withPeers_relations]; exact reordered)).2 splits, rfl⟩
    rw [stable others reordered, withPeers_relations] at read
    obtain ⟨-, -, equal⟩ := (interfaceAddress_eq_some_iff _ _ _ _).1 read
    exact pairs _ _ equal
  · intro one peers reordered
    by_cases reads : InterfaceReadable runtime node ∧
        Splittable runtime.text contents (node.relations "ip_addresses")
    · have same := (chosen_perm_iff _).2 (one reads.1 reads.2) peers reordered
      rw [(interfaceAddress_eq_some_iff _ _ node _).2 ⟨reads.1, reads.2, rfl⟩,
        interfaceAddress_eq_some_iff, withPeers_relations, readable_withPeers_iff,
        splittable_perm_iff reordered, same]
      exact ⟨reads.1, reads.2, rfl⟩
    · have unread : ∀ others : List String, others.Perm (node.relations "ip_addresses") →
          interfaceAddress runtime contents (withPeers node others) = none := by
        intro others permuted
        rw [Option.eq_none_iff_forall_ne_some]
        intro address read
        rw [interfaceAddress_eq_some_iff, withPeers_relations, readable_withPeers_iff,
          splittable_perm_iff permuted] at read
        exact reads ⟨read.1, read.2.1⟩
      have own := unread _ (List.Perm.refl _)
      rw [withPeers, Function.update_eq_self] at own
      rw [unread peers reordered, own]

/-- The node of an IP address. -/
def addressNode (id address : String) : Node where
  id := id
  attributes field := if field = "address" then .str address else .null
  relations _ := []

/-- An address book of two IPv4 addresses. -/
def twoAddresses : Contents where
  nodes
    | .ipamIPAddress => [addressNode "a1" "10.0.0.1/31", addressNode "a2" "10.0.0.3/31"]
    | _ => []
  distinct kind := by cases kind <;> decide

/-- An interface node with peers. -/
def portNode (peers : List String) : Node where
  id := UUID.text ⟨1⟩
  attributes field := if field = "name" then .str "ethernet-1/1" else .null
  relations field := if field = "ip_addresses" then peers else []

/-- An interface with two IPv4 addresses changes its address with the order of its peers. -/
theorem not_stable_of_two_ipv4 :
    ¬ ∀ (runtime : Runtime) (contents : Contents) (node : Node),
      AddressStable runtime contents node := by
  intro stable
  have same := stable Runtime.ascii twoAddresses (portNode ["a1", "a2"]) ["a2", "a1"]
    (List.Perm.swap _ _ _)
  revert same
  decide +kernel

end Snapl.Contract
