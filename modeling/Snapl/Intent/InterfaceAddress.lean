import Snapl.Intent.InfrahubStore
import Snapl.Library.Fallible
import Snapl.Library.FirstMatch

/-!
# The address of an interface

What each peer of an interface's `ip_addresses` offers, and which offer the
interface is given: the first IPv4 one, or the first of any.  An address
without a colon counts as IPv4.
-/

namespace Snapl.Intent

open Snapl.Library

/-- An offered address that counts as IPv4. -/
def IsIpv4 (candidate : String × Option Int) : Prop := ':' ∉ candidate.1.toList

instance (candidate : String × Option Int) : Decidable (IsIpv4 candidate) :=
  inferInstanceAs (Decidable (_ ∉ _))

/-- What a peer offers: nothing if it is not found or has no address. -/
def offer (text : PyText) (contents : Contents) (id : String) :
    Except PyError (Option (String × Option Int)) := do
  let peer := (contents.nodes .ipamIPAddress).find? fun node => node.id = id
  let split ← splitCidr text ((peer.map fun node => node.attributes "address").getD .null)
  .ok (split.1.map fun address => (address, split.2))

variable (text : PyText) (contents : Contents)

/-- The address of every peer can be split. -/
def Splittable (ids : List String) : Prop :=
  ∀ id ∈ ids, ∃ offered, offer text contents id = .ok offered

/-- What a peer offers, if its address can be split. -/
def offered (id : String) : Option (String × Option Int) :=
  (offer text contents id).toOption.join

/-- The IPv4 address a peer offers. -/
def ipv4Offered (id : String) : Option (String × Option Int) :=
  (offered text contents id).filter fun candidate => IsIpv4 candidate

/-- The offer an interface is given. -/
def chosen (ids : List String) : Option (String × Option Int) :=
  (ids.findSome? (ipv4Offered text contents)).or (ids.findSome? (offered text contents))

variable {text contents}

/-- One more peer offers its address in front of the others. -/
theorem ipCandidates_cons (id : String) (rest : List String) :
    ipCandidates text contents (id :: rest) =
      offer text contents id >>= fun own =>
        ipCandidates text contents rest >>= fun others => .ok (own.toList ++ others) := by
  rw [ipCandidates, offer, bind_assoc]
  congr 1
  funext split
  rw [ok_bind]
  rcases split with ⟨_ | address, length⟩
  · rfl
  · rfl

/-- The candidates of an interface are what its peers offer. -/
theorem ipCandidates_eq_ok_iff
    (ids : List String) (candidates : List (String × Option Int)) :
    ipCandidates text contents ids = .ok candidates ↔
      Splittable text contents ids ∧ candidates = ids.filterMap (offered text contents) := by
  induction ids generalizing candidates with
  | nil =>
      rw [ipCandidates, Except.ok.injEq, List.filterMap_nil, eq_comm]
      exact ⟨fun empty => ⟨nofun, empty⟩, fun both => both.2⟩
  | cons id rest induction =>
      rw [ipCandidates_cons, Splittable, List.forall_mem_cons]
      rcases gives : offer text contents id with error | own
      · rw [error_bind]
        constructor
        · exact nofun
        · rintro ⟨⟨⟨other, absurd⟩, -⟩, -⟩
          cases absurd
      · have joined : (id :: rest).filterMap (offered text contents) =
            own.toList ++ rest.filterMap (offered text contents) := by
          have same : offered text contents id = own := by
            rw [offered, gives]
            rfl
          rcases own with _ | candidate
          · rw [List.filterMap_cons_none same]
            rfl
          · rw [List.filterMap_cons_some same]
            rfl
        rw [ok_bind, bind_eq_ok, joined]
        constructor
        · rintro ⟨others, gathered, made⟩
          obtain ⟨splits, rfl⟩ := (induction others).1 gathered
          cases made
          exact ⟨⟨⟨own, rfl⟩, splits⟩, rfl⟩
        · rintro ⟨⟨-, splits⟩, rfl⟩
          exact ⟨_, (induction _).2 ⟨splits, rfl⟩, rfl⟩

/-- The address an interface is given is the chosen offer. -/
theorem selectInterfaceIp_offered (ids : List String) :
    selectInterfaceIp (ids.filterMap (offered text contents)) =
      ((chosen text contents ids).map Prod.fst, (chosen text contents ids).bind Prod.snd) := by
  have ipv4 : (ids.filterMap (offered text contents)).find?
      (fun candidate => ':' ∉ candidate.1.toList) = ids.findSome? (ipv4Offered text contents) := by
    induction ids with
    | nil => rfl
    | cons id rest induction =>
        rw [List.findSome?_cons, ipv4Offered]
        rcases own : offered text contents id with _ | candidate
        · rw [List.filterMap_cons_none own]
          exact induction
        · rw [List.filterMap_cons_some own, List.find?_cons, Option.filter_some]
          by_cases ipv4 : IsIpv4 candidate
          · rw [if_pos (decide_eq_true ipv4)]
            simp only [IsIpv4] at ipv4
            simp only [ipv4, not_false_eq_true, decide_true]
          · rw [if_neg (by simpa using ipv4)]
            simp only [IsIpv4, not_not] at ipv4
            simp only [ipv4, not_true_eq_false, decide_false]
            exact induction
  unfold selectInterfaceIp
  have any : ids.findSome? (offered text contents) =
      (ids.filterMap (offered text contents)).head? := List.head?_filterMap.symm
  rw [ipv4, chosen, any]
  rcases ids.findSome? (ipv4Offered text contents) with _ | candidate
  · rcases ids.filterMap (offered text contents) with _ | ⟨first, rest⟩
    · rfl
    · rfl
  · rfl

/-- What an interface node has besides its addresses can be read. -/
structure InterfaceReadable (runtime : Runtime) (node : Node) : Prop where
  id : ∃ id, readId runtime node = .ok id
  name : ∃ name, asText (node.attributes "name") = .ok name
  description : ∃ description, asText? (node.attributes "description") = .ok description
  mtu : ∃ mtu, asInt? (node.attributes "mtu") = .ok mtu
  peerDevice : ∃ device, asText? (node.attributes "peer_device") = .ok device
  peerInterface : ∃ iface, asText? (node.attributes "peer_interface") = .ok iface

/-- The address and prefix length an interface is read with, if it can be read. -/
def interfaceAddress (runtime : Runtime) (contents : Contents) (node : Node) :
    Option (Option String × Option Int) :=
  (nodeToInterface runtime contents node).toOption.map fun iface =>
    (iface.ipAddress, iface.prefixLength)

/-- An interface is read when its fields and addresses can be, with the chosen address. -/
theorem interfaceAddress_eq_some_iff
    (runtime : Runtime) (contents : Contents) (node : Node)
    (address : Option String × Option Int) :
    interfaceAddress runtime contents node = some address ↔
      InterfaceReadable runtime node ∧ Splittable runtime.text contents (node.relations "ip_addresses") ∧
        address =
          ((chosen runtime.text contents (node.relations "ip_addresses")).map Prod.fst,
            (chosen runtime.text contents (node.relations "ip_addresses")).bind Prod.snd) := by
  rw [interfaceAddress]
  constructor
  · intro read
    rcases built : nodeToInterface runtime contents node with error | iface
    · rw [built] at read
      cases read
    rw [built] at read
    cases read
    obtain ⟨candidates, gathered, built⟩ := (bind_eq_ok _ _ _).1 built
    obtain ⟨id, identified, built⟩ := (bind_eq_ok _ _ _).1 built
    obtain ⟨name, named, built⟩ := (bind_eq_ok _ _ _).1 built
    obtain ⟨description, described, built⟩ := (bind_eq_ok _ _ _).1 built
    obtain ⟨mtu, sized, built⟩ := (bind_eq_ok _ _ _).1 built
    obtain ⟨device, facing, built⟩ := (bind_eq_ok _ _ _).1 built
    obtain ⟨far, connected, built⟩ := (bind_eq_ok _ _ _).1 built
    cases built
    obtain ⟨splits, rfl⟩ := (ipCandidates_eq_ok_iff _ _).1 gathered
    refine ⟨⟨⟨id, identified⟩, ⟨name, named⟩, ⟨description, described⟩, ⟨mtu, sized⟩,
      ⟨device, facing⟩, ⟨far, connected⟩⟩, splits, ?_⟩
    rw [selectInterfaceIp_offered]
  · rintro ⟨readable, splits, rfl⟩
    obtain ⟨id, identified⟩ := readable.id
    obtain ⟨name, named⟩ := readable.name
    obtain ⟨description, described⟩ := readable.description
    obtain ⟨mtu, sized⟩ := readable.mtu
    obtain ⟨device, facing⟩ := readable.peerDevice
    obtain ⟨far, connected⟩ := readable.peerInterface
    rw [nodeToInterface, (ipCandidates_eq_ok_iff _ _).2 ⟨splits, rfl⟩, identified, named,
      described, sized, facing, connected, ← selectInterfaceIp_offered]
    rfl

end Snapl.Intent
