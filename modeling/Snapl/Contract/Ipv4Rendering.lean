import Snapl.Contract.AddressOrder
import Snapl.Contract.BatchFetch
import Snapl.Contract.RenderingOrder
import Snapl.Contract.VerbatimRendering
import Snapl.Intent.InterfaceAddress
import Snapl.Library.Ipv4Text

/-!
# What is rendered as IPv4

An interface is given the first of its addresses without a colon, and without
one the first address of any kind, which the template writes under `ipv4` all
the same.  So only IPv4 prefixes are rendered exactly when every interface that
has an address has an IPv4 address, and has it first among those without a
colon.
-/

namespace Snapl.Contract

open Snapl.Library Snapl.Library.JsonText Snapl.Intent Snapl.Executor

/-- Only IPv4 prefixes and addresses are rendered as IPv4. -/
structure OnlyIpv4 (text : PyText) (desired : DesiredState) (payload : Json) : Prop where
  prefixes : ∀ iface ∈ interfacesOf payload, ∀ ipPrefix ∈ interfacePrefixes iface,
    Ipv4Prefix ipPrefix.toList
  routerId : ∀ routerId, (bgpOf payload).field "router-id" = .str routerId →
    (∃ iface ∈ desired.interfaces, loopbackAddress? text iface ≠ none) →
      Ipv4Address routerId.toList

/-- An IPv4 address with the length of an IPv4 prefix. -/
def Ipv4Candidate (candidate : String × Option Int) : Prop :=
  Ipv4Address candidate.1.toList ∧ ∃ length : Nat, length ≤ 32 ∧ candidate.2 = some (length : Int)

/--
No peer offers an address, or the first that offers one without a colon offers
an IPv4 address with the length of an IPv4 prefix.
-/
def FirstIsIpv4 (text : PyText) (contents : Contents) (peers : List String) : Prop :=
  (∀ peer ∈ peers, offered text contents peer = none) ∨
    ∃ before peer after candidate, peers = before ++ peer :: after ∧
      (∀ earlier ∈ before, ∀ other, offered text contents earlier = some other →
        ':' ∈ other.1.toList) ∧
      offered text contents peer = some candidate ∧ Ipv4Candidate candidate

section

variable {text : PyText} {contents : Contents} {peers : List String}

theorem ipv4Offered_eq_none_iff (peer : String) :
    ipv4Offered text contents peer = none ↔
      ∀ other, offered text contents peer = some other → ':' ∈ other.1.toList := by
  rw [ipv4Offered]
  rcases offered text contents peer with _ | candidate
  · simp
  · rw [Option.filter_some]
    by_cases ipv4 : IsIpv4 candidate
    · rw [if_pos (decide_eq_true ipv4)]
      constructor
      · intro absent
        cases absent
      · intro colons
        exact absurd (colons candidate rfl) ipv4
    · rw [if_neg (by simpa using ipv4)]
      constructor
      · rintro - other same
        rw [← Option.some.inj same]
        exact not_not.1 ipv4
      · exact fun _ => rfl

theorem ipv4Offered_of_offered
    {peer : String} {candidate : String × Option Int}
    (offers : offered text contents peer = some candidate) (ipv4 : IsIpv4 candidate) :
    ipv4Offered text contents peer = some candidate := by
  rw [ipv4Offered, offers, Option.filter_some, if_pos (decide_eq_true ipv4)]

/-- What is chosen is offered. -/
theorem exists_offered_of_chosen
    {candidate : String × Option Int} (isChosen : chosen text contents peers = some candidate) :
    ∃ peer ∈ peers, offered text contents peer = some candidate := by
  rw [chosen, Option.or_eq_some_iff] at isChosen
  rcases isChosen with first | ⟨-, first⟩
  · obtain ⟨peer, member, offers⟩ := List.exists_of_findSome?_eq_some first
    exact ⟨peer, member, (Option.filter_eq_some_iff.1 offers).1⟩
  · exact List.exists_of_findSome?_eq_some first

/-- The chosen address is an IPv4 one exactly when the first without a colon is. -/
theorem firstIsIpv4_iff :
    FirstIsIpv4 text contents peers ↔
      ∀ candidate, chosen text contents peers = some candidate → Ipv4Candidate candidate := by
  constructor
  · rintro (nothing | ⟨before, peer, after, candidate, rfl, colons, offers, ipv4⟩) other isChosen
    · obtain ⟨peer, member, offers⟩ := exists_offered_of_chosen isChosen
      rw [nothing peer member] at offers
      cases offers
    · have first : (before ++ peer :: after).findSome? (ipv4Offered text contents) =
          some candidate := by
        apply List.findSome?_eq_some_iff.2
        exact ⟨before, peer, after, rfl, ipv4Offered_of_offered offers ipv4.1.not_colon,
          fun earlier member => (ipv4Offered_eq_none_iff earlier).2 (colons earlier member)⟩
      rw [chosen, first, Option.some_or, Option.some.injEq] at isChosen
      rw [← isChosen]
      exact ipv4
  · intro ipv4
    rcases isChosen : chosen text contents peers with _ | candidate
    · left
      rw [chosen, Option.or_eq_none_iff] at isChosen
      exact List.findSome?_eq_none_iff.1 isChosen.2
    · right
      have isIpv4 := ipv4 candidate isChosen
      obtain ⟨peer, member, offers⟩ := exists_offered_of_chosen isChosen
      rw [chosen, Option.or_eq_some_iff] at isChosen
      rcases isChosen with first | ⟨none, -⟩
      · obtain ⟨before, peer, after, whole, gives, colons⟩ := List.findSome?_eq_some_iff.1 first
        exact ⟨before, peer, after, candidate, whole,
          fun earlier member => (ipv4Offered_eq_none_iff earlier).1 (colons earlier member),
          (Option.filter_eq_some_iff.1 gives).1, isIpv4⟩
      · have absent := List.findSome?_eq_none_iff.1 none peer member
        rw [ipv4Offered_of_offered offers isIpv4.1.not_colon] at absent
        cases absent

theorem not_mem_partitionHead (separator : Char) (chars : List Char) :
    separator ∉ partitionHead separator chars := by
  intro member
  have all := List.all_takeWhile (p := fun char => decide (char ≠ separator)) (l := chars)
  exact absurd rfl (of_decide_eq_true (List.all_eq_true.1 all separator member))

/-- An offered address is not empty and has no slash. -/
theorem address_of_offered
    {peer : String} {candidate : String × Option Int}
    (offers : offered text contents peer = some candidate) :
    candidate.1 ≠ "" ∧ '/' ∉ candidate.1.toList := by
  rw [offered] at offers
  rcases offering : offer text contents peer with error | own
  · rw [offering] at offers
    cases offers
  · rw [offering] at offers
    obtain rfl : own = some candidate := offers
    obtain ⟨split, splits, given⟩ := (bind_eq_ok _ _ _).1 offering
    obtain ⟨address, isAddress, rfl⟩ := Option.map_eq_some_iff.1 (Except.ok.inj given)
    rw [splitCidr] at splits
    split_ifs at splits
    · obtain ⟨shown, -, rest⟩ := (bind_eq_ok _ _ _).1 splits
      have head : split.1 = filled? (some (String.ofList (partitionHead '/' shown.toList))) := by
        dsimp only at rest
        split_ifs at rest
        · obtain ⟨length, -, made⟩ := (bind_eq_ok _ _ _).1 rest
          cases made
          rfl
        · cases rest
          rfl
      rw [head] at isAddress
      obtain ⟨isHead, filled⟩ := (filled?_eq_some_iff _ _).1 isAddress
      refine ⟨filled, ?_⟩
      rw [← Option.some.inj isHead, String.toList_ofList]
      exact not_mem_partitionHead '/' shown.toList
    · cases splits
      cases isAddress

/-! ## What is rendered -/

variable {runtime : Runtime} {desired : DesiredState} {payload : Json}

theorem prefixesComplete_of_rendered (rendered : render text desired = .ok payload) :
    PrefixesComplete desired := by
  rw [render] at rendered
  apply (missingPrefix?_eq_none_iff text desired).1
  rcases missing : desired.interfaces.findSome? (missingPrefix? text) with _ | message
  · rfl
  · rw [missing] at rendered
    cases rendered

/-- The rendered prefix is an IPv4 one exactly when the chosen address is. -/
theorem prefixes_ipv4_iff
    {node : Node} {iface : Interface}
    (read : nodeToInterface runtime contents node = .ok iface)
    (complete : filled? iface.ipAddress ≠ none → iface.prefixLength ≠ none) :
    (∀ ipPrefix ∈ interfacePrefixes (.obj (interfaceFields iface)), Ipv4Prefix ipPrefix.toList) ↔
      FirstIsIpv4 runtime.text contents (node.relations "ip_addresses") := by
  have given : interfaceAddress runtime contents node =
      some (iface.ipAddress, iface.prefixLength) := by
    rw [interfaceAddress, read]
    rfl
  obtain ⟨-, -, equal⟩ := (interfaceAddress_eq_some_iff _ _ _ _).1 given
  obtain ⟨isAddress, isLength⟩ := Prod.mk.inj equal
  rw [firstIsIpv4_iff, interfacePrefixes_rendered, ipPrefix?]
  rcases isChosen : chosen runtime.text contents (node.relations "ip_addresses") with
    _ | ⟨address, length⟩
  · rw [isChosen] at isAddress
    rw [isAddress]
    constructor
    · intro _ candidate absent
      cases absent
    · intro _ ipPrefix absent
      cases absent
  · rw [isChosen] at isAddress isLength
    obtain ⟨peer, -, offers⟩ := exists_offered_of_chosen isChosen
    obtain ⟨nonempty, noSlash⟩ := address_of_offered offers
    have filled : filled? iface.ipAddress = some address :=
      (filled?_eq_some_iff _ _).2 ⟨isAddress, nonempty⟩
    rcases length with _ | length
    · exact absurd isLength (complete (by rw [filled]; exact Option.some_ne_none address))
    · rw [filled, isLength]
      simp only [Option.map_some, Option.bind_some, Option.toList_some, List.mem_singleton,
        forall_eq, String.toList_ofList, Option.some.injEq]
      rw [ipv4Prefix_append_iff noSlash, forall_eq', Ipv4Candidate]
      simp only [decimalText_eq_toDigits_iff, Option.some.injEq]

/-- Where every interface has an IPv4 address, so has the loopback that gives the identifier. -/
theorem routerId_ipv4
    {nodes : List Node}
    (read : List.Forall₂ (fun node iface => nodeToInterface runtime contents node = .ok iface)
      nodes desired.interfaces)
    (ipv4 : ∀ node ∈ nodes, FirstIsIpv4 runtime.text contents (node.relations "ip_addresses"))
    (loopback : ∃ iface ∈ desired.interfaces, loopbackAddress? text iface ≠ none) :
    Ipv4Address (selectRouterId text desired).toList := by
  rw [selectRouterId_eq]
  rcases found : desired.interfaces.findSome? (loopbackAddress? text) with _ | address
  · obtain ⟨iface, member, offers⟩ := loopback
    exact absurd (List.findSome?_eq_none_iff.1 found iface member) offers
  · obtain ⟨iface, member, gives⟩ := List.exists_of_findSome?_eq_some found
    rw [loopbackAddress?] at gives
    split_ifs at gives
    obtain ⟨node, isNode, own⟩ := exists_mem_of_forall₂ read.flip member
    have given : interfaceAddress runtime contents node =
        some (iface.ipAddress, iface.prefixLength) := by
      rw [interfaceAddress, own]
      rfl
    obtain ⟨-, -, equal⟩ := (interfaceAddress_eq_some_iff _ _ _ _).1 given
    obtain ⟨isAddress, -⟩ := Prod.mk.inj equal
    rw [((filled?_eq_some_iff _ _).1 gives).1] at isAddress
    obtain ⟨candidate, isChosen, rfl⟩ := Option.map_eq_some_iff.1 isAddress.symm
    exact (firstIsIpv4_iff.1 (ipv4 node isNode) candidate isChosen).1

theorem routerId_payload
    {routerId : String}
    (isRouterId : (bgpOf (.obj (payloadFields text desired))).field "router-id" = .str routerId) :
    routerId = selectRouterId text desired := by
  rw [payloadFields] at isRouterId
  split_ifs at isRouterId with noSessions
  · cases isRouterId
  · exact (Json.str.inj isRouterId).symm

/-- A state read from nodes is rendered with IPv4 prefixes only, or not. -/
theorem onlyIpv4_iff
    {nodes : List Node}
    (read : List.Forall₂ (fun node iface => nodeToInterface runtime contents node = .ok iface)
      nodes desired.interfaces)
    (verbatim : VerbatimState runtime.text desired)
    (rendered : render runtime.text desired = .ok payload) :
    OnlyIpv4 runtime.text desired payload ↔
      ∀ node ∈ nodes, FirstIsIpv4 runtime.text contents (node.relations "ip_addresses") := by
  have complete := prefixesComplete_of_rendered rendered
  obtain rfl := intended_of_verbatim rendered verbatim
  constructor
  · intro only node isNode
    obtain ⟨iface, member, own⟩ := exists_mem_of_forall₂ read isNode
    apply (prefixes_ipv4_iff own (complete iface member)).1
    apply only.prefixes
    rw [interfacesOf_payload]
    exact List.mem_map_of_mem member
  · intro ipv4
    constructor
    · intro entry isEntry
      rw [interfacesOf_payload] at isEntry
      obtain ⟨iface, member, rfl⟩ := List.mem_map.1 isEntry
      obtain ⟨node, isNode, own⟩ := exists_mem_of_forall₂ read.flip member
      exact (prefixes_ipv4_iff own (complete iface member)).2 (ipv4 node isNode)
    · intro routerId isRouterId loopback
      rw [routerId_payload isRouterId]
      exact routerId_ipv4 read ipv4 loopback

end

/-! ## What the store returns -/

/-- The interfaces of a returned state are read from interface nodes of the branch. -/
theorem interfaces_of_getDesiredState
    {store : InfrahubIntentStore} {runtime : Runtime} {query : StateQuery}
    {branch : Option String} {sot : Sot} {states : List DesiredState} {desired : DesiredState}
    (returned : Program.ending (store.getDesiredState runtime query branch) sot = .ok states)
    (listed : desired ∈ states) :
    ∃ nodes : List Node,
      (∀ node ∈ nodes, node ∈ (sot (store.resolvedBranch branch)).nodes .interfacePhysical) ∧
      List.Forall₂ (fun node iface =>
          nodeToInterface runtime (sot (store.resolvedBranch branch)) node = .ok iface)
        nodes desired.interfaces := by
  rw [getDesiredState_eq] at returned
  rcases fetched : statesOn runtime (sot (store.resolvedBranch branch)) query with error | stamped
  · rw [fetched] at returned
    cases returned
  rw [fetched] at returned
  cases returned
  obtain ⟨state, isState, rfl⟩ := List.mem_map.1 listed
  have queried : (sot (store.resolvedBranch branch)).matching .dcimDevice query.filters ≠ [] := by
    intro none
    rw [statesOn, desiredStates, if_pos none] at fetched
    cases fetched
    cases isState
  obtain ⟨-, -, built⟩ := built_of_desiredStates queried fetched
  obtain ⟨device, -, own⟩ := exists_mem_of_forall₂ built.flip isState
  have interfaces := own.interfaces
  generalize shares : shareOf (placedOn _) _ device.id = children at interfaces
  refine ⟨children.map ChildNode.node, ?_, ?_⟩
  · intro node isNode
    obtain ⟨child, isChild, rfl⟩ := List.mem_map.1 isNode
    rw [← shares, mem_shareOf] at isChild
    obtain ⟨present, isPresent, rfl⟩ := List.mem_map.1 isChild.1
    exact List.mem_of_mem_filter isPresent
  · rw [StampedState.unstamped, List.forall₂_map_left_iff, List.forall₂_map_right_iff]
    exact interfaces.imp fun child model stamped => stamped.2

/--
A returned state whose interpolated strings need no escaping is rendered with
only IPv4 prefixes and addresses as IPv4 exactly when each interface it is read
from has no address, or an IPv4 address as the first without a colon.
-/
theorem rendered_ipv4_iff
    {store : InfrahubIntentStore} {runtime : Runtime} {query : StateQuery}
    {branch : Option String} {sot : Sot} {states : List DesiredState} {desired : DesiredState}
    {payload : Json}
    (returned : Program.ending (store.getDesiredState runtime query branch) sot = .ok states)
    (listed : desired ∈ states) (verbatim : VerbatimState runtime.text desired)
    (rendered : render runtime.text desired = .ok payload) :
    ∃ nodes : List Node,
      (∀ node ∈ nodes, node ∈ (sot (store.resolvedBranch branch)).nodes .interfacePhysical) ∧
      List.Forall₂ (fun node iface =>
          nodeToInterface runtime (sot (store.resolvedBranch branch)) node = .ok iface)
        nodes desired.interfaces ∧
      (OnlyIpv4 runtime.text desired payload ↔
        ∀ node ∈ nodes, FirstIsIpv4 runtime.text (sot (store.resolvedBranch branch))
          (node.relations "ip_addresses")) := by
  obtain ⟨nodes, present, read⟩ := interfaces_of_getDesiredState returned listed
  exact ⟨nodes, present, read, onlyIpv4_iff read verbatim rendered⟩

/-! ## A loopback with one address -/

/-- The loopback of a device, with one address. -/
def loopbackFabric (address : String) : Contents where
  nodes
    | .dcimDevice => [namedNode 1 "fabric"]
    | .interfacePhysical =>
        [{ id := UUID.text ⟨11⟩
           attributes := fun field => if field = "name" then .str "lo0" else .null
           relations := fun field =>
            if field = "device" then [UUID.text ⟨1⟩]
            else if field = "ip_addresses" then ["a1"]
            else [] }]
    | .routingBGPSession =>
        [{ id := UUID.text ⟨12⟩
           attributes := fun _ => .null
           relations := fun field => if field = "device" then [UUID.text ⟨1⟩] else [] }]
    | .ipamIPAddress => [addressNode "a1" address]
    | _ => []
  distinct kind := by
    cases kind <;> first | exact List.nodup_nil | exact List.nodup_singleton _

/-- The state read from it. -/
def loopbackState (address : String) (length : Int) : DesiredState where
  device := ⟨⟨1⟩, "fabric", "", "fabric", none⟩
  interfaces := [⟨"lo0", none, some address, some length, true, none⟩]
  bgpSessions := [⟨0, "", 0, none, "ipv4_unicast", true⟩]

/-- What is fetched of a loopback with one address. -/
def fetchLoopback (address : String) : Except IntentError (List DesiredState) :=
  Program.ending
    (InfrahubIntentStore.getDesiredState ⟨labClient, "main"⟩ Runtime.ascii {} none)
    fun _ => loopbackFabric address

theorem fetchLoopback_ipv4 : fetchLoopback "10.0.0.1/32" = .ok [loopbackState "10.0.0.1" 32] := by
  decide +kernel

theorem fetchLoopback_ipv6 :
    fetchLoopback "2001:db8::1/128" = .ok [loopbackState "2001:db8::1" 128] := by
  decide +kernel

theorem loopbackState_rendered
    {address : String} {length : Int} (plain : PlainText address) (writable : Convertible length) :
    PlainState PyText.ascii (loopbackState address length) ∧
      render PyText.ascii (loopbackState address length) =
        .ok (.obj (payloadFields PyText.ascii (loopbackState address length))) := by
  have plainState : PlainState PyText.ascii (loopbackState address length) := by
    have plainName : PlainText "lo0" := by decide
    constructor
    · intro iface member
      rw [List.mem_singleton.1 member]
      exact plainName
    · intro iface member own isAddress
      rw [List.mem_singleton.1 member] at isAddress
      rw [← Option.some.inj isAddress]
      exact plain
    · intro session member
      rw [List.mem_singleton.1 member]
      decide
    · intro session member group isGroup
      rw [List.mem_singleton.1 member] at isGroup
      cases isGroup
    · intro session member
      rw [List.mem_singleton.1 member]
      decide
    · intro _
      rw [selectRouterId_eq]
      rcases found : (loopbackState address length).interfaces.findSome?
        (loopbackAddress? PyText.ascii) with _ | own
      · intro char member
        cases member
      · obtain ⟨iface, member, gives⟩ := List.exists_of_findSome?_eq_some found
        rw [List.mem_singleton.1 member, loopbackAddress?] at gives
        split_ifs at gives
        rw [← Option.some.inj ((filled?_eq_some_iff _ _).1 gives).1]
        exact plain
  refine ⟨plainState, (render_eq_ok_iff plainState _).2 ⟨?_, ⟨?_, ?_, ?_⟩, rfl⟩⟩
  · intro iface member _
    rw [List.mem_singleton.1 member]
    exact Option.some_ne_none length
  · intro iface member
    rw [List.mem_singleton.1 member]
    constructor
    · intro mtu absent
      cases absent
    · intro _ own isLength
      rw [← Option.some.inj isLength]
      exact writable
  · exact convertible_zero
  · intro session member
    rw [List.mem_singleton.1 member]
    exact convertible_zero

theorem loopback_rendered_ipv4 :
    ∃ payload, render PyText.ascii (loopbackState "10.0.0.1" 32) = .ok payload ∧
      ∃ nodes : List Node,
        (∀ node ∈ nodes, node ∈ (loopbackFabric "10.0.0.1/32").nodes .interfacePhysical) ∧
        List.Forall₂ (fun node iface =>
            nodeToInterface Runtime.ascii (loopbackFabric "10.0.0.1/32") node = .ok iface)
          nodes (loopbackState "10.0.0.1" 32).interfaces ∧
        (OnlyIpv4 PyText.ascii (loopbackState "10.0.0.1" 32) payload ↔
          ∀ node ∈ nodes, FirstIsIpv4 PyText.ascii (loopbackFabric "10.0.0.1/32")
            (node.relations "ip_addresses")) := by
  obtain ⟨plain, rendered⟩ :=
    @loopbackState_rendered "10.0.0.1" 32 (by decide) (by decide +kernel)
  exact ⟨_, rendered, rendered_ipv4_iff fetchLoopback_ipv4 List.mem_cons_self
    (verbatim_of_plain plain) rendered⟩

/-- A loopback with an IPv6 address only is rendered with it, under `ipv4`. -/
theorem ipv6_rendered_as_ipv4 :
    fetchLoopback "2001:db8::1/128" = .ok [loopbackState "2001:db8::1" 128] ∧
      ∃ payload, render PyText.ascii (loopbackState "2001:db8::1" 128) = .ok payload ∧
        ¬ OnlyIpv4 PyText.ascii (loopbackState "2001:db8::1" 128) payload := by
  obtain ⟨-, rendered⟩ :=
    @loopbackState_rendered "2001:db8::1" 128 (by decide) (by decide +kernel)
  refine ⟨fetchLoopback_ipv6, _, rendered, ?_⟩
  intro only
  have isPrefix : Ipv4Prefix ("2001:db8::1".toList ++ '/' :: "128".toList) :=
    only.prefixes (.obj (interfaceFields ⟨"lo0", none, some "2001:db8::1", some 128, true, none⟩))
      List.mem_cons_self "2001:db8::1/128" (by decide +kernel)
  have isAddress := ((ipv4Prefix_append_iff (by decide)).1 isPrefix).1
  exact isAddress.not_colon (by decide)

end Snapl.Contract
