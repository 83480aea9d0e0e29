import Snapl.Intent.SeedCopies

/-!
# Sessions as records

The payload of a session realises what the session writes: its autonomous
systems and its device are wired, its addresses if they have nodes, and its peer
group if the group has a record.
-/

namespace Snapl.Intent

open Snapl.Library SeedIngester

variable {client : InfrahubClient} {text : PyText}

/-- How autonomous systems are named. -/
def asRel : Rel := { peerKind := .routingAutonomousSystem, lookupAttr := "asn" }

/-- An autonomous system a session names is wired. -/
theorem asIn_get?_self
    {contents : Contents} {field : String} {session payload result : Payload}
    (ok : asIn contents field session payload = .ok result) :
    (session.get? field = none ∧ result.get? field = payload.get? field) ∨
    ∃ asn peer, session.get? field = some asn ∧ asRel.node? contents asn = some peer ∧
      result.get? field = some (.str peer.id) := by
  unfold asIn at ok
  rcases present : session.get? field with _ | asn
  · rw [present] at ok
    cases ok
    exact Or.inl ⟨rfl, rfl⟩
  · rw [present] at ok
    dsimp only at ok
    have head := asRel.node?_eq_head? contents asn
    rw [asRel] at head
    rcases found : contents.matching .routingAutonomousSystem [.value "asn" asn] with
      _ | ⟨peer, rest⟩
    · rw [found] at ok
      cases ok
    · rw [found] at ok head
      cases ok
      exact Or.inr ⟨asn, peer, rfl, head, Dict.get?_set_self payload field _⟩

/-- An address a session names is wired if it has a node. -/
theorem ipIn_get?_self
    (contents : Contents) (field : String) (session payload : Payload) :
    (((session.get? field).bind (addressRel.node? contents) = none) ∧
      (ipIn contents field session payload).get? field = payload.get? field) ∨
    ∃ address peer, session.get? field = some address ∧
      addressRel.node? contents address = some peer ∧
      (ipIn contents field session payload).get? field = some (.str peer.id) := by
  unfold ipIn
  rcases present : session.get? field with _ | address
  · exact Or.inl ⟨rfl, rfl⟩
  · dsimp only
    have head := addressRel.node?_eq_head? contents address
    rw [addressRel] at head
    rcases found : contents.matching .ipamIPAddress [.value "address" address] with
      _ | ⟨peer, rest⟩
    · rw [found] at head
      exact Or.inl ⟨head, rfl⟩
    · rw [found] at head
      exact Or.inr ⟨address, peer, rfl, head, Dict.get?_set_self payload field _⟩

/-- A peer group is wired to the copy the table has for the session's device. -/
theorem wirePeerGroup_get?_self
    {ids : ShadowIds} {localDevice : Json} {session payload result : Payload}
    (ok : wirePeerGroup ids localDevice session payload = .ok result) :
    (((session.get? "peer_group").bind fun group => copyId ids group localDevice) = none ∧
      result.get? "peer_group" = payload.get? "peer_group") ∨
    ∃ group id, session.get? "peer_group" = some group ∧ copyId ids group localDevice = some id ∧
      result.get? "peer_group" = some (.str id) := by
  unfold wirePeerGroup at ok
  rcases present : session.get? "peer_group" with _ | group
  · rw [present] at ok
    cases ok
    exact Or.inl ⟨rfl, rfl⟩
  · rw [present] at ok
    dsimp only at ok
    obtain ⟨name, isName, wires⟩ := (bind_eq_ok _ _ _).1 ok
    obtain ⟨device, isDevice, final⟩ := (bind_eq_ok _ _ _).1 wires
    obtain rfl := hashed_eq_ok isName
    obtain rfl := hashed_eq_ok isDevice
    rw [← Except.ok.inj final, Option.bind_some]
    rcases found : copyId ids name device with _ | id
    · rw [copyId] at found
      rw [found]
      exact Or.inl ⟨rfl, rfl⟩
    · refine Or.inr ⟨name, id, rfl, found, ?_⟩
      rw [copyId] at found
      rw [found]
      exact Dict.get?_set_self payload _ _

/-- The fields a session is created with before its peers are wired. -/
theorem get?_sessionBase
    (vrfId deviceId : String) (description : Json) (session : Payload) (field : String) :
    (sessionBase vrfId deviceId description session).get? field =
      if field = "session_type" ∨ field = "role" then session.get? field
      else if field = "vrf" then some (.str vrfId)
      else if field = "device" then some (.str deviceId)
      else if field = "status" then some ((session.get? "status").getD (.str "active"))
      else if field = "description" then some description
      else none := by
  have base : (Dict.ofPairs
      [("description", description), ("status", (session.get? "status").getD (.str "active")),
        ("device", .str deviceId), ("vrf", .str vrfId)]).get? field =
      if field = "vrf" then some (.str vrfId)
      else if field = "device" then some (.str deviceId)
      else if field = "status" then some ((session.get? "status").getD (.str "active"))
      else if field = "description" then some description
      else none := by
    rw [get?_ofPairs]
    simp only [List.reverse_cons, List.reverse_nil, List.nil_append, List.cons_append,
      lookup_cons_ite, List.lookup_nil]
  rw [sessionBase]
  by_cases copied : field ∈ ["session_type", "role"]
  · rw [copyFields_of_mem session copied, base]
    have either : field = "session_type" ∨ field = "role" := by simpa using copied
    rcases either with rfl | rfl
    · simp
    · simp
  · rw [copyFields_of_not_mem session copied, base]
    have neither : ¬(field = "session_type" ∨ field = "role") := by simpa using copied
    rw [if_neg neither]

/-- Fields that name no wired peer are those the session is created with. -/
theorem sessionIn_get?
    {vrfId : String} {contents : Contents} {ids : ShadowIds} {session payload : Payload}
    {localDevice description : Json} {deviceId : String} {withLocalAs withRemoteAs : Payload}
    (isLocalAs : asIn contents "local_as" session
      (sessionBase vrfId deviceId description session) = .ok withLocalAs)
    (isRemoteAs : asIn contents "remote_as" session withLocalAs = .ok withRemoteAs)
    (isPayload : wirePeerGroup ids localDevice session (ipIn contents "remote_ip" session
      (ipIn contents "local_ip" session withRemoteAs)) = .ok payload)
    {field : String}
    (plain : field ∉ ["local_as", "remote_as", "local_ip", "remote_ip", "peer_group"]) :
    payload.get? field = (sessionBase vrfId deviceId description session).get? field := by
  simp only [List.mem_cons, List.not_mem_nil, or_false, not_or] at plain
  obtain ⟨notLocalAs, notRemoteAs, notLocalIp, notRemoteIp, notGroup⟩ := plain
  rw [wirePeerGroup_get? isPayload notGroup, ipIn_get? _ _ _ notRemoteIp,
    ipIn_get? _ _ _ notLocalIp, asIn_get? isRemoteAs notRemoteAs, asIn_get? isLocalAs notLocalAs]

/-- What the contents and the table of copies offer the sessions of a dataset. -/
structure Offers (text : PyText) (dataset : Dataset) (before contents : Contents)
    (ids : ShadowIds) (session : Payload) : Prop where
  addresses : ∀ address, (addressRel.node? contents address).isSome ↔
    address ∈ knownAddresses dataset before
  copies : ∀ group device, groupOf session = some group →
    session.get? "local_device" = some device → ((declaredGroups dataset).get? group).isSome →
      ∃ id, copyId ids group device = some id ∧
        ∃ node ∈ contents.nodes .routingBGPPeerGroup,
          node.id = id ∧ node.attributes "name" = copyName text group device
  others : ∀ group device, session.get? "peer_group" = some group →
    ¬((groupOf session).bind (declaredGroups dataset).get?).isSome → copyId ids group device = none

theorem target_sessions
    {field : String} {rel : Rel}
    (target : (vocabulary .bgpSessions).targets.lookup field = some rel) :
    field = "device" ∧ rel = deviceRel ∨
    (field = "local_as" ∨ field = "remote_as") ∧ rel = asRel ∨
    (field = "local_ip" ∨ field = "remote_ip") ∧ rel = addressRel ∨
    field = "peer_group" ∧ rel = { peerKind := .routingBGPPeerGroup } := by
  have member := mem_of_lookup target
  simp only [vocabulary, List.mem_cons, Prod.mk.injEq, List.not_mem_nil, or_false] at member
  rcases member with ⟨rfl, rfl⟩ | ⟨rfl, rfl⟩ | ⟨rfl, rfl⟩ | ⟨rfl, rfl⟩ | ⟨rfl, rfl⟩ | ⟨rfl, rfl⟩
  · exact Or.inl ⟨rfl, rfl⟩
  · exact Or.inr (Or.inl ⟨Or.inl rfl, rfl⟩)
  · exact Or.inr (Or.inl ⟨Or.inr rfl, rfl⟩)
  · exact Or.inr (Or.inr (Or.inl ⟨Or.inl rfl, rfl⟩))
  · exact Or.inr (Or.inr (Or.inl ⟨Or.inr rfl, rfl⟩))
  · exact Or.inr (Or.inr (Or.inr ⟨rfl, rfl⟩))

/--
What a field that names a peer comes to: a peer of the name it is written with,
or no value at all.
-/
def Links (contents : Contents) (request : Payload) (record : Declaration) (field : String)
    (rel : Rel) : Prop :=
  match record.peers field with
  | some name => ∃ peer ∈ contents.nodes rel.peerKind,
      peer.attributes rel.lookupAttr = name ∧ request.get? field = some (.str peer.id)
  | none => request.get? field = none

section

variable {contents : Contents} {session payload result request : Payload}
  {record : Declaration} {field : String}

theorem links_of_asIn
    (ok : asIn contents field session payload = .ok result) (unwired : payload.get? field = none)
    (written : request.get? field = result.get? field)
    (named : record.peers field = session.get? field) :
    Links contents request record field asRel := by
  rw [Links, named, written]
  rcases asIn_get?_self ok with ⟨absent, same⟩ | ⟨asn, peer, given, found, wired⟩
  · rw [absent]
    exact same.trans unwired
  · obtain ⟨inNodes, hasName⟩ := Rel.node?_eq_some found
    rw [given]
    exact ⟨peer, inNodes, hasName, wired⟩

theorem links_of_ipIn
    (payload : Payload) {known : List Json}
    (addresses : ∀ address, (addressRel.node? contents address).isSome ↔ address ∈ known)
    (unwired : payload.get? field = none)
    (written : request.get? field = (ipIn contents field session payload).get? field)
    (named : record.peers field = (session.get? field).filter fun address => address ∈ known) :
    Links contents request record field addressRel := by
  rw [Links, named, written]
  rcases ipIn_get?_self contents field session payload with
    ⟨absent, same⟩ | ⟨address, peer, given, found, wired⟩
  · have unnamed : (session.get? field).filter (fun address => decide (address ∈ known)) =
        none := by
      rcases given : session.get? field with _ | address
      · rfl
      · rw [given, Option.bind_some] at absent
        have unknown : address ∉ known := by
          rw [← addresses, absent]
          exact Bool.false_ne_true
        simp [Option.filter, unknown]
    rw [unnamed]
    exact same.trans unwired
  · obtain ⟨inNodes, hasName⟩ := Rel.node?_eq_some found
    have isKnown : address ∈ known := by
      rw [← addresses, found]
      rfl
    rw [given, Option.filter_some, if_pos (decide_eq_true isKnown)]
    exact ⟨peer, inNodes, hasName, wired⟩

end

/-- The peers of a session's payload are those the session writes. -/
theorem links_of_sessionIn
    {dataset : Dataset} {vrfId : String} {before contents : Contents} {ids : ShadowIds}
    {session request : Payload} (offers : Offers text dataset before contents ids session)
    (read : sessionIn vrfId contents ids session = .ok request) {field : String} {rel : Rel}
    (target : (vocabulary .bgpSessions).targets.lookup field = some rel) :
    Links contents request (writeSession text dataset before session) field rel := by
  obtain ⟨localDevice, deviceId, description, withLocalAs, withRemoteAs, isLocal, isDevice,
    isDescription, isLocalAs, isRemoteAs, isPayload⟩ := sessionIn_eq_ok_iff.1 read
  have base := get?_sessionBase vrfId deviceId description session
  rcases target_sessions target with
    ⟨rfl, rfl⟩ | ⟨rfl | rfl, rfl⟩ | ⟨rfl | rfl, rfl⟩ | ⟨rfl, rfl⟩
  · obtain ⟨peer, found, isId⟩ := deviceIn_eq_ok isDevice
    obtain ⟨inNodes, hasName⟩ := Rel.node?_eq_some found
    have named : (writeSession text dataset before session).peers "device" = some localDevice :=
      required_eq_ok isLocal
    rw [Links, named, sessionIn_get? isLocalAs isRemoteAs isPayload (by decide), base, ← isId]
    exact ⟨peer, inNodes, hasName, rfl⟩
  · apply links_of_asIn isLocalAs (base "local_as") _ rfl
    rw [wirePeerGroup_get? isPayload (by decide), ipIn_get? _ _ _ (by decide),
      ipIn_get? _ _ _ (by decide), asIn_get? isRemoteAs (by decide)]
  · apply links_of_asIn isRemoteAs _ _ rfl
    · rw [asIn_get? isLocalAs (by decide)]
      exact base "remote_as"
    · rw [wirePeerGroup_get? isPayload (by decide), ipIn_get? _ _ _ (by decide),
        ipIn_get? _ _ _ (by decide)]
  · apply links_of_ipIn withRemoteAs offers.addresses _ _ rfl
    · rw [asIn_get? isRemoteAs (by decide), asIn_get? isLocalAs (by decide)]
      exact base "local_ip"
    · rw [wirePeerGroup_get? isPayload (by decide), ipIn_get? _ _ _ (by decide)]
  · apply links_of_ipIn (ipIn contents "local_ip" session withRemoteAs) offers.addresses _ _ rfl
    · rw [ipIn_get? _ _ _ (by decide), asIn_get? isRemoteAs (by decide),
        asIn_get? isLocalAs (by decide)]
      exact base "remote_ip"
    · rw [wirePeerGroup_get? isPayload (by decide)]
  · have unwired : (ipIn contents "remote_ip" session
        (ipIn contents "local_ip" session withRemoteAs)).get? "peer_group" = none := by
      rw [ipIn_get? _ _ _ (by decide), ipIn_get? _ _ _ (by decide),
        asIn_get? isRemoteAs (by decide), asIn_get? isLocalAs (by decide)]
      exact base "peer_group"
    have isLocalDevice := required_eq_ok isLocal
    have wires := wirePeerGroup_get?_self isPayload
    rw [unwired] at wires
    have named : (writeSession text dataset before session).peers "peer_group" =
        if ((groupOf session).bind (declaredGroups dataset).get?).isSome then
          (groupOf session).map fun group => copyName text group localDevice
        else none := by
      rw [writeSession]
      simp only [sessionPeers, isLocalDevice, Option.getD_some]
      rfl
    rw [Links, named]
    split_ifs with counts
    · obtain ⟨record, isRecord⟩ := Option.isSome_iff_exists.1 counts
      obtain ⟨group, isGroup, found⟩ := Option.bind_eq_some_iff.1 isRecord
      have given : session.get? "peer_group" = some group :=
        (Option.filter_eq_some_iff.1 isGroup).1
      obtain ⟨id, isId, node, inNodes, nodeId, hasName⟩ := offers.copies group localDevice isGroup
        isLocalDevice (by rw [found]; rfl)
      rw [given, Option.bind_some, isId] at wires
      rcases wires with ⟨absent, -⟩ | ⟨other, otherId, isOther, isOtherId, wired⟩
      · cases absent
      · cases isOther
        rw [isId, Option.some.injEq] at isOtherId
        rw [isGroup]
        exact ⟨node, inNodes, hasName, by rw [wired, nodeId, isOtherId]⟩
    · rcases wires with ⟨-, unwritten⟩ | ⟨group, id, given, isId, -⟩
      · exact unwritten
      · rw [offers.others group localDevice given counts] at isId
        cases isId

theorem values_writeSession_of_target
    {dataset : Dataset} {contents : Contents} {session : Payload} {field : String} {rel : Rel}
    (target : (vocabulary .bgpSessions).targets.lookup field = some rel) :
    (writeSession text dataset contents session).values field = none := by
  rcases target_sessions target with
    ⟨rfl, -⟩ | ⟨rfl | rfl, -⟩ | ⟨rfl | rfl, -⟩ | ⟨rfl, -⟩ <;> rfl

/-- The request of a session writes what the session writes. -/
theorem realises_of_sessionIn
    {dataset : Dataset} {vrfId : String} {before contents : Contents} {ids : ShadowIds}
    {session request : Payload} (offers : Offers text dataset before contents ids session)
    (read : sessionIn vrfId contents ids session = .ok request) :
    (vocabulary .bgpSessions).Realises contents (writeSession text dataset before session)
      request := by
  constructor
  · intro field known
    obtain ⟨localDevice, deviceId, description, withLocalAs, withRemoteAs, -, -, isDescription,
      isLocalAs, isRemoteAs, isPayload⟩ := sessionIn_eq_ok_iff.1 read
    have plain : field ∉ ["local_as", "remote_as", "local_ip", "remote_ip", "peer_group"] ∧
        field ≠ "vrf" ∧ field ≠ "device" := by
      have isField : field ∈ Kind.attributes .routingBGPSession := known
      simp only [Kind.attributes, List.mem_cons, List.not_mem_nil, or_false] at isField
      rcases isField with rfl | rfl | rfl | rfl | rfl | rfl | rfl <;> decide
    obtain ⟨notPeer, notVrf, notDevice⟩ := plain
    rw [sessionIn_get? isLocalAs isRemoteAs isPayload notPeer, get?_sessionBase, writeSession]
    by_cases isDescribed : field = "description"
    · subst isDescribed
      simp [required_eq_ok isDescription]
    · simp only [notVrf, notDevice, isDescribed, if_false, false_or]
      split_ifs with copied isStatus
      · rfl
      · rw [isStatus]
      · rfl
  · intro field rel name target named
    have links := links_of_sessionIn offers read target
    rw [Links, named] at links
    obtain ⟨peer, inNodes, hasName, written⟩ := links
    exact ⟨peer, inNodes, hasName, by rw [written]; rfl⟩
  · intro field rel target unnamed
    have links := links_of_sessionIn offers read target
    rw [Links, unnamed] at links
    rw [links, values_writeSession_of_target target]
  · intro field isKey
    cases isKey

theorem keyed_writeSession
    {dataset : Dataset} {vrfId : String} {before contents : Contents} {ids : ShadowIds}
    {session request : Payload} (read : sessionIn vrfId contents ids session = .ok request) :
    (vocabulary .bgpSessions).Keyed (writeSession text dataset before session) := by
  obtain ⟨description, isDescription, -⟩ := session_lookup read
  intro value member
  obtain ⟨field, isKey, rfl⟩ := List.mem_map.1 member
  obtain rfl : field = "description" := List.mem_singleton.1 isKey
  have given : (writeSession text dataset before session).values "description" =
      some description := required_eq_ok isDescription
  exact Option.isSome_iff_exists.2 ⟨description, given⟩

end Snapl.Intent
