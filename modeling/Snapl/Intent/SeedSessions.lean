import Snapl.Intent.SeedBgp

/-!
# Sessions of the seed

The payload of a session is read off the devices, autonomous systems and
addresses that are there, and then upserted under its description.  Which copy
of a peer group it is wired to makes no difference to a session that exists.
-/

namespace Snapl.Intent

open Snapl.Library SeedIngester

variable {client : InfrahubClient}

/-- How sessions are looked up. -/
def sessionSection : Section where
  kind := .routingBGPSession
  lookup := ["description"]
  listValued := true

theorem keyed_sessions : sessionSection.Keyed where
  attributes := by simp [sessionSection, Kind.attributes]
  relationships := by simp [sessionSection]
  notAddress := by simp [sessionSection]

/-- The payload with the autonomous system of a field, or the problem. -/
def asIn (contents : Contents) (field : String) (session payload : Payload) :
    Except IntentError Payload :=
  match session.get? field with
  | none => .ok payload
  | some asn =>
      match contents.matching .routingAutonomousSystem [.value "asn" asn] with
      | [] => .error (.validation (.sessionAs field asn))
      | peer :: _ => .ok (payload.set field (.str peer.id))

/-- The payload with the address of a field, if there is one. -/
def ipIn (contents : Contents) (field : String) (session payload : Payload) : Payload :=
  match session.get? field with
  | none => payload
  | some address =>
      match contents.matching .ipamIPAddress [.value "address" address] with
      | [] => payload
      | peer :: _ => payload.set field (.str peer.id)

/-- The part of a session's payload that needs no lookup but its device. -/
def sessionBase (vrfId deviceId : String) (description : Json) (session : Payload) : Payload :=
  copyFields session ["session_type", "role"] (Dict.ofPairs
    [("description", description),
      ("status", (session.get? "status").getD (.str "active")),
      ("device", .str deviceId),
      ("vrf", .str vrfId)])

/-- The payload of a session, read off the default branch. -/
def sessionIn (vrfId : String) (contents : Contents) (ids : ShadowIds) (session : Payload) :
    Except IntentError Payload := do
  let localDevice ← raised (required session "local_device")
  let deviceId ← deviceIn contents localDevice (.sessionDevice localDevice)
  let description ← raised (required session "description")
  let withLocalAs ← asIn contents "local_as" session
    (sessionBase vrfId deviceId description session)
  let withRemoteAs ← asIn contents "remote_as" session withLocalAs
  raised (wirePeerGroup ids localDevice session
    (ipIn contents "remote_ip" session (ipIn contents "local_ip" session withRemoteAs)))

theorem raised_eq_ok_iff {Result : Type} {value : Except PyError Result} {result : Result} :
    raised value = .ok result ↔ value = .ok result := by
  rcases value with error | other <;> simp [raised, Except.mapError]

theorem wireAs_eq (field : String) (session payload : Payload) (sot : Sot) :
    wireAs client field session payload sot =
      (asIn (client.home sot) field session payload, sot) := by
  unfold wireAs asIn
  rcases session.get? field with _ | asn
  · rfl
  · dsimp only
    rw [Program.bind_of_ok (client.filters_apply _ _ sot)]
    rcases (client.home sot).matching .routingAutonomousSystem [.value "asn" asn] with
      _ | ⟨peer, rest⟩ <;> rfl

theorem wireIp_eq (field : String) (session payload : Payload) (sot : Sot) :
    wireIp client field session payload sot =
      (.ok (ipIn (client.home sot) field session payload), sot) := by
  unfold wireIp ipIn
  rcases session.get? field with _ | address
  · rfl
  · dsimp only
    rw [Program.bind_of_ok (client.filters_apply _ _ sot)]
    rcases (client.home sot).matching .ipamIPAddress [.value "address" address] with
      _ | ⟨peer, rest⟩ <;> rfl

/-- A field that is set does not touch the others. -/
theorem asIn_get?
    {contents : Contents} {field other : String} {session payload result : Payload}
    (ok : asIn contents field session payload = .ok result) (different : other ≠ field) :
    result.get? other = payload.get? other := by
  unfold asIn at ok
  rcases present : session.get? field with _ | asn
  · rw [present] at ok
    cases ok
    rfl
  · rw [present] at ok
    dsimp only at ok
    rcases found : contents.matching .routingAutonomousSystem [.value "asn" asn] with
      _ | ⟨peer, rest⟩
    · rw [found] at ok
      cases ok
    · rw [found] at ok
      cases ok
      exact Dict.get?_set_of_ne payload _ different

theorem ipIn_get?
    (contents : Contents) {field other : String} (session payload : Payload)
    (different : other ≠ field) :
    (ipIn contents field session payload).get? other = payload.get? other := by
  unfold ipIn
  rcases session.get? field with _ | address
  · rfl
  · dsimp only
    rcases contents.matching .ipamIPAddress [.value "address" address] with _ | ⟨peer, rest⟩
    · rfl
    · exact Dict.get?_set_of_ne payload _ different

theorem wirePeerGroup_get?
    {ids : ShadowIds} {localDevice : Json} {session payload result : Payload} {other : String}
    (ok : wirePeerGroup ids localDevice session payload = .ok result)
    (different : other ≠ "peer_group") : result.get? other = payload.get? other := by
  unfold wirePeerGroup at ok
  rcases present : session.get? "peer_group" with _ | group
  · rw [present] at ok
    cases ok
    rfl
  · rw [present] at ok
    dsimp only at ok
    obtain ⟨name, -, ok⟩ := (bind_eq_ok _ _ _).1 ok
    obtain ⟨device, -, ok⟩ := (bind_eq_ok _ _ _).1 ok
    rw [← Except.ok.inj ok]
    rcases ((ids.get? name).getD Dict.empty).get? device with _ | id
    · rfl
    · exact Dict.get?_set_of_ne payload _ different

/-- Whether a session's peer group can be wired depends on the session alone. -/
theorem wirePeerGroup_ok
    {ids : ShadowIds} {localDevice : Json} {session payload result : Payload}
    (ok : wirePeerGroup ids localDevice session payload = .ok result) (other : ShadowIds) :
    ∃ rewired, wirePeerGroup other localDevice session payload = .ok rewired := by
  unfold wirePeerGroup at ok ⊢
  rcases present : session.get? "peer_group" with _ | group
  · exact ⟨payload, rfl⟩
  · rw [present] at ok
    dsimp only at ok ⊢
    obtain ⟨name, isName, ok⟩ := (bind_eq_ok _ _ _).1 ok
    obtain ⟨device, isDevice, -⟩ := (bind_eq_ok _ _ _).1 ok
    rw [isName, ok_bind, isDevice, ok_bind]
    exact ⟨_, rfl⟩

/-- The steps a session's payload was read in. -/
theorem sessionIn_eq_ok_iff
    {vrfId : String} {contents : Contents} {ids : ShadowIds} {session payload : Payload} :
    sessionIn vrfId contents ids session = .ok payload ↔
      ∃ localDevice deviceId description withLocalAs withRemoteAs,
        required session "local_device" = .ok localDevice ∧
        deviceIn contents localDevice (.sessionDevice localDevice) = .ok deviceId ∧
        required session "description" = .ok description ∧
        asIn contents "local_as" session (sessionBase vrfId deviceId description session) =
          .ok withLocalAs ∧
        asIn contents "remote_as" session withLocalAs = .ok withRemoteAs ∧
        wirePeerGroup ids localDevice session (ipIn contents "remote_ip" session
          (ipIn contents "local_ip" session withRemoteAs)) = .ok payload := by
  rw [sessionIn]
  simp only [bind_eq_ok, raised_eq_ok_iff]
  constructor
  · rintro ⟨localDevice, isLocal, deviceId, isDevice, description, isDescription, withLocalAs,
      isLocalAs, withRemoteAs, isRemoteAs, isPayload⟩
    exact ⟨localDevice, deviceId, description, withLocalAs, withRemoteAs, isLocal, isDevice,
      isDescription, isLocalAs, isRemoteAs, isPayload⟩
  · rintro ⟨localDevice, deviceId, description, withLocalAs, withRemoteAs, isLocal, isDevice,
      isDescription, isLocalAs, isRemoteAs, isPayload⟩
    exact ⟨localDevice, isLocal, deviceId, isDevice, description, isDescription, withLocalAs,
      isLocalAs, withRemoteAs, isRemoteAs, isPayload⟩

/-- A session is looked up by the description it declares. -/
theorem session_lookup
    {vrfId : String} {contents : Contents} {ids : ShadowIds} {session payload : Payload}
    (read : sessionIn vrfId contents ids session = .ok payload) :
    ∃ description, required session "description" = .ok description ∧
      payload.get? "description" = some description ∧
      lookupFilters sessionSection payload = [.value "description" description] := by
  obtain ⟨localDevice, deviceId, description, withLocalAs, withRemoteAs, -, -, isDescription,
    isLocalAs, isRemoteAs, isPayload⟩ := sessionIn_eq_ok_iff.1 read
  have described : payload.get? "description" = some description := by
    rw [wirePeerGroup_get? isPayload (by decide), ipIn_get? _ _ _ (by decide),
      ipIn_get? _ _ _ (by decide), asIn_get? isRemoteAs (by decide),
      asIn_get? isLocalAs (by decide), sessionBase, copyFields_of_not_mem _ (by simp)]
    simp [Dict.ofPairs, Dict.update, Dict.get?_set_of_ne]
  refine ⟨description, isDescription, described, ?_⟩
  rw [lookupFilters, sessionSection, List.filterMap_cons_some (by rw [described]; rfl),
    List.filterMap_nil, lookupFilter]
  rfl

/-- A session that is seeded is read and then upserted. -/
theorem seedSession_inv
    {branch vrfId : String} {ids : ShadowIds} {session : Payload} {sot after : Sot}
    (ran : seedSession client branch vrfId ids session sot = (.ok (), after)) :
    ∃ payload outcome, sessionIn vrfId (client.home sot) ids session = .ok payload ∧
      upsertNode client sessionSection.kind (lookupFilters sessionSection payload) payload branch
        sot = (.ok outcome, after) := by
  rw [seedSession, Program.bind_eq_ok_iff] at ran
  obtain ⟨localDevice, start, computesLocal, ran⟩ := ran
  obtain ⟨isLocal, rfl⟩ := compute_eq_ok_iff.1 computesLocal
  rw [Program.bind_eq_ok_iff] at ran
  obtain ⟨deviceId, start, isDevice, ran⟩ := ran
  rw [requireDevice_eq, Prod.mk.injEq] at isDevice
  obtain ⟨isDevice, rfl⟩ := isDevice
  rw [Program.bind_eq_ok_iff] at ran
  obtain ⟨description, start, computesDescription, ran⟩ := ran
  obtain ⟨isDescription, rfl⟩ := compute_eq_ok_iff.1 computesDescription
  rw [Program.bind_eq_ok_iff] at ran
  obtain ⟨withLocalAs, start, isLocalAs, ran⟩ := ran
  rw [wireAs_eq, Prod.mk.injEq] at isLocalAs
  obtain ⟨isLocalAs, rfl⟩ := isLocalAs
  rw [Program.bind_eq_ok_iff] at ran
  obtain ⟨withRemoteAs, start, isRemoteAs, ran⟩ := ran
  rw [wireAs_eq, Prod.mk.injEq] at isRemoteAs
  obtain ⟨isRemoteAs, rfl⟩ := isRemoteAs
  rw [Program.bind_of_ok (wireIp_eq _ _ _ _), Program.bind_of_ok (wireIp_eq _ _ _ _),
    Program.bind_eq_ok_iff] at ran
  obtain ⟨payload, start, computesPayload, ran⟩ := ran
  obtain ⟨isPayload, rfl⟩ := compute_eq_ok_iff.1 computesPayload
  rw [Program.bind_eq_ok_iff] at ran
  obtain ⟨outcome, last, upserts, ran⟩ := ran
  obtain ⟨-, rfl⟩ := Program.pure_eq_ok_iff.1 ran
  have read : sessionIn vrfId (client.home sot) ids session = .ok payload :=
    sessionIn_eq_ok_iff.2 ⟨localDevice, deviceId, description, withLocalAs, withRemoteAs, isLocal,
      isDevice, isDescription, isLocalAs, isRemoteAs, isPayload⟩
  obtain ⟨other, isOther, -, filters⟩ := session_lookup read
  obtain rfl : description = other := Except.ok.inj (isDescription.symm.trans isOther)
  refine ⟨payload, outcome, read, ?_⟩
  rw [filters]
  exact upserts

/-- A session that can be read and upserted is seeded. -/
theorem seedSession_of_read
    {branch vrfId : String} {ids : ShadowIds} {session payload : Payload} {sot after : Sot}
    {outcome : String × Bool}
    (read : sessionIn vrfId (client.home sot) ids session = .ok payload)
    (upserts : upsertNode client sessionSection.kind (lookupFilters sessionSection payload) payload
      branch sot = (.ok outcome, after)) :
    seedSession client branch vrfId ids session sot = (.ok (), after) := by
  obtain ⟨other, isOther, -, filters⟩ := session_lookup read
  obtain ⟨localDevice, deviceId, description, withLocalAs, withRemoteAs, isLocal, isDevice,
    isDescription, isLocalAs, isRemoteAs, isPayload⟩ := sessionIn_eq_ok_iff.1 read
  obtain rfl : description = other := Except.ok.inj (isDescription.symm.trans isOther)
  rw [filters, sessionSection] at upserts
  have device : requireDevice client localDevice (.sessionDevice localDevice) sot =
      (.ok deviceId, sot) := by
    rw [requireDevice_eq, isDevice]
  have localAs : wireAs client "local_as" session
      (sessionBase vrfId deviceId description session) sot = (.ok withLocalAs, sot) := by
    rw [wireAs_eq, isLocalAs]
  have remoteAs : wireAs client "remote_as" session withLocalAs sot =
      (.ok withRemoteAs, sot) := by
    rw [wireAs_eq, isRemoteAs]
  rw [sessionBase] at localAs
  rw [seedSession, Program.bind_of_ok (compute_of_ok isLocal sot), Program.bind_of_ok device,
    Program.bind_of_ok (compute_of_ok isDescription sot), Program.bind_of_ok localAs,
    Program.bind_of_ok remoteAs, Program.bind_of_ok (wireIp_eq _ _ _ _),
    Program.bind_of_ok (wireIp_eq _ _ _ _), Program.bind_of_ok (compute_of_ok isPayload sot),
    Program.bind_of_ok upserts]
  rfl

/-- The kinds a session is read off. -/
def SameReferences (contents other : Contents) : Prop :=
  contents.nodes .dcimDevice = other.nodes .dcimDevice ∧
  contents.nodes .routingAutonomousSystem = other.nodes .routingAutonomousSystem ∧
  contents.nodes .ipamIPAddress = other.nodes .ipamIPAddress

theorem sessionIn_congr {contents other : Contents} (same : SameReferences contents other)
    (vrfId : String) (ids : ShadowIds) (session : Payload) :
    sessionIn vrfId contents ids session = sessionIn vrfId other ids session := by
  obtain ⟨devices, systems, addresses⟩ := same
  have asSame : asIn contents = asIn other := by
    funext field session payload
    unfold asIn Contents.matching
    rw [systems]
  have ipSame : ipIn contents = ipIn other := by
    funext field session payload
    unfold ipIn Contents.matching
    rw [addresses]
  have deviceSame : deviceIn contents = deviceIn other := by
    funext name problem
    exact deviceIn_congr devices name problem
  rw [sessionIn, sessionIn, asSame, ipSame, deviceSame]

/-- Which copies there are makes no difference to a session's key and attributes. -/
theorem sessionIn_agrees
    {vrfId : String} {contents : Contents} {ids : ShadowIds} {session payload : Payload}
    (read : sessionIn vrfId contents ids session = .ok payload) (other : ShadowIds) :
    ∃ reread, sessionIn vrfId contents other session = .ok reread ∧
      sessionSection.Agrees payload reread := by
  obtain ⟨localDevice, deviceId, description, withLocalAs, withRemoteAs, isLocal, isDevice,
    isDescription, isLocalAs, isRemoteAs, isPayload⟩ := sessionIn_eq_ok_iff.1 read
  obtain ⟨reread, isReread⟩ := wirePeerGroup_ok isPayload other
  refine ⟨reread, sessionIn_eq_ok_iff.2 ⟨localDevice, deviceId, description, withLocalAs,
    withRemoteAs, isLocal, isDevice, isDescription, isLocalAs, isRemoteAs, isReread⟩, ?_⟩
  intro field known
  have notGroup : field ≠ "peer_group" := by
    rintro rfl
    revert known
    decide
  rw [wirePeerGroup_get? isPayload notGroup, wirePeerGroup_get? isReread notGroup]

theorem Evolves.references {sot after : Sot}
    (evolves : Evolves client [.routingBGPSession] sot after) :
    SameReferences (client.home after) (client.home sot) :=
  ⟨evolves.others _ (by decide), evolves.others _ (by decide), evolves.others _ (by decide)⟩

/-- Sessions are served in order. -/
theorem seedSessions_serves
    {vrfId : String} {ids : ShadowIds} {entries : List Payload} {taken : List String}
    {sot after : Sot} (known : taken ⊆ (client.home sot).mentioned)
    (ran : seedSessions client client.defaultBranch vrfId ids entries sot = (.ok (), after)) :
    Evolves client [.routingBGPSession] sot after ∧
    ∃ requests,
      List.Forall₂ (fun session request =>
        sessionIn vrfId (client.home sot) ids session = .ok request) entries requests ∧
      sessionSection.upserting.Serves (sessionSection.Made taken) requests
        ((client.home sot).nodes .routingBGPSession)
        ((client.home after).nodes .routingBGPSession) := by
  induction entries generalizing sot with
  | nil =>
      obtain ⟨-, rfl⟩ := Program.pure_eq_ok_iff.1 ran
      exact ⟨Evolves.refl _ sot, [], .nil, .done _⟩
  | cons session rest induction =>
      rw [seedSessions, Program.bind_eq_ok_iff] at ran
      obtain ⟨_, middle, first, ran⟩ := ran
      obtain ⟨payload, outcome, read, upserts⟩ := seedSession_inv first
      have resolved : ∀ key ∈ sessionSection.lookupRelFields, ∀ value,
          payload.get? key = some value → ∃ id, value = .str id := by
        intro key member
        cases member
      obtain ⟨evolves, serves⟩ := upsertNode_serves keyed_sessions resolved known upserts
      obtain ⟨evolvesRest, requests, reads, servesRest⟩ :=
        induction (List.Subset.trans known evolves.mentioned) ran
      refine ⟨evolves.trans evolvesRest, payload :: requests, .cons read ?_,
        serves.append servesRest⟩
      exact reads.imp fun session request reading => by
        rw [← sessionIn_congr evolves.references]
        exact reading

/-- Sessions that are all there are written to in order. -/
theorem seedSessions_again
    {vrfId : String} {ids : ShadowIds} {entries requests : List Payload} {sot : Sot}
    (reads : List.Forall₂ (fun session request => ∃ payload,
      sessionIn vrfId (client.home sot) ids session = .ok payload ∧
        sessionSection.Agrees request payload) entries requests)
    (present : ∀ request ∈ requests, sessionSection.upserting.Present request
      ((client.home sot).nodes .routingBGPSession)) :
    ∃ after,
      seedSessions client client.defaultBranch vrfId ids entries sot = (.ok (), after) ∧
      Evolves client [.routingBGPSession] sot after ∧
      (client.home after).nodes .routingBGPSession =
        sessionSection.upserting.replay requests
          ((client.home sot).nodes .routingBGPSession) := by
  induction entries generalizing requests sot with
  | nil =>
      cases reads
      exact ⟨sot, rfl, Evolves.refl _ sot, rfl⟩
  | cons session rest induction =>
      rcases reads with _ | @⟨_, request, _, requests, ⟨payload, read, agrees⟩, reads⟩
      obtain ⟨id, middle, upserts, evolves, nodes⟩ := upsertNode_present keyed_sessions
        ((agrees.present_iff _).1 (present request List.mem_cons_self)) client.defaultBranch
      have nodesOfRequest : (client.home middle).nodes .routingBGPSession =
          sessionSection.upserting.writeFirst request
            ((client.home sot).nodes .routingBGPSession) := by
        rw [agrees.writeFirst_eq]
        exact nodes
      have readsThen : List.Forall₂ (fun session request => ∃ payload,
          sessionIn vrfId (client.home middle) ids session = .ok payload ∧
            sessionSection.Agrees request payload) rest requests := by
        apply reads.imp
        rintro session request ⟨payload, reading, agreeing⟩
        refine ⟨payload, ?_, agreeing⟩
        rw [sessionIn_congr evolves.references]
        exact reading
      obtain ⟨after, ran, evolvesRest, replayed⟩ := induction readsThen (by
        intro other member
        rw [nodesOfRequest, Upserting.present_writeFirst]
        exact present other (List.mem_cons_of_mem request member))
      refine ⟨after, ?_, evolves.trans evolvesRest, ?_⟩
      · rw [seedSessions, Program.bind_of_ok (seedSession_of_read read upserts)]
        exact ran
      · rw [replayed, nodesOfRequest, Upserting.replay_cons]

/-- Sessions that have been seeded are settled, whichever copies they are wired to. -/
theorem seedSessions_settled
    {vrfId : String} {ids : ShadowIds} (other : ShadowIds) {entries : List Payload}
    {sot after later : Sot}
    (ran : seedSessions client client.defaultBranch vrfId ids entries sot = (.ok (), after))
    (references : SameReferences (client.home later) (client.home after))
    (own : (client.home later).nodes .routingBGPSession =
      (client.home after).nodes .routingBGPSession) :
    seedSessions client client.defaultBranch vrfId other entries later = (.ok (), later) := by
  obtain ⟨evolves, requests, reads, serves⟩ := @seedSessions_serves client vrfId ids entries []
    sot after (List.nil_subset _) ran
  have hits := fun (request : Payload) (node : Node)
      (made : sessionSection.Made [] request node) => Section.hits_of_made keyed_sessions made
  have fixed := fun (request : Payload) (node : Node)
      (made : sessionSection.Made [] request node) => Section.write_of_made made
  have sameReferences : SameReferences (client.home later) (client.home sot) :=
    ⟨references.1.trans evolves.references.1, references.2.1.trans evolves.references.2.1,
      references.2.2.trans evolves.references.2.2⟩
  have rereads : List.Forall₂ (fun session request => ∃ payload,
      sessionIn vrfId (client.home later) other session = .ok payload ∧
        sessionSection.Agrees request payload) entries requests := by
    apply reads.imp
    intro session request read
    rw [← sessionIn_congr sameReferences] at read
    exact sessionIn_agrees read other
  obtain ⟨last, run, evolvesAgain, replayed⟩ := seedSessions_again rereads (by
    intro request member
    rw [own]
    exact serves.present_of_mem hits request member)
  have same : last = later := by
    apply evolvesAgain.eq_of_nodes
    intro kind member
    rw [List.mem_singleton.1 member, replayed, own]
    exact serves.replay_eq hits fixed
  rw [run, same]

end Snapl.Intent
