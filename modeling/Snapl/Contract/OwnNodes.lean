import Snapl.Contract.SeedIdempotence
import Snapl.Intent.UpsertCalls

/-!
# An upsert touches its own node

The own node of an item agrees with it on every field of its section's natural
key; the own nodes of a session and of a copy of a peer group belong to the
session's local device.  A lookup leaves out the key fields an item lacks, a
copy is looked up by a name put together from two names, and a session by its
description alone.  So an item that lacks a key field writes to whatever node
agrees with it on the others, and a copy or a session to whatever device's node
happens to bear the name or the description.
-/

namespace Snapl.Intent

open Snapl.Library SeedIngester

variable {client : InfrahubClient} {text : PyText}

/-! ## Own nodes -/

/-- The first node of a kind with a value. -/
def Contents.first? (contents : Contents) (kind : Kind) (field : String) (value : Json) :
    Option Node :=
  (contents.matching kind [.value field value]).head?

/--
The node has the value an item gives to a field of its key.  For a reference it
leads to the node the value names.
-/
def Section.AgreesOn
    (sec : Section) (contents : Contents) (node : Node) (key : String) (value : Json) : Prop :=
  if key ∈ sec.lookupRelFields then
    ∃ rel peer, (key, rel) ∈ sec.relationships ∧
      contents.first? rel.peerKind rel.lookupAttr value = some peer ∧
      peer.id ∈ node.relations key
  else node.attributes key = value

/-- The node agrees with the item on every field of the natural key. -/
def Section.Own (sec : Section) (contents : Contents) (item : Payload) (node : Node) : Prop :=
  ∀ key ∈ sec.lookup, ∃ value, item.get? key = some value ∧ sec.AgreesOn contents node key value

/-- The node belongs to the device of a name. -/
def BelongsTo (contents : Contents) (device : Json) (node : Node) : Prop :=
  ∃ peer, contents.first? .dcimDevice "name" device = some peer ∧
    peer.id ∈ node.relations "device"

/-- The nodes a call may write to. -/
def UpsertCall.Own (contents : Contents) : UpsertCall → Node → Prop
  | .item name _ fields _, node => (sections name).Own contents fields node
  | .shadow _ _ device _, node => BelongsTo contents device node
  | .session fields _ _, node =>
      ∃ device, fields.get? "local_device" = some device ∧ BelongsTo contents device node

/-! ## When a call touches only its own -/

/-- The item carries every field of the natural key. -/
def Section.CarriesKey (sec : Section) (item : Payload) : Prop :=
  ∀ key ∈ sec.lookup, (item.get? key).isSome

/-- The node agrees with the item on the fields of the natural key it carries. -/
def Section.AgreesWhereGiven
    (sec : Section) (contents : Contents) (item : Payload) (node : Node) : Prop :=
  ∀ key ∈ sec.lookup, ∀ value, item.get? key = some value → sec.AgreesOn contents node key value

/-- Every reference of the item leads to a node. -/
def Section.Resolves (sec : Section) (contents : Contents) (item : Payload) : Prop :=
  ∀ field rel, (field, rel) ∈ sec.relationships → ∀ value, item.get? field = some value →
    (contents.first? rel.peerKind rel.lookupAttr value).isSome

/-- Everything the copy of a peer group is made of is there. -/
structure ShadowReads
    (text : PyText) (contents : Contents) (group : Json) (declaration : Payload) (device : Json) :
    Prop where
  found : (contents.first? .dcimDevice "name" device).isSome
  named : ∃ name, shadowName text group device = .ok name
  described : ∃ description,
    text.str ((declaration.get? "description").getD group) = .ok description

/-- Everything a session is made of is there. -/
structure SessionReads (contents : Contents) (session : Payload) : Prop where
  located : ∃ device, session.get? "local_device" = some device ∧
    (contents.first? .dcimDevice "name" device).isSome ∧
    ((session.get? "peer_group").isSome → ∃ element, hashed device = .ok element)
  described : (session.get? "description").isSome
  systems : ∀ field ∈ ["local_as", "remote_as"], ∀ asn, session.get? field = some asn →
    (contents.first? .routingAutonomousSystem "asn" asn).isSome
  grouped : ∀ group, session.get? "peer_group" = some group → ∃ name, hashed group = .ok name

/--
The node the lookup of a call finds first, if it gets that far and finds one, is
its own: an item carries its whole key, or one of its references leads nowhere,
or no node agrees with what it carries of its key; and the first copy or session
of the name or description belongs to the local device.
-/
def UpsertCall.Safe (text : PyText) (contents : Contents) : UpsertCall → Prop
  | .item name _ fields _ =>
      (sections name).CarriesKey fields ∨ ¬ (sections name).Resolves contents fields ∨
        ∀ node ∈ contents.nodes (sections name).kind,
          ¬ (sections name).AgreesWhereGiven contents fields node
  | .shadow group declaration device _ =>
      ShadowReads text contents group declaration device → ∀ name first,
        shadowName text group device = .ok name →
        contents.first? .routingBGPPeerGroup "name" (.str name) = some first →
        BelongsTo contents device first
  | .session fields _ _ =>
      SessionReads contents fields → ∀ description device first,
        fields.get? "description" = some description →
        fields.get? "local_device" = some device →
        contents.first? .routingBGPSession "description" description = some first →
        BelongsTo contents device first

/-! ## Reading -/

/-- The program reads a value and changes nothing. -/
def Reads {Result : Type} (program : SotProgram Result) (sot : Sot)
    (value : Except IntentError Result) : Prop :=
  program sot = (value, sot)

theorem Reads.bind
    {Result Next : Type} {program : SotProgram Result} {next : Result → SotProgram Next}
    {sot : Sot} {value : Except IntentError Result} {rest : Result → Except IntentError Next}
    (reads : Reads program sot value) (readsNext : ∀ result, Reads (next result) sot (rest result)) :
    Reads (program >>= next) sot (value >>= rest) := by
  rcases value with failure | result
  · exact Program.bind_of_error reads
  · rw [Reads, Program.bind_of_ok reads]
    exact readsNext result

theorem Reads.bind_ok
    {Result Next : Type} {program : SotProgram Result} {next : Result → SotProgram Next}
    {sot : Sot} {result : Result} {value : Except IntentError Next}
    (reads : Reads program sot (.ok result)) (readsNext : Reads (next result) sot value) :
    Reads (program >>= next) sot value := by
  rw [Reads, Program.bind_of_ok reads]
  exact readsNext

theorem reads_compute {Result : Type} (value : Except PyError Result) (sot : Sot) :
    Reads (compute value : SotProgram Result) sot (raised value) := rfl

theorem head?_eq_some_iff_cons {Item : Type} (items : List Item) (holds : Item → Prop) :
    (∀ first rest, items = first :: rest → holds first) ↔
      ∀ first, items.head? = some first → holds first := by
  rcases items with _ | ⟨head, tail⟩
  · constructor
    · intro _ first impossible
      cases impossible
    · intro _ first rest impossible
      cases impossible
  · constructor
    · intro whole first same
      cases same
      exact whole head tail rfl
    · intro headed first rest same
      cases same
      exact headed head rfl

/-- A call that reads its request touches only its own node when the first match is its own. -/
theorem touchesOwn_of_reads
    {call : UpsertCall} {branch : String} {sot : Sot} {own : Node → Prop}
    {value : Except IntentError (List Filter × Payload)}
    (reads : Reads (call.prepare client text branch) sot value)
    (notAddress : call.kind ≠ .ipamIPAddress) :
    TouchesOwn client call.kind branch own sot (call.upserted client text branch sot) ↔
      ∀ request, value = .ok request → ∀ first,
        ((client.home sot).matching call.kind request.1).head? = some first → own first := by
  rcases value with failure | request
  · have ran : call.upserted client text branch sot = (.error failure, sot) :=
      Program.bind_of_error reads
    rw [ran]
    constructor
    · intro _ request impossible
      cases impossible
    · intro _
      exact touchesOwn_raised (KeepsAll.refl sot)
  · have prepared := @touchesOwn_prepared client call.kind branch sot sot
      (call.prepare client text branch) request own reads (AddsAddresses.refl sot) notAddress
    rw [head?_eq_some_iff_cons _ own] at prepared
    constructor
    · intro touches other same
      cases same
      exact prepared.1 touches
    · intro isOwn
      exact prepared.2 (isOwn request rfl)

/-! ## Copies -/

/-- The device of a name is the first one. -/
theorem deviceIn_eq (contents : Contents) (name : Json) (problem : ValidationProblem) :
    deviceIn contents name problem =
      match contents.first? .dcimDevice "name" name with
      | none => .error (.validation problem)
      | some peer => .ok peer.id := by
  rw [deviceIn, Contents.first?]
  rcases contents.matching .dcimDevice [.value "name" name] with _ | ⟨peer, rest⟩ <;> rfl

theorem exists_deviceIn_iff (contents : Contents) (name : Json) (problem : ValidationProblem) :
    (∃ id, deviceIn contents name problem = .ok id) ↔
      (contents.first? .dcimDevice "name" name).isSome := by
  rw [deviceIn_eq]
  rcases contents.first? .dcimDevice "name" name with _ | peer
  · simp
  · simp

/-- What the upsert of a copy looks up and writes. -/
def shadowRequest (text : PyText) (contents : Contents) (group : Json) (declaration : Payload)
    (device : Json) (vrfId : String) : Except IntentError (List Filter × Payload) := do
  let deviceId ← deviceIn contents device (.shadowDevice device)
  let payload ← raised (shadowPayload text group declaration device deviceId vrfId)
  let name ← raised (shadowName text group device)
  pure ([.value "name" (.str name)], payload)

theorem reads_shadow
    (group : Json) (declaration : Payload) (device : Json) (vrfId branch : String) (sot : Sot) :
    Reads ((UpsertCall.shadow group declaration device vrfId).prepare client text branch) sot
      (shadowRequest text (client.home sot) group declaration device vrfId) := by
  apply Reads.bind (requireDevice_eq device _ sot)
  intro deviceId
  apply Reads.bind (reads_compute _ sot)
  intro payload
  apply Reads.bind (reads_compute _ sot)
  intro name
  exact rfl

/-- A copy is looked up by its name, if everything it is made of is there. -/
theorem shadowRequest_eq_ok_iff
    {contents : Contents} {group : Json} {declaration : Payload} {device : Json} {vrfId : String}
    {filters : List Filter} :
    (∃ payload, shadowRequest text contents group declaration device vrfId =
        .ok (filters, payload)) ↔
      ShadowReads text contents group declaration device ∧
      ∃ name, shadowName text group device = .ok name ∧ filters = [.value "name" (.str name)] := by
  rw [shadowRequest]
  simp only [bind_eq_ok, raised_eq_ok_iff]
  constructor
  · rintro ⟨payload, deviceId, found, made, isMade, name, named, same⟩
    obtain ⟨rfl, rfl⟩ := Prod.mk.inj (Except.ok.inj same)
    obtain ⟨groupText, deviceText, description, -, -, described, -⟩ :=
      shadowPayload_eq_ok_iff.1 isMade
    refine ⟨⟨?_, ⟨name, named⟩, ⟨description, described⟩⟩, name, named, rfl⟩
    exact (exists_deviceIn_iff contents device _).1 ⟨deviceId, found⟩
  · rintro ⟨⟨found, -, ⟨description, described⟩⟩, name, named, rfl⟩
    obtain ⟨deviceId, isDevice⟩ :=
      (exists_deviceIn_iff contents device (.shadowDevice device)).2 found
    have texts := named
    rw [shadowName, bind_eq_ok] at texts
    obtain ⟨groupText, isGroup, texts⟩ := texts
    obtain ⟨deviceText, isText, -⟩ := (bind_eq_ok _ _ _).1 texts
    exact ⟨_, deviceId, isDevice, _, shadowPayload_eq_ok_iff.2
      ⟨groupText, deviceText, description, isGroup, isText, described, rfl⟩, name, named, rfl⟩

theorem touchesOwn_shadow_iff
    (group : Json) (declaration : Payload) (device : Json) (vrfId branch : String) (sot : Sot) :
    TouchesOwn client .routingBGPPeerGroup branch (BelongsTo (client.home sot) device) sot
        ((UpsertCall.shadow group declaration device vrfId).upserted client text branch sot) ↔
      (UpsertCall.shadow group declaration device vrfId).Safe text (client.home sot) := by
  have reads := @reads_shadow client text group declaration device vrfId branch sot
  have touches := @touchesOwn_of_reads client text (.shadow group declaration device vrfId) branch
    sot (BelongsTo (client.home sot) device) _ reads (by rw [UpsertCall.kind]; decide)
  rw [UpsertCall.kind] at touches
  rw [touches, UpsertCall.Safe]
  constructor
  · intro own read name first named found
    obtain ⟨payload, made⟩ := shadowRequest_eq_ok_iff.2 ⟨read, name, named, rfl⟩
    exact own _ made first found
  · rintro safe ⟨filters, payload⟩ made first found
    obtain ⟨read, name, named, rfl⟩ := shadowRequest_eq_ok_iff.1 ⟨payload, made⟩
    exact safe read name first named found

-- Two copies on different devices can share their name.
example :
    shadowName .ascii (.str "spine@a") (.str "leaf1") =
      shadowName .ascii (.str "spine") (.str "a@leaf1") := by
  decide +kernel

/-! ## Sessions -/

/-- What the upsert of a session looks up and writes. -/
def sessionRequest (contents : Contents) (vrfId : String) (ids : ShadowIds) (session : Payload) :
    Except IntentError (List Filter × Payload) := do
  let localDevice ← raised (required session "local_device")
  let deviceId ← deviceIn contents localDevice (.sessionDevice localDevice)
  let description ← raised (required session "description")
  let withLocalAs ← asIn contents "local_as" session
    (sessionBase vrfId deviceId description session)
  let withRemoteAs ← asIn contents "remote_as" session withLocalAs
  let payload ← raised (wirePeerGroup ids localDevice session
    (ipIn contents "remote_ip" session (ipIn contents "local_ip" session withRemoteAs)))
  pure ([.value "description" description], payload)

theorem reads_session
    (fields : Payload) (vrfId branch : String) (ids : ShadowIds) (sot : Sot) :
    Reads ((UpsertCall.session fields vrfId ids).prepare client text branch) sot
      (sessionRequest (client.home sot) vrfId ids fields) := by
  apply Reads.bind (reads_compute _ sot)
  intro localDevice
  apply Reads.bind (requireDevice_eq localDevice _ sot)
  intro deviceId
  apply Reads.bind (reads_compute _ sot)
  intro description
  apply Reads.bind (wireAs_eq _ _ _ sot)
  intro withLocalAs
  apply Reads.bind (wireAs_eq _ _ _ sot)
  intro withRemoteAs
  apply Reads.bind_ok (wireIp_eq _ _ _ sot)
  apply Reads.bind_ok (wireIp_eq _ _ _ sot)
  apply Reads.bind (reads_compute _ sot)
  intro payload
  exact rfl

theorem required_eq_ok_iff (record : Payload) (key : String) (value : Json) :
    required record key = .ok value ↔ record.get? key = some value := by
  rw [required]
  rcases record.get? key with _ | present
  · simp
  · simp

/-- An autonomous system is wired when the field is absent or leads to one. -/
theorem exists_asIn_iff
    (contents : Contents) (field : String) (session payload : Payload) :
    (∃ wired, asIn contents field session payload = .ok wired) ↔
      ∀ asn, session.get? field = some asn →
        (contents.first? .routingAutonomousSystem "asn" asn).isSome := by
  unfold asIn
  rcases session.get? field with _ | asn
  · simp
  · simp only [Option.some.injEq, forall_eq', Contents.first?]
    rcases contents.matching .routingAutonomousSystem [.value "asn" asn] with _ | ⟨peer, rest⟩
    · simp
    · simp

/-- A peer group is wired when the session's group and device can be looked up. -/
theorem exists_wirePeerGroup_iff
    (ids : ShadowIds) (localDevice : Json) (session payload : Payload) :
    (∃ wired, wirePeerGroup ids localDevice session payload = .ok wired) ↔
      ∀ group, session.get? "peer_group" = some group →
        (∃ name, hashed group = .ok name) ∧ ∃ element, hashed localDevice = .ok element := by
  unfold wirePeerGroup
  rcases session.get? "peer_group" with _ | group
  · simp
  · simp only [Option.some.injEq, forall_eq']
    rcases hashed group with error | name
    · simp [error_bind]
    · rcases hashed localDevice with error | element
      · simp [ok_bind, error_bind]
      · simp [ok_bind]

/-- A session is looked up by its description, if everything it is made of is there. -/
theorem sessionRequest_eq_ok_iff
    {contents : Contents} {vrfId : String} {ids : ShadowIds} {session : Payload}
    {filters : List Filter} :
    (∃ payload, sessionRequest contents vrfId ids session = .ok (filters, payload)) ↔
      SessionReads contents session ∧ ∃ description,
        session.get? "description" = some description ∧
        filters = [.value "description" description] := by
  rw [sessionRequest]
  simp only [bind_eq_ok, raised_eq_ok_iff, required_eq_ok_iff]
  constructor
  · rintro ⟨payload, device, isLocal, deviceId, found, description, described, withLocalAs, localAs,
      withRemoteAs, remoteAs, wired, isWired, same⟩
    obtain ⟨rfl, rfl⟩ := Prod.mk.inj (Except.ok.inj same)
    have grouped := (exists_wirePeerGroup_iff ids device session _).1 ⟨wired, isWired⟩
    refine ⟨⟨⟨device, isLocal, ?_, ?_⟩, ?_, ?_, ?_⟩, description, described, rfl⟩
    · exact (exists_deviceIn_iff contents device _).1 ⟨deviceId, found⟩
    · intro present
      obtain ⟨group, isGroup⟩ := Option.isSome_iff_exists.1 present
      exact (grouped group isGroup).2
    · rw [described]
      rfl
    · intro field member
      rcases List.mem_cons.1 member with rfl | later
      · exact (exists_asIn_iff contents _ session _).1 ⟨withLocalAs, localAs⟩
      · obtain rfl := List.mem_singleton.1 later
        exact (exists_asIn_iff contents _ session _).1 ⟨withRemoteAs, remoteAs⟩
    · exact fun group isGroup => (grouped group isGroup).1
  · rintro ⟨⟨⟨device, isLocal, found, hashes⟩, -, systems, grouped⟩, description, described, rfl⟩
    obtain ⟨deviceId, isDevice⟩ :=
      (exists_deviceIn_iff contents device (.sessionDevice device)).2 found
    obtain ⟨withLocalAs, localAs⟩ := (exists_asIn_iff contents "local_as" session
      (sessionBase vrfId deviceId description session)).2 (systems _ List.mem_cons_self)
    obtain ⟨withRemoteAs, remoteAs⟩ := (exists_asIn_iff contents "remote_as" session
      withLocalAs).2 (systems _ (List.mem_cons_of_mem _ (List.mem_singleton_self _)))
    obtain ⟨payload, isPayload⟩ := (exists_wirePeerGroup_iff ids device session
      (ipIn contents "remote_ip" session (ipIn contents "local_ip" session withRemoteAs))).2 (by
        intro group isGroup
        refine ⟨grouped group isGroup, hashes ?_⟩
        rw [isGroup]
        rfl)
    exact ⟨payload, device, isLocal, deviceId, isDevice, description, described, withLocalAs,
      localAs, withRemoteAs, remoteAs, payload, isPayload, rfl⟩

theorem touchesOwn_session_iff
    (fields : Payload) (vrfId branch : String) (ids : ShadowIds) (sot : Sot) :
    TouchesOwn client .routingBGPSession branch
        ((UpsertCall.session fields vrfId ids).Own (client.home sot)) sot
        ((UpsertCall.session fields vrfId ids).upserted client text branch sot) ↔
      (UpsertCall.session fields vrfId ids).Safe text (client.home sot) := by
  have reads := @reads_session client text fields vrfId branch ids sot
  have touches := @touchesOwn_of_reads client text (.session fields vrfId ids) branch
    sot ((UpsertCall.session fields vrfId ids).Own (client.home sot)) _ reads
    (by rw [UpsertCall.kind]; decide)
  rw [UpsertCall.kind] at touches
  rw [touches, UpsertCall.Safe]
  constructor
  · intro own read description device first described isLocal found
    obtain ⟨payload, made⟩ := sessionRequest_eq_ok_iff.2 ⟨read, description, described, rfl⟩
    obtain ⟨other, isOther, belongs⟩ := own _ made first found
    rw [isLocal, Option.some.injEq] at isOther
    rw [isOther]
    exact belongs
  · rintro safe ⟨filters, payload⟩ made first found
    obtain ⟨read, description, described, rfl⟩ := sessionRequest_eq_ok_iff.1 ⟨payload, made⟩
    obtain ⟨device, isLocal, -, -⟩ := read.located
    exact ⟨device, isLocal, safe read description device first described isLocal found⟩

/-! ## Items -/

/-- How the key of a generic section relates to its other fields. -/
structure Section.PlainKey (sec : Section) : Prop where
  distinct : (sec.relationships.map Prod.fst).Nodup
  references : ∀ key ∈ sec.lookup,
    (key ∈ sec.lookupRelFields ↔ key ∈ sec.relationships.map Prod.fst)
  notInjected : ∀ key ∈ sec.lookup, key ∉ sec.namespaceField

theorem plainKey_sections {name : SectionName} (generic : name ∉ bgpSections) :
    (sections name).PlainKey := by
  constructor
  all_goals cases name <;> simp_all [sections, bgpSections]

/-- Resolving succeeds when every reference leads to a node. -/
theorem exists_resolveIn_iff
    (contents : Contents) (kind : Kind) {relationships : List (String × Rel)}
    (distinct : (relationships.map Prod.fst).Nodup) (item : Payload) :
    (∃ resolved, resolveIn contents kind relationships item = .ok resolved) ↔
      ∀ field rel, (field, rel) ∈ relationships → ∀ value, item.get? field = some value →
        (contents.first? rel.peerKind rel.lookupAttr value).isSome := by
  induction relationships generalizing item with
  | nil => simp [resolveIn]
  | cons entry rest induction =>
      obtain ⟨field, rel⟩ := entry
      rw [List.map_cons, List.nodup_cons] at distinct
      rw [resolveIn]
      rcases present : item.get? field with _ | value
      · dsimp only
        rw [induction distinct.2 item]
        constructor
        · intro later other otherRel member
          rcases List.mem_cons.1 member with same | member
          · cases same
            intro value impossible
            rw [present] at impossible
            cases impossible
          · exact later other otherRel member
        · intro whole other otherRel member
          exact whole other otherRel (List.mem_cons_of_mem _ member)
      · dsimp only
        rcases found : contents.matching rel.peerKind [.value rel.lookupAttr value] with
          _ | ⟨peer, others⟩
        · constructor
          · rintro ⟨resolved, impossible⟩
            cases impossible
          · intro whole
            have first := whole field rel List.mem_cons_self value present
            rw [Contents.first?, found] at first
            cases first
        · dsimp only
          rw [induction distinct.2]
          have others : ∀ other otherRel, (other, otherRel) ∈ rest →
              (item.set field (.str peer.id)).get? other = item.get? other := by
            intro other otherRel member
            apply Dict.get?_set_of_ne
            rintro rfl
            exact distinct.1 (List.mem_map.2 ⟨_, member, rfl⟩)
          constructor
          · intro later other otherRel member given isGiven
            rcases List.mem_cons.1 member with same | member
            · cases same
              rw [present, Option.some.injEq] at isGiven
              rw [Contents.first?, ← isGiven, found]
              rfl
            · apply later other otherRel member
              rw [others other otherRel member]
              exact isGiven
          · intro whole other otherRel member given isGiven
            rw [others other otherRel member] at isGiven
            exact whole other otherRel (List.mem_cons_of_mem _ member) given isGiven

/-- A resolved reference is the identifier of the first node its value names. -/
theorem resolveIn_get?_of_mem
    {contents : Contents} {kind : Kind} {relationships : List (String × Rel)}
    (distinct : (relationships.map Prod.fst).Nodup) {item resolved : Payload}
    (ran : resolveIn contents kind relationships item = .ok resolved) {key : String} {rel : Rel}
    (member : (key, rel) ∈ relationships) :
    resolved.get? key = (item.get? key).bind fun value =>
      (contents.first? rel.peerKind rel.lookupAttr value).map fun peer => .str peer.id := by
  induction relationships generalizing item with
  | nil => cases member
  | cons entry rest induction =>
      obtain ⟨field, other⟩ := entry
      rw [List.map_cons, List.nodup_cons] at distinct
      rw [resolveIn] at ran
      rcases List.mem_cons.1 member with same | later
      · cases same
        rcases present : item.get? key with _ | value
        · rw [present] at ran
          rw [resolveIn_get?_of_not_mem ran distinct.1, present]
          rfl
        · rw [present] at ran
          dsimp only at ran
          rw [Option.bind_some, Contents.first?]
          rcases found : contents.matching rel.peerKind [.value rel.lookupAttr value] with
            _ | ⟨peer, others⟩
          · rw [found] at ran
            cases ran
          · rw [found] at ran
            rw [resolveIn_get?_of_not_mem ran distinct.1, Dict.get?_set_self]
            rfl
      · have different : key ≠ field := by
          rintro rfl
          exact distinct.1 (List.mem_map.2 ⟨_, later, rfl⟩)
        rcases present : item.get? field with _ | value
        · rw [present] at ran
          exact induction distinct.2 ran later
        · rw [present] at ran
          dsimp only at ran
          rcases found : contents.matching other.peerKind [.value other.lookupAttr value] with
            _ | ⟨peer, others⟩
          · rw [found] at ran
            cases ran
          · rw [found] at ran
            rw [induction distinct.2 ran later, Dict.get?_set_of_ne _ _ different]

/-- The node a wired item finds agrees with the item on what it carries of its key. -/
theorem hits_iff_agreesWhereGiven
    {sec : Section} (plainKey : sec.PlainKey) {contents : Contents} {item resolved wired : Payload}
    (resolves : resolveIn contents sec.kind sec.relationships item = .ok resolved)
    (same : ∀ key ∈ sec.lookup, wired.get? key = resolved.get? key) (node : Node) :
    sec.hits wired node = true ↔ sec.AgreesWhereGiven contents item node := by
  rw [sec.hits_iff, Section.AgreesWhereGiven]
  apply forall_congr'
  intro key
  apply forall_congr'
  intro isKey
  rw [same key isKey]
  by_cases isRel : key ∈ sec.lookupRelFields
  · obtain ⟨⟨field, rel⟩, member, isField⟩ :=
      List.mem_map.1 ((plainKey.references key isKey).1 isRel)
    obtain rfl : field = key := isField
    rw [resolveIn_get?_of_mem plainKey.distinct resolves member]
    rcases given : item.get? field with _ | value
    · simp
    · have resolvable := (exists_resolveIn_iff contents sec.kind plainKey.distinct item).1
        ⟨resolved, resolves⟩ field rel member value given
      obtain ⟨peer, found⟩ := Option.isSome_iff_exists.1 resolvable
      rw [Option.bind_some, found, Option.map_some]
      constructor
      · intro passes other isOther
        cases isOther
        have passed := passes (.str peer.id) rfl
        rw [passes_lookupFilter_of_mem isRel, List.any_eq_true] at passed
        obtain ⟨related, isRelated, equal⟩ := passed
        obtain rfl := Json.str.inj (of_decide_eq_true equal)
        rw [Section.AgreesOn, if_pos isRel]
        exact ⟨rel, peer, member, found, isRelated⟩
      · intro agrees other isOther
        cases isOther
        have agreed := agrees value rfl
        rw [Section.AgreesOn, if_pos isRel] at agreed
        obtain ⟨otherRel, otherPeer, otherMember, otherFound, related⟩ := agreed
        obtain rfl : otherRel = rel := by
          have pairs := List.inj_on_of_nodup_map plainKey.distinct otherMember member rfl
          exact (Prod.mk.inj pairs).2
        rw [found, Option.some.injEq] at otherFound
        rw [passes_lookupFilter_of_mem isRel, List.any_eq_true]
        refine ⟨peer.id, ?_, decide_eq_true rfl⟩
        rw [otherFound]
        exact related
  · rw [resolveIn_get?_of_not_mem resolves fun isField =>
      isRel ((plainKey.references key isKey).2 isField)]
    apply forall_congr'
    intro value
    apply imp_congr_right
    intro _
    rw [passes_lookupFilter_of_not_mem isRel, decide_eq_true_eq, Section.AgreesOn, if_neg isRel]

theorem touchesOwn_item_iff
    {name : SectionName} (generic : name ∉ bgpSections) (fields : Payload)
    (namespaceId : Option String) (branch : String) (sot : Sot) :
    TouchesOwn client (sections name).kind branch
        ((sections name).Own (client.home sot) fields) sot
        ((UpsertCall.item name generic fields namespaceId).upserted client text branch sot) ↔
      (UpsertCall.item name generic fields namespaceId).Safe text (client.home sot) := by
  have wellFormed := wellFormed_sections generic
  have plainKey := plainKey_sections generic
  have resolvable := exists_resolveIn_iff (client.home sot) (sections name).kind
    plainKey.distinct fields
  have reading := @resolveRelationships_eq client (sections name).kind
    (sections name).relationships fields sot
  rw [UpsertCall.Safe]
  rcases resolves : resolveIn (client.home sot) (sections name).kind (sections name).relationships
    fields with problem | resolved
  · have unresolved : ¬ (sections name).Resolves (client.home sot) fields := by
      intro holds
      obtain ⟨resolved, impossible⟩ := resolvable.2 holds
      rw [resolves] at impossible
      cases impossible
    have ran : (UpsertCall.item name generic fields namespaceId).upserted client text branch sot =
        (.error (.validation problem), sot) := by
      rw [resolves] at reading
      exact Program.bind_of_error (Program.bind_of_error reading)
    rw [ran]
    constructor
    · exact fun _ => Or.inr (Or.inl unresolved)
    · exact fun _ => touchesOwn_raised (KeepsAll.refl sot)
  · have isResolved : (sections name).Resolves (client.home sot) fields :=
      resolvable.1 ⟨resolved, resolves⟩
    obtain ⟨wired, middle, wires, adds, sameFields⟩ := @wireAddresses_adds client (sections name)
      branch namespaceId (withNamespace (sections name) namespaceId resolved) sot
    have sameKey : ∀ key ∈ (sections name).lookup, wired.get? key = resolved.get? key := by
      intro key isKey
      rw [sameFields key (wellFormed.not_mem_wiring (Or.inr isKey)),
        get?_withNamespace (plainKey.notInjected key isKey)]
    have hits := hits_iff_agreesWhereGiven plainKey resolves sameKey
    have prepared : (UpsertCall.item name generic fields namespaceId).prepare client text branch
        sot = (.ok (lookupFilters (sections name) wired, wired), middle) := by
      rw [resolves] at reading
      rw [UpsertCall.prepare, Program.bind_of_ok reading, Program.bind_of_ok wires]
      rfl
    have touches := @touchesOwn_prepared client (sections name).kind branch sot middle _ _
      ((sections name).Own (client.home sot) fields) prepared adds wellFormed.notAddress
    rw [UpsertCall.upserted, UpsertCall.kind, touches]
    dsimp only
    rw [matching_lookupFilters]
    constructor
    · intro own
      rcases found : ((client.home sot).nodes (sections name).kind).filter
        ((sections name).hits wired) with _ | ⟨first, rest⟩
      · right
        right
        intro node member agrees
        have absent := List.filter_eq_nil_iff.1 found node member
        exact absent ((hits node).2 agrees)
      · left
        intro key isKey
        obtain ⟨value, given, -⟩ := own first rest found key isKey
        rw [given]
        rfl
    · intro safe first rest found
      have inFilter : first ∈ ((client.home sot).nodes (sections name).kind).filter
          ((sections name).hits wired) := by
        rw [found]
        exact List.mem_cons_self
      obtain ⟨member, hit⟩ := List.mem_filter.1 inFilter
      have agrees := (hits first).1 hit
      rcases safe with carries | unresolved | unmatched
      · intro key isKey
        obtain ⟨value, given⟩ := Option.isSome_iff_exists.1 (carries key isKey)
        exact ⟨value, given, agrees key isKey value given⟩
      · exact absurd isResolved unresolved
      · exact absurd agrees (unmatched first member)

/-! ## Every call -/

/-- The seed accepts the devices of a dataset. -/
def Accepted (dataset : Dataset) : Prop :=
  ∃ devices, deviceItems dataset = .ok devices ∧ ∀ sot, validate devices sot = (.ok (), sot)

/-- The upserts a seed of a dataset comes to. -/
inductive UpsertCall.Of (dataset : Dataset) : UpsertCall → Prop
  | item {name : SectionName} {value : SectionValue} {items : List Payload} {fields : Payload}
      (declared : dataset name = some value)
      (generic : name ∉ bgpSections)
      (listed : itemsForSection (sections name) value = .ok items)
      (member : fields ∈ items)
      (namespaceId : Option String) :
      Of dataset (.item name generic fields namespaceId)
  | shadow {declarations : SectionValue} {sessions entries : List Payload}
      {devices : Dict Json (List Json)} {declared : Dict Json Payload} {group device : Json}
      {declaration : Payload}
      (present : dataset .bgpPeerGroups = some declarations)
      (listed : entriesOf ((dataset .bgpSessions).getD (.items [])) = .ok sessions)
      (used : groupDevices sessions Dict.empty = .ok devices)
      (read : entriesOf declarations = .ok entries)
      (mapped : declarationMap entries Dict.empty = .ok declared)
      (named : (group, declaration) ∈ declared.entries)
      (visited : device ∈ (devices.get? group).getD [])
      (vrfId : String) :
      Of dataset (.shadow group declaration device vrfId)
  | session {sessions : SectionValue} {entries : List Payload} {fields : Payload}
      (present : dataset .bgpSessions = some sessions)
      (listed : entriesOf sessions = .ok entries)
      (member : fields ∈ entries)
      (vrfId : String)
      (ids : ShadowIds) :
      Of dataset (.session fields vrfId ids)

/-- Whatever the Source of Truth holds, an upsert touches only its own node when it is safe. -/
theorem touches_own_iff
    (client : InfrahubClient) (text : PyText) (branch : String) (call : UpsertCall) (sot : Sot) :
    TouchesOwn client call.kind branch (call.Own (client.home sot)) sot
        (call.upserted client text branch sot) ↔
      call.Safe text (client.home sot) := by
  cases call with
  | item name generic fields namespaceId =>
      exact touchesOwn_item_iff generic fields namespaceId branch sot
  | shadow group declaration device vrfId =>
      exact touchesOwn_shadow_iff group declaration device vrfId branch sot
  | session fields vrfId ids =>
      exact touchesOwn_session_iff fields vrfId branch ids sot

/-! ## An interface without a device -/

/-- A seed with an interface that names no device. -/
def unplacedDataset : Dataset
  | .interfaces => some (.items [Dict.ofPairs
      [("name", .str "ethernet-1/1"), ("description", .str "uplink")]])
  | _ => none

/-- A branch with one device and its interface. -/
def oneLeaf : Contents where
  nodes
    | .dcimDevice => [⟨"leaf2", fun _ => .str "leaf2", fun _ => []⟩]
    | .interfacePhysical => [⟨"port", fun _ => .str "ethernet-1/1", fun _ => ["leaf2"]⟩]
    | _ => []
  distinct kind := by cases kind <;> decide

/-- The upsert of the interface that names no device. -/
def unplacedCall : UpsertCall :=
  .item .interfaces (by decide) (Dict.ofPairs
    [("name", .str "ethernet-1/1"), ("description", .str "uplink")]) none

theorem unplaced_interface_overwrites :
    Accepted unplacedDataset ∧ unplacedCall.Of unplacedDataset ∧
      (unplacedCall.upserted labClient .ascii "main" fun _ => oneLeaf).1 = .ok ("port", false) ∧
      ¬ TouchesOwn labClient unplacedCall.kind "main" (unplacedCall.Own oneLeaf)
        (fun _ => oneLeaf) (unplacedCall.upserted labClient .ascii "main" fun _ => oneLeaf) := by
  refine ⟨⟨[], rfl, fun _ => rfl⟩, ?_, by decide +kernel, ?_⟩
  · exact UpsertCall.Of.item rfl (by decide) rfl List.mem_cons_self none
  · intro touches
    have safe := (@touchesOwn_item_iff labClient .ascii .interfaces (by decide) _ none "main"
      fun _ => oneLeaf).1 touches
    rcases safe with carries | unresolved | unmatched
    · have placed := carries "device" (by decide)
      revert placed
      decide +kernel
    · apply unresolved
      intro field rel member value given
      simp only [sections, List.mem_singleton, Prod.mk.injEq] at member
      obtain ⟨rfl, rfl⟩ := member
      have absent : (Dict.ofPairs [("name", Json.str "ethernet-1/1"),
          ("description", .str "uplink")]).get? "device" = none := by decide +kernel
      rw [absent] at given
      cases given
    · apply unmatched ⟨"port", fun _ => .str "ethernet-1/1", fun _ => ["leaf2"]⟩
      · exact List.mem_singleton_self _
      · intro key isKey value given
        rcases List.mem_cons.1 isKey with rfl | isName
        · have absent : (Dict.ofPairs [("name", Json.str "ethernet-1/1"),
              ("description", .str "uplink")]).get? "device" = none := by decide +kernel
          rw [absent] at given
          cases given
        · obtain rfl := List.mem_singleton.1 isName
          have named : (Dict.ofPairs [("name", Json.str "ethernet-1/1"),
              ("description", .str "uplink")]).get? "name" = some (.str "ethernet-1/1") := by
            decide +kernel
          rw [named, Option.some.injEq] at given
          rw [Section.AgreesOn, if_neg (by decide)]
          exact given

end Snapl.Intent
