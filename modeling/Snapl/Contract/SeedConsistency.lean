import Snapl.Contract.SeedIdempotence
import Snapl.Intent.SeedGrowth

/-!
# Seeds that leave no dangling reference

A seed looks its references up and puts the identifiers it read into the nodes it
creates.  What it has read stays in the Source of Truth while it goes on, so however
it ends, also with an exception half way, no relationship it wires leads nowhere or
to a node of another kind, and no node that was there is gone.
-/

namespace Snapl.Contract

open Snapl.Library Snapl.Intent SeedIngester

variable {client : InfrahubClient} {text : PyText} {branch : String}

/-! ## Lookups -/

/-- A lookup that goes on with the first node it finds. -/
theorem moves_lookup
    {Result : Type} {kind : Kind} {filters : List Filter} {pre : Sot → Prop}
    {next : List FetchedNode → SotProgram Result} {post : Result → Sot → Prop}
    (absent : Program.Moves (Advances client branch) pre (next []) post)
    (found : ∀ fetched rest, Program.Moves (Advances client branch)
      (fun sot => KnownNode client branch kind fetched.node.id sot ∧ pre sot)
      (next (fetched :: rest)) post) :
    Program.Moves (Advances client branch) pre (client.filters kind filters none >>= next)
      post := by
  apply (moves_filters client branch kind filters pre).bind
  intro results
  rcases results with _ | ⟨fetched, rest⟩
  · exact absent.weaken (fun _ holds => holds.2) fun _ _ returned => returned
  · refine (found fetched rest).weaken ?_ fun _ _ returned => returned
    rintro sot ⟨looked, holds⟩
    obtain ⟨-, -, member⟩ := looked fetched List.mem_cons_self
    exact ⟨⟨client.defaultBranch, Or.inl rfl, fetched.node, member, rfl⟩, holds⟩

theorem moves_compute
    {Result : Type} (pre : Sot → Prop) (value : Except PyError Result) :
    Program.Moves (Advances client branch) pre (compute value)
      fun result sot => value = .ok result ∧ pre sot := by
  apply Program.Moves.ofExcept
  intro result sot returned holds
  refine ⟨?_, holds⟩
  cases value with
  | ok value => exact congrArg Except.ok (Except.ok.inj returned)
  | error error => cases returned

/-! ## Generic sections -/

/-- The namespace of a seed, if it has one, is known. -/
def NamespaceKnown (client : InfrahubClient) (branch : String) (namespaceId : Option String)
    (sot : Sot) : Prop :=
  ∀ id, namespaceId = some id → KnownNode client branch .ipamNamespace id sot

theorem stable_namespaceKnown (namespaceId : Option String) :
    Program.Stable (Advances client branch) (NamespaceKnown client branch namespaceId) :=
  fun _ _ moved known id same => (known id same).grows moved.1

theorem moves_materialiseIpAddress (address : Json) (namespaceId : String) :
    Program.Moves (Advances client branch) (KnownNode client branch .ipamNamespace namespaceId)
      (materialiseIpAddress client address namespaceId branch)
      (KnownNode client branch .ipamIPAddress) := by
  apply moves_lookup
  · refine ((moves_saveNew client branch _ _).weaken ?_ fun _ _ known => known).bind fun node =>
      Program.Moves.pure fun _ known => known
    intro sot known
    apply refers_ofPairs
    rw [List.forall_mem_cons, List.forall_mem_singleton]
    exact ⟨fieldKnown_unwired rfl address, fieldKnown_id rfl known⟩
  · exact fun fetched rest => Program.Moves.pure fun _ known => known.1

/-- Looking up the peers of an item resolves its relationships. -/
theorem moves_resolveRelationships
    {kind : Kind} (pending : List String) {relationships : List (String × Rel)}
    (wired : ∀ entry ∈ relationships, kind.wired? entry.1 = some entry.2.peerKind)
    (item : Payload) (pre : Sot → Prop) :
    Program.Moves (Advances client branch)
      (fun sot => Refers client branch kind (relationships.map Prod.fst ++ pending) item sot ∧
        pre sot)
      (resolveRelationships client kind relationships item)
      fun resolved sot => Refers client branch kind pending resolved sot ∧ pre sot := by
  induction relationships generalizing item with
  | nil => exact Program.Moves.pure fun _ holds => holds
  | cons entry rest induction =>
      obtain ⟨field, rel⟩ := entry
      obtain ⟨first, others⟩ := List.forall_mem_cons.1 wired
      rw [resolveRelationships]
      cases present : item.get? field with
      | none =>
          refine (induction others item).weaken ?_ fun _ _ returned => returned
          exact fun _ holds => ⟨holds.1.absent present, holds.2⟩
      | some value =>
          apply moves_lookup
          · exact Program.Moves.raise _
          · intro peer more
            refine (induction others _).weaken ?_ fun _ _ returned => returned
            rintro sot ⟨known, refers, holds⟩
            exact ⟨refers.set (fieldKnown_id first known), holds⟩

/-- The default namespace is injected where the section wants it. -/
theorem refers_withNamespace
    {sec : Section} (wires : sec.Wires) {namespaceId : Option String}
    (provided : sec.namespaceField.isSome = true → namespaceId.isSome = true)
    {payload : Payload} {sot : Sot}
    (refers : Refers client branch sec.kind sec.namespaceField.toList payload sot)
    (known : NamespaceKnown client branch namespaceId sot) :
    Refers client branch sec.kind [] (withNamespace sec namespaceId payload) sot := by
  unfold withNamespace
  cases wanted : sec.namespaceField with
  | none =>
      rw [wanted] at refers
      exact refers
  | some field =>
      rw [wanted] at refers provided
      obtain ⟨id, rfl⟩ := Option.isSome_iff_exists.1 (provided rfl)
      exact refers.set (fieldKnown_id (wires.namespaces field wanted) (known id rfl))

/-- What is known of a payload on its way to an upsert. -/
def Ready (client : InfrahubClient) (branch : String) (kind : Kind) (namespaceId : Option String)
    (payload : Payload) (sot : Sot) : Prop :=
  Refers client branch kind [] payload sot ∧ NamespaceKnown client branch namespaceId sot

theorem stable_ready (kind : Kind) (namespaceId : Option String) (payload : Payload) :
    Program.Stable (Advances client branch) (Ready client branch kind namespaceId payload) :=
  (stable_refers kind [] payload).and (stable_namespaceKnown namespaceId)

/-- An address gets a node, and a payload on its way is linked to it. -/
theorem moves_linkAddress
    {kind : Kind} {id : String} {payload : Payload} {linked : String → Payload} (address : Json)
    (links : ∀ ipId sot, KnownNode client branch .ipamIPAddress ipId sot →
      Refers client branch kind [] payload sot → Refers client branch kind [] (linked ipId) sot) :
    Program.Moves (Advances client branch) (Ready client branch kind (some id) payload)
      (materialiseIpAddress client address id branch >>= fun ipId => pure (linked ipId))
      (Ready client branch kind (some id)) := by
  have materialised := (moves_materialiseIpAddress address id).keeping
    (@stable_ready client branch kind (some id) payload)
  apply (materialised.weaken (fun _ ready => ⟨ready.2 id rfl, ready⟩)
    fun _ _ returned => returned).bind
  intro ipId
  apply Program.Moves.pure
  rintro sot ⟨known, refers, holds⟩
  exact ⟨links ipId sot known refers, holds⟩

theorem moves_wireIpAddresses
    {sec : Section} (wires : sec.Wires) (namespaceId : Option String) (payload : Payload) :
    Program.Moves (Advances client branch) (Ready client branch sec.kind namespaceId payload)
      (wireIpAddresses client sec branch namespaceId payload)
      (Ready client branch sec.kind namespaceId) := by
  have still : Program.Moves (Advances client branch)
      (Ready client branch sec.kind namespaceId payload) (pure payload : SotProgram Payload)
      (Ready client branch sec.kind namespaceId) := Program.Moves.pure fun _ ready => ready
  unfold wireIpAddresses
  cases wanted : sec.ipField with
  | none => exact still
  | some field =>
      cases namespaceId with
      | none => exact still
      | some id =>
          dsimp only
          cases payload.get? field with
          | none => exact still
          | some address =>
              apply moves_linkAddress address
              intro ipId sot known refers
              have wired := wires.addresses (by rw [wanted]; rfl)
              exact (refers.erase.mono (List.nil_subset _)).set (fieldKnown_id wired known)

theorem moves_wirePrimaryAddress
    {sec : Section} (wires : sec.Wires) (namespaceId : Option String) (payload : Payload) :
    Program.Moves (Advances client branch) (Ready client branch sec.kind namespaceId payload)
      (wirePrimaryAddress client sec branch namespaceId payload)
      (Ready client branch sec.kind namespaceId) := by
  have still : Program.Moves (Advances client branch)
      (Ready client branch sec.kind namespaceId payload) (pure payload : SotProgram Payload)
      (Ready client branch sec.kind namespaceId) := Program.Moves.pure fun _ ready => ready
  unfold wirePrimaryAddress
  cases wanted : sec.primaryAddressField with
  | none => exact still
  | some field =>
      cases namespaceId with
      | none => exact still
      | some id =>
          dsimp only
          cases payload.get? field with
          | none => exact still
          | some address =>
              apply moves_linkAddress address
              intro ipId sot known refers
              exact refers.link (wires.primary (by rw [wanted]; rfl)) known

/-- An item that does not spell out the links to addresses its section wires. -/
def Unspelled (sec : Section) (item : Payload) : Prop :=
  ∀ field ∈ sec.addressLinks, item.get? field = none

instance (sec : Section) (item : Payload) : Decidable (Unspelled sec item) :=
  inferInstanceAs (Decidable (∀ field ∈ sec.addressLinks, item.get? field = none))

/-- Upserting an item. -/
theorem moves_upsertItem
    {sec : Section} (wires : sec.Wires) {namespaceId : Option String}
    (provided : sec.namespaceField.isSome = true → namespaceId.isSome = true)
    {item : Payload} (unspelled : Unspelled sec item) :
    Program.Moves (Advances client branch) (NamespaceKnown client branch namespaceId)
      (upsertItem client sec item branch namespaceId)
      fun _ => NamespaceKnown client branch namespaceId := by
  apply Program.Moves.bind
  · refine (moves_resolveRelationships sec.namespaceField.toList wires.peers item
      (NamespaceKnown client branch namespaceId)).weaken ?_ fun _ _ returned => returned
    intro sot known
    refine ⟨?_, known⟩
    intro field peer wired outside value present
    rw [List.mem_append, not_or, Option.mem_toList] at outside
    rcases wires.complete field peer wired with looked | namespaced | linked
    · exact absurd looked outside.1
    · exact absurd namespaced outside.2
    · rw [unspelled field linked] at present
      cases present
  intro resolved
  apply Program.Moves.bind
  · apply ((moves_wireIpAddresses wires namespaceId _).bind fun wired =>
      moves_wirePrimaryAddress wires namespaceId wired).weaken
    · rintro sot ⟨refers, known⟩
      exact ⟨refers_withNamespace wires provided refers known, known⟩
    · exact fun _ _ ready => ready
  intro payload
  refine ((moves_upsertNode client branch sec.kind (lookupFilters sec payload) payload).keeping
    (stable_namespaceKnown namespaceId)).bind fun outcome => ?_
  exact Program.Moves.pure fun _ returned => returned.2

theorem moves_seedItems
    {name : SectionName} (generic : name ∉ bgpSections) {namespaceId : Option String}
    (provided : (sections name).namespaceField.isSome = true → namespaceId.isSome = true)
    {items : List Payload} (unspelled : ∀ item ∈ items, Unspelled (sections name) item)
    (tally : Tally) :
    Program.Moves (Advances client branch) (NamespaceKnown client branch namespaceId)
      (seedItems client name branch namespaceId items tally)
      fun _ => NamespaceKnown client branch namespaceId := by
  induction items generalizing tally with
  | nil => exact Program.Moves.pure fun _ known => known
  | cons item rest induction =>
      obtain ⟨first, others⟩ := List.forall_mem_cons.1 unspelled
      exact (moves_upsertItem (wires_sections generic) provided first).bind fun created =>
        induction others (tally.count name created)

/-- No item of a generic section spells out the links to addresses its section wires. -/
def UnspelledDataset (dataset : Dataset) : Prop :=
  ∀ name, name ∉ bgpSections → ∀ item ∈ seededItems dataset name, Unspelled (sections name) item

/-- The sections that want the namespace make the seed fetch it. -/
theorem needsNamespace_of_wanted
    {dataset : Dataset} {name : SectionName} {value : SectionValue}
    (present : dataset name = some value)
    (wanted : (sections name).namespaceField.isSome = true) (devices : List Payload) :
    needsNamespace dataset devices = true := by
  cases name with
  | vrfs => simp [needsNamespace, present]
  | ipPrefixes => simp [needsNamespace, present]
  | _ => cases wanted

theorem moves_seedSections
    {dataset : Dataset} (unspelled : UnspelledDataset dataset) {namespaceId : Option String}
    (provided : ∀ name value, dataset name = some value →
      (sections name).namespaceField.isSome = true → namespaceId.isSome = true)
    (names : List SectionName) (tally : Tally) :
    Program.Moves (Advances client branch) (NamespaceKnown client branch namespaceId)
      (seedSections client dataset branch namespaceId names tally)
      fun _ => NamespaceKnown client branch namespaceId := by
  induction names generalizing tally with
  | nil => exact Program.Moves.pure fun _ known => known
  | cons name rest induction =>
      rw [seedSections]
      cases present : dataset name with
      | none => exact induction tally
      | some value =>
          dsimp only
          split_ifs with special
          · exact induction tally
          · apply (moves_compute _ _).bind
            intro items sot holds
            have listed : seededItems dataset name = items := by
              rw [seededItems, present, Option.map_some, holds.1]
            have each := unspelled name special
            rw [listed] at each
            exact ((moves_seedItems special (provided name value present) each tally).bind
              induction) sot holds.2

/-- The namespace is fetched where a section wants it. -/
theorem moves_fetchNamespace (dataset : Dataset) (devices : List Payload) :
    Program.Moves (Advances client branch) (fun _ => True)
      (fetchNamespace client dataset devices) fun namespaceId sot =>
        (needsNamespace dataset devices = true → namespaceId.isSome = true) ∧
          NamespaceKnown client branch namespaceId sot := by
  unfold fetchNamespace
  split_ifs with needed
  · apply Program.Moves.bind
    · exact moves_lookup (Program.Moves.raise _) fun fetched rest =>
        Program.Moves.pure fun _ known => known.1
    · intro id
      apply Program.Moves.pure
      intro sot known
      refine ⟨fun _ => rfl, fun other same => ?_⟩
      obtain rfl := Option.some.inj same
      exact known
  · apply Program.Moves.pure
    intro sot _
    refine ⟨fun wanted => absurd wanted needed, fun id same => ?_⟩
    cases same

/-! ## BGP sections -/

theorem moves_requireDevice (name : Json) (problem : ValidationProblem) (pre : Sot → Prop) :
    Program.Moves (Advances client branch) pre (requireDevice client name problem)
      fun id sot => KnownNode client branch .dcimDevice id sot ∧ pre sot :=
  moves_lookup (Program.Moves.raise _) fun _ _ => Program.Moves.pure fun _ known => known

/-- The copy of a peer group refers to its device and to the default VRF. -/
theorem refers_shadowPayload
    {group : Json} {declaration : Payload} {device : Json} {deviceId vrfId : String}
    {payload : Payload} {sot : Sot}
    (made : shadowPayload text group declaration device deviceId vrfId = .ok payload)
    (deviceKnown : KnownNode client branch .dcimDevice deviceId sot)
    (vrfKnown : KnownNode client branch .ipamVRF vrfId sot) :
    Refers client branch .routingBGPPeerGroup [] payload sot := by
  obtain ⟨groupText, deviceText, description, -, -, -, rfl⟩ := shadowPayload_eq_ok_iff.1 made
  apply Refers.copyFields
  · apply refers_ofPairs
    simp only [List.forall_mem_cons]
    exact ⟨fieldKnown_unwired rfl _, fieldKnown_unwired rfl _, fieldKnown_unwired rfl _,
      fieldKnown_id rfl deviceKnown, fieldKnown_id rfl vrfKnown,
      fun _ member => absurd member List.not_mem_nil⟩
  · decide

theorem moves_seedShadow
    (vrfId : String) (group : Json) (declaration : Payload) (device : Json) :
    Program.Moves (Advances client branch) (KnownNode client branch .ipamVRF vrfId)
      (seedShadow client text branch vrfId group declaration device)
      (KnownNode client branch .routingBGPPeerGroup) := by
  apply (moves_requireDevice _ _ _).bind
  intro deviceId
  apply (moves_compute _ _).bind
  intro payload
  apply (moves_compute _ _).bind
  intro name
  apply Program.Moves.bind
  · refine (moves_upsertNode client branch .routingBGPPeerGroup _ payload).weaken ?_
      fun _ _ known => known
    rintro sot ⟨-, made, deviceKnown, vrfKnown⟩
    exact refers_shadowPayload made deviceKnown vrfKnown
  · exact fun outcome => Program.Moves.pure fun _ known => known

/-- The copies of peer groups noted so far are known. -/
def CopiesKnown (client : InfrahubClient) (branch : String) (ids : ShadowIds) (sot : Sot) : Prop :=
  ∀ group copies, ids.get? group = some copies → ∀ device id, copies.get? device = some id →
    KnownNode client branch .routingBGPPeerGroup id sot

theorem stable_copiesKnown (ids : ShadowIds) :
    Program.Stable (Advances client branch) (CopiesKnown client branch ids) :=
  fun _ _ moved known group copies noted device id same =>
    (known group copies noted device id same).grows moved.1

/-- A copy that was noted is known. -/
theorem CopiesKnown.copy
    {ids : ShadowIds} {sot : Sot} (known : CopiesKnown client branch ids sot) {group device : Json}
    {id : String} (noted : ((ids.get? group).getD Dict.empty).get? device = some id) :
    KnownNode client branch .routingBGPPeerGroup id sot := by
  cases copies : ids.get? group with
  | none =>
      rw [copies] at noted
      cases noted
  | some present =>
      rw [copies] at noted
      exact known group present copies device id noted

/-- A new copy is noted. -/
theorem CopiesKnown.note
    {ids : ShadowIds} {sot : Sot} (known : CopiesKnown client branch ids sot) (group device : Json)
    {id : String} (copied : KnownNode client branch .routingBGPPeerGroup id sot) :
    CopiesKnown client branch
      (ids.set group (((ids.get? group).getD Dict.empty).set device id)) sot := by
  intro other copies noted place otherId same
  by_cases isGroup : other = group
  · subst isGroup
    rw [Dict.get?_set_self] at noted
    obtain rfl := Option.some.inj noted
    by_cases isDevice : place = device
    · subst isDevice
      rw [Dict.get?_set_self] at same
      obtain rfl := Option.some.inj same
      exact copied
    · rw [Dict.get?_set_of_ne _ _ isDevice] at same
      exact known.copy same
  · rw [Dict.get?_set_of_ne _ _ isGroup] at noted
    exact known other copies noted place otherId same

/-- What is known while the BGP sections are seeded. -/
def BgpKnown (client : InfrahubClient) (branch vrfId : String) (ids : ShadowIds) (sot : Sot) :
    Prop :=
  KnownNode client branch .ipamVRF vrfId sot ∧ CopiesKnown client branch ids sot

theorem stable_bgpKnown (vrfId : String) (ids : ShadowIds) :
    Program.Stable (Advances client branch) (BgpKnown client branch vrfId ids) :=
  (stable_known .ipamVRF vrfId).and (stable_copiesKnown ids)

theorem moves_seedShadows
    (vrfId : String) (group : Json) (declaration : Payload) (devices : List Json)
    (progress : ShadowIds × Nat) :
    Program.Moves (Advances client branch) (BgpKnown client branch vrfId progress.1)
      (seedShadows client text branch vrfId group declaration devices progress)
      fun next => BgpKnown client branch vrfId next.1 := by
  induction devices generalizing progress with
  | nil => exact Program.Moves.pure fun _ known => known
  | cons device rest induction =>
      obtain ⟨ids, count⟩ := progress
      rw [seedShadows]
      apply Program.Moves.bind
      · exact ((moves_seedShadow vrfId group declaration device).keeping
          (stable_bgpKnown vrfId ids)).weaken (fun _ known => ⟨known.1, known⟩)
          fun _ _ returned => returned
      · intro id
        refine (induction _).weaken ?_ fun _ _ returned => returned
        rintro sot ⟨copied, vrfKnown, copiesKnown⟩
        exact ⟨vrfKnown, copiesKnown.note group device copied⟩

theorem moves_seedGroups
    (order : SetOrder) (vrfId : String) (devices : Dict Json (List Json))
    (groups : List (Json × Payload)) (progress : ShadowIds × Nat) :
    Program.Moves (Advances client branch) (BgpKnown client branch vrfId progress.1)
      (seedGroups client text order branch vrfId devices groups progress)
      fun next => BgpKnown client branch vrfId next.1 := by
  induction groups generalizing progress with
  | nil => exact Program.Moves.pure fun _ known => known
  | cons entry rest induction =>
      obtain ⟨group, declaration⟩ := entry
      exact (moves_seedShadows vrfId group declaration _ progress).bind fun next => induction next

theorem moves_seedPeerGroupSection (order : SetOrder) (dataset : Dataset) (vrfId : String) :
    Program.Moves (Advances client branch) (KnownNode client branch .ipamVRF vrfId)
      (seedPeerGroupSection client text order dataset branch vrfId)
      fun next => BgpKnown client branch vrfId next.1 := by
  have none : ∀ sot, KnownNode client branch .ipamVRF vrfId sot →
      BgpKnown client branch vrfId Dict.empty sot :=
    fun sot known => ⟨known, fun _ _ noted => by cases noted⟩
  unfold seedPeerGroupSection
  cases dataset .bgpPeerGroups with
  | none => exact Program.Moves.pure none
  | some declarations =>
      apply (moves_compute _ _).bind
      intro sessionEntries
      apply (moves_compute _ _).bind
      intro devices
      apply (moves_compute _ _).bind
      intro entries
      apply (moves_compute _ _).bind
      intro declared
      refine (moves_seedGroups order vrfId devices declared.entries (Dict.empty, 0)).weaken ?_
        fun _ _ returned => returned
      rintro sot ⟨-, -, -, -, known⟩
      exact none sot known

/-! ## Sessions -/

/-- What is known of the payload of a session. -/
def SessionReady (client : InfrahubClient) (branch vrfId : String) (ids : ShadowIds)
    (payload : Payload) (sot : Sot) : Prop :=
  Refers client branch .routingBGPSession [] payload sot ∧ BgpKnown client branch vrfId ids sot

theorem moves_wireAs
    {field : String} (wired : Kind.routingBGPSession.wired? field = some .routingAutonomousSystem)
    (vrfId : String) (ids : ShadowIds) (session payload : Payload) :
    Program.Moves (Advances client branch) (SessionReady client branch vrfId ids payload)
      (wireAs client field session payload) (SessionReady client branch vrfId ids) := by
  unfold wireAs
  cases session.get? field with
  | none => exact Program.Moves.pure fun _ ready => ready
  | some asn =>
      apply moves_lookup (Program.Moves.raise _)
      intro peer rest
      apply Program.Moves.pure
      rintro sot ⟨known, refers, holds⟩
      exact ⟨refers.link wired known, holds⟩

theorem moves_wireIp
    {field : String} (wired : Kind.routingBGPSession.wired? field = some .ipamIPAddress)
    (vrfId : String) (ids : ShadowIds) (session payload : Payload) :
    Program.Moves (Advances client branch) (SessionReady client branch vrfId ids payload)
      (wireIp client field session payload) (SessionReady client branch vrfId ids) := by
  unfold wireIp
  cases session.get? field with
  | none => exact Program.Moves.pure fun _ ready => ready
  | some address =>
      apply moves_lookup
      · exact Program.Moves.pure fun _ ready => ready
      · intro peer rest
        apply Program.Moves.pure
        rintro sot ⟨known, refers, holds⟩
        exact ⟨refers.link wired known, holds⟩

/-- The copy of a session's peer group is one that was noted. -/
theorem refers_wirePeerGroup
    {vrfId : String} {ids : ShadowIds} {localDevice : Json} {session payload wired : Payload}
    {sot : Sot} (made : wirePeerGroup ids localDevice session payload = .ok wired)
    (ready : SessionReady client branch vrfId ids payload sot) :
    Refers client branch .routingBGPSession [] wired sot := by
  obtain ⟨refers, -, known⟩ := ready
  unfold wirePeerGroup at made
  cases present : session.get? "peer_group" with
  | none =>
      rw [present] at made
      obtain rfl := Except.ok.inj made
      exact refers
  | some group =>
      rw [present] at made
      obtain ⟨name, -, made⟩ := (bind_eq_ok _ _ _).1 made
      obtain ⟨device, -, made⟩ := (bind_eq_ok _ _ _).1 made
      obtain rfl := Except.ok.inj made
      cases noted : ((ids.get? name).getD Dict.empty).get? device with
      | none => exact refers
      | some id => exact refers.link rfl (known.copy noted)

theorem moves_seedSession
    (vrfId : String) (ids : ShadowIds) (session : Payload) :
    Program.Moves (Advances client branch) (BgpKnown client branch vrfId ids)
      (seedSession client branch vrfId ids session) fun _ => BgpKnown client branch vrfId ids := by
  apply (moves_compute _ _).bind
  intro localDevice
  apply (moves_requireDevice _ _ _).bind
  intro deviceId
  apply (moves_compute _ _).bind
  intro description
  apply Program.Moves.bind
  · refine (moves_wireAs rfl vrfId ids session _).weaken ?_ fun _ _ ready => ready
    rintro sot ⟨-, deviceKnown, -, known⟩
    refine ⟨?_, known⟩
    apply Refers.copyFields
    · apply refers_ofPairs
      simp only [List.forall_mem_cons]
      exact ⟨fieldKnown_unwired rfl _, fieldKnown_unwired rfl _, fieldKnown_id rfl deviceKnown,
        fieldKnown_id rfl known.1, fun _ member => absurd member List.not_mem_nil⟩
    · decide
  intro withLocalAs
  apply (moves_wireAs rfl vrfId ids session withLocalAs).bind
  intro withRemoteAs
  apply (moves_wireIp rfl vrfId ids session withRemoteAs).bind
  intro withLocalIp
  apply (moves_wireIp rfl vrfId ids session withLocalIp).bind
  intro withRemoteIp
  apply (moves_compute _ _).bind
  intro payload
  apply Program.Moves.bind
  · apply ((moves_upsertNode client branch .routingBGPSession
      [.value "description" description] payload).keeping (stable_bgpKnown vrfId ids)).weaken
    · rintro sot ⟨made, ready⟩
      exact ⟨refers_wirePeerGroup made ready, ready.2⟩
    · exact fun _ _ returned => returned
  · exact fun _ => Program.Moves.pure fun _ returned => returned.2

theorem moves_seedSessions (vrfId : String) (ids : ShadowIds) (entries : List Payload) :
    Program.Moves (Advances client branch) (BgpKnown client branch vrfId ids)
      (seedSessions client branch vrfId ids entries)
      fun _ => BgpKnown client branch vrfId ids := by
  induction entries with
  | nil => exact Program.Moves.pure fun _ known => known
  | cons session rest induction =>
      exact (moves_seedSession vrfId ids session).bind fun _ => induction

theorem moves_seedSessionSection (dataset : Dataset) (vrfId : String) (ids : ShadowIds) :
    Program.Moves (Advances client branch) (BgpKnown client branch vrfId ids)
      (seedSessionSection client dataset branch vrfId ids) fun _ _ => True := by
  unfold seedSessionSection
  cases dataset .bgpSessions with
  | none => exact Program.Moves.pure fun _ _ => trivial
  | some sessions =>
      apply (moves_compute _ _).bind
      intro entries
      refine ((moves_seedSessions vrfId ids entries).weaken (fun _ holds => holds.2)
        fun _ _ returned => returned).bind fun _ => ?_
      exact Program.Moves.pure fun _ _ => trivial

theorem moves_seedBgp (order : SetOrder) (dataset : Dataset) :
    Program.Moves (Advances client branch) (fun _ => True)
      (seedBgp client text order dataset branch) fun _ _ => True := by
  unfold seedBgp
  split_ifs
  · exact Program.Moves.pure fun _ _ => trivial
  · apply Program.Moves.bind
    · exact moves_lookup (Program.Moves.raise _) fun fetched rest =>
        Program.Moves.pure fun _ known => known.1
    intro vrfId
    apply (moves_seedPeerGroupSection order dataset vrfId).bind
    intro shadows
    exact (moves_seedSessionSection dataset vrfId shadows.1).bind fun sessions =>
      Program.Moves.pure fun _ _ => trivial

/-! ## The whole seed -/

theorem moves_validate (devices : List Payload) :
    Program.Moves (Advances client branch) (fun _ => True) (validate devices) fun _ _ => True := by
  induction devices with
  | nil => exact Program.Moves.pure fun _ _ => trivial
  | cons device rest induction =>
      unfold validate
      dsimp only
      split_ifs
      · exact induction
      · exact Program.Moves.raise _

/-- A seed only adds nodes, and leaves no wired relationship without its node. -/
theorem moves_seed
    (client : InfrahubClient) (text : PyText) (order : SetOrder) (useCase : String)
    {dataset : Dataset} (unspelled : UnspelledDataset dataset) (branch : String) :
    Program.Moves (Advances client branch) (fun _ => True)
      (seed client text order useCase dataset branch) fun _ _ => True := by
  apply (moves_compute _ _).bind
  intro devices
  apply ((moves_validate devices).weaken (fun _ _ => trivial) fun _ _ _ => trivial).bind
  intro _
  apply (moves_fetchNamespace dataset devices).bind
  intro namespaceId
  apply Program.Moves.bind
  · intro sot holds
    refine moves_seedSections unspelled ?_ seedOrder ⟨0, 0, 0⟩ sot holds.2
    intro name value present wanted
    exact holds.1 (needsNamespace_of_wanted present wanted devices)
  intro tally
  apply Program.Moves.bind
  · exact (moves_seedBgp order dataset).weaken (fun _ _ => trivial) fun _ _ returned => returned
  · exact fun records => Program.Moves.pure fun _ _ => trivial

/-! ## Histories -/

/-- One seed of a history, with the way its sets are ordered. -/
structure SeedCall where
  order : SetOrder
  useCase : String
  dataset : Dataset

/-- The Source of Truth after a history of seeds of one branch, however each of them ended. -/
def seededAfter (client : InfrahubClient) (text : PyText) (branch : String) (sot : Sot)
    (calls : List SeedCall) : Sot :=
  calls.foldl (fun current call =>
    (seed client text call.order call.useCase call.dataset branch).final current) sot

/--
After any history of seeds of a branch, each of which may have raised anywhere, the
branches nobody seeded are as they were, every node that was there is still in its
place with its identifier and relationships, other branches got no node, and if the
relationships a seed wires led to nodes of their kind before, they do now.
-/
theorem seeds_consistent
    (client : InfrahubClient) (text : PyText) (branch : String) (sot : Sot)
    (calls : List SeedCall) (unspelled : ∀ call ∈ calls, UnspelledDataset call.dataset) :
    Grows client branch sot (seededAfter client text branch sot calls) ∧
      (Linked client branch sot →
        Linked client branch (seededAfter client text branch sot calls)) := by
  induction calls generalizing sot with
  | nil => exact ⟨Grows.refl sot, id⟩
  | cons call rest induction =>
      obtain ⟨first, others⟩ := List.forall_mem_cons.1 unspelled
      have moved := (moves_seed client text call.order call.useCase first branch sot trivial).1
      have later := induction ((seed client text call.order call.useCase call.dataset branch).final
        sot) others
      exact ⟨moved.1.trans later.1, fun linked => later.2 (moved.2 linked)⟩

/-- A device type, and a device of another type nobody has seeded. -/
def strandedDataset : Dataset
  | .manufacturer => some (.item (Dict.ofPairs [("name", .str "Nokia")]))
  | .deviceTypes => some (.items [Dict.ofPairs
      [("name", .str "D4"), ("manufacturer", .str "Nokia")]])
  | .devices => some (.items [Dict.ofPairs
      [("name", .str "leaf"), ("role", .str "leaf"), ("use_case", .str "dcfabric"),
        ("device_type", .str "D5"), ("location", .str "lab")]])
  | _ => none

theorem unspelled_stranded : UnspelledDataset strandedDataset := by
  intro name _
  cases name <;> decide +kernel

theorem linked_bare : Linked labClient "main" fun _ => bareContents := by
  intro home _ kind node member field peer _ id related
  have lone : node.relations field = [] := by
    simp only [bareContents] at member
    split_ifs at member
    · rw [List.mem_singleton.1 member]
    · cases member
  rw [lone] at related
  cases related

/-- A seed that breaks off after a node was created. -/
theorem stranded_consistent :
    (seed labClient .ascii insertionOrder "dcfabric" strandedDataset "main").ending
        (fun _ => bareContents) =
      .error (.validation
        (.unresolved "device_type" (.str "D5") .dcimDevice .dcimDeviceType "name")) ∧
    ((seededAfter labClient .ascii "main" (fun _ => bareContents)
      [⟨insertionOrder, "dcfabric", strandedDataset⟩] "main").nodes .dcimDeviceType).length = 1 ∧
    Linked labClient "main" (seededAfter labClient .ascii "main" (fun _ => bareContents)
      [⟨insertionOrder, "dcfabric", strandedDataset⟩]) :=
  ⟨by decide +kernel, by decide +kernel,
    (seeds_consistent labClient .ascii "main" (fun _ => bareContents)
      [⟨insertionOrder, "dcfabric", strandedDataset⟩]
      (List.forall_mem_singleton.2 unspelled_stranded)).2 linked_bare⟩
end Snapl.Contract
