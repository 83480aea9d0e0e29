import Snapl.Contract.SeedBgpServed
import Snapl.Library.Sharing

/-!
# Seeding says what the dataset says

A seed that returns leaves the Source of Truth with all the dataset declares
exactly if the dataset settles in what was there before.  It does not where a
node that was there leads to another peer than its record names, because a save
writes attributes only; where an address a session names has no node or its peer
group no record, because both are left out; where a field is no attribute of its
kind; and where two records of one node disagree.
-/

namespace Snapl.Intent

open Snapl.Library SeedIngester

variable {client : InfrahubClient} {text : PyText} {order : SetOrder} {dataset : Dataset}

/-! ## Vocabularies -/

theorem wellFormed_vocabulary (name : SectionName) : (vocabulary name).WellFormed := by
  by_cases generic : name ∉ bgpSections
  · have wellFormed := wellFormed_sections generic
    rw [vocabulary_of_generic generic]
    refine ⟨wellFormed.keyed, ?_, fun field rel target =>
      (clear_sections generic).target_relationship target⟩
    intro field isKey
    obtain ⟨inKey, -, inNames⟩ := wellFormed.relationships field isKey
    refine ⟨inKey, ?_⟩
    rw [Option.isSome_iff_ne_none, Ne, lookup_eq_none_iff_not_mem, not_not]
    dsimp only
    rw [Section.targets, List.append_assoc, List.map_append]
    exact List.mem_append_left _ inNames
  · rcases name with _ | _ | _ | _ | _ | _ | _ | _ | _ | _ | _ | _ <;>
      first | exact absurd (by decide) generic | skip
    · refine ⟨keyed_peerGroups, fun field isKey => absurd isKey List.not_mem_nil, ?_⟩
      intro field rel target
      have member := mem_of_lookup target
      simp only [vocabulary, List.mem_singleton, Prod.mk.injEq] at member
      obtain ⟨rfl, -⟩ := member
      decide
    · refine ⟨keyed_sessions, fun field isKey => absurd isKey List.not_mem_nil, ?_⟩
      intro field rel target
      rcases target_sessions target with
        ⟨rfl, -⟩ | ⟨rfl | rfl, -⟩ | ⟨rfl | rfl, -⟩ | ⟨rfl, -⟩ <;> decide

/-- Only devices are part of a key. -/
theorem rel_of_key
    {name : SectionName} {field : String} (isKey : field ∈ (vocabulary name).sec.lookupRelFields)
    {rel : Rel} (target : (vocabulary name).targets.lookup field = some rel) :
    rel = deviceRel := by
  cases name <;>
    simp_all [vocabulary, sections, sessionSection, Section.targets, deviceRel]

/-- The section whose key the name of a peer is. -/
def namedIn : Kind → SectionName
  | .organizationProvider => .organization
  | .organizationManufacturer => .manufacturer
  | .dcimPlatform => .platform
  | .locationSite => .location
  | .dcimDeviceType => .deviceTypes
  | .routingBGPPeerGroup => .bgpPeerGroups
  | _ => .devices

/-- Peers are named by addresses, by numbers of systems, or by the key of their section. -/
theorem target_named
    {name : SectionName} {field : String} {rel : Rel}
    (target : (vocabulary name).targets.lookup field = some rel) :
    rel.peerKind = .ipamIPAddress ∨
    rel.peerKind = .routingAutonomousSystem ∧ rel.lookupAttr = "asn" ∨
    rel.peerKind ≠ .routingAutonomousSystem ∧
      rel.peerKind = (sections (namedIn rel.peerKind)).kind ∧
      (sections (namedIn rel.peerKind)).lookup = [rel.lookupAttr] ∧
      (sections (namedIn rel.peerKind)).lookupRelFields = [] := by
  have all : ∀ entry ∈ (vocabulary name).targets,
      entry.2.peerKind = .ipamIPAddress ∨
      entry.2.peerKind = .routingAutonomousSystem ∧ entry.2.lookupAttr = "asn" ∨
      entry.2.peerKind ≠ .routingAutonomousSystem ∧
        entry.2.peerKind = (sections (namedIn entry.2.peerKind)).kind ∧
        (sections (namedIn entry.2.peerKind)).lookup = [entry.2.lookupAttr] ∧
        (sections (namedIn entry.2.peerKind)).lookupRelFields = [] := by
    cases name <;> decide
  exact all (field, rel) (mem_of_lookup target)

/-! ## The generic sections -/

theorem wantsNamespace_eq
    {devices : List Payload} (devicesOk : deviceItems dataset = .ok devices) :
    wantsNamespace dataset = needsNamespace dataset devices := by
  have isItems : seededItems dataset .devices = devices := by
    rw [seededItems]
    rw [deviceItems] at devicesOk
    rcases present : dataset .devices with _ | value
    · rw [present] at devicesOk
      cases devicesOk
      rfl
    · rw [present, Option.getD_some] at devicesOk
      rw [Option.map_some, devicesOk]
  rw [wantsNamespace, isItems]

theorem isSome_fetchNamespace
    {devices : List Payload} {namespaceId : Option String} {sot after : Sot}
    (ran : fetchNamespace client dataset devices sot = (.ok namespaceId, after)) :
    namespaceId.isSome = needsNamespace dataset devices := by
  rw [fetchNamespace] at ran
  cases needs : needsNamespace dataset devices with
  | false =>
      rw [needs] at ran
      obtain ⟨rfl, -⟩ := Program.pure_eq_ok_iff.1 ran
      rfl
  | true =>
      rw [needs, if_pos rfl, Program.bind_eq_ok_iff] at ran
      obtain ⟨id, middle, -, ran⟩ := ran
      obtain ⟨rfl, -⟩ := Program.pure_eq_ok_iff.1 ran
      rfl

/-- A section that wires addresses makes the seed look up the namespace. -/
theorem wantsNamespace_of_ipField
    {name : SectionName} (generic : name ∉ bgpSections)
    (addressed : (sections name).ipField.isSome) {item : Payload}
    (member : item ∈ seededItems dataset name) : wantsNamespace dataset = true := by
  have present : (dataset name).isSome := by
    rw [seededItems] at member
    rcases absent : dataset name with _ | value
    · rw [absent] at member
      cases member
    · rfl
  have isInterfaces : name = .interfaces := by
    cases name <;> first | rfl | exact absurd addressed (by decide)
  subst isInterfaces
  rw [wantsNamespace, needsNamespace, present]
  simp

theorem written_of_generic
    {name : SectionName} (generic : name ∉ bgpSections) (before : Contents) :
    written text order dataset before name = writtenItems dataset name := by
  cases name <;> first | rfl | exact absurd (by decide) generic

theorem declared_of_generic
    {name : SectionName} (generic : name ∉ bgpSections) :
    declared text dataset name =
      (seededItems dataset name).map ((sections name).declare Json.truthy) := by
  cases name <;> first | rfl | exact absurd (by decide) generic

/-- What later sections do makes no difference to the requests of a section. -/
theorem seedSections_realise
    {namespaceId : Option String} (namespaced : wantsNamespace dataset = namespaceId.isSome)
    {tally : Tally} {taken : List String} {sot middle after : Sot}
    (known : taken ⊆ (client.home sot).mentioned)
    (ran : seedSections client dataset client.defaultBranch namespaceId seedOrder ⟨0, 0, 0⟩ sot =
      (.ok tally, middle)) (evolves : Evolves client bgpKinds middle after)
    {name : SectionName} (generic : name ∉ bgpSections) :
    ∃ requests,
      List.Forall₂ ((vocabulary name).Realises (client.home after)) (writtenItems dataset name)
        requests ∧
      (sections name).upserting.Serves ((sections name).Made taken) requests
        ((client.home sot).nodes (sections name).kind)
        ((client.home after).nodes (sections name).kind) := by
  have inOrder : name ∈ seedOrder := by
    cases name <;> decide
  obtain ⟨requests, itemRequests, serves⟩ :=
    seedSections_served seedOrder_independent known ran name inOrder generic
  have own := evolves.others _ (generic_not_bgp generic).1
  refine ⟨requests, ?_, own ▸ serves⟩
  rw [writtenItems, List.forall₂_map_left_iff, namespaced]
  have withMembers := (List.forall₂_and_left _ _).2 ⟨fun item member => member, itemRequests⟩
  apply withMembers.imp
  rintro item request ⟨member, isRequest⟩
  apply realises_of_requests generic
  · intro addressed
    rw [← namespaced]
    exact wantsNamespace_of_ipField generic addressed member
  · apply isRequest.mono _ evolves.addresses
    intro rel isRel
    exact evolves.others _ ((generic_not_bgp generic).2 rel isRel)

/-- An address of an item is a peer it names. -/
theorem target_of_address
    {name : SectionName} (generic : name ∉ bgpSections) {counts : Json → Bool} {item : Payload}
    {address : Json} (member : address ∈ ((sections name).declare counts item).addresses) :
    ∃ field, (vocabulary name).targets.lookup field = some addressRel ∧
      ((sections name).declare counts item).peers field = some address := by
  rw [vocabulary_of_generic generic]
  rw [Declaration.addresses, List.mem_append, Option.mem_toList, Option.mem_toList] at member
  rcases member with isIp | isPrimary
  · refine ⟨"ip_addresses", ?_, isIp⟩
    cases name <;> first | rfl | exact absurd (by decide) generic | cases isIp
  · refine ⟨"primary_address", ?_, isPrimary⟩
    cases name <;> first | rfl | exact absurd (by decide) generic | cases isPrimary

/-- When the sessions are seeded the addresses with nodes are the known ones. -/
theorem known_iff
    {namespaceId : Option String} (namespaced : wantsNamespace dataset = namespaceId.isSome)
    {tally : Tally} {sot middle : Sot}
    (ran : seedSections client dataset client.defaultBranch namespaceId seedOrder ⟨0, 0, 0⟩ sot =
      (.ok tally, middle)) (address : Json) :
    (addressRel.node? (client.home middle) address).isSome ↔
      address ∈ knownAddresses dataset (client.home sot) := by
  have isSome_iff : (addressRel.node? (client.home middle) address).isSome ↔
      ∃ node ∈ (client.home middle).nodes .ipamIPAddress,
        node.attributes "address" = address := by
    rw [Rel.node?, List.find?_isSome]
    exact exists_congr fun node => and_congr_right fun _ => decide_eq_true_iff
  rw [isSome_iff, knownAddresses, List.mem_append, List.mem_map]
  constructor
  · rintro ⟨node, member, rfl⟩
    rcases seedSections_newAddresses namespaced ran node member with old | isNew
    · exact Or.inl ⟨node, old, rfl⟩
    · exact Or.inr isNew
  · rintro (⟨node, old, rfl⟩ | isNew)
    · exact ⟨node, (seedSections_evolves ran).1.addresses.subset old, rfl⟩
    · obtain ⟨name, -, inSection⟩ := List.mem_flatMap.1 isNew
      obtain ⟨record, isRecord, isAddress⟩ := List.mem_flatMap.1 inSection
      obtain ⟨item, isItem, rfl⟩ := List.mem_map.1 isRecord
      by_cases generic : name ∉ bgpSections
      · obtain ⟨field, target, named⟩ := target_of_address generic isAddress
        obtain ⟨requests, realised, -⟩ := seedSections_realise namespaced (List.nil_subset _) ran
          (Evolves.refl bgpKinds middle) generic
        obtain ⟨index, bound, same⟩ := List.getElem_of_mem isRecord
        have realises := realised.get bound (realised.length_eq ▸ bound)
        rw [List.get_eq_getElem, same] at realises
        obtain ⟨peer, inNodes, hasName, -⟩ := realises.named field addressRel address target named
        exact ⟨peer, inNodes, hasName⟩
      · have noAddress : ((sections name).declare (fun _ => wantsNamespace dataset)
            item).addresses = [] := by
          rcases List.mem_cons.1 (not_not.1 generic) with rfl | isSessions
          · rfl
          · obtain rfl := List.mem_singleton.1 isSessions
            rfl
        rw [noAddress] at isAddress
        cases isAddress

/-! ## Peers under their final names -/

/-- What the run of a seed does to the nodes that peers are named in. -/
structure Passed (dataset : Dataset) (before after : Contents) : Prop where
  addresses : before.nodes .ipamIPAddress <+: after.nodes .ipamIPAddress
  fresh : ∀ kind, ∀ node ∈ after.nodes kind, node.id ∈ before.mentioned →
    ∃ present ∈ before.nodes kind, present.id = node.id
  serves : ∀ name, name ≠ .bgpSessions → ∃ requests,
    (sections name).upserting.Serves ((sections name).Made before.mentioned) requests
      (before.nodes (sections name).kind) (after.nodes (sections name).kind)
  systems : ∃ requests, (vocabulary .autonomousSystems).Served before after
    (writtenItems dataset .autonomousSystems) requests

theorem keyed_sections {name : SectionName} (notSessions : name ≠ .bgpSessions) :
    (sections name).Keyed := by
  by_cases generic : name ∉ bgpSections
  · exact (wellFormed_sections generic).keyed
  · rcases List.mem_cons.1 (not_not.1 generic) with rfl | isSessions
    · exact keyed_peerGroups
    · exact absurd (List.mem_singleton.1 isSessions) notSessions

theorem namedIn_ne (kind : Kind) : namedIn kind ≠ .bgpSessions := by
  cases kind <;> decide

/-- Peers keep their names, but for the numbers of autonomous systems. -/
theorem Passed.settled
    {before after : Contents} (passed : Passed dataset before after) {name : SectionName}
    {field : String} {rel : Rel}
    (target : (vocabulary name).targets.lookup field = some rel) :
    rel.Settled dataset before after := by
  refine ⟨?_, passed.fresh rel.peerKind⟩
  intro peer member
  rcases target_named target with
    isAddress | ⟨isSystem, isNumber⟩ | ⟨notSystem, kind, lookup, noRels⟩
  · refine ⟨peer, ?_, rfl, ?_⟩
    · rw [isAddress] at member ⊢
      exact passed.addresses.subset member
    · rw [settledName, isAddress]
      rfl
  · obtain ⟨requests, served⟩ := passed.systems
    rw [isSystem] at member ⊢
    obtain ⟨aimed, later, inAfter, sameId, written, isAimed, -⟩ :=
      exists_later_of_serves served.wellFormed.keyed served.serves member
    refine ⟨later, inAfter, sameId, ?_⟩
    have known : rel.lookupAttr ∈ (vocabulary .autonomousSystems).sec.kind.attributes := by
      rw [isNumber]
      decide
    rw [settledName, if_pos isSystem, written, isAimed]
    apply attributes_writeAll known
    apply (served.aimed peer).imp
    rintro record request ⟨realises, -⟩
    exact realises.values _ known
  · obtain ⟨requests, serves⟩ := passed.serves _ (namedIn_ne rel.peerKind)
    rw [kind] at member ⊢
    obtain ⟨later, inAfter, sameId, sameName⟩ :=
      exists_named_of_serves (keyed_sections (namedIn_ne rel.peerKind)) lookup noRels serves member
    refine ⟨later, inAfter, sameId, ?_⟩
    rw [settledName, if_neg notSystem, sameName]

/-! ## Records that can come true -/

/-- Every record has its natural key, and gives values to attributes only. -/
structure Realisable (text : PyText) (dataset : Dataset) : Prop where
  keyed : ∀ name, ∀ declaration ∈ declared text dataset name,
    (vocabulary name).Keyed declaration
  known : ∀ name, ∀ declaration ∈ declared text dataset name, ∀ field value,
    declaration.values field = some value → field ∈ (vocabulary name).sec.kind.attributes

/-- A record whose node is there has its whole key. -/
theorem Vocabulary.Holds.keyed
    {voc : Vocabulary} {contents : Contents} {declaration : Declaration}
    (holds : voc.Holds contents declaration) : voc.Keyed declaration := by
  obtain ⟨node, isSubject, -⟩ := holds
  have speaks := List.find?_some isSubject
  rw [Vocabulary.speaks, List.all_eq_true] at speaks
  intro value member
  obtain ⟨field, isKey, rfl⟩ := List.mem_map.1 member
  have passes := speaks field isKey
  by_cases isRel : field ∈ voc.sec.lookupRelFields
  · rw [if_pos isRel] at passes ⊢
    rcases named : declaration.peers field with _ | name
    · rw [named] at passes
      simp at passes
    · rfl
  · rw [if_neg isRel] at passes ⊢
    rw [of_decide_eq_true passes]
    rfl

theorem realisable_of_faithful
    {contents : Contents} (faithful : Faithful text dataset contents) :
    Realisable text dataset where
  keyed name declaration member := (faithful name declaration member).keyed
  known name declaration member field value given := by
    obtain ⟨_, _, values, _⟩ := faithful name declaration member
    exact (values field value given).1

theorem realisable_of_settles
    {contents : Contents} (settles : SettlesIn text order dataset contents) :
    Realisable text dataset where
  keyed name declaration member := (settles name declaration member).keyed
  known name declaration member field value given :=
    ((settles name declaration member).values field value given).1

/-- The key of an item does not depend on which addresses count. -/
theorem key_declare
    {name : SectionName} (generic : name ∉ bgpSections) (counts others : Json → Bool)
    (item : Payload) :
    (vocabulary name).key ((sections name).declare counts item) =
      (vocabulary name).key ((sections name).declare others item) := by
  rw [Vocabulary.key_eq_iff]
  intro field _
  refine ⟨?_, fun _ => rfl⟩
  intro isRel
  rw [vocabulary_of_generic generic] at isRel
  have inNames := ((wellFormed_sections generic).relationships field isRel).2.2
  exact (Section.peersOf_of_mem inNames counts item).trans
    (Section.peersOf_of_mem inNames others item).symm

/-- The peers records name are among the targets of their section. -/
theorem exists_target
    {name : SectionName} {declaration : Declaration}
    (member : declaration ∈ declared text dataset name) {field : String} {peer : Json}
    (named : declaration.peers field = some peer) :
    ∃ rel, (vocabulary name).targets.lookup field = some rel := by
  by_cases generic : name ∉ bgpSections
  · rw [declared_of_generic generic] at member
    obtain ⟨item, -, rfl⟩ := List.mem_map.1 member
    have isPeer : ((sections name).peersOf Json.truthy item) field = some peer := named
    rw [Section.peersOf] at isPeer
    split_ifs at isPeer with isRel isAddresses isPrimary
    · rw [← Option.isSome_iff_exists, Option.isSome_iff_ne_none, Ne,
        lookup_eq_none_iff_not_mem, not_not, vocabulary_of_generic generic]
      dsimp only
      rw [Section.targets, List.append_assoc, List.map_append]
      exact List.mem_append_left _ isRel
    · subst isAddresses
      refine ⟨addressRel, ?_⟩
      cases name <;> first | rfl | exact absurd (by decide) generic | cases isPeer
    · subst isPrimary
      refine ⟨addressRel, ?_⟩
      cases name <;> first | rfl | exact absurd (by decide) generic | cases isPeer
  · rcases List.mem_cons.1 (not_not.1 generic) with rfl | isSessions
    · obtain ⟨record, -, inUsers⟩ := List.mem_flatMap.1 member
      obtain ⟨device, -, rfl⟩ := List.mem_map.1 inUsers
      rw [declareCopy] at named
      dsimp only at named
      split_ifs at named with isDevice
      subst isDevice
      exact ⟨_, rfl⟩
    · obtain rfl := List.mem_singleton.1 isSessions
      obtain ⟨session, -, rfl⟩ := List.mem_map.1 member
      rw [declareSession] at named
      dsimp only at named
      rw [sessionPeers] at named
      split_ifs at named with isDevice isWired isGroup
      · subst isDevice
        exact ⟨_, rfl⟩
      · simp only [List.mem_cons, List.not_mem_nil, or_false] at isWired
        rcases isWired with rfl | rfl | rfl | rfl <;> exact ⟨_, rfl⟩
      · subst isGroup
        exact ⟨_, rfl⟩

/-- Some record that is written has the key of each record that is declared. -/
theorem exists_written
    {tally : Nat} {sot after : Sot}
    (ran : seedBgp client text order dataset client.defaultBranch sot = (.ok tally, after))
    (before : Contents) {name : SectionName} {declaration : Declaration}
    (member : declaration ∈ declared text dataset name) :
    ∃ record ∈ written text order dataset before name,
      (vocabulary name).key record = (vocabulary name).key declaration := by
  by_cases generic : name ∉ bgpSections
  · rw [declared_of_generic generic] at member
    rw [written_of_generic generic]
    obtain ⟨item, isItem, rfl⟩ := List.mem_map.1 member
    exact ⟨_, List.mem_map_of_mem isItem, key_declare generic _ _ item⟩
  · rcases List.mem_cons.1 (not_not.1 generic) with rfl | isSessions
    · unfold seedBgp at ran
      cases empty : (bgpSections.filterMap dataset).isEmpty with
      | true =>
          have absent : dataset .bgpPeerGroups = none :=
            List.filterMap_eq_nil_iff.1 (List.isEmpty_iff.1 empty) _ (by decide)
          rw [declared, seededEntries_of_absent absent] at member
          cases member
      | false =>
          rw [empty, if_neg Bool.false_ne_true, Program.bind_eq_ok_iff] at ran
          obtain ⟨vrfId, start, -, ran⟩ := ran
          rw [Program.bind_eq_ok_iff] at ran
          obtain ⟨shadows, middle, grouped, -⟩ := ran
          exact exists_written_copy grouped before member
    · obtain rfl := List.mem_singleton.1 isSessions
      obtain ⟨session, isSession, rfl⟩ := List.mem_map.1 member
      exact ⟨_, List.mem_map_of_mem isSession, rfl⟩

/-- The fields that name the peers of an item are no attributes. -/
theorem target_not_attribute
    {name : SectionName} {field : String} {rel : Rel}
    (target : (sections name).targets.lookup field = some rel) :
    field ∉ (sections name).kind.attributes := by
  have all : ∀ entry ∈ (sections name).targets, entry.1 ∉ (sections name).kind.attributes := by
    cases name <;> decide
  exact all (field, rel) (mem_of_lookup target)

/-- In a realisable dataset no record gives a value to a field that names a peer. -/
theorem Realisable.unmixed
    (realisable : Realisable text dataset) {before : Contents} {name : SectionName}
    {record : Declaration} (member : record ∈ written text order dataset before name)
    {field : String} {rel : Rel} (target : (vocabulary name).targets.lookup field = some rel) :
    record.values field = none := by
  by_cases generic : name ∉ bgpSections
  · rw [written_of_generic generic] at member
    obtain ⟨item, isItem, rfl⟩ := List.mem_map.1 member
    rcases given : item.get? field with _ | value
    · rw [Section.declare]
      simp [given]
    · by_contra notNone
      obtain ⟨other, isValue⟩ := Option.ne_none_iff_exists'.1 notNone
      have isDeclared : (sections name).declare Json.truthy item ∈ declared text dataset name := by
        rw [declared_of_generic generic]
        exact List.mem_map_of_mem isItem
      have known := realisable.known name _ isDeclared field other isValue
      rw [vocabulary_of_generic generic] at known target
      exact target_not_attribute target known
  · rcases List.mem_cons.1 (not_not.1 generic) with rfl | isSessions
    · obtain ⟨entry, -, inVisited⟩ := List.mem_flatMap.1 member
      obtain ⟨device, -, rfl⟩ := List.mem_map.1 inVisited
      have isDevice := mem_of_lookup target
      simp only [vocabulary, List.mem_singleton, Prod.mk.injEq] at isDevice
      obtain ⟨rfl, -⟩ := isDevice
      rfl
    · obtain rfl := List.mem_singleton.1 isSessions
      obtain ⟨session, -, rfl⟩ := List.mem_map.1 member
      exact values_writeSession_of_target target

/-! ## The whole seed -/

/-- The steps of a seed that returns. -/
theorem seed_eq_ok
    {useCase : String} {sot after : Sot} {result : SeedResult}
    (ran : seed client text order useCase dataset client.defaultBranch sot =
      (.ok result, after)) :
    ∃ namespaceId tally records middle,
      wantsNamespace dataset = Option.isSome namespaceId ∧
      seedSections client dataset client.defaultBranch namespaceId seedOrder ⟨0, 0, 0⟩ sot =
        (.ok tally, middle) ∧
      seedBgp client text order dataset client.defaultBranch middle = (.ok records, after) := by
  rw [seed, Program.bind_eq_ok_iff] at ran
  obtain ⟨devices, start, computesDevices, ran⟩ := ran
  obtain ⟨devicesOk, rfl⟩ := compute_eq_ok_iff.1 computesDevices
  rw [Program.bind_eq_ok_iff] at ran
  obtain ⟨_, start, validates, ran⟩ := ran
  obtain ⟨rfl, -⟩ := validate_eq_ok validates
  rw [Program.bind_eq_ok_iff] at ran
  obtain ⟨namespaceId, start, fetches, ran⟩ := ran
  have namespaced := isSome_fetchNamespace fetches
  obtain ⟨rfl, -⟩ := fetchNamespace_eq_ok fetches
  rw [Program.bind_eq_ok_iff] at ran
  obtain ⟨tally, middle, sectioned, ran⟩ := ran
  rw [Program.bind_eq_ok_iff] at ran
  obtain ⟨records, last, bgp, ran⟩ := ran
  obtain ⟨rfl, rfl⟩ := Program.pure_eq_ok_iff.1 ran
  exact ⟨namespaceId, tally, records, middle, (wantsNamespace_eq devicesOk).trans namespaced.symm,
    sectioned, bgp⟩

/-- The items of a realisable dataset are written under whole keys. -/
theorem Realisable.keyed_written
    (realisable : Realisable text dataset) {name : SectionName} (generic : name ∉ bgpSections) :
    ∀ record ∈ writtenItems dataset name, (vocabulary name).Keyed record := by
  intro record member
  obtain ⟨item, isItem, rfl⟩ := List.mem_map.1 member
  have isDeclared : (sections name).declare Json.truthy item ∈ declared text dataset name := by
    rw [declared_of_generic generic]
    exact List.mem_map_of_mem isItem
  have keyed := realisable.keyed name _ isDeclared
  rw [Vocabulary.Keyed, key_declare generic _ Json.truthy item]
  exact keyed

/-- A seed that returns serves the records of every section. -/
theorem servedAs_of_seed
    (realisable : Realisable text dataset)
    {useCase : String} {sot after : Sot} {result : SeedResult}
    (ran : seed client text order useCase dataset client.defaultBranch sot =
      (.ok result, after)) :
    (∃ kinds, Evolves client kinds sot after) ∧
    ∀ name, (vocabulary name).ServedAs (client.home sot).mentioned (client.home sot)
      (client.home after) (client.home after)
      (written text order dataset (client.home sot) name) := by
  obtain ⟨namespaceId, tally, records, middle, namespaced, sectioned, bgp⟩ := seed_eq_ok ran
  have evolves := (seedSections_evolves sectioned).1
  obtain ⟨evolvesBgp, ⟨groupRequests, groupsRealised, groupsServe⟩,
    ⟨sessionRequests, sessionsRealised, sessionsServe⟩⟩ :=
    seedBgp_served evolves.mentioned (known_iff namespaced sectioned) bgp
  have untouched : ∀ kind ∈ bgpKinds,
      (client.home middle).nodes kind = (client.home sot).nodes kind := by
    intro kind isBgp
    apply evolves.others
    intro member
    rcases List.mem_cons.1 member with rfl | isGeneric
    · exact absurd isBgp (by decide)
    · obtain ⟨other, -, generic, rfl⟩ := mem_genericKinds.1 isGeneric
      exact (generic_not_bgp generic).1 isBgp
  refine ⟨⟨_, (evolves.mono (List.subset_append_left _ _)).trans
    (evolvesBgp.mono (List.subset_append_right _ _))⟩, ?_⟩
  intro name
  by_cases generic : name ∉ bgpSections
  · obtain ⟨requests, realised, serves⟩ :=
      seedSections_realise namespaced (List.Subset.refl _) sectioned evolvesBgp generic
    rw [written_of_generic generic]
    refine ⟨requests, ?_, ?_⟩
    · have withKeys := (List.forall₂_and_left _ _).2 ⟨realisable.keyed_written generic, realised⟩
      exact withKeys.imp fun _ _ both => ⟨both.2, both.1⟩
    · rw [vocabulary_of_generic generic]
      exact serves
  · rcases List.mem_cons.1 (not_not.1 generic) with rfl | isSessions
    · exact ⟨groupRequests, groupsRealised,
        untouched .routingBGPPeerGroup (by decide) ▸ groupsServe⟩
    · obtain rfl := List.mem_singleton.1 isSessions
      exact ⟨sessionRequests, sessionsRealised,
        untouched .routingBGPSession (by decide) ▸ sessionsServe⟩

section

variable {useCase : String} {sot after : Sot} {result : SeedResult}

/-- Devices keep their names, so the references of keys lead where they led. -/
theorem served_of_seed
    (realisable : Realisable text dataset)
    (ran : seed client text order useCase dataset client.defaultBranch sot = (.ok result, after))
    (name : SectionName) :
    ∃ requests, (vocabulary name).Served (client.home sot) (client.home after)
      (written text order dataset (client.home sot) name) requests := by
  obtain ⟨⟨kinds, evolves⟩, servedAs⟩ := servedAs_of_seed realisable ran
  obtain ⟨requests, realised, serves⟩ := servedAs name
  obtain ⟨_, -, devicesServe⟩ := servedAs .devices
  refine ⟨requests, wellFormed_vocabulary name, realised, serves, ?_⟩
  intro field isKey rel target
  obtain rfl := rel_of_key isKey target
  exact steady_of_serves (keyed_sections (by decide)) rfl rfl rfl devicesServe
    (evolves.fresh .dcimDevice)

theorem passed_of_seed
    (realisable : Realisable text dataset)
    (ran : seed client text order useCase dataset client.defaultBranch sot = (.ok result, after)) :
    Passed dataset (client.home sot) (client.home after) := by
  obtain ⟨⟨kinds, evolves⟩, servedAs⟩ := servedAs_of_seed realisable ran
  refine ⟨evolves.addresses, evolves.fresh, ?_, served_of_seed realisable ran .autonomousSystems⟩
  intro name notSessions
  obtain ⟨requests, -, serves⟩ := servedAs name
  refine ⟨requests, ?_⟩
  cases name <;> first | exact serves | exact absurd rfl notSessions

/-- A record holds after a seed exactly if it settles in what was there before. -/
theorem holds_iff_settles
    (realisable : Realisable text dataset)
    (ran : seed client text order useCase dataset client.defaultBranch sot = (.ok result, after))
    {name : SectionName} {declaration : Declaration}
    (member : declaration ∈ declared text dataset name) :
    (vocabulary name).Holds (client.home after) declaration ↔
      (vocabulary name).Settles dataset (client.home sot)
        (written text order dataset (client.home sot) name) declaration := by
  obtain ⟨-, -, records, middle, -, -, bgp⟩ := seed_eq_ok ran
  obtain ⟨requests, served⟩ := served_of_seed realisable ran name
  obtain ⟨record, isRecord, sameKey⟩ := exists_written bgp (client.home sot) member
  apply served.holds_iff _ _ isRecord sameKey
  · intro field peer named
    exact exists_target member named
  · intro field rel target
    exact (passed_of_seed realisable ran).settled target
  · intro other isOther field rel target
    exact realisable.unmixed isOther target

theorem faithful_of_settles
    (ran : seed client text order useCase dataset client.defaultBranch sot = (.ok result, after))
    (settles : SettlesIn text order dataset (client.home sot)) :
    Faithful text dataset (client.home after) := by
  intro name declaration member
  exact (holds_iff_settles (realisable_of_settles settles) ran member).2
    (settles name declaration member)

theorem settles_of_faithful
    (ran : seed client text order useCase dataset client.defaultBranch sot = (.ok result, after))
    (faithful : Faithful text dataset (client.home after)) :
    SettlesIn text order dataset (client.home sot) := by
  intro name declaration member
  exact (holds_iff_settles (realisable_of_faithful faithful) ran member).1
    (faithful name declaration member)

/--
A seed that returns makes everything true that its dataset declares exactly if
the dataset settles in what was there before.
-/
theorem seed_faithful_iff
    (ran : seed client text order useCase dataset client.defaultBranch sot = (.ok result, after)) :
    Faithful text dataset (client.home after) ↔
      SettlesIn text order dataset (client.home sot) :=
  ⟨settles_of_faithful ran, faithful_of_settles ran⟩

end

/-! ## A lab, and its device moved -/

/-- A record comes true when its node is made from the one record that has its key. -/
theorem Vocabulary.settles_of_absent
    {voc : Vocabulary} {dataset : Dataset} {contents : Contents} {records : List Declaration}
    {declaration record : Declaration} (absent : contents.nodes voc.sec.kind = [])
    (only : (records.filter fun other => voc.key other = voc.key declaration) = [record])
    (keyed : voc.Keyed declaration)
    (values : ∀ field value, declaration.values field = some value →
      field ∈ voc.sec.kind.attributes ∧ record.values field = some value)
    (peers : ∀ field name, declaration.peers field = some name → record.peers field = some name) :
    voc.Settles dataset contents records declaration := by
  have isNew : voc.subject contents declaration = none := by
    rw [Vocabulary.subject, absent]
    rfl
  have first : (records.find? fun other => voc.key other = voc.key declaration) =
      some record := by
    rw [← List.head?_filter, only]
    rfl
  refine ⟨keyed, ?_, ?_⟩
  · intro field value given
    obtain ⟨known, written⟩ := values field value given
    refine ⟨known, ?_⟩
    simp [settledValue, isNew, only, latest, written]
  · intro field name named
    simp [SettledPeer, isNew, first, peers field name named]

/-- Items of distinct keys come true where there is no node of their kind. -/
theorem settles_of_items
    {text : PyText} {order : SetOrder} {dataset : Dataset} {contents : Contents}
    {name : SectionName} (generic : name ∉ bgpSections)
    (absent : contents.nodes (vocabulary name).sec.kind = [])
    (distinct : ((seededItems dataset name).map fun item =>
      (vocabulary name).key ((sections name).declare Json.truthy item)).Nodup)
    (keyed : ∀ item ∈ seededItems dataset name,
      (vocabulary name).Keyed ((sections name).declare Json.truthy item))
    (known : ∀ item ∈ seededItems dataset name, ∀ entry ∈ item.entries,
      entry.1 ∈ (sections name).peerFields ∨ entry.1 ∈ (vocabulary name).sec.kind.attributes)
    (namespaced : wantsNamespace dataset ∨ (sections name).primaryAddressField = none) :
    ∀ declaration ∈ declared text dataset name,
      (vocabulary name).Settles dataset contents (written text order dataset contents name)
        declaration := by
  intro declaration member
  rw [declared_of_generic generic] at member
  obtain ⟨item, isItem, rfl⟩ := List.mem_map.1 member
  have only : ((written text order dataset contents name).filter fun other =>
      (vocabulary name).key other =
        (vocabulary name).key ((sections name).declare Json.truthy item)) =
      [(sections name).declare (fun _ => wantsNamespace dataset) item] := by
    rw [written_of_generic generic, writtenItems, List.filter_map]
    refine congrArg (List.map _) ((List.filter_congr ?_).trans
      (filter_of_nodup_map distinct isItem))
    intro other _
    rw [Function.comp_apply, key_declare generic _ Json.truthy other]
  apply Vocabulary.settles_of_absent absent only (keyed item isItem)
  · intro field value given
    refine ⟨?_, given⟩
    rw [Section.declare] at given
    dsimp only at given
    split_ifs at given with isPeer
    have isEntry := (item.get?_eq_some_iff field value).1 given
    exact (known item isItem _ isEntry).resolve_left isPeer
  · intro field peer named
    have isPeer : (sections name).peersOf Json.truthy item field = some peer := named
    change (sections name).peersOf _ item field = some peer
    rw [Section.peersOf] at isPeer ⊢
    split_ifs at isPeer ⊢ with isRel isAddresses isPrimary
    · exact isPeer
    · exact isPeer
    · obtain ⟨given, -⟩ := Option.filter_eq_some_iff.1 isPeer
      rcases namespaced with wants | noField
      · exact Option.filter_eq_some_iff.2 ⟨given, wants⟩
      · rw [noField] at given
        cases given

/-- The one record of a section is the only one of its key. -/
theorem Vocabulary.only_of_singleton
    {voc : Vocabulary} {declaration record : Declaration}
    (sameKey : voc.key record = voc.key declaration) :
    ([record].filter fun other => voc.key other = voc.key declaration) = [record] := by
  rw [List.filter_cons, if_pos (decide_eq_true sameKey)]
  rfl

/-- The one copy of a peer group comes true where there are no copies. -/
theorem settles_of_copy
    {text : PyText} {dataset : Dataset} {contents : Contents} {group device : Json}
    {record : Payload} (absent : contents.nodes .routingBGPPeerGroup = [])
    (known : ∀ entry ∈ record.entries,
      entry.1 ∈ ["name", "description", "status"] ++ shadowAttributes) :
    (vocabulary .bgpPeerGroups).Settles dataset contents [writeCopy text group record device]
      (declareCopy text group record device) := by
  have attributes : ∀ field ∈ ["name", "description", "status"] ++ shadowAttributes,
      field ∈ (vocabulary .bgpPeerGroups).sec.kind.attributes := by decide
  have sameKey : (vocabulary .bgpPeerGroups).key (writeCopy text group record device) =
      (vocabulary .bgpPeerGroups).key (declareCopy text group record device) := rfl
  apply Vocabulary.settles_of_absent absent (Vocabulary.only_of_singleton sameKey)
    (keyed_writeCopy group record device)
  · intro field value given
    rw [declareCopy] at given
    dsimp only at given
    rw [writeCopy]
    dsimp only
    by_cases isName : field = "name"
    · subst isName
      exact ⟨attributes _ (by decide), given⟩
    by_cases isDescription : field = "description"
    · subst isDescription
      refine ⟨attributes _ (by decide), ?_⟩
      obtain ⟨description, found, rfl⟩ := Option.map_eq_some_iff.1 given
      rw [found]
      rfl
    · rw [if_neg isName, if_neg isDescription] at given ⊢
      have member := known _ ((record.get?_eq_some_iff field value).1 given)
      refine ⟨attributes field member, ?_⟩
      by_cases isCopied : field ∈ shadowAttributes
      · rw [if_pos isCopied, given]
      · have isStatus : field = "status" := by
          simpa [isName, isDescription, isCopied] using member
        rw [if_neg isCopied, if_pos isStatus, given]
        rfl
  · exact fun field name named => named

/-- The one session comes true where there are none, if its addresses and its group are known. -/
theorem settles_of_session
    {text : PyText} {dataset : Dataset} {contents : Contents} {session : Payload}
    (absent : contents.nodes .routingBGPSession = [])
    (described : (session.get? "description").isSome)
    (known : ∀ entry ∈ session.entries,
      entry.1 ∈ sessionPeerFields ++ ["description", "session_type", "role", "status"])
    (addressed : ∀ field ∈ ["local_ip", "remote_ip"], ∀ address,
      session.get? field = some address → address ∈ knownAddresses dataset contents)
    (grouped : ∀ group, groupOf session = some group →
      ((declaredGroups dataset).get? group).isSome) :
    (vocabulary .bgpSessions).Settles dataset contents
      [writeSession text dataset contents session] (declareSession text session) := by
  have attributes : ∀ field ∈ ["description", "session_type", "role", "status"],
      field ∈ (vocabulary .bgpSessions).sec.kind.attributes := by decide
  have sameKey : (vocabulary .bgpSessions).key (writeSession text dataset contents session) =
      (vocabulary .bgpSessions).key (declareSession text session) := rfl
  apply Vocabulary.settles_of_absent absent (Vocabulary.only_of_singleton sameKey)
  · intro value member
    obtain rfl := List.mem_singleton.1 member
    exact described
  · intro field value given
    rw [declareSession] at given
    dsimp only at given
    split_ifs at given with isPeer
    have isEntry := known _ ((session.get?_eq_some_iff field value).1 given)
    have isValue := (List.mem_append.1 isEntry).resolve_left isPeer
    refine ⟨attributes field isValue, ?_⟩
    rw [writeSession]
    dsimp only
    by_cases isStatus : field = "status"
    · subst isStatus
      rw [given]
      rfl
    · rw [if_pos (by simpa [isStatus] using isValue), given]
  · intro field name named
    change sessionPeers text session field = some name at named
    rw [writeSession]
    dsimp only
    split_ifs with isAddress isGroup isKnown
    · have given : session.get? field = some name := by
        rcases isAddress with rfl | rfl <;> exact named
      rw [given, Option.filter_eq_some_iff]
      refine ⟨rfl, decide_eq_true (addressed field ?_ name given)⟩
      simpa using isAddress
    · exact named
    · subst isGroup
      rcases uses : groupOf session with _ | group
      · rw [sessionPeers] at named
        simp [uses] at named
      · rw [uses] at isKnown
        exact absurd (grouped group uses) isKnown
    · exact named

/-- A spine or leaf of the lab. -/
def pairDevice (name : String) (asn : Int) (address : String) : Payload :=
  Dict.ofPairs
    [("name", .str name), ("role", .str name), ("use_case", .str "dcfabric"),
      ("device_type", .str "D3"), ("location", .str "lab"), ("asn", .int asn),
      ("management_ip", .str address)]

def pairInterface (device address : String) : Payload :=
  Dict.ofPairs
    [("device", .str device), ("name", .str "ethernet-1/1"), ("ip_address", .str address)]

/-- The session of the spine with the leaf. -/
def pairSession : Payload :=
  Dict.ofPairs
    [("description", .str "spine to leaf"), ("local_device", .str "spine"),
      ("remote_device", .str "leaf"), ("local_as", .int 65000), ("remote_as", .int 65001),
      ("local_ip", .str "10.10.1.0/31"), ("remote_ip", .str "10.10.1.1/31"),
      ("peer_group", .str "underlay")]

/-- A spine and a leaf, with a session from one to the other. -/
def pairDataset : Dataset
  | .location => some (.item (Dict.ofPairs [("name", .str "Lab"), ("shortname", .str "lab")]))
  | .deviceTypes => some (.items [Dict.ofPairs [("name", .str "D3")]])
  | .autonomousSystems => some (.items
      [Dict.ofPairs [("name", .str "spine AS"), ("asn", .int 65000)],
        Dict.ofPairs [("name", .str "leaf AS"), ("asn", .int 65001)]])
  | .vrfs => some (.items [Dict.ofPairs [("name", .str "default")]])
  | .devices => some (.items
      [pairDevice "spine" 65000 "10.0.0.1/24", pairDevice "leaf" 65001 "10.0.0.2/24"])
  | .interfaces => some (.items
      [pairInterface "spine" "10.10.1.0/31", pairInterface "leaf" "10.10.1.1/31"])
  | .bgpPeerGroups => some (.items [Dict.ofPairs [("name", .str "underlay")]])
  | .bgpSessions => some (.items [pairSession])
  | _ => none

def pairSeed : Except IntentError SeedResult × Sot :=
  seed labClient .ascii insertionOrder "dcfabric" pairDataset labClient.defaultBranch
    fun _ => bareContents

theorem pairSeed_ok : pairSeed.1 = .ok ⟨"dcfabric", 2, 0, 11, "main"⟩ := by
  decide +kernel

theorem settlesIn_pair : SettlesIn .ascii insertionOrder pairDataset bareContents := by
  intro name
  by_cases generic : name ∉ bgpSections
  · have absent : bareContents.nodes (vocabulary name).sec.kind = [] := by
      cases name <;> rfl
    have fits : ((seededItems pairDataset name).map fun item =>
          (vocabulary name).key ((sections name).declare Json.truthy item)).Nodup ∧
        (∀ item ∈ seededItems pairDataset name,
          ∀ value ∈ (vocabulary name).key ((sections name).declare Json.truthy item),
            value.isSome) ∧
        ∀ item ∈ seededItems pairDataset name, ∀ entry ∈ item.entries,
          entry.1 ∈ (sections name).peerFields ∨
            entry.1 ∈ (vocabulary name).sec.kind.attributes := by
      cases name <;> first | exact absurd (by decide) generic | decide +kernel
    exact settles_of_items generic absent fits.1 fits.2.1 fits.2.2 (Or.inl (by decide +kernel))
  · intro declaration member
    rcases List.mem_cons.1 (not_not.1 generic) with rfl | isSessions
    · have onSpine : usersOf pairDataset (.str "underlay") = [.str "spine"] := by decide +kernel
      have visits : visited insertionOrder (devicesOfGroups pairDataset) (.str "underlay") =
          [.str "spine"] := by decide +kernel
      have groups : (declaredGroups pairDataset).entries =
          [(.str "underlay", Dict.ofPairs [("name", .str "underlay")])] := by decide +kernel
      obtain ⟨record, isRecord, inUsers⟩ := List.mem_flatMap.1 member
      obtain rfl := List.mem_singleton.1 isRecord
      change declaration ∈ (usersOf pairDataset (.str "underlay")).map _ at inUsers
      rw [onSpine] at inUsers
      obtain rfl := List.mem_singleton.1 inUsers
      have isWritten : written .ascii insertionOrder pairDataset bareContents .bgpPeerGroups =
          [writeCopy .ascii (.str "underlay") (Dict.ofPairs [("name", .str "underlay")])
            (.str "spine")] := by
        rw [written, groups, List.flatMap_singleton, visits]
        rfl
      rw [isWritten]
      exact settles_of_copy rfl (by decide)
    · obtain rfl := List.mem_singleton.1 isSessions
      obtain rfl := List.mem_singleton.1 member
      refine settles_of_session rfl (by decide +kernel) (by decide +kernel) ?_ ?_
      · intro field isField address given
        rcases List.mem_pair.1 isField with rfl | rfl
        · obtain rfl : Json.str "10.10.1.0/31" = address := Option.some.inj given
          decide +kernel
        · obtain rfl : Json.str "10.10.1.1/31" = address := Option.some.inj given
          decide +kernel
      · intro group uses
        obtain rfl : Json.str "underlay" = group := Option.some.inj uses
        decide +kernel

def movedItem : Payload :=
  Dict.ofPairs
    [("name", .str "spine"), ("role", .str "spine"), ("use_case", .str "dcfabric"),
      ("device_type", .str "D3"), ("location", .str "annex"), ("asn", .int 65000)]

/-- The device of the lab at another location. -/
def movedDataset : Dataset
  | .location => some (.item (Dict.ofPairs [("name", .str "Annex"), ("shortname", .str "annex")]))
  | .devices => some (.items [movedItem])
  | _ => none

/-- The lab seeded once more, with its device moved. -/
def movedSeed : Except IntentError SeedResult × Sot :=
  seed labClient .ascii insertionOrder "dcfabric" movedDataset labClient.defaultBranch pairSeed.2

theorem movedSeed_ok : movedSeed.1 = .ok ⟨"dcfabric", 0, 1, 2, "main"⟩ := by
  decide +kernel

def movedDevice : Declaration := (sections .devices).declare Json.truthy movedItem

theorem not_settlesIn_moved
    {contents : Contents} {node : Node}
    (found : (vocabulary .devices).subject contents movedDevice = some node)
    (elsewhere : ∀ peer ∈ contents.nodes .locationSite,
      ¬(node.relations "location" = [peer.id] ∧ peer.attributes "shortname" = .str "annex")) :
    ¬ SettlesIn .ascii insertionOrder movedDataset contents := by
  intro settles
  have isDeclared : movedDevice ∈ declared .ascii movedDataset .devices := List.mem_cons_self
  have peer := (settles .devices movedDevice isDeclared).peers "location" (.str "annex") rfl
  rw [Vocabulary.SettledPeer, found] at peer
  obtain ⟨rel, target, other, inNodes, leads, named⟩ := peer
  have isRel : (vocabulary .devices).targets.lookup "location" =
      some { peerKind := .locationSite, lookupAttr := "shortname" } := rfl
  rw [isRel, Option.some.injEq] at target
  subst target
  exact elsewhere other inNodes ⟨leads, named⟩

/-- The lab is what its dataset says; the moved device stays where it was. -/
theorem lab_faithful_until_moved :
    Faithful .ascii pairDataset (labClient.home pairSeed.2) ∧
      ¬ Faithful .ascii movedDataset (labClient.home movedSeed.2) := by
  constructor
  · have ran : pairSeed = (.ok ⟨"dcfabric", 2, 0, 11, "main"⟩, pairSeed.2) := by
      rw [← pairSeed_ok]
    exact (seed_faithful_iff ran).2 settlesIn_pair
  · have ran : movedSeed = (.ok ⟨"dcfabric", 0, 1, 2, "main"⟩, movedSeed.2) := by
      rw [← movedSeed_ok]
    rw [seed_faithful_iff ran]
    have present :
        ((vocabulary .devices).subject (labClient.home pairSeed.2) movedDevice).isSome := by
      decide +kernel
    -- The only location the device leads to is the one of the first seed.
    have locations : ∀ node ∈
        (vocabulary .devices).subject (labClient.home pairSeed.2) movedDevice,
        ∀ peer ∈ (labClient.home pairSeed.2).nodes .locationSite,
          ¬(node.relations "location" = [peer.id] ∧
            peer.attributes "shortname" = .str "annex") := by
      decide +kernel
    obtain ⟨node, found⟩ := Option.isSome_iff_exists.1 present
    exact not_settlesIn_moved found (locations node found)

end Snapl.Intent
