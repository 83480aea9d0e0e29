import Snapl.Contract.SeedIdempotence
import Snapl.Intent.SeedServed
import Snapl.Intent.SeedWiring

/-!
# The BGP sections as records

The copies of peer groups and the sessions of a dataset are served as requests
that write what their records say.  The table of copies names a copy for every
session that uses a group with a record, and none for other groups.
-/

namespace Snapl.Intent

open Snapl.Library SeedIngester

variable {client : InfrahubClient} {text : PyText} {order : SetOrder} {dataset : Dataset}

/-- Peer groups are passed over, or seeded for the devices that use them. -/
theorem seedPeerGroupSection_inv
    {branch vrfId : String} {shadows : ShadowIds × Nat} {sot after : Sot}
    (ran : seedPeerGroupSection client text order dataset branch vrfId sot =
      (.ok shadows, after)) :
    (dataset .bgpPeerGroups = none ∧ shadows = (Dict.empty, 0) ∧ sot = after) ∨
    (groupDevices (seededEntries dataset .bgpSessions) Dict.empty =
        .ok (devicesOfGroups dataset) ∧
      declarationMap (seededEntries dataset .bgpPeerGroups) Dict.empty =
        .ok (declaredGroups dataset) ∧
      seedGroups client text order branch vrfId (devicesOfGroups dataset)
        (declaredGroups dataset).entries (Dict.empty, 0) sot = (.ok shadows, after)) := by
  unfold seedPeerGroupSection at ran
  rcases present : dataset .bgpPeerGroups with _ | declarations
  · rw [present] at ran
    obtain ⟨rfl, rfl⟩ := Program.pure_eq_ok_iff.1 ran
    exact Or.inl ⟨rfl, rfl, rfl⟩
  · rw [present] at ran
    dsimp only at ran
    rw [seedBgpPeerGroups, Program.bind_eq_ok_iff] at ran
    obtain ⟨sessionEntries, start, computesSessions, ran⟩ := ran
    obtain ⟨sessionsOk, rfl⟩ := compute_eq_ok_iff.1 computesSessions
    rw [Program.bind_eq_ok_iff] at ran
    obtain ⟨users, start, computesDevices, ran⟩ := ran
    obtain ⟨usersOk, rfl⟩ := compute_eq_ok_iff.1 computesDevices
    rw [Program.bind_eq_ok_iff] at ran
    obtain ⟨entries, start, computesEntries, ran⟩ := ran
    obtain ⟨entriesOk, rfl⟩ := compute_eq_ok_iff.1 computesEntries
    rw [Program.bind_eq_ok_iff] at ran
    obtain ⟨groups, start, computesDeclared, ran⟩ := ran
    obtain ⟨groupsOk, rfl⟩ := compute_eq_ok_iff.1 computesDeclared
    have isEntries : seededEntries dataset .bgpPeerGroups = entries := by
      rw [seededEntries, present, Option.map_some, entriesOk]
    have isSessions : seededEntries dataset .bgpSessions = sessionEntries := by
      rw [seededEntries]
      rcases sessions : dataset .bgpSessions with _ | value
      · rw [sessions] at sessionsOk
        cases sessionsOk
        rfl
      · rw [sessions, Option.getD_some] at sessionsOk
        rw [Option.map_some, sessionsOk]
    have isGroups : declaredGroups dataset = groups := by
      rw [declaredGroups, isEntries, groupsOk]
    have isUsers : devicesOfGroups dataset = users := by
      rw [devicesOfGroups, isSessions, usersOk]
    rw [isEntries, isSessions, isGroups, isUsers]
    exact Or.inr ⟨usersOk, groupsOk, ran⟩

/-- A group's copies are made for the devices of the sessions that use it. -/
theorem mem_visited_iff
    (computed : groupDevices (seededEntries dataset .bgpSessions) Dict.empty =
      .ok (devicesOfGroups dataset)) (group device : Json) :
    device ∈ visited order (devicesOfGroups dataset) group ↔
      ∃ session ∈ seededEntries dataset .bgpSessions, groupOf session = some group ∧
        session.get? "local_device" = some device := by
  rw [visited, (order.iterate_perm _).mem_iff, mem_groupDevices_iff computed]
  simp

theorem seededEntries_of_absent
    {name : SectionName} (absent : dataset name = none) : seededEntries dataset name = [] := by
  rw [seededEntries, absent]
  rfl

theorem declaredGroups_of_absent (absent : dataset .bgpPeerGroups = none) :
    declaredGroups dataset = Dict.empty := by
  rw [declaredGroups, seededEntries_of_absent absent]
  rfl

/-- The peer groups of a dataset are served, and the table of their copies is right. -/
theorem seedPeerGroupSection_served
    {vrfId : String} {shadows : ShadowIds × Nat} {taken : List String} {sot after : Sot}
    (known : taken ⊆ (client.home sot).mentioned) {before contents : Contents}
    (devices : contents.nodes .dcimDevice = (client.home sot).nodes .dcimDevice)
    (ran : seedPeerGroupSection client text order dataset client.defaultBranch vrfId sot =
      (.ok shadows, after)) :
    (∃ requests,
      List.Forall₂
        (fun copy request => (vocabulary .bgpPeerGroups).Realises contents copy request ∧
          (vocabulary .bgpPeerGroups).Keyed copy)
        (written text order dataset before .bgpPeerGroups) requests ∧
      (sections .bgpPeerGroups).upserting.Serves ((sections .bgpPeerGroups).Made taken) requests
        ((client.home sot).nodes .routingBGPPeerGroup)
        ((client.home after).nodes .routingBGPPeerGroup)) ∧
    (∀ session ∈ seededEntries dataset .bgpSessions, ∀ group device,
      groupOf session = some group → session.get? "local_device" = some device →
      ((declaredGroups dataset).get? group).isSome →
        ∃ id, copyId shadows.1 group device = some id ∧
          IsCopy client text after group device id) ∧
    ∀ group device, ¬(group.truthy ∧ ((declaredGroups dataset).get? group).isSome) →
      copyId shadows.1 group device = none := by
  rcases seedPeerGroupSection_inv ran with
    ⟨absent, rfl, rfl⟩ | ⟨usersOk, groupsOk, ranGroups⟩
  · have noGroups := declaredGroups_of_absent absent
    refine ⟨⟨[], ?_, .done _⟩, ?_, fun _ _ _ => rfl⟩
    · rw [written, noGroups]
      exact .nil
    · intro session _ group device _ _ isDeclared
      rw [noGroups] at isDeclared
      cases isDeclared
  · obtain ⟨-, -, readable, serves⟩ := seedGroups_serves known ranGroups
    obtain ⟨untouched, made⟩ := seedGroups_ids (declaredGroups dataset).distinct ranGroups
    refine ⟨⟨_, ?_, serves⟩, ?_, ?_⟩
    · rw [written, ← groupRequests_congr devices]
      apply realises_groupRequests
      intro group member
      exact (readable_congr devices vrfId group.1 group.2 _).2 (readable group member)
    · intro session isSession group device uses isLocal isDeclared
      obtain ⟨record, found⟩ := Option.isSome_iff_exists.1 isDeclared
      exact made (group, record)
        (((declaredGroups dataset).get?_eq_some_iff group record).1 found) device
        ((mem_visited_iff usersOk group device).2 ⟨session, isSession, uses, isLocal⟩)
    · intro group device unused
      apply untouched group _ device
      cases truthy : group.truthy with
      | false =>
          right
          rw [List.eq_nil_iff_forall_not_mem]
          intro other member
          obtain ⟨session, -, uses, -⟩ := (mem_visited_iff usersOk group other).1 member
          have counts := (Option.filter_eq_some_iff.1 uses).2
          rw [truthy] at counts
          cases counts
      | true =>
          left
          intro member
          obtain ⟨record, found⟩ := ((declaredGroups dataset).mem_keys_iff group).1 member
          exact unused ⟨truthy, by rw [found]; rfl⟩

/-- What the records of groups declare of a copy, some record writes to it. -/
theorem exists_written_copy
    {branch vrfId : String} {shadows : ShadowIds × Nat} {sot after : Sot}
    (ran : seedPeerGroupSection client text order dataset branch vrfId sot =
      (.ok shadows, after)) (before : Contents) {declaration : Declaration}
    (member : declaration ∈ declared text dataset .bgpPeerGroups) :
    ∃ record ∈ written text order dataset before .bgpPeerGroups,
      (vocabulary .bgpPeerGroups).key record = (vocabulary .bgpPeerGroups).key declaration := by
  obtain ⟨record, isRecord, inUsers⟩ := List.mem_flatMap.1 member
  rcases seedPeerGroupSection_inv ran with ⟨absent, -, -⟩ | ⟨usersOk, groupsOk, -⟩
  · rw [seededEntries_of_absent absent] at isRecord
    cases isRecord
  · obtain ⟨device, isUser, rfl⟩ := List.mem_map.1 inUsers
    obtain ⟨group, named, counts⟩ := (declarationMap_get? groupsOk).2 record isRecord
    rw [named, Option.getD_some] at isUser ⊢
    obtain ⟨last, found⟩ := Option.isSome_iff_exists.1 counts
    obtain ⟨session, isSession, isLocal⟩ := List.mem_filterMap.1 isUser
    split_ifs at isLocal with uses
    refine ⟨writeCopy text group last device, ?_, rfl⟩
    apply List.mem_flatMap.2
    refine ⟨(group, last), ((declaredGroups dataset).get?_eq_some_iff group last).1 found, ?_⟩
    apply List.mem_map_of_mem
    exact (mem_visited_iff usersOk group device).2 ⟨session, isSession, uses, isLocal⟩

/-- The records of a section have been served as requests that realise them. -/
def Vocabulary.ServedAs (voc : Vocabulary) (taken : List String) (start stop contents : Contents)
    (records : List Declaration) : Prop :=
  ∃ requests,
    List.Forall₂ (fun record request => voc.Realises contents record request ∧ voc.Keyed record)
      records requests ∧
    voc.sec.upserting.Serves (voc.sec.Made taken) requests (start.nodes voc.sec.kind)
      (stop.nodes voc.sec.kind)

theorem Vocabulary.servedAs_nil
    {voc : Vocabulary} {start stop : Contents}
    (same : stop.nodes voc.sec.kind = start.nodes voc.sec.kind) (taken : List String)
    (contents : Contents) : voc.ServedAs taken start stop contents [] := by
  refine ⟨[], .nil, ?_⟩
  rw [same]
  exact .done _

/-- The sessions of a dataset are served, wired to what they are offered. -/
theorem seedSessionSection_served
    {vrfId : String} {ids : ShadowIds} {records : Nat} {taken : List String} {sot after : Sot}
    (known : taken ⊆ (client.home sot).mentioned) {before contents : Contents}
    (offers : ∀ session ∈ seededEntries dataset .bgpSessions,
      Offers text dataset before contents ids session)
    (same : SameReferences contents (client.home sot))
    (ran : seedSessionSection client dataset client.defaultBranch vrfId ids sot =
      (.ok records, after)) :
    Evolves client [.routingBGPSession] sot after ∧
    (vocabulary .bgpSessions).ServedAs taken (client.home sot) (client.home after) contents
      (written text order dataset before .bgpSessions) := by
  unfold seedSessionSection at ran
  rcases present : dataset .bgpSessions with _ | sessions
  · rw [present] at ran
    obtain ⟨rfl, rfl⟩ := Program.pure_eq_ok_iff.1 ran
    rw [written, seededEntries_of_absent present]
    exact ⟨Evolves.refl _ sot, Vocabulary.servedAs_nil rfl taken contents⟩
  · rw [present] at ran
    dsimp only at ran
    rw [seedBgpSessions, Program.bind_eq_ok_iff] at ran
    obtain ⟨entries, start, computesEntries, ran⟩ := ran
    obtain ⟨entriesOk, rfl⟩ := compute_eq_ok_iff.1 computesEntries
    rw [Program.bind_eq_ok_iff] at ran
    obtain ⟨_, last, seeded, ran⟩ := ran
    obtain ⟨rfl, rfl⟩ := Program.pure_eq_ok_iff.1 ran
    have isEntries : seededEntries dataset .bgpSessions = entries := by
      rw [seededEntries, present, Option.map_some, entriesOk]
    obtain ⟨evolves, requests, reads, serves⟩ := seedSessions_serves known seeded
    refine ⟨evolves, requests, ?_, serves⟩
    rw [written, isEntries, List.forall₂_map_left_iff]
    have withMembers := (List.forall₂_and_left _ _).2 ⟨fun session member => member, reads⟩
    apply withMembers.imp
    rintro session request ⟨member, read⟩
    rw [← sessionIn_congr same] at read
    exact ⟨realises_of_sessionIn (offers session (isEntries ▸ member)) read,
      keyed_writeSession read⟩

theorem written_of_absent
    {name : SectionName} (isBgp : name ∈ bgpSections) (absent : dataset name = none)
    (before : Contents) : written text order dataset before name = [] := by
  rcases List.mem_cons.1 isBgp with rfl | isSessions
  · rw [written, declaredGroups_of_absent absent]
    rfl
  · obtain rfl := List.mem_singleton.1 isSessions
    rw [written, seededEntries_of_absent absent]
    rfl

/-- Both BGP sections are served, if the addresses that have nodes are the known ones. -/
theorem seedBgp_served
    {records : Nat} {taken : List String} {sot after : Sot}
    (known : taken ⊆ (client.home sot).mentioned) {before : Contents}
    (addresses : ∀ address, (addressRel.node? (client.home sot) address).isSome ↔
      address ∈ knownAddresses dataset before)
    (ran : seedBgp client text order dataset client.defaultBranch sot = (.ok records, after)) :
    Evolves client bgpKinds sot after ∧
    (vocabulary .bgpPeerGroups).ServedAs taken (client.home sot) (client.home after)
      (client.home after) (written text order dataset before .bgpPeerGroups) ∧
    (vocabulary .bgpSessions).ServedAs taken (client.home sot) (client.home after)
      (client.home after) (written text order dataset before .bgpSessions) := by
  unfold seedBgp at ran
  cases empty : (bgpSections.filterMap dataset).isEmpty with
  | true =>
      rw [empty] at ran
      obtain ⟨rfl, rfl⟩ := Program.pure_eq_ok_iff.1 ran
      have absent : ∀ name ∈ bgpSections, dataset name = none :=
        List.filterMap_eq_nil_iff.1 (List.isEmpty_iff.1 empty)
      have noGroups : written text order dataset before .bgpPeerGroups = [] :=
        written_of_absent (by decide) (absent _ (by decide)) before
      have noSessions : written text order dataset before .bgpSessions = [] :=
        written_of_absent (by decide) (absent _ (by decide)) before
      rw [noGroups, noSessions]
      exact ⟨Evolves.refl _ sot, Vocabulary.servedAs_nil rfl _ _,
        Vocabulary.servedAs_nil rfl _ _⟩
  | false =>
      rw [empty, if_neg Bool.false_ne_true, Program.bind_eq_ok_iff] at ran
      obtain ⟨vrfId, start, found, ran⟩ := ran
      obtain ⟨same, -⟩ := getDefaultVrfId_eq_ok found
      rw [Program.bind_eq_ok_iff] at ran
      obtain ⟨shadows, middle, grouped, ran⟩ := ran
      rw [same] at grouped
      rw [Program.bind_eq_ok_iff] at ran
      obtain ⟨sessions, last, seeded, ran⟩ := ran
      obtain ⟨rfl, rfl⟩ := Program.pure_eq_ok_iff.1 ran
      obtain ⟨evolvesGroups, -⟩ := seedPeerGroupSection_settled order grouped
      obtain ⟨evolvesSessions, -⟩ := seedSessionSection_settled Dict.empty seeded
      have whole : Evolves client bgpKinds sot last := by
        apply (evolvesGroups.mono _).trans (evolvesSessions.mono _)
        · simp [bgpKinds]
        · simp [bgpKinds]
      obtain ⟨⟨requests, realised, serves⟩, made, unused⟩ :=
        @seedPeerGroupSection_served client text order dataset vrfId shadows taken sot middle known
          before (client.home last) (whole.others _ (by decide)) grouped
      have sameGroups : (client.home last).nodes .routingBGPPeerGroup =
          (client.home middle).nodes .routingBGPPeerGroup := evolvesSessions.others _ (by decide)
      have sameAddresses : (client.home last).nodes .ipamIPAddress =
          (client.home sot).nodes .ipamIPAddress := whole.others _ (by decide)
      have offers : ∀ session ∈ seededEntries dataset .bgpSessions,
          Offers text dataset before (client.home last) shadows.1 session := by
        intro session member
        constructor
        · intro address
          have same : addressRel.node? (client.home last) address =
              addressRel.node? (client.home sot) address :=
            congrArg (List.find? _) sameAddresses
          rw [same]
          exact addresses address
        · intro group device uses isLocal isDeclared
          obtain ⟨id, isId, node, inNodes, nodeId, hasName⟩ :=
            made session member group device uses isLocal isDeclared
          exact ⟨id, isId, node, sameGroups ▸ inNodes, nodeId, hasName⟩
        · intro group device given undeclared
          apply unused group device
          rintro ⟨truthy, isDeclared⟩
          apply undeclared
          have uses : groupOf session = some group :=
            Option.filter_eq_some_iff.2 ⟨given, truthy⟩
          rw [uses, Option.bind_some]
          exact isDeclared
      obtain ⟨-, sessionRequests, sessionRealised, sessionServes⟩ :=
        @seedSessionSection_served client text order dataset vrfId shadows.1 sessions taken middle
          last (List.Subset.trans known evolvesGroups.mentioned) before (client.home last) offers
          evolvesSessions.references seeded
      refine ⟨whole, ⟨requests, realised, ?_⟩, sessionRequests, sessionRealised, ?_⟩
      · have stop := sameGroups
        change (client.home last).nodes (vocabulary .bgpPeerGroups).sec.kind = _ at stop
        rw [stop]
        exact serves
      · have start : (client.home middle).nodes .routingBGPSession =
            (client.home sot).nodes .routingBGPSession := evolvesGroups.others _ (by decide)
        change (client.home middle).nodes (vocabulary .bgpSessions).sec.kind = _ at start
        rw [start] at sessionServes
        exact sessionServes

end Snapl.Intent
