import Snapl.Intent.SeedSessions

/-!
# Seeding twice

A dataset that has been seeded into the default branch is settled: seeding it
again succeeds, finds the node of every item, copy, session and address, and
leaves the Source of Truth as it was, whatever order the language visits the
devices of a peer group in.
-/

namespace Snapl.Intent

open Snapl.Library SeedIngester

variable {client : InfrahubClient} {text : PyText} {dataset : Dataset}

/-- Validation reads the dataset alone. -/
theorem validate_eq_ok {devices : List Payload} {sot after : Sot}
    (ran : validate devices sot = (.ok (), after)) :
    after = sot ∧ ∀ later, validate devices later = (.ok (), later) := by
  induction devices with
  | nil =>
      obtain ⟨-, rfl⟩ := Program.pure_eq_ok_iff.1 ran
      exact ⟨rfl, fun later => rfl⟩
  | cons device rest induction =>
      unfold validate at ran ⊢
      dsimp only at ran ⊢
      cases complete : (deviceRequiredFields.filter fun field =>
          (device.get? field).isNone).isEmpty with
      | false =>
          rw [complete] at ran
          cases ran
      | true =>
          rw [complete] at ran
          exact induction ran

/-- The namespace is read off the namespaces of the default branch. -/
theorem fetchNamespace_eq_ok
    {devices : List Payload} {namespaceId : Option String} {sot after : Sot}
    (ran : fetchNamespace client dataset devices sot = (.ok namespaceId, after)) :
    after = sot ∧ ∀ later,
      (client.home later).nodes .ipamNamespace = (client.home sot).nodes .ipamNamespace →
      fetchNamespace client dataset devices later = (.ok namespaceId, later) := by
  unfold fetchNamespace at ran ⊢
  cases needs : needsNamespace dataset devices with
  | false =>
      rw [needs] at ran
      obtain ⟨rfl, rfl⟩ := Program.pure_eq_ok_iff.1 ran
      exact ⟨rfl, fun later _ => rfl⟩
  | true =>
      rw [needs, if_pos rfl, Program.bind_eq_ok_iff] at ran
      obtain ⟨id, middle, found, ran⟩ := ran
      obtain ⟨rfl, rfl⟩ := Program.pure_eq_ok_iff.1 ran
      rw [getDefaultNamespaceId, Program.bind_of_ok (client.filters_apply _ _ sot)] at found
      rcases nodes : (client.home sot).matching .ipamNamespace [.value "default" (.bool true)] with
        _ | ⟨node, rest⟩
      · rw [nodes] at found
        cases found
      · rw [nodes] at found
        obtain ⟨rfl, rfl⟩ := Program.pure_eq_ok_iff.1 found
        refine ⟨rfl, ?_⟩
        intro later same
        have again : getDefaultNamespaceId client later = (.ok node.id, later) := by
          rw [getDefaultNamespaceId, Program.bind_of_ok (client.filters_apply _ _ later),
            Contents.matching, same, ← Contents.matching, nodes]
          rfl
        rw [if_pos rfl, Program.bind_of_ok again]
        rfl

theorem getDefaultVrfId_eq_ok {vrfId : String} {sot after : Sot}
    (ran : getDefaultVrfId client sot = (.ok vrfId, after)) :
    after = sot ∧ ∀ later,
      (client.home later).nodes .ipamVRF = (client.home sot).nodes .ipamVRF →
      getDefaultVrfId client later = (.ok vrfId, later) := by
  rw [getDefaultVrfId, Program.bind_of_ok (client.filters_apply _ _ sot)] at ran
  rcases nodes : (client.home sot).matching .ipamVRF [.value "name" (.str "default")] with
    _ | ⟨node, rest⟩
  · rw [nodes] at ran
    cases ran
  · rw [nodes] at ran
    obtain ⟨rfl, rfl⟩ := Program.pure_eq_ok_iff.1 ran
    refine ⟨rfl, ?_⟩
    intro later same
    rw [getDefaultVrfId, Program.bind_of_ok (client.filters_apply _ _ later),
      Contents.matching, same, ← Contents.matching, nodes]
    rfl

/-- Peer groups change copies only, and are settled while their devices stay. -/
theorem seedPeerGroupSection_settled
    {order : SetOrder} (other : SetOrder) {vrfId : String} {shadows : ShadowIds × Nat}
    {sot after : Sot}
    (ran : seedPeerGroupSection client text order dataset client.defaultBranch vrfId sot =
      (.ok shadows, after)) :
    Evolves client [.routingBGPPeerGroup] sot after ∧
    ∀ later,
      (client.home later).nodes .dcimDevice = (client.home after).nodes .dcimDevice →
      (client.home later).nodes .routingBGPPeerGroup =
        (client.home after).nodes .routingBGPPeerGroup →
      ∃ reshadows,
        seedPeerGroupSection client text other dataset client.defaultBranch vrfId later =
          (.ok reshadows, later) ∧
        reshadows.2 = shadows.2 := by
  unfold seedPeerGroupSection at ran ⊢
  rcases present : dataset .bgpPeerGroups with _ | declarations
  · rw [present] at ran
    obtain ⟨rfl, rfl⟩ := Program.pure_eq_ok_iff.1 ran
    exact ⟨Evolves.refl _ sot, fun later _ _ => ⟨_, rfl, rfl⟩⟩
  · rw [present] at ran
    dsimp only at ran ⊢
    rw [seedBgpPeerGroups, Program.bind_eq_ok_iff] at ran
    obtain ⟨sessionEntries, start, computesSessions, ran⟩ := ran
    obtain ⟨sessionsOk, rfl⟩ := compute_eq_ok_iff.1 computesSessions
    rw [Program.bind_eq_ok_iff] at ran
    obtain ⟨devices, start, computesDevices, ran⟩ := ran
    obtain ⟨devicesOk, rfl⟩ := compute_eq_ok_iff.1 computesDevices
    rw [Program.bind_eq_ok_iff] at ran
    obtain ⟨entries, start, computesEntries, ran⟩ := ran
    obtain ⟨entriesOk, rfl⟩ := compute_eq_ok_iff.1 computesEntries
    rw [Program.bind_eq_ok_iff] at ran
    obtain ⟨declared, start, computesDeclared, ran⟩ := ran
    obtain ⟨declaredOk, rfl⟩ := compute_eq_ok_iff.1 computesDeclared
    obtain ⟨evolves, counted, -⟩ := @seedGroups_serves client text order vrfId devices
      declared.entries (Dict.empty, 0) shadows [] sot after (List.nil_subset _) ran
    refine ⟨evolves, ?_⟩
    intro later sameDevices sameGroups
    obtain ⟨last, again, recounted⟩ :=
      seedGroups_settled other ran sameDevices sameGroups (Dict.empty, 0)
    refine ⟨last, ?_, recounted.trans counted.symm⟩
    rw [seedBgpPeerGroups, Program.bind_of_ok (compute_of_ok sessionsOk later),
      Program.bind_of_ok (compute_of_ok devicesOk later),
      Program.bind_of_ok (compute_of_ok entriesOk later),
      Program.bind_of_ok (compute_of_ok declaredOk later)]
    exact again

/-- Sessions change sessions only, and are settled. -/
theorem seedSessionSection_settled
    {vrfId : String} {ids : ShadowIds} (other : ShadowIds) {records : Nat} {sot after : Sot}
    (ran : seedSessionSection client dataset client.defaultBranch vrfId ids sot =
      (.ok records, after)) :
    Evolves client [.routingBGPSession] sot after ∧
    seedSessionSection client dataset client.defaultBranch vrfId other after =
      (.ok records, after) := by
  unfold seedSessionSection at ran ⊢
  rcases present : dataset .bgpSessions with _ | sessions
  · rw [present] at ran
    obtain ⟨rfl, rfl⟩ := Program.pure_eq_ok_iff.1 ran
    exact ⟨Evolves.refl _ sot, rfl⟩
  · rw [present] at ran
    dsimp only at ran ⊢
    rw [seedBgpSessions, Program.bind_eq_ok_iff] at ran
    obtain ⟨entries, start, computesEntries, ran⟩ := ran
    obtain ⟨entriesOk, rfl⟩ := compute_eq_ok_iff.1 computesEntries
    rw [Program.bind_eq_ok_iff] at ran
    obtain ⟨_, last, seeded, ran⟩ := ran
    obtain ⟨rfl, rfl⟩ := Program.pure_eq_ok_iff.1 ran
    obtain ⟨evolves, -⟩ := @seedSessions_serves client vrfId ids entries [] sot last
      (List.nil_subset _) seeded
    have settled := seedSessions_settled other seeded ⟨rfl, rfl, rfl⟩ rfl
    refine ⟨evolves, ?_⟩
    rw [seedBgpSessions, Program.bind_of_ok (compute_of_ok entriesOk last),
      Program.bind_of_ok settled]
    rfl

/-- The BGP sections change copies and sessions only, and are settled. -/
theorem seedBgp_settled
    {order : SetOrder} (other : SetOrder) {records : Nat} {sot after : Sot}
    (ran : seedBgp client text order dataset client.defaultBranch sot = (.ok records, after)) :
    Evolves client bgpKinds sot after ∧
    seedBgp client text other dataset client.defaultBranch after = (.ok records, after) := by
  unfold seedBgp at ran ⊢
  cases none : (bgpSections.filterMap dataset).isEmpty with
  | true =>
      rw [none] at ran
      obtain ⟨rfl, rfl⟩ := Program.pure_eq_ok_iff.1 ran
      exact ⟨Evolves.refl _ sot, rfl⟩
  | false =>
      rw [none, if_neg Bool.false_ne_true, Program.bind_eq_ok_iff] at ran
      obtain ⟨vrfId, start, found, ran⟩ := ran
      obtain ⟨rfl, foundAgain⟩ := getDefaultVrfId_eq_ok found
      rw [Program.bind_eq_ok_iff] at ran
      obtain ⟨shadows, middle, grouped, ran⟩ := ran
      rw [Program.bind_eq_ok_iff] at ran
      obtain ⟨sessions, last, seeded, ran⟩ := ran
      obtain ⟨rfl, rfl⟩ := Program.pure_eq_ok_iff.1 ran
      obtain ⟨evolves, settled⟩ := seedPeerGroupSection_settled other grouped
      obtain ⟨evolvesSessions, -⟩ := seedSessionSection_settled Dict.empty seeded
      have whole : Evolves client bgpKinds start last := by
        apply (evolves.mono _).trans (evolvesSessions.mono _)
        · simp [bgpKinds]
        · simp [bgpKinds]
      obtain ⟨reshadows, regrouped, recounted⟩ := settled last
        (evolvesSessions.others _ (by decide)) (evolvesSessions.others _ (by decide))
      obtain ⟨-, reseeded⟩ := seedSessionSection_settled reshadows.1 seeded
      refine ⟨whole, ?_⟩
      rw [if_neg Bool.false_ne_true,
        Program.bind_of_ok (foundAgain last (whole.others _ (by decide))),
        Program.bind_of_ok regrouped, Program.bind_of_ok reseeded, recounted]
      rfl

/-- Updates create no device, and count the device items of each pass over the section. -/
theorem settled_devices
    {devices : List Payload} (items : deviceItems dataset = .ok devices)
    (names : List SectionName) (tally : Tally) :
    (tally.settled dataset names).devicesCreated = tally.devicesCreated ∧
    (tally.settled dataset names).devicesUpdated =
      tally.devicesUpdated + names.count .devices * devices.length := by
  induction names generalizing tally with
  | nil => simp [Tally.settled]
  | cons name rest induction =>
      by_cases isDevices : name = .devices
      · subst isDevices
        rw [List.count_cons_self, Tally.settled, if_neg (by decide)]
        rcases present : dataset .devices with _ | value
        · rw [deviceItems, present] at items
          cases items
          obtain ⟨created, updated⟩ := induction tally
          refine ⟨created, updated.trans ?_⟩
          simp
        · rw [deviceItems, present, Option.getD_some] at items
          rw [Option.map_some, items]
          obtain ⟨created, updated⟩ := induction (tally.updatedBy .devices devices.length)
          have counted : (tally.updatedBy .devices devices.length).devicesUpdated =
              tally.devicesUpdated + devices.length := rfl
          refine ⟨created, updated.trans ?_⟩
          rw [counted, Nat.add_mul, Nat.one_mul]
          omega
      · rw [List.count_cons_of_ne (Ne.symm (Ne.symm isDevices)), Tally.settled]
        split_ifs
        · exact induction tally
        · rcases (dataset name).map (itemsForSection (sections name)) with _ | _ | items
          · exact induction tally
          · exact induction tally
          · obtain ⟨created, updated⟩ := induction (tally.updatedBy name items.length)
            refine ⟨created, updated.trans ?_⟩
            rw [Tally.updatedBy, if_neg isDevices]

/--
Seeding a dataset into the default branch again succeeds, leaves the Source of
Truth as the first seed left it, counts every device item as an update and no
device as new, and reports the same number of records.
-/
theorem seed_twice
    (client : InfrahubClient) (text : PyText) (order other : SetOrder) (useCase : String)
    (dataset : Dataset) (sot after : Sot) (result : SeedResult)
    (first : seed client text order useCase dataset client.defaultBranch sot =
      (.ok result, after)) :
    ∃ again devices,
      seed client text other useCase dataset client.defaultBranch after = (.ok again, after) ∧
      deviceItems dataset = .ok devices ∧
      again.devicesCreated = 0 ∧
      again.devicesUpdated = devices.length ∧
      again.totalRecords = result.totalRecords := by
  rw [seed, Program.bind_eq_ok_iff] at first
  obtain ⟨devices, start, computesDevices, first⟩ := first
  obtain ⟨devicesOk, rfl⟩ := compute_eq_ok_iff.1 computesDevices
  rw [Program.bind_eq_ok_iff] at first
  obtain ⟨_, start, validates, first⟩ := first
  obtain ⟨rfl, valid⟩ := validate_eq_ok validates
  rw [Program.bind_eq_ok_iff] at first
  obtain ⟨namespaceId, start, fetches, first⟩ := first
  obtain ⟨rfl, fetched⟩ := fetchNamespace_eq_ok fetches
  rw [Program.bind_eq_ok_iff] at first
  obtain ⟨tally, middle, sectioned, first⟩ := first
  rw [Program.bind_eq_ok_iff] at first
  obtain ⟨records, last, bgp, first⟩ := first
  obtain ⟨rfl, rfl⟩ := Program.pure_eq_ok_iff.1 first
  obtain ⟨evolves, counted⟩ := seedSections_evolves sectioned
  obtain ⟨evolvesBgp, bgpAgain⟩ := seedBgp_settled other bgp
  have namespaces : (client.home last).nodes .ipamNamespace =
      (client.home start).nodes .ipamNamespace :=
    (evolvesBgp.others _ (by decide)).trans (evolves.others _ (by decide))
  have sectionsAgain := seedSections_settled seedOrder_independent sectioned
    (fun kind notBgp _ => evolvesBgp.others kind notBgp) evolvesBgp.addresses ⟨0, 0, 0⟩
  obtain ⟨created, updated⟩ := settled_devices devicesOk seedOrder ⟨0, 0, 0⟩
  refine ⟨⟨useCase, (Tally.settled dataset seedOrder ⟨0, 0, 0⟩).devicesCreated,
    (Tally.settled dataset seedOrder ⟨0, 0, 0⟩).devicesUpdated,
    (Tally.settled dataset seedOrder ⟨0, 0, 0⟩).totalRecords + records, client.defaultBranch⟩,
    devices, ?_, devicesOk, created, ?_, ?_⟩
  · rw [seed, Program.bind_of_ok (compute_of_ok devicesOk last), Program.bind_of_ok (valid last),
      Program.bind_of_ok (fetched last namespaces), Program.bind_of_ok sectionsAgain,
      Program.bind_of_ok bgpAgain]
    rfl
  · have once : seedOrder.count .devices = 1 := by decide
    rw [once, Nat.one_mul, Nat.zero_add] at updated
    exact updated
  · exact congrArg (· + records) counted.symm

theorem length_le_foldr_max {id : String} {taken : List String} (member : id ∈ taken) :
    id.length ≤ (taken.map String.length).foldr max 0 := by
  induction taken with
  | nil => cases member
  | cons first rest induction =>
      rw [List.map_cons, List.foldr_cons]
      rcases List.mem_cons.1 member with rfl | later
      · exact Nat.le_max_left _ _
      · exact (induction later).trans (Nat.le_max_right _ _)

/-- A server that names a node by a text longer than every text it has seen. -/
def labClient : InfrahubClient where
  defaultBranch := "main"
  newId taken :=
    String.ofList (List.replicate ((taken.map String.length).foldr max 0 + 1) 'n')
  newId_fresh taken member := by
    have bound := length_le_foldr_max member
    rw [String.length_ofList, List.length_replicate] at bound
    exact Nat.not_succ_le_self _ bound
  deletion contents _ _ := .ok contents

/-- Sets visited in the order they were filled. -/
def insertionOrder : SetOrder := ⟨id, fun elements => List.Perm.refl elements⟩

/-- A branch with the default namespace and nothing else. -/
def bareContents : Contents where
  nodes kind :=
    if kind = .ipamNamespace then
      [⟨"ns", fun field => if field = "default" then .bool true else .null, fun _ => []⟩]
    else []
  distinct kind := by
    by_cases isNamespace : kind = .ipamNamespace
    · simp [isNamespace]
    · simp [isNamespace]

/-- One device with an interface and a session. -/
def labDataset : Dataset
  | .location => some (.item (Dict.ofPairs [("name", .str "Lab"), ("shortname", .str "lab")]))
  | .deviceTypes => some (.items [Dict.ofPairs [("name", .str "D3")]])
  | .autonomousSystems =>
      some (.items [Dict.ofPairs [("name", .str "spine AS"), ("asn", .int 65000)]])
  | .vrfs => some (.items [Dict.ofPairs [("name", .str "default")]])
  | .devices => some (.items [Dict.ofPairs
      [("name", .str "spine"), ("role", .str "spine"), ("use_case", .str "dcfabric"),
        ("device_type", .str "D3"), ("location", .str "lab"), ("asn", .int 65000),
        ("management_ip", .str "10.0.0.1/24")]])
  | .interfaces => some (.items [Dict.ofPairs
      [("device", .str "spine"), ("name", .str "ethernet-1/1"),
        ("ip_address", .str "10.10.1.0/31")]])
  | .bgpPeerGroups => some (.items [Dict.ofPairs [("name", .str "underlay")]])
  | .bgpSessions => some (.items [Dict.ofPairs
      [("description", .str "spine to leaf"), ("local_device", .str "spine"),
        ("local_as", .int 65000), ("local_ip", .str "10.10.1.0/31"),
        ("peer_group", .str "underlay")]])
  | _ => none

/-- The first seed of the lab, on branches that are bare. -/
def labSeed : Except IntentError SeedResult × Sot :=
  seed labClient .ascii insertionOrder "dcfabric" labDataset labClient.defaultBranch
    fun _ => bareContents

theorem lab_seeded_twice :
    ∃ again, seed labClient .ascii insertionOrder "dcfabric" labDataset labClient.defaultBranch
        labSeed.2 = (.ok again, labSeed.2) ∧
      again.devicesCreated = 0 ∧ again.devicesUpdated = 1 ∧ again.totalRecords = 8 := by
  have first : labSeed.1 = .ok ⟨"dcfabric", 1, 0, 8, "main"⟩ := by
    decide +kernel
  have whole : labSeed = (.ok ⟨"dcfabric", 1, 0, 8, "main"⟩, labSeed.2) := by
    rw [← first]
  rw [labSeed] at whole
  obtain ⟨again, devices, ran, items, created, updated, records⟩ :=
    seed_twice _ _ _ insertionOrder _ _ _ _ _ whole
  have length : devices.length = 1 := by
    have known : (deviceItems labDataset).map List.length = .ok 1 := by decide +kernel
    rw [items] at known
    exact Except.ok.inj known
  rw [labSeed]
  exact ⟨again, ran, created, updated.trans length, records⟩

end Snapl.Intent
