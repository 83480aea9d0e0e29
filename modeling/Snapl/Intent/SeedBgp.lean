import Snapl.Intent.SeedSections
import Snapl.Library.Fallible

/-!
# BGP sections of the seed

The copies of a peer group and the sessions are upserted like items, after the
payload has been read off the nodes that are there.  The copies of one group are
made in whatever order the language visits a set; two of them either have
different names or write the same.
-/

namespace Snapl.Intent

open Snapl.Library SeedIngester

variable {client : InfrahubClient} {text : PyText}

/-! ## Reading before an upsert -/

/-- The device of a name, or the problem. -/
def deviceIn (contents : Contents) (name : Json) (problem : ValidationProblem) :
    Except IntentError String :=
  match contents.matching .dcimDevice [.value "name" name] with
  | [] => .error (.validation problem)
  | peer :: _ => .ok peer.id

theorem requireDevice_eq (name : Json) (problem : ValidationProblem) (sot : Sot) :
    requireDevice client name problem sot = (deviceIn (client.home sot) name problem, sot) := by
  rw [requireDevice, Program.bind_of_ok (client.filters_apply _ _ sot), deviceIn]
  rcases (client.home sot).matching .dcimDevice [.value "name" name] with _ | ⟨peer, rest⟩ <;> rfl

theorem deviceIn_congr {contents other : Contents}
    (same : contents.nodes .dcimDevice = other.nodes .dcimDevice) (name : Json)
    (problem : ValidationProblem) : deviceIn contents name problem = deviceIn other name problem := by
  rw [deviceIn, deviceIn, Contents.matching, Contents.matching, same]

/-- The computation, with the language's exceptions as the operation's. -/
def raised {Result : Type} (value : Except PyError Result) : Except IntentError Result :=
  value.mapError .python

/-! ## Copies of peer groups -/

/-- The payload of the copy of a peer group on a device. -/
def shadowIn (text : PyText) (vrfId : String) (contents : Contents)
    (group : Json) (declaration : Payload) (device : Json) : Except IntentError Payload := do
  let deviceId ← deviceIn contents device (.shadowDevice device)
  raised (shadowPayload text group declaration device deviceId vrfId)

theorem shadowIn_congr {contents other : Contents}
    (same : contents.nodes .dcimDevice = other.nodes .dcimDevice) (vrfId : String) (group : Json)
    (declaration : Payload) (device : Json) :
    shadowIn text vrfId contents group declaration device =
      shadowIn text vrfId other group declaration device := by
  rw [shadowIn, shadowIn, deviceIn_congr same]

theorem copyFields_of_not_mem
    (record : Payload) {fields : List String} {field : String} (outside : field ∉ fields)
    (payload : Payload) : (copyFields record fields payload).get? field = payload.get? field := by
  rw [copyFields]
  induction fields generalizing payload with
  | nil => rfl
  | cons first rest induction =>
      rw [List.mem_cons, not_or] at outside
      rw [List.foldl_cons, induction outside.2]
      rcases record.get? first with _ | value
      · rfl
      · exact Dict.get?_set_of_ne payload value outside.1

theorem copyFields_congr
    (record : Payload) (fields : List String) {payload other : Payload} {field : String}
    (same : payload.get? field = other.get? field) :
    (copyFields record fields payload).get? field =
      (copyFields record fields other).get? field := by
  rw [copyFields, copyFields]
  induction fields generalizing payload other with
  | nil => exact same
  | cons first rest induction =>
      rw [List.foldl_cons, List.foldl_cons]
      apply induction
      rcases record.get? first with _ | value
      · exact same
      · by_cases isFirst : field = first
        · subst isFirst
          rw [Dict.get?_set_self, Dict.get?_set_self]
        · rw [Dict.get?_set_of_ne _ _ isFirst, Dict.get?_set_of_ne _ _ isFirst]
          exact same

/-- The texts a copy's payload is made of. -/
theorem shadowPayload_eq_ok_iff
    {group : Json} {declaration : Payload} {device : Json} {deviceId vrfId : String}
    {payload : Payload} :
    shadowPayload text group declaration device deviceId vrfId = .ok payload ↔
      ∃ groupText deviceText description, text.str group = .ok groupText ∧
        text.str device = .ok deviceText ∧
        text.str ((declaration.get? "description").getD group) = .ok description ∧
        payload = copyFields declaration shadowAttributes (Dict.ofPairs
          [("name", .str (groupText ++ "@" ++ deviceText)),
            ("description", .str (description ++ " (" ++ deviceText ++ ")")),
            ("status", (declaration.get? "status").getD (.str "active")),
            ("device", .str deviceId),
            ("vrf", .str vrfId)]) := by
  rw [shadowPayload, shadowName]
  rcases text.str group with _ | groupText
  · simp [error_bind]
  rcases text.str device with _ | deviceText
  · simp [error_bind, ok_bind]
  rcases text.str ((declaration.get? "description").getD group) with _ | description
  · simp [error_bind, ok_bind]
  · simp only [ok_bind, Except.ok.injEq]
    constructor
    · intro same
      exact ⟨groupText, deviceText, description, rfl, rfl, rfl, same.symm⟩
    · rintro ⟨_, _, _, rfl, rfl, rfl, same⟩
      exact same.symm

theorem shadowIn_eq_ok_iff
    {vrfId : String} {contents : Contents} {group : Json} {declaration : Payload}
    {device : Json} {payload : Payload} :
    shadowIn text vrfId contents group declaration device = .ok payload ↔
      ∃ deviceId, deviceIn contents device (.shadowDevice device) = .ok deviceId ∧
        shadowPayload text group declaration device deviceId vrfId = .ok payload := by
  rw [shadowIn, bind_eq_ok]
  apply exists_congr
  intro deviceId
  rw [raised]
  rcases shadowPayload text group declaration device deviceId vrfId with error | other
  · simp [Except.mapError]
  · simp [Except.mapError]

/-- The name of a copy is what it is looked up by. -/
theorem shadow_lookup
    {group : Json} {declaration : Payload} {device : Json} {deviceId vrfId : String}
    {payload : Payload}
    (made : shadowPayload text group declaration device deviceId vrfId = .ok payload) :
    ∃ name, shadowName text group device = .ok name ∧
      payload.get? "name" = some (.str name) ∧
      lookupFilters (sections .bgpPeerGroups) payload = [.value "name" (.str name)] := by
  obtain ⟨groupText, deviceText, description, isGroup, isDevice, -, rfl⟩ :=
    shadowPayload_eq_ok_iff.1 made
  have named : (copyFields declaration shadowAttributes (Dict.ofPairs
      [("name", .str (groupText ++ "@" ++ deviceText)),
        ("description", .str (description ++ " (" ++ deviceText ++ ")")),
        ("status", (declaration.get? "status").getD (.str "active")),
        ("device", .str deviceId), ("vrf", .str vrfId)])).get? "name" =
      some (.str (groupText ++ "@" ++ deviceText)) := by
    rw [copyFields_of_not_mem _ (by simp [shadowAttributes])]
    simp [Dict.ofPairs, Dict.update, Dict.get?_set_of_ne]
  refine ⟨groupText ++ "@" ++ deviceText, ?_, named, ?_⟩
  · rw [shadowName, isGroup, isDevice]
    rfl
  · rw [lookupFilters, sections, List.filterMap_cons_some (by rw [named]; rfl),
      List.filterMap_nil, lookupFilter]
    rfl

theorem keyed_peerGroups : (sections .bgpPeerGroups).Keyed where
  attributes := by simp [sections, Kind.attributes]
  relationships := by simp [sections]
  notAddress := by simp [sections]

/-- The upsert of a copy: the payload is read, then upserted. -/
theorem seedShadow_eq
    (branch vrfId : String) (group : Json) (declaration : Payload) (device : Json) (sot : Sot) :
    seedShadow client text branch vrfId group declaration device sot =
      match shadowIn text vrfId (client.home sot) group declaration device with
      | .error failure => (.error failure, sot)
      | .ok payload => ((do
          let outcome ← upsertNode client (sections .bgpPeerGroups).kind
            (lookupFilters (sections .bgpPeerGroups) payload) payload branch
          pure outcome.1) : SotProgram String) sot := by
  rw [seedShadow, shadowIn]
  have reads := @requireDevice_eq client device (.shadowDevice device) sot
  rcases found : deviceIn (client.home sot) device (.shadowDevice device) with failure | deviceId
  · rw [found] at reads
    rw [Program.bind_of_error reads]
    rfl
  · rw [found] at reads
    rw [Program.bind_of_ok reads, ok_bind]
    rcases made : shadowPayload text group declaration device deviceId vrfId with failure | payload
    · have fails : compute (.error failure : Except PyError Payload) sot =
          (.error (.python failure), sot) := rfl
      rw [Program.bind_of_error fails]
      rfl
    · obtain ⟨name, named, -, filters⟩ := shadow_lookup made
      rw [Program.bind_of_ok (compute_of_ok rfl sot), Program.bind_of_ok (compute_of_ok named sot),
        ← filters]
      rfl

/-- The copy of a group is served as one request. -/
theorem seedShadow_serves
    {vrfId : String} {group : Json} {declaration : Payload} {device : Json}
    {taken : List String} {sot after : Sot} {id : String}
    (known : taken ⊆ (client.home sot).mentioned)
    (ran : seedShadow client text client.defaultBranch vrfId group declaration device sot =
      (.ok id, after)) :
    Evolves client [.routingBGPPeerGroup] sot after ∧
    ∃ payload, shadowIn text vrfId (client.home sot) group declaration device = .ok payload ∧
      (sections .bgpPeerGroups).upserting.Serves ((sections .bgpPeerGroups).Made taken)
        [payload] ((client.home sot).nodes .routingBGPPeerGroup)
        ((client.home after).nodes .routingBGPPeerGroup) := by
  rw [seedShadow_eq] at ran
  rcases read : shadowIn text vrfId (client.home sot) group declaration device with
    failure | payload
  · rw [read] at ran
    cases ran
  · rw [read] at ran
    dsimp only at ran
    rw [Program.bind_eq_ok_iff] at ran
    obtain ⟨outcome, last, upserts, ran⟩ := ran
    obtain ⟨-, rfl⟩ := Program.pure_eq_ok_iff.1 ran
    have resolved : ∀ key ∈ (sections .bgpPeerGroups).lookupRelFields, ∀ value,
        payload.get? key = some value → ∃ id, value = .str id := by
      intro key member
      cases member
    obtain ⟨evolves, serves⟩ := upsertNode_serves keyed_peerGroups resolved known upserts
    exact ⟨evolves, payload, rfl, serves⟩

/-- A copy that is there is written to. -/
theorem seedShadow_again
    {vrfId : String} {group : Json} {declaration : Payload} {device : Json} {sot : Sot}
    {payload : Payload}
    (read : shadowIn text vrfId (client.home sot) group declaration device = .ok payload)
    (present : (sections .bgpPeerGroups).upserting.Present payload
      ((client.home sot).nodes .routingBGPPeerGroup)) :
    ∃ id after,
      seedShadow client text client.defaultBranch vrfId group declaration device sot =
        (.ok id, after) ∧
      Evolves client [.routingBGPPeerGroup] sot after ∧
      (client.home after).nodes .routingBGPPeerGroup =
        (sections .bgpPeerGroups).upserting.writeFirst payload
          ((client.home sot).nodes .routingBGPPeerGroup) := by
  obtain ⟨id, after, upserts, evolves, nodes⟩ :=
    upsertNode_present keyed_peerGroups present client.defaultBranch
  refine ⟨id, after, ?_, evolves, nodes⟩
  rw [seedShadow_eq, read]
  dsimp only
  rw [Program.bind_of_ok upserts]
  rfl

/-- The requests the copies of a group on some devices come down to. -/
def shadowRequests (text : PyText) (vrfId : String) (contents : Contents) (group : Json)
    (declaration : Payload) (devices : List Json) : List Payload :=
  devices.filterMap fun device => (shadowIn text vrfId contents group declaration device).toOption

/-- Every copy of the group on the devices can be read. -/
def Readable (text : PyText) (vrfId : String) (contents : Contents) (group : Json)
    (declaration : Payload) (devices : List Json) : Prop :=
  ∀ device ∈ devices, ∃ payload,
    shadowIn text vrfId contents group declaration device = .ok payload

theorem Evolves.devices {sot after : Sot} (evolves : Evolves client [.routingBGPPeerGroup] sot after) :
    (client.home after).nodes .dcimDevice = (client.home sot).nodes .dcimDevice := by
  apply evolves.others
  decide

theorem shadowRequests_congr {contents other : Contents}
    (same : contents.nodes .dcimDevice = other.nodes .dcimDevice) (vrfId : String)
    (group : Json) (declaration : Payload) (devices : List Json) :
    shadowRequests text vrfId contents group declaration devices =
      shadowRequests text vrfId other group declaration devices := by
  rw [shadowRequests, shadowRequests]
  simp only [shadowIn_congr same]

theorem readable_congr {contents other : Contents}
    (same : contents.nodes .dcimDevice = other.nodes .dcimDevice) (vrfId : String)
    (group : Json) (declaration : Payload) (devices : List Json) :
    Readable text vrfId contents group declaration devices ↔
      Readable text vrfId other group declaration devices := by
  rw [Readable, Readable]
  simp only [shadowIn_congr same]

theorem shadowRequests_cons
    {vrfId : String} {contents : Contents} {group : Json} {declaration : Payload}
    {device : Json} {payload : Payload}
    (read : shadowIn text vrfId contents group declaration device = .ok payload)
    (rest : List Json) :
    shadowRequests text vrfId contents group declaration (device :: rest) =
      payload :: shadowRequests text vrfId contents group declaration rest := by
  rw [shadowRequests, List.filterMap_cons_some (by rw [read]; rfl)]
  rfl

/-- The copies of a group are served in the order the devices are visited. -/
theorem seedShadows_serves
    {vrfId : String} {group : Json} {declaration : Payload} {devices : List Json}
    {progress final : ShadowIds × Nat} {taken : List String} {sot after : Sot}
    (known : taken ⊆ (client.home sot).mentioned)
    (ran : seedShadows client text client.defaultBranch vrfId group declaration devices
      progress sot = (.ok final, after)) :
    Evolves client [.routingBGPPeerGroup] sot after ∧
    final.2 = progress.2 + devices.length ∧
    Readable text vrfId (client.home sot) group declaration devices ∧
    (sections .bgpPeerGroups).upserting.Serves ((sections .bgpPeerGroups).Made taken)
      (shadowRequests text vrfId (client.home sot) group declaration devices)
      ((client.home sot).nodes .routingBGPPeerGroup)
      ((client.home after).nodes .routingBGPPeerGroup) := by
  induction devices generalizing progress sot with
  | nil =>
      obtain ⟨rfl, rfl⟩ := Program.pure_eq_ok_iff.1 ran
      exact ⟨Evolves.refl _ sot, rfl, fun _ member => absurd member List.not_mem_nil, .done _⟩
  | cons device rest induction =>
      obtain ⟨ids, count⟩ := progress
      rw [seedShadows, Program.bind_eq_ok_iff] at ran
      obtain ⟨id, middle, first, ran⟩ := ran
      obtain ⟨evolves, payload, read, serves⟩ := seedShadow_serves known first
      obtain ⟨evolvesRest, counted, readable, servesRest⟩ :=
        induction (List.Subset.trans known evolves.mentioned) ran
      refine ⟨evolves.trans evolvesRest, ?_, ?_, ?_⟩
      · rw [counted, List.length_cons]
        omega
      · intro other member
        rcases List.mem_cons.1 member with rfl | member
        · exact ⟨payload, read⟩
        · exact (readable_congr evolves.devices vrfId group declaration rest).1 readable other member
      · rw [shadowRequests_cons read, ← shadowRequests_congr evolves.devices]
        exact serves.append servesRest

/-- Copies that are all there are written to in the order the devices are visited. -/
theorem seedShadows_again
    {vrfId : String} {group : Json} {declaration : Payload} {devices : List Json} {sot : Sot}
    (readable : Readable text vrfId (client.home sot) group declaration devices)
    (present : ∀ request ∈ shadowRequests text vrfId (client.home sot) group declaration devices,
      (sections .bgpPeerGroups).upserting.Present request
        ((client.home sot).nodes .routingBGPPeerGroup))
    (progress : ShadowIds × Nat) :
    ∃ final after,
      seedShadows client text client.defaultBranch vrfId group declaration devices progress sot =
        (.ok final, after) ∧
      final.2 = progress.2 + devices.length ∧
      Evolves client [.routingBGPPeerGroup] sot after ∧
      (client.home after).nodes .routingBGPPeerGroup =
        (sections .bgpPeerGroups).upserting.replay
          (shadowRequests text vrfId (client.home sot) group declaration devices)
          ((client.home sot).nodes .routingBGPPeerGroup) := by
  induction devices generalizing progress sot with
  | nil => exact ⟨progress, sot, rfl, rfl, Evolves.refl _ sot, rfl⟩
  | cons device rest induction =>
      obtain ⟨ids, count⟩ := progress
      obtain ⟨payload, read⟩ := readable device List.mem_cons_self
      rw [shadowRequests_cons read] at present ⊢
      obtain ⟨id, middle, first, evolves, nodes⟩ :=
        seedShadow_again read (present payload List.mem_cons_self)
      have same := @shadowRequests_congr text _ _ evolves.devices vrfId group declaration rest
      have readableRest : Readable text vrfId (client.home middle) group declaration rest := by
        apply (readable_congr evolves.devices vrfId group declaration rest).2
        intro other member
        exact readable other (List.mem_cons_of_mem device member)
      have presentRest : ∀ request ∈
          shadowRequests text vrfId (client.home middle) group declaration rest,
          (sections .bgpPeerGroups).upserting.Present request
            ((client.home middle).nodes .routingBGPPeerGroup) := by
        intro request member
        rw [same] at member
        rw [nodes, Upserting.present_writeFirst]
        exact present request (List.mem_cons_of_mem payload member)
      obtain ⟨final, after, ran, counted, evolvesRest, replayed⟩ :=
        induction readableRest presentRest
          (ids.set group (((ids.get? group).getD Dict.empty).set device id), count + 1)
      refine ⟨final, after, ?_, ?_, evolves.trans evolvesRest, ?_⟩
      · rw [seedShadows, Program.bind_of_ok first]
        exact ran
      · rw [counted, List.length_cons]
        omega
      · rw [replayed, same, nodes, Upserting.replay_cons]

/-! ## All peer groups -/

/-- The devices of a group in the order they are visited. -/
def visited (order : SetOrder) (devices : Dict Json (List Json)) (group : Json) : List Json :=
  order.iterate ((devices.get? group).getD [])

/-- The requests all peer groups come down to. -/
def groupRequests (text : PyText) (order : SetOrder) (vrfId : String) (contents : Contents)
    (devices : Dict Json (List Json)) (groups : List (Json × Payload)) : List Payload :=
  groups.flatMap fun group =>
    shadowRequests text vrfId contents group.1 group.2 (visited order devices group.1)

/-- How many copies the peer groups have. -/
def copies (devices : Dict Json (List Json)) (groups : List (Json × Payload)) : Nat :=
  (groups.map fun group => ((devices.get? group.1).getD []).length).sum

theorem copies_cons (devices : Dict Json (List Json)) (group : Json) (declaration : Payload)
    (rest : List (Json × Payload)) :
    copies devices ((group, declaration) :: rest) =
      ((devices.get? group).getD []).length + copies devices rest := rfl

theorem length_visited (order : SetOrder) (devices : Dict Json (List Json)) (group : Json) :
    (visited order devices group).length = ((devices.get? group).getD []).length :=
  (order.iterate_perm _).length_eq

theorem groupRequests_congr {contents other : Contents}
    (same : contents.nodes .dcimDevice = other.nodes .dcimDevice) (order : SetOrder)
    (vrfId : String) (devices : Dict Json (List Json)) (groups : List (Json × Payload)) :
    groupRequests text order vrfId contents devices groups =
      groupRequests text order vrfId other devices groups := by
  rw [groupRequests, groupRequests]
  simp only [shadowRequests_congr same]

/-- The copies of all groups are served in order. -/
theorem seedGroups_serves
    {order : SetOrder} {vrfId : String} {devices : Dict Json (List Json)}
    {groups : List (Json × Payload)} {progress final : ShadowIds × Nat} {taken : List String}
    {sot after : Sot} (known : taken ⊆ (client.home sot).mentioned)
    (ran : seedGroups client text order client.defaultBranch vrfId devices groups progress sot =
      (.ok final, after)) :
    Evolves client [.routingBGPPeerGroup] sot after ∧
    final.2 = progress.2 + copies devices groups ∧
    (∀ group ∈ groups, Readable text vrfId (client.home sot) group.1 group.2
      (visited order devices group.1)) ∧
    (sections .bgpPeerGroups).upserting.Serves ((sections .bgpPeerGroups).Made taken)
      (groupRequests text order vrfId (client.home sot) devices groups)
      ((client.home sot).nodes .routingBGPPeerGroup)
      ((client.home after).nodes .routingBGPPeerGroup) := by
  induction groups generalizing progress sot with
  | nil =>
      obtain ⟨rfl, rfl⟩ := Program.pure_eq_ok_iff.1 ran
      exact ⟨Evolves.refl _ sot, rfl, fun _ member => absurd member List.not_mem_nil, .done _⟩
  | cons entry rest induction =>
      obtain ⟨group, declaration⟩ := entry
      rw [seedGroups, Program.bind_eq_ok_iff] at ran
      obtain ⟨next, middle, first, ran⟩ := ran
      obtain ⟨evolves, counted, readable, serves⟩ := seedShadows_serves known first
      obtain ⟨evolvesRest, countedRest, readableRest, servesRest⟩ :=
        induction (List.Subset.trans known evolves.mentioned) ran
      refine ⟨evolves.trans evolvesRest, ?_, ?_, ?_⟩
      · have length := length_visited order devices group
        rw [visited] at length
        rw [countedRest, counted, copies_cons, length]
        omega
      · intro other member
        rcases List.mem_cons.1 member with rfl | member
        · exact readable
        · exact (readable_congr evolves.devices vrfId other.1 other.2 _).1
            (readableRest other member)
      · rw [groupRequests, List.flatMap_cons]
        rw [groupRequests_congr evolves.devices] at servesRest
        exact serves.append servesRest

/-- Copies that are all there are written to, group by group. -/
theorem seedGroups_again
    {order : SetOrder} {vrfId : String} {devices : Dict Json (List Json)}
    {groups : List (Json × Payload)} {sot : Sot}
    (readable : ∀ group ∈ groups, Readable text vrfId (client.home sot) group.1 group.2
      (visited order devices group.1))
    (present : ∀ request ∈ groupRequests text order vrfId (client.home sot) devices groups,
      (sections .bgpPeerGroups).upserting.Present request
        ((client.home sot).nodes .routingBGPPeerGroup))
    (progress : ShadowIds × Nat) :
    ∃ final after,
      seedGroups client text order client.defaultBranch vrfId devices groups progress sot =
        (.ok final, after) ∧
      final.2 = progress.2 + copies devices groups ∧
      Evolves client [.routingBGPPeerGroup] sot after ∧
      (client.home after).nodes .routingBGPPeerGroup =
        (sections .bgpPeerGroups).upserting.replay
          (groupRequests text order vrfId (client.home sot) devices groups)
          ((client.home sot).nodes .routingBGPPeerGroup) := by
  induction groups generalizing progress sot with
  | nil => exact ⟨progress, sot, rfl, rfl, Evolves.refl _ sot, rfl⟩
  | cons entry rest induction =>
      obtain ⟨group, declaration⟩ := entry
      rw [groupRequests, List.flatMap_cons] at present ⊢
      obtain ⟨next, middle, first, counted, evolves, nodes⟩ :=
        seedShadows_again (readable (group, declaration) List.mem_cons_self)
          (fun request member => present request (List.mem_append_left _ member)) progress
      have same := @groupRequests_congr text _ _ evolves.devices order vrfId devices rest
      have readableRest : ∀ other ∈ rest, Readable text vrfId (client.home middle) other.1 other.2
          (visited order devices other.1) := by
        intro other member
        exact (readable_congr evolves.devices vrfId other.1 other.2 _).2
          (readable other (List.mem_cons_of_mem _ member))
      have presentRest : ∀ request ∈
          groupRequests text order vrfId (client.home middle) devices rest,
          (sections .bgpPeerGroups).upserting.Present request
            ((client.home middle).nodes .routingBGPPeerGroup) := by
        intro request member
        rw [same] at member
        rw [nodes, Upserting.present_replay]
        exact present request (List.mem_append_right _ member)
      obtain ⟨final, after, ran, countedRest, evolvesRest, replayed⟩ :=
        induction readableRest presentRest next
      refine ⟨final, after, ?_, ?_, evolves.trans evolvesRest, ?_⟩
      · rw [visited] at first
        rw [seedGroups, Program.bind_of_ok first]
        exact ran
      · dsimp only at counted
        rw [countedRest, counted, copies_cons, length_visited]
        omega
      · rw [replayed, same, nodes, Upserting.replay_append]
        rfl

/-! ## The order of a set -/

/-- Two copies of a group with one name write the same. -/
theorem shadow_agrees
    {group : Json} {declaration : Payload} {device other : Json}
    {deviceId otherId vrfId name : String} {payload otherPayload : Payload}
    (made : shadowPayload text group declaration device deviceId vrfId = .ok payload)
    (otherMade : shadowPayload text group declaration other otherId vrfId = .ok otherPayload)
    (named : shadowName text group device = .ok name)
    (otherNamed : shadowName text group other = .ok name) :
    (sections .bgpPeerGroups).Agrees payload otherPayload := by
  obtain ⟨groupText, deviceText, description, isGroup, isDevice, isDescription, rfl⟩ :=
    shadowPayload_eq_ok_iff.1 made
  obtain ⟨groupText', otherText, description', isGroup', isOther, isDescription', rfl⟩ :=
    shadowPayload_eq_ok_iff.1 otherMade
  have sameGroup : groupText = groupText' := Except.ok.inj (isGroup.symm.trans isGroup')
  have sameDescription : description = description' :=
    Except.ok.inj (isDescription.symm.trans isDescription')
  subst sameGroup sameDescription
  have first : groupText ++ "@" ++ deviceText = name := by
    rw [shadowName, isGroup, isDevice, ok_bind, ok_bind, Except.ok.injEq] at named
    exact named
  have second : groupText ++ "@" ++ otherText = name := by
    rw [shadowName, isGroup, isOther, ok_bind, ok_bind, Except.ok.injEq] at otherNamed
    exact otherNamed
  have sameText : deviceText = otherText :=
    (String.append_right_inj (groupText ++ "@")).1 (first.trans second.symm)
  subst sameText
  intro field known
  apply copyFields_congr
  have notDevice : field ≠ "device" := by
    rintro rfl
    revert known
    decide
  rw [Dict.ofPairs, Dict.ofPairs, Dict.update, Dict.update]
  simp only [List.foldl_cons, List.foldl_nil]
  by_cases isVrf : field = "vrf"
  · subst isVrf
    rw [Dict.get?_set_self, Dict.get?_set_self]
  · rw [Dict.get?_set_of_ne _ _ isVrf, Dict.get?_set_of_ne _ _ isVrf,
      Dict.get?_set_of_ne _ _ notDevice, Dict.get?_set_of_ne _ _ notDevice]

/-- A copy is found by its name alone. -/
theorem hits_shadow_iff
    {group : Json} {declaration : Payload} {device : Json} {deviceId vrfId : String}
    {payload : Payload}
    (made : shadowPayload text group declaration device deviceId vrfId = .ok payload)
    {name : String} (named : shadowName text group device = .ok name) (node : Node) :
    (sections .bgpPeerGroups).upserting.hits payload node = true ↔
      node.attributes "name" = .str name := by
  obtain ⟨name', named', -, filters⟩ := shadow_lookup made
  obtain rfl : name = name' := Except.ok.inj (named.symm.trans named')
  have hits : (sections .bgpPeerGroups).upserting.hits payload node =
      (lookupFilters (sections .bgpPeerGroups) payload).all fun filter => filter.passes node := rfl
  rw [hits, filters]
  simp [Filter.passes]

/-- The copies of a group can be served in any order. -/
theorem shadow_commute
    {vrfId : String} {contents : Contents} {group : Json} {declaration : Payload}
    {devices : List Json} :
    ∀ first ∈ shadowRequests text vrfId contents group declaration devices,
    ∀ second ∈ shadowRequests text vrfId contents group declaration devices, ∀ nodes,
      (sections .bgpPeerGroups).upserting.writeFirst first
          ((sections .bgpPeerGroups).upserting.writeFirst second nodes) =
        (sections .bgpPeerGroups).upserting.writeFirst second
          ((sections .bgpPeerGroups).upserting.writeFirst first nodes) := by
  have read : ∀ request ∈ shadowRequests text vrfId contents group declaration devices,
      ∃ device deviceId,
        shadowPayload text group declaration device deviceId vrfId = .ok request := by
    intro request member
    obtain ⟨device, -, isRequest⟩ := List.mem_filterMap.1 member
    rcases reading : shadowIn text vrfId contents group declaration device with failure | payload
    · rw [reading] at isRequest
      cases isRequest
    · rw [reading] at isRequest
      cases isRequest
      obtain ⟨deviceId, -, made⟩ := shadowIn_eq_ok_iff.1 reading
      exact ⟨device, deviceId, made⟩
  intro first firstMember second secondMember nodes
  obtain ⟨device, deviceId, made⟩ := read first firstMember
  obtain ⟨other, otherId, otherMade⟩ := read second secondMember
  obtain ⟨name, named, -, -⟩ := shadow_lookup made
  obtain ⟨otherName, otherNamed, -, -⟩ := shadow_lookup otherMade
  by_cases same : name = otherName
  · subst same
    rw [(shadow_agrees made otherMade named otherNamed).writeFirst_eq]
  · apply Upserting.writeFirst_comm_of_disjoint
    intro node hit
    rw [hits_shadow_iff made named] at hit
    apply Bool.eq_false_iff.2
    rw [Ne, hits_shadow_iff otherMade otherNamed, hit, Json.str.injEq]
    exact same

/-- The order the devices of each group are visited in makes no difference. -/
theorem replay_groupRequests
    (order other : SetOrder) (vrfId : String) (contents : Contents)
    (devices : Dict Json (List Json)) (groups : List (Json × Payload)) (nodes : List Node) :
    (sections .bgpPeerGroups).upserting.replay
        (groupRequests text order vrfId contents devices groups) nodes =
      (sections .bgpPeerGroups).upserting.replay
        (groupRequests text other vrfId contents devices groups) nodes := by
  induction groups generalizing nodes with
  | nil => rfl
  | cons group rest induction =>
      have perm : (shadowRequests text vrfId contents group.1 group.2
            (visited order devices group.1)).Perm
          (shadowRequests text vrfId contents group.1 group.2
            (visited other devices group.1)) :=
        ((order.iterate_perm _).trans (other.iterate_perm _).symm).filterMap _
      rw [groupRequests, groupRequests, List.flatMap_cons, List.flatMap_cons,
        Upserting.replay_append, Upserting.replay_append,
        Upserting.replay_perm perm shadow_commute]
      exact induction _

/-- Both orders visit the same copies. -/
theorem mem_groupRequests_iff
    (order other : SetOrder) {vrfId : String} {contents : Contents}
    {devices : Dict Json (List Json)} {groups : List (Json × Payload)} {request : Payload} :
    request ∈ groupRequests text order vrfId contents devices groups ↔
      request ∈ groupRequests text other vrfId contents devices groups := by
  rw [groupRequests, groupRequests, List.mem_flatMap, List.mem_flatMap]
  apply exists_congr
  intro group
  apply and_congr_right
  intro _
  exact (((order.iterate_perm _).trans (other.iterate_perm _).symm).filterMap _).mem_iff

/-- Peer groups that have been seeded are settled, in whatever order they are visited again. -/
theorem seedGroups_settled
    {order : SetOrder} (other : SetOrder) {vrfId : String} {devices : Dict Json (List Json)}
    {groups : List (Json × Payload)} {progress final : ShadowIds × Nat} {sot after later : Sot}
    (ran : seedGroups client text order client.defaultBranch vrfId devices groups progress sot =
      (.ok final, after))
    (sameDevices : (client.home later).nodes .dcimDevice = (client.home after).nodes .dcimDevice)
    (sameGroups : (client.home later).nodes .routingBGPPeerGroup =
      (client.home after).nodes .routingBGPPeerGroup) (again : ShadowIds × Nat) :
    ∃ last,
      seedGroups client text other client.defaultBranch vrfId devices groups again later =
        (.ok last, later) ∧
      last.2 = again.2 + copies devices groups := by
  obtain ⟨evolves, -, readable, serves⟩ :=
    @seedGroups_serves client text order vrfId devices groups progress final [] sot after
      (List.nil_subset _) ran
  have known : (client.home later).nodes .dcimDevice = (client.home sot).nodes .dcimDevice :=
    sameDevices.trans evolves.devices
  have hits := fun (request : Payload) (node : Node)
      (made : (sections .bgpPeerGroups).Made [] request node) =>
    Section.hits_of_made keyed_peerGroups made
  have fixed := fun (request : Payload) (node : Node)
      (made : (sections .bgpPeerGroups).Made [] request node) => Section.write_of_made made
  have readableAgain : ∀ group ∈ groups, Readable text vrfId (client.home later) group.1 group.2
      (visited other devices group.1) := by
    intro group member device isVisited
    apply (readable_congr known vrfId group.1 group.2 _).2 (readable group member) device
    exact ((order.iterate_perm _).trans (other.iterate_perm _).symm).mem_iff.2 isVisited
  have presentAgain : ∀ request ∈
      groupRequests text other vrfId (client.home later) devices groups,
      (sections .bgpPeerGroups).upserting.Present request
        ((client.home later).nodes .routingBGPPeerGroup) := by
    intro request member
    rw [groupRequests_congr known] at member
    rw [sameGroups]
    exact serves.present_of_mem hits request ((mem_groupRequests_iff other order).1 member)
  obtain ⟨last, done, run, counted, evolvesAgain, replayed⟩ :=
    seedGroups_again readableAgain presentAgain again
  have same : done = later := by
    apply evolvesAgain.eq_of_nodes
    intro kind member
    rw [List.mem_singleton.1 member, replayed, sameGroups, groupRequests_congr known,
      replay_groupRequests other order]
    exact serves.replay_eq hits fixed
  rw [same] at run
  exact ⟨last, run, counted⟩

end Snapl.Intent
