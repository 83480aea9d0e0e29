import Snapl.Intent.SeedServed

/-!
# Copies of peer groups as records

The request for the copy of a peer group realises what the record of the group
writes to it.  There is a copy for every session that uses a declared group, and
the identifiers the sessions are wired with are those of copies of the right
names.
-/

namespace Snapl.Intent

open Snapl.Library SeedIngester

variable {client : InfrahubClient} {text : PyText}

/-! ## The request of a copy -/

/-- How devices are named. -/
def deviceRel : Rel := { peerKind := .dcimDevice }

theorem deviceIn_eq_ok
    {contents : Contents} {name : Json} {problem : ValidationProblem} {id : String}
    (found : deviceIn contents name problem = .ok id) :
    ∃ peer, deviceRel.node? contents name = some peer ∧ peer.id = id := by
  have head := deviceRel.node?_eq_head? contents name
  rw [deviceIn] at found
  rcases devices : contents.matching .dcimDevice [.value "name" name] with _ | ⟨peer, rest⟩
  · rw [devices] at found
    cases found
  · rw [devices] at found
    cases found
    refine ⟨peer, ?_, rfl⟩
    rw [head, deviceRel, devices]
    rfl

/-- A field that is copied has the value of the record, if it gives one. -/
theorem copyFields_of_mem
    (record : Payload) {fields : List String} {field : String} (member : field ∈ fields)
    (payload : Payload) :
    (copyFields record fields payload).get? field =
      (record.get? field).or (payload.get? field) := by
  rw [copyFields]
  induction fields generalizing payload with
  | nil => cases member
  | cons first rest induction =>
      rw [List.foldl_cons]
      by_cases later : field ∈ rest
      · rw [induction later]
        rcases present : record.get? first with _ | value
        · rfl
        · dsimp only
          by_cases same : field = first
          · subst same
            rw [present, Option.some_or, Option.some_or]
          · rw [Dict.get?_set_of_ne _ _ same]
      · have isFirst : field = first := (List.mem_cons.1 member).resolve_right later
        subst isFirst
        have kept := copyFields_of_not_mem record later
        simp only [copyFields] at kept
        rw [kept]
        rcases record.get? field with _ | value
        · rfl
        · rw [Dict.get?_set_self, Option.some_or]

theorem copyName_of_ok
    {group device : Json} {name : String} (named : shadowName text group device = .ok name) :
    copyName text group device = .str name := by
  rw [copyName, named]

theorem lookup_cons_ite
    (key present : String) (current : Json) (rest : List (String × Json)) :
    ((present, current) :: rest).lookup key =
      if key = present then some current else rest.lookup key := by
  split_ifs with same
  · rw [same, List.lookup_cons_self]
  · exact lookup_cons_of_ne current rest same

/-- Of several values for a field the last one counts. -/
theorem get?_ofPairs (pairs : List (String × Json)) (field : String) :
    (Dict.ofPairs pairs).get? field = pairs.reverse.lookup field := by
  induction pairs using List.reverseRecOn with
  | nil => rfl
  | append_singleton rest entry induction =>
      have set : Dict.ofPairs (rest ++ [entry]) = (Dict.ofPairs rest).set entry.1 entry.2 := by
        rw [Dict.ofPairs, Dict.ofPairs, Dict.update, Dict.update, List.foldl_append]
        rfl
      rw [set, List.reverse_append, List.reverse_singleton, List.singleton_append,
        lookup_cons_ite, ← induction]
      split_ifs with same
      · rw [same, Dict.get?_set_self]
      · exact Dict.get?_set_of_ne _ _ same

/-- The fields a copy is created with before those of its record are copied. -/
theorem get?_copyBase
    (name description : String) (status : Json) (deviceId vrfId field : String) :
    (Dict.ofPairs
      [("name", Json.str name), ("description", .str description), ("status", status),
        ("device", .str deviceId), ("vrf", .str vrfId)]).get? field =
      if field = "vrf" then some (.str vrfId)
      else if field = "device" then some (.str deviceId)
      else if field = "status" then some status
      else if field = "description" then some (.str description)
      else if field = "name" then some (.str name)
      else none := by
  rw [get?_ofPairs]
  simp only [List.reverse_cons, List.reverse_nil, List.nil_append, List.cons_append,
    lookup_cons_ite, List.lookup_nil]

/-- The request of a copy writes what its record writes. -/
theorem realises_of_shadowIn
    {vrfId : String} {contents : Contents} {group : Json} {record : Payload} {device : Json}
    {request : Payload}
    (read : shadowIn text vrfId contents group record device = .ok request) :
    (vocabulary .bgpPeerGroups).Realises contents (writeCopy text group record device)
      request := by
  obtain ⟨deviceId, isDevice, made⟩ := shadowIn_eq_ok_iff.1 read
  obtain ⟨peer, found, rfl⟩ := deviceIn_eq_ok isDevice
  obtain ⟨groupText, deviceText, description, isGroup, isDeviceText, isDescription, rfl⟩ :=
    shadowPayload_eq_ok_iff.1 made
  have named : shadowName text group device = .ok (groupText ++ "@" ++ deviceText) := by
    rw [shadowName, isGroup, isDeviceText]
    rfl
  have described : copyDescription text ((record.get? "description").getD group) device =
      .str (description ++ " (" ++ deviceText ++ ")") := by
    rw [copyDescription, isDescription, isDeviceText]
  have linked : (copyFields record shadowAttributes (Dict.ofPairs
      [("name", .str (groupText ++ "@" ++ deviceText)),
        ("description", .str (description ++ " (" ++ deviceText ++ ")")),
        ("status", (record.get? "status").getD (.str "active")),
        ("device", .str peer.id), ("vrf", .str vrfId)])).get? "device" =
      some (.str peer.id) := by
    rw [copyFields_of_not_mem record (by decide), get?_copyBase]
    rfl
  constructor
  · intro field known
    have notVrf : field ≠ "vrf" := by
      rintro rfl
      revert known
      decide
    have notDevice : field ≠ "device" := by
      rintro rfl
      revert known
      decide
    by_cases copied : field ∈ shadowAttributes
    · have notName : field ≠ "name" := by
        rintro rfl
        revert copied
        decide
      have notDescription : field ≠ "description" := by
        rintro rfl
        revert copied
        decide
      have notStatus : field ≠ "status" := by
        rintro rfl
        revert copied
        decide
      rw [copyFields_of_mem record copied, get?_copyBase, writeCopy]
      simp only [notVrf, notDevice, notName, notDescription, notStatus, copied, if_true, if_false,
        Option.or_none]
    · rw [copyFields_of_not_mem record copied, get?_copyBase, writeCopy]
      by_cases isName : field = "name"
      · subst isName
        simp [copyName_of_ok named]
      · by_cases isDescription : field = "description"
        · subst isDescription
          simp [described]
        · simp only [notVrf, notDevice, isName, isDescription, copied, if_false]
          split_ifs with isStatus
          · rw [isStatus]
          · rfl
  · intro field rel name target given
    have isDeviceField := mem_of_lookup target
    rw [vocabulary, List.mem_singleton, Prod.mk.injEq] at isDeviceField
    obtain ⟨rfl, rfl⟩ := isDeviceField
    have isName : device = name := by simpa [writeCopy] using given
    subst isName
    obtain ⟨inNodes, hasName⟩ := Rel.node?_eq_some found
    exact ⟨peer, inNodes, hasName, by rw [linked]; rfl⟩
  · intro field rel target absent
    have isDeviceField := mem_of_lookup target
    rw [vocabulary, List.mem_singleton, Prod.mk.injEq] at isDeviceField
    obtain ⟨rfl, -⟩ := isDeviceField
    simp [writeCopy] at absent
  · intro field isKey
    cases isKey

theorem keyed_writeCopy (group : Json) (record : Payload) (device : Json) :
    (vocabulary .bgpPeerGroups).Keyed (writeCopy text group record device) := by
  intro value member
  obtain ⟨field, isKey, rfl⟩ := List.mem_map.1 member
  obtain rfl : field = "name" := List.mem_singleton.1 isKey
  rfl

/-! ## The requests of all copies -/

/-- Readable copies have one request each, which realises what their record writes. -/
theorem realises_shadowRequests
    {vrfId : String} {contents : Contents} {group : Json} {record : Payload}
    {devices : List Json}
    (readable : Readable text vrfId contents group record devices) :
    List.Forall₂
      (fun copy request => (vocabulary .bgpPeerGroups).Realises contents copy request ∧
        (vocabulary .bgpPeerGroups).Keyed copy)
      (devices.map (writeCopy text group record))
      (shadowRequests text vrfId contents group record devices) := by
  induction devices with
  | nil => exact .nil
  | cons device rest induction =>
      obtain ⟨request, read⟩ := readable device List.mem_cons_self
      rw [List.map_cons, shadowRequests_cons read]
      refine .cons ⟨realises_of_shadowIn read, keyed_writeCopy group record device⟩ ?_
      exact induction fun other member => readable other (List.mem_cons_of_mem device member)

theorem realises_groupRequests
    {order : SetOrder} {vrfId : String} {contents : Contents}
    {devices : Dict Json (List Json)} {groups : List (Json × Payload)}
    (readable : ∀ group ∈ groups, Readable text vrfId contents group.1 group.2
      (visited order devices group.1)) :
    List.Forall₂
      (fun copy request => (vocabulary .bgpPeerGroups).Realises contents copy request ∧
        (vocabulary .bgpPeerGroups).Keyed copy)
      (groups.flatMap fun entry =>
        (visited order devices entry.1).map (writeCopy text entry.1 entry.2))
      (groupRequests text order vrfId contents devices groups) := by
  induction groups with
  | nil => exact .nil
  | cons entry rest induction =>
      rw [groupRequests, List.flatMap_cons, List.flatMap_cons]
      apply List.rel_append
      · exact realises_shadowRequests (readable entry List.mem_cons_self)
      · exact induction fun other member => readable other (List.mem_cons_of_mem entry member)

/-! ## Who uses a group -/

theorem mem_addElement {elements : List Json} {element other : Json} :
    other ∈ addElement elements element ↔ other ∈ elements ∨ other = element := by
  rw [addElement]
  split_ifs with present
  · constructor
    · exact Or.inl
    · rintro (member | rfl)
      · exact member
      · exact present
  · rw [List.mem_append, List.mem_singleton]

theorem hashed_eq_ok {value result : Json} (ok : hashed value = .ok result) : result = value := by
  cases value <;> cases ok <;> rfl

theorem required_eq_ok
    {record : Payload} {key : String} {value : Json} (ok : required record key = .ok value) :
    record.get? key = some value := by
  rw [required] at ok
  rcases given : record.get? key with _ | other
  · rw [given] at ok
    cases ok
  · rw [given] at ok
    cases ok
    rfl

/-- The devices of a group are the local devices of the sessions that use it. -/
theorem mem_groupDevices_iff
    {entries : List Payload} {before after : Dict Json (List Json)}
    (ran : groupDevices entries before = .ok after) (group device : Json) :
    device ∈ (after.get? group).getD [] ↔ device ∈ (before.get? group).getD [] ∨
      ∃ session ∈ entries, groupOf session = some group ∧
        session.get? "local_device" = some device := by
  induction entries generalizing before with
  | nil =>
      cases ran
      simp
  | cons session rest induction =>
      have step : ∃ middle, groupDevices rest middle = .ok after ∧
          ∀ device, device ∈ (middle.get? group).getD [] ↔
            device ∈ (before.get? group).getD [] ∨
              groupOf session = some group ∧ session.get? "local_device" = some device := by
        rw [groupDevices] at ran
        rcases given : session.get? "peer_group" with _ | value
        · rw [given, Option.getD_none, Json.truthy, if_neg Bool.false_ne_true] at ran
          refine ⟨before, ran, fun device => ?_⟩
          rw [groupOf, given]
          simp
        · rw [given, Option.getD_some] at ran
          cases truthy : value.truthy with
          | false =>
              rw [truthy, if_neg Bool.false_ne_true] at ran
              refine ⟨before, ran, fun device => ?_⟩
              rw [groupOf, given]
              simp [Option.filter, truthy]
          | true =>
              rw [truthy, if_pos rfl] at ran
              obtain ⟨name, isName, reads⟩ := (bind_eq_ok _ _ _).1 ran
              obtain ⟨device, isLocal, hashes⟩ := (bind_eq_ok _ _ _).1 reads
              obtain ⟨element, isElement, ranRest⟩ := (bind_eq_ok _ _ _).1 hashes
              obtain rfl := hashed_eq_ok isName
              obtain rfl := hashed_eq_ok isElement
              have uses : groupOf session = some name := by
                rw [groupOf, given]
                simp [Option.filter, truthy]
              refine ⟨_, ranRest, fun other => ?_⟩
              rw [uses, required_eq_ok isLocal]
              by_cases same : group = name
              · subst same
                rw [Dict.get?_set_self, Option.getD_some, mem_addElement]
                simp [eq_comm]
              · rw [Dict.get?_set_of_ne _ _ same]
                simp [Ne.symm same]
      obtain ⟨middle, ranRest, members⟩ := step
      rw [induction ranRest, members, List.exists_mem_cons_iff, or_assoc]

/-- Every record of a group counts under its name, or a later one of the name does. -/
theorem declarationMap_get?
    {entries : List Payload} {before after : Dict Json Payload}
    (ran : declarationMap entries before = .ok after) :
    (∀ name, (before.get? name).isSome → (after.get? name).isSome) ∧
    ∀ record ∈ entries, ∃ name, record.get? "name" = some name ∧ (after.get? name).isSome := by
  induction entries generalizing before with
  | nil =>
      cases ran
      exact ⟨fun _ present => present, fun _ member => absurd member List.not_mem_nil⟩
  | cons record rest induction =>
      rw [declarationMap] at ran
      obtain ⟨value, isValue, hashes⟩ := (bind_eq_ok _ _ _).1 ran
      obtain ⟨name, isName, ranRest⟩ := (bind_eq_ok _ _ _).1 hashes
      obtain ⟨kept, counted⟩ := induction ranRest
      have stored : ((before.set name record).get? name).isSome := by
        rw [Dict.get?_set_self]
        rfl
      constructor
      · intro other present
        apply kept
        by_cases same : other = name
        · rw [same]
          exact stored
        · rw [Dict.get?_set_of_ne _ _ same]
          exact present
      · intro other member
        rcases List.mem_cons.1 member with rfl | later
        · refine ⟨name, ?_, kept name stored⟩
          rw [hashed_eq_ok isName]
          exact required_eq_ok isValue
        · exact counted other later

/-! ## Identifiers of copies -/

/-- A node that an upsert returns is there and passes the filters. -/
theorem exists_hit_of_upsertNode
    {sec : Section} (keyed : sec.Keyed) (noRels : sec.lookupRelFields = []) {payload : Payload}
    {sot after : Sot} {outcome : String × Bool}
    (ran : upsertNode client sec.kind (lookupFilters sec payload) payload client.defaultBranch sot =
      (.ok outcome, after)) :
    ∃ node ∈ (client.home after).nodes sec.kind, node.id = outcome.1 ∧
      sec.hits payload node = true := by
  rcases found : ((client.home sot).nodes sec.kind).filter (sec.hits payload) with _ | ⟨node, rest⟩
  · obtain ⟨node, fresh, made, run⟩ := upsertNode_of_absent found
    rw [run, Prod.mk.injEq] at ran
    obtain ⟨isOutcome, rfl⟩ := ran
    cases isOutcome
    refine ⟨node, ?_, rfl, ?_⟩
    · rw [client.home_update, Contents.nodes_insert]
      exact List.mem_append_right _ List.mem_cons_self
    · have isMade : sec.Made [] payload node := by
        refine ⟨?_, _, List.not_mem_nil, made⟩
        intro key member
        rw [noRels] at member
        cases member
      exact Section.hits_of_made keyed isMade
  · rw [upsertNode_of_found found client.defaultBranch, Prod.mk.injEq] at ran
    obtain ⟨isOutcome, rfl⟩ := ran
    cases isOutcome
    have member : node ∈ ((client.home sot).nodes sec.kind).filter (sec.hits payload) := by
      rw [found]
      exact List.mem_cons_self
    obtain ⟨inNodes, hit⟩ := List.mem_filter.1 member
    refine ⟨node.assignValues sec.kind payload, ?_, Node.assignValues_id _ _ _, ?_⟩
    · rw [client.home_update, Contents.nodes_put]
      apply List.mem_map.2
      refine ⟨node, inNodes, ?_⟩
      rw [Node.assignValues_id, if_pos rfl]
    · rw [Section.hits_assignValues hit]
      exact hit

/-- The identifier is that of a copy of the group on the device. -/
def IsCopy (client : InfrahubClient) (text : PyText) (sot : Sot) (group device : Json)
    (id : String) : Prop :=
  ∃ node ∈ (client.home sot).nodes .routingBGPPeerGroup,
    node.id = id ∧ node.attributes "name" = copyName text group device

theorem IsCopy.mono
    {group device : Json} {id : String} {before after : Sot} {requests : List Payload}
    {taken : List String} (isCopy : IsCopy client text before group device id)
    (serves : (sections .bgpPeerGroups).upserting.Serves ((sections .bgpPeerGroups).Made taken)
      requests ((client.home before).nodes .routingBGPPeerGroup)
      ((client.home after).nodes .routingBGPPeerGroup)) :
    IsCopy client text after group device id := by
  obtain ⟨node, member, isId, named⟩ := isCopy
  obtain ⟨later, inAfter, sameId, sameName⟩ :=
    @exists_named_of_serves (sections .bgpPeerGroups) taken requests (client.home before)
      (client.home after) keyed_peerGroups "name" rfl rfl serves node member
  exact ⟨later, inAfter, sameId.trans isId, sameName.trans named⟩

theorem seedShadow_isCopy
    {vrfId : String} {group : Json} {record : Payload} {device : Json} {sot after : Sot}
    {id : String}
    (ran : seedShadow client text client.defaultBranch vrfId group record device sot =
      (.ok id, after)) : IsCopy client text after group device id := by
  rw [seedShadow_eq] at ran
  rcases read : shadowIn text vrfId (client.home sot) group record device with failure | payload
  · rw [read] at ran
    cases ran
  · rw [read] at ran
    dsimp only at ran
    rw [Program.bind_eq_ok_iff] at ran
    obtain ⟨outcome, last, upserts, ran⟩ := ran
    obtain ⟨rfl, rfl⟩ := Program.pure_eq_ok_iff.1 ran
    obtain ⟨node, member, isId, hit⟩ := exists_hit_of_upsertNode keyed_peerGroups rfl upserts
    obtain ⟨deviceId, -, made⟩ := shadowIn_eq_ok_iff.1 read
    obtain ⟨name, named, -, -⟩ := shadow_lookup made
    refine ⟨node, member, isId, ?_⟩
    rw [copyName_of_ok named]
    exact (hits_shadow_iff made named node).1 hit

/-- The identifier a table of copies has for a group on a device. -/
def copyId (ids : ShadowIds) (group device : Json) : Option String :=
  ((ids.get? group).getD Dict.empty).get? device

/-- After the copies of a group the table has one for each of their devices. -/
theorem seedShadows_ids
    {vrfId : String} {group : Json} {record : Payload} {devices : List Json}
    {progress final : ShadowIds × Nat} {sot after : Sot}
    (ran : seedShadows client text client.defaultBranch vrfId group record devices progress sot =
      (.ok final, after)) :
    (∀ other, other ≠ group → final.1.get? other = progress.1.get? other) ∧
    (∀ device, device ∉ devices →
      copyId final.1 group device = copyId progress.1 group device) ∧
    ∀ device ∈ devices, ∃ id, copyId final.1 group device = some id ∧
      IsCopy client text after group device id := by
  induction devices generalizing progress sot with
  | nil =>
      obtain ⟨rfl, rfl⟩ := Program.pure_eq_ok_iff.1 ran
      exact ⟨fun _ _ => rfl, fun _ _ => rfl, fun _ member => absurd member List.not_mem_nil⟩
  | cons device rest induction =>
      obtain ⟨ids, count⟩ := progress
      rw [seedShadows, Program.bind_eq_ok_iff] at ran
      obtain ⟨id, middle, first, ranRest⟩ := ran
      obtain ⟨others, unvisited, rested⟩ := induction ranRest
      obtain ⟨-, -, -, serves⟩ := @seedShadows_serves client text vrfId group record rest _ final
        [] middle after (List.nil_subset _) ranRest
      have stored : ∀ other, copyId
          (ids.set group (((ids.get? group).getD Dict.empty).set device id)) group other =
          if other = device then some id else copyId ids group other := by
        intro other
        rw [copyId, Dict.get?_set_self, Option.getD_some]
        split_ifs with same
        · rw [same, Dict.get?_set_self]
        · rw [Dict.get?_set_of_ne _ _ same, copyId]
      refine ⟨?_, ?_, ?_⟩
      · intro other different
        rw [others other different]
        exact Dict.get?_set_of_ne _ _ different
      · intro other outside
        rw [List.mem_cons, not_or] at outside
        rw [unvisited other outside.2, stored, if_neg outside.1]
      · intro other member
        by_cases later : other ∈ rest
        · exact rested other later
        · have isDevice : other = device := (List.mem_cons.1 member).resolve_right later
          subst isDevice
          refine ⟨id, ?_, (seedShadow_isCopy first).mono serves⟩
          rw [unvisited other later, stored, if_pos rfl]

/-- After all groups the table has a copy for every device of every group, and no other. -/
theorem seedGroups_ids
    {order : SetOrder} {vrfId : String} {devices : Dict Json (List Json)}
    {groups : List (Json × Payload)} (distinct : (groups.map Prod.fst).Nodup)
    {progress final : ShadowIds × Nat} {sot after : Sot}
    (ran : seedGroups client text order client.defaultBranch vrfId devices groups progress sot =
      (.ok final, after)) :
    (∀ group, group ∉ groups.map Prod.fst ∨ visited order devices group = [] →
      ∀ device, copyId final.1 group device = copyId progress.1 group device) ∧
    ∀ entry ∈ groups, ∀ device ∈ visited order devices entry.1,
      ∃ id, copyId final.1 entry.1 device = some id ∧
        IsCopy client text after entry.1 device id := by
  induction groups generalizing progress sot with
  | nil =>
      obtain ⟨rfl, rfl⟩ := Program.pure_eq_ok_iff.1 ran
      exact ⟨fun _ _ _ => rfl, fun _ member => absurd member List.not_mem_nil⟩
  | cons entry rest induction =>
      obtain ⟨group, record⟩ := entry
      rw [List.map_cons, List.nodup_cons] at distinct
      rw [seedGroups, Program.bind_eq_ok_iff] at ran
      obtain ⟨next, middle, first, ranRest⟩ := ran
      obtain ⟨others, unvisited, made⟩ := seedShadows_ids first
      obtain ⟨untouched, rested⟩ := induction distinct.2 ranRest
      obtain ⟨-, -, -, serves⟩ := @seedGroups_serves client text order vrfId devices rest _ final
        [] middle after (List.nil_subset _) ranRest
      constructor
      · intro other outside device
        have notRest : other ∉ rest.map Prod.fst ∨ visited order devices other = [] :=
          outside.imp_left fun absent member => absent (List.mem_cons_of_mem _ member)
        rw [untouched other notRest device]
        by_cases same : other = group
        · subst same
          apply unvisited
          rcases outside with absent | noDevices
          · exact absurd List.mem_cons_self absent
          · rw [← visited, noDevices]
            exact List.not_mem_nil
        · rw [copyId, others other same, copyId]
      · intro entry member device isVisited
        rcases List.mem_cons.1 member with rfl | later
        · obtain ⟨id, isId, isCopy⟩ := made device isVisited
          refine ⟨id, ?_, isCopy.mono serves⟩
          rw [untouched group (Or.inl distinct.1) device]
          exact isId
        · exact rested entry later device isVisited

end Snapl.Intent
