import Mathlib.Data.List.Find
import Mathlib.Data.List.Forall2
import Snapl.Intent.SeedDeclarations
import Snapl.Library.UpsertTargets

/-!
# What becomes of the nodes records speak of

The records of a section are written as requests.  Once they have been served,
the node a record speaks of is the one it spoke of before, or a new one made
from the first record with the same natural key; its attributes have the values
the last of the records gives them.
-/

namespace Snapl.Intent

open Snapl.Library SeedIngester

/-! ## Requests that realise records -/

namespace Vocabulary

variable (voc : Vocabulary)

/-- The record gives its whole natural key. -/
def Keyed (record : Declaration) : Prop := ∀ field ∈ voc.key record, field.isSome

/-- The request writes what the record says, with its references led to nodes. -/
structure Realises (contents : Contents) (record : Declaration) (request : Payload) : Prop where
  values : ∀ field ∈ voc.sec.kind.attributes, request.get? field = record.values field
  named : ∀ field rel name, voc.targets.lookup field = some rel →
    record.peers field = some name →
      ∃ peer ∈ contents.nodes rel.peerKind, peer.attributes rel.lookupAttr = name ∧
        (request.get? field).map peerIds = some [peer.id]
  unnamed : ∀ field rel, voc.targets.lookup field = some rel → record.peers field = none →
    request.get? field = record.values field
  keys : ∀ field ∈ voc.sec.lookupRelFields, ∀ rel name,
    voc.targets.lookup field = some rel → record.peers field = some name →
      ∃ peer, rel.node? contents name = some peer ∧ request.get? field = some (.str peer.id)

/-- The key of the vocabulary is made of attributes and of references it can name. -/
structure WellFormed : Prop where
  keyed : voc.sec.Keyed
  keys : ∀ field ∈ voc.sec.lookupRelFields,
    field ∈ voc.sec.lookup ∧ (voc.targets.lookup field).isSome
  targets : ∀ field rel, voc.targets.lookup field = some rel →
    field ∈ voc.sec.kind.relationships

end Vocabulary

variable {voc : Vocabulary} {before after : Contents}

theorem Rel.node?_eq_some
    {rel : Rel} {contents : Contents} {name : Json} {peer : Node}
    (found : rel.node? contents name = some peer) :
    peer ∈ contents.nodes rel.peerKind ∧ peer.attributes rel.lookupAttr = name := by
  refine ⟨List.mem_of_find?_eq_some found, ?_⟩
  have hasName := List.find?_some found
  exact of_decide_eq_true hasName

theorem Vocabulary.Keyed.values
    {record : Declaration} (keyed : voc.Keyed record) {field : String}
    (member : field ∈ voc.sec.lookup) (notRel : field ∉ voc.sec.lookupRelFields) :
    ∃ value, record.values field = some value := by
  have present := keyed _ (List.mem_map_of_mem member)
  rw [if_neg notRel] at present
  exact Option.isSome_iff_exists.1 present

theorem Vocabulary.Keyed.peers
    {record : Declaration} (keyed : voc.Keyed record) {field : String}
    (member : field ∈ voc.sec.lookup) (isRel : field ∈ voc.sec.lookupRelFields) :
    ∃ name, record.peers field = some name := by
  have present := keyed _ (List.mem_map_of_mem member)
  rw [if_pos isRel] at present
  exact Option.isSome_iff_exists.1 present

theorem Vocabulary.key_eq_iff {record other : Declaration} :
    voc.key record = voc.key other ↔ ∀ field ∈ voc.sec.lookup,
      (field ∈ voc.sec.lookupRelFields → record.peers field = other.peers field) ∧
      (field ∉ voc.sec.lookupRelFields → record.values field = other.values field) := by
  rw [key, key, List.map_inj_left]
  apply forall_congr'
  intro field
  apply forall_congr'
  intro _
  by_cases isRel : field ∈ voc.sec.lookupRelFields
  · simp [isRel]
  · simp [isRel]

/-- Whom a record speaks of depends on its natural key alone. -/
theorem Vocabulary.speaks_congr
    {record other : Declaration} (same : voc.key record = voc.key other) (contents : Contents) :
    voc.speaks contents record = voc.speaks contents other := by
  funext node
  rw [speaks, speaks, Bool.eq_iff_iff, List.all_eq_true, List.all_eq_true]
  apply forall_congr'
  intro field
  apply forall_congr'
  intro member
  obtain ⟨peers, values⟩ := key_eq_iff.1 same field member
  by_cases isRel : field ∈ voc.sec.lookupRelFields
  · rw [if_pos isRel, if_pos isRel, peers isRel]
  · rw [if_neg isRel, if_neg isRel, values isRel]

theorem Vocabulary.subject_congr
    {record other : Declaration} (same : voc.key record = voc.key other) (contents : Contents) :
    voc.subject contents record = voc.subject contents other := by
  rw [subject, subject, speaks_congr same]

/-- A node answers to a reference of its key if it leads to the first node named. -/
theorem speaks_rel_iff
    {field : String} {rel : Rel} (target : voc.targets.lookup field = some rel)
    (record : Declaration) (contents : Contents) (node : Node) :
    ((((voc.targets.lookup field).bind fun rel =>
        (record.peers field).bind (rel.node? contents)).any fun peer =>
          decide (peer.id ∈ node.relations field)) = true) ↔
      ∃ name peer, record.peers field = some name ∧ rel.node? contents name = some peer ∧
        peer.id ∈ node.relations field := by
  rw [target, Option.bind_some]
  rcases record.peers field with _ | name
  · simp
  · simp [Option.any_eq_true]

/-- A request finds the nodes its record speaks of. -/
theorem Vocabulary.Realises.hits_eq
    {record : Declaration} {request : Payload} (realises : voc.Realises after record request)
    (wellFormed : voc.WellFormed) (keyed : voc.Keyed record) :
    voc.sec.hits request = voc.speaks after record := by
  funext node
  rw [Bool.eq_iff_iff, Section.hits_iff, speaks, List.all_eq_true]
  apply forall_congr'
  intro field
  apply forall_congr'
  intro member
  by_cases isRel : field ∈ voc.sec.lookupRelFields
  · obtain ⟨rel, target⟩ := Option.isSome_iff_exists.1 (wellFormed.keys field isRel).2
    obtain ⟨name, named⟩ := keyed.peers member isRel
    obtain ⟨peer, found, written⟩ := realises.keys field isRel rel name target named
    rw [if_pos isRel, speaks_rel_iff target, written]
    simp [passes_lookupFilter_of_mem isRel, named, found]
  · obtain ⟨value, given⟩ := keyed.values member isRel
    have written := realises.values field (wellFormed.keyed.attributes field member isRel)
    rw [if_neg isRel, written, given]
    simp [passes_lookupFilter_of_not_mem isRel, eq_comm]

/-! ## References that stay -/

/-- The first node of a name stays the first, and a name without a node gets a fresh one. -/
structure Rel.Steady (rel : Rel) (before after : Contents) : Prop where
  kept : ∀ name peer, rel.node? before name = some peer →
    ∃ later, rel.node? after name = some later ∧ later.id = peer.id
  fresh : ∀ name later, rel.node? before name = none → rel.node? after name = some later →
    later.id ∉ before.mentioned

/-- A node that was there is spoken of by the same records as before. -/
theorem Vocabulary.speaks_eq_of_mem
    (wellFormed : voc.WellFormed)
    (steady : ∀ field ∈ voc.sec.lookupRelFields, ∀ rel, voc.targets.lookup field = some rel →
      rel.Steady before after)
    (record : Declaration) {node : Node} (member : node ∈ before.nodes voc.sec.kind) :
    voc.speaks after record node = voc.speaks before record node := by
  rw [speaks, speaks, Bool.eq_iff_iff, List.all_eq_true, List.all_eq_true]
  apply forall_congr'
  intro field
  apply forall_congr'
  intro inKey
  by_cases isRel : field ∈ voc.sec.lookupRelFields
  · obtain ⟨rel, target⟩ := Option.isSome_iff_exists.1 (wellFormed.keys field isRel).2
    have stays := steady field isRel rel target
    rw [if_pos isRel, if_pos isRel, speaks_rel_iff target, speaks_rel_iff target]
    constructor
    · rintro ⟨name, later, named, found, related⟩
      rcases earlier : rel.node? before name with _ | peer
      · have mentioned : later.id ∈ before.mentioned :=
          (before.mem_mentioned_iff later.id).2 ⟨voc.sec.kind, node, member,
            Or.inr ⟨field, wellFormed.keyed.relationships field isRel, related⟩⟩
        exact absurd mentioned (stays.fresh name later earlier found)
      · obtain ⟨other, foundOther, same⟩ := stays.kept name peer earlier
        rw [found, Option.some.injEq] at foundOther
        subst foundOther
        rw [same] at related
        exact ⟨name, peer, named, earlier, related⟩
    · rintro ⟨name, peer, named, found, related⟩
      obtain ⟨later, foundLater, same⟩ := stays.kept name peer found
      rw [← same] at related
      exact ⟨name, later, named, foundLater, related⟩
  · rw [if_neg isRel, if_neg isRel]

/-! ## Keys of requests -/

/-- The natural key of a request. -/
def Section.requestKey (sec : Section) (request : Payload) : List (Option Json) :=
  sec.lookup.map request.get?

theorem Section.requestKey_eq_iff {sec : Section} {request other : Payload} :
    sec.requestKey request = sec.requestKey other ↔
      ∀ field ∈ sec.lookup, request.get? field = other.get? field := by
  rw [requestKey, requestKey, List.map_inj_left]

theorem Section.hits_congr
    {sec : Section} {request other : Payload}
    (same : sec.requestKey request = sec.requestKey other) : sec.hits request = sec.hits other := by
  funext node
  rw [Bool.eq_iff_iff, Section.hits_iff, Section.hits_iff]
  apply forall_congr'
  intro field
  apply forall_congr'
  intro member
  rw [requestKey_eq_iff.1 same field member]

/-- Requests have the same key exactly if their records have. -/
theorem Vocabulary.Realises.requestKey_eq_iff
    {record other : Declaration} {request otherRequest : Payload}
    (realises : voc.Realises after record request)
    (otherRealises : voc.Realises after other otherRequest)
    (wellFormed : voc.WellFormed) (keyed : voc.Keyed record) (otherKeyed : voc.Keyed other) :
    voc.sec.requestKey request = voc.sec.requestKey otherRequest ↔
      voc.key record = voc.key other := by
  rw [Section.requestKey_eq_iff, Vocabulary.key_eq_iff]
  apply forall_congr'
  intro field
  apply forall_congr'
  intro member
  by_cases isRel : field ∈ voc.sec.lookupRelFields
  · obtain ⟨rel, target⟩ := Option.isSome_iff_exists.1 (wellFormed.keys field isRel).2
    obtain ⟨name, named⟩ := keyed.peers member isRel
    obtain ⟨otherName, otherNamed⟩ := otherKeyed.peers member isRel
    obtain ⟨peer, found, written⟩ := realises.keys field isRel rel name target named
    obtain ⟨otherPeer, otherFound, otherWritten⟩ :=
      otherRealises.keys field isRel rel otherName target otherNamed
    rw [written, otherWritten, named, otherNamed]
    simp only [isRel, Option.some.injEq, Json.str.injEq, forall_const, not_true_eq_false,
      IsEmpty.forall_iff, and_true]
    constructor
    · intro sameId
      obtain ⟨inNodes, hasName⟩ := Rel.node?_eq_some found
      obtain ⟨otherInNodes, otherHasName⟩ := Rel.node?_eq_some otherFound
      have same : peer = otherPeer :=
        List.inj_on_of_nodup_map (after.distinct rel.peerKind) inNodes otherInNodes sameId
      rw [← hasName, ← otherHasName, same]
    · rintro rfl
      rw [found, Option.some.injEq] at otherFound
      rw [otherFound]
  · have known := wellFormed.keyed.attributes field member isRel
    rw [realises.values field known, otherRealises.values field known]
    simp [isRel]

/-- A request with its whole key finds a node made for another only if the keys are the same. -/
theorem Section.requestKey_of_made
    {sec : Section} (keyed : sec.Keyed) {taken : List String} {first second : Payload}
    {node : Node} (made : sec.Made taken first node) (hit : sec.hits second node = true)
    (whole : ∀ field ∈ sec.lookup, ∃ value, second.get? field = some value)
    (firstWhole : ∀ field ∈ sec.lookup, ∃ value, first.get? field = some value)
    (reference : ∀ field ∈ sec.lookupRelFields, ∀ value, second.get? field = some value →
      ∃ id, value = .str id) :
    sec.requestKey second = sec.requestKey first := by
  obtain ⟨resolved, id, -, rfl⟩ := made
  rw [Section.requestKey_eq_iff]
  intro field member
  obtain ⟨value, given⟩ := whole field member
  obtain ⟨firstValue, firstGiven⟩ := firstWhole field member
  have passes := (sec.hits_iff second _).1 hit field member value given
  rw [given, firstGiven, Option.some.injEq]
  by_cases isRel : field ∈ sec.lookupRelFields
  · obtain ⟨peer, rfl⟩ := reference field isRel value given
    obtain ⟨firstPeer, rfl⟩ := resolved field isRel firstValue firstGiven
    rw [passes_lookupFilter_of_mem isRel, Node.ofPayload] at passes
    simpa [keyed.relationships field isRel, firstGiven, peerIds] using passes
  · rw [passes_lookupFilter_of_not_mem isRel, Node.ofPayload] at passes
    have same := of_decide_eq_true passes
    simp only [keyed.attributes field member isRel, if_true, firstGiven,
      Option.getD_some] at same
    exact same.symm

/-! ## Writing records -/

/-- An attribute ends up with the value the last of the records gives it. -/
theorem attributes_writeAll
    {sec : Section} {field : String} (known : field ∈ sec.kind.attributes)
    {records : List Declaration} {requests : List Payload}
    (alike : List.Forall₂ (fun record request => request.get? field = record.values field)
      records requests) (node : Node) :
    (sec.upserting.writeAll requests node).attributes field =
      (latest field records).getD (node.attributes field) := by
  induction alike generalizing node with
  | nil => rfl
  | @cons record request records requests same alike induction =>
      have written : (sec.upserting.write request node).attributes field =
          (request.get? field).getD (node.attributes field) := by
        have assigned := Node.assignValues_attributes sec.kind node request field
        rw [if_pos known] at assigned
        exact assigned
      rw [Upserting.writeAll_cons, induction, written, same, latest]
      rcases latest field records with _ | value
      · rfl
      · rfl

/-- The default of the last value is hidden by any of the records that gives one. -/
theorem latest_getD_of_mem
    {record : Declaration} {records : List Declaration} (member : record ∈ records)
    (field : String) (value : Json) :
    (latest field records).getD ((record.values field).getD value) =
      (latest field records).getD value := by
  rcases given : record.values field with _ | own
  · rfl
  · have some : (latest field records).isSome := by
      induction records with
      | nil => cases member
      | cons first rest induction =>
          rw [latest, Option.isSome_or]
          rcases List.mem_cons.1 member with rfl | later
          · simp [given]
          · simp [induction later]
    obtain ⟨last, isLast⟩ := Option.isSome_iff_exists.1 some
    rw [isLast]
    rfl

theorem relations_writeAll (sec : Section) (requests : List Payload) (node : Node) :
    (sec.upserting.writeAll requests node).relations = node.relations := by
  induction requests generalizing node with
  | nil => rfl
  | cons request rest induction =>
      rw [Upserting.writeAll_cons, induction]
      exact Node.assignValues_relations sec.kind node request

theorem id_write (sec : Section) (request : Payload) (node : Node) :
    (sec.upserting.write request node).id = node.id :=
  Node.assignValues_id sec.kind node request

/-- The first of some requests belongs to the first of their records. -/
theorem exists_find?_of_forall₂
    {Record Request : Type} {Related : Record → Request → Prop} {picks : Record → Bool}
    {picked : Request → Bool}
    {records : List Record} {requests : List Request}
    (related : List.Forall₂ Related records requests)
    (same : ∀ record request, Related record request →
      (picks record = true ↔ picked request = true))
    {request : Request} (found : requests.find? picked = some request) :
    ∃ record, records.find? picks = some record ∧ Related record request := by
  have filtered : List.Forall₂ Related (records.filter picks) (requests.filter picked) :=
    List.rel_filter (fun record request isRelated => same record request isRelated) related
  rw [← List.head?_filter] at found
  rcases heads : requests.filter picked with _ | ⟨first, rest⟩
  · rw [heads] at found
    cases found
  · rw [heads, List.head?_cons, Option.some.injEq] at found
    subst found
    rw [heads] at filtered
    rcases kept : records.filter picks with _ | ⟨record, others⟩
    · rw [kept] at filtered
      cases filtered
    · rw [kept] at filtered
      refine ⟨record, ?_, (List.forall₂_cons.1 filtered).1⟩
      rw [← List.head?_filter, kept]
      rfl

/-! ## Serving the records of a section -/

/-- The records of a section have been served, against contents that keep their references. -/
structure Vocabulary.Served (voc : Vocabulary) (before after : Contents)
    (records : List Declaration) (requests : List Payload) : Prop where
  wellFormed : voc.WellFormed
  realised : List.Forall₂
    (fun record request => voc.Realises after record request ∧ voc.Keyed record) records requests
  serves : voc.sec.upserting.Serves (voc.sec.Made before.mentioned) requests
    (before.nodes voc.sec.kind) (after.nodes voc.sec.kind)
  steady : ∀ field ∈ voc.sec.lookupRelFields, ∀ rel, voc.targets.lookup field = some rel →
    rel.Steady before after

namespace Vocabulary.Served

variable {records : List Declaration} {requests : List Payload}

/-- The request of a record finds the node the record speaks of. -/
theorem find?_before
    (served : voc.Served before after records requests) {record : Declaration}
    {request : Payload} (realises : voc.Realises after record request)
    (keyed : voc.Keyed record) :
    (before.nodes voc.sec.kind).find? (voc.sec.upserting.hits request) =
      voc.subject before record := by
  apply List.find?_congr
  intro node member
  rw [← speaks_eq_of_mem served.wellFormed served.steady record member,
    ← realises.hits_eq served.wellFormed keyed]
  rfl

theorem find?_after
    (served : voc.Served before after records requests) {record : Declaration}
    {request : Payload} (realises : voc.Realises after record request)
    (keyed : voc.Keyed record) :
    (after.nodes voc.sec.kind).find? (voc.sec.upserting.hits request) =
      voc.subject after record := by
  rw [subject, ← realises.hits_eq served.wellFormed keyed]
  rfl

theorem exists_request
    (served : voc.Served before after records requests) {record : Declaration}
    (member : record ∈ records) :
    ∃ request ∈ requests, voc.Realises after record request ∧ voc.Keyed record := by
  obtain ⟨index, bound, rfl⟩ := List.getElem_of_mem member
  have length := served.realised.length_eq
  have related := served.realised.get bound (length ▸ bound)
  exact ⟨_, List.getElem_mem _, related⟩

/-- The requests aimed at a node are those of the records that speak of it. -/
theorem aimed
    (served : voc.Served before after records requests) (node : Node) :
    List.Forall₂ (fun record request => voc.Realises after record request ∧ voc.Keyed record)
      (voc.speakingOf before node records)
      (voc.sec.upserting.aimedAt Node.id (before.nodes voc.sec.kind) node.id requests) := by
  apply List.rel_filter _ served.realised
  rintro record request ⟨realises, keyed⟩
  dsimp only
  rw [served.find?_before realises keyed]

/-- A node that was there has the last values given, and its old relationships. -/
theorem subject_of_present
    (served : voc.Served before after records requests) {record : Declaration}
    (member : record ∈ records) {node : Node}
    (found : voc.subject before record = some node) :
    ∃ later, voc.subject after record = some later ∧ later.id = node.id ∧
      later.relations = node.relations ∧
      ∀ field ∈ voc.sec.kind.attributes, later.attributes field =
        (latest field (voc.speakingOf before node records)).getD (node.attributes field) := by
  obtain ⟨request, -, realises, keyed⟩ := served.exists_request member
  rw [← served.find?_before realises keyed] at found
  have landed := served.serves.find?_of_present (id_write voc.sec)
    (fun _ _ made => Section.hits_of_made served.wellFormed.keyed made)
    (fun _ _ made => Section.write_of_made made) (after.distinct voc.sec.kind) found
  rw [served.find?_after realises keyed] at landed
  refine ⟨_, landed, Upserting.identify_writeAll (id_write voc.sec) _ node,
    relations_writeAll voc.sec _ node, ?_⟩
  intro field known
  apply attributes_writeAll known
  apply (served.aimed node).imp
  rintro other otherRequest ⟨otherRealises, -⟩
  exact otherRealises.values field known

/-- A node that was not there is made from the first record that speaks of it. -/
theorem subject_of_absent
    (served : voc.Served before after records requests) {record : Declaration}
    (member : record ∈ records) (absent : voc.subject before record = none) :
    ∃ later first firstRequest, voc.subject after record = some later ∧
      (records.find? fun other => voc.key other = voc.key record) = some first ∧
      voc.Realises after first firstRequest ∧
      (∀ field ∈ voc.sec.kind.relationships, later.relations field =
        ((firstRequest.get? field).map peerIds).getD []) ∧
      ∀ field ∈ voc.sec.kind.attributes, later.attributes field =
        (latest field (records.filter fun other => voc.key other = voc.key record)).getD
          (voc.sec.kind.defaultValue field) := by
  obtain ⟨request, inRequests, realises, keyed⟩ := served.exists_request member
  rw [← served.find?_before realises keyed] at absent
  have ofRequest : ∀ other ∈ requests, ∃ record, voc.Realises after record other ∧
      voc.Keyed record := by
    intro other isOther
    obtain ⟨index, bound, rfl⟩ := List.getElem_of_mem isOther
    have length := served.realised.length_eq
    exact ⟨_, served.realised.get (length ▸ bound) bound⟩
  have whole : ∀ other ∈ requests, ∀ field ∈ voc.sec.lookup,
      ∃ value, other.get? field = some value ∧
        (field ∈ voc.sec.lookupRelFields → ∃ id, value = .str id) := by
    intro other isOther field inKey
    obtain ⟨itsRecord, itRealises, itKeyed⟩ := ofRequest other isOther
    by_cases isRel : field ∈ voc.sec.lookupRelFields
    · obtain ⟨rel, target⟩ := Option.isSome_iff_exists.1 (served.wellFormed.keys field isRel).2
      obtain ⟨name, named⟩ := itKeyed.peers inKey isRel
      obtain ⟨peer, -, written⟩ := itRealises.keys field isRel rel name target named
      exact ⟨_, written, fun _ => ⟨peer.id, rfl⟩⟩
    · obtain ⟨value, given⟩ := itKeyed.values inKey isRel
      exact ⟨value,
        (itRealises.values field (served.wellFormed.keyed.attributes field inKey isRel)).trans
          given, fun isRel' => absurd isRel' isRel⟩
  have own : ∀ first ∈ requests, ∀ second ∈ requests, ∀ node,
      voc.sec.Made before.mentioned first node → voc.sec.upserting.hits second node = true →
        voc.sec.requestKey second = voc.sec.requestKey first := by
    intro first isFirst second isSecond node made hit
    apply Section.requestKey_of_made served.wellFormed.keyed made hit
    · intro field inKey
      obtain ⟨value, given, -⟩ := whole second isSecond field inKey
      exact ⟨value, given⟩
    · intro field inKey
      obtain ⟨value, given, -⟩ := whole first isFirst field inKey
      exact ⟨value, given⟩
    · intro field isRel value given
      obtain ⟨other, isOther, reference⟩ :=
        whole second isSecond field (served.wellFormed.keys field isRel).1
      rw [given, Option.some.injEq] at isOther
      exact isOther ▸ reference isRel
  obtain ⟨firstRequest, node, isFirst, ⟨-, id, -, made⟩, landed⟩ :=
    served.serves.find?_of_absent voc.sec.requestKey (id_write voc.sec)
      (fun _ _ made => Section.hits_of_made served.wellFormed.keyed made)
      (fun _ _ made => Section.write_of_made made) (after.distinct voc.sec.kind)
      (fun _ _ _ _ same => Section.hits_congr same) own inRequests absent
  have sameKey : ∀ other otherRequest,
      voc.Realises after other otherRequest ∧ voc.Keyed other →
        (decide (voc.key other = voc.key record) = true ↔
          decide (voc.sec.requestKey otherRequest = voc.sec.requestKey request) = true) := by
    rintro other otherRequest ⟨otherRealises, otherKeyed⟩
    rw [decide_eq_true_eq, decide_eq_true_eq,
      otherRealises.requestKey_eq_iff realises served.wellFormed otherKeyed keyed]
  obtain ⟨first, firstOf, firstRealises, firstKeyed⟩ :=
    exists_find?_of_forall₂ served.realised sameKey isFirst
  rw [served.find?_after realises keyed] at landed
  refine ⟨_, first, firstRequest, landed, firstOf, firstRealises, ?_, ?_⟩
  · intro field isRel
    rw [relations_writeAll, made, Node.ofPayload]
    exact if_pos isRel
  · intro field known
    have alike := List.rel_filter sameKey served.realised
    rw [attributes_writeAll known (alike.imp fun other otherRequest related =>
      related.1.values field known) node, made, Node.ofPayload]
    have first_mem : first ∈ records.filter fun other => voc.key other = voc.key record := by
      apply List.mem_filter.2
      refine ⟨List.mem_of_find?_eq_some firstOf, ?_⟩
      have alike := List.find?_some firstOf
      exact alike
    dsimp only
    rw [if_pos known, firstRealises.values field known]
    exact latest_getD_of_mem first_mem field _

end Vocabulary.Served

/-! ## Which records come true -/

/-- Peers that were there are there, under the names the seed leaves them with. -/
structure Rel.Settled (rel : Rel) (dataset : Dataset) (before after : Contents) : Prop where
  kept : ∀ peer ∈ before.nodes rel.peerKind, ∃ later ∈ after.nodes rel.peerKind,
    later.id = peer.id ∧ later.attributes rel.lookupAttr = settledName dataset before rel peer
  fresh : ∀ later ∈ after.nodes rel.peerKind, later.id ∈ before.mentioned →
    ∃ peer ∈ before.nodes rel.peerKind, peer.id = later.id

/-- The relationships of a node that was there lead to a peer now if they led to it before. -/
theorem Rel.Settled.leads_iff
    {rel : Rel} {dataset : Dataset} (settled : rel.Settled dataset before after)
    {kind : Kind} {node later : Node} {field : String} (member : node ∈ before.nodes kind)
    (isRel : field ∈ kind.relationships) (same : later.relations = node.relations)
    (name : Json) :
    rel.Leads after later field name ↔
      ∃ peer ∈ before.nodes rel.peerKind,
        node.relations field = [peer.id] ∧ settledName dataset before rel peer = name := by
  rw [Rel.Leads, same]
  constructor
  · rintro ⟨now, inAfter, leads, named⟩
    have mentioned : now.id ∈ before.mentioned := by
      apply (before.mem_mentioned_iff now.id).2
      refine ⟨kind, node, member, Or.inr ⟨field, isRel, ?_⟩⟩
      rw [leads]
      exact List.mem_singleton_self now.id
    obtain ⟨peer, inBefore, sameId⟩ := settled.fresh now inAfter mentioned
    obtain ⟨other, otherInAfter, otherId, otherName⟩ := settled.kept peer inBefore
    have isNow : other = now :=
      List.inj_on_of_nodup_map (after.distinct rel.peerKind) otherInAfter inAfter
        (otherId.trans sameId)
    rw [isNow, named] at otherName
    exact ⟨peer, inBefore, by rw [leads, sameId], otherName.symm⟩
  · rintro ⟨peer, inBefore, leads, named⟩
    obtain ⟨now, inAfter, sameId, nowNamed⟩ := settled.kept peer inBefore
    exact ⟨now, inAfter, by rw [leads, sameId], nowNamed.trans named⟩

/-- The relationships of a new node lead to the peers its record names. -/
theorem Vocabulary.Realises.leads_iff
    {first : Declaration} {request : Payload} (realises : voc.Realises after first request)
    {field : String} {rel : Rel} (target : voc.targets.lookup field = some rel)
    (unmixed : first.values field = none) {later : Node}
    (relations : later.relations field = ((request.get? field).map peerIds).getD [])
    (name : Json) :
    rel.Leads after later field name ↔ first.peers field = some name := by
  rw [Rel.Leads, relations]
  rcases named : first.peers field with _ | given
  · rw [realises.unnamed field rel target named, unmixed]
    simp
  · obtain ⟨peer, inAfter, hasName, linked⟩ := realises.named field rel given target named
    rw [linked, Option.getD_some, Option.some.injEq]
    constructor
    · rintro ⟨other, otherInAfter, sameIds, otherName⟩
      have same : peer = other :=
        List.inj_on_of_nodup_map (after.distinct rel.peerKind) inAfter otherInAfter
          (List.singleton_inj.1 sameIds)
      rw [← hasName, same, otherName]
    · rintro rfl
      exact ⟨peer, inAfter, rfl, hasName⟩

/-- A record holds if it settles, when both judge its values and its peers alike. -/
theorem Vocabulary.holds_iff_of_subject
    {dataset : Dataset} {records : List Declaration} {declaration : Declaration} {later : Node}
    (isLater : voc.subject after declaration = some later) (keyed : voc.Keyed declaration)
    (values : ∀ field value, field ∈ voc.sec.kind.attributes →
      (later.attributes field = value ↔
        voc.settledValue before records declaration field = value))
    (peers : ∀ field name, declaration.peers field = some name →
      ((∃ rel, voc.targets.lookup field = some rel ∧ rel.Leads after later field name) ↔
        voc.SettledPeer dataset before records declaration field name)) :
    voc.Holds after declaration ↔ voc.Settles dataset before records declaration := by
  rw [Holds, isLater]
  constructor
  · rintro ⟨same, isSame, holdsValues, holdsPeers⟩
    cases isSame
    refine ⟨keyed, ?_, ?_⟩
    · intro field value given
      obtain ⟨known, holds⟩ := holdsValues field value given
      exact ⟨known, (values field value known).1 holds⟩
    · intro field name named
      exact (peers field name named).1 (holdsPeers field name named)
  · rintro ⟨-, settlesValues, settlesPeers⟩
    refine ⟨later, rfl, ?_, ?_⟩
    · intro field value given
      obtain ⟨known, settles⟩ := settlesValues field value given
      exact ⟨known, (values field value known).2 settles⟩
    · intro field name named
      exact (peers field name named).2 (settlesPeers field name named)

/-- What a record says comes true exactly if it settles. -/
theorem Vocabulary.Served.holds_iff
    {records : List Declaration} {requests : List Payload} {dataset : Dataset}
    (served : voc.Served before after records requests)
    (settled : ∀ field rel, voc.targets.lookup field = some rel →
      rel.Settled dataset before after)
    (unmixed : ∀ record ∈ records, ∀ field rel, voc.targets.lookup field = some rel →
      record.values field = none)
    {declaration record : Declaration} (member : record ∈ records)
    (sameKey : voc.key record = voc.key declaration)
    (targeted : ∀ field name, declaration.peers field = some name →
      ∃ rel, voc.targets.lookup field = some rel) :
    voc.Holds after declaration ↔ voc.Settles dataset before records declaration := by
  obtain ⟨-, -, -, keyedRecord⟩ := served.exists_request member
  have keyed : voc.Keyed declaration := by
    rw [Keyed, ← sameKey]
    exact keyedRecord
  have earlier := voc.subject_congr sameKey before
  have now := voc.subject_congr sameKey after
  rcases found : voc.subject before declaration with _ | node
  · obtain ⟨later, first, request, isLater, isFirst, realises, relations, attributes⟩ :=
      served.subject_of_absent member (earlier.trans found)
    rw [sameKey] at isFirst attributes
    apply holds_iff_of_subject (now.symm.trans isLater) keyed
    · intro field value known
      rw [settledValue, found, attributes field known]
    · intro field name named
      obtain ⟨rel, target⟩ := targeted field name named
      have leads := realises.leads_iff target
        (unmixed first (List.mem_of_find?_eq_some isFirst) field rel target)
        (relations field (served.wellFormed.targets field rel target)) name
      rw [SettledPeer, found, isFirst, target]
      simp [leads]
  · obtain ⟨later, isLater, -, relations, attributes⟩ :=
      served.subject_of_present member (earlier.trans found)
    have inBefore : node ∈ before.nodes voc.sec.kind := List.mem_of_find?_eq_some found
    apply holds_iff_of_subject (now.symm.trans isLater) keyed
    · intro field value known
      rw [settledValue, found, attributes field known]
    · intro field name named
      obtain ⟨rel, target⟩ := targeted field name named
      have leads := (settled field rel target).leads_iff inBefore
        (served.wellFormed.targets field rel target) relations name
      rw [SettledPeer, found, target]
      simp [leads]

end Snapl.Intent
