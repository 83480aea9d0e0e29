import Mathlib.Data.String.Basic
import Snapl.Observability.Models

/-!
# The structural diff

A forward pass compares every compared field of every intended entity with
what the device reports.  A reverse pass then reports configured entities
intent never asked for.  What differs between the two kinds of entity is data,
an `EntitySpec`.
-/

namespace Snapl.Observability

open Snapl.Library Snapl.Intent

/-- The comparison rules of one kind of entity. -/
structure EntitySpec where
  kind : String
  fields : List String
  pathHead : String
  pathTail : String
  valueFields : List String
  deviceDefaults : List (String × Json)
  protectedKeys : List String
  skipWhenNone : List String

def interfaceSpec : EntitySpec where
  kind := "interface"
  fields := ["description", "ip_address", "prefix_length", "enabled", "mtu"]
  pathHead := "/interface[name="
  pathTail := "]"
  valueFields := ["description", "ip_address", "prefix_length", "mtu"]
  deviceDefaults := [("mtu", .int 9232)]
  protectedKeys := ["mgmt0", "system0"]
  skipWhenNone := ["mtu"]

def bgpSessionSpec : EntitySpec where
  kind := "bgp_session"
  fields := ["peer_address", "peer_asn", "peer_group", "enabled"]
  pathHead :=
    "/network-instance[name=default]/protocols/bgp/neighbor[peer-address="
  pathTail := "]"
  valueFields := ["peer_asn", "peer_group"]
  deviceDefaults := []
  protectedKeys := []
  skipWhenNone := []

/-- The path of the entity with this key. -/
def EntitySpec.path (spec : EntitySpec) (key : String) : String :=
  spec.pathHead ++ key ++ spec.pathTail

/-- The attributes of an interface the diff reads. -/
def interfaceAttribute (iface : Interface) : String → Json
  | "description" => .ofString? iface.description
  | "ip_address" => .ofString? iface.ipAddress
  | "prefix_length" => .ofInt? iface.prefixLength
  | "enabled" => .bool iface.enabled
  | "mtu" => .ofInt? iface.mtu
  | _ => .null

/-- The attributes of a session the diff reads. -/
def sessionAttribute (session : BGPSession) : String → Json
  | "peer_address" => .str session.peerAddress
  | "peer_asn" => .int session.peerAsn
  | "peer_group" => .ofString? session.peerGroup
  | "enabled" => .bool session.enabled
  | _ => .null

/-- Compare one field of an entity. -/
def diffField
    (spec : EntitySpec) (getattr : String → Json) (path : String)
    (actualEntry : Json) (field : String) : Option DriftItem :=
  if getattr field = .null ∧ field ∈ spec.skipWhenNone then none
  else if equal : Json.pyEq (getattr field) (actualEntry.field field) = true then
    none
  else
    some ⟨path ++ "/" ++ field, getattr field, actualEntry.field field,
      spec.kind, false, by simpa using equal⟩

/-- Compare one entity with the entry of its path. -/
def diffEntity
    (spec : EntitySpec) (getattr : String → Json) (key : String)
    (actualData : Dict String Json) : List DriftItem :=
  spec.fields.filterMap
    (diffField spec getattr (spec.path key)
      ((actualData.get? (spec.path key)).getD .null))

/-- A text without its last characters, when these are `suffix`. -/
def withoutSuffix? (suffix chars : List Char) : Option (List Char) :=
  if suffix.isSuffixOf chars then some (chars.take (chars.length - suffix.length))
  else none

/--
The key a path matches: the text between the head and the tail of the
template, on one line and not empty.  The end of the pattern also matches
before a final line break.
-/
def EntitySpec.key? (spec : EntitySpec) (path : String) : Option String :=
  if spec.pathHead.toList.isPrefixOf path.toList then
    let rest := path.toList.drop spec.pathHead.toList.length
    (((withoutSuffix? spec.pathTail.toList rest).or
        (withoutSuffix? (spec.pathTail.toList ++ ['\n']) rest)).filter
      fun key => key ≠ [] ∧ '\n' ∉ key).map String.ofList
  else none

/-- One value of an entity nobody intended. -/
def undesiredField
    (spec : EntitySpec) (path : String) (entry : Json) (field : String) :
    Option DriftItem :=
  if unset : entry.field field = .null then none
  else if Json.pyEq (entry.field field)
      ((spec.deviceDefaults.lookup field).getD .null) = true then none
  else
    some ⟨path ++ "/" ++ field, .null, entry.field field, spec.kind, true,
      by rw [Bool.eq_false_iff, ne_eq, Json.pyEq_null_iff]; exact unset⟩

/-- The values of one entry, when intent does not ask for it. -/
def undesiredEntity
    (spec : EntitySpec) (actualData : Dict String Json)
    (desiredKeys : List String) (path : String) : List DriftItem :=
  match spec.key? path with
  | none => []
  | some key =>
      if key ∈ spec.protectedKeys ∨ key ∈ desiredKeys then []
      else
        spec.valueFields.filterMap
          (undesiredField spec path ((actualData.get? path).getD .null))

/-- Entities present on the device but absent from intent, in path order. -/
def undesiredEntities
    (spec : EntitySpec) (actualData : Dict String Json)
    (desiredKeys : List String) : List DriftItem :=
  (actualData.keys.mergeSort fun left right => decide (¬ right < left)).flatMap
    (undesiredEntity spec actualData desiredKeys)

/-- The items of the forward pass. -/
def forwardItems (desired : DesiredState) (actualData : Dict String Json) :
    List DriftItem :=
  (desired.interfaces.flatMap fun iface =>
    diffEntity interfaceSpec (interfaceAttribute iface) iface.name actualData) ++
  desired.bgpSessions.flatMap fun session =>
    diffEntity bgpSessionSpec (sessionAttribute session) session.peerAddress
      actualData

/-- The items of the reverse pass. -/
def undesiredItems (desired : DesiredState) (actualData : Dict String Json) :
    List DriftItem :=
  undesiredEntities interfaceSpec actualData
    (desired.interfaces.map Interface.name) ++
  undesiredEntities bgpSessionSpec actualData
    (desired.bgpSessions.map BGPSession.peerAddress)

/-- Compare a desired state with actual collected data. -/
def diffDesiredVsActual
    (desired : DesiredState) (actualData : Dict String Json) : List DriftItem :=
  forwardItems desired actualData ++ undesiredItems desired actualData

theorem undesired_of_mem_undesiredItems
    {desired : DesiredState} {actualData : Dict String Json} {item : DriftItem}
    (member : item ∈ undesiredItems desired actualData) :
    item.undesired = true := by
  have entity : ∀ (spec : EntitySpec) (keys : List String),
      item ∈ undesiredEntities spec actualData keys → item.undesired = true := by
    intro spec keys member
    obtain ⟨path, -, member⟩ := List.mem_flatMap.1 member
    rw [undesiredEntity] at member
    split at member
    · cases member
    · split_ifs at member
      · cases member
      · obtain ⟨field, -, found⟩ := List.mem_filterMap.1 member
        rw [undesiredField] at found
        split_ifs at found
        cases found
        rfl
  rcases List.mem_append.1 member with member | member
  · exact entity _ _ member
  · exact entity _ _ member

theorem forward_of_mem_forwardItems
    {desired : DesiredState} {actualData : Dict String Json} {item : DriftItem}
    (member : item ∈ forwardItems desired actualData) :
    item.undesired = false := by
  have entity : ∀ (spec : EntitySpec) (getattr : String → Json) (key : String),
      item ∈ diffEntity spec getattr key actualData →
        item.undesired = false := by
    intro spec getattr key member
    obtain ⟨field, -, found⟩ := List.mem_filterMap.1 member
    rw [diffField] at found
    split_ifs at found
    cases found
    rfl
  rcases List.mem_append.1 member with member | member
  · obtain ⟨iface, -, member⟩ := List.mem_flatMap.1 member
    exact entity _ _ _ member
  · obtain ⟨session, -, member⟩ := List.mem_flatMap.1 member
    exact entity _ _ _ member

/-- All items are undesired exactly when the forward pass finds nothing. -/
theorem all_undesired_iff
    (desired : DesiredState) (actualData : Dict String Json) :
    (∀ item ∈ diffDesiredVsActual desired actualData, item.undesired = true) ↔
      forwardItems desired actualData = [] := by
  constructor
  · intro all
    rw [List.eq_nil_iff_forall_not_mem]
    intro item member
    have undesired := all item (List.mem_append_left _ member)
    rw [forward_of_mem_forwardItems member] at undesired
    cases undesired
  · intro none item member
    rw [diffDesiredVsActual, none, List.nil_append] at member
    exact undesired_of_mem_undesiredItems member

/-- Every compared field that is managed equals the reported one. -/
def Agrees (spec : EntitySpec) (getattr : String → Json) (entry : Json) : Prop :=
  ∀ field ∈ spec.fields,
    (getattr field = .null ∧ field ∈ spec.skipWhenNone) ∨
      Json.pyEq (getattr field) (entry.field field) = true

theorem diffEntity_eq_nil_iff
    (spec : EntitySpec) (getattr : String → Json) (key : String)
    (actualData : Dict String Json) :
    diffEntity spec getattr key actualData = [] ↔
      Agrees spec getattr ((actualData.get? (spec.path key)).getD .null) := by
  rw [diffEntity, List.filterMap_eq_nil_iff]
  refine forall₂_congr fun field _ => ?_
  rw [diffField]
  split_ifs with skipped equal
  · simp [skipped]
  · simp [equal]
  · simp [skipped, equal]

theorem forwardItems_eq_nil_iff
    (desired : DesiredState) (actualData : Dict String Json) :
    forwardItems desired actualData = [] ↔
      (∀ iface ∈ desired.interfaces,
        Agrees interfaceSpec (interfaceAttribute iface)
          ((actualData.get? (interfaceSpec.path iface.name)).getD .null)) ∧
      ∀ session ∈ desired.bgpSessions,
        Agrees bgpSessionSpec (sessionAttribute session)
          ((actualData.get? (bgpSessionSpec.path session.peerAddress)).getD
            .null) := by
  simp only [forwardItems, List.append_eq_nil_iff, List.flatMap_eq_nil_iff,
    diffEntity_eq_nil_iff]

end Snapl.Observability
