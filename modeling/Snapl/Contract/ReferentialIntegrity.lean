import Snapl.Contract.VerbatimRendering
import Snapl.Executor.Unique

/-!
# Peer groups and address families

The `bgp` container defines the peer groups and address families its neighbors
use.  The definitions are filtered by a comparison that ignores case, the uses
are not: a group or family that differs from an earlier one in case only is used
and not defined.  Two families that differ in their separator only are defined
twice under one name.
-/

namespace Snapl.Contract

open Snapl.Library Snapl.Library.JsonText Snapl.Library.KeyedTree Snapl.Intent Snapl.Executor

/-- The entries of a list of a dictionary. -/
def entriesUnder (key : String) (container : Json) : List Json :=
  itemsOf (container.field key)

/-- A text of a dictionary. -/
def textUnder? (key : String) (entry : Json) : Option String :=
  match entry.field key with
  | .str value => some value
  | _ => none

/-- The texts the entries of a list of a dictionary have under a key. -/
def textsUnder (list key : String) (container : Json) : List (Option String) :=
  (entriesUnder list container).map (textUnder? key)

/-- A neighbor is the one of a session. -/
def NeighborOf (session : BGPSession) (entry : Json) : Prop :=
  ∃ fields, entry = .obj fields ∧
    fields.lookup "peer-address" = some (.str session.peerAddress) ∧
    fields.lookup "peer-as" = some (.int session.peerAsn) ∧
    fields.lookup "admin-state" = some (.str (adminState session.enabled)) ∧
    fields.lookup "peer-group" = (filled? session.peerGroup).map Json.str

/-- What a container refers to is defined in it, once and by the name that is used. -/
structure ReferentiallyComplete (sessions : List BGPSession) (container : Json) : Prop where
  neighbors : List.Forall₂ NeighborOf sessions (entriesUnder "neighbor" container)
  defined : ∀ neighbor ∈ entriesUnder "neighbor" container,
    ∀ group ∈ textUnder? "peer-group" neighbor,
      (textsUnder "group" "group-name" container).count (some group) = 1
  used : ∀ definition ∈ entriesUnder "group" container,
    ∃ group ∈ textUnder? "group-name" definition,
      ∃ neighbor ∈ entriesUnder "neighbor" container, textUnder? "peer-group" neighbor = some group
  families : ∀ session ∈ sessions,
    (textsUnder "afi-safi" "afi-safi-name" container).count
      (some (String.ofList (hyphenated session.addressFamily))) = 1

section

variable (text : PyText) (routerId : String) (sessions : List BGPSession)

theorem textUnder?_namedValue (key name : String) :
    textUnder? key (namedValue key name) = some name := by
  rw [namedValue, textUnder?, Json.field, List.lookup_cons_self]
  rfl

theorem neighborOf_neighborFields (session : BGPSession) :
    NeighborOf session (.obj (neighborFields session)) := by
  refine ⟨neighborFields session, rfl, rfl, rfl, rfl, ?_⟩
  rw [neighborFields]
  rcases filled? session.peerGroup with _ | group
  · rfl
  · rfl

theorem textUnder?_peerGroup (session : BGPSession) :
    textUnder? "peer-group" (.obj (neighborFields session)) = filled? session.peerGroup := by
  obtain ⟨fields, equal, -, -, -, group⟩ := neighborOf_neighborFields session
  rw [equal, textUnder?, Json.field, group]
  rcases filled? session.peerGroup with _ | group
  · rfl
  · rfl

theorem entriesUnder_neighbor :
    entriesUnder "neighbor" (.obj (bgpFields text routerId sessions)) =
      sessions.map fun session => .obj (neighborFields session) := by
  have present : ("neighbor", Json.arr (sessions.map fun session => .obj (neighborFields session))) ∈
      bgpFields text routerId sessions := by
    apply List.mem_append_right
    exact List.mem_cons_self
  rw [entriesUnder, Json.field, lookup_of_mem (bgpFields_keys_nodup text routerId sessions) present]
  rfl

theorem entriesUnder_families :
    entriesUnder "afi-safi" (.obj (bgpFields text routerId sessions)) =
      (unique text (sessions.map BGPSession.addressFamily)).map fun family =>
        namedValue "afi-safi-name" (String.ofList (hyphenated family)) :=
  rfl

theorem entriesUnder_groups :
    entriesUnder "group" (.obj (bgpFields text routerId sessions)) =
      (groupNames text sessions).map (namedValue "group-name") := by
  rw [bgpFields]
  rcases groupNames text sessions with _ | ⟨first, rest⟩
  · rfl
  · rfl

theorem textsUnder_groups :
    textsUnder "group" "group-name" (.obj (bgpFields text routerId sessions)) =
      (groupNames text sessions).map some := by
  rw [textsUnder, entriesUnder_groups, List.map_map]
  apply List.map_congr_left
  intro group _
  exact textUnder?_namedValue "group-name" group

theorem textsUnder_families :
    textsUnder "afi-safi" "afi-safi-name" (.obj (bgpFields text routerId sessions)) =
      (unique text (sessions.map BGPSession.addressFamily)).map fun family =>
        some (String.ofList (hyphenated family)) := by
  rw [textsUnder, entriesUnder_families, List.map_map]
  apply List.map_congr_left
  intro family _
  exact textUnder?_namedValue "afi-safi-name" (String.ofList (hyphenated family))

end

/-- The peer groups of the sessions. -/
def peerGroups (sessions : List BGPSession) : List String :=
  sessions.filterMap fun session => filled? session.peerGroup

/--
One of the families that no earlier one is spelled like ignoring case has the
name of the session's family.
-/
def FamiliesNamedOnce (text : PyText) (sessions : List BGPSession) : Prop :=
  ∀ session ∈ sessions, ∃! family,
    FirstSpelling text (sessions.map BGPSession.addressFamily) family ∧
      hyphenated family = hyphenated session.addressFamily

section

variable {text : PyText} {routerId : String} {sessions : List BGPSession}

theorem groupNames_eq : groupNames text sessions = unique text (peerGroups sessions) := rfl

theorem count_group_eq_one_iff (group : String) :
    (textsUnder "group" "group-name" (.obj (bgpFields text routerId sessions))).count
        (some group) = 1 ↔ group ∈ unique text (peerGroups sessions) := by
  rw [textsUnder_groups, groupNames_eq,
    count_map_eq_one_iff (nodup_unique text (peerGroups sessions))]
  constructor
  · rintro ⟨other, ⟨member, same⟩, -⟩
    rw [← Option.some.inj same]
    exact member
  · intro member
    refine ⟨group, ⟨member, rfl⟩, ?_⟩
    rintro other ⟨-, same⟩
    exact Option.some.inj same

theorem count_family_eq_one_iff (session : BGPSession) :
    (textsUnder "afi-safi" "afi-safi-name" (.obj (bgpFields text routerId sessions))).count
        (some (String.ofList (hyphenated session.addressFamily))) = 1 ↔
      ∃! family, FirstSpelling text (sessions.map BGPSession.addressFamily) family ∧
        hyphenated family = hyphenated session.addressFamily := by
  rw [textsUnder_families, count_map_eq_one_iff (nodup_unique text _)]
  apply existsUnique_congr
  intro family
  rw [mem_unique_iff, Option.some.injEq, String.ofList_inj]

theorem mem_peerGroups_iff (group : String) :
    group ∈ peerGroups sessions ↔ ∃ session ∈ sessions, filled? session.peerGroup = some group :=
  List.mem_filterMap

/-- The rendered container is referentially complete exactly under these conditions. -/
theorem referentiallyComplete_bgpFields_iff :
    ReferentiallyComplete sessions (.obj (bgpFields text routerId sessions)) ↔
      SpelledAlike text (peerGroups sessions) ∧ FamiliesNamedOnce text sessions := by
  constructor
  · intro complete
    refine ⟨forall_mem_unique_iff.1 ?_, fun session member =>
      (count_family_eq_one_iff session).1 (complete.families session member)⟩
    intro group member
    obtain ⟨session, isSession, filled⟩ := (mem_peerGroups_iff group).1 member
    apply (count_group_eq_one_iff group).1
    apply complete.defined (.obj (neighborFields session))
    · rw [entriesUnder_neighbor]
      exact List.mem_map_of_mem isSession
    · rw [textUnder?_peerGroup]
      exact filled
  · rintro ⟨alike, named⟩
    refine ⟨?_, ?_, ?_, fun session member =>
      (count_family_eq_one_iff session).2 (named session member)⟩
    · rw [entriesUnder_neighbor, List.forall₂_map_right_iff, List.forall₂_same]
      intro session _
      exact neighborOf_neighborFields session
    · intro neighbor isNeighbor group isGroup
      rw [entriesUnder_neighbor] at isNeighbor
      obtain ⟨session, isSession, rfl⟩ := List.mem_map.1 isNeighbor
      rw [textUnder?_peerGroup] at isGroup
      apply (count_group_eq_one_iff group).2
      exact forall_mem_unique_iff.2 alike group
        ((mem_peerGroups_iff group).2 ⟨session, isSession, isGroup⟩)
    · intro definition isDefinition
      rw [entriesUnder_groups] at isDefinition
      obtain ⟨group, isGroup, rfl⟩ := List.mem_map.1 isDefinition
      obtain ⟨session, isSession, filled⟩ :=
        (mem_peerGroups_iff group).1 (mem_of_mem_uniqueFrom isGroup)
      refine ⟨group, textUnder?_namedValue "group-name" group, .obj (neighborFields session),
        ?_, ?_⟩
      · rw [entriesUnder_neighbor]
        exact List.mem_map_of_mem isSession
      · rw [textUnder?_peerGroup]
        exact filled

end

/-- The `bgp` container of a desired state. -/
def bgpContainer (text : PyText) (desired : DesiredState) : Except RenderError Json :=
  decode (bgpText text (selectRouterId text desired) desired.bgpSessions)

/-- A container without escapes is parsed exactly when its numbers can be written. -/
theorem bgpContainer_eq_ok_iff
    {text : PyText} {desired : DesiredState}
    (verbatim : VerbatimBgp text (selectRouterId text desired) desired.bgpSessions)
    (container : Json) :
    bgpContainer text desired = .ok container ↔
      (Convertible (autonomousSystem desired.bgpSessions) ∧
        ∀ session ∈ desired.bgpSessions, Convertible session.peerAsn) ∧
      container = .obj (bgpFields text (selectRouterId text desired) desired.bgpSessions) := by
  rw [← bgpText_succeeds_iff text (selectRouterId text desired), bgpContainer]
  constructor
  · intro decoded
    obtain ⟨chars, written, -⟩ := (decode_eq_ok_iff _ _).1 decoded
    have reads := bgpText_reads written verbatim.routerId
      (fun session member => (verbatim.sessions session member).1)
      (fun session member => (verbatim.sessions session member).2) verbatim.families
    rw [written, decode_of_reads reads] at decoded
    exact ⟨⟨chars, written⟩, (Except.ok.inj decoded).symm⟩
  · rintro ⟨⟨chars, written⟩, rfl⟩
    have reads := bgpText_reads written verbatim.routerId
      (fun session member => (verbatim.sessions session member).1)
      (fun session member => (verbatim.sessions session member).2) verbatim.families
    rw [written]
    exact decode_of_reads reads

/--
A container whose strings need no escaping is parsed and referentially complete
exactly when its numbers can be written, no two peer groups differ in case only,
and every session's family is the name of one family that is kept.
-/
theorem bgpContainer_complete_iff
    {text : PyText} {desired : DesiredState}
    (verbatim : VerbatimBgp text (selectRouterId text desired) desired.bgpSessions) :
    (∃ container, bgpContainer text desired = .ok container ∧
        ReferentiallyComplete desired.bgpSessions container) ↔
      (Convertible (autonomousSystem desired.bgpSessions) ∧
        ∀ session ∈ desired.bgpSessions, Convertible session.peerAsn) ∧
      SpelledAlike text (peerGroups desired.bgpSessions) ∧
      FamiliesNamedOnce text desired.bgpSessions := by
  rw [← referentiallyComplete_bgpFields_iff]
  constructor
  · rintro ⟨container, parsed, complete⟩
    obtain ⟨writable, rfl⟩ := (bgpContainer_eq_ok_iff verbatim container).1 parsed
    exact ⟨writable, complete⟩
  · rintro ⟨writable, complete⟩
    exact ⟨_, (bgpContainer_eq_ok_iff verbatim _).2 ⟨writable, rfl⟩, complete⟩

theorem sampleState_familiesNamedOnce :
    FamiliesNamedOnce PyText.ascii sampleState.bgpSessions := by
  intro session member
  rw [List.mem_singleton.1 member]
  have isFirst : FirstSpelling PyText.ascii ["ipv4_unicast"] "ipv4_unicast" :=
    ⟨[], [], rfl, fun _ impossible => absurd impossible List.not_mem_nil⟩
  refine ⟨"ipv4_unicast", ⟨isFirst, rfl⟩, ?_⟩
  rintro family ⟨first, -⟩
  exact List.mem_singleton.1 (mem_of_mem_uniqueFrom (mem_unique_iff.2 first))

theorem sampleState_complete :
    ∃ container, bgpContainer PyText.ascii sampleState = .ok container ∧
      ReferentiallyComplete sampleState.bgpSessions container := by
  have verbatim := (verbatim_of_plain sampleState_replayable.plain).bgp (List.cons_ne_nil _ _)
  apply (bgpContainer_complete_iff verbatim).2
  refine ⟨⟨sampleState_replayable.writable.localAsn, sampleState_replayable.writable.peerAsn⟩, ?_,
    sampleState_familiesNamedOnce⟩
  intro group member other otherMember _
  rw [List.mem_singleton.1 member, List.mem_singleton.1 otherMember]

/-- Two sessions whose peer groups differ in case only. -/
def twoSpellingsState : DesiredState where
  device := sampleDevice
  interfaces := []
  bgpSessions :=
    [⟨65001, "10.0.0.0", 65000, some "Spines", "ipv4_unicast", true⟩,
      ⟨65001, "10.0.0.2", 65000, some "spines", "ipv4_unicast", true⟩]

theorem twoSpellingsState_plain : PlainState PyText.ascii twoSpellingsState := by
  refine ⟨?_, ?_, ?_, ?_, ?_, ?_⟩ <;> decide +kernel

/-- The second neighbor's peer group is defined nowhere. -/
theorem undefined_peer_group :
    PlainState PyText.ascii twoSpellingsState ∧ twoSpellingsState.bgpSessions ≠ [] ∧
    ∃ container, bgpContainer PyText.ascii twoSpellingsState = .ok container ∧
      ¬ ReferentiallyComplete twoSpellingsState.bgpSessions container := by
  have verbatim := (verbatim_of_plain twoSpellingsState_plain).bgp (List.cons_ne_nil _ _)
  refine ⟨twoSpellingsState_plain, List.cons_ne_nil _ _, _,
    (bgpContainer_eq_ok_iff verbatim _).2 ⟨⟨by decide +kernel, by decide +kernel⟩, rfl⟩, ?_⟩
  intro complete
  have lower : PyText.ascii.lower "Spines" = PyText.ascii.lower "spines" := by
    apply String.toList_injective
    change ("Spines".map Char.toLower).toList = ("spines".map Char.toLower).toList
    rw [String.toList_map, String.toList_map]
    decide
  have alike := (referentiallyComplete_bgpFields_iff.1 complete).1
  have same := alike "Spines" List.mem_cons_self "spines"
    (List.mem_cons_of_mem _ List.mem_cons_self) lower
  exact absurd same (by decide)

end Snapl.Contract
