import Snapl.Contract.RoundTrip
import Snapl.Executor.Unique
import Snapl.Library.FirstMatch

/-!
# Rendering and the order of the source of truth

The device's autonomous system is the first session's, its router identifier is
the first loopback's address, and of peer groups and address families that
differ in case only the first is kept.  So another order of the interfaces and
sessions gives the same payload, up to the order of its lists, exactly when
there is nothing to choose between.
-/

namespace Snapl.Contract

open Snapl.Library Snapl.Library.JsonText Snapl.Intent Snapl.Executor

/-! ## Payloads up to the order of their lists -/

/-- The lists of a `bgp` container whose order is left open. -/
def openLists : List String := ["afi-safi", "group", "neighbor"]

/-- Two lists have the same entries. -/
def SameListed (first second : Json) : Prop :=
  ∃ entries others, first = .arr entries ∧ second = .arr others ∧ entries.Perm others

/-- Two fields have one key and one value, up to the order of an open list. -/
structure SameField (first second : String × Json) : Prop where
  key : first.1 = second.1
  list : first.1 ∈ openLists → SameListed first.2 second.2
  value : first.1 ∉ openLists → first.2 = second.2

/-- Two payloads are equal up to the order of their lists. -/
inductive SamePayload : Json → Json → Prop where
  | interfaces {entries others : List Json} (interfaces : entries.Perm others) :
      SamePayload (.obj [("interface", .arr entries)]) (.obj [("interface", .arr others)])
  | instances {entries others : List Json} {fields otherFields : List (String × Json)}
      (interfaces : entries.Perm others) (bgp : List.Forall₂ SameField fields otherFields) :
      SamePayload
        (.obj [("interface", .arr entries),
          ("network-instance", .arr [.obj [("name", .str "default"),
            ("protocols", .obj [("bgp", .obj fields)])]])])
        (.obj [("interface", .arr others),
          ("network-instance", .arr [.obj [("name", .str "default"),
            ("protocols", .obj [("bgp", .obj otherFields)])]])])

/-- Both renderings fail, or both succeed with the same payload. -/
inductive SameOutcome : Except RenderError Json → Except RenderError Json → Prop where
  | rendered {first second : Json} (same : SamePayload first second) :
      SameOutcome (.ok first) (.ok second)
  | failed (first second : RenderError) : SameOutcome (.error first) (.error second)

/-- The same state, with its interfaces and sessions in another order. -/
structure ReorderedState (desired other : DesiredState) : Prop where
  device : other.device = desired.device
  interfaces : other.interfaces.Perm desired.interfaces
  bgpSessions : other.bgpSessions.Perm desired.bgpSessions

/-- A state is rendered alike in every order. -/
def OrderStable (text : PyText) (desired : DesiredState) : Prop :=
  ∀ other, ReorderedState desired other → SameOutcome (render text desired) (render text other)

/-! ## What there is to choose between -/

/-- The address a loopback offers as router identifier. -/
def loopbackAddress? (text : PyText) (iface : Interface) : Option String :=
  if "lo".toList.isPrefixOf (text.lower iface.name).toList then filled? iface.ipAddress else none

/-- What every order needs to be rendered. -/
structure RenderedInAnyOrder (desired : DesiredState) : Prop where
  complete : PrefixesComplete desired
  interfaces : ∀ iface ∈ desired.interfaces, InterfaceWritable iface
  peerAsn : ∀ session ∈ desired.bgpSessions, Convertible session.peerAsn

/-- Nothing a payload has once is chosen by its place. -/
structure NothingToChoose (text : PyText) (desired : DesiredState) : Prop where
  localAsn : ∀ session ∈ desired.bgpSessions, ∀ other ∈ desired.bgpSessions,
    session.localAsn = other.localAsn
  loopbacks : OneResult (loopbackAddress? text) desired.interfaces
  groups : SpelledAlike text
    (desired.bgpSessions.filterMap fun session => filled? session.peerGroup)
  families : AgreeByKey text.lower hyphenated (desired.bgpSessions.map BGPSession.addressFamily)

/-- What the payloads of two orders have to agree on. -/
structure SameChoices (text : PyText) (desired other : DesiredState) : Prop where
  localAsn : autonomousSystem desired.bgpSessions = autonomousSystem other.bgpSessions
  routerId : selectRouterId text desired = selectRouterId text other
  groups : (groupNames text desired.bgpSessions).Perm (groupNames text other.bgpSessions)
  families :
    ((unique text (desired.bgpSessions.map BGPSession.addressFamily)).map hyphenated).Perm
      ((unique text (other.bgpSessions.map BGPSession.addressFamily)).map hyphenated)

/-! ## Equal containers -/

section

variable {text : PyText} {routerId otherId : String} {sessions others : List BGPSession}

/-- Fields of one key stand for each other. -/
theorem sameField_under
    {fields otherFields : List (String × Json)} {key : String} {value other : Json}
    (same : List.Forall₂ SameField fields otherFields)
    (distinct : (otherFields.map Prod.fst).Nodup)
    (present : (key, value) ∈ fields) (presentOther : (key, other) ∈ otherFields) :
    SameField (key, value) (key, other) := by
  obtain ⟨field, member, sameField⟩ := exists_mem_of_forall₂ same present
  have equal : field = (key, other) :=
    List.inj_on_of_nodup_map distinct member presentOther sameField.key.symm
  rw [← equal]
  exact sameField

theorem value_eq_of_sameFields
    {fields otherFields : List (String × Json)} {key : String} {value other : Json}
    (same : List.Forall₂ SameField fields otherFields)
    (distinct : (otherFields.map Prod.fst).Nodup) (closed : key ∉ openLists)
    (present : (key, value) ∈ fields) (presentOther : (key, other) ∈ otherFields) :
    value = other :=
  (sameField_under same distinct present presentOther).value closed

theorem sameListed_of_sameFields
    {fields otherFields : List (String × Json)} {key : String} {value other : Json}
    (same : List.Forall₂ SameField fields otherFields)
    (distinct : (otherFields.map Prod.fst).Nodup) (isOpen : key ∈ openLists)
    (present : (key, value) ∈ fields) (presentOther : (key, other) ∈ otherFields) :
    SameListed value other :=
  (sameField_under same distinct present presentOther).list isOpen

theorem namedValue_injective (key : String) : Function.Injective (namedValue key) := by
  intro first second equal
  simp only [namedValue, Json.obj.injEq, List.cons.injEq, Prod.mk.injEq, Json.str.injEq,
    true_and, and_true] at equal
  exact equal

theorem perm_of_sameListed
    {Item : Type} {entry : Item → Json} (injective : Function.Injective entry)
    {items otherItems : List Item}
    (same : SameListed (.arr (items.map entry)) (.arr (otherItems.map entry))) :
    items.Perm otherItems := by
  obtain ⟨entries, otherEntries, equal, otherEqual, permuted⟩ := same
  cases equal
  cases otherEqual
  exact (List.map_perm_map_iff injective).1 permuted

theorem mem_bgpFields_localAsn (text : PyText) (routerId : String) (sessions : List BGPSession) :
    ("autonomous-system", Json.int (autonomousSystem sessions)) ∈
      bgpFields text routerId sessions := by
  apply List.mem_append_left
  apply List.mem_append_left
  exact List.mem_cons_of_mem _ List.mem_cons_self

theorem mem_bgpFields_routerId (text : PyText) (routerId : String) (sessions : List BGPSession) :
    ("router-id", Json.str routerId) ∈ bgpFields text routerId sessions := by
  apply List.mem_append_left
  apply List.mem_append_left
  exact List.mem_cons_of_mem _ (List.mem_cons_of_mem _ List.mem_cons_self)

theorem mem_bgpFields_families (text : PyText) (routerId : String) (sessions : List BGPSession) :
    ("afi-safi", Json.arr
      (((unique text (sessions.map BGPSession.addressFamily)).map hyphenated).map fun name =>
        namedValue "afi-safi-name" (String.ofList name))) ∈ bgpFields text routerId sessions := by
  rw [List.map_map]
  apply List.mem_append_left
  apply List.mem_append_left
  exact List.mem_cons_of_mem _ (List.mem_cons_of_mem _ (List.mem_cons_of_mem _ List.mem_cons_self))

theorem mem_bgpFields_group (present : groupNames text sessions ≠ []) :
    ("group", Json.arr ((groupNames text sessions).map (namedValue "group-name"))) ∈
      bgpFields text routerId sessions := by
  apply List.mem_append_left
  apply List.mem_append_right
  rcases groups : groupNames text sessions with _ | ⟨first, rest⟩
  · exact absurd groups present
  · exact List.mem_cons_self

/-- Equal containers agree on everything that is chosen. -/
theorem choices_of_sameFields
    (same : List.Forall₂ SameField (bgpFields text routerId sessions)
      (bgpFields text otherId others))
    (groups : groupNames text sessions = [] ↔ groupNames text others = []) :
    autonomousSystem sessions = autonomousSystem others ∧ routerId = otherId ∧
      (groupNames text sessions).Perm (groupNames text others) ∧
      ((unique text (sessions.map BGPSession.addressFamily)).map hyphenated).Perm
        ((unique text (others.map BGPSession.addressFamily)).map hyphenated) := by
  have distinct := bgpFields_keys_nodup text otherId others
  refine ⟨?_, ?_, ?_, ?_⟩
  · exact Json.int.inj (value_eq_of_sameFields same distinct (by decide)
      (mem_bgpFields_localAsn text routerId sessions) (mem_bgpFields_localAsn text otherId others))
  · exact Json.str.inj (value_eq_of_sameFields same distinct (by decide)
      (mem_bgpFields_routerId text routerId sessions) (mem_bgpFields_routerId text otherId others))
  · by_cases absent : groupNames text sessions = []
    · rw [absent, groups.1 absent]
    · have entries := sameListed_of_sameFields same distinct (by decide)
        (mem_bgpFields_group absent)
        (mem_bgpFields_group fun otherAbsent => absent (groups.2 otherAbsent))
      exact perm_of_sameListed (namedValue_injective "group-name") entries
  · have entries := sameListed_of_sameFields same distinct (by decide)
      (mem_bgpFields_families text routerId sessions) (mem_bgpFields_families text otherId others)
    refine perm_of_sameListed ?_ entries
    intro first second equal
    exact String.ofList_inj.1 (namedValue_injective "afi-safi-name" equal)

/-- Containers that agree on everything that is chosen are equal. -/
theorem sameFields_of_choices
    (reordered : others.Perm sessions)
    (localAsn : autonomousSystem sessions = autonomousSystem others)
    (groups : (groupNames text sessions).Perm (groupNames text others))
    (families : ((unique text (sessions.map BGPSession.addressFamily)).map hyphenated).Perm
      ((unique text (others.map BGPSession.addressFamily)).map hyphenated)) :
    List.Forall₂ SameField (bgpFields text routerId sessions)
      (bgpFields text routerId others) := by
  have closed : ∀ (key : String) (value : Json), key ∉ openLists →
      SameField (key, value) (key, value) :=
    fun key value isClosed => ⟨rfl, fun isOpen => absurd isOpen isClosed, fun _ => rfl⟩
  have permuted : ∀ (key : String) (entries otherEntries : List Json), key ∈ openLists →
      entries.Perm otherEntries → SameField (key, .arr entries) (key, .arr otherEntries) :=
    fun key entries otherEntries isOpen perm =>
      ⟨rfl, fun _ => ⟨entries, otherEntries, rfl, rfl, perm⟩, fun isClosed => absurd isOpen isClosed⟩
  have named := families.map fun name => namedValue "afi-safi-name" (String.ofList name)
  rw [List.map_map, List.map_map] at named
  rw [bgpFields, bgpFields, ← localAsn]
  apply List.rel_append
  · apply List.rel_append
    · refine List.Forall₂.cons (closed _ _ (by decide)) (List.Forall₂.cons (closed _ _ (by decide))
        (List.Forall₂.cons (closed _ _ (by decide)) (List.Forall₂.cons ?_ List.Forall₂.nil)))
      exact permuted "afi-safi" _ _ (by decide) named
    · generalize groupNames text sessions = names at groups ⊢
      generalize groupNames text others = otherNames at groups ⊢
      rcases names with _ | ⟨first, rest⟩
      · rw [List.nil_perm.1 groups]
        exact List.Forall₂.nil
      · rcases otherNames with _ | ⟨otherFirst, otherRest⟩
        · exact absurd (List.perm_nil.1 groups) (List.cons_ne_nil _ _)
        · exact List.Forall₂.cons
            (permuted "group" _ _ (by decide) (groups.map (namedValue "group-name")))
            List.Forall₂.nil
  · exact List.Forall₂.cons (permuted "neighbor" _ _ (by decide) (reordered.symm.map _))
      List.Forall₂.nil

end

/-! ## Other orders -/

section

variable {text : PyText} {desired other : DesiredState}

theorem ReorderedState.symm (reordered : ReorderedState desired other) : ReorderedState other desired :=
  ⟨reordered.device.symm, reordered.interfaces.symm, reordered.bgpSessions.symm⟩

theorem selectRouterId_eq (text : PyText) (desired : DesiredState) :
    selectRouterId text desired =
      (desired.interfaces.findSome? (loopbackAddress? text)).getD
        desired.device.managementAddress :=
  rfl

/-- An address that is selected is plain, or the management address in every order. -/
theorem plain_reordered (plain : PlainState text desired) (reordered : ReorderedState desired other) :
    PlainState text other where
  interfaceName iface member :=
    plain.interfaceName iface (reordered.interfaces.mem_iff.1 member)
  ipAddress iface member := plain.ipAddress iface (reordered.interfaces.mem_iff.1 member)
  peerAddress session member :=
    plain.peerAddress session (reordered.bgpSessions.mem_iff.1 member)
  peerGroup session member := plain.peerGroup session (reordered.bgpSessions.mem_iff.1 member)
  addressFamily session member :=
    plain.addressFamily session (reordered.bgpSessions.mem_iff.1 member)
  routerId sessions := by
    rw [selectRouterId_eq]
    rcases found : other.interfaces.findSome? (loopbackAddress? text) with _ | address
    · have absent : desired.interfaces.findSome? (loopbackAddress? text) = none := by
        rw [List.findSome?_eq_none_iff] at found ⊢
        intro iface member
        exact found iface (reordered.interfaces.mem_iff.2 member)
      have some : desired.bgpSessions ≠ [] := by
        intro none
        refine sessions (List.perm_nil.1 ?_)
        rw [← none]
        exact reordered.bgpSessions
      have management := plain.routerId some
      rw [selectRouterId_eq, absent] at management
      rw [reordered.device]
      exact management
    · obtain ⟨iface, member, gives⟩ := List.exists_of_findSome?_eq_some found
      rw [loopbackAddress?] at gives
      split_ifs at gives
      exact plain.ipAddress iface (reordered.interfaces.mem_iff.1 member) address
        ((filled?_eq_some_iff _ _).1 gives).1

theorem RenderedInAnyOrder.reordered
    (rendered : RenderedInAnyOrder desired) (reordered : ReorderedState desired other) :
    RenderedInAnyOrder other where
  complete iface member := rendered.complete iface (reordered.interfaces.mem_iff.1 member)
  interfaces iface member := rendered.interfaces iface (reordered.interfaces.mem_iff.1 member)
  peerAsn session member := rendered.peerAsn session (reordered.bgpSessions.mem_iff.1 member)

/-- A plain state is rendered when every order has what it needs, and its first session too. -/
theorem rendered_iff (plain : PlainState text desired) (payload : Json) :
    render text desired = .ok payload ↔
      (RenderedInAnyOrder desired ∧ Convertible (autonomousSystem desired.bgpSessions)) ∧
        payload = .obj (payloadFields text desired) := by
  rw [render_eq_ok_iff plain]
  constructor
  · rintro ⟨complete, writable, equal⟩
    exact ⟨⟨⟨complete, writable.interfaces, writable.peerAsn⟩, writable.localAsn⟩, equal⟩
  · rintro ⟨⟨rendered, localAsn⟩, equal⟩
    exact ⟨rendered.complete, ⟨rendered.interfaces, localAsn, rendered.peerAsn⟩, equal⟩

theorem sameOutcome_of_not_rendered
    (fails : ∀ payload, render text desired ≠ .ok payload)
    (otherFails : ∀ payload, render text other ≠ .ok payload) :
    SameOutcome (render text desired) (render text other) := by
  rcases first : render text desired with error | payload
  · rcases second : render text other with otherError | payload
    · exact SameOutcome.failed error otherError
    · exact absurd second (otherFails payload)
  · exact absurd first (fails payload)

theorem groupNames_eq_nil_iff (reordered : ReorderedState desired other) :
    groupNames text desired.bgpSessions = [] ↔ groupNames text other.bgpSessions = [] := by
  have keys := @keys_firstsByKey_perm _ _ _ text.lower _ _
    (reordered.bgpSessions.filterMap fun session => filled? session.peerGroup)
  rw [← unique_eq_firstsByKey, ← unique_eq_firstsByKey] at keys
  have lengths := keys.length_eq
  rw [List.length_map, List.length_map] at lengths
  rw [← List.length_eq_zero_iff, ← List.length_eq_zero_iff]
  constructor
  · intro absent
    exact lengths.trans absent
  · intro absent
    exact lengths.symm.trans absent

/-- The payloads of two orders are equal when they agree on everything that is chosen. -/
theorem samePayload_iff
    (reordered : ReorderedState desired other) (sessions : desired.bgpSessions ≠ []) :
    SamePayload (.obj (payloadFields text desired)) (.obj (payloadFields text other)) ↔
      SameChoices text desired other := by
  have otherSessions : other.bgpSessions ≠ [] := by
    intro absent
    have permuted := reordered.bgpSessions
    rw [absent] at permuted
    exact sessions (List.nil_perm.1 permuted)
  rw [payloadFields, payloadFields, if_neg sessions, if_neg otherSessions]
  constructor
  · intro same
    cases same with
    | instances _ bgp =>
        obtain ⟨localAsn, routerId, groups, families⟩ :=
          choices_of_sameFields bgp (groupNames_eq_nil_iff reordered)
        exact ⟨localAsn, routerId, groups, families⟩
  · intro same
    apply SamePayload.instances (reordered.interfaces.symm.map _)
    rw [same.routerId]
    exact sameFields_of_choices reordered.bgpSessions same.localAsn same.groups same.families

end

/-! ## Every order -/

section

variable {text : PyText} {desired other : DesiredState}

theorem reordered_of_sessions
    {sessions : List BGPSession} (permuted : sessions.Perm desired.bgpSessions) :
    ReorderedState desired { desired with bgpSessions := sessions } :=
  ⟨rfl, List.Perm.refl _, permuted⟩

theorem reordered_of_interfaces
    {interfaces : List Interface} (permuted : interfaces.Perm desired.interfaces) :
    ReorderedState desired { desired with interfaces := interfaces } :=
  ⟨rfl, permuted, List.Perm.refl _⟩

/-- Two different items can be put in front, in either order. -/
theorem exists_fronts
    {Item : Type} [DecidableEq Item] {items : List Item} {first second : Item}
    (isFirst : first ∈ items) (isSecond : second ∈ items) (different : first ≠ second) :
    ∃ rest, (first :: second :: rest).Perm items ∧ (second :: first :: rest).Perm items := by
  have remains : second ∈ items.erase first :=
    (List.mem_erase_of_ne (Ne.symm different)).2 isSecond
  have permuted : (first :: second :: (items.erase first).erase second).Perm items :=
    ((List.perm_cons_erase remains).symm.cons first).trans (List.perm_cons_erase isFirst).symm
  exact ⟨(items.erase first).erase second, permuted, (List.Perm.swap _ _ _).trans permuted⟩

theorem groups_alike_of_fronts
    {session follower : BGPSession} {rest : List BGPSession} {group followerGroup : String}
    (filled : filled? session.peerGroup = some group)
    (followerFilled : filled? follower.peerGroup = some followerGroup)
    (alike : text.lower group = text.lower followerGroup)
    (same : (groupNames text (session :: follower :: rest)).Perm
      (groupNames text (follower :: session :: rest))) :
    group = followerGroup := by
  have front : ∀ {head next : BGPSession} {name nextName : String},
      filled? head.peerGroup = some name → filled? next.peerGroup = some nextName →
      groupNames text (head :: next :: rest) = firstsByKey text.lower
        (name :: nextName :: rest.filterMap fun session => filled? session.peerGroup) := by
    intro head next name nextName headFilled nextFilled
    rw [groupNames, unique_eq_firstsByKey]
    simp only [List.filterMap_cons, headFilled, nextFilled]
  rw [front filled followerFilled, front followerFilled filled] at same
  apply @value_eq_of_fronts _ _ _ _ text.lower id _ _ _ alike
  rw [List.map_id, List.map_id]
  exact same

theorem families_alike_of_fronts
    {session follower : BGPSession} {rest : List BGPSession}
    (alike : text.lower session.addressFamily = text.lower follower.addressFamily)
    (same :
      ((unique text ((session :: follower :: rest).map BGPSession.addressFamily)).map
        hyphenated).Perm
      ((unique text ((follower :: session :: rest).map BGPSession.addressFamily)).map
        hyphenated)) :
    hyphenated session.addressFamily = hyphenated follower.addressFamily := by
  rw [unique_eq_firstsByKey, unique_eq_firstsByKey] at same
  exact value_eq_of_fronts alike same

/-- Every order makes the same choices exactly when there is nothing to choose. -/
theorem sameChoices_iff :
    (∀ other, ReorderedState desired other → SameChoices text desired other) ↔
      NothingToChoose text desired := by
  constructor
  · intro same
    have inFront : ∀ session ∈ desired.bgpSessions,
        autonomousSystem desired.bgpSessions = session.localAsn :=
      fun session member =>
        (same _ (reordered_of_sessions (List.perm_cons_erase member).symm)).localAsn
    have selected : ∀ iface ∈ desired.interfaces, ∀ address,
        loopbackAddress? text iface = some address → selectRouterId text desired = address := by
      intro iface member address gives
      have equal := (same _ (reordered_of_interfaces (List.perm_cons_erase member).symm)).routerId
      rw [equal, selectRouterId_eq, List.findSome?_cons_of_isSome (by rw [gives]; rfl), gives]
      rfl
    refine ⟨?_, ?_, ?_, ?_⟩
    · intro session member follower followerMember
      exact (inFront session member).symm.trans (inFront follower followerMember)
    · intro iface member follower followerMember first second gives followerGives
      exact (selected iface member first gives).symm.trans
        (selected follower followerMember second followerGives)
    · intro group isGroup followerGroup isFollowerGroup alike
      obtain ⟨session, member, filled⟩ := List.mem_filterMap.1 isGroup
      obtain ⟨follower, followerMember, followerFilled⟩ := List.mem_filterMap.1 isFollowerGroup
      by_cases one : session = follower
      · rw [one, followerFilled] at filled
        exact (Option.some.inj filled).symm
      · obtain ⟨rest, front, swapped⟩ := exists_fronts member followerMember one
        exact groups_alike_of_fronts filled followerFilled alike
          ((same _ (reordered_of_sessions front)).groups.symm.trans
            (same _ (reordered_of_sessions swapped)).groups)
    · intro family isFamily followerFamily isFollowerFamily alike
      obtain ⟨session, member, rfl⟩ := List.mem_map.1 isFamily
      obtain ⟨follower, followerMember, rfl⟩ := List.mem_map.1 isFollowerFamily
      by_cases one : session = follower
      · rw [one]
      · obtain ⟨rest, front, swapped⟩ := exists_fronts member followerMember one
        exact families_alike_of_fronts alike
          ((same _ (reordered_of_sessions front)).families.symm.trans
            (same _ (reordered_of_sessions swapped)).families)
  · intro nothing other reordered
    refine ⟨?_, ?_, ?_, ?_⟩
    · rcases sessions : desired.bgpSessions with _ | ⟨first, rest⟩
      · have permuted := reordered.bgpSessions
        rw [sessions] at permuted
        rw [List.perm_nil.1 permuted]
      · rcases otherSessions : other.bgpSessions with _ | ⟨otherFirst, otherRest⟩
        · have permuted := reordered.bgpSessions
          rw [sessions, otherSessions] at permuted
          exact absurd (List.nil_perm.1 permuted) (List.cons_ne_nil _ _)
        · apply nothing.localAsn
          · rw [sessions]
            exact List.mem_cons_self
          · apply reordered.bgpSessions.mem_iff.1
            rw [otherSessions]
            exact List.mem_cons_self
    · rw [selectRouterId_eq, selectRouterId_eq, reordered.device,
        (findSome?_perm_iff _ _).2 nothing.loopbacks other.interfaces reordered.interfaces]
    · have names := @values_firstsByKey_perm _ _ _ _ text.lower _ _ id nothing.groups
        (reordered.bgpSessions.symm.filterMap fun session => filled? session.peerGroup)
      rw [List.map_id, List.map_id, ← unique_eq_firstsByKey, ← unique_eq_firstsByKey] at names
      exact names
    · have names := values_firstsByKey_perm nothing.families
        (reordered.bgpSessions.symm.map BGPSession.addressFamily)
      rw [← unique_eq_firstsByKey, ← unique_eq_firstsByKey] at names
      exact names

theorem samePayload_of_noSessions
    (reordered : ReorderedState desired other) (noSessions : desired.bgpSessions = []) :
    SamePayload (.obj (payloadFields text desired)) (.obj (payloadFields text other)) := by
  have otherNone : other.bgpSessions = [] := by
    have permuted := reordered.bgpSessions
    rw [noSessions] at permuted
    exact List.perm_nil.1 permuted
  rw [payloadFields, payloadFields, if_pos noSessions, if_pos otherNone]
  exact SamePayload.interfaces (reordered.interfaces.symm.map _)

/-- Every order is rendered when some session can be put first and every order gives the same. -/
theorem nothingToChoose_of_stable
    (plain : PlainState text desired) (stable : OrderStable text desired)
    (rendered : RenderedInAnyOrder desired) {session : BGPSession}
    (member : session ∈ desired.bgpSessions) (writable : Convertible session.localAsn) :
    NothingToChoose text desired := by
  have nonempty : desired.bgpSessions ≠ [] := List.ne_nil_of_mem member
  have first := reordered_of_sessions (List.perm_cons_erase member).symm
  have firstRendered := (rendered_iff (plain_reordered plain first) _).2
    ⟨⟨rendered.reordered first, writable⟩, rfl⟩
  have outcome := stable _ first
  rw [firstRendered] at outcome
  rcases result : render text desired with error | payload
  · rw [result] at outcome
    cases outcome
  · obtain ⟨-, rfl⟩ := (rendered_iff plain payload).1 result
    apply sameChoices_iff.1
    intro other reordered
    have same := stable other reordered
    rw [result] at same
    rcases otherResult : render text other with error | otherPayload
    · rw [otherResult] at same
      cases same
    · obtain ⟨-, rfl⟩ :=
        (rendered_iff (plain_reordered plain reordered) otherPayload).1 otherResult
      rw [otherResult] at same
      cases same with
      | rendered payloads => exact (samePayload_iff reordered nonempty).1 payloads

/-- The first session's number can be written in no order, or in every order. -/
theorem convertible_autonomousSystem_iff
    (condition : (∀ session ∈ desired.bgpSessions, ¬ Convertible session.localAsn) ∨
      NothingToChoose text desired)
    (reordered : ReorderedState desired other) :
    Convertible (autonomousSystem desired.bgpSessions) ↔
      Convertible (autonomousSystem other.bgpSessions) := by
  rcases condition with unwritable | nothing
  · rcases sessions : desired.bgpSessions with _ | ⟨first, rest⟩
    · have permuted := reordered.bgpSessions
      rw [sessions] at permuted
      rw [List.perm_nil.1 permuted]
    · have isFirst : first ∈ desired.bgpSessions := by
        rw [sessions]
        exact List.mem_cons_self
      rcases otherSessions : other.bgpSessions with _ | ⟨otherFirst, otherRest⟩
      · have permuted := reordered.bgpSessions
        rw [otherSessions] at permuted
        rw [List.nil_perm.1 permuted] at isFirst
        cases isFirst
      · have isOtherFirst : otherFirst ∈ desired.bgpSessions := by
          apply reordered.bgpSessions.mem_iff.1
          rw [otherSessions]
          exact List.mem_cons_self
        exact iff_of_false (unwritable first isFirst) (unwritable otherFirst isOtherFirst)
  · rw [(sameChoices_iff.2 nothing other reordered).localAsn]

/--
A plain state is rendered alike in every order exactly when no order of it can
be rendered, no session has a number that can be written (which is so without
sessions), or nothing is chosen by its place.
-/
theorem orderStable_iff (plain : PlainState text desired) :
    OrderStable text desired ↔
      ¬ RenderedInAnyOrder desired ∨
      (∀ session ∈ desired.bgpSessions, ¬ Convertible session.localAsn) ∨
      NothingToChoose text desired := by
  constructor
  · intro stable
    by_cases rendered : RenderedInAnyOrder desired
    · right
      by_cases unwritable : ∀ session ∈ desired.bgpSessions, ¬ Convertible session.localAsn
      · exact Or.inl unwritable
      · push Not at unwritable
        obtain ⟨session, member, writable⟩ := unwritable
        exact Or.inr (nothingToChoose_of_stable plain stable rendered member writable)
    · exact Or.inl rendered
  · intro condition other reordered
    have otherPlain := plain_reordered plain reordered
    have fail : (¬ (RenderedInAnyOrder desired ∧
        Convertible (autonomousSystem desired.bgpSessions))) →
        (¬ (RenderedInAnyOrder other ∧ Convertible (autonomousSystem other.bgpSessions))) →
        SameOutcome (render text desired) (render text other) := by
      intro fails otherFails
      apply sameOutcome_of_not_rendered
      · intro payload rendered
        exact fails ((rendered_iff plain payload).1 rendered).1
      · intro payload rendered
        exact otherFails ((rendered_iff otherPlain payload).1 rendered).1
    rcases condition with unrendered | condition
    · apply fail
      · exact fun rendered => unrendered rendered.1
      · exact fun rendered => unrendered (rendered.1.reordered reordered.symm)
    · have writable := convertible_autonomousSystem_iff condition reordered
      by_cases rendered : RenderedInAnyOrder desired ∧
          Convertible (autonomousSystem desired.bgpSessions)
      · rw [(rendered_iff plain _).2 ⟨rendered, rfl⟩, (rendered_iff otherPlain _).2
          ⟨⟨rendered.1.reordered reordered, writable.1 rendered.2⟩, rfl⟩]
        apply SameOutcome.rendered
        by_cases noSessions : desired.bgpSessions = []
        · exact samePayload_of_noSessions reordered noSessions
        · apply (samePayload_iff reordered noSessions).2
          rcases condition with unwritable | nothing
          · obtain ⟨first, rest, sessions⟩ := List.exists_cons_of_ne_nil noSessions
            have firstWritable := rendered.2
            rw [sessions] at firstWritable unwritable
            exact absurd firstWritable (unwritable first List.mem_cons_self)
          · exact sameChoices_iff.2 nothing other reordered
      · apply fail rendered
        rintro ⟨otherRendered, otherWritable⟩
        exact rendered ⟨otherRendered.reordered reordered.symm, writable.2 otherWritable⟩

end

theorem sampleState_orderStable : OrderStable PyText.ascii sampleState := by
  rw [orderStable_iff sampleState_replayable.plain]
  right
  right
  refine ⟨?_, ?_, ?_, ?_⟩
  · intro session member other otherMember
    rw [List.mem_singleton.1 member, List.mem_singleton.1 otherMember]
  · intro iface member other otherMember first second gives otherGives
    have silent : ∀ iface ∈ sampleState.interfaces,
        loopbackAddress? PyText.ascii iface = none := by
      decide +kernel
    rw [silent iface member] at gives
    cases gives
  · intro group member other otherMember _
    rw [List.mem_singleton.1 member, List.mem_singleton.1 otherMember]
  · intro family member other otherMember _
    rw [List.mem_singleton.1 member, List.mem_singleton.1 otherMember]

/-! ## Two autonomous systems -/

/-- A session of a device in an autonomous system. -/
def systemSession (localAsn : Int) (peerAddress : String) : BGPSession :=
  ⟨localAsn, peerAddress, 65000, none, "ipv4_unicast", true⟩

/-- Two sessions of one device that disagree on its autonomous system. -/
def twoSystemsState : DesiredState where
  device := sampleDevice
  interfaces := []
  bgpSessions := [systemSession 65001 "10.0.0.0", systemSession 65002 "10.0.0.2"]

theorem twoSystemsState_plain : PlainState PyText.ascii twoSystemsState := by
  refine ⟨?_, ?_, ?_, ?_, ?_, ?_⟩ <;> decide +kernel

/-- The order of the sessions decides the autonomous system. -/
theorem autonomous_system_depends_on_order :
    PlainState PyText.ascii twoSystemsState ∧ ¬ OrderStable PyText.ascii twoSystemsState := by
  refine ⟨twoSystemsState_plain, ?_⟩
  intro stable
  have rendered : RenderedInAnyOrder twoSystemsState :=
    ⟨fun _ member => (List.not_mem_nil member).elim, fun _ member =>
      (List.not_mem_nil member).elim, by decide +kernel⟩
  have isFirst : systemSession 65001 "10.0.0.0" ∈ twoSystemsState.bgpSessions :=
    List.mem_cons_self
  have isSecond : systemSession 65002 "10.0.0.2" ∈ twoSystemsState.bgpSessions :=
    List.mem_cons_of_mem _ List.mem_cons_self
  have writable : Convertible (systemSession 65001 "10.0.0.0").localAsn := by decide +kernel
  have nothing :=
    nothingToChoose_of_stable twoSystemsState_plain stable rendered isFirst writable
  have different : (65001 : Int) ≠ 65002 := by decide
  exact different (nothing.localAsn _ isFirst _ isSecond)

end Snapl.Contract
