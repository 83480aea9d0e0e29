import Snapl.Executor.Renderer
import Snapl.Library.JsonVerbatim

/-!
# Strings the templates put between quotes

Every string a template interpolates stands between quotes on a line of its
own, as it is; only descriptions are escaped.  So a rendered text that is
decoded to the payload it was written for holds plain strings, and every one of
them has to be plain.
-/

namespace Snapl.Executor

open Snapl.Library Snapl.Library.JsonText Snapl.Intent

/-! ## The intended values -/

/-- Every dictionary has each key once, and there is no number that is none. -/
def Sound (value : Json) : Prop := value.distinctKeys = true ∧ value.nanFree = true

theorem Sound.list {items : List Json} (sound : ∀ item ∈ items, Sound item) :
    Sound (.arr items) :=
  ⟨(Json.distinctKeys_arr_iff items).2 fun item member => (sound item member).1,
    (Json.nanFree_arr_iff items).2 fun item member => (sound item member).2⟩

theorem Sound.dictionary
    {fields : List (String × Json)} (distinct : (fields.map Prod.fst).Nodup)
    (sound : ∀ field ∈ fields, Sound field.2) : Sound (.obj fields) :=
  ⟨(Json.distinctKeys_obj_iff fields).2 ⟨distinct, fun field member => (sound field member).1⟩,
    (Json.nanFree_obj_iff fields).2 fun field member => (sound field member).2⟩

theorem sound_namedValue {key : String} (other : key ≠ "admin-state") (name : String) :
    Sound (namedValue key name) := by
  apply Sound.dictionary
  · simp [other]
  · intro field member
    rcases List.mem_cons.1 member with rfl | later
    · exact ⟨rfl, rfl⟩
    · rw [List.mem_singleton.1 later]
      exact ⟨rfl, rfl⟩

theorem interfaceFields_sound (iface : Interface) : Sound (.obj (interfaceFields iface)) := by
  apply Sound.dictionary (interfaceFields_keys_nodup iface)
  intro field member
  rw [interfaceFields] at member
  simp only [List.mem_append, List.mem_cons, List.not_mem_nil, or_false, Option.mem_toList,
    Option.map_eq_some_iff] at member
  rcases member with (((rfl | rfl) | ⟨mtu, -, rfl⟩) | ⟨description, -, rfl⟩) | ⟨ipPrefix, -, rfl⟩
  · exact ⟨rfl, rfl⟩
  · exact ⟨rfl, rfl⟩
  · exact ⟨rfl, rfl⟩
  · exact ⟨rfl, rfl⟩
  · exact ⟨rfl, rfl⟩

theorem neighborFields_sound (session : BGPSession) : Sound (.obj (neighborFields session)) := by
  apply Sound.dictionary (neighborFields_keys_nodup session)
  intro field member
  rw [neighborFields] at member
  simp only [List.mem_append, List.mem_cons, List.not_mem_nil, or_false, Option.mem_toList,
    Option.map_eq_some_iff] at member
  rcases member with (rfl | rfl | rfl) | ⟨group, -, rfl⟩
  · exact ⟨rfl, rfl⟩
  · exact ⟨rfl, rfl⟩
  · exact ⟨rfl, rfl⟩
  · exact ⟨rfl, rfl⟩

/-- The list of rendered interfaces. -/
def interfacesValue (interfaces : List Interface) : Json :=
  .arr (interfaces.map fun iface => .obj (interfaceFields iface))

theorem interfacesValue_sound (interfaces : List Interface) :
    Sound (interfacesValue interfaces) := by
  apply Sound.list
  intro item member
  obtain ⟨iface, -, rfl⟩ := List.mem_map.1 member
  exact interfaceFields_sound iface

theorem bgpFields_sound (text : PyText) (routerId : String) (sessions : List BGPSession) :
    Sound (.obj (bgpFields text routerId sessions)) := by
  apply Sound.dictionary (bgpFields_keys_nodup text routerId sessions)
  intro field member
  rw [bgpFields] at member
  rcases List.mem_append.1 member with member | member
  · rcases List.mem_append.1 member with member | member
    · simp only [List.mem_cons, List.not_mem_nil, or_false] at member
      rcases member with rfl | rfl | rfl | rfl
      · exact ⟨rfl, rfl⟩
      · exact ⟨rfl, rfl⟩
      · exact ⟨rfl, rfl⟩
      · apply Sound.list
        intro item isItem
        obtain ⟨family, -, rfl⟩ := List.mem_map.1 isItem
        exact sound_namedValue (by decide) _
    · generalize groupNames text sessions = groups at member
      rcases groups with _ | ⟨first, rest⟩
      · cases member
      · rw [List.mem_singleton.1 member]
        apply Sound.list
        intro item isItem
        obtain ⟨group, -, rfl⟩ := List.mem_map.1 isItem
        exact sound_namedValue (by decide) _
  · rw [List.mem_singleton.1 member]
    apply Sound.list
    intro item isItem
    obtain ⟨session, -, rfl⟩ := List.mem_map.1 isItem
    exact neighborFields_sound session

/-! ## Members -/

theorem not_quote_of_plain {chars : List Char} (plain : ∀ char ∈ chars, Plain char) :
    '"' ∉ chars :=
  fun member => (plain _ member).1 rfl

/-- A string member holds its string, verbatim when it is plain. -/
theorem fieldHolds_text
    {before chars : List Char} {key value : String} (spaced : Spaced before)
    (plainKey : ∀ char ∈ key.toList, Plain char) (equal : String.ofList chars = value) :
    FieldHolds ((key, .str value), ∀ char ∈ chars, Plain char) ⟨before, key, quoted chars⟩ := by
  apply FieldHolds.intro spaced plainKey
  rw [← equal]
  exact Holds.quoted chars

/-- A member without quotes holds no string. -/
theorem fieldHolds_silent
    {before chars : List Char} {key : String} (spaced : Spaced before)
    (plainKey : ∀ char ∈ key.toList, Plain char) (noQuote : '"' ∉ chars) (value : Json) :
    FieldHolds ((key, value), True) ⟨before, key, chars⟩ :=
  FieldHolds.intro spaced plainKey (Holds.silent noQuote value)

theorem fieldHolds_number
    {before digits : List Char} {key : String} {value : Int} (spaced : Spaced before)
    (plainKey : ∀ char ∈ key.toList, Plain char) (written : strOfInt value = .ok digits) :
    FieldHolds ((key, .int value), True) ⟨before, key, digits⟩ := by
  obtain ⟨-, rfl⟩ := (strOfInt_eq_ok_iff value digits).1 written
  exact fieldHolds_silent spaced plainKey (not_quote_of_plain (plain_decimalText value)) _

/-- A laid-out list of one item. -/
theorem holds_singleton
    {before close text : List Char} {value : Json} {verbatim : Prop} (spaced : Spaced before)
    (spacedClose : Spaced close) (holds : Holds text value verbatim) :
    Holds (listText before close [text]) (.arr [value]) verbatim := by
  intro tail _ count lexed
  obtain ⟨more, lexedTail, bound, isVerbatim⟩ :=
    @holdsBefore_listText (Json × Prop) Prod.fst Prod.snd before close spaced spacedClose
      [(value, verbatim)] [text] (List.Forall₂.cons holds List.Forall₂.nil) tail count lexed
  exact ⟨more, lexedTail, bound, fun same => isVerbatim same _ (List.mem_singleton_self _)⟩

theorem holds_dictionary
    {close : List Char} {fields : List ((String × Json) × Prop)} {members : List Member}
    {verbatim : Prop} (spacedClose : Spaced close) (holds : List.Forall₂ FieldHolds fields members)
    (all : (∀ field ∈ fields, field.2) → verbatim) :
    Holds (dictionaryText close members) (.obj (fields.map Prod.fst)) verbatim := by
  intro tail _ count lexed
  obtain ⟨more, lexedTail, bound, isVerbatim⟩ :=
    holdsBefore_dictionaryText spacedClose holds tail lexed
  exact ⟨more, lexedTail, bound, fun same => all (isVerbatim same)⟩

theorem spaced_break : ∀ width : Nat, Spaced ('\n' :: List.replicate width ' ') := by
  intro width
  apply Spaced.intro
  intro member
  exact absurd (List.eq_of_mem_replicate member) (by decide)

/-! ## interfaces.j2 -/

/-- The strings of an interface that the template interpolates need no escaping. -/
def VerbatimInterface (iface : Interface) : Prop :=
  PlainText iface.name ∧ ∀ address ∈ iface.ipAddress, PlainText address

theorem subinterfaceText_holds (ipPrefix : String) :
    Holds (subinterfaceText ipPrefix.toList) (.arr [subinterfaceValue ipPrefix])
      (PlainText ipPrefix) := by
  have enabled : ∀ before, Spaced before →
      FieldHolds (("admin-state", .str "enable"), ∀ char ∈ "enable".toList, Plain char)
        ⟨before, "admin-state", quoted "enable".toList⟩ :=
    fun before spaced => fieldHolds_text spaced (by decide) rfl
  have entry := holds_dictionary (spaced_break 12)
    (List.Forall₂.cons
      (@fieldHolds_text _ ipPrefix.toList "ip-prefix" _ (spaced_break 14) (by decide)
        String.ofList_toList)
      List.Forall₂.nil)
    fun all => all _ List.mem_cons_self
  have address := holds_singleton (spaced_break 12) (spaced_break 10) entry
  have addressField := FieldHolds.intro (spaced_break 10)
    (show ∀ char ∈ "address".toList, Plain char by decide) address
  have ipv4 := holds_dictionary (spaced_break 8)
    (List.Forall₂.cons (enabled _ (spaced_break 10))
      (List.Forall₂.cons addressField List.Forall₂.nil))
    fun all => all _ (List.mem_cons_of_mem _ List.mem_cons_self)
  have ipv4Field := FieldHolds.intro (spaced_break 8)
    (show ∀ char ∈ "ipv4".toList, Plain char by decide) ipv4
  have index := @fieldHolds_silent _ ['0'] "index" (spaced_break 8) (by decide) (by decide) (.int 0)
  have subinterface := holds_dictionary (spaced_break 6)
    (List.Forall₂.cons index
      (List.Forall₂.cons (enabled _ (spaced_break 8))
        (List.Forall₂.cons ipv4Field List.Forall₂.nil)))
    fun all => all _ (List.mem_cons_of_mem _ (List.mem_cons_of_mem _ List.mem_cons_self))
  exact holds_singleton (spaced_break 6) (spaced_break 4) subinterface

theorem mtuMember_holds
    {iface : Interface} {members : List Member} (written : mtuMember iface = .ok members) :
    List.Forall₂ FieldHolds
      (iface.mtu.map fun mtu => (("mtu", Json.int mtu), True)).toList members := by
  rw [mtuMember] at written
  rcases mtu : iface.mtu with _ | value
  · rw [mtu] at written
    cases written
    exact List.Forall₂.nil
  · rw [mtu] at written
    obtain ⟨digits, digitsWritten, equal⟩ := (bind_eq_ok _ _ _).1 written
    cases equal
    exact List.Forall₂.cons
      (fieldHolds_number (spaced_break 4) (by decide) digitsWritten) List.Forall₂.nil

theorem descriptionMember_holds (iface : Interface) :
    List.Forall₂ FieldHolds
      ((filled? iface.description).map fun description =>
        (("description", Json.str description), True)).toList (descriptionMember iface) := by
  rw [descriptionMember]
  rcases filled? iface.description with _ | description
  · exact List.Forall₂.nil
  · have escaped := Holds.escaped (ReadsChars.escapes description.toList)
    rw [String.ofList_toList] at escaped
    exact List.Forall₂.cons (FieldHolds.intro (spaced_break 4) (by decide) escaped)
      List.Forall₂.nil

theorem subinterfaceMember_holds
    {iface : Interface} {members : List Member}
    (written : subinterfaceMember iface = .ok members) :
    List.Forall₂ FieldHolds
      ((ipPrefix? iface).map fun ipPrefix =>
        (("subinterface", Json.arr [subinterfaceValue ipPrefix]), PlainText ipPrefix)).toList
      members := by
  rw [subinterfaceMember] at written
  rw [ipPrefix?]
  rcases filled : filled? iface.ipAddress with _ | address
  · rw [filled] at written
    cases written
    exact List.Forall₂.nil
  · rw [filled] at written
    obtain ⟨length, lengthWritten, equal⟩ := (bind_eq_ok _ _ _).1 written
    cases equal
    have holds := subinterfaceText_holds (String.ofList (address.toList ++ '/' :: length))
    rw [String.toList_ofList] at holds
    have field := FieldHolds.intro (spaced_break 4)
      (show ∀ char ∈ "subinterface".toList, Plain char by decide) holds
    rw [prefixLengthText] at lengthWritten
    rcases prefixLength : iface.prefixLength with _ | value
    · rw [prefixLength] at lengthWritten
      cases lengthWritten
      exact List.Forall₂.cons field List.Forall₂.nil
    · rw [prefixLength] at lengthWritten
      obtain ⟨-, rfl⟩ := (strOfInt_eq_ok_iff _ _).1 lengthWritten
      exact List.Forall₂.cons field List.Forall₂.nil

theorem plain_address_of_ipPrefix?
    {iface : Interface} (plain : ∀ ipPrefix ∈ ipPrefix? iface, PlainText ipPrefix) :
    ∀ address ∈ iface.ipAddress, PlainText address := by
  intro address present
  rw [ipPrefix?] at plain
  by_cases empty : address = ""
  · subst empty
    intro char member
    cases member
  · have filled : filled? iface.ipAddress = some address :=
      (filled?_eq_some_iff _ _).2 ⟨present, empty⟩
    rw [filled, Option.map_some] at plain
    intro char member
    apply plain _ rfl
    rw [String.toList_ofList]
    exact List.mem_append_left _ member

/-- One interface is verbatim when its text holds all it was written for. -/
theorem interfaceText_holds
    {iface : Interface} {chars : List Char} (written : interfaceText iface = .ok chars) :
    Holds chars (.obj (interfaceFields iface)) (VerbatimInterface iface) := by
  obtain ⟨mtu, mtuWritten, rest⟩ := (bind_eq_ok _ _ _).1 written
  obtain ⟨subinterface, subWritten, equal⟩ := (bind_eq_ok _ _ _).1 rest
  cases equal
  have name : FieldHolds (("name", .str iface.name), PlainText iface.name) _ :=
    fieldHolds_text (spaced_break 4) (by decide) String.ofList_toList
  have state : FieldHolds (("admin-state", .str (adminState iface.enabled)), _) _ :=
    fieldHolds_text (spaced_break 4) (by decide) String.ofList_toList
  have members := List.rel_append
    (List.rel_append
      (List.rel_append
        (List.Forall₂.cons name (List.Forall₂.cons state List.Forall₂.nil))
        (mtuMember_holds mtuWritten))
      (descriptionMember_holds iface))
    (subinterfaceMember_holds subWritten)
  have holds := @holds_dictionary _ _ _ (VerbatimInterface iface) (spaced_break 2) members (by
    intro all
    refine ⟨all (("name", .str iface.name), PlainText iface.name) ?_,
      plain_address_of_ipPrefix? ?_⟩
    · exact List.mem_append_left _ (List.mem_append_left _ (List.mem_append_left _
        List.mem_cons_self))
    · intro ipPrefix present
      apply all (("subinterface", Json.arr [subinterfaceValue ipPrefix]), PlainText ipPrefix)
      apply List.mem_append_right
      rw [Option.mem_def.1 present]
      exact List.mem_cons_self)
  have fields : (([(("name", Json.str iface.name), PlainText iface.name),
        (("admin-state", .str (adminState iface.enabled)),
          ∀ char ∈ (adminState iface.enabled).toList, Plain char)] ++
      (iface.mtu.map fun mtu => (("mtu", Json.int mtu), True)).toList ++
      ((filled? iface.description).map fun description =>
        (("description", Json.str description), True)).toList ++
      ((ipPrefix? iface).map fun ipPrefix =>
        (("subinterface", Json.arr [subinterfaceValue ipPrefix]), PlainText ipPrefix)).toList).map
        Prod.fst) = interfaceFields iface := by
    rw [interfaceFields, List.map_append, List.map_append, List.map_append]
    rcases iface.mtu with _ | mtu <;> rcases filled? iface.description with _ | description <;>
      rcases ipPrefix? iface with _ | ipPrefix <;> rfl
  rw [← fields]
  exact holds

/-- The interfaces are verbatim when their text is decoded to what it was written for. -/
theorem interfacesText_verbatim
    {interfaces : List Interface} {chars : List Char} {decoded : Json}
    (written : interfacesText interfaces = .ok chars) (loaded : loads chars = .ok decoded)
    (equal : (interfacesValue interfaces).pyEq decoded = true) :
    ∀ iface ∈ interfaces, VerbatimInterface iface := by
  obtain ⟨items, itemsWritten, equal⟩ := (bind_eq_ok _ _ _).1 written
  cases equal
  have holds : List.Forall₂ (fun iface text => Holds text (.obj (interfaceFields iface))
      (VerbatimInterface iface)) interfaces items :=
    ((mapM_eq_ok_iff _ _ _).1 itemsWritten).imp fun iface item => interfaceText_holds
  have spaced : Spaced "\n\n  ".toList := Spaced.intro (by decide)
  have spacedClose : Spaced "\n\n".toList := Spaced.intro (by decide)
  exact verbatim_of_loads (holdsBefore_listText spaced spacedClose holds [])
    (interfacesValue_sound interfaces).1 loaded equal

/-! ## bgp.j2 -/

/-- The strings of a session that its neighbour entry interpolates need no escaping. -/
def VerbatimSession (session : BGPSession) : Prop :=
  PlainText session.peerAddress ∧ ∀ group ∈ session.peerGroup, PlainText group

theorem namedText_holds
    {key : String} (plainKey : ∀ char ∈ key.toList, Plain char) (name : List Char) :
    Holds (namedText key name) (namedValue key (String.ofList name))
      (∀ char ∈ name, Plain char) := by
  have nameField := @fieldHolds_text _ name key _ (spaced_break 6) plainKey rfl
  have stateField := @fieldHolds_text _ "enable".toList "admin-state" "enable" (spaced_break 6)
    (by decide) rfl
  exact holds_dictionary (spaced_break 4)
    (List.Forall₂.cons nameField (List.Forall₂.cons stateField List.Forall₂.nil))
    fun all => all _ List.mem_cons_self

theorem neighborText_holds
    {session : BGPSession} {chars : List Char} (written : neighborText session = .ok chars) :
    Holds chars (.obj (neighborFields session)) (VerbatimSession session) := by
  obtain ⟨peerAs, peerAsWritten, equal⟩ := (bind_eq_ok _ _ _).1 written
  cases equal
  have peer : FieldHolds (("peer-address", .str session.peerAddress),
      PlainText session.peerAddress) _ :=
    fieldHolds_text (spaced_break 6) (by decide) String.ofList_toList
  have asn := @fieldHolds_number _ _ "peer-as" _ (spaced_break 6) (by decide) peerAsWritten
  have state : FieldHolds (("admin-state", .str (adminState session.enabled)), _) _ :=
    fieldHolds_text (spaced_break 6) (by decide) String.ofList_toList
  have spacedClose : Spaced "\n\n    ".toList := Spaced.intro (by decide)
  have fixed := List.Forall₂.cons peer
    (List.Forall₂.cons asn (List.Forall₂.cons state List.Forall₂.nil))
  rw [neighborFields]
  rcases filled : filled? session.peerGroup with _ | group
  · rw [Option.map_none, Option.toList_none, List.append_nil, List.append_nil]
    apply holds_dictionary spacedClose fixed
    intro all
    refine ⟨all _ List.mem_cons_self, ?_⟩
    intro group present
    by_cases empty : group = ""
    · subst empty
      intro char member
      cases member
    · rw [(filled?_eq_some_iff _ _).2 ⟨present, empty⟩] at filled
      cases filled
  · have groupField : FieldHolds (("peer-group", .str group), PlainText group) _ :=
      fieldHolds_text (spaced_break 6) (by decide) String.ofList_toList
    apply holds_dictionary spacedClose
      (List.rel_append fixed (List.Forall₂.cons groupField List.Forall₂.nil))
    intro all
    refine ⟨all _ List.mem_cons_self, ?_⟩
    intro other present
    obtain rfl : group = other := by
      rw [(filled?_eq_some_iff _ _).1 filled |>.1] at present
      exact Option.some.inj present
    exact all (("peer-group", .str group), PlainText group)
      (List.mem_append_right _ List.mem_cons_self)

theorem plain_of_plain_hyphenated
    {value : String} (plain : ∀ char ∈ hyphenated value, Plain char) : PlainText value := by
  intro char member
  by_cases underscore : char = '_'
  · rw [underscore]
    decide
  · have kept : char ∈ hyphenated value :=
      List.mem_map.2 ⟨char, member, if_neg underscore⟩
    exact plain char kept

/-- The entries of a named list hold their names. -/
theorem namedList_holds
    {key : String} (plainKey : ∀ char ∈ key.toList, Plain char) (names : List String)
    (chars : String → List Char) :
    Holds
      (listText "\n\n    ".toList "\n\n  ".toList
        (names.map fun name => namedText key (chars name)))
      (.arr (names.map fun name => namedValue key (String.ofList (chars name))))
      (∀ name ∈ names, ∀ char ∈ chars name, Plain char) := by
  have spaced : Spaced "\n\n    ".toList := Spaced.intro (by decide)
  have spacedClose : Spaced "\n\n  ".toList := Spaced.intro (by decide)
  intro tail _
  apply holdsBefore_listText spaced spacedClose
  rw [List.forall₂_map_right_iff, List.forall₂_same]
  intro name _
  exact namedText_holds plainKey (chars name)

theorem groupMember_holds (text : PyText) (sessions : List BGPSession) :
    ∃ fields : List ((String × Json) × Prop),
      List.Forall₂ FieldHolds fields (groupMember text sessions) ∧
      fields.map Prod.fst =
        match groupNames text sessions with
        | [] => []
        | groups => [("group", Json.arr (groups.map (namedValue "group-name")))] := by
  rw [groupMember]
  rcases groupNames text sessions with _ | ⟨first, rest⟩
  · exact ⟨[], List.Forall₂.nil, rfl⟩
  · have list := @namedList_holds "group-name" (by decide) (first :: rest) String.toList
    simp only [String.ofList_toList] at list
    have spaced : Spaced "\n\n\n  ".toList := Spaced.intro (by decide)
    exact ⟨_, List.Forall₂.cons (FieldHolds.intro spaced (by decide) list) List.Forall₂.nil, rfl⟩

/-- The strings the `bgp` container interpolates need no escaping. -/
structure VerbatimBgp (text : PyText) (routerId : String) (sessions : List BGPSession) : Prop where
  routerId : PlainText routerId
  families : ∀ family ∈ unique text (sessions.map BGPSession.addressFamily), PlainText family
  sessions : ∀ session ∈ sessions, VerbatimSession session

/-- The container is verbatim when its text is decoded to what it was written for. -/
theorem bgpText_verbatim
    {text : PyText} {routerId : String} {sessions : List BGPSession} {chars : List Char}
    {decoded : Json} (written : bgpText text routerId sessions = .ok chars)
    (loaded : loads chars = .ok decoded)
    (equal : (Json.obj (bgpFields text routerId sessions)).pyEq decoded = true) :
    VerbatimBgp text routerId sessions := by
  obtain ⟨asn, asnWritten, rest⟩ := (bind_eq_ok _ _ _).1 written
  obtain ⟨neighbors, neighborsWritten, equal⟩ := (bind_eq_ok _ _ _).1 rest
  cases equal
  have state := @fieldHolds_text _ "enable".toList "admin-state" "enable" (spaced_break 2)
    (by decide) rfl
  have asnField := @fieldHolds_number _ _ "autonomous-system" _ (spaced_break 2) (by decide)
    asnWritten
  have router : FieldHolds (("router-id", .str routerId), PlainText routerId) _ :=
    fieldHolds_text (spaced_break 2) (by decide) String.ofList_toList
  have families := FieldHolds.intro (spaced_break 2)
    (show ∀ char ∈ "afi-safi".toList, Plain char by decide)
    (@namedList_holds "afi-safi-name" (by decide)
      (unique text (sessions.map BGPSession.addressFamily)) hyphenated)
  obtain ⟨groupFields, groups, groupValues⟩ := groupMember_holds text sessions
  have entries : List.Forall₂ (fun session text => Holds text (.obj (neighborFields session))
      (VerbatimSession session)) sessions neighbors :=
    ((mapM_eq_ok_iff _ _ _).1 neighborsWritten).imp fun session item => neighborText_holds
  have spaced : Spaced "\n\n    ".toList := Spaced.intro (by decide)
  have spacedClose : Spaced "\n\n  ".toList := Spaced.intro (by decide)
  have neighborList : Holds (listText "\n\n    ".toList "\n\n  ".toList neighbors)
      (.arr (sessions.map fun session => .obj (neighborFields session)))
      (∀ session ∈ sessions, VerbatimSession session) :=
    fun tail _ => holdsBefore_listText spaced spacedClose entries tail
  have spacedNeighbor :
      Spaced (if groupNames text sessions = [] then "\n\n\n  " else "\n\n  ").toList := by
    split_ifs
    · exact Spaced.intro (by decide)
    · exact Spaced.intro (by decide)
  have neighborField := FieldHolds.intro spacedNeighbor
    (show ∀ char ∈ "neighbor".toList, Plain char by decide) neighborList
  have members := List.rel_append
    (List.rel_append
      (List.Forall₂.cons state
        (List.Forall₂.cons asnField
          (List.Forall₂.cons router (List.Forall₂.cons families List.Forall₂.nil))))
      groups)
    (List.Forall₂.cons neighborField List.Forall₂.nil)
  have closing : Spaced ['\n'] := Spaced.intro List.not_mem_nil
  have holds := holdsBefore_dictionaryText closing members []
  rw [List.map_append, List.map_append, groupValues] at holds
  have all := verbatim_of_loads holds (bgpFields_sound text routerId sessions).1 loaded equal
  refine ⟨?_, ?_, ?_⟩
  · apply all (("router-id", .str routerId), PlainText routerId)
    exact List.mem_append_left _ (List.mem_append_left _
      (List.mem_cons_of_mem _ (List.mem_cons_of_mem _ List.mem_cons_self)))
  · have verbatimFamilies : ∀ family ∈ unique text (sessions.map BGPSession.addressFamily),
        ∀ char ∈ hyphenated family, Plain char := by
      apply all (("afi-safi", .arr ((unique text (sessions.map BGPSession.addressFamily)).map
        fun family => namedValue "afi-safi-name" (String.ofList (hyphenated family)))), _)
      exact List.mem_append_left _ (List.mem_append_left _ (List.mem_cons_of_mem _
        (List.mem_cons_of_mem _ (List.mem_cons_of_mem _ List.mem_cons_self))))
    exact fun family member => plain_of_plain_hyphenated (verbatimFamilies family member)
  · apply all (("neighbor", _), ∀ session ∈ sessions, VerbatimSession session)
    exact List.mem_append_right _ List.mem_cons_self

end Snapl.Executor
