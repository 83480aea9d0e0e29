import Snapl.Executor.Templates
import Snapl.Library.Fallible

/-!
# The configuration renderer

`render` writes the templates, decodes their texts and merges them into one
payload.  Rendering succeeds exactly when every address has a prefix length
and every written number is short enough to be written, and the payload is
then the configuration `payloadValue` says intent manages.
-/

namespace Snapl.Executor

open Snapl.Library Snapl.Library.JsonText Snapl.Intent

/-- What rendering raises. -/
inductive RenderError where
  | templateError (message : String)
  | pyError (error : PyError)
deriving DecidableEq

/-- The router identifier: a loopback's address, or the management address. -/
def selectRouterId (text : PyText) (desired : DesiredState) : String :=
  (desired.interfaces.findSome? fun iface =>
    if "lo".toList.isPrefixOf (text.lower iface.name).toList then
      filled? iface.ipAddress
    else none).getD desired.device.managementAddress

/-- The error of an interface whose address has no prefix length. -/
def missingPrefix? (text : PyText) (iface : Interface) : Option String :=
  match filled? iface.ipAddress, iface.prefixLength with
  | some address, none =>
      some ("interface " ++ text.reprStr iface.name ++ ": ip_address " ++
        text.reprStr address ++ " has no prefix_length")
  | _, _ => none

/-- Decode the text a template produced. -/
def decode (rendered : Except PyError (List Char)) : Except RenderError Json :=
  match rendered with
  | .error error => .error (.pyError error)
  | .ok chars =>
      match loads chars with
      | .error error => .error (.pyError error)
      | .ok value => .ok value

/-- Render a desired state into a payload. -/
def render (text : PyText) (desired : DesiredState) : Except RenderError Json :=
  match desired.interfaces.findSome? (missingPrefix? text) with
  | some message => .error (.templateError message)
  | none => do
      let interfaces ← decode (interfacesText desired.interfaces)
      if desired.bgpSessions = [] then
        return .obj [("interface", interfaces)]
      else
        let bgp ← decode
          (bgpText text (selectRouterId text desired) desired.bgpSessions)
        return .obj
          [("interface", interfaces),
            ("network-instance", .arr
              [.obj [("name", .str "default"),
                ("protocols", .obj [("bgp", bgp)])]])]

/-! ## The payload as a value -/

/-- The rendered prefix of an interface that has an address. -/
def ipPrefix? (iface : Interface) : Option String :=
  (filled? iface.ipAddress).map fun address =>
    String.ofList (address.toList ++ '/' ::
      match iface.prefixLength with
      | none => "None".toList
      | some length => decimalText length)

/-- The subinterface that carries a prefix. -/
def subinterfaceValue (ipPrefix : String) : Json :=
  .obj
    [("index", .int 0),
      ("admin-state", .str "enable"),
      ("ipv4", .obj
        [("admin-state", .str "enable"),
          ("address", .arr [.obj [("ip-prefix", .str ipPrefix)]])])]

/-- The fields of one rendered interface. -/
def interfaceFields (iface : Interface) : List (String × Json) :=
  [("name", .str iface.name), ("admin-state", .str (adminState iface.enabled))] ++
    (iface.mtu.map fun mtu => ("mtu", Json.int mtu)).toList ++
    ((filled? iface.description).map fun description =>
      ("description", Json.str description)).toList ++
    ((ipPrefix? iface).map fun ipPrefix =>
      ("subinterface", Json.arr [subinterfaceValue ipPrefix])).toList

/-- The fields of one rendered neighbour. -/
def neighborFields (session : BGPSession) : List (String × Json) :=
  [("peer-address", .str session.peerAddress),
    ("peer-as", .int session.peerAsn),
    ("admin-state", .str (adminState session.enabled))] ++
    ((filled? session.peerGroup).map fun group =>
      ("peer-group", Json.str group)).toList

/-- A named entry of the `afi-safi` and `group` lists. -/
def namedValue (key : String) (name : String) : Json :=
  .obj [(key, .str name), ("admin-state", .str "enable")]

/-- The fields of the rendered `bgp` container. -/
def bgpFields (text : PyText) (routerId : String) (sessions : List BGPSession) :
    List (String × Json) :=
  [("admin-state", .str "enable"),
    ("autonomous-system", .int (autonomousSystem sessions)),
    ("router-id", .str routerId),
    ("afi-safi", .arr
      ((unique text (sessions.map BGPSession.addressFamily)).map fun family =>
        namedValue "afi-safi-name" (String.ofList (hyphenated family))))] ++
    (match groupNames text sessions with
      | [] => []
      | groups =>
          [("group", Json.arr (groups.map (namedValue "group-name")))]) ++
    [("neighbor", .arr (sessions.map fun session => .obj (neighborFields session)))]

/-- The whole payload of a desired state. -/
def payloadFields (text : PyText) (desired : DesiredState) :
    List (String × Json) :=
  ("interface",
    .arr (desired.interfaces.map fun iface => .obj (interfaceFields iface))) ::
    if desired.bgpSessions = [] then []
    else
      [("network-instance", .arr
        [.obj [("name", .str "default"),
          ("protocols", .obj
            [("bgp", .obj (bgpFields text (selectRouterId text desired)
              desired.bgpSessions))])]])]

/-! ## Conditions on a desired state -/

/-- A string a template may interpolate verbatim. -/
def PlainText (value : String) : Prop := ∀ char ∈ value.toList, Plain char

instance (value : String) : Decidable (PlainText value) :=
  inferInstanceAs (Decidable (∀ char ∈ value.toList, Plain char))

/-- Every string the templates interpolate verbatim needs no escaping. -/
structure PlainState (text : PyText) (desired : DesiredState) : Prop where
  interfaceName : ∀ iface ∈ desired.interfaces, PlainText iface.name
  ipAddress : ∀ iface ∈ desired.interfaces,
    ∀ address ∈ iface.ipAddress, PlainText address
  peerAddress : ∀ session ∈ desired.bgpSessions, PlainText session.peerAddress
  peerGroup : ∀ session ∈ desired.bgpSessions,
    ∀ group ∈ session.peerGroup, PlainText group
  addressFamily : ∀ session ∈ desired.bgpSessions,
    PlainText session.addressFamily
  routerId : desired.bgpSessions ≠ [] → PlainText (selectRouterId text desired)

/-- The numbers an interface writes can be written. -/
def InterfaceWritable (iface : Interface) : Prop :=
  (∀ mtu ∈ iface.mtu, Convertible mtu) ∧
    (filled? iface.ipAddress ≠ none → ∀ length ∈ iface.prefixLength,
      Convertible length)

instance (iface : Interface) : Decidable (InterfaceWritable iface) :=
  inferInstanceAs (Decidable (_ ∧ _))

/-- The numbers a desired state writes can be written. -/
structure Writable (desired : DesiredState) : Prop where
  interfaces : ∀ iface ∈ desired.interfaces, InterfaceWritable iface
  localAsn : Convertible (autonomousSystem desired.bgpSessions)
  peerAsn : ∀ session ∈ desired.bgpSessions, Convertible session.peerAsn

/-- Every address has a prefix length. -/
def PrefixesComplete (desired : DesiredState) : Prop :=
  ∀ iface ∈ desired.interfaces,
    filled? iface.ipAddress ≠ none → iface.prefixLength ≠ none

/-! ## Plain pieces -/

theorem plain_of_isDigit {char : Char} (digit : char.isDigit = true) :
    Plain char := by
  simp only [Char.isDigit, Bool.and_eq_true, decide_eq_true_eq] at digit
  have low : 48 ≤ char.toNat := UInt32.le_iff_toNat_le.1 digit.1
  refine ⟨?_, ?_, by omega⟩
  · rintro rfl
    exact absurd low (by decide)
  · rintro rfl
    exact absurd digit.2 (by decide)

theorem plain_decimalText (value : Int) :
    ∀ char ∈ decimalText value, Plain char := by
  intro char member
  rw [decimalText] at member
  split_ifs at member
  · rcases List.mem_cons.1 member with rfl | member
    · decide
    · exact plain_of_isDigit (isDigit_of_mem_decimalDigits member)
  · exact plain_of_isDigit (isDigit_of_mem_decimalDigits member)

theorem plain_adminState (enabled : Bool) :
    ∀ char ∈ (adminState enabled).toList, Plain char := by
  cases enabled <;> decide

theorem plain_hyphenated {value : String} (plain : PlainText value) :
    ∀ char ∈ hyphenated value, Plain char := by
  intro char member
  obtain ⟨source, sourceMember, rfl⟩ := List.mem_map.1 member
  split_ifs
  · decide
  · exact plain source sourceMember

/-- A string member is read as its string. -/
theorem readsField_text
    {before chars : List Char} {key value : String}
    (blank : Blank before) (plainKey : ∀ char ∈ key.toList, Plain char)
    (plain : ∀ char ∈ chars, Plain char)
    (equal : String.ofList chars = value) :
    ReadsField ⟨before, key, quoted chars⟩ (key, .str value) where
  blank := blank
  key := rfl
  plain := plainKey
  value := by
    rw [← equal]
    exact ReadsValue.quoted plain

/-- A number member is read as its number. -/
theorem readsField_number
    {before digits : List Char} {key : String} {value : Int}
    (blank : Blank before) (plainKey : ∀ char ∈ key.toList, Plain char)
    (written : strOfInt value = .ok digits) :
    ReadsField ⟨before, key, digits⟩ (key, .int value) where
  blank := blank
  key := rfl
  plain := plainKey
  value := by
    obtain ⟨convertible, rfl⟩ := (strOfInt_eq_ok_iff value digits).1 written
    exact ReadsValue.integer convertible

/-! ## Reading the interfaces template back -/

theorem mtuMember_reads
    {iface : Interface} {members : List Member}
    (written : mtuMember iface = .ok members) :
    List.Forall₂ ReadsField members
      (iface.mtu.map fun mtu => ("mtu", Json.int mtu)).toList := by
  rw [mtuMember] at written
  rcases mtu : iface.mtu with _ | value
  · rw [mtu] at written
    cases written
    exact List.Forall₂.nil
  · rw [mtu] at written
    obtain ⟨digits, digitsWritten, equal⟩ := (bind_eq_ok _ _ _).1 written
    cases equal
    exact List.Forall₂.cons
      (readsField_number (by decide) (by decide) digitsWritten)
      List.Forall₂.nil

theorem descriptionMember_reads (iface : Interface) :
    List.Forall₂ ReadsField (descriptionMember iface)
      ((filled? iface.description).map fun description =>
        ("description", Json.str description)).toList := by
  rw [descriptionMember]
  rcases filled? iface.description with _ | description
  · exact List.Forall₂.nil
  · refine List.Forall₂.cons
      (ReadsField.intro (by decide) (by decide) ?_) List.Forall₂.nil
    have reads := ReadsValue.tojson description.toList
    rwa [String.ofList_toList] at reads

theorem subinterfaceText_reads
    {ipPrefix : List Char} (plain : ∀ char ∈ ipPrefix, Plain char) :
    ReadsValue (subinterfaceText ipPrefix)
      (.arr [subinterfaceValue (String.ofList ipPrefix)]) := by
  have prefixField : ReadsField
      ⟨"\n              ".toList, "ip-prefix", quoted ipPrefix⟩
      ("ip-prefix", .str (String.ofList ipPrefix)) :=
    readsField_text (by decide) (by decide) plain rfl
  have enableField : ∀ before, Blank before → ReadsField
      ⟨before, "admin-state", quoted "enable".toList⟩
      ("admin-state", .str "enable") :=
    fun before blank =>
      readsField_text blank (by decide) (by decide) (by decide)
  have address := ReadsValue.listText
    (show Blank "\n            ".toList by decide)
    (show Blank "\n          ".toList by decide)
    (List.Forall₂.cons
      (ReadsValue.dictionaryText (show Blank "\n            ".toList by decide)
        (List.Forall₂.cons prefixField List.Forall₂.nil)
        (by simp) (by simp))
      List.Forall₂.nil)
  have ipv4 := ReadsValue.dictionaryText
    (show Blank "\n        ".toList by decide)
    (List.Forall₂.cons
      (enableField "\n          ".toList (by decide))
      (List.Forall₂.cons
        (ReadsField.intro (show Blank "\n          ".toList by decide)
          (show ∀ char ∈ "address".toList, Plain char by decide) address)
        List.Forall₂.nil))
    (by simp) (by simp)
  have index : ReadsValue ['0'] (.int 0) :=
    ReadsValue.integer convertible_zero
  have subinterface := ReadsValue.dictionaryText
    (show Blank "\n      ".toList by decide)
    (List.Forall₂.cons
      (ReadsField.intro (show Blank "\n        ".toList by decide)
        (show ∀ char ∈ "index".toList, Plain char by decide) index)
      (List.Forall₂.cons
        (enableField "\n        ".toList (by decide))
        (List.Forall₂.cons
          (ReadsField.intro (show Blank "\n        ".toList by decide)
            (show ∀ char ∈ "ipv4".toList, Plain char by decide) ipv4)
          List.Forall₂.nil)))
    (by simp) (by simp)
  exact ReadsValue.listText
    (show Blank "\n      ".toList by decide)
    (show Blank "\n    ".toList by decide)
    (List.Forall₂.cons subinterface List.Forall₂.nil)

theorem subinterfaceMember_reads
    {iface : Interface} {members : List Member}
    (written : subinterfaceMember iface = .ok members)
    (plain : ∀ address ∈ iface.ipAddress, PlainText address) :
    List.Forall₂ ReadsField members
      ((ipPrefix? iface).map fun ipPrefix =>
        ("subinterface", Json.arr [subinterfaceValue ipPrefix])).toList := by
  rw [subinterfaceMember] at written
  rw [ipPrefix?]
  rcases filled : filled? iface.ipAddress with _ | address
  · rw [filled] at written
    cases written
    exact List.Forall₂.nil
  · rw [filled] at written
    obtain ⟨length, lengthWritten, equal⟩ := (bind_eq_ok _ _ _).1 written
    cases equal
    have addressPlain : PlainText address :=
      plain address ((filled?_eq_some_iff _ _).1 filled).1
    have lengthPlain : ∀ char ∈ length, Plain char := by
      rw [prefixLengthText] at lengthWritten
      rcases prefixLength : iface.prefixLength with _ | value
      · rw [prefixLength] at lengthWritten
        cases lengthWritten
        decide
      · rw [prefixLength] at lengthWritten
        obtain ⟨-, rfl⟩ := (strOfInt_eq_ok_iff _ _).1 lengthWritten
        exact plain_decimalText value
    have lengthEqual : length =
        match iface.prefixLength with
        | none => "None".toList
        | some value => decimalText value := by
      rw [prefixLengthText] at lengthWritten
      rcases prefixLength : iface.prefixLength with _ | value
      · rw [prefixLength] at lengthWritten
        cases lengthWritten
        rfl
      · rw [prefixLength] at lengthWritten
        exact ((strOfInt_eq_ok_iff _ _).1 lengthWritten).2
    refine List.Forall₂.cons
      (ReadsField.intro (by decide) (by decide) ?_) List.Forall₂.nil
    rw [← lengthEqual]
    apply subinterfaceText_reads
    intro char member
    rcases List.mem_append.1 member with member | member
    · exact addressPlain char member
    · rcases List.mem_cons.1 member with rfl | member
      · decide
      · exact lengthPlain char member

theorem interfaceFields_keys_nodup (iface : Interface) :
    ((interfaceFields iface).map Prod.fst).Nodup := by
  rw [interfaceFields]
  rcases iface.mtu with _ | mtu <;>
    rcases filled? iface.description with _ | description <;>
      rcases ipPrefix? iface with _ | ipPrefix <;>
        simp

theorem interfaceText_reads
    {iface : Interface} {chars : List Char}
    (written : interfaceText iface = .ok chars)
    (plainName : PlainText iface.name)
    (plainAddress : ∀ address ∈ iface.ipAddress, PlainText address) :
    ReadsValue chars (.obj (interfaceFields iface)) := by
  obtain ⟨mtu, mtuWritten, rest⟩ := (bind_eq_ok _ _ _).1 written
  obtain ⟨subinterface, subWritten, equal⟩ := (bind_eq_ok _ _ _).1 rest
  cases equal
  have name : ReadsField ⟨"\n    ".toList, "name", quoted iface.name.toList⟩
      ("name", .str iface.name) :=
    readsField_text (by decide) (by decide) plainName (String.ofList_toList)
  have state : ReadsField
      ⟨"\n    ".toList, "admin-state", quoted (adminState iface.enabled).toList⟩
      ("admin-state", .str (adminState iface.enabled)) :=
    readsField_text (by decide) (by decide) (plain_adminState iface.enabled)
      String.ofList_toList
  have fields := List.rel_append
    (List.rel_append
      (List.rel_append
        (List.Forall₂.cons name (List.Forall₂.cons state List.Forall₂.nil))
        (mtuMember_reads mtuWritten))
      (descriptionMember_reads iface))
    (subinterfaceMember_reads subWritten plainAddress)
  exact ReadsValue.dictionaryText (by decide) fields
    (by simp [interfaceFields]) (interfaceFields_keys_nodup iface)

theorem mtuMember_succeeds_iff (iface : Interface) :
    (∃ members, mtuMember iface = .ok members) ↔
      ∀ mtu ∈ iface.mtu, Convertible mtu := by
  rw [mtuMember]
  rcases iface.mtu with _ | mtu
  · simp
  · constructor
    · rintro ⟨members, written⟩ other member
      cases member
      obtain ⟨digits, digitsWritten, -⟩ := (bind_eq_ok _ _ _).1 written
      exact ((strOfInt_eq_ok_iff mtu digits).1 digitsWritten).1
    · intro convertible
      have digits := strOfInt_of_convertible (convertible mtu rfl)
      exact ⟨_, (bind_eq_ok _ _ _).2 ⟨_, digits, rfl⟩⟩

theorem prefixLengthText_succeeds_iff (iface : Interface) :
    (∃ chars, prefixLengthText iface = .ok chars) ↔
      ∀ length ∈ iface.prefixLength, Convertible length := by
  rw [prefixLengthText]
  rcases iface.prefixLength with _ | length
  · simp
  · constructor
    · rintro ⟨digits, written⟩ other member
      cases member
      exact ((strOfInt_eq_ok_iff length digits).1 written).1
    · intro convertible
      exact ⟨_, strOfInt_of_convertible (convertible length rfl)⟩

theorem subinterfaceMember_succeeds_iff (iface : Interface) :
    (∃ members, subinterfaceMember iface = .ok members) ↔
      (filled? iface.ipAddress ≠ none →
        ∀ length ∈ iface.prefixLength, Convertible length) := by
  rw [subinterfaceMember, ← prefixLengthText_succeeds_iff]
  rcases filled? iface.ipAddress with _ | address
  · simp
  · constructor
    · rintro ⟨members, written⟩ -
      obtain ⟨chars, charsWritten, -⟩ := (bind_eq_ok _ _ _).1 written
      exact ⟨chars, charsWritten⟩
    · intro succeeds
      obtain ⟨chars, written⟩ := succeeds (by simp)
      exact ⟨_, (bind_eq_ok _ _ _).2 ⟨chars, written, rfl⟩⟩

theorem interfaceText_succeeds_iff (iface : Interface) :
    (∃ chars, interfaceText iface = .ok chars) ↔ InterfaceWritable iface := by
  rw [InterfaceWritable, ← mtuMember_succeeds_iff,
    ← subinterfaceMember_succeeds_iff]
  constructor
  · rintro ⟨chars, written⟩
    obtain ⟨mtu, mtuWritten, rest⟩ := (bind_eq_ok _ _ _).1 written
    obtain ⟨subinterface, subWritten, -⟩ := (bind_eq_ok _ _ _).1 rest
    exact ⟨⟨mtu, mtuWritten⟩, subinterface, subWritten⟩
  · rintro ⟨⟨mtu, mtuWritten⟩, subinterface, subWritten⟩
    exact ⟨_, (bind_eq_ok _ _ _).2
      ⟨mtu, mtuWritten, (bind_eq_ok _ _ _).2 ⟨subinterface, subWritten, rfl⟩⟩⟩

theorem interfacesText_reads
    {interfaces : List Interface} {chars : List Char}
    (written : interfacesText interfaces = .ok chars)
    (plainName : ∀ iface ∈ interfaces, PlainText iface.name)
    (plainAddress : ∀ iface ∈ interfaces,
      ∀ address ∈ iface.ipAddress, PlainText address) :
    ReadsValue chars
      (.arr (interfaces.map fun iface => .obj (interfaceFields iface))) := by
  obtain ⟨items, itemsWritten, equal⟩ := (bind_eq_ok _ _ _).1 written
  cases equal
  have reads := forall₂_map_of_mapM
    (fun iface => Json.obj (interfaceFields iface)) itemsWritten
    fun iface member item itemWritten =>
      interfaceText_reads itemWritten (plainName iface member)
        (plainAddress iface member)
  exact ReadsValue.listText (by decide) (by decide) reads

theorem interfacesText_succeeds_iff (interfaces : List Interface) :
    (∃ chars, interfacesText interfaces = .ok chars) ↔
      ∀ iface ∈ interfaces, InterfaceWritable iface := by
  constructor
  · rintro ⟨chars, written⟩ iface member
    obtain ⟨items, itemsWritten, -⟩ := (bind_eq_ok _ _ _).1 written
    rw [← interfaceText_succeeds_iff]
    exact exists_of_mapM_eq_ok itemsWritten member
  · intro writable
    obtain ⟨items, itemsWritten⟩ :=
      exists_mapM_of_forall interfaceText interfaces fun iface member =>
        (interfaceText_succeeds_iff iface).2 (writable iface member)
    exact ⟨_, (bind_eq_ok _ _ _).2 ⟨items, itemsWritten, rfl⟩⟩

/-! ## Reading the BGP template back -/

theorem namedText_reads
    {key : String} {name : List Char}
    (plainKey : ∀ char ∈ key.toList, Plain char)
    (other : key ≠ "admin-state")
    (plain : ∀ char ∈ name, Plain char) :
    ReadsValue (namedText key name) (namedValue key (String.ofList name)) := by
  have nameField : ReadsField ⟨"\n      ".toList, key, quoted name⟩
      (key, .str (String.ofList name)) :=
    readsField_text (by decide) plainKey plain rfl
  have stateField : ReadsField
      ⟨"\n      ".toList, "admin-state", quoted "enable".toList⟩
      ("admin-state", .str "enable") :=
    readsField_text (by decide) (by decide) (by decide) (by decide)
  exact ReadsValue.dictionaryText (by decide)
    (List.Forall₂.cons nameField (List.Forall₂.cons stateField List.Forall₂.nil))
    (by simp) (by simp [other])

theorem neighborFields_keys_nodup (session : BGPSession) :
    ((neighborFields session).map Prod.fst).Nodup := by
  rw [neighborFields]
  rcases filled? session.peerGroup with _ | group <;> simp

theorem neighborText_reads
    {session : BGPSession} {chars : List Char}
    (written : neighborText session = .ok chars)
    (plainPeer : PlainText session.peerAddress)
    (plainGroup : ∀ group ∈ session.peerGroup, PlainText group) :
    ReadsValue chars (.obj (neighborFields session)) := by
  obtain ⟨peerAs, peerAsWritten, equal⟩ := (bind_eq_ok _ _ _).1 written
  cases equal
  have peer : ReadsField
      ⟨"\n      ".toList, "peer-address", quoted session.peerAddress.toList⟩
      ("peer-address", .str session.peerAddress) :=
    readsField_text (by decide) (by decide) plainPeer String.ofList_toList
  have asn : ReadsField ⟨"\n      ".toList, "peer-as", peerAs⟩
      ("peer-as", .int session.peerAsn) :=
    readsField_number (by decide) (by decide) peerAsWritten
  have state : ReadsField
      ⟨"\n      ".toList, "admin-state",
        quoted (adminState session.enabled).toList⟩
      ("admin-state", .str (adminState session.enabled)) :=
    readsField_text (by decide) (by decide) (plain_adminState session.enabled)
      String.ofList_toList
  refine ReadsValue.dictionaryText (by decide)
    (List.rel_append
      (List.Forall₂.cons peer
        (List.Forall₂.cons asn (List.Forall₂.cons state List.Forall₂.nil)))
      ?_)
    (by simp [neighborFields]) (neighborFields_keys_nodup session)
  rcases filled : filled? session.peerGroup with _ | group
  · exact List.Forall₂.nil
  · have plain : PlainText group :=
      plainGroup group ((filled?_eq_some_iff _ _).1 filled).1
    exact List.Forall₂.cons
      (readsField_text (by decide) (by decide) plain String.ofList_toList)
      List.Forall₂.nil

theorem neighborText_succeeds_iff (session : BGPSession) :
    (∃ chars, neighborText session = .ok chars) ↔
      Convertible session.peerAsn := by
  constructor
  · rintro ⟨chars, written⟩
    obtain ⟨peerAs, peerAsWritten, -⟩ := (bind_eq_ok _ _ _).1 written
    exact ((strOfInt_eq_ok_iff _ _).1 peerAsWritten).1
  · intro convertible
    exact ⟨_, (bind_eq_ok _ _ _).2
      ⟨_, strOfInt_of_convertible convertible, rfl⟩⟩

theorem mem_of_mem_uniqueFrom
    {text : PyText} {seen items : List String} {item : String}
    (member : item ∈ uniqueFrom text seen items) : item ∈ items := by
  induction items generalizing seen with
  | nil => exact member
  | cons first rest induction =>
      rw [uniqueFrom] at member
      split_ifs at member
      · exact List.mem_cons_of_mem _ (induction member)
      · rcases List.mem_cons.1 member with rfl | member
        · exact List.mem_cons_self
        · exact List.mem_cons_of_mem _ (induction member)

/-- The entries of a named list are read back. -/
theorem namedList_reads
    {key : String} (plainKey : ∀ char ∈ key.toList, Plain char)
    (other : key ≠ "admin-state")
    {names : List String} {chars : String → List Char}
    (plain : ∀ name ∈ names, ∀ char ∈ chars name, Plain char) :
    ReadsValue
      (listText "\n\n    ".toList "\n\n  ".toList
        (names.map fun name => namedText key (chars name)))
      (.arr (names.map fun name => namedValue key (String.ofList (chars name)))) := by
  apply ReadsValue.listText (by decide) (by decide)
  rw [List.forall₂_map_left_iff, List.forall₂_map_right_iff, List.forall₂_same]
  intro name member
  exact namedText_reads plainKey other (plain name member)

theorem groupMember_reads
    (text : PyText) {sessions : List BGPSession}
    (plain : ∀ session ∈ sessions, ∀ group ∈ session.peerGroup, PlainText group) :
    List.Forall₂ ReadsField (groupMember text sessions)
      (match groupNames text sessions with
        | [] => []
        | groups =>
            [("group", Json.arr (groups.map (namedValue "group-name")))]) := by
  have plainNames : ∀ name ∈ groupNames text sessions, PlainText name := by
    intro name member
    obtain ⟨session, sessionMember, filled⟩ :=
      List.mem_filterMap.1 (mem_of_mem_uniqueFrom member)
    exact plain session sessionMember name ((filled?_eq_some_iff _ _).1 filled).1
  rw [groupMember]
  rcases names : groupNames text sessions with _ | ⟨first, rest⟩
  · exact List.Forall₂.nil
  · rw [names] at plainNames
    have list := namedList_reads (show ∀ char ∈ "group-name".toList, Plain char by decide)
      (show "group-name" ≠ "admin-state" by decide)
      (show ∀ name ∈ first :: rest, ∀ char ∈ name.toList, Plain char from
        plainNames)
    simp only [String.ofList_toList] at list
    exact List.Forall₂.cons
      (ReadsField.intro (by decide) (by decide) list) List.Forall₂.nil

theorem bgpFields_keys_nodup
    (text : PyText) (routerId : String) (sessions : List BGPSession) :
    ((bgpFields text routerId sessions).map Prod.fst).Nodup := by
  rw [bgpFields]
  rcases groupNames text sessions with _ | ⟨first, rest⟩ <;> simp

theorem bgpText_reads
    {text : PyText} {routerId : String} {sessions : List BGPSession}
    {chars : List Char}
    (written : bgpText text routerId sessions = .ok chars)
    (plainRouterId : PlainText routerId)
    (plainPeer : ∀ session ∈ sessions, PlainText session.peerAddress)
    (plainGroup : ∀ session ∈ sessions,
      ∀ group ∈ session.peerGroup, PlainText group)
    (plainFamily : ∀ family ∈ unique text (sessions.map BGPSession.addressFamily),
      PlainText family) :
    ReadsValue chars (.obj (bgpFields text routerId sessions)) := by
  obtain ⟨asn, asnWritten, rest⟩ := (bind_eq_ok _ _ _).1 written
  obtain ⟨neighbors, neighborsWritten, equal⟩ := (bind_eq_ok _ _ _).1 rest
  cases equal
  have state : ReadsField ⟨"\n  ".toList, "admin-state", quoted "enable".toList⟩
      ("admin-state", .str "enable") :=
    readsField_text (by decide) (by decide) (by decide) (by decide)
  have asnField : ReadsField ⟨"\n  ".toList, "autonomous-system", asn⟩
      ("autonomous-system", .int (autonomousSystem sessions)) :=
    readsField_number (by decide) (by decide) asnWritten
  have router : ReadsField
      ⟨"\n  ".toList, "router-id", quoted routerId.toList⟩
      ("router-id", .str routerId) :=
    readsField_text (by decide) (by decide) plainRouterId String.ofList_toList
  have plainFamilies :
      ∀ family ∈ unique text (sessions.map BGPSession.addressFamily),
        ∀ char ∈ hyphenated family, Plain char := by
    intro family member
    exact plain_hyphenated (plainFamily family member)
  have families := namedList_reads
    (show ∀ char ∈ "afi-safi-name".toList, Plain char by decide)
    (show "afi-safi-name" ≠ "admin-state" by decide) plainFamilies
  have neighborList := ReadsValue.listText
    (show Blank "\n\n    ".toList by decide)
    (show Blank "\n\n  ".toList by decide)
    (forall₂_map_of_mapM (fun session => Json.obj (neighborFields session))
      neighborsWritten fun session member item itemWritten =>
        neighborText_reads itemWritten (plainPeer session member)
          (plainGroup session member))
  have blankNeighbor :
      Blank (if groupNames text sessions = [] then "\n\n\n  "
        else "\n\n  ").toList := by
    split_ifs <;> decide
  exact ReadsValue.dictionaryText (by decide)
    (List.rel_append
      (List.rel_append
        (List.Forall₂.cons state
          (List.Forall₂.cons asnField
            (List.Forall₂.cons router
              (List.Forall₂.cons
                (ReadsField.intro (show Blank "\n  ".toList by decide)
                  (show ∀ char ∈ "afi-safi".toList, Plain char by decide)
                  families)
                List.Forall₂.nil))))
        (groupMember_reads text plainGroup))
      (List.Forall₂.cons
        (ReadsField.intro blankNeighbor
          (show ∀ char ∈ "neighbor".toList, Plain char by decide) neighborList)
        List.Forall₂.nil))
    (by simp [bgpFields]) (bgpFields_keys_nodup text routerId sessions)

theorem bgpText_succeeds_iff
    (text : PyText) (routerId : String) (sessions : List BGPSession) :
    (∃ chars, bgpText text routerId sessions = .ok chars) ↔
      Convertible (autonomousSystem sessions) ∧
        ∀ session ∈ sessions, Convertible session.peerAsn := by
  constructor
  · rintro ⟨chars, written⟩
    obtain ⟨asn, asnWritten, rest⟩ := (bind_eq_ok _ _ _).1 written
    obtain ⟨neighbors, neighborsWritten, -⟩ := (bind_eq_ok _ _ _).1 rest
    refine ⟨((strOfInt_eq_ok_iff _ _).1 asnWritten).1, ?_⟩
    intro session member
    rw [← neighborText_succeeds_iff]
    exact exists_of_mapM_eq_ok neighborsWritten member
  · rintro ⟨localAsn, peerAsn⟩
    obtain ⟨neighbors, neighborsWritten⟩ :=
      exists_mapM_of_forall neighborText sessions fun session member =>
        (neighborText_succeeds_iff session).2 (peerAsn session member)
    exact ⟨_, (bind_eq_ok _ _ _).2
      ⟨_, strOfInt_of_convertible localAsn,
        (bind_eq_ok _ _ _).2 ⟨neighbors, neighborsWritten, rfl⟩⟩⟩

/-! ## The payload -/

theorem decode_eq_ok_iff
    (rendered : Except PyError (List Char)) (value : Json) :
    decode rendered = .ok value ↔
      ∃ chars, rendered = .ok chars ∧ loads chars = .ok value := by
  rcases rendered with error | chars
  · simp [decode]
  · simp only [decode, Except.ok.injEq, exists_eq_left']
    rcases loads chars with error | decoded <;> simp

theorem decode_of_reads
    {chars : List Char} {value : Json} (reads : ReadsValue chars value) :
    decode (.ok chars) = .ok value := by
  have loaded := reads.loads blank_nil blank_nil
  rw [List.nil_append, List.append_nil] at loaded
  exact (decode_eq_ok_iff _ _).2 ⟨chars, rfl, loaded⟩

theorem missingPrefix?_eq_none_iff (text : PyText) (desired : DesiredState) :
    desired.interfaces.findSome? (missingPrefix? text) = none ↔
      PrefixesComplete desired := by
  rw [List.findSome?_eq_none_iff]
  constructor
  · intro none iface member filled missing
    obtain ⟨address, filled⟩ := Option.ne_none_iff_exists'.1 filled
    have found := none iface member
    simp [missingPrefix?, filled, missing] at found
  · intro complete iface member
    rw [missingPrefix?]
    rcases filled : filled? iface.ipAddress with _ | address
    · rfl
    · rcases missing : iface.prefixLength with _ | length
      · exact absurd missing (complete iface member (by simp [filled]))
      · rfl

/-- When rendering succeeds, and the payload it returns. -/
theorem render_eq_ok_iff
    {text : PyText} {desired : DesiredState}
    (plain : PlainState text desired) (payload : Json) :
    render text desired = .ok payload ↔
      PrefixesComplete desired ∧ Writable desired ∧
        payload = .obj (payloadFields text desired) := by
  rw [← missingPrefix?_eq_none_iff text, render]
  rcases missing : desired.interfaces.findSome? (missingPrefix? text)
    with _ | message
  swap
  · simp
  simp only [true_and]
  by_cases writable : Writable desired
  · obtain ⟨interfaceChars, interfacesWritten⟩ :=
      (interfacesText_succeeds_iff desired.interfaces).2 writable.interfaces
    have interfaces := decode_of_reads
      (interfacesText_reads interfacesWritten plain.interfaceName
        plain.ipAddress)
    obtain ⟨bgpChars, bgpWritten⟩ :=
      (bgpText_succeeds_iff text (selectRouterId text desired)
        desired.bgpSessions).2 ⟨writable.localAsn, writable.peerAsn⟩
    have plainFamilies : ∀ family ∈ unique text
        (desired.bgpSessions.map BGPSession.addressFamily), PlainText family := by
      intro family member
      obtain ⟨session, sessionMember, rfl⟩ :=
        List.mem_map.1 (mem_of_mem_uniqueFrom member)
      exact plain.addressFamily session sessionMember
    rw [interfacesWritten, interfaces, bgpWritten]
    simp only [ok_bind, writable, true_and, payloadFields]
    split_ifs with sessions
    · exact ⟨fun equal => (Except.ok.inj equal).symm, fun equal => by rw [equal]; rfl⟩
    · have bgp := decode_of_reads
        (bgpText_reads bgpWritten (plain.routerId sessions) plain.peerAddress
          plain.peerGroup plainFamilies)
      rw [bgp]
      exact ⟨fun equal => (Except.ok.inj equal).symm, fun equal => by rw [equal]; rfl⟩
  · constructor
    · intro rendered
      exfalso
      apply writable
      obtain ⟨interfaces, decoded, rest⟩ := (bind_eq_ok _ _ _).1 rendered
      obtain ⟨chars, written, -⟩ := (decode_eq_ok_iff _ _).1 decoded
      have interfacesWritable :=
        (interfacesText_succeeds_iff desired.interfaces).1 ⟨chars, written⟩
      by_cases sessions : desired.bgpSessions = []
      · refine ⟨interfacesWritable, ?_, ?_⟩
        · rw [sessions]
          exact convertible_zero
        · rw [sessions]
          intro session member
          cases member
      · rw [if_neg sessions] at rest
        obtain ⟨bgp, bgpDecoded, -⟩ := (bind_eq_ok _ _ _).1 rest
        obtain ⟨bgpChars, bgpWritten, -⟩ := (decode_eq_ok_iff _ _).1 bgpDecoded
        obtain ⟨localAsn, peerAsn⟩ :=
          (bgpText_succeeds_iff text _ _).1 ⟨bgpChars, bgpWritten⟩
        exact ⟨interfacesWritable, localAsn, peerAsn⟩
    · rintro ⟨holds, -⟩
      exact absurd holds writable

end Snapl.Executor
