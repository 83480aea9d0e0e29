import Snapl.Library.KeyedTree
import Snapl.Observability.EntityPath
import Snapl.Orchestrator.Srlinux

/-!
# What a device reports

The shape of the part of a device's configuration the fabric manages, and the
flat entries the adapter makes of a report of it.  A report carries the
configuration with any module prefixes: dropping them gives the configuration
back.
-/

namespace Snapl.Contract

open Snapl.Library Snapl.Library.KeyedTree Snapl.Orchestrator
open Snapl.Observability

/-! ## The shape of a configuration -/

def addressSchema : List (String × Schema) :=
  [("ip-prefix", .leaf)]

def ipv4Schema : List (String × Schema) :=
  [("admin-state", .leaf), ("address", .list "ip-prefix" true addressSchema)]

def subinterfaceSchema : List (String × Schema) :=
  [("index", .leaf), ("admin-state", .leaf), ("ipv4", .container ipv4Schema)]

def interfaceSchema : List (String × Schema) :=
  [("name", .leaf), ("admin-state", .leaf), ("mtu", .leaf),
    ("description", .leaf),
    ("subinterface", .list "index" false subinterfaceSchema)]

def neighborSchema : List (String × Schema) :=
  [("peer-address", .leaf), ("peer-as", .leaf), ("admin-state", .leaf),
    ("peer-group", .leaf)]

def namedSchema (key : String) : List (String × Schema) :=
  [(key, .leaf), ("admin-state", .leaf)]

def bgpSchema : List (String × Schema) :=
  [("admin-state", .leaf), ("autonomous-system", .leaf), ("router-id", .leaf),
    ("afi-safi", .list "afi-safi-name" true (namedSchema "afi-safi-name")),
    ("group", .list "group-name" true (namedSchema "group-name")),
    ("neighbor", .list "peer-address" true neighborSchema)]

def protocolsSchema : List (String × Schema) :=
  [("bgp", .container bgpSchema)]

def networkInstanceSchema : List (String × Schema) :=
  [("name", .leaf), ("protocols", .container protocolsSchema)]

def rootSchema : List (String × Schema) :=
  [("interface", .list "name" true interfaceSchema),
    ("network-instance", .list "name" true networkInstanceSchema)]

/-- The shape of a device configuration, keyed as the device keys its lists. -/
def configSchema : Schema := .container rootSchema

theorem wellKeyed_configSchema : wellKeyed configSchema = true := by decide

/-! ## Parts of a configuration -/

def interfacesOf (config : Json) : List Json :=
  itemsOf (config.field "interface")

/-- The default network instance. -/
def defaultInstance (config : Json) : Json :=
  (keyedItem? "name" (.str "default")
    (itemsOf (config.field "network-instance"))).getD .null

def bgpOf (config : Json) : Json :=
  ((defaultInstance config).field "protocols").field "bgp"

def neighborsOf (config : Json) : List Json :=
  itemsOf ((bgpOf config).field "neighbor")

/-- The text of a string leaf. -/
def textOf : Json → String
  | .str text => text
  | _ => ""

/-- The prefixes a subinterface carries. -/
def prefixesOf (subinterface : Json) : List String :=
  (itemsOf ((subinterface.field "ipv4").field "address")).map fun address =>
    textOf (address.field "ip-prefix")

/-- The prefixes an interface carries, in order. -/
def interfacePrefixes (iface : Json) : List String :=
  (itemsOf (iface.field "subinterface")).flatMap prefixesOf

/-- The first prefix that is set. -/
def firstPrefix? (prefixes : List String) : Option String :=
  prefixes.find? (· ≠ "")

/-- The address and the prefix length the text of a prefix stands for. -/
def readPrefixText (ipPrefix : String) :
    Except PyError (Option String × Option Int) := do
  let address := partitionHead '/' ipPrefix.toList
  let number ← readLength (partitionTail '/' ipPrefix.toList)
  return (if address = [] then none else some (String.ofList address), number)

/-- The address a list of prefixes is read as: its first set prefix. -/
def readPrefixes (prefixes : List String) :
    Except PyError (Option String × Option Int) :=
  match firstPrefix? prefixes with
  | some ipPrefix => readPrefixText ipPrefix
  | none => .ok (none, none)

/-! ## Shapes of parts -/

/-- A container that may be absent. -/
def Shaped (distinct : Bool) (children : List (String × Schema)) (value : Json) :
    Prop :=
  value = .null ∨ conforms distinct (.container children) value = true

section

variable {distinct : Bool} {value : Json}
variable {children grandchildren : List (String × Schema)}
variable {name key : String} {textual : Bool}

theorem Shaped.leaf
    (shaped : Shaped distinct children value) (named : children.lookup name = some .leaf) :
    IsLeaf (value.field name) := by
  rcases shaped with rfl | conforming
  · trivial
  · rcases field_conforms conforming named with absent | leaf
    · rw [absent]
      trivial
    · exact isLeaf_of_conforms leaf

theorem Shaped.container
    (shaped : Shaped distinct children value)
    (named : children.lookup name = some (.container grandchildren)) :
    Shaped distinct grandchildren (value.field name) := by
  rcases shaped with rfl | conforming
  · exact Or.inl rfl
  · exact field_conforms conforming named

theorem Shaped.list
    (shaped : Shaped distinct children value)
    (named : children.lookup name = some (.list key textual grandchildren)) :
    value.field name = .null ∨ ∃ items, value.field name = .arr items := by
  rcases shaped with rfl | conforming
  · exact Or.inl rfl
  · exact (field_conforms conforming named).imp id items_of_conforms

theorem Shaped.item
    (shaped : Shaped distinct children value)
    (named : children.lookup name = some (.list key textual grandchildren))
    {item : Json} (member : item ∈ itemsOf (value.field name)) :
    Shaped distinct grandchildren item ∧
      (textual = true → ∃ text, item.field key = .str text) := by
  rcases shaped with rfl | conforming
  · cases member
  · rcases field_conforms conforming named with absent | shape
    · rw [absent] at member
      cases member
    · obtain ⟨items, equal⟩ := items_of_conforms shape
      rw [equal] at shape member
      obtain ⟨-, texts, shapes⟩ := (conforms_list_iff _ _ _ _).1 shape
      exact ⟨Or.inr (shapes item member), fun text => texts text item member⟩

/-- The keys of a list that asks for it are distinct. -/
theorem Shaped.nodup
    (shaped : Shaped true children value)
    (named : children.lookup name = some (.list key textual grandchildren)) :
    ((itemsOf (value.field name)).map fun item => item.field key).Nodup := by
  rcases shaped with rfl | conforming
  · exact List.nodup_nil
  · rcases field_conforms conforming named with absent | shape
    · rw [absent]
      exact List.nodup_nil
    · obtain ⟨items, equal⟩ := items_of_conforms shape
      rw [equal] at shape ⊢
      exact ((conforms_list_iff _ _ _ _).1 shape).1 rfl

end

variable {distinct : Bool}

/-! ## Reports -/

mutual

/-- A value without the module prefixes of its names. -/
def localize : Json → Json
  | .arr items => .arr (localizeItems items)
  | .obj fields => .obj (localizeFields fields)
  | value => value

/-- A list without the module prefixes of its names. -/
def localizeItems : List Json → List Json
  | [] => []
  | item :: rest => localize item :: localizeItems rest

/-- Fields without the module prefixes of their names. -/
def localizeFields : List (String × Json) → List (String × Json)
  | [] => []
  | (name, value) :: rest => (localName name, localize value) :: localizeFields rest

end

/--
`data` reports a configuration completely: up to module prefixes, its
interface list and its BGP container are the configuration's.
-/
structure Reports (data : Dict String Json) (config : Json) : Prop where
  interfaces :
    (localize ((data.get? "/interface").getD .null)).field "interface" =
      config.field "interface"
  bgp : localize ((data.get? bgpPath).getD .null) = bgpOf config

theorem localizeItems_eq_map (items : List Json) :
    localizeItems items = items.map localize := by
  induction items with
  | nil => rfl
  | cons item rest induction => rw [localizeItems, induction, List.map_cons]

theorem localize_eq_leaf
    {value leaf : Json} (isLeaf : IsLeaf leaf) (equal : localize value = leaf) :
    value = leaf := by
  subst equal
  cases value <;> simp_all [localize, IsLeaf]

theorem localize_eq_arr
    {value : Json} {items : List Json} (equal : localize value = .arr items) :
    ∃ raw, value = .arr raw ∧ raw.map localize = items := by
  cases value <;> simp_all [localize, localizeItems_eq_map]

/-- Looking a local name up, and then dropping prefixes. -/
theorem localize_getLocal (value : Json) (name : String) (default : Json) :
    localize (getLocal value name default) =
      (((fieldsOf (localize value)).lookup name).map id).getD
        (localize default) := by
  rcases value with _ | _ | _ | _ | _ | items | fields
  all_goals try rfl
  rw [getLocal, localize, fieldsOf_obj]
  induction fields with
  | nil => rfl
  | cons field rest induction =>
      rcases field with ⟨key, value⟩
      rw [List.find?_cons, localizeFields]
      by_cases same : localName key = name
      · simp [same]
      · rw [lookup_cons_of_ne _ _ (fun equal => same equal.symm)]
        simp only [same, decide_false]
        exact induction

theorem localize_getLocal_null (value : Json) (name : String) :
    localize (getLocal value name .null) = (localize value).field name := by
  rw [localize_getLocal, field_eq, Option.map_id, id]
  rfl

/-- A leaf of a report is the configuration's. -/
theorem getLocal_of_leaf
    {raw : Json} {name : String} (leaf : IsLeaf ((localize raw).field name)) :
    getLocal raw name .null = (localize raw).field name := by
  exact localize_eq_leaf leaf (localize_getLocal_null raw name)

/-- The entries of a reported list are the configuration's. -/
theorem entries_of_report
    {raw : Json} {name : String}
    (shape : (localize raw).field name = .null ∨
      ∃ items, (localize raw).field name = .arr items) :
    ∃ reported, entries raw name = .ok reported ∧
      reported.map localize = itemsOf ((localize raw).field name) := by
  have looked := localize_getLocal raw name (.arr [])
  rw [Option.map_id, id] at looked
  rw [field_eq] at shape ⊢
  rw [entries]
  rcases found : (fieldsOf (localize raw)).lookup name with _ | value
  · rw [found] at looked
    obtain ⟨reported, equal, mapped⟩ := localize_eq_arr looked
    have none : reported = [] := by simpa [localizeItems] using mapped
    subst none
    rw [equal]
    exact ⟨[], rfl, rfl⟩
  · rw [found] at looked shape
    rcases shape with equal | ⟨items, equal⟩
    · simp only [Option.getD_some] at looked equal
      subst equal
      rw [localize_eq_leaf (show IsLeaf .null from trivial) looked]
      exact ⟨[], rfl, rfl⟩
    · simp only [Option.getD_some] at looked equal
      subst equal
      obtain ⟨reported, equal, mapped⟩ := localize_eq_arr looked
      rw [equal]
      rcases reported with _ | ⟨first, rest⟩
      · exact ⟨[], rfl, mapped⟩
      · exact ⟨first :: rest, rfl, mapped⟩

/-! ## Reading addresses from a report -/

theorem readPrefix_str (text : PyText) (ipPrefix : String) :
    readPrefix text (.str ipPrefix) = readPrefixText ipPrefix := rfl

theorem firstAddress_of_report
    (text : PyText) {reported : List Json}
    (texts : ∀ address ∈ reported.map localize,
      ∃ ipPrefix, address.field "ip-prefix" = .str ipPrefix) :
    firstAddress text reported =
      match firstPrefix? ((reported.map localize).map fun address =>
          textOf (address.field "ip-prefix")) with
      | some ipPrefix => (readPrefixText ipPrefix).map some
      | none => .ok none := by
  induction reported with
  | nil => rfl
  | cons address rest induction =>
      simp only [List.map_cons, List.forall_mem_cons] at texts
      obtain ⟨⟨ipPrefix, equal⟩, restTexts⟩ := texts
      have raw : getLocal address "ip-prefix" .null = .str ipPrefix := by
        rw [← equal]
        apply getLocal_of_leaf
        rw [equal]
        trivial
      rw [firstAddress, raw, induction restTexts]
      simp only [List.map_cons, equal, textOf, firstPrefix?, List.find?_cons,
        Json.truthy, readPrefix_str]
      by_cases empty : ipPrefix = ""
      · simp [empty]
      · simp [empty]

theorem firstOfSubinterfaces_of_report
    (text : PyText) {reported : List Json}
    (shapes : ∀ subinterface ∈ reported.map localize,
      Shaped distinct subinterfaceSchema subinterface) :
    firstOfSubinterfaces text reported =
      readPrefixes ((reported.map localize).flatMap prefixesOf) := by
  induction reported with
  | nil => rfl
  | cons subinterface rest induction =>
      simp only [List.map_cons, List.forall_mem_cons] at shapes
      obtain ⟨shape, restShapes⟩ := shapes
      have ipv4 := shape.container
        (show subinterfaceSchema.lookup "ipv4" = some (.container ipv4Schema) from
          rfl)
      have raw := localize_getLocal_null subinterface "ipv4"
      rw [← raw] at ipv4
      obtain ⟨addresses, found, mapped⟩ := entries_of_report
        (ipv4.list (show ipv4Schema.lookup "address" =
          some (.list "ip-prefix" true addressSchema) from rfl))
      have texts : ∀ address ∈ addresses.map localize,
          ∃ ipPrefix, address.field "ip-prefix" = .str ipPrefix := by
        rw [mapped]
        intro address member
        exact (ipv4.item rfl member).2 rfl
      have first := firstAddress_of_report text texts
      have prefixes : (addresses.map localize).map
          (fun address => textOf (address.field "ip-prefix")) =
            prefixesOf (localize subinterface) := by
        rw [mapped, raw, prefixesOf]
      rw [firstOfSubinterfaces, found, ok_bind, first, prefixes,
        induction restShapes, List.map_cons, List.flatMap_cons, readPrefixes,
        readPrefixes, firstPrefix?, firstPrefix?, firstPrefix?, List.find?_append]
      rcases (prefixesOf (localize subinterface)).find? (· ≠ "") with
        _ | ipPrefix
      · rfl
      · simp only [Option.some_or]
        rcases readPrefixText ipPrefix with error | address <;> rfl

theorem interfaceIp_of_report
    (text : PyText) {reported : Json}
    (shape : Shaped distinct interfaceSchema (localize reported)) :
    interfaceIp text reported =
      readPrefixes (interfacePrefixes (localize reported)) := by
  obtain ⟨subinterfaces, found, mapped⟩ := entries_of_report
    (shape.list (show interfaceSchema.lookup "subinterface" =
      some (.list "index" false subinterfaceSchema) from rfl))
  rw [interfaceIp, found, ok_bind, firstOfSubinterfaces_of_report text, mapped,
    interfacePrefixes]
  rw [mapped]
  intro subinterface member
  exact (shape.item rfl member).1

/-! ## Flat entries -/

/-- The flat entry of an interface with this address. -/
def flatInterface (iface : Json) (address : Option String × Option Int) : Json :=
  .obj
    [("description", iface.field "description"),
      ("ip_address", .ofString? address.1),
      ("prefix_length", .ofInt? address.2),
      ("enabled", .bool (Json.pyEq (iface.field "admin-state") (.str "enable"))),
      ("mtu", iface.field "mtu")]

/-- The flat entry of a neighbour. -/
def flatNeighbor (neighbor : Json) : Json :=
  .obj
    [("peer_address", neighbor.field "peer-address"),
      ("peer_asn", neighbor.field "peer-as"),
      ("peer_group", neighbor.field "peer-group"),
      ("enabled",
        .bool (Json.pyEq (neighbor.field "admin-state") (.str "enable")))]

/-- The path and the flat entry of an interface. -/
def interfacePair (iface : Json) : Except PyError (String × Json) :=
  (readPrefixes (interfacePrefixes iface)).map fun address =>
    (interfaceSpec.path (textOf (iface.field "name")),
      flatInterface iface address)

/-- The path and the flat entry of a neighbour. -/
def neighborPair (neighbor : Json) : String × Json :=
  (bgpSessionSpec.path (textOf (neighbor.field "peer-address")),
    flatNeighbor neighbor)

theorem interfaceOutput?_of_report
    (text : PyText) {reported : Json}
    (shape : Shaped distinct interfaceSchema (localize reported))
    (named : ∃ name, (localize reported).field "name" = .str name) :
    interfaceOutput? text reported =
      (interfacePair (localize reported)).map some := by
  obtain ⟨name, nameEqual⟩ := named
  have rawName : getLocal reported "name" .null = .str name := by
    rw [← nameEqual]
    exact getLocal_of_leaf (shape.leaf rfl)
  have description := getLocal_of_leaf (shape.leaf
    (show interfaceSchema.lookup "description" = some .leaf from rfl))
  have mtu := getLocal_of_leaf (shape.leaf
    (show interfaceSchema.lookup "mtu" = some .leaf from rfl))
  have state := getLocal_of_leaf (shape.leaf
    (show interfaceSchema.lookup "admin-state" = some .leaf from rfl))
  rw [interfaceOutput?, rawName]
  simp only [normalizeInterface, isEnabled, interfaceIp_of_report text shape,
    description, mtu, state, PyText.str_str, interfacePair, nameEqual, textOf]
  rcases readPrefixes (interfacePrefixes (localize reported)) with
    error | address
  · rfl
  · rfl

theorem neighborOutput?_of_report
    (text : PyText) {reported : Json}
    (shape : Shaped distinct neighborSchema (localize reported))
    (named : ∃ peer, (localize reported).field "peer-address" = .str peer) :
    neighborOutput? text reported =
      .ok (some (neighborPair (localize reported))) := by
  obtain ⟨peer, peerEqual⟩ := named
  have rawPeer : getLocal reported "peer-address" .null = .str peer := by
    rw [← peerEqual]
    exact getLocal_of_leaf (shape.leaf rfl)
  have asn := getLocal_of_leaf (shape.leaf
    (show neighborSchema.lookup "peer-as" = some .leaf from rfl))
  have group := getLocal_of_leaf (shape.leaf
    (show neighborSchema.lookup "peer-group" = some .leaf from rfl))
  have state := getLocal_of_leaf (shape.leaf
    (show neighborSchema.lookup "admin-state" = some .leaf from rfl))
  rw [neighborOutput?, rawPeer]
  simp only [PyText.str_str, neighborPair, normalizeNeighbor, isEnabled, rawPeer,
    asn, group, state, flatNeighbor, peerEqual, textOf]
  rfl

/-! ## The adapter on a report -/

theorem shaped_root
    {config : Json} (conforming : conforms distinct configSchema config = true) :
    Shaped distinct rootSchema config :=
  Or.inr conforming

theorem shaped_bgpOf
    {config : Json} (conforming : conforms distinct configSchema config = true) :
    Shaped distinct bgpSchema (bgpOf config) := by
  have root := shaped_root conforming
  have instanceShape : Shaped distinct networkInstanceSchema (defaultInstance config) := by
    rw [defaultInstance]
    rcases found : keyedItem? "name" (.str "default")
        (itemsOf (config.field "network-instance")) with _ | network
    · exact Or.inl rfl
    · exact (root.item
        (show rootSchema.lookup "network-instance" =
          some (.list "name" true networkInstanceSchema) from rfl)
        (keyedItem?_eq_some found).1).1
  exact (instanceShape.container
    (show networkInstanceSchema.lookup "protocols" =
      some (.container protocolsSchema) from rfl)).container
    (show protocolsSchema.lookup "bgp" = some (.container bgpSchema) from rfl)

theorem interface_shape
    {config : Json} (conforming : conforms distinct configSchema config = true)
    {iface : Json} (member : iface ∈ interfacesOf config) :
    Shaped distinct interfaceSchema iface ∧ ∃ name, iface.field "name" = .str name := by
  obtain ⟨shape, named⟩ := (shaped_root conforming).item
    (show rootSchema.lookup "interface" =
      some (.list "name" true interfaceSchema) from rfl) member
  exact ⟨shape, named rfl⟩

theorem neighbor_shape
    {config : Json} (conforming : conforms distinct configSchema config = true)
    {neighbor : Json} (member : neighbor ∈ neighborsOf config) :
    Shaped distinct neighborSchema neighbor ∧
      ∃ peer, neighbor.field "peer-address" = .str peer := by
  obtain ⟨shape, named⟩ := (shaped_bgpOf conforming).item
    (show bgpSchema.lookup "neighbor" =
      some (.list "peer-address" true neighborSchema) from rfl) member
  exact ⟨shape, named rfl⟩

/-- What the adapter makes of a report, in terms of the configuration. -/
theorem normalize_of_report
    (text : PyText) {data : Dict String Json} {config : Json}
    (conforming : conforms distinct configSchema config = true)
    (reports : Reports data config) :
    normalizeSrlinuxState text data =
      (interfacesOf config).mapM interfacePair >>= fun pairs =>
        .ok ((Dict.empty.update pairs).update
          ((neighborsOf config).map neighborPair)) := by
  have interfaceList := (shaped_root conforming).list
    (show rootSchema.lookup "interface" =
      some (.list "name" true interfaceSchema) from rfl)
  rw [← reports.interfaces] at interfaceList
  obtain ⟨interfaces, interfacesFound, interfacesMapped⟩ :=
    entries_of_report interfaceList
  rw [reports.interfaces] at interfacesMapped
  have neighborList := (shaped_bgpOf conforming).list
    (show bgpSchema.lookup "neighbor" =
      some (.list "peer-address" true neighborSchema) from rfl)
  rw [← reports.bgp] at neighborList
  obtain ⟨neighbors, neighborsFound, neighborsMapped⟩ :=
    entries_of_report neighborList
  rw [reports.bgp] at neighborsMapped
  have interfaceOutputs : interfaces.mapM (interfaceOutput? text) =
      ((interfacesOf config).mapM interfacePair).map (List.map some) := by
    rw [interfacesOf, ← interfacesMapped]
    apply mapM_of_present
    intro reported member
    have present : localize reported ∈ interfacesOf config := by
      rw [interfacesOf, ← interfacesMapped]
      exact List.mem_map.2 ⟨reported, member, rfl⟩
    obtain ⟨shape, named⟩ := interface_shape conforming present
    exact interfaceOutput?_of_report text shape named
  have neighborOutputs : neighbors.mapM (neighborOutput? text) =
      .ok (((neighborsOf config).map neighborPair).map some) := by
    have pointwise : ∀ reported ∈ neighbors,
        neighborOutput? text reported =
          (Except.ok (neighborPair (localize reported))).map some := by
      intro reported member
      have present : localize reported ∈ neighborsOf config := by
        rw [neighborsOf, ← neighborsMapped]
        exact List.mem_map.2 ⟨reported, member, rfl⟩
      obtain ⟨shape, named⟩ := neighbor_shape conforming present
      exact neighborOutput?_of_report text shape named
    have mapped : neighbors.mapM (neighborOutput? text) =
        ((neighbors.map localize).mapM fun neighbor =>
          Except.ok (neighborPair neighbor)).map (List.map some) :=
      mapM_of_present pointwise
    rw [mapped, neighborsMapped, mapM_ok]
    rfl
  have present : ∀ pairs : List (String × Json),
      (pairs.map some).filterMap id = pairs := by
    intro pairs
    rw [List.filterMap_map]
    exact List.filterMap_some
  rw [normalizeSrlinuxState, interfacesFound, ok_bind, interfaceOutputs,
    neighborsFound]
  rcases (interfacesOf config).mapM interfacePair with error | pairs
  · rfl
  · simp only [Except.map, ok_bind, neighborOutputs, present]
    rfl

/-- Distinct names of interfaces and neighbours. -/
structure DistinctEntities (config : Json) : Prop where
  interfaces : ((interfacesOf config).map fun iface => iface.field "name").Nodup
  neighbors :
    ((neighborsOf config).map fun neighbor => neighbor.field "peer-address").Nodup

/-- The entries the adapter makes of a report. -/
structure ActualOf (config : Json) (actual : Dict String Json) : Prop where
  interface : ∀ iface ∈ interfacesOf config, ∃ address,
    readPrefixes (interfacePrefixes iface) = .ok address ∧
      actual.get? (interfaceSpec.path (textOf (iface.field "name"))) =
        some (flatInterface iface address)
  neighbor : ∀ neighbor ∈ neighborsOf config,
    actual.get? (bgpSessionSpec.path (textOf (neighbor.field "peer-address"))) =
      some (flatNeighbor neighbor)
  keys : actual.keys =
    ((interfacesOf config).map fun iface =>
      interfaceSpec.path (textOf (iface.field "name"))) ++
    (neighborsOf config).map fun neighbor =>
      bgpSessionSpec.path (textOf (neighbor.field "peer-address"))

/-- The adapter succeeds exactly when every interface's address can be read. -/
theorem normalize_succeeds_iff
    (text : PyText) {data : Dict String Json} {config : Json}
    (conforming : conforms distinct configSchema config = true)
    (reports : Reports data config) :
    (∃ actual, normalizeSrlinuxState text data = .ok actual) ↔
      ∀ iface ∈ interfacesOf config,
        ∃ address, readPrefixes (interfacePrefixes iface) = .ok address := by
  rw [normalize_of_report text conforming reports]
  constructor
  · rintro ⟨actual, succeeds⟩ iface member
    obtain ⟨pairs, mapped, -⟩ := (bind_eq_ok _ _ _).1 succeeds
    obtain ⟨pair, paired⟩ := exists_of_mapM_eq_ok mapped member
    rw [interfacePair] at paired
    rcases read : readPrefixes (interfacePrefixes iface) with error | address
    · rw [read] at paired
      cases paired
    · exact ⟨address, rfl⟩
  · intro readable
    obtain ⟨pairs, mapped⟩ :=
      exists_mapM_of_forall interfacePair (interfacesOf config)
        fun iface member => by
          obtain ⟨address, read⟩ := readable iface member
          exact ⟨_, by rw [interfacePair, read]; rfl⟩
    exact ⟨_, (bind_eq_ok _ _ _).2 ⟨pairs, mapped, rfl⟩⟩

theorem nodup_paths
    {spec : EntitySpec} {key : String} {items : List Json}
    (texts : ∀ item ∈ items, ∃ text, item.field key = .str text)
    (distinct : (items.map fun item => item.field key).Nodup) :
    (items.map fun item => spec.path (textOf (item.field key))).Nodup := by
  have keys : items.map (fun item => item.field key) =
      items.map fun item => Json.str (textOf (item.field key)) := by
    apply List.map_congr_left
    intro item member
    obtain ⟨text, equal⟩ := texts item member
    rw [equal]
    rfl
  rw [keys] at distinct
  have composed : (items.map fun item => textOf (item.field key)).Nodup := by
    apply List.Nodup.of_map Json.str
    rwa [List.map_map]
  have mapped := composed.map (EntitySpec.path_injective spec)
  rwa [List.map_map] at mapped

theorem keys_of_interfacePairs
    {interfaces : List Json} {pairs : List (String × Json)}
    (related : List.Forall₂ (fun iface pair => interfacePair iface = .ok pair)
      interfaces pairs) :
    pairs.map Prod.fst =
      interfaces.map fun iface =>
        interfaceSpec.path (textOf (iface.field "name")) := by
  induction related with
  | nil => rfl
  | @cons iface pair rest others first _ induction =>
      rw [interfacePair] at first
      rcases read : readPrefixes (interfacePrefixes iface) with error | address
      · rw [read] at first
        cases first
      · rw [read] at first
        cases first
        rw [List.map_cons, induction, List.map_cons]

/-- The adapter keeps every interface and every neighbour, and nothing else. -/
theorem actualOf_of_normalize
    (text : PyText) {data actual} {config : Json}
    (conforming : conforms distinct configSchema config = true)
    (entities : DistinctEntities config)
    (reports : Reports data config)
    (succeeds : normalizeSrlinuxState text data = .ok actual) :
    ActualOf config actual := by
  rw [normalize_of_report text conforming reports] at succeeds
  obtain ⟨pairs, mapped, equal⟩ := (bind_eq_ok _ _ _).1 succeeds
  cases equal
  have related := (mapM_eq_ok_iff _ _ _).1 mapped
  have pairKeys : pairs.map Prod.fst =
      (interfacesOf config).map fun iface =>
        interfaceSpec.path (textOf (iface.field "name")) := by
    exact keys_of_interfacePairs related
  have neighborKeys : ((neighborsOf config).map neighborPair).map Prod.fst =
      (neighborsOf config).map fun neighbor =>
        bgpSessionSpec.path (textOf (neighbor.field "peer-address")) := by
    rw [List.map_map]
    rfl
  have fresh : ((pairs ++ (neighborsOf config).map neighborPair).map
      Prod.fst).Nodup := by
    rw [List.map_append, pairKeys, neighborKeys, List.nodup_append]
    refine ⟨nodup_paths
        (fun iface member => (interface_shape conforming member).2)
        entities.interfaces,
      nodup_paths (fun neighbor member => (neighbor_shape conforming member).2)
        entities.neighbors, ?_⟩
    intro left leftMember right rightMember equal
    obtain ⟨iface, -, rfl⟩ := List.mem_map.1 leftMember
    obtain ⟨neighbor, -, rfl⟩ := List.mem_map.1 rightMember
    exact interface_path_ne_neighbor_path _ _ equal
  have first : ((Dict.empty : Dict String Json).update pairs).entries = pairs := by
    apply Dict.entries_ofPairs
    rw [List.map_append, List.nodup_append] at fresh
    exact fresh.1
  have all : ((Dict.empty.update pairs).update
      ((neighborsOf config).map neighborPair)).entries =
        pairs ++ (neighborsOf config).map neighborPair := by
    rw [Dict.entries_update_of_fresh, first]
    rw [first]
    exact fresh
  constructor
  · intro iface member
    obtain ⟨pair, pairMember, paired⟩ := exists_mem_of_forall₂ related member
    rw [interfacePair] at paired
    rcases read : readPrefixes (interfacePrefixes iface) with error | address
    · rw [read] at paired
      cases paired
    · rw [read] at paired
      cases paired
      refine ⟨address, rfl, ?_⟩
      rw [Dict.get?_eq_some_iff, all]
      exact List.mem_append_left _ pairMember
  · intro neighbor member
    rw [Dict.get?_eq_some_iff, all]
    exact List.mem_append_right _ (List.mem_map.2 ⟨neighbor, member, rfl⟩)
  · rw [Dict.keys, all, List.map_append, pairKeys, neighborKeys]

end Snapl.Contract
