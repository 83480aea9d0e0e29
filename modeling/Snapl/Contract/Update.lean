import Snapl.Contract.Agreement

/-!
# A device after an update

A device merges the payload into its configuration: entries by their keys,
leaves overwritten, and everything the payload does not mention kept.  Where
the device puts a new entry of a list is left open.

The forward pass over the report of the updated device is empty, wherever new
entries went, exactly when the repair is visible: what rendering leaves out is
already as intended, and the first address the device shows is the intended
one.
-/

namespace Snapl.Contract

open Snapl.Library Snapl.Library.KeyedTree Snapl.Intent Snapl.Executor
open Snapl.Observability Snapl.Orchestrator

/-- A device configuration: of the known shape, with distinct keys. -/
structure DeviceConfig where
  tree : Json
  conforming : conforms true configSchema tree = true

/-- The configuration after an update at the root. -/
def DeviceConfig.update
    (config : DeviceConfig) (place : Placement) (payload : Json)
    (shaped : conforms false configSchema payload = true) : DeviceConfig :=
  ⟨merge place [] configSchema config.tree payload,
    conforms_merge place [] wellKeyed_configSchema
      (Or.inr config.conforming) payload shaped⟩

theorem DeviceConfig.distinct (config : DeviceConfig) :
    DistinctEntities config.tree where
  interfaces := (shaped_root config.conforming).nodup
    (show rootSchema.lookup "interface" =
      some (.list "name" true interfaceSchema) from rfl)
  neighbors := (shaped_bgpOf config.conforming).nodup
    (show bgpSchema.lookup "neighbor" =
      some (.list "peer-address" true neighborSchema) from rfl)

/-! ## A report of every configuration -/

mutual

/-- A value with a module prefix on every name. -/
def qualify : Json → Json
  | .arr items => .arr (qualifyItems items)
  | .obj fields => .obj (qualifyFields fields)
  | value => value

/-- A list with a module prefix on every name. -/
def qualifyItems : List Json → List Json
  | [] => []
  | item :: rest => qualify item :: qualifyItems rest

/-- Fields with a module prefix on every name. -/
def qualifyFields : List (String × Json) → List (String × Json)
  | [] => []
  | (name, value) :: rest => ("yang:" ++ name, qualify value) :: qualifyFields rest

end

theorem localName_qualified (name : String) : localName ("yang:" ++ name) = name := by
  have chars : ("yang:" ++ name).toList =
      "yang".toList ++ ':' :: name.toList := by
    simp
  rw [localName, chars, if_pos (by simp),
    partitionTail_append _ (by decide), String.ofList_toList]

mutual

/-- Dropping the prefixes gives the value back. -/
theorem localize_qualify : ∀ value : Json, localize (qualify value) = value
  | .arr items => by rw [qualify, localize, localizeItems_qualifyItems items]
  | .obj fields => by rw [qualify, localize, localizeFields_qualifyFields fields]
  | .null => rfl
  | .bool value => rfl
  | .int value => rfl
  | .float value => rfl
  | .str value => rfl

theorem localizeItems_qualifyItems :
    ∀ items : List Json, localizeItems (qualifyItems items) = items
  | [] => rfl
  | item :: rest => by
      rw [qualifyItems, localizeItems, localize_qualify item,
        localizeItems_qualifyItems rest]

theorem localizeFields_qualifyFields :
    ∀ fields : List (String × Json), localizeFields (qualifyFields fields) = fields
  | [] => rfl
  | (name, value) :: rest => by
      rw [qualifyFields, localizeFields, localName_qualified,
        localize_qualify value, localizeFields_qualifyFields rest]

end

/-- The fully qualified report of a configuration. -/
def qualifiedReport (config : Json) : Dict String Json :=
  Dict.ofPairs
    [("/interface", .obj [("yang:interface", qualify (config.field "interface"))]),
      (bgpPath, qualify (bgpOf config))]

theorem reports_qualifiedReport (config : Json) :
    Reports (qualifiedReport config) config := by
  have interfaceEntry : (qualifiedReport config).get? "/interface" =
      some (.obj [("yang:interface", qualify (config.field "interface"))]) := rfl
  have bgpEntry : (qualifiedReport config).get? bgpPath =
      some (qualify (bgpOf config)) := rfl
  constructor
  · rw [interfaceEntry, Option.getD_some, localize, localizeFields,
      localize_qualify]
    rfl
  · rw [bgpEntry, Option.getD_some, localize_qualify]

/-! ## Entries of the updated configuration -/

/-- The device's own entry of an intended interface. -/
def ownInterface (config : Json) (iface : Interface) : Json :=
  (keyedItem? "name" (.str iface.name) (interfacesOf config)).getD .null

/-- The device's own entry of an intended session. -/
def ownNeighbor (config : Json) (session : BGPSession) : Json :=
  (keyedItem? "peer-address" (.str session.peerAddress) (neighborsOf config)).getD .null

section

variable (text : PyText) (desired : DesiredState) (place : Placement)

/-- The configuration after the rendered payload is applied. -/
def updated (config : Json) : Json :=
  merge place [] configSchema config (.obj (payloadFields text desired))

theorem payloadFields_keys_nodup :
    ((payloadFields text desired).map Prod.fst).Nodup := by
  rw [payloadFields]
  split_ifs <;> simp

theorem interfacesOf_updated (config : Json) :
    interfacesOf (updated text desired place config) =
      mergeItems place [.str "interface"] "name" interfaceSchema
        (interfacesOf config)
        (desired.interfaces.map fun iface => .obj (interfaceFields iface)) := by
  have merged := field_merge_of_child place [] config
    (payloadFields_keys_nodup text desired)
    (show (payloadFields text desired).lookup "interface" =
      some (.arr (desired.interfaces.map fun iface => .obj (interfaceFields iface)))
      from rfl)
    (show rootSchema.lookup "interface" =
      some (.list "name" true interfaceSchema) from rfl)
  rw [interfacesOf, updated, configSchema, merged, merge_arr, itemsOf_arr]
  rfl

theorem neighborsOf_updated (config : Json) :
    neighborsOf (updated text desired place config) =
      mergeItems place
        [.str "network-instance", .str "default", .str "protocols", .str "bgp",
          .str "neighbor"]
        "peer-address" neighborSchema (neighborsOf config)
        (desired.bgpSessions.map fun session => .obj (neighborFields session)) := by
  by_cases sessions : desired.bgpSessions = []
  · have absent : (payloadFields text desired).lookup "network-instance" = none := by
      rw [payloadFields, if_pos sessions]
      rfl
    have kept := field_merge_of_absent place [] rootSchema config
      (payloadFields_keys_nodup text desired) absent
    rw [neighborsOf, bgpOf, defaultInstance, updated, configSchema, kept, sessions]
    rfl
  · let bgp : List (String × Json) :=
      bgpFields text (selectRouterId text desired) desired.bgpSessions
    let network : List (String × Json) :=
      [("name", .str "default"), ("protocols", .obj [("bgp", .obj bgp)])]
    have present : (payloadFields text desired).lookup "network-instance" =
        some (.arr [.obj network]) := by
      rw [payloadFields, if_neg sessions]
      rfl
    have instances := field_merge_of_child place [] config
      (payloadFields_keys_nodup text desired) present
      (show rootSchema.lookup "network-instance" =
        some (.list "name" true networkInstanceSchema) from rfl)
    have networkConforms :
        conforms false (.container networkInstanceSchema) (.obj network) = true := by
      have shape := (shaped_root (conforms_payload text desired)).item
        (show rootSchema.lookup "network-instance" =
          some (.list "name" true networkInstanceSchema) from rfl)
        (show Json.obj network ∈ itemsOf
          ((Json.obj (payloadFields text desired)).field "network-instance") by
            rw [field_eq, fieldsOf_obj, present]
            simp)
      rcases shape.1 with absent | conforming
      · cases absent
      · exact conforming
    have found := keyedItem?_mergeItems place [.str "network-instance"]
      (show networkInstanceSchema.lookup "name" = some .leaf from rfl)
      (show ∀ item ∈ [Json.obj network],
          conforms false (.container networkInstanceSchema) item = true by
        intro item member
        rw [List.mem_singleton.1 member]
        exact networkConforms)
      (by simp) (itemsOf (config.field "network-instance")) (.str "default")
    have rendered : keyedItem? "name" (.str "default") [Json.obj network] =
        some (.obj network) := rfl
    rw [rendered] at found
    have defaultMerged : defaultInstance (updated text desired place config) =
        merge place [.str "network-instance", .str "default"]
          (.container networkInstanceSchema) (defaultInstance config)
          (.obj network) := by
      rw [defaultInstance, updated, configSchema, instances, merge_arr, itemsOf_arr]
      exact congrArg (fun entry => Option.getD entry .null) found
    have protocols := field_merge_of_child place
      [.str "network-instance", .str "default"] (defaultInstance config)
      (show (network.map Prod.fst).Nodup by simp [network])
      (show network.lookup "protocols" = some (.obj [("bgp", .obj bgp)]) from rfl)
      (show networkInstanceSchema.lookup "protocols" =
        some (.container protocolsSchema) from rfl)
    have bgpMerged := field_merge_of_child place
      [.str "network-instance", .str "default", .str "protocols"]
      ((defaultInstance config).field "protocols")
      (show ([("bgp", Json.obj bgp)].map Prod.fst).Nodup by simp)
      (show [("bgp", Json.obj bgp)].lookup "bgp" = some (.obj bgp) from rfl)
      (show protocolsSchema.lookup "bgp" = some (.container bgpSchema) from rfl)
    have neighborPresent : bgp.lookup "neighbor" =
        some (.arr (desired.bgpSessions.map fun session =>
          .obj (neighborFields session))) := by
      show (bgpFields text _ _).lookup "neighbor" = _
      rw [bgpFields]
      rcases groupNames text desired.bgpSessions with _ | ⟨first, rest⟩ <;> rfl
    have neighborMerged := field_merge_of_child place
      [.str "network-instance", .str "default", .str "protocols", .str "bgp"]
      (bgpOf config) (bgpFields_keys_nodup text _ desired.bgpSessions)
      neighborPresent
      (show bgpSchema.lookup "neighbor" =
        some (.list "peer-address" true neighborSchema) from rfl)
    rw [neighborsOf, bgpOf, defaultMerged, protocols]
    simp only [List.cons_append, List.nil_append]
    rw [bgpMerged]
    simp only [List.cons_append, List.nil_append]
    rw [show ((defaultInstance config).field "protocols").field "bgp" =
      bgpOf config from rfl, neighborMerged, merge_arr, itemsOf_arr]
    rfl

end

/-! ## Single entries -/

section

variable (text : PyText) {desired : DesiredState} (place : Placement)

/-- The device's entry of an intended interface after the update. -/
def updatedInterface (config : Json) (iface : Interface) : Json :=
  merge place [.str "interface", .str iface.name] (.container interfaceSchema)
    (ownInterface config iface) (.obj (interfaceFields iface))

/-- The device's entry of an intended session after the update. -/
def updatedNeighbor (config : Json) (session : BGPSession) : Json :=
  merge place
    [.str "network-instance", .str "default", .str "protocols", .str "bgp",
      .str "neighbor", .str session.peerAddress]
    (.container neighborSchema) (ownNeighbor config session)
    (.obj (neighborFields session))

theorem conforms_renderedInterfaces :
    ∀ item ∈ desired.interfaces.map fun iface => Json.obj (interfaceFields iface),
      conforms false (.container interfaceSchema) item = true := by
  intro item member
  obtain ⟨iface, -, rfl⟩ := List.mem_map.1 member
  exact conforms_interface iface

theorem conforms_renderedNeighbors :
    ∀ item ∈ desired.bgpSessions.map fun session =>
        Json.obj (neighborFields session),
      conforms false (.container neighborSchema) item = true := by
  intro item member
  obtain ⟨session, -, rfl⟩ := List.mem_map.1 member
  exact conforms_neighbor session

theorem keyedItem?_updated_interface
    (names : (desired.interfaces.map Interface.name).Nodup)
    (peers : (desired.bgpSessions.map BGPSession.peerAddress).Nodup)
    (config : Json) {iface : Interface} (member : iface ∈ desired.interfaces) :
    keyedItem? "name" (.str iface.name)
        (interfacesOf (updated text desired place config)) =
      some (updatedInterface place config iface) := by
  have distinct := (distinct_payload text names peers).interfaces
  rw [interfacesOf_payload] at distinct
  have present := keyedItem?_of_mem distinct
    (List.mem_map.2 ⟨iface, member, rfl⟩ :
      Json.obj (interfaceFields iface) ∈
        desired.interfaces.map fun iface => Json.obj (interfaceFields iface))
  have name : (Json.obj (interfaceFields iface)).field "name" = .str iface.name :=
    rfl
  rw [name] at present
  rw [interfacesOf_updated, keyedItem?_mergeItems place _
    (show interfaceSchema.lookup "name" = some .leaf from rfl)
    conforms_renderedInterfaces distinct, present]
  rfl

theorem keyedItem?_updated_neighbor
    (names : (desired.interfaces.map Interface.name).Nodup)
    (peers : (desired.bgpSessions.map BGPSession.peerAddress).Nodup)
    (config : Json) {session : BGPSession}
    (member : session ∈ desired.bgpSessions) :
    keyedItem? "peer-address" (.str session.peerAddress)
        (neighborsOf (updated text desired place config)) =
      some (updatedNeighbor place config session) := by
  have distinct := (distinct_payload text names peers).neighbors
  rw [neighborsOf_payload] at distinct
  have present := keyedItem?_of_mem distinct
    (List.mem_map.2 ⟨session, member, rfl⟩ :
      Json.obj (neighborFields session) ∈
        desired.bgpSessions.map fun session => Json.obj (neighborFields session))
  have peer : (Json.obj (neighborFields session)).field "peer-address" =
      .str session.peerAddress := rfl
  rw [peer] at present
  rw [neighborsOf_updated, keyedItem?_mergeItems place _
    (show neighborSchema.lookup "peer-address" = some .leaf from rfl)
    conforms_renderedNeighbors distinct, present]
  rfl

/-- No rendered interface has the name of an unmanaged one. -/
theorem keyedItem?_rendered_of_unmanaged
    {entry : Json}
    (unmanaged : ∀ iface ∈ desired.interfaces,
      entry.field "name" ≠ .str iface.name) :
    keyedItem? "name" (entry.field "name")
        (desired.interfaces.map fun iface => Json.obj (interfaceFields iface)) =
      none := by
  apply keyedItem?_eq_none
  intro item itemMember
  obtain ⟨iface, ifaceMember, rfl⟩ := List.mem_map.1 itemMember
  exact fun equal => unmanaged iface ifaceMember equal.symm

/-- An interface of the updated device is an updated one, or unmanaged. -/
theorem mem_updated_interfaces
    (names : (desired.interfaces.map Interface.name).Nodup)
    (peers : (desired.bgpSessions.map BGPSession.peerAddress).Nodup)
    (config : DeviceConfig) {entry : Json}
    (member : entry ∈ interfacesOf (updated text desired place config.tree)) :
    (∃ iface ∈ desired.interfaces,
        entry = updatedInterface place config.tree iface) ∨
      entry ∈ interfacesOf config.tree ∧
        ∀ iface ∈ desired.interfaces, entry.field "name" ≠ .str iface.name := by
  have distinct := (config.update place _ (conforms_payload text desired)).distinct
  have found := keyedItem?_of_mem distinct.interfaces member
  by_cases intended :
      ∃ iface ∈ desired.interfaces, entry.field "name" = .str iface.name
  · obtain ⟨iface, ifaceMember, name⟩ := intended
    left
    refine ⟨iface, ifaceMember, ?_⟩
    rw [name] at found
    have updatedFound := keyedItem?_updated_interface text place names peers
      config.tree ifaceMember
    exact Option.some.inj (found.symm.trans updatedFound)
  · right
    have unmanaged : ∀ iface ∈ desired.interfaces,
        entry.field "name" ≠ .str iface.name :=
      fun iface ifaceMember name => intended ⟨iface, ifaceMember, name⟩
    refine ⟨?_, unmanaged⟩
    have rendered := (distinct_payload text names peers).interfaces
    rw [interfacesOf_payload] at rendered
    have merged := keyedItem?_mergeItems place [.str "interface"]
      (show interfaceSchema.lookup "name" = some .leaf from rfl)
      conforms_renderedInterfaces rendered (interfacesOf config.tree)
      (entry.field "name")
    rw [keyedItem?_rendered_of_unmanaged unmanaged] at merged
    have same := interfacesOf_updated text desired place config.tree
    have here : keyedItem? "name" (entry.field "name")
        (interfacesOf (updated text desired place config.tree)) = some entry :=
      found
    rw [same, merged] at here
    exact (keyedItem?_eq_some here).1

/-- An unmanaged interface is kept as it is. -/
theorem mem_updated_of_unmanaged
    (names : (desired.interfaces.map Interface.name).Nodup)
    (peers : (desired.bgpSessions.map BGPSession.peerAddress).Nodup)
    (config : DeviceConfig) {entry : Json}
    (member : entry ∈ interfacesOf config.tree)
    (unmanaged : ∀ iface ∈ desired.interfaces,
      entry.field "name" ≠ .str iface.name) :
    entry ∈ interfacesOf (updated text desired place config.tree) := by
  have rendered := (distinct_payload text names peers).interfaces
  rw [interfacesOf_payload] at rendered
  have own := keyedItem?_of_mem config.distinct.interfaces member
  have merged := keyedItem?_mergeItems place [.str "interface"]
    (show interfaceSchema.lookup "name" = some .leaf from rfl)
    conforms_renderedInterfaces rendered (interfacesOf config.tree)
    (entry.field "name")
  rw [keyedItem?_rendered_of_unmanaged unmanaged, own,
    ← interfacesOf_updated text desired place config.tree] at merged
  exact (keyedItem?_eq_some merged).1

end

/-! ## The first address after the update -/

/-- The subinterfaces up to and including the first with index zero. -/
def throughIndexZero : List Json → List Json
  | [] => []
  | subinterface :: rest =>
      if subinterface.field "index" = .int 0 then [subinterface]
      else subinterface :: throughIndexZero rest

/--
The prefixes that may be shown first: the device's own, as far as the rendered
one cannot come before them, and then the rendered one.
-/
def shownPrefixes (iface : Interface) (own : Json) : List String :=
  match ipPrefix? iface with
  | none => interfacePrefixes own
  | some ipPrefix =>
      (throughIndexZero (itemsOf (own.field "subinterface"))).flatMap prefixesOf ++
        [ipPrefix]

/-- New entries go last. -/
def lastPlacement : Placement := fun _ olds _ => olds.length

theorem throughIndexZero_split
    {before after : List Json} {subinterface : Json}
    (zero : subinterface.field "index" = .int 0)
    (unmatched : ∀ other ∈ before, other.field "index" ≠ .int 0) :
    throughIndexZero (before ++ subinterface :: after) =
      before ++ [subinterface] := by
  induction before with
  | nil => rw [List.nil_append, throughIndexZero, if_pos zero, List.nil_append]
  | cons first rest induction =>
      rw [List.cons_append, throughIndexZero,
        if_neg (unmatched first (by simp)),
        induction fun other member => unmatched other (by simp [member]),
        List.cons_append]

theorem throughIndexZero_of_absent
    {items : List Json}
    (unmatched : ∀ other ∈ items, other.field "index" ≠ .int 0) :
    throughIndexZero items = items := by
  induction items with
  | nil => rfl
  | cons first rest induction =>
      rw [throughIndexZero, if_neg (unmatched first (by simp)),
        induction fun other member => unmatched other (by simp [member])]

/--
A list with a prefix inserted somewhere, or, when it already has the prefix,
the list itself.  Where `last` holds, the prefix is inserted at the end.
-/
def Inserted (ipPrefix : String) (last : Prop) (own result : List String) : Prop :=
  ∃ before after, own = before ++ after ∧
    ((result = before ++ ipPrefix :: after ∧ (last → after = [])) ∨
      (ipPrefix ∈ own ∧ result = own))

theorem ne_empty_of_ipPrefix? {iface : Interface} {ipPrefix : String}
    (rendered : ipPrefix? iface = some ipPrefix) : ipPrefix ≠ "" := by
  obtain ⟨address, -, rfl⟩ := Option.map_eq_some_iff.1 rendered
  intro equal
  have chars := congrArg String.toList equal
  simp at chars

theorem firstPrefix?_append (left right : List String) :
    firstPrefix? (left ++ right) = (firstPrefix? left).or (firstPrefix? right) :=
  List.find?_append

theorem firstPrefix?_cons {ipPrefix : String} (set : ipPrefix ≠ "")
    (rest : List String) : firstPrefix? (ipPrefix :: rest) = some ipPrefix := by
  simp [firstPrefix?, set]

/-- The first set prefix of a continued list with an inserted prefix. -/
theorem firstPrefix?_of_inserted
    {ipPrefix : String} {last : Prop} {own result : List String}
    (set : ipPrefix ≠ "") (inserted : Inserted ipPrefix last own result)
    (rest : List String) :
    (firstPrefix? (result ++ rest) = firstPrefix? (own ++ [ipPrefix]) ∨
        firstPrefix? (result ++ rest) = some ipPrefix) ∧
      (last → firstPrefix? (result ++ rest) = firstPrefix? (own ++ [ipPrefix])) := by
  obtain ⟨before, after, rfl, ⟨rfl, atEnd⟩ | ⟨member, rfl⟩⟩ := inserted
  · rw [List.append_assoc, List.cons_append, firstPrefix?_append before,
      firstPrefix?_cons set, firstPrefix?_append, firstPrefix?_append,
      firstPrefix?_cons set]
    constructor
    · rcases firstPrefix? before with _ | shown
      · exact Or.inr rfl
      · exact Or.inl rfl
    · intro isLast
      rw [atEnd isLast]
      rcases firstPrefix? before with _ | shown <;> rfl
  · have present : ∃ shown, firstPrefix? (before ++ after) = some shown := by
      rcases found : firstPrefix? (before ++ after) with _ | shown
      · have none := List.find?_eq_none.1 found ipPrefix member
        simp [set] at none
      · exact ⟨shown, rfl⟩
    obtain ⟨shown, found⟩ := present
    rw [firstPrefix?_append (before ++ after) rest,
      firstPrefix?_append (before ++ after) [ipPrefix], found]
    exact ⟨Or.inl rfl, fun _ => rfl⟩

section

variable (place : Placement) (path : List Json) (ipPrefix : String)

/-- The prefixes of a subinterface after the rendered one is merged into it. -/
theorem prefixesOf_merged (old : Json) :
    Inserted ipPrefix (place = lastPlacement) (prefixesOf old)
      (prefixesOf (merge place path (.container subinterfaceSchema) old
        (subinterfaceValue ipPrefix))) := by
  let address : Json := .obj [("ip-prefix", .str ipPrefix)]
  let ipv4 : List (String × Json) :=
    [("admin-state", .str "enable"), ("address", .arr [address])]
  let olds := itemsOf ((old.field "ipv4").field "address")
  let ipv4Path : List Json := path ++ [.str "ipv4"]
  let listPath : List Json := ipv4Path ++ [.str "address"]
  let change : Json → Json := fun entry =>
    merge place (listPath ++ [.str ipPrefix]) (.container addressSchema) entry
      address
  have ipv4Merged := field_merge_of_child place path old
    (show ([("index", Json.int 0), ("admin-state", .str "enable"),
      ("ipv4", .obj ipv4)].map Prod.fst).Nodup by simp)
    (show [("index", Json.int 0), ("admin-state", .str "enable"),
      ("ipv4", .obj ipv4)].lookup "ipv4" = some (.obj ipv4) from rfl)
    (show subinterfaceSchema.lookup "ipv4" = some (.container ipv4Schema) from rfl)
  have addressMerged := field_merge_of_child place ipv4Path (old.field "ipv4")
    (show (ipv4.map Prod.fst).Nodup by simp [ipv4])
    (show ipv4.lookup "address" = some (.arr [address]) from rfl)
    (show ipv4Schema.lookup "address" =
      some (.list "ip-prefix" true addressSchema) from rfl)
  have merged : prefixesOf (merge place path (.container subinterfaceSchema) old
      (subinterfaceValue ipPrefix)) =
        (upsert "ip-prefix" (.str ipPrefix) change
          (place listPath olds address) olds).map
          fun entry => textOf (entry.field "ip-prefix") := by
    rw [prefixesOf, subinterfaceValue, ipv4Merged, addressMerged, merge_arr,
      itemsOf_arr, mergeItems, mergeItems]
    rfl
  have changed : ∀ entry, textOf ((change entry).field "ip-prefix") = ipPrefix := by
    intro entry
    have leaf := field_merge_of_leaf place (listPath ++ [.str ipPrefix]) entry
      (show ([("ip-prefix", Json.str ipPrefix)].map Prod.fst).Nodup by simp)
      (show [("ip-prefix", Json.str ipPrefix)].lookup "ip-prefix" =
        some (.str ipPrefix) from rfl)
      (show addressSchema.lookup "ip-prefix" = some .leaf from rfl) trivial
    show textOf ((merge place _ (.container addressSchema) entry address).field
      "ip-prefix") = ipPrefix
    rw [leaf]
    rfl
  have own : prefixesOf old = olds.map fun entry =>
      textOf (entry.field "ip-prefix") := rfl
  rw [merged, own]
  rcases upsert_split "ip-prefix" (.str ipPrefix) change
      (place listPath olds address) olds with
    ⟨before, entry, after, split, matched, -, result⟩ |
    ⟨before, after, split, -, position, result⟩
  · refine ⟨olds.map fun entry => textOf (entry.field "ip-prefix"), [],
      by simp, Or.inr ⟨?_, ?_⟩⟩
    · rw [split]
      refine List.mem_map.2 ⟨entry, by simp, ?_⟩
      rw [matched]
      rfl
    · rw [result, List.map_append, List.map_cons, changed, split, List.map_append,
        List.map_cons, matched]
      rfl
  · refine ⟨before.map fun entry => textOf (entry.field "ip-prefix"),
      after.map fun entry => textOf (entry.field "ip-prefix"), ?_,
      Or.inl ⟨?_, ?_⟩⟩
    · rw [split, List.map_append]
    · rw [result, List.map_append, List.map_cons, changed]
    · rintro rfl
      have whole : before = olds := by
        rw [position]
        exact List.take_length
      rw [whole] at split
      have none : after = [] := List.self_eq_append_right.1 split
      rw [none]
      rfl

/-- The prefixes of an interface after the rendered subinterface is merged. -/
theorem interfacePrefixes_merged
    {iface : Interface} (rendered : ipPrefix? iface = some ipPrefix) (own : Json) :
    ∃ core rest,
      Inserted ipPrefix (place = lastPlacement)
        ((throughIndexZero (itemsOf (own.field "subinterface"))).flatMap prefixesOf)
        core ∧
      interfacePrefixes (merge place path (.container interfaceSchema) own
        (.obj (interfaceFields iface))) = core ++ rest := by
  let subs := itemsOf (own.field "subinterface")
  let listPath : List Json := path ++ [.str "subinterface"]
  let change : Json → Json := fun entry =>
    merge place (listPath ++ [.int 0]) (.container subinterfaceSchema) entry
      (subinterfaceValue ipPrefix)
  have present : (interfaceFields iface).lookup "subinterface" =
      some (.arr [subinterfaceValue ipPrefix]) := by
    rw [interfaceFields_subinterface, rendered]
    rfl
  have listMerged := field_merge_of_child place path own
    (interfaceFields_keys_nodup iface) present
    (show interfaceSchema.lookup "subinterface" =
      some (.list "index" false subinterfaceSchema) from rfl)
  have merged : interfacePrefixes (merge place path (.container interfaceSchema) own
      (.obj (interfaceFields iface))) =
        (upsert "index" (.int 0) change
          (place listPath subs (subinterfaceValue ipPrefix)) subs).flatMap
            prefixesOf := by
    rw [interfacePrefixes, listMerged, merge_arr, itemsOf_arr, mergeItems,
      mergeItems]
    rfl
  rw [merged]
  show ∃ core rest, Inserted ipPrefix _
    ((throughIndexZero subs).flatMap prefixesOf) core ∧ _ = core ++ rest
  rcases upsert_split "index" (.int 0) change
      (place listPath subs (subinterfaceValue ipPrefix)) subs with
    ⟨before, entry, after, split, matched, unmatched, result⟩ |
    ⟨before, after, split, unmatched, position, result⟩
  · obtain ⟨left, right, ownSplit, cases⟩ :=
      prefixesOf_merged place (listPath ++ [.int 0]) ipPrefix entry
    have through : (throughIndexZero subs).flatMap prefixesOf =
        before.flatMap prefixesOf ++ prefixesOf entry := by
      rw [split, throughIndexZero_split matched unmatched, List.flatMap_append,
        List.flatMap_singleton]
    refine ⟨before.flatMap prefixesOf ++ prefixesOf (change entry),
      after.flatMap prefixesOf, ?_, ?_⟩
    · refine ⟨before.flatMap prefixesOf ++ left, right, ?_, ?_⟩
      · rw [through, ownSplit, List.append_assoc]
      · rw [through]
        rcases cases with ⟨inserted, atEnd⟩ | ⟨member, kept⟩
        · left
          refine ⟨?_, atEnd⟩
          rw [List.append_assoc]
          exact congrArg _ inserted
        · right
          exact ⟨List.mem_append_right _ member, congrArg _ kept⟩
    · rw [result, List.flatMap_append, List.flatMap_cons, List.append_assoc]
  · have fresh : prefixesOf (change .null) = [ipPrefix] := by
      obtain ⟨left, right, nilSplit, cases⟩ :=
        prefixesOf_merged place (listPath ++ [.int 0]) ipPrefix .null
      obtain ⟨rfl, rfl⟩ := List.append_eq_nil_iff.1 nilSplit.symm
      rcases cases with ⟨inserted, -⟩ | ⟨member, -⟩
      · exact inserted
      · cases member
    refine ⟨before.flatMap prefixesOf ++ ipPrefix :: after.flatMap prefixesOf, [],
      ⟨before.flatMap prefixesOf, after.flatMap prefixesOf, ?_,
        Or.inl ⟨rfl, ?_⟩⟩, ?_⟩
    · rw [throughIndexZero_of_absent unmatched, split, List.flatMap_append]
    · rintro rfl
      have whole : before = subs := by
        rw [position]
        exact List.take_length
      rw [whole] at split
      have none : after = [] := List.self_eq_append_right.1 split
      rw [none]
      rfl
    · rw [result, List.flatMap_append, List.flatMap_cons, fresh, List.append_nil]
      rfl

end

end Snapl.Contract
