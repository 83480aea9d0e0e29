import Snapl.Intent.Infrahub

/-!
# The seed

Seed data is processed section by section, in an order in which the entities a
section refers to come before it.  An item is looked up by its section's natural
key and saved in place when a node is there; otherwise a node is created.
References are rewritten to identifiers first, and the addresses of interfaces
and devices get nodes of their own.  BGP peer groups are copied to every device
that uses them, and sessions are looked up by their description.

Every lookup leaves the branch to the client; only creations name it.
-/

namespace Snapl.Intent

open Snapl.Library

/-! ## Sections -/

/-- The sections of a dataset. -/
inductive SectionName where
  | organization
  | location
  | manufacturer
  | platform
  | deviceTypes
  | autonomousSystems
  | vrfs
  | ipPrefixes
  | devices
  | interfaces
  | bgpPeerGroups
  | bgpSessions
deriving DecidableEq

/-- The order the sections are processed in. -/
def seedOrder : List SectionName :=
  [.organization, .location, .manufacturer, .platform, .deviceTypes, .autonomousSystems,
    .vrfs, .ipPrefixes, .devices, .interfaces, .bgpPeerGroups, .bgpSessions]

/-- The sections the generic upsert does not handle. -/
def bgpSections : List SectionName := [.bgpPeerGroups, .bgpSessions]

def deviceRequiredFields : List String :=
  ["name", "role", "use_case", "device_type", "location"]

/-- A relationship field and the natural key of its peer. -/
structure Rel where
  peerKind : Kind
  lookupAttr : String := "name"

/-- How the items of a section become nodes. -/
structure Section where
  kind : Kind
  lookup : List String
  listValued : Bool
  relationships : List (String × Rel) := []
  namespaceField : Option String := none
  ipField : Option String := none
  primaryAddressField : Option String := none
  lookupRelFields : List String := []

/-- The section of each name. -/
def sections : SectionName → Section
  | .organization => { kind := .organizationProvider, lookup := ["name"], listValued := false }
  | .manufacturer => { kind := .organizationManufacturer, lookup := ["name"], listValued := false }
  | .platform => { kind := .dcimPlatform, lookup := ["name"], listValued := false }
  | .location => { kind := .locationSite, lookup := ["shortname"], listValued := false }
  | .deviceTypes =>
      { kind := .dcimDeviceType
        lookup := ["name"]
        listValued := true
        relationships := [("manufacturer", { peerKind := .organizationManufacturer })] }
  | .autonomousSystems =>
      { kind := .routingAutonomousSystem
        lookup := ["name"]
        listValued := true
        relationships := [("organization", { peerKind := .organizationProvider })] }
  | .vrfs =>
      { kind := .ipamVRF
        lookup := ["name"]
        listValued := true
        namespaceField := some "namespace" }
  | .ipPrefixes =>
      { kind := .ipamPrefix
        lookup := ["prefix"]
        listValued := true
        namespaceField := some "ip_namespace" }
  | .devices =>
      { kind := .dcimDevice
        lookup := ["name"]
        listValued := true
        relationships :=
          [("device_type", { peerKind := .dcimDeviceType }),
            ("platform", { peerKind := .dcimPlatform }),
            ("location", { peerKind := .locationSite, lookupAttr := "shortname" }),
            ("asn", { peerKind := .routingAutonomousSystem, lookupAttr := "asn" })]
        primaryAddressField := some "management_ip" }
  | .interfaces =>
      { kind := .interfacePhysical
        lookup := ["device", "name"]
        listValued := true
        relationships := [("device", { peerKind := .dcimDevice })]
        ipField := some "ip_address"
        lookupRelFields := ["device"] }
  | .bgpPeerGroups => { kind := .routingBGPPeerGroup, lookup := ["name"], listValued := true }
  | .bgpSessions =>
      { kind := .routingBGPSession
        lookup := ["local_device", "remote_device"]
        listValued := true }

/-- What a dataset holds under the name of a section. -/
inductive SectionValue where
  | null
  | item (fields : Payload)
  | items (items : List Payload)

/-- A parsed seed file. -/
abbrev Dataset := SectionName → Option SectionValue

/--
The items of a section.  A value of the other shape than the section's ends in
an exception of the language.
-/
def itemsForSection (sec : Section) (value : SectionValue) : Except PyError (List Payload) :=
  if sec.listValued then
    match value with
    | .null => .ok []
    | .items items => .ok items
    | .item fields => if fields.size = 0 then .ok [] else .error .typeError
  else
    match value with
    | .null => .ok []
    | .item fields => if fields.size = 0 then .ok [] else .ok [fields]
    | .items items => if items.isEmpty then .ok [] else .error .typeError

/-- The entries a loop over a section's value visits. -/
def entriesOf : SectionValue → Except PyError (List Payload)
  | .null => .error .typeError
  | .items items => .ok items
  | .item fields => if fields.size = 0 then .ok [] else .error .typeError

/-- The device items of a dataset. -/
def deviceItems (dataset : Dataset) : Except PyError (List Payload) :=
  itemsForSection (sections .devices) ((dataset .devices).getD .null)

/-- The outcome of a seed. -/
structure SeedResult where
  useCase : String
  devicesCreated : Nat
  devicesUpdated : Nat
  totalRecords : Nat
  branch : String
deriving DecidableEq

/-- The order the language visits the elements of a set in. -/
structure SetOrder where
  iterate : List Json → List Json
  iterate_perm : ∀ elements, (iterate elements).Perm elements

namespace SeedIngester

variable (client : InfrahubClient) (text : PyText)

def validation (problem : ValidationProblem) {Result : Type} : SotProgram Result :=
  Program.raise (.validation problem)

/-- End as a computation of the language does. -/
def compute {Result : Type} (value : Except PyError Result) : SotProgram Result :=
  Program.ofExcept (value.mapError .python)

/-! ## Generic sections -/

/-- Every device item carries the required fields. -/
def validate : List Payload → SotProgram Unit
  | [] => pure ()
  | device :: rest =>
      let missing := deviceRequiredFields.filter fun field => (device.get? field).isNone
      if missing.isEmpty then validate rest
      else validation (.missingFields ((device.get? "name").getD (.str "<unknown>")) missing)

def getDefaultNamespaceId : SotProgram String := do
  let results ← client.filters .ipamNamespace [.value "default" (.bool true)] none
  match results with
  | [] => validation .noDefaultNamespace
  | found :: _ => pure found.node.id

/-- The identifier of the node of an address, which is created if there is none. -/
def materialiseIpAddress (address : Json) (namespaceId branch : String) :
    SotProgram String := do
  let existing ← client.filters .ipamIPAddress
    [.value "address" address, .peers "ip_namespace" [.str namespaceId]] none
  match existing with
  | found :: _ => pure found.node.id
  | [] => do
      let node ← client.saveNew (client.create .ipamIPAddress
        (Dict.ofPairs [("address", address), ("ip_namespace", .str namespaceId)]) (some branch))
      pure node.node.id

/-- Rewrite the relationship fields of an item to the identifiers of their peers. -/
def resolveRelationships (kind : Kind) :
    List (String × Rel) → Payload → SotProgram Payload
  | [], resolved => pure resolved
  | (field, rel) :: rest, resolved =>
      match resolved.get? field with
      | none => resolveRelationships kind rest resolved
      | some value => do
          let peers ← client.filters rel.peerKind [.value rel.lookupAttr value] none
          match peers with
          | [] => validation (.unresolved field value kind rel.peerKind rel.lookupAttr)
          | peer :: _ => resolveRelationships kind rest (resolved.set field (.str peer.node.id))

/-- Inject the default namespace where the section wants it. -/
def withNamespace (sec : Section) (namespaceId : Option String) (payload : Payload) : Payload :=
  match sec.namespaceField, namespaceId with
  | some field, some id => payload.set field (.str id)
  | _, _ => payload

/-- Give the address of an item a node and wire it to the address list. -/
def wireIpAddresses (sec : Section) (branch : String) (namespaceId : Option String)
    (payload : Payload) : SotProgram Payload :=
  match sec.ipField, namespaceId with
  | some field, some id =>
      match payload.get? field with
      | some address => do
          let ipId ← materialiseIpAddress client address id branch
          pure ((payload.erase field).set "ip_addresses" (.arr [.str ipId]))
      | none => pure payload
  | _, _ => pure payload

/-- Give the management address of an item a node and wire it to the primary address. -/
def wirePrimaryAddress (sec : Section) (branch : String) (namespaceId : Option String)
    (payload : Payload) : SotProgram Payload :=
  match sec.primaryAddressField, namespaceId with
  | some field, some id =>
      match payload.get? field with
      | some address => do
          let ipId ← materialiseIpAddress client address id branch
          pure (payload.set "primary_address" (.str ipId))
      | none => pure payload
  | _, _ => pure payload

/-- Give both kinds of address of an item nodes. -/
def wireAddresses (sec : Section) (branch : String) (namespaceId : Option String)
    (payload : Payload) : SotProgram Payload := do
  let wired ← wireIpAddresses client sec branch namespaceId payload
  wirePrimaryAddress client sec branch namespaceId wired

/-- The filter for one field of a natural key. -/
def lookupFilter (sec : Section) (key : String) (value : Json) : Filter :=
  if key ∈ sec.lookupRelFields then .peers key [value] else .value key value

/-- The filters for the natural key of a payload; a key the payload lacks is left out. -/
def lookupFilters (sec : Section) (payload : Payload) : List Filter :=
  sec.lookup.filterMap fun key => (payload.get? key).map (lookupFilter sec key)

/--
Write a payload to the first node that passes the filters, or create a node with
it on the branch.  Also says whether a node was created.
-/
def upsertNode (kind : Kind) (filters : List Filter) (payload : Payload) (branch : String) :
    SotProgram (String × Bool) := do
  let existing ← client.filters kind filters none
  match existing with
  | found :: _ => do
      FetchedNode.save { found with node := found.node.assignValues kind payload }
      pure (found.node.id, false)
  | [] => do
      let created ← client.saveNew (client.create kind payload (some branch))
      pure (created.node.id, true)

/-- Upsert one item; says whether a node was created. -/
def upsertItem (sec : Section) (item : Payload) (branch : String)
    (namespaceId : Option String) : SotProgram Bool := do
  let resolved ← resolveRelationships client sec.kind sec.relationships item
  let payload ← wireAddresses client sec branch namespaceId
    (withNamespace sec namespaceId resolved)
  let outcome ← upsertNode client sec.kind (lookupFilters sec payload) payload branch
  pure outcome.2

/-- The counts of a seed so far. -/
structure Tally where
  devicesCreated : Nat
  devicesUpdated : Nat
  totalRecords : Nat
deriving DecidableEq

/-- Count one item of a section. -/
def Tally.count (tally : Tally) (name : SectionName) (created : Bool) : Tally where
  devicesCreated :=
    if name = .devices ∧ created = true then tally.devicesCreated + 1
    else tally.devicesCreated
  devicesUpdated :=
    if name = .devices ∧ created = false then tally.devicesUpdated + 1
    else tally.devicesUpdated
  totalRecords := tally.totalRecords + 1

/-- Upsert the items of a section in order. -/
def seedItems (name : SectionName) (branch : String) (namespaceId : Option String) :
    List Payload → Tally → SotProgram Tally
  | [], tally => pure tally
  | item :: rest, tally => do
      let created ← upsertItem client (sections name) item branch namespaceId
      seedItems name branch namespaceId rest (tally.count name created)

/-- Process the generic sections of a dataset in order. -/
def seedSections (dataset : Dataset) (branch : String) (namespaceId : Option String) :
    List SectionName → Tally → SotProgram Tally
  | [], tally => pure tally
  | name :: rest, tally =>
      match dataset name with
      | none => seedSections dataset branch namespaceId rest tally
      | some value =>
          if name ∈ bgpSections then
            seedSections dataset branch namespaceId rest tally
          else do
            let items ← compute (itemsForSection (sections name) value)
            let next ← seedItems client name branch namespaceId items tally
            seedSections dataset branch namespaceId rest next

/-! ## BGP sections -/

def getDefaultVrfId : SotProgram String := do
  let results ← client.filters .ipamVRF [.value "name" (.str "default")] none
  match results with
  | [] => validation .noDefaultVrf
  | found :: _ => pure found.node.id

/-- A value as the key of a dictionary or the element of a set. -/
def hashed : Json → Except PyError Json
  | .arr _ => .error .typeError
  | .obj _ => .error .typeError
  | value => .ok value

/-- Reading a key a record must have. -/
def required (record : Payload) (key : String) : Except PyError Json :=
  match record.get? key with
  | some value => .ok value
  | none => .error .keyError

/-- Add an element to a set. -/
def addElement (elements : List Json) (element : Json) : List Json :=
  if element ∈ elements then elements else elements ++ [element]

/-- The local devices of the sessions of each peer group. -/
def groupDevices :
    List Payload → Dict Json (List Json) → Except PyError (Dict Json (List Json))
  | [], devices => .ok devices
  | session :: rest, devices =>
      let group := (session.get? "peer_group").getD .null
      if group.truthy then do
        let name ← hashed group
        let device ← required session "local_device"
        let element ← hashed device
        groupDevices rest (devices.set name (addElement ((devices.get? name).getD []) element))
      else groupDevices rest devices

/-- The declarations by name; of several with one name the last counts. -/
def declarationMap :
    List Payload → Dict Json Payload → Except PyError (Dict Json Payload)
  | [], declarations => .ok declarations
  | declaration :: rest, declarations => do
      let value ← required declaration "name"
      let name ← hashed value
      declarationMap rest (declarations.set name declaration)

/-- The attributes a shadow takes over from its declaration when they are there. -/
def shadowAttributes : List String :=
  ["address_family", "send_community", "import_policies", "export_policies",
    "maximum_routes", "local_pref"]

/-- Copy the fields a record has. -/
def copyFields (record : Payload) (fields : List String) (payload : Payload) : Payload :=
  fields.foldl (fun current field =>
    match record.get? field with
    | some value => current.set field value
    | none => current) payload

/-- The name of the copy of a peer group on a device. -/
def shadowName (group device : Json) : Except PyError String := do
  let groupText ← text.str group
  let deviceText ← text.str device
  .ok (groupText ++ "@" ++ deviceText)

/-- The payload of the copy of a peer group on a device. -/
def shadowPayload (group : Json) (declaration : Payload) (device : Json)
    (deviceId vrfId : String) : Except PyError Payload := do
  let name ← shadowName text group device
  let description ← text.str ((declaration.get? "description").getD group)
  let deviceText ← text.str device
  .ok (copyFields declaration shadowAttributes (Dict.ofPairs
    [("name", .str name),
      ("description", .str (description ++ " (" ++ deviceText ++ ")")),
      ("status", (declaration.get? "status").getD (.str "active")),
      ("device", .str deviceId),
      ("vrf", .str vrfId)]))

/-- The identifier of a device that must exist. -/
def requireDevice (name : Json) (problem : ValidationProblem) : SotProgram String := do
  let peers ← client.filters .dcimDevice [.value "name" name] none
  match peers with
  | [] => validation problem
  | peer :: _ => pure peer.node.id

/-- Upsert the copy of a peer group on one device. -/
def seedShadow (branch vrfId : String) (group : Json) (declaration : Payload) (device : Json) :
    SotProgram String := do
  let deviceId ← requireDevice client device (.shadowDevice device)
  let payload ← compute (shadowPayload text group declaration device deviceId vrfId)
  let name ← compute (shadowName text group device)
  let outcome ← upsertNode client .routingBGPPeerGroup [.value "name" (.str name)] payload branch
  pure outcome.1

/-- The identifiers of the copies of each peer group, by device. -/
abbrev ShadowIds := Dict Json (Dict Json String)

/-- Upsert the copies of a peer group on the given devices. -/
def seedShadows (branch vrfId : String) (group : Json) (declaration : Payload) :
    List Json → ShadowIds × Nat → SotProgram (ShadowIds × Nat)
  | [], progress => pure progress
  | device :: rest, (ids, count) => do
      let id ← seedShadow client text branch vrfId group declaration device
      let copies := (ids.get? group).getD Dict.empty
      seedShadows branch vrfId group declaration rest
        (ids.set group (copies.set device id), count + 1)

/-- Upsert the copies of every declared peer group. -/
def seedGroups (order : SetOrder) (branch vrfId : String) (devices : Dict Json (List Json)) :
    List (Json × Payload) → ShadowIds × Nat → SotProgram (ShadowIds × Nat)
  | [], progress => pure progress
  | (group, declaration) :: rest, progress => do
      let next ← seedShadows client text branch vrfId group declaration
        (order.iterate ((devices.get? group).getD [])) progress
      seedGroups order branch vrfId devices rest next

/-- Materialise one copy of each peer group per device, and count them. -/
def seedBgpPeerGroups (order : SetOrder) (declarations sessions : SectionValue)
    (branch vrfId : String) : SotProgram (ShadowIds × Nat) := do
  let sessionEntries ← compute (entriesOf sessions)
  let devices ← compute (groupDevices sessionEntries Dict.empty)
  let entries ← compute (entriesOf declarations)
  let declared ← compute (declarationMap entries Dict.empty)
  seedGroups client text order branch vrfId devices declared.entries (Dict.empty, 0)

/-- Wire an autonomous system a session names to it. -/
def wireAs (field : String) (session payload : Payload) : SotProgram Payload :=
  match session.get? field with
  | none => pure payload
  | some asn => do
      let peers ← client.filters .routingAutonomousSystem [.value "asn" asn] none
      match peers with
      | [] => validation (.sessionAs field asn)
      | peer :: _ => pure (payload.set field (.str peer.node.id))

/-- Wire an address a session names to it, if there is such an address. -/
def wireIp (field : String) (session payload : Payload) : SotProgram Payload :=
  match session.get? field with
  | none => pure payload
  | some address => do
      let peers ← client.filters .ipamIPAddress [.value "address" address] none
      match peers with
      | [] => pure payload
      | peer :: _ => pure (payload.set field (.str peer.node.id))

/-- Wire the copy of a session's peer group on its device, if there is one. -/
def wirePeerGroup (ids : ShadowIds) (localDevice : Json) (session payload : Payload) :
    Except PyError Payload :=
  match session.get? "peer_group" with
  | none => .ok payload
  | some group => do
      let name ← hashed group
      let device ← hashed localDevice
      .ok (match ((ids.get? name).getD Dict.empty).get? device with
        | some id => payload.set "peer_group" (.str id)
        | none => payload)

/-- Upsert one session. -/
def seedSession (branch vrfId : String) (ids : ShadowIds) (session : Payload) :
    SotProgram Unit := do
  let localDevice ← compute (required session "local_device")
  let deviceId ← requireDevice client localDevice (.sessionDevice localDevice)
  let description ← compute (required session "description")
  let withLocalAs ← wireAs client "local_as" session
    (copyFields session ["session_type", "role"] (Dict.ofPairs
      [("description", description),
        ("status", (session.get? "status").getD (.str "active")),
        ("device", .str deviceId),
        ("vrf", .str vrfId)]))
  let withRemoteAs ← wireAs client "remote_as" session withLocalAs
  let withLocalIp ← wireIp client "local_ip" session withRemoteAs
  let withRemoteIp ← wireIp client "remote_ip" session withLocalIp
  let payload ← compute (wirePeerGroup ids localDevice session withRemoteIp)
  let _ ← upsertNode client .routingBGPSession [.value "description" description] payload branch

/-- Upsert sessions in order. -/
def seedSessions (branch vrfId : String) (ids : ShadowIds) :
    List Payload → SotProgram Unit
  | [] => pure ()
  | session :: rest => do
      seedSession client branch vrfId ids session
      seedSessions branch vrfId ids rest

/-- Upsert the sessions of a dataset and count them. -/
def seedBgpSessions (sessions : SectionValue) (branch vrfId : String) (ids : ShadowIds) :
    SotProgram Nat := do
  let entries ← compute (entriesOf sessions)
  seedSessions client branch vrfId ids entries
  pure entries.length

/-- The peer groups of a dataset, if it declares any. -/
def seedPeerGroupSection (order : SetOrder) (dataset : Dataset) (branch vrfId : String) :
    SotProgram (ShadowIds × Nat) :=
  match dataset .bgpPeerGroups with
  | none => pure (Dict.empty, 0)
  | some declarations =>
      seedBgpPeerGroups client text order declarations
        ((dataset .bgpSessions).getD (.items [])) branch vrfId

/-- The sessions of a dataset, if it declares any. -/
def seedSessionSection (dataset : Dataset) (branch vrfId : String) (ids : ShadowIds) :
    SotProgram Nat :=
  match dataset .bgpSessions with
  | none => pure 0
  | some sessions => seedBgpSessions client sessions branch vrfId ids

/-- The peer groups and sessions of a dataset; returns how many records they made. -/
def seedBgp (order : SetOrder) (dataset : Dataset) (branch : String) : SotProgram Nat :=
  if (bgpSections.filterMap dataset).isEmpty then pure 0
  else do
    let vrfId ← getDefaultVrfId client
    let shadows ← seedPeerGroupSection client text order dataset branch vrfId
    let sessions ← seedSessionSection client dataset branch vrfId shadows.1
    pure (shadows.2 + sessions)

/-! ## The whole seed -/

/-- Some section of the dataset will materialise addresses or wants the namespace. -/
def needsNamespace (dataset : Dataset) (devices : List Payload) : Bool :=
  (dataset .vrfs).isSome || (dataset .ipPrefixes).isSome || (dataset .interfaces).isSome ||
    devices.any fun device => ((device.get? "management_ip").getD .null).truthy

/-- The default namespace, if the dataset needs it. -/
def fetchNamespace (dataset : Dataset) (devices : List Payload) : SotProgram (Option String) :=
  if needsNamespace dataset devices then do
    let id ← getDefaultNamespaceId client
    pure (some id)
  else pure none

/-- Seed a dataset into a branch. -/
def seed (order : SetOrder) (useCase : String) (dataset : Dataset) (branch : String) :
    SotProgram SeedResult := do
  let devices ← compute (deviceItems dataset)
  validate devices
  let namespaceId ← fetchNamespace client dataset devices
  let tally ← seedSections client dataset branch namespaceId seedOrder ⟨0, 0, 0⟩
  let records ← seedBgp client text order dataset branch
  pure ⟨useCase, tally.devicesCreated, tally.devicesUpdated, tally.totalRecords + records, branch⟩

end SeedIngester

end Snapl.Intent
