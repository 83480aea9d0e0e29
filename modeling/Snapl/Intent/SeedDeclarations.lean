import Snapl.Intent.SeedSessions

/-!
# What a dataset declares

Every record of a dataset speaks of one node, which its natural key names: it
gives values to attributes of the node and names the peers of its
relationships.  A copy of a peer group is spoken of by the record of the group,
once for every session that uses the group on the copy's device.

The seed writes such records in order.  To a node that is there it writes
attributes only; a node that is not there is made from the first record that
speaks of it, with the peers of that record that have nodes.
-/

namespace Snapl.Intent

open Snapl.Library SeedIngester

/-- The first node a reference can lead to. -/
def Rel.node? (rel : Rel) (contents : Contents) (name : Json) : Option Node :=
  (contents.nodes rel.peerKind).find? fun peer => peer.attributes rel.lookupAttr = name

/-- The relationship of the node leads to a peer of the name, and to nothing else. -/
def Rel.Leads (rel : Rel) (contents : Contents) (node : Node) (field : String) (name : Json) :
    Prop :=
  ∃ peer ∈ contents.nodes rel.peerKind,
    node.relations field = [peer.id] ∧ peer.attributes rel.lookupAttr = name

/-- What a record says of a node: values of attributes and names of peers. -/
structure Declaration where
  values : String → Option Json
  peers : String → Option Json

/-- How the records of a section speak of nodes, and how they name the peers of a relationship. -/
structure Vocabulary where
  sec : Section
  targets : List (String × Rel)

namespace Vocabulary

variable (voc : Vocabulary)

/-- The natural key of the node a record speaks of. -/
def key (declaration : Declaration) : List (Option Json) :=
  voc.sec.lookup.map fun field =>
    if field ∈ voc.sec.lookupRelFields then declaration.peers field
    else declaration.values field

/-- The node has the natural key; a reference among it leads to the first node it names. -/
def speaks (contents : Contents) (declaration : Declaration) (node : Node) : Bool :=
  voc.sec.lookup.all fun field =>
    if field ∈ voc.sec.lookupRelFields then
      (((voc.targets.lookup field).bind fun rel =>
        (declaration.peers field).bind (rel.node? contents)).any fun peer =>
          peer.id ∈ node.relations field)
    else declaration.values field = some (node.attributes field)

/-- The node a record speaks of. -/
def subject (contents : Contents) (declaration : Declaration) : Option Node :=
  (contents.nodes voc.sec.kind).find? (voc.speaks contents declaration)

/-- All a record says is so. -/
def Holds (contents : Contents) (declaration : Declaration) : Prop :=
  ∃ node, voc.subject contents declaration = some node ∧
    (∀ field value, declaration.values field = some value →
      field ∈ voc.sec.kind.attributes ∧ node.attributes field = value) ∧
    ∀ field name, declaration.peers field = some name →
      ∃ rel, voc.targets.lookup field = some rel ∧ rel.Leads contents node field name

end Vocabulary

/-- The items of a generic section. -/
def seededItems (dataset : Dataset) (name : SectionName) : List Payload :=
  match (dataset name).map (itemsForSection (sections name)) with
  | some (.ok items) => items
  | _ => []

/-- The entries of a BGP section. -/
def seededEntries (dataset : Dataset) (name : SectionName) : List Payload :=
  match (dataset name).map entriesOf with
  | some (.ok entries) => entries
  | _ => []

/-- How addresses are named. -/
def addressRel : Rel := { peerKind := .ipamIPAddress, lookupAttr := "address" }

/-- How the items of a generic section name peers. -/
def Section.targets (sec : Section) : List (String × Rel) :=
  sec.relationships ++
    (if sec.ipField.isSome then [("ip_addresses", addressRel)] else []) ++
    (if sec.primaryAddressField.isSome then [("primary_address", addressRel)] else [])

/-- How the records of each section speak of nodes; sessions go by their description. -/
def vocabulary : SectionName → Vocabulary
  | .bgpPeerGroups =>
      { sec := sections .bgpPeerGroups
        targets := [("device", { peerKind := .dcimDevice })] }
  | .bgpSessions =>
      { sec := sessionSection
        targets :=
          [("device", { peerKind := .dcimDevice }),
            ("local_as", { peerKind := .routingAutonomousSystem, lookupAttr := "asn" }),
            ("remote_as", { peerKind := .routingAutonomousSystem, lookupAttr := "asn" }),
            ("local_ip", addressRel),
            ("remote_ip", addressRel),
            ("peer_group", { peerKind := .routingBGPPeerGroup })] }
  | name => { sec := sections name, targets := (sections name).targets }

/-- The fields of an item that name peers and nothing else. -/
def Section.peerFields (sec : Section) : List String :=
  sec.relationships.map Prod.fst ++ sec.ipField.toList

/-- The peers an item names; of the management addresses those that count. -/
def Section.peersOf (sec : Section) (counts : Json → Bool) (item : Payload) (field : String) :
    Option Json :=
  if field ∈ sec.relationships.map Prod.fst then item.get? field
  else if field = "ip_addresses" then sec.ipField.bind item.get?
  else if field = "primary_address" then
    (sec.primaryAddressField.bind item.get?).filter counts
  else none

/-- What an item says when some management addresses count. -/
def Section.declare (sec : Section) (counts : Json → Bool) (item : Payload) : Declaration where
  values field := if field ∈ sec.peerFields then none else item.get? field
  peers := sec.peersOf counts item

/-- The name of the copy of a peer group on a device. -/
def copyName (text : PyText) (group device : Json) : Json :=
  match shadowName text group device with
  | .ok name => .str name
  | .error _ => group

/-- The description of the copy on a device. -/
def copyDescription (text : PyText) (description device : Json) : Json :=
  match text.str description, text.str device with
  | .ok shown, .ok deviceText => .str (shown ++ " (" ++ deviceText ++ ")")
  | _, _ => description

/-- What the record of a peer group says of the copy on a device. -/
def declareCopy (text : PyText) (group : Json) (record : Payload) (device : Json) :
    Declaration where
  values field :=
    if field = "name" then some (copyName text group device)
    else if field = "description" then
      (record.get? field).map fun description => copyDescription text description device
    else record.get? field
  peers field := if field = "device" then some device else none

/-- The peer group a session uses. -/
def groupOf (session : Payload) : Option Json :=
  (session.get? "peer_group").filter Json.truthy

/-- The peers a session names; its peer group stands for the copy on its own device. -/
def sessionPeers (text : PyText) (session : Payload) (field : String) : Option Json :=
  if field = "device" then session.get? "local_device"
  else if field ∈ ["local_as", "remote_as", "local_ip", "remote_ip"] then session.get? field
  else if field = "peer_group" then
    (groupOf session).map fun group =>
      copyName text group ((session.get? "local_device").getD .null)
  else none

/-- The fields of a session that are no attributes of its node. -/
def sessionPeerFields : List String :=
  ["local_device", "remote_device", "local_as", "remote_as", "local_ip", "remote_ip",
    "peer_group"]

/-- What a session says. -/
def declareSession (text : PyText) (session : Payload) : Declaration where
  values field := if field ∈ sessionPeerFields then none else session.get? field
  peers := sessionPeers text session

/-- The local devices of the sessions that use a peer group. -/
def usersOf (dataset : Dataset) (group : Json) : List Json :=
  (seededEntries dataset .bgpSessions).filterMap fun session =>
    if groupOf session = some group then session.get? "local_device" else none

/-- What the records of a section say. -/
def declared (text : PyText) (dataset : Dataset) : SectionName → List Declaration
  | .bgpPeerGroups => (seededEntries dataset .bgpPeerGroups).flatMap fun record =>
      let group := (record.get? "name").getD .null
      (usersOf dataset group).map (declareCopy text group record)
  | .bgpSessions => (seededEntries dataset .bgpSessions).map (declareSession text)
  | name => (seededItems dataset name).map ((sections name).declare Json.truthy)

/-- Everything the dataset declares is so. -/
def Faithful (text : PyText) (dataset : Dataset) (contents : Contents) : Prop :=
  ∀ name, ∀ declaration ∈ declared text dataset name,
    (vocabulary name).Holds contents declaration

/-- The dataset makes the seed look up the default namespace. -/
def wantsNamespace (dataset : Dataset) : Bool :=
  needsNamespace dataset (seededItems dataset .devices)

/-- What the items of a generic section write. -/
def writtenItems (dataset : Dataset) (name : SectionName) : List Declaration :=
  (seededItems dataset name).map ((sections name).declare fun _ => wantsNamespace dataset)

/-- The addresses a record gives nodes: those of interfaces and devices. -/
def Declaration.addresses (record : Declaration) : List Json :=
  (record.peers "ip_addresses").toList ++ (record.peers "primary_address").toList

/-- The addresses the items of a dataset give nodes. -/
def namedAddresses (dataset : Dataset) : List Json :=
  seedOrder.flatMap fun name => (writtenItems dataset name).flatMap Declaration.addresses

/-- The addresses that have nodes when sessions are seeded. -/
def knownAddresses (dataset : Dataset) (contents : Contents) : List Json :=
  ((contents.nodes .ipamIPAddress).map fun node => node.attributes "address") ++
    namedAddresses dataset

/-- The records of peer groups that count, by name. -/
def declaredGroups (dataset : Dataset) : Dict Json Payload :=
  match declarationMap (seededEntries dataset .bgpPeerGroups) Dict.empty with
  | .ok declarations => declarations
  | .error _ => Dict.empty

/-- The devices of the sessions of each peer group. -/
def devicesOfGroups (dataset : Dataset) : Dict Json (List Json) :=
  match groupDevices (seededEntries dataset .bgpSessions) Dict.empty with
  | .ok devices => devices
  | .error _ => Dict.empty

/-- What the record of a peer group writes to the copy on a device. -/
def writeCopy (text : PyText) (group : Json) (record : Payload) (device : Json) :
    Declaration where
  values field :=
    if field = "name" then some (copyName text group device)
    else if field = "description" then
      some (copyDescription text ((record.get? field).getD group) device)
    else if field ∈ shadowAttributes then record.get? field
    else if field = "status" then some ((record.get? field).getD (.str "active"))
    else none
  peers field := if field = "device" then some device else none

/-- What a session writes: addresses without nodes and groups without records are left out. -/
def writeSession (text : PyText) (dataset : Dataset) (contents : Contents) (session : Payload) :
    Declaration where
  values field :=
    if field = "description" ∨ field = "session_type" ∨ field = "role" then session.get? field
    else if field = "status" then some ((session.get? field).getD (.str "active"))
    else none
  peers field :=
    if field = "local_ip" ∨ field = "remote_ip" then
      (session.get? field).filter fun address => address ∈ knownAddresses dataset contents
    else if field = "peer_group" then
      if ((groupOf session).bind (declaredGroups dataset).get?).isSome then
        sessionPeers text session field
      else none
    else sessionPeers text session field

/-- What a section writes, in order, when it is seeded into a branch with the contents. -/
def written (text : PyText) (order : SetOrder) (dataset : Dataset) (contents : Contents) :
    SectionName → List Declaration
  | .bgpPeerGroups => (declaredGroups dataset).entries.flatMap fun entry =>
      (visited order (devicesOfGroups dataset) entry.1).map (writeCopy text entry.1 entry.2)
  | .bgpSessions => (seededEntries dataset .bgpSessions).map (writeSession text dataset contents)
  | name => writtenItems dataset name

/-- The last value records give an attribute. -/
def latest (field : String) : List Declaration → Option Json
  | [] => none
  | record :: rest => (latest field rest).or (record.values field)

namespace Vocabulary

variable (voc : Vocabulary)

/-- The records that speak of a node that is there. -/
def speakingOf (contents : Contents) (node : Node) (records : List Declaration) :
    List Declaration :=
  records.filter fun record => (voc.subject contents record).map Node.id = some node.id

/-- The value an attribute of the node a record speaks of has once the records are written. -/
def settledValue (contents : Contents) (records : List Declaration) (declaration : Declaration)
    (field : String) : Json :=
  match voc.subject contents declaration with
  | some node =>
      (latest field (voc.speakingOf contents node records)).getD (node.attributes field)
  | none =>
      (latest field (records.filter fun record => voc.key record = voc.key declaration)).getD
        (voc.sec.kind.defaultValue field)

end Vocabulary

/--
The name a peer that is there has after the seed.  Only the numbers of
autonomous systems are no natural keys, so only they can change.
-/
def settledName (dataset : Dataset) (contents : Contents) (rel : Rel) (peer : Node) : Json :=
  if rel.peerKind = .routingAutonomousSystem then
    (latest rel.lookupAttr ((vocabulary .autonomousSystems).speakingOf contents peer
      (writtenItems dataset .autonomousSystems))).getD (peer.attributes rel.lookupAttr)
  else peer.attributes rel.lookupAttr

/--
A reference of a record comes true: the node it speaks of leads to the peer
already, or is made from a record with the same reference.
-/
def Vocabulary.SettledPeer (voc : Vocabulary) (dataset : Dataset) (contents : Contents)
    (records : List Declaration) (declaration : Declaration) (field : String) (name : Json) :
    Prop :=
  match voc.subject contents declaration with
  | some node =>
      ∃ rel, voc.targets.lookup field = some rel ∧
        ∃ peer ∈ contents.nodes rel.peerKind,
          node.relations field = [peer.id] ∧ settledName dataset contents rel peer = name
  | none =>
      ∃ first, (records.find? fun record => voc.key record = voc.key declaration) = some first ∧
        first.peers field = some name

/-- All a record says comes true when the records of its section are written. -/
structure Vocabulary.Settles (voc : Vocabulary) (dataset : Dataset) (contents : Contents)
    (records : List Declaration) (declaration : Declaration) : Prop where
  keyed : ∀ field ∈ voc.key declaration, field.isSome
  values : ∀ field value, declaration.values field = some value →
    field ∈ voc.sec.kind.attributes ∧
      voc.settledValue contents records declaration field = value
  peers : ∀ field name, declaration.peers field = some name →
    voc.SettledPeer dataset contents records declaration field name

/-- Everything the dataset declares comes true when it is seeded into the contents. -/
def SettlesIn (text : PyText) (order : SetOrder) (dataset : Dataset) (contents : Contents) :
    Prop :=
  ∀ name, ∀ declaration ∈ declared text dataset name,
    (vocabulary name).Settles dataset contents (written text order dataset contents name)
      declaration

end Snapl.Intent
