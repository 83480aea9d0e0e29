import Snapl.Intent.Seed

/-!
# The intent store

The operations of the store on a branch: reading the desired state of devices
from their nodes and those of their interfaces and sessions, seeding a dataset,
and deleting a device.  Reading and seeding take a branch and fall back on the
store's default; deleting leaves the branch to the client.
-/

namespace Snapl.Intent

open Snapl.Library

/-- What the language supplies: its text conversions, the order of sets, and reading a UUID. -/
structure Runtime where
  text : PyText
  order : SetOrder
  readUuid : String → Option UUID

/-- Text and case of ASCII, sets in their own order, and the canonical texts of small UUIDs. -/
def Runtime.ascii : Runtime where
  text := PyText.ascii
  order := ⟨id, fun elements => List.Perm.refl elements⟩
  readUuid id :=
    (List.range 16).findSome? fun number =>
      if UUID.text ⟨BitVec.ofNat 128 number⟩ = id then some ⟨BitVec.ofNat 128 number⟩ else none

/-- A required text field of a model. -/
def asText : Json → Except PyError String
  | .str value => .ok value
  | _ => .error .valueError

/-- An optional text field of a model. -/
def asText? : Json → Except PyError (Option String)
  | .null => .ok none
  | .str value => .ok (some value)
  | _ => .error .valueError

/-- An optional integer field of a model. -/
def asInt? : Json → Except PyError (Option Int)
  | .null => .ok none
  | .int value => .ok (some value)
  | _ => .error .valueError

/-- An integer field of a model, zero when there is no value. -/
def asIntOrZero (value : Json) : Except PyError Int :=
  if value.truthy then
    match value with
    | .int number => .ok number
    | _ => .error .valueError
  else .ok 0

/-- The identifier of a node, as the models want it. -/
def readId (runtime : Runtime) (node : Node) : Except PyError UUID :=
  match runtime.readUuid node.id with
  | some id => .ok id
  | none => .error .valueError

/-- The node of a kind a relationship of cardinality one leads to. -/
def peerNode (contents : Contents) (kind : Kind) (node : Node) (field : String) : Option Node :=
  (node.relations field).head?.bind fun id =>
    (contents.nodes kind).find? fun peer => peer.id = id

/-- Split a CIDR value into its address and prefix length. -/
def splitCidr (text : PyText) (raw : Json) : Except PyError (Option String × Option Int) :=
  if raw.truthy then do
    let shown ← text.str raw
    let address := String.ofList (partitionHead '/' shown.toList)
    let suffix := partitionTail '/' shown.toList
    let length ← if isdigit suffix then (intOfDigits suffix).map some else .ok none
    .ok (filled? (some address), length)
  else .ok (none, none)

/-- The address of an interface: the first IPv4 address, or the first address. -/
def selectInterfaceIp (candidates : List (String × Option Int)) : Option String × Option Int :=
  match candidates.find? fun candidate => ':' ∉ candidate.1.toList with
  | some (address, length) => (some address, length)
  | none =>
      match candidates with
      | (address, length) :: _ => (some address, length)
      | [] => (none, none)

/-- The statuses under which a node's configuration is enabled. -/
def enabledStatuses : List Json :=
  [.str "active", .str "provisioning", .str "maintenance", .str "outage"]

def statusEnabled (node : Node) : Bool :=
  node.attributes "status" = .null || node.attributes "status" ∈ enabledStatuses

/-- The model of a device node. -/
def nodeToDevice (runtime : Runtime) (node : Node) : Except PyError Device := do
  let management := node.attributes "management_ip"
  let shown ← runtime.text.str (if management.truthy then management else .str "")
  let id ← readId runtime node
  let name ← asText (node.attributes "name")
  let _ ← asText (node.attributes "role")
  let useCase ← asText (node.attributes "use_case")
  let _ ← asText? (node.attributes "description")
  let labNodeName ← asText? (node.attributes "lab_node_name")
  .ok {
    id := id
    name := name
    managementAddress := String.ofList (partitionHead '/' shown.toList)
    useCase := useCase
    labNodeName := labNodeName }

/-- The candidate addresses of an interface node. -/
def ipCandidates (text : PyText) (contents : Contents) :
    List String → Except PyError (List (String × Option Int))
  | [] => .ok []
  | id :: rest => do
      let peer := (contents.nodes .ipamIPAddress).find? fun node => node.id = id
      let split ← splitCidr text ((peer.map fun node => node.attributes "address").getD .null)
      let others ← ipCandidates text contents rest
      .ok (match split.1 with
        | some address => (address, split.2) :: others
        | none => others)

/-- The model of an interface node. -/
def nodeToInterface (runtime : Runtime) (contents : Contents) (node : Node) :
    Except PyError Interface := do
  let candidates ← ipCandidates runtime.text contents (node.relations "ip_addresses")
  let selected := selectInterfaceIp candidates
  let _ ← readId runtime node
  let name ← asText (node.attributes "name")
  let description ← asText? (node.attributes "description")
  let mtu ← asInt? (node.attributes "mtu")
  let _ ← asText? (node.attributes "peer_device")
  let _ ← asText? (node.attributes "peer_interface")
  .ok {
    name := name
    description := description
    ipAddress := selected.1
    prefixLength := selected.2
    enabled := statusEnabled node
    mtu := mtu }

/-- An attribute of the peer a relationship leads to, null if there is no peer. -/
def peerValue (contents : Contents) (kind : Kind) (node : Node) (field peerField : String) :
    Json :=
  ((peerNode contents kind node field).map fun peer => peer.attributes peerField).getD .null

/-- The model of a session node. -/
def nodeToBgpSession (runtime : Runtime) (contents : Contents) (node : Node) :
    Except PyError BGPSession := do
  let peer ← splitCidr runtime.text (peerValue contents .ipamIPAddress node "remote_ip" "address")
  let _ ← readId runtime node
  let localAsn ← asIntOrZero (peerValue contents .routingAutonomousSystem node "local_as" "asn")
  let peerAsn ← asIntOrZero (peerValue contents .routingAutonomousSystem node "remote_as" "asn")
  let peerGroup ← asText? (peerValue contents .routingBGPPeerGroup node "peer_group" "name")
  let _ ← asText? (node.attributes "export_policies")
  let _ ← asText? (node.attributes "import_policies")
  .ok {
    localAsn := localAsn
    peerAddress := peer.1.getD ""
    peerAsn := peerAsn
    peerGroup := peerGroup
    addressFamily := "ipv4_unicast"
    enabled := statusEnabled node }

/-- The device a child node is placed on, if it is one of those queried. -/
def deviceRef (deviceIds : List String) (node : Node) : Option String :=
  match deviceIds with
  | [only] => some only
  | _ => ((node.relations "device").head?).filter (· ∈ deviceIds)

/-- Group child nodes by the device they are placed on; refuse if some cannot be placed. -/
def groupByDevice (kind : Kind) (deviceIds : List String) (nodes : List Node) :
    Except IntentError (String → List Node) :=
  let unattributed := nodes.filter fun node => (deviceRef deviceIds node).isNone
  if unattributed.isEmpty then
    .ok fun id => nodes.filter fun node => deviceRef deviceIds node = some id
  else .error (.attribution kind (unattributed.map Node.id))

/-- The store: its client and its default branch. -/
structure InfrahubIntentStore where
  client : InfrahubClient
  defaultBranch : String

/-- What the desired state is asked for. -/
structure StateQuery where
  deviceId : Option UUID := none
  useCase : Option String := none
  role : Option String := none
  name : Option String := none

/-- The filters of a query. -/
def StateQuery.filters (query : StateQuery) : List Filter :=
  (query.deviceId.map fun id => Filter.ids [id.text]).toList ++
    (query.useCase.map fun value => Filter.value "use_case" (.str value)).toList ++
    (query.role.map fun value => Filter.value "role" (.str value)).toList ++
    (query.name.map fun value => Filter.value "name" (.str value)).toList

/-- The outcome of deleting a device. -/
structure DeleteResult where
  deviceId : UUID
  deviceName : String
  recordsRemoved : Nat
deriving DecidableEq

namespace InfrahubIntentStore

variable (store : InfrahubIntentStore) (runtime : Runtime)

/-- The branch an argument stands for. -/
def resolvedBranch (branch : Option String) : String :=
  (filled? branch).getD store.defaultBranch

/-- The desired states of device nodes with their children. -/
def assemble (contents : Contents) (interfaces sessions : String → List Node) :
    List Node → Except PyError (List DesiredState)
  | [] => .ok []
  | node :: rest => do
      let device ← nodeToDevice runtime node
      let interfaceModels ← (interfaces node.id).mapM (nodeToInterface runtime contents)
      let sessionModels ← (sessions node.id).mapM (nodeToBgpSession runtime contents)
      let others ← assemble contents interfaces sessions rest
      .ok (⟨device, interfaceModels, sessionModels⟩ :: others)

/-- The contents the peers of fetched nodes are resolved in: those of their branch. -/
def fetchPeers (branch : String) : SotProgram Contents :=
  Program.update fun sot => (sot branch, sot)

/-- The desired state of the devices that match a query. -/
def getDesiredState (query : StateQuery) (branch : Option String) :
    SotProgram (List DesiredState) := do
  let resolved := store.resolvedBranch branch
  let devices ← store.client.filters .dcimDevice query.filters (some resolved)
  if devices.isEmpty then pure []
  else do
    let ids := devices.map fun fetched => fetched.node.id
    let children := [Filter.peers "device" (ids.map Json.str)]
    let interfaceNodes ← store.client.filters .interfacePhysical children (some resolved)
    let sessionNodes ← store.client.filters .routingBGPSession children (some resolved)
    let interfaces ← Program.ofExcept
      (groupByDevice .interfacePhysical ids (interfaceNodes.map FetchedNode.node))
    let sessions ← Program.ofExcept
      (groupByDevice .routingBGPSession ids (sessionNodes.map FetchedNode.node))
    let contents ← fetchPeers resolved
    SeedIngester.compute
      (assemble runtime contents interfaces sessions (devices.map FetchedNode.node))

/-- Seed a dataset into a branch. -/
def seed (useCase : String) (dataset : Dataset) (branch : Option String) :
    SotProgram SeedResult :=
  SeedIngester.seed store.client runtime.text runtime.order useCase dataset
    (store.resolvedBranch branch)

/-- Delete a device. -/
def deleteDevice (deviceId : UUID) : SotProgram DeleteResult := do
  let nodes ← store.client.filters .dcimDevice [.ids [deviceId.text]] none
  match nodes with
  | [] => Program.raise (.notFound deviceId)
  | found :: _ =>
      let name := found.node.attributes "name"
      let interfaces := found.node.relations "interfaces"
      do
        let answer ← store.client.delete found
        match answer with
        | .error reason => Program.raise (.deletion name reason)
        | .ok _ => do
            let deviceName ← SeedIngester.compute (asText name)
            pure ⟨deviceId, deviceName, 1 + interfaces.length⟩

end InfrahubIntentStore

end Snapl.Intent
