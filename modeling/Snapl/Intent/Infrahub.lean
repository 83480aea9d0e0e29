import Mathlib.Logic.Function.Basic
import Snapl.Intent.Models
import Snapl.Library.Program
import Snapl.Library.PythonText

/-!
# The Source of Truth and its client

Infrahub keeps the nodes of every kind on branches.  A client asks for the
nodes of a kind that match all of some filters, creates nodes, and saves or
deletes nodes it has fetched.  It acts on its default branch unless it is told
another one; a fetched node stays with the branch it was fetched from.

Only the kinds the intent store and the seed use are kept, with the fields the
packaged schemas give them.
-/

namespace Snapl.Intent

open Snapl.Library

/-- The kinds of node. -/
inductive Kind where
  | organizationProvider
  | organizationManufacturer
  | dcimPlatform
  | locationSite
  | dcimDeviceType
  | routingAutonomousSystem
  | ipamVRF
  | ipamPrefix
  | ipamIPAddress
  | ipamNamespace
  | dcimDevice
  | interfacePhysical
  | routingBGPPeerGroup
  | routingBGPSession
deriving DecidableEq

/-- Every kind. -/
def Kind.all : List Kind :=
  [.organizationProvider, .organizationManufacturer, .dcimPlatform, .locationSite,
    .dcimDeviceType, .routingAutonomousSystem, .ipamVRF, .ipamPrefix, .ipamIPAddress,
    .ipamNamespace, .dcimDevice, .interfacePhysical, .routingBGPPeerGroup,
    .routingBGPSession]

theorem Kind.mem_all (kind : Kind) : kind ∈ Kind.all := by
  cases kind <;> decide

/-- The fields of a kind that hold a value. -/
def Kind.attributes : Kind → List String
  | .organizationProvider => ["name", "description"]
  | .organizationManufacturer => ["name", "description"]
  | .dcimPlatform =>
      ["name", "description", "nornir_platform", "napalm_driver", "netmiko_device_type",
        "ansible_network_os", "containerlab_os"]
  | .locationSite => ["name", "shortname", "description"]
  | .dcimDeviceType =>
      ["name", "description", "part_number", "height", "full_depth", "weight"]
  | .routingAutonomousSystem => ["name", "asn", "description"]
  | .ipamVRF => ["name", "vrf_rd", "description"]
  | .ipamPrefix => ["prefix", "description", "member_type", "is_pool", "status", "role"]
  | .ipamIPAddress => ["address", "description", "fqdn"]
  | .ipamNamespace => ["name", "description", "default"]
  | .dcimDevice =>
      ["name", "description", "os_version", "position", "serial", "rack_face", "status",
        "role", "management_ip", "lab_node_name", "use_case"]
  | .interfacePhysical =>
      ["name", "description", "mtu", "status", "role", "l2_mode", "dot1q_id",
        "mac_address", "peer_device", "peer_interface"]
  | .routingBGPPeerGroup =>
      ["description", "status", "name", "import_policies", "export_policies",
        "maximum_routes", "local_pref", "send_community", "address_family"]
  | .routingBGPSession =>
      ["description", "status", "import_policies", "export_policies", "session_type",
        "role", "local_pref"]

/-- The fields of a kind that lead to other nodes. -/
def Kind.relationships : Kind → List String
  | .organizationProvider => ["tags", "asn"]
  | .organizationManufacturer => ["tags", "asn", "device_type", "platform"]
  | .dcimPlatform => ["devices", "manufacturer"]
  | .locationSite => ["tags", "prefixes", "devices", "parent", "children"]
  | .dcimDeviceType => ["platform", "manufacturer", "tags"]
  | .routingAutonomousSystem => ["organization", "location", "devices"]
  | .ipamVRF => ["namespace", "import_rt", "export_rt"]
  | .ipamPrefix => ["ip_namespace", "organization", "location", "gateway", "vrf"]
  | .ipamIPAddress => ["ip_namespace", "interface", "vrf"]
  | .ipamNamespace => []
  | .dcimDevice =>
      ["interfaces", "tags", "primary_address", "platform", "device_type", "location",
        "asn"]
  | .interfacePhysical => ["device", "tags", "ip_addresses", "connector", "sub_interfaces"]
  | .routingBGPPeerGroup => ["device", "vrf", "local_as", "remote_as"]
  | .routingBGPSession =>
      ["device", "vrf", "local_as", "remote_as", "local_ip", "remote_ip", "peer_group",
        "peer_session"]

/-- The value a field has when a node is created without it. -/
def Kind.defaultValue (kind : Kind) (field : String) : Json :=
  match kind, field with
  | .dcimDeviceType, "height" => .int 1
  | .dcimDeviceType, "full_depth" => .bool true
  | .dcimDevice, "rack_face" => .str "front"
  | .interfacePhysical, "status" => .str "active"
  | .routingBGPPeerGroup, "address_family" => .str "ipv4"
  | _, _ => .null

/-- The data of a record: field names and values, each name once. -/
abbrev Payload := Dict String Json

/-- A node: the values of its attributes and the identifiers its relationships lead to. -/
structure Node where
  id : String
  attributes : String → Json
  relations : String → List String

/-- The identifiers a relationship's value in a record stands for. -/
def peerIds : Json → List String
  | .str id => [id]
  | .arr items => items.filterMap fun item =>
      match item with
      | .str id => some id
      | _ => none
  | _ => []

/-- Assign a value to a field of a node; a field that is no attribute is passed over. -/
def Node.assignValue (kind : Kind) (node : Node) (field : String) (value : Json) : Node :=
  if field ∈ kind.attributes then
    { node with attributes := Function.update node.attributes field value }
  else node

/-- Assign the values of a record to a node, field by field. -/
def Node.assignValues (kind : Kind) (node : Node) (payload : Payload) : Node :=
  payload.entries.foldl (fun current entry => current.assignValue kind entry.1 entry.2) node

/-- The node made from a record under an identifier. -/
def Node.ofPayload (kind : Kind) (payload : Payload) (id : String) : Node where
  id := id
  attributes field :=
    if field ∈ kind.attributes then (payload.get? field).getD (kind.defaultValue field)
    else .null
  relations field :=
    if field ∈ kind.relationships then ((payload.get? field).map peerIds).getD [] else []

/-- A filter on the value of an attribute, on the peers of a relationship, or on identifiers. -/
inductive Filter where
  | value (field : String) (value : Json)
  | peers (field : String) (ids : List Json)
  | ids (ids : List String)

/-- The node passes the filter. -/
def Filter.passes (node : Node) : Filter → Bool
  | .value field expected => node.attributes field = expected
  | .peers field expected =>
      expected.any fun id => (node.relations field).any fun peer => id = .str peer
  | .ids expected => node.id ∈ expected

/-- The contents of one branch: the nodes of each kind, each identifier once. -/
structure Contents where
  nodes : Kind → List Node
  distinct : ∀ kind, ((nodes kind).map Node.id).Nodup

namespace Contents

@[ext]
theorem ext {left right : Contents} (equal : ∀ kind, left.nodes kind = right.nodes kind) :
    left = right := by
  cases left
  cases right
  rw [Contents.mk.injEq]
  funext kind
  exact equal kind

/-- A branch without nodes. -/
def empty : Contents where
  nodes _ := []
  distinct _ := List.nodup_nil

/-- The nodes of a kind that pass every filter. -/
def matching (contents : Contents) (kind : Kind) (filters : List Filter) : List Node :=
  (contents.nodes kind).filter fun node => filters.all fun filter => filter.passes node

/-- Every identifier the branch mentions. -/
def mentioned (contents : Contents) : List String :=
  Kind.all.flatMap fun kind => (contents.nodes kind).flatMap fun node =>
    node.id :: kind.relationships.flatMap node.relations

theorem id_mem_mentioned
    {contents : Contents} {kind : Kind} {node : Node} (member : node ∈ contents.nodes kind) :
    node.id ∈ contents.mentioned := by
  apply List.mem_flatMap.2
  refine ⟨kind, kind.mem_all, ?_⟩
  apply List.mem_flatMap.2
  exact ⟨node, member, List.mem_cons_self⟩

/-- Add a node under an identifier the branch does not mention. -/
def insert (contents : Contents) (kind : Kind) (node : Node)
    (fresh : node.id ∉ contents.mentioned) : Contents where
  nodes := Function.update contents.nodes kind (contents.nodes kind ++ [node])
  distinct other := by
    by_cases same : other = kind
    · subst same
      rw [Function.update_self, List.map_append, List.map_singleton,
        List.nodup_append]
      refine ⟨contents.distinct other, List.nodup_singleton _, ?_⟩
      intro id member new newMember same
      obtain ⟨present, presentMember, rfl⟩ := List.mem_map.1 member
      rw [List.mem_singleton.1 newMember] at same
      rw [← same] at fresh
      exact fresh (id_mem_mentioned presentMember)
    · rw [Function.update_of_ne same]
      exact contents.distinct other

/-- Put a node in the place of the one with its identifier. -/
def put (contents : Contents) (kind : Kind) (node : Node) : Contents where
  nodes := Function.update contents.nodes kind
    ((contents.nodes kind).map fun present => if present.id = node.id then node else present)
  distinct other := by
    by_cases same : other = kind
    · subst same
      rw [Function.update_self, List.map_map]
      have ids : (Node.id ∘ fun present => if present.id = node.id then node else present) =
          Node.id := by
        funext present
        rw [Function.comp_apply]
        split_ifs with equal
        · exact equal.symm
        · rfl
      rw [ids]
      exact contents.distinct other
    · rw [Function.update_of_ne same]
      exact contents.distinct other

end Contents

/-- The Source of Truth: the contents of each branch, by its name. -/
abbrev Sot := String → Contents

/-- What an `IntentValidationError` of the seed is about. -/
inductive ValidationProblem where
  | missingFields (device : Json) (missing : List String)
  | noDefaultNamespace
  | noDefaultVrf
  | unresolved (field : String) (value : Json) (kind peerKind : Kind) (lookupAttr : String)
  | shadowDevice (device : Json)
  | sessionDevice (device : Json)
  | sessionAs (field : String) (value : Json)
deriving DecidableEq

/-- The field a validation error names. -/
def ValidationProblem.field? : ValidationProblem → Option String
  | .missingFields _ missing => missing.head?
  | .noDefaultNamespace => none
  | .noDefaultVrf => none
  | .unresolved field _ _ _ _ => some field
  | .shadowDevice _ => some "local_device"
  | .sessionDevice _ => some "local_device"
  | .sessionAs field _ => some field

/-- An exception of an intent store operation. -/
inductive IntentError where
  | validation (problem : ValidationProblem)
  | notFound (device : UUID)
  | deletion (device : Json) (reason : String)
  | attribution (kind : Kind) (nodes : List String)
  | python (error : PyError)
deriving DecidableEq

/-- A program that works on the Source of Truth. -/
abbrev SotProgram (Result : Type) := Program Sot IntentError Result

/--
A client: its default branch, how the server names new nodes, and what the
server makes of a branch when a node is deleted from it, unless it refuses.
-/
structure InfrahubClient where
  defaultBranch : String
  newId : List String → String
  newId_fresh : ∀ taken, newId taken ∉ taken
  deletion : Contents → Kind → Node → Except String Contents

/-- A node with the branch it was fetched from. -/
structure FetchedNode where
  branch : String
  kind : Kind
  node : Node

/-- Save a fetched node on the branch it was fetched from. -/
def FetchedNode.save (fetched : FetchedNode) : SotProgram Unit :=
  Program.update fun sot =>
    ((), Function.update sot fetched.branch
      ((sot fetched.branch).put fetched.kind fetched.node))

/-- A node that has not been saved yet. -/
structure Draft where
  branch : String
  kind : Kind
  data : Payload

namespace InfrahubClient

variable (client : InfrahubClient)

/-- The branch a call acts on. -/
def resolve (branch : Option String) : String := branch.getD client.defaultBranch

/-- The nodes of a kind that pass the filters. -/
def filters (kind : Kind) (matching : List Filter) (branch : Option String) :
    SotProgram (List FetchedNode) :=
  Program.update fun sot =>
    (((sot (client.resolve branch)).matching kind matching).map fun node =>
      ⟨client.resolve branch, kind, node⟩, sot)

/-- A new node of a kind with the given data. -/
def create (kind : Kind) (data : Payload) (branch : Option String) : Draft :=
  ⟨client.resolve branch, kind, data⟩

/-- Save a new node on its branch. -/
def saveNew (draft : Draft) : SotProgram FetchedNode :=
  Program.update fun sot =>
    let contents := sot draft.branch
    let node := Node.ofPayload draft.kind draft.data (client.newId contents.mentioned)
    (⟨draft.branch, draft.kind, node⟩,
      Function.update sot draft.branch
        (contents.insert draft.kind node (client.newId_fresh contents.mentioned)))

/-- Delete a fetched node from the branch it was fetched from, unless the server refuses. -/
def delete (fetched : FetchedNode) : SotProgram (Except String Unit) :=
  Program.update fun sot =>
    match client.deletion (sot fetched.branch) fetched.kind fetched.node with
    | .ok contents => (.ok (), Function.update sot fetched.branch contents)
    | .error reason => (.error reason, sot)

end InfrahubClient

end Snapl.Intent
