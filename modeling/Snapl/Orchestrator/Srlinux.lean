import Snapl.Library.Fallible
import Snapl.Library.PythonText

/-!
# The SR Linux adapter

Raw device state, keyed by the requested paths and nested under YANG names
that may carry a module prefix, is flattened to one entry of snake-case fields
per interface and neighbour.

The reading of an interface's address is separated into the list of prefixes
it carries and the reading of the first of them that is set.
-/

namespace Snapl.Orchestrator

open Snapl.Library

/-- The path of the BGP container. -/
def bgpPath : String := "/network-instance[name=default]/protocols/bgp"

/-- A key without its module prefix. -/
def localName (key : String) : String :=
  if ':' ∈ key.toList then String.ofList (partitionTail ':' key.toList) else key

/-- The value of the first key with a local name. -/
def getLocal (container : Json) (name : String) (default : Json) : Json :=
  match container with
  | .obj fields =>
      match fields.find? fun field => localName field.1 = name with
      | some field => field.2
      | none => default
  | _ => default

theorem getLocal_cons
    {key name : String} (named : localName key = name) (value default : Json)
    (rest : List (String × Json)) :
    getLocal (.obj ((key, value) :: rest)) name default = value := by
  simp [getLocal, named]

theorem getLocal_append
    (before after : List (String × Json)) (name : String) (default : Json) :
    getLocal (.obj (before ++ after)) name default =
      getLocal (.obj before) name (getLocal (.obj after) name default) := by
  rw [getLocal, List.find?_append, getLocal, getLocal]
  rcases found : before.find? fun field => localName field.1 = name with _ | field
  · rw [found, Option.none_or]
  · rw [found, Option.some_or]

/-- A container has a value of the name, or leaves every default. -/
theorem getLocal_cases (container : Json) (name : String) :
    (∃ value, ∀ default, getLocal container name default = value) ∨
      ∀ default, getLocal container name default = default := by
  cases container with
  | obj fields =>
      rcases found : fields.find? fun field => localName field.1 = name with _ | field
      · exact Or.inr fun default => by rw [getLocal, found]
      · exact Or.inl ⟨field.2, fun default => by rw [getLocal, found]⟩
  | _ => exact Or.inr fun _ => rfl

/-- `value or []`. -/
def orEmpty (value : Json) : Json :=
  if value.truthy then value else .arr []

/-- What a loop over a value visits. -/
def iterate : Json → Except PyError (List Json)
  | .arr items => .ok items
  | .str value => .ok (value.toList.map fun char => .str (String.singleton char))
  | .obj fields => .ok (fields.map fun field => .str field.1)
  | _ => .error .typeError

/-- The entries of a list that may be absent. -/
def entries (container : Json) (name : String) : Except PyError (List Json) :=
  iterate (orEmpty (getLocal container name (.arr [])))

/-- Whether an administrative state is `enable`. -/
def isEnabled (node : Json) : Bool :=
  Json.pyEq (getLocal node "admin-state" .null) (.str "enable")

/-- `int(length) if length.isdigit() else None`. -/
def readLength (length : List Char) : Except PyError (Option Int) :=
  if isdigit length then (intOfDigits length).map some else .ok none

/-- The address and the prefix length a prefix stands for. -/
def readPrefix (text : PyText) (ipPrefix : Json) :
    Except PyError (Option String × Option Int) := do
  let shown ← text.str ipPrefix
  let address := partitionHead '/' shown.toList
  let number ← readLength (partitionTail '/' shown.toList)
  return (if address = [] then none else some (String.ofList address), number)

/-- The first address of a subinterface that carries a prefix. -/
def firstAddress (text : PyText) :
    List Json → Except PyError (Option (Option String × Option Int))
  | [] => .ok none
  | address :: rest =>
      if (getLocal address "ip-prefix" .null).truthy then
        (readPrefix text (getLocal address "ip-prefix" .null)).map some
      else firstAddress text rest

/-- The first address of the subinterfaces, in order. -/
def firstOfSubinterfaces (text : PyText) :
    List Json → Except PyError (Option String × Option Int)
  | [] => .ok (none, none)
  | subinterface :: rest => do
      let addresses ← entries (getLocal subinterface "ipv4" .null) "address"
      match ← firstAddress text addresses with
      | some found => return found
      | none => firstOfSubinterfaces text rest

/-- The first configured address of an interface. -/
def interfaceIp (text : PyText) (iface : Json) :
    Except PyError (Option String × Option Int) := do
  let subinterfaces ← entries iface "subinterface"
  firstOfSubinterfaces text subinterfaces

/-- The flat fields of an interface. -/
def normalizeInterface (text : PyText) (iface : Json) : Except PyError Json := do
  let address ← interfaceIp text iface
  return .obj
    [("description", getLocal iface "description" .null),
      ("ip_address", .ofString? address.1),
      ("prefix_length", .ofInt? address.2),
      ("enabled", .bool (isEnabled iface)),
      ("mtu", getLocal iface "mtu" .null)]

/-- The flat fields of a neighbour. -/
def normalizeNeighbor (neighbor : Json) : Json :=
  .obj
    [("peer_address", getLocal neighbor "peer-address" .null),
      ("peer_asn", getLocal neighbor "peer-as" .null),
      ("peer_group", getLocal neighbor "peer-group" .null),
      ("enabled", .bool (isEnabled neighbor))]

/-- The output entry of an interface, if it has a name. -/
def interfaceOutput? (text : PyText) (iface : Json) :
    Except PyError (Option (String × Json)) :=
  match getLocal iface "name" .null with
  | .null => .ok none
  | name => do
      let entry ← normalizeInterface text iface
      let shown ← text.str name
      return some ("/interface[name=" ++ shown ++ "]", entry)

/-- The output entry of a neighbour, if it has an address. -/
def neighborOutput? (text : PyText) (neighbor : Json) :
    Except PyError (Option (String × Json)) :=
  match getLocal neighbor "peer-address" .null with
  | .null => .ok none
  | peer => do
      let shown ← text.str peer
      return some (bgpPath ++ "/neighbor[peer-address=" ++ shown ++ "]",
        normalizeNeighbor neighbor)

/-- Translate collector output into flat entries keyed by path. -/
def normalizeSrlinuxState (text : PyText) (data : Dict String Json) :
    Except PyError (Dict String Json) := do
  let interfaces ← entries ((data.get? "/interface").getD .null) "interface"
  let interfaceOutputs ← interfaces.mapM (interfaceOutput? text)
  let neighbors ← entries ((data.get? bgpPath).getD .null) "neighbor"
  let neighborOutputs ← neighbors.mapM (neighborOutput? text)
  return (Dict.empty.update (interfaceOutputs.filterMap id)).update
    (neighborOutputs.filterMap id)

end Snapl.Orchestrator
