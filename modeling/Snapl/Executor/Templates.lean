import Snapl.Intent.Models
import Snapl.Library.JsonLayout

/-!
# The SR Linux templates

The text the two templates of the fabric use case produce.  A loop of a
template writes a line break before and after each of its items, so the white
space before an item is the line break after its predecessor, the line break
before it, and its indentation.

Numbers are written by `str`, which refuses more than 4300 digits.
-/

namespace Snapl.Executor

open Snapl.Library Snapl.Library.JsonText Snapl.Intent

/-- The administrative state of an entity. -/
def adminState (enabled : Bool) : String :=
  if enabled then "enable" else "disable"

/-- The `unique` filter: the first of the items that agree ignoring case. -/
def uniqueFrom (text : PyText) (seen : List String) :
    List String → List String
  | [] => []
  | item :: rest =>
      if text.lower item ∈ seen then uniqueFrom text seen rest
      else item :: uniqueFrom text (text.lower item :: seen) rest

/-- The `unique` filter. -/
def unique (text : PyText) (items : List String) : List String :=
  uniqueFrom text [] items

/-- The `replace('_', '-')` filter. -/
def hyphenated (value : String) : List Char :=
  value.toList.map fun char => if char = '_' then '-' else char

/-- The `"mtu"` member, absent without an mtu in intent. -/
def mtuMember (iface : Interface) : Except PyError (List Member) :=
  match iface.mtu with
  | none => .ok []
  | some mtu => do
      let digits ← strOfInt mtu
      return [⟨"\n    ".toList, "mtu", digits⟩]

/-- The `"description"` member, absent without a description. -/
def descriptionMember (iface : Interface) : List Member :=
  match filled? iface.description with
  | none => []
  | some description =>
      [⟨"\n    ".toList, "description", tojson description.toList⟩]

/-- The text of a prefix length. -/
def prefixLengthText (iface : Interface) : Except PyError (List Char) :=
  match iface.prefixLength with
  | none => .ok "None".toList
  | some length => strOfInt length

/-- The value of the `"subinterface"` member for one address. -/
def subinterfaceText (ipPrefix : List Char) : List Char :=
  let address := listText "\n            ".toList "\n          ".toList
    [dictionaryText "\n            ".toList
      [⟨"\n              ".toList, "ip-prefix", quoted ipPrefix⟩]]
  let ipv4 := dictionaryText "\n        ".toList
    [⟨"\n          ".toList, "admin-state", quoted "enable".toList⟩,
      ⟨"\n          ".toList, "address", address⟩]
  listText "\n      ".toList "\n    ".toList
    [dictionaryText "\n      ".toList
      [⟨"\n        ".toList, "index", ['0']⟩,
        ⟨"\n        ".toList, "admin-state", quoted "enable".toList⟩,
        ⟨"\n        ".toList, "ipv4", ipv4⟩]]

/-- The `"subinterface"` member, absent without an address. -/
def subinterfaceMember (iface : Interface) : Except PyError (List Member) :=
  match filled? iface.ipAddress with
  | none => .ok []
  | some address => do
      let length ← prefixLengthText iface
      return [⟨"\n    ".toList, "subinterface",
        subinterfaceText (address.toList ++ '/' :: length)⟩]

/-- One interface. -/
def interfaceText (iface : Interface) : Except PyError (List Char) := do
  let mtu ← mtuMember iface
  let subinterface ← subinterfaceMember iface
  return dictionaryText "\n  ".toList
    ([⟨"\n    ".toList, "name", quoted iface.name.toList⟩,
      ⟨"\n    ".toList, "admin-state",
        quoted (adminState iface.enabled).toList⟩] ++
      mtu ++ descriptionMember iface ++ subinterface)

/-- The text of `interfaces.j2`. -/
def interfacesText (interfaces : List Interface) : Except PyError (List Char) := do
  let items ← interfaces.mapM interfaceText
  return listText "\n\n  ".toList "\n\n".toList items

example :
    (interfacesText [⟨"e1", some "a<b", none, none, false, none⟩]).map
        String.ofList =
      .ok "[

  \x7b
    \"name\": \"e1\",
    \"admin-state\": \"disable\",
    \"description\": \"a\\u003cb\"
  \x7d

]" := by
  decide +kernel

/-- A named entry of the `"afi-safi"` and `"group"` lists. -/
def namedText (key : String) (name : List Char) : List Char :=
  dictionaryText "\n    ".toList
    [⟨"\n      ".toList, key, quoted name⟩,
      ⟨"\n      ".toList, "admin-state", quoted "enable".toList⟩]

/-- One neighbour. -/
def neighborText (session : BGPSession) : Except PyError (List Char) := do
  let peerAs ← strOfInt session.peerAsn
  let peerGroup : List Member :=
    match filled? session.peerGroup with
    | none => []
    | some group => [⟨"\n      ".toList, "peer-group", quoted group.toList⟩]
  return dictionaryText "\n\n    ".toList
    ([⟨"\n      ".toList, "peer-address", quoted session.peerAddress.toList⟩,
      ⟨"\n      ".toList, "peer-as", peerAs⟩,
      ⟨"\n      ".toList, "admin-state",
        quoted (adminState session.enabled).toList⟩] ++ peerGroup)

/-- The peer groups of the sessions, each once. -/
def groupNames (text : PyText) (sessions : List BGPSession) : List String :=
  unique text (sessions.filterMap fun session => filled? session.peerGroup)

/-- The `"group"` member, absent without a peer group. -/
def groupMember (text : PyText) (sessions : List BGPSession) : List Member :=
  match groupNames text sessions with
  | [] => []
  | groups =>
      [⟨"\n\n\n  ".toList, "group",
        listText "\n\n    ".toList "\n\n  ".toList
          (groups.map fun group => namedText "group-name" group.toList)⟩]

/-- The autonomous system: the first session's, or zero. -/
def autonomousSystem (sessions : List BGPSession) : Int :=
  match sessions with
  | [] => 0
  | first :: _ => first.localAsn

/-- The text of `bgp.j2`. -/
def bgpText (text : PyText) (routerId : String) (sessions : List BGPSession) :
    Except PyError (List Char) := do
  let asn ← strOfInt (autonomousSystem sessions)
  let families := unique text (sessions.map BGPSession.addressFamily)
  let neighbors ← sessions.mapM neighborText
  -- The `set` and `if` lines leave their line breaks before the next member.
  let beforeNeighbor :=
    if groupNames text sessions = [] then "\n\n\n  " else "\n\n  "
  return dictionaryText "\n".toList
    ([⟨"\n  ".toList, "admin-state", quoted "enable".toList⟩,
      ⟨"\n  ".toList, "autonomous-system", asn⟩,
      ⟨"\n  ".toList, "router-id", quoted routerId.toList⟩,
      ⟨"\n  ".toList, "afi-safi",
        listText "\n\n    ".toList "\n\n  ".toList
          (families.map fun family =>
            namedText "afi-safi-name" (hyphenated family))⟩] ++
      groupMember text sessions ++
      [⟨beforeNeighbor.toList, "neighbor",
        listText "\n\n    ".toList "\n\n  ".toList neighbors⟩])

end Snapl.Executor
