import Snapl.Contract.Verification

/-!
# Addresses a clean diff hides

The adapter shows the diff one address of an interface, the first that is set.
An empty diff says that intent asked for every address of the device exactly
when no interface carries another one, and when every interface with an address
is named by intent or has a name the reverse pass can match.
-/

namespace Snapl.Contract

open Snapl.Library Snapl.Library.KeyedTree Snapl.Intent
open Snapl.Observability Snapl.Orchestrator

/-- The text of a prefix that has an address. -/
def IsPrefix (ipPrefix : String) : Prop :=
  partitionHead '/' ipPrefix.toList ≠ []

instance (ipPrefix : String) : Decidable (IsPrefix ipPrefix) :=
  inferInstanceAs (Decidable (_ ≠ _))

/-- An interface of the device the diff may report. -/
structure Unprotected (config : Json) (name : String) (entry : Json) : Prop where
  member : entry ∈ interfacesOf config
  named : entry.field "name" = .str name
  unprotected : name ∉ interfaceSpec.protectedKeys

/-- Intent gives the interface of this name the address of this prefix. -/
def Intended (desired : DesiredState) (name ipPrefix : String) : Prop :=
  ∃ iface ∈ desired.interfaces, iface.name = name ∧
    readPrefixText ipPrefix = .ok (iface.ipAddress, iface.prefixLength)

/-- Every address of every unprotected interface is the one intent gives it. -/
def AllIntended (desired : DesiredState) (config : Json) : Prop :=
  ∀ name entry, Unprotected config name entry →
    ∀ ipPrefix ∈ interfacePrefixes entry, IsPrefix ipPrefix → Intended desired name ipPrefix

/--
No unprotected interface has an address other than its first one, and one that
has an address is named by intent, or by a text the reverse pass matches.
-/
structure ShowsAddresses (desired : DesiredState) (config : Json) : Prop where
  first : ∀ name entry, Unprotected config name entry →
    ∀ ipPrefix ∈ interfacePrefixes entry, IsPrefix ipPrefix →
      readPrefixText ipPrefix = readPrefixes (interfacePrefixes entry)
  matched : ∀ name entry, Unprotected config name entry →
    (∃ ipPrefix ∈ interfacePrefixes entry, IsPrefix ipPrefix) →
      name ∈ desired.interfaces.map Interface.name ∨ (name ≠ "" ∧ '\n' ∉ name.toList)

theorem address_of_isPrefix
    {ipPrefix : String} {address : Option String × Option Int}
    (isPrefix : IsPrefix ipPrefix) (read : readPrefixText ipPrefix = .ok address) :
    address.1 ≠ none := by
  obtain ⟨number, -, equal⟩ := (bind_eq_ok _ _ _).1 read
  cases equal
  simp [if_neg isPrefix]

section Empty

variable {desired : DesiredState} {config : DeviceConfig} {actual : Dict String Json}
variable (made : ActualOf config.tree actual)
variable (empty : diffDesiredVsActual desired actual = [])

include made empty

/-- An interface intent names shows the address intent gives it. -/
theorem readPrefixes_of_intended
    {iface : Interface} (intended : iface ∈ desired.interfaces)
    {entry : Json} (member : entry ∈ interfacesOf config.tree)
    (named : entry.field "name" = .str iface.name) :
    readPrefixes (interfacePrefixes entry) = .ok (iface.ipAddress, iface.prefixLength) := by
  have forward := (forwardItems_eq_nil_iff desired actual).1 (List.append_eq_nil_iff.1 empty).1
  obtain ⟨address, read, found⟩ := made.interface entry member
  have agrees := forward.1 iface intended
  rw [named, textOf] at found
  rw [found] at agrees
  exact ((showsInterface_iff named read).1 agrees).address

/-- An interface the reverse pass matches, and intent does not name, shows no address. -/
theorem readPrefixes_of_matched
    {name : String} {entry : Json} (own : Unprotected config.tree name entry)
    (unintended : name ∉ desired.interfaces.map Interface.name)
    (nonempty : name ≠ "") (oneLine : '\n' ∉ name.toList)
    {address : Option String × Option Int}
    (read : readPrefixes (interfacePrefixes entry) = .ok address) : address.1 = none := by
  have reverse := (List.append_eq_nil_iff.1 (List.append_eq_nil_iff.1 empty).2).1
  obtain ⟨other, again, found⟩ := made.interface entry own.member
  cases read.symm.trans again
  rw [own.named, textOf] at found
  have key : interfaceSpec.path name ∈ actual.keys := (Dict.mem_keys_iff _ _).2 ⟨_, found⟩
  have silent : undesiredEntity interfaceSpec actual (desired.interfaces.map Interface.name)
      (interfaceSpec.path name) = [] := by
    rw [undesiredEntities, List.flatMap_eq_nil_iff] at reverse
    exact reverse _ (List.mem_mergeSort.2 key)
  rw [undesiredEntity, key?_path_eq, if_pos ⟨nonempty, oneLine⟩] at silent
  simp only [own.unprotected, unintended, or_self, if_false, found, Option.getD_some] at silent
  have unset := List.filterMap_eq_nil_iff.1 silent "ip_address" (by decide)
  rw [undesiredField] at unset
  split_ifs at unset with absent default
  · rcases address with ⟨_ | text, length⟩
    · rfl
    · cases absent
  · have default : Json.pyEq (.ofString? address.1) .null = true := default
    rcases address with ⟨_ | text, length⟩
    · rfl
    · simp [Json.ofString?] at default

end Empty

/-- An empty diff says that every address is intended exactly when the diff sees them. -/
theorem no_hidden_address_iff
    {text : PyText} {desired : DesiredState} {config : DeviceConfig}
    {data actual : Dict String Json} (reports : Reports data config.tree)
    (normalized : normalizeSrlinuxState text data = .ok actual)
    (empty : diffDesiredVsActual desired actual = []) :
    AllIntended desired config.tree ↔ ShowsAddresses desired config.tree := by
  have made := actualOf_of_normalize text config.conforming config.distinct reports normalized
  constructor
  · intro intended
    constructor
    · intro name entry own ipPrefix member isPrefix
      obtain ⟨iface, ifaceMember, same, read⟩ :=
        intended name entry own ipPrefix member isPrefix
      rw [read]
      exact (readPrefixes_of_intended made empty ifaceMember own.member
        (by rw [own.named, same])).symm
    · rintro name entry own ⟨ipPrefix, member, isPrefix⟩
      obtain ⟨iface, ifaceMember, rfl, -⟩ := intended name entry own ipPrefix member isPrefix
      exact Or.inl (List.mem_map_of_mem ifaceMember)
  · intro shows name entry own ipPrefix member isPrefix
    have first := shows.first name entry own ipPrefix member isPrefix
    by_cases named : name ∈ desired.interfaces.map Interface.name
    · obtain ⟨iface, ifaceMember, same⟩ := List.mem_map.1 named
      refine ⟨iface, ifaceMember, same, ?_⟩
      rw [first]
      exact readPrefixes_of_intended made empty ifaceMember own.member (by rw [own.named, same])
    · obtain ⟨nonempty, oneLine⟩ :=
        (shows.matched name entry own ⟨ipPrefix, member, isPrefix⟩).resolve_left named
      obtain ⟨address, read, -⟩ := made.interface entry own.member
      have unset := readPrefixes_of_matched made empty own named nonempty oneLine read
      exact absurd unset (address_of_isPrefix isPrefix (first.trans read))

/-- The diff is empty when a device shows the intent, and nothing it does not name. -/
theorem diff_eq_nil_of_shows
    {text : PyText} {desired : DesiredState} {config : DeviceConfig}
    {data actual : Dict String Json} (reports : Reports data config.tree)
    (normalized : normalizeSrlinuxState text data = .ok actual)
    (shows : Shows config.tree desired)
    (interfaces : ∀ entry ∈ interfacesOf config.tree,
      textOf (entry.field "name") ∈ desired.interfaces.map Interface.name)
    (neighbors : ∀ entry ∈ neighborsOf config.tree,
      textOf (entry.field "peer-address") ∈ desired.bgpSessions.map BGPSession.peerAddress) :
    diffDesiredVsActual desired actual = [] := by
  have made := actualOf_of_normalize text config.conforming config.distinct reports normalized
  have forward := (all_undesired_iff desired actual).1
    ((undesired_iff_shows reports normalized).2 shows)
  have paths : ∀ path ∈ actual.keys,
      (∃ name ∈ desired.interfaces.map Interface.name, path = interfaceSpec.path name) ∨
        ∃ peer ∈ desired.bgpSessions.map BGPSession.peerAddress,
          path = bgpSessionSpec.path peer := by
    intro path key
    rw [made.keys, List.mem_append] at key
    rcases key with key | key
    · obtain ⟨entry, member, rfl⟩ := List.mem_map.1 key
      exact Or.inl ⟨_, interfaces entry member, rfl⟩
    · obtain ⟨entry, member, rfl⟩ := List.mem_map.1 key
      exact Or.inr ⟨_, neighbors entry member, rfl⟩
  rw [diffDesiredVsActual, forward, List.nil_append, undesiredItems_eq_nil paths]

/-- An interface with an address. -/
def addressedState : DesiredState where
  device := sampleDevice
  interfaces := [⟨"ethernet-1/1", none, some "10.0.0.1", some 31, true, none⟩]
  bgpSessions := []

/-- A device whose one interface has these prefixes, in order. -/
def prefixedTree (prefixes : List String) : Json :=
  .obj
    [("interface", .arr
      [.obj
        [("name", .str "ethernet-1/1"), ("admin-state", .str "enable"),
          ("subinterface", .arr
            [.obj
              [("index", .int 0), ("ipv4", .obj [("address", .arr
                (prefixes.map fun ipPrefix => .obj [("ip-prefix", .str ipPrefix)]))])]])]])]

/-- The device as intended, and with an address added by hand. -/
def plainDevice : DeviceConfig := ⟨prefixedTree ["10.0.0.1/31"], by decide +kernel⟩

def handEditedDevice : DeviceConfig :=
  ⟨prefixedTree ["10.0.0.1/31", "192.0.2.1/24"], by decide +kernel⟩

theorem prefixedTree_diffs_clean
    (config : DeviceConfig) {rest : List String}
    (tree : config.tree = prefixedTree ("10.0.0.1/31" :: rest)) :
    ∃ actual, normalizeSrlinuxState PyText.ascii (qualifiedReport config.tree) = .ok actual ∧
      diffDesiredVsActual addressedState actual = [] := by
  have reports := reports_qualifiedReport config.tree
  have read : ∀ entry ∈ interfacesOf config.tree,
      readPrefixes (interfacePrefixes entry) = .ok (some "10.0.0.1", some 31) := by
    rw [tree]
    intro entry member
    rw [List.mem_singleton.1 member]
    rfl
  obtain ⟨actual, normalized⟩ := (normalize_succeeds_iff PyText.ascii config.conforming
    reports).2 fun entry member => ⟨_, read entry member⟩
  refine ⟨actual, normalized, diff_eq_nil_of_shows reports normalized ⟨?_, nofun⟩ ?_ ?_⟩
  · intro iface member
    rw [List.mem_singleton.1 member]
    have only : ∃ entry, interfacesOf config.tree = [entry] ∧
        entry.field "name" = .str "ethernet-1/1" ∧ entry.field "description" = .null ∧
        entry.field "admin-state" = .str "enable" := by
      rw [tree]
      exact ⟨_, rfl, rfl, rfl, rfl⟩
    obtain ⟨entry, interfaces, named, described, state⟩ := only
    have present : entry ∈ interfacesOf config.tree := by
      rw [interfaces]
      exact List.mem_singleton_self _
    refine ⟨entry, present, named, described, ?_, nofun, read entry present⟩
    exact ⟨fun _ => rfl, fun _ => state⟩
  · rw [tree]
    intro entry member
    rw [List.mem_singleton.1 member]
    exact List.mem_singleton_self _
  · rw [tree]
    intro entry member
    cases member

theorem plainDevice_shows : ShowsAddresses addressedState plainDevice.tree where
  first := by
    intro name entry own ipPrefix member _
    rw [List.mem_singleton.1 own.member] at member ⊢
    rw [List.mem_singleton.1 member]
    rfl
  matched := by
    intro name entry own _
    have named := own.named
    rw [List.mem_singleton.1 own.member] at named
    cases named
    exact Or.inl (by decide)

/-- Without a further address, an empty diff hides none. -/
theorem plainDevice_hides_nothing :
    ∃ actual, normalizeSrlinuxState PyText.ascii (qualifiedReport plainDevice.tree) =
        .ok actual ∧ diffDesiredVsActual addressedState actual = [] ∧
      AllIntended addressedState plainDevice.tree := by
  obtain ⟨actual, normalized, empty⟩ := prefixedTree_diffs_clean plainDevice rfl
  exact ⟨actual, normalized, empty,
    (no_hidden_address_iff (reports_qualifiedReport _) normalized empty).2 plainDevice_shows⟩

/-- A further address, added by hand, is hidden. -/
theorem handEditedDevice_hides_address :
    ∃ actual, normalizeSrlinuxState PyText.ascii (qualifiedReport handEditedDevice.tree) =
        .ok actual ∧ diffDesiredVsActual addressedState actual = [] ∧
      ¬ AllIntended addressedState handEditedDevice.tree := by
  obtain ⟨actual, normalized, empty⟩ := prefixedTree_diffs_clean handEditedDevice rfl
  refine ⟨actual, normalized, empty, fun intended => ?_⟩
  obtain ⟨iface, member, -, read⟩ := intended "ethernet-1/1" _
    ⟨List.mem_singleton_self _, rfl, by decide⟩ "192.0.2.1/24"
    (List.mem_cons_of_mem _ List.mem_cons_self) (by decide)
  rw [List.mem_singleton.1 member] at read
  exact absurd read (by decide)

end Snapl.Contract
