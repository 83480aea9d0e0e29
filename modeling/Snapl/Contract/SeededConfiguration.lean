import Snapl.Contract.PayloadReapplied
import Snapl.Contract.SeededStates
import Snapl.Contract.Visibility
import Snapl.Library.Ipv4Text

/-!
# From a dataset to a device

What a dataset declares of the interfaces and sessions of a device stands in
the configuration of the device, whatever was there, once the state that is
fetched after the seed has been rendered and applied: under the declared names
and addresses, with the very prefixes the dataset spells, and with the copies
of the peer groups it names.
-/

namespace Snapl.Contract

open Snapl.Library Snapl.Library.KeyedTree Snapl.Intent Snapl.Intent.SeedIngester
open Snapl.Executor Snapl.Observability Snapl.Orchestrator

/-- A prefix as it is written out: an address, a slash, and the decimal digits of a length. -/
def PrefixText (value : String) : Prop :=
  ∃ (address : String) (length : Nat), address ≠ "" ∧ '/' ∉ address.toList ∧
    Convertible length ∧
    value = String.ofList (address.toList ++ '/' :: Nat.toDigits 10 length)

/-- The entry of an interface carries what an item says of it. -/
structure CarriesInterface (item : Payload) (entry : Json) : Prop where
  name : ∀ value, item.get? "name" = some value → entry.field "name" = value
  enabled : ∀ status, item.get? "status" = some status →
    (entry.field "admin-state" = .str "enable" ↔ Enables status)
  mtu : ∀ value, item.get? "mtu" = some (.int value) → entry.field "mtu" = .int value
  description : ∀ value, value ≠ "" → item.get? "description" = some (.str value) →
    entry.field "description" = .str value
  address : ∀ value, PrefixText value → item.get? "ip_address" = some (.str value) →
    value ∈ interfacePrefixes entry

/-- The entry of a neighbour carries what a record says of the session with it. -/
structure CarriesSession (text : PyText) (record : Payload) (entry : Json) : Prop where
  peerAddress : ∀ value, record.get? "remote_ip" = some (.str value) →
    entry.field "peer-address" = .str (String.ofList (partitionHead '/' value.toList))
  peerAs : ∀ value, record.get? "remote_as" = some (.int value) →
    entry.field "peer-as" = .int value
  enabled : ∀ status, record.get? "status" = some status →
    (entry.field "admin-state" = .str "enable" ↔ Enables status)
  peerGroup : ∀ group device name, groupOf record = some group →
    record.get? "local_device" = some device → shadowName text group device = .ok name →
      entry.field "peer-group" = .str name

section Splitting

variable {text : PyText}

/-- The address a text is split into is what stands before its slash. -/
theorem address_of_splitCidr
    {value : String} {address : Option String} {length : Option Int}
    (splits : splitCidr text (.str value) = .ok (address, length)) :
    address.getD "" = String.ofList (partitionHead '/' value.toList) := by
  rw [splitCidr] at splits
  split_ifs at splits with truthy
  · rw [PyText.str_str, ok_bind] at splits
    have given : address = filled? (some (String.ofList (partitionHead '/' value.toList))) := by
      dsimp only at splits
      split_ifs at splits
      · obtain ⟨parsed, -, made⟩ := (bind_eq_ok _ _ _).1 splits
        cases made
        rfl
      · cases splits
        rfl
    rw [given]
    by_cases empty : String.ofList (partitionHead '/' value.toList) = ""
    · rw [empty]
      rfl
    · rw [filled?_some empty, Option.getD_some]
  · cases splits
    have empty : value = "" := by
      by_contra nonempty
      exact truthy (by simp [Json.truthy, nonempty])
    rw [empty]
    rfl

/-- A prefix that is split is written out as it was. -/
theorem ipPrefix?_of_splitCidr
    {value : String} (isPrefix : PrefixText value) {address : Option String}
    {length : Option Int} (splits : splitCidr text (.str value) = .ok (address, length))
    {interface : Interface} (isAddress : interface.ipAddress = address)
    (isLength : interface.prefixLength = address.bind fun _ => length) :
    ipPrefix? interface = some value := by
  obtain ⟨host, number, nonempty, noSlash, convertible, rfl⟩ := isPrefix
  have truthy : (Json.str (String.ofList (host.toList ++ '/' :: Nat.toDigits 10 number))).truthy =
      true := by
    simp [Json.truthy]
  rw [splitCidr, if_pos truthy, PyText.str_str, ok_bind, String.toList_ofList,
    partitionHead_append _ noSlash, partitionTail_append _ noSlash] at splits
  dsimp only at splits
  rw [if_pos (isdigit_toDigits number), intOfDigits_toDigits convertible,
    String.ofList_toList] at splits
  obtain ⟨rfl, rfl⟩ := Prod.mk.inj (Except.ok.inj splits)
  have isFilled : filled? (some host) = some host := filled?_some nonempty
  rw [isFilled] at isAddress isLength
  rw [ipPrefix?, isAddress, isFilled, Option.map_some, isLength, Option.bind_some]
  dsimp only
  rw [(decimalText_eq_toDigits_iff (number : Int) number).2 rfl]

end Splitting

theorem adminState_eq_enable_iff (enabled : Bool) :
    Json.str (adminState enabled) = .str "enable" ↔ enabled = true := by
  cases enabled
  · simp [adminState]
  · simp [adminState]

section Applied

variable {text : PyText} {place : Placement} {config : Json}

/-- The rendered prefix is among those of the interface. -/
theorem mem_interfacePrefixes_updated
    {interface : Interface} {ipPrefix : String} (rendered : ipPrefix? interface = some ipPrefix) :
    ipPrefix ∈ interfacePrefixes (updatedInterface place config interface) := by
  obtain ⟨core, rest, ⟨before, after, own, inserted⟩, merged⟩ := interfacePrefixes_merged place
    [.str "interface", .str interface.name] ipPrefix rendered (ownInterface config interface)
  rw [updatedInterface, merged]
  apply List.mem_append_left
  rcases inserted with ⟨rfl, -⟩ | ⟨member, rfl⟩
  · exact List.mem_append_right _ List.mem_cons_self
  · exact member

/-- The entry of an interface that shows an item carries the item. -/
theorem carries_of_interface
    {item : Payload} {interface : Interface} (shows : interface.Shows text item) {entry : Json}
    (isEntry : entry = updatedInterface place config interface)
    (named : entry.field "name" = .str interface.name) : CarriesInterface item entry := by
  subst isEntry
  refine ⟨?_, ?_, ?_, ?_, ?_⟩
  · intro value given
    rw [asText_eq_ok (shows.name value given)]
    exact named
  · intro status given
    rw [updatedInterface_state, adminState_eq_enable_iff]
    exact shows.enabled status given
  · intro value given
    exact updatedInterface_mtu place config (Except.ok.inj (shows.mtu _ given)).symm
  · intro value nonempty given
    apply updatedInterface_description_set
    rw [← Except.ok.inj (shows.description _ given)]
    exact filled?_some nonempty
  · intro value isPrefix given
    obtain ⟨address, length, splits, isAddress, isLength⟩ := shows.address _ given
    exact mem_interfacePrefixes_updated
      (ipPrefix?_of_splitCidr isPrefix splits isAddress isLength)

/-- The entry of a session that shows a record carries the record. -/
theorem carries_of_session
    {record : Payload} {session : BGPSession} (shows : session.Shows text record) :
    CarriesSession text record (updatedNeighbor place config session) := by
  refine ⟨?_, ?_, ?_, ?_⟩
  · intro value given
    obtain ⟨address, length, splits, isAddress⟩ := shows.peerAddress _ given
    rw [← address_of_splitCidr splits, ← isAddress]
    exact updatedNeighbor_leaf place config (neighborFields_peer session) rfl trivial
  · intro value given
    have number : session.peerAsn = value := by
      have read := shows.peerAsn _ given
      rw [asIntOrZero] at read
      split_ifs at read with truthy
      · exact (Except.ok.inj read).symm
      · have zero : value = 0 := by
          by_contra nonzero
          exact truthy (by simp [Json.truthy, nonzero])
        rw [zero]
        exact (Except.ok.inj read).symm
    rw [← number]
    exact updatedNeighbor_leaf place config (neighborFields_asn session) rfl trivial
  · intro status given
    rw [updatedNeighbor_leaf place config (neighborFields_state session) rfl trivial,
      adminState_eq_enable_iff]
    exact shows.enabled status given
  · intro group device name uses isLocal isShadow
    have read := shows.peerGroup group uses
    rw [isLocal, Option.getD_some, copyName, isShadow] at read
    have isGroup : session.peerGroup = some name := (Except.ok.inj read).symm
    have nonempty : name ≠ "" := by
      rintro rfl
      obtain ⟨groupText, -, rest⟩ := (bind_eq_ok _ _ _).1 isShadow
      obtain ⟨deviceText, -, made⟩ := (bind_eq_ok _ _ _).1 rest
      have marked := congrArg String.toList (Except.ok.inj made)
      simp at marked
    have present : (neighborFields session).lookup "peer-group" = some (.str name) := by
      rw [neighborFields_group, isGroup, filled?_some nonempty, Option.map_some]
    exact updatedNeighbor_leaf place config present rfl trivial

end Applied

/-- The configuration carries what the dataset says of the interfaces and sessions of a device. -/
structure Configured
    (text : PyText) (dataset : Dataset) (device : String) (config : Json) : Prop where
  interfaces : ∀ item ∈ seededItems dataset .interfaces, item.get? "device" = some (.str device) →
    ∃ entry ∈ interfacesOf config, CarriesInterface item entry
  sessions : ∀ record ∈ seededEntries dataset .bgpSessions,
    record.get? "local_device" = some (.str device) →
      ∃ entry ∈ neighborsOf config, CarriesSession text record entry

/-- The configuration a shown state leads to carries what it shows. -/
theorem configured_of_stateShows
    {runtime : Runtime} {dataset : Dataset} {before : Contents} {state : DesiredState}
    (shows : StateShows runtime dataset before state) (distinguished : Distinguished state)
    (place : Placement) (config : Json) :
    Configured runtime.text dataset state.device.name
      (updated runtime.text state place config) := by
  constructor
  · intro item member ofDevice
    obtain ⟨interface, isInterface, shown⟩ := shows.interfaces item member ofDevice
    obtain ⟨inConfig, named⟩ := keyedItem?_eq_some (keyedItem?_updated_interface runtime.text
      place distinguished.names distinguished.peers config isInterface)
    exact ⟨_, inConfig, carries_of_interface shown rfl named⟩
  · intro record member ofDevice
    obtain ⟨session, isSession, shown⟩ := shows.sessions record member ofDevice
    obtain ⟨inConfig, -⟩ := keyedItem?_eq_some (keyedItem?_updated_neighbor runtime.text
      place distinguished.names distinguished.peers config isSession)
    exact ⟨_, inConfig, carries_of_session shown⟩

/--
Once the state fetched after a seed has been rendered and applied, the device
carries what the dataset declares of its interfaces and sessions, whatever was
configured before and wherever the device puts new entries.
-/
theorem seeded_intent_configured
    (store : InfrahubIntentStore) (runtime : Runtime) {useCase : String} {dataset : Dataset}
    {branch : Option String} (home : store.resolvedBranch branch = store.client.defaultBranch)
    {sot after : Sot} {result : SeedResult}
    (distinct : NamedApart (store.client.home sot))
    (settles : SettlesIn runtime.text runtime.order dataset (store.client.home sot))
    (seeded : store.seed runtime useCase dataset branch sot = (.ok result, after))
    {query : StateQuery} {states : List DesiredState}
    (fetched : Program.ending (store.getDesiredState runtime query branch) after = .ok states)
    {state : DesiredState} (isState : state ∈ states) (distinguished : Distinguished state)
    (plain : PlainState runtime.text state) {payload : Json}
    (rendered : render runtime.text state = .ok payload) (place : Placement) (config : Json) :
    Configured runtime.text dataset state.device.name
      (merge place [] configSchema config payload) := by
  obtain ⟨-, -, rfl⟩ := (render_eq_ok_iff plain payload).1 rendered
  exact configured_of_stateShows
    (stateShows_of_fetched home settles seeded fetched distinct isState) distinguished place config

theorem distinguished_spineState : Distinguished spineState := ⟨by decide, by decide⟩

theorem plain_spineState : PlainState PyText.ascii spineState := by
  refine ⟨?_, ?_, ?_, ?_, ?_, ?_⟩ <;> decide +kernel

theorem spineState_rendered : ∃ payload, render PyText.ascii spineState = .ok payload := by
  refine ⟨_, (render_eq_ok_iff plain_spineState _).2 ⟨?_, ⟨?_, ?_, ?_⟩, rfl⟩⟩
  · intro interface member _
    rw [List.mem_singleton.1 member]
    nofun
  · intro interface member
    rw [List.mem_singleton.1 member]
    refine ⟨nofun, ?_⟩
    intro _ length isLength
    rw [← Option.some.inj isLength]
    decide +kernel
  · decide +kernel
  · intro session member
    rw [List.mem_singleton.1 member]
    decide +kernel

/-- The spine's address and its session stand on a device that had nothing, as they were declared. -/
theorem lab_configured :
    ∃ payload, render PyText.ascii spineState = .ok payload ∧
      (∃ entry ∈ interfacesOf (merge lastPlacement [] configSchema .null payload),
        entry.field "name" = .str "ethernet-1/1" ∧
          "10.10.1.0/31" ∈ interfacePrefixes entry) ∧
      ∃ entry ∈ neighborsOf (merge lastPlacement [] configSchema .null payload),
        entry.field "peer-as" = .int 65001 ∧ entry.field "peer-group" = .str "underlay@spine" := by
  obtain ⟨payload, rendered⟩ := spineState_rendered
  have configured := @seeded_intent_configured labStore labRuntime "dcfabric" pairDataset none rfl
    (fun _ => bareContents) pairSeed.2 _ namedApart_bare settlesIn_pair lab_seeded _
    [spineState, leafState] labFetch_ok spineState List.mem_cons_self distinguished_spineState
    plain_spineState payload rendered lastPlacement .null
  refine ⟨payload, rendered, ?_, ?_⟩
  · obtain ⟨entry, inConfig, carries⟩ := configured.interfaces _ List.mem_cons_self rfl
    refine ⟨entry, inConfig, carries.name _ rfl, carries.address _ ?_ rfl⟩
    exact ⟨"10.10.1.0", 31, by decide, by decide, by decide +kernel, by decide +kernel⟩
  · obtain ⟨entry, inConfig, carries⟩ := configured.sessions pairSession List.mem_cons_self rfl
    refine ⟨entry, inConfig, carries.peerAs _ rfl, ?_⟩
    exact carries.peerGroup (.str "underlay") (.str "spine") "underlay@spine" rfl rfl (by rfl)

end Snapl.Contract
