import Snapl.Contract.SeededStates

/-!
# What a seed that returns has done

After a seed all that its dataset declares holds of the Source of Truth, and the
states fetched from there report the declared devices, addresses and autonomous
systems, exactly if the dataset settles in what was there before.  An update
writes no relationship, so a node that is there keeps the peers it has; an
address without a node and a peer group without a record are left out.
-/

namespace Snapl.Contract

open Snapl.Library Snapl.Intent Snapl.Intent.SeedIngester

/-- A query finds every device of this name. -/
def Covers (contents : Contents) (query : StateQuery) (name : Option Json) : Prop :=
  ∀ node ∈ contents.nodes .dcimDevice, name = some (node.attributes "name") →
    node ∈ contents.matching .dcimDevice query.filters

/-- The states report what the dataset says of the devices that were asked for. -/
structure SeedReported (text : PyText) (dataset : Dataset) (asked : Option Json → Prop)
    (states : List DesiredState) : Prop where
  devices : ∀ item ∈ seededItems dataset .devices, asked (item.get? "name") →
    ∃ state ∈ states, state.device.Shows text item
  interfaces : ∀ item ∈ seededItems dataset .interfaces, asked (item.get? "device") →
    ∃ state ∈ states, item.get? "device" = some (.str state.device.name) ∧
      ∃ interface ∈ state.interfaces, interface.Shows text item
  sessions : ∀ record ∈ seededEntries dataset .bgpSessions,
    asked (record.get? "local_device") →
      ∃ state ∈ states, record.get? "local_device" = some (.str state.device.name) ∧
        ∃ session ∈ state.bgpSessions, session.Shows text record

/-- The Source of Truth holds all that the dataset declares, and reports it to every query. -/
structure SeedHeld (store : InfrahubIntentStore) (runtime : Runtime) (dataset : Dataset)
    (branch : Option String) (after : Sot) : Prop where
  faithful : Faithful runtime.text dataset (after (store.resolvedBranch branch))
  reported : ∀ query states,
    Program.ending (store.getDesiredState runtime query branch) after = .ok states →
      SeedReported runtime.text dataset (Covers (after (store.resolvedBranch branch)) query) states

section Reporting

variable {runtime : Runtime} {store : InfrahubIntentStore} {dataset : Dataset} {useCase : String}
  {branch : Option String} {sot after : Sot} {result : SeedResult} {query : StateQuery}
  {states : List DesiredState}

/-- What settles is reported after the seed. -/
theorem reported_of_settles
    (home : store.resolvedBranch branch = store.client.defaultBranch)
    (settles : SettlesIn runtime.text runtime.order dataset (store.client.home sot))
    (seeded : store.seed runtime useCase dataset branch sot = (.ok result, after))
    (fetched : Program.ending (store.getDesiredState runtime query branch) after = .ok states) :
    SeedReported runtime.text dataset (Covers (after (store.resolvedBranch branch)) query)
      states := by
  have ran := seeded
  rw [InfrahubIntentStore.seed, home] at ran
  have faithful := faithful_of_settles ran settles
  have built := built_of_fetched fetched
  rw [home] at built ⊢
  constructor
  · intro item member covered
    obtain ⟨node, isNode, -, values, -⟩ :=
      values_of_item faithful (by decide : SectionName.devices ∉ bgpSections) member
    have keyed := (faithful .devices ((sections .devices).declare Json.truthy item)
      (List.mem_map_of_mem member)).keyed
    obtain ⟨name, given⟩ : ∃ name, item.get? "name" = some name :=
      keyed.values (by decide : "name" ∈ (vocabulary .devices).sec.lookup) (by decide)
    have isFound := covered node isNode (by rw [given, values "name" (by decide) name given])
    obtain ⟨state, isState, own, rfl, ofNode⟩ := exists_mem_of_forall₂ built isFound
    refine ⟨own.unstamped, isState, shows_of_nodeToDevice ?_ ofNode.device⟩
    intro field isField
    refine values field ?_
    revert field
    decide
  · intro item member covered
    obtain ⟨child, isChild, -, stands⟩ := interface_of_item faithful member
    obtain ⟨node, isNode, ofDevice, shown⟩ := exists_shown stands isChild
    have isFound := covered node isNode ofDevice
    obtain ⟨state, isState, own, rfl, ofNode⟩ := exists_mem_of_forall₂ built isFound
    rw [(named_of_nodeToDevice ofNode.device).1] at ofDevice
    exact ⟨own.unstamped, isState, ofDevice,
      shown (List.mem_map_of_mem isFound) _ _ ofNode.interfaces⟩
  · intro record member covered
    obtain ⟨name, named⟩ := located_of_seed ran member
    obtain ⟨child, isChild, -, stands⟩ := session_of_record faithful member named
    obtain ⟨node, isNode, ofDevice, shown⟩ := exists_shown stands isChild
    have isFound := covered node isNode ofDevice
    obtain ⟨state, isState, own, rfl, ofNode⟩ := exists_mem_of_forall₂ built isFound
    rw [(named_of_nodeToDevice ofNode.device).1] at ofDevice
    exact ⟨own.unstamped, isState, ofDevice,
      shown (List.mem_map_of_mem isFound) _ _ ofNode.sessions⟩

end Reporting

/--
After a seed that returns the Source of Truth holds all that was declared, and
reports it, exactly if the dataset settles in what was there before.
-/
theorem seed_held_iff
    (store : InfrahubIntentStore) (runtime : Runtime) {useCase : String} {dataset : Dataset}
    {branch : Option String} (home : store.resolvedBranch branch = store.client.defaultBranch)
    {sot after : Sot} {result : SeedResult}
    (seeded : store.seed runtime useCase dataset branch sot = (.ok result, after)) :
    SeedHeld store runtime dataset branch after ↔
      SettlesIn runtime.text runtime.order dataset (store.client.home sot) := by
  have ran := seeded
  rw [InfrahubIntentStore.seed, home] at ran
  constructor
  · intro held
    have faithful := held.faithful
    rw [home] at faithful
    exact settles_of_faithful ran faithful
  · intro settles
    refine ⟨?_, fun query states fetched => reported_of_settles home settles seeded fetched⟩
    rw [home]
    exact faithful_of_settles ran settles

/-- A spine and a leaf are seeded as they are declared. -/
theorem pair_held : SeedHeld labStore labRuntime pairDataset none pairSeed.2 :=
  (seed_held_iff labStore labRuntime rfl lab_seeded).2 settlesIn_pair

/-- A session of the spine with an address that nothing has. -/
def straySession : Payload :=
  Dict.ofPairs
    [("description", .str "spine to nowhere"), ("local_device", .str "spine"),
      ("remote_as", .int 65001), ("remote_ip", .str "10.10.9.1/31")]

def strayDataset : Dataset
  | .bgpSessions => some (.items [straySession])
  | _ => none

/-- The session is seeded after the spine and the leaf. -/
def straySeed : Except IntentError SeedResult × Sot :=
  seed labClient .ascii insertionOrder "dcfabric" strayDataset labClient.defaultBranch pairSeed.2

/-- The spine with a session that has no peer address. -/
def strayState : DesiredState :=
  { spineState with
    bgpSessions := spineState.bgpSessions ++ [⟨0, "", 65001, none, "ipv4_unicast", true⟩] }

/-- The seed returns, and the address of the session is in no state. -/
theorem stray_not_held :
    straySeed.1 = .ok ⟨"dcfabric", 0, 0, 1, "main"⟩ ∧
      Program.ending (labStore.getDesiredState labRuntime {} none) straySeed.2 =
        .ok [strayState, leafState] ∧
      ¬ SeedHeld labStore labRuntime strayDataset none straySeed.2 := by
  have fetched : Program.ending (labStore.getDesiredState labRuntime {} none) straySeed.2 =
      .ok [strayState, leafState] := by decide +kernel
  refine ⟨by decide +kernel, fetched, fun held => ?_⟩
  obtain ⟨state, isState, -, session, isSession, shown⟩ :=
    (held.reported {} _ fetched).sessions _ List.mem_cons_self fun node isNode _ =>
      List.mem_filter.2 ⟨isNode, rfl⟩
  obtain ⟨address, length, splits, isAddress⟩ := shown.peerAddress _ rfl
  have parts : splitCidr .ascii (.str "10.10.9.1/31") = .ok (some "10.10.9.1", some 31) := by
    decide +kernel
  obtain ⟨rfl, -⟩ := Prod.mk.inj (Except.ok.inj (parts.symm.trans splits))
  rcases List.mem_pair.1 isState with rfl | rfl
  · rcases List.mem_pair.1 isSession with rfl | rfl
    · exact absurd isAddress (by decide)
    · exact absurd isAddress (by decide)
  · exact absurd isSession List.not_mem_nil

end Snapl.Contract
