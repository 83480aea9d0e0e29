import Snapl.Contract.ChildAttribution
import Snapl.Intent.RecordsShown

/-!
# Fetched states and their nodes

The states a fetch returns are those of the device nodes that match its query,
one for each, in their order.
-/

namespace Snapl.Contract

open Snapl.Library Snapl.Intent

variable {store : InfrahubIntentStore} {runtime : Runtime} {query : StateQuery}
  {branch : Option String} {sot : Sot} {states : List DesiredState}

/-- The states fetched are built of the devices that match the query. -/
theorem built_of_fetched
    (fetched : Program.ending (store.getDesiredState runtime query branch) sot = .ok states) :
    let contents := sot (store.resolvedBranch branch)
    let ids := (contents.matching .dcimDevice query.filters).map Node.id
    List.Forall₂ (fun node state => ∃ own : StampedState, state = own.unstamped ∧
        BuiltFrom runtime contents node
          (shareOf (placedOn ids) (childrenOn contents .interfacePhysical ids) node.id)
          (shareOf (placedOn ids) (childrenOn contents .routingBGPSession ids) node.id) own)
      (contents.matching .dcimDevice query.filters) states := by
  intro contents ids
  rw [getDesiredState_eq] at fetched
  rcases stamped : statesOn runtime contents query with error | made
  · rw [stamped] at fetched
    cases fetched
  rw [stamped] at fetched
  cases fetched
  rw [statesOn] at stamped
  by_cases queried : contents.matching .dcimDevice query.filters = []
  · rw [desiredStates, if_pos queried] at stamped
    cases stamped
    rw [queried]
    exact .nil
  · obtain ⟨-, -, built⟩ := built_of_desiredStates queried stamped
    rw [List.forall₂_map_right_iff]
    exact built.imp fun node own ofNode => ⟨own, rfl, ofNode⟩

/--
What a load returns that found these devices.  Their children, and the nodes
these lead to, are asked for later: they may be whatever they are then.
-/
def LoadedOf (runtime : Runtime) (devices : List Node) (states : List DesiredState) : Prop :=
  ∃ contents children made, desiredStates runtime contents children devices = .ok made ∧
    states = made.map StampedState.unstamped

/-- A fetch that nothing comes in between loads the devices that match its query. -/
theorem loadedOf_fetched
    (fetched : Program.ending (store.getDesiredState runtime query branch) sot = .ok states) :
    LoadedOf runtime ((sot (store.resolvedBranch branch)).matching .dcimDevice query.filters)
      states := by
  rw [getDesiredState_eq] at fetched
  rcases stamped : statesOn runtime (sot (store.resolvedBranch branch)) query with error | made
  · rw [stamped] at fetched
    cases fetched
  · rw [stamped] at fetched
    cases fetched
    exact ⟨_, _, made, stamped, rfl⟩

/-- The node of a device's name and identifier. -/
def NodeOf (runtime : Runtime) (node : Node) (state : DesiredState) : Prop :=
  node.attributes "name" = .str state.device.name ∧
    runtime.readUuid node.id = some state.device.id

/-- Loaded states are those of the devices that were found, one for each, in their order. -/
theorem LoadedOf.nodeOf
    {devices : List Node} (loaded : LoadedOf runtime devices states) :
    List.Forall₂ (NodeOf runtime) devices states := by
  obtain ⟨contents, children, made, returned, rfl⟩ := loaded
  by_cases queried : devices = []
  · subst queried
    cases returned
    exact .nil
  · obtain ⟨-, -, built⟩ := built_of_desiredStates queried returned
    rw [List.forall₂_map_right_iff]
    exact built.imp fun node own ofNode => named_of_nodeToDevice ofNode.device

/-- If only one loaded state has a name, only one device that was found has it. -/
theorem LoadedOf.only
    {devices : List Node} (loaded : LoadedOf runtime devices states) {name : String}
    {state : DesiredState}
    (only : (states.filter fun state => state.device.name = name) = [state]) :
    ∃ node, (devices.filter fun node => node.attributes "name" = .str name) = [node] ∧
      runtime.readUuid node.id = some state.device.id := by
  have named := List.rel_filter (R := NodeOf runtime)
    (p := fun node => decide (node.attributes "name" = .str name))
    (q := fun state => decide (state.device.name = name))
    (fun node state own => by simp [own.1]) loaded.nodeOf
  rw [only] at named
  obtain ⟨node, rest, own, none, same⟩ := List.forall₂_cons_right_iff.1 named
  rw [List.forall₂_nil_right_iff] at none
  subst none
  exact ⟨node, same, own.2⟩

end Snapl.Contract
