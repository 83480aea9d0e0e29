import Snapl.Contract.BatchFetch
import Snapl.Contract.Preflight
import Snapl.Contract.SchemaProvisioning
import Snapl.Contract.SeededStates

/-!
# Bringing a fabric up

The schema is provisioned, a dataset is seeded, and Temporal and a worker are
started.  If what was seeded can be read and nothing else changes, `snapl
status` exits with zero, and each device the dataset declares for the use case
is deployed by its name, to the state that shows what the dataset says of it.
-/

namespace Snapl.Contract

open Snapl.Library Snapl.Intent Snapl.Intent.SchemaLoader Snapl.Intent.SeedIngester
open Snapl.Orchestrator Snapl.Presentation

section Provisioning

variable {loader : SchemaLoader} {text : PyText} {safeLoad : String → Except YamlFailure Json}
  {server : SchemaServer} {clock : Nat → Rat}

/-- The schema fetched last by a load that returns has what was sent. -/
theorem exposes_of_load
    {fuel : Nat} {run : LoadRun} {result : ProvisionResult}
    (ran : load loader text safeLoad server clock fuel = some run)
    (returned : run.outcome = .ok result) {kind name : Json}
    (declares : Declares (run.sent.flatMap LoadCall.schemas) kind name) :
    ∃ registry, server.registries (run.polls - 1) = .fetched registry ∧
      Exposes registry kind name := by
  obtain ⟨sent, calls, -, returns⟩ := @sentBy_batchRun loader text safeLoad server
  obtain ⟨loaded, expected, batches, collected, awaited⟩ := waited_of_load ran returned
  obtain ⟨flattened, -⟩ := returns loaded batches
  have sentCalls : run.sent.flatMap LoadCall.schemas = sent.flatten := by
    rw [sent_of_load ran, calls, callsOf, List.flatMap_map]
    exact List.flatMap_id
  rw [flattened] at collected
  rw [sentCalls] at declares
  obtain ⟨-, registry, fetched, satisfied⟩ :=
    exposes_of_awaitSchemaReady collected awaited declares
  refine ⟨registry, fetched, ?_⟩
  by_contra unexposed
  exact satisfied kind name ⟨declares, unexposed⟩

/-- A schema with the marker is snapl's, however many devices there are. -/
theorem ours_of_exposes
    {registry : Registry}
    (exposes : Exposes registry (.str Identity.snaplDeviceKind)
      (.str Identity.snaplMarkerAttribute)) (address : String) (devices : Option Nat) :
    (Identity.identify address ⟨some registry, devices⟩).identity = .ours := by
  cases exposes with
  | @ofNode nodes kind name node names found attributes member =>
      have marked : node.hasMarker = true := by
        rw [SchemaNode.hasMarker, attributes]
        exact List.any_eq_true.2 ⟨_, member, decide_eq_true rfl⟩
      have ofKind : (Registry.dict nodes).deviceNode? = some node := found
      rw [Identity.identify]
      dsimp only
      rw [ofKind]
      dsimp only
      rw [if_pos marked]
      rfl

end Provisioning

section Names

variable {store : InfrahubIntentStore} {runtime : Runtime} {query : StateQuery}
  {branch : Option String} {sot : Sot} {states : List DesiredState}

/-- Where no two devices have one name, every fetched state is that of its name. -/
theorem resolves_of_fetched
    (fetched : Program.ending (store.getDesiredState runtime query branch) sot = .ok states)
    (apart : NamedApart (sot (store.resolvedBranch branch))) {state : DesiredState}
    (isState : state ∈ states) : Resolves states state.device.name state.device.id := by
  have names : ((sot (store.resolvedBranch branch)).matching .dcimDevice query.filters).map
      (fun node => node.attributes "name") =
        (states.map fun state => state.device.name).map Json.str := by
    rw [List.map_map]
    have same : List.Forall₂ Eq
        (((sot (store.resolvedBranch branch)).matching .dcimDevice query.filters).map
          fun node => node.attributes "name")
        (states.map (Json.str ∘ fun state => state.device.name)) := by
      rw [List.forall₂_map_left_iff, List.forall₂_map_right_iff]
      exact (loadedOf_fetched fetched).nodeOf.imp fun node state own => own.1
    exact List.forall₂_eq_eq_eq ▸ same
  have distinct : (states.map fun state => state.device.name).Nodup := by
    refine List.Nodup.of_map Json.str ?_
    rw [← names]
    exact List.Nodup.sublist (List.Sublist.map _ List.filter_sublist) apart
  exact ⟨state, filter_of_nodup_map distinct isState, rfl⟩

end Names

section Fetching

variable {store : InfrahubIntentStore} {runtime : Runtime} {query : StateQuery}
  {branch : Option String} {sot : Sot}

/-- What a query finds in a branch can be read: its devices, their interfaces and their sessions. -/
def QueryReadable (runtime : Runtime) (contents : Contents) (query : StateQuery) : Prop :=
  let devices := contents.matching .dcimDevice query.filters
  AllReadable runtime contents devices
    (childrenOn contents .interfacePhysical (devices.map Node.id))
    (childrenOn contents .routingBGPSession (devices.map Node.id))

/-- Children that refer to one device each name the device they were found by. -/
theorem attributable_of_single
    {contents : Contents} (single : OneDeviceEach contents) (deviceIds : List String) :
    ¬ Unattributable deviceIds (childrenOn contents .interfacePhysical deviceIds ++
      childrenOn contents .routingBGPSession deviceIds) := by
  rintro ⟨-, child, member, unnamed⟩
  have named : ∀ kind ∈ [Kind.interfacePhysical, .routingBGPSession],
      child ∈ childrenOn contents kind deviceIds → False := by
    intro kind isChild inKind
    rw [childrenOn_eq single isChild] at inKind
    obtain ⟨node, found, rfl⟩ := List.mem_map.1 inKind
    obtain ⟨device, queried, own⟩ := of_decide_eq_true (List.mem_filter.1 found).2
    exact unnamed device queried (by rw [peerId_ofNode, own])
  rcases List.mem_append.1 member with isInterface | isSession
  · exact named _ List.mem_cons_self isInterface
  · exact named _ (List.mem_cons_of_mem _ List.mem_cons_self) isSession

/-- A query whose nodes can be read and refer to one device each returns states. -/
theorem exists_fetched
    (single : OneDeviceEach (sot (store.resolvedBranch branch)))
    (readable : QueryReadable runtime (sot (store.resolvedBranch branch)) query) :
    ∃ states, Program.ending (store.getDesiredState runtime query branch) sot = .ok states := by
  obtain ⟨made, returned⟩ := exists_desiredStates (attributable_of_single single _) readable
  refine ⟨made.map StampedState.unstamped, ?_⟩
  rw [getDesiredState_eq, statesOn, returned]
  rfl

end Fetching

/--
A schema that extends devices by the marker was loaded, a dataset was seeded
into a Source of Truth it settles in, and commands now find what was left:
Temporal, a worker, the schema fetched last and what a fetch of the use case
returns.  That it returns is not among this; only that the nodes can be read.
-/
structure BroughtUp
    (loader : SchemaLoader) (safeLoad : String → Except YamlFailure Json)
    (server : SchemaServer) (clock : Nat → Rat) (store : InfrahubIntentStore)
    (runtime : Runtime) (useCase : String) (dataset : Dataset) (before after : Sot)
    (answers : OperatorScript.Surroundings) : Prop where
  loaded : ∃ fuel run result, load loader runtime.text safeLoad server clock fuel = some run ∧
    run.outcome = .ok result ∧
    Declares (run.sent.flatMap LoadCall.schemas) (.str Identity.snaplDeviceKind)
      (.str Identity.snaplMarkerAttribute) ∧
    ∀ registry, server.registries (run.polls - 1) = .fetched registry →
      (answers .readIdentity).schema = some registry
  home : store.resolvedBranch none = store.client.defaultBranch
  apart : NamedApart (store.client.home before)
  settles : SettlesIn runtime.text runtime.order dataset (store.client.home before)
  seeded : ∃ result, store.seed runtime useCase dataset none before = (.ok result, after)
  single : OneDeviceEach (store.client.home after)
  readable : QueryReadable runtime (store.client.home after) { useCase := some useCase }
  answered : ∀ states, Program.ending
    (store.getDesiredState runtime { useCase := some useCase } none) after = .ok states →
      answers (.loadStates useCase) = .ok states
  connects : answers .connect = none
  lists : ∃ running, answers .listRunningWorkflows = .ok running
  polled : ∃ pollers, answers .countPollers = .ok pollers ∧ pollers ≠ 0

section BringUp

variable {loader : SchemaLoader} {safeLoad : String → Except YamlFailure Json}
  {server : SchemaServer} {clock : Nat → Rat} {store : InfrahubIntentStore}
  {runtime : Runtime} {useCase : String} {dataset : Dataset} {before after : Sot}
  {answers : OperatorScript.Surroundings}

/-- A device item of the use case. -/
def DeclaredIn (dataset : Dataset) (useCase : String) (item : Payload) : Prop :=
  item ∈ seededItems dataset .devices ∧ item.get? "use_case" = some (.str useCase)

theorem matchesQuery_useCase {item : Payload}
    (declared : item.get? "use_case" = some (.str useCase)) :
    MatchesQuery { useCase := some useCase } item where
  deviceId := rfl
  useCase value asked := by
    cases asked
    exact declared
  role _ impossible := nomatch impossible
  name _ impossible := nomatch impossible

/-- The fetch of the use case returns, and the load is answered what it returns. -/
theorem BroughtUp.exists_states
    (up : BroughtUp loader safeLoad server clock store runtime useCase dataset before after
      answers) :
    ∃ states, Program.ending
        (store.getDesiredState runtime { useCase := some useCase } none) after = .ok states ∧
      answers (.loadStates useCase) = .ok states := by
  obtain ⟨states, fetched⟩ :
      ∃ states, Program.ending
        (store.getDesiredState runtime { useCase := some useCase } none) after = .ok states := by
    apply exists_fetched
    · rw [up.home]
      exact up.single
    · rw [up.home]
      exact up.readable
  exact ⟨states, fetched, up.answered states fetched⟩

variable (settings : CliSettings)

/-- A fabric that was brought up, with a device of the use case, is healthy. -/
theorem healthy_of_broughtUp
    (up : BroughtUp loader safeLoad server clock store runtime useCase dataset before after
      answers) {item : Payload} (declared : DeclaredIn dataset useCase item) :
    OperatorScript.Healthy settings useCase answers where
  connects := up.connects
  lists := up.lists
  polled := up.polled
  seeded := by
    obtain ⟨result, seeded⟩ := up.seeded
    obtain ⟨states, fetched, loaded⟩ := up.exists_states
    obtain ⟨state, isState, -⟩ := exists_state_of_answers up.home up.settles seeded fetched
      declared.1 (matchesQuery_useCase declared.2)
    exact ⟨states, loaded, List.ne_nil_of_mem isState⟩
  ours := by
    obtain ⟨fuel, run, result, ran, returned, declares, read⟩ := up.loaded
    obtain ⟨registry, fetched, exposes⟩ := exposes_of_load ran returned declares
    have reading : answers .readIdentity = ⟨some registry, (answers .readIdentity).devices⟩ := by
      rw [← read registry fetched]
    rw [IdentityCheck.isForeign, reading, ours_of_exposes exposes]
    rfl

/--
On a fabric that was brought up `snapl status` exits with zero, and every
device the dataset declares for the use case is deployed by its name, to a
state that shows the dataset.
-/
theorem brought_up
    (text : PyText)
    (up : BroughtUp loader safeLoad server clock store runtime useCase dataset before after
      answers) {item : Payload} (declared : DeclaredIn dataset useCase item) :
    operatorStatus ((OperatorScript.status settings useCase).follow answers).2 = 0 ∧
    ∃ states, answers (.loadStates useCase) = .ok states ∧
    ∃ state ∈ states, item.get? "name" = some (.str state.device.name) ∧
      state.device.Shows runtime.text item ∧
      StateShows runtime dataset (store.client.home before) state ∧
      .executeDeployIntent (ReconcileDevices.deployIntentId state.device.id) state.device.id ∈
        OperatorScript.requests
          (OperatorScript.deploy settings text state.device.name useCase) answers := by
  have healthy := healthy_of_broughtUp settings up declared
  refine ⟨OperatorScript.status_eq_zero_iff.2 healthy, ?_⟩
  obtain ⟨result, seeded⟩ := up.seeded
  obtain ⟨states, fetched, loaded⟩ := up.exists_states
  obtain ⟨state, isState, named⟩ := exists_state_of_answers up.home up.settles seeded fetched
    declared.1 (matchesQuery_useCase declared.2)
  have shows := stateShows_of_fetched up.home up.settles seeded fetched up.apart isState
  have apart : NamedApart (after (store.resolvedBranch none)) := by
    have ran := seeded
    rw [InfrahubIntentStore.seed, up.home] at ran
    rw [up.home]
    exact namedApart_of_seed up.settles ran up.apart
  refine ⟨states, loaded, state, isState, named, shows.device item declared.1 named, shows, ?_⟩
  exact (OperatorScript.admits_of_healthy healthy loaded).deploy _ _ |>.2
    (resolves_of_fetched fetched apart isState)

end BringUp

/-- The file that extends devices by the marker. -/
def markerSchema : Json :=
  .obj [("extensions", .obj [("nodes", .arr [.obj [("kind", .str "DcimDevice"),
    ("attributes", .arr [.obj [("name", .str "use_case")]])]])])]

def markerLoader : SchemaLoader where
  schemasPath := "schemas"
  schemasRoot := some ⟨[], [], [⟨"schemas/network_device.yml", true, some ""⟩]⟩
  useCase := "dcfabric"
  branch := none
  readinessTimeout := 30

/-- The server registers the marker at once. -/
def markerServer : SchemaServer where
  loadAnswers _ := .answered (.dict [])
  registries _ := .fetched OperatorScript.markedRegistry

theorem load_markerSchema :
    (load markerLoader PyText.ascii (fun _ => .ok markerSchema) markerServer (fun _ => 0) 1).map
        (fun run => (run.sent, run.polls, run.outcome)) =
      some ([⟨[markerSchema], none⟩], 1, .ok ⟨"dcfabric", 1, true⟩) := by
  decide +kernel

theorem declares_markerSchema :
    Declares [markerSchema] (.str Identity.snaplDeviceKind)
      (.str Identity.snaplMarkerAttribute) := by
  refine ⟨markerSchema, List.mem_cons_self, _, List.mem_cons_self, ?_⟩
  exact ⟨by decide, by decide, ⟨_, List.mem_cons_self, by decide⟩, by decide⟩

/-- The surroundings of the lab: a worker, and the states of its devices. -/
def labSurroundings : OperatorScript.Surroundings
  | .loadStates _ => .ok [spineState, leafState]
  | request => OperatorScript.fabricSurroundings request

theorem lab_single : OneDeviceEach (labClient.home pairSeed.2) := by
  intro kind child
  rcases List.mem_pair.1 child with rfl | rfl
  · decide +kernel
  · decide +kernel

theorem lab_readable :
    QueryReadable labRuntime (labClient.home pairSeed.2) { useCase := some "dcfabric" } where
  devices node member := by
    apply exists_of_toBool
    revert node
    decide +kernel
  interfaces child member := by
    apply exists_of_toBool
    revert child
    decide +kernel
  sessions child member := by
    apply exists_of_toBool
    revert child
    decide +kernel

theorem broughtUp_lab :
    BroughtUp markerLoader (fun _ => .ok markerSchema) markerServer (fun _ => 0) labStore
      labRuntime "dcfabric" pairDataset (fun _ => bareContents) pairSeed.2 labSurroundings where
  loaded := by
    obtain ⟨run, ran, same⟩ := Option.map_eq_some_iff.1 load_markerSchema
    obtain ⟨sent, rest⟩ := Prod.mk.inj same
    obtain ⟨polls, outcome⟩ := Prod.mk.inj rest
    refine ⟨1, run, _, ran, outcome, ?_, ?_⟩
    · rw [sent]
      exact declares_markerSchema
    · intro registry fetched
      exact congrArg some (RegistryAnswer.fetched.inj fetched)
  home := rfl
  apart := namedApart_bare
  settles := settlesIn_pair
  seeded := ⟨_, lab_seeded⟩
  single := lab_single
  readable := lab_readable
  answered states fetched := by
    obtain rfl : [spineState, leafState] = states := Except.ok.inj (labFetch_ok.symm.trans fetched)
    rfl
  connects := rfl
  lists := ⟨[], rfl⟩
  polled := ⟨1, rfl, Nat.one_ne_zero⟩

/-- The spine of the lab is deployed by its name. -/
theorem lab_brought_up :
    operatorStatus ((OperatorScript.status ⟨"localhost:7233", "snapl", "", ""⟩
      "dcfabric").follow labSurroundings).2 = 0 ∧
    .executeDeployIntent (ReconcileDevices.deployIntentId ⟨9⟩) ⟨9⟩ ∈
      OperatorScript.requests (OperatorScript.deploy ⟨"localhost:7233", "snapl", "", ""⟩
        PyText.ascii "spine" "dcfabric") labSurroundings := by
  have declared : DeclaredIn pairDataset "dcfabric" (pairDevice "spine" 65000 "10.0.0.1/24") :=
    ⟨List.mem_cons_self, rfl⟩
  obtain ⟨zero, states, loaded, state, isState, named, -, -, deployed⟩ := brought_up
    ⟨"localhost:7233", "snapl", "", ""⟩ PyText.ascii broughtUp_lab declared
  cases loaded
  rcases List.mem_pair.1 isState with rfl | rfl
  · exact ⟨zero, deployed⟩
  · exact absurd named (by decide)

end Snapl.Contract
