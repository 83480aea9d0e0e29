import Snapl.Contract.SeedIdempotence
import Snapl.Intent.InfrahubStore
import Snapl.Library.Confinement

/-!
# Branch isolation

An operation bound to a branch is isolated when it reads and changes that
branch only.  Reading the desired state always is.  A seed looks everything up
on the client's default branch and creates on the branch it is given, and a
deletion names no branch at all: both are isolated on the client's default
branch and on no other.
-/

namespace Snapl.Intent

open Snapl.Library Snapl.Library.Program SeedIngester

variable {client : InfrahubClient} {text : PyText}

/-! ## Client calls -/

theorem confined_filters
    {branch : Option String} {name : String} (resolves : client.resolve branch = name)
    (kind : Kind) (filters : List Filter) : Confined name (client.filters kind filters branch) := by
  subst resolves
  exact Confined.read fun contents : Contents =>
    (contents.matching kind filters).map fun node => (⟨client.resolve branch, kind, node⟩ :
      FetchedNode)

theorem confined_filters_some (name : String) (kind : Kind) (filters : List Filter) :
    Confined name (client.filters kind filters (some name)) :=
  @confined_filters client (some name) name rfl kind filters

theorem confined_save {fetched : FetchedNode} {name : String} (onBranch : fetched.branch = name) :
    Confined name fetched.save := by
  subst onBranch
  exact Confined.write fun contents : Contents => ((), contents.put fetched.kind fetched.node)

/-- What saving a draft returns and makes of the contents of its branch. -/
def savedDraft (client : InfrahubClient) (draft : Draft) (contents : Contents) :
    FetchedNode × Contents :=
  let node := Node.ofPayload draft.kind draft.data (client.newId contents.mentioned)
  (⟨draft.branch, draft.kind, node⟩,
    contents.insert draft.kind node (client.newId_fresh contents.mentioned))

theorem nodes_savedDraft (client : InfrahubClient) (draft : Draft) (contents : Contents) :
    (savedDraft client draft contents).2.nodes draft.kind =
      contents.nodes draft.kind ++
        [Node.ofPayload draft.kind draft.data (client.newId contents.mentioned)] :=
  Contents.nodes_insert contents draft.kind _ (client.newId_fresh contents.mentioned)

theorem confined_saveNew {draft : Draft} {name : String} (onBranch : draft.branch = name) :
    Confined name (client.saveNew draft) := by
  subst onBranch
  exact Confined.write (savedDraft client draft)

theorem confined_create (kind : Kind) (data : Payload) (branch : String) :
    Confined branch (client.saveNew (client.create kind data (some branch))) :=
  confined_saveNew rfl

/-- What the server answers to a deletion and makes of the contents of its branch. -/
def deletedNode (client : InfrahubClient) (fetched : FetchedNode) (contents : Contents) :
    Except String Unit × Contents :=
  match client.deletion contents fetched.kind fetched.node with
  | .ok rest => (.ok (), rest)
  | .error reason => (.error reason, contents)

theorem delete_eq (client : InfrahubClient) (fetched : FetchedNode) :
    client.delete fetched = Program.update fun sot : Sot =>
      ((deletedNode client fetched (sot fetched.branch)).1,
        Function.update sot fetched.branch
          (deletedNode client fetched (sot fetched.branch)).2) := by
  rw [InfrahubClient.delete]
  congr 1
  funext sot
  unfold deletedNode
  rcases client.deletion (sot fetched.branch) fetched.kind fetched.node with reason | rest
  · rw [Function.update_eq_self]
  · rfl

theorem confined_delete {fetched : FetchedNode} {name : String}
    (onBranch : fetched.branch = name) : Confined name (client.delete fetched) := by
  subst onBranch
  rw [delete_eq]
  exact Confined.write (deletedNode client fetched)

/-- Fetched nodes belong to the branch they were asked for on. -/
theorem filters_returns
    {branch : Option String} {name : String} (resolves : client.resolve branch = name)
    (kind : Kind) (filters : List Filter) :
    Returns (fun results : List FetchedNode => ∀ fetched ∈ results, fetched.branch = name)
      (client.filters kind filters branch) := by
  intro sot results returned fetched member
  have same : (((sot (client.resolve branch)).matching kind filters).map fun node =>
      (⟨client.resolve branch, kind, node⟩ : FetchedNode)) = results :=
    Except.ok.inj returned
  rw [← same] at member
  obtain ⟨node, -, rfl⟩ := List.mem_map.1 member
  exact resolves

theorem resolve_none : client.resolve none = client.defaultBranch := rfl

theorem confined_compute {Result : Type} (name : String) (value : Except PyError Result) :
    Confined name (compute value : SotProgram Result) :=
  Confined.ofExcept _

/-! ## The seed on the default branch -/

theorem confined_validate (name : String) (devices : List Payload) :
    Confined name (validate devices) := by
  induction devices with
  | nil => exact Confined.pure ()
  | cons device rest induction =>
      unfold validate
      dsimp only
      split_ifs
      · exact induction
      · exact Confined.raise _

theorem confined_fetchNamespace (dataset : Dataset) (devices : List Payload) :
    Confined client.defaultBranch (fetchNamespace client dataset devices) := by
  unfold fetchNamespace
  split_ifs
  · apply Confined.bind
    · apply (confined_filters resolve_none _ _).bind
      intro results
      rcases results with _ | ⟨found, rest⟩
      · exact Confined.raise _
      · exact Confined.pure _
    · exact fun id => Confined.pure _
  · exact Confined.pure _

theorem confined_materialiseIpAddress (address : Json) (namespaceId : String) :
    Confined client.defaultBranch
      (materialiseIpAddress client address namespaceId client.defaultBranch) := by
  apply (confined_filters resolve_none _ _).bind
  intro existing
  rcases existing with _ | ⟨found, rest⟩
  · exact (confined_create _ _ _).bind fun node => Confined.pure _
  · exact Confined.pure _

theorem confined_resolveRelationships
    (kind : Kind) (relationships : List (String × Rel)) (item : Payload) :
    Confined client.defaultBranch (resolveRelationships client kind relationships item) := by
  induction relationships generalizing item with
  | nil => exact Confined.pure item
  | cons entry rest induction =>
      obtain ⟨field, rel⟩ := entry
      rw [resolveRelationships]
      rcases item.get? field with _ | value
      · exact induction item
      · apply (confined_filters resolve_none _ _).bind
        intro peers
        rcases peers with _ | ⟨peer, others⟩
        · exact Confined.raise _
        · exact induction _

theorem confined_wireAddresses
    (sec : Section) (namespaceId : Option String) (payload : Payload) :
    Confined client.defaultBranch
      (wireAddresses client sec client.defaultBranch namespaceId payload) := by
  apply Confined.bind
  · unfold wireIpAddresses
    rcases sec.ipField with _ | field
    · exact Confined.pure payload
    · rcases namespaceId with _ | id
      · exact Confined.pure payload
      · dsimp only
        rcases payload.get? field with _ | address
        · exact Confined.pure payload
        · exact (confined_materialiseIpAddress address id).bind fun ipId => Confined.pure _
  · intro wired
    unfold wirePrimaryAddress
    rcases sec.primaryAddressField with _ | field
    · exact Confined.pure wired
    · rcases namespaceId with _ | id
      · exact Confined.pure wired
      · dsimp only
        rcases wired.get? field with _ | address
        · exact Confined.pure wired
        · exact (confined_materialiseIpAddress address id).bind fun ipId => Confined.pure _

theorem confined_upsertNode (kind : Kind) (filters : List Filter) (payload : Payload) :
    Confined client.defaultBranch
      (upsertNode client kind filters payload client.defaultBranch) := by
  apply (confined_filters resolve_none kind filters).bind_returning
    (filters_returns resolve_none kind filters)
  intro existing onBranch
  rcases existing with _ | ⟨found, rest⟩
  · exact (confined_create _ _ _).bind fun created => Confined.pure _
  · apply Confined.bind
    · apply confined_save
      exact onBranch found List.mem_cons_self
    · exact fun _ => Confined.pure _

theorem confined_upsertItem (sec : Section) (item : Payload) (namespaceId : Option String) :
    Confined client.defaultBranch
      (upsertItem client sec item client.defaultBranch namespaceId) := by
  apply (confined_resolveRelationships _ _ _).bind
  intro resolved
  apply (confined_wireAddresses _ _ _).bind
  intro payload
  exact (confined_upsertNode _ _ _).bind fun outcome => Confined.pure _

theorem confined_seedItems
    (name : SectionName) (namespaceId : Option String) (items : List Payload) (tally : Tally) :
    Confined client.defaultBranch
      (seedItems client name client.defaultBranch namespaceId items tally) := by
  induction items generalizing tally with
  | nil => exact Confined.pure tally
  | cons item rest induction =>
      exact (confined_upsertItem _ _ _).bind fun created => induction _

theorem confined_seedSections
    (dataset : Dataset) (namespaceId : Option String) (names : List SectionName)
    (tally : Tally) :
    Confined client.defaultBranch
      (seedSections client dataset client.defaultBranch namespaceId names tally) := by
  induction names generalizing tally with
  | nil => exact Confined.pure tally
  | cons name rest induction =>
      rw [seedSections]
      rcases dataset name with _ | value
      · exact induction tally
      · dsimp only
        split_ifs
        · exact induction tally
        · apply (confined_compute _ _).bind
          intro items
          exact (confined_seedItems _ _ _ _).bind fun next => induction next

theorem confined_requireDevice (name : Json) (problem : ValidationProblem) :
    Confined client.defaultBranch (requireDevice client name problem) := by
  apply (confined_filters resolve_none _ _).bind
  intro peers
  rcases peers with _ | ⟨peer, rest⟩
  · exact Confined.raise _
  · exact Confined.pure _

theorem confined_seedShadows
    (vrfId : String) (group : Json) (declaration : Payload) (devices : List Json)
    (progress : ShadowIds × Nat) :
    Confined client.defaultBranch (seedShadows client text client.defaultBranch vrfId group
      declaration devices progress) := by
  induction devices generalizing progress with
  | nil => exact Confined.pure progress
  | cons device rest induction =>
      obtain ⟨ids, count⟩ := progress
      apply Confined.bind
      · apply (confined_requireDevice _ _).bind
        intro deviceId
        apply (confined_compute _ _).bind
        intro payload
        apply (confined_compute _ _).bind
        intro name
        exact (confined_upsertNode _ _ _).bind fun outcome => Confined.pure _
      · exact fun id => induction _

theorem confined_seedGroups
    (order : SetOrder) (vrfId : String) (devices : Dict Json (List Json))
    (groups : List (Json × Payload)) (progress : ShadowIds × Nat) :
    Confined client.defaultBranch (seedGroups client text order client.defaultBranch vrfId devices
      groups progress) := by
  induction groups generalizing progress with
  | nil => exact Confined.pure progress
  | cons entry rest induction =>
      obtain ⟨group, declaration⟩ := entry
      exact (confined_seedShadows _ _ _ _ _).bind fun next => induction next

theorem confined_wireAs (field : String) (session payload : Payload) :
    Confined client.defaultBranch (wireAs client field session payload) := by
  unfold wireAs
  rcases session.get? field with _ | asn
  · exact Confined.pure payload
  · apply (confined_filters resolve_none _ _).bind
    intro peers
    rcases peers with _ | ⟨peer, rest⟩
    · exact Confined.raise _
    · exact Confined.pure _

theorem confined_wireIp (field : String) (session payload : Payload) :
    Confined client.defaultBranch (wireIp client field session payload) := by
  unfold wireIp
  rcases session.get? field with _ | address
  · exact Confined.pure payload
  · apply (confined_filters resolve_none _ _).bind
    intro peers
    rcases peers with _ | ⟨peer, rest⟩
    · exact Confined.pure _
    · exact Confined.pure _

theorem confined_seedSessions (vrfId : String) (ids : ShadowIds) (entries : List Payload) :
    Confined client.defaultBranch
      (seedSessions client client.defaultBranch vrfId ids entries) := by
  induction entries with
  | nil => exact Confined.pure ()
  | cons session rest induction =>
      apply Confined.bind _ fun _ => induction
      apply (confined_compute _ _).bind
      intro localDevice
      apply (confined_requireDevice _ _).bind
      intro deviceId
      apply (confined_compute _ _).bind
      intro description
      apply (confined_wireAs _ _ _).bind
      intro withLocalAs
      apply (confined_wireAs _ _ _).bind
      intro withRemoteAs
      apply (confined_wireIp _ _ _).bind
      intro withLocalIp
      apply (confined_wireIp _ _ _).bind
      intro withRemoteIp
      apply (confined_compute _ _).bind
      intro payload
      exact (confined_upsertNode _ _ _).bind fun _ => Confined.pure ()

theorem confined_seedBgp (order : SetOrder) (dataset : Dataset) :
    Confined client.defaultBranch (seedBgp client text order dataset client.defaultBranch) := by
  unfold seedBgp
  split_ifs
  · exact Confined.pure 0
  · apply Confined.bind
    · apply (confined_filters resolve_none _ _).bind
      intro results
      rcases results with _ | ⟨found, rest⟩
      · exact Confined.raise _
      · exact Confined.pure _
    intro vrfId
    apply Confined.bind
    · unfold seedPeerGroupSection
      rcases dataset .bgpPeerGroups with _ | declarations
      · exact Confined.pure _
      · apply (confined_compute _ _).bind
        intro sessionEntries
        apply (confined_compute _ _).bind
        intro devices
        apply (confined_compute _ _).bind
        intro entries
        apply (confined_compute _ _).bind
        intro declared
        exact confined_seedGroups _ _ _ _ _
    intro shadows
    apply Confined.bind
    · unfold seedSessionSection
      rcases dataset .bgpSessions with _ | sessions
      · exact Confined.pure _
      · apply (confined_compute _ _).bind
        intro entries
        exact (confined_seedSessions _ _ _).bind fun _ => Confined.pure _
    · exact fun sessions => Confined.pure _

/-- A seed into the client's default branch reads and changes that branch only. -/
theorem confined_seed (order : SetOrder) (useCase : String) (dataset : Dataset) :
    Confined client.defaultBranch
      (seed client text order useCase dataset client.defaultBranch) := by
  apply (confined_compute _ _).bind
  intro devices
  apply (confined_validate _ _).bind
  intro _
  apply (confined_fetchNamespace _ _).bind
  intro namespaceId
  apply (confined_seedSections _ _ _ _).bind
  intro tally
  exact (confined_seedBgp _ _).bind fun records => Confined.pure _

/-! ## Operations of the store -/

/-- The operations that work on one branch. -/
inductive Operation where
  | reading
  | seeding
  | deleting
deriving DecidableEq

/-- A call of an operation with its arguments. -/
inductive StoreCall where
  | getDesiredState (query : StateQuery) (branch : Option String)
  | seed (useCase : String) (dataset : Dataset) (branch : Option String)
  | deleteDevice (deviceId : UUID)

/-- What a call returns. -/
inductive StoreAnswer where
  | states (states : List DesiredState)
  | seeded (result : SeedResult)
  | deleted (result : DeleteResult)

def StoreCall.operation : StoreCall → Operation
  | .getDesiredState _ _ => .reading
  | .seed _ _ _ => .seeding
  | .deleteDevice _ => .deleting

namespace InfrahubIntentStore

variable (store : InfrahubIntentStore) (runtime : Runtime)

/-- The branch a call is bound to, by its argument or by the default of the store. -/
def boundBranch : StoreCall → String
  | .getDesiredState _ branch => store.resolvedBranch branch
  | .seed _ _ branch => store.resolvedBranch branch
  | .deleteDevice _ => store.defaultBranch

/-- Run a call. -/
def run : StoreCall → SotProgram StoreAnswer
  | .getDesiredState query branch => do
      let states ← store.getDesiredState runtime query branch
      pure (.states states)
  | .seed useCase dataset branch => do
      let result ← store.seed runtime useCase dataset branch
      pure (.seeded result)
  | .deleteDevice deviceId => do
      let result ← store.deleteDevice deviceId
      pure (.deleted result)

end InfrahubIntentStore

/-! ## Isolation of an operation -/

/-- Every call of the operation that is bound to the branch is confined to it. -/
def OperationConfined
    (runtime : Runtime) (client : InfrahubClient) (branch : String) (operation : Operation) :
    Prop :=
  ∀ (defaultBranch : String) (call : StoreCall),
    call.operation = operation →
    InfrahubIntentStore.boundBranch ⟨client, defaultBranch⟩ call = branch →
    Confined branch (InfrahubIntentStore.run ⟨client, defaultBranch⟩ runtime call)

/-- Seeding a dataset into the branch again creates no node on any branch. -/
def SecondSeedCreatesNothing
    (runtime : Runtime) (client : InfrahubClient) (branch : String) : Prop :=
  ∀ (store : InfrahubIntentStore) (useCase : String) (dataset : Dataset)
    (argument : Option String) (order : SetOrder) (sot after : Sot) (result : SeedResult),
    store.client = client → store.resolvedBranch argument = branch →
    store.seed runtime useCase dataset argument sot = (.ok result, after) →
    ∀ name kind, ∀ node ∈ (final (store.seed { runtime with order := order } useCase dataset
        argument) after name).nodes kind,
      node.id ∈ ((after name).nodes kind).map Node.id

/-- The operation keeps to the branch, and seeding again creates nothing. -/
structure BranchIsolation
    (runtime : Runtime) (client : InfrahubClient) (branch : String) (operation : Operation) :
    Prop where
  confined : OperationConfined runtime client branch operation
  reseeded : operation = .seeding → SecondSeedCreatesNothing runtime client branch

variable {runtime : Runtime}

/-! ## Reading -/

/-- Reading the desired state keeps to the branch it is asked for on. -/
theorem confined_getDesiredState
    (store : InfrahubIntentStore) (query : StateQuery) (branch : Option String) :
    Confined (store.resolvedBranch branch) (store.getDesiredState runtime query branch) := by
  apply (confined_filters_some _ _ _).bind
  intro devices
  dsimp only
  split_ifs
  · exact Confined.pure []
  · apply (confined_filters_some _ _ _).bind
    intro interfaceNodes
    apply (confined_filters_some _ _ _).bind
    intro sessionNodes
    apply (Confined.ofExcept _).bind
    intro interfaces
    apply (Confined.ofExcept _).bind
    intro sessions
    apply Confined.bind
    · exact Confined.read fun contents : Contents => contents
    · exact fun contents => confined_compute _ _

theorem operationConfined_reading (branch : String) :
    OperationConfined runtime client branch .reading := by
  intro defaultBranch call isReading bound
  cases call with
  | getDesiredState query argument =>
      subst bound
      exact (confined_getDesiredState _ query argument).bind fun states => Confined.pure _
  | seed => cases isReading
  | deleteDevice => cases isReading

/-! ## Deleting -/

theorem confined_deleteDevice (store : InfrahubIntentStore) (deviceId : UUID) :
    Confined store.client.defaultBranch (store.deleteDevice deviceId) := by
  apply (confined_filters resolve_none _ _).bind_returning (filters_returns resolve_none _ _)
  intro nodes onBranch
  rcases nodes with _ | ⟨found, rest⟩
  · exact Confined.raise _
  · apply (confined_delete (onBranch found List.mem_cons_self)).bind
    intro answer
    rcases answer with reason | _
    · exact Confined.raise _
    · exact (confined_compute _ _).bind fun deviceName => Confined.pure _

/-- A branch with one device under an identifier. -/
def deviceContents (id : String) : Contents where
  nodes kind := if kind = .dcimDevice then [⟨id, fun _ => .null, fun _ => []⟩] else []
  distinct kind := by
    by_cases isDevice : kind = .dcimDevice
    · simp [isDevice]
    · simp [isDevice]

/-- A Source of Truth without nodes. -/
def emptySot : Sot := fun _ => Contents.empty

theorem deleteDevice_of_missing
    {store : InfrahubIntentStore} {deviceId : UUID} {sot : Sot}
    (missing : (store.client.home sot).nodes .dcimDevice = []) :
    ending (store.deleteDevice deviceId) sot = .error (.notFound deviceId) := by
  rw [InfrahubIntentStore.deleteDevice, ending,
    Program.bind_of_ok (store.client.filters_apply _ _ sot), Contents.matching, missing]
  rfl

theorem deleteDevice_of_present
    {store : InfrahubIntentStore} {deviceId : UUID} {sot : Sot}
    (present : store.client.home sot = deviceContents deviceId.text) :
    ending (store.deleteDevice deviceId) sot ≠ .error (.notFound deviceId) := by
  have found : (deviceContents deviceId.text).matching .dcimDevice [.ids [deviceId.text]] =
      [⟨deviceId.text, fun _ => .null, fun _ => []⟩] := by
    simp [Contents.matching, deviceContents, Filter.passes]
  rw [InfrahubIntentStore.deleteDevice, ending,
    Program.bind_of_ok (store.client.filters_apply _ _ sot), present, found]
  rw [List.map_singleton]
  dsimp only
  have answered : ∀ fetched, store.client.delete fetched sot =
      (.ok (deletedNode store.client fetched (sot fetched.branch)).1,
        Function.update sot fetched.branch
          (deletedNode store.client fetched (sot fetched.branch)).2) := by
    intro fetched
    rw [delete_eq]
    rfl
  rw [Program.bind_of_ok (answered _)]
  rcases (deletedNode store.client _ _).1 with reason | _
  · exact fun same => by cases same
  · exact fun same => by cases same

/-- Deleting keeps to a branch only if it is the client's default branch. -/
theorem operationConfined_deleting_iff (branch : String) :
    OperationConfined runtime client branch .deleting ↔ branch = client.defaultBranch := by
  constructor
  · intro confined
    by_contra different
    let deviceId : UUID := ⟨0⟩
    have bound := confined branch (.deleteDevice deviceId) rfl rfl
    obtain ⟨same, -⟩ := bound.determined emptySot
      (Function.update emptySot client.defaultBranch (deviceContents deviceId.text))
      (Function.update_of_ne different _ emptySot).symm
    have missing : ending (InfrahubIntentStore.deleteDevice ⟨client, branch⟩ deviceId)
        emptySot = .error (.notFound deviceId) :=
      deleteDevice_of_missing rfl
    have present : ending (InfrahubIntentStore.deleteDevice ⟨client, branch⟩ deviceId)
        (Function.update emptySot client.defaultBranch (deviceContents deviceId.text)) ≠
          .error (.notFound deviceId) :=
      deleteDevice_of_present (client.home_update emptySot _)
    apply present
    have failed : ending (InfrahubIntentStore.run ⟨client, branch⟩ runtime
        (.deleteDevice deviceId)) emptySot = .error (.notFound deviceId) :=
      ending_bind_pure_eq_error_iff.2 missing
    rw [same] at failed
    exact ending_bind_pure_eq_error_iff.1 failed
  · rintro rfl defaultBranch call isDeleting bound
    cases call with
    | getDesiredState => cases isDeleting
    | seed => cases isDeleting
    | deleteDevice deviceId =>
        exact (confined_deleteDevice ⟨client, defaultBranch⟩ deviceId).bind
          fun result => Confined.pure _

/-! ## Seeding -/

/-- A location. -/
def sitePayload : Payload := Dict.ofPairs [("shortname", .str "lab")]

/-- A dataset of one location. -/
def siteDataset : Dataset
  | .location => some (.item sitePayload)
  | _ => none

/-- Where the default branch has no node for a payload, one is created on the branch. -/
theorem upsertNode_of_missing
    {kind : Kind} {filters : List Filter} {payload : Payload} {branch : String} {sot : Sot}
    (missing : (client.home sot).matching kind filters = []) :
    upsertNode client kind filters payload branch sot =
      (.ok (client.newId (sot branch).mentioned, true),
        Function.update sot branch
          (savedDraft client ⟨branch, kind, payload⟩ (sot branch)).2) := by
  rw [upsertNode, Program.bind_of_ok (client.filters_apply kind filters sot), missing]
  rfl

/-- The Source of Truth with one more location on a branch. -/
def withSite (client : InfrahubClient) (branch : String) (sot : Sot) : Sot :=
  Function.update sot branch
    (savedDraft client ⟨branch, .locationSite, sitePayload⟩ (sot branch)).2

theorem nodes_withSite (client : InfrahubClient) (branch : String) (sot : Sot) :
    (withSite client branch sot branch).nodes .locationSite =
      (sot branch).nodes .locationSite ++
        [Node.ofPayload .locationSite sitePayload (client.newId (sot branch).mentioned)] := by
  rw [withSite, Function.update_self]
  exact nodes_savedDraft client ⟨branch, .locationSite, sitePayload⟩ (sot branch)

/-- Where the default branch has no location, the seed creates one on the branch. -/
theorem seed_siteDataset
    {order : SetOrder} {useCase branch : String} {sot : Sot}
    (missing : (client.home sot).nodes .locationSite = []) :
    seed client text order useCase siteDataset branch sot =
      (.ok ⟨useCase, 0, 0, 1, branch⟩, withSite client branch sot) := by
  have nothing : (client.home sot).matching .locationSite
      (lookupFilters (sections .location) sitePayload) = [] := by
    rw [Contents.matching, missing, List.filter_nil]
  have item : upsertItem client (sections .location) sitePayload branch none sot =
      (.ok true, withSite client branch sot) := by
    have wired : upsertItem client (sections .location) sitePayload branch none sot =
        (upsertNode client .locationSite (lookupFilters (sections .location) sitePayload)
          sitePayload branch >>= fun outcome => pure outcome.2) sot := rfl
    rw [wired, Program.bind_of_ok (upsertNode_of_missing nothing)]
    rfl
  have counted : (upsertItem client (sections .location) sitePayload branch none >>=
      fun created => pure ((⟨0, 0, 0⟩ : Tally).count .location created)) sot =
        (.ok ⟨0, 0, 1⟩, withSite client branch sot) := by
    rw [Program.bind_of_ok item]
    rfl
  have sectioned : seedSections client siteDataset branch none seedOrder ⟨0, 0, 0⟩ sot =
      (.ok ⟨0, 0, 1⟩, withSite client branch sot) := by
    have unfolded : seedSections client siteDataset branch none seedOrder ⟨0, 0, 0⟩ sot =
        ((upsertItem client (sections .location) sitePayload branch none >>= fun created =>
          pure ((⟨0, 0, 0⟩ : Tally).count .location created)) >>= fun tally => pure tally) sot :=
      rfl
    rw [unfolded, Program.bind_of_ok counted]
    rfl
  have whole : seed client text order useCase siteDataset branch sot =
      (seedSections client siteDataset branch none seedOrder ⟨0, 0, 0⟩ >>= fun tally =>
        pure ⟨useCase, tally.devicesCreated, tally.devicesUpdated, tally.totalRecords + 0,
          branch⟩) sot := rfl
  rw [whole, Program.bind_of_ok sectioned]
  rfl

theorem secondSeedCreatesNothing_default (runtime : Runtime) (client : InfrahubClient) :
    SecondSeedCreatesNothing runtime client client.defaultBranch := by
  intro store useCase dataset argument order sot after result sameClient bound first
  subst sameClient
  rw [InfrahubIntentStore.seed, bound] at first
  obtain ⟨again, -, second, -⟩ := seed_twice _ _ _ order _ _ _ _ _ first
  intro name kind node member
  rw [final, InfrahubIntentStore.seed, bound, second] at member
  exact List.mem_map_of_mem member

/-- Seeding again creates a second location wherever the default branch is not consulted. -/
theorem not_secondSeedCreatesNothing
    {branch : String} (runtime : Runtime) (different : branch ≠ client.defaultBranch) :
    ¬ SecondSeedCreatesNothing runtime client branch := by
  intro createsNothing
  let after := withSite client branch emptySot
  have once : seed client runtime.text runtime.order "lab" siteDataset branch emptySot =
      (.ok ⟨"lab", 0, 0, 1, branch⟩, after) :=
    seed_siteDataset rfl
  have stillMissing : (client.home after).nodes .locationSite = [] := by
    have kept : client.home after = emptySot client.defaultBranch :=
      Function.update_of_ne different.symm _ emptySot
    rw [kept]
    rfl
  have twice : final (seed client runtime.text runtime.order "lab" siteDataset branch) after =
      withSite client branch after := by
    rw [final, seed_siteDataset stillMissing]
  let second := Node.ofPayload .locationSite sitePayload (client.newId (after branch).mentioned)
  have created : second ∈ (final (seed client runtime.text runtime.order "lab" siteDataset
      branch) after branch).nodes .locationSite := by
    rw [twice, nodes_withSite]
    exact List.mem_append_right _ List.mem_cons_self
  have again := createsNothing ⟨client, branch⟩ "lab" siteDataset none runtime.order emptySot
    after _ rfl rfl once branch .locationSite second created
  obtain ⟨present, member, sameId⟩ := List.mem_map.1 again
  apply client.newId_fresh (after branch).mentioned
  have known := Contents.id_mem_mentioned member
  rw [sameId] at known
  exact known

/-- Seeding keeps to the client's default branch. -/
theorem operationConfined_seeding (runtime : Runtime) (client : InfrahubClient) :
    OperationConfined runtime client client.defaultBranch .seeding := by
  intro defaultBranch call isSeeding bound
  cases call with
  | getDesiredState => cases isSeeding
  | deleteDevice => cases isSeeding
  | seed useCase dataset argument =>
      have toDefault : InfrahubIntentStore.resolvedBranch ⟨client, defaultBranch⟩ argument =
          client.defaultBranch := bound
      rw [InfrahubIntentStore.run, InfrahubIntentStore.seed, toDefault]
      exact (confined_seed _ _ _).bind fun result => Confined.pure _

/-! ## The exact condition -/

/--
An operation is isolated on a branch exactly when it is reading or the branch is
the client's default branch.
-/
theorem branchIsolation_iff
    (runtime : Runtime) (client : InfrahubClient) (branch : String) (operation : Operation) :
    BranchIsolation runtime client branch operation ↔
      operation = .reading ∨ branch = client.defaultBranch := by
  constructor
  · intro isolation
    cases operation with
    | reading => exact Or.inl rfl
    | seeding =>
        by_contra neither
        rw [not_or] at neither
        exact not_secondSeedCreatesNothing runtime neither.2 (isolation.reseeded rfl)
    | deleting => exact Or.inr ((operationConfined_deleting_iff branch).1 isolation.confined)
  · rintro (rfl | rfl)
    · constructor
      · exact operationConfined_reading branch
      · exact fun isSeeding => by cases isSeeding
    · constructor
      · cases operation with
        | reading => exact operationConfined_reading _
        | seeding => exact operationConfined_seeding runtime client
        | deleting => exact (operationConfined_deleting_iff _).2 rfl
      · exact fun _ => secondSeedCreatesNothing_default runtime client

/-- Seeding one location twice into a feature branch makes two of it. -/
theorem not_isolated_on_feature_branch :
    ¬ ∀ operation, BranchIsolation ⟨.ascii, insertionOrder, fun _ => none⟩ labClient "feature"
      operation := by
  intro isolated
  have different : "feature" ≠ labClient.defaultBranch := by decide
  exact not_secondSeedCreatesNothing _ different ((isolated .seeding).reseeded rfl)

end Snapl.Intent
