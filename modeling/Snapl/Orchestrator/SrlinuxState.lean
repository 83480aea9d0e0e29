import Snapl.Observability.EntityPath
import Snapl.Orchestrator.Srlinux

/-!
# The state the adapter makes

A normalized state has one entry for each interface with a name and for each
neighbour with an address, under the path built from its key.
-/

namespace Snapl.Orchestrator

open Snapl.Library Snapl.Observability

/-- The interfaces a report lists. -/
def interfaceEntries (data : Dict String Json) : Except PyError (List Json) :=
  entries ((data.get? "/interface").getD .null) "interface"

/-- The neighbours a report lists. -/
def neighborEntries (data : Dict String Json) : Except PyError (List Json) :=
  entries ((data.get? bgpPath).getD .null) "neighbor"

variable {text : PyText} {data actual : Dict String Json}

/-- Normalization reads both lists, makes the outputs of each and collects them in order. -/
theorem normalize_eq_ok_iff :
    normalizeSrlinuxState text data = .ok actual ↔
      ∃ interfaces interfaceOutputs neighbors neighborOutputs,
        interfaceEntries data = .ok interfaces ∧
        interfaces.mapM (interfaceOutput? text) = .ok interfaceOutputs ∧
        neighborEntries data = .ok neighbors ∧
        neighbors.mapM (neighborOutput? text) = .ok neighborOutputs ∧
        actual = (Dict.empty.update (interfaceOutputs.filterMap id)).update
          (neighborOutputs.filterMap id) := by
  rw [normalizeSrlinuxState, bind_eq_ok]
  refine exists_congr fun interfaces => ?_
  rw [interfaceEntries, bind_eq_ok]
  constructor
  · rintro ⟨listed, interfaceOutputs, made, rest⟩
    obtain ⟨neighbors, neighborsListed, rest⟩ := (bind_eq_ok _ _ _).1 rest
    obtain ⟨neighborOutputs, neighborsMade, rest⟩ := (bind_eq_ok _ _ _).1 rest
    cases rest
    exact ⟨interfaceOutputs, neighbors, neighborOutputs, listed, made, neighborsListed,
      neighborsMade, rfl⟩
  · rintro ⟨interfaceOutputs, neighbors, neighborOutputs, listed, made, neighborsListed,
      neighborsMade, rfl⟩
    refine ⟨listed, interfaceOutputs, made, ?_⟩
    rw [bind_eq_ok]
    refine ⟨neighbors, neighborsListed, ?_⟩
    rw [bind_eq_ok]
    exact ⟨neighborOutputs, neighborsMade, rfl⟩

/-- The two kinds of entity a state has entries of. -/
inductive EntityKind where
  | interface
  | session
deriving DecidableEq

def EntityKind.spec : EntityKind → EntitySpec
  | interface => interfaceSpec
  | session => bgpSessionSpec

/-- The report lists an entity of this kind under this key. -/
def Lists (data : Dict String Json) (key : Json) : EntityKind → Prop
  | .interface => ∃ interfaces, interfaceEntries data = .ok interfaces ∧
      ∃ iface ∈ interfaces, getLocal iface "name" .null = key
  | .session => ∃ neighbors, neighborEntries data = .ok neighbors ∧
      ∃ neighbor ∈ neighbors, getLocal neighbor "peer-address" .null = key

theorem interfaceOutput?_eq_ok
    {iface : Json} {output : Option (String × Json)}
    (made : interfaceOutput? text iface = .ok output) :
    (getLocal iface "name" .null = .null ∧ output = none) ∨
      (getLocal iface "name" .null ≠ .null ∧ ∃ shown entry,
        text.str (getLocal iface "name" .null) = .ok shown ∧
        normalizeInterface text iface = .ok entry ∧
        output = some (interfaceSpec.path shown, entry)) := by
  rw [interfaceOutput?] at made
  split at made
  · rename_i unnamed
    cases made
    exact Or.inl ⟨unnamed, rfl⟩
  · rename_i named
    obtain ⟨entry, normalized, made⟩ := (bind_eq_ok _ _ _).1 made
    obtain ⟨shown, shows, made⟩ := (bind_eq_ok _ _ _).1 made
    cases made
    exact Or.inr ⟨named, shown, entry, shows, normalized, rfl⟩

theorem neighborOutput?_eq_ok
    {neighbor : Json} {output : Option (String × Json)}
    (made : neighborOutput? text neighbor = .ok output) :
    (getLocal neighbor "peer-address" .null = .null ∧ output = none) ∨
      (getLocal neighbor "peer-address" .null ≠ .null ∧ ∃ shown,
        text.str (getLocal neighbor "peer-address" .null) = .ok shown ∧
        output = some (bgpSessionSpec.path shown, normalizeNeighbor neighbor)) := by
  rw [neighborOutput?] at made
  split at made
  · rename_i unnamed
    cases made
    exact Or.inl ⟨unnamed, rfl⟩
  · rename_i named
    obtain ⟨shown, shows, made⟩ := (bind_eq_ok _ _ _).1 made
    cases made
    exact Or.inr ⟨named, shown, shows, rfl⟩

theorem mem_paths_of_mapM
    {Input : Type} {computation : Input → Except PyError (Option (String × Json))}
    {inputs : List Input} {outputs : List (Option (String × Json))}
    (mapped : inputs.mapM computation = .ok outputs) (path : String) :
    path ∈ (outputs.filterMap id).map Prod.fst ↔
      ∃ input ∈ inputs, ∃ entry, computation input = .ok (some (path, entry)) := by
  simp only [List.mem_map, List.mem_filterMap, mem_of_mapM_eq_ok mapped, id]
  constructor
  · rintro ⟨⟨found, entry⟩, ⟨_, ⟨input, member, made⟩, rfl⟩, rfl⟩
    exact ⟨input, member, entry, made⟩
  · rintro ⟨input, member, entry, made⟩
    exact ⟨(path, entry), ⟨_, ⟨input, member, made⟩, rfl⟩, rfl⟩

/-- The paths of a normalized state are those of the entities the report lists. -/
theorem mem_keys_iff_listed
    (normalized : normalizeSrlinuxState text data = .ok actual) (path : String) :
    path ∈ actual.keys ↔
      ∃ kind key shown, Lists data key kind ∧ key ≠ .null ∧ text.str key = .ok shown ∧
        path = kind.spec.path shown := by
  obtain ⟨interfaces, interfaceOutputs, neighbors, neighborOutputs, listed, made,
    neighborsListed, neighborsMade, rfl⟩ := normalize_eq_ok_iff.1 normalized
  rw [Dict.mem_keys_update, Dict.mem_keys_update, mem_paths_of_mapM made,
    mem_paths_of_mapM neighborsMade]
  constructor
  · rintro ((never | ⟨iface, member, entry, output⟩) | ⟨neighbor, member, entry, output⟩)
    · cases never
    · rcases interfaceOutput?_eq_ok output with ⟨-, absent⟩ | ⟨named, shown, _, shows, -, same⟩
      · cases absent
      · cases same
        exact ⟨.interface, _, shown, ⟨interfaces, listed, iface, member, rfl⟩, named, shows, rfl⟩
    · rcases neighborOutput?_eq_ok output with ⟨-, absent⟩ | ⟨named, shown, shows, same⟩
      · cases absent
      · cases same
        exact ⟨.session, _, shown, ⟨neighbors, neighborsListed, neighbor, member, rfl⟩, named,
          shows, rfl⟩
  · rintro ⟨kind, key, shown, lists, named, shows, rfl⟩
    cases kind with
    | interface =>
        obtain ⟨others, again, iface, member, rfl⟩ := lists
        cases listed.symm.trans again
        obtain ⟨output, output_made⟩ := exists_of_mapM_eq_ok made member
        rcases interfaceOutput?_eq_ok output_made with
          ⟨unnamed, -⟩ | ⟨-, other, entry, showsOther, -, rfl⟩
        · exact absurd unnamed named
        · cases shows.symm.trans showsOther
          exact Or.inl (Or.inr ⟨iface, member, entry, output_made⟩)
    | session =>
        obtain ⟨others, again, neighbor, member, rfl⟩ := lists
        cases neighborsListed.symm.trans again
        obtain ⟨output, output_made⟩ := exists_of_mapM_eq_ok neighborsMade member
        rcases neighborOutput?_eq_ok output_made with
          ⟨unnamed, -⟩ | ⟨-, other, showsOther, rfl⟩
        · exact absurd unnamed named
        · cases shows.symm.trans showsOther
          exact Or.inr ⟨neighbor, member, _, output_made⟩

/-- The entries of both lists make the same outputs, in whatever order. -/
def SameOutputs
    (output : Json → Except PyError (Option (String × Json)))
    (left right : List Json) : Prop :=
  ∀ made, (∃ entry ∈ left, output entry = made) ↔ ∃ entry ∈ right, output entry = made

/-- Both lists are unreadable, or their entries make the same outputs. -/
inductive SameEntries
    (output : Json → Except PyError (Option (String × Json))) :
    Except PyError (List Json) → Except PyError (List Json) → Prop where
  | unreadable (error : PyError) : SameEntries output (.error error) (.error error)
  | listed {left right : List Json} (same : SameOutputs output left right) :
      SameEntries output (.ok left) (.ok right)

/-- No two entries of the list make outputs under one path. -/
def OnePath
    (output : Json → Except PyError (Option (String × Json))) (items : List Json) : Prop :=
  ∀ first ∈ items, ∀ second ∈ items, ∀ path firstEntry secondEntry,
    output first = .ok (some (path, firstEntry)) →
    output second = .ok (some (path, secondEntry)) → firstEntry = secondEntry

theorem SameOutputs.symm
    {output : Json → Except PyError (Option (String × Json))} {left right : List Json}
    (same : SameOutputs output left right) : SameOutputs output right left :=
  fun made => (same made).symm

theorem SameOutputs.onePath
    {output : Json → Except PyError (Option (String × Json))} {left right : List Json}
    (same : SameOutputs output left right) (one : OnePath output left) :
    OnePath output right := by
  intro first firstMember second secondMember path firstEntry secondEntry firstMade secondMade
  obtain ⟨entry, member, made⟩ := (same _).2 ⟨first, firstMember, firstMade⟩
  obtain ⟨other, otherMember, otherMade⟩ := (same _).2 ⟨second, secondMember, secondMade⟩
  exact one entry member other otherMember path firstEntry secondEntry made otherMade

/-- Lists with the same outputs are mapped together, to the same outputs. -/
theorem SameOutputs.mapM
    {output : Json → Except PyError (Option (String × Json))} {left right : List Json}
    (same : SameOutputs output left right) {outputs : List (Option (String × Json))}
    (mapped : left.mapM output = .ok outputs) :
    ∃ others, right.mapM output = .ok others ∧ ∀ made, made ∈ outputs ↔ made ∈ others := by
  obtain ⟨others, mappedRight⟩ := exists_mapM_of_forall output right fun entry member => by
    obtain ⟨other, otherMember, made⟩ := (same _).2 ⟨entry, member, rfl⟩
    obtain ⟨value, valued⟩ := exists_of_mapM_eq_ok mapped otherMember
    exact ⟨value, made.symm.trans valued⟩
  refine ⟨others, mappedRight, fun made => ?_⟩
  rw [mem_of_mapM_eq_ok mapped, mem_of_mapM_eq_ok mappedRight]
  exact same (.ok made)

theorem agree_of_onePath
    {output : Json → Except PyError (Option (String × Json))} {items : List Json}
    {outputs : List (Option (String × Json))} (mapped : items.mapM output = .ok outputs)
    (one : OnePath output items) :
    ∀ pair ∈ outputs.filterMap id, ∀ other ∈ outputs.filterMap id,
      pair.1 = other.1 → pair.2 = other.2 := by
  rintro ⟨path, entry⟩ member ⟨otherPath, otherEntry⟩ otherMember equal
  cases equal
  obtain ⟨_, present, rfl⟩ := List.mem_filterMap.1 member
  obtain ⟨_, otherPresent, rfl⟩ := List.mem_filterMap.1 otherMember
  obtain ⟨first, firstMember, firstMade⟩ := (mem_of_mapM_eq_ok mapped _).1 present
  obtain ⟨second, secondMember, secondMade⟩ := (mem_of_mapM_eq_ok mapped _).1 otherPresent
  exact one first firstMember second secondMember path entry otherEntry firstMade secondMade

theorem SameEntries.symm
    {output : Json → Except PyError (Option (String × Json))}
    {left right : Except PyError (List Json)} (same : SameEntries output left right) :
    SameEntries output right left := by
  cases same with
  | unreadable error => exact .unreadable error
  | listed same => exact .listed same.symm

theorem SameEntries.trans
    {output : Json → Except PyError (Option (String × Json))}
    {first second third : Except PyError (List Json)} (same : SameEntries output first second)
    (again : SameEntries output second third) : SameEntries output first third := by
  cases same with
  | unreadable error => exact again
  | listed same =>
      cases again with
      | listed again => exact .listed fun made => (same made).trans (again made)

/-- Every list read has no two entries under one path. -/
def OneEach
    (output : Json → Except PyError (Option (String × Json)))
    (listed : Except PyError (List Json)) : Prop :=
  ∀ items, listed = .ok items → OnePath output items

theorem SameEntries.oneEach
    {output : Json → Except PyError (Option (String × Json))}
    {left right : Except PyError (List Json)} (same : SameEntries output left right)
    (one : OneEach output left) : OneEach output right := by
  intro items listed
  cases same with
  | unreadable => cases listed
  | @listed others _ same =>
      cases listed
      exact same.onePath (one others rfl)

/-- Two states have the same entry, or none, under every path. -/
def SameState (left right : Dict String Json) : Prop :=
  ∀ path, left.get? path = right.get? path

/-- Reports that list the same entities have the same normalized state. -/
theorem normalize_same
    {left right leftState : Dict String Json}
    (interfaces : SameEntries (interfaceOutput? text) (interfaceEntries left)
      (interfaceEntries right))
    (neighbors : SameEntries (neighborOutput? text) (neighborEntries left)
      (neighborEntries right))
    (oneInterface : OneEach (interfaceOutput? text) (interfaceEntries left))
    (oneNeighbor : OneEach (neighborOutput? text) (neighborEntries left))
    (normalized : normalizeSrlinuxState text left = .ok leftState) :
    ∃ rightState, normalizeSrlinuxState text right = .ok rightState ∧
      SameState leftState rightState := by
  obtain ⟨listed, outputs, neighborsListed, neighborOutputs, reads, made, neighborsRead,
    neighborsMade, rfl⟩ := normalize_eq_ok_iff.1 normalized
  have one := oneInterface listed reads
  have neighborOne := oneNeighbor neighborsListed neighborsRead
  rw [reads] at interfaces
  rw [neighborsRead] at neighbors
  generalize interfacesRight : interfaceEntries right = rightInterfaces at interfaces
  generalize neighborsRight : neighborEntries right = rightNeighbors at neighbors
  cases interfaces with
  | @listed _ others same =>
    cases neighbors with
    | @listed _ otherNeighbors sameNeighbors =>
      obtain ⟨otherOutputs, otherMade, sameOutputs⟩ := same.mapM made
      obtain ⟨otherNeighborOutputs, otherNeighborsMade, sameNeighborOutputs⟩ :=
        sameNeighbors.mapM neighborsMade
      refine ⟨_, normalize_eq_ok_iff.2 ⟨others, otherOutputs, otherNeighbors,
        otherNeighborOutputs, interfacesRight, otherMade, neighborsRight, otherNeighborsMade,
        rfl⟩, ?_⟩
      intro path
      apply Option.ext
      intro entry
      rw [Dict.get?_update_eq_some_iff _ (agree_of_onePath neighborsMade neighborOne),
        Dict.get?_update_eq_some_iff _ (agree_of_onePath made one),
        Dict.get?_update_eq_some_iff _
          (agree_of_onePath otherNeighborsMade (sameNeighbors.onePath neighborOne)),
        Dict.get?_update_eq_some_iff _ (agree_of_onePath otherMade (same.onePath one))]
      simp only [List.mem_map, List.mem_filterMap, sameOutputs, sameNeighborOutputs]

end Snapl.Orchestrator
