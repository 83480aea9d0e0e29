import Snapl.Intent.Models
import Snapl.Orchestrator.SrlinuxState

/-!
# What a drift path names

An item's path is built from a key in one of two templates, then from a field.
Whatever characters the keys have, a path names one field of one entity, no
two items of a diff share a path, and the direction of an item says whether
intent names its entity.
-/

namespace Snapl.Contract

open Snapl.Library Snapl.Intent Snapl.Observability Snapl.Orchestrator

/-- The keys intent names, by kind of entity. -/
def desiredKeys (desired : DesiredState) : EntityKind → List String
  | .interface => desired.interfaces.map Interface.name
  | .session => desired.bgpSessions.map BGPSession.peerAddress

/-- The path is that of this field of the entity with this key. -/
structure Names (path : String) (kind : EntityKind) (key field : String) : Prop where
  compared : field ∈ kind.spec.fields
  built : path = kind.spec.path key ++ "/" ++ field

theorem path_kind_injective
    {kind other : EntityKind} {key otherKey : String}
    (equal : kind.spec.path key = other.spec.path otherKey) :
    kind = other ∧ key = otherKey := by
  cases kind with
  | interface =>
      cases other with
      | interface => exact ⟨rfl, EntitySpec.path_injective interfaceSpec equal⟩
      | session => exact absurd equal (interface_path_ne_neighbor_path _ _)
  | session =>
      cases other with
      | interface => exact absurd equal.symm (interface_path_ne_neighbor_path _ _)
      | session => exact ⟨rfl, EntitySpec.path_injective bgpSessionSpec equal⟩

theorem plain_field {kind : EntityKind} {field : String} (member : field ∈ kind.spec.fields) :
    '/' ∉ field.toList := by
  have plain : ∀ kind : EntityKind, ∀ field ∈ kind.spec.fields, '/' ∉ field.toList := by
    intro kind
    cases kind <;> decide
  exact plain kind field member

/-- The last separator of a path is the one before its field. -/
theorem append_separator_injective
    {left right first second : List Char} (plainFirst : '/' ∉ first)
    (plainSecond : '/' ∉ second) (equal : left ++ '/' :: first = right ++ '/' :: second) :
    left = right ∧ first = second := by
  rcases List.append_eq_append_iff.1 equal with ⟨middle, rfl, tail⟩ | ⟨middle, rfl, tail⟩
  · cases middle with
    | nil => exact ⟨(List.append_nil _).symm, (List.cons.inj tail).2⟩
    | cons char middle =>
        rw [(List.cons.inj tail).2] at plainFirst
        simp at plainFirst
  · cases middle with
    | nil => exact ⟨List.append_nil _, (List.cons.inj tail).2.symm⟩
    | cons char middle =>
        rw [(List.cons.inj tail).2] at plainSecond
        simp at plainSecond

theorem base_injective
    {base other field otherField : String} (plain : '/' ∉ field.toList)
    (plainOther : '/' ∉ otherField.toList)
    (equal : base ++ "/" ++ field = other ++ "/" ++ otherField) :
    base = other ∧ field = otherField := by
  have chars := congrArg String.toList equal
  simp only [String.toList_append, List.append_assoc] at chars
  obtain ⟨bases, fields⟩ := append_separator_injective plain plainOther chars
  exact ⟨String.toList_inj.1 bases, String.toList_inj.1 fields⟩

/-- A path names one kind, one key and one field. -/
theorem Names.unique
    {path : String} {kind other : EntityKind} {key otherKey field otherField : String}
    (names : Names path kind key field) (again : Names path other otherKey otherField) :
    other = kind ∧ otherKey = key ∧ otherField = field := by
  obtain ⟨bases, fields⟩ := base_injective (plain_field again.compared)
    (plain_field names.compared) (again.built.symm.trans names.built)
  obtain ⟨rfl, rfl⟩ := path_kind_injective bases
  exact ⟨rfl, rfl, fields⟩

section Items

variable {desired : DesiredState} {actual : Dict String Json} {item : DriftItem}

theorem names_of_mem_diffEntity
    (kind : EntityKind) {getattr : String → Json} {key : String}
    (member : item ∈ diffEntity kind.spec getattr key actual) :
    ∃ field, Names item.path kind key field := by
  obtain ⟨field, listed, found⟩ := List.mem_filterMap.1 member
  rw [diffField] at found
  split_ifs at found
  cases found
  exact ⟨field, listed, rfl⟩

/-- An item of the forward pass names an entity of intent. -/
theorem names_of_mem_forwardItems (member : item ∈ forwardItems desired actual) :
    ∃ kind, ∃ key ∈ desiredKeys desired kind, ∃ field, Names item.path kind key field := by
  rcases List.mem_append.1 member with member | member
  · obtain ⟨iface, listed, member⟩ := List.mem_flatMap.1 member
    exact ⟨.interface, iface.name, List.mem_map_of_mem listed,
      names_of_mem_diffEntity .interface member⟩
  · obtain ⟨session, listed, member⟩ := List.mem_flatMap.1 member
    exact ⟨.session, session.peerAddress, List.mem_map_of_mem listed,
      names_of_mem_diffEntity .session member⟩

theorem valueFields_sublist (kind : EntityKind) :
    List.Sublist kind.spec.valueFields kind.spec.fields := by
  cases kind <;> decide

/-- A path is matched by the pattern of its own kind only, and gives its key. -/
theorem key?_of_kind (kind other : EntityKind) (key : String) :
    other.spec.key? (kind.spec.path key) =
      if other = kind ∧ key ≠ "" ∧ '\n' ∉ key.toList then some key else none := by
  by_cases own : other = kind
  · subst own
    simp only [true_and]
    exact key?_path_eq other.spec key
  · rw [if_neg fun both => own both.1]
    cases kind with
    | interface =>
        cases other with
        | interface => exact absurd rfl own
        | session => exact key?_neighbor_of_interface_path key
    | session =>
        cases other with
        | interface => exact key?_interface_of_neighbor_path key
        | session => exact absurd rfl own

theorem names_of_mem_undesiredEntities
    (built : ∀ path ∈ actual.keys, ∃ (kind : EntityKind) (key : String),
      path = kind.spec.path key)
    (kind : EntityKind) {keys : List String}
    (member : item ∈ undesiredEntities kind.spec actual keys) :
    ∃ key field, key ∉ keys ∧ Names item.path kind key field := by
  obtain ⟨path, listed, member⟩ := List.mem_flatMap.1 member
  obtain ⟨own, key, rfl⟩ := built path ((List.mem_mergeSort).1 listed)
  rw [undesiredEntity, key?_of_kind] at member
  split_ifs at member with matched
  · obtain ⟨rfl, -⟩ := matched
    simp only at member
    split_ifs at member with excluded
    · cases member
    · obtain ⟨field, valued, found⟩ := List.mem_filterMap.1 member
      rw [undesiredField] at found
      split_ifs at found
      cases found
      exact ⟨key, field, fun desired => excluded (Or.inr desired),
        (valueFields_sublist kind).subset valued, rfl⟩
  · cases member

/-- An item of the reverse pass names an entity intent does not name. -/
theorem names_of_mem_undesiredItems
    (built : ∀ path ∈ actual.keys, ∃ (kind : EntityKind) (key : String),
      path = kind.spec.path key)
    (member : item ∈ undesiredItems desired actual) :
    ∃ kind key field, key ∉ desiredKeys desired kind ∧ Names item.path kind key field := by
  rcases List.mem_append.1 member with member | member
  · exact ⟨.interface, names_of_mem_undesiredEntities built .interface member⟩
  · exact ⟨.session, names_of_mem_undesiredEntities built .session member⟩

end Items

section Distinct

theorem map_filterMap_sublist
    {Item Output Value : Type} {select : Item → Option Output} {view : Output → Value}
    {place : Item → Value} {items : List Item}
    (placed : ∀ item output, select item = some output → view output = place item) :
    List.Sublist ((items.filterMap select).map view) (items.map place) := by
  induction items with
  | nil => exact List.Sublist.slnil
  | cons item rest induction =>
      rw [List.filterMap_cons, List.map_cons]
      rcases selected : select item with _ | output
      · exact induction.cons _
      · rw [List.map_cons, placed item output selected]
        exact induction.cons_cons _

/-- Items below distinct bases, each below its own, have distinct paths. -/
theorem nodup_paths_of_bases
    {Index : Type} {indices : List Index} {items : Index → List DriftItem}
    (base : Index → String) {fields : List String} (distinct : (indices.map base).Nodup)
    (fieldsDistinct : fields.Nodup) (plain : ∀ field ∈ fields, '/' ∉ field.toList)
    (below : ∀ index ∈ indices, List.Sublist ((items index).map DriftItem.path)
      (fields.map fun field => base index ++ "/" ++ field)) :
    ((indices.flatMap items).map DriftItem.path).Nodup := by
  rw [List.map_flatMap, List.nodup_flatMap]
  constructor
  · intro index member
    apply (below index member).nodup
    apply List.Nodup.map_on _ fieldsDistinct
    intro field listed other otherListed equal
    exact (base_injective (plain field listed) (plain other otherListed) equal).2
  · refine (List.pairwise_map.1 distinct).imp_of_mem ?_
    intro index other member otherMember unequal path here there
    obtain ⟨field, listed, rfl⟩ := List.mem_map.1 ((below index member).subset here)
    obtain ⟨otherField, otherListed, equal⟩ :=
      List.mem_map.1 ((below other otherMember).subset there)
    exact unequal
      (base_injective (plain otherField otherListed) (plain field listed) equal).1.symm

variable {desired : DesiredState} {actual : Dict String Json}

theorem nodup_fields (kind : EntityKind) : kind.spec.fields.Nodup := by
  cases kind <;> decide

theorem nodup_forward_entities
    {Entity : Type} {entities : List Entity} (kind : EntityKind)
    {getattr : Entity → String → Json} {key : Entity → String}
    (distinct : (entities.map key).Nodup) :
    ((entities.flatMap fun entity =>
      diffEntity kind.spec (getattr entity) (key entity) actual).map DriftItem.path).Nodup := by
  refine nodup_paths_of_bases (fun entity => kind.spec.path (key entity)) ?_
    (nodup_fields kind) (fun field => plain_field) ?_
  · have mapped := distinct.map (EntitySpec.path_injective kind.spec)
    rwa [List.map_map] at mapped
  · intro entity _
    apply map_filterMap_sublist
    intro field item found
    rw [diffField] at found
    split_ifs at found
    cases found
    rfl

theorem nodup_undesired_entities (kind : EntityKind) (keys : List String) :
    ((undesiredEntities kind.spec actual keys).map DriftItem.path).Nodup := by
  refine nodup_paths_of_bases id ?_
    ((valueFields_sublist kind).nodup (nodup_fields kind))
    (fun field valued => plain_field ((valueFields_sublist kind).subset valued)) ?_
  · rw [List.map_id]
    exact (List.mergeSort_perm actual.keys _).nodup_iff.2 actual.keys_nodup
  · intro path _
    rw [undesiredEntity]
    rcases kind.spec.key? path with _ | key
    · exact List.nil_sublist _
    · simp only
      split_ifs
      · exact List.nil_sublist _
      · apply map_filterMap_sublist
        intro field item found
        rw [undesiredField] at found
        split_ifs at found
        cases found
        rfl

theorem nodup_append_of_names
    {first second : List DriftItem} (firstDistinct : (first.map DriftItem.path).Nodup)
    (secondDistinct : (second.map DriftItem.path).Nodup)
    (apart : ∀ item ∈ first, ∀ other ∈ second, item.path ≠ other.path) :
    ((first ++ second).map DriftItem.path).Nodup := by
  rw [List.map_append, List.nodup_append]
  refine ⟨firstDistinct, secondDistinct, ?_⟩
  intro path here other there
  obtain ⟨item, member, rfl⟩ := List.mem_map.1 here
  obtain ⟨later, laterMember, rfl⟩ := List.mem_map.1 there
  exact apart item member later laterMember

end Distinct

/--
Every path of a diff names one field of one entity, no two items share one,
an item is undesired exactly when intent does not name its entity, and the
pattern of a path gives back the key it was built from.
-/
theorem paths_name_fields
    {text : PyText} {desired : DesiredState} {data actual : Dict String Json}
    (distinct : ∀ kind, (desiredKeys desired kind).Nodup)
    (keyed : ∀ kind key, Lists data key kind →
      ∃ shown : String, key = .str shown ∧ shown ≠ "" ∧ '\n' ∉ shown.toList)
    (normalized : normalizeSrlinuxState text data = .ok actual) :
    ((diffDesiredVsActual desired actual).map DriftItem.path).Nodup ∧
    (∀ item ∈ diffDesiredVsActual desired actual, ∃ kind key field,
      Names item.path kind key field ∧
      (∀ other otherKey otherField, Names item.path other otherKey otherField →
        other = kind ∧ otherKey = key ∧ otherField = field) ∧
      (item.undesired = true ↔ key ∉ desiredKeys desired kind)) ∧
    (∀ path, path ∈ actual.keys ↔ ∃ kind shown, Lists data (.str shown) kind ∧
      path = kind.spec.path shown) ∧
    ∀ kind shown other, Lists data (.str shown) kind →
      other.spec.key? (kind.spec.path shown) = if other = kind then some shown else none := by
  have keys : ∀ path, path ∈ actual.keys ↔ ∃ kind shown, Lists data (.str shown) kind ∧
      path = kind.spec.path shown := by
    intro path
    rw [mem_keys_iff_listed normalized]
    constructor
    · rintro ⟨kind, key, shown, lists, -, shows, rfl⟩
      obtain ⟨name, rfl, -⟩ := keyed kind key lists
      rw [PyText.str_str, Except.ok.injEq] at shows
      subst shows
      exact ⟨kind, name, lists, rfl⟩
    · rintro ⟨kind, shown, lists, rfl⟩
      exact ⟨kind, .str shown, shown, lists, nofun, rfl, rfl⟩
  have built : ∀ path ∈ actual.keys, ∃ (kind : EntityKind) (key : String),
      path = kind.spec.path key := by
    intro path member
    obtain ⟨kind, shown, -, equal⟩ := (keys path).1 member
    exact ⟨kind, shown, equal⟩
  have forward : ((forwardItems desired actual).map DriftItem.path).Nodup := by
    apply nodup_append_of_names
    · exact nodup_forward_entities .interface (distinct .interface)
    · exact nodup_forward_entities .session (distinct .session)
    · intro item member other otherMember equal
      obtain ⟨iface, -, member⟩ := List.mem_flatMap.1 member
      obtain ⟨session, -, otherMember⟩ := List.mem_flatMap.1 otherMember
      obtain ⟨field, names⟩ := names_of_mem_diffEntity .interface member
      obtain ⟨otherField, again⟩ := names_of_mem_diffEntity .session otherMember
      rw [← equal] at again
      exact absurd (names.unique again).1 nofun
  have reverse : ((undesiredItems desired actual).map DriftItem.path).Nodup := by
    apply nodup_append_of_names
    · exact nodup_undesired_entities .interface _
    · exact nodup_undesired_entities .session _
    · intro item member other otherMember equal
      obtain ⟨key, field, -, names⟩ :=
        names_of_mem_undesiredEntities built .interface member
      obtain ⟨otherKey, otherField, -, again⟩ :=
        names_of_mem_undesiredEntities built .session otherMember
      rw [← equal] at again
      exact absurd (names.unique again).1 nofun
  refine ⟨?_, ?_, keys, ?_⟩
  · apply nodup_append_of_names forward reverse
    intro item member other otherMember equal
    obtain ⟨kind, key, desiredKey, field, names⟩ := names_of_mem_forwardItems member
    obtain ⟨otherKind, otherKey, otherField, undesiredKey, again⟩ :=
      names_of_mem_undesiredItems built otherMember
    rw [← equal] at again
    obtain ⟨rfl, rfl, -⟩ := names.unique again
    exact undesiredKey desiredKey
  · intro item member
    rcases List.mem_append.1 member with member | member
    · obtain ⟨kind, key, desiredKey, field, names⟩ := names_of_mem_forwardItems member
      refine ⟨kind, key, field, names, fun _ _ _ => names.unique, ?_⟩
      simp [forward_of_mem_forwardItems member, desiredKey]
    · obtain ⟨kind, key, field, undesiredKey, names⟩ := names_of_mem_undesiredItems built member
      refine ⟨kind, key, field, names, fun _ _ _ => names.unique, ?_⟩
      simp [undesired_of_mem_undesiredItems member, undesiredKey]
  · intro kind shown other lists
    obtain ⟨name, equal, legal⟩ := keyed kind _ lists
    cases equal
    rw [key?_of_kind]
    simp [legal]

/-- A report of one interface whose name looks like the end of a path. -/
def awkwardReport : Dict String Json :=
  Dict.ofPairs [("/interface", .obj [("srl_nokia-interfaces:interface", .arr
    [.obj [("name", .str "x]/mtu"), ("description", .str "{name}")]])])]

/-- A state in which intent names that interface, and one that is missing. -/
def awkwardIntent : DesiredState where
  device := ⟨⟨1⟩, "leaf-01", "172.20.20.11", "dcfabric", none⟩
  interfaces := [⟨"x", none, none, none, true, none⟩, ⟨"x]/mtu", none, none, none, true, none⟩]
  bgpSessions := []

theorem awkward_paths_distinct :
    ∃ actual, normalizeSrlinuxState PyText.ascii awkwardReport = .ok actual ∧
      ((diffDesiredVsActual awkwardIntent actual).map DriftItem.path).Nodup := by
  have distinct : ∀ kind, (desiredKeys awkwardIntent kind).Nodup := by
    intro kind
    cases kind <;> decide
  have keyed : ∀ kind key, Lists awkwardReport key kind →
      ∃ shown : String, key = .str shown ∧ shown ≠ "" ∧ '\n' ∉ shown.toList := by
    rintro kind key lists
    cases kind with
    | interface =>
        obtain ⟨interfaces, listed, iface, member, rfl⟩ := lists
        cases listed
        rcases List.mem_singleton.1 member with rfl
        exact ⟨_, rfl, by decide, by decide⟩
    | session =>
        obtain ⟨neighbors, listed, neighbor, member, -⟩ := lists
        cases listed
        cases member
  have normalized : normalizeSrlinuxState PyText.ascii awkwardReport = .ok _ := rfl
  exact ⟨_, normalized, (paths_name_fields distinct keyed normalized).1⟩

end Snapl.Contract
