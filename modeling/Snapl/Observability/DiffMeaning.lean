import Snapl.Library.Fallible
import Snapl.Observability.EntityPath

/-!
# The meaning of the structural diff

The diff as the source computes it builds each item through the validating
constructor and could raise.  It never does, and its items are exactly the
comparisons that drift, in the order of intent, followed by exactly the values
of unintended entities, in the order of their paths.
-/

namespace Snapl.Observability

open Snapl.Library Snapl.Intent

/-! ## The diff with its validating constructor -/

/-- Compare one field of an entity, building its item. -/
def buildField
    (spec : EntitySpec) (getattr : String → Json) (path : String)
    (actualEntry : Json) (field : String) : Except PyError (Option DriftItem) :=
  if getattr field = .null ∧ field ∈ spec.skipWhenNone then .ok none
  else if Json.pyEq (getattr field) (actualEntry.field field) = true then .ok none
  else
    (DriftItem.build (path ++ "/" ++ field) (getattr field) (actualEntry.field field)
      spec.kind false).map some

/-- Compare one entity with the entry of its path. -/
def buildEntity
    (spec : EntitySpec) (actualData : Dict String Json) (getattr : String → Json)
    (key : String) : Except PyError (List DriftItem) := do
  let items ← spec.fields.mapM
    (buildField spec getattr (spec.path key)
      ((actualData.get? (spec.path key)).getD .null))
  return items.filterMap id

/-- The values of an entry that are set, and not to what the device defaults to. -/
def setValues (spec : EntitySpec) (entry : Json) : List (String × Json) :=
  spec.valueFields.filterMap fun field =>
    if entry.field field = .null then none
    else if Json.pyEq (entry.field field)
        ((spec.deviceDefaults.lookup field).getD .null) = true then none
    else some (field, entry.field field)

/-- The values of one entry, when it is a dictionary intent does not ask for. -/
def buildUndesired
    (spec : EntitySpec) (actualData : Dict String Json) (desiredKeys : List String)
    (path : String) : Except PyError (List DriftItem) :=
  match spec.key? path with
  | none => .ok []
  | some key =>
      if key ∈ spec.protectedKeys ∨ key ∈ desiredKeys then .ok []
      else
        match actualData.get? path with
        | some (.obj fields) =>
            (setValues spec (.obj fields)).mapM fun found =>
              DriftItem.build (path ++ "/" ++ found.1) .null found.2 spec.kind true
        | _ => .ok []

/-- Code-point order of paths. -/
def sortedPaths (actualData : Dict String Json) : List String :=
  actualData.keys.mergeSort fun left right => decide (¬ right < left)

/-- The diff, building every item through its validator. -/
def buildDiff (desired : DesiredState) (actualData : Dict String Json) :
    Except PyError (List DriftItem) := do
  let interfaces ← desired.interfaces.mapM fun iface =>
    buildEntity interfaceSpec actualData (interfaceAttribute iface) iface.name
  let sessions ← desired.bgpSessions.mapM fun session =>
    buildEntity bgpSessionSpec actualData (sessionAttribute session) session.peerAddress
  let undesiredInterfaces ← (sortedPaths actualData).mapM
    (buildUndesired interfaceSpec actualData (desired.interfaces.map Interface.name))
  let undesiredSessions ← (sortedPaths actualData).mapM
    (buildUndesired bgpSessionSpec actualData (desired.bgpSessions.map BGPSession.peerAddress))
  return interfaces.flatten ++ sessions.flatten ++
    (undesiredInterfaces.flatten ++ undesiredSessions.flatten)

/-! ## No validator refuses an item -/

theorem buildField_eq
    (spec : EntitySpec) (getattr : String → Json) (path : String) (actualEntry : Json)
    (field : String) :
    buildField spec getattr path actualEntry field =
      .ok (diffField spec getattr path actualEntry field) := by
  rw [buildField, diffField]
  split_ifs with skipped equal
  · rfl
  · rfl
  · rw [DriftItem.build, dif_pos (by simpa using equal)]
    rfl

theorem buildEntity_eq
    (spec : EntitySpec) (actualData : Dict String Json) (getattr : String → Json)
    (key : String) :
    buildEntity spec actualData getattr key =
      .ok (diffEntity spec getattr key actualData) := by
  rw [buildEntity, funext (buildField_eq spec getattr _ _), mapM_ok, ok_bind,
    List.filterMap_map]
  rfl

theorem buildValues_eq (spec : EntitySpec) (path : String) (entry : Json) :
    ((setValues spec entry).mapM fun found =>
        DriftItem.build (path ++ "/" ++ found.1) .null found.2 spec.kind true) =
      .ok (spec.valueFields.filterMap (undesiredField spec path entry)) := by
  rw [setValues]
  induction spec.valueFields with
  | nil => rfl
  | cons field rest induction =>
      rw [List.filterMap_cons, List.filterMap_cons, undesiredField]
      by_cases unset : entry.field field = .null
      · rw [if_pos unset, dif_pos unset]
        exact induction
      · rw [if_neg unset, dif_neg unset]
        split_ifs with default
        · exact induction
        · have differs : Json.pyEq .null (entry.field field) = false := by
            rw [Bool.eq_false_iff, ne_eq, Json.pyEq_null_iff]
            exact unset
          rw [List.mapM_cons, DriftItem.build, dif_pos differs, ok_bind, induction]
          rfl

theorem undesiredFields_eq_nil
    {spec : EntitySpec} {path : String} {entry : Json}
    (unset : ∀ field, entry.field field = .null) :
    spec.valueFields.filterMap (undesiredField spec path entry) = [] := by
  rw [List.filterMap_eq_nil_iff]
  intro field _
  rw [undesiredField, dif_pos (unset field)]

theorem buildUndesired_eq
    (spec : EntitySpec) (actualData : Dict String Json) (desiredKeys : List String)
    (path : String) :
    buildUndesired spec actualData desiredKeys path =
      .ok (undesiredEntity spec actualData desiredKeys path) := by
  rw [buildUndesired, undesiredEntity]
  rcases spec.key? path with _ | key
  · rfl
  · by_cases excluded : key ∈ spec.protectedKeys ∨ key ∈ desiredKeys
    · simp only [if_pos excluded]
    · simp only [if_neg excluded]
      rcases actualData.get? path with _ | entry
      · rw [Option.getD_none, undesiredFields_eq_nil fun _ => rfl]
      · cases entry with
        | obj fields => exact buildValues_eq spec path (.obj fields)
        | _ => rw [Option.getD_some, undesiredFields_eq_nil fun _ => rfl]

/-- Whatever is compared, no item is refused. -/
theorem buildDiff_eq (desired : DesiredState) (actualData : Dict String Json) :
    buildDiff desired actualData = .ok (diffDesiredVsActual desired actualData) := by
  simp only [buildDiff, buildEntity_eq, funext (buildUndesired_eq _ actualData _), mapM_ok,
    ok_bind]
  rfl

/-! ## What should be reported -/

/-- What an item says. -/
structure Finding where
  path : String
  desired : Json
  actual : Json
  entityKind : String
  undesired : Bool

def DriftItem.finding (item : DriftItem) : Finding where
  path := item.path
  desired := item.desired
  actual := item.actual
  entityKind := item.entityKind
  undesired := item.undesired

/-- What an entry reports in a field: nothing, when it is missing or not a dictionary. -/
def reported (actualData : Dict String Json) (path field : String) : Json :=
  ((actualData.get? path).getD .null).field field

/-- One field of an intended entity, with its desired value. -/
structure Comparison where
  path : String
  kind : String
  field : String
  desired : Json

def EntitySpec.comparisons
    (spec : EntitySpec) (getattr : String → Json) (key : String) : List Comparison :=
  spec.fields.map fun field => ⟨spec.path key, spec.kind, field, getattr field⟩

/-- Every compared field of every intended entity, in the order of intent. -/
def comparisons (desired : DesiredState) : List Comparison :=
  (desired.interfaces.flatMap fun iface =>
    interfaceSpec.comparisons (interfaceAttribute iface) iface.name) ++
  desired.bgpSessions.flatMap fun session =>
    bgpSessionSpec.comparisons (sessionAttribute session) session.peerAddress

/-- The desired value differs, and is not an mtu intent leaves open. -/
structure Comparison.Drifts
    (actualData : Dict String Json) (comparison : Comparison) : Prop where
  managed : ¬ (comparison.kind = "interface" ∧ comparison.field = "mtu" ∧
    comparison.desired = .null)
  differs : Json.pyEq comparison.desired
    (reported actualData comparison.path comparison.field) = false

def Comparison.finding (actualData : Dict String Json) (comparison : Comparison) : Finding where
  path := comparison.path ++ "/" ++ comparison.field
  desired := comparison.desired
  actual := reported actualData comparison.path comparison.field
  entityKind := comparison.kind
  undesired := false

/-- Every value field of every path. -/
def EntitySpec.places (spec : EntitySpec) (paths : List String) : List (String × String) :=
  paths.flatMap fun path => spec.valueFields.map fun field => (path, field)

/--
The path has a key that is neither intended nor protected, and its entry sets
the field to something else than the device's default.
-/
structure Sprawls
    (spec : EntitySpec) (desiredKeys : List String) (actualData : Dict String Json)
    (place : String × String) : Prop where
  unintended : ∃ key, (place.1 = spec.path key ∨ place.1 = spec.path key ++ "\n") ∧
    (key ≠ "" ∧ '\n' ∉ key.toList) ∧ key ∉ spec.protectedKeys ∧ key ∉ desiredKeys
  set : reported actualData place.1 place.2 ≠ .null
  deviates : Json.pyEq (reported actualData place.1 place.2)
    ((spec.deviceDefaults.lookup place.2).getD .null) = false

def placeFinding
    (spec : EntitySpec) (actualData : Dict String Json) (place : String × String) : Finding where
  path := place.1 ++ "/" ++ place.2
  desired := .null
  actual := reported actualData place.1 place.2
  entityKind := spec.kind
  undesired := true

open scoped Classical in
/-- What intent never asked for, in the order of these paths. -/
noncomputable def sprawl
    (spec : EntitySpec) (desiredKeys : List String) (actualData : Dict String Json)
    (paths : List String) : List Finding :=
  ((spec.places paths).filter fun place => Sprawls spec desiredKeys actualData place).map
    (placeFinding spec actualData)

open scoped Classical in
/-- What differs from intent, in the order of intent. -/
noncomputable def drift (desired : DesiredState) (actualData : Dict String Json) :
    List Finding :=
  ((comparisons desired).filter fun comparison => comparison.Drifts actualData).map
    (Comparison.finding actualData)

/-! ## The passes report what they should -/

theorem filterMap_eq_map_filter
    {Item Output : Type} {selects : Item → Prop} [DecidablePred selects]
    {select : Item → Option Output} {value : Item → Output} {items : List Item}
    (pointwise : ∀ item ∈ items,
      select item = if selects item then some (value item) else none) :
    items.filterMap select = (items.filter fun item => selects item).map value := by
  induction items with
  | nil => rfl
  | cons item rest induction =>
      have others := induction fun other member =>
        pointwise other (List.mem_cons_of_mem _ member)
      rw [List.filterMap_cons, pointwise item List.mem_cons_self, List.filter_cons, others]
      by_cases selected : selects item <;> simp [selected]

section Forward

variable (actualData : Dict String Json)

open scoped Classical in
/-- A field is reported exactly when its comparison drifts. -/
theorem diffField_finding
    {spec : EntitySpec} {getattr : String → Json} {key field : String}
    (skips : (spec.kind = "interface" ∧ field = "mtu") ↔ field ∈ spec.skipWhenNone) :
    (diffField spec getattr (spec.path key) ((actualData.get? (spec.path key)).getD .null)
        field).map DriftItem.finding =
      if Comparison.Drifts actualData ⟨spec.path key, spec.kind, field, getattr field⟩ then
        some (Comparison.finding actualData ⟨spec.path key, spec.kind, field, getattr field⟩)
      else none := by
  by_cases drifts :
    Comparison.Drifts actualData ⟨spec.path key, spec.kind, field, getattr field⟩
  · have managed : ¬ (getattr field = .null ∧ field ∈ spec.skipWhenNone) := by
      rintro ⟨unset, skipped⟩
      obtain ⟨kind, mtu⟩ := skips.2 skipped
      exact drifts.managed ⟨kind, mtu, unset⟩
    have differs : ¬ Json.pyEq (getattr field)
        (((actualData.get? (spec.path key)).getD .null).field field) = true := by
      rw [Bool.not_eq_true]
      exact drifts.differs
    rw [if_pos drifts, diffField, if_neg managed, dif_neg differs]
    rfl
  · rw [if_neg drifts, Option.map_eq_none_iff, diffField]
    split_ifs with skipped equal
    · rfl
    · rfl
    · have differs : Json.pyEq (getattr field) (reported actualData (spec.path key) field) =
          false := by
        rw [reported]
        simpa using equal
      refine absurd ⟨?_, differs⟩ drifts
      rintro ⟨kind, mtu, unset⟩
      exact skipped ⟨unset, skips.1 ⟨kind, mtu⟩⟩

open scoped Classical in
theorem diffEntity_findings
    (spec : EntitySpec)
    (skips : ∀ field, (spec.kind = "interface" ∧ field = "mtu") ↔ field ∈ spec.skipWhenNone)
    (getattr : String → Json) (key : String) :
    (diffEntity spec getattr key actualData).map DriftItem.finding =
      ((spec.comparisons getattr key).filter fun comparison =>
        comparison.Drifts actualData).map (Comparison.finding actualData) := by
  rw [diffEntity, List.map_filterMap, EntitySpec.comparisons, List.filter_map, List.map_map]
  exact filterMap_eq_map_filter fun field _ => diffField_finding actualData (skips field)

theorem forwardItems_findings (desired : DesiredState) :
    (forwardItems desired actualData).map DriftItem.finding = drift desired actualData := by
  have interfaces := diffEntity_findings actualData interfaceSpec
    fun field => by simp [interfaceSpec]
  have sessions := diffEntity_findings actualData bgpSessionSpec
    fun field => by simp [bgpSessionSpec]
  simp only [forwardItems, drift, comparisons, List.map_append, List.map_flatMap,
    List.filter_append, List.filter_flatMap, interfaces, sessions]

end Forward

section Reverse

variable (actualData : Dict String Json)

open scoped Classical in
/-- A value of a path with an unintended key is reported exactly when it sprawls. -/
theorem undesiredField_finding
    {spec : EntitySpec} {desiredKeys : List String} {path : String}
    (unintended : ∃ key, (path = spec.path key ∨ path = spec.path key ++ "\n") ∧
      (key ≠ "" ∧ '\n' ∉ key.toList) ∧ key ∉ spec.protectedKeys ∧ key ∉ desiredKeys)
    (field : String) :
    (undesiredField spec path ((actualData.get? path).getD .null) field).map
        DriftItem.finding =
      if Sprawls spec desiredKeys actualData (path, field) then
        some (placeFinding spec actualData (path, field))
      else none := by
  by_cases sprawls : Sprawls spec desiredKeys actualData (path, field)
  · have set : ¬ ((actualData.get? path).getD .null).field field = .null := sprawls.set
    have deviates : ¬ Json.pyEq (((actualData.get? path).getD .null).field field)
        ((spec.deviceDefaults.lookup field).getD .null) = true := by
      rw [Bool.not_eq_true]
      exact sprawls.deviates
    rw [if_pos sprawls, undesiredField, dif_neg set, if_neg deviates]
    rfl
  · rw [if_neg sprawls, Option.map_eq_none_iff, undesiredField]
    split_ifs with unset default
    · rfl
    · rfl
    · exact absurd ⟨unintended, unset, by rw [reported]; simpa using default⟩ sprawls

open scoped Classical in
theorem undesiredEntity_findings
    {spec : EntitySpec} (closing : spec.pathTail = "]") (desiredKeys : List String)
    (path : String) :
    (undesiredEntity spec actualData desiredKeys path).map DriftItem.finding =
      ((spec.valueFields.map fun field => (path, field)).filter fun place =>
        Sprawls spec desiredKeys actualData place).map (placeFinding spec actualData) := by
  by_cases unintended : ∃ key, (path = spec.path key ∨ path = spec.path key ++ "\n") ∧
      (key ≠ "" ∧ '\n' ∉ key.toList) ∧ key ∉ spec.protectedKeys ∧ key ∉ desiredKeys
  · obtain ⟨key, built, legal, unprotected, undesired⟩ := unintended
    rw [undesiredEntity, (key?_eq_some_iff closing).2 ⟨built, legal⟩]
    simp only [unprotected, undesired, or_self, if_false]
    rw [List.map_filterMap, List.filter_map, List.map_map]
    exact filterMap_eq_map_filter fun field _ => undesiredField_finding actualData
      ⟨key, built, legal, unprotected, undesired⟩ field
  · have silent : undesiredEntity spec actualData desiredKeys path = [] := by
      rw [undesiredEntity]
      rcases found : spec.key? path with _ | key
      · rfl
      · obtain ⟨built, legal⟩ := (key?_eq_some_iff closing).1 found
        have excluded : key ∈ spec.protectedKeys ∨ key ∈ desiredKeys := by
          by_contra free
          rw [not_or] at free
          exact unintended ⟨key, built, legal, free⟩
        simp only [if_pos excluded]
    rw [silent, List.map_nil, eq_comm, List.map_eq_nil_iff, List.filter_eq_nil_iff]
    intro place member
    obtain ⟨field, -, rfl⟩ := List.mem_map.1 member
    simp only [decide_eq_true_eq]
    exact fun sprawls => unintended sprawls.unintended

theorem undesiredEntities_findings
    {spec : EntitySpec} (closing : spec.pathTail = "]") (desiredKeys : List String) :
    (undesiredEntities spec actualData desiredKeys).map DriftItem.finding =
      sprawl spec desiredKeys actualData (sortedPaths actualData) := by
  rw [undesiredEntities, sprawl, EntitySpec.places, List.map_flatMap, List.filter_flatMap,
    List.map_flatMap]
  exact List.flatMap_congr fun path _ =>
    undesiredEntity_findings actualData closing desiredKeys path

end Reverse

/-- The paths are sorted strictly, since no two of them are equal. -/
theorem pairwise_sortedPaths (actualData : Dict String Json) :
    (sortedPaths actualData).Pairwise (· < ·) := by
  have sorted : (sortedPaths actualData).Pairwise (· ≤ ·) := by
    have ordered := @List.pairwise_mergeSort _
      (fun left right : String => decide (¬ right < left)) ?_ ?_ actualData.keys
    · rw [sortedPaths]
      simpa only [decide_eq_true_eq, not_lt] using ordered
    · intro first second third earlier later
      simp only [decide_eq_true_eq, not_lt] at earlier later ⊢
      exact le_trans earlier later
    · intro first second
      simp only [Bool.or_eq_true, decide_eq_true_eq, not_lt]
      exact le_total first second
  have distinct : (sortedPaths actualData).Pairwise (· ≠ ·) :=
    (List.mergeSort_perm actualData.keys _).nodup_iff.2 actualData.keys_nodup
  refine (sorted.and distinct).imp ?_
  rintro left right ⟨ordered, unequal⟩
  exact lt_of_le_of_ne ordered unequal

/-- The diff reads its data by path: the order of the paths does not matter to it. -/
theorem diff_congr
    {left right : Dict String Json} (same : ∀ path, left.get? path = right.get? path)
    (desired : DesiredState) :
    diffDesiredVsActual desired left = diffDesiredVsActual desired right := by
  have keys : left.keys.Perm right.keys := by
    rw [List.perm_ext_iff_of_nodup left.keys_nodup right.keys_nodup]
    intro path
    rw [← not_iff_not, ← Dict.get?_eq_none_iff, ← Dict.get?_eq_none_iff, same path]
  have sorted : sortedPaths left = sortedPaths right := by
    have permuted : (sortedPaths left).Perm (sortedPaths right) :=
      ((List.mergeSort_perm _ _).trans keys).trans (List.mergeSort_perm _ _).symm
    refine permuted.eq_of_pairwise ?_ (pairwise_sortedPaths left) (pairwise_sortedPaths right)
    intro first second _ _ earlier later
    exact absurd later (lt_asymm earlier)
  have entity : ∀ (spec : EntitySpec) (desiredKeys : List String) (path : String),
      undesiredEntity spec left desiredKeys path = undesiredEntity spec right desiredKeys path := by
    intro spec desiredKeys path
    simp only [undesiredEntity, same]
  have entities : ∀ (spec : EntitySpec) (desiredKeys : List String),
      undesiredEntities spec left desiredKeys = undesiredEntities spec right desiredKeys := by
    intro spec desiredKeys
    have paths : left.keys.mergeSort (fun first second => decide (¬ second < first)) =
        right.keys.mergeSort fun first second => decide (¬ second < first) := sorted
    rw [undesiredEntities, undesiredEntities, paths, funext (entity spec desiredKeys)]
  simp only [diffDesiredVsActual, forwardItems, undesiredItems, diffEntity, same, entities]

/-! ## The meaning of the diff -/

/--
The diff is total, and its items are exactly the comparisons that drift, in
the order of intent, and then, per kind and in the order of paths, exactly the
values of unintended entities that are set and no default.
-/
theorem diff_exact (desired : DesiredState) (actualData : Dict String Json) :
    ∃ items paths, buildDiff desired actualData = .ok items ∧
      paths.Perm actualData.keys ∧ paths.Pairwise (· < ·) ∧
      items.map DriftItem.finding =
        drift desired actualData ++
          (sprawl interfaceSpec (desired.interfaces.map Interface.name) actualData paths ++
            sprawl bgpSessionSpec (desired.bgpSessions.map BGPSession.peerAddress)
              actualData paths) ∧
      (∀ item ∈ items, Json.pyEq item.desired item.actual = false) ∧
      (items = [] ↔
        (∀ comparison ∈ comparisons desired, ¬ comparison.Drifts actualData) ∧
        (∀ place ∈ interfaceSpec.places actualData.keys,
          ¬ Sprawls interfaceSpec (desired.interfaces.map Interface.name) actualData place) ∧
        ∀ place ∈ bgpSessionSpec.places actualData.keys,
          ¬ Sprawls bgpSessionSpec (desired.bgpSessions.map BGPSession.peerAddress)
            actualData place) := by
  have findings : (diffDesiredVsActual desired actualData).map DriftItem.finding =
      drift desired actualData ++
        (sprawl interfaceSpec (desired.interfaces.map Interface.name) actualData
            (sortedPaths actualData) ++
          sprawl bgpSessionSpec (desired.bgpSessions.map BGPSession.peerAddress) actualData
            (sortedPaths actualData)) := by
    rw [diffDesiredVsActual, undesiredItems, List.map_append, List.map_append,
      forwardItems_findings, undesiredEntities_findings actualData rfl,
      undesiredEntities_findings actualData rfl]
  have permuted : (sortedPaths actualData).Perm actualData.keys := List.mergeSort_perm _ _
  have places : ∀ (spec : EntitySpec) (place : String × String),
      place ∈ spec.places (sortedPaths actualData) ↔ place ∈ spec.places actualData.keys := by
    intro spec place
    simp only [EntitySpec.places, List.mem_flatMap, permuted.mem_iff]
  refine ⟨_, sortedPaths actualData, buildDiff_eq desired actualData, permuted,
    pairwise_sortedPaths actualData, findings, fun item _ => item.differs, ?_⟩
  rw [← List.map_eq_nil_iff (f := DriftItem.finding), findings, List.append_eq_nil_iff,
    List.append_eq_nil_iff]
  simp only [drift, sprawl, List.map_eq_nil_iff, List.filter_eq_nil_iff, places,
    decide_eq_true_eq]

end Snapl.Observability
