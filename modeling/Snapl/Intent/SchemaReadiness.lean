import Mathlib.Data.List.Pairwise
import Mathlib.Data.Set.List
import Snapl.Intent.SchemaSections

/-!
# Readiness of a schema

A registry satisfies what the files declare when it exposes every attribute
they add to a kind.  What it lacks is listed kind by kind; the list can be
written when the names are strings and the kinds can be compared.
-/

namespace Snapl.Intent

open Snapl.Library

variable {schemas : List Json} {expected : Expected}

/-! ## Exposed attributes -/

/-- The registry has the kind, with an attribute of this name. -/
inductive Exposes : Registry → Json → Json → Prop where
  | ofNode {nodes : Dict String SchemaNode} {kind name : String} {node : SchemaNode}
      {names : List (Option String)} (found : nodes.get? kind = some node)
      (attributes : node.attributes = some names) (member : some name ∈ names) :
      Exposes (.dict nodes) (.str kind) (.str name)

theorem mem_liveAttributeNames_iff (node : Option SchemaNode) (name : String) :
    name ∈ liveAttributeNames node ↔
      name ≠ "" ∧ ∃ own names, node = some own ∧ own.attributes = some names ∧
        some name ∈ names := by
  rw [liveAttributeNames, List.mem_filter, List.mem_filterMap, decide_eq_true_eq, and_comm]
  apply and_congr_right
  intro _
  constructor
  · rintro ⟨other, member, same⟩
    obtain rfl : other = some name := same
    rcases node with _ | own
    · cases member
    · rcases attributes : own.attributes with _ | names
      · rw [Option.bind_some, attributes] at member
        cases member
      · rw [Option.bind_some, attributes] at member
        exact ⟨own, names, rfl, attributes, member⟩
  · rintro ⟨own, names, rfl, attributes, member⟩
    refine ⟨some name, ?_, rfl⟩
    rw [Option.bind_some, attributes]
    exact member

theorem mem_live_iff (registry : Registry) (kind : Json) {name : Json}
    (present : name.truthy = true) :
    name ∈ (registry.live kind).map .str ↔ Exposes registry kind name := by
  constructor
  · intro member
    obtain ⟨nameText, live, rfl⟩ := List.mem_map.1 member
    cases registry with
    | dict nodes =>
        cases kind with
        | str kindText =>
            obtain ⟨-, node, names, found, attributes, inside⟩ :=
              (mem_liveAttributeNames_iff _ _).1 live
            exact .ofNode found attributes inside
        | _ => cases live
    | _ => cases live
  · rintro ⟨found, attributes, inside⟩
    apply List.mem_map_of_mem
    refine (mem_liveAttributeNames_iff _ _).2 ⟨?_, _, _, found, attributes, inside⟩
    simpa [Json.truthy] using present

/-- Equal keys are exposed together. -/
theorem Exposes.congr
    {registry : Registry} {kind other name otherName : Json} (exposes : Exposes registry kind name)
    (sameKind : keyOf other = keyOf kind) (sameName : keyOf otherName = keyOf name) :
    Exposes registry other otherName := by
  obtain ⟨found, attributes, inside⟩ := exposes
  rw [keyOf_str, keyOf_eq_str_iff] at sameKind sameName
  rw [sameKind, sameName]
  exact .ofNode found attributes inside

theorem Declares.truthy {kind name : Json} (declares : Declares schemas kind name) :
    name.truthy = true := by
  obtain ⟨schema, -, node, -, extends_⟩ := declares
  exact extends_.namePresent

/-- The entries of the expected attributes are those of declared kinds. -/
theorem mem_values_iff (collected : collectExtensionAttributes schemas = .ok expected)
    (entry : Json × List Json) :
    entry ∈ expected.values ↔ expected.get? (keyOf entry.1) = some entry := by
  rw [Dict.values, List.mem_map]
  constructor
  · rintro ⟨⟨key, own⟩, member, rfl⟩
    have found := (Dict.get?_eq_some_iff expected key own).2 member
    rw [(sound_collected collected key own.1 own.2 found).ofKey]
    exact found
  · intro found
    exact ⟨_, (Dict.get?_eq_some_iff expected _ entry).1 found, rfl⟩

/-- What a registry lacks of the declared attributes. -/
def Lacks (schemas : List Json) (registry : Registry) (kind name : Json) : Prop :=
  Declares schemas kind name ∧ ¬Exposes registry kind name

/-- An entry of what is missing: a kind, and those of its names that are not exposed. -/
theorem mem_unsatisfiedSchema_iff (collected : collectExtensionAttributes schemas = .ok expected)
    (registry : Registry) (entry : Json × List Json) :
    entry ∈ unsatisfiedSchema registry expected ↔
      entry.2 ≠ [] ∧ ∃ names, expected.get? (keyOf entry.1) = some (entry.1, names) ∧
        entry.2 = absentNames registry entry.1 names := by
  rw [unsatisfiedSchema, List.mem_filterMap]
  constructor
  · rintro ⟨⟨shown, names⟩, member, made⟩
    dsimp only at made
    split_ifs at made with none
    obtain rfl := Option.some.inj made
    exact ⟨none, names, (mem_values_iff collected _).1 member, rfl⟩
  · rintro ⟨some_, names, found, absent⟩
    refine ⟨(entry.1, names), (mem_values_iff collected _).2 found, ?_⟩
    rw [← absent, if_neg some_]

/-- What is missing is what the registry lacks, up to equal keys. -/
theorem missing_iff (collected : collectExtensionAttributes schemas = .ok expected)
    (registry : Registry) (kindKey nameKey : Json) :
    (∃ entry ∈ unsatisfiedSchema registry expected, keyOf entry.1 = kindKey ∧
        ∃ name ∈ entry.2, keyOf name = nameKey) ↔
      ∃ kind name, Lacks schemas registry kind name ∧ keyOf kind = kindKey ∧
        keyOf name = nameKey := by
  constructor
  · rintro ⟨⟨shown, missing⟩, member, rfl, name, inside, rfl⟩
    obtain ⟨-, names, found, absent⟩ := (mem_unsatisfiedSchema_iff collected registry _).1 member
    rw [absent] at inside
    obtain ⟨held, unexposed⟩ := List.mem_filter.1 inside
    obtain ⟨kind, same, declares⟩ := (sound_collected collected _ _ _ found).each name held
    refine ⟨kind, name, ⟨declares, ?_⟩, same, rfl⟩
    intro exposes
    rw [decide_eq_true_eq, mem_live_iff registry shown declares.truthy] at unexposed
    exact unexposed (exposes.congr same.symm rfl)
  · rintro ⟨kind, name, ⟨declares, unexposed⟩, rfl, rfl⟩
    obtain ⟨shown, names, found, other, held, same⟩ :=
      (has_collected_iff collected (keyOf kind) (keyOf name)).2 ⟨kind, name, declares, rfl, rfl⟩
    have entry := sound_collected collected _ _ _ found
    obtain ⟨declaredBy, sameKind, declaresOther⟩ := entry.each other held
    have absent : other ∈ absentNames registry shown names := by
      refine List.mem_filter.2 ⟨held, ?_⟩
      rw [decide_eq_true_eq, mem_live_iff registry shown declaresOther.truthy]
      intro exposes
      exact unexposed (exposes.congr entry.ofKey.symm same.symm)
    refine ⟨(shown, absentNames registry shown names), ?_, entry.ofKey, other, absent, same⟩
    refine (mem_unsatisfiedSchema_iff collected registry _).2
      ⟨List.ne_nil_of_mem absent, names, ?_, rfl⟩
    rw [entry.ofKey]
    exact found

/-- An entry of what is missing has a name. -/
theorem exists_name_of_missing (collected : collectExtensionAttributes schemas = .ok expected)
    {registry : Registry} {entry : Json × List Json}
    (member : entry ∈ unsatisfiedSchema registry expected) : ∃ name, name ∈ entry.2 := by
  have some_ := ((mem_unsatisfiedSchema_iff collected registry entry).1 member).1
  exact List.exists_mem_of_ne_nil entry.2 some_

/-- Nothing is missing where the registry lacks nothing. -/
theorem unsatisfiedSchema_eq_nil_iff
    (collected : collectExtensionAttributes schemas = .ok expected) (registry : Registry) :
    unsatisfiedSchema registry expected = [] ↔ ∀ kind name, ¬Lacks schemas registry kind name := by
  constructor
  · intro none kind name lacks
    obtain ⟨entry, impossible, -⟩ :=
      (missing_iff collected registry (keyOf kind) (keyOf name)).2 ⟨kind, name, lacks, rfl, rfl⟩
    rw [none] at impossible
    cases impossible
  · intro satisfied
    apply List.eq_nil_iff_forall_not_mem.2
    intro entry member
    obtain ⟨name, inside⟩ := exists_name_of_missing collected member
    obtain ⟨kind, declared, lacks, -⟩ :=
      (missing_iff collected registry (keyOf entry.1) (keyOf name)).1
        ⟨entry, member, rfl, name, inside, rfl⟩
    exact satisfied kind declared lacks

/-- No attributes are expected where none is declared. -/
theorem entries_eq_nil_iff (collected : collectExtensionAttributes schemas = .ok expected) :
    expected.entries = [] ↔ ∀ kind name, ¬Declares schemas kind name := by
  constructor
  · intro none kind name declares
    obtain ⟨shown, names, found, -⟩ :=
      (has_collected_iff collected (keyOf kind) (keyOf name)).2 ⟨kind, name, declares, rfl, rfl⟩
    have impossible := (Dict.get?_eq_some_iff expected _ _).1 found
    rw [none] at impossible
    cases impossible
  · intro undeclared
    apply List.eq_nil_iff_forall_not_mem.2
    rintro ⟨key, shown, names⟩ member
    have found := (Dict.get?_eq_some_iff expected key (shown, names)).2 member
    obtain ⟨name, declares⟩ := (sound_collected collected key shown names found).kind
    exact undeclared shown name declares

/-! ## The list of what is missing -/

def IsString (value : Json) : Prop := ∃ string, value = .str string

/-- The names are strings, and the kinds can be compared. -/
structure Listable (schemas : List Json) : Prop where
  names : ∀ kind name, Declares schemas kind name → IsString name
  kinds : ∀ kind name other otherName, Declares schemas kind name →
    Declares schemas other otherName → Comparable kind other

theorem isString_eq_true_iff (value : Json) : isString value = true ↔ IsString value := by
  cases value <;> simp [isString, IsString]

/-- Strings are compared with strings only. -/
theorem comparable_iff (left right : Json) :
    Comparable left right ↔ (IsString left ↔ IsString right) := by
  rw [Comparable, ← isString_eq_true_iff, ← isString_eq_true_iff, Bool.eq_iff_iff]

/-- Values with equal keys are strings together. -/
theorem isString_congr {left right : Json} (same : keyOf left = keyOf right) :
    IsString left ↔ IsString right := by
  constructor
  · rintro ⟨string, rfl⟩
    exact ⟨string, (keyOf_eq_str_iff right string).1 same.symm⟩
  · rintro ⟨string, rfl⟩
    exact ⟨string, (keyOf_eq_str_iff left string).1 same⟩

/-- The text of a list of kinds and their names. -/
def listingText (listing : List (Json × List String)) : String :=
  "; ".intercalate (listing.map fun entry => kindText entry.1 ++ ": " ++ ", ".intercalate entry.2)

/-- A text lists, kind by kind, the names that are lacking, each once. -/
def Lists (text : String) (lacking : Json → String → Prop) : Prop :=
  ∃ listing, text = listingText listing ∧
    (listing.map fun entry => keyOf entry.1).Nodup ∧
    (∀ entry ∈ listing, entry.2 ≠ [] ∧ entry.2.Nodup) ∧
    ∀ kind name, (∃ entry ∈ listing, keyOf entry.1 = keyOf kind ∧ name ∈ entry.2) ↔
      lacking kind name

theorem sortedBy_eq_ok_iff
    {Item : Type} (key : Item → Json) (items sorted : List Item) :
    sortedBy key items = .ok sorted ↔
      (items.Pairwise fun left right => Comparable (key left) (key right)) ∧
        sorted = items.mergeSort fun left right => !pyLt (key right) (key left) := by
  rw [sortedBy]
  split_ifs with comparable
  · rw [Except.ok.injEq, and_iff_right comparable, eq_comm]
  · constructor
    · intro impossible
      cases impossible
    · rintro ⟨impossible, -⟩
      exact absurd impossible comparable

/-- The names of a kind are listed where they are strings. -/
theorem missingPart_spec {entry : Json × List Json} {part : String}
    (returned : missingPart entry = .ok part) :
    ∃ names : List String, (names.map Json.str).Perm entry.2 ∧
      part = kindText entry.1 ++ ": " ++ ", ".intercalate names := by
  rw [missingPart, bind_eq_ok] at returned
  obtain ⟨sorted, ordered, returned⟩ := returned
  obtain ⟨joined, joins, returned⟩ := (bind_eq_ok _ _ _).1 returned
  obtain rfl := Except.ok.inj returned
  obtain ⟨-, rfl⟩ := (sortedBy_eq_ok_iff _ _ _).1 ordered
  rw [joinStrings] at joins
  rcases values : strings (entry.2.mergeSort fun left right => !pyLt (id right) (id left)) with
    failure | names
  · rw [values] at joins
    cases joins
  · rw [values] at joins
    obtain rfl := Except.ok.inj joins
    refine ⟨names, ?_, rfl⟩
    rw [← (strings_eq_ok_iff _ _).1 values]
    exact List.mergeSort_perm _ _

/-- A list of strings. -/
theorem exists_map_str {parts : List Json} (written : ∀ part ∈ parts, IsString part) :
    ∃ strings : List String, parts = strings.map .str := by
  have inRange : parts ∈ Set.range (List.map Json.str) := by
    rw [Set.range_list_map]
    intro part member
    obtain ⟨string, equal⟩ := written part member
    exact ⟨string, equal.symm⟩
  obtain ⟨strings, equal⟩ := inRange
  exact ⟨strings, equal.symm⟩

/-- Strings can be sorted. -/
theorem sortedBy_strings {parts : List Json} (written : ∀ part ∈ parts, IsString part) :
    ∃ strings : List String, sortedBy id parts = .ok (strings.map .str) := by
  have comparable : parts.Pairwise fun left right => Comparable (id left) (id right) := by
    apply List.pairwise_of_forall_mem_list
    intro left leftMember right rightMember
    obtain ⟨first, rfl⟩ := written left leftMember
    obtain ⟨second, rfl⟩ := written right rightMember
    exact rfl
  have sorted := (sortedBy_eq_ok_iff id parts _).2 ⟨comparable, rfl⟩
  obtain ⟨strings, equal⟩ := exists_map_str fun part member =>
    written part ((List.mergeSort_perm parts fun left right => !pyLt (id right) (id left)).mem_iff.1
      member)
  rw [equal] at sorted
  exact ⟨strings, sorted⟩

theorem exists_missingPart_iff (entry : Json × List Json) :
    (∃ part, missingPart entry = .ok part) ↔ ∀ name ∈ entry.2, IsString name := by
  constructor
  · rintro ⟨part, returned⟩ name member
    obtain ⟨names, same, -⟩ := missingPart_spec returned
    obtain ⟨string, -, equal⟩ := List.mem_map.1 (same.mem_iff.2 member)
    exact ⟨string, equal.symm⟩
  · intro written
    obtain ⟨names, sorted⟩ := sortedBy_strings written
    have joins : joinStrings ", " (names.map .str) = .ok (", ".intercalate names) := by
      rw [joinStrings, (strings_eq_ok_iff _ names).2 rfl]
      rfl
    refine ⟨kindText entry.1 ++ ": " ++ ", ".intercalate names, ?_⟩
    rw [missingPart, sorted, ok_bind, joins, ok_bind]

theorem missingDetail_eq_ok_iff (missing : Missing) (detail : String) :
    missingDetail missing = .ok detail ↔
      ∃ sorted, sortedBy Prod.fst missing = .ok sorted ∧
        ∃ parts, sorted.mapM missingPart = .ok parts ∧ "; ".intercalate parts = detail := by
  rw [missingDetail, bind_eq_ok]
  simp only [bind_eq_ok, Except.ok.injEq]

/-- What is missing can be listed when its names are strings and its kinds can be compared. -/
theorem exists_missingDetail_iff (missing : Missing) :
    (∃ detail, missingDetail missing = .ok detail) ↔
      (missing.Pairwise fun left right => Comparable left.1 right.1) ∧
        ∀ entry ∈ missing, ∀ name ∈ entry.2, IsString name := by
  constructor
  · rintro ⟨detail, returned⟩
    obtain ⟨sorted, ordered, parts, mapped, -⟩ := (missingDetail_eq_ok_iff _ _).1 returned
    obtain ⟨comparable, rfl⟩ := (sortedBy_eq_ok_iff _ _ _).1 ordered
    refine ⟨comparable, ?_⟩
    intro entry member
    apply (exists_missingPart_iff entry).1
    exact exists_of_mapM_eq_ok mapped ((List.mergeSort_perm missing _).mem_iff.2 member)
  · rintro ⟨comparable, written⟩
    have ordered := (sortedBy_eq_ok_iff Prod.fst missing _).2 ⟨comparable, rfl⟩
    obtain ⟨parts, mapped⟩ := exists_mapM_of_forall missingPart
      (missing.mergeSort fun left right => !pyLt right.1 left.1) (by
        intro entry member
        exact (exists_missingPart_iff entry).2
          (written entry ((List.mergeSort_perm missing _).mem_iff.1 member)))
    exact ⟨_, (missingDetail_eq_ok_iff _ _).2 ⟨_, ordered, parts, mapped, rfl⟩⟩

/-- An entry of what is missing, and the item of the list that it becomes. -/
structure ListedAs (entry : Json × List Json) (item : Json × List String) : Prop where
  kind : keyOf item.1 = keyOf entry.1
  names : (item.2.map Json.str).Perm entry.2

/-- The parts of a list are written kind by kind. -/
theorem exists_listing {sorted : Missing} {parts : List String}
    (mapped : sorted.mapM missingPart = .ok parts) :
    ∃ listing, List.Forall₂ ListedAs sorted listing ∧
      "; ".intercalate parts = listingText listing := by
  have pairs := (mapM_eq_ok_iff _ _ _).1 mapped
  have listed : ∃ listing, List.Forall₂ ListedAs sorted listing ∧
      parts = listing.map fun item => kindText item.1 ++ ": " ++ ", ".intercalate item.2 := by
    clear mapped
    induction pairs with
    | nil => exact ⟨[], .nil, rfl⟩
    | @cons entry part sorted parts returned _ induction =>
        obtain ⟨names, same, rfl⟩ := missingPart_spec returned
        obtain ⟨listing, related, rfl⟩ := induction
        exact ⟨(entry.1, names) :: listing, .cons ⟨rfl, same⟩ related, rfl⟩
  obtain ⟨listing, related, rfl⟩ := listed
  exact ⟨listing, related, rfl⟩

theorem kinds_of_listedAs {sorted : Missing} {listing : List (Json × List String)}
    (related : List.Forall₂ ListedAs sorted listing) :
    (listing.map fun item => keyOf item.1) = sorted.map fun entry => keyOf entry.1 := by
  induction related with
  | nil => rfl
  | cons listedAs _ induction => rw [List.map_cons, List.map_cons, listedAs.kind, induction]

/-- The kinds of the expected attributes have different keys. -/
theorem pairwise_values (collected : collectExtensionAttributes schemas = .ok expected) :
    expected.values.Pairwise fun left right => keyOf left.1 ≠ keyOf right.1 := by
  have keys : expected.values.map (fun entry => keyOf entry.1) = expected.keys := by
    rw [Dict.values, Dict.keys, List.map_map]
    apply List.map_congr_left
    rintro ⟨key, shown, names⟩ member
    exact (sound_collected collected key shown names
      ((Dict.get?_eq_some_iff expected _ _).2 member)).ofKey
  rw [← List.pairwise_map, keys]
  exact expected.keys_nodup

/-- The kinds of what is missing have different keys. -/
theorem nodup_missing (collected : collectExtensionAttributes schemas = .ok expected)
    (registry : Registry) :
    ((unsatisfiedSchema registry expected).map fun entry => keyOf entry.1).Nodup := by
  rw [List.Nodup, List.pairwise_map, unsatisfiedSchema, List.pairwise_filterMap]
  apply (pairwise_values collected).imp
  intro left right different entry made other madeOther
  dsimp only at made madeOther
  split_ifs at made with noneLeft
  split_ifs at madeOther with noneRight
  obtain rfl := Option.some.inj made
  obtain rfl := Option.some.inj madeOther
  exact different

theorem nodup_names_of_missing (collected : collectExtensionAttributes schemas = .ok expected)
    {registry : Registry} {entry : Json × List Json}
    (member : entry ∈ unsatisfiedSchema registry expected) : entry.2.Nodup := by
  obtain ⟨-, names, found, absent⟩ := (mem_unsatisfiedSchema_iff collected registry entry).1 member
  rw [absent]
  exact (List.Nodup.of_map keyOf (sound_collected collected _ _ _ found).distinct).filter _

/-- The list of what is missing names what the registry lacks. -/
theorem lists_of_missingDetail (collected : collectExtensionAttributes schemas = .ok expected)
    {registry : Registry} {detail : String}
    (returned : missingDetail (unsatisfiedSchema registry expected) = .ok detail) :
    Lists detail fun kind name =>
      ∃ other, keyOf other = keyOf kind ∧ Lacks schemas registry other (.str name) := by
  obtain ⟨sorted, ordered, parts, mapped, rfl⟩ := (missingDetail_eq_ok_iff _ _).1 returned
  obtain ⟨-, rfl⟩ := (sortedBy_eq_ok_iff _ _ _).1 ordered
  obtain ⟨listing, related, text⟩ := exists_listing mapped
  have same := List.mergeSort_perm (unsatisfiedSchema registry expected)
    fun left right => !pyLt right.1 left.1
  refine ⟨listing, text, ?_, ?_, ?_⟩
  · rw [kinds_of_listedAs related]
    exact ((same.map _).nodup_iff).2 (nodup_missing collected registry)
  · intro item member
    obtain ⟨entry, inside, listedAs⟩ := exists_mem_of_forall₂ related.flip member
    have missing := same.mem_iff.1 inside
    obtain ⟨name, held⟩ := exists_name_of_missing collected missing
    constructor
    · intro none
      have impossible := listedAs.names.mem_iff.2 held
      rw [none] at impossible
      cases impossible
    · exact List.Nodup.of_map Json.str
        (listedAs.names.nodup_iff.2 (nodup_names_of_missing collected missing))
  · intro kind name
    have lacks : (∃ entry ∈ unsatisfiedSchema registry expected, keyOf entry.1 = keyOf kind ∧
        ∃ other ∈ entry.2, keyOf other = .str name) ↔
        ∃ other, keyOf other = keyOf kind ∧ Lacks schemas registry other (.str name) := by
      rw [missing_iff collected]
      simp only [keyOf_eq_str_iff]
      constructor
      · rintro ⟨other, own, lacks, ofKind, rfl⟩
        exact ⟨other, ofKind, lacks⟩
      · rintro ⟨other, ofKind, lacks⟩
        exact ⟨other, _, lacks, ofKind, rfl⟩
    refine Iff.trans ?_ lacks
    constructor
    · rintro ⟨item, member, ofKind, held⟩
      obtain ⟨entry, inside, listedAs⟩ := exists_mem_of_forall₂ related.flip member
      exact ⟨entry, same.mem_iff.1 inside, listedAs.kind.symm.trans ofKind, .str name,
        listedAs.names.mem_iff.1 (List.mem_map_of_mem held), rfl⟩
    · rintro ⟨entry, inside, ofKind, other, held, ofName⟩
      obtain ⟨item, member, listedAs⟩ := exists_mem_of_forall₂ related (same.mem_iff.2 inside)
      obtain ⟨own, listed, equal⟩ := List.mem_map.1 (listedAs.names.mem_iff.2 held)
      rw [← equal, keyOf_str, Json.str.injEq] at ofName
      rw [ofName] at listed
      exact ⟨item, member, listedAs.kind.trans ofKind, listed⟩

/-- What a registry lacks can be listed when the files declare nothing else. -/
theorem exists_missingDetail_of_listable
    (collected : collectExtensionAttributes schemas = .ok expected) (listable : Listable schemas)
    (registry : Registry) :
    ∃ detail, missingDetail (unsatisfiedSchema registry expected) = .ok detail := by
  have declared : ∀ entry ∈ unsatisfiedSchema registry expected,
      ∃ names, expected.get? (keyOf entry.1) = some (entry.1, names) ∧
        ∀ name ∈ entry.2, name ∈ names := by
    intro entry member
    obtain ⟨-, names, found, absent⟩ :=
      (mem_unsatisfiedSchema_iff collected registry entry).1 member
    refine ⟨names, found, ?_⟩
    rw [absent]
    exact fun name inside => List.mem_of_mem_filter inside
  apply (exists_missingDetail_iff _).2
  constructor
  · apply List.pairwise_of_forall_mem_list
    intro left leftMember right rightMember
    obtain ⟨_, leftFound, -⟩ := declared left leftMember
    obtain ⟨_, rightFound, -⟩ := declared right rightMember
    obtain ⟨leftName, declaresLeft⟩ := (sound_collected collected _ _ _ leftFound).kind
    obtain ⟨rightName, declaresRight⟩ := (sound_collected collected _ _ _ rightFound).kind
    exact listable.kinds _ _ _ _ declaresLeft declaresRight
  · intro entry member name inside
    obtain ⟨names, found, held⟩ := declared entry member
    obtain ⟨kind, -, declares⟩ :=
      (sound_collected collected _ _ _ found).each name (held name inside)
    exact listable.names kind name declares

/-- When everything is missing, it can be listed only when the files declare nothing else. -/
theorem listable_of_missingDetail
    (collected : collectExtensionAttributes schemas = .ok expected) {detail : String}
    (returned : missingDetail (unsatisfiedSchema .absent expected) = .ok detail) :
    Listable schemas := by
  obtain ⟨comparable, written⟩ := (exists_missingDetail_iff _).1 ⟨detail, returned⟩
  have missing : ∀ kind name, Declares schemas kind name →
      ∃ entry ∈ unsatisfiedSchema .absent expected, keyOf entry.1 = keyOf kind ∧
        ∃ other ∈ entry.2, keyOf other = keyOf name := by
    intro kind name declares
    refine (missing_iff collected .absent _ _).2 ⟨kind, name, ⟨declares, ?_⟩, rfl, rfl⟩
    intro impossible
    cases impossible
  constructor
  · intro kind name declares
    obtain ⟨entry, member, -, other, inside, same⟩ := missing kind name declares
    obtain ⟨string, rfl⟩ := written entry member other inside
    exact ⟨string, (keyOf_eq_str_iff name string).1 same.symm⟩
  · intro kind name other otherName declares declaresOther
    obtain ⟨left, leftMember, leftKey, -⟩ := missing kind name declares
    obtain ⟨right, rightMember, rightKey, -⟩ := missing other otherName declaresOther
    have symmetric : Std.Symm fun left right : Json × List Json => Comparable left.1 right.1 := by
      constructor
      intro first second
      rw [comparable_iff, comparable_iff]
      exact Iff.symm
    have compared := comparable.forall_of_forall
      (fun entry _ => (comparable_iff entry.1 entry.1).2 Iff.rfl) leftMember rightMember
    rw [comparable_iff] at compared ⊢
    rw [← isString_congr leftKey, ← isString_congr rightKey]
    exact compared

end Snapl.Intent
