import Snapl.Intent.SchemaLoader
import Snapl.Library.Fallible

/-!
# Extension sections

A schema file adds attributes to kinds in its section `extensions`.  A section
that is missing or null adds nothing; one of another shape stops the loader.
The attributes expected of a kind are those that any of the files adds to it.
-/

namespace Snapl.Intent

open Snapl.Library

/-! ## What a file adds -/

/-- The items of a list. -/
def listed : Json → List Json
  | .arr items => items
  | _ => []

/-- A node adds an attribute of this name to a kind. -/
structure ExtendsBy (node kind name : Json) : Prop where
  ofKind : node.field "kind" = kind
  kindPresent : kind.truthy = true
  listed : ∃ entry ∈ listed (node.field "attributes"), entry.field "name" = name
  namePresent : name.truthy = true

/-- The nodes of the section `extensions` of a file. -/
def extensionNodes (schema : Json) : List Json :=
  listed ((schema.field "extensions").field "nodes")

/-- A file adds an attribute of this name to a kind. -/
def Adds (schema kind name : Json) : Prop :=
  ∃ node ∈ extensionNodes schema, ExtendsBy node kind name

/-! ## Files the loader reads -/

def IsMapping (value : Json) : Prop := ∃ fields, value = .obj fields

/-- Missing, empty, or a mapping. -/
def OptionalMapping (value : Json) : Prop := value.truthy = false ∨ IsMapping value

/-- Missing, empty, or a list. -/
def OptionalList (value : Json) : Prop := value.truthy = false ∨ ∃ items, value = .arr items

structure AttributeWellFormed (entry : Json) : Prop where
  mapping : IsMapping entry
  scalar : (entry.field "name").truthy = true → Hashable (entry.field "name")

structure NodeWellFormed (node : Json) : Prop where
  mapping : IsMapping node
  attributes : (node.field "kind").truthy = true → OptionalList (node.field "attributes")
  each : (node.field "kind").truthy = true →
    ∀ entry ∈ listed (node.field "attributes"), AttributeWellFormed entry
  scalar : ∀ kind name, ExtendsBy node kind name → Hashable kind

structure SchemaWellFormed (schema : Json) : Prop where
  mapping : OptionalMapping schema
  extensions : OptionalMapping (schema.field "extensions")
  nodes : OptionalList ((schema.field "extensions").field "nodes")
  each : ∀ node ∈ extensionNodes schema, NodeWellFormed node

/-! ## Keys -/

@[simp]
theorem keyOf_str (value : String) : keyOf (.str value) = .str value := rfl

theorem keyOf_eq_str_iff (value : Json) (string : String) :
    keyOf value = .str string ↔ value = .str string := by
  constructor
  · intro same
    rw [keyOf] at same
    split at same
    · cases same
    · exact same
  · rintro rfl
    rfl

theorem exists_mem_insertName_iff (names : List Json) (name key : Json) :
    (∃ other ∈ insertName names name, keyOf other = key) ↔
      (∃ other ∈ names, keyOf other = key) ∨ keyOf name = key := by
  rw [insertName]
  split_ifs with held
  · obtain ⟨other, member, same⟩ := held
    constructor
    · exact Or.inl
    · rintro (already | added)
      · exact already
      · exact ⟨other, member, same.trans added⟩
  · simp only [List.mem_append, List.mem_singleton, or_and_right, exists_or, exists_eq_left]

theorem nodup_insertName {names : List Json} (distinct : (names.map keyOf).Nodup) (name : Json) :
    ((insertName names name).map keyOf).Nodup := by
  rw [insertName]
  split_ifs with held
  · exact distinct
  · rw [List.map_append, List.map_singleton]
    apply List.Nodup.append distinct (List.nodup_singleton _)
    rw [List.disjoint_singleton]
    intro member
    obtain ⟨other, inside, same⟩ := List.mem_map.1 member
    exact held ⟨other, inside, same⟩

theorem mem_insertName {names : List Json} {name other : Json}
    (member : other ∈ insertName names name) : other ∈ names ∨ other = name := by
  rw [insertName] at member
  split_ifs at member
  · exact Or.inl member
  · simpa using member

/-- The set holds what it held before, and the names it was updated with. -/
theorem exists_mem_update_iff (held names : List Json) (key : Json) :
    (∃ other ∈ names.foldl insertName held, keyOf other = key) ↔
      (∃ other ∈ held, keyOf other = key) ∨ ∃ other ∈ names, keyOf other = key := by
  induction names generalizing held with
  | nil => simp
  | cons name names induction =>
      rw [List.foldl_cons, induction, exists_mem_insertName_iff, List.exists_mem_cons_iff,
        or_assoc]

theorem nodup_update {held : List Json} (distinct : (held.map keyOf).Nodup) (names : List Json) :
    ((names.foldl insertName held).map keyOf).Nodup := by
  induction names generalizing held with
  | nil => exact distinct
  | cons name names induction => exact induction (nodup_insertName distinct name)

theorem mem_update {held names : List Json} {other : Json}
    (member : other ∈ names.foldl insertName held) : other ∈ held ∨ other ∈ names := by
  induction names generalizing held with
  | nil => exact Or.inl member
  | cons name names induction =>
      rcases induction member with inserted | later
      · rcases mem_insertName inserted with before | rfl
        · exact Or.inl before
        · exact Or.inr List.mem_cons_self
      · exact Or.inr (List.mem_cons_of_mem name later)

/-! ## Expected attributes -/

/-- An attribute is expected of a kind. -/
def Expected.Has (expected : Expected) (kindKey nameKey : Json) : Prop :=
  ∃ shown names, expected.get? kindKey = some (shown, names) ∧
    ∃ name ∈ names, keyOf name = nameKey

theorem Expected.not_has_empty (kindKey nameKey : Json) :
    ¬Expected.Has Dict.empty kindKey nameKey := by
  rintro ⟨shown, names, held, -⟩
  cases held

theorem Expected.has_extend_iff
    (expected : Expected) (kind : Json) (names : List Json) (kindKey nameKey : Json) :
    (expected.extend kind names).Has kindKey nameKey ↔
      expected.Has kindKey nameKey ∨
        (keyOf kind = kindKey ∧ ∃ name ∈ names, keyOf name = nameKey) := by
  by_cases same : kindKey = keyOf kind
  · obtain rfl := same
    have found : (expected.extend kind names).get? (keyOf kind) =
        some (((expected.get? (keyOf kind)).getD (kind, [])).1,
          names.foldl insertName ((expected.get? (keyOf kind)).getD (kind, [])).2) :=
      Dict.get?_set_self expected _ _
    constructor
    · rintro ⟨shown, held, heldBy, holds⟩
      rw [found, Option.some.injEq, Prod.mk.injEq] at heldBy
      obtain ⟨-, rfl⟩ := heldBy
      rcases (exists_mem_update_iff _ _ _).1 holds with before | added
      · rcases old : expected.get? (keyOf kind) with _ | ⟨first, others⟩
        · rw [old] at before
          obtain ⟨name, impossible, -⟩ := before
          cases impossible
        · rw [old] at before
          exact Or.inl ⟨first, others, old, before⟩
      · exact Or.inr ⟨rfl, added⟩
    · intro either
      refine ⟨_, _, found, (exists_mem_update_iff _ _ _).2 ?_⟩
      rcases either with ⟨shown, held, heldBy, holds⟩ | ⟨-, added⟩
      · apply Or.inl
        rw [heldBy]
        exact holds
      · exact Or.inr added
  · have kept : (expected.extend kind names).get? kindKey = expected.get? kindKey :=
      Dict.get?_set_of_ne expected _ same
    rw [Has, Has, kept]
    constructor
    · exact Or.inl
    · rintro (before | ⟨equal, -⟩)
      · exact before
      · exact absurd equal.symm same

/-! ## Reading a section -/

theorem field_of_not_truthy {value : Json} (falsy : value.truthy = false) (name : String) :
    value.field name = .null := by
  cases value with
  | obj fields =>
      have empty : fields = [] := by simpa [Json.truthy] using falsy
      rw [empty]
      rfl
  | _ => rfl

theorem listed_of_not_truthy {value : Json} (falsy : value.truthy = false) :
    listed value = [] := by
  cases value with
  | arr items =>
      have empty : items = [] := by simpa [Json.truthy] using falsy
      rw [empty]
      rfl
  | _ => rfl

theorem sectionOf_ok_iff (value : Json) (name : String) (content : Json) :
    sectionOf value name = .ok content ↔
      OptionalMapping value ∧ value.field name = content := by
  unfold sectionOf
  split_ifs with falsy
  · rw [Except.ok.injEq, field_of_not_truthy falsy]
    exact (and_iff_right (Or.inl falsy)).symm
  · cases value with
    | obj fields =>
        have mapping : OptionalMapping (.obj fields) := Or.inr ⟨fields, rfl⟩
        rw [and_iff_right mapping, Except.ok.injEq]
        rfl
    | _ =>
        constructor
        · intro impossible
          cases impossible
        · rintro ⟨absent | ⟨fields, impossible⟩, -⟩
          · exact absurd absent falsy
          · cases impossible

theorem iterableItems_of_optionalList {value : Json} (optional : OptionalList value) :
    iterableItems value = .ok (listed value) := by
  unfold iterableItems
  split_ifs with falsy
  · rw [listed_of_not_truthy falsy]
  · rcases optional with absent | ⟨items, rfl⟩
    · exact absurd absent falsy
    · rfl

/-- What is not a list either cannot be iterated over, or its first item is a string. -/
theorem iterableItems_of_not_optionalList
    {value : Json} {items : List Json} (other : ¬OptionalList value)
    (returned : iterableItems value = .ok items) : ∃ string rest, items = .str string :: rest := by
  have truthy : ¬value.truthy = false := fun falsy => other (Or.inl falsy)
  unfold iterableItems at returned
  rw [if_neg truthy] at returned
  cases value with
  | arr own => exact absurd (Or.inr ⟨own, rfl⟩) other
  | obj fields =>
      cases fields with
      | nil => exact absurd rfl truthy
      | cons field fields => exact ⟨_, _, (Except.ok.inj returned).symm⟩
  | str string =>
      obtain rfl := Except.ok.inj returned
      rcases chars : string.toList with _ | ⟨char, rest⟩
      · rw [String.toList_eq_nil_iff] at chars
        exact absurd (by rw [chars]; rfl) truthy
      · exact ⟨_, _, rfl⟩
  | _ => cases returned

/-- A step that refuses strings goes through the items of a list, and of nothing else. -/
theorem foldlM_iterableItems_iff
    {State : Type} {step : State → Json → Except LoadError State}
    (refuses : ∀ state string next, step state (.str string) ≠ .ok next)
    (value : Json) (state final : State) :
    (∃ items, iterableItems value = .ok items ∧ items.foldlM step state = .ok final) ↔
      OptionalList value ∧ (listed value).foldlM step state = .ok final := by
  by_cases optional : OptionalList value
  · rw [iterableItems_of_optionalList optional, and_iff_right optional]
    simp only [Except.ok.injEq, exists_eq_left']
  · constructor
    · rintro ⟨items, returned, ended⟩
      obtain ⟨string, rest, rfl⟩ := iterableItems_of_not_optionalList optional returned
      rw [List.foldlM_cons] at ended
      obtain ⟨next, stepped, -⟩ := (bind_eq_ok _ _ _).1 ended
      exact absurd stepped (refuses state string next)
    · rintro ⟨impossible, -⟩
      exact absurd impossible optional

/-! ## The attributes of a node -/

theorem addAttributeName_ok_iff (names : List Json) (entry : Json) (next : List Json) :
    addAttributeName names entry = .ok next ↔
      AttributeWellFormed entry ∧
        next = if (entry.field "name").truthy then insertName names (entry.field "name")
          else names := by
  cases entry with
  | obj fields =>
      have named : (Json.obj fields).field "name" = (fields.lookup "name").getD .null := rfl
      rw [addAttributeName, named]
      split_ifs with present hashable
      · have wellFormed : AttributeWellFormed (.obj fields) :=
          ⟨⟨fields, rfl⟩, fun _ => hashable⟩
        rw [and_iff_right wellFormed, Except.ok.injEq, eq_comm]
      · constructor
        · intro impossible
          cases impossible
        · rintro ⟨wellFormed, -⟩
          exact absurd (wellFormed.scalar present) hashable
      · have wellFormed : AttributeWellFormed (.obj fields) :=
          ⟨⟨fields, rfl⟩, fun impossible => absurd impossible present⟩
        rw [and_iff_right wellFormed, Except.ok.injEq, eq_comm]
  | _ =>
      constructor
      · intro impossible
        cases impossible
      · rintro ⟨⟨⟨fields, impossible⟩, -⟩, -⟩
        cases impossible

/-- The names a node adds to its kind, each once. -/
structure NamesOf (node : Json) (names : List Json) : Prop where
  distinct : (names.map keyOf).Nodup
  added : ∀ name ∈ names, ExtendsBy node (node.field "kind") name
  complete : ∀ kind name, ExtendsBy node kind name →
    ∃ other ∈ names, keyOf other = keyOf name

theorem namesOf_of_foldlM
    {node : Json} {names : List Json} (kindPresent : (node.field "kind").truthy = true)
    (ended : (listed (node.field "attributes")).foldlM addAttributeName [] = .ok names) :
    NamesOf node names := by
  have stepped : ∀ held entry next, addAttributeName held entry = .ok next →
      next = if (entry.field "name").truthy then insertName held (entry.field "name")
        else held :=
    fun held entry next returned => ((addAttributeName_ok_iff held entry next).1 returned).2
  refine ⟨?_, ?_, ?_⟩
  · refine foldlM_keeps (fun held => (held.map keyOf).Nodup) ?_ List.nodup_nil ended
    intro held entry _ next distinct returned
    rw [stepped held entry next returned]
    split_ifs
    · exact nodup_insertName distinct _
    · exact distinct
  · refine foldlM_keeps (fun held => ∀ name ∈ held, ExtendsBy node (node.field "kind") name) ?_
      (List.forall_mem_nil _) ended
    intro held entry member next added returned name inside
    rw [stepped held entry next returned] at inside
    split_ifs at inside with present
    · rcases mem_insertName inside with before | rfl
      · exact added name before
      · exact ⟨rfl, kindPresent, ⟨entry, member, rfl⟩, present⟩
    · exact added name inside
  · rintro kind name ⟨-, -, ⟨entry, member, named⟩, present⟩
    have collected := foldlM_collects (fun held => ∃ other ∈ held, keyOf other = keyOf name)
      (fun entry => (entry.field "name").truthy = true ∧
        keyOf (entry.field "name") = keyOf name) ?_ ended
    · exact collected.2 (Or.inr ⟨entry, member, by rw [named]; exact ⟨present, rfl⟩⟩)
    · intro held entry next returned
      rw [stepped held entry next returned]
      split_ifs with truthy
      · rw [exists_mem_insertName_iff]
        simp [truthy]
      · simp [truthy]

theorem addAttributeName_refuses (names : List Json) (string : String) (next : List Json) :
    addAttributeName names (.str string) ≠ .ok next := by
  intro impossible
  cases impossible

theorem addExtension_obj (expected : Expected) (fields : List (String × Json)) :
    addExtension expected (.obj fields) =
      if ((Json.obj fields).field "kind").truthy then
        iterableItems ((Json.obj fields).field "attributes") >>= fun attributes =>
          attributes.foldlM addAttributeName [] >>= fun names =>
            if names = [] then .ok expected
            else if Hashable ((Json.obj fields).field "kind") then
              .ok (expected.extend ((Json.obj fields).field "kind") names)
            else .error (.raised .typeError)
      else .ok expected := rfl

/-- The names of a node are found where its attributes are well formed. -/
theorem exists_names_iff (attributes : Json) :
    (∃ names, (listed attributes).foldlM addAttributeName [] = .ok names) ↔
      ∀ entry ∈ listed attributes, AttributeWellFormed entry := by
  apply foldlM_ok_iff
  intro held entry
  simp only [addAttributeName_ok_iff, exists_and_left, exists_eq, and_true]

/-- A node that names a kind is read where its names are found and the kind can be a key. -/
theorem addExtension_of_kind
    {expected next : Expected} {fields : List (String × Json)}
    (kindPresent : ((Json.obj fields).field "kind").truthy = true) :
    addExtension expected (.obj fields) = .ok next ↔
      OptionalList ((Json.obj fields).field "attributes") ∧
        ∃ names, (listed ((Json.obj fields).field "attributes")).foldlM addAttributeName [] =
            .ok names ∧
          ((names = [] ∧ next = expected) ∨
            (names ≠ [] ∧ Hashable ((Json.obj fields).field "kind") ∧
              next = expected.extend ((Json.obj fields).field "kind") names)) := by
  have last : ∀ names : List Json,
      (if names = [] then .ok expected
        else if Hashable ((Json.obj fields).field "kind") then
          .ok (expected.extend ((Json.obj fields).field "kind") names)
        else .error (LoadError.raised .typeError)) = Except.ok next ↔
      ((names = [] ∧ next = expected) ∨
        (names ≠ [] ∧ Hashable ((Json.obj fields).field "kind") ∧
          next = expected.extend ((Json.obj fields).field "kind") names)) := by
    intro names
    split_ifs with none hashable
    · simp [none, eq_comm]
    · simp [none, hashable, eq_comm]
    · simp [none, hashable]
  rw [addExtension_obj, if_pos kindPresent, bind_eq_ok]
  simp only [bind_eq_ok, last]
  constructor
  · rintro ⟨attributes, iterated, names, named, ends⟩
    obtain ⟨optional, ended⟩ := (foldlM_iterableItems_iff addAttributeName_refuses _ _ _).1
      ⟨attributes, iterated, named⟩
    exact ⟨optional, names, ended, ends⟩
  · rintro ⟨optional, names, ended, ends⟩
    obtain ⟨attributes, iterated, named⟩ :=
      (foldlM_iterableItems_iff addAttributeName_refuses _ _ _).2 ⟨optional, ended⟩
    exact ⟨attributes, iterated, names, named, ends⟩

/-- A node that names no kind adds nothing. -/
theorem addExtension_of_no_kind
    {expected : Expected} {fields : List (String × Json)}
    (unnamed : ¬((Json.obj fields).field "kind").truthy = true) :
    addExtension expected (.obj fields) = .ok expected := by
  rw [addExtension_obj, if_neg unnamed]

theorem not_extendsBy_of_no_kind
    {node : Json} (unnamed : ¬(node.field "kind").truthy = true) (kind name : Json) :
    ¬ExtendsBy node kind name := by
  rintro ⟨rfl, kindPresent, -, -⟩
  exact unnamed kindPresent

/-- A node is read where it is well formed. -/
theorem exists_addExtension_iff (expected : Expected) (node : Json) :
    (∃ next, addExtension expected node = .ok next) ↔ NodeWellFormed node := by
  cases node with
  | obj fields =>
      by_cases kindPresent : ((Json.obj fields).field "kind").truthy = true
      · simp only [addExtension_of_kind kindPresent]
        constructor
        · rintro ⟨next, optional, names, named, ends⟩
          refine ⟨⟨fields, rfl⟩, fun _ => optional, ?_, ?_⟩
          · exact fun _ => (exists_names_iff _).1 ⟨names, named⟩
          · intro kind name extends_
            obtain ⟨other, member, -⟩ :=
              (namesOf_of_foldlM kindPresent named).complete kind name extends_
            rcases ends with ⟨rfl, -⟩ | ⟨-, hashable, -⟩
            · cases member
            · rw [extends_.ofKind] at hashable
              exact hashable
        · intro wellFormed
          obtain ⟨names, named⟩ := (exists_names_iff _).2 (wellFormed.each kindPresent)
          by_cases none : names = []
          · exact ⟨_, wellFormed.attributes kindPresent, names, named, Or.inl ⟨none, rfl⟩⟩
          · obtain ⟨name, member⟩ := List.exists_mem_of_ne_nil names none
            have hashable := wellFormed.scalar _ name
              ((namesOf_of_foldlM kindPresent named).added name member)
            exact ⟨_, wellFormed.attributes kindPresent, names, named,
              Or.inr ⟨none, hashable, rfl⟩⟩
      · constructor
        · intro _
          refine ⟨⟨fields, rfl⟩, fun impossible => absurd impossible kindPresent,
            fun impossible => absurd impossible kindPresent, ?_⟩
          intro kind name extends_
          exact absurd extends_ (not_extendsBy_of_no_kind kindPresent kind name)
        · intro _
          exact ⟨expected, addExtension_of_no_kind kindPresent⟩
  | _ =>
      constructor
      · rintro ⟨next, impossible⟩
        cases impossible
      · rintro ⟨⟨fields, impossible⟩, -, -, -⟩
        cases impossible

/-- The names of a node are expected of its kind. -/
theorem addExtension_cases
    {expected next : Expected} {node : Json} (stepped : addExtension expected node = .ok next) :
    (next = expected ∧ ∀ kind name, ¬ExtendsBy node kind name) ∨
      ∃ names, names ≠ [] ∧ NamesOf node names ∧
        next = expected.extend (node.field "kind") names := by
  cases node with
  | obj fields =>
      by_cases kindPresent : ((Json.obj fields).field "kind").truthy = true
      · obtain ⟨-, names, named, ends⟩ := (addExtension_of_kind kindPresent).1 stepped
        have namesOf := namesOf_of_foldlM kindPresent named
        rcases ends with ⟨rfl, same⟩ | ⟨some_, -, extended⟩
        · refine Or.inl ⟨same, ?_⟩
          intro kind name extends_
          obtain ⟨other, impossible, -⟩ := namesOf.complete kind name extends_
          cases impossible
        · exact Or.inr ⟨names, some_, namesOf, extended⟩
      · rw [addExtension_of_no_kind kindPresent, Except.ok.injEq] at stepped
        exact Or.inl ⟨stepped.symm, not_extendsBy_of_no_kind kindPresent⟩
  | _ => cases stepped

theorem addExtension_refuses (expected : Expected) (string : String) (next : Expected) :
    addExtension expected (.str string) ≠ .ok next := by
  intro impossible
  cases impossible

/-- After a node, what it adds is expected too. -/
theorem has_addExtension_iff
    {expected next : Expected} {node : Json} (stepped : addExtension expected node = .ok next)
    (kindKey nameKey : Json) :
    next.Has kindKey nameKey ↔
      expected.Has kindKey nameKey ∨
        ∃ kind name, ExtendsBy node kind name ∧ keyOf kind = kindKey ∧ keyOf name = nameKey := by
  rcases addExtension_cases stepped with ⟨rfl, none⟩ | ⟨names, -, namesOf, rfl⟩
  · constructor
    · exact Or.inl
    · rintro (before | ⟨kind, name, extends_, -⟩)
      · exact before
      · exact absurd extends_ (none kind name)
  · rw [Expected.has_extend_iff]
    apply or_congr_right
    constructor
    · rintro ⟨ofKind, name, member, ofName⟩
      exact ⟨_, name, namesOf.added name member, ofKind, ofName⟩
    · rintro ⟨kind, name, extends_, rfl, rfl⟩
      rw [extends_.ofKind]
      exact ⟨rfl, namesOf.complete kind name extends_⟩

/-! ## Entries -/

/-- Some file adds an attribute of this name to a kind. -/
def Declares (schemas : List Json) (kind name : Json) : Prop :=
  ∃ schema ∈ schemas, Adds schema kind name

/-- An entry holds the names that are declared of its kind, each once. -/
structure EntryOf (declared : Json → Json → Prop) (key shown : Json) (names : List Json) :
    Prop where
  ofKey : keyOf shown = key
  some : names ≠ []
  distinct : (names.map keyOf).Nodup
  kind : ∃ name, declared shown name
  each : ∀ name ∈ names, ∃ kind, keyOf kind = key ∧ declared kind name

/-- Every entry is one of a declared kind. -/
def Expected.Sound (declared : Json → Json → Prop) (expected : Expected) : Prop :=
  ∀ key shown names, expected.get? key = some (shown, names) → EntryOf declared key shown names

theorem Expected.sound_empty (declared : Json → Json → Prop) :
    Expected.Sound declared Dict.empty := by
  intro key shown names impossible
  cases impossible

theorem Expected.sound_extend
    {declared : Json → Json → Prop} {expected : Expected} {node : Json} {names : List Json}
    (sound : expected.Sound declared) (some_ : names ≠ []) (namesOf : NamesOf node names)
    (declares : ∀ kind name, ExtendsBy node kind name → declared kind name) :
    (expected.extend (node.field "kind") names).Sound declared := by
  intro key shown held found
  by_cases same : key = keyOf (node.field "kind")
  · obtain rfl := same
    have own : ∀ name ∈ names, declared (node.field "kind") name :=
      fun name member => declares _ name (namesOf.added name member)
    rw [extend, Dict.get?_set_self, Option.some.injEq, Prod.mk.injEq] at found
    obtain ⟨rfl, rfl⟩ := found
    have grown : ∀ before : List Json, names.foldl insertName before ≠ [] := by
      intro before empty
      obtain ⟨name, member⟩ := List.exists_mem_of_ne_nil names some_
      obtain ⟨other, impossible, -⟩ := (exists_mem_update_iff before names (keyOf name)).2
        (Or.inr ⟨name, member, rfl⟩)
      rw [empty] at impossible
      cases impossible
    rcases old : expected.get? (keyOf (node.field "kind")) with _ | ⟨first, others⟩
    · obtain ⟨name, member⟩ := List.exists_mem_of_ne_nil names some_
      have none : (([] : List Json).map keyOf).Nodup := List.nodup_nil
      refine ⟨rfl, grown _, nodup_update none names, ⟨name, own name member⟩, ?_⟩
      intro other inside
      rcases mem_update inside with impossible | added
      · cases impossible
      · exact ⟨_, rfl, own other added⟩
    · have before := sound _ _ _ old
      refine ⟨before.ofKey, grown _, nodup_update before.distinct names, before.kind, ?_⟩
      intro other inside
      rcases mem_update inside with kept | added
      · exact before.each other kept
      · exact ⟨_, rfl, own other added⟩
  · rw [extend, Dict.get?_set_of_ne expected _ same] at found
    exact sound key shown held found

theorem Expected.sound_addExtension
    {declared : Json → Json → Prop} {expected next : Expected} {node : Json}
    (sound : expected.Sound declared)
    (declares : ∀ kind name, ExtendsBy node kind name → declared kind name)
    (stepped : addExtension expected node = .ok next) : next.Sound declared := by
  rcases addExtension_cases stepped with ⟨rfl, -⟩ | ⟨names, some_, namesOf, rfl⟩
  · exact sound
  · exact sound_extend sound some_ namesOf declares

/-! ## Files -/

theorem addSchema_ok_iff (expected : Expected) (schema : Json) (next : Expected) :
    addSchema expected schema = .ok next ↔
      OptionalMapping schema ∧ OptionalMapping (schema.field "extensions") ∧
        OptionalList ((schema.field "extensions").field "nodes") ∧
        (extensionNodes schema).foldlM addExtension expected = .ok next := by
  have unfolded : addSchema expected schema =
      sectionOf schema "extensions" >>= fun extensions =>
        sectionOf extensions "nodes" >>= fun nodes =>
          iterableItems nodes >>= fun items => items.foldlM addExtension expected := rfl
  rw [unfolded]
  simp only [bind_eq_ok, sectionOf_ok_iff]
  constructor
  · rintro ⟨_, ⟨mapping, rfl⟩, _, ⟨extensions, rfl⟩, ended⟩
    exact ⟨mapping, extensions, (foldlM_iterableItems_iff addExtension_refuses _ _ _).1 ended⟩
  · rintro ⟨mapping, extensions, ended⟩
    exact ⟨_, ⟨mapping, rfl⟩, _, ⟨extensions, rfl⟩,
      (foldlM_iterableItems_iff addExtension_refuses _ _ _).2 ended⟩

theorem exists_addSchema_iff (expected : Expected) (schema : Json) :
    (∃ next, addSchema expected schema = .ok next) ↔ SchemaWellFormed schema := by
  simp only [addSchema_ok_iff, exists_and_left]
  rw [foldlM_ok_iff NodeWellFormed exists_addExtension_iff]
  constructor
  · rintro ⟨mapping, extensions, nodes, each⟩
    exact ⟨mapping, extensions, nodes, each⟩
  · rintro ⟨mapping, extensions, nodes, each⟩
    exact ⟨mapping, extensions, nodes, each⟩

theorem has_addSchema_iff
    {expected next : Expected} {schema : Json} (stepped : addSchema expected schema = .ok next)
    (kindKey nameKey : Json) :
    next.Has kindKey nameKey ↔
      expected.Has kindKey nameKey ∨
        ∃ kind name, Adds schema kind name ∧ keyOf kind = kindKey ∧ keyOf name = nameKey := by
  obtain ⟨-, -, -, ended⟩ := (addSchema_ok_iff expected schema next).1 stepped
  rw [foldlM_collects (fun held => held.Has kindKey nameKey) _
    (fun held node after returned => has_addExtension_iff returned kindKey nameKey) ended]
  apply or_congr_right
  constructor
  · rintro ⟨node, member, kind, name, extends_, keys⟩
    exact ⟨kind, name, ⟨node, member, extends_⟩, keys⟩
  · rintro ⟨kind, name, ⟨node, member, extends_⟩, keys⟩
    exact ⟨node, member, kind, name, extends_, keys⟩

/-- The expected attributes are collected where every file is well formed. -/
theorem exists_collected_iff (schemas : List Json) :
    (∃ expected, collectExtensionAttributes schemas = .ok expected) ↔
      ∀ schema ∈ schemas, SchemaWellFormed schema :=
  foldlM_ok_iff SchemaWellFormed exists_addSchema_iff

variable {schemas : List Json} {expected : Expected}

/-- Of a kind those attributes are expected that any of the files adds to it. -/
theorem has_collected_iff
    (collected : collectExtensionAttributes schemas = .ok expected) (kindKey nameKey : Json) :
    expected.Has kindKey nameKey ↔
      ∃ kind name, Declares schemas kind name ∧ keyOf kind = kindKey ∧ keyOf name = nameKey := by
  rw [foldlM_collects (fun held => held.Has kindKey nameKey) _
    (fun held schema after returned => has_addSchema_iff returned kindKey nameKey) collected,
    or_iff_right (Expected.not_has_empty kindKey nameKey)]
  constructor
  · rintro ⟨schema, member, kind, name, adds, keys⟩
    exact ⟨kind, name, ⟨schema, member, adds⟩, keys⟩
  · rintro ⟨kind, name, ⟨schema, member, adds⟩, keys⟩
    exact ⟨schema, member, kind, name, adds, keys⟩

theorem sound_collected (collected : collectExtensionAttributes schemas = .ok expected) :
    expected.Sound (Declares schemas) := by
  refine foldlM_keeps (Expected.Sound (Declares schemas)) ?_ (Expected.sound_empty _) collected
  intro held schema member after sound returned
  obtain ⟨-, -, -, ended⟩ := (addSchema_ok_iff held schema after).1 returned
  refine foldlM_keeps (Expected.Sound (Declares schemas)) ?_ sound ended
  intro middle node inside next soundMiddle stepped
  refine Expected.sound_addExtension soundMiddle ?_ stepped
  intro kind name extends_
  exact ⟨schema, member, node, inside, extends_⟩

end Snapl.Intent
