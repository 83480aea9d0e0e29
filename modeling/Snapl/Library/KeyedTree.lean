import Snapl.Library.Json

/-!
# Trees with keyed lists

Configuration trees in which the entries of a list are told apart by a key
leaf.  A schema says which names are leaves, containers and keyed lists; what
it does not name is free.

`merge` applies an update: containers are merged field by field, a keyed list
entry is merged with the present entry of its key, or inserted where a
`Placement` says, and everything else is overwritten.  What the update does
not mention is kept.
-/

namespace Snapl.Library.KeyedTree

/-- The shape of a tree. -/
inductive Schema where
  | leaf
  | container (children : List (String × Schema))
  | list (key : String) (textual : Bool) (children : List (String × Schema))

/-- Where a new entry goes: at a path, among the present entries. -/
abbrev Placement := List Json → List Json → Json → Nat

mutual

/-- Whether the key of every list is a leaf of its entries. -/
def wellKeyed : Schema → Bool
  | .leaf => true
  | .container children => allWellKeyed children
  | .list key _ children =>
      (match children.lookup key with
        | some .leaf => true
        | _ => false) && allWellKeyed children

/-- Whether every child is well keyed. -/
def allWellKeyed : List (String × Schema) → Bool
  | [] => true
  | (_, schema) :: rest => wellKeyed schema && allWellKeyed rest

end

theorem wellKeyed_of_lookup
    {children : List (String × Schema)} (keyed : allWellKeyed children = true)
    {name : String} {schema : Schema}
    (named : children.lookup name = some schema) :
    wellKeyed schema = true := by
  induction children with
  | nil => cases named
  | cons child rest induction =>
      rcases child with ⟨other, current⟩
      rw [allWellKeyed, Bool.and_eq_true] at keyed
      rw [List.lookup_cons] at named
      split at named
      · cases named
        exact keyed.1
      · exact induction keyed.2 named

theorem wellKeyed_list_iff
    (key : String) (textual : Bool) (children : List (String × Schema)) :
    wellKeyed (.list key textual children) = true ↔
      children.lookup key = some .leaf ∧ allWellKeyed children = true := by
  rw [wellKeyed, Bool.and_eq_true]
  refine and_congr_left fun _ => ?_
  split
  · next named => simp [named]
  · next other => simpa using other

/-! ## Conformance -/

/-- Whether a value is a string. -/
def isText : Json → Bool
  | .str _ => true
  | _ => false

theorem isText_iff (value : Json) :
    isText value = true ↔ ∃ text, value = .str text := by
  cases value <;> simp [isText]

mutual

/--
Whether a value has the shape a schema asks for: dictionaries with distinct
names, and, where `distinct` asks for it, lists with distinct keys.
-/
def conforms (distinct : Bool) (schema : Schema) : Json → Bool
  | .arr items =>
      match schema with
      | .list key textual children =>
          (!distinct || decide (items.map fun item => item.field key).Nodup) &&
            (!textual || items.all fun item => isText (item.field key)) &&
            conformItems distinct children items
      | _ => false
  | .obj fields =>
      match schema with
      | .container children =>
          decide (fields.map Prod.fst).Nodup &&
            conformFields distinct children fields
      | _ => false
  | _ =>
      match schema with
      | .leaf => true
      | _ => false

/-- Whether every field the schema names has its shape. -/
def conformFields (distinct : Bool) (children : List (String × Schema)) :
    List (String × Json) → Bool
  | [] => true
  | (name, value) :: rest =>
      (match children.lookup name with
        | some schema => conforms distinct schema value
        | none => true) &&
        conformFields distinct children rest

/-- Whether every entry of a list has the shape of a container. -/
def conformItems (distinct : Bool) (children : List (String × Schema)) :
    List Json → Bool
  | [] => true
  | item :: rest =>
      conforms distinct (.container children) item &&
        conformItems distinct children rest

end

section

variable {distinct : Bool}

theorem conformFields_iff
    (children : List (String × Schema)) (fields : List (String × Json)) :
    conformFields distinct children fields = true ↔
      ∀ field ∈ fields, ∀ schema, children.lookup field.1 = some schema →
        conforms distinct schema field.2 = true := by
  induction fields with
  | nil => simp [conformFields]
  | cons field rest induction =>
      rcases field with ⟨name, value⟩
      rw [conformFields, Bool.and_eq_true, induction, List.forall_mem_cons]
      refine and_congr_left fun _ => ?_
      rcases children.lookup name with _ | schema
      · simp
      · simp

theorem conformItems_iff
    (children : List (String × Schema)) (items : List Json) :
    conformItems distinct children items = true ↔
      ∀ item ∈ items, conforms distinct (.container children) item = true := by
  induction items with
  | nil => simp [conformItems]
  | cons item rest induction =>
      rw [conformItems, Bool.and_eq_true, induction, List.forall_mem_cons]

theorem conforms_list_iff
    (key : String) (textual : Bool) (children : List (String × Schema))
    (items : List Json) :
    conforms distinct (.list key textual children) (.arr items) = true ↔
      (distinct = true → (items.map fun item => item.field key).Nodup) ∧
        (textual = true →
          ∀ item ∈ items, ∃ text, item.field key = .str text) ∧
        ∀ item ∈ items, conforms distinct (.container children) item = true := by
  rw [conforms, Bool.and_eq_true, Bool.and_eq_true, conformItems_iff, and_assoc]
  refine and_congr ?_ (and_congr_left fun _ => ?_)
  · cases distinct <;> simp
  · cases textual
    · simp
    · simp [List.all_eq_true, isText_iff]

theorem conforms_container_iff
    (children : List (String × Schema)) (fields : List (String × Json)) :
    conforms distinct (.container children) (.obj fields) = true ↔
      (fields.map Prod.fst).Nodup ∧
        ∀ field ∈ fields, ∀ schema, children.lookup field.1 = some schema →
          conforms distinct schema field.2 = true := by
  rw [conforms, Bool.and_eq_true, decide_eq_true_eq, conformFields_iff]

/-- A container is a dictionary. -/
theorem fields_of_conforms
    {children : List (String × Schema)} {value : Json}
    (conforming : conforms distinct (.container children) value = true) :
    ∃ fields, value = .obj fields := by
  cases value <;> simp_all [conforms]

/-- A keyed list is a list. -/
theorem items_of_conforms
    {key : String} {textual : Bool} {children : List (String × Schema)}
    {value : Json}
    (conforming : conforms distinct (.list key textual children) value = true) :
    ∃ items, value = .arr items := by
  cases value <;> simp_all [conforms]

/-- A field the schema names is absent, or has its shape. -/
theorem field_conforms
    {children : List (String × Schema)} {value : Json} {name : String}
    {schema : Schema}
    (conforming : conforms distinct (.container children) value = true)
    (named : children.lookup name = some schema) :
    value.field name = .null ∨
      conforms distinct schema (value.field name) = true := by
  obtain ⟨fields, rfl⟩ := fields_of_conforms conforming
  rw [Json.field]
  rcases found : fields.lookup name with _ | current
  · exact Or.inl rfl
  · exact Or.inr
      (((conforms_container_iff children fields).1 conforming).2
        (name, current) (mem_of_lookup found) schema named)

end

/-- A value that is neither a list nor a dictionary. -/
def IsLeaf : Json → Prop
  | .arr _ => False
  | .obj _ => False
  | _ => True

theorem isLeaf_of_conforms
    {distinct : Bool} {value : Json}
    (conforming : conforms distinct .leaf value = true) : IsLeaf value := by
  cases value <;> simp_all [conforms, IsLeaf]

/-! ## Lists -/

/-- The entries of a list, none when there is no list. -/
def itemsOf : Json → List Json
  | .arr items => items
  | _ => []

/-- The fields of a dictionary, none when there is no dictionary. -/
def fieldsOf : Json → List (String × Json)
  | .obj fields => fields
  | _ => []

@[simp]
theorem itemsOf_arr (items : List Json) : itemsOf (.arr items) = items := rfl

@[simp]
theorem itemsOf_null : itemsOf .null = [] := rfl

@[simp]
theorem fieldsOf_obj (fields : List (String × Json)) :
    fieldsOf (.obj fields) = fields := rfl

@[simp]
theorem fieldsOf_null : fieldsOf .null = [] := rfl

theorem field_eq (value : Json) (name : String) :
    value.field name = ((fieldsOf value).lookup name).getD .null := by
  cases value <;> rfl

/-- Replace the first matching entry. -/
def replaceFirst (matching : Json → Bool) (update : Json → Json) :
    List Json → List Json
  | [] => []
  | item :: rest =>
      if matching item then update item :: rest
      else item :: replaceFirst matching update rest

/-- Update the entry of a key, or insert it at a position. -/
def upsert (key : String) (value : Json) (update : Json → Json) (position : Nat)
    (items : List Json) : List Json :=
  if items.any fun item => item.field key = value then
    replaceFirst (fun item => item.field key = value) update items
  else items.take position ++ update .null :: items.drop position

theorem replaceFirst_split
    {matching : Json → Bool} (update : Json → Json) {items : List Json}
    (found : items.any matching = true) :
    ∃ before item after, items = before ++ item :: after ∧
      matching item = true ∧ (∀ other ∈ before, matching other = false) ∧
      replaceFirst matching update items = before ++ update item :: after := by
  induction items with
  | nil => simp at found
  | cons first rest induction =>
      by_cases here : matching first = true
      · exact ⟨[], first, rest, rfl, here, by simp, by simp [replaceFirst, here]⟩
      · have inRest : rest.any matching = true := by
          simpa [here] using found
        obtain ⟨before, item, after, split, matched, unmatched, replaced⟩ :=
          induction inRest
        refine ⟨first :: before, item, after, by rw [split]; rfl, matched, ?_, ?_⟩
        · intro other member
          rcases List.mem_cons.1 member with rfl | member
          · simpa using here
          · exact unmatched other member
        · rw [replaceFirst, if_neg here, replaced]
          rfl

/-- An upsert updates the present entry of the key, or inserts one. -/
theorem upsert_split
    (key : String) (value : Json) (update : Json → Json) (position : Nat)
    (items : List Json) :
    (∃ before item after, items = before ++ item :: after ∧
      item.field key = value ∧ (∀ other ∈ before, other.field key ≠ value) ∧
      upsert key value update position items =
        before ++ update item :: after) ∨
    (∃ before after, items = before ++ after ∧
      (∀ other ∈ items, other.field key ≠ value) ∧
      before = items.take position ∧
      upsert key value update position items =
        before ++ update .null :: after) := by
  by_cases found :
      (items.any fun item => decide (item.field key = value)) = true
  · obtain ⟨before, item, after, split, matched, unmatched, replaced⟩ :=
      replaceFirst_split update found
    refine Or.inl ⟨before, item, after, split, by simpa using matched, ?_, ?_⟩
    · intro other member
      simpa using unmatched other member
    · rw [upsert, if_pos found, replaced]
  · refine Or.inr ⟨items.take position, items.drop position,
      (List.take_append_drop position items).symm, ?_, rfl, ?_⟩
    · intro other member equal
      exact found (List.any_eq_true.2 ⟨other, member, by simpa using equal⟩)
    · rw [upsert, if_neg found]

/-! ## Merging -/

mutual

/-- Apply an update to a value. -/
def merge (place : Placement) (path : List Json) (schema : Schema) (old : Json) :
    Json → Json
  | .obj fields =>
      match schema with
      | .container children =>
          .obj (mergeFields place path children (fieldsOf old) fields)
      | _ => .obj fields
  | .arr items =>
      match schema with
      | .list key _ children =>
          .arr (mergeItems place path key children (itemsOf old) items)
      | _ => .arr items
  | value => value
termination_by structural update => update

/-- Apply the fields of an update to the fields of a container. -/
def mergeFields (place : Placement) (path : List Json)
    (children : List (String × Schema)) (olds : List (String × Json)) :
    List (String × Json) → List (String × Json)
  | [] => olds
  | (name, value) :: rest =>
      mergeFields place path children
        (assign olds name
          (match children.lookup name with
            | some schema =>
                merge place (path ++ [.str name]) schema
                  ((olds.lookup name).getD .null) value
            | none => value))
        rest
termination_by structural news => news

/-- Apply the entries of an update to the entries of a keyed list. -/
def mergeItems (place : Placement) (path : List Json) (key : String)
    (children : List (String × Schema)) (olds : List Json) :
    List Json → List Json
  | [] => olds
  | item :: rest =>
      mergeItems place path key children
        (upsert key (item.field key)
          (fun old =>
            merge place (path ++ [item.field key]) (.container children) old item)
          (place path olds item) olds)
        rest
termination_by structural news => news

end

/-- A value of a named child after an update. -/
def mergeChild (place : Placement) (path : List Json)
    (children : List (String × Schema)) (name : String) (old value : Json) :
    Json :=
  match children.lookup name with
  | some schema => merge place (path ++ [.str name]) schema old value
  | none => value

section

variable (place : Placement) (path : List Json)

theorem merge_obj
    (children : List (String × Schema)) (old : Json)
    (fields : List (String × Json)) :
    merge place path (.container children) old (.obj fields) =
      .obj (mergeFields place path children (fieldsOf old) fields) := by
  rw [merge]

theorem merge_arr
    (key : String) (textual : Bool) (children : List (String × Schema))
    (old : Json) (items : List Json) :
    merge place path (.list key textual children) old (.arr items) =
      .arr (mergeItems place path key children (itemsOf old) items) := by
  rw [merge]

theorem merge_leaf (old : Json) {value : Json} (leaf : IsLeaf value) :
    merge place path .leaf old value = value := by
  cases value <;> simp_all [merge, IsLeaf]

/-- A field after an update with distinct names. -/
theorem lookup_mergeFields
    (children : List (String × Schema)) (olds news : List (String × Json))
    (distinct : (news.map Prod.fst).Nodup) (name : String) :
    (mergeFields place path children olds news).lookup name =
      match news.lookup name with
      | some value =>
          some (mergeChild place path children name
            ((olds.lookup name).getD .null) value)
      | none => olds.lookup name := by
  induction news generalizing olds with
  | nil => rfl
  | cons field rest induction =>
      rcases field with ⟨first, value⟩
      simp only [List.map_cons, List.nodup_cons] at distinct
      rw [mergeFields, induction _ distinct.2]
      by_cases same : name = first
      · subst same
        have absent := (lookup_eq_none_iff_not_mem rest name).2 distinct.1
        rw [absent, lookup_assign_self, List.lookup_cons_self]
        rfl
      · rw [lookup_assign_of_ne olds _ same, lookup_cons_of_ne _ _ same]

/-- The value of a field after an update with distinct names. -/
theorem field_merge_obj
    (children : List (String × Schema)) (old : Json)
    (news : List (String × Json)) (distinct : (news.map Prod.fst).Nodup)
    (name : String) :
    (merge place path (.container children) old (.obj news)).field name =
      match news.lookup name with
      | some value =>
          mergeChild place path children name (old.field name) value
      | none => old.field name := by
  rw [merge_obj, Json.field,
    lookup_mergeFields place path children (fieldsOf old) news distinct,
    field_eq old name]
  rcases news.lookup name with _ | value <;> rfl

/-- A field the update does not mention is kept. -/
theorem field_merge_of_absent
    (children : List (String × Schema)) (old : Json)
    {news : List (String × Json)} (distinct : (news.map Prod.fst).Nodup)
    {name : String} (absent : news.lookup name = none) :
    (merge place path (.container children) old (.obj news)).field name =
      old.field name := by
  rw [field_merge_obj place path children old news distinct, absent]

/-- A leaf the update mentions is overwritten. -/
theorem field_merge_of_leaf
    {children : List (String × Schema)} (old : Json)
    {news : List (String × Json)} (distinct : (news.map Prod.fst).Nodup)
    {name : String} {value : Json} (present : news.lookup name = some value)
    (named : children.lookup name = some .leaf) (leaf : IsLeaf value) :
    (merge place path (.container children) old (.obj news)).field name =
      value := by
  rw [field_merge_obj place path children old news distinct, present]
  simp only [mergeChild, named]
  exact merge_leaf place _ _ leaf

/-- A child the update mentions is merged. -/
theorem field_merge_of_child
    {children : List (String × Schema)} (old : Json)
    {news : List (String × Json)} (distinct : (news.map Prod.fst).Nodup)
    {name : String} {value : Json} {schema : Schema}
    (present : news.lookup name = some value)
    (named : children.lookup name = some schema) :
    (merge place path (.container children) old (.obj news)).field name =
      merge place (path ++ [.str name]) schema (old.field name) value := by
  rw [field_merge_obj place path children old news distinct, present]
  simp only [mergeChild, named]

end

/-! ## Entries of keyed lists -/

/-- The entry with a key. -/
def keyedItem? (key : String) (value : Json) (items : List Json) : Option Json :=
  items.find? fun item => item.field key = value

theorem keyedItem?_eq_some
    {key : String} {value item : Json} {items : List Json}
    (found : keyedItem? key value items = some item) :
    item ∈ items ∧ item.field key = value := by
  refine ⟨List.mem_of_find?_eq_some found, ?_⟩
  simpa using List.find?_some found

/-- With distinct keys, every entry is the one its key finds. -/
theorem keyedItem?_of_mem
    {key : String} {items : List Json}
    (distinct : (items.map fun item => item.field key).Nodup)
    {item : Json} (member : item ∈ items) :
    keyedItem? key (item.field key) items = some item := by
  induction items with
  | nil => cases member
  | cons first rest induction =>
      simp only [List.map_cons, List.nodup_cons] at distinct
      rw [keyedItem?, List.find?_cons]
      rcases List.mem_cons.1 member with rfl | inRest
      · simp
      · have different : first.field key ≠ item.field key := by
          intro equal
          apply distinct.1
          rw [equal]
          exact List.mem_map.2 ⟨item, inRest, rfl⟩
        simp only [different, decide_false]
        exact induction distinct.2 inRest

theorem keyedItem?_append
    (key : String) (value : Json) (before after : List Json) :
    keyedItem? key value (before ++ after) =
      (keyedItem? key value before).or (keyedItem? key value after) := by
  rw [keyedItem?, List.find?_append]
  rfl

theorem keyedItem?_eq_none
    {key : String} {value : Json} {items : List Json}
    (absent : ∀ item ∈ items, item.field key ≠ value) :
    keyedItem? key value items = none := by
  rw [keyedItem?, List.find?_eq_none]
  intro item member
  simpa using absent item member

section

variable {key : String} {value : Json} {update : Json → Json}

/-- The entries after an upsert that keeps the key. -/
theorem keyedItem?_upsert
    (keeps : ∀ old, old.field key = value ∨ old = .null →
      (update old).field key = value)
    (position : Nat) (items : List Json) (other : Json) :
    keyedItem? key other (upsert key value update position items) =
      if other = value then
        some (update ((keyedItem? key value items).getD .null))
      else keyedItem? key other items := by
  rcases upsert_split key value update position items with
    ⟨before, item, after, rfl, matched, unmatched, result⟩ |
    ⟨before, after, rfl, unmatched, -, result⟩
  · have kept := keeps item (Or.inl matched)
    have absent := keyedItem?_eq_none unmatched
    rw [result, keyedItem?_append, keyedItem?_append, keyedItem?_append, absent]
    split_ifs with same
    · subst same
      rw [absent]
      simp [keyedItem?, kept, matched]
    · have notItem : ¬ item.field key = other := by
        rw [matched]
        exact fun equal => same equal.symm
      have notUpdated : ¬ (update item).field key = other := by
        rw [kept]
        exact fun equal => same equal.symm
      simp [keyedItem?, notItem, notUpdated]
  · have kept := keeps .null (Or.inr rfl)
    have absent := keyedItem?_eq_none unmatched
    have absentBefore : keyedItem? key value before = none :=
      keyedItem?_eq_none fun item member =>
        unmatched item (List.mem_append_left _ member)
    rw [result, absent, keyedItem?_append, keyedItem?_append]
    split_ifs with same
    · subst same
      rw [absentBefore]
      simp [keyedItem?, kept]
    · have notUpdated : ¬ (update .null).field key = other := by
        rw [kept]
        exact fun equal => same equal.symm
      simp [keyedItem?, notUpdated]

/-- An upsert that keeps the key keeps the keys distinct. -/
theorem nodup_upsert
    (keeps : ∀ old, old.field key = value ∨ old = .null →
      (update old).field key = value)
    (position : Nat) {items : List Json}
    (distinct : (items.map fun item => item.field key).Nodup) :
    ((upsert key value update position items).map
      fun item => item.field key).Nodup := by
  rcases upsert_split key value update position items with
    ⟨before, item, after, rfl, matched, -, result⟩ |
    ⟨before, after, rfl, unmatched, -, result⟩
  · have kept := keeps item (Or.inl matched)
    rw [result]
    simpa only [List.map_append, List.map_cons, kept, matched] using distinct
  · have kept := keeps .null (Or.inr rfl)
    rw [result, List.map_append, List.map_cons, kept, List.nodup_middle,
      List.nodup_cons, ← List.map_append]
    refine ⟨?_, distinct⟩
    intro member
    obtain ⟨item, itemMember, equal⟩ := List.mem_map.1 member
    exact unmatched item itemMember equal

/-- Every entry after an upsert is a present one or the updated one. -/
theorem mem_upsert
    {position : Nat} {items : List Json} {item : Json}
    (member : item ∈ upsert key value update position items) :
    item ∈ items ∨
      ∃ old, (old ∈ items ∧ old.field key = value ∨ old = .null) ∧
        item = update old := by
  rcases upsert_split key value update position items with
    ⟨before, old, after, rfl, matched, -, result⟩ |
    ⟨before, after, rfl, -, -, result⟩
  · rw [result, List.mem_append, List.mem_cons] at member
    rcases member with member | rfl | member
    · exact Or.inl (by simp [member])
    · exact Or.inr ⟨old, Or.inl ⟨by simp, matched⟩, rfl⟩
    · exact Or.inl (by simp [member])
  · rw [result, List.mem_append, List.mem_cons] at member
    rcases member with member | rfl | member
    · exact Or.inl (by simp [member])
    · exact Or.inr ⟨.null, Or.inr rfl, rfl⟩
    · exact Or.inl (by simp [member])

end

/-! ## Merging keyed lists -/

section

variable (place : Placement) (path : List Json)
variable {key : String} {children : List (String × Schema)}

/-- A conforming update of an entry keeps its key. -/
theorem field_key_merge
    (named : children.lookup key = some .leaf)
    {item : Json}
    (conforming : conforms false (.container children) item = true)
    {old : Json} (keyed : old.field key = item.field key ∨ old = .null) :
    (merge place path (.container children) old item).field key =
      item.field key := by
  obtain ⟨fields, rfl⟩ := fields_of_conforms conforming
  obtain ⟨distinct, shapes⟩ := (conforms_container_iff children fields).1 conforming
  rcases present : fields.lookup key with _ | value
  · rw [field_merge_of_absent place path children old distinct present]
    have absent : (Json.obj fields).field key = .null := by
      simp [Json.field, present]
    rcases keyed with keyed | rfl
    · exact keyed
    · rw [absent]
      rfl
  · rw [field_merge_of_leaf place path old distinct present named
      (isLeaf_of_conforms
        (shapes (key, value) (mem_of_lookup present) .leaf named))]
    simp [Json.field, present]

/-- The entries of a keyed list after an update with distinct keys. -/
theorem keyedItem?_mergeItems
    (named : children.lookup key = some .leaf)
    {news : List Json}
    (conforming : ∀ item ∈ news,
      conforms false (.container children) item = true)
    (distinct : (news.map fun item => item.field key).Nodup)
    (olds : List Json) (value : Json) :
    keyedItem? key value (mergeItems place path key children olds news) =
      match keyedItem? key value news with
      | some item =>
          some (merge place (path ++ [value]) (.container children)
            ((keyedItem? key value olds).getD .null) item)
      | none => keyedItem? key value olds := by
  induction news generalizing olds with
  | nil => rfl
  | cons item rest induction =>
      simp only [List.map_cons, List.nodup_cons] at distinct
      have itemConforms := conforming item (by simp)
      have keeps : ∀ old, old.field key = item.field key ∨ old = .null →
          (merge place (path ++ [item.field key]) (.container children) old
            item).field key = item.field key :=
        fun old keyed => field_key_merge place _ named itemConforms keyed
      rw [mergeItems, induction
        (fun other member => conforming other (by simp [member])) distinct.2]
      rw [keyedItem?_upsert keeps]
      by_cases same : value = item.field key
      · subst same
        have absent : keyedItem? key (item.field key) rest = none :=
          keyedItem?_eq_none fun other member equal =>
            distinct.1 (List.mem_map.2 ⟨other, member, equal⟩)
        rw [absent]
        simp [keyedItem?]
      · have different : ¬ item.field key = value := fun equal => same equal.symm
        have skip : keyedItem? key value (item :: rest) = keyedItem? key value rest := by
          simp [keyedItem?, different]
        rw [skip, if_neg same]

end

/-! ## An update keeps the shape -/

theorem conforms_assign
    {distinct : Bool} {children : List (String × Schema)}
    {fields : List (String × Json)}
    (conforming : conforms distinct (.container children) (.obj fields) = true)
    {name : String} {value : Json}
    (shape : ∀ schema, children.lookup name = some schema →
      conforms distinct schema value = true) :
    conforms distinct (.container children)
      (.obj (assign fields name value)) = true := by
  obtain ⟨names, shapes⟩ := (conforms_container_iff children fields).1 conforming
  rw [conforms_container_iff]
  refine ⟨nodup_keys_assign name value names, ?_⟩
  rintro ⟨other, current⟩ member schema named
  have found := lookup_of_mem (nodup_keys_assign name value names) member
  by_cases same : other = name
  · subst same
    rw [lookup_assign_self, Option.some.injEq] at found
    subst found
    exact shape schema named
  · rw [lookup_assign_of_ne fields value same] at found
    exact shapes (other, current) (mem_of_lookup found) schema named

mutual

/--
An update that has the shape, applied to a tree that has it, keeps it.  The
update need not have distinct keys.
-/
theorem conforms_merge
    {distinct : Bool} (place : Placement) (path : List Json) {schema : Schema}
    (keyed : wellKeyed schema = true) {old : Json}
    (oldConforms : old = .null ∨ conforms distinct schema old = true) :
    ∀ update : Json, conforms false schema update = true →
      conforms distinct schema (merge place path schema old update) = true
  | .obj fields, conforming => by
      cases schema with
      | container children =>
          obtain ⟨-, shapes⟩ := (conforms_container_iff children fields).1 conforming
          rw [merge_obj]
          refine conforms_mergeFields place path keyed ?_ fields shapes
          rcases oldConforms with rfl | oldConforms
          · exact (conforms_container_iff children []).2 (by simp)
          · obtain ⟨olds, rfl⟩ := fields_of_conforms oldConforms
            exact oldConforms
      | leaf => cases conforming
      | list key textual children => cases conforming
  | .arr items, conforming => by
      cases schema with
      | list key textual children =>
          obtain ⟨-, texts, shapes⟩ :=
            (conforms_list_iff key textual children items).1 conforming
          rw [merge_arr]
          refine conforms_mergeItems place path keyed ?_ items texts shapes
          rcases oldConforms with rfl | oldConforms
          · exact (conforms_list_iff key textual children []).2 (by simp)
          · obtain ⟨olds, rfl⟩ := items_of_conforms oldConforms
            exact oldConforms
      | leaf => cases conforming
      | container children => cases conforming
  | .null, conforming => by cases schema <;> simp_all [merge, conforms]
  | .bool value, conforming => by cases schema <;> simp_all [merge, conforms]
  | .int value, conforming => by cases schema <;> simp_all [merge, conforms]
  | .float value, conforming => by cases schema <;> simp_all [merge, conforms]
  | .str value, conforming => by cases schema <;> simp_all [merge, conforms]
termination_by structural update => update

theorem conforms_mergeFields
    {distinct : Bool} (place : Placement) (path : List Json)
    {children : List (String × Schema)}
    (keyed : allWellKeyed children = true) {olds : List (String × Json)}
    (oldConforms : conforms distinct (.container children) (.obj olds) = true) :
    ∀ news : List (String × Json),
      (∀ field ∈ news, ∀ schema, children.lookup field.1 = some schema →
        conforms false schema field.2 = true) →
      conforms distinct (.container children)
        (.obj (mergeFields place path children olds news)) = true
  | [], _ => by simpa only [mergeFields] using oldConforms
  | (name, value) :: rest, shapes => by
      rw [mergeFields]
      refine conforms_mergeFields place path keyed (conforms_assign oldConforms ?_)
        rest fun field member => shapes field (by simp [member])
      intro schema named
      simp only [named]
      refine conforms_merge place _ (wellKeyed_of_lookup keyed named) ?_ value
        (shapes (name, value) (by simp) schema named)
      rcases found : olds.lookup name with _ | current
      · exact Or.inl rfl
      · exact Or.inr
          (((conforms_container_iff children olds).1 oldConforms).2
            (name, current) (mem_of_lookup found) schema named)
termination_by structural news => news

theorem conforms_mergeItems
    {distinct : Bool} (place : Placement) (path : List Json)
    {key : String} {textual : Bool} {children : List (String × Schema)}
    (keyed : wellKeyed (.list key textual children) = true)
    {olds : List Json}
    (oldConforms :
      conforms distinct (.list key textual children) (.arr olds) = true) :
    ∀ news : List Json,
      (textual = true → ∀ item ∈ news, ∃ text, item.field key = .str text) →
      (∀ item ∈ news, conforms false (.container children) item = true) →
      conforms distinct (.list key textual children)
        (.arr (mergeItems place path key children olds news)) = true
  | [], _, _ => by simpa only [mergeItems] using oldConforms
  | item :: rest, texts, shapes => by
      obtain ⟨named, childrenKeyed⟩ := (wellKeyed_list_iff _ _ _).1 keyed
      obtain ⟨keys, oldTexts, oldShapes⟩ :=
        (conforms_list_iff key textual children olds).1 oldConforms
      have itemConforms := shapes item (by simp)
      have keeps : ∀ old, old.field key = item.field key ∨ old = .null →
          (merge place (path ++ [item.field key]) (.container children) old
            item).field key = item.field key :=
        fun old keyed => field_key_merge place _ named itemConforms keyed
      have entryKeyed : wellKeyed (.container children) = true := by
        rw [wellKeyed]
        exact childrenKeyed
      rw [mergeItems]
      refine conforms_mergeItems place path keyed ?_ rest
        (fun text other member => texts text other (by simp [member]))
        fun other member => shapes other (by simp [member])
      rw [conforms_list_iff]
      refine ⟨fun asked => nodup_upsert keeps _ (keys asked), ?_, ?_⟩
      · intro text other member
        rcases mem_upsert member with member | ⟨old, oldMember, rfl⟩
        · exact oldTexts text other member
        · rw [keeps old (oldMember.imp_left And.right)]
          exact texts text item (by simp)
      · intro other member
        rcases mem_upsert member with member | ⟨old, oldMember, rfl⟩
        · exact oldShapes other member
        · refine conforms_merge place _ entryKeyed ?_ item itemConforms
          rcases oldMember with ⟨member, -⟩ | rfl
          · exact Or.inr (oldShapes old member)
          · exact Or.inl rfl
termination_by structural news => news

end

/-! ## Leaves of an update -/

mutual

/-- Whether every leaf of an update is in a tree, with its value, at its keyed place. -/
def carries (schema : Schema) (tree : Json) : Json → Bool
  | .arr items =>
      match schema with
      | .list key _ children => carriesItems key children (itemsOf tree) items
      | _ => false
  | .obj fields =>
      match schema with
      | .container children => carriesFields children tree fields
      | _ => false
  | leaf => Json.pyEq leaf tree

/-- Whether every field of an update is carried. -/
def carriesFields (children : List (String × Schema)) (tree : Json) :
    List (String × Json) → Bool
  | [] => true
  | (name, value) :: rest =>
      (match children.lookup name with
        | some schema => carries schema (tree.field name) value
        | none => false) &&
        carriesFields children tree rest

/-- Whether every entry of an update is carried by the entry of its key. -/
def carriesItems (key : String) (children : List (String × Schema)) (present : List Json) :
    List Json → Bool
  | [] => true
  | item :: rest =>
      carries (.container children)
          ((keyedItem? key (item.field key) present).getD .null) item &&
        carriesItems key children present rest

end

end Snapl.Library.KeyedTree
