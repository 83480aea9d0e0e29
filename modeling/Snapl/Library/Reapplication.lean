import Snapl.Library.KeyedTree

/-!
# Applying an update again

An update of a keyed tree that was applied changes nothing when it is applied
once more, even where new entries would now go elsewhere: every entry it would
insert is there.  All it takes is that the update agrees with itself, two of
its entries with one key being one entry.
-/

namespace Snapl.Library.KeyedTree

mutual

/-- Whether entries of a list with one key are one entry, wherever the schema has a list. -/
def unambiguous (schema : Schema) : Json → Bool
  | .arr items =>
      match schema with
      | .list key _ children =>
          decide (∀ item ∈ items, ∀ other ∈ items,
            item.field key = other.field key → item = other) &&
            unambiguousItems children items
      | _ => true
  | .obj fields =>
      match schema with
      | .container children => unambiguousFields children fields
      | _ => true
  | _ => true

/-- Whether every field the schema names agrees with itself. -/
def unambiguousFields (children : List (String × Schema)) : List (String × Json) → Bool
  | [] => true
  | (name, value) :: rest =>
      (match children.lookup name with
        | some schema => unambiguous schema value
        | none => true) &&
        unambiguousFields children rest

/-- Whether every entry of a list agrees with itself. -/
def unambiguousItems (children : List (String × Schema)) : List Json → Bool
  | [] => true
  | item :: rest =>
      unambiguous (.container children) item && unambiguousItems children rest

end

theorem unambiguousFields_iff
    (children : List (String × Schema)) (fields : List (String × Json)) :
    unambiguousFields children fields = true ↔
      ∀ field ∈ fields, ∀ schema, children.lookup field.1 = some schema →
        unambiguous schema field.2 = true := by
  induction fields with
  | nil => simp [unambiguousFields]
  | cons field rest induction =>
      rcases field with ⟨name, value⟩
      rw [unambiguousFields, Bool.and_eq_true, induction, List.forall_mem_cons]
      refine and_congr_left fun _ => ?_
      rcases children.lookup name with _ | schema
      · simp
      · simp

theorem unambiguousItems_iff (children : List (String × Schema)) (items : List Json) :
    unambiguousItems children items = true ↔
      ∀ item ∈ items, unambiguous (.container children) item = true := by
  induction items with
  | nil => simp [unambiguousItems]
  | cons item rest induction =>
      rw [unambiguousItems, Bool.and_eq_true, induction, List.forall_mem_cons]

theorem unambiguous_container_iff
    (children : List (String × Schema)) (fields : List (String × Json)) :
    unambiguous (.container children) (.obj fields) = true ↔
      ∀ field ∈ fields, ∀ schema, children.lookup field.1 = some schema →
        unambiguous schema field.2 = true := by
  rw [unambiguous, unambiguousFields_iff]

theorem unambiguous_list_iff
    (key : String) (textual : Bool) (children : List (String × Schema)) (items : List Json) :
    unambiguous (.list key textual children) (.arr items) = true ↔
      (∀ item ∈ items, ∀ other ∈ items,
        item.field key = other.field key → item = other) ∧
        ∀ item ∈ items, unambiguous (.container children) item = true := by
  rw [unambiguous, Bool.and_eq_true, decide_eq_true_eq, unambiguousItems_iff]

/-- An upsert that changes nothing in the entry of the key changes nothing. -/
theorem upsert_of_fixed
    {key : String} {value entry : Json} {items : List Json}
    (found : keyedItem? key value items = some entry) {update : Json → Json}
    (fixed : update entry = entry) (position : Nat) :
    upsert key value update position items = items := by
  rcases upsert_split key value update position items with
    ⟨before, item, after, rfl, matched, unmatched, result⟩ |
    ⟨before, after, rfl, unmatched, -, -⟩
  · rw [keyedItem?_append, keyedItem?_eq_none unmatched] at found
    simp [keyedItem?, matched] at found
    rw [result, found, fixed]
  · rw [keyedItem?_eq_none unmatched] at found
    cases found

section

variable (again : Placement) (path : List Json)

/-- The field is there, and its update changes nothing in it. -/
def FieldSettled
    (children : List (String × Schema)) (present : List (String × Json))
    (field : String × Json) : Prop :=
  ∃ current, present.lookup field.1 = some current ∧
    mergeChild again path children field.1 current field.2 = current

/-- The entry is there, and its update changes nothing in it. -/
def EntrySettled
    (key : String) (children : List (String × Schema)) (present : List Json)
    (item : Json) : Prop :=
  ∃ current, keyedItem? key (item.field key) present = some current ∧
    merge again (path ++ [item.field key]) (.container children) current item = current

variable {again path}

theorem mergeFields_of_settled
    {children : List (String × Schema)} {present : List (String × Json)}
    {news : List (String × Json)}
    (settled : ∀ field ∈ news, FieldSettled again path children present field) :
    mergeFields again path children present news = present := by
  induction news with
  | nil => rfl
  | cons field rest induction =>
      rcases field with ⟨name, value⟩
      obtain ⟨current, found, fixed⟩ := settled (name, value) (by simp)
      have same : assign present name
          (mergeChild again path children name ((present.lookup name).getD .null) value) =
            present := by
        rw [found, Option.getD_some, fixed]
        exact assign_of_lookup found
      rw [mergeFields]
      exact (congrArg (fun fields => mergeFields again path children fields rest) same).trans
        (induction fun field member => settled field (by simp [member]))

theorem mergeItems_of_settled
    {key : String} {children : List (String × Schema)} {present news : List Json}
    (settled : ∀ item ∈ news, EntrySettled again path key children present item) :
    mergeItems again path key children present news = present := by
  induction news with
  | nil => rfl
  | cons item rest induction =>
      obtain ⟨current, found, fixed⟩ := settled item (by simp)
      rw [mergeItems, upsert_of_fixed found fixed]
      exact induction fun other member => settled other (by simp [member])

end

section Entries

variable {again place : Placement} {path : List Json}
variable {key : String} {children : List (String × Schema)}
variable (named : children.lookup key = some .leaf)

include named

/-- An entry is settled once it is applied, and stays so while others are. -/
theorem entriesSettled_of_mergeItems
    {done news olds : List Json}
    (shapes : ∀ item ∈ news, conforms false (.container children) item = true)
    (agrees : ∀ item ∈ done ++ news, ∀ other ∈ news,
      item.field key = other.field key → item = other)
    (settles : ∀ item ∈ news, ∀ old,
      merge again (path ++ [item.field key]) (.container children)
          (merge place (path ++ [item.field key]) (.container children) old item) item =
        merge place (path ++ [item.field key]) (.container children) old item)
    (settled : ∀ item ∈ done, EntrySettled again path key children olds item) :
    ∀ item ∈ done ++ news,
      EntrySettled again path key children
        (mergeItems place path key children olds news) item := by
  induction news generalizing done olds with
  | nil => simpa [mergeItems] using settled
  | cons first rest induction =>
      have keeps : ∀ old, old.field key = first.field key ∨ old = .null →
          (merge place (path ++ [first.field key]) (.container children) old
            first).field key = first.field key :=
        fun old keyed => field_key_merge place _ named (shapes first (by simp)) keyed
      rw [mergeItems, List.append_cons]
      refine induction (fun item member => shapes item (by simp [member])) ?_
        (fun item member => settles item (by simp [member])) ?_
      · intro item member other otherMember
        refine agrees item ?_ other (by simp [otherMember])
        simpa [or_assoc] using member
      · intro item member
        by_cases same : item.field key = first.field key
        · have equal : item = first := agrees item (by
            simp only [List.mem_append, List.mem_singleton] at member
            rcases member with member | rfl
            · simp [member]
            · simp) first (by simp) same
          subst equal
          exact ⟨_, by rw [keyedItem?_upsert keeps, if_pos rfl],
            settles item (by simp) _⟩
        · have earlier : item ∈ done := by
            rcases List.mem_append.1 member with member | member
            · exact member
            · rw [List.mem_singleton.1 member] at same
              exact absurd rfl same
          obtain ⟨current, found, fixed⟩ := settled item earlier
          exact ⟨current, by rw [keyedItem?_upsert keeps, if_neg same, found], fixed⟩

end Entries

mutual

/--
Applying an update a second time changes nothing, wherever either application
puts new entries.
-/
theorem merge_merge
    (again place : Placement) (path : List Json) {schema : Schema}
    (keyed : wellKeyed schema = true) (old : Json) :
    ∀ update : Json, conforms false schema update = true →
      unambiguous schema update = true →
      merge again path schema (merge place path schema old update) update =
        merge place path schema old update
  | .obj fields, conforming, agrees => by
      cases schema with
      | container children =>
          obtain ⟨distinct, shapes⟩ := (conforms_container_iff children fields).1 conforming
          rw [merge_obj, merge_obj, fieldsOf_obj]
          refine congrArg Json.obj (mergeFields_of_settled fun field member => ?_)
          have settles := mergeChild_mergeChild again place path keyed fields shapes
            ((unambiguous_container_iff children fields).1 agrees) field member
          refine ⟨_, ?_, settles (((fieldsOf old).lookup field.1).getD .null)⟩
          rw [lookup_mergeFields place path children _ fields distinct,
            lookup_of_mem distinct member]
      | leaf => cases conforming
      | list key textual children => cases conforming
  | .arr items, conforming, agrees => by
      cases schema with
      | list key textual children =>
          obtain ⟨named, childrenKeyed⟩ := (wellKeyed_list_iff _ _ _).1 keyed
          obtain ⟨-, -, shapes⟩ := (conforms_list_iff key textual children items).1 conforming
          obtain ⟨same, entries⟩ := (unambiguous_list_iff key textual children items).1 agrees
          rw [merge_arr, merge_arr, itemsOf_arr]
          refine congrArg Json.arr (mergeItems_of_settled fun item member => ?_)
          refine @entriesSettled_of_mergeItems again place path key children named [] items _
            shapes ?_ ?_ (fun _ absent => absurd absent List.not_mem_nil) item member
          · exact fun first firstMember other otherMember =>
              same first firstMember other otherMember
          · intro first firstMember
            exact mergeItem_mergeItem again place path childrenKeyed items shapes entries first
              firstMember
      | leaf => cases conforming
      | container children => cases conforming
  | .null, conforming, _ => by cases schema <;> simp_all [merge, conforms]
  | .bool value, conforming, _ => by cases schema <;> simp_all [merge, conforms]
  | .int value, conforming, _ => by cases schema <;> simp_all [merge, conforms]
  | .float value, conforming, _ => by cases schema <;> simp_all [merge, conforms]
  | .str value, conforming, _ => by cases schema <;> simp_all [merge, conforms]
termination_by structural update => update

theorem mergeChild_mergeChild
    (again place : Placement) (path : List Json) {children : List (String × Schema)}
    (keyed : allWellKeyed children = true) :
    ∀ news : List (String × Json),
      (∀ field ∈ news, ∀ schema, children.lookup field.1 = some schema →
        conforms false schema field.2 = true) →
      (∀ field ∈ news, ∀ schema, children.lookup field.1 = some schema →
        unambiguous schema field.2 = true) →
      ∀ field ∈ news, ∀ old,
        mergeChild again path children field.1
            (mergeChild place path children field.1 old field.2) field.2 =
          mergeChild place path children field.1 old field.2
  | [], _, _ => fun _ absent => absurd absent List.not_mem_nil
  | (name, value) :: rest, shapes, agrees => by
      intro field member old
      rcases List.mem_cons.1 member with equal | member
      · rw [equal]
        rcases named : children.lookup name with _ | schema
        · simp only [mergeChild, named]
        · simp only [mergeChild, named]
          exact merge_merge again place _ (wellKeyed_of_lookup keyed named) old value
            (shapes (name, value) (by simp) schema named)
            (agrees (name, value) (by simp) schema named)
      · exact mergeChild_mergeChild again place path keyed rest
          (fun field member => shapes field (by simp [member]))
          (fun field member => agrees field (by simp [member])) field member old
termination_by structural news => news

theorem mergeItem_mergeItem
    (again place : Placement) (path : List Json) {key : String}
    {children : List (String × Schema)} (keyed : allWellKeyed children = true) :
    ∀ news : List Json,
      (∀ item ∈ news, conforms false (.container children) item = true) →
      (∀ item ∈ news, unambiguous (.container children) item = true) →
      ∀ item ∈ news, ∀ old,
        merge again (path ++ [item.field key]) (.container children)
            (merge place (path ++ [item.field key]) (.container children) old item) item =
          merge place (path ++ [item.field key]) (.container children) old item
  | [], _, _ => fun _ absent => absurd absent List.not_mem_nil
  | first :: rest, shapes, agrees => by
      intro item member old
      rcases List.mem_cons.1 member with equal | member
      · rw [equal]
        exact merge_merge again place _ (by rw [wellKeyed]; exact keyed) old first
          (shapes first (by simp)) (agrees first (by simp))
      · exact mergeItem_mergeItem again place path keyed rest
          (fun other member => shapes other (by simp [member]))
          (fun other member => agrees other (by simp [member])) item member old
termination_by structural news => news

end

end Snapl.Library.KeyedTree
