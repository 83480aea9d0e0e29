import Snapl.Collector.Fragments
import Snapl.Library.JsonValues

/-!
# Absorbed fragments

A value absorbs a fragment when merging the fragment into it changes nothing:
it has every field of every container of the fragment, an entry equal to every
entry of every list, and the leaves of the fragment.  A merge absorbs what was
merged into it, and goes on absorbing whatever is merged on top.
-/

namespace Snapl.Collector

open Snapl.Library

/-- What is already in a value. -/
inductive Absorbs : Json → Json → Prop where
  | leaf {value fragment : Json} {atom : Json.Atom} (kept : value.atom? = some atom)
      (sent : fragment.atom? = some atom) : Absorbs value fragment
  | list {items entries : List Json}
      (kept : ∀ entry ∈ entries, ∃ item ∈ items, item.pyEq entry = true) :
      Absorbs (.arr items) (.arr entries)
  | container {merged fields : List (String × Json)} (present : String → Json)
      (kept : ∀ field ∈ fields, merged.lookup field.1 = some (present field.1))
      (absorbs : ∀ field ∈ fields, Absorbs (present field.1) field.2) :
      Absorbs (.obj merged) (.obj fields)

/-- Two values one of which is a leaf merge when they are equal. -/
theorem mergeFragment_of_leaf
    {existing incoming : Json} {atom : Json.Atom}
    (leaf : existing.atom? = some atom ∨ incoming.atom? = some atom) (place : String) :
    mergeFragment existing incoming place =
      if existing.pyEq incoming then .ok existing else .error ⟨place, existing, incoming⟩ := by
  rw [mergeFragment]
  · rintro fields others rfl rfl
    rcases leaf with absurd | absurd <;> cases absurd
  · rintro items others rfl rfl
    rcases leaf with absurd | absurd <;> cases absurd

theorem mergeFragment_fields
    (fields others : List (String × Json)) (place : String) :
    mergeFragment (.obj fields) (.obj others) place =
      (gather (combineBelow place) fields others).map .obj := by
  rw [mergeFragment, mergeFields_eq]

/-- What merging two containers makes is gathered from their fields. -/
theorem gathered_of_merge
    {fields others : List (String × Json)} {place : String} {merged : Json}
    (merges : mergeFragment (.obj fields) (.obj others) place = .ok merged) :
    ∃ gathered, gather (combineBelow place) fields others = .ok gathered ∧
      merged = .obj gathered := by
  rw [mergeFragment_fields] at merges
  rcases gathers : gather (combineBelow place) fields others with conflict | gathered
  · rw [gathers] at merges
    cases merges
  · rw [gathers] at merges
    exact ⟨gathered, rfl, (Except.ok.inj merges).symm⟩

/-- Only a container merges with a container. -/
theorem fields_of_merge
    {existing : Json} {fields : List (String × Json)} {place : String} {merged : Json}
    (merges : mergeFragment existing (.obj fields) place = .ok merged) :
    ∃ present, existing = .obj present := by
  rcases existing with _ | _ | _ | (_ | _ | _) | _ | _ | present
  case obj => exact ⟨present, rfl⟩
  all_goals simp [mergeFragment, Json.pyEq, Json.number?] at merges

/-- Only a list merges with a list. -/
theorem items_of_merge
    {existing : Json} {entries : List Json} {place : String} {merged : Json}
    (merges : mergeFragment existing (.arr entries) place = .ok merged) :
    ∃ items, existing = .arr items := by
  rcases existing with _ | _ | _ | (_ | _ | _) | _ | items | _
  case arr => exact ⟨items, rfl⟩
  all_goals simp [mergeFragment, Json.pyEq, Json.number?] at merges

/-- A container merges with containers only. -/
theorem fields_of_merge_right
    {incoming : Json} {fields : List (String × Json)} {place : String} {merged : Json}
    (merges : mergeFragment (.obj fields) incoming place = .ok merged) :
    ∃ others, incoming = .obj others := by
  rcases incoming with _ | _ | _ | (_ | _ | _) | _ | _ | others
  case obj => exact ⟨others, rfl⟩
  all_goals simp [mergeFragment, Json.pyEq, Json.number?] at merges

/-- A list merges with lists only. -/
theorem items_of_merge_right
    {incoming : Json} {items : List Json} {place : String} {merged : Json}
    (merges : mergeFragment (.arr items) incoming place = .ok merged) :
    ∃ entries, incoming = .arr entries := by
  rcases incoming with _ | _ | _ | (_ | _ | _) | _ | entries | _
  case arr => exact ⟨entries, rfl⟩
  all_goals simp [mergeFragment, Json.pyEq, Json.number?] at merges

/-- A value of distinct keys without not-a-number absorbs itself. -/
theorem absorbs_self
    {value : Json} (free : value.nanFree = true) (distinct : value.distinctKeys = true) :
    Absorbs value value := by
  induction value using Json.recursion with
  | leaf value notList notDictionary =>
      obtain ⟨atom, leaf⟩ := Json.atom?_eq_some_of_nanFree free notList notDictionary
      exact .leaf leaf leaf
  | list items induction =>
      rw [Json.nanFree_arr_iff] at free
      rw [Json.distinctKeys_arr_iff] at distinct
      apply Absorbs.list
      intro entry member
      exact ⟨entry, member, Json.pyEq_self (free entry member) (distinct entry member)⟩
  | dictionary fields induction =>
      rw [Json.nanFree_obj_iff] at free
      rw [Json.distinctKeys_obj_iff] at distinct
      have found : ∀ field ∈ fields, fields.lookup field.1 = some field.2 := by
        intro field member
        exact lookup_of_mem distinct.1 member
      apply Absorbs.container fun name => (fields.lookup name).getD .null
      · intro field member
        rw [found field member]
        rfl
      · intro field member
        rw [found field member]
        exact induction field member (free field member) (distinct.2 field member)

/-- Merging what is absorbed changes nothing. -/
theorem Absorbs.merges
    {value fragment : Json} (absorbs : Absorbs value fragment) (place : String) :
    mergeFragment value fragment place = .ok value := by
  induction absorbs generalizing place with
  | leaf kept sent =>
      rw [mergeFragment_of_leaf (Or.inl kept), if_pos ((Json.pyEq_iff_of_atom kept).2 sent)]
  | @list items entries kept =>
      have nothing : entries.filter (fun entry => !items.any fun item => item.pyEq entry) = [] := by
        rw [List.filter_eq_nil_iff]
        intro entry member
        obtain ⟨item, present, equal⟩ := kept entry member
        rw [List.any_eq_true.2 ⟨item, present, equal⟩]
        exact Bool.false_ne_true
      rw [mergeFragment, nothing, List.append_nil]
  | @container merged fields present kept absorbs induction =>
      have unchanged : gather (combineBelow place) merged fields = .ok merged := by
        apply gather_of_absorbed
        intro field member
        exact ⟨_, kept field member, induction field member _⟩
      rw [mergeFragment_fields, unchanged]
      rfl

/-- What a value absorbs it still absorbs when something is merged on top. -/
theorem Absorbs.persists
    {value fragment : Json} (absorbs : Absorbs value fragment) {incoming : Json}
    {place : String} {merged : Json} (merges : mergeFragment value incoming place = .ok merged) :
    Absorbs merged fragment := by
  induction fragment using Json.recursion generalizing value incoming place merged with
  | leaf fragment notList notDictionary =>
      cases absorbs with
      | leaf kept sent =>
          rw [mergeFragment_of_leaf (Or.inl kept)] at merges
          split_ifs at merges
          cases merges
          exact .leaf kept sent
      | @list _ entries _ => exact absurd rfl (notList entries)
      | @container _ fields _ _ _ => exact absurd rfl (notDictionary fields)
  | list entries induction =>
      cases absorbs with
      | leaf _ sent => cases sent
      | @list items _ kept =>
          obtain ⟨others, rfl⟩ := items_of_merge_right merges
          rw [mergeFragment] at merges
          cases merges
          apply Absorbs.list
          intro entry member
          obtain ⟨item, present, equal⟩ := kept entry member
          exact ⟨item, List.mem_append_left _ present, equal⟩
  | dictionary fields induction =>
      cases absorbs with
      | leaf _ sent => cases sent
      | @container own _ present kept absorbed =>
          obtain ⟨others, rfl⟩ := fields_of_merge_right merges
          obtain ⟨gathered, gathers, rfl⟩ := gathered_of_merge merges
          -- what a name ends with still absorbs every field of the fragment of that name
          have final : ∀ field ∈ fields, ∃ last, gathered.lookup field.1 = some last ∧
              ∀ other ∈ fields, other.1 = field.1 → Absorbs last other.2 := by
            intro field member
            apply gather_keeps _ gathers
            · refine ⟨_, kept field member, ?_⟩
              intro other otherMember same
              rw [← same]
              exact absorbed other otherMember
            · intro current value next keep combines other otherMember same
              exact induction other otherMember (keep other otherMember same) combines
          apply Absorbs.container fun name => (gathered.lookup name).getD .null
          · intro field member
            obtain ⟨last, looked, -⟩ := final field member
            rw [looked]
            rfl
          · intro field member
            obtain ⟨last, looked, absorbing⟩ := final field member
            rw [looked]
            exact absorbing field member rfl

/-- A merge absorbs what was merged. -/
theorem absorbs_of_merge
    {fragment : Json} (free : fragment.nanFree = true) (distinct : fragment.distinctKeys = true)
    {existing merged : Json} {place : String}
    (merges : mergeFragment existing fragment place = .ok merged) : Absorbs merged fragment := by
  induction fragment using Json.recursion generalizing existing place merged with
  | leaf fragment notList notDictionary =>
      obtain ⟨atom, leaf⟩ := Json.atom?_eq_some_of_nanFree free notList notDictionary
      rw [mergeFragment_of_leaf (Or.inr leaf)] at merges
      split_ifs at merges with equal
      cases merges
      exact .leaf ((Json.pyEq_iff_of_atom_right leaf).1 equal) leaf
  | list entries induction =>
      rw [Json.nanFree_arr_iff] at free
      rw [Json.distinctKeys_arr_iff] at distinct
      obtain ⟨items, rfl⟩ := items_of_merge merges
      rw [mergeFragment] at merges
      cases merges
      apply Absorbs.list
      intro entry member
      by_cases present : (items.any fun item => item.pyEq entry) = true
      · obtain ⟨item, inside, equal⟩ := List.any_eq_true.1 present
        exact ⟨item, List.mem_append_left _ inside, equal⟩
      · refine ⟨entry, List.mem_append_right _ (List.mem_filter.2 ⟨member, ?_⟩),
          Json.pyEq_self (free entry member) (distinct entry member)⟩
        rw [Bool.not_eq_true] at present
        rw [present]
        rfl
  | dictionary fields induction =>
      rw [Json.nanFree_obj_iff] at free
      rw [Json.distinctKeys_obj_iff] at distinct
      obtain ⟨others, rfl⟩ := fields_of_merge merges
      obtain ⟨gathered, gathers, rfl⟩ := gathered_of_merge merges
      have final : ∀ field ∈ fields, ∃ last, gathered.lookup field.1 = some last ∧
          Absorbs last field.2 := by
        intro field member
        apply gather_reaches _ _ member gathers
        · intro present value next keep combines
          exact keep.persists combines
        · intro present next combines
          cases present with
          | none =>
              cases combines
              exact absorbs_self (free field member) (distinct.2 field member)
          | some present =>
              exact induction field member (free field member) (distinct.2 field member) combines
      apply Absorbs.container fun name => (gathered.lookup name).getD .null
      · intro field member
        obtain ⟨last, looked, -⟩ := final field member
        rw [looked]
        rfl
      · intro field member
        obtain ⟨last, looked, absorbing⟩ := final field member
        rw [looked]
        exact absorbing

/-- What a value absorbs it still absorbs after any sequence of fragments. -/
theorem Absorbs.persists_mergeAt
    {value fragment : Json} (absorbs : Absorbs value fragment) {place : String}
    {fragments : List Json} {merged : Json}
    (merges : mergeAt place (some value) fragments = .ok (some merged)) :
    Absorbs merged fragment := by
  induction fragments generalizing value with
  | nil =>
      cases merges
      exact absorbs
  | cons next rest induction =>
      obtain ⟨present, combined, merges⟩ := (bind_eq_ok _ _ _).1 merges
      exact induction (absorbs.persists combined) merges

/-- The merge of a sequence absorbs each of its fragments. -/
theorem absorbs_of_mergeAt
    {fragment : Json} (free : fragment.nanFree = true) (distinct : fragment.distinctKeys = true)
    {place : String} {fragments : List Json} (member : fragment ∈ fragments)
    {present : Option Json} {merged : Json}
    (merges : mergeAt place present fragments = .ok (some merged)) :
    Absorbs merged fragment := by
  induction fragments generalizing present with
  | nil => cases member
  | cons first rest induction =>
      obtain ⟨next, combined, mergesRest⟩ := (bind_eq_ok _ _ _).1 merges
      rcases List.mem_cons.1 member with rfl | later
      · apply Absorbs.persists_mergeAt _ mergesRest
        cases present with
        | none =>
            cases combined
            exact absorbs_self free distinct
        | some present => exact absorbs_of_merge free distinct combined
      · exact induction later mergesRest

end Snapl.Collector
