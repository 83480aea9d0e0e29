import Mathlib.Data.Set.List
import Snapl.Collector.Absorption

/-!
# What fragments collect

What a merge of fragments has, in whatever order they came: the leaf all of
them are, the entries of all lists, and under every name of a container what
the values of that name collect.  Fragments merge exactly when they collect
something, and what they collect is determined up to the order and the number
of equal entries of a list.
-/

namespace Snapl.Collector

open Snapl.Library

/-- The value a container has under a name. -/
def valueUnder? (name : String) : Json → Option Json
  | .obj fields => fields.lookup name
  | _ => none

/-- What a value has of some fragments, regardless of their order. -/
inductive Collects : List Json → Json → Prop where
  | leaf {fragments : List Json} {value : Json} {atom : Json.Atom}
      (sent : ∀ fragment ∈ fragments, fragment.atom? = some atom)
      (made : value.atom? = some atom) : Collects fragments value
  | list {fragments merged : List Json}
      (sent : ∀ fragment ∈ fragments, ∃ entries, fragment = .arr entries)
      (kept : ∀ entries, .arr entries ∈ fragments → ∀ entry ∈ entries,
        ∃ item ∈ merged, item.pyEq entry = true)
      (made : ∀ item ∈ merged, ∃ entries, .arr entries ∈ fragments ∧ item ∈ entries) :
      Collects fragments (.arr merged)
  | container {fragments : List Json} {merged : List (String × Json)}
      (sent : ∀ fragment ∈ fragments, ∃ fields, fragment = .obj fields)
      (named : ∀ name, merged.lookup name = none ↔ fragments.filterMap (valueUnder? name) = [])
      (made : ∀ name value, merged.lookup name = some value →
        Collects (fragments.filterMap (valueUnder? name)) value) :
      Collects fragments (.obj merged)

/-- Values that are equal up to the order and the number of equal entries of their lists. -/
inductive SameContents : Json → Json → Prop where
  | leaf {value other : Json} {atom : Json.Atom} (left : value.atom? = some atom)
      (right : other.atom? = some atom) : SameContents value other
  | list {items others : List Json}
      (left : ∀ item ∈ items, ∃ other ∈ others, other.pyEq item = true)
      (right : ∀ other ∈ others, ∃ item ∈ items, item.pyEq other = true) :
      SameContents (.arr items) (.arr others)
  | container {fields others : List (String × Json)}
      (names : ∀ name, fields.lookup name = none ↔ others.lookup name = none)
      (values : ∀ name value other, fields.lookup name = some value →
        others.lookup name = some other → SameContents value other) :
      SameContents (.obj fields) (.obj others)

/-- States with the same keys, under which they have the same contents. -/
def SameData (data other : Dict String Json) : Prop :=
  ∀ key, Option.Rel SameContents (data.get? key) (other.get? key)

/-! ## The order of the fragments -/

theorem Collects.perm
    {fragments others : List Json} {value : Json} (collects : Collects fragments value)
    (reordered : fragments.Perm others) : Collects others value := by
  induction collects generalizing others with
  | leaf sent made =>
      apply Collects.leaf _ made
      intro fragment member
      exact sent fragment (reordered.mem_iff.2 member)
  | list sent kept made =>
      apply Collects.list
      · intro fragment member
        exact sent fragment (reordered.mem_iff.2 member)
      · intro entries member
        exact kept entries (reordered.mem_iff.2 member)
      · intro item member
        obtain ⟨entries, inside, present⟩ := made item member
        exact ⟨entries, reordered.mem_iff.1 inside, present⟩
  | container sent named made induction =>
      apply Collects.container
      · intro fragment member
        exact sent fragment (reordered.mem_iff.2 member)
      · intro name
        rw [named name, ← List.length_eq_zero_iff, (reordered.filterMap _).length_eq,
          List.length_eq_zero_iff]
      · intro name value found
        exact induction name value found (reordered.filterMap _)

/-- What the same fragments collect has the same contents. -/
theorem Collects.sameContents
    {fragments : List Json} {value other : Json} (collects : Collects fragments value)
    (again : Collects fragments other) (reported : fragments ≠ []) :
    SameContents value other := by
  obtain ⟨fragment, member⟩ := List.exists_mem_of_ne_nil _ reported
  induction collects generalizing other fragment with
  | @leaf fragments value atom sent made =>
      cases again with
      | leaf sentAgain madeAgain =>
          have same := (sent fragment member).symm.trans (sentAgain fragment member)
          rw [Option.some.injEq] at same
          exact .leaf made (same ▸ madeAgain)
      | list sentAgain _ _ =>
          obtain ⟨_, rfl⟩ := sentAgain fragment member
          cases sent _ member
      | container sentAgain _ _ =>
          obtain ⟨_, rfl⟩ := sentAgain fragment member
          cases sent _ member
  | @list fragments merged sent kept made =>
      obtain ⟨_, rfl⟩ := sent fragment member
      cases again with
      | leaf sentAgain _ => cases sentAgain _ member
      | container sentAgain _ _ =>
          obtain ⟨_, absurd⟩ := sentAgain _ member
          cases absurd
      | list _ keptAgain madeAgain =>
          apply SameContents.list
          · intro item inside
            obtain ⟨entries, own, present⟩ := made item inside
            exact keptAgain entries own item present
          · intro other inside
            obtain ⟨entries, own, present⟩ := madeAgain other inside
            exact kept entries own other present
  | @container fragments merged sent named made induction =>
      obtain ⟨_, rfl⟩ := sent fragment member
      cases again with
      | leaf sentAgain _ => cases sentAgain _ member
      | list sentAgain _ _ =>
          obtain ⟨_, absurd⟩ := sentAgain _ member
          cases absurd
      | container _ namedAgain madeAgain =>
          apply SameContents.container
          · intro name
            rw [named name, namedAgain name]
          · intro name value other found foundAgain
            have reportedBelow : fragments.filterMap (valueUnder? name) ≠ [] := by
              rw [Ne, ← named name, found]
              exact nofun
            obtain ⟨below, belowMember⟩ := List.exists_mem_of_ne_nil _ reportedBelow
            exact induction name value found (madeAgain name other foundAgain) reportedBelow
              below belowMember

/-! ## Merging one kind of fragment -/

/-- Fragments of one kind come from what they are made of. -/
theorem exists_map_of_kind
    {Part : Type} {make : Part → Json} {fragments : List Json}
    (kind : ∀ fragment ∈ fragments, ∃ part, fragment = make part) :
    ∃ parts : List Part, fragments = parts.map make := by
  have made : fragments ∈ Set.range (List.map make) := by
    rw [Set.range_list_map]
    intro fragment member
    obtain ⟨part, rfl⟩ := kind fragment member
    exact ⟨part, rfl⟩
  obtain ⟨parts, rfl⟩ := made
  exact ⟨parts, rfl⟩

theorem filterMap_valueUnder?_map (name : String) (parts : List (List (String × Json))) :
    (parts.map Json.obj).filterMap (valueUnder? name) = parts.filterMap fun part => part.lookup name := by
  rw [List.filterMap_map]
  rfl

/-- Leaves merge when all are compared by the same. -/
theorem mergeAt_of_atom
    {value : Json} {atom : Json.Atom} (leaf : value.atom? = some atom) (place : String)
    {fragments : List Json} (same : ∀ fragment ∈ fragments, fragment.atom? = some atom) :
    mergeAt place (some value) fragments = .ok (some value) := by
  induction fragments with
  | nil => rfl
  | cons fragment rest induction =>
      have equal : value.pyEq fragment = true :=
        (Json.pyEq_iff_of_atom leaf).2 (same fragment List.mem_cons_self)
      rw [mergeAt, gatherAt, combineWith, mergeFragment_of_leaf (Or.inl leaf), if_pos equal,
        ok_bind]
      exact induction fun other member => same other (List.mem_cons_of_mem _ member)

/-- What a leaf is merged with is compared by the same as the leaf. -/
theorem atom?_of_mergeAt
    {value : Json} {atom : Json.Atom} (leaf : value.atom? = some atom) {place : String}
    {fragments : List Json} {merged : Option Json}
    (merges : mergeAt place (some value) fragments = .ok merged) :
    merged = some value ∧ ∀ fragment ∈ fragments, fragment.atom? = some atom := by
  induction fragments with
  | nil =>
      cases merges
      exact ⟨rfl, nofun⟩
  | cons fragment rest induction =>
      obtain ⟨next, combined, mergesRest⟩ := (bind_eq_ok _ _ _).1 merges
      rw [combineWith, mergeFragment_of_leaf (Or.inl leaf)] at combined
      split_ifs at combined with equal
      cases combined
      obtain ⟨unchanged, same⟩ := induction mergesRest
      refine ⟨unchanged, ?_⟩
      intro other member
      rcases List.mem_cons.1 member with rfl | later
      · exact (Json.pyEq_iff_of_atom leaf).1 equal
      · exact same other later

/-- What a list is merged with are lists. -/
theorem items_of_mergeAt
    {items : List Json} {place : String} {fragments : List Json} {merged : Option Json}
    (merges : mergeAt place (some (.arr items)) fragments = .ok merged) :
    ∀ fragment ∈ fragments, ∃ entries, fragment = .arr entries := by
  induction fragments generalizing items with
  | nil => nofun
  | cons fragment rest induction =>
      obtain ⟨next, combined, mergesRest⟩ := (bind_eq_ok _ _ _).1 merges
      obtain ⟨entries, rfl⟩ := items_of_merge_right combined
      rw [combineWith, mergeFragment] at combined
      cases combined
      intro other member
      rcases List.mem_cons.1 member with rfl | later
      · exact ⟨entries, rfl⟩
      · exact induction mergesRest other later

/-- What a container is merged with are containers. -/
theorem fields_of_mergeAt
    {fields : List (String × Json)} {place : String} {fragments : List Json}
    {merged : Option Json} (merges : mergeAt place (some (.obj fields)) fragments = .ok merged) :
    ∀ fragment ∈ fragments, ∃ others, fragment = .obj others := by
  induction fragments generalizing fields with
  | nil => nofun
  | cons fragment rest induction =>
      obtain ⟨next, combined, mergesRest⟩ := (bind_eq_ok _ _ _).1 merges
      obtain ⟨others, rfl⟩ := fields_of_merge_right combined
      obtain ⟨gathered, -, rfl⟩ := gathered_of_merge combined
      intro other member
      rcases List.mem_cons.1 member with rfl | later
      · exact ⟨others, rfl⟩
      · exact induction mergesRest other later

/-- Merging makes nothing exactly when there is nothing to merge. -/
theorem mergeAt_eq_none_iff
    {place : String} {fragments : List Json} {merged : Option Json}
    (merges : mergeAt place none fragments = .ok merged) :
    merged = none ↔ fragments = [] := by
  have present : ∀ (value : Json) (rest : List Json),
      mergeAt place (some value) rest ≠ .ok none := by
    intro value rest
    induction rest generalizing value with
    | nil => exact nofun
    | cons fragment rest induction =>
        intro merges
        obtain ⟨next, -, mergesRest⟩ := (bind_eq_ok _ _ _).1 merges
        exact induction next mergesRest
  cases fragments with
  | nil =>
      cases merges
      exact ⟨fun _ => rfl, fun _ => rfl⟩
  | cons first rest =>
      constructor
      · rintro rfl
        exact absurd merges (present first rest)
      · exact nofun

/-! ## Fragments merge when they collect something -/

/-- The fragments of a value a decoder builds are such values. -/
theorem distinct_of_part
    {parts : List (List (String × Json))}
    (distinct : ∀ fragment ∈ parts.map Json.obj, fragment.distinctKeys = true) :
    (∀ part ∈ parts, (part.map Prod.fst).Nodup) ∧
      ∀ name, ∀ value ∈ parts.filterMap (fun part => part.lookup name),
        value.distinctKeys = true := by
  constructor
  · intro part member
    exact ((Json.distinctKeys_obj_iff part).1
      (distinct _ (List.mem_map.2 ⟨part, member, rfl⟩))).1
  · intro name value member
    obtain ⟨part, inside, found⟩ := List.mem_filterMap.1 member
    exact ((Json.distinctKeys_obj_iff part).1
      (distinct _ (List.mem_map.2 ⟨part, inside, rfl⟩))).2 _ (mem_of_lookup found)

/-- Fragments that collect something merge. -/
theorem Collects.merges
    {fragments : List Json} {value : Json} (collects : Collects fragments value)
    (distinct : ∀ fragment ∈ fragments, fragment.distinctKeys = true) (place : String) :
    ∃ merged, mergeAt place none fragments = .ok merged := by
  induction collects generalizing place with
  | @leaf fragments value atom sent made =>
      cases fragments with
      | nil => exact ⟨none, rfl⟩
      | cons first rest =>
          refine ⟨some first, ?_⟩
          apply mergeAt_of_atom (sent first List.mem_cons_self)
          intro fragment member
          exact sent fragment (List.mem_cons_of_mem _ member)
  | list sent kept made =>
      obtain ⟨lists, rfl⟩ := exists_map_of_kind sent
      cases lists with
      | nil => exact ⟨none, rfl⟩
      | cons list lists =>
          obtain ⟨result, merges, -⟩ := mergeAt_lists place list lists
          exact ⟨_, merges⟩
  | @container fragments merged sent named made induction =>
      obtain ⟨parts, rfl⟩ := exists_map_of_kind sent
      by_cases reported : parts = []
      · subst reported
        exact ⟨none, rfl⟩
      obtain ⟨dicts, inside⟩ := distinct_of_part distinct
      have each : ∀ name, ∃ value,
          gatherAt (combineBelow place name) (List.lookup name [])
            (valuesAt name parts.flatten) = .ok value := by
        intro name
        rw [valuesAt_flatten dicts, List.lookup_nil]
        rcases found : merged.lookup name with _ | value
        · rw [named name, filterMap_valueUnder?_map] at found
          rw [found]
          exact ⟨none, rfl⟩
        · have below := induction name value found
          rw [filterMap_valueUnder?_map] at below
          exact below (inside name) (fieldPlace place name)
      obtain ⟨gathered, gathers, -⟩ := exists_gather each
      rw [mergeAt_containers place reported dicts, gathers]
      exact ⟨_, rfl⟩

/-- Lists that merge collect what they merge to. -/
theorem collects_of_lists
    {entries : List Json} {lists : List (List Json)}
    (equalSelf : ∀ list ∈ entries :: lists, ∀ entry ∈ list, entry.pyEq entry = true)
    {place : String} {value : Json}
    (merges : mergeAt place none ((entries :: lists).map .arr) = .ok (some value)) :
    Collects ((entries :: lists).map .arr) value := by
  obtain ⟨result, merged, keeps, made, every⟩ := mergeAt_lists place entries lists
  change mergeAt place (some (.arr entries)) (lists.map .arr) = _ at merges
  rw [merged, Except.ok.injEq, Option.some.injEq] at merges
  subst merges
  have arrived : ∀ {list : List Json},
      Json.arr list ∈ (entries :: lists).map Json.arr → list ∈ entries :: lists := by
    intro list member
    obtain ⟨own, sent, same⟩ := List.mem_map.1 member
    cases same
    exact sent
  apply Collects.list
  · intro fragment member
    obtain ⟨list, -, rfl⟩ := List.mem_map.1 member
    exact ⟨list, rfl⟩
  · intro list member entry inside
    have equal := equalSelf list (arrived member) entry inside
    rcases List.mem_cons.1 (arrived member) with rfl | later
    · exact ⟨entry, keeps entry inside, equal⟩
    · obtain ⟨item, present, rfl | same⟩ := every list later entry inside
      · exact ⟨item, present, equal⟩
      · exact ⟨item, present, same⟩
  · intro item member
    rcases made item member with own | ⟨list, sent, inside⟩
    · exact ⟨entries, List.mem_cons_self, own⟩
    · exact ⟨list, List.mem_map.2 ⟨list, List.mem_cons_of_mem _ sent, rfl⟩, inside⟩

/-- Containers that merge collect what they merge to, if the values of every name do. -/
theorem collects_of_containers
    {parts : List (List (String × Json))} (reported : parts ≠ [])
    (dicts : ∀ part ∈ parts, (part.map Prod.fst).Nodup) {place : String} {value : Json}
    (merges : mergeAt place none (parts.map .obj) = .ok (some value))
    (below : ∀ name made,
      mergeAt (fieldPlace place name) none (parts.filterMap fun part => part.lookup name) =
          .ok (some made) →
        Collects (parts.filterMap fun part => part.lookup name) made) :
    Collects (parts.map .obj) value := by
  rw [mergeAt_containers place reported dicts] at merges
  rcases gathers : gather (combineBelow place) [] parts.flatten with conflict | result
  · rw [gathers] at merges
    cases merges
  rw [gathers] at merges
  cases merges
  have gives : ∀ name,
      mergeAt (fieldPlace place name) none (parts.filterMap fun part => part.lookup name) =
        .ok (result.lookup name) := by
    intro name
    have own := gatherAt_of_gather gathers name
    rw [valuesAt_flatten dicts, List.lookup_nil] at own
    exact own
  apply Collects.container
  · intro fragment member
    obtain ⟨others, -, rfl⟩ := List.mem_map.1 member
    exact ⟨others, rfl⟩
  · intro name
    rw [filterMap_valueUnder?_map, ← mergeAt_eq_none_iff (gives name)]
  · intro name made found
    rw [filterMap_valueUnder?_map]
    apply below name made
    rw [gives name, found]

/-- Fragments without not-a-number that merge collect what they merge to. -/
theorem collects_of_mergeAt
    {fragments : List Json} (free : ∀ fragment ∈ fragments, fragment.nanFree = true)
    (distinct : ∀ fragment ∈ fragments, fragment.distinctKeys = true) {place : String}
    {value : Json} (merges : mergeAt place none fragments = .ok (some value)) :
    Collects fragments value := by
  -- by induction on a bound of the sizes of the fragments
  obtain ⟨bound, small⟩ : ∃ bound, ∀ fragment ∈ fragments, sizeOf fragment < bound := by
    refine ⟨sizeOf fragments, ?_⟩
    intro fragment member
    exact List.sizeOf_lt_of_mem member
  induction bound generalizing fragments place value with
  | zero =>
      cases fragments with
      | nil => cases merges
      | cons first rest => exact absurd (small first List.mem_cons_self) (Nat.not_lt_zero _)
  | succ bound induction =>
      rcases fragments with _ | ⟨first, rest⟩
      · cases merges
      have started : mergeAt place (some first) rest = .ok (some value) := merges
      by_cases list : ∃ entries, first = .arr entries
      · obtain ⟨entries, rfl⟩ := list
        obtain ⟨lists, rfl⟩ := exists_map_of_kind (items_of_mergeAt started)
        apply collects_of_lists _ merges
        intro list member entry inside
        have sent : Json.arr list ∈ (entries :: lists).map Json.arr :=
          List.mem_map.2 ⟨list, member, rfl⟩
        exact Json.pyEq_self ((Json.nanFree_arr_iff list).1 (free _ sent) entry inside)
          ((Json.distinctKeys_arr_iff list).1 (distinct _ sent) entry inside)
      by_cases dictionary : ∃ fields, first = .obj fields
      · obtain ⟨fields, rfl⟩ := dictionary
        obtain ⟨parts, rfl⟩ := exists_map_of_kind (fields_of_mergeAt started)
        rw [← List.map_cons] at free distinct small merges ⊢
        obtain ⟨dicts, inside⟩ := distinct_of_part distinct
        apply collects_of_containers (List.cons_ne_nil _ _) dicts merges
        intro name made mergesBelow
        have sent : ∀ value ∈ (fields :: parts).filterMap fun part => part.lookup name,
            ∃ part ∈ fields :: parts, (name, value) ∈ part := by
          intro value member
          obtain ⟨part, present, found⟩ := List.mem_filterMap.1 member
          exact ⟨part, present, mem_of_lookup found⟩
        apply induction _ (inside name) mergesBelow
        · intro value member
          obtain ⟨part, present, has⟩ := sent value member
          exact lt_of_lt_of_le (Json.sizeOf_lt_of_mem_fields has)
            (Nat.le_of_lt_succ (small _ (List.mem_map.2 ⟨part, present, rfl⟩)))
        · intro value member
          obtain ⟨part, present, has⟩ := sent value member
          exact (Json.nanFree_obj_iff part).1 (free _ (List.mem_map.2 ⟨part, present, rfl⟩)) _ has
      · obtain ⟨atom, leaf⟩ := Json.atom?_eq_some_of_nanFree (free first List.mem_cons_self)
          (fun entries same => list ⟨entries, same⟩)
          fun fields same => dictionary ⟨fields, same⟩
        obtain ⟨unchanged, same⟩ := atom?_of_mergeAt leaf started
        cases unchanged
        apply Collects.leaf _ leaf
        intro fragment member
        rcases List.mem_cons.1 member with rfl | later
        · exact leaf
        · exact same fragment later

/-- Fragments in another order merge as well, to the same contents. -/
theorem mergeAt_perm
    {fragments others : List Json} (reordered : fragments.Perm others)
    (free : ∀ fragment ∈ fragments, fragment.nanFree = true)
    (distinct : ∀ fragment ∈ fragments, fragment.distinctKeys = true) {place : String}
    {value : Option Json} (merges : mergeAt place none fragments = .ok value) :
    ∃ other, mergeAt place none others = .ok other ∧ Option.Rel SameContents value other := by
  cases value with
  | none =>
      rw [(mergeAt_eq_none_iff merges).1 rfl, List.nil_perm] at reordered
      rw [reordered]
      exact ⟨none, rfl, .none⟩
  | some value =>
      have collects := collects_of_mergeAt free distinct merges
      have distinctOther : ∀ fragment ∈ others, fragment.distinctKeys = true := by
        intro fragment member
        exact distinct fragment (reordered.mem_iff.2 member)
      have freeOther : ∀ fragment ∈ others, fragment.nanFree = true := by
        intro fragment member
        exact free fragment (reordered.mem_iff.2 member)
      obtain ⟨merged, mergesOther⟩ := (collects.perm reordered).merges distinctOther place
      have reported : fragments ≠ [] := by
        rw [Ne, ← mergeAt_eq_none_iff merges]
        exact nofun
      cases merged with
      | none =>
          rw [(mergeAt_eq_none_iff mergesOther).1 rfl] at reordered
          exact absurd reordered.eq_nil reported
      | some other =>
          have collectsOther := collects_of_mergeAt freeOther distinctOther mergesOther
          exact ⟨some other, mergesOther,
            .some (collects.sameContents (collectsOther.perm reordered.symm) reported)⟩

end Snapl.Collector
