import Mathlib.Data.List.Nodup
import Mathlib.Data.List.Perm.Basic

/-!
# The first item of each key

A filter that keeps an item when no earlier item has its key.  Each key that
occurs is kept once; which of its items stands for it depends on the order.
What the kept items have besides their keys is the same in every order, up to
the order, exactly when items of one key agree on it.
-/

namespace Snapl.Library

variable {Item Key Value : Type*} [DecidableEq Key]

/-- The items whose keys were not seen before, neither before the list nor in it. -/
def firstsFrom (key : Item → Key) (seen : List Key) : List Item → List Item
  | [] => []
  | item :: rest =>
      if key item ∈ seen then firstsFrom key seen rest
      else item :: firstsFrom key (key item :: seen) rest

/-- The first item of each key. -/
def firstsByKey (key : Item → Key) (items : List Item) : List Item := firstsFrom key [] items

section

variable {key : Item → Key} {seen : List Key} {items others : List Item} {item : Item}

/-- An item is kept where it occurs with a key that was not seen before. -/
theorem mem_firstsFrom_iff :
    item ∈ firstsFrom key seen items ↔
      key item ∉ seen ∧ ∃ before after, items = before ++ item :: after ∧
        ∀ earlier ∈ before, key earlier ≠ key item := by
  induction items generalizing seen with
  | nil =>
      rw [firstsFrom]
      constructor
      · intro impossible
        cases impossible
      · rintro ⟨-, before, after, impossible, -⟩
        exact absurd impossible.symm (List.append_ne_nil_of_right_ne_nil _ (List.cons_ne_nil _ _))
  | cons first rest induction =>
      rw [firstsFrom]
      split_ifs with isSeen
      · rw [induction]
        constructor
        · rintro ⟨fresh, before, after, rfl, earlier⟩
          refine ⟨fresh, first :: before, after, rfl, ?_⟩
          intro other member
          rcases List.mem_cons.1 member with rfl | later
          · intro same
            rw [same] at isSeen
            exact fresh isSeen
          · exact earlier other later
        · rintro ⟨fresh, before, after, whole, earlier⟩
          refine ⟨fresh, ?_⟩
          rcases before with _ | ⟨head, before⟩
          · cases whole
            exact absurd isSeen fresh
          · cases whole
            exact ⟨before, after, rfl, fun other member =>
              earlier other (List.mem_cons_of_mem _ member)⟩
      · rw [List.mem_cons, induction]
        constructor
        · rintro (rfl | ⟨fresh, before, after, rfl, earlier⟩)
          · exact ⟨isSeen, [], rest, rfl, fun _ member => by cases member⟩
          · rw [List.mem_cons, not_or] at fresh
            refine ⟨fresh.2, first :: before, after, rfl, ?_⟩
            intro other member
            rcases List.mem_cons.1 member with rfl | later
            · exact Ne.symm fresh.1
            · exact earlier other later
        · rintro ⟨fresh, before, after, whole, earlier⟩
          rcases before with _ | ⟨head, before⟩
          · cases whole
            exact Or.inl rfl
          · cases whole
            right
            refine ⟨?_, before, after, rfl, fun other member =>
              earlier other (List.mem_cons_of_mem _ member)⟩
            rw [List.mem_cons, not_or]
            exact ⟨Ne.symm (earlier first List.mem_cons_self), fresh⟩

theorem mem_firstsByKey_iff :
    item ∈ firstsByKey key items ↔ ∃ before after, items = before ++ item :: after ∧
      ∀ earlier ∈ before, key earlier ≠ key item := by
  rw [firstsByKey, mem_firstsFrom_iff]
  simp

theorem mem_of_mem_firstsByKey (member : item ∈ firstsByKey key items) : item ∈ items := by
  obtain ⟨before, after, rfl, -⟩ := mem_firstsByKey_iff.1 member
  exact List.mem_append_right _ List.mem_cons_self

theorem mem_keys_firstsFrom_iff (value : Key) :
    value ∈ (firstsFrom key seen items).map key ↔ value ∈ items.map key ∧ value ∉ seen := by
  induction items generalizing seen with
  | nil => simp [firstsFrom]
  | cons first rest induction =>
      rw [firstsFrom]
      split_ifs with isSeen
      · rw [induction, List.map_cons, List.mem_cons]
        constructor
        · rintro ⟨member, fresh⟩
          exact ⟨Or.inr member, fresh⟩
        · rintro ⟨rfl | member, fresh⟩
          · exact absurd isSeen fresh
          · exact ⟨member, fresh⟩
      · rw [List.map_cons, List.map_cons, List.mem_cons, List.mem_cons, induction, List.mem_cons,
          not_or]
        constructor
        · rintro (rfl | ⟨member, -, fresh⟩)
          · exact ⟨Or.inl rfl, isSeen⟩
          · exact ⟨Or.inr member, fresh⟩
        · rintro ⟨rfl | member, fresh⟩
          · exact Or.inl rfl
          · by_cases same : value = key first
            · exact Or.inl same
            · exact Or.inr ⟨member, same, fresh⟩

/-- A last item is kept when its key is new. -/
theorem firstsFrom_concat :
    firstsFrom key seen (items ++ [item]) =
      firstsFrom key seen items ++
        (if key item ∈ seen ∨ key item ∈ items.map key then [] else [item]) := by
  induction items generalizing seen with
  | nil =>
      simp only [List.nil_append, firstsFrom, List.map_nil, List.not_mem_nil, or_false]
  | cons first rest induction =>
      rw [List.cons_append, firstsFrom, firstsFrom, List.map_cons]
      by_cases isSeen : key first ∈ seen
      · rw [if_pos isSeen, if_pos isSeen, induction]
        congr 1
        apply if_congr _ rfl rfl
        rw [List.mem_cons]
        constructor
        · rintro (old | later)
          · exact .inl old
          · exact .inr (.inr later)
        · rintro (old | same | later)
          · exact .inl old
          · exact .inl (same ▸ isSeen)
          · exact .inr later
      · rw [if_neg isSeen, if_neg isSeen, induction, List.cons_append]
        congr 2
        apply if_congr _ rfl rfl
        rw [List.mem_cons, List.mem_cons, or_comm (a := key item = key first), or_assoc]

theorem firstsByKey_concat :
    firstsByKey key (items ++ [item]) =
      if key item ∈ (firstsByKey key items).map key then firstsByKey key items
      else firstsByKey key items ++ [item] := by
  have keys := @mem_keys_firstsFrom_iff Item Key _ key [] items (key item)
  rw [firstsByKey, firstsByKey, firstsFrom_concat]
  simp only [List.not_mem_nil, false_or, not_false_eq_true, and_true] at keys ⊢
  split_ifs with known kept kept
  · exact List.append_nil _
  · exact absurd (keys.2 known) kept
  · exact absurd (keys.1 kept) known
  · rfl

/-- Every key that occurs is kept. -/
theorem exists_first_of_mem (member : item ∈ items) :
    ∃ first ∈ firstsByKey key items, key first = key item := by
  have kept := (@mem_keys_firstsFrom_iff Item Key _ key [] items (key item)).2
    ⟨List.mem_map_of_mem member, List.not_mem_nil⟩
  obtain ⟨first, isFirst, same⟩ := List.mem_map.1 kept
  exact ⟨first, isFirst, same⟩

theorem nodup_keys_firstsFrom : ((firstsFrom key seen items).map key).Nodup := by
  induction items generalizing seen with
  | nil => exact List.nodup_nil
  | cons first rest induction =>
      rw [firstsFrom]
      split_ifs
      · exact induction
      · rw [List.map_cons, List.nodup_cons, mem_keys_firstsFrom_iff]
        exact ⟨fun kept => kept.2 List.mem_cons_self, induction⟩

theorem nodup_firstsByKey : (firstsByKey key items).Nodup :=
  List.Nodup.of_map key nodup_keys_firstsFrom

/-- The kept keys are the same in every order, up to the order. -/
theorem keys_firstsByKey_perm (reordered : items.Perm others) :
    ((firstsByKey key items).map key).Perm ((firstsByKey key others).map key) := by
  apply (List.perm_ext_iff_of_nodup nodup_keys_firstsFrom nodup_keys_firstsFrom).2
  intro value
  rw [mem_keys_firstsFrom_iff, mem_keys_firstsFrom_iff, (reordered.map key).mem_iff]

/-- Items of one key have one value. -/
def AgreeByKey (key : Item → Key) (value : Item → Value) (items : List Item) : Prop :=
  ∀ item ∈ items, ∀ other ∈ items, key item = key other → value item = value other

/-- What the kept items agree on by their keys is the same in every order, up to the order. -/
theorem values_firstsByKey_perm
    {value : Item → Value} (agree : AgreeByKey key value items) (reordered : items.Perm others) :
    ((firstsByKey key items).map value).Perm ((firstsByKey key others).map value) := by
  rcases items with _ | ⟨head, tail⟩
  · rw [List.nil_perm.1 reordered]
  -- a value is a function of its key
  obtain ⟨ofKey, byKey⟩ : ∃ ofKey : Key → Value, ∀ item ∈ head :: tail,
      value item = ofKey (key item) := by
    classical
    refine ⟨fun wanted => if present : ∃ item ∈ head :: tail, key item = wanted
      then value present.choose else value head, ?_⟩
    intro item member
    have present : ∃ other ∈ head :: tail, key other = key item := ⟨item, member, rfl⟩
    change value item = dite _ _ _
    rw [dif_pos present]
    exact agree item member _ present.choose_spec.1 present.choose_spec.2.symm
  have first : (firstsByKey key (head :: tail)).map value =
      ((firstsByKey key (head :: tail)).map key).map ofKey := by
    rw [List.map_map]
    apply List.map_congr_left
    intro item isFirst
    exact byKey item (mem_of_mem_firstsByKey isFirst)
  have second : (firstsByKey key others).map value =
      ((firstsByKey key others).map key).map ofKey := by
    rw [List.map_map]
    apply List.map_congr_left
    intro item isFirst
    exact byKey item (reordered.mem_iff.2 (mem_of_mem_firstsByKey isFirst))
  rw [first, second]
  exact (keys_firstsByKey_perm reordered).map ofKey

/-- Two items of one key in front stand for each other. -/
theorem value_eq_of_fronts
    {value : Item → Value} {first second : Item} {rest : List Item}
    (same : key first = key second)
    (reordered : ((firstsByKey key (first :: second :: rest)).map value).Perm
      ((firstsByKey key (second :: first :: rest)).map value)) :
    value first = value second := by
  rw [firstsByKey, firstsByKey, firstsFrom, if_neg List.not_mem_nil, firstsFrom,
    if_pos (by rw [same]; exact List.mem_cons_self), firstsFrom, if_neg List.not_mem_nil,
    firstsFrom, if_pos (by rw [same]; exact List.mem_cons_self), same, List.map_cons,
    List.map_cons] at reordered
  have single : [value first].Perm [value second] :=
    (List.perm_append_right_iff _).1 (by simpa only [List.singleton_append] using reordered)
  exact List.singleton_perm_singleton.1 single

end

/-- One of different items has the value exactly when the value is listed once. -/
theorem count_map_eq_one_iff
    [BEq Value] [LawfulBEq Value] {items : List Item} {value : Item → Value} {wanted : Value}
    (different : items.Nodup) :
    (items.map value).count wanted = 1 ↔ ∃! item, item ∈ items ∧ value item = wanted := by
  rw [List.count, List.countP_map, List.countP_eq_length_filter, List.length_eq_one_iff]
  have among : ∀ item, item ∈ items.filter ((· == wanted) ∘ value) ↔
      item ∈ items ∧ value item = wanted := by
    intro item
    rw [List.mem_filter, Function.comp_apply, beq_iff_eq]
  constructor
  · rintro ⟨item, only⟩
    rw [only] at among
    refine ⟨item, (among item).1 (List.mem_singleton_self item), ?_⟩
    intro other isOther
    exact List.mem_singleton.1 ((among other).2 isOther)
  · rintro ⟨item, isItem, only⟩
    refine ⟨item, List.perm_singleton.1 ?_⟩
    apply (List.perm_ext_iff_of_nodup (different.filter _) (List.nodup_singleton item)).2
    intro other
    rw [among, List.mem_singleton]
    constructor
    · exact only other
    · rintro rfl
      exact isItem

end Snapl.Library
