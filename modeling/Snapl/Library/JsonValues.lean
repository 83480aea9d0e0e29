import Snapl.Library.Json

/-!
# Values a decoder builds

Induction over decoded values, and the two things that may keep a value from
being equal to itself: not-a-number somewhere in it, and a dictionary with a
key twice, which no decoder builds.
-/

namespace Snapl.Library.Json

theorem sizeOf_lt_of_mem_items {items : List Json} {item : Json} (member : item ∈ items) :
    sizeOf item < sizeOf (Json.arr items) := by
  have inside := List.sizeOf_lt_of_mem member
  simp only [arr.sizeOf_spec]
  omega

theorem sizeOf_lt_of_mem_fields
    {fields : List (String × Json)} {field : String × Json} (member : field ∈ fields) :
    sizeOf field.2 < sizeOf (Json.obj fields) := by
  have inside := List.sizeOf_lt_of_mem member
  obtain ⟨name, value⟩ := field
  simp only [Prod.mk.sizeOf_spec] at inside
  simp only [obj.sizeOf_spec]
  omega

/-- A property of every list of values that have it, and of every dictionary. -/
@[elab_as_elim]
theorem recursion
    {motive : Json → Prop}
    (leaf : ∀ value, (∀ items, value ≠ .arr items) → (∀ fields, value ≠ .obj fields) →
      motive value)
    (list : ∀ items, (∀ item ∈ items, motive item) → motive (.arr items))
    (dictionary : ∀ fields, (∀ field ∈ fields, motive field.2) → motive (.obj fields))
    (value : Json) : motive value :=
  match value with
  | .arr items =>
      list items fun item _ => recursion leaf list dictionary item
  | .obj fields =>
      dictionary fields fun field _ => recursion leaf list dictionary field.2
  | .null => leaf _ nofun nofun
  | .bool _ => leaf _ nofun nofun
  | .int _ => leaf _ nofun nofun
  | .float _ => leaf _ nofun nofun
  | .str _ => leaf _ nofun nofun
termination_by sizeOf value
decreasing_by
  · exact sizeOf_lt_of_mem_items ‹_›
  · exact sizeOf_lt_of_mem_fields ‹_›

mutual

/-- No number of the value is not-a-number. -/
def nanFree : Json → Bool
  | .float .nan => false
  | .arr items => nanFreeItems items
  | .obj fields => nanFreeFields fields
  | _ => true

def nanFreeItems : List Json → Bool
  | [] => true
  | item :: items => nanFree item && nanFreeItems items

def nanFreeFields : List (String × Json) → Bool
  | [] => true
  | (_, value) :: fields => nanFree value && nanFreeFields fields

end

mutual

/-- No dictionary of the value has a key twice. -/
def distinctKeys : Json → Bool
  | .arr items => distinctKeysItems items
  | .obj fields => decide (fields.map Prod.fst).Nodup && distinctKeysFields fields
  | _ => true

def distinctKeysItems : List Json → Bool
  | [] => true
  | item :: items => distinctKeys item && distinctKeysItems items

def distinctKeysFields : List (String × Json) → Bool
  | [] => true
  | (_, value) :: fields => distinctKeys value && distinctKeysFields fields

end

theorem nanFree_arr_iff (items : List Json) :
    nanFree (.arr items) = true ↔ ∀ item ∈ items, nanFree item = true := by
  rw [nanFree]
  induction items with
  | nil => simp [nanFreeItems]
  | cons item items induction => simp [nanFreeItems, induction]

theorem nanFree_obj_iff (fields : List (String × Json)) :
    nanFree (.obj fields) = true ↔ ∀ field ∈ fields, nanFree field.2 = true := by
  rw [nanFree]
  induction fields with
  | nil => simp [nanFreeFields]
  | cons field fields induction => simp [nanFreeFields, induction]

theorem distinctKeys_arr_iff (items : List Json) :
    distinctKeys (.arr items) = true ↔ ∀ item ∈ items, distinctKeys item = true := by
  rw [distinctKeys]
  induction items with
  | nil => simp [distinctKeysItems]
  | cons item items induction => simp [distinctKeysItems, induction]

theorem distinctKeys_obj_iff (fields : List (String × Json)) :
    distinctKeys (.obj fields) = true ↔
      (fields.map Prod.fst).Nodup ∧ ∀ field ∈ fields, distinctKeys field.2 = true := by
  have inside : distinctKeysFields fields = true ↔
      ∀ field ∈ fields, distinctKeys field.2 = true := by
    induction fields with
    | nil => simp [distinctKeysFields]
    | cons field fields induction => simp [distinctKeysFields, induction]
  rw [distinctKeys, Bool.and_eq_true, decide_eq_true_eq, inside]

theorem pyEqFields_of_forall
    {lefts rights : List (String × Json)}
    (equal : ∀ field ∈ lefts, ∃ value, rights.lookup field.1 = some value ∧
      field.2.pyEq value = true) :
    pyEqFields lefts rights = true := by
  induction lefts with
  | nil => rw [pyEqFields]
  | cons left lefts induction =>
      obtain ⟨value, looked, same⟩ := equal left List.mem_cons_self
      rw [pyEqFields, looked, Bool.and_eq_true]
      exact ⟨same, induction fun field member => equal field (List.mem_cons_of_mem _ member)⟩

/-- Every field of a dictionary has its equal in a dictionary it is equal to. -/
theorem pyEq_field_of_pyEq
    {fields others : List (String × Json)} (equal : (obj fields).pyEq (.obj others) = true)
    {name : String} {value : Json} (member : (name, value) ∈ fields) :
    ∃ other, others.lookup name = some other ∧ value.pyEq other = true := by
  rw [pyEq, Bool.and_eq_true] at equal
  have inside := equal.2
  clear equal
  induction fields with
  | nil => cases member
  | cons field rest induction =>
      obtain ⟨key, current⟩ := field
      rw [pyEqFields, Bool.and_eq_true] at inside
      rcases List.mem_cons.1 member with same | later
      · cases same
        rcases found : others.lookup name with _ | other
        · rw [found] at inside
          cases inside.1
        · rw [found] at inside
          exact ⟨other, rfl, inside.1⟩
      · exact induction later inside.2

theorem pyEq_of_singletons {value other : Json}
    (equal : (arr [value]).pyEq (.arr [other]) = true) : value.pyEq other = true := by
  rw [pyEq, pyEqItems, Bool.and_eq_true] at equal
  exact equal.1

theorem pyEqItems_self_of_forall
    {items : List Json} (equal : ∀ item ∈ items, item.pyEq item = true) :
    pyEqItems items items = true := by
  induction items with
  | nil => rw [pyEqItems]
  | cons item items induction =>
      rw [pyEqItems, Bool.and_eq_true]
      exact ⟨equal item List.mem_cons_self,
        induction fun other member => equal other (List.mem_cons_of_mem _ member)⟩

/-- A value of distinct keys without not-a-number equals itself. -/
theorem pyEq_self
    {value : Json} (free : value.nanFree = true) (distinct : value.distinctKeys = true) :
    value.pyEq value = true := by
  induction value using recursion with
  | leaf value notList notDictionary =>
      cases value with
      | arr items => exact absurd rfl (notList items)
      | obj fields => exact absurd rfl (notDictionary fields)
      | float number =>
          cases number with
          | nan => cases free
          | finite => simp [pyEq, number?]
          | infinite => simp [pyEq]
      | null => simp
      | bool => simp
      | int => simp
      | str => simp
  | list items induction =>
      rw [nanFree_arr_iff] at free
      rw [distinctKeys_arr_iff] at distinct
      rw [pyEq]
      apply pyEqItems_self_of_forall
      intro item member
      exact induction item member (free item member) (distinct item member)
  | dictionary fields induction =>
      rw [nanFree_obj_iff] at free
      rw [distinctKeys_obj_iff] at distinct
      rw [pyEq, Bool.and_eq_true]
      constructor
      · exact decide_eq_true rfl
      · apply pyEqFields_of_forall
        intro field member
        exact ⟨field.2, lookup_of_mem distinct.1 member,
          induction field member (free field member) (distinct.2 field member)⟩

/-- What a value without parts is compared by; not-a-number has nothing to compare. -/
inductive Atom where
  | null
  | text (value : String)
  | number (value : Rat)
  | infinite (negative : Bool)

/-- What a value without parts is compared by. -/
def atom? : Json → Option Atom
  | .null => some .null
  | .bool value => some (.number (if value then 1 else 0))
  | .int value => some (.number value)
  | .float (.finite value) => some (.number value)
  | .float (.infinite negative) => some (.infinite negative)
  | .float .nan => none
  | .str value => some (.text value)
  | .arr _ => none
  | .obj _ => none

/-- A value equals a leaf exactly when both are compared by the same. -/
theorem pyEq_iff_of_atom
    {left right : Json} {atom : Atom} (leaf : left.atom? = some atom) :
    left.pyEq right = true ↔ right.atom? = some atom := by
  rcases left with _ | _ | _ | (_ | _ | _) | _ | _ | _ <;>
    rcases right with _ | _ | _ | (_ | _ | _) | _ | _ | _ <;>
      simp only [atom?, Option.some.injEq, reduceCtorEq] at leaf <;>
        subst leaf <;> simp [pyEq, number?, atom?, eq_comm]

/-- A leaf equals a value exactly when both are compared by the same. -/
theorem pyEq_iff_of_atom_right
    {left right : Json} {atom : Atom} (leaf : right.atom? = some atom) :
    left.pyEq right = true ↔ left.atom? = some atom := by
  rcases right with _ | _ | _ | (_ | _ | _) | _ | _ | _ <;>
    rcases left with _ | _ | _ | (_ | _ | _) | _ | _ | _ <;>
      simp only [atom?, Option.some.injEq, reduceCtorEq] at leaf <;>
        subst leaf <;> simp [pyEq, number?, atom?]

/-- A value without parts has something to be compared by, unless it is not-a-number. -/
theorem atom?_eq_some_of_nanFree
    {value : Json} (free : value.nanFree = true) (notList : ∀ items, value ≠ .arr items)
    (notDictionary : ∀ fields, value ≠ .obj fields) : ∃ atom, value.atom? = some atom := by
  rcases value with _ | _ | _ | (_ | _ | _) | _ | items | fields
  · exact ⟨_, rfl⟩
  · exact ⟨_, rfl⟩
  · exact ⟨_, rfl⟩
  · exact ⟨_, rfl⟩
  · exact ⟨_, rfl⟩
  · cases free
  · exact ⟨_, rfl⟩
  · exact absurd rfl (notList items)
  · exact absurd rfl (notDictionary fields)

end Snapl.Library.Json
