import Mathlib.Data.List.Nodup
import Mathlib.Data.List.Basic

/-!
# Insertion-ordered dictionaries

A dictionary is a list of key-value entries in insertion order.  Assigning to
a present key replaces its value in place; assigning to an absent key appends
an entry.  Reading returns the value of the first entry with the key.

`Dict` carries the distinctness of its keys, so that its size is the number
of its keys and every entry is the one a lookup of its key returns.
-/

namespace Snapl.Library

universe u v w

variable {Key : Type u} {Value : Type v}

/-- An insertion-ordered dictionary. -/
structure Dict (Key : Type u) (Value : Type v) where
  entries : List (Key × Value)
  distinct : (entries.map Prod.fst).Nodup
deriving DecidableEq

namespace Dict

@[ext]
theorem ext {left right : Dict Key Value}
    (equal : left.entries = right.entries) : left = right := by
  cases left
  cases right
  cases equal
  rfl

/-- The empty dictionary. -/
def empty : Dict Key Value := ⟨[], List.nodup_nil⟩

/-- The keys in insertion order. -/
def keys (dict : Dict Key Value) : List Key := dict.entries.map Prod.fst

/-- The values in insertion order. -/
def values (dict : Dict Key Value) : List Value := dict.entries.map Prod.snd

/-- The number of keys. -/
def size (dict : Dict Key Value) : Nat := dict.entries.length

theorem keys_nodup (dict : Dict Key Value) : dict.keys.Nodup :=
  dict.distinct

@[simp]
theorem length_keys (dict : Dict Key Value) : dict.keys.length = dict.size := by
  simp [keys, size]

@[simp]
theorem entries_empty : (empty : Dict Key Value).entries = [] := rfl

end Dict

variable [DecidableEq Key]

/-- Item assignment: overwrite in place, or append. -/
def assign (entries : List (Key × Value)) (key : Key) (value : Value) :
    List (Key × Value) :=
  match entries with
  | [] => [(key, value)]
  | (present, current) :: rest =>
      if present = key then (present, value) :: rest
      else (present, current) :: assign rest key value

theorem lookup_cons_of_ne
    {key present : Key} (current : Value) (rest : List (Key × Value))
    (different : key ≠ present) :
    ((present, current) :: rest).lookup key = rest.lookup key := by
  rw [List.lookup_cons, beq_eq_false_iff_ne.2 different]

@[simp]
theorem lookup_assign_self
    (entries : List (Key × Value)) (key : Key) (value : Value) :
    (assign entries key value).lookup key = some value := by
  induction entries with
  | nil => simp [assign]
  | cons entry rest induction =>
      rcases entry with ⟨present, current⟩
      by_cases same : present = key
      · simp [assign, same]
      · have different : key ≠ present := fun equal => same equal.symm
        rw [assign, if_neg same, lookup_cons_of_ne _ _ different, induction]

theorem lookup_assign_of_ne
    (entries : List (Key × Value)) {key other : Key} (value : Value)
    (different : other ≠ key) :
    (assign entries key value).lookup other = entries.lookup other := by
  induction entries with
  | nil => rw [assign, lookup_cons_of_ne _ _ different]
  | cons entry rest induction =>
      rcases entry with ⟨present, current⟩
      by_cases same : present = key
      · subst same
        rw [assign, if_pos rfl, lookup_cons_of_ne _ _ different,
          lookup_cons_of_ne _ _ different]
      · simp only [assign, same, if_false, List.lookup_cons, induction]

/-- The keys after an assignment: unchanged, or one more at the end. -/
theorem keys_assign
    (entries : List (Key × Value)) (key : Key) (value : Value) :
    (assign entries key value).map Prod.fst =
      if key ∈ entries.map Prod.fst then entries.map Prod.fst
      else entries.map Prod.fst ++ [key] := by
  induction entries with
  | nil => simp [assign]
  | cons entry rest induction =>
      rcases entry with ⟨present, current⟩
      by_cases same : present = key
      · simp [assign, same]
      · have different : ¬ key = present := fun equal => same equal.symm
        simp only [assign, same, if_false, List.map_cons, induction,
          List.mem_cons, different, false_or]
        split_ifs <;> simp

theorem nodup_keys_assign
    {entries : List (Key × Value)} (key : Key) (value : Value)
    (distinct : (entries.map Prod.fst).Nodup) :
    ((assign entries key value).map Prod.fst).Nodup := by
  rw [keys_assign]
  split_ifs with present
  · exact distinct
  · exact List.nodup_append.2
      ⟨distinct, List.nodup_singleton key, by
        intro old oldMember new newMember equal
        rw [List.mem_singleton] at newMember
        subst newMember
        subst equal
        exact present oldMember⟩

/-- Assigning to an absent key appends the entry. -/
theorem assign_of_not_mem
    {entries : List (Key × Value)} {key : Key} (value : Value)
    (absent : key ∉ entries.map Prod.fst) :
    assign entries key value = entries ++ [(key, value)] := by
  induction entries with
  | nil => rfl
  | cons entry rest induction =>
      rcases entry with ⟨present, current⟩
      simp only [List.map_cons, List.mem_cons, not_or] at absent
      have different : ¬ present = key := fun equal => absent.1 equal.symm
      simp [assign, different, induction absent.2]

theorem lookup_eq_none_iff_not_mem
    (entries : List (Key × Value)) (key : Key) :
    entries.lookup key = none ↔ key ∉ entries.map Prod.fst := by
  induction entries with
  | nil => simp
  | cons entry rest induction =>
      rcases entry with ⟨present, current⟩
      by_cases same : key = present
      · simp [same]
      · rw [lookup_cons_of_ne _ _ same, List.map_cons, List.mem_cons, induction]
        simp [same]

theorem mem_of_lookup
    {entries : List (Key × Value)} {key : Key} {value : Value}
    (found : entries.lookup key = some value) :
    (key, value) ∈ entries := by
  induction entries with
  | nil => simp at found
  | cons entry rest induction =>
      rcases entry with ⟨present, current⟩
      by_cases same : key = present
      · subst same
        simp only [List.lookup_cons, beq_self_eq_true, Option.some.injEq] at found
        simp [found]
      · rw [lookup_cons_of_ne _ _ same] at found
        exact List.mem_cons_of_mem _ (induction found)

theorem lookup_of_mem
    {entries : List (Key × Value)} {key : Key} {value : Value}
    (distinct : (entries.map Prod.fst).Nodup)
    (member : (key, value) ∈ entries) :
    entries.lookup key = some value := by
  induction entries with
  | nil => simp at member
  | cons entry rest induction =>
      rcases entry with ⟨present, current⟩
      simp only [List.map_cons, List.nodup_cons] at distinct
      rcases List.mem_cons.1 member with equal | inRest
      · obtain ⟨rfl, rfl⟩ := Prod.mk.inj equal
        simp
      · have different : key ≠ present := by
          rintro rfl
          exact distinct.1 (List.mem_map.2 ⟨(key, value), inRest, rfl⟩)
        rw [lookup_cons_of_ne _ _ different]
        exact induction distinct.2 inRest

/-- Assigning the value that is there changes nothing. -/
theorem assign_of_lookup
    {entries : List (Key × Value)} {key : Key} {value : Value}
    (found : entries.lookup key = some value) :
    assign entries key value = entries := by
  induction entries with
  | nil => cases found
  | cons entry rest induction =>
      obtain ⟨present, current⟩ := entry
      by_cases same : present = key
      · subst same
        rw [List.lookup_cons_self, Option.some.injEq] at found
        rw [assign, if_pos rfl, found]
      · rw [lookup_cons_of_ne _ _ (Ne.symm same)] at found
        rw [assign, if_neg same, induction found]

/-- Looking up a mapped value. -/
theorem lookup_map_value
    {Other : Type*} (change : Value → Other) (entries : List (Key × Value)) (key : Key) :
    (entries.map fun entry => (entry.1, change entry.2)).lookup key =
      (entries.lookup key).map change := by
  induction entries with
  | nil => rfl
  | cons entry rest induction =>
      obtain ⟨present, current⟩ := entry
      by_cases equal : key = present
      · subst equal
        simp
      · rw [List.map_cons, lookup_cons_of_ne _ _ equal, lookup_cons_of_ne _ _ equal]
        exact induction

namespace Dict

/-- The value of a key, if it is present. -/
def get? (dict : Dict Key Value) (key : Key) : Option Value :=
  dict.entries.lookup key

/-- Item assignment. -/
def set (dict : Dict Key Value) (key : Key) (value : Value) :
    Dict Key Value :=
  ⟨assign dict.entries key value, nodup_keys_assign key value dict.distinct⟩

/-- Assign a list of pairs in order, later pairs overwriting earlier ones. -/
def update (dict : Dict Key Value) (pairs : List (Key × Value)) :
    Dict Key Value :=
  pairs.foldl (fun current pair => current.set pair.1 pair.2) dict

/-- The dictionary a comprehension over `pairs` builds. -/
def ofPairs (pairs : List (Key × Value)) : Dict Key Value :=
  empty.update pairs

@[simp]
theorem get?_empty (key : Key) :
    (empty : Dict Key Value).get? key = none := rfl

@[simp]
theorem get?_set_self
    (dict : Dict Key Value) (key : Key) (value : Value) :
    (dict.set key value).get? key = some value :=
  lookup_assign_self dict.entries key value

theorem get?_set_of_ne
    (dict : Dict Key Value) {key other : Key} (value : Value)
    (different : other ≠ key) :
    (dict.set key value).get? other = dict.get? other :=
  lookup_assign_of_ne dict.entries value different

theorem get?_eq_some_iff
    (dict : Dict Key Value) (key : Key) (value : Value) :
    dict.get? key = some value ↔ (key, value) ∈ dict.entries :=
  ⟨mem_of_lookup, lookup_of_mem dict.distinct⟩

theorem get?_eq_none_iff
    (dict : Dict Key Value) (key : Key) :
    dict.get? key = none ↔ key ∉ dict.keys :=
  lookup_eq_none_iff_not_mem dict.entries key

theorem mem_keys_iff
    (dict : Dict Key Value) (key : Key) :
    key ∈ dict.keys ↔ ∃ value, dict.get? key = some value := by
  constructor
  · intro member
    rcases found : dict.get? key with _ | value
    · exact absurd member ((dict.get?_eq_none_iff key).1 found)
    · exact ⟨value, rfl⟩
  · rintro ⟨value, found⟩
    exact List.mem_map.2
      ⟨(key, value), (dict.get?_eq_some_iff key value).1 found, rfl⟩

theorem keys_set
    (dict : Dict Key Value) (key : Key) (value : Value) :
    (dict.set key value).keys =
      if key ∈ dict.keys then dict.keys else dict.keys ++ [key] :=
  keys_assign dict.entries key value

/-- Fresh pairs with distinct keys are appended in order. -/
theorem entries_update_of_fresh
    (dict : Dict Key Value) (pairs : List (Key × Value))
    (fresh : ((dict.entries ++ pairs).map Prod.fst).Nodup) :
    (dict.update pairs).entries = dict.entries ++ pairs := by
  induction pairs generalizing dict with
  | nil => simp [update]
  | cons pair rest induction =>
      have absent : pair.1 ∉ dict.entries.map Prod.fst := by
        intro member
        rw [List.map_append, List.nodup_append] at fresh
        exact fresh.2.2 pair.1 member pair.1 (by simp) rfl
      have appended :
          (dict.set pair.1 pair.2).entries = dict.entries ++ [pair] :=
        assign_of_not_mem pair.2 absent
      have step : dict.update (pair :: rest) =
          (dict.set pair.1 pair.2).update rest := rfl
      rw [step, induction, appended]
      · simp
      · rw [appended]
        simpa using fresh

/-- A comprehension over pairs with distinct keys keeps exactly those pairs. -/
theorem entries_ofPairs
    {pairs : List (Key × Value)}
    (distinct : (pairs.map Prod.fst).Nodup) :
    (ofPairs pairs).entries = pairs := by
  have updated :=
    entries_update_of_fresh empty pairs (by simpa using distinct)
  rw [ofPairs, updated, entries_empty, List.nil_append]

theorem get?_update_of_not_mem
    (dict : Dict Key Value) (pairs : List (Key × Value)) {key : Key}
    (absent : key ∉ pairs.map Prod.fst) :
    (dict.update pairs).get? key = dict.get? key := by
  induction pairs generalizing dict with
  | nil => rfl
  | cons pair rest induction =>
      simp only [List.map_cons, List.mem_cons, not_or] at absent
      have step : dict.update (pair :: rest) =
          (dict.set pair.1 pair.2).update rest := rfl
      rw [step, induction _ absent.2, get?_set_of_ne dict pair.2 absent.1]

theorem mem_keys_update
    (dict : Dict Key Value) (pairs : List (Key × Value)) (key : Key) :
    key ∈ (dict.update pairs).keys ↔
      key ∈ dict.keys ∨ key ∈ pairs.map Prod.fst := by
  induction pairs generalizing dict with
  | nil => simp [update]
  | cons pair rest induction =>
      have step : dict.update (pair :: rest) =
          (dict.set pair.1 pair.2).update rest := rfl
      rw [step, induction, keys_set]
      by_cases present : pair.1 ∈ dict.keys
      · by_cases same : key = pair.1
        · simp [same, present]
        · simp [present, same]
      · simp only [present, if_false, List.mem_append, List.map_cons,
          List.mem_cons, List.not_mem_nil, or_false, or_assoc]

theorem mem_entries_set
    (dict : Dict Key Value) (key : Key) (value : Value) {entry : Key × Value}
    (member : entry ∈ (dict.set key value).entries) :
    entry = (key, value) ∨ entry ∈ dict.entries := by
  obtain ⟨found, given⟩ := entry
  have lookup := (get?_eq_some_iff _ _ _).2 member
  by_cases same : found = key
  · subst same
    rw [get?_set_self, Option.some.injEq] at lookup
    exact Or.inl (by rw [lookup])
  · rw [get?_set_of_ne dict value same] at lookup
    exact Or.inr ((get?_eq_some_iff _ _ _).1 lookup)

/-- Every entry of an updated dictionary is an old one or a new pair. -/
theorem mem_entries_update
    (dict : Dict Key Value) (pairs : List (Key × Value)) {entry : Key × Value}
    (member : entry ∈ (dict.update pairs).entries) :
    entry ∈ pairs ∨ entry ∈ dict.entries := by
  induction pairs generalizing dict with
  | nil => exact Or.inr member
  | cons pair rest induction =>
      rcases induction (dict.set pair.1 pair.2) member with new | old
      · exact Or.inl (List.mem_cons_of_mem _ new)
      · rcases mem_entries_set dict pair.1 pair.2 old with rfl | present
        · exact Or.inl (by simp)
        · exact Or.inr present

/--
Updating with pairs that agree on their common keys: a key of theirs has the
value they give it, and any other key keeps its own.
-/
theorem get?_update_eq_some_iff
    (dict : Dict Key Value) {pairs : List (Key × Value)}
    (agree : ∀ pair ∈ pairs, ∀ other ∈ pairs, pair.1 = other.1 → pair.2 = other.2)
    (key : Key) (value : Value) :
    (dict.update pairs).get? key = some value ↔
      (key, value) ∈ pairs ∨ (key ∉ pairs.map Prod.fst ∧ dict.get? key = some value) := by
  induction pairs generalizing dict with
  | nil => simp [update]
  | cons pair rest induction =>
      have step : dict.update (pair :: rest) =
          (dict.set pair.1 pair.2).update rest := rfl
      have agreeRest : ∀ first ∈ rest, ∀ other ∈ rest, first.1 = other.1 →
          first.2 = other.2 :=
        fun first member other otherMember =>
          agree first (List.mem_cons_of_mem _ member) other (List.mem_cons_of_mem _ otherMember)
      rw [step, induction _ agreeRest, List.mem_cons, List.map_cons, List.mem_cons]
      by_cases same : key = pair.1
      · subst same
        rw [get?_set_self, Option.some.injEq]
        constructor
        · rintro (later | ⟨-, rfl⟩)
          · exact Or.inl (Or.inr later)
          · exact Or.inl (Or.inl rfl)
        · rintro ((equal | later) | ⟨absent, -⟩)
          · by_cases again : pair.1 ∈ rest.map Prod.fst
            · obtain ⟨other, member, equalKey⟩ := List.mem_map.1 again
              have equalValue := agree pair List.mem_cons_self other
                (List.mem_cons_of_mem _ member) equalKey.symm
              have whole : pair = other := Prod.ext equalKey.symm equalValue
              exact Or.inl (by rw [equal, whole]; exact member)
            · exact Or.inr ⟨again, congrArg Prod.snd equal |>.symm⟩
          · exact Or.inl later
          · exact absurd (Or.inl rfl) absent
      · rw [get?_set_of_ne dict pair.2 same]
        have unequal : (key, value) ≠ pair := fun equal => same (congrArg Prod.fst equal)
        simp only [unequal, same, false_or]

/-- Remove a key, if it is present. -/
def erase (dict : Dict Key Value) (key : Key) : Dict Key Value where
  entries := dict.entries.filter fun entry => entry.1 ≠ key
  distinct := dict.distinct.sublist (List.filter_sublist.map Prod.fst)

theorem get?_erase_of_ne
    (dict : Dict Key Value) {key other : Key} (different : other ≠ key) :
    (dict.erase key).get? other = dict.get? other := by
  apply Option.ext
  intro value
  rw [get?_eq_some_iff, get?_eq_some_iff, erase, List.mem_filter]
  simp [different]

end Dict

end Snapl.Library
