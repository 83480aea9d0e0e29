import Snapl.Library.Association
import Snapl.Library.Fallible

/-!
# Gathering values under keys

A list of pairs is gathered into an association list: the first value of a key
is inserted, every later one is combined with what the key already has, and
combining may fail.  What a key ends with depends on its own values alone, so a
gathering succeeds when that of every key does.
-/

namespace Snapl.Library

universe u v

variable {Key Value : Type u} {Failure : Type v} [DecidableEq Key]

/-- A value after the one already present, if there is one. -/
def combineWith (combine : Value → Value → Except Failure Value) :
    Option Value → Value → Except Failure Value
  | none, value => .ok value
  | some present, value => combine present value

/-- Combine the values of one key from left to right, starting from its present value. -/
def gatherAt (combine : Value → Value → Except Failure Value) (present : Option Value) :
    List Value → Except Failure (Option Value)
  | [] => .ok present
  | value :: rest => do
      let next ← combineWith combine present value
      gatherAt combine (some next) rest

/-- Insert every pair, or combine it with what its key already has. -/
def gather (combine : Key → Value → Value → Except Failure Value)
    (entries : List (Key × Value)) :
    List (Key × Value) → Except Failure (List (Key × Value))
  | [] => .ok entries
  | (key, value) :: rest => do
      let next ← combineWith (combine key) (entries.lookup key) value
      gather combine (assign entries key next) rest

/-- The values the pairs have under a key, in order. -/
def valuesAt (key : Key) (pairs : List (Key × Value)) : List Value :=
  pairs.filterMap fun pair => if pair.1 = key then some pair.2 else none

@[simp]
theorem valuesAt_nil (key : Key) : valuesAt key ([] : List (Key × Value)) = [] := rfl

@[simp]
theorem valuesAt_cons_self (key : Key) (value : Value) (rest : List (Key × Value)) :
    valuesAt key ((key, value) :: rest) = value :: valuesAt key rest := by
  rw [valuesAt, List.filterMap_cons_some (by rw [if_pos rfl]), valuesAt]

theorem valuesAt_cons_of_ne
    {key other : Key} (different : other ≠ key) (value : Value) (rest : List (Key × Value)) :
    valuesAt key ((other, value) :: rest) = valuesAt key rest := by
  rw [valuesAt, List.filterMap_cons_none (by rw [if_neg different]), valuesAt]

theorem mem_valuesAt (key : Key) (pairs : List (Key × Value)) (value : Value) :
    value ∈ valuesAt key pairs ↔ (key, value) ∈ pairs := by
  rw [valuesAt, List.mem_filterMap]
  constructor
  · rintro ⟨⟨other, current⟩, member, kept⟩
    by_cases same : other = key
    · rw [if_pos same, Option.some.injEq] at kept
      rw [← same, ← kept]
      exact member
    · rw [if_neg same] at kept
      cases kept
  · intro member
    exact ⟨(key, value), member, if_pos rfl⟩

theorem valuesAt_append (key : Key) (first second : List (Key × Value)) :
    valuesAt key (first ++ second) = valuesAt key first ++ valuesAt key second :=
  List.filterMap_append

/-- A list of distinct keys has the value it looks up, and no other. -/
theorem valuesAt_of_nodup
    {pairs : List (Key × Value)} (distinct : (pairs.map Prod.fst).Nodup) (key : Key) :
    valuesAt key pairs = (pairs.lookup key).toList := by
  induction pairs with
  | nil => rfl
  | cons pair rest induction =>
      obtain ⟨other, value⟩ := pair
      rw [List.map_cons, List.nodup_cons] at distinct
      by_cases same : other = key
      · subst same
        have none : rest.lookup other = none :=
          (lookup_eq_none_iff_not_mem rest other).2 distinct.1
        rw [valuesAt_cons_self, induction distinct.2, none, List.lookup_cons_self]
        rfl
      · rw [valuesAt_cons_of_ne same, induction distinct.2,
          lookup_cons_of_ne _ _ (Ne.symm same)]

/-- The values of a key in several lists of distinct keys: those the lists look up. -/
theorem valuesAt_flatten
    {parts : List (List (Key × Value))}
    (distinct : ∀ part ∈ parts, (part.map Prod.fst).Nodup) (key : Key) :
    valuesAt key parts.flatten = parts.filterMap fun part => part.lookup key := by
  induction parts with
  | nil => rfl
  | cons part parts induction =>
      rw [List.flatten_cons, valuesAt_append,
        valuesAt_of_nodup (distinct part List.mem_cons_self),
        induction fun other member => distinct other (List.mem_cons_of_mem _ member)]
      rcases found : part.lookup key with _ | value
      · rw [List.filterMap_cons_none found]
        rfl
      · rw [List.filterMap_cons_some found]
        rfl

theorem valuesAt_tagged_self (key : Key) (values : List Value) :
    valuesAt key (values.map fun value => (key, value)) = values := by
  induction values with
  | nil => rfl
  | cons value rest induction => rw [List.map_cons, valuesAt_cons_self, induction]

theorem valuesAt_of_not_mem
    {key : Key} {pairs : List (Key × Value)} (absent : key ∉ pairs.map Prod.fst) :
    valuesAt key pairs = [] := by
  rw [List.eq_nil_iff_forall_not_mem]
  intro value member
  exact absent (List.mem_map.2 ⟨_, (mem_valuesAt key pairs value).1 member, rfl⟩)

section Tagged

variable {Source : Type*} (tag : Source → Key) (values : Source → List Value)

theorem valuesAt_sources_of_not_mem
    {sources : List Source} {key : Key} (absent : key ∉ sources.map tag) :
    valuesAt key (sources.flatMap fun source =>
      (values source).map fun value => (tag source, value)) = [] := by
  apply valuesAt_of_not_mem
  intro present
  obtain ⟨pair, member, rfl⟩ := List.mem_map.1 present
  obtain ⟨source, sourceMember, inside⟩ := List.mem_flatMap.1 member
  obtain ⟨value, -, rfl⟩ := List.mem_map.1 inside
  exact absent (List.mem_map.2 ⟨source, sourceMember, rfl⟩)

/-- With distinct tags, the values under a tag are those of its source. -/
theorem valuesAt_sources
    {sources : List Source} (distinct : (sources.map tag).Nodup) {source : Source}
    (member : source ∈ sources) :
    valuesAt (tag source) (sources.flatMap fun source =>
      (values source).map fun value => (tag source, value)) = values source := by
  induction sources with
  | nil => cases member
  | cons first rest induction =>
      rw [List.map_cons, List.nodup_cons] at distinct
      rw [List.flatMap_cons, valuesAt_append]
      rcases List.mem_cons.1 member with rfl | later
      · rw [valuesAt_tagged_self, valuesAt_sources_of_not_mem tag values distinct.1,
          List.append_nil]
      · have apart : tag source ≠ tag first := by
          intro equal
          exact distinct.1 (equal ▸ List.mem_map.2 ⟨source, later, rfl⟩)
        rw [induction distinct.2 later, valuesAt_of_not_mem, List.nil_append]
        intro present
        obtain ⟨pair, inside, tagged⟩ := List.mem_map.1 present
        obtain ⟨value, -, rfl⟩ := List.mem_map.1 inside
        exact apart tagged.symm

end Tagged

variable {combine : Key → Value → Value → Except Failure Value}

theorem gather_append (entries first second : List (Key × Value)) :
    gather combine entries (first ++ second) =
      gather combine entries first >>= fun gathered => gather combine gathered second := by
  induction first generalizing entries with
  | nil => rfl
  | cons pair rest induction =>
      obtain ⟨key, value⟩ := pair
      rw [List.cons_append, gather, gather, bind_assoc]
      congr 1
      apply funext
      intro next
      exact induction _

/-- Fresh distinct keys are inserted as they come. -/
theorem gather_of_fresh
    {entries pairs : List (Key × Value)} (distinct : ((entries ++ pairs).map Prod.fst).Nodup) :
    gather combine entries pairs = .ok (entries ++ pairs) := by
  induction pairs generalizing entries with
  | nil => rw [gather, List.append_nil]
  | cons pair rest induction =>
      obtain ⟨key, value⟩ := pair
      have fresh : key ∉ entries.map Prod.fst := by
        rw [List.map_append, List.nodup_append] at distinct
        intro present
        exact distinct.2.2 key present key List.mem_cons_self rfl
      have regrouped : entries ++ (key, value) :: rest = entries ++ [(key, value)] ++ rest := by
        rw [List.append_assoc, List.singleton_append]
      rw [regrouped] at distinct ⊢
      rw [gather, (lookup_eq_none_iff_not_mem entries key).2 fresh, combineWith, ok_bind,
        assign_of_not_mem value fresh]
      exact induction distinct

/-- A gathering keeps the keys distinct. -/
theorem nodup_gather
    {entries pairs gathered : List (Key × Value)} (distinct : (entries.map Prod.fst).Nodup)
    (gathers : gather combine entries pairs = .ok gathered) :
    (gathered.map Prod.fst).Nodup := by
  induction pairs generalizing entries with
  | nil =>
      cases gathers
      exact distinct
  | cons pair rest induction =>
      obtain ⟨key, value⟩ := pair
      obtain ⟨next, -, gathers⟩ := (bind_eq_ok _ _ _).1 gathers
      exact induction (nodup_keys_assign key next distinct) gathers

/-- Where every key gathers, so does the whole list, and every key gets its own value. -/
theorem exists_gather
    {entries pairs : List (Key × Value)}
    (each : ∀ key, ∃ value,
      gatherAt (combine key) (entries.lookup key) (valuesAt key pairs) = .ok value) :
    ∃ gathered, gather combine entries pairs = .ok gathered ∧ ∀ key,
      gatherAt (combine key) (entries.lookup key) (valuesAt key pairs) =
        .ok (gathered.lookup key) := by
  induction pairs generalizing entries with
  | nil => exact ⟨entries, rfl, fun key => rfl⟩
  | cons pair rest induction =>
      obtain ⟨key, value⟩ := pair
      -- the step at the pair's own key succeeds, and leaves the other keys as they were
      obtain ⟨final, gathers⟩ := each key
      rw [valuesAt_cons_self] at gathers
      obtain ⟨next, inserted, -⟩ := (bind_eq_ok _ _ _).1 gathers
      have moved : ∀ other,
          gatherAt (combine other) (entries.lookup other)
              (valuesAt other ((key, value) :: rest)) =
            gatherAt (combine other) ((assign entries key next).lookup other)
              (valuesAt other rest) := by
        intro other
        by_cases same : key = other
        · subst same
          rw [valuesAt_cons_self, gatherAt, inserted, ok_bind, lookup_assign_self]
        · rw [valuesAt_cons_of_ne same, lookup_assign_of_ne _ _ (Ne.symm same)]
      have later : ∀ other, ∃ value,
          gatherAt (combine other) ((assign entries key next).lookup other)
            (valuesAt other rest) = .ok value := by
        intro other
        rw [← moved other]
        exact each other
      obtain ⟨gathered, gathers, gives⟩ := induction later
      refine ⟨gathered, ?_, fun other => ?_⟩
      · rw [gather, inserted, ok_bind]
        exact gathers
      · rw [moved other]
        exact gives other

/-- A gathering that succeeds gathers every key on its own. -/
theorem gatherAt_of_gather
    {entries pairs gathered : List (Key × Value)}
    (gathers : gather combine entries pairs = .ok gathered) (key : Key) :
    gatherAt (combine key) (entries.lookup key) (valuesAt key pairs) =
      .ok (gathered.lookup key) := by
  induction pairs generalizing entries with
  | nil =>
      cases gathers
      rfl
  | cons pair rest induction =>
      obtain ⟨other, value⟩ := pair
      obtain ⟨next, inserted, gathers⟩ := (bind_eq_ok _ _ _).1 gathers
      have later := induction gathers
      by_cases same : other = key
      · subst same
        rw [lookup_assign_self] at later
        rw [valuesAt_cons_self, gatherAt, inserted, ok_bind]
        exact later
      · rw [lookup_assign_of_ne _ _ (Ne.symm same)] at later
        rw [valuesAt_cons_of_ne same]
        exact later

section Keeping

variable {Keep : Value → Prop} {key : Key}
  (preserved : ∀ present value next, Keep present → combine key present value = .ok next →
    Keep next)

include preserved

/-- What holds of the value of a key, and survives combining, holds of it in the end. -/
theorem gather_keeps
    {entries pairs gathered : List (Key × Value)}
    (gathers : gather combine entries pairs = .ok gathered)
    (kept : ∃ present, entries.lookup key = some present ∧ Keep present) :
    ∃ final, gathered.lookup key = some final ∧ Keep final := by
  induction pairs generalizing entries with
  | nil =>
      cases gathers
      exact kept
  | cons pair rest induction =>
      obtain ⟨other, value⟩ := pair
      obtain ⟨next, inserted, gathersRest⟩ := (bind_eq_ok _ _ _).1 gathers
      apply induction gathersRest
      obtain ⟨present, found, keep⟩ := kept
      by_cases same : key = other
      · subst same
        rw [found] at inserted
        exact ⟨next, lookup_assign_self _ _ _, preserved present value next keep inserted⟩
      · exact ⟨present, (lookup_assign_of_ne _ _ same).trans found, keep⟩

/-- What every combination with a value makes hold of its key holds of it in the end. -/
theorem gather_reaches
    {value : Value}
    (made : ∀ present next, combineWith (combine key) present value = .ok next → Keep next)
    {entries pairs gathered : List (Key × Value)} (member : (key, value) ∈ pairs)
    (gathers : gather combine entries pairs = .ok gathered) :
    ∃ final, gathered.lookup key = some final ∧ Keep final := by
  induction pairs generalizing entries with
  | nil => cases member
  | cons pair rest induction =>
      obtain ⟨other, current⟩ := pair
      obtain ⟨next, inserted, gathersRest⟩ := (bind_eq_ok _ _ _).1 gathers
      rcases List.mem_cons.1 member with equal | later
      · obtain ⟨rfl, rfl⟩ := Prod.mk.inj equal
        apply gather_keeps preserved gathersRest
        exact ⟨next, lookup_assign_self _ _ _, made _ _ inserted⟩
      · exact induction later gathersRest

end Keeping

/-- Pairs whose keys already have what combining makes change nothing. -/
theorem gather_of_absorbed
    {entries pairs : List (Key × Value)}
    (absorbed : ∀ pair ∈ pairs, ∃ present, entries.lookup pair.1 = some present ∧
      combine pair.1 present pair.2 = .ok present) :
    gather combine entries pairs = .ok entries := by
  induction pairs with
  | nil => rfl
  | cons pair rest induction =>
      obtain ⟨key, value⟩ := pair
      obtain ⟨present, found, combines⟩ := absorbed _ List.mem_cons_self
      rw [gather, found, combineWith, combines, ok_bind, assign_of_lookup found]
      exact induction fun other member => absorbed other (List.mem_cons_of_mem _ member)

/-- What a key has, it keeps some value of. -/
theorem gatherAt_some_ne_none
    {combine : Value → Value → Except Failure Value} {present : Value} {values : List Value}
    {gathered : Option Value} (gathers : gatherAt combine (some present) values = .ok gathered) :
    gathered ≠ none := by
  induction values generalizing present with
  | nil =>
      rw [← Except.ok.inj gathers]
      exact Option.some_ne_none present
  | cons value rest induction =>
      obtain ⟨next, -, later⟩ := (bind_eq_ok _ _ _).1 gathers
      exact induction later

/-- Renaming the failures of combining renames those of gathering. -/
theorem gatherAt_mapError
    {Other : Type*} (combine : Value → Value → Except Failure Value) (rename : Failure → Other)
    (present : Option Value) (values : List Value) :
    gatherAt (fun present value => (combine present value).mapError rename) present values =
      (gatherAt combine present values).mapError rename := by
  induction values generalizing present with
  | nil => rfl
  | cons value rest induction =>
      cases present with
      | none =>
          rw [gatherAt, gatherAt, combineWith, combineWith, ok_bind, ok_bind]
          exact induction (some value)
      | some present =>
          rw [gatherAt, gatherAt, combineWith, combineWith]
          rcases combine present value with failure | combined
          · rfl
          · exact induction (some combined)

end Snapl.Library
