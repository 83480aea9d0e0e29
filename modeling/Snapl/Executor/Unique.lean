import Snapl.Executor.Renderer
import Snapl.Library.FirstsByKey

/-!
# The `unique` filter

The filter keeps the first item of each spelling ignoring case.
-/

namespace Snapl.Executor

open Snapl.Library Snapl.Intent

variable {text : PyText} {items : List String} {item : String}

theorem uniqueFrom_eq_firstsFrom (text : PyText) (seen items : List String) :
    uniqueFrom text seen items = firstsFrom text.lower seen items := by
  induction items generalizing seen with
  | nil => rfl
  | cons first rest induction =>
      rw [uniqueFrom, firstsFrom]
      split_ifs
      · exact induction seen
      · rw [induction (text.lower first :: seen)]

theorem unique_eq_firstsByKey (text : PyText) (items : List String) :
    unique text items = firstsByKey text.lower items :=
  uniqueFrom_eq_firstsFrom text [] items

/-- No earlier item is spelled like it ignoring case. -/
def FirstSpelling (text : PyText) (items : List String) (item : String) : Prop :=
  ∃ before after, items = before ++ item :: after ∧
    ∀ earlier ∈ before, text.lower earlier ≠ text.lower item

theorem mem_unique_iff : item ∈ unique text items ↔ FirstSpelling text items item := by
  rw [unique_eq_firstsByKey]
  exact mem_firstsByKey_iff

theorem nodup_unique (text : PyText) (items : List String) : (unique text items).Nodup := by
  rw [unique_eq_firstsByKey]
  exact nodup_firstsByKey

/-- Every item is kept in some spelling. -/
theorem exists_spelling_of_mem (member : item ∈ items) :
    ∃ kept ∈ unique text items, text.lower kept = text.lower item := by
  rw [unique_eq_firstsByKey]
  exact exists_first_of_mem member

/-- Items that are spelled alike ignoring case are spelled alike. -/
def SpelledAlike (text : PyText) (items : List String) : Prop :=
  ∀ item ∈ items, ∀ other ∈ items, text.lower item = text.lower other → item = other

/-- Every item is kept exactly when no two differ in case only. -/
theorem forall_mem_unique_iff :
    (∀ item ∈ items, item ∈ unique text items) ↔ SpelledAlike text items := by
  constructor
  · intro kept item member other otherMember alike
    have different := @nodup_keys_firstsFrom String String _ text.lower [] items
    have isKept := kept item member
    have otherKept := kept other otherMember
    rw [unique_eq_firstsByKey] at isKept otherKept
    exact List.inj_on_of_nodup_map different isKept otherKept alike
  · intro alike item member
    obtain ⟨kept, isKept, same⟩ := @exists_spelling_of_mem text items item member
    rw [alike item member kept (mem_of_mem_uniqueFrom isKept) same.symm]
    exact isKept

end Snapl.Executor
