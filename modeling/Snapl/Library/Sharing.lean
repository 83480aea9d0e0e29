import Mathlib.Data.List.Nodup

/-!
# Sharing out the items of a list

Items that each name one of some distinct keys are shared out among the keys:
every item goes to exactly one of them, in the order it came.
-/

namespace Snapl.Library

variable {Item Key : Type*} [DecidableEq Key]

/-- The items that name a key, in order. -/
def shareOf (name : Item → Option Key) (items : List Item) (key : Key) : List Item :=
  items.filter fun item => name item = some key

theorem mem_shareOf {name : Item → Option Key} {items : List Item} {key : Key} {item : Item} :
    item ∈ shareOf name items key ↔ item ∈ items ∧ name item = some key := by
  rw [shareOf, List.mem_filter, decide_eq_true_eq]

theorem shareOf_sublist (name : Item → Option Key) (items : List Item) (key : Key) :
    (shareOf name items key).Sublist items :=
  List.filter_sublist

/-- The shares of distinct keys, when every item names one of them, are all items. -/
theorem shares_perm
    (name : Item → Option Key) {keys : List Key} (distinct : keys.Nodup) {items : List Item}
    (named : ∀ item ∈ items, ∃ key ∈ keys, name item = some key) :
    (keys.flatMap (shareOf name items)).Perm items := by
  induction keys generalizing items with
  | nil =>
      have empty : items = [] := by
        rw [List.eq_nil_iff_forall_not_mem]
        intro item member
        obtain ⟨key, absurd, -⟩ := named item member
        cases absurd
      rw [empty, List.flatMap_nil]
  | cons key rest induction =>
      rw [List.nodup_cons] at distinct
      -- the items that do not name the first key are shared out among the others
      let others := items.filter fun item => !decide (name item = some key)
      have same : rest.flatMap (shareOf name items) = rest.flatMap (shareOf name others) := by
        apply List.flatMap_congr
        intro other member
        rw [shareOf, shareOf, List.filter_filter]
        apply List.filter_congr
        intro item _
        by_cases own : name item = some other
        · have different : other ≠ key := fun equal => distinct.1 (equal ▸ member)
          simp [own, different]
        · simp [own]
      have remaining : (rest.flatMap (shareOf name others)).Perm others := by
        apply induction distinct.2
        intro item member
        obtain ⟨present, unnamed⟩ := List.mem_filter.1 member
        obtain ⟨other, otherMember, own⟩ := named item present
        rcases List.mem_cons.1 otherMember with rfl | later
        · simp [own] at unnamed
        · exact ⟨other, later, own⟩
      rw [List.flatMap_cons, same]
      exact (remaining.append_left _).trans
        (List.filter_append_perm (fun item => decide (name item = some key)) items)

/-- An element whose value is nobody else's is the only one of its value. -/
theorem filter_of_nodup_map
    {value : Item → Key} {items : List Item} (distinct : (items.map value).Nodup) {item : Item}
    (member : item ∈ items) :
    (items.filter fun other => value other = value item) = [item] := by
  obtain ⟨before, after, rfl⟩ := List.append_of_mem member
  rw [List.map_append, List.map_cons, List.nodup_middle, List.nodup_cons, List.mem_append]
    at distinct
  obtain ⟨absent, -⟩ := distinct
  have none : ∀ others : List Item, value item ∉ others.map value →
      (others.filter fun other => value other = value item) = [] := by
    intro others absent
    refine List.filter_eq_nil_iff.2 fun other isOther same => absent ?_
    rw [← of_decide_eq_true same]
    exact List.mem_map_of_mem isOther
  rw [List.filter_append, List.filter_cons, if_pos (decide_eq_true rfl),
    none before fun impossible => absent (Or.inl impossible),
    none after fun impossible => absent (Or.inr impossible)]
  rfl

end Snapl.Library
