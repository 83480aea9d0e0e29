import Mathlib.Data.List.Perm.Basic

/-!
# The first match in every order

The first result a function gives on a list does not depend on the order of
the list exactly when the function gives one result at most.
-/

namespace Snapl.Library

variable {Item Result : Type*}

/-- A function that gives one result at most on the items of a list. -/
def OneResult (give : Item → Option Result) (items : List Item) : Prop :=
  ∀ item ∈ items, ∀ other ∈ items, ∀ first second,
    give item = some first → give other = some second → first = second

theorem findSome?_of_oneResult
    {give : Item → Option Result} {items : List Item} (one : OneResult give items)
    {item : Item} (member : item ∈ items) {result : Result} (gives : give item = some result) :
    items.findSome? give = some result := by
  rcases found : items.findSome? give with _ | first
  · rw [List.findSome?_eq_none_iff] at found
    rw [found item member] at gives
    cases gives
  · obtain ⟨other, otherMember, givesFirst⟩ := List.exists_of_findSome?_eq_some found
    rw [one item member other otherMember result first gives givesFirst]

/-- In every order the first result is the same, exactly when there is one at most. -/
theorem findSome?_perm_iff (give : Item → Option Result) (items : List Item) :
    (∀ others : List Item, others.Perm items →
      others.findSome? give = items.findSome? give) ↔ OneResult give items := by
  constructor
  · intro same item member other otherMember first second gives givesOther
    -- an item that gives a result can be put in front
    have front : ∀ item ∈ items, ∀ result, give item = some result →
        items.findSome? give = some result := by
      intro item member result gives
      obtain ⟨before, after, rfl⟩ := List.append_of_mem member
      rw [← same (item :: (before ++ after)) List.perm_middle.symm, List.findSome?_cons, gives]
    have equal := (front item member first gives).symm.trans
      (front other otherMember second givesOther)
    exact Option.some.inj equal
  · intro one others reordered
    rcases found : items.findSome? give with _ | result
    · rw [List.findSome?_eq_none_iff] at found ⊢
      intro item member
      exact found item (reordered.mem_iff.1 member)
    · obtain ⟨item, member, gives⟩ := List.exists_of_findSome?_eq_some found
      apply findSome?_of_oneResult _ (reordered.mem_iff.2 member) gives
      intro item member other otherMember
      exact one item (reordered.mem_iff.1 member) other (reordered.mem_iff.1 otherMember)

end Snapl.Library
