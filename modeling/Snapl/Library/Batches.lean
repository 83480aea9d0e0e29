import Snapl.Library.Association

/-!
# Batches

What a batch of calls gives: the result of every item under the item's key, and
how many of them succeeded.
-/

namespace Snapl.Library

variable {Key Result : Type} [DecidableEq Key]

/-- The results of a batch. -/
structure Batch (Key Result : Type) [DecidableEq Key] where
  results : Dict Key Result
  total : Nat
  succeeded : Nat
  failed : Nat

/-- Put the results under their keys, and count those that succeeded. -/
def batchOf (key : Result → Key) (success : Result → Bool) (results : List Result) :
    Batch Key Result where
  results := Dict.ofPairs (results.map fun result => (key result, result))
  total := results.length
  succeeded := results.countP success
  failed := results.length - results.countP success

/-- The counts of a batch add up. -/
theorem batchOf_summed (key : Result → Key) (success : Result → Bool) (results : List Result) :
    (batchOf key success results).succeeded + (batchOf key success results).failed =
      (batchOf key success results).total :=
  Nat.add_sub_cancel' List.countP_le_length

/-- The batch holds what every item gives on its own, and counts it. -/
structure BatchHolds {Item : Type} (items : List Item) (itemKey : Item → Key)
    (success : Result → Bool) (single : Item → Result) (batch : Batch Key Result) : Prop where
  keys : batch.results.keys = items.map itemKey
  held : ∀ item ∈ items, batch.results.get? (itemKey item) = some (single item)
  total : batch.total = items.length
  succeeded : batch.succeeded = items.countP fun item => success (single item)
  failed : batch.failed = items.countP fun item => !success (single item)

/-- With distinct keys no result of a batch is lost. -/
theorem batchHolds_batchOf
    {Item : Type} {items : List Item} {itemKey : Item → Key} {key : Result → Key}
    {single : Item → Result} (success : Result → Bool)
    (keyed : ∀ item, key (single item) = itemKey item) (distinct : (items.map itemKey).Nodup) :
    BatchHolds items itemKey success single (batchOf key success (items.map single)) := by
  have pairs : (items.map single).map (fun result => (key result, result)) =
      items.map fun item => (itemKey item, single item) := by
    rw [List.map_map]
    apply List.map_congr_left
    intro item _
    exact congrArg (fun own => (own, single item)) (keyed item)
  have entries : (batchOf key success (items.map single)).results.entries =
      items.map fun item => (itemKey item, single item) := by
    rw [batchOf, pairs]
    apply Dict.entries_ofPairs
    rw [List.map_map]
    exact distinct
  refine ⟨?_, ?_, List.length_map _, ?_, ?_⟩
  · rw [Dict.keys, entries, List.map_map]
    rfl
  · intro item member
    rw [Dict.get?_eq_some_iff, entries]
    exact List.mem_map.2 ⟨item, member, rfl⟩
  · exact List.countP_map
  · have split : (items.map single).length = (items.map single).countP success +
        (items.map single).countP fun result => ¬success result = true :=
      List.length_eq_countP_add_countP success
    have rest : (items.countP fun item => !success (single item)) =
        (items.map single).countP fun result => ¬success result := by
      rw [List.countP_map]
      congr 1
      funext item
      simp
    change (items.map single).length - (items.map single).countP success = _
    rw [rest]
    omega

end Snapl.Library
