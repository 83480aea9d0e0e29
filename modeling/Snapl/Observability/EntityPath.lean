import Snapl.Observability.Diff

/-!
# Paths of entities

The path of an entity is its key between a head and a tail.  The reverse pass
takes it apart again by a pattern; whatever characters the key has, it gets
back the key the path was built from, and no key from a path of another kind.
-/

namespace Snapl.Observability

open Snapl.Library

theorem EntitySpec.path_injective
    (spec : EntitySpec) : Function.Injective spec.path := by
  intro left right equal
  have chars := congrArg String.toList equal
  simp only [EntitySpec.path, String.toList_append] at chars
  rw [List.append_assoc, List.append_assoc] at chars
  exact String.toList_inj.1
    (List.append_cancel_right (List.append_cancel_left chars))

/-- No interface path is a neighbour path. -/
theorem interface_path_ne_neighbor_path (name peer : String) :
    interfaceSpec.path name ≠ bgpSessionSpec.path peer := by
  intro equal
  have chars := congrArg (fun path => path.toList.take 2) equal
  simp [EntitySpec.path, interfaceSpec, bgpSessionSpec] at chars

theorem withoutSuffix?_eq_some_iff {suffix chars key : List Char} :
    withoutSuffix? suffix chars = some key ↔ chars = key ++ suffix := by
  rw [withoutSuffix?]
  constructor
  · intro found
    split_ifs at found with ends
    obtain ⟨before, rfl⟩ := List.isSuffixOf_iff_suffix.1 ends
    simpa using found
  · rintro rfl
    have ends : suffix.isSuffixOf (key ++ suffix) = true :=
      List.isSuffixOf_iff_suffix.2 (List.suffix_append _ _)
    simp [ends]

theorem toList_path (spec : EntitySpec) (key : String) :
    (spec.path key).toList = spec.pathHead.toList ++ (key.toList ++ spec.pathTail.toList) := by
  simp [EntitySpec.path, List.append_assoc]

/-- The key a path matches when the rest of it after the head is known. -/
theorem key?_eq_some_iff_of_head
    {spec : EntitySpec} {path key : String} {rest : List Char}
    (chars : path.toList = spec.pathHead.toList ++ rest) :
    spec.key? path = some key ↔
      (withoutSuffix? spec.pathTail.toList rest).or
          (withoutSuffix? (spec.pathTail.toList ++ ['\n']) rest) = some key.toList ∧
        key ≠ "" ∧ '\n' ∉ key.toList := by
  have head : spec.pathHead.toList.isPrefixOf path.toList = true := by
    rw [chars, List.isPrefixOf_iff_prefix]
    exact List.prefix_append _ _
  have nonempty : key.toList ≠ [] ↔ key ≠ "" :=
    not_congr ⟨fun equal => String.toList_inj.1 equal, fun equal => by rw [equal]; rfl⟩
  rw [EntitySpec.key?, if_pos head]
  simp only [chars, List.drop_left, Option.map_eq_some_iff, Option.filter_eq_some_iff,
    decide_eq_true_eq]
  constructor
  · rintro ⟨found, ⟨split, legal⟩, rfl⟩
    rw [← nonempty, String.toList_ofList]
    exact ⟨split, legal⟩
  · rintro ⟨split, legal⟩
    rw [← nonempty] at legal
    exact ⟨key.toList, ⟨split, legal⟩, String.ofList_toList⟩

/-- A path matches a key that is not empty and on one line, and from which it was built. -/
theorem key?_eq_some_iff
    {spec : EntitySpec} (closing : spec.pathTail = "]") {path key : String} :
    spec.key? path = some key ↔
      (path = spec.path key ∨ path = spec.path key ++ "\n") ∧
        key ≠ "" ∧ '\n' ∉ key.toList := by
  have tail : spec.pathTail.toList = [']'] := by rw [closing]; rfl
  have headed : ∀ suffix : List Char,
      spec.pathHead.toList <+: (spec.path key).toList ++ suffix := by
    intro suffix
    rw [toList_path, List.append_assoc]
    exact List.prefix_append _ _
  rw [← String.toList_inj, ← String.toList_inj, String.toList_append]
  by_cases head : spec.pathHead.toList <+: path.toList
  · obtain ⟨rest, chars⟩ := head
    rw [key?_eq_some_iff_of_head chars.symm, tail, Option.or_eq_some_iff,
      withoutSuffix?_eq_some_iff, withoutSuffix?_eq_some_iff, ← chars, toList_path, tail]
    refine and_congr_left fun _ => ?_
    rw [List.append_right_inj, List.append_assoc, List.append_right_inj, List.append_assoc]
    refine or_congr_right ⟨And.right, fun broken => ⟨?_, broken⟩⟩
    rw [Option.eq_none_iff_forall_not_mem]
    intro other found
    have last := congrArg List.getLast? ((withoutSuffix?_eq_some_iff.1 found).symm.trans broken)
    simp at last
  · rw [EntitySpec.key?, if_neg (by rwa [List.isPrefixOf_iff_prefix])]
    refine iff_of_false nofun ?_
    rintro ⟨built | built, -⟩
    · exact head (by simpa [built] using headed [])
    · exact head (by rw [built]; exact headed _)

/-- A path matches the key it was built from, when that is not empty and on one line. -/
theorem key?_path_eq (spec : EntitySpec) (key : String) :
    spec.key? (spec.path key) =
      if key ≠ "" ∧ '\n' ∉ key.toList then some key else none := by
  have tail : withoutSuffix? spec.pathTail.toList (key.toList ++ spec.pathTail.toList) =
      some key.toList := withoutSuffix?_eq_some_iff.2 rfl
  apply Option.ext
  intro other
  rw [key?_eq_some_iff_of_head (toList_path spec key), tail, Option.some_or,
    Option.some.injEq, String.toList_inj]
  split_ifs with legal
  · constructor
    · rintro ⟨rfl, -⟩
      rfl
    · intro found
      cases found
      exact ⟨rfl, legal⟩
  · constructor
    · rintro ⟨rfl, own⟩
      exact absurd own legal
    · exact nofun

/-- The key a path was built from is the only one it can match. -/
theorem key?_path
    {spec : EntitySpec} {key other : String}
    (found : spec.key? (spec.path key) = some other) : other = key := by
  rw [key?_path_eq] at found
  split_ifs at found
  exact (Option.some.inj found).symm

theorem key?_interface_of_neighbor_path (peer : String) :
    interfaceSpec.key? (bgpSessionSpec.path peer) = none := by
  rw [EntitySpec.key?, if_neg]
  simp [EntitySpec.path, interfaceSpec, bgpSessionSpec]

theorem key?_neighbor_of_interface_path (name : String) :
    bgpSessionSpec.key? (interfaceSpec.path name) = none := by
  rw [EntitySpec.key?, if_neg]
  simp [EntitySpec.path, interfaceSpec, bgpSessionSpec]

end Snapl.Observability
