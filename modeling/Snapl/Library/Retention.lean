import Mathlib.Data.List.DropRight

/-!
# Keeping the last entries

A record that only grows, and a list that holds no more than its last entries: what
is pushed goes to the end, and the oldest entry leaves once the list is too long.
-/

namespace Snapl.Library

variable {Entry : Type}

/-- Push an entry; of too many, the oldest leaves. -/
def pushLast (most : Nat) (held : List Entry) (entry : Entry) : List Entry :=
  let entries := held ++ [entry]
  if most < entries.length then entries.tail else entries

/-- What is held of a record, with a bound or without. -/
def retained (maxlen : Option Nat) (record : List Entry) : List Entry :=
  match maxlen with
  | none => record
  | some most => record.rtake most

theorem rtake_of_length_le {most : Nat} {record : List Entry} (short : record.length ≤ most) :
    record.rtake most = record := by
  rw [List.rtake, Nat.sub_eq_zero_of_le short, List.drop_zero]

/-- The oldest of the last entries of a long record leaves one less of them. -/
theorem tail_rtake_succ {most : Nat} {record : List Entry} (long : most < record.length) :
    (record.rtake (most + 1)).tail = record.rtake most := by
  rw [List.rtake, List.rtake, List.tail_drop]
  congr 1
  omega

theorem length_rtake {most : Nat} {record : List Entry} (long : most ≤ record.length) :
    (record.rtake most).length = most := by
  rw [List.rtake, List.length_drop]
  omega

/-- Pushing on the last entries of a record leaves the last entries of the longer record. -/
theorem pushLast_rtake {most : Nat} (positive : 0 < most) (record : List Entry) (entry : Entry) :
    pushLast most (record.rtake most) entry = (record ++ [entry]).rtake most := by
  obtain ⟨fewer, rfl⟩ := Nat.exists_eq_succ_of_ne_zero positive.ne'
  rw [pushLast, List.rtake_concat_succ]
  rcases Nat.lt_or_ge fewer record.length with long | short
  · have full := length_rtake (Nat.succ_le_of_lt long)
    have present : record.rtake (fewer + 1) ≠ [] := by
      intro empty
      rw [empty] at full
      exact Nat.noConfusion full
    rw [if_pos (by rw [List.length_append, full]; exact Nat.lt_succ_self _),
      List.tail_append_of_ne_nil present, tail_rtake_succ long]
  · have whole := rtake_of_length_le (Nat.le_succ_of_le short)
    rw [if_neg (by rw [List.length_append, whole]; simpa using short), whole,
      rtake_of_length_le short]

/-- A bounded list never holds more than its bound. -/
theorem length_retained_le (most : Nat) (record : List Entry) :
    (retained (some most) record).length ≤ most := by
  rw [retained, List.rtake, List.length_drop]
  omega

/-- What is held are the newest entries: what left is older than all of it. -/
theorem retained_suffix (maxlen : Option Nat) (record : List Entry) :
    retained maxlen record <:+ record := by
  cases maxlen with
  | none => exact List.suffix_refl record
  | some most => exact List.drop_suffix _ _

end Snapl.Library
