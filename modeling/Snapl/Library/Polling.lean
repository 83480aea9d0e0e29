import Mathlib.Data.Bool.Basic

/-!
# Polling

Probe until nothing is lacking, until a probe fails, or until a probe finds
something lacking and the time is up.  The loop takes fuel for the probes it may
still make; a loop that runs out of it has no outcome yet.
-/

namespace Snapl.Library

variable {Failure Lack : Type}

/--
The index of the last probe, and what it found: a failure, nothing lacking, or
what was lacking when the time was up.
-/
def pollUntil (probe : Nat → Except Failure (Option Lack)) (late : Nat → Bool) :
    (fuel index : Nat) → Option (Nat × Except Failure (Option Lack))
  | 0, _ => none
  | fuel + 1, index =>
      match probe index with
      | .ok (some lack) =>
          if late index then some (index, .ok (some lack))
          else pollUntil probe late fuel (index + 1)
      | found => some (index, found)

/-- After a probe the loop goes on. -/
def PollWaits (probe : Nat → Except Failure (Option Lack)) (late : Nat → Bool)
    (index : Nat) : Prop :=
  late index = false ∧ ∃ lack, probe index = .ok (some lack)

/-- After a probe the loop ends. -/
structure PollEnds (probe : Nat → Except Failure (Option Lack)) (late : Nat → Bool)
    (index : Nat) (found : Except Failure (Option Lack)) : Prop where
  probed : probe index = found
  timely : ∀ lack, found = .ok (some lack) → late index = true

variable {probe : Nat → Except Failure (Option Lack)} {late : Nat → Bool}
variable {fuel start last : Nat} {found : Except Failure (Option Lack)}

theorem pollUntil_of_pollWaits (waits : PollWaits probe late start) :
    pollUntil probe late (fuel + 1) start = pollUntil probe late fuel (start + 1) := by
  obtain ⟨early, lack, lacking⟩ := waits
  rw [pollUntil, lacking]
  simp [early]

theorem pollUntil_of_pollEnds (ends : PollEnds probe late start found) :
    pollUntil probe late (fuel + 1) start = some (start, found) := by
  rw [pollUntil, ends.probed]
  rcases found with failure | _ | lack
  · rfl
  · rfl
  · simp [ends.timely lack rfl]

/-- A probe either keeps the loop going or ends it. -/
theorem pollWaits_or_pollEnds (probe : Nat → Except Failure (Option Lack)) (late : Nat → Bool)
    (index : Nat) : PollWaits probe late index ∨ PollEnds probe late index (probe index) := by
  by_cases waits : PollWaits probe late index
  · exact Or.inl waits
  · apply Or.inr
    refine ⟨rfl, ?_⟩
    intro lack lacking
    by_contra early
    exact waits ⟨Bool.eq_false_iff.2 early, lack, lacking⟩

theorem not_pollWaits_of_pollEnds (ends : PollEnds probe late start found) :
    ¬PollWaits probe late start := by
  rintro ⟨early, lack, lacking⟩
  have tardy := ends.timely lack (ends.probed.symm.trans lacking)
  rw [early] at tardy
  cases tardy

/-- The loop ends at the first probe that ends it. -/
theorem pollUntil_eq_some_iff :
    pollUntil probe late fuel start = some (last, found) ↔
      start ≤ last ∧ last < start + fuel ∧
        (∀ index, start ≤ index → index < last → PollWaits probe late index) ∧
        PollEnds probe late last found := by
  induction fuel generalizing start with
  | zero =>
      constructor
      · intro ended
        cases ended
      · rintro ⟨reached, bounded, -⟩
        omega
  | succ fuel induction =>
      rcases pollWaits_or_pollEnds probe late start with waits | ends
      · rw [pollUntil_of_pollWaits waits, induction]
        constructor
        · rintro ⟨reached, bounded, before, ends⟩
          refine ⟨by omega, by omega, ?_, ends⟩
          intro index from_ until_
          rcases Nat.eq_or_lt_of_le from_ with rfl | later
          · exact waits
          · exact before index later until_
        · rintro ⟨reached, bounded, before, ends⟩
          have later : start ≠ last := by
            rintro rfl
            exact not_pollWaits_of_pollEnds ends waits
          exact ⟨by omega, by omega, fun index from_ => before index (by omega), ends⟩
      · rw [pollUntil_of_pollEnds ends, Option.some.injEq, Prod.mk.injEq]
        constructor
        · rintro ⟨rfl, rfl⟩
          refine ⟨Nat.le_refl start, by omega, ?_, ends⟩
          intro index from_ until_
          omega
        · rintro ⟨reached, bounded, before, endsLast⟩
          have same : start = last := by
            by_contra other
            exact not_pollWaits_of_pollEnds ends (before start (Nat.le_refl start) (by omega))
          obtain rfl := same
          exact ⟨rfl, ends.probed.symm.trans endsLast.probed⟩

/-- A loop whose time is up one day ends. -/
theorem exists_pollUntil (eventually : ∃ index, start ≤ index ∧ late index = true) :
    ∃ fuel outcome, pollUntil probe late fuel start = some outcome := by
  obtain ⟨index, reached, tardy⟩ := eventually
  obtain ⟨distance, rfl⟩ := Nat.exists_eq_add_of_le reached
  clear reached
  induction distance generalizing start with
  | zero =>
      rcases pollWaits_or_pollEnds probe late start with waits | ends
      · rw [Nat.add_zero, waits.1] at tardy
        cases tardy
      · exact ⟨1, _, pollUntil_of_pollEnds ends⟩
  | succ distance induction =>
      rcases pollWaits_or_pollEnds probe late start with waits | ends
      · have later : late (start + 1 + distance) = true := by
          rw [← tardy]
          congr 1
          omega
        obtain ⟨fuel, outcome, ended⟩ := induction later
        exact ⟨fuel + 1, outcome, (pollUntil_of_pollWaits waits).trans ended⟩
      · exact ⟨1, _, pollUntil_of_pollEnds ends⟩

/-- More fuel changes nothing. -/
theorem pollUntil_unique
    {more : Nat} {outcome other : Nat × Except Failure (Option Lack)}
    (ended : pollUntil probe late fuel start = some outcome)
    (endedMore : pollUntil probe late more start = some other) : outcome = other := by
  obtain ⟨last, found⟩ := outcome
  obtain ⟨lastMore, foundMore⟩ := other
  obtain ⟨reached, -, before, ends⟩ := pollUntil_eq_some_iff.1 ended
  obtain ⟨reachedMore, -, beforeMore, endsMore⟩ := pollUntil_eq_some_iff.1 endedMore
  have same : last = lastMore := by
    rcases Nat.lt_trichotomy last lastMore with less | same | more
    · exact absurd (beforeMore last reached less) (not_pollWaits_of_pollEnds ends)
    · exact same
    · exact absurd (before lastMore reachedMore more) (not_pollWaits_of_pollEnds endsMore)
  obtain rfl := same
  rw [← ends.probed, endsMore.probed]

end Snapl.Library
