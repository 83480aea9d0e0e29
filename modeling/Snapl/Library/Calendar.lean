import Mathlib.Algebra.GroupWithZero.Nat
import Mathlib.Data.List.Basic
import Mathlib.Data.Nat.Init

/-!
# The proleptic Gregorian calendar

Dates of the years 1 to 9999 and their ordinals: the first of January of year 1
has ordinal 1.  Dates are in the same order as their ordinals, and every ordinal
up to the last day of year 9999 is that of exactly one date.
-/

namespace Snapl.Library

/-- The span a position lies in, and the position inside it. -/
def locate : List Nat → Nat → Nat × Nat
  | [], position => (0, position)
  | span :: spans, position =>
      if position < span then (0, position)
      else
        let found := locate spans (position - span)
        (found.1 + 1, found.2)

/-- The spans before the place and the position inside it make up the position. -/
theorem sum_take_locate (spans : List Nat) (position : Nat) :
    (spans.take (locate spans position).1).sum + (locate spans position).2 = position := by
  induction spans generalizing position with
  | nil => simp [locate]
  | cons span spans induction =>
      rw [locate]
      split_ifs with inside
      · simp
      · have rest := induction (position - span)
        simp only [List.take_succ_cons, List.sum_cons]
        omega

/-- A position in the row lies in one of the spans. -/
theorem locate_inside
    {spans : List Nat} {position : Nat} (inside : position < spans.sum) :
    (locate spans position).1 < spans.length ∧
      (locate spans position).2 < spans.getD (locate spans position).1 0 := by
  induction spans generalizing position with
  | nil => simp at inside
  | cons span spans induction =>
      rw [locate]
      split_ifs with first
      · simpa using first
      · rw [List.sum_cons] at inside
        have rest := induction (show position - span < spans.sum by omega)
        simpa using rest

theorem sum_take_succ (spans : List Nat) (index : Nat) :
    (spans.take (index + 1)).sum = (spans.take index).sum + spans.getD index 0 := by
  induction spans generalizing index with
  | nil => simp
  | cons span spans induction =>
      cases index with
      | zero => simp
      | succ index =>
          rw [List.take_succ_cons, List.take_succ_cons, List.sum_cons, List.sum_cons, induction,
            List.getD_cons_succ, Nat.add_assoc]

/-- The spans before a later place include all of an earlier one. -/
theorem sum_take_le_of_lt (spans : List Nat) {index later : Nat} (earlier : index < later) :
    (spans.take index).sum + spans.getD index 0 ≤ (spans.take later).sum := by
  rw [← sum_take_succ]
  have split : (spans.take later).take (index + 1) = spans.take (index + 1) := by
    rw [List.take_take, Nat.min_eq_left earlier]
  have parts : (spans.take (index + 1)).sum + ((spans.take later).drop (index + 1)).sum =
      (spans.take later).sum := by
    rw [← split, ← List.sum_append, List.take_append_drop]
  omega

def isLeap (year : Nat) : Bool :=
  year % 4 = 0 && (year % 100 ≠ 0 || year % 400 = 0)

/-- The lengths of the months. -/
def monthLengths (year : Nat) : List Nat :=
  [31, if isLeap year then 29 else 28, 31, 30, 31, 30, 31, 31, 30, 31, 30, 31]

/-- The days of the years before a year. -/
def daysBeforeYear (year : Nat) : Nat :=
  (year - 1) * 365 + (year - 1) / 4 - (year - 1) / 100 + (year - 1) / 400

/-- The days of a year. -/
def daysInYear (year : Nat) : Nat := if isLeap year then 366 else 365

theorem sum_monthLengths (year : Nat) : (monthLengths year).sum = daysInYear year := by
  rw [monthLengths, daysInYear]
  split_ifs <;> rfl

/-- The multiples passed on the way to the next number. -/
theorem succ_div_eq (value divisor : Nat) :
    (value + 1) / divisor = value / divisor + if (value + 1) % divisor = 0 then 1 else 0 := by
  rw [Nat.succ_div]
  simp only [Nat.dvd_iff_mod_eq_zero]

theorem daysBeforeYear_succ {year : Nat} (positive : 1 ≤ year) :
    daysBeforeYear (year + 1) = daysBeforeYear year + daysInYear year := by
  obtain ⟨past, rfl⟩ : ∃ past, year = past + 1 := ⟨year - 1, by omega⟩
  have hundreds : past / 100 ≤ past / 4 := by omega
  have coarse : (past + 1) % 400 = 0 → (past + 1) % 100 = 0 := by omega
  have fine : (past + 1) % 100 = 0 → (past + 1) % 4 = 0 := by omega
  simp only [daysBeforeYear, Nat.add_sub_cancel, succ_div_eq past 4,
    succ_div_eq past 100, succ_div_eq past 400, daysInYear, isLeap, Bool.and_eq_true, Bool.or_eq_true, decide_eq_true_eq]
  split_ifs <;> omega

theorem daysBeforeYear_le {year later : Nat} (positive : 1 ≤ year) (order : year ≤ later) :
    daysBeforeYear year ≤ daysBeforeYear later := by
  induction order with
  | refl => exact Nat.le_refl _
  | step order induction =>
      rw [Nat.succ_eq_add_one, daysBeforeYear_succ (Nat.le_trans positive order)]
      omega

/--
The year of a day, counted from the first day of year 1, and the day inside it.
The last century of four and the last year of four have a day more.
-/
def yearOf (days : Nat) : Nat × Nat :=
  let inCycle := days % 146097
  let century := min (inCycle / 36524) 3
  let inCentury := inCycle - 36524 * century
  let four := inCentury / 1461
  let inFour := inCentury - 1461 * four
  let single := min (inFour / 365) 3
  (400 * (days / 146097) + 100 * century + 4 * four + single + 1, inFour - 365 * single)

theorem yearOf_spec (days : Nat) :
    1 ≤ (yearOf days).1 ∧
      daysBeforeYear (yearOf days).1 + (yearOf days).2 = days ∧
      (yearOf days).2 < daysInYear (yearOf days).1 := by
  have century : ∃ century inCentury, century ≤ 3 ∧
      min (days % 146097 / 36524) 3 = century ∧
      days % 146097 = 36524 * century + inCentury ∧
      (inCentury < 36524 ∨ century = 3 ∧ inCentury = 36524) := by
    exact ⟨_, days % 146097 - 36524 * min (days % 146097 / 36524) 3, by omega, rfl,
      by omega, by omega⟩
  obtain ⟨century, inCentury, centuryBound, isCentury, inCycle, inCenturyBound⟩ := century
  have single : ∃ single rest, single ≤ 3 ∧
      min ((inCentury - 1461 * (inCentury / 1461)) / 365) 3 = single ∧
      inCentury = 1461 * (inCentury / 1461) + 365 * single + rest ∧
      (rest < 365 ∨ single = 3 ∧ rest = 365) := by
    exact ⟨_, inCentury - 1461 * (inCentury / 1461) -
      365 * min ((inCentury - 1461 * (inCentury / 1461)) / 365) 3, by omega, rfl,
      by omega, by omega⟩
  obtain ⟨single, rest, singleBound, isSingle, inFour, restBound⟩ := single
  have inside : days % 146097 - 36524 * century = inCentury := by omega
  have year : yearOf days =
      (400 * (days / 146097) + 100 * century + 4 * (inCentury / 1461) + single + 1, rest) := by
    simp only [yearOf, isCentury, inside, isSingle, Prod.mk.injEq, true_and]
    omega
  have four : inCentury / 1461 ≤ 24 := by omega
  have started : 400 * (days / 146097) + 100 * century + 4 * (inCentury / 1461) + single =
      (yearOf days).1 - 1 := by
    rw [year]
    exact (Nat.add_sub_cancel _ 1).symm
  refine ⟨?_, ?_, ?_⟩
  · rw [year]
    exact Nat.le_add_left 1 _
  · have fours : ((yearOf days).1 - 1) / 4 =
        100 * (days / 146097) + 25 * century + inCentury / 1461 := by omega
    have hundreds : ((yearOf days).1 - 1) / 100 = 4 * (days / 146097) + century := by omega
    have cycles : ((yearOf days).1 - 1) / 400 = days / 146097 := by omega
    rw [daysBeforeYear, fours, hundreds, cycles, ← started, year]
    omega
  · rw [daysInYear, year]
    split_ifs with leap
    · omega
    · simp only [isLeap, Bool.and_eq_true, Bool.or_eq_true, decide_eq_true_eq, not_and_or,
        not_or, not_not] at leap
      have inner : 4 * (inCentury / 1461) + single < 100 := by omega
      omega

/-- The ordinal of the last day of year 9999. -/
def maxOrdinal : Nat := 3652059

/-- A date of the years 1 to 9999. -/
structure Date where
  year : Nat
  month : Nat
  day : Nat
  yearInRange : 1 ≤ year ∧ year ≤ 9999
  monthInRange : 1 ≤ month ∧ month ≤ 12
  dayInRange : 1 ≤ day ∧ day ≤ (monthLengths year).getD (month - 1) 0
deriving DecidableEq

namespace Date

/-- The ordinal of a date. -/
def toordinal (date : Date) : Nat :=
  daysBeforeYear date.year + ((monthLengths date.year).take (date.month - 1)).sum + date.day

/-- The month of a day of a year, and the day inside it, all counted from zero. -/
def monthOf (year day : Nat) : Nat × Nat := locate (monthLengths year) day

theorem year_le_of_lt_maxOrdinal {days : Nat} (inRange : days < maxOrdinal) :
    (yearOf days).1 ≤ 9999 := by
  by_contra beyond
  have later := daysBeforeYear_le (show 1 ≤ 10000 by decide)
    (show 10000 ≤ (yearOf days).1 by omega)
  have last : daysBeforeYear 10000 = maxOrdinal := by decide
  have spec := (yearOf_spec days).2.1
  omega

theorem monthOf_inside (days : Nat) :
    (monthOf (yearOf days).1 (yearOf days).2).1 < 12 ∧
      (monthOf (yearOf days).1 (yearOf days).2).2 <
        (monthLengths (yearOf days).1).getD (monthOf (yearOf days).1 (yearOf days).2).1 0 := by
  apply locate_inside
  rw [sum_monthLengths]
  exact (yearOf_spec days).2.2

/-- The date of an ordinal. -/
def fromordinal (ordinal : Nat) (inRange : 1 ≤ ordinal ∧ ordinal ≤ maxOrdinal) : Date where
  year := (yearOf (ordinal - 1)).1
  month := (monthOf (yearOf (ordinal - 1)).1 (yearOf (ordinal - 1)).2).1 + 1
  day := (monthOf (yearOf (ordinal - 1)).1 (yearOf (ordinal - 1)).2).2 + 1
  yearInRange := ⟨(yearOf_spec _).1, year_le_of_lt_maxOrdinal (by omega)⟩
  monthInRange := ⟨Nat.le_add_left 1 _, (monthOf_inside _).1⟩
  dayInRange := ⟨Nat.le_add_left 1 _, (monthOf_inside _).2⟩

/-- The ordinal of the date of an ordinal is that ordinal. -/
theorem toordinal_fromordinal
    (ordinal : Nat) (inRange : 1 ≤ ordinal ∧ ordinal ≤ maxOrdinal) :
    (fromordinal ordinal inRange).toordinal = ordinal := by
  have year := (yearOf_spec (ordinal - 1)).2.1
  have month := sum_take_locate (monthLengths (yearOf (ordinal - 1)).1) (yearOf (ordinal - 1)).2
  simp only [toordinal, fromordinal, monthOf, Nat.add_sub_cancel]
  omega

/-- A number that orders dates by year, month and day. -/
def rank (date : Date) : Nat := (date.year * 100 + date.month) * 100 + date.day

theorem monthLengths_getD_le (year month : Nat) : (monthLengths year).getD month 0 ≤ 31 := by
  have bound : ∀ length ∈ monthLengths year, length ≤ 31 := by
    rw [monthLengths]
    split_ifs <;> decide
  rw [List.getD_eq_getElem?_getD]
  rcases found : (monthLengths year)[month]? with _ | length
  · exact Nat.zero_le _
  · exact bound length (List.mem_of_getElem? found)

theorem day_le (date : Date) : date.day ≤ 31 :=
  Nat.le_trans date.dayInRange.2 (monthLengths_getD_le _ _)

/-- The days of a year up to a date are no more than the year has. -/
theorem dayOfYear_le (date : Date) :
    ((monthLengths date.year).take (date.month - 1)).sum + date.day ≤ daysInYear date.year := by
  have later := sum_take_le_of_lt (monthLengths date.year)
    (show date.month - 1 < 12 by have := date.monthInRange; omega)
  have whole : (monthLengths date.year).take 12 = monthLengths date.year :=
    List.take_of_length_le (Nat.le_refl 12)
  rw [whole, sum_monthLengths] at later
  have := date.dayInRange
  omega

theorem toordinal_lt_of_rank_lt {date other : Date} (earlier : date.rank < other.rank) :
    date.toordinal < other.toordinal := by
  have dayBound := date.day_le
  have otherDayBound := other.day_le
  have monthBound := date.monthInRange
  have otherMonthBound := other.monthInRange
  have dayBounds := date.dayInRange
  have otherDayBounds := other.dayInRange
  rw [rank, rank] at earlier
  rcases Nat.lt_trichotomy date.year other.year with year | year | year
  · have inYear := date.dayOfYear_le
    have next := daysBeforeYear_succ date.yearInRange.1
    have later := daysBeforeYear_le (Nat.le_add_left 1 _) year
    rw [toordinal, toordinal]
    omega
  · rcases Nat.lt_trichotomy date.month other.month with month | month | month
    · have later := sum_take_le_of_lt (monthLengths date.year)
        (show date.month - 1 < other.month - 1 by omega)
      rw [toordinal, toordinal, ← year]
      omega
    · rw [toordinal, toordinal, ← year, ← month]
      omega
    · omega
  · omega

/-- Dates are in the order of their ordinals. -/
theorem toordinal_lt_iff (date other : Date) :
    date.toordinal < other.toordinal ↔ date.rank < other.rank := by
  constructor
  · intro earlier
    rcases Nat.lt_trichotomy date.rank other.rank with less | same | more
    · exact less
    · have dayBound := date.day_le
      have otherDayBound := other.day_le
      have monthBound := date.monthInRange
      have otherMonthBound := other.monthInRange
      rw [rank, rank] at same
      have year : date.year = other.year := by omega
      have month : date.month = other.month := by omega
      have day : date.day = other.day := by omega
      rw [toordinal, toordinal, year, month, day] at earlier
      exact absurd earlier (Nat.lt_irrefl _)
    · exact absurd (toordinal_lt_of_rank_lt more) (Nat.lt_asymm earlier)
  · exact toordinal_lt_of_rank_lt

theorem one_le_toordinal (date : Date) : 1 ≤ date.toordinal := by
  have day := date.dayInRange.1
  rw [toordinal]
  omega

theorem toordinal_le_maxOrdinal (date : Date) : date.toordinal ≤ maxOrdinal := by
  have inYear := date.dayOfYear_le
  have next := daysBeforeYear_succ date.yearInRange.1
  have later := daysBeforeYear_le (Nat.le_add_left 1 _)
    (show date.year + 1 ≤ 10000 by have := date.yearInRange; omega)
  have last : daysBeforeYear 10000 = maxOrdinal := by decide
  rw [toordinal]
  omega

end Date

end Snapl.Library
