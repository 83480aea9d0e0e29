import Snapl.Presentation.ScheduleCommands

/-!
# Interval syntax

An operator writes a scan interval as a number and a letter, `90s`, `5m` or
`1h`, with any blanks around it.  The number is read by `int`, which refuses
more than 4300 digits, and the interval is made by `timedelta`, which refuses
more than 999999999 days.
-/

namespace Snapl.Presentation

open Snapl.Library Snapl.Orchestrator Snapl.Orchestrator.Schedules

inductive IntervalUnit where
  | seconds
  | minutes
  | hours
deriving DecidableEq

def IntervalUnit.letter : IntervalUnit → Char
  | .seconds => 's'
  | .minutes => 'm'
  | .hours => 'h'

/-- The unit of a letter. -/
def units : Char → Option IntervalUnit
  | 's' => some .seconds
  | 'm' => some .minutes
  | 'h' => some .hours
  | _ => none

/-- One of a unit. -/
def IntervalUnit.duration : IntervalUnit → Duration
  | .seconds => 1000000
  | .minutes => 60000000
  | .hours => 3600000000

/-- The digits and the unit of a stripped text. -/
def matchInterval (chars : List Char) : Option (List Char × IntervalUnit) :=
  match chars.takeWhile isDecimal, chars.dropWhile isDecimal with
  | first :: digits, [letter] => (units letter).map fun unit => (first :: digits, unit)
  | _, _ => none

/-- What reading an interval raises. -/
inductive IntervalError where
  | cliError (error : CliError)
  | raised (error : PyError)
  | overflowError
deriving DecidableEq

/-- One more than the longest duration. -/
def durationLimit : Duration := 1000000000 * 86400000000

/-- A number of a unit, where it is a duration. -/
def timedelta (amount : Int) (unit : IntervalUnit) : Except IntervalError Duration :=
  let interval := amount * unit.duration
  if -999999999 * 86400000000 ≤ interval ∧ interval < durationLimit then .ok interval
  else .error .overflowError

def cannotReadInterval (text : PyText) (written : String) : CliError where
  message := "cannot read interval " ++ text.reprStr written
  hint := some "Use <n>s, <n>m or <n>h — for example 90s, 5m, 1h."

def belowMinimum (written : String) : CliError where
  message := "interval " ++ written ++ " is below the 1m minimum"

/-- Read an interval of at least the minimum. -/
def parseInterval (text : PyText) (written : String) : Except IntervalError Duration :=
  match matchInterval (strip written.toList) with
  | none => .error (.cliError (cannotReadInterval text written))
  | some (digits, unit) => do
      let amount ← (intOfDigits digits).mapError .raised
      let interval ← timedelta amount unit
      if interval < minScanInterval then .error (.cliError (belowMinimum written))
      else .ok interval

theorem isWhitespace_letter (unit : IntervalUnit) : isWhitespace unit.letter = false := by
  cases unit with
  | seconds => decide
  | minutes => decide
  | hours => decide

theorem isDecimal_letter (unit : IntervalUnit) : isDecimal unit.letter = false := by
  cases unit with
  | seconds => decide
  | minutes => decide
  | hours => decide

theorem units_eq_some_iff (char : Char) (unit : IntervalUnit) :
    units char = some unit ↔ char = unit.letter := by
  constructor
  · intro found
    unfold units at found
    split at found
    all_goals cases found
    all_goals rfl
  · rintro rfl
    cases unit with
    | seconds => rfl
    | minutes => rfl
    | hours => rfl

/-- A text of some digits and the letter of a unit, with any blanks around them. -/
structure Writes (written : String) (digits : List Char) (unit : IntervalUnit) : Prop where
  present : digits ≠ []
  decimal : ∀ char ∈ digits, isDecimal char = true
  spaced : ∃ before after, (∀ char ∈ before ++ after, isWhitespace char = true) ∧
    written.toList = before ++ ((digits ++ [unit.letter]) ++ after)

/-- The number some digits write. -/
def numberOf (digits : List Char) : Nat :=
  (digits.filterMap decimalValue?).foldl (fun sofar digit => 10 * sofar + digit) 0

theorem matchInterval_eq_some_iff
    (chars digits : List Char) (unit : IntervalUnit) :
    matchInterval chars = some (digits, unit) ↔
      digits ≠ [] ∧ (∀ char ∈ digits, isDecimal char = true) ∧ chars = digits ++ [unit.letter] := by
  constructor
  · intro matched
    rw [matchInterval] at matched
    split at matched
    · next first others letter taken dropped =>
        obtain ⟨found, unitOf, pair⟩ := Option.map_eq_some_iff.1 matched
        obtain ⟨rfl, rfl⟩ := Prod.mk.inj pair
        refine ⟨List.cons_ne_nil first others, ?_, ?_⟩
        · intro char member
          rw [← taken] at member
          exact List.mem_takeWhile_imp member
        · rw [← (units_eq_some_iff letter found).1 unitOf, ← taken, ← dropped,
            List.takeWhile_append_dropWhile]
    · cases matched
  · rintro ⟨present, decimal, rfl⟩
    have stops : ¬isDecimal unit.letter = true := by
      rw [isDecimal_letter]
      exact Bool.false_ne_true
    rw [matchInterval, List.takeWhile_append_of_pos decimal, List.dropWhile_append_of_pos decimal,
      List.takeWhile_cons_of_neg stops, List.dropWhile_cons_of_neg stops, List.append_nil]
    obtain ⟨first, rest, rfl⟩ := List.exists_cons_of_ne_nil present
    change (units unit.letter).map (fun unit => (first :: rest, unit)) = some (first :: rest, unit)
    rw [(units_eq_some_iff _ unit).2 rfl]
    rfl

/-- What is matched of a stripped text is what it writes. -/
theorem matchInterval_strip_eq_some_iff
    (written : String) (digits : List Char) (unit : IntervalUnit) :
    matchInterval (strip written.toList) = some (digits, unit) ↔ Writes written digits unit := by
  rw [matchInterval_eq_some_iff]
  constructor
  · rintro ⟨present, decimal, stripped⟩
    obtain ⟨before, after, blank, spaced⟩ := strip_cases written.toList
    rw [stripped] at spaced
    exact ⟨present, decimal, before, after, blank, spaced⟩
  · rintro ⟨present, decimal, before, after, blank, spaced⟩
    refine ⟨present, decimal, ?_⟩
    rw [spaced]
    apply strip_append
    · intro char member
      exact blank char (List.mem_append_left _ member)
    · intro char member
      exact blank char (List.mem_append_right _ member)
    · obtain ⟨first, rest, rfl⟩ := List.exists_cons_of_ne_nil present
      intro char starts
      rw [← Option.some.inj starts]
      exact isWhitespace_of_isDecimal (decimal first List.mem_cons_self)
    · intro char ends
      rw [List.getLast?_concat] at ends
      rw [← Option.some.inj ends]
      exact isWhitespace_letter unit
    · exact List.append_ne_nil_of_right_ne_nil _ (List.cons_ne_nil _ _)

/-- A text writes one interval at most. -/
theorem Writes.unique
    {written : String} {digits others : List Char} {unit other : IntervalUnit}
    (writes : Writes written digits unit) (again : Writes written others other) :
    digits = others ∧ unit = other := by
  have matched := (matchInterval_strip_eq_some_iff written digits unit).2 writes
  rw [(matchInterval_strip_eq_some_iff written others other).2 again] at matched
  obtain ⟨rfl, rfl⟩ := Prod.mk.inj (Option.some.inj matched)
  exact ⟨rfl, rfl⟩

theorem intOfDigits_of_decimal
    {digits : List Char} (decimal : ∀ char ∈ digits, isDecimal char = true) :
    intOfDigits digits =
      if maxDigits < digits.length then .error .valueError else .ok (numberOf digits : Int) := by
  have mapped : digits.mapM decimalValue? = some (digits.filterMap decimalValue?) := by
    induction digits with
    | nil => rfl
    | cons char rest induction =>
        obtain ⟨value, has⟩ := Option.isSome_iff_exists.1 (decimal char List.mem_cons_self)
        have later := induction fun other member => decimal other (List.mem_cons_of_mem _ member)
        rw [List.mapM_cons, has, later, List.filterMap_cons_some has]
        rfl
  rw [intOfDigits, mapped]
  rfl

/-- Reading a written interval: its number, its length, and then its lower bound. -/
theorem parseInterval_of_writes
    (text : PyText) {written : String} {digits : List Char} {unit : IntervalUnit}
    (writes : Writes written digits unit) :
    parseInterval text written =
      if maxDigits < digits.length then .error (.raised .valueError)
      else if durationLimit ≤ numberOf digits * unit.duration then .error .overflowError
      else if numberOf digits * unit.duration < minScanInterval then
        .error (.cliError (belowMinimum written))
      else .ok (numberOf digits * unit.duration) := by
  have positive : 0 ≤ numberOf digits * unit.duration := by
    apply Int.mul_nonneg (Int.natCast_nonneg _)
    cases unit <;> decide
  rw [parseInterval, (matchInterval_strip_eq_some_iff written digits unit).2 writes]
  change ((intOfDigits digits).mapError .raised >>= fun amount =>
    timedelta amount unit >>= fun interval =>
      if interval < minScanInterval then .error (.cliError (belowMinimum written))
      else .ok interval) = _
  rw [intOfDigits_of_decimal writes.decimal]
  by_cases long : maxDigits < digits.length
  · rw [if_pos long, if_pos long]
    rfl
  · rw [if_neg long, if_neg long]
    change (timedelta (numberOf digits) unit >>= _) = _
    by_cases overflows : durationLimit ≤ numberOf digits * unit.duration
    · rw [if_pos overflows, timedelta, if_neg fun bounds => not_lt.2 overflows bounds.2]
      rfl
    · rw [if_neg overflows, timedelta,
        if_pos ⟨le_trans (by decide) positive, not_le.1 overflows⟩]
      rfl

end Snapl.Presentation
