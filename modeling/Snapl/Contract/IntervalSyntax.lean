import Snapl.Presentation.Intervals

/-!
# Interval syntax

What an operator writes for an interval is read or refused, and what is shown of
an interval can be written back.  Two kinds of text escape: more digits than
`int` converts, and numbers beyond the longest duration.  Neither is caught.
-/

namespace Snapl.Contract

open Snapl.Library Snapl.Orchestrator Snapl.Orchestrator.Schedules Snapl.Presentation

theorem toList_toString (number : Nat) :
    (toString (number : Int)).toList = Nat.toDigits 10 number := by
  change (Nat.repr number).toList = _
  rw [Nat.repr, String.toList_ofList]

theorem numberOf_toDigits (number : Nat) : numberOf (Nat.toDigits 10 number) = number := by
  have digits : ∀ char ∈ Nat.toDigits 10 number, char.isDigit = true :=
    fun _ member => isDigit_of_mem_decimalDigits member
  have read : (Nat.toDigits 10 number).filterMap decimalValue? =
      (Nat.toDigits 10 number).map fun char => char.toNat - '0'.toNat := by
    rw [← List.filterMap_eq_map]
    apply List.filterMap_congr
    intro char member
    exact decimalValue?_of_isDigit (digits char member)
  have value := Nat.ofDigitChars_ten_toDigits (n := number)
  rw [Nat.ofDigitChars_eq_foldl] at value
  rw [numberOf, read, List.foldl_map]
  exact value

theorem writes_shown (number : Nat) (unit : IntervalUnit) (shown : String)
    (letters : shown = toString (number : Int) ++ String.ofList [unit.letter]) :
    Writes shown (Nat.toDigits 10 number) unit where
  present := Nat.toDigits_ne_nil
  decimal := by
    intro char member
    rw [isDecimal, decimalValue?_of_isDigit (isDigit_of_mem_decimalDigits member)]
    rfl
  spaced := by
    refine ⟨[], [], ?_, ?_⟩
    · intro char member
      cases member
    · rw [letters, String.toList_append, toList_toString, String.toList_ofList, List.nil_append,
        List.append_nil]

/-- What is shown of whole seconds writes them, in the largest unit that divides them. -/
theorem formatInterval_writes (seconds : Nat) :
    ∃ number unit, Writes (formatInterval (seconds * 1000000)) (Nat.toDigits 10 number) unit ∧
      (number : Int) * unit.duration = seconds * 1000000 := by
  have whole : totalSeconds (seconds * 1000000) = seconds :=
    Int.mul_tdiv_cancel _ (by decide)
  rw [formatInterval, whole]
  by_cases hours : (seconds : Int) % 3600 = 0
  · refine ⟨seconds / 3600, .hours, writes_shown _ _ _ ?_, ?_⟩
    · rw [if_pos hours]
      rfl
    · rw [IntervalUnit.duration]
      omega
  · by_cases minutes : (seconds : Int) % 60 = 0
    · refine ⟨seconds / 60, .minutes, writes_shown _ _ _ ?_, ?_⟩
      · rw [if_neg hours, if_pos minutes]
        rfl
      · rw [IntervalUnit.duration]
        omega
    · refine ⟨seconds, .seconds, writes_shown _ _ _ ?_, rfl⟩
      rw [if_neg hours, if_neg minutes]
      rfl

/-- What is shown of an interval that can be written is read as that interval. -/
theorem parseInterval_formatInterval
    (text : PyText) {interval : Duration} (seconds : Nat) (whole : interval = seconds * 1000000)
    (least : minScanInterval ≤ interval) (fits : interval < durationLimit) :
    parseInterval text (formatInterval interval) = .ok interval := by
  obtain ⟨number, unit, writes, same⟩ := formatInterval_writes seconds
  rw [← whole] at writes same
  have least_unit : 1 ≤ unit.duration := by
    cases unit <;> decide
  have small : number < 10 ^ 20 := by
    have below : (number : Int) ≤ interval := by
      rw [← same]
      exact le_mul_of_one_le_right (Int.natCast_nonneg number) least_unit
    have limit : durationLimit ≤ ((10 ^ 20 : Nat) : Int) := by decide
    exact Int.ofNat_lt.1 (lt_of_le_of_lt below (lt_of_lt_of_le fits limit))
  have short : ¬maxDigits < (Nat.toDigits 10 number).length := by
    have digits := (Nat.length_toDigits_le_iff (by decide) (by decide)).2 small
    have allowed : 20 ≤ maxDigits := by decide
    exact not_lt.2 (digits.trans allowed)
  rw [parseInterval_of_writes text writes, numberOf_toDigits, same, if_neg short,
    if_neg (not_le.2 fits), if_neg (not_lt.2 least)]

/-- A text is refused, or read as what it writes, which is at least a minute and shown as it is read. -/
def ReadsInterval (text : PyText) (written : String) : Prop :=
  (∃ error, parseInterval text written = .error (.cliError error)) ∨
    ∃ interval digits unit, parseInterval text written = .ok interval ∧
      Writes written digits unit ∧ interval = numberOf digits * unit.duration ∧
      minScanInterval ≤ interval ∧ parseInterval text (formatInterval interval) = .ok interval

/-- A text writes no number too long to convert, and no interval beyond the longest. -/
def Bounded (written : String) : Prop :=
  ∀ digits unit, Writes written digits unit →
    digits.length ≤ maxDigits ∧ numberOf digits * unit.duration < durationLimit

theorem IntervalUnit.duration_eq (unit : IntervalUnit) :
    ∃ seconds : Nat, unit.duration = seconds * 1000000 := by
  cases unit with
  | seconds => exact ⟨1, rfl⟩
  | minutes => exact ⟨60, rfl⟩
  | hours => exact ⟨3600, rfl⟩

/-- A text is refused or read exactly where what it writes is bounded. -/
theorem readsInterval_iff (text : PyText) (written : String) :
    ReadsInterval text written ↔ Bounded written := by
  constructor
  · intro reads digits unit writes
    have parsed := parseInterval_of_writes text writes
    by_contra unbounded
    rw [not_and_or, not_le, not_lt] at unbounded
    have raised : ∃ error, parseInterval text written = .error error ∧
        ∀ refused, error ≠ .cliError refused := by
      by_cases long : maxDigits < digits.length
      · rw [if_pos long] at parsed
        refine ⟨_, parsed, ?_⟩
        intro refused same
        cases same
      · rw [if_neg long, if_pos (unbounded.resolve_left long)] at parsed
        refine ⟨_, parsed, ?_⟩
        intro refused same
        cases same
    obtain ⟨error, failed, uncaught⟩ := raised
    rcases reads with ⟨refused, refuses⟩ | ⟨interval, _, _, succeeded, _⟩
    · rw [failed] at refuses
      exact uncaught refused (Except.error.inj refuses)
    · rw [failed] at succeeded
      cases succeeded
  · intro bounded
    rcases matched : matchInterval (strip written.toList) with _ | ⟨digits, unit⟩
    · apply Or.inl
      refine ⟨cannotReadInterval text written, ?_⟩
      rw [parseInterval, matched]
    · have writes := (matchInterval_strip_eq_some_iff written digits unit).1 matched
      obtain ⟨short, fits⟩ := bounded digits unit writes
      have parsed := parseInterval_of_writes text writes
      rw [if_neg (not_lt.2 short), if_neg (not_le.2 fits)] at parsed
      by_cases below : numberOf digits * unit.duration < minScanInterval
      · rw [if_pos below] at parsed
        exact Or.inl ⟨_, parsed⟩
      · rw [if_neg below] at parsed
        obtain ⟨seconds, unitSeconds⟩ := IntervalUnit.duration_eq unit
        apply Or.inr
        refine ⟨_, digits, unit, parsed, writes, rfl, not_lt.1 below, ?_⟩
        apply parseInterval_formatInterval text (numberOf digits * seconds) _ (not_lt.1 below) fits
        rw [unitSeconds, Int.natCast_mul, Int.mul_assoc]

/-- A hundred billion hours are no duration, and what that raises is not caught. -/
theorem hundredBillionHours_escape : ¬ReadsInterval PyText.ascii "100000000000h" := by
  have escapes : parseInterval PyText.ascii "100000000000h" = .error .overflowError := by
    decide
  rintro (⟨error, refused⟩ | ⟨interval, digits, unit, parsed, -⟩)
  · rw [escapes] at refused
    cases refused
  · rw [escapes] at parsed
    cases parsed

end Snapl.Contract
