import Mathlib.Tactic.FieldSimp
import Mathlib.Tactic.Ring
import Mathlib.Data.List.DropRight
import Snapl.Library.JsonText

/-!
# The text of a floating-point number

`repr` of a floating-point number: the shortest decimal that is read back as the
number, of two the nearer one, with a point or with an exponent according to its
size.  A JSON reader gives the number back.
-/

namespace Snapl.Library.JsonText

/-! ## Parts of a number -/

/-- Digits an integer part may consist of. -/
def Whole (digits : List Char) : Prop :=
  digits ≠ [] ∧ (∀ char ∈ digits, char.isDigit = true) ∧
    (digits = ['0'] ∨ digits.head? ≠ some '0')

/-- The text goes on with no digit. -/
def Stops (rest : List Char) : Prop := ∀ char ∈ rest.head?, char.isDigit = false

theorem Delimited.stops {rest : List Char} (delimited : Delimited rest) : Stops rest := by
  intro char member
  exact (delimited char member).1

theorem stops_cons {char : Char} (other : char.isDigit = false) (rest : List Char) :
    Stops (char :: rest) := by
  intro head member
  rw [List.head?_cons, Option.mem_some] at member
  rw [← member]
  exact other

theorem takeWhile_digits
    {digits rest : List Char} (isDigits : ∀ char ∈ digits, char.isDigit = true)
    (stops : Stops rest) :
    (digits ++ rest).takeWhile Char.isDigit = digits ∧
      (digits ++ rest).dropWhile Char.isDigit = rest := by
  rw [List.takeWhile_append_of_pos isDigits, List.dropWhile_append_of_pos isDigits]
  cases rest with
  | nil => exact ⟨List.append_nil _, rfl⟩
  | cons char rest =>
      have other : char.isDigit = false := stops char (by simp)
      rw [List.takeWhile_cons_of_neg (by simp [other]), List.dropWhile_cons_of_neg (by simp [other])]
      exact ⟨List.append_nil _, rfl⟩

theorem scanInteger_whole
    {digits rest : List Char} (whole : Whole digits) (stops : Stops rest) :
    scanInteger (digits ++ rest) = (digits, rest) := by
  obtain ⟨nonempty, isDigits, leading⟩ := whole
  obtain ⟨taken, dropped⟩ := takeWhile_digits isDigits stops
  rcases leading with rfl | leading
  · rfl
  · rw [scanInteger.eq_def]
    split
    · next after equal =>
      cases digits with
      | nil => exact absurd rfl nonempty
      | cons char others =>
          rw [List.cons_append, List.cons.injEq] at equal
          rw [equal.1] at leading
          exact absurd rfl leading
    · rw [taken, dropped]

theorem scanFraction_digits
    {digits rest : List Char} (nonempty : digits ≠ [])
    (isDigits : ∀ char ∈ digits, char.isDigit = true) (stops : Stops rest) :
    scanFraction ('.' :: (digits ++ rest)) = (digits, rest) := by
  obtain ⟨taken, dropped⟩ := takeWhile_digits isDigits stops
  simp only [scanFraction, taken, dropped, if_neg nonempty]

theorem scanFraction_absent {rest : List Char} (other : rest.head? ≠ some '.') :
    scanFraction rest = ([], rest) := by
  rw [scanFraction.eq_def]
  split
  · exact absurd rfl other
  · rfl

/-- The sign of an exponent. -/
def signChar (exponent : Int) : Char := if exponent < 0 then '-' else '+'

theorem scanExponent_digits
    (exponent : Int) {digits rest : List Char} (nonempty : digits ≠ [])
    (isDigits : ∀ char ∈ digits, char.isDigit = true) (stops : Stops rest)
    (value : Nat.ofDigitChars 10 digits 0 = exponent.natAbs) :
    scanExponent ('e' :: signChar exponent :: (digits ++ rest)) = (some exponent, rest) := by
  obtain ⟨taken, dropped⟩ := takeWhile_digits isDigits stops
  rw [signChar]
  split_ifs with negative
  · have sign : -(exponent.natAbs : Int) = exponent := by omega
    simp only [scanExponent, true_or, if_true, scanSignedDigits, taken, dropped,
      if_neg nonempty, value, sign]
  · have sign : (exponent.natAbs : Int) = exponent := by omega
    simp only [scanExponent, true_or, if_true, scanSignedDigits, taken, dropped,
      if_neg nonempty, value, Bool.false_eq_true, if_false, sign]

/-! ## Powers of ten -/

/-- Ten to an integer power. -/
def powerOfTen (exponent : Int) : Rat :=
  if 0 ≤ exponent then (10 ^ exponent.toNat : Nat)
  else 1 / (10 ^ (-exponent).toNat : Nat)

theorem powerOfTen_eq (exponent : Int) : powerOfTen exponent = (10 : Rat) ^ exponent := by
  rw [powerOfTen]
  split_ifs with nonnegative
  · obtain ⟨size, rfl⟩ := Int.eq_ofNat_of_zero_le nonnegative
    rw [Int.toNat_natCast, zpow_natCast]
    push_cast
    rfl
  · obtain ⟨size, equal⟩ := Int.eq_ofNat_of_zero_le (show 0 ≤ -exponent by omega)
    obtain rfl : exponent = -(size : Int) := by omega
    rw [Int.neg_neg, Int.toNat_natCast, zpow_neg, zpow_natCast, one_div]
    push_cast
    rfl

theorem powerOfTen_add (first second : Int) :
    powerOfTen (first + second) = powerOfTen first * powerOfTen second := by
  rw [powerOfTen_eq, powerOfTen_eq, powerOfTen_eq, zpow_add₀ (by decide)]

theorem powerOfTen_natCast (exponent : Nat) : powerOfTen exponent = ((10 ^ exponent : Nat) : Rat) := by
  rw [powerOfTen, if_pos (Int.natCast_nonneg _), Int.toNat_natCast]

/-- A number with a fraction or an exponent is the nearest binary64 number. -/
theorem numberOfParts_float
    {negative : Bool} {digits fraction : List Char} {exponent : Option Int}
    (floating : fraction ≠ [] ∨ exponent ≠ none) :
    numberOfParts negative digits fraction exponent =
      some (.float (nearestBinary64
        (let value := (Nat.ofDigitChars 10 (digits ++ fraction) 0 : Nat) *
          powerOfTen (exponent.getD 0 - fraction.length)
        if negative then -value else value))) := by
  have parts : ¬(fraction = [] ∧ exponent = none) := by
    rintro ⟨none, absent⟩
    rcases floating with floating | floating
    · exact floating none
    · exact floating absent
  have scale : ∀ (mantissa : Rat) (scale : Int),
      (if 0 ≤ scale then mantissa * (10 ^ scale.toNat : Nat)
        else mantissa / (10 ^ (-scale).toNat : Nat)) = mantissa * powerOfTen scale := by
    intro mantissa scale
    rw [powerOfTen]
    split_ifs
    · rfl
    · rw [mul_one_div]
  simp only [numberOfParts, if_neg parts, scale]

/-! ## The shortest decimal -/

/-- A natural number times a power of ten. -/
structure Decimal where
  mantissa : Nat
  exponent : Int
deriving DecidableEq

def Decimal.value (decimal : Decimal) : Rat := decimal.mantissa * powerOfTen decimal.exponent

/-- The least power of ten above a positive number. -/
def pointOf (size : Rat) : Int :=
  let guess : Int :=
    (Nat.toDigits 10 size.num.natAbs).length - (Nat.toDigits 10 size.den).length
  if size < powerOfTen guess then guess else guess + 1

/-- The decimals of some digits on both sides of a number, the nearer one first. -/
def decimalsAround (size : Rat) (digits : Nat) : List Decimal :=
  let exponent := pointOf size - digits
  let scaled := size / powerOfTen exponent
  let low := scaled.floor.toNat
  let nearer := roundHalfEven scaled
  [⟨nearer, exponent⟩, ⟨if nearer = low then low + 1 else low, exponent⟩]

/-- The decimal is read as the number. -/
def readsBack (size : Rat) (decimal : Decimal) : Bool :=
  nearestBinary64 decimal.value = .finite size

/-- All digits of a binary64 number. -/
def exactDecimal (size : Rat) : Decimal :=
  let exponent := max (floorLog2 size - 52) (-1074)
  let units := roundHalfEven (size / powerOfTwo exponent)
  if 0 ≤ exponent then ⟨units * 2 ^ exponent.toNat, 0⟩
  else ⟨units * 5 ^ (-exponent).toNat, exponent⟩

/-- The decimal of the fewest digits that is read as the number. -/
def shortest (size : Rat) : Decimal :=
  ((List.range 17).findSome? fun digits =>
    (decimalsAround size (digits + 1)).find? (readsBack size)).getD (exactDecimal size)

/-- Every binary64 number has a decimal of its own. -/
theorem value_exactDecimal {size : Rat} (positive : 0 < size)
    (binary64 : nearestBinary64 size = .finite size) : (exactDecimal size).value = size := by
  have rounded : (roundHalfEven (size / powerOfTwo (max (floorLog2 size - 52) (-1074))) : Rat) *
      powerOfTwo (max (floorLog2 size - 52) (-1074)) = size := by
    rw [nearestBinary64, if_neg (ne_of_gt positive)] at binary64
    simp only [if_neg (not_lt_of_gt positive)] at binary64
    split_ifs at binary64
    exact PyFloat.finite.inj binary64
  rw [exactDecimal]
  generalize max (floorLog2 size - 52) (-1074) = exponent at rounded
  generalize roundHalfEven (size / powerOfTwo exponent) = units at rounded
  split_ifs with nonnegative
  · rw [powerOfTwo, if_pos nonnegative] at rounded
    simp only [Decimal.value, powerOfTen, le_refl, if_true, Int.toNat_zero, pow_zero]
    push_cast at rounded ⊢
    rw [mul_one]
    exact rounded
  · rw [powerOfTwo, if_neg nonnegative] at rounded
    simp only [Decimal.value, powerOfTen, if_neg nonnegative]
    rw [← rounded]
    have split : ((10 ^ (-exponent).toNat : Nat) : Rat) =
        (5 : Rat) ^ (-exponent).toNat * (2 : Rat) ^ (-exponent).toNat := by
      rw [← mul_pow]
      push_cast
      norm_num
    rw [split]
    push_cast
    field_simp

theorem readsBack_shortest {size : Rat} (positive : 0 < size)
    (binary64 : nearestBinary64 size = .finite size) :
    nearestBinary64 (shortest size).value = .finite size := by
  rw [shortest]
  rcases found : (List.range 17).findSome? (fun digits =>
    (decimalsAround size (digits + 1)).find? (readsBack size)) with _ | decimal
  · rw [Option.getD_none, value_exactDecimal positive binary64]
    exact binary64
  · obtain ⟨digits, -, isFound⟩ := List.exists_of_findSome?_eq_some found
    have reads : readsBack size decimal = true := List.find?_some isFound
    exact of_decide_eq_true reads

theorem mantissa_shortest_pos {size : Rat} (positive : 0 < size)
    (binary64 : nearestBinary64 size = .finite size) : 0 < (shortest size).mantissa := by
  have reads := readsBack_shortest positive binary64
  rcases Nat.eq_zero_or_pos (shortest size).mantissa with zero | more
  · rw [Decimal.value, zero, Nat.cast_zero, zero_mul, nearestBinary64, if_pos rfl] at reads
    exact absurd (PyFloat.finite.inj reads) (ne_of_lt positive)
  · exact more

/-! ## Layout -/

/-- The digits of an exponent, at least two. -/
def exponentDigits (exponent : Nat) : List Char :=
  if exponent < 10 then '0' :: Nat.toDigits 10 exponent else Nat.toDigits 10 exponent

/-- Digits with a point, or with an exponent if the point is far away from them. -/
def layout (digits : List Char) (point : Int) : List Char :=
  if -4 < point ∧ point ≤ 16 then
    if point ≤ 0 then '0' :: '.' :: (List.replicate (-point).toNat '0' ++ digits)
    else if digits.length ≤ point.toNat then
      digits ++ List.replicate (point.toNat - digits.length) '0' ++ ['.', '0']
    else digits.take point.toNat ++ '.' :: digits.drop point.toNat
  else
    digits.take 1 ++ (if digits.length = 1 then [] else '.' :: digits.drop 1) ++
      'e' :: signChar (point - 1) :: exponentDigits (point - 1).natAbs

/-- Digits without the zeros at their end. -/
def significant (digits : List Char) : List Char := digits.rdropWhile (· = '0')

/-- The text of a positive number. -/
def magnitudeText (size : Rat) : List Char :=
  let decimal := shortest size
  let digits := Nat.toDigits 10 decimal.mantissa
  layout (significant digits) (decimal.exponent + digits.length)

/-- The text of a floating-point number in a JSON document. -/
def floatstr : PyFloat → List Char
  | .nan => "NaN".toList
  | .infinite negative => if negative then "-Infinity".toList else "Infinity".toList
  | .finite value =>
      if value = 0 then "0.0".toList
      else if value < 0 then '-' :: magnitudeText (-value)
      else magnitudeText value

example : floatstr (.finite (1 / 2)) = ['0', '.', '5'] := by decide +kernel

/-! ## Reading -/

/-- The text is scanned as a number of the value, with a fraction or an exponent. -/
structure ScansFloat (text : List Char) (value : Rat) : Prop where
  head : ∃ first others, text = first :: others ∧ first.isDigit = true
  parts : ∃ integer fraction exponent, integer ≠ [] ∧ (fraction ≠ [] ∨ exponent ≠ none) ∧
    (Nat.ofDigitChars 10 (integer ++ fraction) 0 : Nat) *
      powerOfTen (exponent.getD 0 - fraction.length) = value ∧
    ∀ rest, Delimited rest → ∃ afterInteger afterFraction,
      scanInteger (text ++ rest) = (integer, afterInteger) ∧
      scanFraction afterInteger = (fraction, afterFraction) ∧
      scanExponent afterFraction = (exponent, rest)

theorem ScansFloat.scanNumber
    {text rest : List Char} {value : Rat} (scans : ScansFloat text value)
    (delimited : Delimited rest) :
    JsonText.scanNumber (text ++ rest) = some (.float (nearestBinary64 value), rest) ∧
      JsonText.scanNumber ('-' :: (text ++ rest)) =
        some (.float (nearestBinary64 (-value)), rest) := by
  obtain ⟨first, others, shape, digit⟩ := scans.head
  obtain ⟨integer, fraction, exponent, nonempty, floating, isValue, reads⟩ := scans.parts
  obtain ⟨afterInteger, afterFraction, scanned, fractionScanned, exponentScanned⟩ :=
    reads rest delimited
  have unsigned : (text ++ rest).head? ≠ some '-' := by
    rw [shape, List.cons_append, List.head?_cons]
    intro equal
    rw [Option.some.inj equal] at digit
    exact absurd digit (by decide)
  have plain := @numberOfParts_float false integer _ _ floating
  have negated := @numberOfParts_float true integer _ _ floating
  simp only [isValue, Bool.false_eq_true, if_false, if_true] at plain negated
  constructor
  · simp only [JsonText.scanNumber, unsigned, decide_false, if_false,
      scanned, fractionScanned, exponentScanned, nonempty, plain, Option.map_some]
  · simp only [JsonText.scanNumber, List.head?_cons, List.tail_cons, decide_true, if_true,
      scanned, fractionScanned, exponentScanned, nonempty, negated, if_false, Option.map_some]

/-- A text without an exponent. -/
theorem ScansFloat.ofFraction
    {integer fraction : List Char} {value : Rat} (whole : Whole integer)
    (nonempty : fraction ≠ []) (isDigits : ∀ char ∈ fraction, char.isDigit = true)
    (isValue : (Nat.ofDigitChars 10 (integer ++ fraction) 0 : Nat) *
      powerOfTen (-fraction.length) = value) :
    ScansFloat (integer ++ '.' :: fraction) value := by
  refine ⟨?_, integer, fraction, none, whole.1, .inl nonempty, ?_, ?_⟩
  · obtain ⟨inhabited, digits, -⟩ := whole
    cases integer with
    | nil => exact absurd rfl inhabited
    | cons first others => exact ⟨first, _, List.cons_append, digits first List.mem_cons_self⟩
  · rw [Option.getD_none, zero_sub]
    exact isValue
  · intro rest delimited
    refine ⟨'.' :: (fraction ++ rest), rest, ?_, ?_, delimited.scanExponent⟩
    · rw [List.append_assoc, List.cons_append]
      exact scanInteger_whole whole (stops_cons (by decide) _)
    · exact scanFraction_digits nonempty isDigits delimited.stops

theorem exponentDigits_spec (exponent : Nat) :
    exponentDigits exponent ≠ [] ∧ (∀ char ∈ exponentDigits exponent, char.isDigit = true) ∧
      Nat.ofDigitChars 10 (exponentDigits exponent) 0 = exponent := by
  rw [exponentDigits]
  split_ifs
  · refine ⟨List.cons_ne_nil _ _, ?_, ?_⟩
    · intro char member
      rcases List.mem_cons.1 member with rfl | member
      · rfl
      · exact isDigit_of_mem_decimalDigits member
    · rw [Nat.ofDigitChars_cons]
      exact Nat.ofDigitChars_ten_toDigits
  · exact ⟨Nat.toDigits_ne_nil, fun char member => isDigit_of_mem_decimalDigits member,
      Nat.ofDigitChars_ten_toDigits⟩

/-- A text with an exponent. -/
theorem ScansFloat.ofExponent
    {first : Char} {fraction : List Char} {exponent : Int} {value : Rat}
    (digit : first.isDigit = true) (isDigits : ∀ char ∈ fraction, char.isDigit = true)
    (isValue : (Nat.ofDigitChars 10 (first :: fraction) 0 : Nat) *
      powerOfTen (exponent - fraction.length) = value) :
    ScansFloat (first :: ((if fraction = [] then [] else '.' :: fraction) ++
      'e' :: signChar exponent :: exponentDigits exponent.natAbs)) value := by
  obtain ⟨nonempty, exponentIsDigits, exponentValue⟩ := exponentDigits_spec exponent.natAbs
  have whole : Whole [first] := by
    refine ⟨List.cons_ne_nil _ _, ?_, ?_⟩
    · intro char member
      rw [List.mem_singleton.1 member]
      exact digit
    · by_cases zero : first = '0'
      · exact .inl (by rw [zero])
      · exact .inr (by simpa using zero)
  refine ⟨⟨first, _, rfl, digit⟩, [first], fraction, some exponent, List.cons_ne_nil _ _,
    .inr (Option.some_ne_none _), isValue, ?_⟩
  intro rest delimited
  have scanned := scanExponent_digits exponent nonempty exponentIsDigits delimited.stops
    exponentValue
  have integer := fun (after : List Char) (stops : Stops after) =>
    scanInteger_whole whole stops
  rw [List.cons_append, List.append_assoc, List.cons_append, List.cons_append]
  split_ifs with none
  · rw [none, List.nil_append]
    exact ⟨_, _, integer _ (stops_cons (by decide) _), scanFraction_absent (by simp), scanned⟩
  · rw [List.cons_append]
    exact ⟨_, _, integer _ (stops_cons (by decide) _),
      scanFraction_digits none isDigits (stops_cons (by decide) _), scanned⟩

/-! ### Laid-out digits -/

theorem ofDigitChars_append_zeros (digits : List Char) (count : Nat) :
    Nat.ofDigitChars 10 (digits ++ List.replicate count '0') 0 =
      Nat.ofDigitChars 10 digits 0 * 10 ^ count := by
  rw [Nat.ofDigitChars_append, Nat.ofDigitChars_replicate_zero, Nat.mul_comm]

theorem isDigit_of_mem_zeros {count : Nat} {char : Char}
    (member : char ∈ List.replicate count '0') : char.isDigit = true := by
  rw [List.eq_of_mem_replicate member]
  rfl

/-- Digits with an exponent denote the number of the digits, scaled to the point. -/
theorem scansFloat_exponent
    {digits : List Char} (nonempty : digits ≠ [])
    (isDigits : ∀ char ∈ digits, char.isDigit = true) (point : Int) :
    ScansFloat (digits.take 1 ++ (if digits.length = 1 then [] else '.' :: digits.drop 1) ++
        'e' :: signChar (point - 1) :: exponentDigits (point - 1).natAbs)
      ((Nat.ofDigitChars 10 digits 0 : Nat) * powerOfTen (point - digits.length)) := by
  cases digits with
  | nil => exact absurd rfl nonempty
  | cons first fraction =>
      have single : (first :: fraction).length = 1 ↔ fraction = [] := by simp
      have text := @ScansFloat.ofExponent first fraction (point - 1) _
        (isDigits first List.mem_cons_self)
        (fun char member => isDigits char (List.mem_cons_of_mem first member)) rfl
      have scale : point - 1 - (fraction.length : Int) =
          point - ((first :: fraction).length : Int) := by
        rw [List.length_cons]
        omega
      rw [scale] at text
      simpa only [List.take_succ_cons, List.take_zero, List.drop_succ_cons, List.drop_zero, single,
        List.cons_append, List.nil_append] using text

/-- Laid-out digits denote the number of the digits, scaled to the point. -/
theorem scansFloat_layout
    {digits : List Char} (nonempty : digits ≠ [])
    (isDigits : ∀ char ∈ digits, char.isDigit = true) (leading : digits.head? ≠ some '0')
    (point : Int) :
    ScansFloat (layout digits point)
      ((Nat.ofDigitChars 10 digits 0 : Nat) * powerOfTen (point - digits.length)) := by
  rw [layout]
  by_cases near : -4 < point ∧ point ≤ 16
  swap
  · rw [if_neg near]
    exact scansFloat_exponent nonempty isDigits point
  rw [if_pos near]
  split_ifs with before short
  · -- the point comes first
    have whole : Whole ['0'] := ⟨List.cons_ne_nil _ _, by decide, .inl rfl⟩
    apply ScansFloat.ofFraction whole
    · simp [nonempty]
    · intro char member
      rcases List.mem_append.1 member with member | member
      · exact isDigit_of_mem_zeros member
      · exact isDigits char member
    · have zeros : Nat.ofDigitChars 10
          (['0'] ++ (List.replicate (-point).toNat '0' ++ digits)) 0 =
            Nat.ofDigitChars 10 digits 0 := by
        rw [Nat.ofDigitChars_append, Nat.ofDigitChars_append, Nat.ofDigitChars_replicate_zero]
        rfl
      have scale : (-((List.replicate (-point).toNat '0' ++ digits).length : Int)) =
          point - digits.length := by
        rw [List.length_append, List.length_replicate]
        omega
      rw [zeros, scale]
  · -- the point comes last
    have whole : Whole (digits ++ List.replicate (point.toNat - digits.length) '0') := by
      refine ⟨by simp [nonempty], ?_, .inr ?_⟩
      · intro char member
        rcases List.mem_append.1 member with member | member
        · exact isDigits char member
        · exact isDigit_of_mem_zeros member
      · rw [List.head?_append_of_ne_nil _ nonempty]
        exact leading
    have text : digits ++ List.replicate (point.toNat - digits.length) '0' ++ ['.', '0'] =
        (digits ++ List.replicate (point.toNat - digits.length) '0') ++ '.' :: ['0'] := rfl
    rw [text]
    apply ScansFloat.ofFraction whole (List.cons_ne_nil _ _) (by decide)
    have zeros : Nat.ofDigitChars 10
        (digits ++ List.replicate (point.toNat - digits.length) '0' ++ ['0']) 0 =
          Nat.ofDigitChars 10 digits 0 * 10 ^ (point.toNat - digits.length + 1) := by
      have one : ['0'] = List.replicate 1 '0' := rfl
      rw [one, List.append_assoc, List.replicate_append_replicate, ofDigitChars_append_zeros]
    have scale : point - (digits.length : Int) =
        ((point.toNat - digits.length + 1 : Nat) : Int) + -((['0'] : List Char).length : Int) := by
      rw [List.length_singleton]
      omega
    rw [zeros, scale, powerOfTen_add, powerOfTen_natCast, Nat.cast_mul, mul_assoc]
  · -- the point comes between digits
    have split := List.take_append_drop point.toNat digits
    have positive : 0 < point.toNat := by omega
    have whole : Whole (digits.take point.toNat) := by
      refine ⟨?_, fun char member => isDigits char (List.mem_of_mem_take member), .inr ?_⟩
      · intro none
        rcases List.take_eq_nil_iff.1 none with zero | empty
        · omega
        · exact nonempty empty
      · rw [List.head?_take, if_neg (Nat.ne_of_gt positive)]
        exact leading
    apply ScansFloat.ofFraction whole
    · intro none
      exact short (List.drop_eq_nil_iff.1 none)
    · intro char member
      exact isDigits char (List.mem_of_mem_drop member)
    · have scale : -((digits.drop point.toNat).length : Int) = point - digits.length := by
        rw [List.length_drop]
        omega
      rw [split, scale]

/-! ### Numbers -/

/-- Only zeros are dropped. -/
theorem exists_append_zeros (digits : List Char) :
    ∃ count, digits = significant digits ++ List.replicate count '0' := by
  induction digits using List.reverseRecOn with
  | nil => exact ⟨0, rfl⟩
  | append_singleton digits last induction =>
      rw [significant, List.rdropWhile_concat]
      split_ifs with zero
      · obtain ⟨count, equal⟩ := induction
        refine ⟨count + 1, ?_⟩
        rw [List.replicate_succ', ← List.append_assoc]
        change digits ++ [last] = significant digits ++ List.replicate count '0' ++ ['0']
        rw [← equal, of_decide_eq_true zero]
      · exact ⟨0, (List.append_nil _).symm⟩

theorem significant_spec {value : Nat} (positive : 0 < value) :
    significant (Nat.toDigits 10 value) ≠ [] ∧
      (significant (Nat.toDigits 10 value)).head? ≠ some '0' ∧
      ∃ count, Nat.toDigits 10 value =
        significant (Nat.toDigits 10 value) ++ List.replicate count '0' := by
  have leading := head?_toDigits_ne_zero positive
  obtain ⟨count, equal⟩ := exists_append_zeros (Nat.toDigits 10 value)
  have nonempty : significant (Nat.toDigits 10 value) ≠ [] := by
    intro none
    rw [none, List.nil_append] at equal
    rw [equal] at leading
    cases count with
    | zero => exact Nat.toDigits_ne_nil equal
    | succ count => exact leading rfl
  refine ⟨nonempty, ?_, count, equal⟩
  rw [equal, List.head?_append_of_ne_nil _ nonempty] at leading
  exact leading

theorem scansFloat_magnitudeText
    {size : Rat} (positive : 0 < size) (binary64 : nearestBinary64 size = .finite size) :
    ScansFloat (magnitudeText size) (shortest size).value := by
  obtain ⟨nonempty, leading, count, equal⟩ :=
    significant_spec (mantissa_shortest_pos positive binary64)
  have isDigits : ∀ char ∈ significant (Nat.toDigits 10 (shortest size).mantissa),
      char.isDigit = true := by
    intro char member
    apply isDigit_of_mem_decimalDigits
    rw [equal]
    exact List.mem_append_left _ member
  have scans := scansFloat_layout nonempty isDigits leading
    ((shortest size).exponent + (Nat.toDigits 10 (shortest size).mantissa).length)
  have length := congrArg List.length equal
  rw [List.length_append, List.length_replicate] at length
  have mantissa : (shortest size).mantissa =
      Nat.ofDigitChars 10 (significant (Nat.toDigits 10 (shortest size).mantissa)) 0 *
        10 ^ count := by
    rw [← ofDigitChars_append_zeros, ← equal, Nat.ofDigitChars_ten_toDigits]
  have scale : (shortest size).exponent + ((Nat.toDigits 10 (shortest size).mantissa).length : Int) -
      ((significant (Nat.toDigits 10 (shortest size).mantissa)).length : Int) =
      (count : Int) + (shortest size).exponent := by
    omega
  rw [scale, powerOfTen_add, powerOfTen_natCast, ← mul_assoc, ← Nat.cast_mul, ← mantissa] at scans
  exact scans

theorem value_shortest_pos {size : Rat} (positive : 0 < size)
    (binary64 : nearestBinary64 size = .finite size) : 0 < (shortest size).value := by
  have mantissa := mantissa_shortest_pos positive binary64
  rw [Decimal.value, powerOfTen_eq]
  exact mul_pos (Nat.cast_pos.2 mantissa) (zpow_pos (by decide) _)

theorem nearestBinary64_neg {value other : Rat} (positive : 0 < value)
    (nearest : nearestBinary64 value = .finite other) :
    nearestBinary64 (-value) = .finite (-other) := by
  have negative : -value < 0 := neg_lt_zero.2 positive
  rw [nearestBinary64, if_neg (ne_of_gt positive)] at nearest
  rw [nearestBinary64, if_neg (ne_of_lt negative)]
  simp only [if_neg (not_lt_of_gt positive)] at nearest
  simp only [if_pos negative, neg_neg]
  split_ifs at nearest ⊢
  rw [PyFloat.finite.inj nearest]

/-- The number is a binary64 number. -/
def Binary64 (value : Rat) : Prop := nearestBinary64 value = .finite value

instance (value : Rat) : Decidable (Binary64 value) :=
  inferInstanceAs (Decidable (_ = _))

theorem binary64_neg {value : Rat} (negative : value < 0) (binary64 : Binary64 value) :
    Binary64 (-value) := by
  have size : -value ≠ 0 := ne_of_gt (neg_pos.2 negative)
  have positive : ¬ -value < 0 := not_lt_of_gt (neg_pos.2 negative)
  rw [Binary64, nearestBinary64, if_neg (ne_of_lt negative)] at binary64
  rw [Binary64, nearestBinary64, if_neg size]
  simp only [if_pos negative] at binary64
  simp only [if_neg positive]
  split_ifs at binary64 ⊢
  rw [PyFloat.finite.injEq] at binary64 ⊢
  exact neg_eq_iff_eq_neg.1 binary64

/-- A text with digits first, or a minus and digits, is read as the scanned number. -/
theorem ScansFloat.readsValue {text : List Char} {value : Rat} (scans : ScansFloat text value) :
    ReadsValue text (.float (nearestBinary64 value)) ∧
      ReadsValue ('-' :: text) (.float (nearestBinary64 (-value))) := by
  obtain ⟨first, others, shape, digit⟩ := scans.head
  constructor
  · intro fuel rest enough delimited
    obtain ⟨fuel, rfl⟩ : ∃ previous, fuel = previous + 1 := by
      refine ⟨fuel - 1, ?_⟩
      rw [shape, List.length_cons] at enough
      omega
    rw [← (scans.scanNumber delimited).1, shape]
    exact parseValue_digit fuel (others ++ rest) digit
  · intro fuel rest enough delimited
    obtain ⟨fuel, rfl⟩ : ∃ previous, fuel = previous + 1 := by
      refine ⟨fuel - 1, ?_⟩
      rw [List.length_cons] at enough
      omega
    rw [← (scans.scanNumber delimited).2, List.cons_append, shape]
    exact parseValue_minus_digit fuel (others ++ rest) digit

/-- The text of a binary64 number is read as that number. -/
theorem ReadsValue.floatstr {value : Rat} (binary64 : Binary64 value) :
    ReadsValue (JsonText.floatstr (.finite value)) (.float (.finite value)) := by
  rw [JsonText.floatstr]
  split_ifs with zero negative
  · subst zero
    have whole : Whole ['0'] := ⟨List.cons_ne_nil _ _, by decide, .inl rfl⟩
    have scans : ScansFloat "0.0".toList 0 :=
      @ScansFloat.ofFraction _ ['0'] _ whole (List.cons_ne_nil _ _) (by decide)
        (by rw [← zero_mul (powerOfTen _)]; rfl)
    exact scans.readsValue.1
  · have positive : 0 < -value := neg_pos.2 negative
    have magnitude := binary64_neg negative binary64
    have reads := (scansFloat_magnitudeText positive magnitude).readsValue.2
    rw [nearestBinary64_neg (value_shortest_pos positive magnitude)
      (readsBack_shortest positive magnitude), neg_neg] at reads
    exact reads
  · have positive : 0 < value := lt_of_le_of_ne (not_lt.1 negative) (Ne.symm zero)
    have reads := (scansFloat_magnitudeText positive binary64).readsValue.1
    rw [readsBack_shortest positive binary64] at reads
    exact reads

end Snapl.Library.JsonText
