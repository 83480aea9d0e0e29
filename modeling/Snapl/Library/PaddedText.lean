import Mathlib.Algebra.GroupWithZero.Nat
import Mathlib.Data.List.Basic

/-!
# Decimal texts of a fixed width

A number written with leading zeros to a fixed number of digits is read back,
and texts of one width are in the order of their numbers.  A row of such texts
with separators between them is ordered like a number of mixed radix.
-/

namespace Snapl.Library

/-- The last `width` decimal digits of a number. -/
def padded : Nat → Nat → List Char
  | 0, _ => []
  | width + 1, value => padded width (value / 10) ++ [Nat.digitChar (value % 10)]

@[simp]
theorem length_padded (width value : Nat) : (padded width value).length = width := by
  induction width generalizing value with
  | zero => rfl
  | succ width induction => rw [padded, List.length_append, induction, List.length_singleton]

theorem digitChar_isDigit {digit : Nat} (small : digit < 10) :
    (Nat.digitChar digit).isDigit = true := by
  rw [Nat.isDigit_digitChar, decide_eq_true small]

theorem isDigit_of_mem_padded {width value : Nat} {char : Char}
    (member : char ∈ padded width value) : char.isDigit = true := by
  induction width generalizing value with
  | zero => cases member
  | succ width induction =>
      rw [padded, List.mem_append, List.mem_singleton] at member
      rcases member with member | rfl
      · exact induction member
      · exact digitChar_isDigit (Nat.mod_lt _ (by decide))

theorem ofDigitChars_padded (width value : Nat) :
    Nat.ofDigitChars 10 (padded width value) 0 = value % 10 ^ width := by
  induction width generalizing value with
  | zero => rw [padded, Nat.ofDigitChars_nil, Nat.pow_zero, Nat.mod_one]
  | succ width induction =>
      rw [padded, Nat.ofDigitChars_append, induction,
        Nat.ofDigitChars_cons_digitChar_of_lt_ten (Nat.mod_lt _ (by decide)),
        Nat.ofDigitChars_nil, Nat.pow_succ', Nat.mod_mul, Nat.add_comm]

/-- Read a number of a fixed width. -/
def readDigits (width : Nat) (chars : List Char) : Option (Nat × List Char) :=
  if (chars.take width).length = width ∧ (chars.take width).all Char.isDigit then
    some (Nat.ofDigitChars 10 (chars.take width) 0, chars.drop width)
  else none

/-- A padded number is read back. -/
theorem readDigits_padded {width value : Nat} (fits : value < 10 ^ width) (rest : List Char) :
    readDigits width (padded width value ++ rest) = some (value, rest) := by
  have taken : (padded width value ++ rest).take width = padded width value :=
    List.take_left' (length_padded width value)
  have dropped : (padded width value ++ rest).drop width = rest :=
    List.drop_left' (length_padded width value)
  have digits : (padded width value).all Char.isDigit = true := by
    rw [List.all_eq_true]
    intro char member
    exact isDigit_of_mem_padded member
  rw [readDigits, taken, dropped, if_pos ⟨length_padded width value, digits⟩,
    ofDigitChars_padded, Nat.mod_eq_of_lt fits]

/-- Read one character that must be there. -/
def readChar (expected : Char) : List Char → Option (List Char)
  | [] => none
  | char :: rest => if char = expected then some rest else none

@[simp]
theorem readChar_cons (char : Char) (rest : List Char) :
    readChar char (char :: rest) = some rest :=
  if_pos rfl

/-- Texts of one length that compare as two numbers do. -/
structure Comparable (text other : List Char) (value otherValue : Nat) : Prop where
  length : text.length = other.length
  lt : text < other ↔ value < otherValue
  eq : text = other ↔ value = otherValue

/-- Texts with heads of one length compare by their heads first. -/
theorem append_lt_append_iff
    {head otherHead : List Char} (length : head.length = otherHead.length)
    (rest otherRest : List Char) :
    head ++ rest < otherHead ++ otherRest ↔
      head < otherHead ∨ head = otherHead ∧ rest < otherRest := by
  induction head generalizing otherHead with
  | nil =>
      cases otherHead with
      | nil => simp
      | cons char chars => cases length
  | cons char chars induction =>
      cases otherHead with
      | nil => cases length
      | cons otherChar otherChars =>
          rw [List.cons_append, List.cons_append, List.cons_lt_cons_iff, List.cons_lt_cons_iff,
            induction (Nat.succ.inj length), List.cons.injEq]
          tauto

theorem Comparable.refl (text : List Char) : Comparable text text 0 0 where
  length := rfl
  lt := ⟨fun less => absurd less (List.lt_irrefl text), fun less => absurd less (by decide)⟩
  eq := ⟨fun _ => rfl, fun _ => rfl⟩

/-- Behind a first text a second one gives the lower digits. -/
theorem Comparable.append
    {text other rest otherRest : List Char} {value otherValue low otherLow radix : Nat}
    (first : Comparable text other value otherValue)
    (second : Comparable rest otherRest low otherLow)
    (small : low < radix) (otherSmall : otherLow < radix) :
    Comparable (text ++ rest) (other ++ otherRest)
      (value * radix + low) (otherValue * radix + otherLow) := by
  have order : value < otherValue → value * radix + low < otherValue * radix + otherLow := by
    intro less
    have step : (value + 1) * radix ≤ otherValue * radix := Nat.mul_le_mul_right radix less
    rw [Nat.succ_mul] at step
    omega
  have reverse : otherValue < value → otherValue * radix + otherLow < value * radix + low := by
    intro less
    have step : (otherValue + 1) * radix ≤ value * radix := Nat.mul_le_mul_right radix less
    rw [Nat.succ_mul] at step
    omega
  refine ⟨?_, ?_, ?_⟩
  · rw [List.length_append, List.length_append, first.length, second.length]
  · rw [append_lt_append_iff first.length, first.lt, first.eq, second.lt]
    rcases Nat.lt_trichotomy value otherValue with less | same | more
    · have := order less
      omega
    · subst same
      omega
    · have := reverse more
      omega
  · have parts : text ++ rest = other ++ otherRest ↔ text = other ∧ rest = otherRest := by
      constructor
      · intro same
        exact List.append_inj same first.length
      · rintro ⟨rfl, rfl⟩
        rfl
    rw [parts, first.eq, second.eq]
    rcases Nat.lt_trichotomy value otherValue with less | same | more
    · have := order less
      omega
    · subst same
      omega
    · have := reverse more
      omega

/-- A separator both texts have changes nothing. -/
theorem Comparable.separated
    {text other : List Char} {value otherValue : Nat}
    (comparable : Comparable text other value otherValue) (separator : List Char) :
    Comparable (text ++ separator) (other ++ separator) value otherValue := by
  have joined := comparable.append (Comparable.refl separator) Nat.zero_lt_one Nat.zero_lt_one
  simpa using joined

theorem comparable_digitChar {digit other : Nat} (small : digit < 10) (otherSmall : other < 10) :
    Comparable [Nat.digitChar digit] [Nat.digitChar other] digit other := by
  have toNat := Nat.toNat_digitChar_of_lt_ten small
  have otherToNat := Nat.toNat_digitChar_of_lt_ten otherSmall
  have charLt : Nat.digitChar digit < Nat.digitChar other ↔ digit < other := by
    rw [Char.lt_def, UInt32.lt_iff_toNat_lt]
    change (Nat.digitChar digit).toNat < (Nat.digitChar other).toNat ↔ _
    omega
  refine ⟨rfl, ?_, ?_⟩
  · rw [List.cons_lt_cons_iff, charLt]
    simp
  · rw [List.singleton_inj]
    constructor
    · intro same
      rw [same] at toNat
      omega
    · rintro rfl
      rfl

/-- Padded numbers are in the order of the numbers. -/
theorem comparable_padded
    {width value other : Nat} (fits : value < 10 ^ width) (otherFits : other < 10 ^ width) :
    Comparable (padded width value) (padded width other) value other := by
  induction width generalizing value other with
  | zero =>
      rw [Nat.pow_zero, Nat.lt_one_iff] at fits otherFits
      rw [fits, otherFits]
      exact Comparable.refl _
  | succ width induction =>
      rw [Nat.pow_succ] at fits otherFits
      have higher := induction (Nat.div_lt_of_lt_mul (by rwa [Nat.mul_comm] at fits))
        (Nat.div_lt_of_lt_mul (by rwa [Nat.mul_comm] at otherFits))
      have joined := higher.append
        (comparable_digitChar (Nat.mod_lt value (by decide)) (Nat.mod_lt other (by decide)))
        (Nat.mod_lt value (by decide)) (Nat.mod_lt other (by decide))
      rw [Nat.div_add_mod', Nat.div_add_mod'] at joined
      exact joined

end Snapl.Library
