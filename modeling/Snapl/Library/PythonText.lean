import Mathlib.Algebra.Group.Nat.Defs
import Mathlib.Data.List.DropRight
import Snapl.Library.Json

/-!
# Python text conversions

`str.isdigit`, `int`, `str` of an integer, `str.strip` and `str.partition`, over lists of
characters.  `isdigit` also accepts digits that `int` refuses, such as
superscripts, and both conversions refuse more than 4300 digits.

`PyText` collects the conversions that depend on the full Unicode tables or on
the shortest decimal text of a floating-point number: `str.lower`, `repr` of a
string, and `str` of floating-point and composite values.  Results stated over
an arbitrary `PyText` hold for every choice of them.
-/

namespace Snapl.Library

/-- An exception of the language or its standard library, by its class. -/
inductive PyError where
  | valueError
  | typeError
  | keyError
deriving DecidableEq

/-- The code points of the decimal digits zero outside ASCII. -/
def foreignZeros : List Nat :=
  [0x660, 0x6f0, 0x7c0, 0x966, 0x9e6, 0xa66, 0xae6, 0xb66, 0xbe6, 0xc66,
    0xce6, 0xd66, 0xde6, 0xe50, 0xed0, 0xf20, 0x1040, 0x1090, 0x17e0,
    0x1810, 0x1946, 0x19d0, 0x1a80, 0x1a90, 0x1b50, 0x1bb0, 0x1c40, 0x1c50,
    0xa620, 0xa8d0, 0xa900, 0xa9d0, 0xa9f0, 0xaa50, 0xabf0, 0xff10, 0x104a0,
    0x10d30, 0x11066, 0x110f0, 0x11136, 0x111d0, 0x112f0, 0x11450, 0x114d0,
    0x11650, 0x116c0, 0x11730, 0x118e0, 0x11950, 0x11c50, 0x11d50, 0x11da0,
    0x11f50, 0x16a60, 0x16ac0, 0x16b50, 0x1d7ce, 0x1d7d8, 0x1d7e2, 0x1d7ec,
    0x1d7f6, 0x1e140, 0x1e2f0, 0x1e4f0, 0x1e950, 0x1fbf0]

/-- Digits that are not decimal: superscripts, circled digits and the like. -/
def otherDigits : List (Nat × Nat) :=
  [(0xb2, 0xb3), (0xb9, 0xb9), (0x1369, 0x1371), (0x19da, 0x19da),
    (0x2070, 0x2070), (0x2074, 0x2079), (0x2080, 0x2089), (0x2460, 0x2468),
    (0x2474, 0x247c), (0x2488, 0x2490), (0x24ea, 0x24ea), (0x24f5, 0x24fd),
    (0x24ff, 0x24ff), (0x2776, 0x277e), (0x2780, 0x2788), (0x278a, 0x2792),
    (0x10a40, 0x10a43), (0x10e60, 0x10e68), (0x11052, 0x1105a),
    (0x1f100, 0x1f10a)]

/-- The code points `str.strip` takes off. -/
def whitespace : List (Nat × Nat) :=
  [(0x9, 0xd), (0x1c, 0x20), (0x85, 0x85), (0xa0, 0xa0), (0x1680, 0x1680),
    (0x2000, 0x200a), (0x2028, 0x2029), (0x202f, 0x202f), (0x205f, 0x205f),
    (0x3000, 0x3000)]

/-- The character test behind `str.strip`. -/
def isWhitespace (char : Char) : Bool :=
  whitespace.any fun range => range.1 ≤ char.toNat && char.toNat ≤ range.2

/-- `str.strip`. -/
def strip (chars : List Char) : List Char :=
  (chars.dropWhile isWhitespace).rdropWhile isWhitespace

/-- The value of a decimal digit. -/
def decimalValue? (char : Char) : Option Nat :=
  ((0x30 :: foreignZeros).find? fun start =>
      start ≤ char.toNat && char.toNat < start + 10).map
    fun start => char.toNat - start

/-- A decimal digit of any script. -/
def isDecimal (char : Char) : Bool := (decimalValue? char).isSome

/-- The character test behind `str.isdigit`. -/
def isDigitChar (char : Char) : Bool :=
  (decimalValue? char).isSome ||
    otherDigits.any fun range =>
      range.1 ≤ char.toNat && char.toNat ≤ range.2

/-- `str.isdigit`: non-empty, and digits only. -/
def isdigit (chars : List Char) : Bool :=
  chars ≠ [] && chars.all isDigitChar

/-- The largest number of digits `int` and `str` convert. -/
def maxDigits : Nat := 4300

/-- `int` of a string of digits. -/
def intOfDigits (chars : List Char) : Except PyError Int :=
  if maxDigits < chars.length then .error .valueError
  else
    match chars.mapM decimalValue? with
    | some digits => .ok (digits.foldl (fun sofar digit => 10 * sofar + digit) 0 : Nat)
    | none => .error .valueError

/-- An integer whose decimal text `int` and `str` convert. -/
def Convertible (value : Int) : Prop := value.natAbs < 10 ^ maxDigits

instance (value : Int) : Decidable (Convertible value) :=
  inferInstanceAs (Decidable (_ < _))

theorem convertible_zero : Convertible 0 := Nat.pow_pos (by decide)

/-- The decimal text of an integer. -/
def decimalText (value : Int) : List Char :=
  if value < 0 then '-' :: Nat.toDigits 10 value.natAbs
  else Nat.toDigits 10 value.natAbs

/-- `str` of an integer. -/
def strOfInt (value : Int) : Except PyError (List Char) :=
  if Convertible value then .ok (decimalText value) else .error .valueError

theorem strOfInt_eq_ok_iff (value : Int) (digits : List Char) :
    strOfInt value = .ok digits ↔
      Convertible value ∧ digits = decimalText value := by
  rw [strOfInt]
  split_ifs with convertible
  · rw [Except.ok.injEq]
    constructor
    · rintro rfl
      exact ⟨convertible, rfl⟩
    · rintro ⟨-, rfl⟩
      rfl
  · constructor
    · intro equal
      cases equal
    · rintro ⟨holds, -⟩
      exact absurd holds convertible

theorem strOfInt_of_convertible {value : Int} (convertible : Convertible value) :
    strOfInt value = .ok (decimalText value) :=
  (strOfInt_eq_ok_iff value _).2 ⟨convertible, rfl⟩

/-- The conversions that depend on tables outside this development. -/
structure PyText where
  lower : String → String
  reprStr : String → String
  strOfOther : Json → Except PyError String

/-- `str` of a decoded value. -/
def PyText.str (text : PyText) : Json → Except PyError String
  | .null => .ok "None"
  | .bool value => .ok (if value then "True" else "False")
  | .int value => (strOfInt value).map String.ofList
  | .str value => .ok value
  | value => text.strOfOther value

/-- The conversions of ASCII strings without quotes or backslashes. -/
def PyText.ascii : PyText where
  lower := String.toLower
  reprStr value := "'" ++ value ++ "'"
  strOfOther _ := .ok ""

@[simp]
theorem PyText.str_str (text : PyText) (value : String) :
    text.str (.str value) = .ok value := rfl

/-- An ASCII digit has its usual value. -/
theorem decimalValue?_of_isDigit
    {char : Char} (digit : char.isDigit = true) :
    decimalValue? char = some (char.toNat - '0'.toNat) := by
  simp only [Char.isDigit, Bool.and_eq_true, decide_eq_true_eq] at digit
  have low : 0x30 ≤ char.toNat := by
    exact UInt32.le_iff_toNat_le.1 digit.1
  have high : char.toNat ≤ 57 := by
    exact UInt32.le_iff_toNat_le.1 digit.2
  have found :
      (decide (0x30 ≤ char.toNat) && decide (char.toNat < 0x30 + 10)) = true := by
    simp only [Bool.and_eq_true, decide_eq_true_eq]
    omega
  have first :
      (0x30 :: foreignZeros).find? (fun start =>
        decide (start ≤ char.toNat) && decide (char.toNat < start + 10)) =
        some 0x30 := by
    rw [List.find?_cons]
    simp only [found]
  rw [decimalValue?, first]
  rfl

theorem isDigitChar_of_isDigit
    {char : Char} (digit : char.isDigit = true) :
    isDigitChar char = true := by
  simp [isDigitChar, decimalValue?_of_isDigit digit]

theorem isDigit_of_mem_decimalDigits
    {value : Nat} {char : Char} (member : char ∈ Nat.toDigits 10 value) :
    char.isDigit = true :=
  Nat.isDigit_of_mem_toDigits (by decide) (by decide) member

/-- The decimal digits of a natural number pass `str.isdigit`. -/
theorem isdigit_toDigits (value : Nat) :
    isdigit (Nat.toDigits 10 value) = true := by
  simp only [isdigit, Bool.and_eq_true, decide_eq_true_eq, List.all_eq_true]
  exact ⟨Nat.toDigits_ne_nil, fun char member =>
    isDigitChar_of_isDigit (isDigit_of_mem_decimalDigits member)⟩

theorem mapM_decimalValue?_of_isDigit
    {chars : List Char} (digits : ∀ char ∈ chars, char.isDigit = true) :
    chars.mapM decimalValue? =
      some (chars.map fun char => char.toNat - '0'.toNat) := by
  induction chars with
  | nil => rfl
  | cons char rest induction =>
      have head := decimalValue?_of_isDigit (digits char (by simp))
      have tail := induction fun other member => digits other (by simp [member])
      simp [head, tail]

/-- `int` reads back the decimal digits of a natural number. -/
theorem intOfDigits_toDigits
    {value : Nat} (convertible : Convertible value) :
    intOfDigits (Nat.toDigits 10 value) = .ok value := by
  have short : ¬ maxDigits < (Nat.toDigits 10 value).length := by
    have bound :=
      (Nat.length_toDigits_le_iff (b := 10) (n := value) (k := maxDigits)
        (by decide) (by decide)).2 (by simpa [Convertible] using convertible)
    omega
  have digits : ∀ char ∈ Nat.toDigits 10 value, char.isDigit = true :=
    fun _ member => isDigit_of_mem_decimalDigits member
  have read := mapM_decimalValue?_of_isDigit digits
  have valueOf := Nat.ofDigitChars_ten_toDigits (n := value)
  rw [Nat.ofDigitChars_eq_foldl] at valueOf
  rw [intOfDigits, if_neg short, read]
  simp only [List.foldl_map]
  rw [valueOf]

theorem strip_append
    {before core after : List Char} (blankBefore : ∀ char ∈ before, isWhitespace char = true)
    (blankAfter : ∀ char ∈ after, isWhitespace char = true)
    (head : ∀ char ∈ core.head?, isWhitespace char = false)
    (last : ∀ char ∈ core.getLast?, isWhitespace char = false) (present : core ≠ []) :
    strip (before ++ (core ++ after)) = core := by
  have front : (core ++ after).dropWhile isWhitespace = core ++ after := by
    obtain ⟨first, rest, rfl⟩ := List.exists_cons_of_ne_nil present
    rw [List.cons_append, List.dropWhile_cons_of_neg]
    rw [head first rfl]
    exact Bool.false_ne_true
  rw [strip, List.dropWhile_append_of_pos blankBefore, front]
  clear front
  induction after using List.reverseRecOn with
  | nil =>
      rw [List.append_nil, List.rdropWhile_eq_self_iff]
      intro nonempty
      rw [last _ (List.getLast?_eq_getLast_of_ne_nil nonempty)]
      exact Bool.false_ne_true
  | append_singleton after blank induction =>
      have ends := blankAfter blank (List.mem_append_right _ (List.mem_singleton_self blank))
      rw [← List.append_assoc, List.rdropWhile_concat_pos _ _ _ ends]
      apply induction
      intro char member
      exact blankAfter char (List.mem_append_left _ member)

/-- Stripping takes blanks off both ends. -/
theorem strip_cases (chars : List Char) :
    ∃ before after, (∀ char ∈ before ++ after, isWhitespace char = true) ∧
      chars = before ++ (strip chars ++ after) := by
  refine ⟨chars.takeWhile isWhitespace,
    (chars.dropWhile isWhitespace).rtakeWhile isWhitespace, ?_, ?_⟩
  · intro char member
    rcases List.mem_append.1 member with before | after
    · exact List.mem_takeWhile_imp before
    · exact List.mem_rtakeWhile_imp after
  · rw [strip, List.rdropWhile_append_rtakeWhile, List.takeWhile_append_dropWhile]

/-- No digit is a blank. -/
theorem isWhitespace_of_isDecimal {char : Char} (digit : isDecimal char = true) :
    isWhitespace char = false := by
  have apart : ∀ start ∈ 0x30 :: foreignZeros, ∀ range ∈ whitespace,
      range.2 < start ∨ start + 10 ≤ range.1 := by
    decide
  rw [isDecimal, decimalValue?, Option.isSome_map, List.find?_isSome] at digit
  obtain ⟨start, listed, inside⟩ := digit
  rw [Bool.and_eq_true, decide_eq_true_eq, decide_eq_true_eq] at inside
  rw [isWhitespace, List.any_eq_false]
  intro range member blank
  rw [Bool.and_eq_true, decide_eq_true_eq, decide_eq_true_eq] at blank
  rcases apart start listed range member with below | above
  · omega
  · omega

/-- The text before the first separator. -/
def partitionHead (separator : Char) (chars : List Char) : List Char :=
  chars.takeWhile (· ≠ separator)

/-- The text after the first separator, empty when there is none. -/
def partitionTail (separator : Char) (chars : List Char) : List Char :=
  (chars.dropWhile (· ≠ separator)).tail

theorem partitionHead_append
    {separator : Char} {head : List Char} (rest : List Char)
    (absent : separator ∉ head) :
    partitionHead separator (head ++ separator :: rest) = head := by
  have all : ∀ char ∈ head, decide (char ≠ separator) = true := by
    intro char member
    rw [decide_eq_true_eq]
    rintro rfl
    exact absent member
  rw [partitionHead, List.takeWhile_append_of_pos all]
  simp

theorem partitionTail_append
    {separator : Char} {head : List Char} (rest : List Char)
    (absent : separator ∉ head) :
    partitionTail separator (head ++ separator :: rest) = rest := by
  have all : ∀ char ∈ head, decide (char ≠ separator) = true := by
    intro char member
    rw [decide_eq_true_eq]
    rintro rfl
    exact absent member
  rw [partitionTail, List.dropWhile_append_of_pos all]
  simp

end Snapl.Library
