import Mathlib.Tactic.IntervalCases
import Snapl.Library.PythonText

/-!
# Reading JSON text

An executable reader for the JSON texts a Python decoder accepts: strict
strings with every escape, unbounded integers, floating-point literals
rounded to binary64, the three named constants, and dictionaries in which a
repeated key keeps its place and takes its last value.

The reader is proved complete by judgements.  `ReadsValue text value` says
that `text`, followed by anything that does not continue a number, is read as
`value`; `ReadsItems` and `ReadsMembers` say the same of the remainder of a
list or a dictionary.  Their rules follow the grammar, so that a text
assembled from pieces is read by assembling the rules.
-/

namespace Snapl.Library.JsonText

/-! ## White space and digits -/

/-- The four white-space characters of the grammar. -/
def isSpace (char : Char) : Bool :=
  char = ' ' || char = '\t' || char = '\n' || char = '\r'

/-- Drop leading white space. -/
def skipSpace (chars : List Char) : List Char := chars.dropWhile isSpace

/-- The value of a hexadecimal digit. -/
def hexValue? (char : Char) : Option Nat :=
  if '0' ≤ char ∧ char ≤ '9' then some (char.toNat - 48)
  else if 'a' ≤ char ∧ char ≤ 'f' then some (char.toNat - 87)
  else if 'A' ≤ char ∧ char ≤ 'F' then some (char.toNat - 55)
  else none

/-- The code unit four hexadecimal digits denote. -/
def codeUnit? (first second third fourth : Char) : Option Nat :=
  match hexValue? first, hexValue? second, hexValue? third, hexValue? fourth with
  | some a, some b, some c, some d => some (((a * 16 + b) * 16 + c) * 16 + d)
  | _, _, _, _ => none

/-- A leading surrogate. -/
def isHigh (unit : Nat) : Bool := 0xd800 ≤ unit && unit ≤ 0xdbff

/-- A trailing surrogate. -/
def isLow (unit : Nat) : Bool := 0xdc00 ≤ unit && unit ≤ 0xdfff

/--
The character of a code unit.  A lone surrogate, which a decoded string can
hold but a text cannot, is read as the replacement character.
-/
def charOfUnit (unit : Nat) : Char :=
  if isHigh unit || isLow unit then '\uFFFD' else Char.ofNat unit

/-- The character of a surrogate pair. -/
def charOfPair (high low : Nat) : Char :=
  Char.ofNat (0x10000 + (high - 0xd800) * 1024 + (low - 0xdc00))

/-- The characters of the two-character escapes. -/
def simpleEscape? (char : Char) : Option Char :=
  if char = '"' then some '"'
  else if char = '\\' then some '\\'
  else if char = '/' then some '/'
  else if char = 'b' then some '\x08'
  else if char = 'f' then some '\x0c'
  else if char = 'n' then some '\n'
  else if char = 'r' then some '\r'
  else if char = 't' then some '\t'
  else none

/-! ## Strings and numbers -/

/-- Put a decoded character before the remainder of a string. -/
def prepend (char : Char) :
    Option (List Char × List Char) → Option (List Char × List Char) :=
  Option.map fun read => (char :: read.1, read.2)

/--
Read the remainder of a string after its opening quote: its characters, and
the text after its closing quote.
-/
def scanString : List Char → Option (List Char × List Char)
  | [] => none
  | char :: rest =>
      if char = '"' then some ([], rest)
      else if char = '\\' then
        match rest with
        | [] => none
        | escape :: rest =>
            if escape = 'u' then
              match rest with
              | a :: b :: c :: d :: rest =>
                  match codeUnit? a b c d with
                  | none => none
                  | some unit =>
                      match rest with
                      | slash :: marker :: e :: f :: g :: h :: after =>
                          if isHigh unit ∧ slash = '\\' ∧ marker = 'u' ∧
                              ((codeUnit? e f g h).any isLow) = true then
                            prepend
                              (charOfPair unit ((codeUnit? e f g h).getD 0))
                              (scanString after)
                          else
                            prepend (charOfUnit unit)
                              (scanString
                                (slash :: marker :: e :: f :: g :: h :: after))
                      | rest => prepend (charOfUnit unit) (scanString rest)
              | _ => none
            else
              match simpleEscape? escape with
              | some decoded => prepend decoded (scanString rest)
              | none => none
      else if char.toNat < 0x20 then none
      else prepend char (scanString rest)

/-- Two to an integer power. -/
def powerOfTwo (exponent : Int) : Rat :=
  if 0 ≤ exponent then (2 ^ exponent.toNat : Nat)
  else 1 / (2 ^ (-exponent).toNat : Nat)

/-- The greatest exponent whose power of two does not exceed a positive number. -/
def floorLog2 (value : Rat) : Int :=
  let guess := (Nat.log2 value.num.natAbs : Int) - Nat.log2 value.den
  if powerOfTwo guess ≤ value then guess else guess - 1

/-- Rounding to the nearest natural number, ties to even. -/
def roundHalfEven (value : Rat) : Nat :=
  let low := value.floor.toNat
  let rest := value - low
  if rest < 1 / 2 then low
  else if 1 / 2 < rest then low + 1
  else if low % 2 = 0 then low else low + 1

/-- The binary64 number nearest to a rational number. -/
def nearestBinary64 (value : Rat) : PyFloat :=
  if value = 0 then .finite 0
  else
    let size := if value < 0 then -value else value
    let exponent := max (floorLog2 size - 52) (-1074)
    let rounded :=
      (roundHalfEven (size / powerOfTwo exponent) : Rat) * powerOfTwo exponent
    if powerOfTwo 1024 ≤ rounded then .infinite (value < 0)
    else .finite (if value < 0 then -rounded else rounded)

/-- The digits of an integer part: a single zero, or a run not starting with one. -/
def scanInteger : List Char → List Char × List Char
  | '0' :: rest => (['0'], rest)
  | chars => (chars.takeWhile Char.isDigit, chars.dropWhile Char.isDigit)

/-- The digits of an optional fraction part. -/
def scanFraction (chars : List Char) : List Char × List Char :=
  match chars with
  | '.' :: rest =>
      if rest.takeWhile Char.isDigit = [] then ([], chars)
      else (rest.takeWhile Char.isDigit, rest.dropWhile Char.isDigit)
  | _ => ([], chars)

/-- An optional exponent part, after its letter. -/
def scanSignedDigits (chars : List Char) : Option (Int × List Char) :=
  let read := fun (negative : Bool) (rest : List Char) =>
    if rest.takeWhile Char.isDigit = [] then none
    else
      let magnitude : Int := Nat.ofDigitChars 10 (rest.takeWhile Char.isDigit) 0
      some (if negative then -magnitude else magnitude,
        rest.dropWhile Char.isDigit)
  match chars with
  | '-' :: rest => read true rest
  | '+' :: rest => read false rest
  | rest => read false rest

/-- An optional exponent part. -/
def scanExponent (chars : List Char) : Option Int × List Char :=
  match chars with
  | letter :: rest =>
      if letter = 'e' ∨ letter = 'E' then
        match scanSignedDigits rest with
        | some (value, after) => (some value, after)
        | none => (none, chars)
      else (none, chars)
  | [] => (none, chars)

/-- The value of a number from its parts. -/
def numberOfParts
    (negative : Bool) (digits fraction : List Char) (exponent : Option Int) :
    Option Json :=
  let magnitude := Nat.ofDigitChars 10 digits 0
  if fraction = [] ∧ exponent = none then
    if maxDigits < digits.length then none
    else some (.int (if negative then -magnitude else magnitude))
  else
    let scale : Int := exponent.getD 0 - fraction.length
    let mantissa : Rat := (Nat.ofDigitChars 10 (digits ++ fraction) 0 : Nat)
    let value :=
      if 0 ≤ scale then mantissa * (10 ^ scale.toNat : Nat)
      else mantissa / (10 ^ (-scale).toNat : Nat)
    some (.float (nearestBinary64 (if negative then -value else value)))

/-- Read a number. -/
def scanNumber (chars : List Char) : Option (Json × List Char) :=
  let negative := chars.head? = some '-'
  let body := if negative then chars.tail else chars
  let integer := scanInteger body
  if integer.1 = [] then none
  else
    let fraction := scanFraction integer.2
    let exponent := scanExponent fraction.2
    (numberOfParts negative integer.1 fraction.1 exponent.1).map
      fun value => (value, exponent.2)

/-! ## Values -/

mutual

/-- Read a value that starts at the head of the text. -/
def parseValue : Nat → List Char → Option (Json × List Char)
  | 0, _ => none
  | fuel + 1, chars =>
      match chars with
      | '"' :: rest =>
          (scanString rest).map fun read => (.str (String.ofList read.1), read.2)
      | '{' :: rest =>
          match skipSpace rest with
          | '}' :: after => some (.obj [], after)
          | '"' :: after => parseMember fuel [] after
          | _ => none
      | '[' :: rest =>
          match skipSpace rest with
          | ']' :: after => some (.arr [], after)
          | items => parseItem fuel [] items
      | 'n' :: 'u' :: 'l' :: 'l' :: rest => some (.null, rest)
      | 't' :: 'r' :: 'u' :: 'e' :: rest => some (.bool true, rest)
      | 'f' :: 'a' :: 'l' :: 's' :: 'e' :: rest => some (.bool false, rest)
      | 'N' :: 'a' :: 'N' :: rest => some (.float .nan, rest)
      | 'I' :: 'n' :: 'f' :: 'i' :: 'n' :: 'i' :: 't' :: 'y' :: rest =>
          some (.float (.infinite false), rest)
      | '-' :: 'I' :: 'n' :: 'f' :: 'i' :: 'n' :: 'i' :: 't' :: 'y' :: rest =>
          some (.float (.infinite true), rest)
      | chars => scanNumber chars

/-- Read a list item and what follows it. -/
def parseItem :
    Nat → List Json → List Char → Option (Json × List Char)
  | 0, _, _ => none
  | fuel + 1, items, chars =>
      match parseValue fuel chars with
      | some (item, rest) => itemTail fuel (items ++ [item]) rest
      | none => none

/-- Read what follows a list item: the end of the list, or another item. -/
def itemTail :
    Nat → List Json → List Char → Option (Json × List Char)
  | 0, _, _ => none
  | fuel + 1, items, chars =>
      match skipSpace chars with
      | ']' :: after => some (.arr items, after)
      | ',' :: after => parseItem fuel items (skipSpace after)
      | _ => none

/-- Read a member after the opening quote of its key, and what follows it. -/
def parseMember :
    Nat → List (String × Json) → List Char → Option (Json × List Char)
  | 0, _, _ => none
  | fuel + 1, fields, chars =>
      match scanString chars with
      | some (name, rest) =>
          match skipSpace rest with
          | ':' :: rest =>
              match parseValue fuel (skipSpace rest) with
              | some (value, rest) =>
                  memberTail fuel
                    (assign fields (String.ofList name) value) rest
              | none => none
          | _ => none
      | none => none

/-- Read what follows a member: the end of the dictionary, or another member. -/
def memberTail :
    Nat → List (String × Json) → List Char → Option (Json × List Char)
  | 0, _, _ => none
  | fuel + 1, fields, chars =>
      match skipSpace chars with
      | '}' :: after => some (.obj fields, after)
      | ',' :: after =>
          match skipSpace after with
          | '"' :: after => parseMember fuel fields after
          | _ => none
      | _ => none

end

/-- Decode a whole text. -/
def loads (chars : List Char) : Except PyError Json :=
  match parseValue (2 * chars.length) (skipSpace chars) with
  | some (value, rest) =>
      if skipSpace rest = [] then .ok value else .error .valueError
  | none => .error .valueError

/-! ## White space -/

/-- A property of all characters of a text is decided along the text. -/
instance (priority := high) decidableForallChars
    (property : Char → Prop) [DecidablePred property] (text : List Char) :
    Decidable (∀ char ∈ text, property char) :=
  List.decidableBAll property text

/-- A text of white space only. -/
def Blank (chars : List Char) : Prop := ∀ char ∈ chars, isSpace char = true

instance (chars : List Char) : Decidable (Blank chars) :=
  inferInstanceAs (Decidable (∀ char ∈ chars, isSpace char = true))

theorem blank_nil : Blank [] := by
  intro char member
  cases member

theorem blank_space : Blank [' '] := by
  intro char member
  rw [List.mem_singleton.1 member]
  rfl

theorem skipSpace_append
    {space : List Char} (blank : Blank space) (rest : List Char) :
    skipSpace (space ++ rest) = skipSpace rest := by
  rw [skipSpace, skipSpace, List.dropWhile_append_of_pos blank]

theorem skipSpace_cons
    {char : Char} (rest : List Char) (visible : isSpace char = false) :
    skipSpace (char :: rest) = char :: rest := by
  simp [skipSpace, visible]

theorem skipSpace_blank {space : List Char} (blank : Blank space) :
    skipSpace space = [] := by
  simpa [skipSpace] using skipSpace_append blank []

/-! ## String bodies -/

/-- A character a string holds verbatim. -/
def Plain (char : Char) : Prop :=
  char ≠ '"' ∧ char ≠ '\\' ∧ 0x20 ≤ char.toNat

instance (char : Char) : Decidable (Plain char) :=
  inferInstanceAs (Decidable (_ ∧ _ ∧ _))

/-- `body`, inside a string, is read as `decoded`. -/
def ReadsChars (body decoded : List Char) : Prop :=
  ∀ rest, scanString (body ++ rest) =
    (scanString rest).map fun read => (decoded ++ read.1, read.2)

theorem ReadsChars.nil : ReadsChars [] [] := by
  intro rest
  simp

theorem ReadsChars.append
    {first second decodedFirst decodedSecond : List Char}
    (head : ReadsChars first decodedFirst)
    (tail : ReadsChars second decodedSecond) :
    ReadsChars (first ++ second) (decodedFirst ++ decodedSecond) := by
  intro rest
  rw [List.append_assoc, head, tail, Option.map_map]
  simp [Function.comp_def]

theorem ReadsChars.plain {char : Char} (plain : Plain char) :
    ReadsChars [char] [char] := by
  intro rest
  obtain ⟨notQuote, notSlash, printable⟩ := plain
  rw [List.singleton_append, scanString.eq_def]
  simp [notQuote, notSlash, Nat.not_lt.2 printable, prepend]

/-- A text of plain characters is read verbatim. -/
theorem ReadsChars.verbatim
    {chars : List Char} (plain : ∀ char ∈ chars, Plain char) :
    ReadsChars chars chars := by
  induction chars with
  | nil => exact ReadsChars.nil
  | cons char rest induction =>
      exact ReadsChars.append
        (ReadsChars.plain (plain char (by simp)))
        (induction fun other member => plain other (by simp [member]))

theorem ReadsChars.closed
    {body decoded : List Char} (reads : ReadsChars body decoded)
    (rest : List Char) :
    scanString (body ++ '"' :: rest) = some (decoded, rest) := by
  rw [reads, scanString.eq_def]
  simp

/-! ## Numbers -/

/-- The text does not continue a number. -/
def Delimited (chars : List Char) : Prop :=
  ∀ char ∈ chars.head?,
    char.isDigit = false ∧ char ≠ '.' ∧ char ≠ 'e' ∧ char ≠ 'E'

theorem Delimited.nil : Delimited [] := by
  intro char member
  simp at member

theorem Delimited.takeWhile
    {rest : List Char} (delimited : Delimited rest) :
    rest.takeWhile Char.isDigit = [] := by
  cases rest with
  | nil => rfl
  | cons char rest => simp [(delimited char (by simp)).1]

theorem Delimited.dropWhile
    {rest : List Char} (delimited : Delimited rest) :
    rest.dropWhile Char.isDigit = rest := by
  cases rest with
  | nil => rfl
  | cons char rest => simp [(delimited char (by simp)).1]

theorem Delimited.scanFraction
    {rest : List Char} (delimited : Delimited rest) :
    scanFraction rest = ([], rest) := by
  rw [JsonText.scanFraction.eq_def]
  split
  · exact absurd rfl (delimited '.' (by simp)).2.1
  · rfl

theorem Delimited.scanExponent
    {rest : List Char} (delimited : Delimited rest) :
    scanExponent rest = (none, rest) := by
  cases rest with
  | nil => rfl
  | cons char rest =>
      have facts := delimited char (by simp)
      simp [JsonText.scanExponent, facts.2.2.1, facts.2.2.2]

/-- Decimal digits do not start with a zero, except for zero itself. -/
theorem head?_toDigits_ne_zero {value : Nat} (positive : 0 < value) :
    (Nat.toDigits 10 value).head? ≠ some '0' := by
  induction value using Nat.strong_induction_on with
  | h value induction =>
      rcases Nat.lt_or_ge value 10 with small | large
      · rw [Nat.toDigits_of_lt_base small]
        interval_cases value <;> decide
      · have smaller : value / 10 < value := Nat.div_lt_self positive (by decide)
        have tail := induction (value / 10) smaller (by omega)
        rw [Nat.toDigits_of_base_le (by decide) large]
        rcases digits : Nat.toDigits 10 (value / 10) with _ | ⟨first, rest⟩
        · exact absurd digits Nat.toDigits_ne_nil
        · rw [digits] at tail
          simpa using tail

theorem scanInteger_toDigits
    (value : Nat) {rest : List Char} (delimited : Delimited rest) :
    scanInteger (Nat.toDigits 10 value ++ rest) =
      (Nat.toDigits 10 value, rest) := by
  have digits : ∀ char ∈ Nat.toDigits 10 value, char.isDigit = true :=
    fun _ member => isDigit_of_mem_decimalDigits member
  have taken :
      (Nat.toDigits 10 value ++ rest).takeWhile Char.isDigit =
        Nat.toDigits 10 value := by
    rw [List.takeWhile_append_of_pos digits, delimited.takeWhile,
      List.append_nil]
  have dropped :
      (Nat.toDigits 10 value ++ rest).dropWhile Char.isDigit = rest := by
    rw [List.dropWhile_append_of_pos digits, delimited.dropWhile]
  rcases Nat.eq_zero_or_pos value with rfl | positive
  · rfl
  · have notZero := head?_toDigits_ne_zero positive
    rw [scanInteger.eq_def]
    split
    · next after equal =>
      rcases read : Nat.toDigits 10 value with _ | ⟨first, others⟩
      · exact absurd read Nat.toDigits_ne_nil
      · rw [read, List.cons_append, List.cons.injEq] at equal
        rw [read, equal.1] at notZero
        exact absurd rfl notZero
    · rw [taken, dropped]

/-- A digit starts nothing but a number. -/
theorem parseValue_digit
    (fuel : Nat) {char : Char} (rest : List Char)
    (digit : char.isDigit = true) :
    parseValue (fuel + 1) (char :: rest) = scanNumber (char :: rest) := by
  rw [parseValue.eq_def]
  dsimp only
  split
  all_goals first
    | rfl
    | (next equal =>
        rw [List.cons.injEq] at equal
        rw [equal.1] at digit
        exact absurd digit (by decide))

theorem parseValue_minus_digit
    (fuel : Nat) {char : Char} (rest : List Char)
    (digit : char.isDigit = true) :
    parseValue (fuel + 1) ('-' :: char :: rest) =
      scanNumber ('-' :: char :: rest) := by
  rw [parseValue.eq_def]
  dsimp only
  split
  all_goals first
    | rfl
    | (next equal =>
        simp only [List.cons.injEq] at equal
        first
          | exact absurd equal.1 (by decide)
          | (rw [equal.2.1] at digit
             exact absurd digit (by decide)))

theorem numberOfParts_decimal
    (negative : Bool) {value : Nat} (convertible : Convertible value) :
    numberOfParts negative (Nat.toDigits 10 value) [] none =
      some (.int (if negative then -value else value)) := by
  have short : ¬ maxDigits < (Nat.toDigits 10 value).length := by
    have bound :=
      (Nat.length_toDigits_le_iff (b := 10) (n := value) (k := maxDigits)
        (by decide) (by decide)).2 (by simpa [Convertible] using convertible)
    omega
  simp [numberOfParts, short]

/-- The decimal text of an integer is read as that integer. -/
theorem scanNumber_decimalText
    {value : Int} (convertible : Convertible value)
    {rest : List Char} (delimited : Delimited rest) :
    scanNumber (decimalText value ++ rest) = some (.int value, rest) := by
  have magnitude : Convertible (value.natAbs : Int) := by
    exact convertible
  have integer := scanInteger_toDigits value.natAbs delimited
  rcases lt_or_ge value 0 with negative | nonnegative
  · have text : decimalText value ++ rest =
        '-' :: (Nat.toDigits 10 value.natAbs ++ rest) := by
      simp [decimalText, negative]
    have parts := numberOfParts_decimal true magnitude
    have sign : -(value.natAbs : Int) = value := by omega
    rw [text]
    simp only [scanNumber, List.head?_cons, List.tail_cons, decide_true,
      if_true, integer, delimited.scanFraction, delimited.scanExponent, parts,
      Nat.toDigits_ne_nil, if_false, Option.map_some, sign]
  · have text : decimalText value = Nat.toDigits 10 value.natAbs := by
      simp [decimalText, Int.not_lt.2 nonnegative]
    have parts := numberOfParts_decimal false magnitude
    have sign : (value.natAbs : Int) = value := by omega
    have unsigned :
        (Nat.toDigits 10 value.natAbs ++ rest).head? ≠ some '-' := by
      rcases digits : Nat.toDigits 10 value.natAbs with _ | ⟨first, others⟩
      · exact absurd digits Nat.toDigits_ne_nil
      · have digit : first.isDigit = true :=
          isDigit_of_mem_decimalDigits
            (by rw [digits]; exact List.mem_cons_self)
        intro equal
        rw [List.cons_append, List.head?_cons, Option.some.injEq] at equal
        rw [equal] at digit
        exact absurd digit (by decide)
    rw [text]
    simp only [scanNumber, unsigned, decide_false, Bool.false_eq_true,
      if_false, integer, delimited.scanFraction, delimited.scanExponent, parts,
      Nat.toDigits_ne_nil, Option.map_some, sign]

/-! ## Values, list remainders and dictionary remainders -/

/-- `text` is read as `value`, whatever delimiter follows it. -/
def ReadsValue (text : List Char) (value : Json) : Prop :=
  ∀ fuel rest, 2 * text.length ≤ fuel → Delimited rest →
    parseValue fuel (text ++ rest) = some (value, rest)

/-- `text`, after the items so far, is read as the whole list `value`. -/
def ReadsItems (items : List Json) (text : List Char) (value : Json) : Prop :=
  ∀ fuel rest, 2 * text.length ≤ fuel →
    itemTail fuel items (text ++ rest) = some (value, rest)

/-- `text`, after the fields so far, is read as the whole dictionary `value`. -/
def ReadsMembers
    (fields : List (String × Json)) (text : List Char) (value : Json) : Prop :=
  ∀ fuel rest, 2 * text.length ≤ fuel →
    memberTail fuel fields (text ++ rest) = some (value, rest)

/-- A value text starts visibly, and not with a closing bracket. -/
theorem ReadsValue.head
    {text : List Char} {value : Json} (reads : ReadsValue text value) :
    ∃ char rest, text = char :: rest ∧ isSpace char = false ∧ char ≠ ']' := by
  have read := reads (2 * text.length + 1) [] (by omega) Delimited.nil
  rw [List.append_nil] at read
  rcases text with _ | ⟨char, rest⟩
  · simp [parseValue, scanNumber, scanInteger] at read
  · refine ⟨char, rest, rfl, ?_, ?_⟩
    · by_contra space
      simp only [isSpace, Bool.not_eq_false, Bool.or_eq_true,
        decide_eq_true_eq] at space
      rcases space with ((rfl | rfl) | rfl) | rfl <;>
        simp [parseValue, scanNumber, scanInteger] at read
    · rintro rfl
      simp [parseValue, scanNumber, scanInteger] at read

/-- What follows an item or a member does not continue a number. -/
theorem delimited_of_head
    {char : Char} (rest : List Char)
    (head : isSpace char = true ∨ char = ',' ∨ char = ']' ∨ char = '}') :
    Delimited (char :: rest) := by
  intro other member
  rw [List.head?_cons, Option.mem_some_iff] at member
  subst member
  simp only [isSpace, Bool.or_eq_true, decide_eq_true_eq] at head
  rcases head with (((rfl | rfl) | rfl) | rfl) | rfl | rfl | rfl <;> decide

/-- The remainder of a list starts with white space, a comma or a bracket. -/
theorem ReadsItems.delimited
    {items : List Json} {text : List Char} {value : Json}
    (reads : ReadsItems items text value) (rest : List Char) :
    Delimited (text ++ rest) := by
  have read := reads (2 * text.length + 1) [] (by omega)
  rw [List.append_nil] at read
  rcases text with _ | ⟨char, others⟩
  · simp [itemTail, skipSpace] at read
  · rw [List.cons_append]
    apply delimited_of_head
    by_cases space : isSpace char = true
    · exact Or.inl space
    · rw [itemTail, skipSpace_cons _ (by simpa using space)] at read
      split at read
      · next equal =>
        exact Or.inr (Or.inr (Or.inl (List.cons.inj equal).1))
      · next equal =>
        exact Or.inr (Or.inl (List.cons.inj equal).1)
      · simp at read

/-- The remainder of a dictionary starts with white space, a comma or a brace. -/
theorem ReadsMembers.delimited
    {fields : List (String × Json)} {text : List Char} {value : Json}
    (reads : ReadsMembers fields text value) (rest : List Char) :
    Delimited (text ++ rest) := by
  have read := reads (2 * text.length + 1) [] (by omega)
  rw [List.append_nil] at read
  rcases text with _ | ⟨char, others⟩
  · simp [memberTail, skipSpace] at read
  · rw [List.cons_append]
    apply delimited_of_head
    by_cases space : isSpace char = true
    · exact Or.inl space
    · rw [memberTail, skipSpace_cons _ (by simpa using space)] at read
      split at read
      · next equal =>
        exact Or.inr (Or.inr (Or.inr (List.cons.inj equal).1))
      · next equal =>
        exact Or.inr (Or.inl (List.cons.inj equal).1)
      · simp at read

/-! ## Equations of the openings -/

theorem itemTail_comma
    {fuel : Nat} {items : List Json} {chars rest : List Char}
    (skipped : skipSpace chars = ',' :: rest) :
    itemTail (fuel + 1) items chars = parseItem fuel items (skipSpace rest) := by
  rw [itemTail, skipped]
  rfl

theorem parseValue_openList
    {fuel : Nat} {chars rest : List Char} {char : Char}
    (skipped : skipSpace chars = char :: rest) (notClose : char ≠ ']') :
    parseValue (fuel + 1) ('[' :: chars) = parseItem fuel [] (char :: rest) := by
  simp only [parseValue, skipped]
  split
  · next equal =>
    rw [List.cons.injEq] at equal
    exact absurd equal.1 notClose
  · rfl

theorem parseValue_openDictionary
    {fuel : Nat} {chars rest : List Char}
    (skipped : skipSpace chars = '"' :: rest) :
    parseValue (fuel + 1) ('{' :: chars) = parseMember fuel [] rest := by
  simp only [parseValue, skipped]

theorem memberTail_comma
    {fuel : Nat} {fields : List (String × Json)} {chars middle rest : List Char}
    (skipped : skipSpace chars = ',' :: middle)
    (skippedAgain : skipSpace middle = '"' :: rest) :
    memberTail (fuel + 1) fields chars = parseMember fuel fields rest := by
  rw [memberTail, skipped]
  show (match skipSpace middle with
    | '"' :: after => parseMember fuel fields after
    | _ => none) = _
  rw [skippedAgain]
  rfl

/-! ## Rules -/

theorem ReadsValue.string
    {body decoded : List Char} (reads : ReadsChars body decoded) :
    ReadsValue ('"' :: (body ++ ['"'])) (.str (String.ofList decoded)) := by
  intro fuel rest enough _
  obtain ⟨fuel, rfl⟩ : ∃ previous, fuel = previous + 1 :=
    ⟨fuel - 1, by simp only [List.length_cons] at enough; omega⟩
  have closed := reads.closed rest
  simp only [List.cons_append, List.append_assoc, List.nil_append, parseValue]
  rw [closed]
  rfl

theorem ReadsValue.integer
    {value : Int} (convertible : Convertible value) :
    ReadsValue (decimalText value) (.int value) := by
  intro fuel rest enough delimited
  have read := scanNumber_decimalText convertible delimited
  rcases digits : Nat.toDigits 10 value.natAbs with _ | ⟨first, others⟩
  · exact absurd digits Nat.toDigits_ne_nil
  · have digit : first.isDigit = true :=
      isDigit_of_mem_decimalDigits (by rw [digits]; exact List.mem_cons_self)
    obtain ⟨fuel, rfl⟩ : ∃ previous, fuel = previous + 1 := by
      refine ⟨fuel - 1, ?_⟩
      have nonempty : 0 < (decimalText value).length := by
        rw [decimalText]
        split_ifs <;> simp [digits]
      omega
    rw [← read]
    rw [decimalText, digits]
    split_ifs
    · exact parseValue_minus_digit fuel (others ++ rest) digit
    · exact parseValue_digit fuel (others ++ rest) digit

theorem ReadsItems.close
    {items : List Json} {space : List Char} (blank : Blank space) :
    ReadsItems items (space ++ [']']) (.arr items) := by
  intro fuel rest enough
  obtain ⟨fuel, rfl⟩ : ∃ previous, fuel = previous + 1 :=
    ⟨fuel - 1, by simp only [List.length_append, List.length_singleton] at enough; omega⟩
  rw [itemTail, List.append_assoc, skipSpace_append blank,
    List.singleton_append, skipSpace_cons rest (by decide)]
  rfl

theorem ReadsItems.next
    {items : List Json} {before after text remainder : List Char}
    {item value : Json}
    (blankBefore : Blank before) (blankAfter : Blank after)
    (readsItem : ReadsValue text item)
    (readsRest : ReadsItems (items ++ [item]) remainder value) :
    ReadsItems items (before ++ ',' :: (after ++ (text ++ remainder))) value := by
  intro fuel rest enough
  simp only [List.length_append, List.length_cons] at enough
  obtain ⟨fuel, rfl⟩ : ∃ previous, fuel = previous + 2 :=
    ⟨fuel - 2, by omega⟩
  obtain ⟨char, others, shape, visible, -⟩ := readsItem.head
  have item := readsItem fuel (remainder ++ rest) (by omega)
    (readsRest.delimited rest)
  have tail := readsRest fuel rest (by omega)
  have comma :
      skipSpace (before ++ ',' :: (after ++ (text ++ remainder)) ++ rest) =
        ',' :: (after ++ (text ++ (remainder ++ rest))) := by
    rw [List.append_assoc, skipSpace_append blankBefore, List.cons_append,
      skipSpace_cons _ (by decide)]
    simp only [List.append_assoc]
  have skipped :
      skipSpace (after ++ (text ++ (remainder ++ rest))) =
        text ++ (remainder ++ rest) := by
    rw [skipSpace_append blankAfter, shape, List.cons_append,
      skipSpace_cons _ visible]
  rw [itemTail_comma comma, skipped, parseItem, item]
  exact tail

theorem ReadsValue.emptyList
    {space : List Char} (blank : Blank space) :
    ReadsValue ('[' :: (space ++ [']'])) (.arr []) := by
  intro fuel rest enough _
  obtain ⟨fuel, rfl⟩ : ∃ previous, fuel = previous + 1 :=
    ⟨fuel - 1, by simp only [List.length_cons] at enough; omega⟩
  simp only [List.cons_append, List.append_assoc, List.nil_append, parseValue,
    skipSpace_append blank, skipSpace_cons _ (show isSpace ']' = false by decide)]

theorem ReadsValue.list
    {space text remainder : List Char} {item value : Json}
    (blank : Blank space)
    (readsItem : ReadsValue text item)
    (readsRest : ReadsItems [item] remainder value) :
    ReadsValue ('[' :: (space ++ (text ++ remainder))) value := by
  intro fuel rest enough _
  simp only [List.length_append, List.length_cons] at enough
  obtain ⟨fuel, rfl⟩ : ∃ previous, fuel = previous + 2 :=
    ⟨fuel - 2, by omega⟩
  obtain ⟨char, others, shape, visible, notClose⟩ := readsItem.head
  have item := readsItem fuel (remainder ++ rest) (by omega)
    (readsRest.delimited rest)
  have tail := readsRest fuel rest (by omega)
  have skipped :
      skipSpace (space ++ (text ++ remainder) ++ rest) =
        char :: (others ++ (remainder ++ rest)) := by
    rw [List.append_assoc, skipSpace_append blank, List.append_assoc, shape,
      List.cons_append, skipSpace_cons _ visible]
  rw [List.cons_append, parseValue_openList skipped notClose,
    ← List.cons_append, ← shape, parseItem, item]
  exact tail

theorem ReadsMembers.close
    {fields : List (String × Json)} {space : List Char} (blank : Blank space) :
    ReadsMembers fields (space ++ ['}']) (.obj fields) := by
  intro fuel rest enough
  obtain ⟨fuel, rfl⟩ : ∃ previous, fuel = previous + 1 :=
    ⟨fuel - 1, by simp only [List.length_append, List.length_singleton] at enough; omega⟩
  rw [memberTail, List.append_assoc, skipSpace_append blank,
    List.singleton_append, skipSpace_cons rest (by decide)]
  rfl

/-- A key, its colon, its value, and the remainder of the dictionary. -/
theorem parseMember_reads
    {fields : List (String × Json)} {key decoded space text remainder : List Char}
    {current value : Json} {fuel : Nat} (rest : List Char)
    (enough : 2 * (text.length + remainder.length) ≤ fuel)
    (readsKey : ReadsChars key decoded)
    (blank : Blank space)
    (readsValue : ReadsValue text current)
    (readsRest :
      ReadsMembers (assign fields (String.ofList decoded) current)
        remainder value) :
    parseMember (fuel + 1) fields
        (key ++ '"' :: ':' :: (space ++ (text ++ (remainder ++ rest)))) =
      some (value, rest) := by
  obtain ⟨char, others, shape, visible, -⟩ := readsValue.head
  have current := readsValue fuel (remainder ++ rest) (by omega)
    (readsRest.delimited rest)
  have tail := readsRest fuel rest (by omega)
  have skipped :
      skipSpace (space ++ (text ++ (remainder ++ rest))) =
        text ++ (remainder ++ rest) := by
    rw [skipSpace_append blank, shape, List.cons_append,
      skipSpace_cons _ visible]
  have colon :
      skipSpace (':' :: (space ++ (text ++ (remainder ++ rest)))) =
        ':' :: (space ++ (text ++ (remainder ++ rest))) :=
    skipSpace_cons _ (by decide)
  simp only [parseMember, readsKey.closed, colon, skipped, current]
  exact tail

theorem ReadsMembers.next
    {fields : List (String × Json)}
    {before after key decoded space text remainder : List Char}
    {current value : Json}
    (blankBefore : Blank before) (blankAfter : Blank after)
    (readsKey : ReadsChars key decoded) (blank : Blank space)
    (readsValue : ReadsValue text current)
    (readsRest :
      ReadsMembers (assign fields (String.ofList decoded) current)
        remainder value) :
    ReadsMembers fields
      (before ++ ',' ::
        (after ++ '"' :: (key ++ '"' :: ':' :: (space ++ (text ++ remainder)))))
      value := by
  intro fuel rest enough
  simp only [List.length_append, List.length_cons] at enough
  obtain ⟨fuel, rfl⟩ : ∃ previous, fuel = previous + 2 :=
    ⟨fuel - 2, by omega⟩
  have member := parseMember_reads rest
    (show 2 * (text.length + remainder.length) ≤ fuel by omega)
    readsKey blank readsValue readsRest
  have comma :
      skipSpace
          (before ++ ',' ::
            (after ++ '"' ::
              (key ++ '"' :: ':' :: (space ++ (text ++ remainder)))) ++ rest) =
        ',' :: (after ++ '"' ::
          (key ++ '"' :: ':' :: (space ++ (text ++ (remainder ++ rest))))) := by
    rw [List.append_assoc, skipSpace_append blankBefore, List.cons_append,
      skipSpace_cons _ (by decide)]
    simp only [List.append_assoc, List.cons_append]
  have quote :
      skipSpace (after ++ '"' ::
          (key ++ '"' :: ':' :: (space ++ (text ++ (remainder ++ rest))))) =
        '"' :: (key ++ '"' :: ':' :: (space ++ (text ++ (remainder ++ rest)))) := by
    rw [skipSpace_append blankAfter, skipSpace_cons _ (by decide)]
  rw [memberTail_comma comma quote]
  exact member

theorem ReadsValue.dictionary
    {before key decoded space text remainder : List Char}
    {current value : Json}
    (blankBefore : Blank before)
    (readsKey : ReadsChars key decoded) (blank : Blank space)
    (readsValue : ReadsValue text current)
    (readsRest :
      ReadsMembers (assign [] (String.ofList decoded) current) remainder value) :
    ReadsValue
      ('{' :: (before ++ '"' ::
        (key ++ '"' :: ':' :: (space ++ (text ++ remainder)))))
      value := by
  intro fuel rest enough _
  simp only [List.length_append, List.length_cons] at enough
  obtain ⟨fuel, rfl⟩ : ∃ previous, fuel = previous + 2 :=
    ⟨fuel - 2, by omega⟩
  have member := parseMember_reads rest
    (show 2 * (text.length + remainder.length) ≤ fuel by omega)
    readsKey blank readsValue readsRest
  have quote :
      skipSpace
          (before ++ '"' ::
            (key ++ '"' :: ':' :: (space ++ (text ++ remainder))) ++ rest) =
        '"' :: (key ++ '"' :: ':' :: (space ++ (text ++ (remainder ++ rest)))) := by
    rw [List.append_assoc, skipSpace_append blankBefore, List.cons_append,
      skipSpace_cons _ (by decide)]
    simp only [List.append_assoc, List.cons_append]
  rw [List.cons_append, parseValue_openDictionary quote]
  exact member

/-- A value text between white space is decoded to its value. -/
theorem ReadsValue.loads
    {before text after : List Char} {value : Json}
    (reads : ReadsValue text value)
    (blankBefore : Blank before) (blankAfter : Blank after) :
    loads (before ++ (text ++ after)) = .ok value := by
  obtain ⟨char, others, shape, visible, -⟩ := reads.head
  have delimited : Delimited after := by
    rcases after with _ | ⟨first, rest⟩
    · exact Delimited.nil
    · exact delimited_of_head rest (Or.inl (blankAfter first (by simp)))
  have read := reads (2 * (before ++ (text ++ after)).length) after
    (by simp only [List.length_append]; omega) delimited
  have skipped : skipSpace (before ++ (text ++ after)) = text ++ after := by
    rw [skipSpace_append blankBefore, shape, List.cons_append,
      skipSpace_cons _ visible]
  rw [JsonText.loads, skipped, read]
  dsimp only
  rw [skipSpace_blank blankAfter, if_pos rfl]

end Snapl.Library.JsonText
