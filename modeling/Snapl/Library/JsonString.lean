import Snapl.Library.JsonText

/-!
# Writing JSON strings

The text a template's JSON filter writes for a string: an ASCII-only literal
in which the five characters with a meaning in markup, besides the quote, are
written by their code point as well.  Whatever the string, the reader gives
it back.
-/

namespace Snapl.Library.JsonText

/-- A lower-case hexadecimal digit. -/
def hexDigit (value : Nat) : Char :=
  if value < 10 then Char.ofNat (48 + value) else Char.ofNat (87 + value)

/-- The escape of one code unit. -/
def unitEscape (unit : Nat) : List Char :=
  ['\\', 'u', hexDigit (unit / 4096 % 16), hexDigit (unit / 256 % 16),
    hexDigit (unit / 16 % 16), hexDigit (unit % 16)]

/-- The escape of a character: one code unit, or a surrogate pair. -/
def unicodeEscape (char : Char) : List Char :=
  if char.toNat < 0x10000 then unitEscape char.toNat
  else
    unitEscape (0xd800 + (char.toNat - 0x10000) / 1024) ++
      unitEscape (0xdc00 + (char.toNat - 0x10000) % 1024)

/-- The text of one character of a string. -/
def escapeChar (char : Char) : List Char :=
  if char = '"' then ['\\', '"']
  else if char = '\\' then ['\\', '\\']
  else if char = '\n' then ['\\', 'n']
  else if char = '\r' then ['\\', 'r']
  else if char = '\t' then ['\\', 't']
  else if char = '\x0c' then ['\\', 'f']
  else if char = '\x08' then ['\\', 'b']
  else if char = '<' ∨ char = '>' ∨ char = '&' ∨ char = '\'' then
    unicodeEscape char
  else if 0x20 ≤ char.toNat ∧ char.toNat ≤ 0x7e then [char]
  else unicodeEscape char

/-- The text of a string, quotes included. -/
def tojson (chars : List Char) : List Char :=
  '"' :: (chars.flatMap escapeChar ++ ['"'])

theorem hexValue?_hexDigit {value : Nat} (small : value < 16) :
    hexValue? (hexDigit value) = some value := by
  have all : ∀ digit : Fin 16,
      hexValue? (hexDigit digit.val) = some digit.val := by
    decide
  exact all ⟨value, small⟩

theorem hexDigit_inj
    {first second : Nat} (small : first < 16) (secondSmall : second < 16)
    (same : hexDigit first = hexDigit second) : first = second := by
  have values := congrArg hexValue? same
  rw [hexValue?_hexDigit small, hexValue?_hexDigit secondSmall] at values
  exact Option.some.inj values

theorem codeUnit?_unitEscape {unit : Nat} (small : unit < 0x10000) :
    codeUnit? (hexDigit (unit / 4096 % 16)) (hexDigit (unit / 256 % 16))
      (hexDigit (unit / 16 % 16)) (hexDigit (unit % 16)) = some unit := by
  have first := hexValue?_hexDigit (show unit / 4096 % 16 < 16 by omega)
  have second := hexValue?_hexDigit (show unit / 256 % 16 < 16 by omega)
  have third := hexValue?_hexDigit (show unit / 16 % 16 < 16 by omega)
  have fourth := hexValue?_hexDigit (show unit % 16 < 16 by omega)
  simp only [codeUnit?, first, second, third, fourth, Option.some.injEq]
  omega

theorem scanString_unitEscape
    {unit : Nat} (small : unit < 0x10000) (single : isHigh unit = false)
    (rest : List Char) :
    scanString (unitEscape unit ++ rest) =
      prepend (charOfUnit unit) (scanString rest) := by
  have read := codeUnit?_unitEscape small
  rw [unitEscape, scanString.eq_def]
  simp only [List.cons_append, List.nil_append, read, single, Char.reduceEq,
    Bool.false_eq_true, false_and, if_false, if_true]
  split
  · rfl
  · rfl

theorem scanString_pairEscape
    {high low : Nat} (isHighUnit : isHigh high = true)
    (isLowUnit : isLow low = true) (rest : List Char) :
    scanString (unitEscape high ++ (unitEscape low ++ rest)) =
      prepend (charOfPair high low) (scanString rest) := by
  have highSmall : high < 0x10000 := by
    simp only [isHigh, Bool.and_eq_true, decide_eq_true_eq] at isHighUnit
    omega
  have lowSmall : low < 0x10000 := by
    simp only [isLow, Bool.and_eq_true, decide_eq_true_eq] at isLowUnit
    omega
  have readHigh := codeUnit?_unitEscape highSmall
  have readLow := codeUnit?_unitEscape lowSmall
  rw [unitEscape, unitEscape, scanString.eq_def]
  simp [readHigh, readLow, isHighUnit, isLowUnit]

/-- A character is no surrogate. -/
theorem toNat_valid (char : Char) :
    char.toNat < 0xd800 ∨ 0xdfff < char.toNat ∧ char.toNat < 0x110000 :=
  char.valid

theorem ReadsChars.unicode (char : Char) :
    ReadsChars (unicodeEscape char) [char] := by
  intro rest
  have valid := toNat_valid char
  rw [unicodeEscape]
  split_ifs with small
  · have notHigh : isHigh char.toNat = false := by
      simp only [isHigh, Bool.and_eq_false_iff, decide_eq_false_iff_not]
      omega
    have notLow : isLow char.toNat = false := by
      simp only [isLow, Bool.and_eq_false_iff, decide_eq_false_iff_not]
      omega
    have itself : charOfUnit char.toNat = char := by
      simp [charOfUnit, notHigh, notLow]
    rw [scanString_unitEscape small notHigh, itself]
    rfl
  · have isHighUnit :
        isHigh (0xd800 + (char.toNat - 0x10000) / 1024) = true := by
      simp only [isHigh, Bool.and_eq_true, decide_eq_true_eq]
      omega
    have isLowUnit :
        isLow (0xdc00 + (char.toNat - 0x10000) % 1024) = true := by
      simp only [isLow, Bool.and_eq_true, decide_eq_true_eq]
      omega
    have itself :
        charOfPair (0xd800 + (char.toNat - 0x10000) / 1024)
          (0xdc00 + (char.toNat - 0x10000) % 1024) = char := by
      have sum :
          0x10000 + (0xd800 + (char.toNat - 0x10000) / 1024 - 0xd800) * 1024 +
            (0xdc00 + (char.toNat - 0x10000) % 1024 - 0xdc00) = char.toNat := by
        omega
      rw [charOfPair, sum, Char.ofNat_toNat]
    rw [List.append_assoc, scanString_pairEscape isHighUnit isLowUnit, itself]
    rfl

theorem ReadsChars.simple
    {escape decoded : Char} (notUnicode : escape ≠ 'u')
    (known : simpleEscape? escape = some decoded) :
    ReadsChars ['\\', escape] [decoded] := by
  intro rest
  rw [scanString.eq_def]
  simp [notUnicode, known, prepend]

/-- Every character is read back from its text. -/
theorem ReadsChars.escape (char : Char) :
    ReadsChars (escapeChar char) [char] := by
  rw [escapeChar]
  split_ifs with quote slash newline carriage tab feed back markup printable
  · rw [quote]
    exact ReadsChars.simple (by decide) (by decide)
  · rw [slash]
    exact ReadsChars.simple (by decide) (by decide)
  · rw [newline]
    exact ReadsChars.simple (by decide) (by decide)
  · rw [carriage]
    exact ReadsChars.simple (by decide) (by decide)
  · rw [tab]
    exact ReadsChars.simple (by decide) (by decide)
  · rw [feed]
    exact ReadsChars.simple (by decide) (by decide)
  · rw [back]
    exact ReadsChars.simple (by decide) (by decide)
  · exact ReadsChars.unicode char
  · exact ReadsChars.plain ⟨quote, slash, printable.1⟩
  · exact ReadsChars.unicode char

theorem ReadsChars.escapes (chars : List Char) :
    ReadsChars (chars.flatMap escapeChar) chars := by
  induction chars with
  | nil => exact ReadsChars.nil
  | cons char rest induction =>
      exact ReadsChars.append (ReadsChars.escape char) induction

/-- Whatever the string, its written text is read back. -/
theorem ReadsValue.tojson (chars : List Char) :
    ReadsValue (tojson chars) (.str (String.ofList chars)) :=
  ReadsValue.string (ReadsChars.escapes chars)

end Snapl.Library.JsonText
