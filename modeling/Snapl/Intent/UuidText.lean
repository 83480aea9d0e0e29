import Mathlib.Data.List.DropRight
import Mathlib.Data.List.Infix
import Snapl.Intent.Models

/-!
# Reading identifiers

`UUID` of a string: 32 hexadecimal digits after `urn:`, `uuid:`, braces and
hyphens are taken away, read as the language reads a number of base 16.  The
canonical text of an identifier is read as that identifier.
-/

namespace Snapl.Intent

open Snapl.Library JsonText

/-- A character as the reader of numbers sees it. -/
def numeral (char : Char) : Char :=
  if char.toNat < 127 then char
  else if isWhitespace char then ' '
  else
    match decimalValue? char with
    | some digit => Nat.digitChar digit
    | none => '?'

/-- The white space around a number. -/
def isSpacing (char : Char) : Bool := char = ' ' || (9 ≤ char.toNat && char.toNat ≤ 13)

/-- The sign of a number, which may be missing. -/
def splitSign : List Char → Bool × List Char
  | '-' :: rest => (true, rest)
  | '+' :: rest => (false, rest)
  | rest => (false, rest)

/-- Drop the prefix of base 16 and an underscore behind it. -/
def dropBase : List Char → List Char
  | '0' :: 'x' :: '_' :: rest => rest
  | '0' :: 'X' :: '_' :: rest => rest
  | '0' :: 'x' :: rest => rest
  | '0' :: 'X' :: rest => rest
  | rest => rest

/-- Hexadecimal digits, with single underscores between them, as a number. -/
def hexGroups (chars : List Char) : Option Nat :=
  if chars = [] ∨ chars.head? = some '_' ∨ chars.getLast? = some '_' ∨
      ['_', '_'] <:+: chars then none
  else
    ((chars.filter fun char => char ≠ '_').mapM hexValue?).map fun digits =>
      digits.foldl (fun sofar digit => 16 * sofar + digit) 0

/-- `int` of a string, in base 16. -/
def intBase16 (chars : List Char) : Option Int :=
  let signed := splitSign ((chars.map numeral).dropWhile isSpacing)
  let body := dropBase signed.2
  let isPart := fun char : Char => (hexValue? char).isSome || char = '_'
  if (body.dropWhile isPart).all isSpacing then
    (hexGroups (body.takeWhile isPart)).map fun (value : Nat) =>
      if signed.1 then -(value : Int) else (value : Int)
  else none

/-- Leave out every occurrence of a pattern; the first `skip` characters are inside of one. -/
def leaveOut (pattern : List Char) : Nat → List Char → List Char
  | _, [] => []
  | skip + 1, _ :: rest => leaveOut pattern skip rest
  | 0, char :: rest =>
      if pattern.isPrefixOf (char :: rest) then leaveOut pattern (pattern.length - 1) rest
      else char :: leaveOut pattern 0 rest

def isBrace (char : Char) : Bool := char = '\x7b' || char = '\x7d'

/-- The digits of the text of an identifier. -/
def uuidDigits (chars : List Char) : List Char :=
  ((((leaveOut "uuid:".toList 0 (leaveOut "urn:".toList 0 chars)).dropWhile isBrace).rdropWhile
    isBrace).filter fun char => char ≠ '-')

/-- The identifier a text stands for, if it stands for one. -/
def UUID.parse (text : String) : Option UUID :=
  let digits := uuidDigits text.toList
  if digits.length = 32 then
    match intBase16 digits with
    | some (.ofNat value) => if value < 2 ^ 128 then some ⟨BitVec.ofNat 128 value⟩ else none
    | _ => none
  else none

theorem hexText_append (value high low : Nat) :
    hexText (value / 16 ^ low) high ++ hexText value low = hexText value (high + low) := by
  induction low generalizing value with
  | zero => rw [Nat.pow_zero, Nat.div_one, hexText, List.append_nil, Nat.add_zero]
  | succ low induction =>
      rw [hexText, ← Nat.add_assoc, hexText, ← induction, ← List.append_assoc,
        Nat.div_div_eq_div_mul, ← Nat.pow_succ']

theorem hexValue?_of_mem_hexText {value digits : Nat} {char : Char}
    (member : char ∈ hexText value digits) : ∃ digit < 16, char = hexDigit digit := by
  induction digits generalizing value with
  | zero => cases member
  | succ digits induction =>
      rw [hexText, List.mem_append, List.mem_singleton] at member
      rcases member with member | rfl
      · exact induction member
      · exact ⟨value % 16, Nat.mod_lt _ (by decide), rfl⟩

theorem mapM_hexText (value digits : Nat) :
    ((hexText value digits).mapM hexValue?).map
      (fun digits => digits.foldl (fun sofar digit => 16 * sofar + digit) 0) =
      some (value % 16 ^ digits) := by
  induction digits generalizing value with
  | zero => rw [hexText, Nat.pow_zero, Nat.mod_one]; rfl
  | succ digits induction =>
      obtain ⟨read, isRead, isValue⟩ := Option.map_eq_some_iff.1 (induction (value / 16))
      have last := hexValue?_hexDigit (Nat.mod_lt value (show 0 < 16 by decide))
      simp only [hexText, List.mapM_append, isRead, List.mapM_cons, List.mapM_nil, last,
        Option.pure_def, Option.bind_eq_bind, Option.bind_some, Option.map_some,
        List.foldl_append, isValue, List.foldl_cons, List.foldl_nil]
      rw [Nat.pow_succ', Nat.mod_mul, Nat.add_comm]

/-- What holds of the sixteen digits holds of every digit of a text. -/
theorem forall_hexText {property : Char → Prop}
    (each : ∀ digit < 16, property (hexDigit digit)) {value digits : Nat} :
    ∀ char ∈ hexText value digits, property char := by
  intro char member
  obtain ⟨digit, small, rfl⟩ := hexValue?_of_mem_hexText member
  exact each digit small

/-- Digits only are read as their number. -/
theorem intBase16_hexText {value digits : Nat} (positive : 0 < digits) :
    intBase16 (hexText value digits) = some ((value % 16 ^ digits : Nat) : Int) := by
  have absent : ∀ char : Char, (∀ digit < 16, hexDigit digit ≠ char) →
      char ∉ hexText value digits := by
    intro char other member
    exact @forall_hexText (fun found => found ≠ char) other _ _ char member rfl
  have numerals : (hexText value digits).map numeral = hexText value digits := by
    rw [List.map_congr_left (g := id), List.map_id]
    exact forall_hexText (by decide +kernel)
  have nonempty : hexText value digits ≠ [] := by
    intro none
    have length := length_hexText value digits
    rw [none, List.length_nil] at length
    omega
  obtain ⟨first, others, shape⟩ := List.exists_cons_of_ne_nil nonempty
  have firstMember : first ∈ hexText value digits := by
    rw [shape]
    exact List.mem_cons_self
  have unspaced : (hexText value digits).dropWhile isSpacing = hexText value digits := by
    have visible : isSpacing first = false :=
      @forall_hexText (fun char => isSpacing char = false) (by decide +kernel) _ _ first
        firstMember
    rw [shape, List.dropWhile_cons_of_neg (by simp [visible])]
  have unsigned : splitSign (hexText value digits) = (false, hexText value digits) := by
    have minus := absent '-' (by decide)
    have plus := absent '+' (by decide)
    rw [splitSign.eq_def]
    split
    · next equal =>
      rw [equal] at minus
      exact absurd List.mem_cons_self minus
    · next equal =>
      rw [equal] at plus
      exact absurd List.mem_cons_self plus
    · rfl
  have unprefixed : dropBase (hexText value digits) = hexText value digits := by
    have lower := absent 'x' (by decide)
    have upper := absent 'X' (by decide)
    rw [dropBase.eq_def]
    split
    all_goals first
      | rfl
      | (next equal =>
          rw [equal] at lower upper
          simp at lower upper)
  have parts : ∀ char ∈ hexText value digits,
      ((hexValue? char).isSome || decide (char = '_')) = true :=
    forall_hexText (by decide +kernel)
  have taken := List.takeWhile_eq_self_iff.2 parts
  have dropped := List.dropWhile_eq_nil_iff.2 parts
  have noUnderscore := absent '_' (by decide)
  have kept : (hexText value digits).filter (fun char => char ≠ '_') = hexText value digits := by
    rw [List.filter_eq_self]
    intro char member
    apply decide_eq_true
    rintro rfl
    exact noUnderscore member
  have grouped : ¬(hexText value digits = [] ∨ (hexText value digits).head? = some '_' ∨
      (hexText value digits).getLast? = some '_' ∨ ['_', '_'] <:+: hexText value digits) := by
    rintro (none | head | last | inside)
    · exact nonempty none
    · exact noUnderscore (List.mem_of_head? head)
    · exact noUnderscore (List.mem_of_getLast? last)
    · exact noUnderscore (inside.subset List.mem_cons_self)
  simp only [intBase16, numerals, unspaced, unsigned, unprefixed, taken, dropped, List.all_nil,
    if_true, hexGroups, if_neg grouped, kept, mapM_hexText, Option.map_some, Bool.false_eq_true,
    if_false]

/-- A pattern whose first character does not occur is not left out. -/
theorem leaveOut_of_not_mem {first : Char} {pattern chars : List Char} (absent : first ∉ chars) :
    leaveOut (first :: pattern) 0 chars = chars := by
  induction chars with
  | nil => rfl
  | cons char rest induction =>
      rw [List.mem_cons, not_or] at absent
      have different : (first :: pattern).isPrefixOf (char :: rest) = false := by
        rw [List.isPrefixOf, beq_eq_false_iff_ne.2 absent.1, Bool.false_and]
      rw [leaveOut, different, if_neg Bool.false_ne_true, induction absent.2]

/-- The characters of a canonical text. -/
theorem UUID.toList_text (id : UUID) :
    id.text.toList =
      hexText (id.value.toNat / 16 ^ 24) 8 ++ ('-' :: (hexText (id.value.toNat / 16 ^ 20) 4 ++
        ('-' :: (hexText (id.value.toNat / 16 ^ 16) 4 ++ ('-' ::
          (hexText (id.value.toNat / 16 ^ 12) 4 ++ ('-' :: hexText id.value.toNat 12))))))) := by
  simp only [UUID.text, String.toList_append, String.toList_ofList, List.append_assoc,
    Nat.pow_zero, Nat.div_one]
  rfl

/-- What holds of the sixteen digits and of the hyphen holds of all characters of the text. -/
theorem UUID.forall_text {property : Char → Prop} (id : UUID)
    (each : ∀ digit < 16, property (hexDigit digit)) (hyphen : property '-') :
    ∀ char ∈ id.text.toList, property char := by
  intro char member
  have digits : ∀ value digits : Nat, char ∈ hexText value digits → property char :=
    fun _ _ => forall_hexText each char
  simp only [UUID.toList_text, List.mem_append, List.mem_cons] at member
  rcases member with member | rfl | member | rfl | member | rfl | member | rfl | member
  · exact digits _ _ member
  · exact hyphen
  · exact digits _ _ member
  · exact hyphen
  · exact digits _ _ member
  · exact hyphen
  · exact digits _ _ member
  · exact hyphen
  · exact digits _ _ member

theorem uuidDigits_text (id : UUID) : uuidDigits id.text.toList = hexText id.value.toNat 32 := by
  have absent : ∀ char : Char, (∀ digit < 16, hexDigit digit ≠ char) → '-' ≠ char →
      char ∉ id.text.toList := by
    intro char other noHyphen member
    exact @UUID.forall_text (fun found => found ≠ char) id other noHyphen char member rfl
  have scheme : leaveOut "urn:".toList 0 id.text.toList = id.text.toList :=
    leaveOut_of_not_mem (absent 'u' (by decide) (by decide))
  have label : leaveOut "uuid:".toList 0 id.text.toList = id.text.toList :=
    leaveOut_of_not_mem (absent 'u' (by decide) (by decide))
  have noBrace : ∀ char ∈ id.text.toList, isBrace char = false :=
    id.forall_text (by decide) (by decide)
  have left : id.text.toList.dropWhile isBrace = id.text.toList := by
    rw [List.dropWhile_eq_self_iff]
    intro nonempty
    rw [noBrace _ (List.getElem_mem nonempty)]
    exact Bool.false_ne_true
  have right : id.text.toList.rdropWhile isBrace = id.text.toList := by
    rw [List.rdropWhile_eq_self_iff]
    intro nonempty
    rw [noBrace _ (List.getLast_mem nonempty)]
    exact Bool.false_ne_true
  have kept : ∀ value digits : Nat,
      (hexText value digits).filter (fun char => decide (char ≠ '-')) = hexText value digits := by
    intro value digits
    rw [List.filter_eq_self]
    exact forall_hexText (by decide)
  rw [uuidDigits, scheme, label, left, right, UUID.toList_text]
  have hyphen : ∀ rest : List Char,
      ('-' :: rest).filter (fun char => decide (char ≠ '-')) =
        rest.filter (fun char => decide (char ≠ '-')) := by
    intro rest
    exact List.filter_cons_of_neg (by decide)
  simp only [List.filter_append, hyphen, kept]
  rw [hexText_append _ 4 12, hexText_append _ 4 16, hexText_append _ 4 20, hexText_append _ 8 24]

/-- The canonical text of an identifier is read as that identifier. -/
theorem UUID.parse_text (id : UUID) : UUID.parse id.text = some id := by
  have bound : id.value.toNat < 16 ^ 32 := id.value.isLt
  rw [UUID.parse, uuidDigits_text]
  simp only [length_hexText, if_true, intBase16_hexText (show 0 < 32 by decide),
    Nat.mod_eq_of_lt bound]
  have small : id.value.toNat < 2 ^ 128 := id.value.isLt
  change (if id.value.toNat < 2 ^ 128 then
    some (UUID.mk (BitVec.ofNat 128 id.value.toNat)) else none) = some id
  rw [if_pos small, BitVec.ofNat_toNat, BitVec.setWidth_eq]

end Snapl.Intent
