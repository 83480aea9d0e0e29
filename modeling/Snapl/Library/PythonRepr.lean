import Snapl.Library.Fallible
import Snapl.Library.FloatText
import Snapl.Library.PythonText

/-!
# The text of decoded values

`str` and `repr` of decoded values, and `str.join`.  How a string is quoted
depends on the Unicode tables and stays with `PyText`.
-/

namespace Snapl.Library

open JsonText

/-- The text of a floating-point number. -/
def reprFloat : PyFloat → List Char
  | .nan => "nan".toList
  | .infinite negative => if negative then "-inf".toList else "inf".toList
  | .finite value => floatstr (.finite value)

mutual

def PyText.repr (text : PyText) : Json → Except PyError (List Char)
  | .null => .ok "None".toList
  | .bool value => .ok (if value then "True".toList else "False".toList)
  | .int value => strOfInt value
  | .float value => .ok (reprFloat value)
  | .str value => .ok (text.reprStr value).toList
  | .arr [] => .ok "[]".toList
  | .arr (item :: items) => do
      let first ← text.repr item
      let rest ← text.reprItems items
      .ok ('[' :: (first ++ rest))
  | .obj [] => .ok ['\x7b', '\x7d']
  | .obj ((key, value) :: fields) => do
      let first ← text.repr value
      let rest ← text.reprFields fields
      .ok ('\x7b' :: ((text.reprStr key).toList ++ ':' :: ' ' :: (first ++ rest)))

/-- The text of a list behind its first item. -/
def PyText.reprItems (text : PyText) : List Json → Except PyError (List Char)
  | [] => .ok [']']
  | item :: items => do
      let first ← text.repr item
      let rest ← text.reprItems items
      .ok (',' :: ' ' :: (first ++ rest))

/-- The text of a dictionary behind its first entry. -/
def PyText.reprFields (text : PyText) : List (String × Json) → Except PyError (List Char)
  | [] => .ok ['\x7d']
  | (key, value) :: fields => do
      let first ← text.repr value
      let rest ← text.reprFields fields
      .ok (',' :: ' ' :: ((text.reprStr key).toList ++ ':' :: ' ' :: (first ++ rest)))

end

/-- `str` of a decoded value: a string is its own text. -/
def PyText.shown (text : PyText) : Json → Except PyError String
  | .str value => .ok value
  | value => (text.repr value).map String.ofList

@[simp]
theorem PyText.shown_str (text : PyText) (value : String) :
    text.shown (.str value) = .ok value := rfl

theorem decimalText_ne_nil (value : Int) : decimalText value ≠ [] := by
  rw [decimalText]
  split_ifs
  · exact List.cons_ne_nil _ _
  · exact Nat.toDigits_ne_nil

theorem layout_ne_nil (digits : List Char) (point : Int) : layout digits point ≠ [] := by
  rw [layout]
  split_ifs
  · exact List.cons_ne_nil _ _
  · exact List.append_ne_nil_of_right_ne_nil _ (List.cons_ne_nil _ _)
  · exact List.append_ne_nil_of_right_ne_nil _ (List.cons_ne_nil _ _)
  · exact List.append_ne_nil_of_right_ne_nil _ (List.cons_ne_nil _ _)
  · exact List.append_ne_nil_of_right_ne_nil _ (List.cons_ne_nil _ _)

theorem reprFloat_ne_nil (value : PyFloat) : reprFloat value ≠ [] := by
  cases value with
  | nan => exact List.cons_ne_nil _ _
  | infinite negative => cases negative <;> exact List.cons_ne_nil _ _
  | finite value =>
      rw [reprFloat, floatstr]
      split_ifs
      · exact List.cons_ne_nil _ _
      · exact List.cons_ne_nil _ _
      · exact layout_ne_nil _ _

/-- Only a string can have an empty `repr`, by the choice of its quotation. -/
theorem PyText.repr_ne_nil
    {text : PyText} {value : Json} {chars : List Char} (other : ∀ string, value ≠ .str string)
    (returned : text.repr value = .ok chars) : chars ≠ [] := by
  cases value with
  | null =>
      rw [PyText.repr] at returned
      cases returned
      exact List.cons_ne_nil _ _
  | bool value =>
      rw [PyText.repr] at returned
      cases returned
      cases value <;> exact List.cons_ne_nil _ _
  | int value =>
      rw [PyText.repr, strOfInt_eq_ok_iff] at returned
      rw [returned.2]
      exact decimalText_ne_nil value
  | float value =>
      rw [PyText.repr] at returned
      cases returned
      exact reprFloat_ne_nil value
  | str value => exact absurd rfl (other value)
  | arr items =>
      cases items with
      | nil =>
          rw [PyText.repr] at returned
          cases returned
          exact List.cons_ne_nil _ _
      | cons item items =>
          rw [PyText.repr] at returned
          obtain ⟨first, -, returned⟩ := (bind_eq_ok _ _ _).1 returned
          obtain ⟨rest, -, returned⟩ := (bind_eq_ok _ _ _).1 returned
          cases returned
          exact List.cons_ne_nil _ _
  | obj fields =>
      cases fields with
      | nil =>
          rw [PyText.repr] at returned
          cases returned
          exact List.cons_ne_nil _ _
      | cons field fields =>
          rw [PyText.repr] at returned
          obtain ⟨first, -, returned⟩ := (bind_eq_ok _ _ _).1 returned
          obtain ⟨rest, -, returned⟩ := (bind_eq_ok _ _ _).1 returned
          cases returned
          exact List.cons_ne_nil _ _

/-- Only the empty string has an empty text. -/
theorem PyText.eq_str_of_shown_empty
    {text : PyText} {value : Json} (empty : text.shown value = .ok "") : value = .str "" := by
  by_cases string : ∃ own, value = .str own
  · obtain ⟨own, rfl⟩ := string
    rw [PyText.shown_str, Except.ok.injEq] at empty
    rw [empty]
  · have other : ∀ own, value ≠ .str own := fun own equal => string ⟨own, equal⟩
    have shown : text.shown value = (text.repr value).map String.ofList := by
      cases value with
      | str own => exact absurd rfl (other own)
      | _ => rfl
    rw [shown] at empty
    rcases returned : text.repr value with failure | chars
    · rw [returned] at empty
      cases empty
    · rw [returned] at empty
      have none : String.ofList chars = "" := Except.ok.inj empty
      exact absurd (String.ofList_eq_empty_iff.1 none) (repr_ne_nil other returned)

/-- The strings of a list, which `join` refuses if it holds anything else. -/
def strings : List Json → Except PyError (List String)
  | [] => .ok []
  | .str value :: rest => (strings rest).map (value :: ·)
  | _ :: _ => .error .typeError

/-- `separator.join(parts)`. -/
def joinStrings (separator : String) (parts : List Json) : Except PyError String :=
  (strings parts).map separator.intercalate

theorem strings_eq_ok_iff (parts : List Json) (values : List String) :
    strings parts = .ok values ↔ parts = values.map .str := by
  induction parts generalizing values with
  | nil =>
      rw [strings, Except.ok.injEq, List.nil_eq, eq_comm (a := []), List.map_eq_nil_iff]
  | cons part parts induction =>
      constructor
      · intro joined
        cases part with
        | str value =>
            rw [strings] at joined
            rcases rest : strings parts with failure | others
            · rw [rest] at joined
              cases joined
            · rw [rest] at joined
              obtain rfl : value :: others = values := Except.ok.inj joined
              rw [List.map_cons, ← (induction others).1 rest]
        | _ => cases joined
      · intro written
        cases values with
        | nil => cases written
        | cons value others =>
            rw [List.map_cons, List.cons.injEq] at written
            obtain ⟨rfl, rest⟩ := written
            rw [strings, (induction others).2 rest]
            rfl

theorem intercalate_eq_empty_iff {separator : String} (present : separator ≠ "")
    (parts : List String) :
    separator.intercalate parts = "" ↔ parts = [] ∨ parts = [""] := by
  rcases parts with _ | ⟨first, _ | ⟨second, rest⟩⟩
  · rw [String.intercalate_nil]
    simp
  · rw [String.intercalate_singleton]
    simp
  · rw [String.intercalate_cons_cons, String.append_eq_empty_iff, String.append_eq_empty_iff]
    simp [present]

end Snapl.Library
