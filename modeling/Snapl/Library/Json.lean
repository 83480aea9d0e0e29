import Mathlib.Data.Rat.Defs
import Snapl.Library.Association

/-!
# Decoded JSON documents

The values a JSON decoder of a dynamically typed language builds: null,
booleans, unbounded integers, floating-point numbers, strings, lists and
insertion-ordered dictionaries.  Equality of values is the language's own
`==`: numbers and booleans compare by value, dictionaries regardless of the
order of their entries, and not-a-number is unequal to everything.
-/

namespace Snapl.Library

/-- A floating-point number, kept exactly. -/
inductive PyFloat where
  | finite (value : Rat)
  | infinite (negative : Bool)
  | nan
deriving DecidableEq

/-- A decoded JSON value. -/
inductive Json where
  | null
  | bool (value : Bool)
  | int (value : Int)
  | float (value : PyFloat)
  | str (value : String)
  | arr (items : List Json)
  | obj (fields : List (String × Json))

namespace Json

mutual

/-- Structural equality is decidable. -/
def decEq : (left right : Json) → Decidable (left = right)
  | .null, right => by
      cases right <;>
        first
          | exact .isTrue rfl
          | exact .isFalse (by simp)
  | .bool value, right => by
      cases right with
      | bool other =>
          exact decidable_of_iff (value = other) (by simp)
      | _ => exact .isFalse (by simp)
  | .int value, right => by
      cases right with
      | int other =>
          exact decidable_of_iff (value = other) (by simp)
      | _ => exact .isFalse (by simp)
  | .float value, right => by
      cases right with
      | float other =>
          exact decidable_of_iff (value = other) (by simp)
      | _ => exact .isFalse (by simp)
  | .str value, right => by
      cases right with
      | str other =>
          exact decidable_of_iff (value = other) (by simp)
      | _ => exact .isFalse (by simp)
  | .arr items, right => by
      cases right with
      | arr others =>
          exact @decidable_of_iff _ (items = others) (by simp)
            (decEqItems items others)
      | _ => exact .isFalse (by simp)
  | .obj fields, right => by
      cases right with
      | obj others =>
          exact @decidable_of_iff _ (fields = others) (by simp)
            (decEqFields fields others)
      | _ => exact .isFalse (by simp)

/-- Structural equality of lists of values is decidable. -/
def decEqItems : (left right : List Json) → Decidable (left = right)
  | [], [] => .isTrue rfl
  | [], _ :: _ => .isFalse (by simp)
  | _ :: _, [] => .isFalse (by simp)
  | item :: items, other :: others =>
      match decEq item other, decEqItems items others with
      | .isTrue head, .isTrue tail => .isTrue (by rw [head, tail])
      | .isFalse head, _ => .isFalse (by simp [head])
      | _, .isFalse tail => .isFalse (by simp [tail])

/-- Structural equality of field lists is decidable. -/
def decEqFields :
    (left right : List (String × Json)) → Decidable (left = right)
  | [], [] => .isTrue rfl
  | [], _ :: _ => .isFalse (by simp)
  | _ :: _, [] => .isFalse (by simp)
  | (name, value) :: fields, (other, current) :: others =>
      match decEq value current, decEqFields fields others with
      | .isTrue head, .isTrue tail =>
          decidable_of_iff (name = other) (by simp [head, tail])
      | .isFalse head, _ => .isFalse (by simp [head])
      | _, .isFalse tail => .isFalse (by simp [tail])

end

instance : DecidableEq Json := decEq

/-- The numeric value of a boolean or a finite number. -/
def number? : Json → Option Rat
  | .bool value => some (if value then 1 else 0)
  | .int value => some value
  | .float (.finite value) => some value
  | _ => none

mutual

/-- The `==` of decoded values. -/
def pyEq : Json → Json → Bool
  | .null, .null => true
  | .str left, .str right => left = right
  | .arr left, .arr right => pyEqItems left right
  | .obj left, .obj right =>
      left.length = right.length && pyEqFields left right
  | .float (.infinite left), .float (.infinite right) => left = right
  | left, right =>
      match left.number?, right.number? with
      | some first, some second => first = second
      | _, _ => false

/-- Elementwise `==` of lists of the same length. -/
def pyEqItems : List Json → List Json → Bool
  | [], [] => true
  | left :: lefts, right :: rights =>
      pyEq left right && pyEqItems lefts rights
  | _, _ => false

/-- Every left field is present on the right with an equal value. -/
def pyEqFields :
    List (String × Json) → List (String × Json) → Bool
  | [], _ => true
  | (name, left) :: lefts, rights =>
      (match rights.lookup name with
        | some right => pyEq left right
        | none => false) &&
        pyEqFields lefts rights

end

@[simp]
theorem pyEq_null_iff (right : Json) :
    pyEq .null right = true ↔ right = .null := by
  cases right <;> simp [pyEq, number?]

@[simp]
theorem pyEq_str_iff (value : String) (right : Json) :
    pyEq (.str value) right = true ↔ right = .str value := by
  cases right <;> simp [pyEq, number?, eq_comm]

@[simp]
theorem pyEq_right_str_iff (left : Json) (value : String) :
    pyEq left (.str value) = true ↔ left = .str value := by
  rcases left with _ | _ | _ | (number | negative | _) | _ | _ | _ <;> simp [pyEq, number?]

@[simp]
theorem pyEq_int_int (left right : Int) :
    pyEq (.int left) (.int right) = true ↔ left = right := by
  simp [pyEq, number?]

@[simp]
theorem pyEq_bool_bool (left right : Bool) :
    pyEq (.bool left) (.bool right) = true ↔ left = right := by
  cases left <;> cases right <;> simp [pyEq, number?]

/-- The truth value of a decoded value. -/
def truthy : Json → Bool
  | .null => false
  | .bool value => value
  | .int value => value ≠ 0
  | .float value => value ≠ .finite 0
  | .str value => value ≠ ""
  | .arr items => items ≠ []
  | .obj fields => fields ≠ []

/-- Reading a field: of a dictionary its value or null, of anything else null. -/
def field (value : Json) (name : String) : Json :=
  match value with
  | .obj fields => (fields.lookup name).getD .null
  | _ => .null

/-- An optional string as a decoded value. -/
def ofString? : Option String → Json
  | none => .null
  | some value => .str value

/-- An optional integer as a decoded value. -/
def ofInt? : Option Int → Json
  | none => .null
  | some value => .int value

@[simp]
theorem pyEq_ofString?_iff (value other : Option String) :
    pyEq (ofString? value) (ofString? other) = true ↔ value = other := by
  cases value <;> cases other <;> simp only [ofString?, pyEq_null_iff,
    pyEq_str_iff, reduceCtorEq, str.injEq, Option.some.injEq]
  exact eq_comm

@[simp]
theorem pyEq_ofInt?_iff (value other : Option Int) :
    pyEq (ofInt? value) (ofInt? other) = true ↔ value = other := by
  cases value <;> cases other <;> simp [ofInt?, pyEq, number?]

@[simp]
theorem pyEq_ofString?_self (value : Option String) :
    pyEq (ofString? value) (ofString? value) = true := by
  simp

@[simp]
theorem pyEq_ofInt?_self (value : Option Int) :
    pyEq (ofInt? value) (ofInt? value) = true := by
  simp

end Json

end Snapl.Library
