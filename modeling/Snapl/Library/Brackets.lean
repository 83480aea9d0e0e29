import Mathlib.Data.List.Basic

/-!
# Balanced brackets

A list of symbols is balanced when every closing bracket has an opening one
before it, and the other way round.  A balanced list ends before the bracket
that closes it, so what is written between two brackets can be read back.
-/

namespace Snapl.Library

universe u

variable {Symbol : Type u}

/-- A list whose brackets match. -/
inductive Balanced (opening closing : Symbol) : List Symbol → Prop where
  | nil : Balanced opening closing []
  | plain {symbol : Symbol} {rest : List Symbol} (unopened : symbol ≠ opening)
      (unclosed : symbol ≠ closing) (balanced : Balanced opening closing rest) :
      Balanced opening closing (symbol :: rest)
  | nested {inner rest : List Symbol} (inside : Balanced opening closing inner)
      (balanced : Balanced opening closing rest) :
      Balanced opening closing (opening :: (inner ++ closing :: rest))

namespace Balanced

variable {opening closing : Symbol}

theorem append
    {first second : List Symbol} (left : Balanced opening closing first)
    (right : Balanced opening closing second) :
    Balanced opening closing (first ++ second) := by
  induction left with
  | nil => exact right
  | plain unopened unclosed _ induction => exact .plain unopened unclosed induction
  | nested inside _ _ induction =>
      rw [List.cons_append, List.append_assoc, List.cons_append]
      exact .nested inside induction

/-- A list without brackets is balanced. -/
theorem of_plain
    {symbols : List Symbol}
    (plain : ∀ symbol ∈ symbols, symbol ≠ opening ∧ symbol ≠ closing) :
    Balanced opening closing symbols := by
  induction symbols with
  | nil => exact .nil
  | cons symbol rest induction =>
      have first := plain symbol List.mem_cons_self
      apply Balanced.plain first.1 first.2
      exact induction fun other member => plain other (List.mem_cons_of_mem _ member)

end Balanced

section Reading

variable [DecidableEq Symbol] (opening closing : Symbol)

/-- The symbols in front of the bracket that closes this many open ones, and one more. -/
def untilClosing : Nat → List Symbol → List Symbol
  | _, [] => []
  | depth, symbol :: rest =>
      if symbol = opening then symbol :: untilClosing (depth + 1) rest
      else if symbol = closing then
        if depth = 0 then [] else symbol :: untilClosing (depth - 1) rest
      else symbol :: untilClosing depth rest

variable {opening closing}

/-- Reading a balanced list leaves the depth as it was. -/
theorem untilClosing_append
    (different : closing ≠ opening) {inner : List Symbol}
    (balanced : Balanced opening closing inner) (depth : Nat) (rest : List Symbol) :
    untilClosing opening closing depth (inner ++ rest) =
      inner ++ untilClosing opening closing depth rest := by
  induction balanced generalizing depth rest with
  | nil => rfl
  | plain unopened unclosed _ induction =>
      rw [List.cons_append, untilClosing, if_neg unopened, if_neg unclosed, induction,
        List.cons_append]
  | nested _ _ insideInduction induction =>
      rw [List.cons_append, List.append_assoc, List.cons_append, untilClosing, if_pos rfl,
        insideInduction, untilClosing, if_neg different, if_pos rfl,
        if_neg (Nat.succ_ne_zero depth), Nat.add_sub_cancel, induction, List.cons_append,
        List.append_assoc, List.cons_append]

/-- What stands between an opening bracket and its closing one is read back. -/
theorem Balanced.append_closing_inj
    (different : closing ≠ opening) {first second : List Symbol}
    (left : Balanced opening closing first) (right : Balanced opening closing second)
    {rest others : List Symbol} (same : first ++ closing :: rest = second ++ closing :: others) :
    first = second ∧ rest = others := by
  have reads : ∀ {inner : List Symbol}, Balanced opening closing inner → ∀ after,
      untilClosing opening closing 0 (inner ++ closing :: after) = inner := by
    intro inner balanced after
    rw [untilClosing_append different balanced, untilClosing, if_neg different, if_pos rfl,
      if_pos rfl, List.append_nil]
  have inner : first = second := by
    rw [← reads left rest, same, reads right]
  apply And.intro inner
  rw [inner] at same
  exact (List.cons.inj (List.append_cancel_left same)).2

end Reading

end Snapl.Library
