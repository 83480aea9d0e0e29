import Mathlib.Logic.Function.Basic
import Snapl.Library.Program

/-!
# Programs confined to one component of the state

The state maps names to parts.  A program is confined to a name when it changes
no other part and when the way it ends and the part it leaves under the name
depend on nothing but the part it found there.
-/

namespace Snapl.Library

namespace Program

variable {Name Part Failure Result Next Item : Type}

/-- The program reads and changes the part of one name only. -/
structure Confined (name : Name) (program : Program (Name → Part) Failure Result) : Prop where
  frame : ∀ state other, other ≠ name → program.final state other = state other
  determined : ∀ first second, first name = second name →
    program.ending first = program.ending second ∧
      program.final first name = program.final second name

namespace Confined

variable {name : Name}

theorem pure (result : Result) :
    Confined name (Pure.pure result : Program (Name → Part) Failure Result) where
  frame _ _ _ := rfl
  determined _ _ same := ⟨rfl, same⟩

theorem raise (failure : Failure) :
    Confined name (Program.raise failure : Program (Name → Part) Failure Result) where
  frame _ _ _ := rfl
  determined _ _ same := ⟨rfl, same⟩

theorem ofExcept (value : Except Failure Result) :
    Confined name (Program.ofExcept value : Program (Name → Part) Failure Result) where
  frame _ _ _ := rfl
  determined _ _ same := ⟨rfl, same⟩

/-- Reading the part of the name. -/
theorem read (view : Part → Result) :
    Confined name (Program.update fun state => (view (state name), state) :
      Program (Name → Part) Failure Result) where
  frame _ _ _ := rfl
  determined first second same := by
    refine ⟨?_, same⟩
    have ending : ∀ state : Name → Part,
        Program.ending (Program.update fun state => (view (state name), state) :
          Program (Name → Part) Failure Result) state = .ok (view (state name)) :=
      fun _ => rfl
    rw [ending, ending, same]

/-- Replacing the part of the name by one computed from it. -/
theorem write [DecidableEq Name] (change : Part → Result × Part) :
    Confined name (Program.update fun state =>
        ((change (state name)).1, Function.update state name (change (state name)).2) :
      Program (Name → Part) Failure Result) where
  frame state other different := Function.update_of_ne different _ state
  determined first second same := by
    have ending : ∀ state : Name → Part,
        Program.ending (Program.update fun state =>
            ((change (state name)).1, Function.update state name (change (state name)).2) :
          Program (Name → Part) Failure Result) state = .ok (change (state name)).1 :=
      fun _ => rfl
    have final : ∀ state : Name → Part,
        Program.final (Program.update fun state =>
            ((change (state name)).1, Function.update state name (change (state name)).2) :
          Program (Name → Part) Failure Result) state name = (change (state name)).2 :=
      fun state => Function.update_self name _ state
    rw [ending, ending, final, final, same]
    exact ⟨rfl, rfl⟩

/--
A sequence is confined when its first part is, and its second part is for every
result the first one returns.
-/
theorem bind_returning
    {program : Program (Name → Part) Failure Result}
    {next : Result → Program (Name → Part) Failure Next} {demand : Result → Prop}
    (first : Confined name program) (returns : Returns demand program)
    (rest : ∀ result, demand result → Confined name (next result)) :
    Confined name (program >>= next) where
  frame state other different := by
    have kept := first.frame state other different
    rcases ran : program state with ⟨failure | result, after⟩
    · rw [final, bind_of_error ran]
      rw [final, ran] at kept
      exact kept
    · have meets : demand result := returns state result (by rw [ending, ran])
      rw [final, bind_of_ok ran]
      rw [final, ran] at kept
      exact ((rest result meets).frame after other different).trans kept
  determined one two same := by
    obtain ⟨endings, finals⟩ := first.determined one two same
    rcases ranOne : program one with ⟨failure | result, afterOne⟩
    · rcases ranTwo : program two with ⟨failure' | result', afterTwo⟩
      · rw [ending, ending, ranOne, ranTwo] at endings
        rw [final, final, ranOne, ranTwo] at finals
        cases endings
        rw [ending, ending, final, final, bind_of_error ranOne, bind_of_error ranTwo]
        exact ⟨rfl, finals⟩
      · rw [ending, ending, ranOne, ranTwo] at endings
        cases endings
    · rcases ranTwo : program two with ⟨failure' | result', afterTwo⟩
      · rw [ending, ending, ranOne, ranTwo] at endings
        cases endings
      · rw [ending, ending, ranOne, ranTwo] at endings
        rw [final, final, ranOne, ranTwo] at finals
        cases endings
        have meets : demand result := returns one result (by rw [ending, ranOne])
        have later := (rest result meets).determined afterOne afterTwo finals
        rw [ending, ending, final, final, bind_of_ok ranOne, bind_of_ok ranTwo]
        exact later

theorem bind
    {program : Program (Name → Part) Failure Result}
    {next : Result → Program (Name → Part) Failure Next}
    (first : Confined name program) (rest : ∀ result, Confined name (next result)) :
    Confined name (program >>= next) :=
  first.bind_returning (Returns.anything program) fun result _ => rest result

end Confined

end Program

end Snapl.Library
