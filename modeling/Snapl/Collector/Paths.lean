import Snapl.Collector.Gnmi
import Snapl.Library.Brackets

/-!
# Paths as devices write them

A path names its elements one after another, each with any number of keyed
predicates.  A device may put a module name in front of an element, and any
number of slashes in front of the path, after it and between two elements.
-/

namespace Snapl.Collector

open Snapl.Library

/-- The word characters of ASCII, as regular expressions have them. -/
def AsciiWords (text : GnmiText) : Prop :=
  ∀ char : Char, char.toNat < 128 →
    text.wordChar char = (char.isAlphanum || char = '_')

variable (text : GnmiText)

/-- A name of word characters, points and hyphens. -/
structure PathName where
  chars : List Char
  present : chars ≠ []
  plain : ∀ char ∈ chars, isModuleChar text char = true

/-- A predicate `[key=value]`. -/
structure PathPredicate where
  key : List Char
  value : List Char
  bareKey : '=' ∉ key
  keyBalanced : Balanced '[' ']' key
  valueBalanced : Balanced '[' ']' value

structure PathElement where
  name : PathName text
  predicates : List PathPredicate

/-- An element as a device writes it, and the slashes after it that are not needed. -/
structure WrittenElement where
  module : Option (PathName text)
  element : PathElement text
  slashes : Nat

structure DeviceForm where
  leading : Nat
  written : List (WrittenElement text)

variable {text}

/-! ## Their texts -/

def PathPredicate.inner (predicate : PathPredicate) : List Char :=
  predicate.key ++ '=' :: predicate.value

def PathPredicate.chars (predicate : PathPredicate) : List Char :=
  '[' :: (predicate.inner ++ [']'])

def PathElement.chars (element : PathElement text) : List Char :=
  element.name.chars ++ element.predicates.flatMap PathPredicate.chars

/-- The text of an element without its module. -/
def PathElement.string (element : PathElement text) : String := String.ofList element.chars

def WrittenElement.chars (written : WrittenElement text) : List Char :=
  match written.module with
  | none => written.element.chars
  | some module => module.chars ++ ':' :: written.element.chars

/-- Elements with a slash and some more between any two, and some after the last. -/
def writeElements : List (WrittenElement text) → List Char
  | [] => []
  | [last] => last.chars ++ List.replicate last.slashes '/'
  | written :: next :: rest =>
      written.chars ++ '/' :: (List.replicate written.slashes '/' ++ writeElements (next :: rest))

def DeviceForm.chars (form : DeviceForm text) : List Char :=
  List.replicate form.leading '/' ++ writeElements form.written

def DeviceForm.path (form : DeviceForm text) : String := String.ofList form.chars

/-- The elements of a form, without their modules. -/
def DeviceForm.elements (form : DeviceForm text) : List (PathElement text) :=
  form.written.map WrittenElement.element

/-- The form callers request: one leading slash, no modules, single slashes. -/
def requestForm (elements : List (PathElement text)) : DeviceForm text where
  leading := 1
  written := elements.map fun element => ⟨none, element, 0⟩

/-- The text of the form callers request. -/
def requestPath (elements : List (PathElement text)) : String :=
  "/" ++ "/".intercalate (elements.map PathElement.string)

/-! ## Characters of names -/

section Characters

variable (words : AsciiWords text)

include words

theorem isModuleChar_of_ascii {char : Char} (ascii : char.toNat < 128) :
    isModuleChar text char = (char.isAlphanum || char = '_' || char = '.' || char = '-') := by
  rw [isModuleChar, words char ascii]

theorem PathName.ne_of_mem
    (name : PathName text) {char : Char} (member : char ∈ name.chars) :
    char ≠ '[' ∧ char ≠ ']' ∧ char ≠ '/' ∧ char ≠ ':' := by
  have plain := name.plain char member
  have excludes : ∀ {reserved : Char}, reserved.toNat < 128 →
      (reserved.isAlphanum || reserved = '_' || reserved = '.' || reserved = '-') = false →
      char ≠ reserved := by
    intro reserved ascii unnamed equal
    rw [equal, isModuleChar_of_ascii words ascii, unnamed] at plain
    cases plain
  exact ⟨excludes (by decide) (by decide), excludes (by decide) (by decide),
    excludes (by decide) (by decide), excludes (by decide) (by decide)⟩

end Characters

/-! ## Splitting at slashes -/

/-- Put characters in front of the first element. -/
def prependChars (chars : List Char) (elements : List (List Char)) : List (List Char) :=
  chars.foldr prependChar elements

theorem prependChars_cons (chars element : List Char) (elements : List (List Char)) :
    prependChars chars (element :: elements) = (chars ++ element) :: elements := by
  induction chars with
  | nil => rfl
  | cons char chars induction =>
      change prependChar char (prependChars chars (element :: elements)) = _
      rw [induction]
      rfl

/-- Characters the scanner passes over without splitting. -/
def Unsplit (depth : Int) (chars : List Char) : Prop :=
  ∀ rest, pathElements depth (chars ++ rest) = prependChars chars (pathElements depth rest)

theorem Unsplit.append
    {depth : Int} {first second : List Char} (left : Unsplit depth first)
    (right : Unsplit depth second) : Unsplit depth (first ++ second) := by
  intro rest
  rw [List.append_assoc, left, right, prependChars, prependChars, prependChars, List.foldr_append]

theorem Unsplit.flatMap
    {Part : Type} {depth : Int} {parts : List Part} {chars : Part → List Char}
    (each : ∀ part ∈ parts, Unsplit depth (chars part)) :
    Unsplit depth (parts.flatMap chars) := by
  induction parts with
  | nil =>
      intro rest
      rfl
  | cons part parts induction =>
      rw [List.flatMap_cons]
      apply (each part List.mem_cons_self).append
      exact induction fun other member => each other (List.mem_cons_of_mem _ member)

/-- Without brackets and slashes nothing splits. -/
theorem unsplit_of_plain
    {chars : List Char} (plain : ∀ char ∈ chars, char ≠ '[' ∧ char ≠ ']' ∧ char ≠ '/')
    (depth : Int) : Unsplit depth chars := by
  induction chars with
  | nil =>
      intro rest
      rfl
  | cons char chars induction =>
      intro rest
      obtain ⟨unopened, unclosed, inside⟩ := plain char List.mem_cons_self
      rw [List.cons_append, pathElements, if_neg unopened, if_neg unclosed,
        if_neg fun slash => inside slash.1,
        induction fun other member => plain other (List.mem_cons_of_mem _ member)]
      rfl

/-- Inside brackets, slashes split nothing: a balanced text ends at the depth it began at. -/
theorem unsplit_of_balanced
    {chars : List Char} (balanced : Balanced '[' ']' chars) {depth : Int} (inside : 0 < depth) :
    Unsplit depth chars := by
  induction balanced generalizing depth with
  | nil =>
      intro rest
      rfl
  | @plain char chars unopened unclosed _ induction =>
      intro rest
      rw [List.cons_append, pathElements, if_neg unopened, if_neg unclosed,
        if_neg fun slash => inside.ne' slash.2, induction inside]
      rfl
  | @nested inner chars _ _ insideInduction induction =>
      intro rest
      have deeper : 0 < depth + 1 := Int.add_pos inside Int.one_pos
      rw [List.cons_append, List.append_assoc, List.cons_append, pathElements, if_pos rfl,
        insideInduction deeper, pathElements, if_neg (by decide), if_pos rfl,
        Int.add_sub_cancel, induction inside, prependChars, prependChars, prependChars,
        List.foldr_cons, List.foldr_append, List.foldr_cons]

theorem PathPredicate.inner_balanced (predicate : PathPredicate) :
    Balanced '[' ']' predicate.inner :=
  predicate.keyBalanced.append (.plain (by decide) (by decide) predicate.valueBalanced)

theorem PathPredicate.unsplit (predicate : PathPredicate) : Unsplit 0 predicate.chars := by
  intro rest
  rw [PathPredicate.chars, List.cons_append, pathElements, if_pos rfl, List.append_assoc,
    unsplit_of_balanced predicate.inner_balanced (by decide), List.singleton_append, pathElements,
    if_neg (by decide), if_pos rfl, prependChars, prependChars, List.foldr_cons,
    List.foldr_append]
  rfl

section Elements

variable (words : AsciiWords text)

include words

theorem PathName.unsplit (name : PathName text) : Unsplit 0 name.chars := by
  apply unsplit_of_plain
  intro char member
  obtain ⟨unopened, unclosed, inside, -⟩ := name.ne_of_mem words member
  exact ⟨unopened, unclosed, inside⟩

theorem PathElement.unsplit (element : PathElement text) : Unsplit 0 element.chars := by
  apply (element.name.unsplit words).append
  apply Unsplit.flatMap
  intro predicate _
  exact predicate.unsplit

theorem WrittenElement.unsplit (written : WrittenElement text) : Unsplit 0 written.chars := by
  rw [WrittenElement.chars]
  rcases written.module with _ | module
  · exact written.element.unsplit words
  · have colon : Unsplit 0 [':'] := unsplit_of_plain (by decide) 0
    exact (module.unsplit words).append (colon.append (written.element.unsplit words))

end Elements

theorem PathElement.chars_ne_nil (element : PathElement text) : element.chars ≠ [] := by
  intro empty
  exact element.name.present (List.append_eq_nil_iff.1 empty).1

theorem WrittenElement.chars_ne_nil (written : WrittenElement text) : written.chars ≠ [] := by
  rw [WrittenElement.chars]
  rcases written.module with _ | module
  · exact written.element.chars_ne_nil
  · intro empty
    exact module.present (List.append_eq_nil_iff.1 empty).1

/-- The elements of a path that are not empty. -/
def presentElements (chars : List Char) : List (List Char) :=
  (pathElements 0 chars).filter (· ≠ [])

theorem presentElements_slashes (count : Nat) (rest : List Char) :
    presentElements (List.replicate count '/' ++ rest) = presentElements rest := by
  induction count with
  | zero => rfl
  | succ count induction =>
      rw [List.replicate_succ, List.cons_append, presentElements, pathElements,
        if_neg (by decide), if_neg (by decide), if_pos ⟨rfl, rfl⟩, List.filter_cons_of_neg (by simp)]
      exact induction

theorem presentElements_append_slash
    {chars : List Char} (unsplit : Unsplit 0 chars) (present : chars ≠ []) (rest : List Char) :
    presentElements (chars ++ '/' :: rest) = chars :: presentElements rest := by
  rw [presentElements, unsplit, pathElements, if_neg (by decide), if_neg (by decide),
    if_pos ⟨rfl, rfl⟩, prependChars_cons, List.append_nil,
    List.filter_cons_of_pos (by simpa using present)]
  rfl

theorem presentElements_unsplit
    {chars : List Char} (unsplit : Unsplit 0 chars) (present : chars ≠ []) (count : Nat) :
    presentElements (chars ++ List.replicate count '/') = [chars] := by
  cases count with
  | zero =>
      rw [List.replicate_zero, presentElements, unsplit, pathElements, prependChars_cons,
        List.append_nil, List.filter_cons_of_pos (by simpa using present)]
      rfl
  | succ count =>
      have trailing := presentElements_slashes count []
      rw [List.append_nil] at trailing
      rw [List.replicate_succ, presentElements_append_slash unsplit present, trailing]
      rfl

/-- The elements found in a form are those written in it. -/
theorem presentElements_form (words : AsciiWords text) (form : DeviceForm text) :
    presentElements form.chars = form.written.map WrittenElement.chars := by
  rw [DeviceForm.chars, presentElements_slashes]
  induction form.written using writeElements.induct with
  | case1 => rfl
  | case2 last => exact presentElements_unsplit (last.unsplit words) last.chars_ne_nil _
  | case3 written next rest induction =>
      rw [writeElements, presentElements_append_slash (written.unsplit words) written.chars_ne_nil,
        presentElements_slashes, induction]
      rfl

/-! ## Stripping modules -/

/-- A name in front of something else is all that is taken of it. -/
theorem takeWhile_name (name : PathName text) {rest : List Char}
    (ended : ∀ char ∈ rest.head?, isModuleChar text char = false) :
    (name.chars ++ rest).takeWhile (isModuleChar text) = name.chars ∧
      (name.chars ++ rest).dropWhile (isModuleChar text) = rest := by
  rw [List.takeWhile_append_of_pos name.plain, List.dropWhile_append_of_pos name.plain]
  cases rest with
  | nil => exact ⟨List.append_nil _, rfl⟩
  | cons char rest =>
      have stops : ¬isModuleChar text char = true := by
        rw [ended char rfl]
        exact Bool.false_ne_true
      rw [List.takeWhile_cons_of_neg stops, List.dropWhile_cons_of_neg stops, List.append_nil]
      exact ⟨rfl, rfl⟩

/-- After the name of an element comes nothing, or a bracket. -/
theorem PathElement.predicates_head (element : PathElement text) :
    ∀ char ∈ (element.predicates.flatMap PathPredicate.chars).head?, char = '[' := by
  rcases element.predicates with _ | ⟨predicate, rest⟩
  · nofun
  · intro char first
    exact (Option.some.inj first).symm

section Stripping

variable (words : AsciiWords text)

include words

theorem PathElement.takeWhile_chars (element : PathElement text) :
    element.chars.takeWhile (isModuleChar text) = element.name.chars ∧
      element.chars.dropWhile (isModuleChar text) =
        element.predicates.flatMap PathPredicate.chars := by
  apply takeWhile_name
  intro char first
  rw [element.predicates_head char first, isModuleChar_of_ascii words (by decide)]
  decide

theorem stripModule_element (element : PathElement text) :
    stripModule text element.chars = element.chars := by
  obtain ⟨taken, dropped⟩ := element.takeWhile_chars words
  rw [stripModule, taken, dropped]
  split
  · next colon =>
      have bracket := element.predicates_head ':' (by rw [colon]; rfl)
      exact absurd bracket (by decide)
  · rfl

theorem stripModule_written (written : WrittenElement text) :
    stripModule text written.chars = written.element.chars := by
  rw [WrittenElement.chars]
  rcases written.module with _ | module
  · exact stripModule_element words written.element
  · have ended : ∀ char ∈ (':' :: written.element.chars).head?,
        isModuleChar text char = false := by
      intro char first
      rw [← Option.some.inj first, isModuleChar_of_ascii words (by decide)]
      decide
    obtain ⟨taken, dropped⟩ := takeWhile_name module ended
    obtain ⟨first, rest, named⟩ := List.exists_cons_of_ne_nil module.present
    change stripModule text (module.chars ++ ':' :: written.element.chars) = _
    rw [stripModule, taken, dropped]
    split
    · next colon =>
        exact ((List.cons.inj colon).2).symm
    · next other => exact absurd rfl (other first rest written.element.chars named)

/-! ## Normal forms -/

omit words in
/-- The two texts of the root need no special treatment. -/
theorem normalizePath_eq (path : String) :
    normalizePath text path =
      "/" ++ "/".intercalate ((presentElements path.toList).map fun element =>
        String.ofList (stripModule text element)) := by
  rw [normalizePath]
  split
  · next root =>
      rcases root with rfl | rfl
      · rfl
      · rfl
  · rfl

/-- Normalizing a form leaves its elements, without their modules. -/
theorem normalizePath_form (form : DeviceForm text) :
    normalizePath text form.path = requestPath form.elements := by
  rw [normalizePath_eq, DeviceForm.path, String.toList_ofList, presentElements_form words,
    requestPath, DeviceForm.elements, List.map_map, List.map_map]
  congr 2
  apply List.map_congr_left
  intro written _
  change String.ofList (stripModule text written.chars) = written.element.string
  rw [stripModule_written words]
  rfl

end Stripping

theorem elements_requestForm (elements : List (PathElement text)) :
    (requestForm elements).elements = elements := by
  rw [DeviceForm.elements, requestForm, List.map_map]
  exact List.map_id elements

theorem path_requestForm (elements : List (PathElement text)) :
    (requestForm elements).path = requestPath elements := by
  have written : writeElements (elements.map fun element => ⟨none, element, 0⟩) =
      ['/'].intercalate (elements.map PathElement.chars) := by
    induction elements with
    | nil => rfl
    | cons element rest induction =>
        cases rest with
        | nil =>
            rw [List.map_singleton, List.map_singleton, writeElements, List.intercalate_singleton,
              List.replicate_zero, List.append_nil]
            rfl
        | cons next rest =>
            rw [List.map_cons, List.map_cons, writeElements, List.map_cons, List.map_cons,
              List.intercalate_cons_cons]
            rw [List.map_cons, List.map_cons] at induction
            rw [induction]
            simp [WrittenElement.chars]
  apply String.toList_injective
  rw [DeviceForm.path, String.toList_ofList, DeviceForm.chars, requestPath, String.toList_append,
    String.toList_intercalate, List.map_map]
  change '/' :: writeElements (elements.map fun element => ⟨none, element, 0⟩) = _
  rw [written]
  congr 2
  apply List.map_congr_left
  intro element _
  exact (String.toList_ofList).symm

/-! ## Reading elements back -/

theorem PathPredicate.chars_append_inj
    {first second : PathPredicate} {rest others : List Char}
    (same : first.chars ++ rest = second.chars ++ others) : first = second ∧ rest = others := by
  rw [PathPredicate.chars, PathPredicate.chars, List.cons_append, List.cons_append,
    List.append_assoc, List.append_assoc, List.singleton_append, List.singleton_append] at same
  obtain ⟨inner, after⟩ := first.inner_balanced.append_closing_inj (by decide)
    second.inner_balanced (List.cons.inj same).2
  -- a key ends at the first equals sign
  have reads : ∀ predicate : PathPredicate,
      predicate.inner.takeWhile (· ≠ '=') = predicate.key ∧
        predicate.inner.dropWhile (· ≠ '=') = '=' :: predicate.value := by
    intro predicate
    have unended : ∀ char ∈ predicate.key, decide (char ≠ '=') = true := by
      intro char member
      apply decide_eq_true
      rintro rfl
      exact predicate.bareKey member
    rw [PathPredicate.inner, List.takeWhile_append_of_pos unended,
      List.dropWhile_append_of_pos unended, List.takeWhile_cons_of_neg (by decide),
      List.dropWhile_cons_of_neg (by decide), List.append_nil]
    exact ⟨rfl, rfl⟩
  have keys : first.key = second.key := by
    rw [← (reads first).1, ← (reads second).1, inner]
  have values : first.value = second.value := by
    have tails := (reads first).2
    rw [inner, (reads second).2] at tails
    exact (List.cons.inj tails).2.symm
  obtain ⟨key, value, _, _, _⟩ := first
  obtain ⟨otherKey, otherValue, _, _, _⟩ := second
  obtain rfl : key = otherKey := keys
  obtain rfl : value = otherValue := values
  exact ⟨rfl, after⟩

theorem predicates_chars_inj
    {first second : List PathPredicate}
    (same : first.flatMap PathPredicate.chars = second.flatMap PathPredicate.chars) :
    first = second := by
  induction first generalizing second with
  | nil =>
      cases second with
      | nil => rfl
      | cons predicate rest => cases same
  | cons predicate rest induction =>
      cases second with
      | nil => cases same
      | cons other others =>
          rw [List.flatMap_cons, List.flatMap_cons] at same
          obtain ⟨rfl, later⟩ := PathPredicate.chars_append_inj same
          rw [induction later]

/-- Elements with one text are one element. -/
theorem PathElement.chars_inj
    (words : AsciiWords text) {first second : PathElement text}
    (same : first.chars = second.chars) : first = second := by
  obtain ⟨firstName, firstPredicates⟩ := first.takeWhile_chars words
  obtain ⟨secondName, secondPredicates⟩ := second.takeWhile_chars words
  rw [same, secondName] at firstName
  rw [same, secondPredicates] at firstPredicates
  obtain ⟨⟨chars, _, _⟩, predicates⟩ := first
  obtain ⟨⟨otherChars, _, _⟩, otherPredicates⟩ := second
  obtain rfl : otherChars = chars := firstName
  obtain rfl : otherPredicates = predicates := predicates_chars_inj firstPredicates
  rfl

/-- The form callers request has the elements it was written from. -/
theorem requestPath_inj
    (words : AsciiWords text) {first second : List (PathElement text)}
    (same : requestPath first = requestPath second) : first = second := by
  have reads : ∀ elements : List (PathElement text),
      presentElements (requestPath elements).toList = elements.map PathElement.chars := by
    intro elements
    rw [← path_requestForm, DeviceForm.path, String.toList_ofList, presentElements_form words,
      requestForm, List.map_map]
    rfl
  have chars : first.map PathElement.chars = second.map PathElement.chars := by
    rw [← reads first, same, reads second]
  exact List.map_injective_iff.2 (fun _ _ => PathElement.chars_inj words) chars

end Snapl.Collector
