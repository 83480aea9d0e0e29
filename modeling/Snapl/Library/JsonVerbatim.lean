import Snapl.Library.JsonVolume

/-!
# Verbatim strings in laid-out JSON texts

A string that is put between quotes as it is, and has a line break soon after
the closing quote, gives a reader at most its own number of characters, and
fewer when it holds a quote or a backslash: whatever literal it opens has to be
closed before the line break.  So a laid-out text that is decoded to a value of
the volume it was meant to have holds all of its strings verbatim.
-/

namespace Snapl.Library.JsonText

open Json

/-! ## Strings put between quotes as they are -/

/--
The text is a literal's body, its closing quote and the rest.  The body has no
line break and at least as many characters as the string, and if it has no more
it is plain.
-/
def Literal (text decoded rest : List Char) : Prop :=
  ∃ body, text = body ++ '"' :: rest ∧ '\n' ∉ body ∧ decoded.length ≤ body.length ∧
    (decoded.length = body.length → ∀ char ∈ body, Plain char)

namespace Literal

variable {text decoded rest : List Char}

theorem escape
    (literal : Literal text decoded rest) {before : List Char} (noBreak : '\n' ∉ before)
    (long : 2 ≤ before.length) (char : Char) :
    Literal (before ++ text) (char :: decoded) rest := by
  obtain ⟨body, rfl, noBreakBody, bound, -⟩ := literal
  refine ⟨before ++ body, ?_, ?_, ?_, ?_⟩
  · rw [List.append_assoc]
  · rw [List.mem_append, not_or]
    exact ⟨noBreak, noBreakBody⟩
  · rw [List.length_cons, List.length_append]
    omega
  · intro same
    rw [List.length_cons, List.length_append] at same
    omega

theorem plain
    (literal : Literal text decoded rest) {char : Char} (isPlain : Plain char) :
    Literal (char :: text) (char :: decoded) rest := by
  obtain ⟨body, rfl, noBreak, bound, isPlainBody⟩ := literal
  refine ⟨char :: body, rfl, ?_, Nat.succ_le_succ bound, ?_⟩
  · rw [List.mem_cons, not_or]
    refine ⟨?_, noBreak⟩
    rintro rfl
    exact absurd isPlain.2.2 (by decide)
  · intro same other member
    rcases List.mem_cons.1 member with rfl | later
    · exact isPlain
    · exact isPlainBody (Nat.succ.inj same) other later

end Literal

theorem prepend_eq_some
    {char : Char} {read : Option (List Char × List Char)} {decoded rest : List Char}
    (prepended : prepend char read = some (decoded, rest)) :
    ∃ tail, read = some (tail, rest) ∧ decoded = char :: tail := by
  rw [prepend] at prepended
  obtain ⟨⟨tail, after⟩, isRead, same⟩ := Option.map_eq_some_iff.1 prepended
  obtain ⟨rfl, rfl⟩ := Prod.mk.inj same
  exact ⟨tail, isRead, rfl⟩

theorem hexDigits_of_codeUnit?
    {first second third fourth : Char} (read : (codeUnit? first second third fourth).isSome) :
    '\n' ∉ [first, second, third, fourth] := by
  intro member
  have none : hexValue? '\n' = none := by decide
  simp only [List.mem_cons, List.not_mem_nil, or_false] at member
  rw [codeUnit?] at read
  rcases member with rfl | rfl | rfl | rfl
  · rw [none] at read
    cases read
  · rw [none] at read
    split at read
    · contradiction
    · cases read
  · rw [none] at read
    split at read
    · contradiction
    · cases read
  · rw [none] at read
    split at read
    · contradiction
    · cases read

/-- What the reader takes for a string is a literal of the text. -/
theorem literal_of_scanString
    {text decoded rest : List Char} (scanned : scanString text = some (decoded, rest)) :
    Literal text decoded rest := by
  fun_induction scanString text generalizing decoded rest with
  | case2 after =>
      cases scanned
      exact ⟨[], rfl, List.not_mem_nil, le_rfl, fun _ _ member => by cases member⟩
  | case5 a b c d unit read slash marker e f g h after pair _ induction =>
      obtain ⟨tail, isRead, rfl⟩ := prepend_eq_some scanned
      obtain ⟨-, rfl, rfl, low⟩ := pair
      have first := @hexDigits_of_codeUnit? a b c d (by rw [read]; rfl)
      have second := @hexDigits_of_codeUnit? e f g h (by
        rcases unread : codeUnit? e f g h with _ | lowUnit
        · rw [unread] at low
          cases low
        · rfl)
      have noBreak : '\n' ∉ ['\\', 'u', a, b, c, d, '\\', 'u', e, f, g, h] := by
        simp only [List.mem_cons, List.not_mem_nil, or_false, not_or] at first second ⊢
        exact ⟨by decide, by decide, first.1, first.2.1, first.2.2.1, first.2.2.2, by decide,
          by decide, second⟩
      exact (induction isRead).escape noBreak (by simp) _
  | case6 a b c d unit read slash marker e f g h after _ _ induction =>
      obtain ⟨tail, isRead, rfl⟩ := prepend_eq_some scanned
      have digits := @hexDigits_of_codeUnit? a b c d (by rw [read]; rfl)
      have noBreak : '\n' ∉ ['\\', 'u', a, b, c, d] := by
        rw [List.mem_cons, List.mem_cons, not_or, not_or]
        exact ⟨by decide, by decide, digits⟩
      exact (induction isRead).escape noBreak (by simp) _
  | case7 a b c d unit read after _ _ induction =>
      obtain ⟨tail, isRead, rfl⟩ := prepend_eq_some scanned
      have digits := @hexDigits_of_codeUnit? a b c d (by rw [read]; rfl)
      have noBreak : '\n' ∉ ['\\', 'u', a, b, c, d] := by
        rw [List.mem_cons, List.mem_cons, not_or, not_or]
        exact ⟨by decide, by decide, digits⟩
      exact (induction isRead).escape noBreak (by simp) _
  | case9 escape after _ char simple _ induction =>
      obtain ⟨tail, isRead, rfl⟩ := prepend_eq_some scanned
      have noBreak : '\n' ∉ ['\\', escape] := by
        rw [List.mem_cons, List.mem_singleton, not_or]
        refine ⟨by decide, ?_⟩
        rintro rfl
        have none : simpleEscape? '\n' = none := by decide
        rw [none] at simple
        cases simple
      exact (induction isRead).escape noBreak (by simp) _
  | case12 char after notQuote notSlash printable induction =>
      obtain ⟨tail, isRead, rfl⟩ := prepend_eq_some scanned
      exact (induction isRead).plain ⟨notQuote, notSlash, Nat.not_lt.1 printable⟩
  | _ => cases scanned

/-- A text that has a line break at once or after a comma. -/
def Broken (text : List Char) : Prop :=
  ∃ rest, text = '\n' :: rest ∨ text = ',' :: '\n' :: rest

/-- No literal is closed behind the line break. -/
theorem not_closed_of_broken
    {text body rest : List Char} (broken : Broken text) (noBreak : '\n' ∉ body) :
    text ≠ body ++ '"' :: rest := by
  intro whole
  obtain ⟨after, rfl | rfl⟩ := broken
  · rcases body with _ | ⟨char, body⟩
    · cases whole
    · cases whole
      exact noBreak List.mem_cons_self
  · rcases body with _ | ⟨char, _ | ⟨next, body⟩⟩
    · cases whole
    · cases whole
    · cases whole
      exact noBreak (List.mem_cons_of_mem _ List.mem_cons_self)

/-- After an opening quote the rest of a string and its closing quote. -/
def Encloses (chars tail : List Char) : Prop :=
  ∀ {decoded after count}, scanString (chars ++ '"' :: tail) = some (decoded, after) →
    Lexed after [] count →
    ∃ more, Lexed tail [] more ∧ decoded.length + count ≤ chars.length + more ∧
      (decoded.length + count = chars.length + more → ∀ char ∈ chars, Plain char)

/-- Outside of a string the rest of a string and its closing quote. -/
def Exposes (chars tail : List Char) : Prop :=
  ∀ {count}, Lexed (chars ++ '"' :: tail) [] count →
    ∃ more, Lexed tail [] more ∧ count < chars.length + more

theorem exposes_of_shorter
    {chars tail : List Char} (broken : Broken tail)
    (shorter : ∀ rest, rest.length < chars.length → Encloses rest tail) :
    Exposes chars tail := by
  intro count lexed
  induction chars generalizing count with
  | nil =>
      cases lexed with
      | skip notQuote _ => exact absurd rfl notQuote
      | string scanned _ =>
          obtain ⟨body, whole, noBreak, -, -⟩ := literal_of_scanString scanned
          exact absurd whole (not_closed_of_broken broken noBreak)
  | cons char rest induction =>
      cases lexed with
      | skip _ later =>
          obtain ⟨more, lexedTail, bound⟩ := induction
            (fun others less => shorter others (Nat.lt_succ_of_lt less)) later
          exact ⟨more, lexedTail, by rw [List.length_cons]; omega⟩
      | string scanned later =>
          obtain ⟨more, lexedTail, bound, -⟩ :=
            shorter rest (by rw [List.length_cons]; omega) scanned later
          exact ⟨more, lexedTail, by rw [List.length_cons]; omega⟩

theorem encloses (chars : List Char) {tail : List Char} (broken : Broken tail) :
    Encloses chars tail := by
  induction length : chars.length using Nat.strong_induction_on generalizing chars with
  | h size induction =>
      intro decoded after count scanned lexed
      obtain ⟨body, whole, noBreak, bound, isPlain⟩ := literal_of_scanString scanned
      rcases List.append_eq_append_iff.1 whole with ⟨beyond, rfl, tailWhole⟩ | ⟨left, rfl, rest⟩
      · -- The literal goes at least as far as the closing quote.
        rcases beyond with _ | ⟨quote, beyond⟩
        · rw [List.nil_append, List.cons.injEq] at tailWhole
          obtain ⟨-, rfl⟩ := tailWhole
          rw [List.append_nil] at bound isPlain
          exact ⟨count, lexed, Nat.add_le_add_right bound count,
            fun same => isPlain (Nat.add_right_cancel same)⟩
        · rw [List.cons_append, List.cons.injEq] at tailWhole
          have noBreakBeyond : '\n' ∉ beyond := fun member =>
            noBreak (List.mem_append_right _ (List.mem_cons_of_mem _ member))
          exact absurd tailWhole.2 (not_closed_of_broken broken noBreakBeyond)
      · -- The literal ends before it.
        rcases left with _ | ⟨quote, left⟩
        · rw [List.nil_append, List.cons.injEq] at rest
          obtain ⟨-, rfl⟩ := rest
          rw [List.append_nil]
          exact ⟨count, lexed, Nat.add_le_add_right bound count,
            fun same => isPlain (Nat.add_right_cancel same)⟩
        · rw [List.cons_append, List.cons.injEq] at rest
          obtain ⟨-, rfl⟩ := rest
          rw [List.length_append, List.length_cons] at length
          have exposed : Exposes left tail := by
            apply exposes_of_shorter broken
            intro others less
            exact induction others.length (by omega) others rfl
          obtain ⟨more, lexedTail, less⟩ := exposed lexed
          refine ⟨more, lexedTail, ?_, ?_⟩
          · rw [List.length_append, List.length_cons]
            omega
          · intro same
            rw [List.length_append, List.length_cons] at same
            omega

/-! ## Laid-out texts -/

/--
In front of the tail, the strings of the text hold at most the volume of the
value, and if they hold as much everything in it is verbatim.
-/
def HoldsBefore (tail text : List Char) (value : Json) (verbatim : Prop) : Prop :=
  ∀ ⦃count⦄, Lexed (text ++ tail) [] count →
    ∃ more, Lexed tail [] more ∧ count ≤ value.volume + more ∧
      (count = value.volume + more → verbatim)

/-- The same in front of every text that has a line break soon. -/
def Holds (text : List Char) (value : Json) (verbatim : Prop) : Prop :=
  ∀ tail, Broken tail → HoldsBefore tail text value verbatim

/-- A string that is put between quotes as it is. -/
theorem Holds.quoted (chars : List Char) :
    Holds (quoted chars) (.str (String.ofList chars)) (∀ char ∈ chars, Plain char) := by
  intro tail broken count lexed
  rw [JsonText.quoted, List.cons_append, List.append_assoc, List.singleton_append] at lexed
  cases lexed with
  | skip notQuote _ => exact absurd rfl notQuote
  | string scanned later =>
      rw [Json.volume, String.length_ofList]
      exact encloses chars broken scanned later

/-- A string that is escaped. -/
theorem Holds.escaped {body chars : List Char} (reads : ReadsChars body chars) :
    Holds ('"' :: (body ++ ['"'])) (.str (String.ofList chars)) True := by
  intro tail _ count lexed
  rw [List.cons_append, List.append_assoc, List.singleton_append] at lexed
  cases lexed with
  | skip notQuote _ => exact absurd rfl notQuote
  | @string _ _ _ _ more scanned later =>
      rw [reads.closed, Option.some.injEq, Prod.mk.injEq] at scanned
      obtain ⟨rfl, rfl⟩ := scanned
      rw [Json.volume, String.length_ofList]
      exact ⟨more, later, le_rfl, fun _ => trivial⟩

theorem Lexed.of_silent
    {before rest : List Char} {count : Nat} (noQuote : '"' ∉ before)
    (lexed : Lexed (before ++ rest) [] count) : Lexed rest [] count := by
  induction before with
  | nil => exact lexed
  | cons char before induction =>
      rw [List.mem_cons, not_or] at noQuote
      cases lexed with
      | skip _ later => exact induction noQuote.2 later
      | string _ _ => exact absurd rfl noQuote.1

/-- A text without quotes holds no strings. -/
theorem Holds.silent {text : List Char} (noQuote : '"' ∉ text) (value : Json) :
    Holds text value True := by
  intro tail _ count lexed
  exact ⟨count, lexed.of_silent noQuote, Nat.le_add_left _ _, fun _ => trivial⟩

/-- White space that starts with a line break. -/
def Spaced (before : List Char) : Prop := (∃ rest, before = '\n' :: rest) ∧ '"' ∉ before

theorem Spaced.intro {rest : List Char} (noQuote : '"' ∉ rest) : Spaced ('\n' :: rest) := by
  refine ⟨⟨rest, rfl⟩, ?_⟩
  rw [List.mem_cons, not_or]
  exact ⟨by decide, noQuote⟩

theorem Spaced.broken {before : List Char} (spaced : Spaced before) (rest : List Char) :
    Broken (before ++ rest) := by
  obtain ⟨⟨inner, rfl⟩, -⟩ := spaced
  exact ⟨inner ++ rest, Or.inl rfl⟩

theorem Spaced.broken_comma {before : List Char} (spaced : Spaced before) (rest : List Char) :
    Broken (',' :: (before ++ rest)) := by
  obtain ⟨⟨inner, rfl⟩, -⟩ := spaced
  exact ⟨inner ++ rest, Or.inr rfl⟩

/-- Pieces that are weighed one by one. -/
structure Weighed {Item : Type} (limit : Item → Nat) (verbatim : Item → Prop)
    (item : Item) (piece : List Char × List Char) : Prop where
  spaced : Spaced piece.1
  weighs : ∀ {tail count}, Broken tail → Lexed (piece.2 ++ tail) [] count →
    ∃ more, Lexed tail [] more ∧ count ≤ limit item + more ∧
      (count = limit item + more → verbatim item)

section

variable {Item : Type} {limit : Item → Nat} {verbatim : Item → Prop}
variable {close : List Char} {bracket : Char}

/-- The pieces after the first, each with its comma, and the closing bracket. -/
theorem weigh_rest
    (spacedClose : Spaced close) (notQuote : bracket ≠ '"') {items : List Item}
    {pieces : List (List Char × List Char)}
    (weighed : List.Forall₂ (Weighed limit verbatim) items pieces) (tail : List Char) :
    Broken ((pieces.flatMap fun other => ',' :: (other.1 ++ other.2)) ++
        (close ++ bracket :: tail)) ∧
    ∀ {count}, Lexed ((pieces.flatMap fun other => ',' :: (other.1 ++ other.2)) ++
        (close ++ bracket :: tail)) [] count →
      ∃ more, Lexed tail [] more ∧ count ≤ (items.map limit).sum + more ∧
        (count = (items.map limit).sum + more → ∀ item ∈ items, verbatim item) := by
  induction weighed with
  | nil =>
      refine ⟨spacedClose.broken _, ?_⟩
      intro count lexed
      have closed : Lexed (bracket :: tail) [] count := lexed.of_silent spacedClose.2
      cases closed with
      | skip _ later =>
          refine ⟨count, later, ?_, fun _ item member => by cases member⟩
          rw [List.map_nil, List.sum_nil, Nat.zero_add]
      | string _ _ => exact absurd rfl notQuote
  | @cons item piece items pieces first _ induction =>
      have shape : ((piece :: pieces).flatMap fun other => ',' :: (other.1 ++ other.2)) ++
            (close ++ bracket :: tail) =
          ',' :: (piece.1 ++ (piece.2 ++
            ((pieces.flatMap fun other => ',' :: (other.1 ++ other.2)) ++
              (close ++ bracket :: tail)))) := by
        simp only [List.flatMap_cons, List.cons_append, List.append_assoc]
      rw [shape]
      refine ⟨first.spaced.broken_comma _, ?_⟩
      intro count lexed
      cases lexed with
      | skip _ later =>
          obtain ⟨middle, lexedMiddle, bound, verbatimFirst⟩ :=
            first.weighs induction.1 (later.of_silent first.spaced.2)
          obtain ⟨more, lexedTail, boundRest, verbatimRest⟩ := induction.2 lexedMiddle
          rw [List.map_cons, List.sum_cons]
          refine ⟨more, lexedTail, by omega, ?_⟩
          intro same other member
          rcases List.mem_cons.1 member with rfl | member
          · exact verbatimFirst (by omega)
          · exact verbatimRest (by omega) other member

/-- All pieces and the closing bracket. -/
theorem weigh_separated
    (spacedClose : Spaced close) (notQuote : bracket ≠ '"') {items : List Item}
    {pieces : List (List Char × List Char)}
    (weighed : List.Forall₂ (Weighed limit verbatim) items pieces) {tail : List Char}
    {count : Nat} (lexed : Lexed (separated pieces ++ (close ++ bracket :: tail)) [] count) :
    ∃ more, Lexed tail [] more ∧ count ≤ (items.map limit).sum + more ∧
      (count = (items.map limit).sum + more → ∀ item ∈ items, verbatim item) := by
  cases weighed with
  | nil => exact (weigh_rest spacedClose notQuote List.Forall₂.nil tail).2 lexed
  | @cons item piece items pieces first rest =>
      obtain ⟨broken, weighRest⟩ := weigh_rest spacedClose notQuote rest tail
      rw [separated, List.append_assoc, List.append_assoc] at lexed
      obtain ⟨middle, lexedMiddle, bound, verbatimFirst⟩ :=
        first.weighs broken (lexed.of_silent first.spaced.2)
      obtain ⟨more, lexedTail, boundRest, verbatimRest⟩ := weighRest lexedMiddle
      rw [List.map_cons, List.sum_cons]
      refine ⟨more, lexedTail, by omega, ?_⟩
      intro same other member
      rcases List.mem_cons.1 member with rfl | member
      · exact verbatimFirst (by omega)
      · exact verbatimRest (by omega) other member

end

theorem volumeItems_map {Item : Type} (value : Item → Json) (items : List Item) :
    volumeItems (items.map value) = (items.map fun item => (value item).volume).sum := by
  induction items with
  | nil => rfl
  | cons item rest induction =>
      rw [List.map_cons, volumeItems, induction, List.map_cons, List.sum_cons]

/-- A laid-out list holds what its items hold. -/
theorem holdsBefore_listText
    {Item : Type} {value : Item → Json} {verbatim : Item → Prop} {before close : List Char}
    (spaced : Spaced before) (spacedClose : Spaced close) {items : List Item}
    {texts : List (List Char)}
    (holds : List.Forall₂ (fun item text => Holds text (value item) (verbatim item)) items texts)
    (tail : List Char) :
    HoldsBefore tail (listText before close texts) (.arr (items.map value))
      (∀ item ∈ items, verbatim item) := by
  intro count lexed
  have weighed : List.Forall₂
      (Weighed (fun item => (value item).volume) verbatim) items
      (texts.map fun text => (before, text)) := by
    rw [List.forall₂_map_right_iff]
    apply holds.imp
    intro item text holdsText
    exact ⟨spaced, fun {tail _} broken lexed => holdsText tail broken lexed⟩
  rw [listText, List.cons_append, List.append_assoc, List.append_assoc,
    List.singleton_append] at lexed
  cases lexed with
  | skip _ later =>
      rw [Json.volume, volumeItems_map]
      exact weigh_separated spacedClose (by decide) weighed later

/-- A field of a laid-out dictionary, and what it means for it to be verbatim. -/
structure FieldHolds (field : (String × Json) × Prop) (member : Member) : Prop where
  spaced : Spaced member.before
  key : member.key = field.1.1
  plain : ∀ char ∈ member.key.toList, Plain char
  holds : Holds member.value field.1.2 field.2

theorem FieldHolds.intro
    {before text : List Char} {key : String} {value : Json} {verbatim : Prop}
    (spaced : Spaced before) (plain : ∀ char ∈ key.toList, Plain char)
    (holds : Holds text value verbatim) :
    FieldHolds ((key, value), verbatim) ⟨before, key, text⟩ :=
  ⟨spaced, rfl, plain, holds⟩

theorem volumeFields_map {Item : Type} (field : Item → String × Json) (items : List Item) :
    volumeFields (items.map field) =
      (items.map fun item => (field item).1.length + (field item).2.volume).sum := by
  induction items with
  | nil => rfl
  | cons item rest induction =>
      rw [List.map_cons, volumeFields, induction, List.map_cons, List.sum_cons]

theorem weighed_member
    {field : (String × Json) × Prop} {member : Member} (holds : FieldHolds field member) :
    Weighed (fun field : (String × Json) × Prop => field.1.1.length + field.1.2.volume)
      (fun field => field.2) field member.piece where
  spaced := holds.spaced
  weighs := by
    intro tail count broken lexed
    have shape : member.piece.2 ++ tail =
        '"' :: (member.key.toList ++ '"' :: (':' :: ' ' :: (member.value ++ tail))) := by
      simp only [Member.piece, List.cons_append, List.append_assoc]
    rw [shape] at lexed
    cases lexed with
    | skip notQuote _ => exact absurd rfl notQuote
    | @string _ _ _ _ counted scanned later =>
        rw [(ReadsChars.verbatim holds.plain).closed, Option.some.injEq, Prod.mk.injEq] at scanned
        obtain ⟨rfl, rfl⟩ := scanned
        have opened : Lexed (member.value ++ tail) [] counted :=
          @Lexed.of_silent [':', ' '] _ _ (by decide) later
        obtain ⟨more, lexedTail, bound, verbatim⟩ := holds.holds tail broken opened
        have length : member.key.toList.length = field.1.1.length := by
          rw [holds.key, String.length_toList]
        refine ⟨more, lexedTail, by omega, ?_⟩
        intro same
        exact verbatim (by omega)

/-- A laid-out dictionary holds what its members hold. -/
theorem holdsBefore_dictionaryText
    {close : List Char} (spacedClose : Spaced close) {fields : List ((String × Json) × Prop)}
    {members : List Member} (holds : List.Forall₂ FieldHolds fields members)
    (tail : List Char) :
    HoldsBefore tail (dictionaryText close members) (.obj (fields.map Prod.fst))
      (∀ field ∈ fields, field.2) := by
  intro count lexed
  have weighed : List.Forall₂
      (Weighed (fun field : (String × Json) × Prop => field.1.1.length + field.1.2.volume)
        fun field => field.2) fields (members.map Member.piece) := by
    rw [List.forall₂_map_right_iff]
    exact holds.imp fun _ _ holdsMember => weighed_member holdsMember
  rw [dictionaryText, List.cons_append, List.append_assoc, List.append_assoc,
    List.singleton_append] at lexed
  cases lexed with
  | skip _ later =>
      rw [Json.volume, volumeFields_map]
      exact weigh_separated spacedClose (by decide) weighed later

/-- A text that is decoded to a value equal to the one it was meant for is verbatim. -/
theorem verbatim_of_loads
    {text : List Char} {value decoded : Json} {verbatim : Prop}
    (holds : HoldsBefore [] text value verbatim) (distinct : value.distinctKeys = true)
    (loaded : loads text = .ok decoded) (equal : value.pyEq decoded = true) : verbatim := by
  obtain ⟨count, lexed, bound⟩ := volume_of_loads loaded
  rw [← List.append_nil text] at lexed
  obtain ⟨more, lexedTail, limit, isVerbatim⟩ := holds lexed
  obtain rfl : more = 0 := lexedTail.unique (Lexed.refl [])
  have intended := volume_le_of_pyEq distinct equal
  exact isVerbatim (by omega)

end Snapl.Library.JsonText
