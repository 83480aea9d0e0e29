import Snapl.Library.JsonLayout
import Snapl.Library.JsonValues

/-!
# How much text the strings of a JSON text hold

The volume of a value is the number of characters in its strings, keys
included.  A reader takes its strings from the string literals of the text it
reads, and a repeated key loses what it held before, so the volume of the value
is at most the volume of the literals.
-/

namespace Snapl.Library

namespace Json

/-! ## Volume -/

mutual

/-- The number of characters in the strings of a value, keys included. -/
def volume : Json → Nat
  | .null => 0
  | .bool _ => 0
  | .int _ => 0
  | .float _ => 0
  | .str value => value.length
  | .arr items => volumeItems items
  | .obj fields => volumeFields fields

/-- The volume of the items of a list. -/
def volumeItems : List Json → Nat
  | [] => 0
  | item :: rest => item.volume + volumeItems rest

/-- The volume of the fields of a dictionary. -/
def volumeFields : List (String × Json) → Nat
  | [] => 0
  | (key, value) :: rest => key.length + value.volume + volumeFields rest

end

theorem volumeItems_append (first second : List Json) :
    volumeItems (first ++ second) = volumeItems first + volumeItems second := by
  induction first with
  | nil => rw [List.nil_append, volumeItems, Nat.zero_add]
  | cons item rest induction =>
      rw [List.cons_append, volumeItems, volumeItems, induction, Nat.add_assoc]

theorem volumeFields_append (first second : List (String × Json)) :
    volumeFields (first ++ second) = volumeFields first + volumeFields second := by
  induction first with
  | nil => rw [List.nil_append, volumeFields, Nat.zero_add]
  | cons field rest induction =>
      obtain ⟨key, value⟩ := field
      rw [List.cons_append, volumeFields, volumeFields, induction]
      omega

/-- Assigning a key adds at most the key and its value. -/
theorem volumeFields_assign_le (fields : List (String × Json)) (key : String) (value : Json) :
    volumeFields (assign fields key value) ≤ volumeFields fields + (key.length + value.volume) := by
  induction fields with
  | nil =>
      rw [assign, volumeFields, volumeFields]
      exact Nat.le_of_eq (Nat.add_comm _ _)
  | cons field rest induction =>
      obtain ⟨present, current⟩ := field
      rw [assign]
      split_ifs with same
      · rw [volumeFields, volumeFields, same]
        omega
      · rw [volumeFields, volumeFields]
        omega

/-- The first entry of a key, and what is before and after it. -/
theorem exists_split_of_lookup
    {fields : List (String × Json)} {name : String} {value : Json}
    (found : fields.lookup name = some value) :
    ∃ before after, fields = before ++ (name, value) :: after ∧ name ∉ before.map Prod.fst := by
  induction fields with
  | nil => cases found
  | cons field rest induction =>
      obtain ⟨key, current⟩ := field
      by_cases same : name = key
      · subst same
        rw [List.lookup_cons_self, Option.some.injEq] at found
        subst found
        exact ⟨[], rest, rfl, List.not_mem_nil⟩
      · rw [lookup_cons_of_ne _ _ same] at found
        obtain ⟨before, after, rfl, absent⟩ := induction found
        refine ⟨(key, current) :: before, after, rfl, ?_⟩
        rw [List.map_cons, List.mem_cons, not_or]
        exact ⟨same, absent⟩

theorem lookup_append_cons_of_ne
    (before after : List (String × Json)) {name other : String} (value : Json)
    (different : other ≠ name) :
    (before ++ (name, value) :: after).lookup other = (before ++ after).lookup other := by
  induction before with
  | nil => exact lookup_cons_of_ne _ _ different
  | cons field rest induction =>
      obtain ⟨key, current⟩ := field
      by_cases same : other = key
      · subst same
        rw [List.cons_append, List.cons_append, List.lookup_cons_self, List.lookup_cons_self]
      · rw [List.cons_append, List.cons_append, lookup_cons_of_ne _ _ same,
          lookup_cons_of_ne _ _ same, induction]

theorem volumeFields_le_of_pyEqFields
    {fields : List (String × Json)} (distinct : (fields.map Prod.fst).Nodup)
    (values : ∀ field ∈ fields, ∀ other, field.2.pyEq other = true →
      field.2.volume ≤ other.volume)
    {others : List (String × Json)} (equal : pyEqFields fields others = true) :
    volumeFields fields ≤ volumeFields others := by
  induction fields generalizing others with
  | nil => exact Nat.zero_le _
  | cons field rest induction =>
      obtain ⟨name, value⟩ := field
      rw [List.map_cons, List.nodup_cons] at distinct
      rw [pyEqFields, Bool.and_eq_true] at equal
      obtain ⟨first, later⟩ := equal
      rcases found : others.lookup name with _ | other
      · rw [found] at first
        cases first
      · rw [found] at first
        obtain ⟨before, after, rfl, -⟩ := exists_split_of_lookup found
        have laterRest : pyEqFields rest (before ++ after) = true := by
          have lookups : ∀ key ∈ rest.map Prod.fst,
              (before ++ (name, other) :: after).lookup key = (before ++ after).lookup key := by
            intro key member
            apply lookup_append_cons_of_ne
            rintro rfl
            exact distinct.1 member
          clear induction values distinct found
          induction rest with
          | nil => rfl
          | cons field rest induction =>
              obtain ⟨key, current⟩ := field
              rw [pyEqFields, lookups key List.mem_cons_self, Bool.and_eq_true] at later
              rw [pyEqFields, Bool.and_eq_true]
              exact ⟨later.1, induction later.2 fun key member =>
                lookups key (List.mem_cons_of_mem _ member)⟩
        have bound := induction distinct.2
          (fun field member => values field (List.mem_cons_of_mem _ member)) laterRest
        have boundFirst := values (name, value) List.mem_cons_self other first
        dsimp only at boundFirst
        rw [volumeFields_append] at bound ⊢
        rw [volumeFields, volumeFields]
        omega

/-- A value is not equal to one with less in it. -/
theorem volume_le_of_pyEq
    {value other : Json} (distinct : value.distinctKeys = true) (equal : value.pyEq other = true) :
    value.volume ≤ other.volume := by
  induction value using recursion generalizing other with
  | leaf value notList notDictionary =>
      cases value with
      | str text =>
          rw [pyEq_str_iff] at equal
          rw [equal]
      | arr items => exact absurd rfl (notList items)
      | obj fields => exact absurd rfl (notDictionary fields)
      | null => exact Nat.zero_le _
      | bool _ => exact Nat.zero_le _
      | int _ => exact Nat.zero_le _
      | float _ => exact Nat.zero_le _
  | list items induction =>
      rw [distinctKeys_arr_iff] at distinct
      cases other with
      | arr others =>
          rw [pyEq] at equal
          rw [volume, volume]
          induction items generalizing others with
          | nil => exact Nat.zero_le _
          | cons item rest inductionRest =>
              cases others with
              | nil => cases equal
              | cons first others =>
                  rw [pyEqItems, Bool.and_eq_true] at equal
                  have bound := induction item List.mem_cons_self
                    (distinct item List.mem_cons_self) equal.1
                  have boundRest := inductionRest
                    (fun later member => induction later (List.mem_cons_of_mem _ member))
                    (fun later member => distinct later (List.mem_cons_of_mem _ member))
                    others equal.2
                  rw [volumeItems, volumeItems]
                  omega
      | _ => simp [pyEq, number?] at equal
  | dictionary fields induction =>
      rw [distinctKeys_obj_iff] at distinct
      cases other with
      | obj others =>
          rw [pyEq, Bool.and_eq_true] at equal
          rw [volume, volume]
          apply volumeFields_le_of_pyEqFields distinct.1 _ equal.2
          intro field member other equalField
          exact induction field member (distinct.2 field member) equalField
      | _ => simp [pyEq, number?] at equal

end Json

namespace JsonText

open Json

/-! ## The literals of a text -/

/--
The text down to the rest, read from outside of a string, holds that many
characters in string literals.
-/
inductive Lexed : List Char → List Char → Nat → Prop
  | refl (text : List Char) : Lexed text text 0
  | skip {char : Char} {text rest : List Char} {count : Nat}
      (notQuote : char ≠ '"') (lexed : Lexed text rest count) :
      Lexed (char :: text) rest count
  | string {text decoded after rest : List Char} {count : Nat}
      (scanned : scanString text = some (decoded, after)) (lexed : Lexed after rest count) :
      Lexed ('"' :: text) rest (decoded.length + count)

namespace Lexed

variable {text middle rest : List Char} {count more : Nat}

theorem trans (first : Lexed text middle count) (second : Lexed middle rest more) :
    Lexed text rest (count + more) := by
  induction first with
  | refl text =>
      rw [Nat.zero_add]
      exact second
  | skip notQuote _ induction => exact skip notQuote (induction second)
  | string scanned _ induction =>
      rw [Nat.add_assoc]
      exact string scanned (induction second)

theorem trans_silent (first : Lexed text middle 0) (second : Lexed middle rest more) :
    Lexed text rest more := by
  have whole := first.trans second
  rw [Nat.zero_add] at whole
  exact whole

/-- A text without quotes holds no strings. -/
theorem silent {before : List Char} (noQuote : '"' ∉ before) (rest : List Char) :
    Lexed (before ++ rest) rest 0 := by
  induction before with
  | nil => exact refl rest
  | cons char before induction =>
      rw [List.mem_cons, not_or] at noQuote
      exact skip (Ne.symm noQuote.1) (induction noQuote.2)

theorem dropWhile {property : Char → Bool} (noQuote : property '"' = false) (text : List Char) :
    Lexed text (text.dropWhile property) 0 := by
  have quoteless : '"' ∉ text.takeWhile property := by
    intro member
    have holds := List.all_eq_true.1 List.all_takeWhile _ member
    rw [noQuote] at holds
    cases holds
  have whole := silent quoteless (text.dropWhile property)
  rw [List.takeWhile_append_dropWhile] at whole
  exact whole

theorem skipSpace (text : List Char) : Lexed text (JsonText.skipSpace text) 0 :=
  dropWhile (by decide) text

/-- The end of a text is reached in one way. -/
theorem unique (first : Lexed text [] count) (second : Lexed text [] more) : count = more := by
  generalize ended : ([] : List Char) = rest at first
  induction first generalizing more with
  | refl text =>
      subst ended
      cases second
      rfl
  | skip notQuote _ induction =>
      cases second with
      | skip _ later => exact induction later ended
      | string _ _ => exact absurd rfl notQuote
  | string scanned _ induction =>
      cases second with
      | skip notQuote _ => exact absurd rfl notQuote
      | string scannedToo later =>
          rw [scanned, Option.some.injEq, Prod.mk.injEq] at scannedToo
          obtain ⟨rfl, rfl⟩ := scannedToo
          rw [induction later ended]

end Lexed

/-! ## What a reader reads -/

theorem lexed_scanInteger (text : List Char) : Lexed text (scanInteger text).2 0 := by
  rw [scanInteger.eq_def]
  split
  · exact Lexed.skip (by decide) (Lexed.refl _)
  · exact Lexed.dropWhile (by decide) _

theorem lexed_scanFraction (text : List Char) : Lexed text (scanFraction text).2 0 := by
  rw [scanFraction.eq_def]
  split
  · split_ifs
    · exact Lexed.refl _
    · exact Lexed.skip (by decide) (Lexed.dropWhile (by decide) _)
  · exact Lexed.refl _

theorem lexed_scanSignedDigits
    {text after : List Char} {value : Int} (scanned : scanSignedDigits text = some (value, after)) :
    Lexed text after 0 := by
  rw [scanSignedDigits.eq_def] at scanned
  dsimp only at scanned
  split at scanned
  · split at scanned
    · cases scanned
    · cases scanned
      exact Lexed.skip (by decide) (Lexed.dropWhile (by decide) _)
  · split at scanned
    · cases scanned
    · cases scanned
      exact Lexed.skip (by decide) (Lexed.dropWhile (by decide) _)
  · split at scanned
    · cases scanned
    · cases scanned
      exact Lexed.dropWhile (by decide) _

theorem lexed_scanExponent (text : List Char) : Lexed text (scanExponent text).2 0 := by
  rw [scanExponent.eq_def]
  split
  · next letter rest =>
    split_ifs with isLetter
    · split
      · next value after scanned =>
        apply Lexed.skip
        · rcases isLetter with rfl | rfl
          · decide
          · decide
        · exact lexed_scanSignedDigits scanned
      · exact Lexed.refl _
    · exact Lexed.refl _
  · exact Lexed.refl _

theorem volume_numberOfParts
    {negative : Bool} {digits fraction : List Char} {exponent : Option Int} {value : Json}
    (made : numberOfParts negative digits fraction exponent = some value) : value.volume = 0 := by
  rw [numberOfParts] at made
  dsimp only at made
  split at made
  · split at made
    · cases made
    · cases made
      rfl
  · cases made
    rfl

theorem lexed_scanNumber
    {text rest : List Char} {value : Json} (scanned : scanNumber text = some (value, rest)) :
    Lexed text rest 0 ∧ value.volume = 0 := by
  have signed : Lexed text (if text.head? = some '-' then text.tail else text) 0 := by
    split_ifs with isSigned
    · rcases text with _ | ⟨char, others⟩
      · exact Lexed.refl _
      · apply Lexed.skip _ (Lexed.refl _)
        rintro rfl
        simp at isSigned
    · exact Lexed.refl _
  have unsigned : ∀ body, Lexed text body 0 →
      (if (scanInteger body).1 = [] then none
        else (numberOfParts (text.head? = some '-') (scanInteger body).1
          (scanFraction (scanInteger body).2).1
          (scanExponent (scanFraction (scanInteger body).2).2).1).map fun number =>
            (number, (scanExponent (scanFraction (scanInteger body).2).2).2)) =
        some (value, rest) → Lexed text rest 0 ∧ value.volume = 0 := by
    intro body lexed read
    split_ifs at read
    obtain ⟨number, made, same⟩ := Option.map_eq_some_iff.1 read
    obtain ⟨rfl, rfl⟩ := Prod.mk.inj same
    refine ⟨?_, volume_numberOfParts made⟩
    apply lexed.trans_silent
    apply (lexed_scanInteger body).trans_silent
    apply (lexed_scanFraction _).trans_silent
    exact lexed_scanExponent _
  apply unsigned _ signed
  rw [← scanned, scanNumber]

/-- What a reader with this fuel returns was in the literals it passed over. -/
structure Accounts (fuel : Nat) : Prop where
  value : ∀ {text value rest}, parseValue fuel text = some (value, rest) →
    ∃ count, Lexed text rest count ∧ value.volume ≤ count
  item : ∀ {items text value rest}, parseItem fuel items text = some (value, rest) →
    ∃ count, Lexed text rest count ∧ value.volume ≤ volumeItems items + count
  items : ∀ {items text value rest}, itemTail fuel items text = some (value, rest) →
    ∃ count, Lexed text rest count ∧ value.volume ≤ volumeItems items + count
  member : ∀ {fields text value rest}, parseMember fuel fields text = some (value, rest) →
    ∃ count, Lexed ('"' :: text) rest count ∧ value.volume ≤ volumeFields fields + count
  members : ∀ {fields text value rest}, memberTail fuel fields text = some (value, rest) →
    ∃ count, Lexed text rest count ∧ value.volume ≤ volumeFields fields + count

theorem accounts_zero : Accounts 0 := by
  constructor
  · intro text value rest parsed
    cases parsed
  · intro items text value rest parsed
    cases parsed
  · intro items text value rest parsed
    cases parsed
  · intro fields text value rest parsed
    cases parsed
  · intro fields text value rest parsed
    cases parsed

section

variable {fuel : Nat} (accounts : Accounts fuel)

include accounts

theorem Accounts.value_succ
    {text rest : List Char} {value : Json}
    (parsed : parseValue (fuel + 1) text = some (value, rest)) :
    ∃ count, Lexed text rest count ∧ value.volume ≤ count := by
  rw [parseValue.eq_def] at parsed
  dsimp only at parsed
  split at parsed
  · obtain ⟨read, scanned, same⟩ := Option.map_eq_some_iff.1 parsed
    obtain ⟨rfl, rfl⟩ := Prod.mk.inj same
    refine ⟨_, Lexed.string scanned (Lexed.refl _), ?_⟩
    rw [Json.volume, String.length_ofList, Nat.add_zero]
  · next after =>
    have opened : Lexed ('{' :: after) (skipSpace after) 0 :=
      Lexed.skip (by decide) (Lexed.skipSpace after)
    split at parsed
    · next empty =>
      cases parsed
      rw [empty] at opened
      exact ⟨0, opened.trans_silent (Lexed.skip (by decide) (Lexed.refl _)), le_rfl⟩
    · next member =>
      obtain ⟨count, lexed, bound⟩ := accounts.member parsed
      rw [member] at opened
      rw [volumeFields, Nat.zero_add] at bound
      exact ⟨count, opened.trans_silent lexed, bound⟩
    · cases parsed
  · next after =>
    have opened : Lexed ('[' :: after) (skipSpace after) 0 :=
      Lexed.skip (by decide) (Lexed.skipSpace after)
    split at parsed
    · next empty =>
      cases parsed
      rw [empty] at opened
      exact ⟨0, opened.trans_silent (Lexed.skip (by decide) (Lexed.refl _)), le_rfl⟩
    · obtain ⟨count, lexed, bound⟩ := accounts.item parsed
      rw [volumeItems, Nat.zero_add] at bound
      exact ⟨count, opened.trans_silent lexed, bound⟩
  · cases parsed
    exact ⟨0, @Lexed.silent "null".toList (by decide) _, le_rfl⟩
  · cases parsed
    exact ⟨0, @Lexed.silent "true".toList (by decide) _, le_rfl⟩
  · cases parsed
    exact ⟨0, @Lexed.silent "false".toList (by decide) _, le_rfl⟩
  · cases parsed
    exact ⟨0, @Lexed.silent "NaN".toList (by decide) _, le_rfl⟩
  · cases parsed
    exact ⟨0, @Lexed.silent "Infinity".toList (by decide) _, le_rfl⟩
  · cases parsed
    exact ⟨0, @Lexed.silent "-Infinity".toList (by decide) _, le_rfl⟩
  · obtain ⟨lexed, noVolume⟩ := lexed_scanNumber parsed
    exact ⟨0, lexed, Nat.le_of_eq noVolume⟩

theorem Accounts.item_succ
    {items : List Json} {text rest : List Char} {value : Json}
    (parsed : parseItem (fuel + 1) items text = some (value, rest)) :
    ∃ count, Lexed text rest count ∧ value.volume ≤ volumeItems items + count := by
  rw [parseItem] at parsed
  split at parsed
  · next item after first =>
    obtain ⟨count, lexed, bound⟩ := accounts.value first
    obtain ⟨more, lexedRest, boundRest⟩ := accounts.items parsed
    rw [volumeItems_append, volumeItems, volumeItems] at boundRest
    exact ⟨count + more, lexed.trans lexedRest, by omega⟩
  · cases parsed

theorem Accounts.items_succ
    {items : List Json} {text rest : List Char} {value : Json}
    (parsed : itemTail (fuel + 1) items text = some (value, rest)) :
    ∃ count, Lexed text rest count ∧ value.volume ≤ volumeItems items + count := by
  have spaced := Lexed.skipSpace text
  rw [itemTail] at parsed
  split at parsed
  · next closed =>
    cases parsed
    rw [closed] at spaced
    refine ⟨0, spaced.trans_silent (Lexed.skip (by decide) (Lexed.refl _)), ?_⟩
    rw [Json.volume]
    exact Nat.le_add_right _ _
  · next after comma =>
    rw [comma] at spaced
    obtain ⟨count, lexed, bound⟩ := accounts.item parsed
    have opened : Lexed (',' :: after) (skipSpace after) 0 :=
      Lexed.skip (by decide) (Lexed.skipSpace after)
    exact ⟨count, spaced.trans_silent (opened.trans_silent lexed), bound⟩
  · cases parsed

theorem Accounts.member_succ
    {fields : List (String × Json)} {text rest : List Char} {value : Json}
    (parsed : parseMember (fuel + 1) fields text = some (value, rest)) :
    ∃ count, Lexed ('"' :: text) rest count ∧ value.volume ≤ volumeFields fields + count := by
  rw [parseMember] at parsed
  split at parsed
  · next name after scanned =>
    have spaced := Lexed.skipSpace after
    split at parsed
    · next afterColon colon =>
      rw [colon] at spaced
      have opened : Lexed (':' :: afterColon) (skipSpace afterColon) 0 :=
        Lexed.skip (by decide) (Lexed.skipSpace afterColon)
      split at parsed
      · next inner afterValue first =>
        obtain ⟨count, lexed, bound⟩ := accounts.value first
        obtain ⟨more, lexedRest, boundRest⟩ := accounts.members parsed
        have assigned := volumeFields_assign_le fields (String.ofList name) inner
        rw [String.length_ofList] at assigned
        refine ⟨name.length + (count + more), ?_, by omega⟩
        apply Lexed.string scanned
        exact spaced.trans_silent (opened.trans_silent (lexed.trans lexedRest))
      · cases parsed
    · cases parsed
  · cases parsed

theorem Accounts.members_succ
    {fields : List (String × Json)} {text rest : List Char} {value : Json}
    (parsed : memberTail (fuel + 1) fields text = some (value, rest)) :
    ∃ count, Lexed text rest count ∧ value.volume ≤ volumeFields fields + count := by
  have spaced := Lexed.skipSpace text
  rw [memberTail] at parsed
  split at parsed
  · next closed =>
    cases parsed
    rw [closed] at spaced
    refine ⟨0, spaced.trans_silent (Lexed.skip (by decide) (Lexed.refl _)), ?_⟩
    rw [Json.volume]
    exact Nat.le_add_right _ _
  · next after comma =>
    rw [comma] at spaced
    have opened : Lexed (',' :: after) (skipSpace after) 0 :=
      Lexed.skip (by decide) (Lexed.skipSpace after)
    split at parsed
    · next afterQuote quote =>
      rw [quote] at opened
      obtain ⟨count, lexed, bound⟩ := accounts.member parsed
      exact ⟨count, spaced.trans_silent (opened.trans_silent lexed), bound⟩
    · cases parsed
  · cases parsed

end

theorem accounts (fuel : Nat) : Accounts fuel := by
  induction fuel with
  | zero => exact accounts_zero
  | succ fuel induction =>
      exact ⟨induction.value_succ, induction.item_succ, induction.items_succ,
        induction.member_succ, induction.members_succ⟩

/-- What a whole text is decoded to was in its literals. -/
theorem volume_of_loads
    {text : List Char} {value : Json} (loaded : loads text = .ok value) :
    ∃ count, Lexed text [] count ∧ value.volume ≤ count := by
  rw [loads] at loaded
  split at loaded
  · next read rest parsed =>
    split_ifs at loaded with ended
    cases loaded
    obtain ⟨count, lexed, bound⟩ := (accounts _).value parsed
    have spaced := Lexed.skipSpace rest
    rw [ended] at spaced
    refine ⟨count + 0, ?_, bound⟩
    exact (Lexed.skipSpace text).trans_silent (lexed.trans spaced)
  · cases loaded

end JsonText

end Snapl.Library
