import Snapl.Library.FloatText
import Snapl.Library.JsonString

/-!
# Writing JSON documents

`json.dumps` with its default separators and ASCII-only strings.  An integer of
too many digits is refused; every other value of the language is written, and
`json.loads` gives it back.
-/

namespace Snapl.Library.JsonText

/-- The text of one character of a string. -/
def asciiEscape (char : Char) : List Char :=
  if char = '"' then ['\\', '"']
  else if char = '\\' then ['\\', '\\']
  else if char = '\n' then ['\\', 'n']
  else if char = '\r' then ['\\', 'r']
  else if char = '\t' then ['\\', 't']
  else if char = '\x0c' then ['\\', 'f']
  else if char = '\x08' then ['\\', 'b']
  else if 0x20 ≤ char.toNat ∧ char.toNat ≤ 0x7e then [char]
  else unicodeEscape char

/-- The text of a string, without its quotes. -/
def escaped (value : String) : List Char := value.toList.flatMap asciiEscape

theorem ReadsChars.asciiEscape (char : Char) :
    ReadsChars (JsonText.asciiEscape char) [char] := by
  rw [JsonText.asciiEscape]
  split_ifs with quote slash newline carriage tab feed back printable
  · rw [quote]
    exact ReadsChars.simple (by decide) (by decide)
  · rw [slash]
    exact ReadsChars.simple (by decide) (by decide)
  · rw [newline]
    exact ReadsChars.simple (by decide) (by decide)
  · rw [carriage]
    exact ReadsChars.simple (by decide) (by decide)
  · rw [tab]
    exact ReadsChars.simple (by decide) (by decide)
  · rw [feed]
    exact ReadsChars.simple (by decide) (by decide)
  · rw [back]
    exact ReadsChars.simple (by decide) (by decide)
  · exact ReadsChars.plain ⟨quote, slash, printable.1⟩
  · exact ReadsChars.unicode char

theorem ReadsChars.escaped (value : String) : ReadsChars (JsonText.escaped value) value.toList := by
  rw [JsonText.escaped]
  induction value.toList with
  | nil => exact ReadsChars.nil
  | cons char rest induction => exact ReadsChars.append (ReadsChars.asciiEscape char) induction

mutual

/-- The text of a value. -/
def dumps : Json → Except PyError (List Char)
  | .null => .ok "null".toList
  | .bool value => .ok (if value then "true".toList else "false".toList)
  | .int value => strOfInt value
  | .float value => .ok (floatstr value)
  | .str value => .ok ('"' :: (escaped value ++ ['"']))
  | .arr [] => .ok "[]".toList
  | .arr (item :: items) => do
      let text ← dumps item
      let rest ← dumpsItems items
      .ok ('[' :: (text ++ rest))
  | .obj [] => .ok ['\x7b', '\x7d']
  | .obj ((key, value) :: fields) => do
      let text ← dumps value
      let rest ← dumpsFields fields
      .ok ('\x7b' :: '"' :: (escaped key ++ '"' :: ':' :: ' ' :: (text ++ rest)))

/-- The text of a list behind its first item. -/
def dumpsItems : List Json → Except PyError (List Char)
  | [] => .ok [']']
  | item :: items => do
      let text ← dumps item
      let rest ← dumpsItems items
      .ok (',' :: ' ' :: (text ++ rest))

/-- The text of a dictionary behind its first entry. -/
def dumpsFields : List (String × Json) → Except PyError (List Char)
  | [] => .ok ['\x7d']
  | (key, value) :: fields => do
      let text ← dumps value
      let rest ← dumpsFields fields
      .ok (',' :: ' ' :: '"' :: (escaped key ++ '"' :: ':' :: ' ' :: (text ++ rest)))

end

/--
A value of the language (its floating-point numbers are binary64 numbers, and no
dictionary has a key twice) whose integers have a decimal text.
-/
inductive Encodable : Json → Prop where
  | null : Encodable .null
  | bool (value : Bool) : Encodable (.bool value)
  | int {value : Int} (convertible : Convertible value) : Encodable (.int value)
  | nan : Encodable (.float .nan)
  | infinite (negative : Bool) : Encodable (.float (.infinite negative))
  | finite {value : Rat} (binary64 : Binary64 value) : Encodable (.float (.finite value))
  | str (value : String) : Encodable (.str value)
  | arr {items : List Json} (each : ∀ item ∈ items, Encodable item) : Encodable (.arr items)
  | obj {fields : List (String × Json)} (distinct : (fields.map Prod.fst).Nodup)
      (each : ∀ field ∈ fields, Encodable field.2) : Encodable (.obj fields)

theorem readsValue_word
    {word : List Char} {value : Json} (nonempty : word ≠ [])
    (reads : ∀ fuel rest, parseValue (fuel + 1) (word ++ rest) = some (value, rest)) :
    ReadsValue word value := by
  intro fuel rest enough _
  have positive := List.length_pos_iff.2 nonempty
  obtain ⟨fuel, rfl⟩ : ∃ previous, fuel = previous + 1 := ⟨fuel - 1, by omega⟩
  exact reads fuel rest

theorem readsValue_null : ReadsValue "null".toList .null := by
  apply readsValue_word (by decide)
  intro fuel rest
  change parseValue (fuel + 1) ('n' :: 'u' :: 'l' :: 'l' :: rest) = _
  rw [parseValue]

theorem readsValue_true : ReadsValue "true".toList (.bool true) := by
  apply readsValue_word (by decide)
  intro fuel rest
  change parseValue (fuel + 1) ('t' :: 'r' :: 'u' :: 'e' :: rest) = _
  rw [parseValue]

theorem readsValue_false : ReadsValue "false".toList (.bool false) := by
  apply readsValue_word (by decide)
  intro fuel rest
  change parseValue (fuel + 1) ('f' :: 'a' :: 'l' :: 's' :: 'e' :: rest) = _
  rw [parseValue]

theorem readsValue_nan : ReadsValue "NaN".toList (.float .nan) := by
  apply readsValue_word (by decide)
  intro fuel rest
  change parseValue (fuel + 1) ('N' :: 'a' :: 'N' :: rest) = _
  rw [parseValue]

theorem readsValue_infinity : ReadsValue "Infinity".toList (.float (.infinite false)) := by
  apply readsValue_word (by decide)
  intro fuel rest
  change parseValue (fuel + 1) ('I' :: 'n' :: 'f' :: 'i' :: 'n' :: 'i' :: 't' :: 'y' :: rest) = _
  rw [parseValue]

theorem readsValue_negInfinity : ReadsValue "-Infinity".toList (.float (.infinite true)) := by
  apply readsValue_word (by decide)
  intro fuel rest
  change parseValue (fuel + 1) ('-' :: 'I' :: 'n' :: 'f' :: 'i' :: 'n' :: 'i' :: 't' :: 'y' :: rest) = _
  rw [parseValue]

theorem readsValue_emptyDictionary : ReadsValue ['\x7b', '\x7d'] (.obj []) := by
  apply readsValue_word (List.cons_ne_nil _ _)
  intro fuel rest
  have skipped : skipSpace ('\x7d' :: rest) = '\x7d' :: rest := skipSpace_cons rest (by decide)
  simp only [List.cons_append, List.nil_append, parseValue, skipped]

/-- The value is written, and its text is read as the value. -/
def Written (value : Json) : Prop := ∃ text, dumps value = .ok text ∧ ReadsValue text value

theorem writtenItems
    {items : List Json} (each : ∀ item ∈ items, Written item) (before : List Json) :
    ∃ text, dumpsItems items = .ok text ∧ ReadsItems before text (.arr (before ++ items)) := by
  induction items generalizing before with
  | nil =>
      refine ⟨[']'], by rw [dumpsItems], ?_⟩
      rw [List.append_nil]
      exact ReadsItems.close blank_nil
  | cons item items induction =>
      obtain ⟨text, isText, reads⟩ := each item List.mem_cons_self
      obtain ⟨rest, isRest, readsRest⟩ := induction
        (fun other member => each other (List.mem_cons_of_mem item member)) (before ++ [item])
      refine ⟨_, by rw [dumpsItems, isText, isRest]; rfl, ?_⟩
      rw [List.append_assoc, List.singleton_append] at readsRest
      exact ReadsItems.next blank_nil blank_space reads readsRest

theorem writtenFields
    {fields : List (String × Json)} (each : ∀ field ∈ fields, Written field.2)
    {before : List (String × Json)} (distinct : ((before ++ fields).map Prod.fst).Nodup) :
    ∃ text, dumpsFields fields = .ok text ∧
      ReadsMembers before text (.obj (before ++ fields)) := by
  induction fields generalizing before with
  | nil =>
      refine ⟨['\x7d'], by rw [dumpsFields], ?_⟩
      rw [List.append_nil]
      exact ReadsMembers.close blank_nil
  | cons field fields induction =>
      obtain ⟨key, value⟩ := field
      obtain ⟨text, isText, reads⟩ := each (key, value) List.mem_cons_self
      have absent : key ∉ before.map Prod.fst := by
        rw [List.map_append, List.map_cons, List.nodup_append] at distinct
        intro member
        exact distinct.2.2 key member key List.mem_cons_self rfl
      have joined : before ++ (key, value) :: fields = before ++ [(key, value)] ++ fields := by
        rw [List.append_assoc, List.singleton_append]
      rw [joined] at distinct ⊢
      obtain ⟨rest, isRest, readsRest⟩ := induction
        (fun other member => each other (List.mem_cons_of_mem _ member)) distinct
      refine ⟨_, by rw [dumpsFields, isText, isRest]; rfl, ?_⟩
      have assigned : assign before (String.ofList key.toList) value = before ++ [(key, value)] := by
        rw [String.ofList_toList, assign_of_not_mem value absent]
      rw [← assigned] at readsRest ⊢
      exact ReadsMembers.next blank_nil blank_space (ReadsChars.escaped key) blank_space
        reads readsRest

theorem written_of_encodable {value : Json} (encodable : Encodable value) : Written value := by
  induction encodable with
  | null => exact ⟨_, by rw [dumps], readsValue_null⟩
  | bool value =>
      cases value
      · exact ⟨_, by rw [dumps]; rfl, readsValue_false⟩
      · exact ⟨_, by rw [dumps]; rfl, readsValue_true⟩
  | int convertible =>
      exact ⟨_, by rw [dumps, strOfInt_of_convertible convertible], ReadsValue.integer convertible⟩
  | nan => exact ⟨_, by rw [dumps]; rfl, readsValue_nan⟩
  | infinite negative =>
      cases negative
      · exact ⟨_, by rw [dumps]; rfl, readsValue_infinity⟩
      · exact ⟨_, by rw [dumps]; rfl, readsValue_negInfinity⟩
  | finite binary64 => exact ⟨_, by rw [dumps], ReadsValue.floatstr binary64⟩
  | str value =>
      refine ⟨_, by rw [dumps], ?_⟩
      have reads := ReadsValue.string (ReadsChars.escaped value)
      rw [String.ofList_toList] at reads
      exact reads
  | @arr items _ induction =>
      cases items with
      | nil => exact ⟨_, by rw [dumps]; rfl, ReadsValue.emptyList blank_nil⟩
      | cons item items =>
          obtain ⟨text, isText, reads⟩ := induction item List.mem_cons_self
          obtain ⟨rest, isRest, readsRest⟩ := writtenItems
            (fun other member => induction other (List.mem_cons_of_mem item member)) [item]
          exact ⟨_, by rw [dumps, isText, isRest]; rfl, ReadsValue.list blank_nil reads readsRest⟩
  | @obj fields distinct _ induction =>
      cases fields with
      | nil => exact ⟨_, by rw [dumps], readsValue_emptyDictionary⟩
      | cons field fields =>
          obtain ⟨key, value⟩ := field
          obtain ⟨text, isText, reads⟩ := induction (key, value) List.mem_cons_self
          obtain ⟨rest, isRest, readsRest⟩ := @writtenFields fields
            (fun other member => induction other (List.mem_cons_of_mem _ member))
            [(key, value)] distinct
          have assigned : assign [] (String.ofList key.toList) value = [(key, value)] := by
            rw [String.ofList_toList]
            rfl
          rw [← assigned] at readsRest
          refine ⟨_, by rw [dumps, isText, isRest]; rfl, ?_⟩
          have whole := ReadsValue.dictionary blank_nil (ReadsChars.escaped key) blank_space reads
            readsRest
          rw [assigned] at whole
          exact whole

/-- What is written is read back. -/
theorem loads_dumps {value : Json} (encodable : Encodable value) :
    ∃ text, dumps value = .ok text ∧ loads text = .ok value := by
  obtain ⟨text, isText, reads⟩ := written_of_encodable encodable
  refine ⟨text, isText, ?_⟩
  have whole := reads.loads blank_nil blank_nil
  rw [List.nil_append, List.append_nil] at whole
  exact whole

end Snapl.Library.JsonText
