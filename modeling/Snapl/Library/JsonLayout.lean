import Mathlib.Data.List.Forall2
import Snapl.Library.JsonString

/-!
# Laid-out JSON texts

Templates write lists and dictionaries with white space before every piece, a
comma directly after every piece but the last, and white space before the
closing bracket.  A laid-out text is read as the list or the dictionary of
what its pieces are read as.
-/

namespace Snapl.Library.JsonText

/-- Pieces after their white space, separated by commas. -/
def separated : List (List Char × List Char) → List Char
  | [] => []
  | piece :: rest =>
      piece.1 ++ (piece.2 ++ rest.flatMap fun other => ',' :: (other.1 ++ other.2))

/-- A list with the same white space before every item. -/
def listText (before close : List Char) (items : List (List Char)) : List Char :=
  '[' :: (separated (items.map fun item => (before, item)) ++ (close ++ [']']))

/-- A member of a laid-out dictionary. -/
structure Member where
  before : List Char
  key : String
  value : List Char

/-- The white space, the key and the value of a member. -/
def Member.piece (member : Member) : List Char × List Char :=
  (member.before,
    '"' :: (member.key.toList ++ '"' :: ':' :: ' ' :: member.value))

/-- A laid-out dictionary. -/
def dictionaryText (close : List Char) (members : List Member) : List Char :=
  '\x7b' :: (separated (members.map Member.piece) ++ (close ++ ['\x7d']))

/-- A string literal of verbatim characters. -/
def quoted (chars : List Char) : List Char := '"' :: (chars ++ ['"'])

theorem ReadsValue.quoted
    {chars : List Char} (plain : ∀ char ∈ chars, Plain char) :
    ReadsValue (quoted chars) (.str (String.ofList chars)) :=
  ReadsValue.string (ReadsChars.verbatim plain)

theorem readsItems_tail
    {before close : List Char} (blankBefore : Blank before)
    (blankClose : Blank close)
    {texts : List (List Char)} {values : List Json}
    (reads : List.Forall₂ ReadsValue texts values) :
    ∀ items : List Json,
      ReadsItems items
        (((texts.map fun item => (before, item)).flatMap
            fun other => ',' :: (other.1 ++ other.2)) ++
          (close ++ [']']))
        (.arr (items ++ values)) := by
  induction reads with
  | nil =>
      intro items
      rw [List.append_nil]
      exact ReadsItems.close blankClose
  | @cons text value texts values readsItem _ induction =>
      intro items
      have rest := induction (items ++ [value])
      have next := ReadsItems.next blank_nil blankBefore readsItem rest
      simpa only [List.map_cons, List.flatMap_cons, List.append_assoc,
        List.cons_append, List.nil_append, List.singleton_append] using next

/-- A laid-out list is read as the list of its items. -/
theorem ReadsValue.listText
    {before close : List Char} (blankBefore : Blank before)
    (blankClose : Blank close)
    {texts : List (List Char)} {values : List Json}
    (reads : List.Forall₂ ReadsValue texts values) :
    ReadsValue (listText before close texts) (.arr values) := by
  cases reads with
  | nil => exact ReadsValue.emptyList blankClose
  | @cons text value texts values readsItem readsRest =>
      have tail := readsItems_tail blankBefore blankClose readsRest [value]
      have whole := ReadsValue.list blankBefore readsItem tail
      simpa only [JsonText.listText, List.map_cons, separated,
        List.append_assoc, List.singleton_append] using whole

/-- A member is read as a field: the same plain key, and its value. -/
structure ReadsField (member : Member) (field : String × Json) : Prop where
  blank : Blank member.before
  key : member.key = field.1
  plain : ∀ char ∈ member.key.toList, Plain char
  value : ReadsValue member.value field.2

theorem ReadsField.intro
    {before text : List Char} {key : String} {value : Json}
    (blank : Blank before) (plain : ∀ char ∈ key.toList, Plain char)
    (reads : ReadsValue text value) :
    ReadsField ⟨before, key, text⟩ (key, value) :=
  ⟨blank, rfl, plain, reads⟩

theorem readsMembers_tail
    {close : List Char} (blankClose : Blank close)
    {members : List Member} {rest : List (String × Json)}
    (reads : List.Forall₂ ReadsField members rest) :
    ∀ fields : List (String × Json),
      ((fields ++ rest).map Prod.fst).Nodup →
      ReadsMembers fields
        (((members.map Member.piece).flatMap
            fun other => ',' :: (other.1 ++ other.2)) ++
          (close ++ ['\x7d']))
        (.obj (fields ++ rest)) := by
  induction reads with
  | nil =>
      intro fields _
      rw [List.append_nil]
      exact ReadsMembers.close blankClose
  | @cons member field members rest readsField _ induction =>
      intro fields distinct
      rcases member with ⟨before, name, text⟩
      rcases field with ⟨key, value⟩
      obtain ⟨blankBefore, rfl, plain, readsValue⟩ := readsField
      have absent : name ∉ fields.map Prod.fst := by
        intro member
        rw [List.map_append, List.nodup_append] at distinct
        exact distinct.2.2 name member name (by simp) rfl
      have appended : assign fields (String.ofList name.toList) value =
          fields ++ [(name, value)] := by
        rw [String.ofList_toList, assign_of_not_mem value absent]
      have tail := induction (fields ++ [(name, value)]) (by simpa using distinct)
      rw [← appended] at tail
      have next := ReadsMembers.next blank_nil blankBefore
        (ReadsChars.verbatim plain) blank_space readsValue tail
      rw [appended] at next
      simpa only [List.map_cons, List.flatMap_cons, Member.piece,
        List.append_assoc, List.cons_append, List.nil_append,
        List.singleton_append] using next

/-- A laid-out dictionary with distinct keys is read as its fields. -/
theorem ReadsValue.dictionaryText
    {close : List Char} (blankClose : Blank close)
    {members : List Member} {fields : List (String × Json)}
    (reads : List.Forall₂ ReadsField members fields)
    (nonempty : fields ≠ []) (distinct : (fields.map Prod.fst).Nodup) :
    ReadsValue (dictionaryText close members) (.obj fields) := by
  cases reads with
  | nil => exact absurd rfl nonempty
  | @cons member field members rest readsField readsRest =>
      rcases member with ⟨before, name, text⟩
      rcases field with ⟨key, value⟩
      obtain ⟨blankBefore, rfl, plain, readsValue⟩ := readsField
      have first : assign [] (String.ofList name.toList) value = [(name, value)] := by
        rw [String.ofList_toList, assign]
      have tail := readsMembers_tail blankClose readsRest
        [(name, value)] (by simpa using distinct)
      rw [← first] at tail
      have whole := ReadsValue.dictionary blankBefore
        (ReadsChars.verbatim plain) blank_space readsValue tail
      rw [first] at whole
      simpa only [JsonText.dictionaryText, separated, List.map_cons,
        Member.piece, List.append_assoc, List.cons_append, List.nil_append,
        List.singleton_append] using whole

end Snapl.Library.JsonText
