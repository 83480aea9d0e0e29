import Snapl.Intent.SchemaReadiness

/-!
# The batches of a load

The batches that are not empty are parsed and sent in order.  One that cannot be
parsed is not sent, and after an answer that raises nothing is sent any more.
-/

namespace Snapl.Intent

open Snapl.Library SchemaLoader

/-- An answer without errors. -/
def Clean (answer : LoadAnswer) : Prop :=
  ∃ response, answer = .answered response ∧ response.errors.truthy = false

/-- An answer with one error, which has no text. -/
def Blank (answer : LoadAnswer) : Prop :=
  ∃ response, answer = .answered response ∧ response.errors = .arr [.str ""]

theorem not_clean_of_blank {answer : LoadAnswer} (blank : Blank answer) : ¬Clean answer := by
  obtain ⟨response, rfl, errors⟩ := blank
  rintro ⟨other, same, falsy⟩
  cases same
  rw [errors] at falsy
  cases falsy

/-- The text of an error of a list is empty for an empty string alone. -/
theorem eq_str_of_errorItem {text : PyText} {error : Json}
    (empty : errorItem text error = .ok (.str "")) : error = .str "" := by
  have shown : ∀ value : Json, (text.shown value).map Json.str = .ok (.str "") →
      value = .str "" := by
    intro value mapped
    rcases returned : text.shown value with failure | own
    · rw [returned] at mapped
      cases mapped
    · rw [returned] at mapped
      obtain rfl : own = "" := by
        have same : Json.str own = .str "" := Except.ok.inj mapped
        simpa using same
      exact PyText.eq_str_of_shown_empty returned
  cases error with
  | obj fields =>
      unfold errorItem at empty
      dsimp only at empty
      split_ifs at empty with message
      · rw [Except.ok.inj empty] at message
        cases message
      · exact shown _ empty
  | _ => exact shown _ empty

/-- An error of a dictionary has a text. -/
theorem errorPart_ne_empty {text : PyText} {field : String × Json} {part : String}
    (returned : errorPart text field = .ok part) : part ≠ "" := by
  have separated : ∀ first last : String, first ++ ": " ++ last ≠ "" := by
    intro first last empty
    rw [String.append_eq_empty_iff, String.append_eq_empty_iff] at empty
    exact absurd empty.1.2 (by decide)
  obtain ⟨key, value⟩ := field
  cases value with
  | arr values =>
      obtain ⟨shown, -, same⟩ := (bind_eq_ok _ _ _).1 returned
      obtain rfl := Except.ok.inj same
      exact separated key _
  | _ =>
      obtain ⟨shown, -, same⟩ := (bind_eq_ok _ _ _).1 returned
      obtain rfl := Except.ok.inj same
      exact separated key _

theorem extractErrors_of_not_truthy {text : PyText} {response : Response}
    (falsy : response.errors.truthy = false) : extractErrors text response = .ok none := by
  rw [extractErrors]
  exact if_pos falsy

/-- Errors of a list are joined. -/
theorem extractErrors_of_items {text : PyText} {response : Response} {items : List Json}
    (errors : response.errors = .arr items) (present : items ≠ []) (found : Option String) :
    extractErrors text response = .ok found ↔
      ∃ parts, items.mapM (errorItem text) = .ok (parts.map Json.str) ∧
        found = some ("; ".intercalate parts) := by
  have truthy : ¬(Json.arr items).truthy = false := by simpa [Json.truthy] using present
  have unfolded : extractErrors text response =
      items.mapM (errorItem text) >>= fun parts =>
        joinStrings "; " parts >>= fun joined => .ok (some joined) := by
    unfold extractErrors
    rw [errors]
    exact if_neg truthy
  rw [unfolded]
  simp only [bind_eq_ok, joinStrings, Except.ok.injEq]
  constructor
  · rintro ⟨parts, mapped, joined, joins, rfl⟩
    rcases values : strings parts with failure | own
    · rw [values] at joins
      cases joins
    · rw [values] at joins
      obtain rfl := Except.ok.inj joins
      refine ⟨own, ?_, rfl⟩
      rw [← (strings_eq_ok_iff parts own).1 values]
      exact mapped
  · rintro ⟨parts, mapped, rfl⟩
    refine ⟨_, mapped, "; ".intercalate parts, ?_, rfl⟩
    rw [(strings_eq_ok_iff _ parts).2 rfl]
    rfl

/-- Errors of a dictionary are joined. -/
theorem extractErrors_of_fields {text : PyText} {response : Response}
    {fields : List (String × Json)} (errors : response.errors = .obj fields)
    (present : fields ≠ []) (found : Option String) :
    extractErrors text response = .ok found ↔
      ∃ parts, fields.mapM (errorPart text) = .ok parts ∧
        found = some ("; ".intercalate parts) := by
  have truthy : ¬(Json.obj fields).truthy = false := by simpa [Json.truthy] using present
  have unfolded : extractErrors text response =
      fields.mapM (errorPart text) >>= fun parts => .ok (some ("; ".intercalate parts)) := by
    unfold extractErrors
    rw [errors]
    exact if_neg truthy
  rw [unfolded, bind_eq_ok]
  simp only [Except.ok.injEq, eq_comm (b := found)]

/-- Errors that are neither a list nor a dictionary have their own text. -/
theorem extractErrors_of_other {text : PyText} {response : Response} {value : Json}
    (errors : response.errors = value) (truthy : value.truthy = true)
    (notList : ∀ items, value ≠ .arr items) (notFields : ∀ fields, value ≠ .obj fields) :
    extractErrors text response = (text.shown value).map some := by
  unfold extractErrors
  rw [errors]
  dsimp only
  rw [if_neg (by rw [truthy]; decide)]
  cases value with
  | arr items => exact absurd rfl (notList items)
  | obj fields => exact absurd rfl (notFields fields)
  | _ => rfl

/-- The errors of a list have no text only if there is one, and it is the empty string. -/
theorem extractErrors_items_empty_iff {text : PyText} {response : Response} {items : List Json}
    (errors : response.errors = .arr items) (present : items ≠ []) :
    extractErrors text response = .ok (some "") ↔ items = [.str ""] := by
  simp only [extractErrors_of_items errors present, Option.some.injEq, eq_comm (a := ""),
    intercalate_eq_empty_iff (by decide : "; " ≠ "")]
  constructor
  · rintro ⟨parts, mapped, rfl | rfl⟩
    · rw [mapM_eq_ok_iff, List.map_nil, List.forall₂_nil_right_iff] at mapped
      exact absurd mapped present
    · rw [mapM_eq_ok_iff, List.map_singleton, List.forall₂_cons_right_iff] at mapped
      obtain ⟨item, rest, empty, none, rfl⟩ := mapped
      rw [List.forall₂_nil_right_iff] at none
      rw [none, eq_str_of_errorItem empty]
  · rintro rfl
    exact ⟨[""], rfl, Or.inr rfl⟩

/-- The errors of a dictionary have a text. -/
theorem extractErrors_fields_ne_empty {text : PyText} {response : Response}
    {fields : List (String × Json)} (errors : response.errors = .obj fields)
    (present : fields ≠ []) : extractErrors text response ≠ .ok (some "") := by
  rw [Ne, extractErrors_of_fields errors present]
  rintro ⟨parts, mapped, empty⟩
  rcases (intercalate_eq_empty_iff (by decide) parts).1 (Option.some.inj empty).symm with rfl | rfl
  · rw [mapM_eq_ok_iff, List.forall₂_nil_right_iff] at mapped
    exact present mapped
  · obtain ⟨field, -, returned⟩ :=
      (mem_of_mapM_eq_ok mapped "").1 (List.mem_singleton.2 rfl)
    exact errorPart_ne_empty returned rfl

/-- The text of errors is missing or empty where there are none, or one empty string. -/
theorem extractErrors_quiet_iff (text : PyText) (response : Response) :
    (extractErrors text response = .ok none ∨ extractErrors text response = .ok (some "")) ↔
      response.errors.truthy = false ∨ response.errors = .arr [.str ""] := by
  by_cases falsy : response.errors.truthy = false
  · exact iff_of_true (Or.inl (extractErrors_of_not_truthy falsy)) (Or.inl falsy)
  · have truthy : response.errors.truthy = true := Bool.eq_true_of_not_eq_false falsy
    rw [or_iff_right falsy]
    by_cases isList : ∃ items, response.errors = .arr items
    · obtain ⟨items, errors⟩ := isList
      have present : items ≠ [] := by simpa [errors, Json.truthy] using truthy
      rw [extractErrors_items_empty_iff errors present, errors, Json.arr.injEq]
      apply or_iff_right
      rw [extractErrors_of_items errors present]
      rintro ⟨parts, -, impossible⟩
      cases impossible
    · by_cases isFields : ∃ fields, response.errors = .obj fields
      · obtain ⟨fields, errors⟩ := isFields
        have present : fields ≠ [] := by simpa [errors, Json.truthy] using truthy
        apply iff_of_false
        · rintro (none | empty)
          · obtain ⟨parts, -, impossible⟩ := (extractErrors_of_fields errors present _).1 none
            cases impossible
          · exact extractErrors_fields_ne_empty errors present empty
        · exact fun same => isList ⟨_, same⟩
      · have other := @extractErrors_of_other text response _ rfl truthy
          (fun items same => isList ⟨items, same⟩) (fun fields same => isFields ⟨fields, same⟩)
        apply iff_of_false
        · rw [other]
          rcases returned : text.shown response.errors with failure | shown
          · simp [Except.map]
          · rintro (impossible | empty)
            · cases impossible
            · obtain rfl : shown = "" := by simpa [Except.map] using empty
              rw [PyText.eq_str_of_shown_empty returned] at truthy
              cases truthy
        · exact fun same => isList ⟨_, same⟩

/-- An answer raises nothing when it has no errors, or one without a text. -/
theorem checkAnswer_ok_iff (text : PyText) (answer : LoadAnswer) :
    checkAnswer text answer = .ok () ↔ Clean answer ∨ Blank answer := by
  cases answer with
  | answered response =>
      have quiet : checkAnswer text (.answered response) = .ok () ↔
          (extractErrors text response = .ok none ∨
            extractErrors text response = .ok (some "")) := by
        rw [checkAnswer]
        rcases extractErrors text response with failure | _ | errorText
        · simp
        · simp
        · by_cases empty : errorText = "" <;> simp [empty]
      rw [quiet, extractErrors_quiet_iff]
      constructor
      · rintro (falsy | blank)
        · exact Or.inl ⟨response, rfl, falsy⟩
        · exact Or.inr ⟨response, rfl, blank⟩
      · rintro (⟨other, same, falsy⟩ | ⟨other, same, blank⟩)
        · cases same
          exact Or.inl falsy
        · cases same
          exact Or.inr blank
  | _ =>
      constructor
      · intro impossible
        cases impossible
      · rintro (⟨other, impossible, -⟩ | ⟨other, impossible, -⟩)
        · cases impossible
        · cases impossible

variable {loader : SchemaLoader} {text : PyText} {safeLoad : String → Except YamlFailure Json}
variable {server : SchemaServer}

/-- The schemas of a batch, when every one of its files can be parsed. -/
def ParsesAs (safeLoad : String → Except YamlFailure Json) (batch : List SchemaFile)
    (schemas : List Json) : Prop :=
  batch.mapM (parseYaml safeLoad) = .ok schemas

/-- An answer after which the loop goes on. -/
def Quiet (answer : LoadAnswer) : Prop := Clean answer ∨ Blank answer

/-- The requests that send these batches. -/
def callsOf (branch : Option String) (sent : List (List Json)) : List LoadCall :=
  sent.map fun schemas => ⟨schemas, branch⟩

/-- Empty batches are passed over. -/
theorem loadBatches_filter
    (batches : List (List SchemaFile)) (parsed : List Json) (totalLoaded : Nat) :
    loadBatches loader text safeLoad server batches parsed totalLoaded =
      loadBatches loader text safeLoad server (batches.filter fun batch => batch ≠ []) parsed
        totalLoaded := by
  induction batches generalizing parsed totalLoaded with
  | nil => rfl
  | cons batch batches induction =>
      by_cases none : batch = []
      · rw [List.filter_cons_of_neg (by simpa using none), loadBatches, if_pos none, induction]
      · rw [List.filter_cons_of_pos (by simpa using none), loadBatches, loadBatches, if_neg none,
          if_neg none]
        simp only [induction]

variable {batch : List SchemaFile} {batches : List (List SchemaFile)} {schemas parsed : List Json}
variable {totalLoaded : Nat} {calls : List LoadCall}

/-- A batch that cannot be parsed is not sent. -/
theorem loadBatches_of_unparsed
    (present : batch ≠ []) {failure : LoadError}
    (refused : batch.mapM (parseYaml safeLoad) = .error failure) :
    loadBatches loader text safeLoad server (batch :: batches) parsed totalLoaded calls =
      (.error failure, calls) := by
  rw [loadBatches, if_neg present]
  apply Program.bind_of_error
  rw [Program.ofExcept, refused]

theorem sendBatch_eq (schemas : List Json) (calls : List LoadCall) :
    sendBatch loader text server schemas calls =
      (checkAnswer text (server.loadAnswers calls.length), calls ++ [⟨schemas, loader.branch⟩]) :=
  rfl

/-- After an answer that raises, nothing more is sent. -/
theorem loadBatches_of_refused
    (present : batch ≠ []) (parses : ParsesAs safeLoad batch schemas)
    (refused : ¬Quiet (server.loadAnswers calls.length)) :
    ∃ failure,
      loadBatches loader text safeLoad server (batch :: batches) parsed totalLoaded calls =
        (.error failure, calls ++ callsOf loader.branch [schemas]) := by
  rcases checked : checkAnswer text (server.loadAnswers calls.length) with failure | _
  · refine ⟨failure, ?_⟩
    have parsedBatch : (Program.ofExcept (batch.mapM (parseYaml safeLoad)) :
        Program (List LoadCall) LoadError (List Json)) calls = (.ok schemas, calls) := by
      rw [Program.ofExcept, parses]
    rw [loadBatches, if_neg present, Program.bind_of_ok parsedBatch]
    apply Program.bind_of_error
    rw [sendBatch_eq, checked]
    rfl
  · exact absurd ((checkAnswer_ok_iff text _).1 checked) refused

/-- After any other answer the loop goes on with the next batch. -/
theorem loadBatches_of_quiet
    (present : batch ≠ []) (parses : ParsesAs safeLoad batch schemas)
    (quiet : Quiet (server.loadAnswers calls.length)) :
    loadBatches loader text safeLoad server (batch :: batches) parsed totalLoaded calls =
      loadBatches loader text safeLoad server batches (parsed ++ schemas)
        (totalLoaded + batch.length) (calls ++ callsOf loader.branch [schemas]) := by
  have parsedBatch : (Program.ofExcept (batch.mapM (parseYaml safeLoad)) :
      Program (List LoadCall) LoadError (List Json)) calls = (.ok schemas, calls) := by
    rw [Program.ofExcept, parses]
  rw [loadBatches, if_neg present, Program.bind_of_ok parsedBatch]
  apply Program.bind_of_ok
  rw [sendBatch_eq, (checkAnswer_ok_iff text _).2 quiet]
  rfl

/-- The batches a run of the loop has sent. -/
structure SentBy (safeLoad : String → Except YamlFailure Json) (answers : Nat → LoadAnswer)
    (batches : List (List SchemaFile)) (first : Nat) (sent : List (List Json)) : Prop where
  parsed : List.Forall₂ (ParsesAs safeLoad) (batches.take sent.length) sent
  quiet : ∀ index, index + 1 < sent.length → Quiet (answers (first + index))

/-- A run of the loop sends a prefix of the batches, and returns when all of them were sent. -/
theorem loadBatches_spec
    (present : ∀ batch ∈ batches, batch ≠ []) (parsed : List Json) (totalLoaded : Nat)
    (calls : List LoadCall) :
    ∃ sent,
      (loadBatches loader text safeLoad server batches parsed totalLoaded calls).2 =
        calls ++ callsOf loader.branch sent ∧
      SentBy safeLoad server.loadAnswers batches calls.length sent ∧
      ∀ result,
        (loadBatches loader text safeLoad server batches parsed totalLoaded calls).1 =
            .ok result →
          sent.length = batches.length ∧ result.1 = parsed ++ sent.flatten ∧
            ∀ index < sent.length, Quiet (server.loadAnswers (calls.length + index)) := by
  induction batches generalizing parsed totalLoaded calls with
  | nil =>
      refine ⟨[], (List.append_nil calls).symm, ⟨.nil, ?_⟩, ?_⟩
      · intro index impossible
        cases impossible
      · intro result returned
        obtain rfl : (parsed, totalLoaded) = result := Except.ok.inj returned
        refine ⟨rfl, (List.append_nil parsed).symm, ?_⟩
        intro index impossible
        cases impossible
  | cons batch batches induction =>
      have own := present batch List.mem_cons_self
      rcases parses : batch.mapM (parseYaml safeLoad) with failure | schemas
      · rw [loadBatches_of_unparsed own parses]
        refine ⟨[], (List.append_nil calls).symm, ⟨.nil, ?_⟩, ?_⟩
        · intro index impossible
          cases impossible
        · intro result impossible
          cases impossible
      · by_cases quiet : Quiet (server.loadAnswers calls.length)
        · rw [loadBatches_of_quiet own parses quiet]
          obtain ⟨sent, after, sentBy, returns⟩ := induction
            (fun other member => present other (List.mem_cons_of_mem batch member))
            (parsed ++ schemas) (totalLoaded + batch.length)
            (calls ++ callsOf loader.branch [schemas])
          have later : ∀ index, (calls ++ callsOf loader.branch [schemas]).length + index =
              calls.length + (index + 1) := by
            intro index
            rw [List.length_append, callsOf, List.map_singleton, List.length_singleton]
            omega
          refine ⟨schemas :: sent, ?_, ⟨.cons parses sentBy.parsed, ?_⟩, ?_⟩
          · rw [after, List.append_assoc]
            rfl
          · intro index bounded
            cases index with
            | zero => exact quiet
            | succ index =>
                rw [← later]
                apply sentBy.quiet
                rw [List.length_cons] at bounded
                omega
          · intro result returned
            obtain ⟨length, flattened, quietly⟩ := returns result returned
            refine ⟨by rw [List.length_cons, List.length_cons, length], ?_, ?_⟩
            · rw [flattened, List.flatten_cons, List.append_assoc]
            · intro index bounded
              cases index with
              | zero => exact quiet
              | succ index =>
                  rw [← later]
                  apply quietly
                  rw [List.length_cons] at bounded
                  omega
        · obtain ⟨failure, ran⟩ := @loadBatches_of_refused loader text safeLoad server batch
            batches schemas parsed totalLoaded calls own parses quiet
          rw [ran]
          refine ⟨[schemas], rfl, ⟨.cons parses .nil, ?_⟩, ?_⟩
          · intro index bounded
            rw [List.length_singleton] at bounded
            omega
          · intro result impossible
            cases impossible

/-- Batches that parse and are answered quietly are all sent. -/
theorem loadBatches_append
    {first rest : List (List SchemaFile)} {sent : List (List Json)}
    (present : ∀ batch ∈ first, batch ≠ [])
    (parses : List.Forall₂ (ParsesAs safeLoad) first sent)
    (quiet : ∀ index < sent.length, Quiet (server.loadAnswers (calls.length + index))) :
    ∃ loaded,
      loadBatches loader text safeLoad server (first ++ rest) parsed totalLoaded calls =
        loadBatches loader text safeLoad server rest (parsed ++ sent.flatten) loaded
          (calls ++ callsOf loader.branch sent) := by
  induction parses generalizing parsed totalLoaded calls with
  | nil =>
      refine ⟨totalLoaded, ?_⟩
      rw [List.flatten_nil, List.append_nil, callsOf, List.map_nil, List.append_nil,
        List.nil_append]
  | @cons batch schemas first sent parsesFirst _ induction =>
      have own := present batch List.mem_cons_self
      have quietFirst : Quiet (server.loadAnswers calls.length) := quiet 0 (Nat.succ_pos _)
      obtain ⟨loaded, ran⟩ := @induction (parsed ++ schemas) (totalLoaded + batch.length)
        (calls ++ callsOf loader.branch [schemas])
        (fun other member => present other (List.mem_cons_of_mem batch member)) (by
          intro index bounded
          have later := quiet (index + 1) (Nat.succ_lt_succ bounded)
          rw [List.length_append, callsOf, List.map_singleton, List.length_singleton]
          rw [← Nat.add_assoc, Nat.add_right_comm] at later
          exact later)
      refine ⟨loaded, ?_⟩
      rw [List.cons_append, loadBatches_of_quiet own parsesFirst quietFirst, ran,
        List.flatten_cons, List.append_assoc, List.append_assoc]
      rfl

end Snapl.Intent
