import Mathlib.Algebra.Order.Archimedean.Basic
import Snapl.Intent.SchemaRun

/-!
# Provisioning of the schema

A load returns when every batch was answered without errors and the registry
fetched last has every declared attribute; after any other answer nothing is
sent, and at the deadline the missing attributes are listed.  The loader takes
errors without a text for none, and it lists names by joining strings: a name
of another type, or kinds that cannot be compared, make it raise a type error.
-/

namespace Snapl.Contract

open Snapl.Library Snapl.Intent Snapl.Intent.SchemaLoader

variable (loader : SchemaLoader) (text : PyText) (safeLoad : String → Except YamlFailure Json)
variable (answers : Nat → LoadAnswer)

/-- What is raised when the deadline is reached. -/
def notReadyMessage (detail : String) : String :=
  "Schema not ready after " ++ String.ofList (reprFloat (.finite loader.readinessTimeout)) ++
    "s — attributes not registered: " ++ detail

/-- A load that returns with a usable schema, and otherwise says what is missing. -/
structure Provisioned (registries : Nat → RegistryAnswer) (clock : Nat → Rat) (run : LoadRun) :
    Prop where
  ordered : ∃ sent, run.sent = callsOf loader.branch sent ∧
    List.Forall₂ (ParsesAs safeLoad) ((batchesOf loader).take sent.length) sent
  halted : ∀ index, index + 1 < run.sent.length → Clean (answers index)
  returned : ∀ result, run.outcome = .ok result → ∃ sent,
    run.sent = callsOf loader.branch sent ∧ AllSent loader safeLoad Clean answers sent ∧
    ∀ kind name, Declares sent.flatten kind name →
      0 < run.polls ∧ ∃ registry, registries (run.polls - 1) = .fetched registry ∧
        Exposes registry kind name
  timedOut : ∀ sent last, AllSent loader safeLoad Clean answers sent →
    (∀ schema ∈ sent.flatten, SchemaWellFormed schema) →
    NeverReady loader registries clock sent.flatten last →
    run.polls = last + 1 ∧ ∃ registry detail, registries last = .fetched registry ∧
      run.outcome = .error (.intentSchemaError (notReadyMessage loader detail)) ∧
      Lists detail fun kind name =>
        ∃ other, keyOf other = keyOf kind ∧ Lacks sent.flatten registry other (.str name)

/--
Whatever the server answers to the requests for its schema, and whatever the
clock shows, a load is as it should be, and ends if the clock advances.
-/
def Provisions : Prop :=
  ∀ registries clock,
    (Advancing clock →
      ∃ fuel run, load loader text safeLoad ⟨answers, registries⟩ clock fuel = some run) ∧
    ∀ fuel run, load loader text safeLoad ⟨answers, registries⟩ clock fuel = some run →
      Provisioned loader safeLoad answers registries clock run

/-- The kinds and the names of attributes are strings. -/
def Textual (schemas : List Json) : Prop :=
  ∀ kind name, Declares schemas kind name → IsString kind ∧ IsString name

/--
No batch that is answered with errors without a text is followed by another one
or by a return, and the declared attributes can be listed.
-/
structure Reported : Prop where
  between : ∀ sent, SentBy safeLoad answers (batchesOf loader) 0 sent →
    ∀ index, index + 1 < sent.length → ¬Blank (answers index)
  last : ∀ sent, AllSent loader safeLoad Quiet answers sent →
    (∀ schema ∈ sent.flatten, SchemaWellFormed schema) → Textual sent.flatten →
    ∀ index < sent.length, ¬Blank (answers index)
  listable : ∀ sent, AllSent loader safeLoad Clean answers sent →
    (∀ schema ∈ sent.flatten, SchemaWellFormed schema) → Listable sent.flatten

variable {loader text safeLoad answers}
variable {registries : Nat → RegistryAnswer} {clock : Nat → Rat}

/-- A load ends for every advancing clock. -/
theorem exists_load (advancing : Advancing clock) :
    ∃ fuel run, load loader text safeLoad ⟨answers, registries⟩ clock fuel = some run := by
  rcases present : loader.schemasRoot with _ | root
  · exact ⟨0, _, load_of_no_root present 0⟩
  · simp only [load_of_root present]
    rcases batchRun loader text safeLoad ⟨answers, registries⟩ with ⟨failure | loaded, sent⟩
    · exact ⟨0, _, rfl⟩
    · rcases collected : collectExtensionAttributes loaded.1 with failure | expected
      · exact ⟨0, _, afterBatches_of_uncollected collected 0 sent⟩
      · obtain ⟨fuel, waited, awaited⟩ := @exists_awaitSchemaReady loader ⟨answers, registries⟩
          clock advancing expected
        refine ⟨fuel, ⟨sent, waited.1,
          waited.2.map fun _ => ⟨loader.useCase, loaded.2, true⟩⟩, ?_⟩
        rw [afterBatches_of_collected collected, awaited, Option.map_some]

/-- Nothing is sent after an answer with errors, if no errors without a text come before it. -/
theorem clean_of_sentBy
    (reported : Reported loader safeLoad answers) {sent : List (List Json)}
    (sentBy : SentBy safeLoad answers (batchesOf loader) 0 sent) {index : Nat}
    (bounded : index + 1 < sent.length) : Clean (answers index) := by
  have quiet := sentBy.quiet index bounded
  rw [Nat.zero_add] at quiet
  exact quiet.resolve_right (reported.between sent sentBy index bounded)

/-- What a registry that lacks nothing exposes are strings. -/
theorem textual_of_satisfied
    {schemas : List Json} {registry : Registry}
    (satisfied : ∀ kind name, ¬Lacks schemas registry kind name) : Textual schemas := by
  intro kind name declares
  have exposes : Exposes registry kind name := by
    by_contra unexposed
    exact satisfied kind name ⟨declares, unexposed⟩
  cases exposes
  exact ⟨⟨_, rfl⟩, ⟨_, rfl⟩⟩

/-- A run in which no errors without a text are passed over is as it should be. -/
theorem provisioned_of_reported
    (reported : Reported loader safeLoad answers) {fuel : Nat} {run : LoadRun}
    (ran : load loader text safeLoad ⟨answers, registries⟩ clock fuel = some run) :
    Provisioned loader safeLoad answers registries clock run := by
  obtain ⟨sent, calls, sentBy, returns⟩ :=
    @sentBy_batchRun loader text safeLoad ⟨answers, registries⟩
  have runSent : run.sent = callsOf loader.branch sent := (sent_of_load ran).trans calls
  constructor
  · exact ⟨sent, runSent, sentBy.parsed⟩
  · intro index bounded
    rw [runSent, callsOf, List.length_map] at bounded
    exact clean_of_sentBy reported sentBy bounded
  · intro result returned
    obtain ⟨loaded, expected, batches, collected, awaited⟩ := waited_of_load ran returned
    obtain ⟨flattened, all⟩ := returns loaded batches
    rw [flattened] at collected
    have ready := fun (kind name : Json) (declares : Declares sent.flatten kind name) =>
      exposes_of_awaitSchemaReady collected awaited declares
    have textual : Textual sent.flatten := by
      intro kind name declares
      obtain ⟨-, registry, -, satisfied⟩ := ready kind name declares
      exact textual_of_satisfied satisfied kind name declares
    have wellFormed := (exists_collected_iff sent.flatten).1 ⟨expected, collected⟩
    refine ⟨sent, runSent, ⟨all.parsed, ?_⟩, ?_⟩
    · intro index bounded
      exact (all.answered index bounded).resolve_right
        (reported.last sent all wellFormed textual index bounded)
    · intro kind name declares
      obtain ⟨waited, registry, fetched, satisfied⟩ := ready kind name declares
      refine ⟨waited, registry, fetched, ?_⟩
      by_contra unexposed
      exact satisfied kind name ⟨declares, unexposed⟩
  · intro sent last all wellFormed never
    obtain ⟨expected, collected⟩ := (exists_collected_iff sent.flatten).2 wellFormed
    obtain ⟨registry, fetched, outcome⟩ :=
      @awaitSchemaReady_of_neverReady loader ⟨answers, registries⟩ clock sent.flatten expected
        collected last never
    obtain ⟨_, _, kind, name, lacks⟩ := never.lacking last le_rfl
    have some_ : sent ≠ [] := by
      rintro rfl
      obtain ⟨⟨schema, impossible, -⟩, -⟩ := lacks
      cases impossible
    obtain ⟨totalLoaded, loads⟩ := @load_of_allSent loader text safeLoad ⟨answers, registries⟩
      clock sent expected (all.mono fun _ clean => Or.inl clean) some_ collected
    rw [loads, Option.map_eq_some_iff] at ran
    obtain ⟨waited, awaited, rfl⟩ := ran
    rw [outcome fuel waited awaited]
    obtain ⟨detail, returned⟩ :=
      exists_missingDetail_of_listable collected (reported.listable sent all wellFormed) registry
    refine ⟨rfl, registry, detail, fetched, ?_, lists_of_missingDetail collected returned⟩
    rw [notReady, returned]
    rfl

/-- A clock that is at the deadline when it is read again. -/
def jumping (timeout : Rat) (index : Nat) : Rat := if index = 0 then 0 else timeout

theorem advancing_natCast : Advancing fun index => (index : Rat) := by
  constructor
  · intro first second earlier
    exact Nat.cast_le.2 earlier
  · exact fun instant => exists_nat_ge instant

/-- The node that has the attributes expected of a kind. -/
def nodeOf (names : List Json) : SchemaNode := ⟨some (names.map fun name => some (kindText name))⟩

/-- The registry that has the expected attributes. -/
def registryOf (expected : Expected) : Registry :=
  .dict (Dict.ofPairs (expected.values.map fun entry => (kindText entry.1, nodeOf entry.2)))

theorem isString_of_values
    {schemas : List Json} {expected : Expected}
    (collected : collectExtensionAttributes schemas = .ok expected) (textual : Textual schemas)
    {entry : Json × List Json} (member : entry ∈ expected.values) : IsString entry.1 := by
  have found := (mem_values_iff collected entry).1 member
  obtain ⟨name, declares⟩ := (sound_collected collected _ _ _ found).kind
  exact (textual _ _ declares).1

/-- It lacks nothing, if the declared kinds and names are strings. -/
theorem satisfied_registryOf
    {schemas : List Json} {expected : Expected}
    (collected : collectExtensionAttributes schemas = .ok expected) (textual : Textual schemas)
    (kind name : Json) : ¬Lacks schemas (registryOf expected) kind name := by
  rintro ⟨declares, unexposed⟩
  obtain ⟨⟨kindString, rfl⟩, ⟨nameString, rfl⟩⟩ := textual kind name declares
  obtain ⟨shown, names, found, other, held, same⟩ :=
    (has_collected_iff collected (.str kindString) (.str nameString)).2
      ⟨_, _, declares, rfl, rfl⟩
  have ofKey := (sound_collected collected _ _ _ found).ofKey
  rw [keyOf_eq_str_iff] at ofKey same
  obtain rfl := ofKey
  obtain rfl := same
  have distinct : ((expected.values.map fun entry =>
      (kindText entry.1, nodeOf entry.2)).map Prod.fst).Nodup := by
    rw [List.map_map, List.Nodup, List.pairwise_map]
    apply (pairwise_values collected).imp_of_mem
    intro left right leftMember rightMember different equal
    obtain ⟨first, ofLeft⟩ := isString_of_values collected textual leftMember
    obtain ⟨second, ofRight⟩ := isString_of_values collected textual rightMember
    rw [Function.comp_apply, Function.comp_apply, ofLeft, ofRight] at equal
    obtain rfl : first = second := equal
    exact different (by rw [ofLeft, ofRight])
  apply unexposed
  refine @Exposes.ofNode _ kindString nameString (nodeOf names) _ ?_ rfl
    (List.mem_map.2 ⟨_, held, rfl⟩)
  rw [Dict.get?_eq_some_iff, Dict.entries_ofPairs distinct]
  exact List.mem_map.2 ⟨(.str kindString, names), (mem_values_iff collected _).2 found, rfl⟩

/-- If every run is as it should be, no errors without a text come before another batch. -/
theorem between_of_provisions
    (provisions : Provisions loader text safeLoad answers) {sent : List (List Json)}
    (sentBy : SentBy safeLoad answers (batchesOf loader) 0 sent) {index : Nat}
    (bounded : index + 1 < sent.length) : ¬Blank (answers index) := by
  intro blank
  obtain ⟨ends, runs⟩ := provisions (fun _ => .fetched .absent) fun index => (index : Rat)
  obtain ⟨fuel, run, ran⟩ := ends advancing_natCast
  have enough := @length_le_of_sentBy loader text safeLoad
    ⟨answers, fun _ => .fetched .absent⟩ (batchesOf loader)
    (fun batch member => ne_nil_of_mem_batchesOf member) sent [] 0 [] sentBy
  have later : index + 1 < run.sent.length := by
    rw [sent_of_load ran, batchRun]
    rw [List.length_nil, Nat.zero_add] at enough
    omega
  exact not_clean_of_blank blank ((runs fuel run ran).halted index later)

/-- If every run is as it should be, no errors without a text come before a return. -/
theorem last_of_provisions
    (provisions : Provisions loader text safeLoad answers) {sent : List (List Json)}
    (all : AllSent loader safeLoad Quiet answers sent)
    (wellFormed : ∀ schema ∈ sent.flatten, SchemaWellFormed schema)
    (textual : Textual sent.flatten) {index : Nat} (bounded : index < sent.length) :
    ¬Blank (answers index) := by
  intro blank
  obtain ⟨expected, collected⟩ := (exists_collected_iff sent.flatten).2 wellFormed
  have satisfied := satisfied_registryOf collected textual
  have some_ : sent ≠ [] := List.ne_nil_of_length_pos (Nat.zero_lt_of_lt bounded)
  obtain ⟨totalLoaded, loads⟩ := @load_of_allSent loader text safeLoad
    ⟨answers, fun _ => .fetched (registryOf expected)⟩ (fun _ => 0) sent expected all some_
    collected
  obtain ⟨polls, awaited⟩ := @awaitSchemaReady_of_satisfied loader
    ⟨answers, fun _ => .fetched (registryOf expected)⟩ (fun _ => 0) _ _ collected _ rfl satisfied
  have ran := loads 1
  rw [awaited, Option.map_some] at ran
  obtain ⟨-, runs⟩ := provisions (fun _ => .fetched (registryOf expected)) fun _ => 0
  obtain ⟨own, calls, clean, -⟩ := (runs 1 _ ran).returned _ rfl
  have lengths : sent.length = own.length := by
    have same := congrArg List.length calls
    rwa [callsOf, callsOf, List.length_map, List.length_map] at same
  exact not_clean_of_blank blank (clean.answered index (lengths ▸ bounded))

/-- If every run is as it should be, the declared attributes can be listed. -/
theorem listable_of_provisions
    (provisions : Provisions loader text safeLoad answers) {sent : List (List Json)}
    (all : AllSent loader safeLoad Clean answers sent)
    (wellFormed : ∀ schema ∈ sent.flatten, SchemaWellFormed schema) :
    Listable sent.flatten := by
  obtain ⟨expected, collected⟩ := (exists_collected_iff sent.flatten).2 wellFormed
  by_cases declared : ∃ kind name, Declares sent.flatten kind name
  swap
  · constructor
    · exact fun kind name declares => absurd ⟨kind, name, declares⟩ declared
    · exact fun kind name _ _ declares _ => absurd ⟨kind, name, declares⟩ declared
  · obtain ⟨kind, name, declares⟩ := declared
    have some_ : sent ≠ [] := by
      rintro rfl
      obtain ⟨schema, impossible, -⟩ := declares
      cases impossible
    have never : NeverReady loader (fun _ => .fetched .absent) (jumping loader.readinessTimeout)
        sent.flatten 0 := by
      refine ⟨?_, ?_, ?_⟩
      · intro index _
        refine ⟨.absent, rfl, kind, name, declares, ?_⟩
        intro impossible
        cases impossible
      · intro index impossible
        cases impossible
      · exact (zero_add loader.readinessTimeout).le
    have passed : loader.deadlinePassed (jumping loader.readinessTimeout) 0 = true :=
      decide_eq_true never.deadline
    obtain ⟨fuel, waited, awaited⟩ := @exists_awaitSchemaReady_of_passed loader
      ⟨answers, fun _ => .fetched .absent⟩ _ 0 passed expected
    obtain ⟨registry, fetched, outcome⟩ := @awaitSchemaReady_of_neverReady loader
      ⟨answers, fun _ => .fetched .absent⟩ _ _ _ collected 0 never
    obtain rfl : Registry.absent = registry := RegistryAnswer.fetched.inj fetched
    obtain ⟨totalLoaded, loads⟩ := @load_of_allSent loader text safeLoad
      ⟨answers, fun _ => .fetched .absent⟩ (jumping loader.readinessTimeout) sent expected
      (all.mono fun _ clean => Or.inl clean) some_ collected
    have ran := loads fuel
    rw [awaited, Option.map_some, outcome fuel waited awaited] at ran
    obtain ⟨-, runs⟩ := provisions (fun _ => .fetched .absent) (jumping loader.readinessTimeout)
    obtain ⟨-, registry, detail, -, raised, -⟩ :=
      (runs fuel _ ran).timedOut sent 0 all wellFormed never
    rcases listed : missingDetail (unsatisfiedSchema .absent expected) with failure | own
    · have raisedOther : loader.notReady (unsatisfiedSchema .absent expected) =
          .intentSchemaError (notReadyMessage loader detail) := Except.error.inj raised
      rw [notReady, listed] at raisedOther
      cases raisedOther
    · exact listable_of_missingDetail collected listed

/--
Loads provision the schema exactly where no errors without a text are passed
over, and the declared attributes can be listed.
-/
theorem provisions_iff :
    Provisions loader text safeLoad answers ↔ Reported loader safeLoad answers := by
  constructor
  · intro provisions
    constructor
    · exact fun sent sentBy index bounded => between_of_provisions provisions sentBy bounded
    · exact fun sent all wellFormed textual index bounded =>
        last_of_provisions provisions all wellFormed textual bounded
    · exact fun sent all wellFormed => listable_of_provisions provisions all wellFormed
  · intro reported registries clock
    exact ⟨exists_load, fun fuel run ran => provisioned_of_reported reported ran⟩

/-- A loader of one file. -/
def oneFileLoader : SchemaLoader where
  schemasPath := "schemas"
  schemasRoot := some ⟨[⟨"schemas/base/dcim.yml", true, some "nodes: []"⟩], [], []⟩
  useCase := "dcfabric"
  branch := none
  readinessTimeout := 30

/-- The document of the file. -/
def noNodes : Json := .obj [("nodes", .arr [])]

/-- The file is refused with an error without a text, and the load returns. -/
theorem blankError_passed_over :
    ¬Provisions oneFileLoader PyText.ascii (fun _ => .ok noNodes)
      fun _ => .answered (.dict [("errors", .arr [.str ""])]) := by
  intro provisions
  have batches : batchesOf oneFileLoader =
      [[⟨"schemas/base/dcim.yml", true, some "nodes: []"⟩]] := by decide +kernel
  have none : ∀ node, node ∉ extensionNodes noNodes := by
    intro node impossible
    cases impossible
  have wellFormed : SchemaWellFormed noNodes :=
    ⟨Or.inr ⟨_, rfl⟩, Or.inl rfl, Or.inl rfl, fun node member => absurd member (none node)⟩
  have all : AllSent oneFileLoader (fun _ => .ok noNodes) Quiet
      (fun _ => .answered (.dict [("errors", .arr [.str ""])])) [[noNodes]] := by
    constructor
    · rw [batches]
      exact .cons rfl .nil
    · exact fun _ _ => Or.inr ⟨_, rfl, rfl⟩
  have textual : Textual [noNodes] := by
    rintro kind name ⟨schema, member, node, impossible, -⟩
    rw [List.mem_singleton.1 member] at impossible
    exact absurd impossible (none node)
  have reported := last_of_provisions provisions all
    (fun schema member => List.mem_singleton.1 member ▸ wellFormed) textual (Nat.zero_lt_one)
  exact reported ⟨_, rfl, rfl⟩

end Snapl.Contract
