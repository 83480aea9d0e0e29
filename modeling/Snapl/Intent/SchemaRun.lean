import Mathlib.Algebra.Order.Ring.Rat
import Mathlib.Order.Monotone.Defs
import Snapl.Intent.SchemaBatches

/-!
# Runs of the schema loader

A load ends before it waits, or it waits for the attributes that its files
declare.  Waiting ends when a fetch fails, when a registry lacks nothing, or
when the clock has reached the deadline, which an advancing clock does one day.
-/

namespace Snapl.Intent

open Snapl.Library SchemaLoader

variable {loader : SchemaLoader} {text : PyText} {safeLoad : String → Except YamlFailure Json}
variable {server : SchemaServer} {clock : Nat → Rat}

/-- The batches that are not empty: base, extensions, and project. -/
def batchesOf (loader : SchemaLoader) : List (List SchemaFile) :=
  match loader.schemasRoot with
  | none => []
  | some root =>
      [globYml root.base, globYml root.extensions,
        globYml (root.entries.filter fun entry => entry.isFile)].filter fun batch => batch ≠ []

theorem ne_nil_of_mem_batchesOf {batch : List SchemaFile} (member : batch ∈ batchesOf loader) :
    batch ≠ [] := by
  rw [batchesOf] at member
  cases root : loader.schemasRoot with
  | none =>
      rw [root] at member
      cases member
  | some root' =>
      rw [root] at member
      simpa using (List.mem_filter.1 member).2

/-- Every batch is parsed, and every answer to a batch is of a kind. -/
structure AllSent (loader : SchemaLoader) (safeLoad : String → Except YamlFailure Json)
    (kind : LoadAnswer → Prop) (answers : Nat → LoadAnswer) (sent : List (List Json)) : Prop where
  parsed : List.Forall₂ (ParsesAs safeLoad) (batchesOf loader) sent
  answered : ∀ index < sent.length, kind (answers index)

theorem AllSent.mono
    {stronger weaker : LoadAnswer → Prop} {answers : Nat → LoadAnswer} {sent : List (List Json)}
    (all : AllSent loader safeLoad stronger answers sent)
    (implies : ∀ answer, stronger answer → weaker answer) :
    AllSent loader safeLoad weaker answers sent :=
  ⟨all.parsed, fun index bounded => implies _ (all.answered index bounded)⟩

/-- The loop over the batches of a directory. -/
def batchRun (loader : SchemaLoader) (text : PyText)
    (safeLoad : String → Except YamlFailure Json) (server : SchemaServer) :
    Except LoadError (List Json × Nat) × List LoadCall :=
  loadBatches loader text safeLoad server (batchesOf loader) [] 0 []

/-- Without its directory a load sends nothing. -/
theorem load_of_no_root (absent : loader.schemasRoot = none) (fuel : Nat) :
    load loader text safeLoad server clock fuel =
      some ⟨[], 0, .error (.intentSchemaError
        ("Schemas directory does not exist: " ++ loader.schemasPath))⟩ := by
  rw [load, absent]
  rfl

/-- What a load does after its batches. -/
def afterBatches (loader : SchemaLoader) (server : SchemaServer) (clock : Nat → Rat) (fuel : Nat) :
    Except LoadError (List Json × Nat) × List LoadCall → Option LoadRun
  | (.error error, sent) => some ⟨sent, 0, .error error⟩
  | (.ok loaded, sent) =>
      match collectExtensionAttributes loaded.1 with
      | .error error => some ⟨sent, 0, .error error⟩
      | .ok expected =>
          (awaitSchemaReady loader server clock fuel expected).map fun waited =>
            ⟨sent, waited.1, waited.2.map fun _ => ⟨loader.useCase, loaded.2, true⟩⟩

theorem load_of_root {root : SchemasRoot} (present : loader.schemasRoot = some root) (fuel : Nat) :
    load loader text safeLoad server clock fuel =
      afterBatches loader server clock fuel (batchRun loader text safeLoad server) := by
  have batches : batchesOf loader = [globYml root.base, globYml root.extensions,
      globYml (root.entries.filter fun entry => entry.isFile)].filter fun batch => batch ≠ [] := by
    rw [batchesOf, present]
  rw [load, present, batchRun, batches, ← loadBatches_filter]
  dsimp only [discoverSchemaBatches]
  generalize loadBatches loader text safeLoad server _ [] 0 [] = ran
  obtain ⟨failure | ⟨parsed, totalLoaded⟩, sent⟩ := ran
  · rfl
  · rfl

/-- A load sends a prefix of its batches, in order. -/
theorem sentBy_batchRun :
    ∃ sent, (batchRun loader text safeLoad server).2 = callsOf loader.branch sent ∧
      SentBy safeLoad server.loadAnswers (batchesOf loader) 0 sent ∧
      ∀ loaded, (batchRun loader text safeLoad server).1 = .ok loaded →
        loaded.1 = sent.flatten ∧
          AllSent loader safeLoad Quiet server.loadAnswers sent := by
  obtain ⟨sent, after, sentBy, returns⟩ := @loadBatches_spec loader text safeLoad server
    (batchesOf loader) (fun batch member => ne_nil_of_mem_batchesOf member) [] 0 []
  refine ⟨sent, after, sentBy, ?_⟩
  intro loaded returned
  obtain ⟨length, flattened, quiet⟩ := returns loaded returned
  refine ⟨flattened, ?_, ?_⟩
  · have parsed := sentBy.parsed
    rw [length, List.take_length] at parsed
    exact parsed
  · intro index bounded
    simpa using quiet index bounded

/-- Files that are not well formed end a load before it waits. -/
theorem afterBatches_of_uncollected
    {loaded : List Json × Nat} {failure : LoadError}
    (refused : collectExtensionAttributes loaded.1 = .error failure) (fuel : Nat)
    (sent : List LoadCall) :
    afterBatches loader server clock fuel (.ok loaded, sent) =
      some ⟨sent, 0, .error failure⟩ := by
  rw [afterBatches, refused]

/-- Otherwise the load waits for the attributes they declare. -/
theorem afterBatches_of_collected
    {loaded : List Json × Nat} {expected : Expected}
    (collected : collectExtensionAttributes loaded.1 = .ok expected) (fuel : Nat)
    (sent : List LoadCall) :
    afterBatches loader server clock fuel (.ok loaded, sent) =
      (awaitSchemaReady loader server clock fuel expected).map fun waited =>
        ⟨sent, waited.1, waited.2.map fun _ => ⟨loader.useCase, loaded.2, true⟩⟩ := by
  rw [afterBatches, collected]

theorem sent_of_afterBatches
    {ran : Except LoadError (List Json × Nat) × List LoadCall} {fuel : Nat} {run : LoadRun}
    (ended : afterBatches loader server clock fuel ran = some run) : run.sent = ran.2 := by
  obtain ⟨failure | loaded, sent⟩ := ran
  · obtain rfl := Option.some.inj ended
    rfl
  · rcases collected : collectExtensionAttributes loaded.1 with failure | expected
    · rw [afterBatches_of_uncollected collected] at ended
      obtain rfl := Option.some.inj ended
      rfl
    · rw [afterBatches_of_collected collected, Option.map_eq_some_iff] at ended
      obtain ⟨waited, -, rfl⟩ := ended
      rfl

/-- The requests of a load are those of its batches. -/
theorem sent_of_load
    {fuel : Nat} {run : LoadRun}
    (ran : load loader text safeLoad server clock fuel = some run) :
    run.sent = (batchRun loader text safeLoad server).2 := by
  rcases present : loader.schemasRoot with _ | root
  · rw [load_of_no_root present] at ran
    obtain rfl := Option.some.inj ran
    rw [batchRun, batchesOf, present]
    rfl
  · rw [load_of_root present] at ran
    exact sent_of_afterBatches ran

/-- A load that returns has waited for the attributes its batches declare. -/
theorem waited_of_load
    {fuel : Nat} {run : LoadRun} {result : ProvisionResult}
    (ran : load loader text safeLoad server clock fuel = some run)
    (returned : run.outcome = .ok result) :
    ∃ loaded expected,
      (batchRun loader text safeLoad server).1 = .ok loaded ∧
      collectExtensionAttributes loaded.1 = .ok expected ∧
      awaitSchemaReady loader server clock fuel expected = some (run.polls, .ok ()) := by
  rcases present : loader.schemasRoot with _ | root
  · rw [load_of_no_root present] at ran
    obtain rfl := Option.some.inj ran
    cases returned
  · rw [load_of_root present] at ran
    generalize batchRun loader text safeLoad server = batches at ran ⊢
    obtain ⟨failure | loaded, sent⟩ := batches
    · obtain rfl := Option.some.inj ran
      cases returned
    · rcases collected : collectExtensionAttributes loaded.1 with failure | expected
      · rw [afterBatches_of_uncollected collected] at ran
        obtain rfl := Option.some.inj ran
        cases returned
      · rw [afterBatches_of_collected collected, Option.map_eq_some_iff] at ran
        obtain ⟨⟨polls, ended⟩, awaited, rfl⟩ := ran
        cases ended with
        | error failure => cases returned
        | ok _ => exact ⟨loaded, expected, rfl, collected, awaited⟩

/-- When all batches are parsed and answered quietly, all are sent. -/
theorem batchRun_of_allSent
    {sent : List (List Json)} (all : AllSent loader safeLoad Quiet server.loadAnswers sent) :
    ∃ totalLoaded, batchRun loader text safeLoad server =
      (.ok (sent.flatten, totalLoaded), callsOf loader.branch sent) := by
  obtain ⟨totalLoaded, ran⟩ := @loadBatches_append loader text safeLoad server [] 0 []
    (batchesOf loader) [] sent (fun batch member => ne_nil_of_mem_batchesOf member) all.parsed (by
      intro index bounded
      simpa using all.answered index bounded)
  refine ⟨totalLoaded, ?_⟩
  rw [List.append_nil] at ran
  exact ran

/-- The load then waits for the attributes they declare. -/
theorem load_of_allSent
    {sent : List (List Json)} {expected : Expected}
    (all : AllSent loader safeLoad Quiet server.loadAnswers sent) (some_ : sent ≠ [])
    (collected : collectExtensionAttributes sent.flatten = .ok expected) :
    ∃ totalLoaded, ∀ fuel, load loader text safeLoad server clock fuel =
      (awaitSchemaReady loader server clock fuel expected).map fun waited =>
        ⟨callsOf loader.branch sent, waited.1,
          waited.2.map fun _ => ⟨loader.useCase, totalLoaded, true⟩⟩ := by
  obtain ⟨totalLoaded, ran⟩ := @batchRun_of_allSent loader text safeLoad server sent all
  refine ⟨totalLoaded, ?_⟩
  intro fuel
  rcases present : loader.schemasRoot with _ | root
  · have none : batchesOf loader = [] := by rw [batchesOf, present]
    have parsed := all.parsed
    rw [none, List.forall₂_nil_left_iff] at parsed
    exact absurd parsed some_
  · rw [load_of_root present, ran]
    exact afterBatches_of_collected collected fuel _

/-- No request is taken back. -/
theorem length_le_loadBatches
    {batches : List (List SchemaFile)} (present : ∀ batch ∈ batches, batch ≠ [])
    (parsed : List Json) (totalLoaded : Nat) (calls : List LoadCall) :
    calls.length ≤
      (loadBatches loader text safeLoad server batches parsed totalLoaded calls).2.length := by
  obtain ⟨sent, after, -, -⟩ := @loadBatches_spec loader text safeLoad server batches present
    parsed totalLoaded calls
  rw [after, List.length_append]
  exact Nat.le_add_right _ _

/-- Batches that parse are sent as long as the answers before them are quiet. -/
theorem length_le_of_sentBy
    {batches : List (List SchemaFile)} (present : ∀ batch ∈ batches, batch ≠ [])
    {sent : List (List Json)} {parsed : List Json} {totalLoaded : Nat} {calls : List LoadCall}
    (sentBy : SentBy safeLoad server.loadAnswers batches calls.length sent) :
    calls.length + sent.length ≤
      (loadBatches loader text safeLoad server batches parsed totalLoaded calls).2.length := by
  induction batches generalizing sent parsed totalLoaded calls with
  | nil =>
      have none := sentBy.parsed
      rw [List.take_nil, List.forall₂_nil_left_iff] at none
      rw [none]
      exact length_le_loadBatches (by simp) parsed totalLoaded calls
  | cons batch batches induction =>
      have own := present batch List.mem_cons_self
      have others : ∀ other ∈ batches, other ≠ [] :=
        fun other member => present other (List.mem_cons_of_mem batch member)
      cases sent with
      | nil => exact length_le_loadBatches present parsed totalLoaded calls
      | cons schemas sent =>
          have parsedAll := sentBy.parsed
          rw [List.length_cons, List.take_succ_cons, List.forall₂_cons] at parsedAll
          obtain ⟨parses, parsedRest⟩ := parsedAll
          have sentOne : (calls ++ callsOf loader.branch [schemas]).length = calls.length + 1 := by
            rw [List.length_append, callsOf, List.map_singleton, List.length_singleton]
          by_cases quiet : Quiet (server.loadAnswers calls.length)
          · rw [loadBatches_of_quiet own parses quiet]
            have rest : SentBy safeLoad server.loadAnswers batches
                (calls ++ callsOf loader.branch [schemas]).length sent := by
              refine ⟨parsedRest, ?_⟩
              intro index bounded
              have later := sentBy.quiet (index + 1) (Nat.succ_lt_succ bounded)
              rw [sentOne]
              rw [← Nat.add_assoc, Nat.add_right_comm] at later
              exact later
            have bounded := @induction others sent (parsed ++ schemas)
              (totalLoaded + batch.length) (calls ++ callsOf loader.branch [schemas]) rest
            rw [sentOne] at bounded
            rw [List.length_cons]
            omega
          · obtain ⟨failure, ran⟩ := @loadBatches_of_refused loader text safeLoad server batch
              batches schemas parsed totalLoaded calls own parses quiet
            have alone : sent = [] := by
              by_contra some_
              have first := sentBy.quiet 0 (by
                rw [List.length_cons]
                have := List.length_pos_of_ne_nil some_
                omega)
              exact quiet first
            rw [ran, sentOne, alone, List.length_singleton]

/-- A clock that never goes back, and reaches every instant. -/
structure Advancing (clock : Nat → Rat) : Prop where
  monotone : Monotone clock
  unbounded : ∀ instant, ∃ index, instant ≤ clock index

variable {schemas : List Json} {expected : Expected} {fuel : Nat}

/-- Waiting ends when the deadline is reached one day. -/
theorem exists_awaitSchemaReady_of_passed
    {index : Nat} (passed : loader.deadlinePassed clock index = true) (expected : Expected) :
    ∃ fuel waited, awaitSchemaReady loader server clock fuel expected = some waited := by
  by_cases none : expected.entries = []
  · refine ⟨0, (0, .ok ()), ?_⟩
    rw [awaitSchemaReady, if_pos none]
  · obtain ⟨fuel, ended, polled⟩ := @exists_pollUntil _ _ (fetchMissing server expected)
      (loader.deadlinePassed clock) 0 ⟨index, Nat.zero_le index, passed⟩
    refine ⟨fuel, (ended.1 + 1, loader.readiness ended.2), ?_⟩
    rw [awaitSchemaReady, if_neg none, polled, Option.map_some]

/-- Waiting ends for every advancing clock. -/
theorem exists_awaitSchemaReady (advancing : Advancing clock) (expected : Expected) :
    ∃ fuel waited, awaitSchemaReady loader server clock fuel expected = some waited := by
  obtain ⟨index, reached⟩ := advancing.unbounded (clock 0 + loader.readinessTimeout)
  have passed : loader.deadlinePassed clock index = true := by
    rw [deadlinePassed, decide_eq_true_eq]
    exact reached.trans (advancing.monotone (Nat.le_succ index))
  exact exists_awaitSchemaReady_of_passed passed expected

/-- A fetch finds what the registry lacks. -/
theorem fetchMissing_eq_ok_iff (server : SchemaServer) (expected : Expected) (index : Nat)
    (found : Option Missing) :
    fetchMissing server expected index = .ok found ↔
      ∃ registry, server.registries index = .fetched registry ∧
        found = if unsatisfiedSchema registry expected = [] then none
          else some (unsatisfiedSchema registry expected) := by
  rw [fetchMissing]
  cases server.registries index with
  | fetched registry =>
      dsimp only
      rw [Except.ok.injEq, eq_comm]
      simp
  | _ => simp

/-- A first registry that lacks nothing is enough. -/
theorem awaitSchemaReady_of_satisfied
    (collected : collectExtensionAttributes schemas = .ok expected) {registry : Registry}
    (fetched : server.registries 0 = .fetched registry)
    (satisfied : ∀ kind name, ¬Lacks schemas registry kind name) :
    ∃ polls, awaitSchemaReady loader server clock 1 expected = some (polls, .ok ()) := by
  by_cases none : expected.entries = []
  · refine ⟨0, ?_⟩
    rw [awaitSchemaReady, if_pos none]
  · have found : fetchMissing server expected 0 = .ok Option.none := by
      refine (fetchMissing_eq_ok_iff _ _ _ _).2 ⟨registry, fetched, ?_⟩
      rw [if_pos ((unsatisfiedSchema_eq_nil_iff collected registry).2 satisfied)]
    have ends : PollEnds (fetchMissing server expected) (loader.deadlinePassed clock) 0
        (.ok Option.none) := by
      refine ⟨found, ?_⟩
      intro lack impossible
      cases impossible
    refine ⟨1, ?_⟩
    rw [awaitSchemaReady, if_neg none, pollUntil_of_pollEnds ends]
    rfl

/-- After waiting, the registry fetched last has everything that is declared. -/
theorem exposes_of_awaitSchemaReady
    (collected : collectExtensionAttributes schemas = .ok expected) {polls : Nat}
    (waited : awaitSchemaReady loader server clock fuel expected = some (polls, .ok ()))
    {kind name : Json} (declares : Declares schemas kind name) :
    0 < polls ∧ ∃ registry, server.registries (polls - 1) = .fetched registry ∧
      ∀ kind name, ¬Lacks schemas registry kind name := by
  have some_ : ¬expected.entries = [] := fun none =>
    (entries_eq_nil_iff collected).1 none kind name declares
  rw [awaitSchemaReady, if_neg some_, Option.map_eq_some_iff] at waited
  obtain ⟨⟨last, found⟩, polled, same⟩ := waited
  rw [Prod.mk.injEq] at same
  obtain ⟨rfl, ready⟩ := same
  obtain ⟨-, -, -, ends⟩ := pollUntil_eq_some_iff.1 polled
  have none : found = .ok none := by
    rcases found with failure | _ | missing
    · cases ready
    · rfl
    · cases ready
  have fetched := ends.probed
  rw [none, fetchMissing_eq_ok_iff] at fetched
  obtain ⟨registry, answered, nothing⟩ := fetched
  refine ⟨Nat.succ_pos last, registry, answered, ?_⟩
  apply (unsatisfiedSchema_eq_nil_iff collected registry).1
  by_contra missing
  rw [if_neg missing] at nothing
  cases nothing

/-- No registry fetched until the deadline has everything, and one is fetched after it. -/
structure NeverReady (loader : SchemaLoader) (registries : Nat → RegistryAnswer)
    (clock : Nat → Rat) (schemas : List Json) (last : Nat) : Prop where
  lacking : ∀ index ≤ last, ∃ registry, registries index = .fetched registry ∧
    ∃ kind name, Lacks schemas registry kind name
  before : ∀ index < last, clock (index + 1) < clock 0 + loader.readinessTimeout
  deadline : clock 0 + loader.readinessTimeout ≤ clock (last + 1)

/-- Waiting then ends with what the last registry lacks. -/
theorem awaitSchemaReady_of_neverReady
    (collected : collectExtensionAttributes schemas = .ok expected) {last : Nat}
    (never : NeverReady loader server.registries clock schemas last) :
    ∃ registry, server.registries last = .fetched registry ∧
      ∀ fuel waited, awaitSchemaReady loader server clock fuel expected = some waited →
        waited = (last + 1, .error (loader.notReady (unsatisfiedSchema registry expected))) := by
  have missing : ∀ index ≤ last, ∃ registry, server.registries index = .fetched registry ∧
      fetchMissing server expected index =
        .ok (some (unsatisfiedSchema registry expected)) := by
    intro index bounded
    obtain ⟨registry, fetched, kind, name, lacks⟩ := never.lacking index bounded
    refine ⟨registry, fetched, (fetchMissing_eq_ok_iff _ _ _ _).2 ⟨registry, fetched, ?_⟩⟩
    rw [if_neg]
    intro none
    exact (unsatisfiedSchema_eq_nil_iff collected registry).1 none kind name lacks
  obtain ⟨registry, fetched, found⟩ := missing last le_rfl
  refine ⟨registry, fetched, ?_⟩
  have polled : pollUntil (fetchMissing server expected) (loader.deadlinePassed clock) (last + 1)
      0 = some (last, .ok (some (unsatisfiedSchema registry expected))) := by
    refine pollUntil_eq_some_iff.2 ⟨Nat.zero_le last, by omega, ?_, found, ?_⟩
    · intro index _ bounded
      obtain ⟨earlier, -, foundEarlier⟩ := missing index bounded.le
      refine ⟨?_, _, foundEarlier⟩
      rw [deadlinePassed, decide_eq_false_iff_not, not_le]
      exact never.before index bounded
    · intro _ _
      rw [deadlinePassed, decide_eq_true_eq]
      exact never.deadline
  obtain ⟨_, _, kind, name, lacks⟩ := never.lacking last le_rfl
  have some_ : ¬expected.entries = [] := fun none =>
    (entries_eq_nil_iff collected).1 none kind name lacks.1
  intro fuel waited awaited
  rw [awaitSchemaReady, if_neg some_, Option.map_eq_some_iff] at awaited
  obtain ⟨ended, polledToo, rfl⟩ := awaited
  rw [← pollUntil_unique polled polledToo]
  rfl

end Snapl.Intent
