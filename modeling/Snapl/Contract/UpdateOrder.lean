import Mathlib.Data.List.Perm.Basic
import Snapl.Collector.Contents
import Snapl.Contract.Redelivery

/-!
# The order of updates

The notifications of an answer, and the updates inside them, may come in any
order.  An answer and a rearrangement of it both fail or are both parsed, to
states that have the same keys and, under each, the same contents.  So the
success of a collection does not depend on the order of updates either.
-/

namespace Snapl.Contract

open Snapl.Library Snapl.Intent Snapl.Orchestrator Snapl.Collector

/-- An answer with its notifications, and the updates inside each, in another order. -/
def Reordered (response other : List GnmiNotification) : Prop :=
  ∃ arranged, List.Forall₂ (fun notification arranged =>
      notification.update.Perm arranged.update) response arranged ∧ arranged.Perm other

/-- Fetching fails for the same reason, or answers with the same updates in another order. -/
inductive SameAnswer :
    Except GnmiFailure (List GnmiNotification) → Except GnmiFailure (List GnmiNotification) →
      Prop where
  | failed (failure : GnmiFailure) : SameAnswer (.error failure) (.error failure)
  | answered {response other : List GnmiNotification} (reordered : Reordered response other) :
      SameAnswer (.ok response) (.ok other)

/-- Collections with the same success and the same contents. -/
def SameCollection (result other : CollectResult) : Prop :=
  result.success = other.success ∧ SameData result.data other.data

section Parsing

variable {text : GnmiText} {paths : List String}

theorem Reordered.updates
    {response other : List GnmiNotification} (reordered : Reordered response other) :
    (response.flatMap GnmiNotification.update).Perm (other.flatMap GnmiNotification.update) := by
  obtain ⟨arranged, inside, outside⟩ := reordered
  apply List.Perm.trans _ (outside.flatMap_right _)
  apply List.Perm.flatten_congr
  rw [List.forall₂_map_left_iff, List.forall₂_map_right_iff]
  exact inside

/-- An update without a value fails the whole answer. -/
theorem valued_of_parseUpdates
    {updates : List GnmiUpdate} {data final : Dict String Json}
    (parses : parseUpdates text paths data updates = .ok final) :
    ∀ update ∈ updates, update.val ≠ none := by
  induction updates generalizing data with
  | nil => nofun
  | cons update rest induction =>
      obtain ⟨path, _ | value⟩ := update
      · cases parses
      · obtain ⟨next, -, parsesRest⟩ := (parseUpdates_cons_eq_ok_iff _ _ _ _ _).1 parses
        intro update member
        rcases List.mem_cons.1 member with rfl | later
        · exact nofun
        · exact induction parsesRest update later

/-- The values of updates that may be sent again have no not-a-number and no key twice. -/
theorem comparable_of_mem_valuesAt
    {updates : List GnmiUpdate} (comparable : ∀ update ∈ updates, Comparable update)
    {key : String} {value : Json} (member : value ∈ valuesAt key (keyedValues text paths updates)) :
    value.nanFree = true ∧ value.distinctKeys = true := by
  rw [mem_valuesAt] at member
  obtain ⟨update, sent, keyed⟩ := List.mem_filterMap.1 member
  obtain ⟨own, valued, same⟩ := Option.map_eq_some_iff.1 keyed
  cases same
  exact comparable update sent value valued

/-- Updates in another order are parsed as well, to a state of the same contents. -/
theorem parseUpdates_perm
    {updates others : List GnmiUpdate} (reordered : updates.Perm others)
    (comparable : ∀ update ∈ updates, Comparable update) {data : Dict String Json}
    (parses : parseUpdates text paths Dict.empty updates = .ok data) :
    ∃ other, parseUpdates text paths Dict.empty others = .ok other ∧ SameData data other := by
  have valued := valued_of_parseUpdates parses
  have valuedOther : ∀ update ∈ others, update.val ≠ none := by
    intro update member
    exact valued update (reordered.mem_iff.2 member)
  have merges : ∀ key, ∃ value,
      mergeAt key none (valuesAt key (keyedValues text paths others)) = .ok value ∧
        Option.Rel SameContents (data.get? key) value := by
    intro key
    apply mergeAt_perm _ _ _ (mergeAt_of_parseUpdates valued parses key)
    · exact (reordered.filterMap _).filterMap _
    · intro value member
      exact (comparable_of_mem_valuesAt comparable member).1
    · intro value member
      exact (comparable_of_mem_valuesAt comparable member).2
  obtain ⟨other, parsed⟩ := parseUpdates_of_mergeAt valuedOther fun key =>
    (merges key).imp fun _ both => both.1
  refine ⟨other, parsed, ?_⟩
  intro key
  obtain ⟨value, merged, same⟩ := merges key
  rw [mergeAt_of_parseUpdates valuedOther parsed key, Except.ok.injEq] at merged
  rw [merged]
  exact same

/-- Updates in another order both fail or are both parsed. -/
theorem parseUpdates_toOption_rel
    {updates others : List GnmiUpdate} (reordered : updates.Perm others)
    (comparable : ∀ update ∈ updates, Comparable update) :
    Option.Rel SameData (parseUpdates text paths Dict.empty updates).toOption
      (parseUpdates text paths Dict.empty others).toOption := by
  rcases parses : parseUpdates text paths Dict.empty updates with error | data
  · rcases parsesOther : parseUpdates text paths Dict.empty others with otherError | other
    · exact .none
    · have comparableOther : ∀ update ∈ others, Comparable update := by
        intro update member
        exact comparable update (reordered.mem_iff.2 member)
      obtain ⟨data, parsed, -⟩ := parseUpdates_perm reordered.symm comparableOther parsesOther
      rw [parses] at parsed
      cases parsed
  · obtain ⟨other, parsed, same⟩ := parseUpdates_perm reordered comparable parses
    rw [parsed]
    exact .some same

end Parsing

theorem gnmiGet_cons
    (get : String → Except GnmiFailure (List GnmiNotification)) (path : String)
    (rest : List String) :
    gnmiGet get (path :: rest) =
      get path >>= fun response =>
        gnmiGet get rest >>= fun others => .ok (response.map (stamp path) ++ others) := by
  rw [gnmiGet, gnmiGet, List.mapM_cons]
  rcases get path with failure | response
  · rfl
  · rcases fetched : rest.mapM (fun path => do
        let response ← get path
        return response.map (stamp path)) with failure | others
    · simp only [fetched]
      rfl
    · simp only [fetched]
      rfl

/-- Collections that failed have the same contents: none. -/
theorem sameCollection_failed
    (device : Device) {error other : String} (present : error ≠ "") (presentOther : other ≠ "") :
    SameCollection (failedCollect device error present)
      (failedCollect device other presentOther) := by
  constructor
  · rfl
  · intro key
    rw [failedCollect, failedCollect, Dict.get?_empty]
    exact .none

theorem Reordered.stamp
    {response other : List GnmiNotification} (reordered : Reordered response other)
    (path : String) :
    Reordered (response.map (stamp path)) (other.map (stamp path)) := by
  obtain ⟨arranged, inside, outside⟩ := reordered
  refine ⟨arranged.map (Collector.stamp path), ?_, outside.map _⟩
  rw [List.forall₂_map_left_iff, List.forall₂_map_right_iff]
  apply inside.imp
  intro notification arranged same
  exact same.map _

/-- Fetching every path on its own fails the same way, or fetches the same updates. -/
theorem gnmiGet_same
    {get getOther : String → Except GnmiFailure (List GnmiNotification)}
    (same : ∀ path, SameAnswer (get path) (getOther path)) (paths : List String) :
    (∃ failure, gnmiGet get paths = .error failure ∧ gnmiGet getOther paths = .error failure) ∨
      ∃ response other, gnmiGet get paths = .ok response ∧ gnmiGet getOther paths = .ok other ∧
        (response.flatMap GnmiNotification.update).Perm
          (other.flatMap GnmiNotification.update) := by
  induction paths with
  | nil => exact Or.inr ⟨[], [], rfl, rfl, List.Perm.nil⟩
  | cons path rest induction =>
      rw [gnmiGet_cons, gnmiGet_cons]
      rcases answer : get path with failure | response <;>
        rcases answerOther : getOther path with failureOther | other
      all_goals
        have own := same path
        rw [answer, answerOther] at own
      · cases own
        exact Or.inl ⟨failure, rfl, rfl⟩
      · cases own
      · cases own
      · cases own with
        | answered reordered =>
            rcases induction with ⟨failure, fails, failsOther⟩ |
                ⟨later, laterOther, fetched, fetchedOther, permuted⟩
            · rw [fails, failsOther]
              exact Or.inl ⟨failure, rfl, rfl⟩
            · rw [fetched, fetchedOther]
              refine Or.inr ⟨_, _, rfl, rfl, ?_⟩
              rw [List.flatMap_append, List.flatMap_append]
              exact (reordered.stamp path).updates.append permuted

/-- What is fetched carries the values of the answers. -/
theorem comparable_of_gnmiGet
    {get : String → Except GnmiFailure (List GnmiNotification)}
    (comparable : ∀ path response, get path = .ok response →
      ∀ update ∈ response.flatMap GnmiNotification.update, Comparable update)
    {paths : List String} {response : List GnmiNotification}
    (fetched : gnmiGet get paths = .ok response) :
    ∀ update ∈ response.flatMap GnmiNotification.update, Comparable update := by
  induction paths generalizing response with
  | nil =>
      cases fetched
      exact nofun
  | cons path rest induction =>
      rw [gnmiGet_cons] at fetched
      obtain ⟨answer, answered, later⟩ := (bind_eq_ok _ _ _).1 fetched
      obtain ⟨others, fetchedOthers, joined⟩ := (bind_eq_ok _ _ _).1 later
      cases joined
      intro update member
      rw [List.flatMap_append, List.mem_append] at member
      rcases member with own | other
      · obtain ⟨_, stamped, inside⟩ := List.mem_flatMap.1 own
        obtain ⟨notification, sent, rfl⟩ := List.mem_map.1 stamped
        obtain ⟨original, carried, rfl⟩ := List.mem_map.1 inside
        exact comparable path answer answered original
          (List.mem_flatMap.2 ⟨notification, sent, carried⟩)
      · exact induction fetchedOthers update other

/-- An answer in another order is parsed alike, and a collection succeeds alike. -/
theorem update_order_irrelevant (text : GnmiText) :
    (∀ (paths : List String) (response other : List GnmiNotification),
      (∀ update ∈ response.flatMap GnmiNotification.update, Comparable update) →
      Reordered response other →
        Option.Rel SameData (parseResponse text response paths).toOption
          (parseResponse text other paths).toOption) ∧
    ∀ (collector : GnmiCollector) (device : Device) (paths : List String)
        (get getOther : String → String → Except GnmiFailure (List GnmiNotification)),
      (∀ host path response, get host path = .ok response →
        ∀ update ∈ response.flatMap GnmiNotification.update, Comparable update) →
      (∀ host path, SameAnswer (get host path) (getOther host path)) →
        Option.Rel SameCollection (collect text collector device paths get).toOption
          (collect text collector device paths getOther).toOption := by
  constructor
  · intro paths response other comparable reordered
    exact parseUpdates_toOption_rel reordered.updates comparable
  · intro collector device paths get getOther comparable same
    rw [collect, collect]
    split_ifs with requested
    · exact .none
    rcases collector.dialHost device with _ | host
    · exact .some (sameCollection_failed _ _ _)
    rcases gnmiGet_same (same host) paths with ⟨failure, fails, failsOther⟩ |
        ⟨response, other, fetched, fetchedOther, permuted⟩
    · simp only [fails, failsOther]
      exact .some (sameCollection_failed _ _ _)
    · have parsed : Option.Rel SameData (parseResponse text response paths).toOption
          (parseResponse text other paths).toOption :=
        parseUpdates_toOption_rel permuted (comparable_of_gnmiGet (comparable host) fetched)
      simp only [fetched, fetchedOther]
      generalize parseResponse text response paths = outcome at parsed ⊢
      generalize parseResponse text other paths = outcomeOther at parsed ⊢
      rcases outcome with error | data <;> rcases outcomeOther with errorOther | dataOther
      · exact .some (sameCollection_failed _ _ _)
      · cases parsed
      · cases parsed
      · cases parsed with
        | some same => exact .some ⟨rfl, same⟩

/-- An answer of two notifications, and the same updates in another order. -/
def answerInOrder : List GnmiNotification :=
  [⟨[portUpdate "e1", portUpdate "e2"]⟩, ⟨[portUpdate "e3"]⟩]

def answerReordered : List GnmiNotification :=
  [⟨[portUpdate "e3"]⟩, ⟨[portUpdate "e2", portUpdate "e1"]⟩]

theorem answer_reordered : Reordered answerInOrder answerReordered := by
  refine ⟨[⟨[portUpdate "e2", portUpdate "e1"]⟩, ⟨[portUpdate "e3"]⟩], ?_, List.Perm.swap _ _ _⟩
  exact .cons (List.Perm.swap _ _ _) (.cons (List.Perm.refl _) .nil)

theorem answer_comparable :
    ∀ update ∈ answerInOrder.flatMap GnmiNotification.update, Comparable update := by
  intro update member value valued
  simp only [answerInOrder, List.flatMap_cons, List.flatMap_nil, List.append_nil,
    List.cons_append, List.nil_append, List.mem_cons, List.not_mem_nil, or_false] at member
  rcases member with rfl | rfl | rfl <;> cases valued <;> decide

theorem answer_order_irrelevant :
    Option.Rel SameData (parseResponse GnmiText.ascii answerInOrder ["/interface"]).toOption
        (parseResponse GnmiText.ascii answerReordered ["/interface"]).toOption ∧
      Option.Rel SameCollection
        (collect GnmiText.ascii labCollector labLeaf ["/interface"]
          fun _ _ => .ok answerInOrder).toOption
        (collect GnmiText.ascii labCollector labLeaf ["/interface"]
          fun _ _ => .ok answerReordered).toOption := by
  constructor
  · exact (update_order_irrelevant GnmiText.ascii).1 _ _ _ answer_comparable answer_reordered
  · apply (update_order_irrelevant GnmiText.ascii).2
    · intro host path response answered
      cases answered
      exact answer_comparable
    · intro host path
      exact .answered answer_reordered

end Snapl.Contract
