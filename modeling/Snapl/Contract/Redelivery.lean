import Snapl.Collector.Absorption
import Snapl.Contract.FragmentedResponses

/-!
# Updates that are sent again

A target may send an update again at any later position, any number of times.
Merging an update again changes nothing, so the parsed state is the one of the
updates sent once.  The one value this does not hold for is not-a-number, which
is not equal to itself: the same leaf sent twice is then a conflict.
-/

namespace Snapl.Contract

open Snapl.Library Snapl.Collector

/-- Updates among which some of those already sent are sent again. -/
inductive Redelivers (may : GnmiUpdate → Prop) :
    List GnmiUpdate → List GnmiUpdate → List GnmiUpdate → Prop where
  | done (sent : List GnmiUpdate) : Redelivers may sent [] []
  | first {sent rest resent : List GnmiUpdate} (update : GnmiUpdate)
      (later : Redelivers may (update :: sent) rest resent) :
      Redelivers may sent (update :: rest) (update :: resent)
  | again {sent rest resent : List GnmiUpdate} (update : GnmiUpdate) (earlier : update ∈ sent)
      (allowed : may update) (later : Redelivers may sent rest resent) :
      Redelivers may sent rest (update :: resent)

/-- An update with a value a decoder builds: no dictionary has a key twice. -/
def Decoded (update : GnmiUpdate) : Prop :=
  ∀ value ∈ update.val, value.distinctKeys = true

/-- An update with a value a decoder builds, no part of which is not-a-number. -/
def Comparable (update : GnmiUpdate) : Prop :=
  ∀ value ∈ update.val, value.nanFree = true ∧ value.distinctKeys = true

section Parsing

variable {text : GnmiText} {paths : List String}

/-- The state has absorbed an update. -/
def Holds (text : GnmiText) (paths : List String) (data : Dict String Json)
    (update : GnmiUpdate) : Prop :=
  ∃ value, update.val = some value ∧ ∃ present,
    data.get? (updateKey text paths update.path) = some present ∧ Absorbs present value

/-- One update is merged with what its key has. -/
theorem parseUpdates_cons_eq_ok_iff
    (data final : Dict String Json) (path : Option String) (value : Json)
    (rest : List GnmiUpdate) :
    parseUpdates text paths data (⟨path, some value⟩ :: rest) = .ok final ↔
      ∃ next, combineWith (fun present value => mergeFragment present value
            (updateKey text paths path)) (data.get? (updateKey text paths path)) value =
          .ok next ∧
        parseUpdates text paths (data.set (updateKey text paths path) next) rest =
          .ok final := by
  rw [parseUpdates]
  rcases data.get? (updateKey text paths path) with _ | present
  · simp only [combineWith, ok_bind, Except.ok.injEq, exists_eq_left']
  · rcases merged : mergeFragment present value (updateKey text paths path) with conflict | made
    · simp only [combineWith, merged, reduceCtorEq, false_and, exists_false, iff_false]
      intro impossible
      cases impossible
    · simp only [combineWith, merged, Except.ok.injEq, exists_eq_left']
      exact Iff.rfl

/-- What is absorbed stays absorbed when an update is parsed. -/
theorem Holds.set
    {data : Dict String Json} {update : GnmiUpdate} (holds : Holds text paths data update)
    {key : String} {value next : Json}
    (combined : combineWith (fun present value => mergeFragment present value key)
      (data.get? key) value = .ok next) :
    Holds text paths (data.set key next) update := by
  obtain ⟨own, valued, present, found, absorbs⟩ := holds
  by_cases same : updateKey text paths update.path = key
  · rw [← same, found] at combined
    refine ⟨own, valued, next, ?_, absorbs.persists combined⟩
    rw [same, Dict.get?_set_self]
  · refine ⟨own, valued, present, ?_, absorbs⟩
    rw [Dict.get?_set_of_ne _ _ same]
    exact found

/-- An update that is parsed is absorbed. -/
theorem holds_set
    {data : Dict String Json} {update : GnmiUpdate} {value next : Json}
    (comparable : Comparable update) (valued : update.val = some value)
    (combined : combineWith (fun present value => mergeFragment present value
        (updateKey text paths update.path))
      (data.get? (updateKey text paths update.path)) value = .ok next) :
    Holds text paths (data.set (updateKey text paths update.path) next) update := by
  obtain ⟨free, distinct⟩ := comparable value valued
  refine ⟨value, valued, next, Dict.get?_set_self _ _ _, ?_⟩
  rcases present : data.get? (updateKey text paths update.path) with _ | present
  · rw [present] at combined
    cases combined
    exact absorbs_self free distinct
  · rw [present] at combined
    exact absorbs_of_merge free distinct combined

/-- Parsing an absorbed update changes nothing. -/
theorem parseUpdates_of_holds
    {data : Dict String Json} {update : GnmiUpdate} (holds : Holds text paths data update)
    (rest : List GnmiUpdate) :
    parseUpdates text paths data (update :: rest) = parseUpdates text paths data rest := by
  obtain ⟨path, carried⟩ := update
  obtain ⟨value, rfl, present, found, absorbs⟩ := holds
  have unchanged : data.set (updateKey text paths path) present = data := by
    apply Dict.ext
    exact assign_of_lookup found
  change data.get? (updateKey text paths path) = some present at found
  simp only [parseUpdates, found, absorbs.merges]
  change parseUpdates text paths (data.set (updateKey text paths path) present) rest = _
  rw [unchanged]

/-- Updates sent again are absorbed, wherever they come. -/
theorem parseUpdates_redelivered
    {sent updates resent : List GnmiUpdate} (redelivers : Redelivers Comparable sent updates resent)
    {data final : Dict String Json}
    (holds : ∀ update ∈ sent, Comparable update → Holds text paths data update)
    (parses : parseUpdates text paths data updates = .ok final) :
    parseUpdates text paths data resent = .ok final := by
  induction redelivers generalizing data with
  | done sent => exact parses
  | @first sent rest resent update later induction =>
      obtain ⟨path, _ | value⟩ := update
      · cases parses
      · rw [parseUpdates_cons_eq_ok_iff] at parses ⊢
        obtain ⟨next, combined, parsesRest⟩ := parses
        refine ⟨next, combined, induction ?_ parsesRest⟩
        intro other member comparable
        rcases List.mem_cons.1 member with rfl | before
        · exact holds_set comparable rfl combined
        · exact (holds other before comparable).set combined
  | @again sent rest resent update earlier comparable later induction =>
      rw [parseUpdates_of_holds (holds update earlier comparable)]
      exact induction holds parses

end Parsing

/-- An answer in which updates without not-a-number are sent again parses as the answer itself. -/
theorem redelivery_absorbed (text : GnmiText) :
    (∀ (paths : List String) (response resent : List GnmiNotification)
        (data : Dict String Json),
      Redelivers Comparable [] (response.flatMap GnmiNotification.update)
        (resent.flatMap GnmiNotification.update) →
      parseResponse text response paths = .ok data →
        parseResponse text resent paths = .ok data) ∧
    ∀ (place : String) (fragments : List Json) (merged fragment : Json),
      mergeAt place none fragments = .ok (some merged) → fragment ∈ fragments →
      fragment.nanFree = true → fragment.distinctKeys = true →
        ∀ where_, mergeFragment merged fragment where_ = .ok merged := by
  constructor
  · intro paths response resent data redelivers parses
    exact parseUpdates_redelivered redelivers nofun parses
  · intro place fragments merged fragment merges member free distinct where_
    exact (absorbs_of_mergeAt free distinct member merges).merges where_

/-- An update with the entry of one interface. -/
def portUpdate (name : String) : GnmiUpdate :=
  ⟨some "/interface", some (.arr [.obj [("name", .str name)]])⟩

/-- The state two such updates are parsed to. -/
def portState : Dict String Json :=
  ⟨[("/interface", .arr [.obj [("name", .str "e1")], .obj [("name", .str "e2")]])], by decide⟩

/-- The first of two updates, sent again after the second one, twice. -/
theorem portUpdates_redelivered :
    Redelivers Comparable [] [portUpdate "e1", portUpdate "e2"]
      [portUpdate "e1", portUpdate "e2", portUpdate "e1", portUpdate "e1"] := by
  have comparable : Comparable (portUpdate "e1") := by
    intro value valued
    cases valued
    decide
  have earlier : portUpdate "e1" ∈ [portUpdate "e2", portUpdate "e1"] :=
    List.mem_cons_of_mem _ List.mem_cons_self
  apply Redelivers.first
  apply Redelivers.first
  apply Redelivers.again _ earlier comparable
  apply Redelivers.again _ earlier comparable
  exact .done _

theorem portUpdates_absorbed :
    parseResponse GnmiText.ascii
        [⟨[portUpdate "e1", portUpdate "e2", portUpdate "e1", portUpdate "e1"]⟩] [] =
          .ok portState ∧
      mergeFragment (.arr [.int 1, .int 2, .int 2]) (.arr [.int 2, .int 2]) "/" =
        .ok (.arr [.int 1, .int 2, .int 2]) := by
  constructor
  · exact (redelivery_absorbed GnmiText.ascii).1 [] [⟨[portUpdate "e1", portUpdate "e2"]⟩] _ _
      portUpdates_redelivered (by rfl)
  · exact (redelivery_absorbed GnmiText.ascii).2 "/" [.arr [.int 1], .arr [.int 2, .int 2]]
      _ (.arr [.int 2, .int 2]) (by rfl) (by simp) (by decide) (by decide) "/"

/-- A leaf that is not-a-number. -/
def nanUpdate : GnmiUpdate := ⟨some "/temperature", some (.float .nan)⟩

theorem nanUpdate_redelivered : Redelivers Decoded [] [nanUpdate] [nanUpdate, nanUpdate] := by
  have decoded : Decoded nanUpdate := by
    intro value valued
    cases valued
    decide
  apply Redelivers.first
  apply Redelivers.again _ List.mem_cons_self decoded
  exact .done _

/-- Sent again, a leaf that is not-a-number conflicts with itself. -/
theorem not_absorbed_nan :
    ¬ ∀ (text : GnmiText) (paths : List String) (response resent : List GnmiNotification)
        (data : Dict String Json),
      Redelivers Decoded [] (response.flatMap GnmiNotification.update)
        (resent.flatMap GnmiNotification.update) →
      parseResponse text response paths = .ok data →
        parseResponse text resent paths = .ok data := by
  intro absorbed
  have resent := absorbed GnmiText.ascii [] [⟨[nanUpdate]⟩] [⟨[nanUpdate, nanUpdate]⟩]
    ⟨[("/temperature", .float .nan)], by decide⟩ nanUpdate_redelivered (by rfl)
  cases resent

end Snapl.Contract
