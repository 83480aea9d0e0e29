import Snapl.Collector.Fragments
import Snapl.Collector.Paths
import Snapl.Contract.FragmentedResponses

/-!
# Requested paths

A caller finds collected state under the path it asked for.  A device answers
under a path of its own form, or under none; normalizing brings its form back to
the requested one, and every request is answered on its own, so the state of one
path never reaches another.

An element with one module name loses it.  Only paths in a device's form are
normalized once and for all: an element with several names in front of colons
would lose one each time.
-/

namespace Snapl.Contract

open Snapl.Library Snapl.Intent Snapl.Orchestrator Snapl.Collector

variable {text : GnmiText}

/--
Normalizing a path in a device's form leaves its elements without their modules,
every predicate as it was; it changes nothing a second time, and tells any two
sequences of elements apart.
-/
theorem normalizePath_inverts_deviceForm (words : AsciiWords text) :
    (∀ form : DeviceForm text, normalizePath text form.path = requestPath form.elements) ∧
      (∀ form : DeviceForm text,
        normalizePath text (normalizePath text form.path) = normalizePath text form.path) ∧
      ∀ first second : DeviceForm text,
        normalizePath text first.path = normalizePath text second.path →
          first.elements = second.elements := by
  refine ⟨normalizePath_form words, ?_, ?_⟩
  · intro form
    rw [normalizePath_form words, ← path_requestForm, normalizePath_form words,
      elements_requestForm, path_requestForm]
  · intro first second same
    rw [normalizePath_form words, normalizePath_form words] at same
    exact requestPath_inj words same

theorem asciiWords_ascii : AsciiWords GnmiText.ascii := by
  intro char _
  rfl

/-- A name of ASCII word characters. -/
def asciiName (name : String)
    (named : name.toList ≠ [] ∧ name.toList.all (isModuleChar GnmiText.ascii) = true) :
    PathName GnmiText.ascii :=
  ⟨name.toList, named.1, List.all_eq_true.1 named.2⟩

theorem bracketed_balanced : Balanced '[' ']' "vrf:[a]/1".toList := by
  have before : Balanced '[' ']' "vrf:".toList := .of_plain (by decide)
  have inside : Balanced '[' ']' "a".toList := .of_plain (by decide)
  have after : Balanced '[' ']' "/1".toList := .of_plain (by decide)
  exact before.append (inside.nested after)

/-- The session settings of an instance, as a device writes them, its value with brackets. -/
def bgpForm : DeviceForm GnmiText.ascii where
  leading := 2
  written :=
    [{ module := some (asciiName "srl_nokia-network-instance" (by decide))
       element :=
         { name := asciiName "network-instance" (by decide)
           predicates :=
             [{ key := "name".toList
                value := "vrf:[a]/1".toList
                bareKey := by decide
                keyBalanced := .of_plain (by decide)
                valueBalanced := bracketed_balanced }] }
       slashes := 1 },
     { module := some (asciiName "srl_nokia-bgp" (by decide))
       element := { name := asciiName "bgp" (by decide), predicates := [] }
       slashes := 1 }]

theorem bgpForm_normalizes :
    normalizePath GnmiText.ascii
        "//srl_nokia-network-instance:network-instance[name=vrf:[a]/1]//srl_nokia-bgp:bgp/" =
      "/network-instance[name=vrf:[a]/1]/bgp" :=
  (normalizePath_inverts_deviceForm asciiWords_ascii).1 bgpForm

/-- An update without a path, or with one that normalizes like the requested one. -/
def CarriesPath (text : GnmiText) (requested : String) (path : Option String) : Prop :=
  filled? path = none ∨ ∃ reported, path = some reported ∧
    normalizePath text reported = normalizePath text requested

theorem names_of_carriesPath
    {requested : String} (targeted : normalizePath text requested ≠ "/") {path : Option String}
    (carries : CarriesPath text requested path) : Collector.Names text requested path := by
  rcases carries with absent | ⟨reported, rfl, same⟩
  · exact Or.inl absent
  · apply Or.inr
    have rooted : ∀ root, root = "" ∨ root = "/" → reported ≠ root := by
      rintro root slash rfl
      apply targeted
      rw [← same, normalizePath, if_pos slash]
    exact ⟨reported, filled?_some (rooted "" (Or.inl rfl)), rooted "/" (Or.inr rfl), same⟩

/-- The values of updates merge, in order and without exception, to what was collected. -/
def MergesTo (place : String) (updates : List GnmiUpdate) (collected : Option Json) : Prop :=
  ∃ values : List Json, updates.map GnmiUpdate.val = values.map some ∧
    mergeAt place none values = .ok collected

/-- Something is collected exactly where something was answered. -/
theorem MergesTo.collected_iff
    {place : String} {updates : List GnmiUpdate} {collected : Option Json}
    (merges : MergesTo place updates collected) : collected ≠ none ↔ updates ≠ [] := by
  obtain ⟨values, valued, merged⟩ := merges
  rcases updates with _ | ⟨update, rest⟩
  · obtain rfl : values = [] := List.map_eq_nil_iff.1 valued.symm
    rw [← Except.ok.inj merged]
    exact iff_of_false (fun present => present rfl) (fun present => present rfl)
  · rcases values with _ | ⟨value, others⟩
    · cases valued
    · apply iff_of_true _ (List.cons_ne_nil update rest)
      exact gatherAt_some_ne_none merged

theorem map_val_eq
    {updates : List GnmiUpdate} (valued : ∀ update ∈ updates, update.val ≠ none) :
    updates.map GnmiUpdate.val = (updates.filterMap GnmiUpdate.val).map some := by
  induction updates with
  | nil => rfl
  | cons update rest induction =>
      obtain ⟨value, has⟩ := Option.ne_none_iff_exists'.1 (valued update List.mem_cons_self)
      rw [List.map_cons, List.filterMap_cons_some has, List.map_cons, has,
        induction fun other member => valued other (List.mem_cons_of_mem _ member)]

/-- A successful collection dialled the device, had every path answered, and parsed the answers. -/
theorem collect_cases
    {collector : GnmiCollector} {device : Device} {paths : List String}
    {get : String → String → Except GnmiFailure (List GnmiNotification)}
    {result : CollectResult} (collects : collect text collector device paths get = .ok result)
    (succeeded : result.success = true) :
    ∃ host response, collector.dialHost device = some host ∧
      gnmiGet (get host) paths = .ok response ∧
      parseResponse text response paths = .ok result.data := by
  rw [collect] at collects
  split at collects
  · cases collects
  · split at collects
    · rw [← Except.ok.inj collects] at succeeded
      cases succeeded
    · next host dialled =>
        split at collects
        · rw [← Except.ok.inj collects] at succeeded
          cases succeeded
        · next response fetched =>
            split at collects
            · rw [← Except.ok.inj collects] at succeeded
              cases succeeded
            · next data parsed =>
                rw [← Except.ok.inj collects]
                exact ⟨host, response, dialled, fetched, parsed⟩

/-- Every path of a successful request was answered. -/
theorem gnmiGet_cases
    {get : String → Except GnmiFailure (List GnmiNotification)} {paths : List String}
    {response : List GnmiNotification} (fetched : gnmiGet get paths = .ok response) :
    ∀ path ∈ paths, ∃ answer, get path = .ok answer := by
  obtain ⟨answers, mapped, -⟩ := (bind_eq_ok _ _ _).1 fetched
  intro path member
  obtain ⟨_, made⟩ := exists_of_mapM_eq_ok mapped member
  obtain ⟨answer, given, -⟩ := (bind_eq_ok _ _ _).1 made
  exact ⟨answer, given⟩

/--
What is collected of a path is the merge of the updates answered to its request,
every one of them and no other; nothing is collected elsewhere.
-/
theorem collect_never_mixes_paths
    {collector : GnmiCollector} {device : Device} {paths : List String}
    {get : String → String → Except GnmiFailure (List GnmiNotification)}
    (distinct : (paths.map (normalizePath text)).Nodup)
    (targeted : ∀ path ∈ paths, normalizePath text path ≠ "/")
    (carried : ∀ host, ∀ path ∈ paths, ∀ answer, get host path = .ok answer →
      ∀ update ∈ answer.flatMap GnmiNotification.update, CarriesPath text path update.path)
    {result : CollectResult} (collects : collect text collector device paths get = .ok result)
    (succeeded : result.success = true) :
    ∃ (host : String) (answer : String → List GnmiNotification),
      collector.dialHost device = some host ∧
      (∀ path ∈ paths, get host path = .ok (answer path)) ∧
      (∀ path ∈ paths, MergesTo (normalizePath text path)
        ((answer path).flatMap GnmiNotification.update)
        (result.data.get? (normalizePath text path))) ∧
      ∀ key, key ∈ result.data.keys ↔ ∃ path ∈ paths, normalizePath text path = key ∧
        (answer path).flatMap GnmiNotification.update ≠ [] := by
  obtain ⟨host, response, dialled, fetched, parsed⟩ := collect_cases collects succeeded
  have answered := gnmiGet_cases fetched
  choose! answer given using answered
  rw [gnmiGet_eq given] at fetched
  obtain rfl := Except.ok.inj fetched
  have named : ∀ path ∈ paths, ∀ update ∈ (answer path).flatMap GnmiNotification.update,
      Collector.Names text path update.path := by
    intro path member update inside
    exact names_of_carriesPath (targeted path member)
      (carried host path member _ (given path member) update inside)
  have valued := valued_of_parseUpdates parsed
  have keyed := keyedValues_answers named
  have merges : ∀ path ∈ paths, MergesTo (normalizePath text path)
      ((answer path).flatMap GnmiNotification.update)
      (result.data.get? (normalizePath text path)) := by
    intro path member
    have merged := mergeAt_of_parseUpdates valued parsed (normalizePath text path)
    rw [keyed, valuesAt_sources (normalizePath text) _ distinct member] at merged
    refine ⟨_, map_val_eq ?_, merged⟩
    intro update inside
    rw [answeredUpdates_eq] at valued
    have stamped := valued _
      (List.mem_flatMap.2 ⟨path, member, List.mem_map.2 ⟨update, inside, rfl⟩⟩)
    exact stamped
  refine ⟨host, answer, dialled, given, merges, ?_⟩
  intro key
  constructor
  · intro present
    have requested : key ∈ paths.map (normalizePath text) := by
      by_contra foreign
      have merged := mergeAt_of_parseUpdates valued parsed key
      rw [keyed, valuesAt_sources_of_not_mem (normalizePath text) _ foreign] at merged
      exact (result.data.get?_eq_none_iff key).1 (Except.ok.inj merged).symm present
    obtain ⟨path, member, rfl⟩ := List.mem_map.1 requested
    refine ⟨path, member, rfl, (merges path member).collected_iff.1 ?_⟩
    intro absent
    exact (result.data.get?_eq_none_iff _).1 absent present
  · rintro ⟨path, member, rfl, nonempty⟩
    by_contra absent
    exact (merges path member).collected_iff.2 nonempty
      ((result.data.get?_eq_none_iff _).2 absent)

theorem portInTwo_never_mixes_paths :
    ∃ result, collect GnmiText.ascii labCollector labLeaf driftPaths portInTwo = .ok result ∧
      ∃ (host : String) (answer : String → List GnmiNotification),
        labCollector.dialHost labLeaf = some host ∧
        (∀ path ∈ driftPaths, portInTwo host path = .ok (answer path)) ∧
        (∀ path ∈ driftPaths, MergesTo (normalizePath GnmiText.ascii path)
          ((answer path).flatMap GnmiNotification.update)
          (result.data.get? (normalizePath GnmiText.ascii path))) ∧
        ∀ key, key ∈ result.data.keys ↔ ∃ path ∈ driftPaths,
          normalizePath GnmiText.ascii path = key ∧
            (answer path).flatMap GnmiNotification.update ≠ [] := by
  have answered := portInTwo_collected
  rcases collected : collect GnmiText.ascii labCollector labLeaf driftPaths portInTwo with
    error | result
  · rw [collected] at answered
    cases answered
  · rw [collected] at answered
    refine ⟨result, rfl, ?_⟩
    apply collect_never_mixes_paths (by decide +kernel) (by decide +kernel) ?_ collected
      (Prod.mk.inj (Except.ok.inj answered)).1
    intro host path requested
    rcases List.mem_cons.1 requested with rfl | later
    · rintro _ ⟨⟩ update inside
      apply Or.inr
      refine ⟨"srl_nokia-interfaces:interface", ?_, by decide +kernel⟩
      rcases List.mem_cons.1 inside with rfl | inside
      · rfl
      · rw [List.mem_singleton.1 inside]
    · rw [List.mem_singleton.1 later]
      rintro _ ⟨⟩ update inside
      rw [List.mem_singleton.1 inside]
      exact Or.inl rfl

end Snapl.Contract
