import Snapl.Collector.Gnmi
import Snapl.Orchestrator.Srlinux

/-!
# Fragments of a value

A target may report a value in fragments: a leaf any number of times, the
entries of a list over several updates, the fields of a container over several
updates, in any order.  Merging the fragments of a value succeeds, and what it
makes has every field of every container and every entry of every list.

When two entries count as one is a parameter of the splitting.
-/

namespace Snapl.Collector

open Snapl.Library Snapl.Intent Snapl.Orchestrator

/-- A value without parts that equals itself. -/
def IsLeaf : Json → Prop
  | .arr _ => False
  | .obj _ => False
  | .float .nan => False
  | _ => True

variable (alike : Json → Json → Prop)

/--
The fragments of a value.  Entries of lists arrive whole, and every name of a
container has one spelling in all fragments.
-/
inductive Splits : Json → List Json → Prop where
  | leaf {value : Json} {fragments : List Json} (whole : IsLeaf value)
      (reported : fragments ≠ []) (same : ∀ fragment ∈ fragments, fragment = value) :
      Splits value fragments
  | list {items : List Json} {lists : List (List Json)} (reported : lists ≠ [])
      (whole : ∀ list ∈ lists, ∀ entry ∈ list, ∃ item ∈ items, alike entry item)
      (every : ∀ item ∈ items, ∃ list ∈ lists, ∃ entry ∈ list, alike entry item) :
      Splits (.arr items) (lists.map .arr)
  | container {fields : List (String × Json)} {parts : List (List (String × Json))}
      (spelling : String → String) (reported : parts ≠ [])
      (distinct : (fields.map fun field => localName field.1).Nodup)
      (dicts : ∀ part ∈ parts, (part.map Prod.fst).Nodup)
      (spelled : ∀ own ∈ fields, localName (spelling own.1) = localName own.1)
      (named : ∀ part ∈ parts, ∀ field ∈ part, ∃ own ∈ fields, field.1 = spelling own.1)
      (split : ∀ own ∈ fields,
        Splits own.2 (parts.filterMap fun part => part.lookup (spelling own.1))) :
      Splits (.obj fields) (parts.map .obj)

/-- What merging the fragments of a value makes. -/
inductive Gathers : Json → Json → Prop where
  | leaf (value : Json) : Gathers value value
  | list {items merged : List Json}
      (whole : ∀ entry ∈ merged, ∃ item ∈ items, alike entry item)
      (every : ∀ item ∈ items, ∃ entry, alike entry item ∧
        ∃ kept ∈ merged, kept = entry ∨ kept.pyEq entry = true) :
      Gathers (.arr items) (.arr merged)
  | container {fields merged : List (String × Json)} (spelling : String → String)
      (distinct : (fields.map fun field => localName field.1).Nodup)
      (dict : (merged.map Prod.fst).Nodup)
      (spelled : ∀ own ∈ fields, localName (spelling own.1) = localName own.1)
      (named : ∀ field ∈ merged, ∃ own ∈ fields, field.1 = spelling own.1)
      (present : ∀ own ∈ fields, spelling own.1 ∈ merged.map Prod.fst)
      (every : ∀ own ∈ fields, Gathers own.2 ((merged.lookup (spelling own.1)).getD .null)) :
      Gathers (.obj fields) (.obj merged)

/-! ## Merging one kind of value -/

/-- Merge what is reported at a place, from left to right. -/
def mergeAt (place : String) :
    Option Json → List Json → Except FragmentConflict (Option Json) :=
  gatherAt fun present value => mergeFragment present value place

theorem pyEq_self_of_isLeaf {value : Json} (leaf : IsLeaf value) : value.pyEq value = true := by
  cases value with
  | arr => cases leaf
  | obj => cases leaf
  | float number =>
      cases number with
      | nan => cases leaf
      | finite => simp [Json.pyEq, Json.number?]
      | infinite => simp [Json.pyEq]
  | null => simp
  | bool => simp
  | int => simp
  | str => simp

theorem mergeFragment_leaf {value : Json} (leaf : IsLeaf value) (place : String) :
    mergeFragment value value place = .ok value := by
  cases value with
  | arr => cases leaf
  | obj => cases leaf
  | _ => rw [mergeFragment, if_pos (pyEq_self_of_isLeaf leaf)] <;> nofun

theorem mergeAt_leaf
    {value : Json} (leaf : IsLeaf value) (place : String) {fragments : List Json}
    (same : ∀ fragment ∈ fragments, fragment = value) :
    mergeAt place (some value) fragments = .ok (some value) := by
  induction fragments with
  | nil => rfl
  | cons fragment rest induction =>
      rw [same fragment List.mem_cons_self, mergeAt, gatherAt, combineWith,
        mergeFragment_leaf leaf, ok_bind]
      exact induction fun other member => same other (List.mem_cons_of_mem _ member)

/-- Merging lists keeps every entry, or one equal to it, and makes up none. -/
theorem mergeAt_lists (place : String) (merged : List Json) (lists : List (List Json)) :
    ∃ result, mergeAt place (some (.arr merged)) (lists.map .arr) = .ok (some (.arr result)) ∧
      (∀ entry ∈ merged, entry ∈ result) ∧
      (∀ entry ∈ result, entry ∈ merged ∨ ∃ list ∈ lists, entry ∈ list) ∧
      ∀ list ∈ lists, ∀ entry ∈ list,
        ∃ kept ∈ result, kept = entry ∨ kept.pyEq entry = true := by
  induction lists generalizing merged with
  | nil =>
      exact ⟨merged, rfl, fun _ member => member, fun _ member => Or.inl member, nofun⟩
  | cons list lists induction =>
      obtain ⟨result, gathers, keeps, made, every⟩ := induction
        (merged ++ list.filter fun entry => !merged.any fun item => item.pyEq entry)
      refine ⟨result, ?_, ?_, ?_, ?_⟩
      · rw [List.map_cons, mergeAt, gatherAt, combineWith, mergeFragment, ok_bind]
        exact gathers
      · intro entry member
        exact keeps entry (List.mem_append_left _ member)
      · intro entry member
        rcases made entry member with earlier | ⟨other, otherMember, inside⟩
        · rcases List.mem_append.1 earlier with old | new
          · exact Or.inl old
          · exact Or.inr ⟨list, List.mem_cons_self, List.mem_of_mem_filter new⟩
        · exact Or.inr ⟨other, List.mem_cons_of_mem _ otherMember, inside⟩
      · intro other otherMember entry member
        rcases List.mem_cons.1 otherMember with rfl | later
        · rcases present : merged.any fun item => item.pyEq entry with _ | _
          · refine ⟨entry, keeps entry (List.mem_append_right _ ?_), Or.inl rfl⟩
            exact List.mem_filter.2 ⟨member, by rw [present]; rfl⟩
          · obtain ⟨item, itemMember, equal⟩ := List.any_eq_true.1 present
            exact ⟨item, keeps item (List.mem_append_left _ itemMember), Or.inr equal⟩
        · exact every other later entry member

/-- How a container combines the values of one of its names. -/
def combineBelow (place name : String) (present value : Json) : Except FragmentConflict Json :=
  mergeFragment present value (fieldPlace place name)

theorem mergeFields_eq (place : String) (merged incoming : List (String × Json)) :
    mergeFields merged incoming place = gather (combineBelow place) merged incoming := by
  induction incoming generalizing merged with
  | nil => rw [mergeFields, gather]
  | cons field rest induction =>
      obtain ⟨name, value⟩ := field
      rw [mergeFields, gather]
      rcases merged.lookup name with _ | present
      · exact induction _
      · rcases merged : mergeFragment present value (fieldPlace place name) with conflict | next
        · simp only [combineWith, combineBelow, merged, error_bind]
        · simp only [combineWith, combineBelow, merged, ok_bind]
          exact induction _

theorem mergeAt_parts
    (place : String) (merged : List (String × Json)) (parts : List (List (String × Json))) :
    mergeAt place (some (.obj merged)) (parts.map .obj) =
      (gather (combineBelow place) merged parts.flatten).map fun fields =>
        some (.obj fields) := by
  induction parts generalizing merged with
  | nil => rfl
  | cons part parts induction =>
      rw [List.map_cons, mergeAt, gatherAt, combineWith, mergeFragment, mergeFields_eq,
        List.flatten_cons, gather_append]
      rcases gather (combineBelow place) merged part with conflict | fields
      · rfl
      · exact induction fields

/-- Merging containers gathers all their fields. -/
theorem mergeAt_containers
    (place : String) {parts : List (List (String × Json))} (reported : parts ≠ [])
    (dicts : ∀ part ∈ parts, (part.map Prod.fst).Nodup) :
    mergeAt place none (parts.map .obj) =
      (gather (combineBelow place) [] parts.flatten).map fun fields => some (.obj fields) := by
  cases parts with
  | nil => exact absurd rfl reported
  | cons part parts =>
      have inserted : gather (combineBelow place) [] part = .ok part :=
        gather_of_fresh (dicts part List.mem_cons_self)
      rw [List.flatten_cons, gather_append, inserted, ok_bind, ← mergeAt_parts]
      rfl

/-! ## Merging the fragments of a value -/

variable {alike}

/-- The fragments of a value merge, to what has all its fields and entries. -/
theorem Splits.merges
    {value : Json} {fragments : List Json} (splits : Splits alike value fragments)
    (place : String) :
    ∃ merged, mergeAt place none fragments = .ok (some merged) ∧ Gathers alike value merged := by
  induction splits generalizing place with
  | @leaf value fragments leaf reported same =>
      cases fragments with
      | nil => exact absurd rfl reported
      | cons fragment rest =>
          refine ⟨value, ?_, .leaf value⟩
          rw [mergeAt, gatherAt, combineWith, ok_bind, same fragment List.mem_cons_self]
          exact mergeAt_leaf leaf place fun other member =>
            same other (List.mem_cons_of_mem _ member)
  | @list items lists reported whole every =>
      cases lists with
      | nil => exact absurd rfl reported
      | cons list lists =>
          obtain ⟨merged, gathers, keeps, made, kept⟩ := mergeAt_lists place list lists
          refine ⟨.arr merged, gathers, .list ?_ ?_⟩
          · intro entry member
            rcases made entry member with first | ⟨other, otherMember, inside⟩
            · exact whole list List.mem_cons_self entry first
            · exact whole other (List.mem_cons_of_mem _ otherMember) entry inside
          · intro item member
            obtain ⟨other, otherMember, entry, inside, same⟩ := every item member
            refine ⟨entry, same, ?_⟩
            rcases List.mem_cons.1 otherMember with rfl | later
            · exact ⟨entry, keeps entry inside, Or.inl rfl⟩
            · exact kept other later entry inside
  | @container fields parts spelling reported distinct dicts spelled named split induction =>
      -- a name gathers what its own field splits into, and any other name nothing
      have own_gathers : ∀ own ∈ fields, ∃ merged,
          gatherAt (combineBelow place (spelling own.1)) none
            (valuesAt (spelling own.1) parts.flatten) = .ok (some merged) ∧
          Gathers alike own.2 merged := by
        intro own member
        rw [valuesAt_flatten dicts]
        exact induction own member (fieldPlace place (spelling own.1))
      have other_absent : ∀ name, (¬ ∃ own ∈ fields, name = spelling own.1) →
          valuesAt name parts.flatten = [] := by
        intro name foreign
        rw [valuesAt_flatten dicts, List.filterMap_eq_nil_iff]
        intro part member
        rw [lookup_eq_none_iff_not_mem]
        intro present
        obtain ⟨field, inside, rfl⟩ := List.mem_map.1 present
        exact foreign (named part member field inside)
      have each : ∀ name, ∃ value,
          gatherAt (combineBelow place name) (List.lookup name []) (valuesAt name parts.flatten) =
            .ok value := by
        intro name
        by_cases own : ∃ own ∈ fields, name = spelling own.1
        · obtain ⟨own, member, rfl⟩ := own
          obtain ⟨merged, gathers, -⟩ := own_gathers own member
          exact ⟨some merged, gathers⟩
        · exact ⟨none, by rw [other_absent name own, gatherAt, List.lookup_nil]⟩
      obtain ⟨merged, gathers, gives⟩ := exists_gather each
      have dict : (merged.map Prod.fst).Nodup := by
        apply nodup_gather _ gathers
        rw [List.map_nil]
        exact List.nodup_nil
      have found : ∀ own ∈ fields, ∃ value, merged.lookup (spelling own.1) = some value ∧
          Gathers alike own.2 value := by
        intro own member
        obtain ⟨value, valued, gathered⟩ := own_gathers own member
        exact ⟨value, (Except.ok.inj (valued.symm.trans (gives (spelling own.1)))).symm, gathered⟩
      refine ⟨.obj merged, ?_, .container spelling distinct dict spelled ?_ ?_ ?_⟩
      · rw [mergeAt_containers place reported dicts, gathers]
        rfl
      · rintro ⟨name, value⟩ member
        by_contra foreign
        have given := gives name
        have absent := lookup_of_mem dict member
        rw [other_absent name foreign, absent] at given
        cases given
      · intro own member
        obtain ⟨value, looked, -⟩ := found own member
        exact List.mem_map.2 ⟨_, mem_of_lookup looked, rfl⟩
      · intro own member
        obtain ⟨value, looked, gathered⟩ := found own member
        rw [looked]
        exact gathered

/-! ## Parsing an answer -/

section Parsing

variable {text : GnmiText} {paths : List String}

/-- The values of updates, under their keys. -/
def keyedValues (text : GnmiText) (paths : List String) (updates : List GnmiUpdate) :
    List (String × Json) :=
  updates.filterMap fun update =>
    update.val.map fun value => (updateKey text paths update.path, value)

/-- Parsing gathers the values of the updates under their keys. -/
theorem parseUpdates_eq
    (text : GnmiText) (paths : List String) {updates : List GnmiUpdate} (valued : ∀ update ∈ updates, update.val ≠ none)
    (data : Dict String Json) :
    (parseUpdates text paths data updates).map Dict.entries =
      gather (fun key present value => (mergeFragment present value key).mapError .conflict)
        data.entries (keyedValues text paths updates) := by
  induction updates generalizing data with
  | nil => rfl
  | cons update rest induction =>
      obtain ⟨path, _ | value⟩ := update
      · exact absurd rfl (valued _ List.mem_cons_self)
      · have later := induction fun other member => valued other (List.mem_cons_of_mem _ member)
        have keyed : keyedValues text paths (⟨path, some value⟩ :: rest) =
            (updateKey text paths path, value) :: keyedValues text paths rest := rfl
        rw [keyed, parseUpdates, gather]
        change _ = combineWith _ (data.get? (updateKey text paths path)) value >>= _
        rcases data.get? (updateKey text paths path) with _ | present
        · exact later (data.set (updateKey text paths path) value)
        · rcases merged : mergeFragment present value (updateKey text paths path) with
            conflict | next
          · simp only [combineWith, merged]
            rfl
          · simp only [combineWith, merged]
            exact later (data.set (updateKey text paths path) next)

/-- The fragments of a value that may be absent. -/
inductive SplitsAt (alike : Json → Json → Prop) : Option Json → List Json → Prop where
  | absent : SplitsAt alike none []
  | reported {value : Json} {fragments : List Json} (splits : Splits alike value fragments) :
      SplitsAt alike (some value) fragments

/-- What merging the fragments of a value that may be absent makes. -/
inductive GathersAt (alike : Json → Json → Prop) : Option Json → Option Json → Prop where
  | absent : GathersAt alike none none
  | reported {value merged : Json} (gathers : Gathers alike value merged) :
      GathersAt alike (some value) (some merged)

/-- What merging the fragments of a whole state makes. -/
def GathersState (alike : Json → Json → Prop) (state data : Dict String Json) : Prop :=
  ∀ key, GathersAt alike (state.get? key) (data.get? key)

theorem SplitsAt.merges
    {value : Option Json} {fragments : List Json} (splits : SplitsAt alike value fragments)
    (place : String) :
    ∃ merged, mergeAt place none fragments = .ok merged ∧ GathersAt alike value merged := by
  cases splits with
  | absent => exact ⟨none, rfl, .absent⟩
  | reported splits =>
      obtain ⟨merged, gathers, gathered⟩ := splits.merges place
      exact ⟨some merged, gathers, .reported gathered⟩

/-- What parsing makes of a key is the merge of its values. -/
theorem mergeAt_of_parseUpdates
    {updates : List GnmiUpdate} (valued : ∀ update ∈ updates, update.val ≠ none)
    {data : Dict String Json} (parses : parseUpdates text paths Dict.empty updates = .ok data)
    (key : String) :
    mergeAt key none (valuesAt key (keyedValues text paths updates)) = .ok (data.get? key) := by
  have gathers := parseUpdates_eq text paths valued Dict.empty
  rw [parses] at gathers
  have own := gatherAt_of_gather gathers.symm key
  rw [gatherAt_mapError, Dict.entries_empty, List.lookup_nil] at own
  change (mergeAt key none (valuesAt key (keyedValues text paths updates))).mapError
    ParseError.conflict = _ at own
  rcases merged : mergeAt key none (valuesAt key (keyedValues text paths updates)) with
    conflict | value
  · rw [merged] at own
    cases own
  · rw [merged] at own
    rw [Except.ok.inj own]
    rfl

/-- Only updates with values are parsed. -/
theorem valued_of_parseUpdates
    {updates : List GnmiUpdate} {before data : Dict String Json}
    (parses : parseUpdates text paths before updates = .ok data) :
    ∀ update ∈ updates, update.val ≠ none := by
  induction updates generalizing before with
  | nil => nofun
  | cons update rest induction =>
      obtain ⟨path, _ | value⟩ := update
      · cases parses
      · have later : ∃ next, parseUpdates text paths next rest = .ok data := by
          rw [parseUpdates] at parses
          split at parses
          · obtain ⟨next, -, parses⟩ := (bind_eq_ok _ _ _).1 parses
            exact ⟨_, parses⟩
          · exact ⟨_, parses⟩
        obtain ⟨next, parses⟩ := later
        intro other member
        rcases List.mem_cons.1 member with rfl | inside
        · exact Option.some_ne_none value
        · exact induction parses other inside

/-- Updates are parsed where the values of every key merge. -/
theorem parseUpdates_of_mergeAt
    {updates : List GnmiUpdate} (valued : ∀ update ∈ updates, update.val ≠ none)
    (merges : ∀ key, ∃ value,
      mergeAt key none (valuesAt key (keyedValues text paths updates)) = .ok value) :
    ∃ data, parseUpdates text paths Dict.empty updates = .ok data := by
  have each : ∀ key, ∃ value,
      gatherAt (fun present value =>
          (mergeFragment present value key).mapError ParseError.conflict)
        (Dict.empty.entries.lookup key) (valuesAt key (keyedValues text paths updates)) =
          .ok value := by
    intro key
    obtain ⟨value, merged⟩ := merges key
    refine ⟨value, ?_⟩
    rw [mergeAt] at merged
    rw [gatherAt_mapError, Dict.entries_empty, List.lookup_nil, merged]
    rfl
  obtain ⟨entries, gathers, -⟩ := exists_gather each
  have parses := parseUpdates_eq text paths valued Dict.empty
  rw [gathers] at parses
  rcases parsed : parseUpdates text paths Dict.empty updates with error | data
  · rw [parsed] at parses
    cases parses
  · exact ⟨data, rfl⟩

/-- An answer in fragments of a state is parsed, to what has all of the state. -/
theorem parseResponse_gathers
    (paths : List String) {response : List GnmiNotification} {state : Dict String Json}
    (valued : ∀ update ∈ response.flatMap GnmiNotification.update, update.val ≠ none)
    (split : ∀ key, SplitsAt alike (state.get? key)
      (valuesAt key (keyedValues text paths (response.flatMap GnmiNotification.update)))) :
    ∃ data, parseResponse text response paths = .ok data ∧ GathersState alike state data := by
  obtain ⟨data, parsed⟩ := parseUpdates_of_mergeAt valued fun key =>
    ((split key).merges key).imp fun _ both => both.1
  refine ⟨data, parsed, ?_⟩
  intro key
  obtain ⟨merged, gathers, gathered⟩ := (split key).merges key
  rw [mergeAt_of_parseUpdates valued parsed key, Except.ok.injEq] at gathers
  rw [gathers]
  exact gathered

end Parsing

/-! ## Collecting -/

/-- An update that carries the path of a container, or none. -/
def Names (text : GnmiText) (container : String) (path : Option String) : Prop :=
  filled? path = none ∨ ∃ reported, filled? path = some reported ∧ reported ≠ "/" ∧
    normalizePath text reported = normalizePath text container

/-- The answer to a request for a container, in fragments of its value. -/
structure Answers (alike : Json → Json → Prop) (text : GnmiText) (container : String)
    (value : Json) (answer : List GnmiNotification) : Prop where
  named : ∀ update ∈ answer.flatMap GnmiNotification.update, Names text container update.path
  valued : ∀ update ∈ answer.flatMap GnmiNotification.update, update.val ≠ none
  split : Splits alike value
    ((answer.flatMap GnmiNotification.update).filterMap GnmiUpdate.val)

/-- The state of some containers, each in one piece. -/
def unsplit (text : GnmiText) (paths : List String) (state : String → Json) :
    Dict String Json :=
  Dict.ofPairs (paths.map fun path => (normalizePath text path, state path))

section Collecting

variable {text : GnmiText}

/-- A stamped update of a requested container is keyed by the container. -/
theorem updateKey_of_names
    {paths : List String} {container : String} (requested : container ∈ paths)
    {path : Option String} (names : Names text container path) :
    updateKey text paths (some ((filled? path).getD container)) =
      normalizePath text container := by
  have named : ∀ {reported : String}, reported ≠ "" → reported ≠ "/" →
      updateKey text paths (some reported) = normalizePath text reported := by
    intro reported present targeted
    rw [updateKey, filled?_some present, Option.filter_some_pos (by simpa using targeted)]
  have root : container = "" ∨ container = "/" →
      updateKey text paths (some container) = normalizePath text container := by
    intro root
    have slash : normalizePath text container = "/" := by
      rw [normalizePath, if_pos root]
    have unnamed : (filled? (some container)).filter (· ≠ "/") = none := by
      rcases root with rfl | rfl
      · rfl
      · rfl
    have rootKeyed : rootKey text paths = normalizePath text container := by
      rcases paths with _ | ⟨first, _ | ⟨second, rest⟩⟩
      · cases requested
      · rw [rootKey, List.mem_singleton.1 requested]
      · exact slash.symm
    rw [updateKey, unnamed]
    exact rootKeyed
  rcases names with absent | ⟨reported, filled, targeted, same⟩
  · rw [absent, Option.getD_none]
    by_cases rooted : container = "" ∨ container = "/"
    · exact root rooted
    · rw [not_or] at rooted
      exact named rooted.1 rooted.2
  · have present : reported ≠ "" := ((filled?_eq_some_iff path reported).1 filled).2
    rw [filled, Option.getD_some, named present targeted, same]

/-- Stamping an answer stamps its updates. -/
theorem stampedUpdates_eq (path : String) (answer : List GnmiNotification) :
    (answer.map (stamp path)).flatMap GnmiNotification.update =
      (answer.flatMap GnmiNotification.update).map fun update =>
        { update with path := some ((filled? update.path).getD path) } := by
  rw [List.flatMap_map, List.map_flatMap]
  rfl

/-- The keyed values of the stamped answer for a container. -/
theorem keyedValues_stamped
    {paths : List String} {container : String} (requested : container ∈ paths)
    {answer : List GnmiNotification}
    (named : ∀ update ∈ answer.flatMap GnmiNotification.update,
      Names text container update.path) :
    keyedValues text paths ((answer.map (stamp container)).flatMap GnmiNotification.update) =
      ((answer.flatMap GnmiNotification.update).filterMap GnmiUpdate.val).map
        fun value => (normalizePath text container, value) := by
  rw [stampedUpdates_eq, keyedValues, List.filterMap_map, List.map_filterMap]
  apply List.filterMap_congr
  intro update member
  change (update.val.map fun value => (updateKey text paths _, value)) = _
  rw [updateKey_of_names requested (named update member)]

/-- The updates of all answers are those of every answer, stamped with its path. -/
theorem answeredUpdates_eq (paths : List String) (answer : String → List GnmiNotification) :
    (paths.flatMap fun path => (answer path).map (stamp path)).flatMap
        GnmiNotification.update =
      paths.flatMap fun path =>
        ((answer path).flatMap GnmiNotification.update).map fun update =>
          { update with path := some ((filled? update.path).getD path) } := by
  rw [List.flatMap_assoc]
  apply List.flatMap_congr
  intro path _
  exact stampedUpdates_eq path (answer path)

/-- The updates of all answers are keyed by the path each was requested for. -/
theorem keyedValues_answers
    {paths : List String} {answer : String → List GnmiNotification}
    (named : ∀ path ∈ paths, ∀ update ∈ (answer path).flatMap GnmiNotification.update,
      Names text path update.path) :
    keyedValues text paths
        ((paths.flatMap fun path => (answer path).map (stamp path)).flatMap
          GnmiNotification.update) =
      paths.flatMap fun path =>
        (((answer path).flatMap GnmiNotification.update).filterMap GnmiUpdate.val).map
          fun value => (normalizePath text path, value) := by
  rw [List.flatMap_assoc, keyedValues, List.filterMap_flatMap]
  apply List.flatMap_congr
  intro path member
  exact keyedValues_stamped member (named path member)

/-- Every path is fetched and stamped on its own. -/
theorem gnmiGet_eq
    {get : String → Except GnmiFailure (List GnmiNotification)}
    {answer : String → List GnmiNotification} {paths : List String}
    (answered : ∀ path ∈ paths, get path = .ok (answer path)) :
    gnmiGet get paths = .ok (paths.flatMap fun path => (answer path).map (stamp path)) := by
  have fetched : (paths.mapM fun path => do
      let response ← get path
      return response.map (stamp path)) =
        .ok (paths.map fun path => (answer path).map (stamp path)) := by
    rw [mapM_eq_ok_iff, List.forall₂_map_right_iff, List.forall₂_same]
    intro path member
    rw [answered path member]
    rfl
  rw [gnmiGet, fetched]
  rfl

theorem get?_unsplit
    {paths : List String} {state : String → Json}
    (distinct : (paths.map (normalizePath text)).Nodup) {path : String} (member : path ∈ paths) :
    (unsplit text paths state).get? (normalizePath text path) = some (state path) := by
  rw [unsplit, Dict.get?, Dict.entries_ofPairs]
  · apply lookup_of_mem
    · rw [List.map_map]
      exact distinct
    · exact List.mem_map.2 ⟨path, member, rfl⟩
  · rw [List.map_map]
    exact distinct

theorem get?_unsplit_of_not_mem
    {paths : List String} {state : String → Json} {key : String}
    (absent : key ∉ paths.map (normalizePath text)) :
    (unsplit text paths state).get? key = none := by
  rw [unsplit, Dict.ofPairs, Dict.get?_update_of_not_mem, Dict.get?_empty]
  rw [List.map_map]
  exact absent

/-- A device that answers in fragments of its state is collected, with all of its state. -/
theorem collect_gathers
    {collector : GnmiCollector} {device : Device} {host : String}
    (dialled : collector.dialHost device = some host)
    {paths : List String} (requested : paths ≠ [])
    (distinct : (paths.map (normalizePath text)).Nodup)
    {get : String → String → Except GnmiFailure (List GnmiNotification)}
    {state : String → Json}
    (answers : ∀ path ∈ paths, ∃ answer, get host path = .ok answer ∧
      Answers alike text path (state path) answer) :
    ∃ result, collect text collector device paths get = .ok result ∧ result.success = true ∧
      GathersState alike (unsplit text paths state) result.data := by
  choose! answer answered answering using answers
  have fetched := gnmiGet_eq answered
  have keyed := keyedValues_answers fun path member => (answering path member).named
  have valued : ∀ update ∈ (paths.flatMap fun path => (answer path).map (stamp path)).flatMap
      GnmiNotification.update, update.val ≠ none := by
    rw [answeredUpdates_eq]
    intro update member
    obtain ⟨path, pathMember, inside⟩ := List.mem_flatMap.1 member
    obtain ⟨original, reported, rfl⟩ := List.mem_map.1 inside
    exact (answering path pathMember).valued original reported
  have split : ∀ key, SplitsAt alike ((unsplit text paths state).get? key)
      (valuesAt key (keyedValues text paths
        ((paths.flatMap fun path => (answer path).map (stamp path)).flatMap
          GnmiNotification.update))) := by
    intro key
    rw [keyed]
    by_cases own : key ∈ paths.map (normalizePath text)
    · obtain ⟨path, member, rfl⟩ := List.mem_map.1 own
      rw [valuesAt_sources (normalizePath text) _ distinct member,
        get?_unsplit distinct member]
      exact .reported (answering path member).split
    · rw [valuesAt_sources_of_not_mem (normalizePath text) _ own, get?_unsplit_of_not_mem own]
      exact .absent
  obtain ⟨data, parsed, gathered⟩ := parseResponse_gathers paths valued split
  simp only [collect, if_neg requested, dialled, fetched, parsed]
  exact ⟨_, rfl, rfl, gathered⟩

end Collecting

end Snapl.Collector
