import Snapl.Observability.DiffMeaning
import Snapl.Orchestrator.SrlinuxState

/-!
# Reports in another order

A device may list its interfaces and neighbours in any order, and the keys of
any container in any order.  The adapter finds a key by its local name and
keys its output by entity, and the diff reads that output by path and in the
order of the paths, so none of these orders reaches the items.
-/

namespace Snapl.Contract

open Snapl.Library Snapl.Intent Snapl.Observability Snapl.Orchestrator

/-! ## The same report in another order -/

/-- The leaves the adapter reads: no keys are below them. -/
def leaves : List String :=
  ["name", "description", "mtu", "admin-state", "ip-prefix", "peer-address", "peer-as",
    "peer-group"]

mutual

/-- The same value, with the keys of its containers in another order. -/
inductive Reorders : Json → Json → Prop where
  | same (value : Json) : Reorders value value
  | list {items others : List Json} (entries : ReordersItems items others) :
      Reorders (.arr items) (.arr others)
  | container {fields between others : List (String × Json)}
      (distinct : (fields.map fun field => localName field.1).Nodup)
      (below : ReordersFields fields between) (permuted : between.Perm others) :
      Reorders (.obj fields) (.obj others)

inductive ReordersItems : List Json → List Json → Prop where
  | nil : ReordersItems [] []
  | cons {item other : Json} {items others : List Json} (head : Reorders item other)
      (tail : ReordersItems items others) : ReordersItems (item :: items) (other :: others)

inductive ReordersFields : List (String × Json) → List (String × Json) → Prop where
  | nil : ReordersFields [] []
  | cons {name : String} {value other : Json} {fields others : List (String × Json)}
      (leaf : localName name ∈ leaves → value = other) (head : Reorders value other)
      (tail : ReordersFields fields others) :
      ReordersFields ((name, value) :: fields) ((name, other) :: others)

end

/-- The same container, with the entries of one of its lists in another order. -/
inductive PermutesList (list : String) : Json → Json → Prop where
  | same (value : Json) : PermutesList list value value
  | permuted {before after : List (String × Json)} {name : String} {items others : List Json}
      (named : localName name = list) (perm : items.Perm others) :
      PermutesList list (.obj (before ++ (name, .arr items) :: after))
        (.obj (before ++ (name, .arr others) :: after))

/-- Two reports that differ only in the order of entries and of keys. -/
structure SameButOrder (left right : Dict String Json) : Prop where
  interfaces : ∃ between, Reorders ((left.get? "/interface").getD .null) between ∧
    PermutesList "interface" between ((right.get? "/interface").getD .null)
  neighbors : ∃ between, Reorders ((left.get? bgpPath).getD .null) between ∧
    PermutesList "neighbor" between ((right.get? bgpPath).getD .null)

/-- The entry has a key, shown as this text. -/
def ShowsKey (text : PyText) (key : String) (entry : Json) (shown : String) : Prop :=
  getLocal entry key .null ≠ .null ∧ text.str (getLocal entry key .null) = .ok shown

/-- No two entries show the same key. -/
def DistinctKeys (text : PyText) (key : String) (items : List Json) : Prop :=
  items.Pairwise fun entry other => ∀ shown,
    ¬ (ShowsKey text key entry shown ∧ ShowsKey text key other shown)

/-- Distinct interface names and distinct peer addresses. -/
structure DistinctReport (text : PyText) (data : Dict String Json) : Prop where
  interfaces : ∀ items, interfaceEntries data = .ok items → DistinctKeys text "name" items
  neighbors : ∀ items, neighborEntries data = .ok items →
    DistinctKeys text "peer-address" items

/-! ## Looking up a local name -/

theorem find?_of_perm
    {fields others : List (String × Json)} (name : String)
    (distinct : (fields.map fun field => localName field.1).Nodup)
    (permuted : fields.Perm others) :
    (fields.find? fun field => localName field.1 = name) =
      others.find? fun field => localName field.1 = name := by
  have unique : ∀ {list : List (String × Json)},
      (list.map fun field => localName field.1).Nodup → ∀ found,
        list.find? (fun field => localName field.1 = name) = some found ↔
          found ∈ list ∧ localName found.1 = name := by
    intro list distinct found
    constructor
    · intro hit
      exact ⟨List.mem_of_find?_eq_some hit, by simpa using List.find?_some hit⟩
    · rintro ⟨member, named⟩
      rcases hit : list.find? (fun field => localName field.1 = name) with _ | other
      · exact absurd named (by simpa using List.find?_eq_none.1 hit found member)
      · have otherNamed : localName other.1 = name := by simpa using List.find?_some hit
        rw [hit, List.inj_on_of_nodup_map distinct (List.mem_of_find?_eq_some hit) member
          (otherNamed.trans named.symm)]
  have distinctOthers : (others.map fun field => localName field.1).Nodup :=
    (permuted.map _).nodup_iff.1 distinct
  apply Option.ext
  intro found
  rw [unique distinct, unique distinctOthers, permuted.mem_iff]

theorem names_of_reordersFields
    {fields others : List (String × Json)} (below : ReordersFields fields others) :
    others.map Prod.fst = fields.map Prod.fst := by
  induction fields generalizing others with
  | nil =>
      cases below
      rfl
  | cons field fields induction =>
      cases below with
      | cons leaf head tail => rw [List.map_cons, List.map_cons, induction tail]

/-- Below a name both containers have a value, the same one at a leaf, or neither. -/
theorem find?_of_reordersFields
    {fields others : List (String × Json)} (below : ReordersFields fields others)
    (name : String) :
    (fields.find? (fun field => localName field.1 = name) = none ∧
      others.find? (fun field => localName field.1 = name) = none) ∨
    ∃ key value other,
      fields.find? (fun field => localName field.1 = name) = some (key, value) ∧
      others.find? (fun field => localName field.1 = name) = some (key, other) ∧
      (name ∈ leaves → value = other) ∧ Reorders value other := by
  induction fields generalizing others with
  | nil =>
      cases below
      exact Or.inl ⟨rfl, rfl⟩
  | cons field fields induction =>
      cases below with
      | @cons key value other _ others leaf head tail =>
          by_cases named : localName key = name
          · rw [List.find?_cons_of_pos (by simpa using named),
              List.find?_cons_of_pos (by simpa using named)]
            rw [named] at leaf
            exact Or.inr ⟨key, value, other, rfl, rfl, leaf, head⟩
          · rw [List.find?_cons_of_neg (by simpa using named),
              List.find?_cons_of_neg (by simpa using named)]
            exact induction tail

/-- Looking up a local name commutes with reordering, and finds the same leaf. -/
theorem getLocal_reorders
    {value other : Json} (reorders : Reorders value other) (name : String) (default : Json) :
    Reorders (getLocal value name default) (getLocal other name default) ∧
      (name ∈ leaves → getLocal value name default = getLocal other name default) := by
  cases reorders with
  | same => exact ⟨Reorders.same _, fun _ => rfl⟩
  | list entries => exact ⟨Reorders.same _, fun _ => rfl⟩
  | @container fields between others distinct below permuted =>
      have distinctBetween : (between.map fun field => localName field.1).Nodup := by
        have names := congrArg (List.map localName) (names_of_reordersFields below)
        rw [List.map_map, List.map_map] at names
        exact names ▸ distinct
      rw [getLocal, getLocal, ← find?_of_perm name distinctBetween permuted]
      rcases find?_of_reordersFields below name with
        ⟨none, noneOther⟩ | ⟨key, value, other, found, foundOther, leaf, head⟩
      · rw [none, noneOther]
        exact ⟨Reorders.same _, fun _ => rfl⟩
      · rw [found, foundOther]
        exact ⟨head, leaf⟩

theorem getLocal_leaf
    {value other : Json} (reorders : Reorders value other) {name : String}
    (leaf : name ∈ leaves) (default : Json) :
    getLocal value name default = getLocal other name default :=
  (getLocal_reorders reorders name default).2 leaf

/-! ## Reading a list -/

/-- Entries in the same order, each reordered inside; or the keys of a container. -/
inductive SameListing : Except PyError (List Json) → Except PyError (List Json) → Prop where
  | unreadable (error : PyError) : SameListing (.error error) (.error error)
  | same (items : List Json) : SameListing (.ok items) (.ok items)
  | entries {items others : List Json} (below : ReordersItems items others) :
      SameListing (.ok items) (.ok others)
  | keys {names others : List String} (permuted : names.Perm others) :
      SameListing (.ok (names.map Json.str)) (.ok (others.map Json.str))

theorem iterate_orEmpty_reorders {value other : Json} (reorders : Reorders value other) :
    SameListing (iterate (orEmpty value)) (iterate (orEmpty other)) := by
  cases reorders with
  | same =>
      rcases listed : iterate (orEmpty value) with error | items
      · exact .unreadable error
      · exact .same items
  | @list items others below =>
      cases below with
      | nil => exact .same []
      | cons head tail => exact .entries (.cons head tail)
  | @container fields between others distinct below permuted =>
      have names : (fields.map Prod.fst).Perm (others.map Prod.fst) := by
        rw [← names_of_reordersFields below]
        exact permuted.map Prod.fst
      have listing : ∀ {found : List (String × Json)}, found ≠ [] →
          iterate (orEmpty (.obj found)) = .ok ((found.map Prod.fst).map Json.str) := by
        intro found present
        rw [orEmpty, Json.truthy, if_pos (by simpa using present), List.map_map]
        rfl
      by_cases empty : fields = []
      · subst empty
        have noneOther : others = [] := List.map_eq_nil_iff.1 names.nil_eq.symm
        rw [noneOther]
        exact .same []
      · have otherPresent : others ≠ [] := by
          rintro rfl
          exact empty (List.map_eq_nil_iff.1 names.eq_nil)
        rw [listing empty, listing otherPresent]
        exact .keys names

theorem entries_reorders
    {value other : Json} (reorders : Reorders value other) (name : String) :
    SameListing (entries value name) (entries other name) :=
  iterate_orEmpty_reorders (getLocal_reorders reorders name (.arr [])).1

/-! ## The entries of a reordered report -/

section Outputs

variable (text : PyText)

theorem firstAddress_texts (names : List String) :
    firstAddress text (names.map Json.str) = .ok none := by
  induction names with
  | nil => rfl
  | cons name names induction =>
      rw [List.map_cons, firstAddress, if_neg (by simp [getLocal, Json.truthy])]
      exact induction

theorem firstAddress_items {items others : List Json} (below : ReordersItems items others) :
    firstAddress text items = firstAddress text others := by
  induction items generalizing others with
  | nil =>
      cases below
      rfl
  | cons item items induction =>
      cases below with
      | cons head tail =>
          rw [firstAddress, firstAddress, getLocal_leaf head (by decide), induction tail]

theorem firstAddress_listing
    {left right : Except PyError (List Json)} (same : SameListing left right) :
    (left >>= firstAddress text) = right >>= firstAddress text := by
  cases same with
  | unreadable => rfl
  | same => rfl
  | entries below => exact firstAddress_items text below
  | keys permuted =>
      rw [ok_bind, ok_bind, firstAddress_texts, firstAddress_texts]

/-- The first subinterface is read on its own, before the others. -/
theorem firstOfSubinterfaces_cons (subinterface : Json) (rest : List Json) :
    firstOfSubinterfaces text (subinterface :: rest) =
      (entries (getLocal subinterface "ipv4" .null) "address" >>= firstAddress text) >>=
        fun found => found.elim (firstOfSubinterfaces text rest) .ok := by
  rw [firstOfSubinterfaces]
  rcases entries (getLocal subinterface "ipv4" .null) "address" with error | listed
  · rfl
  · rcases found : firstAddress text listed with error | address
    · simp only [ok_bind, found]
      rfl
    · simp only [ok_bind, found]
      cases address <;> rfl

theorem firstOfSubinterfaces_texts (names : List String) :
    firstOfSubinterfaces text (names.map Json.str) = .ok (none, none) := by
  induction names with
  | nil => rfl
  | cons name names induction =>
      rw [List.map_cons, firstOfSubinterfaces]
      exact induction

theorem firstOfSubinterfaces_items
    {items others : List Json} (below : ReordersItems items others) :
    firstOfSubinterfaces text items = firstOfSubinterfaces text others := by
  induction items generalizing others with
  | nil =>
      cases below
      rfl
  | cons item items induction =>
      cases below with
      | @cons _ other _ others head tail =>
          have ipv4 := (getLocal_reorders head "ipv4" .null).1
          have addresses := firstAddress_listing text (entries_reorders ipv4 "address")
          rw [firstOfSubinterfaces_cons, firstOfSubinterfaces_cons, addresses, induction tail]

theorem firstOfSubinterfaces_listing
    {left right : Except PyError (List Json)} (same : SameListing left right) :
    (left >>= firstOfSubinterfaces text) = right >>= firstOfSubinterfaces text := by
  cases same with
  | unreadable => rfl
  | same => rfl
  | entries below => exact firstOfSubinterfaces_items text below
  | keys permuted =>
      rw [ok_bind, ok_bind, firstOfSubinterfaces_texts, firstOfSubinterfaces_texts]

/-- An interface makes the same output in any order of its keys. -/
theorem interfaceOutput?_reorders {iface other : Json} (reorders : Reorders iface other) :
    interfaceOutput? text iface = interfaceOutput? text other := by
  have address : interfaceIp text iface = interfaceIp text other :=
    firstOfSubinterfaces_listing text (entries_reorders reorders "subinterface")
  have entry : normalizeInterface text iface = normalizeInterface text other := by
    rw [normalizeInterface, normalizeInterface, address, isEnabled, isEnabled,
      getLocal_leaf reorders (by decide), getLocal_leaf reorders (by decide),
      getLocal_leaf reorders (by decide)]
  rw [interfaceOutput?, interfaceOutput?, getLocal_leaf reorders (by decide), entry]

theorem neighborOutput?_reorders {neighbor other : Json} (reorders : Reorders neighbor other) :
    neighborOutput? text neighbor = neighborOutput? text other := by
  have entry : normalizeNeighbor neighbor = normalizeNeighbor other := by
    rw [normalizeNeighbor, normalizeNeighbor, isEnabled, isEnabled,
      getLocal_leaf reorders (by decide), getLocal_leaf reorders (by decide),
      getLocal_leaf reorders (by decide), getLocal_leaf reorders (by decide)]
  rw [neighborOutput?, neighborOutput?, getLocal_leaf reorders (by decide), entry]

end Outputs

section Entries

variable {output : Json → Except PyError (Option (String × Json))}

theorem sameOutputs_of_perm {items others : List Json} (perm : items.Perm others) :
    SameOutputs output items others := by
  intro made
  simp only [perm.mem_iff]

theorem sameOutputs_items
    (below : ∀ item other, Reorders item other → output item = output other)
    {items others : List Json} (reorders : ReordersItems items others) :
    SameOutputs output items others := by
  intro made
  induction items generalizing others with
  | nil =>
      cases reorders
      rfl
  | cons item items induction =>
      cases reorders with
      | cons head tail =>
          rw [List.exists_mem_cons_iff, List.exists_mem_cons_iff, induction tail,
            below item _ head]

/-- Reordered lists have the same entries. -/
theorem sameEntries_of_listing
    (below : ∀ item other, Reorders item other → output item = output other)
    {left right : Except PyError (List Json)} (same : SameListing left right) :
    SameEntries output left right := by
  cases same with
  | unreadable error => exact .unreadable error
  | same items => exact .listed (sameOutputs_of_perm (List.Perm.refl items))
  | entries reorders => exact .listed (sameOutputs_items below reorders)
  | keys permuted => exact .listed (sameOutputs_of_perm (permuted.map Json.str))

theorem getLocal_permutes
    {list : String} {value other : Json} (permutes : PermutesList list value other)
    (default : Json) :
    getLocal value list default = getLocal other list default ∨
      ∃ items others, getLocal value list default = .arr items ∧
        getLocal other list default = .arr others ∧ items.Perm others := by
  cases permutes with
  | same => exact Or.inl rfl
  | @permuted before after name items others named perm =>
      rw [getLocal_append, getLocal_append, getLocal_cons named, getLocal_cons named]
      rcases getLocal_cases (.obj before) list with ⟨value, earlier⟩ | absent
      · exact Or.inl ((earlier _).trans (earlier _).symm)
      · exact Or.inr ⟨items, others, absent _, absent _, perm⟩

theorem entries_permutes
    {list : String} {value other : Json} (permutes : PermutesList list value other) :
    SameEntries output (entries value list) (entries other list) := by
  have listed : ∀ items : List Json, iterate (orEmpty (.arr items)) = .ok items := by
    intro items
    cases items <;> rfl
  rw [entries, entries]
  rcases getLocal_permutes permutes (.arr []) with
    same | ⟨items, others, found, foundOther, perm⟩
  · rw [same]
    rcases iterate (orEmpty (getLocal other list (.arr []))) with error | items
    · exact .unreadable error
    · exact .listed (sameOutputs_of_perm (List.Perm.refl items))
  · rw [found, foundOther, listed, listed]
    exact .listed (sameOutputs_of_perm perm)

/-- Reordered inside, and then as a list, a container lists the same entries. -/
theorem sameEntries_of_order
    (below : ∀ item other, Reorders item other → output item = output other)
    {list : String} {value between other : Json} (reorders : Reorders value between)
    (permutes : PermutesList list between other) :
    SameEntries output (entries value list) (entries other list) :=
  (sameEntries_of_listing below (entries_reorders reorders list)).trans
    (entries_permutes permutes)

end Entries

/-! ## The order of a report does not reach its items -/

theorem onePath_of_distinct
    {text : PyText} {key : String} {items : List Json}
    {output : Json → Except PyError (Option (String × Json))} (spec : EntitySpec)
    (shows : ∀ entry path flat, output entry = .ok (some (path, flat)) →
      ∃ shown, ShowsKey text key entry shown ∧ path = spec.path shown)
    (distinct : DistinctKeys text key items) : OnePath output items := by
  intro first firstMember second secondMember path firstFlat secondFlat firstMade secondMade
  obtain ⟨shown, showsFirst, rfl⟩ := shows first path firstFlat firstMade
  obtain ⟨other, showsSecond, equal⟩ := shows second _ secondFlat secondMade
  have same := EntitySpec.path_injective spec equal
  subst same
  by_cases one : first = second
  · subst one
    rw [firstMade] at secondMade
    cases secondMade
    rfl
  · have apart : ∀ entry ∈ items, ∀ other ∈ items, entry ≠ other → ∀ shown,
        ¬ (ShowsKey text key entry shown ∧ ShowsKey text key other shown) := by
      apply List.Pairwise.forall_of_forall_of_flip
      · intro entry _ unequal
        exact absurd rfl unequal
      · apply List.Pairwise.imp _ distinct
        intro entry other unequal _
        exact unequal
      · apply List.Pairwise.imp _ distinct
        intro entry other unequal _ shown both
        exact unequal shown both.symm
    exact absurd ⟨showsFirst, showsSecond⟩
      (apart first firstMember second secondMember one shown)

theorem onePath_interfaces
    {text : PyText} {items : List Json} (distinct : DistinctKeys text "name" items) :
    OnePath (interfaceOutput? text) items := by
  refine onePath_of_distinct interfaceSpec ?_ distinct
  intro entry path flat made
  rcases interfaceOutput?_eq_ok made with ⟨-, absent⟩ | ⟨named, shown, _, shows, -, same⟩
  · cases absent
  · cases same
    exact ⟨shown, ⟨named, shows⟩, rfl⟩

theorem onePath_neighbors
    {text : PyText} {items : List Json} (distinct : DistinctKeys text "peer-address" items) :
    OnePath (neighborOutput? text) items := by
  refine onePath_of_distinct bgpSessionSpec ?_ distinct
  intro entry path flat made
  rcases neighborOutput?_eq_ok made with ⟨-, absent⟩ | ⟨named, shown, shows, same⟩
  · cases absent
  · cases same
    exact ⟨shown, ⟨named, shows⟩, rfl⟩

/-- Two reports the adapter and the diff cannot tell apart. -/
structure SameReading (text : PyText) (left right : Dict String Json) : Prop where
  forward : ∀ state, normalizeSrlinuxState text left = .ok state →
    ∃ other, normalizeSrlinuxState text right = .ok other ∧ SameState state other
  backward : ∀ other, normalizeSrlinuxState text right = .ok other →
    ∃ state, normalizeSrlinuxState text left = .ok state ∧ SameState state other
  items : ∀ desired items,
    (normalizeSrlinuxState text left >>= buildDiff desired) = .ok items ↔
      (normalizeSrlinuxState text right >>= buildDiff desired) = .ok items

/-- Reports whose entries make the same outputs, one for each path, read the same. -/
theorem sameReading_of_entries
    {text : PyText} {left right : Dict String Json}
    (interfaces : SameEntries (interfaceOutput? text) (interfaceEntries left)
      (interfaceEntries right))
    (neighbors : SameEntries (neighborOutput? text) (neighborEntries left)
      (neighborEntries right))
    (interfacesOnce : OneEach (interfaceOutput? text) (interfaceEntries left))
    (neighborsOnce : OneEach (neighborOutput? text) (neighborEntries left)) :
    SameReading text left right := by
  have forward : ∀ state, normalizeSrlinuxState text left = .ok state →
      ∃ other, normalizeSrlinuxState text right = .ok other ∧ SameState state other :=
    fun state normalized =>
      normalize_same interfaces neighbors interfacesOnce neighborsOnce normalized
  have backward : ∀ other, normalizeSrlinuxState text right = .ok other →
      ∃ state, normalizeSrlinuxState text left = .ok state ∧ SameState state other := by
    intro other normalized
    obtain ⟨state, made, same⟩ := normalize_same interfaces.symm neighbors.symm
      (interfaces.oneEach interfacesOnce) (neighbors.oneEach neighborsOnce) normalized
    exact ⟨state, made, fun path => (same path).symm⟩
  refine ⟨forward, backward, fun desired items => ?_⟩
  rw [bind_eq_ok, bind_eq_ok]
  constructor
  · rintro ⟨state, normalized, built⟩
    obtain ⟨other, made, same⟩ := forward state normalized
    rw [buildDiff_eq, diff_congr same, ← buildDiff_eq] at built
    exact ⟨other, made, built⟩
  · rintro ⟨other, normalized, built⟩
    obtain ⟨state, made, same⟩ := backward other normalized
    rw [buildDiff_eq, ← diff_congr same, ← buildDiff_eq] at built
    exact ⟨state, made, built⟩

/--
Two reports that differ only in the order of their entries and of the keys of
their containers are normalized and compared to the identical item list.
-/
theorem report_order_irrelevant
    {text : PyText} {left right : Dict String Json} (distinct : DistinctReport text left)
    (same : SameButOrder left right) (desired : DesiredState) (items : List DriftItem) :
    (normalizeSrlinuxState text left >>= buildDiff desired) = .ok items ↔
      (normalizeSrlinuxState text right >>= buildDiff desired) = .ok items := by
  obtain ⟨between, reorders, permutes⟩ := same.interfaces
  obtain ⟨neighborsBetween, neighborsReorder, neighborsPermute⟩ := same.neighbors
  have interfaces : SameEntries (interfaceOutput? text) (interfaceEntries left)
      (interfaceEntries right) :=
    sameEntries_of_order (fun _ _ => interfaceOutput?_reorders text) reorders permutes
  have neighbors : SameEntries (neighborOutput? text) (neighborEntries left)
      (neighborEntries right) :=
    sameEntries_of_order (fun _ _ => neighborOutput?_reorders text) neighborsReorder
      neighborsPermute
  have interfacesOnce : OneEach (interfaceOutput? text) (interfaceEntries left) :=
    fun listed reads => onePath_interfaces (distinct.interfaces listed reads)
  have neighborsOnce : OneEach (neighborOutput? text) (neighborEntries left) :=
    fun listed reads => onePath_neighbors (distinct.neighbors listed reads)
  exact (sameReading_of_entries interfaces neighbors interfacesOnce neighborsOnce).items desired
    items

/-- A device with two ports, configured by hand. -/
def portsInOrder : Dict String Json :=
  Dict.ofPairs [("/interface", .obj [("srl_nokia-interfaces:interface", .arr
    [.obj [("name", .str "ethernet-1/7"), ("description", .str "by hand")],
      .obj [("name", .str "ethernet-1/8"), ("mtu", .int 1500)]])])]

/-- The same device, reporting the ports and the keys of the first one backwards. -/
def portsBackwards : Dict String Json :=
  Dict.ofPairs [("/interface", .obj [("srl_nokia-interfaces:interface", .arr
    [.obj [("name", .str "ethernet-1/8"), ("mtu", .int 1500)],
      .obj [("description", .str "by hand"), ("name", .str "ethernet-1/7")]])])]

theorem portsBackwards_same : SameButOrder portsInOrder portsBackwards where
  interfaces := by
    refine ⟨.obj [("srl_nokia-interfaces:interface", .arr
      [.obj [("description", .str "by hand"), ("name", .str "ethernet-1/7")],
        .obj [("name", .str "ethernet-1/8"), ("mtu", .int 1500)]])], ?_, ?_⟩
    · refine .container (by decide) (.cons nofun (.list (.cons ?_ (.cons (.same _) .nil))) .nil)
        (List.Perm.refl _)
      exact .container (by decide) (.cons (fun _ => rfl) (.same _)
        (.cons (fun _ => rfl) (.same _) .nil)) (List.Perm.swap _ _ _)
    · exact @PermutesList.permuted _ [] [] _ _ _ (by decide) (List.Perm.swap _ _ _)
  neighbors := ⟨_, .same _, .same _⟩

theorem portsInOrder_distinct : DistinctReport PyText.ascii portsInOrder where
  interfaces := by
    intro items reads
    cases reads
    refine List.Pairwise.cons ?_ (List.pairwise_singleton _ _)
    rintro other member shown ⟨⟨-, first⟩, -, second⟩
    rcases List.mem_singleton.1 member with rfl
    cases first
    exact absurd (Except.ok.inj second) (by decide)
  neighbors := by
    intro items reads
    cases reads
    exact List.Pairwise.nil

/-- An intent that names neither port. -/
def noPorts : DesiredState where
  device := ⟨⟨1⟩, "leaf-01", "172.20.20.11", "dcfabric", none⟩
  interfaces := []
  bgpSessions := []

theorem ports_report_same :
    ∃ items,
      (normalizeSrlinuxState PyText.ascii portsInOrder >>= buildDiff noPorts) = .ok items ∧
      (normalizeSrlinuxState PyText.ascii portsBackwards >>= buildDiff noPorts) = .ok items := by
  have built : (normalizeSrlinuxState PyText.ascii portsInOrder >>= buildDiff noPorts) =
      .ok _ := buildDiff_eq noPorts _
  exact ⟨_, built,
    (report_order_irrelevant portsInOrder_distinct portsBackwards_same noPorts _).1 built⟩

end Snapl.Contract
