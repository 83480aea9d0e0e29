import Snapl.Collector.Fragments
import Snapl.Contract.ModulePrefixes

/-!
# Fragmented responses

A target may answer in several notifications and updates.  The collector
appends lists without knowing their keys, and the adapter overwrites entries of
one name, so an entry must arrive whole: an entry that is itself split loses
what its last part does not carry.  Fragments of anything else are put together
again, and the adapter then reads what it reads of the state in one piece.
-/

namespace Snapl.Contract

open Snapl.Library Snapl.Intent Snapl.Observability Snapl.Orchestrator Snapl.Collector

/-- A value no two fields of which have one name. -/
def DistinctNames : Json → Prop
  | .obj fields => (fields.map fun field => localName field.1).Nodup
  | _ => True

/-- A list whose entries have distinct keys, written as text. -/
structure KeyedList (key : String) (items : List Json) : Prop where
  keyed : ∀ item ∈ items, ∃ shown, getLocal item key .null = .str shown
  distinct : items.Pairwise fun item other =>
    getLocal item key .null ≠ getLocal other key .null
  named : ∀ item ∈ items, DistinctNames item

/-- A state whose interfaces have distinct names and whose neighbours distinct addresses. -/
structure KeyedState (data : Dict String Json) : Prop where
  interfaces : ∀ items, interfaceEntries data = .ok items → KeyedList "name" items
  neighbors : ∀ items, neighborEntries data = .ok items → KeyedList "peer-address" items

/-! ## Equal entries have equal keys -/

theorem lookup_of_pyEqFields
    {lefts rights : List (String × Json)} (equal : Json.pyEqFields lefts rights = true) :
    ∀ field ∈ lefts, ∃ value, rights.lookup field.1 = some value ∧
      field.2.pyEq value = true := by
  induction lefts with
  | nil => nofun
  | cons left lefts induction =>
      obtain ⟨name, current⟩ := left
      rw [Json.pyEqFields, Bool.and_eq_true] at equal
      intro field member
      rcases List.mem_cons.1 member with rfl | later
      · rcases looked : rights.lookup name with _ | value
        · rw [looked] at equal
          cases equal.1
        · rw [looked] at equal
          exact ⟨value, rfl, equal.1⟩
      · exact induction equal.2 field later

/-- In a container without repeated names, the field of a name is the one found. -/
theorem getLocal_of_mem
    {fields : List (String × Json)}
    (distinct : (fields.map fun field => localName field.1).Nodup) {key : String} {value : Json}
    (member : (key, value) ∈ fields) (default : Json) :
    getLocal (.obj fields) (localName key) default = value := by
  rcases hit : fields.find? fun field => localName field.1 = localName key with _ | found
  · exact absurd (decide_eq_true rfl) (List.find?_eq_none.1 hit _ member)
  · have named : localName found.1 = localName key := by simpa using List.find?_some hit
    rw [getLocal, hit, List.inj_on_of_nodup_map distinct (List.mem_of_find?_eq_some hit) member
      named]

theorem getLocal_of_pyEq
    {left right : Json} (equal : left.pyEq right = true) (distinct : DistinctNames right)
    {name shown : String} (keyed : getLocal left name .null = .str shown) :
    getLocal right name .null = .str shown := by
  cases left with
  | obj lefts =>
      rcases hit : lefts.find? fun field => localName field.1 = name with _ | found
      · rw [getLocal, hit] at keyed
        cases keyed
      · rw [getLocal, hit] at keyed
        have named : localName found.1 = name := by simpa using List.find?_some hit
        cases right with
        | obj rights =>
            rw [Json.pyEq, Bool.and_eq_true] at equal
            obtain ⟨value, looked, same⟩ :=
              lookup_of_pyEqFields equal.2 found (List.mem_of_find?_eq_some hit)
            rw [← named, getLocal_of_mem distinct (mem_of_lookup looked)]
            change found.2 = .str shown at keyed
            rw [keyed, Json.pyEq_str_iff] at same
            exact same
        | _ => simp [Json.pyEq, Json.number?] at equal
  | _ => cases keyed

theorem distinctNames_of_alike
    {entry item : Json} (alike : Alike entry item) (distinct : DistinctNames item) :
    DistinctNames entry := by
  cases entry with
  | obj fields =>
      rw [Alike, bare] at alike
      generalize shape : bare item = other at alike
      rw [DistinctNames, ← names_bareFields]
      cases alike with
      | same =>
          cases item with
          | obj others =>
              rw [bare, Json.obj.injEq] at shape
              rw [← shape, names_bareFields]
              exact distinct
          | _ => cases shape
      | container names => exact names
  | _ => trivial

/-! ## The entries of what was merged -/

/-- Looking a name up in what was merged finds what its fragments merge to. -/
theorem getLocal_gathers
    {value merged : Json} (gathers : Gathers Alike value merged) (name : String) :
    (∃ found made, Gathers Alike found made ∧ ∀ default,
      getLocal value name default = found ∧ getLocal merged name default = made) ∨
    ∀ default, getLocal value name default = default ∧ getLocal merged name default = default := by
  cases gathers with
  | leaf =>
      rcases getLocal_cases value name with ⟨found, finds⟩ | lacks
      · exact Or.inl ⟨found, found, .leaf found, fun default => ⟨finds default, finds default⟩⟩
      · exact Or.inr fun default => ⟨lacks default, lacks default⟩
  | list => exact Or.inr fun default => ⟨rfl, rfl⟩
  | @container fields merged spelling distinct dict spelled named present every =>
      -- the merged names are the spellings of the container's own, so none is repeated
      have apart : (merged.map fun field => localName field.1).Nodup := by
        change (merged.map (localName ∘ Prod.fst)).Nodup
        rw [← List.map_map]
        apply List.Nodup.map_on _ dict
        intro first firstMember second secondMember same
        obtain ⟨firstField, firstInside, rfl⟩ := List.mem_map.1 firstMember
        obtain ⟨secondField, secondInside, rfl⟩ := List.mem_map.1 secondMember
        obtain ⟨firstOwn, firstOwned, firstSpelled⟩ := named firstField firstInside
        obtain ⟨secondOwn, secondOwned, secondSpelled⟩ := named secondField secondInside
        rw [firstSpelled, secondSpelled, spelled firstOwn firstOwned,
          spelled secondOwn secondOwned] at same
        rw [firstSpelled, secondSpelled,
          List.inj_on_of_nodup_map distinct firstOwned secondOwned same]
      rcases hit : fields.find? fun field => localName field.1 = name with _ | own
      · refine Or.inr fun default => ⟨by rw [getLocal, hit], ?_⟩
        have missing : (merged.find? fun field => localName field.1 = name) = none := by
          rw [List.find?_eq_none]
          intro field member
          obtain ⟨own, owned, same⟩ := named field member
          rw [same, spelled own owned]
          exact List.find?_eq_none.1 hit own owned
        rw [getLocal, missing]
      · have owned := List.mem_of_find?_eq_some hit
        have ownNamed : localName own.1 = name := by simpa using List.find?_some hit
        obtain ⟨field, inside, same⟩ := List.mem_map.1 (present own owned)
        have looked : merged.lookup (spelling own.1) = some field.2 := by
          rw [← same]
          exact lookup_of_mem dict inside
        have gathered := every own owned
        rw [looked, Option.getD_some] at gathered
        refine Or.inl ⟨own.2, field.2, gathered, fun default => ⟨by rw [getLocal, hit], ?_⟩⟩
        rw [← ownNamed, ← spelled own owned, ← same]
        exact getLocal_of_mem apart inside default

section Entries

variable {output : Json → Except PyError (Option (String × Json))}

theorem sameOutputs_of_gathers
    (respects : ∀ {entry item}, Alike entry item → output entry = output item)
    {key : String} (leaf : key ∈ leaves) {items merged : List Json}
    (keyed : KeyedList key items)
    (whole : ∀ entry ∈ merged, ∃ item ∈ items, Alike entry item)
    (every : ∀ item ∈ items, ∃ entry, Alike entry item ∧
      ∃ kept ∈ merged, kept = entry ∨ kept.pyEq entry = true) :
    SameOutputs output items merged := by
  intro made
  constructor
  · rintro ⟨item, member, rfl⟩
    obtain ⟨entry, alike, kept, keptMember, same⟩ := every item member
    refine ⟨kept, keptMember, ?_⟩
    rcases same with rfl | equal
    · exact respects alike
    · -- an entry dropped for an equal one has its key, and so is alike to the same item
      obtain ⟨other, otherMember, otherAlike⟩ := whole kept keptMember
      obtain ⟨shown, shows⟩ := keyed.keyed other otherMember
      have keptKey : getLocal kept key .null = .str shown := by
        rw [getLocal_alike otherAlike leaf, shows]
      have itemKey : getLocal item key .null = .str shown := by
        rw [← getLocal_alike alike leaf]
        exact getLocal_of_pyEq equal (distinctNames_of_alike alike (keyed.named item member))
          keptKey
      have one : other = item := by
        have apart : (items.map fun item => getLocal item key .null).Nodup :=
          List.pairwise_map.2 keyed.distinct
        exact List.inj_on_of_nodup_map apart otherMember member (shows.trans itemKey.symm)
      rw [respects otherAlike, one]
  · rintro ⟨entry, member, rfl⟩
    obtain ⟨item, itemMember, alike⟩ := whole entry member
    exact ⟨item, itemMember, (respects alike).symm⟩

theorem sameOutputs_refl (items : List Json) : SameOutputs output items items :=
  fun _ => Iff.rfl

theorem sameEntries_refl (listed : Except PyError (List Json)) :
    SameEntries output listed listed := by
  cases listed with
  | error error => exact .unreadable error
  | ok items => exact .listed (sameOutputs_refl items)

theorem iterate_items (items : List Json) : iterate (orEmpty (.arr items)) = .ok items := by
  cases items <;> rfl

/-- The entries read from what was merged make the outputs of the entries themselves. -/
theorem sameEntries_of_gathers
    (respects : ∀ {entry item}, Alike entry item → output entry = output item)
    {key list : String} (leaf : key ∈ leaves) {value merged : Json}
    (gathers : Gathers Alike value merged)
    (keyed : ∀ items, entries value list = .ok items → KeyedList key items) :
    SameEntries output (entries value list) (entries merged list) := by
  rcases getLocal_gathers gathers list with ⟨found, made, gathers, finds⟩ | lacks
  · rw [entries, (finds _).1] at keyed
    rw [entries, entries, (finds _).1, (finds _).2]
    cases gathers with
    | leaf => exact sameEntries_refl _
    | @list items merged whole every =>
        rw [iterate_items] at keyed
        rw [iterate_items, iterate_items]
        exact .listed (sameOutputs_of_gathers respects leaf (keyed items rfl) whole every)
    | @container fields merged spelling distinct dict spelled named present every =>
        cases fields with
        | nil =>
            cases merged with
            | nil => exact sameEntries_refl _
            | cons field rest =>
                obtain ⟨own, never, -⟩ := named field List.mem_cons_self
                cases never
        | cons field rest =>
            -- the entries read from a container are its names, which have no key
            obtain ⟨shown, shows⟩ := (keyed _ rfl).keyed (.str field.1) List.mem_cons_self
            cases shows
  · rw [entries, entries, (lacks _).1, (lacks _).2]
    exact sameEntries_refl _

theorem sameEntries_of_gathersAt
    (respects : ∀ {entry item}, Alike entry item → output entry = output item)
    {key list : String} (leaf : key ∈ leaves) {value merged : Option Json}
    (gathers : GathersAt Alike value merged)
    (keyed : ∀ items, entries (value.getD .null) list = .ok items → KeyedList key items) :
    SameEntries output (entries (value.getD .null) list) (entries (merged.getD .null) list) := by
  cases gathers with
  | absent => exact sameEntries_refl _
  | reported gathers => exact sameEntries_of_gathers respects leaf gathers keyed

end Entries

/-! ## Fragments lose nothing -/

theorem distinctKeys_of_keyed
    (text : PyText) {key : String} {items : List Json} (keyed : KeyedList key items) :
    DistinctKeys text key items := by
  apply List.Pairwise.imp_of_mem _ keyed.distinct
  rintro item other member otherMember apart shown ⟨⟨-, first⟩, -, second⟩
  obtain ⟨name, named⟩ := keyed.keyed item member
  obtain ⟨otherName, otherNamed⟩ := keyed.keyed other otherMember
  rw [named, PyText.str_str] at first
  rw [otherNamed, PyText.str_str] at second
  apply apart
  rw [named, otherNamed, Except.ok.inj first, Except.ok.inj second]

theorem sameReading_of_gathers
    (text : PyText) {state data : Dict String Json} (keyed : KeyedState state)
    (gathers : GathersState Alike state data) : SameReading text state data := by
  have interfaces : SameEntries (interfaceOutput? text) (interfaceEntries state)
      (interfaceEntries data) :=
    sameEntries_of_gathersAt (interfaceOutput?_alike text) (by decide) (gathers "/interface")
      keyed.interfaces
  have neighbors : SameEntries (neighborOutput? text) (neighborEntries state)
      (neighborEntries data) :=
    sameEntries_of_gathersAt (neighborOutput?_alike text) (by decide) (gathers bgpPath)
      keyed.neighbors
  have interfacesOnce : OneEach (interfaceOutput? text) (interfaceEntries state) :=
    fun items reads => onePath_interfaces (distinctKeys_of_keyed text
      (keyed.interfaces items reads))
  have neighborsOnce : OneEach (neighborOutput? text) (neighborEntries state) :=
    fun items reads => onePath_neighbors (distinctKeys_of_keyed text
      (keyed.neighbors items reads))
  exact sameReading_of_entries interfaces neighbors interfacesOnce neighborsOnce

/--
A device that answers in fragments, with every list entry whole and every name
of a container spelled one way, is collected, and the adapter and the diff read
its collected state as they read the state in one piece.
-/
theorem fragments_lose_nothing
    (text : PyText) {gnmiText : GnmiText} {collector : GnmiCollector} {device : Device}
    {host : String} (dialled : collector.dialHost device = some host) {paths : List String}
    (requested : paths ≠ []) (distinct : (paths.map (normalizePath gnmiText)).Nodup)
    {get : String → String → Except GnmiFailure (List GnmiNotification)}
    {state : String → Json} (keyed : KeyedState (unsplit gnmiText paths state))
    (answers : ∀ path ∈ paths, ∃ answer, get host path = .ok answer ∧
      Answers Alike gnmiText path (state path) answer) :
    ∃ result, collect gnmiText collector device paths get = .ok result ∧
      result.success = true ∧
      SameReading text (unsplit gnmiText paths state) result.data := by
  obtain ⟨result, collected, succeeded, gathers⟩ :=
    collect_gathers dialled requested distinct answers
  exact ⟨result, collected, succeeded, sameReading_of_gathers text keyed gathers⟩

/-- Letters and digits of ASCII, and no texts of values. -/
def GnmiText.ascii : GnmiText where
  wordChar char := char.isAlphanum || char = '_'
  repr _ := ""

/-- The paths drift detection requests. -/
def driftPaths : List String := ["/interface", bgpPath]

def labLeaf : Device := ⟨⟨1⟩, "leaf-01", "172.20.20.11", "dcfabric", none⟩

def labCollector : GnmiCollector := ⟨none, 30⟩

/-- A device with one configured port. -/
def onePort : String → Json
  | "/interface" => .obj [("interface", .arr
      [.obj [("name", .str "ethernet-1/1"), ("description", .str "uplink"),
        ("mtu", .int 9000)]])]
  | _ => .obj []

/-- The port of the device in two updates, each with its name. -/
def portInTwo : String → String → Except GnmiFailure (List GnmiNotification)
  | _, "/interface" => .ok
      [⟨[⟨some "srl_nokia-interfaces:interface", some (.obj [("interface", .arr
          [.obj [("name", .str "ethernet-1/1"), ("description", .str "uplink")]])])⟩]⟩,
        ⟨[⟨some "srl_nokia-interfaces:interface", some (.obj [("interface", .arr
          [.obj [("name", .str "ethernet-1/1"), ("mtu", .int 9000)]])])⟩]⟩]
  | _, _ => .ok [⟨[⟨none, some (.obj [])⟩]⟩]

/-- What is collected of the port: two entries of one name. -/
def portCollected : Dict String Json :=
  Dict.ofPairs [("/interface", .obj [("interface", .arr
    [.obj [("name", .str "ethernet-1/1"), ("description", .str "uplink")],
      .obj [("name", .str "ethernet-1/1"), ("mtu", .int 9000)]])]), (bgpPath, .obj [])]

theorem portInTwo_collected :
    (collect GnmiText.ascii labCollector labLeaf driftPaths portInTwo).map (fun result =>
      (result.success, result.data.entries)) = .ok (true, portCollected.entries) := by
  decide +kernel

/-- The description of a port whose entry was split is lost. -/
theorem split_entry_loses_description :
    ∃ result whole state,
      collect GnmiText.ascii labCollector labLeaf driftPaths portInTwo = .ok result ∧
      result.success = true ∧
      normalizeSrlinuxState PyText.ascii (unsplit GnmiText.ascii driftPaths onePort) =
        .ok whole ∧
      normalizeSrlinuxState PyText.ascii result.data = .ok state ∧
      (whole.get? "/interface[name=ethernet-1/1]").map (fun entry => entry.field "description") =
        some (.str "uplink") ∧
      (state.get? "/interface[name=ethernet-1/1]").map (fun entry => entry.field "description") =
        some .null ∧
      ¬ SameState whole state := by
  rcases collected : collect GnmiText.ascii labCollector labLeaf driftPaths portInTwo with
    error | result
  · have answered := portInTwo_collected
    rw [collected] at answered
    cases answered
  · have answered := portInTwo_collected
    rw [collected] at answered
    obtain ⟨succeeded, entries⟩ := Prod.mk.inj (Except.ok.inj answered)
    have data : result.data = portCollected := Dict.ext entries
    refine ⟨result, _, _, rfl, succeeded, rfl, by rw [data]; rfl, by decide +kernel,
      by decide +kernel, ?_⟩
    intro same
    exact absurd (same "/interface[name=ethernet-1/1]") (by decide +kernel)

/-- A device with two ports and one neighbour. -/
def twoPorts : String → Json
  | "/interface" => .obj [("srl_nokia-interfaces:interface", .arr
      [.obj [("name", .str "ethernet-1/1"), ("description", .str "uplink")],
        .obj [("name", .str "ethernet-1/2"), ("mtu", .int 9000)]])]
  | _ => .obj [("autonomous-system", .int 65001),
      ("neighbor", .arr [.obj [("peer-address", .str "10.0.0.1"), ("peer-as", .int 65002)]])]

/-- The second port first, and once more after the first, whose fields carry a module name. -/
def portFragments : List (List (String × Json)) :=
  [[("interface", .arr [.obj [("name", .str "ethernet-1/2"), ("mtu", .int 9000)]])],
    [("interface", .arr
      [.obj [("srl_nokia-interfaces:name", .str "ethernet-1/1"),
        ("srl_nokia-interfaces:description", .str "uplink")],
      .obj [("name", .str "ethernet-1/2"), ("mtu", .int 9000)]])]]

def bgpFragments : List (List (String × Json)) :=
  [[("neighbor", .arr [.obj [("peer-address", .str "10.0.0.1"), ("peer-as", .int 65002)]])],
    [("autonomous-system", .int 65001)]]

/-- One notification for each fragment, the first without a path. -/
def answerIn (path : String) (fragments : List (List (String × Json))) :
    List GnmiNotification :=
  fragments.zipIdx.map fun fragment =>
    ⟨[⟨if fragment.2 = 0 then none else some path, some (.obj fragment.1)⟩]⟩

def twoPortsInPieces : String → String → Except GnmiFailure (List GnmiNotification)
  | _, "/interface" => .ok (answerIn "srl_nokia-interfaces:interface" portFragments)
  | _, path => .ok (answerIn path bgpFragments)

theorem twoPorts_keyed : KeyedState (unsplit GnmiText.ascii driftPaths twoPorts) where
  interfaces := by
    intro items reads
    cases reads
    refine ⟨?_, ?_, ?_⟩
    · simp [getLocal, localName]
    · simp [getLocal, localName]
    · simp [DistinctNames, localName]
  neighbors := by
    intro items reads
    cases reads
    refine ⟨?_, ?_, ?_⟩
    · simp [getLocal, localName]
    · exact List.pairwise_singleton _ _
    · simp [DistinctNames, localName]

theorem alike_of_bare {entry item : Json} (same : bare entry = bare item) :
    Alike entry item := by
  rw [Alike, same]
  exact .same _

/-- Entries that differ in their module names only are the entries of a list. -/
theorem splits_entries
    {items : List Json} {lists : List (List Json)} (reported : lists ≠ [])
    (whole : ∀ list ∈ lists, ∀ entry ∈ list, ∃ item ∈ items, bare entry = bare item)
    (every : ∀ item ∈ items, ∃ list ∈ lists, ∃ entry ∈ list, bare entry = bare item) :
    Splits Alike (.arr items) (lists.map .arr) := by
  refine .list reported ?_ ?_
  · intro list listMember entry member
    obtain ⟨item, itemMember, same⟩ := whole list listMember entry member
    exact ⟨item, itemMember, alike_of_bare same⟩
  · intro item member
    obtain ⟨list, listMember, entry, entryMember, same⟩ := every item member
    exact ⟨list, listMember, entry, entryMember, alike_of_bare same⟩

theorem portFragments_split :
    Splits Alike (twoPorts "/interface") (portFragments.map .obj) := by
  refine .container (fun _ => "interface") (by decide) (by decide) (by decide) (by decide)
    (by decide) ?_
  intro own member
  rcases List.mem_singleton.1 member with rfl
  exact @splits_entries _
    [[.obj [("name", .str "ethernet-1/2"), ("mtu", .int 9000)]],
      [.obj [("srl_nokia-interfaces:name", .str "ethernet-1/1"),
        ("srl_nokia-interfaces:description", .str "uplink")],
      .obj [("name", .str "ethernet-1/2"), ("mtu", .int 9000)]]]
    (by decide) (by decide +kernel) (by decide +kernel)

theorem bgpFragments_split (path : String) (bgp : path ≠ "/interface") :
    Splits Alike (twoPorts path) (bgpFragments.map .obj) := by
  have state : twoPorts path = .obj [("autonomous-system", .int 65001),
      ("neighbor", .arr [.obj [("peer-address", .str "10.0.0.1"),
        ("peer-as", .int 65002)]])] := by
    unfold twoPorts
    split
    · exact absurd rfl bgp
    · rfl
  rw [state]
  refine .container id (by decide) (by decide) (by decide) (by decide) (by decide) ?_
  intro own member
  rcases List.mem_pair.1 member with rfl | rfl
  · exact .leaf trivial (by decide) (by decide)
  · exact @splits_entries _
      [[.obj [("peer-address", .str "10.0.0.1"), ("peer-as", .int 65002)]]]
      (by decide) (by decide +kernel) (by decide +kernel)

theorem twoPorts_answered :
    ∀ path ∈ driftPaths, ∃ answer, twoPortsInPieces "172.20.20.11" path = .ok answer ∧
      Answers Alike GnmiText.ascii path (twoPorts path) answer := by
  intro path member
  rcases List.mem_pair.1 member with rfl | rfl
  · refine ⟨_, rfl, ?_, by decide, portFragments_split⟩
    intro update reported
    rcases List.mem_pair.1 reported with rfl | rfl
    · exact Or.inl rfl
    · exact Or.inr ⟨_, rfl, by decide, by decide +kernel⟩
  · refine ⟨answerIn bgpPath bgpFragments, rfl, ?_, by decide, bgpFragments_split _ (by decide)⟩
    intro update reported
    rcases List.mem_pair.1 reported with rfl | rfl
    · exact Or.inl rfl
    · exact Or.inr ⟨_, rfl, by decide, by decide +kernel⟩

theorem twoPorts_read_whole :
    ∃ result, collect GnmiText.ascii labCollector labLeaf driftPaths twoPortsInPieces = .ok result ∧
      result.success = true ∧
      SameReading PyText.ascii (unsplit GnmiText.ascii driftPaths twoPorts) result.data :=
  fragments_lose_nothing PyText.ascii (by decide) (by decide) (by decide +kernel) twoPorts_keyed
    twoPorts_answered

end Snapl.Contract
