import Snapl.Intent.SeedItems

/-!
# Sections of the seed

The items of a section are served as a list of requests.  No section changes
nodes an earlier section made or refers to, so once all sections have been
seeded each of them is settled: seeding it again finds every node and leaves
each as it was.
-/

namespace Snapl.Intent

open Snapl.Library SeedIngester

variable {client : InfrahubClient}

/-- Count items of a section that were all updates. -/
def SeedIngester.Tally.updatedBy (tally : Tally) (name : SectionName) (items : Nat) : Tally where
  devicesCreated := tally.devicesCreated
  devicesUpdated := if name = .devices then tally.devicesUpdated + items else tally.devicesUpdated
  totalRecords := tally.totalRecords + items

theorem Tally.updatedBy_zero (tally : Tally) (name : SectionName) :
    tally.updatedBy name 0 = tally := by
  rw [Tally.updatedBy, Nat.add_zero, Nat.add_zero, ite_self]

theorem Tally.count_updatedBy (tally : Tally) (name : SectionName) (items : Nat) :
    (tally.count name false).updatedBy name items = tally.updatedBy name (items + 1) := by
  rw [Tally.updatedBy, Tally.updatedBy, Tally.count]
  by_cases isDevices : name = .devices
  · simp [isDevices]
    omega
  · simp [isDevices]
    omega

/-- The items of a section are served in order. -/
theorem seedItems_serves
    {name : SectionName} (wellFormed : (sections name).WellFormed)
    {namespaceId : Option String} {taken : List String} {items : List Payload}
    {tally final : Tally} {sot after : Sot} (known : taken ⊆ (client.home sot).mentioned)
    (ran : seedItems client name client.defaultBranch namespaceId items tally sot =
      (.ok final, after)) :
    Evolves client [(sections name).kind, .ipamIPAddress] sot after ∧
    final.totalRecords = tally.totalRecords + items.length ∧
    ∃ requests,
      List.Forall₂ ((sections name).Plans namespaceId (client.home after)) items requests ∧
      (sections name).upserting.Serves ((sections name).Made taken) requests
        ((client.home sot).nodes (sections name).kind)
        ((client.home after).nodes (sections name).kind) := by
  induction items generalizing tally sot with
  | nil =>
      obtain ⟨rfl, rfl⟩ := Program.pure_eq_ok_iff.1 ran
      exact ⟨Evolves.refl _ sot, rfl, [], .nil, .done _⟩
  | cons item rest induction =>
      rw [seedItems, Program.bind_eq_ok_iff] at ran
      obtain ⟨created, middle, first, ran⟩ := ran
      obtain ⟨evolves, request, plans, serves⟩ := upsertItem_serves wellFormed known first
      obtain ⟨evolvesRest, records, requests, plansRest, servesRest⟩ :=
        induction (List.Subset.trans known evolves.mentioned) ran
      refine ⟨evolves.trans evolvesRest, ?_, request :: requests, .cons ?_ plansRest, ?_⟩
      · have counted : (tally.count name created).totalRecords = tally.totalRecords + 1 := rfl
        rw [records, counted, List.length_cons]
        omega
      · apply plans.mono
        · intro rel member
          obtain ⟨notKind, notAddress⟩ := wellFormed.otherPeers rel member
          apply evolvesRest.others
          rw [List.mem_cons, List.mem_singleton, not_or]
          exact ⟨notKind, notAddress⟩
        · exact evolvesRest.addresses
      · exact serves.append servesRest

/-- Items whose nodes are all there are written to them in order. -/
theorem seedItems_again
    {name : SectionName} (wellFormed : (sections name).WellFormed)
    {namespaceId : Option String} {items requests : List Payload} {sot : Sot}
    (plans : List.Forall₂ ((sections name).Plans namespaceId (client.home sot)) items requests)
    (present : ∀ request ∈ requests, (sections name).upserting.Present request
      ((client.home sot).nodes (sections name).kind)) (tally : Tally) :
    ∃ after,
      seedItems client name client.defaultBranch namespaceId items tally sot =
        (.ok (tally.updatedBy name items.length), after) ∧
      Evolves client [(sections name).kind] sot after ∧
      (client.home after).nodes (sections name).kind = (sections name).upserting.replay requests
        ((client.home sot).nodes (sections name).kind) := by
  induction items generalizing requests tally sot with
  | nil =>
      cases plans
      refine ⟨sot, ?_, Evolves.refl _ sot, rfl⟩
      rw [List.length_nil, Tally.updatedBy_zero]
      rfl
  | cons item items induction =>
      rcases plans with _ | @⟨_, request, _, requests, plan, plans⟩
      obtain ⟨middle, first, evolves, nodes⟩ :=
        upsertItem_again wellFormed plan (present request List.mem_cons_self)
      have peers : ∀ rel ∈ (sections name).relationships.map Prod.snd,
          (client.home middle).nodes rel.peerKind = (client.home sot).nodes rel.peerKind := by
        intro rel member
        apply evolves.others
        intro isKind
        exact (wellFormed.otherPeers rel member).1 (List.mem_singleton.1 isKind)
      have plansThen : List.Forall₂ ((sections name).Plans namespaceId (client.home middle))
          items requests :=
        plans.imp fun _ _ later => later.mono peers evolves.addresses
      obtain ⟨after, ran, evolvesRest, replayed⟩ := induction plansThen (by
        intro other member
        rw [nodes, Upserting.present_writeFirst]
        exact present other (List.mem_cons_of_mem request member)) (tally.count name false)
      refine ⟨after, ?_, evolves.trans evolvesRest, ?_⟩
      · rw [seedItems, Program.bind_of_ok first, ran, Tally.count_updatedBy, List.length_cons]
      · rw [replayed, nodes, Upserting.replay_cons]

/-- A section that has been seeded is settled for as long as its nodes and references stay. -/
theorem seedItems_settled
    {name : SectionName} (wellFormed : (sections name).WellFormed)
    {namespaceId : Option String} {items : List Payload} {tally final : Tally}
    {sot after later : Sot}
    (ran : seedItems client name client.defaultBranch namespaceId items tally sot =
      (.ok final, after))
    (own : (client.home later).nodes (sections name).kind =
      (client.home after).nodes (sections name).kind)
    (peers : ∀ rel ∈ (sections name).relationships.map Prod.snd,
      (client.home later).nodes rel.peerKind = (client.home after).nodes rel.peerKind)
    (grown : (client.home after).nodes .ipamIPAddress <+:
      (client.home later).nodes .ipamIPAddress) (again : Tally) :
    seedItems client name client.defaultBranch namespaceId items again later =
      (.ok (again.updatedBy name items.length), later) := by
  obtain ⟨-, -, requests, plans, serves⟩ :=
    @seedItems_serves client name wellFormed namespaceId [] items tally final sot after
      (List.nil_subset _) ran
  have hits := fun (request : Payload) (node : Node)
      (made : (sections name).Made [] request node) =>
    Section.hits_of_made wellFormed.keyed made
  have fixed := fun (request : Payload) (node : Node)
      (made : (sections name).Made [] request node) => Section.write_of_made made
  obtain ⟨last, run, evolves, replayed⟩ := @seedItems_again client name wellFormed namespaceId
    items requests later (plans.imp fun _ _ plan => plan.mono peers grown)
    (by
      intro request member
      rw [own]
      exact serves.present_of_mem hits request member) again
  have same : last = later := by
    apply evolves.eq_of_nodes
    intro kind member
    rw [List.mem_singleton.1 member, replayed, own]
    exact serves.replay_eq hits fixed
  rw [run, same]

/-- The kinds of the generic sections among some. -/
def genericKinds (names : List SectionName) : List Kind :=
  (names.filter fun name => name ∉ bgpSections).map fun name => (sections name).kind

/-- The second section makes no nodes of the first one's kind or of its references' kinds. -/
def Independent (first second : SectionName) : Prop :=
  first ∉ bgpSections → second ∉ bgpSections →
    (sections first).kind ≠ (sections second).kind ∧
    ∀ rel ∈ (sections first).relationships.map Prod.snd, rel.peerKind ≠ (sections second).kind

/-- The seed order keeps sections clear of what earlier sections made or refer to. -/
theorem seedOrder_independent : seedOrder.Pairwise Independent := by
  simp [seedOrder, Independent, sections, bgpSections]

/-- What the items of a section count as when they are all updates. -/
def SeedIngester.Tally.settled (dataset : Dataset) : List SectionName → Tally → Tally
  | [], tally => tally
  | name :: rest, tally =>
      if name ∈ bgpSections then Tally.settled dataset rest tally
      else
        match (dataset name).map (itemsForSection (sections name)) with
        | some (.ok items) => Tally.settled dataset rest (tally.updatedBy name items.length)
        | _ => Tally.settled dataset rest tally

theorem compute_eq_ok_iff
    {Result : Type} {value : Except PyError Result} {sot after : Sot} {result : Result} :
    compute value sot = (.ok result, after) ↔ value = .ok result ∧ sot = after := by
  rw [compute, Program.ofExcept_eq_ok_iff]
  rcases value with error | other
  · simp [Except.mapError]
  · simp [Except.mapError]

theorem compute_of_ok
    {Result : Type} {value : Except PyError Result} {result : Result}
    (ok : value = .ok result) (sot : Sot) : compute value sot = (.ok result, sot) :=
  compute_eq_ok_iff.2 ⟨ok, rfl⟩

/-- A section a run passes over, or the items it seeds. -/
theorem seedSections_cons_eq_ok
    {dataset : Dataset} {namespaceId : Option String} {name : SectionName}
    {rest : List SectionName} {tally final : Tally} {sot after : Sot}
    (ran : seedSections client dataset client.defaultBranch namespaceId (name :: rest) tally sot =
      (.ok final, after)) :
    ((dataset name = none ∨ name ∈ bgpSections) ∧
      seedSections client dataset client.defaultBranch namespaceId rest tally sot =
        (.ok final, after)) ∨
    (name ∉ bgpSections ∧ ∃ value items next middle, dataset name = some value ∧
      itemsForSection (sections name) value = .ok items ∧
      seedItems client name client.defaultBranch namespaceId items tally sot =
        (.ok next, middle) ∧
      seedSections client dataset client.defaultBranch namespaceId rest next middle =
        (.ok final, after)) := by
  unfold seedSections at ran
  rcases present : dataset name with _ | value
  · rw [present] at ran
    exact Or.inl ⟨Or.inl rfl, ran⟩
  · rw [present] at ran
    dsimp only at ran
    by_cases isBgp : name ∈ bgpSections
    · rw [if_pos isBgp] at ran
      exact Or.inl ⟨Or.inr isBgp, ran⟩
    · rw [if_neg isBgp, Program.bind_eq_ok_iff] at ran
      obtain ⟨items, start, computes, ran⟩ := ran
      obtain ⟨itemsOk, rfl⟩ := compute_eq_ok_iff.1 computes
      rw [Program.bind_eq_ok_iff] at ran
      obtain ⟨next, middle, seeded, ran⟩ := ran
      exact Or.inr ⟨isBgp, value, items, next, middle, rfl, itemsOk, seeded, ran⟩

theorem seedSections_of_skipped
    {dataset : Dataset} {name : SectionName}
    (skipped : dataset name = none ∨ name ∈ bgpSections) (namespaceId : Option String)
    (rest : List SectionName) (tally : Tally) (sot : Sot) :
    seedSections client dataset client.defaultBranch namespaceId (name :: rest) tally sot =
      seedSections client dataset client.defaultBranch namespaceId rest tally sot := by
  rw [seedSections]
  rcases present : dataset name with _ | value
  · rfl
  · rw [present] at skipped
    dsimp only
    rw [if_pos (skipped.resolve_left (Option.some_ne_none value))]

theorem seedSections_of_items
    {dataset : Dataset} {name : SectionName} (generic : name ∉ bgpSections)
    {value : SectionValue} (present : dataset name = some value) {items : List Payload}
    (itemsOk : itemsForSection (sections name) value = .ok items)
    {namespaceId : Option String} {tally next : Tally} {sot middle : Sot}
    (seeded : seedItems client name client.defaultBranch namespaceId items tally sot =
      (.ok next, middle)) (rest : List SectionName) :
    seedSections client dataset client.defaultBranch namespaceId (name :: rest) tally sot =
      seedSections client dataset client.defaultBranch namespaceId rest next middle := by
  rw [seedSections, present]
  dsimp only
  rw [if_neg generic, Program.bind_of_ok (compute_of_ok itemsOk sot), Program.bind_of_ok seeded]

theorem Tally.settled_of_skipped
    {dataset : Dataset} {name : SectionName}
    (skipped : dataset name = none ∨ name ∈ bgpSections) (rest : List SectionName)
    (tally : Tally) : Tally.settled dataset (name :: rest) tally =
      Tally.settled dataset rest tally := by
  rw [Tally.settled]
  by_cases isBgp : name ∈ bgpSections
  · rw [if_pos isBgp]
  · rw [if_neg isBgp, skipped.resolve_right isBgp]
    rfl

theorem Tally.settled_of_items
    {dataset : Dataset} {name : SectionName} (generic : name ∉ bgpSections)
    {value : SectionValue} (present : dataset name = some value) {items : List Payload}
    (itemsOk : itemsForSection (sections name) value = .ok items) (rest : List SectionName)
    (tally : Tally) : Tally.settled dataset (name :: rest) tally =
      Tally.settled dataset rest (tally.updatedBy name items.length) := by
  rw [Tally.settled, if_neg generic, present, Option.map_some, itemsOk]

theorem mem_genericKinds {names : List SectionName} {kind : Kind} :
    kind ∈ genericKinds names ↔
      ∃ name ∈ names, name ∉ bgpSections ∧ (sections name).kind = kind := by
  rw [genericKinds, List.mem_map]
  constructor
  · rintro ⟨name, member, same⟩
    obtain ⟨inNames, generic⟩ := List.mem_filter.1 member
    exact ⟨name, inNames, of_decide_eq_true generic, same⟩
  · rintro ⟨name, inNames, generic, same⟩
    exact ⟨name, List.mem_filter.2 ⟨inNames, decide_eq_true generic⟩, same⟩

/-- Seeding the generic sections changes their kinds and adds addresses. -/
theorem seedSections_evolves
    {dataset : Dataset} {namespaceId : Option String} {names : List SectionName}
    {tally final : Tally} {sot after : Sot}
    (ran : seedSections client dataset client.defaultBranch namespaceId names tally sot =
      (.ok final, after)) :
    Evolves client (.ipamIPAddress :: genericKinds names) sot after ∧
    final.totalRecords = (Tally.settled dataset names tally).totalRecords := by
  have records : ∀ (names : List SectionName) (first second : Tally),
      first.totalRecords = second.totalRecords →
        (Tally.settled dataset names first).totalRecords =
          (Tally.settled dataset names second).totalRecords := by
    intro names
    induction names with
    | nil => exact fun _ _ same => same
    | cons name rest induction =>
        intro first second same
        rw [Tally.settled, Tally.settled]
        split_ifs
        · exact induction first second same
        · rcases (dataset name).map (itemsForSection (sections name)) with _ | _ | items
          · exact induction first second same
          · exact induction first second same
          · apply induction
            rw [Tally.updatedBy, Tally.updatedBy, same]
  induction names generalizing tally sot with
  | nil =>
      obtain ⟨rfl, rfl⟩ := Program.pure_eq_ok_iff.1 ran
      exact ⟨Evolves.refl _ sot, rfl⟩
  | cons name rest induction =>
      have weaken : Kind.ipamIPAddress :: genericKinds rest ⊆
          Kind.ipamIPAddress :: genericKinds (name :: rest) := by
        apply List.cons_subset_cons
        intro kind member
        obtain ⟨other, inRest, generic, same⟩ := mem_genericKinds.1 member
        exact mem_genericKinds.2 ⟨other, List.mem_cons_of_mem name inRest, generic, same⟩
      rcases seedSections_cons_eq_ok ran with
        ⟨skipped, ran⟩ | ⟨generic, value, items, next, middle, present, itemsOk, seeded, ran⟩
      · obtain ⟨evolves, counted⟩ := induction ran
        rw [Tally.settled_of_skipped skipped]
        exact ⟨evolves.mono weaken, counted⟩
      · obtain ⟨evolves, counted⟩ := induction ran
        obtain ⟨evolvesFirst, countedFirst, -⟩ := @seedItems_serves client name
          (wellFormed_sections generic) namespaceId [] items tally next sot middle
          (List.nil_subset _) seeded
        refine ⟨(evolvesFirst.mono ?_).trans (evolves.mono weaken), ?_⟩
        · intro kind member
          rcases List.mem_cons.1 member with rfl | member
          · exact List.mem_cons_of_mem _
              (mem_genericKinds.2 ⟨name, List.mem_cons_self, generic, rfl⟩)
          · rw [List.mem_singleton.1 member]
            exact List.mem_cons_self
        · rw [counted, Tally.settled_of_items generic present itemsOk]
          apply records
          rw [countedFirst, Tally.updatedBy]

/-- The kinds the generic sections leave alone. -/
def bgpKinds : List Kind := [.routingBGPPeerGroup, .routingBGPSession]

theorem generic_not_bgp {name : SectionName} (generic : name ∉ bgpSections) :
    (sections name).kind ∉ bgpKinds ∧
    ∀ rel ∈ (sections name).relationships.map Prod.snd, rel.peerKind ∉ bgpKinds := by
  cases name <;> simp_all [sections, bgpSections, bgpKinds]

/-- Seeded sections are settled, whatever becomes of BGP nodes and further addresses. -/
theorem seedSections_settled
    {dataset : Dataset} {namespaceId : Option String} {names : List SectionName}
    (ordered : names.Pairwise Independent) {tally final : Tally} {sot after later : Sot}
    (ran : seedSections client dataset client.defaultBranch namespaceId names tally sot =
      (.ok final, after))
    (same : ∀ kind, kind ∉ bgpKinds → kind ≠ .ipamIPAddress →
      (client.home later).nodes kind = (client.home after).nodes kind)
    (grown : (client.home after).nodes .ipamIPAddress <+:
      (client.home later).nodes .ipamIPAddress) (again : Tally) :
    seedSections client dataset client.defaultBranch namespaceId names again later =
      (.ok (again.settled dataset names), later) := by
  induction names generalizing tally sot again with
  | nil => rfl
  | cons name rest induction =>
      obtain ⟨independent, orderedRest⟩ := List.pairwise_cons.1 ordered
      rcases seedSections_cons_eq_ok ran with
        ⟨skipped, ran⟩ | ⟨generic, value, items, next, middle, present, itemsOk, seeded, ran⟩
      · rw [seedSections_of_skipped skipped, Tally.settled_of_skipped skipped]
        exact induction orderedRest ran again
      · have wellFormed := wellFormed_sections generic
        obtain ⟨evolves, -⟩ := seedSections_evolves ran
        have apart : ∀ kind, (∀ other ∈ rest, other ∉ bgpSections →
            kind ≠ (sections other).kind) → kind ∉ bgpKinds → kind ≠ .ipamIPAddress →
            (client.home later).nodes kind = (client.home middle).nodes kind := by
          intro kind notRest notBgp notAddress
          rw [same kind notBgp notAddress]
          apply evolves.others
          intro member
          rcases List.mem_cons.1 member with isAddress | member
          · exact notAddress isAddress
          · obtain ⟨other, inRest, otherGeneric, isKind⟩ := mem_genericKinds.1 member
            exact notRest other inRest otherGeneric isKind.symm
        have settled := seedItems_settled wellFormed seeded
          (apart _ (fun other member otherGeneric =>
              (independent other member generic otherGeneric).1)
            (generic_not_bgp generic).1 wellFormed.notAddress)
          (fun rel member => apart _ (fun other otherMember otherGeneric =>
              (independent other otherMember generic otherGeneric).2 rel member)
            ((generic_not_bgp generic).2 rel member) (wellFormed.otherPeers rel member).2)
          (evolves.addresses.trans grown) again
        rw [seedSections_of_items generic present itemsOk settled,
          Tally.settled_of_items generic present itemsOk]
        exact induction orderedRest ran _

end Snapl.Intent
