import Snapl.Library.FirstsByKey
import Snapl.Library.Transition

/-!
# Delivery at least once

Several strands send their items one after another: the next one only once the
last one is acknowledged.  What is sent arrives any number of times, also long
after it was acknowledged; only an item that has arrived can be acknowledged.
The receiver keeps the first item of each key.

Whatever the order, what it keeps of a strand are the items up to the last
acknowledged one, and maybe the next, each once and in the strand's own order.
-/

namespace Snapl.Library

variable {Strand Item Key : Type} [DecidableEq Strand] [DecidableEq Key]

/-- The items of each strand, in the order in which it sends them. -/
structure Trails (strandOf : Item → Strand) (key : Item → Key) where
  trail : Strand → List Item
  own : ∀ strand, ∀ item ∈ trail strand, strandOf item = strand
  once : ∀ strand, (trail strand).Nodup
  keyed : ∀ first second, ∀ item ∈ trail first, ∀ other ∈ trail second,
    key item = key other → item = other

/-- How far each strand is, and what has arrived so far. -/
structure Delivery (Strand Item : Type) where
  acknowledged : Strand → Nat
  arrivals : List Item

inductive DeliveryEvent (Strand : Type) where
  /-- The item at a position of a strand arrives. -/
  | arrives (strand : Strand) (position : Nat)
  /-- The strand learns that its current item has arrived, and goes on. -/
  | acknowledges (strand : Strand)

/-- Nothing was sent yet. -/
def Delivery.blank : Delivery Strand Item := ⟨fun _ => 0, []⟩

namespace Trails

variable {strandOf : Item → Strand} {key : Item → Key} (trails : Trails strandOf key)

/-- What a strand has not sent cannot arrive, and what has not arrived is not acknowledged. -/
def step [DecidableEq Item] : Transition (Delivery Strand Item) (DeliveryEvent Strand)
  | state, .arrives strand position =>
      if position ≤ state.acknowledged strand then
        (trails.trail strand)[position]?.map fun item =>
          { state with arrivals := state.arrivals ++ [item] }
      else none
  | state, .acknowledges strand =>
      match (trails.trail strand)[state.acknowledged strand]? with
      | some item =>
          if item ∈ state.arrivals then
            some { state with
              acknowledged :=
                Function.update state.acknowledged strand (state.acknowledged strand + 1) }
          else none
      | none => none

/-- What the receiver keeps of a strand. -/
def heldOf (strandOf : Item → Strand) (key : Item → Key) (arrivals : List Item)
    (strand : Strand) : List Item :=
  (firstsByKey key arrivals).filter fun item => strandOf item = strand

/-- The receiver holds a strand up to its last acknowledged item, or one more. -/
def Holds (state : Delivery Strand Item) (strand : Strand) : Prop :=
  ∃ count, state.acknowledged strand ≤ count ∧ count ≤ state.acknowledged strand + 1 ∧
    heldOf strandOf key state.arrivals strand = (trails.trail strand).take count

/-- All that arrives was sent, and every strand is held. -/
structure Sound (state : Delivery Strand Item) : Prop where
  bounded : ∀ strand, state.acknowledged strand ≤ (trails.trail strand).length
  sent : ∀ item ∈ state.arrivals, ∃ strand, item ∈ trails.trail strand
  held : ∀ strand, trails.Holds state strand

variable {trails} {state next : Delivery Strand Item}

theorem sound_blank : trails.Sound Delivery.blank where
  bounded _ := Nat.zero_le _
  sent := nofun
  held _ := ⟨0, Nat.le_refl 0, Nat.zero_le 1, rfl⟩

/-- What has arrived is held, as items are told apart by their keys. -/
theorem Sound.mem_heldOf
    (sound : trails.Sound state) {strand : Strand} {item : Item}
    (member : item ∈ trails.trail strand) (arrived : item ∈ state.arrivals) :
    item ∈ heldOf strandOf key state.arrivals strand := by
  obtain ⟨first, isFirst, same⟩ := @exists_first_of_mem _ _ _ key _ _ arrived
  obtain ⟨other, otherMember⟩ := sound.sent first (mem_of_mem_firstsByKey isFirst)
  obtain rfl := trails.keyed other strand first otherMember item member same
  exact List.mem_filter.2 ⟨isFirst, by simpa using trails.own strand first member⟩

/-- An arrival adds to its own strand at most, and there the next item. -/
theorem Sound.arrives
    (sound : trails.Sound state) {strand : Strand} {position : Nat} {item : Item}
    (sent : position ≤ state.acknowledged strand)
    (found : (trails.trail strand)[position]? = some item) :
    trails.Sound { state with arrivals := state.arrivals ++ [item] } := by
  have member := List.mem_of_getElem? found
  have own := trails.own strand item member
  refine ⟨sound.bounded, ?_, ?_⟩
  · intro other arrived
    rcases List.mem_append.1 arrived with earlier | last
    · exact sound.sent other earlier
    · rw [List.mem_singleton.1 last]
      exact ⟨strand, member⟩
  · intro other
    obtain ⟨count, least, most, held⟩ := sound.held other
    rw [heldOf] at held
    by_cases known : key item ∈ (firstsByKey key state.arrivals).map key
    · refine ⟨count, least, most, ?_⟩
      rw [heldOf, firstsByKey_concat, if_pos known, held]
    · by_cases same : strand = other
      · subst same
        -- an item that is not held yet is the one right after those held
        have beyond : count ≤ position := by
          by_contra before
          have inTrail : item ∈ (trails.trail strand).take count :=
            List.mem_of_getElem? (by rw [List.getElem?_take_of_lt (Nat.lt_of_not_le before), found])
          rw [← held] at inTrail
          exact known (List.mem_map_of_mem (List.mem_of_mem_filter inTrail))
        obtain rfl : position = count := Nat.le_antisymm (Nat.le_trans sent least) beyond
        refine ⟨position + 1, Nat.le_succ_of_le least, Nat.succ_le_succ sent, ?_⟩
        rw [heldOf, firstsByKey_concat, if_neg known, List.filter_append, held,
          List.take_add_one, found]
        simp [own]
      · refine ⟨count, least, most, ?_⟩
        rw [heldOf, firstsByKey_concat, if_neg known, List.filter_append, held]
        simp [own, same]

/-- An acknowledged item is held. -/
theorem Sound.acknowledges
    (sound : trails.Sound state) {strand : Strand} {item : Item}
    (found : (trails.trail strand)[state.acknowledged strand]? = some item)
    (arrived : item ∈ state.arrivals) :
    trails.Sound { state with
      acknowledged := Function.update state.acknowledged strand
        (state.acknowledged strand + 1) } := by
  obtain ⟨inside, isItem⟩ := List.getElem?_eq_some_iff.1 found
  refine ⟨?_, sound.sent, ?_⟩
  · intro other
    by_cases same : other = strand
    · subst same
      simpa using Nat.succ_le_of_lt inside
    · simpa [same] using sound.bounded other
  · intro other
    obtain ⟨count, least, most, held⟩ := sound.held other
    by_cases same : other = strand
    · subst same
      have member := sound.mem_heldOf (List.mem_of_getElem? found) arrived
      rw [held] at member
      have beyond : state.acknowledged other < count := by
        obtain ⟨position, before, equal⟩ := List.getElem_of_mem member
        rw [List.length_take] at before
        rw [List.getElem_take, ← isItem] at equal
        rw [(trails.once other).getElem_inj_iff] at equal
        omega
      exact ⟨count, by simpa using Nat.succ_le_of_lt beyond,
        by simpa using Nat.le_succ_of_le most, held⟩
    · exact ⟨count, by simpa [same] using least, by simpa [same] using most, held⟩

/-- Every step keeps what is held of every strand. -/
theorem Sound.step
    [DecidableEq Item] (sound : trails.Sound state) {event : DeliveryEvent Strand}
    (moves : trails.step state event = some next) : trails.Sound next := by
  cases event with
  | arrives strand position =>
      rw [Trails.step] at moves
      split_ifs at moves with sent
      obtain ⟨item, found, rfl⟩ := Option.map_eq_some_iff.1 moves
      exact sound.arrives sent found
  | acknowledges strand =>
      rw [Trails.step] at moves
      split at moves
      · rename_i item found
        split_ifs at moves with arrived
        cases moves
        exact sound.acknowledges found arrived
      · cases moves

/-- In every run every strand is held as far as it was acknowledged. -/
theorem sound_reached [DecidableEq Item] (events : List (DeliveryEvent Strand)) :
    trails.Sound (Transition.reached trails.step Delivery.blank events) := by
  have preserved : ∀ {state next : Delivery Strand Item} {event : DeliveryEvent Strand},
      trails.Sound state → True → trails.step state event = some next → trails.Sound next :=
    fun sound _ moves => sound.step moves
  exact (Transition.invariant_of_allowed preserved sound_blank fun _ _ => trivial).2

/-- A strand whose items were all acknowledged is held as it is. -/
theorem Sound.heldOf_eq
    (sound : trails.Sound state) {strand : Strand}
    (complete : state.acknowledged strand = (trails.trail strand).length) :
    heldOf strandOf key state.arrivals strand = trails.trail strand := by
  obtain ⟨count, least, -, held⟩ := sound.held strand
  rw [held, List.take_of_length_le (by omega)]

end Trails

end Snapl.Library
