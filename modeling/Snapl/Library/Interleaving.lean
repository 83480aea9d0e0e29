import Mathlib.Algebra.GroupWithZero.Nat
import Mathlib.Data.List.Forall2
import Mathlib.Data.List.Perm.Basic

/-!
# Interleaved coroutines

Coroutines share a world and have a local state each.  A coroutine that waits
is resumed up to its next wait; a schedule says which one is resumed next.
Resuming a coroutine that no longer waits does nothing.  The interleaving ends
early once some coroutine has raised.

What every step keeps holds after every schedule.  A coroutine that is resumed
as often as its rank allows no longer waits.  Gathering the coroutines gives
what all of them returned, or what one of them raised.
-/

namespace Snapl.Library

/-- Where a coroutine stands. -/
inductive Status (Failure Output : Type) where
  | waiting
  | returned (output : Output)
  | raised (failure : Failure)

/-- How coroutines of one kind behave. -/
structure Coroutines (World Local Failure Output : Type) where
  status : Local → Status Failure Output
  resume : World → Local → World × Local

namespace Coroutines

variable {World Local Failure Output Item : Type}
variable (coroutines : Coroutines World Local Failure Output)

/-- The coroutine waits for something. -/
def waits (current : Local) : Bool :=
  match coroutines.status current with
  | .waiting => true
  | _ => false

/-- The coroutine has raised, which ends the interleaving. -/
def stops (current : Local) : Bool :=
  match coroutines.status current with
  | .raised _ => true
  | _ => false

/-- What a coroutine returned. -/
def returned? (current : Local) : Option Output :=
  match coroutines.status current with
  | .returned output => some output
  | _ => none

/-- What a coroutine raised. -/
def raised? (current : Local) : Option Failure :=
  match coroutines.status current with
  | .raised failure => some failure
  | _ => none

/-- Resume one coroutine, if it waits. -/
def step (state : World × List Local) (index : Nat) : World × List Local :=
  match state.2[index]? with
  | some current =>
      if coroutines.waits current then
        ((coroutines.resume state.1 current).1,
          state.2.set index (coroutines.resume state.1 current).2)
      else state
  | none => state

/-- Resume one coroutine unless the interleaving has ended. -/
def stepUnlessStopped (state : World × List Local) (index : Nat) :
    World × List Local :=
  if state.2.any coroutines.stops then state else coroutines.step state index

/-- The state a schedule leads to. -/
def interleave (state : World × List Local) (schedule : List Nat) :
    World × List Local :=
  schedule.foldl coroutines.stepUnlessStopped state

@[simp]
theorem interleave_nil (state : World × List Local) :
    coroutines.interleave state [] = state := rfl

@[simp]
theorem interleave_cons
    (state : World × List Local) (index : Nat) (schedule : List Nat) :
    coroutines.interleave state (index :: schedule) =
      coroutines.interleave (coroutines.stepUnlessStopped state index) schedule := rfl

theorem interleave_append
    (state : World × List Local) (first second : List Nat) :
    coroutines.interleave state (first ++ second) =
      coroutines.interleave (coroutines.interleave state first) second :=
  List.foldl_append

/-! ## Invariants -/

/-- A step does nothing, or resumes a waiting coroutine of a running interleaving. -/
theorem stepUnlessStopped_cases
    (state : World × List Local) (index : Nat) :
    coroutines.stepUnlessStopped state index = state ∨
      ∃ current, state.2[index]? = some current ∧
        coroutines.waits current = true ∧
        (∀ other ∈ state.2, coroutines.stops other = false) ∧
        coroutines.stepUnlessStopped state index =
          ((coroutines.resume state.1 current).1,
            state.2.set index (coroutines.resume state.1 current).2) := by
  rw [stepUnlessStopped]
  by_cases stopped : state.2.any coroutines.stops = true
  · exact Or.inl (if_pos stopped)
  · rw [if_neg stopped, step]
    rcases found : state.2[index]? with _ | current
    · exact Or.inl rfl
    · by_cases waiting : coroutines.waits current = true
      · refine Or.inr ⟨current, rfl, waiting, ?_, if_pos waiting⟩
        simpa using stopped
      · exact Or.inl (if_neg waiting)

/-- What every resumption keeps holds after every schedule. -/
theorem interleave_invariant
    {motive : World × List Local → Prop}
    (kept : ∀ world locals index current,
      motive (world, locals) → locals[index]? = some current →
      coroutines.waits current = true →
      (∀ other ∈ locals, coroutines.stops other = false) →
      motive ((coroutines.resume world current).1,
        locals.set index (coroutines.resume world current).2))
    (schedule : List Nat) (state : World × List Local) (start : motive state) :
    motive (coroutines.interleave state schedule) := by
  induction schedule generalizing state with
  | nil => exact start
  | cons index rest induction =>
      apply induction
      rcases coroutines.stepUnlessStopped_cases state index with
        unchanged | ⟨current, found, waiting, running, resumed⟩
      · rw [unchanged]
        exact start
      · rw [resumed]
        exact kept state.1 state.2 index current start found waiting running

/-- A relation of each local to its item, kept whatever the world is. -/
theorem interleave_related
    {related : Item → Local → Prop} {items : List Item}
    (kept : ∀ world item current, related item current →
      coroutines.waits current = true →
      related item (coroutines.resume world current).2)
    (schedule : List Nat) (state : World × List Local)
    (start : List.Forall₂ related items state.2) :
    List.Forall₂ related items (coroutines.interleave state schedule).2 := by
  refine coroutines.interleave_invariant
    (motive := fun state => List.Forall₂ related items state.2) ?_ schedule state start
  intro world locals index current holds found waiting _
  rw [List.forall₂_iff_get] at holds ⊢
  obtain ⟨sameLength, pointwise⟩ := holds
  obtain ⟨bound, equal⟩ := List.getElem?_eq_some_iff.1 found
  refine ⟨by simpa using sameLength, ?_⟩
  intro position itemBound localBound
  simp only [List.get_eq_getElem, List.getElem_set]
  split_ifs with same
  · subst same
    refine kept world _ current ?_ waiting
    have before := pointwise index itemBound bound
    rwa [List.get_eq_getElem, List.get_eq_getElem, equal] at before
  · exact pointwise position itemBound (by simpa using localBound)

@[simp]
theorem length_interleave (state : World × List Local) (schedule : List Nat) :
    (coroutines.interleave state schedule).2.length = state.2.length := by
  refine coroutines.interleave_invariant
    (motive := fun after => after.2.length = state.2.length) ?_ schedule state rfl
  intro world locals index current sameLength _ _ _
  simpa using sameLength

/-- One schedule keeps two runs related whatever their worlds are. -/
theorem interleave_bisimilar
    {related : Local → Local → Prop}
    (status : ∀ first second, related first second →
      coroutines.waits first = coroutines.waits second ∧
        coroutines.stops first = coroutines.stops second)
    (kept : ∀ world other first second, related first second →
      related (coroutines.resume world first).2 (coroutines.resume other second).2)
    (schedule : List Nat) (state other : World × List Local)
    (start : List.Forall₂ related state.2 other.2) :
    List.Forall₂ related (coroutines.interleave state schedule).2
      (coroutines.interleave other schedule).2 := by
  induction schedule generalizing state other with
  | nil => exact start
  | cons index rest induction =>
      apply induction
      have sameStops : state.2.any coroutines.stops = other.2.any coroutines.stops := by
        generalize state.2 = left at start
        generalize other.2 = right at start
        induction start with
        | nil => rfl
        | cons head tail same => simp only [List.any_cons, (status _ _ head).2, same]
      rw [stepUnlessStopped, stepUnlessStopped, sameStops]
      split_ifs
      · exact start
      · obtain ⟨sameLength, pointwise⟩ := List.forall₂_iff_get.1 start
        rw [step, step]
        rcases found : state.2[index]? with _ | first
        · have absent : other.2[index]? = none := by
            rw [List.getElem?_eq_none_iff] at found ⊢
            omega
          rw [absent]
          exact start
        · obtain ⟨bound, equal⟩ := List.getElem?_eq_some_iff.1 found
          have otherBound : index < other.2.length := by omega
          have both := pointwise index bound otherBound
          simp only [List.get_eq_getElem, equal] at both
          rw [List.getElem?_eq_getElem otherBound]
          simp only [← (status _ _ both).1]
          split_ifs
          · rw [List.forall₂_iff_get]
            refine ⟨by simpa using sameLength, ?_⟩
            intro position firstBound secondBound
            simp only [List.get_eq_getElem, List.getElem_set]
            split_ifs
            · exact kept _ _ _ _ both
            · exact pointwise position (by simpa using firstBound) (by simpa using secondBound)
          · exact start

/-! ## Progress -/

/-- The schedule that resumes each of `count` coroutines `times` times. -/
def rounds (count times : Nat) : List Nat :=
  (List.range count).flatMap fun index => List.replicate times index

/-- Whether the interleaving has ended or a coroutine waits no more. -/
def Settled (state : World × List Local) (index : Nat) : Prop :=
  state.2.any coroutines.stops = true ∨
    ∀ current, state.2[index]? = some current → coroutines.waits current = false

section Progress

variable {coroutines} {rank : Local → Nat}

/-- A settled coroutine stays settled. -/
theorem Settled.step
    {state : World × List Local} {index : Nat}
    (settled : coroutines.Settled state index) (other : Nat) :
    coroutines.Settled (coroutines.stepUnlessStopped state other) index := by
  rcases coroutines.stepUnlessStopped_cases state other with
    unchanged | ⟨current, found, waiting, running, resumed⟩
  · rwa [unchanged]
  · rcases settled with stopped | waitsNot
    · obtain ⟨local', member, stops⟩ := List.any_eq_true.1 stopped
      rw [running local' member] at stops
      cases stops
    · right
      rw [resumed]
      intro now foundNow
      by_cases same : other = index
      · subst same
        rw [waitsNot current found] at waiting
        cases waiting
      · rw [List.getElem?_set_ne same] at foundNow
        exact waitsNot now foundNow

theorem Settled.interleave
    {state : World × List Local} {index : Nat}
    (settled : coroutines.Settled state index) (schedule : List Nat) :
    coroutines.Settled (coroutines.interleave state schedule) index := by
  induction schedule generalizing state with
  | nil => exact settled
  | cons other rest induction => exact induction (settled.step other)

/-- Resumed as often as its rank, a coroutine is settled. -/
theorem settled_replicate
    (decreases : ∀ world current, coroutines.waits current = true →
      rank (coroutines.resume world current).2 < rank current)
    (index times : Nat) (state : World × List Local)
    (enough : ∀ current, state.2[index]? = some current → rank current ≤ times) :
    coroutines.Settled
      (coroutines.interleave state (List.replicate times index)) index := by
  induction times generalizing state with
  | zero =>
      refine Or.inr fun current found => ?_
      have none : rank current = 0 := Nat.le_zero.1 (enough current found)
      rcases waiting : coroutines.waits current with _ | _
      · rfl
      · have smaller := decreases state.1 current waiting
        omega
  | succ times induction =>
      rw [List.replicate_succ, interleave_cons]
      rcases coroutines.stepUnlessStopped_cases state index with
        unchanged | ⟨current, found, waiting, running, resumed⟩
      · have settled : coroutines.Settled state index := by
          by_cases stopped : state.2.any coroutines.stops = true
          · exact Or.inl stopped
          · refine Or.inr fun current found => ?_
            rcases waiting : coroutines.waits current with _ | _
            · rfl
            · obtain ⟨bound, equal⟩ := List.getElem?_eq_some_iff.1 found
              rw [stepUnlessStopped, if_neg stopped, Coroutines.step, found] at unchanged
              simp only [waiting, if_true] at unchanged
              have sameLocals := congrArg Prod.snd unchanged
              have same : (coroutines.resume state.1 current).2 = current := by
                have foundAfter :
                    (state.2.set index (coroutines.resume state.1 current).2)[index]? =
                      some (coroutines.resume state.1 current).2 := by
                  simp [bound]
                rw [show state.2.set index _ = state.2 from sameLocals, found] at foundAfter
                exact (Option.some.inj foundAfter).symm
              have smaller := decreases state.1 current waiting
              rw [same] at smaller
              omega
        rw [unchanged]
        exact settled.interleave _
      · rw [resumed]
        apply induction
        intro now foundNow
        obtain ⟨bound, -⟩ := List.getElem?_eq_some_iff.1 found
        have equal : now = (coroutines.resume state.1 current).2 := by
          simpa [bound] using foundNow.symm
        have smaller := decreases state.1 current waiting
        have atMost := enough current found
        rw [equal]
        omega

variable (coroutines) in
/-- After enough rounds the interleaving has ended or nothing waits. -/
theorem settled_rounds
    (decreases : ∀ world current, coroutines.waits current = true →
      rank (coroutines.resume world current).2 < rank current)
    {times : Nat} (bounded : ∀ current, rank current ≤ times)
    (state : World × List Local) :
    (coroutines.interleave state (rounds state.2.length times)).2.any
        coroutines.stops = true ∨
      ∀ current ∈ (coroutines.interleave state (rounds state.2.length times)).2,
        coroutines.waits current = false := by
  have settled : ∀ count, ∀ index < count, coroutines.Settled
      (coroutines.interleave state (rounds count times)) index := by
    intro count
    induction count with
    | zero =>
        intro index smaller
        omega
    | succ count induction =>
        intro index smaller
        have split : rounds (count + 1) times =
            rounds count times ++ List.replicate times count := by
          simp [rounds, List.range_succ]
        rw [split, interleave_append]
        rcases Nat.lt_succ_iff_lt_or_eq.1 smaller with earlier | rfl
        · exact (induction index earlier).interleave _
        · exact settled_replicate decreases _ _ _ fun current _ => bounded current
  by_cases stopped : (coroutines.interleave state
      (rounds state.2.length times)).2.any coroutines.stops = true
  · exact Or.inl stopped
  · refine Or.inr fun current member => ?_
    obtain ⟨index, bound, equal⟩ := List.mem_iff_getElem.1 member
    rcases settled state.2.length index (by simpa using bound) with ended | waitsNot
    · exact absurd ended stopped
    · exact waitsNot current (List.getElem?_eq_some_iff.2 ⟨bound, equal⟩)

/-- Changing one local changes the sum of the ranks by as much. -/
theorem sum_rank_set
    (rank : Local → Nat) {locals : List Local} {index : Nat} {before : Local}
    (found : locals[index]? = some before) (after : Local) :
    ((locals.set index after).map rank).sum + rank before =
      (locals.map rank).sum + rank after := by
  induction locals generalizing index with
  | nil => cases found
  | cons first rest induction =>
      cases index with
      | zero =>
          obtain rfl : first = before := Option.some.inj found
          rw [List.set_cons_zero, List.map_cons, List.map_cons, List.sum_cons, List.sum_cons]
          omega
      | succ index =>
          have later := induction (show rest[index]? = some before from found)
          rw [List.set_cons_succ, List.map_cons, List.map_cons, List.sum_cons, List.sum_cons]
          omega

section Ending

variable {motive : World × List Local → Prop}
  (kept : ∀ world locals index current,
    motive (world, locals) → locals[index]? = some current →
    coroutines.waits current = true →
    motive ((coroutines.resume world current).1,
      locals.set index (coroutines.resume world current).2))
  (unstopped : ∀ current, coroutines.stops current = false)
  (progress : ∀ (world : World) (locals : List Local), motive (world, locals) →
    (∃ current ∈ locals, coroutines.waits current = true) →
    ∃ (index : Nat) (current : Local), locals[index]? = some current ∧
      coroutines.waits current = true ∧
      rank (coroutines.resume world current).2 < rank current)

include kept unstopped progress

/--
Coroutines of which some waiting one can always be brought further end after
some schedule.
-/
theorem exists_ended
    (state : World × List Local) (start : motive state) :
    ∃ schedule, ∀ current ∈ (coroutines.interleave state schedule).2,
      coroutines.waits current = false := by
  induction same : (state.2.map rank).sum using Nat.strongRecOn generalizing state with
  | _ size induction =>
      obtain ⟨world, locals⟩ := state
      by_cases waiting : ∃ current ∈ locals, coroutines.waits current = true
      · obtain ⟨index, current, found, waits, further⟩ := progress world locals start waiting
        have resumed : coroutines.stepUnlessStopped (world, locals) index =
            ((coroutines.resume world current).1,
              locals.set index (coroutines.resume world current).2) := by
          have running : ¬locals.any coroutines.stops = true := by
            rw [List.any_eq_true]
            rintro ⟨other, -, stops⟩
            rw [unstopped other] at stops
            cases stops
          rw [stepUnlessStopped, if_neg running, step]
          change (match locals[index]? with | some _ => _ | none => _) = _
          rw [found]
          exact if_pos waits
        have sum := sum_rank_set rank found (coroutines.resume world current).2
        have smaller : ((locals.set index (coroutines.resume world current).2).map rank).sum <
            size := by
          rw [← same]
          change _ < (locals.map rank).sum
          omega
        obtain ⟨schedule, ended⟩ := induction _ smaller
          ((coroutines.resume world current).1,
            locals.set index (coroutines.resume world current).2)
          (kept world locals index current start found waits) rfl
        refine ⟨index :: schedule, ?_⟩
        rw [interleave_cons, resumed]
        exact ended
      · refine ⟨[], ?_⟩
        intro current member
        rcases waits : coroutines.waits current with _ | _
        · rfl
        · exact absurd ⟨current, member, waits⟩ waiting

/-- Whatever was resumed before, they end after some more resumptions. -/
theorem exists_ended_after
    (state : World × List Local) (start : motive state) (schedule : List Nat) :
    ∃ more, ∀ current ∈ (coroutines.interleave state (schedule ++ more)).2,
      coroutines.waits current = false := by
  have reached : motive (coroutines.interleave state schedule) :=
    coroutines.interleave_invariant
      (fun world locals index current holds found waits _ =>
        kept world locals index current holds found waits) schedule state start
  obtain ⟨more, ended⟩ := exists_ended kept unstopped progress _ reached
  refine ⟨more, ?_⟩
  rw [interleave_append]
  exact ended

end Ending

end Progress

/-! ## Gathering -/

/-- Some coroutine waits, and none has raised. -/
def Pending (locals : List Local) : Prop :=
  locals.any coroutines.stops = false ∧ locals.any coroutines.waits = true

instance (coroutines : Coroutines World Local Failure Output) (locals : List Local) :
    Decidable (coroutines.Pending locals) :=
  inferInstanceAs (Decidable (_ ∧ _))

/-- Coroutines that do not raise are pending exactly while one of them waits. -/
theorem not_pending_iff
    {locals : List Local} (unstopped : ∀ current, coroutines.stops current = false) :
    ¬coroutines.Pending locals ↔ ∀ current ∈ locals, coroutines.waits current = false := by
  have running : locals.any coroutines.stops = false :=
    List.any_eq_false.2 fun current _ => by
      rw [unstopped current]
      exact Bool.false_ne_true
  rw [Pending, and_iff_right running, Bool.not_eq_true, List.any_eq_false]
  simp only [Bool.not_eq_true]

/-- What a set of coroutines raised, or else returned. -/
def gathered (locals : List Local) : Except Failure (List Output) :=
  match locals.findSome? coroutines.raised? with
  | some failure => .error failure
  | none => .ok (locals.filterMap coroutines.returned?)

section Gathered

variable {coroutines} {rank : Local → Nat}

theorem status_of_raised?
    {current : Local} {failure : Failure}
    (raised : coroutines.raised? current = some failure) :
    coroutines.status current = .raised failure := by
  rw [raised?] at raised
  split at raised
  · rename_i status
    cases raised
    exact status
  · cases raised

theorem status_of_settled
    {current : Local} (waitsNot : coroutines.waits current = false)
    (unraised : coroutines.raised? current = none) :
    ∃ output, coroutines.status current = .returned output := by
  rw [waits] at waitsNot
  rw [raised?] at unraised
  rcases status : coroutines.status current with _ | output | failure
  · rw [status] at waitsNot
    cases waitsNot
  · exact ⟨output, rfl⟩
  · rw [status] at unraised
    cases unraised

/-- Coroutines of which none waits have raised, or have all returned. -/
theorem gathered_of_settled
    {locals : List Local}
    (waitsNot : ∀ current ∈ locals, coroutines.waits current = false) :
    (∃ current ∈ locals, ∃ failure, coroutines.status current = .raised failure ∧
      coroutines.gathered locals = .error failure) ∨
    ∃ outputs, coroutines.gathered locals = .ok outputs ∧
      List.Forall₂ (fun current output => coroutines.status current = .returned output)
        locals outputs := by
  rcases found : locals.findSome? coroutines.raised? with _ | failure
  · refine Or.inr ⟨locals.filterMap coroutines.returned?, by rw [gathered, found], ?_⟩
    rw [List.findSome?_eq_none_iff] at found
    induction locals with
    | nil => exact List.Forall₂.nil
    | cons current rest induction =>
        obtain ⟨output, status⟩ :=
          status_of_settled (waitsNot current (by simp)) (found current (by simp))
        rw [List.filterMap_cons, show coroutines.returned? current = some output by
          rw [returned?, status]]
        exact List.Forall₂.cons status
          (induction (fun other member => waitsNot other (by simp [member]))
            fun other member => found other (by simp [member]))
  · obtain ⟨current, member, raised⟩ := List.exists_of_findSome?_eq_some found
    exact Or.inl ⟨current, member, failure, status_of_raised? raised, by
      rw [gathered, found]⟩

theorem gathered_of_stopped
    {locals : List Local} (stopped : locals.any coroutines.stops = true) :
    ∃ current ∈ locals, ∃ failure, coroutines.status current = .raised failure ∧
      coroutines.gathered locals = .error failure := by
  obtain ⟨raising, member, stops⟩ := List.any_eq_true.1 stopped
  rcases found : locals.findSome? coroutines.raised? with _ | failure
  · have none := List.findSome?_eq_none_iff.1 found raising member
    rw [Coroutines.stops] at stops
    rw [raised?] at none
    rcases status : coroutines.status raising with _ | output | failure
    · rw [status] at stops
      cases stops
    · rw [status] at stops
      cases stops
    · rw [status] at none
      cases none
  · obtain ⟨current, member, raised⟩ := List.exists_of_findSome?_eq_some found
    exact ⟨current, member, failure, status_of_raised? raised, by rw [gathered, found]⟩

variable (coroutines) in
/-- After enough rounds the coroutines have raised, or have all returned. -/
theorem gathered_rounds
    (decreases : ∀ world current, coroutines.waits current = true →
      rank (coroutines.resume world current).2 < rank current)
    {times : Nat} (bounded : ∀ current, rank current ≤ times)
    (state : World × List Local) :
    let ended := (coroutines.interleave state (rounds state.2.length times)).2
    (∃ current ∈ ended, ∃ failure, coroutines.status current = .raised failure ∧
      coroutines.gathered ended = .error failure) ∨
    ∃ outputs, coroutines.gathered ended = .ok outputs ∧
      List.Forall₂ (fun current output => coroutines.status current = .returned output)
        ended outputs := by
  rcases coroutines.settled_rounds decreases bounded state with stopped | waitsNot
  · exact Or.inl (gathered_of_stopped stopped)
  · exact gathered_of_settled waitsNot

/-- Coroutines that return what their items say are gathered in the order of the items. -/
theorem gathered_of_returned
    {items : List Item} {locals : List Local} {final : Item → Output}
    (returned : List.Forall₂
      (fun item current => coroutines.status current = .returned (final item)) items locals) :
    coroutines.gathered locals = .ok (items.map final) := by
  have unraised : locals.findSome? coroutines.raised? = none := by
    induction returned with
    | nil => rfl
    | cons head _ induction =>
        rw [List.findSome?_cons, raised?, head]
        exact induction
  rw [gathered, unraised]
  clear unraised
  induction returned with
  | nil => rfl
  | @cons item current items locals head _ induction =>
      have gives : coroutines.returned? current = some (final item) := by
        rw [returned?, head]
      have rest := Except.ok.inj induction
      rw [List.filterMap_cons_some gives, List.map_cons, rest]

/-- Whatever the schedule, coroutines that have all ended give what their items say. -/
theorem gathered_interleave
    {related : Item → Local → Prop} {items : List Item} {final : Item → Output}
    (kept : ∀ world item current, related item current → coroutines.waits current = true →
      related item (coroutines.resume world current).2)
    (returns : ∀ item current, related item current → coroutines.waits current = false →
      coroutines.status current = .returned (final item))
    {state : World × List Local} (start : List.Forall₂ related items state.2)
    {schedule : List Nat}
    (ended : ∀ current ∈ (coroutines.interleave state schedule).2,
      coroutines.waits current = false) :
    coroutines.gathered (coroutines.interleave state schedule).2 = .ok (items.map final) := by
  have holds := coroutines.interleave_related kept schedule state start
  clear start
  apply gathered_of_returned
  generalize (coroutines.interleave state schedule).2 = locals at holds ended
  induction holds with
  | nil => exact .nil
  | cons head _ induction =>
      apply List.Forall₂.cons
      · exact returns _ _ head (ended _ List.mem_cons_self)
      · exact induction fun other member => ended other (List.mem_cons_of_mem _ member)

/-- Related coroutines are pending together. -/
theorem pending_congr
    {related : Local → Local → Prop}
    (status : ∀ first second, related first second →
      coroutines.waits first = coroutines.waits second ∧
        coroutines.stops first = coroutines.stops second)
    {locals others : List Local} (same : List.Forall₂ related locals others) :
    coroutines.Pending locals ↔ coroutines.Pending others := by
  have any : locals.any coroutines.waits = others.any coroutines.waits ∧
      locals.any coroutines.stops = others.any coroutines.stops := by
    induction same with
    | nil => exact ⟨rfl, rfl⟩
    | cons head _ induction =>
        simp only [List.any_cons, (status _ _ head).1, (status _ _ head).2, induction.1,
          induction.2, and_self]
  rw [Pending, Pending, any.1, any.2]

end Gathered

end Coroutines

/-- One more output, at the place of the coroutine that gave it. -/
theorem filterMap_set_perm
    {Local Output : Type} (output : Local → Option Output)
    {locals : List Local} {index : Nat} {before after : Local}
    (found : locals[index]? = some before) (silent : output before = none) :
    ((locals.set index after).filterMap output).Perm
      (locals.filterMap output ++ (output after).toList) := by
  induction locals generalizing index with
  | nil => simp at found
  | cons first rest induction =>
      cases index with
      | zero =>
          have equal : first = before := by simpa using found
          rw [List.set_cons_zero, List.filterMap_cons, List.filterMap_cons, equal, silent]
          rcases output after with _ | given
          · simp
          · simpa using (List.perm_append_singleton given (rest.filterMap output)).symm
      | succ index =>
          have step := induction (show rest[index]? = some before by simpa using found)
          rw [List.set_cons_succ, List.filterMap_cons, List.filterMap_cons]
          rcases output first with _ | given
          · exact step
          · exact step.cons given

end Snapl.Library
