import Mathlib.Data.List.Basic

/-!
# Upserting into a list of records

A request looks for the first record it hits.  It overwrites that record, or
appends a new one when there is none.  Overwriting leaves alone what the
requests look records up by, and the last of several writes wins; so once a
list of requests has been served, serving it again finds every record and
leaves each as it was.
-/

namespace Snapl.Library

universe u v

/-- What requests look for in a record and what they write to it. -/
structure Upserting (Record : Type u) (Request : Type v) where
  hits : Request → Record → Bool
  write : Request → Record → Record
  /-- Writing to a record does not change what else hits it. -/
  stable : ∀ {request other record}, hits other record = true →
    hits request (write other record) = hits request record
  /-- A write hides whatever the same request wrote before. -/
  absorbs : ∀ (request : Request) (others : List Request) (record : Record),
    write request (others.foldl (fun current other => write other current)
      (write request record)) =
    write request (others.foldl (fun current other => write other current) record)

namespace Upserting

variable {Record : Type u} {Request : Type v} (upserting : Upserting Record Request)

/-- Write the requests to one record in order. -/
def writeAll (requests : List Request) (record : Record) : Record :=
  requests.foldl (fun current request => upserting.write request current) record

/-- Write a request to the first record it hits. -/
def writeFirst (request : Request) : List Record → List Record
  | [] => []
  | record :: rest =>
      if upserting.hits request record then
        upserting.write request record :: rest
      else record :: writeFirst request rest

/-- Write every request to the first record it hits. -/
def replay (requests : List Request) (records : List Record) : List Record :=
  requests.foldl (fun current request => upserting.writeFirst request current) records

/-- Some record is hit by the request. -/
def Present (request : Request) (records : List Record) : Prop :=
  ∃ record ∈ records, upserting.hits request record = true

/--
Serving the requests in order turns the first list into the second.  A record
that is appended is one `made` for its request.
-/
inductive Serves (made : Request → Record → Prop) :
    List Request → List Record → List Record → Prop where
  | done (records : List Record) : Serves made [] records records
  | updated {request : Request} {requests : List Request} {before after : List Record}
      (present : upserting.Present request before)
      (rest : Serves made requests (upserting.writeFirst request before) after) :
      Serves made (request :: requests) before after
  | created {request : Request} {requests : List Request} {before after : List Record}
      {record : Record}
      (absent : ¬ upserting.Present request before)
      (new : made request record)
      (rest : Serves made requests (before ++ [record]) after) :
      Serves made (request :: requests) before after

variable {upserting}

@[simp]
theorem writeAll_nil (record : Record) : upserting.writeAll [] record = record := rfl

@[simp]
theorem writeAll_cons (request : Request) (requests : List Request) (record : Record) :
    upserting.writeAll (request :: requests) record =
      upserting.writeAll requests (upserting.write request record) := rfl

theorem writeAll_append (first second : List Request) (record : Record) :
    upserting.writeAll (first ++ second) record =
      upserting.writeAll second (upserting.writeAll first record) :=
  List.foldl_append

/-- A request that is still to come hides its own earlier write. -/
theorem writeAll_write_of_mem
    {request : Request} {requests : List Request} (member : request ∈ requests)
    (record : Record) :
    upserting.writeAll requests (upserting.write request record) =
      upserting.writeAll requests record := by
  obtain ⟨before, after, rfl⟩ := List.append_of_mem member
  rw [writeAll_append, writeAll_append, writeAll_cons, writeAll_cons]
  exact congrArg (upserting.writeAll after) (upserting.absorbs request before record)

theorem writeAll_writeAll_of_subset
    {earlier requests : List Request} (subset : earlier ⊆ requests) (record : Record) :
    upserting.writeAll requests (upserting.writeAll earlier record) =
      upserting.writeAll requests record := by
  induction earlier generalizing record with
  | nil => rfl
  | cons request rest induction =>
      obtain ⟨member, subset⟩ := List.cons_subset.1 subset
      rw [writeAll_cons, induction subset, writeAll_write_of_mem member]

/-- Writing a list of requests twice is writing it once. -/
theorem writeAll_writeAll (requests : List Request) (record : Record) :
    upserting.writeAll requests (upserting.writeAll requests record) =
      upserting.writeAll requests record :=
  writeAll_writeAll_of_subset (List.Subset.refl requests) record

/-- Requests that hit a record go on hitting it, and the others go on missing it. -/
theorem hits_writeAll
    {requests : List Request} {record : Record}
    (hitting : ∀ request ∈ requests, upserting.hits request record = true)
    (request : Request) :
    upserting.hits request (upserting.writeAll requests record) =
      upserting.hits request record := by
  induction requests generalizing record with
  | nil => rfl
  | cons first rest induction =>
      have firstHits := hitting first List.mem_cons_self
      rw [writeAll_cons, induction, upserting.stable firstHits]
      intro other member
      rw [upserting.stable firstHits]
      exact hitting other (List.mem_cons_of_mem first member)

theorem writeFirst_cons_of_hits
    {request : Request} {record : Record} (hit : upserting.hits request record = true)
    (rest : List Record) :
    upserting.writeFirst request (record :: rest) = upserting.write request record :: rest := by
  rw [writeFirst, if_pos hit]

theorem writeFirst_cons_of_misses
    {request : Request} {record : Record} (misses : upserting.hits request record = false)
    (rest : List Record) :
    upserting.writeFirst request (record :: rest) =
      record :: upserting.writeFirst request rest := by
  rw [writeFirst, if_neg (ne_true_of_eq_false misses)]

theorem present_cons (request : Request) (record : Record) (rest : List Record) :
    upserting.Present request (record :: rest) ↔
      upserting.hits request record = true ∨ upserting.Present request rest := by
  simp [Present]

theorem not_present_nil (request : Request) : ¬ upserting.Present request [] := by
  rintro ⟨record, member, -⟩
  exact absurd member List.not_mem_nil

theorem Present.append_left
    {request : Request} {before : List Record} (present : upserting.Present request before)
    (extra : List Record) : upserting.Present request (before ++ extra) := by
  obtain ⟨record, member, hit⟩ := present
  exact ⟨record, List.mem_append_left extra member, hit⟩

/-- Writing to a list changes no request's success. -/
theorem present_writeFirst (request other : Request) (records : List Record) :
    upserting.Present request (upserting.writeFirst other records) ↔
      upserting.Present request records := by
  induction records with
  | nil => rfl
  | cons record rest induction =>
      cases hit : upserting.hits other record with
      | true =>
          rw [writeFirst_cons_of_hits hit, present_cons, present_cons, upserting.stable hit]
      | false =>
          rw [writeFirst_cons_of_misses hit, present_cons, present_cons, induction]

theorem writeFirst_append_of_present
    {request : Request} {before : List Record} (present : upserting.Present request before)
    (extra : List Record) :
    upserting.writeFirst request (before ++ extra) =
      upserting.writeFirst request before ++ extra := by
  induction before with
  | nil => exact absurd present (not_present_nil request)
  | cons record rest induction =>
      rw [List.cons_append]
      cases hit : upserting.hits request record with
      | true =>
          rw [writeFirst_cons_of_hits hit, writeFirst_cons_of_hits hit, List.cons_append]
      | false =>
          have later : upserting.Present request rest := by
            apply ((present_cons request record rest).1 present).resolve_left
            rw [hit]
            exact Bool.false_ne_true
          rw [writeFirst_cons_of_misses hit, writeFirst_cons_of_misses hit, induction later,
            List.cons_append]

theorem writeFirst_append_of_absent
    {request : Request} {before : List Record} (absent : ¬ upserting.Present request before)
    {record : Record} (hit : upserting.hits request record = true) (extra : List Record) :
    upserting.writeFirst request (before ++ record :: extra) =
      before ++ upserting.write request record :: extra := by
  induction before with
  | nil => exact writeFirst_cons_of_hits hit extra
  | cons first rest induction =>
      rw [present_cons, not_or] at absent
      have misses : upserting.hits request first = false := Bool.eq_false_iff.2 absent.1
      rw [List.cons_append, writeFirst_cons_of_misses misses, induction absent.2,
        List.cons_append]

/-- Two requests that hit different records can be served in either order. -/
theorem writeFirst_comm_of_disjoint
    {first second : Request}
    (disjoint : ∀ record, upserting.hits first record = true →
      upserting.hits second record = false)
    (records : List Record) :
    upserting.writeFirst first (upserting.writeFirst second records) =
      upserting.writeFirst second (upserting.writeFirst first records) := by
  induction records with
  | nil => rfl
  | cons record rest induction =>
      cases hitFirst : upserting.hits first record with
      | true =>
          have misses := disjoint record hitFirst
          have still : upserting.hits second (upserting.write first record) = false := by
            rw [upserting.stable hitFirst]
            exact misses
          rw [writeFirst_cons_of_misses misses, writeFirst_cons_of_hits hitFirst,
            writeFirst_cons_of_hits hitFirst, writeFirst_cons_of_misses still]
      | false =>
          cases hitSecond : upserting.hits second record with
          | true =>
              have still : upserting.hits first (upserting.write second record) = false := by
                rw [upserting.stable hitSecond]
                exact hitFirst
              rw [writeFirst_cons_of_hits hitSecond, writeFirst_cons_of_misses still,
                writeFirst_cons_of_misses hitFirst, writeFirst_cons_of_hits hitSecond]
          | false =>
              rw [writeFirst_cons_of_misses hitSecond, writeFirst_cons_of_misses hitFirst,
                writeFirst_cons_of_misses hitFirst, writeFirst_cons_of_misses hitSecond,
                induction]

@[simp]
theorem replay_nil (records : List Record) : upserting.replay [] records = records := rfl

@[simp]
theorem replay_cons (request : Request) (requests : List Request) (records : List Record) :
    upserting.replay (request :: requests) records =
      upserting.replay requests (upserting.writeFirst request records) := rfl

theorem replay_append (first second : List Request) (records : List Record) :
    upserting.replay (first ++ second) records =
      upserting.replay second (upserting.replay first records) :=
  List.foldl_append

theorem replay_empty (requests : List Request) : upserting.replay requests [] = [] := by
  induction requests with
  | nil => rfl
  | cons request rest induction => exact induction

/-- The first record takes the requests that hit it; the rest take the others. -/
theorem replay_records (requests : List Request) (record : Record) (rest : List Record) :
    upserting.replay requests (record :: rest) =
      upserting.writeAll (requests.filter fun request => upserting.hits request record) record ::
        upserting.replay (requests.filter fun request => !upserting.hits request record) rest := by
  induction requests generalizing record rest with
  | nil => rfl
  | cons request requests induction =>
      cases hit : upserting.hits request record with
      | true =>
          have same : ∀ other, upserting.hits other (upserting.write request record) =
              upserting.hits other record := fun other => upserting.stable hit
          rw [replay_cons, writeFirst_cons_of_hits hit, induction,
            List.filter_cons_of_pos (by exact hit), List.filter_cons_of_neg (by simp [hit]),
            writeAll_cons]
          simp only [same]
      | false =>
          rw [replay_cons, writeFirst_cons_of_misses hit, induction,
            List.filter_cons_of_neg (by simp [hit]), List.filter_cons_of_pos (by simp [hit]),
            replay_cons]

/-- Replaying a list of requests twice is replaying it once. -/
theorem replay_replay (requests : List Request) (records : List Record) :
    upserting.replay requests (upserting.replay requests records) =
      upserting.replay requests records := by
  induction records generalizing requests with
  | nil => rw [replay_empty, replay_empty]
  | cons record rest induction =>
      rw [replay_records requests record rest, replay_records]
      have same : ∀ request,
          upserting.hits request (upserting.writeAll
            (requests.filter fun request => upserting.hits request record) record) =
          upserting.hits request record := by
        apply hits_writeAll
        intro request member
        exact (List.mem_filter.1 member).2
      simp only [same]
      rw [writeAll_writeAll, induction]

theorem present_replay (request : Request) (requests : List Request) (records : List Record) :
    upserting.Present request (upserting.replay requests records) ↔
      upserting.Present request records := by
  induction requests generalizing records with
  | nil => rfl
  | cons first rest induction => rw [replay_cons, induction, present_writeFirst]

/-- Requests that can be served in either order, two at a time, can be served in any order. -/
theorem replay_perm
    {requests others : List Request} (perm : requests.Perm others)
    (commute : ∀ first ∈ requests, ∀ second ∈ requests, ∀ records,
      upserting.writeFirst first (upserting.writeFirst second records) =
        upserting.writeFirst second (upserting.writeFirst first records))
    (records : List Record) :
    upserting.replay requests records = upserting.replay others records :=
  perm.foldl_eq' (fun first firstMember second secondMember current =>
    commute second secondMember first firstMember current) records

variable {made : Request → Record → Prop}

/-- Serving requests amounts to appending the new records and replaying the requests. -/
theorem Serves.exists_replay
    (hits : ∀ request record, made request record → upserting.hits request record = true)
    (fixed : ∀ request record, made request record → upserting.write request record = record)
    {requests : List Request} {before after : List Record}
    (serves : upserting.Serves made requests before after) :
    ∃ extra, after = upserting.replay requests (before ++ extra) := by
  induction serves with
  | done records => exact ⟨[], (List.append_nil records).symm⟩
  | @updated request requests before after present rest induction =>
      obtain ⟨extra, equal⟩ := induction
      refine ⟨extra, ?_⟩
      rw [replay_cons, writeFirst_append_of_present present]
      exact equal
  | @created request requests before after record absent new rest induction =>
      obtain ⟨extra, equal⟩ := induction
      refine ⟨record :: extra, ?_⟩
      rw [replay_cons, writeFirst_append_of_absent absent (hits request record new),
        fixed request record new, equal, List.append_assoc, List.singleton_append]

/-- What was found before is found after. -/
theorem Serves.keeps_present
    {requests : List Request} {before after : List Record}
    (serves : upserting.Serves made requests before after)
    {request : Request} (present : upserting.Present request before) :
    upserting.Present request after := by
  induction serves with
  | done records => exact present
  | updated found rest induction =>
      apply induction
      exact (present_writeFirst _ _ _).2 present
  | created absent new rest induction =>
      apply induction
      exact present.append_left _

/-- Once served, every request finds a record. -/
theorem Serves.present_of_mem
    (hits : ∀ request record, made request record → upserting.hits request record = true)
    {requests : List Request} {before after : List Record}
    (serves : upserting.Serves made requests before after) :
    ∀ request ∈ requests, upserting.Present request after := by
  induction serves with
  | done records =>
      intro request member
      exact absurd member List.not_mem_nil
  | @updated first requests before after present rest induction =>
      intro request member
      rcases List.mem_cons.1 member with rfl | member
      · apply rest.keeps_present
        exact (present_writeFirst _ _ _).2 present
      · exact induction request member
  | @created first requests before after record absent new rest induction =>
      intro request member
      rcases List.mem_cons.1 member with rfl | member
      · apply rest.keeps_present
        exact ⟨record, List.mem_append_right before (List.mem_singleton.2 rfl),
          hits request record new⟩
      · exact induction request member

/-- Replaying requests that have been served changes nothing. -/
theorem Serves.replay_eq
    (hits : ∀ request record, made request record → upserting.hits request record = true)
    (fixed : ∀ request record, made request record → upserting.write request record = record)
    {requests : List Request} {before after : List Record}
    (serves : upserting.Serves made requests before after) :
    upserting.replay requests after = after := by
  obtain ⟨extra, equal⟩ := serves.exists_replay hits fixed
  rw [equal, replay_replay]

theorem Serves.append
    {first second : List Request} {before middle after : List Record}
    (serves : upserting.Serves made first before middle)
    (rest : upserting.Serves made second middle after) :
    upserting.Serves made (first ++ second) before after := by
  induction serves with
  | done records => exact rest
  | updated present later induction => exact .updated present (induction rest)
  | created absent new later induction => exact .created absent new (induction rest)

end Upserting

end Snapl.Library
