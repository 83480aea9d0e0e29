import Mathlib.Data.List.Nodup
import Snapl.Library.Upsert

/-!
# Where upserts land

Records that carry identities of their own keep them through every write.  A
served list of requests then leaves each old record with the writes of the
requests that found it first, and each new record with the writes of the
requests that look for the same.
-/

namespace Snapl.Library

namespace Upserting

universe u v w

variable {Record : Type u} {Request : Type v} {Id : Type w} [DecidableEq Id]
  (upserting : Upserting Record Request) (identify : Record → Id)

/-- The requests whose first hit is the record of an identity. -/
def aimedAt (records : List Record) (id : Id) (requests : List Request) : List Request :=
  requests.filter fun request =>
    decide ((records.find? (upserting.hits request)).map identify = some id)

variable {upserting identify}

/-- Requests only ever touch the first record they hit. -/
theorem replay_eq_map
    (requests : List Request) {records : List Record}
    (distinct : (records.map identify).Nodup) :
    upserting.replay requests records = records.map fun record =>
      upserting.writeAll (upserting.aimedAt identify records (identify record) requests)
        record := by
  induction records generalizing requests with
  | nil => exact replay_empty requests
  | cons record rest induction =>
      rw [List.map_cons, List.nodup_cons] at distinct
      have own : upserting.aimedAt identify (record :: rest) (identify record) requests =
          requests.filter fun request => upserting.hits request record := by
        apply List.filter_congr
        intro request _
        cases hit : upserting.hits request record with
        | true =>
            rw [List.find?_cons_of_pos hit]
            simp
        | false =>
            rw [List.find?_cons_of_neg (ne_true_of_eq_false hit)]
            apply decide_eq_false
            intro same
            obtain ⟨found, isFound, sameId⟩ := Option.map_eq_some_iff.1 same
            apply distinct.1
            rw [← sameId]
            exact List.mem_map_of_mem (List.mem_of_find?_eq_some isFound)
      have others : ∀ other ∈ rest,
          upserting.aimedAt identify rest (identify other)
            (requests.filter fun request => !upserting.hits request record) =
          upserting.aimedAt identify (record :: rest) (identify other) requests := by
        intro other member
        rw [aimedAt, aimedAt, List.filter_filter]
        apply List.filter_congr
        intro request _
        cases hit : upserting.hits request record with
        | true =>
            have different : identify record ≠ identify other := by
              intro same
              apply distinct.1
              rw [same]
              exact List.mem_map_of_mem member
            rw [List.find?_cons_of_pos hit]
            simp [different]
        | false =>
            rw [List.find?_cons_of_neg (ne_true_of_eq_false hit)]
            simp
      rw [replay_records, List.map_cons, own, induction _ distinct.2]
      congr 1
      apply List.map_congr_left
      intro other member
      rw [others other member]

/-- A record that takes requests which hit it is found by the same requests as before. -/
theorem find?_map_writeAll
    (request : Request) {records : List Record} (portion : Record → List Request)
    (hitting : ∀ record ∈ records, ∀ other ∈ portion record, upserting.hits other record = true) :
    (records.map fun record => upserting.writeAll (portion record) record).find?
        (upserting.hits request) =
      (records.find? (upserting.hits request)).map fun record =>
        upserting.writeAll (portion record) record := by
  induction records with
  | nil => rfl
  | cons record rest induction =>
      have same : upserting.hits request (upserting.writeAll (portion record) record) =
          upserting.hits request record :=
        hits_writeAll (hitting record List.mem_cons_self) request
      have later := induction fun other member =>
        hitting other (List.mem_cons_of_mem record member)
      rw [List.map_cons, List.find?_cons, List.find?_cons, same]
      cases upserting.hits request record with
      | true => rfl
      | false => exact later

theorem hits_of_mem_aimedAt
    {records : List Record} (distinct : (records.map identify).Nodup) {record : Record}
    (member : record ∈ records) {requests : List Request} {request : Request}
    (aimed : request ∈ upserting.aimedAt identify records (identify record) requests) :
    upserting.hits request record = true := by
  obtain ⟨-, isAimed⟩ := List.mem_filter.1 aimed
  obtain ⟨found, isFound, sameId⟩ := Option.map_eq_some_iff.1 (of_decide_eq_true isAimed)
  have same : found = record :=
    List.inj_on_of_nodup_map distinct (List.mem_of_find?_eq_some isFound) member sameId
  rw [← same]
  exact List.find?_some isFound

variable {made : Request → Record → Prop}

omit [DecidableEq Id] in
theorem identify_writeAll
    (keeps : ∀ request record, identify (upserting.write request record) = identify record)
    (requests : List Request) (record : Record) :
    identify (upserting.writeAll requests record) = identify record := by
  induction requests generalizing record with
  | nil => rfl
  | cons first rest induction => rw [writeAll_cons, induction, keeps]

omit [DecidableEq Id] in
/-- Writes leave the identities of a list alone. -/
theorem map_identify_replay
    (keeps : ∀ request record, identify (upserting.write request record) = identify record)
    (requests : List Request) (records : List Record) :
    (upserting.replay requests records).map identify = records.map identify := by
  have once : ∀ request (records : List Record),
      (upserting.writeFirst request records).map identify = records.map identify := by
    intro request records
    induction records with
    | nil => rfl
    | cons record rest induction =>
        rw [writeFirst]
        split_ifs
        · rw [List.map_cons, List.map_cons, keeps]
        · rw [List.map_cons, List.map_cons, induction]
  induction requests generalizing records with
  | nil => rfl
  | cons request rest induction => rw [replay_cons, induction, once]

omit [DecidableEq Id] in
/-- Identities that are distinct after serving were distinct before. -/
theorem Serves.distinct_before
    (keeps : ∀ request record, identify (upserting.write request record) = identify record)
    (hits : ∀ request record, made request record → upserting.hits request record = true)
    (fixed : ∀ request record, made request record → upserting.write request record = record)
    {requests : List Request} {before after : List Record}
    (serves : upserting.Serves made requests before after)
    (distinct : (after.map identify).Nodup) : (before.map identify).Nodup := by
  obtain ⟨added, equal⟩ := serves.exists_replay hits fixed
  rw [equal, map_identify_replay keeps, List.map_append] at distinct
  exact distinct.of_append_left

/--
Serving requests leaves every old record in its place with the writes that were
aimed at it, and puts the new ones behind.
-/
theorem Serves.eq_map_append
    (keeps : ∀ request record, identify (upserting.write request record) = identify record)
    (hits : ∀ request record, made request record → upserting.hits request record = true)
    (fixed : ∀ request record, made request record → upserting.write request record = record)
    {requests : List Request} {before after : List Record}
    (serves : upserting.Serves made requests before after)
    (distinct : (after.map identify).Nodup) :
    ∃ extra, after = (before.map fun record =>
      upserting.writeAll (upserting.aimedAt identify before (identify record) requests)
        record) ++ extra := by
  obtain ⟨added, equal⟩ := serves.exists_replay hits fixed
  have distinctAll : ((before ++ added).map identify).Nodup := by
    rw [equal, map_identify_replay keeps] at distinct
    exact distinct
  have aimed : ∀ record ∈ before,
      upserting.aimedAt identify (before ++ added) (identify record) requests =
        upserting.aimedAt identify before (identify record) requests := by
    intro record member
    apply List.filter_congr
    intro request _
    rw [List.find?_append]
    rcases found : before.find? (upserting.hits request) with _ | first
    · have absent : (added.find? (upserting.hits request)).map identify ≠
          some (identify record) := by
        intro same
        obtain ⟨other, isFound, sameId⟩ := Option.map_eq_some_iff.1 same
        rw [List.map_append, List.nodup_append] at distinctAll
        exact distinctAll.2.2 (identify record) (List.mem_map_of_mem member) (identify other)
          (List.mem_map_of_mem (List.mem_of_find?_eq_some isFound)) sameId.symm
      rw [Option.none_or]
      simp [absent]
    · rfl
  refine ⟨added.map fun record => upserting.writeAll
    (upserting.aimedAt identify (before ++ added) (identify record) requests) record, ?_⟩
  rw [equal, replay_eq_map requests distinctAll, List.map_append]
  congr 1
  apply List.map_congr_left
  intro record member
  rw [aimed record member]

/-- A record found before is found after, with the writes that were aimed at it. -/
theorem Serves.find?_of_present
    (keeps : ∀ request record, identify (upserting.write request record) = identify record)
    (hits : ∀ request record, made request record → upserting.hits request record = true)
    (fixed : ∀ request record, made request record → upserting.write request record = record)
    {requests : List Request} {before after : List Record}
    (serves : upserting.Serves made requests before after)
    (distinct : (after.map identify).Nodup) {request : Request} {record : Record}
    (found : before.find? (upserting.hits request) = some record) :
    after.find? (upserting.hits request) = some (upserting.writeAll
      (upserting.aimedAt identify before (identify record) requests) record) := by
  obtain ⟨extra, equal⟩ := serves.eq_map_append keeps hits fixed distinct
  have distinctBefore := serves.distinct_before keeps hits fixed distinct
  rw [equal, List.find?_append, find?_map_writeAll, found]
  · rfl
  · intro record member other aimed
    exact hits_of_mem_aimedAt distinctBefore member aimed

omit [DecidableEq Id] in
/--
A request that finds nothing leads to a new record, made for the first request
that looks for the same, with the writes of all that do.
-/
theorem Serves.find?_of_absent
    {Key : Type*} [DecidableEq Key] (key : Request → Key)
    (keeps : ∀ request record, identify (upserting.write request record) = identify record)
    (hits : ∀ request record, made request record → upserting.hits request record = true)
    (fixed : ∀ request record, made request record → upserting.write request record = record)
    {requests : List Request} {before after : List Record}
    (serves : upserting.Serves made requests before after)
    (distinct : (after.map identify).Nodup)
    (alike : ∀ first ∈ requests, ∀ second ∈ requests, key first = key second →
      upserting.hits first = upserting.hits second)
    (own : ∀ first ∈ requests, ∀ second ∈ requests, ∀ record, made first record →
      upserting.hits second record = true → key second = key first)
    {request : Request} (member : request ∈ requests)
    (absent : before.find? (upserting.hits request) = none) :
    ∃ first record, requests.find? (fun other => key other = key request) = some first ∧
      made first record ∧
      after.find? (upserting.hits request) = some (upserting.writeAll
        (requests.filter fun other => key other = key request) record) := by
  classical
  induction serves with
  | done records => cases member
  | @updated head requests before after present rest induction =>
      have headPresent : (before.find? (upserting.hits head)).isSome := by
        rw [List.find?_isSome]
        exact present
      have different : key head ≠ key request := by
        intro same
        rw [alike head List.mem_cons_self request member same, absent] at headPresent
        cases headPresent
      have later : request ∈ requests := by
        rcases List.mem_cons.1 member with rfl | later
        · exact absurd rfl different
        · exact later
      have stillAbsent : (upserting.writeFirst head before).find? (upserting.hits request) =
          none := by
        rw [List.find?_eq_none] at absent ⊢
        intro record isRecord hit
        have found : upserting.Present request (upserting.writeFirst head before) :=
          ⟨record, isRecord, hit⟩
        obtain ⟨original, isOriginal, originalHit⟩ := (present_writeFirst _ _ _).1 found
        exact absent original isOriginal originalHit
      obtain ⟨first, record, isFirst, new, found⟩ := induction distinct
        (fun one oneMember two twoMember => alike one (List.mem_cons_of_mem head oneMember) two
          (List.mem_cons_of_mem head twoMember))
        (fun one oneMember two twoMember => own one (List.mem_cons_of_mem head oneMember) two
          (List.mem_cons_of_mem head twoMember)) later stillAbsent
      refine ⟨first, record, ?_, new, ?_⟩
      · rw [List.find?_cons_of_neg (by simp [different])]
        exact isFirst
      · rw [List.filter_cons_of_neg (by simp [different])]
        exact found
  | @created head requests before after record missing new rest induction =>
      by_cases same : key head = key request
      · have sameHits := alike head List.mem_cons_self request member same
        have hit : upserting.hits request record = true := by
          rw [← sameHits]
          exact hits head record new
        have found : (before ++ [record]).find? (upserting.hits request) = some record := by
          rw [List.find?_append, absent, Option.none_or, List.find?_cons_of_pos hit]
        have aimed : upserting.aimedAt identify (before ++ [record]) (identify record) requests =
            requests.filter fun other => decide (key other = key request) := by
          apply List.filter_congr
          intro other isOther
          rw [Bool.eq_iff_iff, decide_eq_true_eq, decide_eq_true_eq]
          constructor
          · intro isAimed
            have isMember : other ∈ upserting.aimedAt identify (before ++ [record])
                (identify record) requests :=
              List.mem_filter.2 ⟨isOther, decide_eq_true isAimed⟩
            have distinctThen := rest.distinct_before keeps hits fixed distinct
            have otherHits := hits_of_mem_aimedAt distinctThen
              (List.mem_append_right before List.mem_cons_self) isMember
            exact (own head List.mem_cons_self other (List.mem_cons_of_mem head isOther) record
              new otherHits).trans same
          · intro isSame
            rw [alike other (List.mem_cons_of_mem head isOther) request member isSame, found]
            rfl
        have served := rest.find?_of_present keeps hits fixed distinct found
        refine ⟨head, record, ?_, new, ?_⟩
        · exact List.find?_cons_of_pos (by simp [same])
        · rw [List.filter_cons_of_pos (by simp [same]), writeAll_cons, fixed head record new,
            served, aimed]
      · have later : request ∈ requests := by
          rcases List.mem_cons.1 member with rfl | later
          · exact absurd rfl same
          · exact later
        have misses : upserting.hits request record ≠ true := by
          intro hit
          exact same (own head List.mem_cons_self request member record new hit).symm
        have stillAbsent : (before ++ [record]).find? (upserting.hits request) = none := by
          rw [List.find?_append, absent, Option.none_or, List.find?_cons_of_neg misses]
          rfl
        obtain ⟨first, final, isFirst, isNew, found⟩ := induction distinct
          (fun one oneMember two twoMember => alike one (List.mem_cons_of_mem head oneMember) two
            (List.mem_cons_of_mem head twoMember))
          (fun one oneMember two twoMember => own one (List.mem_cons_of_mem head oneMember) two
            (List.mem_cons_of_mem head twoMember)) later stillAbsent
        refine ⟨first, final, ?_, isNew, ?_⟩
        · rw [List.find?_cons_of_neg (by simp [same])]
          exact isFirst
        · rw [List.filter_cons_of_neg (by simp [same])]
          exact found

omit [DecidableEq Id] in
theorem mem_writeFirst
    {request : Request} {records : List Record} {record : Record}
    (member : record ∈ upserting.writeFirst request records) :
    record ∈ records ∨ ∃ old ∈ records, upserting.hits request old = true ∧
      record = upserting.write request old := by
  induction records with
  | nil => cases member
  | cons first rest induction =>
      rw [writeFirst] at member
      split_ifs at member with hit
      · rcases List.mem_cons.1 member with rfl | later
        · exact Or.inr ⟨first, List.mem_cons_self, hit, rfl⟩
        · exact Or.inl (List.mem_cons_of_mem first later)
      · rcases List.mem_cons.1 member with rfl | later
        · exact Or.inl List.mem_cons_self
        · rcases induction later with old | ⟨old, isOld, hit, written⟩
          · exact Or.inl (List.mem_cons_of_mem first old)
          · exact Or.inr ⟨old, List.mem_cons_of_mem first isOld, hit, written⟩

/-- A record that is there once requests are served was there before, or some request finds it. -/
theorem Serves.origin
    (keeps : ∀ request record, identify (upserting.write request record) = identify record)
    (hits : ∀ request record, made request record → upserting.hits request record = true)
    (fixed : ∀ request record, made request record → upserting.write request record = record)
    {requests : List Request} {before after : List Record}
    (serves : upserting.Serves made requests before after)
    (distinct : (after.map identify).Nodup) {record : Record} (member : record ∈ after) :
    (∃ old ∈ before, ∃ portion, record = upserting.writeAll portion old) ∨
      ∃ request ∈ requests, after.find? (upserting.hits request) = some record := by
  induction serves with
  | done records => exact Or.inl ⟨record, member, [], rfl⟩
  | @updated request requests before after present rest induction =>
      rcases induction distinct member with ⟨old, isOld, portion, same⟩ | ⟨other, isOther, found⟩
      · rcases mem_writeFirst isOld with inBefore | ⟨first, inBefore, -, rfl⟩
        · exact Or.inl ⟨old, inBefore, portion, same⟩
        · exact Or.inl ⟨first, inBefore, request :: portion, same⟩
      · exact Or.inr ⟨other, List.mem_cons_of_mem request isOther, found⟩
  | @created request requests before after new absent isNew rest induction =>
      rcases induction distinct member with ⟨old, isOld, portion, same⟩ | ⟨other, isOther, found⟩
      · rcases List.mem_append.1 isOld with inBefore | isAdded
        · exact Or.inl ⟨old, inBefore, portion, same⟩
        · obtain rfl := List.mem_singleton.1 isAdded
          refine Or.inr ⟨request, List.mem_cons_self, ?_⟩
          have none : before.find? (upserting.hits request) = none := by
            rw [List.find?_eq_none]
            exact fun earlier isEarlier hit => absent ⟨earlier, isEarlier, hit⟩
          have first : (before ++ [old]).find? (upserting.hits request) = some old := by
            rw [List.find?_append, none, Option.none_or,
              List.find?_cons_of_pos (hits request old isNew)]
          have landed := rest.find?_of_present keeps hits fixed distinct first
          rw [landed, Option.some.injEq]
          apply List.inj_on_of_nodup_map distinct (List.mem_of_find?_eq_some landed) member
          rw [same, identify_writeAll keeps, identify_writeAll keeps]
      · exact Or.inr ⟨other, List.mem_cons_of_mem request isOther, found⟩

omit [DecidableEq Id] in
/-- Records stay apart by what requests look for, when new ones are made for what is missing. -/
theorem Serves.nodup_map
    {Key : Type*} (key : Record → Key)
    (kept : ∀ request record, upserting.hits request record = true →
      key (upserting.write request record) = key record)
    (sought : ∀ request record other, made request record → key other = key record →
      upserting.hits request other = true)
    {requests : List Request} {before after : List Record}
    (serves : upserting.Serves made requests before after)
    (apart : (before.map key).Nodup) : (after.map key).Nodup := by
  induction serves with
  | done records => exact apart
  | @updated request requests before after present rest induction =>
      apply induction
      have same : (upserting.writeFirst request before).map key = before.map key := by
        clear present rest induction apart
        induction before with
        | nil => rfl
        | cons first rest induction =>
            rw [writeFirst]
            split_ifs with hit
            · rw [List.map_cons, List.map_cons, kept request first hit]
            · rw [List.map_cons, List.map_cons, induction]
      rw [same]
      exact apart
  | @created request requests before after new absent isNew rest induction =>
      apply induction
      rw [List.map_append, List.nodup_append]
      refine ⟨apart, List.nodup_singleton _, ?_⟩
      rintro _ inBefore _ isAdded rfl
      obtain ⟨other, isOther, same⟩ := List.mem_map.1 inBefore
      rw [List.map_singleton, List.mem_singleton] at isAdded
      exact absent ⟨other, isOther, sought request new other isNew (same.trans isAdded)⟩

end Upserting

end Snapl.Library
