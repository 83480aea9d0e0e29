import Snapl.Orchestrator.ReconcileRun

/-!
# The accounting of a reconcile

A reconcile that is not cancelled starts one deploy for each distinct device,
in the order in which the devices first occur, whatever comes of the deploys.
Its result counts each device once: as skipped exactly when its deploy was
already running or knew no such device, and as succeeded or failed otherwise.
-/

namespace Snapl.Orchestrator.ReconcileDevices

open Snapl.Library Snapl.Intent

/-- Setting keys that a dictionary lacks appends them in the order of their first occurrence. -/
theorem keys_update_unit (deviceIds : List UUID) (dict : Dict UUID Unit) :
    (dict.update (deviceIds.map fun deviceId => (deviceId, ()))).keys =
      dict.keys ++ (deviceIds.filter fun deviceId => deviceId ∉ dict.keys).eraseDups := by
  induction deviceIds generalizing dict with
  | nil => simp [Dict.update]
  | cons deviceId rest inductionHypothesis =>
      rw [List.map_cons, Dict.update, List.foldl_cons, ← Dict.update, inductionHypothesis,
        Dict.keys_set, List.filter_cons]
      by_cases known : deviceId ∈ dict.keys
      · simp [known]
      · have later : (rest.filter fun other => other ∉ dict.keys ++ [deviceId]) =
            (rest.filter fun other => other ∉ dict.keys).filter fun other =>
              !other == deviceId := by
          rw [List.filter_filter]
          refine List.filter_congr fun other _ => ?_
          by_cases same : other = deviceId <;> simp [same]
        rw [if_neg known, if_pos (decide_eq_true known), List.eraseDups_cons, later,
          List.append_assoc, List.singleton_append]

/-- The targets are the devices in the order of their first occurrence. -/
theorem dedupe_eq_eraseDups (deviceIds : List UUID) :
    dedupe deviceIds = deviceIds.eraseDups := by
  rw [dedupe, Dict.ofPairs, keys_update_unit]
  simp [Dict.keys]

/-- The deploy of a device was already running, or knew no such device. -/
def Setting.skips (setting : Setting) (deviceId : UUID) : Bool :=
  match setting.child deviceId with
  | .alreadyStarted => true
  | .returned result => result.reason = .deviceNotFound
  | _ => false

/-- A result of this success stands for the device. -/
def resultIs (success : Bool) (result : ReconcileResult) (deviceId : UUID) : Bool :=
  succeedsAs success (result.deviceResults.get? deviceId)

/-- A result accounts for each of the devices once. -/
structure Accounted
    (setting : Setting) (deviceIds : List UUID) (result : ReconcileResult) : Prop where
  total : result.total = deviceIds.eraseDups.length
  listed : result.deviceResults.keys =
    deviceIds.eraseDups.filter fun deviceId => !setting.skips deviceId
  succeeded : result.succeeded = deviceIds.eraseDups.countP (resultIs true result)
  failed : result.failed = deviceIds.eraseDups.countP (resultIs false result)
  skipped : result.skipped = deviceIds.eraseDups.countP setting.skips
  once : ∀ deviceId ∈ deviceIds,
    if setting.skips deviceId then result.deviceResults.get? deviceId = none
    else resultIs true result deviceId ≠ resultIs false result deviceId
  returned : ∀ deviceId ∈ deviceIds, ∀ outcome,
    setting.child deviceId = .returned outcome → outcome.reason ≠ .deviceNotFound →
      result.deviceResults.get? deviceId = some outcome
  childFailed : ∀ deviceId ∈ deviceIds, ∀ failure,
    setting.child deviceId = .failed failure →
      ∃ outcome, result.deviceResults.get? deviceId = some outcome ∧
        outcome.success = false ∧ outcome.reason = .applyFailed ∧
        outcome.detail = some ("child workflow failed: " ++ failure.message)

section Outcomes

variable {setting : Setting}

theorem Settles.isNone_eq
    {deviceId : UUID} {outcome : Option WorkflowResult}
    (settles : Settles setting deviceId outcome) :
    outcome.isNone = setting.skips deviceId := by
  cases settles with
  | unknown returned reason => simp [Setting.skips, returned, reason]
  | returned returned reason => simp [Setting.skips, returned, reason]
  | inFlight started => simp [Setting.skips, started]
  | failed raised => simp [Setting.skips, raised]

variable {targets : List UUID} {outcomes : List (Option WorkflowResult)}

/-- The keys of the results are the targets that were not skipped. -/
theorem keys_of_settled (settled : List.Forall₂ (Settles setting) targets outcomes) :
    ((targets.zip outcomes).filterMap keyedResult?).map Prod.fst =
      targets.filter fun deviceId => !setting.skips deviceId := by
  induction settled with
  | nil => rfl
  | @cons deviceId outcome targets outcomes settles _ inductionHypothesis =>
      have skips := settles.isNone_eq
      rw [List.zip_cons_cons, List.filterMap_cons, List.filter_cons, ← skips]
      rcases outcome with _ | result
      · simpa [keyedResult?] using inductionHypothesis
      · simpa [keyedResult?] using inductionHypothesis

/-- The results of a tally are the outcomes of its targets. -/
theorem get?_of_settled
    (settled : List.Forall₂ (Settles setting) targets outcomes) (distinct : targets.Nodup) :
    List.Forall₂
      (fun deviceId outcome => Settles setting deviceId outcome ∧
        (tally targets outcomes).deviceResults.get? deviceId = outcome)
      targets outcomes := by
  refine List.forall₂_iff_zip.2 ⟨settled.length_eq, ?_⟩
  intro deviceId outcome member
  have settles := List.forall₂_zip settled member
  refine ⟨settles, ?_⟩
  rcases outcome with _ | result
  · rcases found : (tally targets outcomes).deviceResults.get? deviceId with _ | other
    · rfl
    · have listed := (tally_get?_iff settled.length_eq distinct deviceId other).1 found
      have skips := settles.isNone_eq.trans (List.forall₂_zip settled listed).isNone_eq.symm
      cases skips
  · exact (tally_get?_iff settled.length_eq distinct deviceId result).2 member

/-- The result of a completed run accounts for its devices. -/
theorem accounted_of_settled
    {deviceIds : List UUID} {workflowId : String} {startedAt endedAt : Int}
    {result : ReconcileResult}
    (settled : List.Forall₂ (Settles setting) (dedupe deviceIds) outcomes)
    (returned : result.toReconcileFields =
      (tally (dedupe deviceIds) outcomes).fields workflowId
        (dedupe deviceIds).length startedAt endedAt) :
    Accounted setting deviceIds result := by
  have distinct := nodup_dedupe deviceIds
  have results : result.deviceResults = (tally (dedupe deviceIds) outcomes).deviceResults :=
    congrArg ReconcileFields.deviceResults returned
  have known := get?_of_settled settled distinct
  rw [← results] at known
  have settles : ∀ deviceId ∈ deviceIds, ∃ outcome,
      result.deviceResults.get? deviceId = outcome ∧ Settles setting deviceId outcome := by
    intro deviceId member
    obtain ⟨outcome, -, settles, found⟩ :=
      exists_mem_of_forall₂ known ((mem_dedupe _ _).2 member)
    exact ⟨outcome, found, settles⟩
  have counts : ∀ success, outcomeCount success outcomes =
      deviceIds.eraseDups.countP (resultIs success result) := by
    intro success
    rw [← dedupe_eq_eraseDups]
    refine (countP_eq_of_forall₂ known ?_).symm
    rintro deviceId outcome ⟨-, found⟩
    rw [resultIs, found]
  have skips : skipCount outcomes = deviceIds.eraseDups.countP setting.skips := by
    rw [← dedupe_eq_eraseDups]
    refine (countP_eq_of_forall₂ settled ?_).symm
    intro deviceId outcome settles
    exact settles.isNone_eq.symm
  have sameLength := settled.length_eq
  refine ⟨?_, ?_, ?_, ?_, ?_, ?_, ?_, ?_⟩
  · rw [returned, ← dedupe_eq_eraseDups]
    rfl
  · rw [results, Dict.keys, tally_entries sameLength distinct, keys_of_settled settled,
      dedupe_eq_eraseDups]
  · rw [returned, Tally.fields, tally_succeeded sameLength, counts]
  · rw [returned, Tally.fields, tally_failed sameLength, counts]
  · rw [returned, Tally.fields, tally_skipped sameLength, skips]
  · intro deviceId member
    obtain ⟨outcome, found, settles⟩ := settles deviceId member
    rw [resultIs, resultIs, found, ← settles.isNone_eq]
    rcases outcome with _ | outcome
    · rfl
    · rcases success : outcome.success with _ | _ <;> simp [succeedsAs, success]
  · intro deviceId member outcome ended reason
    obtain ⟨settledWith, found, settles⟩ := settles deviceId member
    rw [found]
    cases settles with
    | unknown ended' notFound =>
        rw [ended] at ended'
        cases ended'
        exact absurd notFound reason
    | returned ended' =>
        rw [ended] at ended'
        cases ended'
        rfl
    | inFlight started => rw [ended] at started; cases started
    | failed raised => rw [ended] at raised; cases raised
  · intro deviceId member failure ended
    obtain ⟨settledWith, found, settles⟩ := settles deviceId member
    rw [found]
    cases settles with
    | unknown ended' => rw [ended] at ended'; cases ended'
    | returned ended' => rw [ended] at ended'; cases ended'
    | inFlight started => rw [ended] at started; cases started
    | @failed _ outcome _ _ raised fields =>
        rw [ended] at raised
        cases raised
        refine ⟨outcome, rfl, ?_, ?_, ?_⟩
        · rw [fields, childFailedFields]
        · rw [fields, childFailedFields]
        · rw [fields, childFailedFields]

end Outcomes

/--
A reconcile that nothing cancels, and whose audit appends succeed, starts one
deploy for each distinct device and accounts for each of them.
-/
theorem reconcile_accounts
    (setting : Setting) (deviceIds : List UUID) (nonempty : deviceIds ≠ [])
    (succeed : setting.AppendsSucceed) (uncancelled : setting.cancelAt = none)
    (children : ∀ deviceId ∈ deviceIds, setting.child deviceId ≠ .cancelled) :
    ((run setting deviceIds).final Journal.blank).commands =
        deviceIds.eraseDups.map (fun deviceId =>
          .deployIntent (deployIntentId deviceId) deviceId) ∧
      ∃ result, (run setting deviceIds).ending Journal.blank = .ok result ∧
        result.toReconcileFields.Valid ∧ Accounted setting deviceIds result := by
  have appended : ∀ await, setting.appendEnding await = .ok () := by
    intro await
    rw [Surroundings.appended_iff succeed, uncancelled]
    nofun
  obtain ⟨reconciled, commands⟩ := run_reconciled setting nonempty
  refine ⟨?_, ?_⟩
  · rcases commands with ⟨failed, -⟩ | started
    · exact absurd (appended _) failed
    · rw [started, deploys, dedupe_eq_eraseDups]
  · generalize (run setting deviceIds).ending Journal.blank = ending at reconciled
    generalize ((run setting deviceIds).final Journal.blank).trail = trail at reconciled
    have undisturbed : ¬ CancelledWhileDeploying setting (dedupe deviceIds) := by
      intro cancels
      cases cancels with
      | gathering cancels => exact absurd (uncancelled.symm.trans cancels.1) nofun
      | child member child => exact children _ ((mem_dedupe _ _).1 member) child
    cases reconciled with
    | startFailed failed => rw [appended] at failed; cases failed
    | cancelled _ cancels => exact absurd cancels undisturbed
    | cancelFailed _ cancels => exact absurd cancels undisturbed
    | terminateFailed _ _ failed => rw [appended] at failed; cases failed
    | @completed outcomes result _ _ _ settled _ returned =>
        exact ⟨result, rfl, result.valid, accounted_of_settled settled returned⟩

/-- A device whose deploy fails, one that is unknown, and one that is deployed already. -/
def mixedChildren : Setting where
  toSurroundings := Surroundings.calm "reconcile" none
  child := fun deviceId =>
    if deviceId = ⟨1⟩ then .failed ⟨some "Requested element(s) not found", "child failed"⟩
    else .alreadyStarted
  schedule := [1, 0]

theorem mixedChildren_accounted :
    ((run mixedChildren [⟨2⟩, ⟨1⟩, ⟨2⟩]).final Journal.blank).commands =
        ([⟨2⟩, ⟨1⟩, ⟨2⟩] : List UUID).eraseDups.map (fun deviceId =>
          .deployIntent (deployIntentId deviceId) deviceId) ∧
      ∃ result, (run mixedChildren [⟨2⟩, ⟨1⟩, ⟨2⟩]).ending Journal.blank = .ok result ∧
        result.toReconcileFields.Valid ∧
        Accounted mixedChildren [⟨2⟩, ⟨1⟩, ⟨2⟩] result := by
  refine reconcile_accounts mixedChildren [⟨2⟩, ⟨1⟩, ⟨2⟩] (by simp) (fun _ => rfl) rfl ?_
  intro deviceId _
  simp only [mixedChildren]
  split_ifs <;> nofun

end Snapl.Orchestrator.ReconcileDevices
