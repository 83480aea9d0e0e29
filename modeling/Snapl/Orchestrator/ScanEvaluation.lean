import Snapl.Orchestrator.ScanDrift

/-!
# What a scan finds out about a device

The report of a device is determined by the outcomes of its own activities, up
to the time an error report is stamped with.  Every coroutine stands for these
outcomes wherever it is, whatever the other coroutines do.  The gather ends
with one such report for every device, or with a cancellation, or with a failed
append.
-/

namespace Snapl.Orchestrator.ScanDrift

open Snapl.Library Snapl.Intent Snapl.Observability

/-! ## The report of a device -/

section Outcomes

variable (setting : Setting) (device : Device)

/-- The report the outcomes of a device lead to, an error being stamped `time`. -/
def evaluation (time : Int) : DriftReport :=
  match setting.fetched device.id with
  | .failed failure =>
      DriftReport.failed device.id device.name
        ("intent fetch failed: " ++ failure.text) time
  | .returned desired =>
      match setting.collected device.id with
      | .failed failure =>
          DriftReport.failed device.id device.name
            ("collect failed: " ++ failure.text) time
      | .returned collected =>
          match setting.detection device.id desired collected with
          | .failed failure =>
              DriftReport.failed device.id device.name
                ("detect_drift failed: " ++ failure.text) time
          | .returned report => report

/-- The report is the one of the device's own outcomes. -/
def Evaluated (report : DriftReport) : Prop :=
  ∃ time, report = evaluation setting device time

variable {setting} in
theorem deviceId_of_detection
    {deviceId : UUID} {desired : DesiredState} {collected : CollectResult}
    {report : DriftReport}
    (detects : setting.detection deviceId desired collected = .returned report) :
    report.deviceId = desired.device.id := by
  rw [Setting.detection] at detects
  split at detects
  · cases detects
  · split at detects
    · rename_i detected
      cases detects
      exact deviceId_of_detectDrift detected
    · cases detects

/-- The report of a device is keyed by the device. -/
theorem deviceId_evaluation (time : Int) :
    (evaluation setting device time).deviceId = device.id := by
  rw [evaluation]
  rcases fetched : setting.fetched device.id with desired | failure
  · rcases setting.collected device.id with collected | failure
    · rcases detects : setting.detection device.id desired collected with report | failure
      · simp only [detects]
        rw [deviceId_of_detection detects, setting.ownState fetched]
      · simp only [detects]
        rfl
    · rfl
  · rfl

/-- What is known of a device at each stage of its evaluation. -/
inductive Stands : Stage → Prop where
  | fetching : Stands .fetching
  | collecting {desired : DesiredState}
      (fetched : setting.fetched device.id = .returned desired) :
      Stands (.collecting desired)
  | detecting {desired : DesiredState} {collected : CollectResult}
      (fetched : setting.fetched device.id = .returned desired)
      (collects : setting.collected device.id = .returned collected) :
      Stands (.detecting desired collected)
  | recording {report : DriftReport} {event : AuditEvent}
      (evaluated : Evaluated setting device report)
      (body : event.toEventBody = deviceEvent report) :
      Stands (.recording report event)
  | finished {report : DriftReport} (evaluated : Evaluated setting device report)
      (appended : setting.deviceAppended device.id = .done) :
      Stands (.finished report)
  | raised {landed : Bool} {failure : ActivityFailure}
      (appended : setting.deviceAppended device.id = .failed landed failure) :
      Stands (.raised (.activityError failure))

end Outcomes

/-- The event a finished evaluation has recorded. -/
def Stage.recorded? : Stage → Option EventBody
  | .finished report => some (deviceEvent report)
  | _ => none

/-- The number of resumptions left. -/
def Stage.rank : Stage → Nat
  | .fetching => 4
  | .collecting _ => 3
  | .detecting _ _ => 2
  | .recording _ _ => 1
  | .finished _ => 0
  | .raised _ => 0

/-! ## One resumption -/

section Resumption

variable {setting : Setting} {device : Device} {journal : Journal Command}

theorem deviceEvent_valid (report : DriftReport) : (deviceEvent report).Valid := by
  by_cases errored : report.status = .error
  · constructor <;> simp [deviceEvent, errored, validOutcomes]
  · constructor <;> simp [deviceEvent, errored, validOutcomes]

@[simp]
theorem announced_deviceEvent (report : DriftReport) :
    announced (deviceEvent report) = none := by
  by_cases errored : report.status = .error
  · simp [announced, deviceEvent, errored]
  · simp [announced, deviceEvent, errored]

/-- The event of a report is issued, and nothing lands yet. -/
theorem auditDevice_meets (report : DriftReport) :
    Program.Meets (auditDevice setting report) journal fun ending after =>
      (∃ event : AuditEvent, ending = .ok (.recording report event) ∧
        event.toEventBody = deviceEvent report) ∧
      journal.Grew after [] [] := by
  refine Program.Meets.bind (newEvent_meets workflowType (deviceEvent_valid report)) ?_ ?_
  · rintro event issued ⟨⟨given, equal, body⟩, grew⟩
    cases equal
    exact ⟨⟨event, rfl, body⟩, grew⟩
  · rintro failure issued ⟨⟨given, equal, -⟩, -⟩
    cases equal

theorem evaluationFailed_meets (error : String) :
    Program.Meets (evaluationFailed setting device error) journal fun ending after =>
      (∃ (time : Int) (event : AuditEvent),
        ending = .ok (.recording
          (DriftReport.failed device.id device.name error time) event) ∧
        event.toEventBody =
          deviceEvent (DriftReport.failed device.id device.name error time)) ∧
      journal.Grew after [] [] := by
  refine Program.Meets.bind now_meets ?_ ?_
  · rintro time stamped ⟨read, grew, -⟩
    rw [DriftReport.build_failed]
    refine (auditDevice_meets (DriftReport.failed device.id device.name error time)).mono ?_
    rintro ending after ⟨⟨event, equal, body⟩, grewOn⟩
    exact ⟨⟨time, event, equal, body⟩, grew.trans grewOn⟩
  · rintro failure stamped ⟨read, -⟩
    cases read

/-- A resumption stands for the outcomes, and records what it finishes. -/
structure Resumed
    (setting : Setting) (device : Device) (before after : Journal Command)
    (stage next : Stage) : Prop where
  stands : Stands setting device next
  grew : ∃ events commands, before.Grew after events commands ∧
    (∀ body ∈ events, ∃ report, body = deviceEvent report) ∧
    (setting.deviceAppended device.id = .done → stage.recorded? = none →
      events = next.recorded?.toList)

theorem Resumed.silent
    {after : Journal Command} {stage next : Stage} {commands : List Command}
    (stands : Stands setting device next) (unrecorded : next.recorded? = none)
    (grew : journal.Grew after [] commands) :
    Resumed setting device journal after stage next :=
  ⟨stands, [], commands, grew, by simp, by simp [unrecorded]⟩

theorem evaluationFailed_resumed
    {stage : Stage} {error : String}
    (evaluated : ∀ time, Evaluated setting device
      (DriftReport.failed device.id device.name error time)) :
    Program.Meets (evaluationFailed setting device error) journal fun ending after =>
      Resumed setting device journal after stage (Stage.ofEnding ending) := by
  refine (evaluationFailed_meets error).mono ?_
  rintro ending after ⟨⟨time, event, rfl, body⟩, grew⟩
  exact Resumed.silent (.recording (evaluated time) body) rfl grew

/-- The resumed coroutine still stands for its device's outcomes. -/
theorem evaluate_resumed {stage : Stage} (stands : Stands setting device stage) :
    Program.Meets (evaluate setting device stage) journal fun ending after =>
      Resumed setting device journal after stage (Stage.ofEnding ending) := by
  cases stands with
  | fetching =>
      rw [evaluate]
      rcases fetched : setting.fetched device.id with desired | failure
      · exact Resumed.silent (.collecting fetched) rfl
          ⟨(List.append_nil _).symm, rfl, le_refl _⟩
      · exact evaluationFailed_resumed fun time => ⟨time, by rw [evaluation, fetched]⟩
  | @collecting desired fetched =>
      rw [evaluate]
      rcases collects : setting.collected device.id with collected | failure
      · exact Resumed.silent (.detecting fetched collects) rfl
          ⟨(List.append_nil _).symm, rfl, le_refl _⟩
      · exact evaluationFailed_resumed fun time => ⟨time, by simp only [evaluation, fetched, collects]⟩
  | @detecting desired collected fetched collects =>
      rw [evaluate]
      rcases detects : setting.detection device.id desired collected with report | failure
      · refine (auditDevice_meets report).mono ?_
        rintro ending after ⟨⟨event, rfl, body⟩, grew⟩
        refine Resumed.silent (.recording ⟨0, ?_⟩ body) rfl grew
        simp only [evaluation, fetched, collects, detects]
      · exact evaluationFailed_resumed fun time => ⟨time, by simp only [evaluation, fetched, collects, detects]⟩
  | @recording report event evaluated body =>
      rw [evaluate]
      refine Program.Meets.bind (recordAuditEvent_meets _ _ event) ?_ ?_
      · rintro _ after ⟨answer, grew⟩
        rcases appended : setting.deviceAppended device.id with _ | ⟨landed, failure⟩
        · rw [appended, AppendOutcome.lands, if_pos rfl, body] at grew
          exact ⟨.finished evaluated appended, [deviceEvent report], [], grew, by simp,
            fun _ _ => rfl⟩
        · rw [appended] at answer
          cases answer
      · rintro failure after ⟨answer, grew⟩
        rcases appended : setting.deviceAppended device.id with _ | ⟨landed, cause⟩
        · rw [appended] at answer
          cases answer
        · rw [appended] at answer grew
          cases answer
          refine ⟨.raised appended, _, _, grew, ?_, fun done => by
            rw [appended] at done
            cases done⟩
          intro given member
          rcases landed with _ | _
          · cases member
          · rw [AppendOutcome.lands, if_pos rfl, List.mem_singleton] at member
            exact ⟨report, member.trans body⟩
  | finished evaluated appended =>
      exact ⟨.finished evaluated appended, [], [], Journal.Grew.refl journal, by simp,
        fun _ finished => by cases finished⟩
  | raised appended =>
      exact Resumed.silent (.raised appended) rfl (Journal.Grew.refl journal)

/-- A resumption uses up one of those left. -/
theorem rank_evaluate
    (journal : Journal Command) (stage : Stage) (waits : 0 < stage.rank) :
    Program.Meets (evaluate setting device stage) journal fun ending _ =>
      (Stage.ofEnding ending).rank < stage.rank := by
  have failing : ∀ error, 1 < stage.rank →
      Program.Meets (evaluationFailed setting device error) journal fun ending _ =>
        (Stage.ofEnding ending).rank < stage.rank := by
    intro error more
    refine (evaluationFailed_meets error).mono ?_
    rintro ending after ⟨⟨time, event, rfl, -⟩, -⟩
    exact more
  cases stage with
  | fetching =>
      rw [evaluate]
      rcases setting.fetched device.id with desired | failure
      · exact Nat.lt_succ_self 3
      · exact failing _ (by simp [Stage.rank])
  | collecting desired =>
      rw [evaluate]
      rcases setting.collected device.id with collected | failure
      · exact Nat.lt_succ_self 2
      · exact failing _ (by simp [Stage.rank])
  | detecting desired collected =>
      rw [evaluate]
      rcases setting.detection device.id desired collected with report | failure
      · refine (auditDevice_meets report).mono ?_
        rintro ending after ⟨⟨event, rfl, -⟩, -⟩
        exact Nat.lt_succ_self 1
      · exact failing _ (by simp [Stage.rank])
  | recording report event =>
      rw [evaluate]
      refine Program.Meets.bind (recordAuditEvent_meets _ _ event) ?_ ?_
      · intro _ after _
        exact Nat.zero_lt_one
      · intro failure after _
        exact Nat.zero_lt_one
  | finished => cases waits
  | raised => cases waits

end Resumption

/-! ## All coroutines -/

section Gathering

variable (setting : Setting) (devices : List Device) (before : Journal Command)

/-- Every coroutine stands for its device, and the journal grew by their events. -/
structure Progressed (state : Journal Command × List Evaluation) : Prop where
  stand : List.Forall₂
    (fun device evaluation =>
      evaluation.device = device ∧ Stands setting device evaluation.stage)
    devices state.2
  grew : ∃ events commands, before.Grew state.1 events commands ∧
    (∀ body ∈ events, announced body = none) ∧
    ((∀ device ∈ devices, setting.deviceAppended device.id = .done) →
      events.Perm (state.2.filterMap fun evaluation => evaluation.stage.recorded?))

/-- A cancellation reaches the gather while a coroutine is pending. -/
def CancelsGather : Prop :=
  setting.cancelAt = some .gather ∧
    (evaluations setting).Pending (scheduled setting (begin devices before)).2

/-- How the evaluation of all devices ends. -/
inductive Gathered : Except Raised (List DriftReport) → Journal Command → Prop where
  | cancelled
      {after : Journal Command} {events : List EventBody} {commands : List Command}
      (cancels : CancelsGather setting devices before)
      (grew : before.Grew after events commands)
      (silent : ∀ body ∈ events, announced body = none) :
      Gathered (.error .cancelled) after
  | appendFailed
      {device : Device} {landed : Bool} {failure : ActivityFailure}
      {after : Journal Command} {events : List EventBody} {commands : List Command}
      (uncancelled : ¬ CancelsGather setting devices before)
      (member : device ∈ devices)
      (appended : setting.deviceAppended device.id = .failed landed failure)
      (grew : before.Grew after events commands)
      (silent : ∀ body ∈ events, announced body = none) :
      Gathered (.error (.activityError failure)) after
  | completed
      {reports : List DriftReport} {after : Journal Command}
      {events : List EventBody} {commands : List Command}
      (uncancelled : ¬ CancelsGather setting devices before)
      (evaluated : List.Forall₂ (Evaluated setting) devices reports)
      (grew : before.Grew after events commands)
      (silent : ∀ body ∈ events, announced body = none)
      (appended : ∀ device ∈ devices, setting.deviceAppended device.id = .done)
      (recorded : events.Perm (reports.map deviceEvent)) :
      Gathered (.ok reports) after

variable {setting devices before}

theorem begin_progressed : Progressed setting devices before (begin devices before) where
  stand := by
    rw [begin, List.forall₂_map_right_iff, List.forall₂_same]
    exact fun device _ => ⟨rfl, .fetching⟩
  grew := by
    refine ⟨[], devices.map fun device => .fetchDesiredState device.id,
      ⟨(List.append_nil _).symm, rfl, le_refl _⟩, by simp, ?_⟩
    intro _
    have none : (devices.map fun device => (⟨device, .fetching⟩ : Evaluation)).filterMap
        (fun evaluation => evaluation.stage.recorded?) = [] := by
      rw [List.filterMap_eq_nil_iff]
      intro evaluation member
      obtain ⟨device, -, rfl⟩ := List.mem_map.1 member
      rfl
    rw [begin, none]

theorem recorded?_of_waits
    {evaluation : Evaluation} (waits : (evaluations setting).waits evaluation = true) :
    evaluation.stage.recorded? = none := by
  obtain ⟨device, stage⟩ := evaluation
  cases stage with
  | finished report => cases waits
  | _ => rfl

/-- Completions keep the progress. -/
theorem Progressed.interleave
    {state : Journal Command × List Evaluation}
    (progressed : Progressed setting devices before state) (schedule : List Nat) :
    Progressed setting devices before
      ((evaluations setting).interleave state schedule) := by
  refine (evaluations setting).interleave_invariant ?_ schedule state progressed
  intro journal locals index current progressed found waits _
  obtain ⟨bound, equal⟩ := List.getElem?_eq_some_iff.1 found
  have related := List.forall₂_iff_get.1 progressed.stand
  have deviceBound : index < devices.length := by
    have same : devices.length = locals.length := related.1
    omega
  obtain ⟨deviceEqual, stands⟩ := related.2 index deviceBound bound
  simp only [List.get_eq_getElem, equal] at deviceEqual stands
  rw [← deviceEqual] at stands
  have resumed : Resumed setting current.device journal
      ((evaluations setting).resume journal current).1 current.stage
      ((evaluations setting).resume journal current).2.stage :=
    evaluate_resumed stands
  refine ⟨?_, ?_⟩
  · rw [List.forall₂_iff_get]
    refine ⟨by simpa using related.1, ?_⟩
    intro position itemBound localBound
    simp only [List.get_eq_getElem, List.getElem_set]
    split_ifs with same
    · subst same
      rw [← deviceEqual]
      exact ⟨rfl, resumed.stands⟩
    · exact related.2 position itemBound (by simpa using localBound)
  · obtain ⟨events, commands, grew, silent, perm⟩ := progressed.grew
    obtain ⟨more, started, grewOn, deviceEvents, recorded⟩ := resumed.grew
    refine ⟨events ++ more, commands ++ started, grew.trans grewOn, ?_, ?_⟩
    · intro body member
      rcases List.mem_append.1 member with old | new
      · exact silent body old
      · obtain ⟨report, rfl⟩ := deviceEvents body new
        exact announced_deviceEvent report
    · intro done
      have unrecorded := recorded?_of_waits waits
      have device : current.device ∈ devices := by
        rw [deviceEqual]
        exact List.getElem_mem deviceBound
      rw [recorded (done _ device) unrecorded]
      exact ((perm done).append_right _).trans
        (filterMap_set_perm (fun evaluation => evaluation.stage.recorded?) found
          unrecorded).symm

/-- Landing what is in flight adds silent events. -/
theorem abandon_grew
    {state : Journal Command × List Evaluation}
    (progressed : Progressed setting devices before state) :
    ∃ events commands, before.Grew (abandon setting state) events commands ∧
      ∀ body ∈ events, announced body = none := by
  obtain ⟨events, commands, grew, silent, -⟩ := progressed.grew
  refine ⟨events ++ (state.2.filterMap (Evaluation.inFlight? setting)).map
    AuditEvent.toEventBody, commands, ⟨?_, grew.commands, grew.ticks⟩, ?_⟩
  · have shown : (abandon setting state).trail = state.1.trail ++
        (state.2.filterMap (Evaluation.inFlight? setting)).map AuditEvent.toEventBody := by
      simp [abandon, Journal.trail]
    rw [shown, grew.trail, List.append_assoc]
  · intro body member
    rcases List.mem_append.1 member with old | new
    · exact silent body old
    · obtain ⟨event, inFlight, rfl⟩ := List.mem_map.1 new
      obtain ⟨⟨own, stage⟩, present, found⟩ := List.mem_filterMap.1 inFlight
      obtain ⟨device, -, -, stands⟩ :=
        exists_mem_of_forall₂ (List.Forall₂.flip progressed.stand) present
      cases stands with
      | recording evaluated body =>
          simp only [Evaluation.inFlight?] at found
          split_ifs at found
          cases found
          rw [body]
          exact announced_deviceEvent _
      | _ => cases found

theorem rank_resume
    (journal : Journal Command) (evaluation : Evaluation)
    (waits : (evaluations setting).waits evaluation = true) :
    ((evaluations setting).resume journal evaluation).2.stage.rank <
      evaluation.stage.rank := by
  refine rank_evaluate journal evaluation.stage ?_
  obtain ⟨device, stage⟩ := evaluation
  cases stage with
  | finished report => cases waits
  | raised failure => cases waits
  | _ => simp [Stage.rank]

theorem rank_le (stage : Stage) : stage.rank ≤ resumptions := by
  cases stage <;> simp [Stage.rank, resumptions]

/-- Once every coroutine has returned, every device has its report. -/
theorem reports_of_returned
    {locals : List Evaluation} {reports : List DriftReport}
    (stand : List.Forall₂
      (fun device evaluation =>
        evaluation.device = device ∧ Stands setting device evaluation.stage)
      devices locals)
    (returned : List.Forall₂
      (fun evaluation report => (evaluations setting).status evaluation = .returned report)
      locals reports) :
    List.Forall₂ (Evaluated setting) devices reports ∧
      (∀ device ∈ devices, setting.deviceAppended device.id = .done) ∧
      locals.filterMap (fun evaluation => evaluation.stage.recorded?) =
        reports.map deviceEvent := by
  induction stand generalizing reports with
  | nil =>
      cases returned
      exact ⟨List.Forall₂.nil, by simp, rfl⟩
  | @cons device evaluation devices locals stands rest induction =>
      rcases returned with _ | ⟨status, others⟩
      obtain ⟨evaluated, appended, recorded⟩ := induction others
      obtain ⟨own, stage⟩ := evaluation
      cases stands.2 with
      | finished ownReport ownAppended =>
          cases status
          refine ⟨List.Forall₂.cons ownReport evaluated, ?_, ?_⟩
          · exact List.forall_mem_cons.2 ⟨ownAppended, appended⟩
          · simpa [Stage.recorded?] using recorded
      | _ => cases status

/-- The gather ends with a report for every device unless it is cut short. -/
theorem gather_meets :
    Program.Meets (gather setting devices) before
      (Gathered setting devices before) := by
  have progressed : Progressed setting devices before
      (scheduled setting (begin devices before)) :=
    begin_progressed.interleave setting.schedule
  rw [Program.Meets, Program.ending, Program.final, gather]
  by_cases cancels : setting.cancelAt = some .gather ∧
      (evaluations setting).Pending (scheduled setting (begin devices before)).2
  · rw [if_pos cancels]
    obtain ⟨events, commands, grew, silent⟩ := abandon_grew progressed
    exact Gathered.cancelled cancels grew silent
  · rw [if_neg cancels]
    have finished : Progressed setting devices before
        (drained setting (scheduled setting (begin devices before))) :=
      progressed.interleave _
    rcases (evaluations setting).gathered_rounds rank_resume
        (fun evaluation => rank_le evaluation.stage)
        (scheduled setting (begin devices before)) with
      ⟨evaluation, present, failure, status, raised⟩ | ⟨reports, gathers, returned⟩
    · obtain ⟨own, stage⟩ := evaluation
      obtain ⟨device, member, -, stands⟩ :=
        exists_mem_of_forall₂ (List.Forall₂.flip finished.stand) present
      obtain ⟨events, commands, grew, silent⟩ := abandon_grew finished
      cases stands with
      | raised appended =>
          cases status
          simp only [drained, raised]
          exact Gathered.appendFailed cancels member appended grew silent
      | _ => cases status
    · obtain ⟨evaluated, appended, recorded⟩ :=
        reports_of_returned finished.stand returned
      obtain ⟨events, commands, grew, silent, perm⟩ := finished.grew
      simp only [drained, gathers]
      refine Gathered.completed cancels evaluated grew silent appended ?_
      rw [← recorded]
      exact perm appended

end Gathering

end Snapl.Orchestrator.ScanDrift
