import Snapl.Orchestrator.ScanEvaluation

/-!
# The runs of a scan

A scan returns the reports of all its devices, or it is cancelled and returns
none, or it raises.  Which of these happens is decided by the outcomes of its
awaits.  Whether a cancellation finds the gather pending depends on how many
completions the schedule holds before it, and not on the time.
-/

namespace Snapl.Orchestrator.ScanDrift

open Snapl.Library Snapl.Intent Snapl.Observability

/-! ## What of a stage does not depend on the time -/

inductive Shape where
  | fetching
  | collecting (desired : DesiredState)
  | detecting (desired : DesiredState) (collected : CollectResult)
  | recording
  | finished
  | raised (failure : Raised)

def Stage.shape : Stage → Shape
  | .fetching => .fetching
  | .collecting desired => .collecting desired
  | .detecting desired collected => .detecting desired collected
  | .recording _ _ => .recording
  | .finished _ => .finished
  | .raised failure => .raised failure

section Shapes

variable (setting : Setting) (device : Device)

/-- The shape after a resumption. -/
def nextShape : Shape → Shape
  | .fetching =>
      match setting.fetched device.id with
      | .returned desired => .collecting desired
      | .failed _ => .recording
  | .collecting desired =>
      match setting.collected device.id with
      | .returned collected => .detecting desired collected
      | .failed _ => .recording
  | .detecting _ _ => .recording
  | .recording =>
      match (setting.deviceAppended device.id).ending with
      | .ok _ => .finished
      | .error failure => .raised failure
  | shape => shape

variable {setting device}

theorem shape_evaluate (stage : Stage) (journal : Journal Command) :
    Program.Meets (evaluate setting device stage) journal fun ending _ =>
      (Stage.ofEnding ending).shape = nextShape setting device stage.shape := by
  have failing : ∀ error, Program.Meets (evaluationFailed setting device error) journal
      fun ending _ => (Stage.ofEnding ending).shape = .recording := by
    intro error
    refine (evaluationFailed_meets error).mono ?_
    rintro ending after ⟨⟨time, event, rfl, -⟩, -⟩
    rfl
  cases stage with
  | fetching =>
      rw [evaluate, Stage.shape, nextShape]
      rcases setting.fetched device.id with desired | failure
      · rfl
      · exact failing _
  | collecting desired =>
      rw [evaluate, Stage.shape, nextShape]
      rcases setting.collected device.id with collected | failure
      · rfl
      · exact failing _
  | detecting desired collected =>
      rw [evaluate, Stage.shape, nextShape]
      rcases setting.detection device.id desired collected with report | failure
      · refine (auditDevice_meets report).mono ?_
        rintro ending after ⟨⟨event, rfl, -⟩, -⟩
        rfl
      · exact failing _
  | recording report event =>
      rw [evaluate, Stage.shape, nextShape]
      refine Program.Meets.bind (recordAuditEvent_meets _ _ event) ?_ ?_
      · rintro _ after ⟨answer, -⟩
        rw [← answer]
        rfl
      · rintro failure after ⟨answer, -⟩
        rw [← answer]
        rfl
  | finished => rfl
  | raised => rfl

/-- Two evaluations of one device that differ in nothing but times. -/
def SameShape (first second : Evaluation) : Prop :=
  first.device = second.device ∧ first.stage.shape = second.stage.shape

theorem SameShape.status
    {first second : Evaluation} (same : SameShape first second) :
    (evaluations setting).waits first = (evaluations setting).waits second ∧
      (evaluations setting).stops first = (evaluations setting).stops second := by
  obtain ⟨device, stage⟩ := first
  obtain ⟨other, otherStage⟩ := second
  obtain ⟨-, shape⟩ := same
  cases stage <;> cases otherStage <;> first | exact ⟨rfl, rfl⟩ | cases shape

theorem SameShape.resume
    {first second : Evaluation} (same : SameShape first second)
    (journal other : Journal Command) :
    SameShape ((evaluations setting).resume journal first).2
      ((evaluations setting).resume other second).2 := by
  refine ⟨same.1, ?_⟩
  have left : (Stage.ofEnding
      ((evaluate setting first.device first.stage).ending journal)).shape =
        nextShape setting first.device first.stage.shape :=
    shape_evaluate first.stage journal
  have right : (Stage.ofEnding
      ((evaluate setting second.device second.stage).ending other)).shape =
        nextShape setting second.device second.stage.shape :=
    shape_evaluate second.stage other
  refine left.trans ?_
  rw [same.1, same.2]
  exact right.symm

/-- Whether a cancellation finds the gather pending does not depend on the time. -/
theorem cancelsGather_congr (devices : List Device) (before other : Journal Command) :
    CancelsGather setting devices before ↔ CancelsGather setting devices other := by
  have same : List.Forall₂ SameShape
      (scheduled setting (begin devices before)).2
      (scheduled setting (begin devices other)).2 := by
    refine (evaluations setting).interleave_bisimilar (fun _ _ => SameShape.status)
      (fun journal other _ _ same => same.resume journal other) _ _ _ ?_
    rw [begin, begin, List.forall₂_same]
    exact fun evaluation _ => ⟨rfl, rfl⟩
  rw [CancelsGather, CancelsGather, Coroutines.pending_congr (fun _ _ => SameShape.status) same]

end Shapes

/-! ## How a scan ends -/

section Running

variable (setting : Setting) (useCaseId : String)

/-- A cancellation reaches the gather of these devices while it is pending. -/
def PendingAtCancellation (devices : List Device) : Prop :=
  CancelsGather setting devices Journal.blank

/-- A cancellation reaches the scan while it fetches or evaluates its devices. -/
inductive CancelledWhileScanning : Prop where
  | fetching
      (cancelled : setting.answer .fetchDevices setting.devices = .error .cancelled) :
      CancelledWhileScanning
  | evaluating {devices : List Device}
      (fetched : setting.answer .fetchDevices setting.devices = .ok devices)
      (pending : PendingAtCancellation setting devices) :
      CancelledWhileScanning

/-- Every append up to the last one succeeds, and the devices are evaluated. -/
structure Completes (devices : List Device) : Prop where
  started : setting.appendEnding .started = .ok ()
  fetched : setting.answer .fetchDevices setting.devices = .ok devices
  uncancelled : ¬ PendingAtCancellation setting devices
  recorded : ∀ device ∈ devices, setting.deviceAppended device.id = .done
  terminated : setting.appendEnding .terminated = .ok ()

/-- How a scan ends, and what its trail then holds. -/
inductive Scanned : Except Raised DriftScanResult → List EventBody → Prop where
  | startFailed
      {raised : Raised} (failed : setting.appendEnding .started = .error raised) :
      Scanned (.error raised)
        (if setting.lands .started then [startedEvent useCaseId] else [])
  | devicesFailed
      {failure : ActivityFailure} (begun : setting.appendEnding .started = .ok ())
      (failed : setting.answer .fetchDevices setting.devices =
        .error (.activityError failure)) :
      Scanned (.error (.activityError failure)) [startedEvent useCaseId]
  | cancelled
      {result : DriftScanResult} {startedAt endedAt : Int} {events : List EventBody}
      (begun : setting.appendEnding .started = .ok ())
      (cancels : CancelledWhileScanning setting)
      (answered : setting.appendEnding .cancelled = .ok ())
      (silent : ∀ body ∈ events, announced body = none)
      (returned : result.toDriftScanFields =
        cancelledFields setting useCaseId Dict.empty startedAt endedAt) :
      Scanned (.ok result)
        (startedEvent useCaseId :: (events ++ [cancelledEvent useCaseId]))
  | cancelFailed
      {raised : Raised} {trail : List EventBody}
      (begun : setting.appendEnding .started = .ok ())
      (cancels : CancelledWhileScanning setting)
      (failed : setting.appendEnding .cancelled = .error raised) :
      Scanned (.error raised) trail
  | deviceFailed
      {devices : List Device} {device : Device} {landed : Bool}
      {failure : ActivityFailure} {trail : List EventBody}
      (begun : setting.appendEnding .started = .ok ())
      (fetched : setting.answer .fetchDevices setting.devices = .ok devices)
      (uncancelled : ¬ PendingAtCancellation setting devices)
      (member : device ∈ devices)
      (appended : setting.deviceAppended device.id = .failed landed failure) :
      Scanned (.error (.activityError failure)) trail
  | terminateFailed
      {devices : List Device} {reports : List DriftReport} {raised : Raised}
      {events : List EventBody}
      (begun : setting.appendEnding .started = .ok ())
      (fetched : setting.answer .fetchDevices setting.devices = .ok devices)
      (uncancelled : ¬ PendingAtCancellation setting devices)
      (silent : ∀ body ∈ events, announced body = none)
      (failed : setting.appendEnding .terminated = .error raised) :
      Scanned (.error raised) (startedEvent useCaseId :: (events ++
        if setting.lands .terminated then [terminatedEvent useCaseId reports] else []))
  | completed
      {devices : List Device} {reports : List DriftReport} {result : DriftScanResult}
      {startedAt endedAt : Int} {events : List EventBody}
      (completes : Completes setting devices)
      (evaluated : List.Forall₂ (Evaluated setting) devices reports)
      (silent : ∀ body ∈ events, announced body = none)
      (recorded : events.Perm (reports.map deviceEvent))
      (ordered : startedAt ≤ endedAt)
      (returned : result.toDriftScanFields =
        scanFields setting useCaseId reports startedAt endedAt) :
      Scanned (.ok result) (startedEvent useCaseId :: (events ++
        [terminatedEvent useCaseId reports]))

variable {setting useCaseId}

theorem nodup_devices
    {devices : List Device} (fetched : setting.answer .fetchDevices setting.devices = .ok devices) :
    (devices.map Device.id).Nodup := by
  rw [Surroundings.answer.eq_def] at fetched
  split_ifs at fetched
  rcases given : setting.states with states | failure
  · rw [Setting.devices, given] at fetched
    cases fetched
    exact nodup_fetchDevicesForUseCase states
  · rw [Setting.devices, given] at fetched
    cases fetched

theorem map_deviceId
    {devices : List Device} {reports : List DriftReport}
    (evaluated : List.Forall₂ (Evaluated setting) devices reports) :
    reports.map DriftReport.deviceId = devices.map Device.id := by
  induction evaluated with
  | nil => rfl
  | cons head rest induction =>
      obtain ⟨time, rfl⟩ := head
      rw [List.map_cons, List.map_cons, induction, deviceId_evaluation]

/-- Every report is clean, drifted or errored. -/
theorem statusCount_sum (reports : List DriftReport) :
    statusCount .clean reports + statusCount .drifted reports +
      statusCount .error reports = reports.length := by
  induction reports with
  | nil => rfl
  | cons report rest induction =>
      simp only [statusCount, List.countP_cons, List.length_cons] at induction ⊢
      rcases status : report.status with _ | _ | _ <;> simp <;> omega

/-- The dictionary of the reports has one entry for each of them. -/
theorem entries_reports
    {reports : List DriftReport} (distinct : (reports.map DriftReport.deviceId).Nodup) :
    (Dict.ofPairs (reports.map fun report => (report.deviceId, report))).entries =
      reports.map fun report => (report.deviceId, report) :=
  Dict.entries_ofPairs (by rwa [List.map_map])

theorem scanFields_valid
    {reports : List DriftReport} (distinct : (reports.map DriftReport.deviceId).Nodup)
    (startedAt endedAt : Int) :
    (scanFields setting useCaseId reports startedAt endedAt).Valid where
  counts := by
    have sum := statusCount_sum reports
    simp only [scanFields]
    omega
  reports := by
    simp [scanFields, Dict.size, entries_reports distinct]

theorem cancelledFields_valid (startedAt endedAt : Int) :
    (cancelledFields setting useCaseId Dict.empty startedAt endedAt).Valid where
  counts := by simp [cancelledFields]
  reports := by simp [cancelledFields]

theorem startedEvent_valid : (startedEvent useCaseId).Valid := by
  constructor <;> simp [startedEvent, AuditEventType.ofActivity]

theorem cancelledEvent_valid : (cancelledEvent useCaseId).Valid := by
  constructor <;> simp [cancelledEvent, AuditEventType.ofActivity, validOutcomes]

theorem terminatedEvent_valid (reports : List DriftReport) :
    (terminatedEvent useCaseId reports).Valid := by
  constructor <;> simp [terminatedEvent, AuditEventType.ofActivity, validOutcomes]

variable {before : Journal Command}

/-- A cancelled scan records its cancellation and returns no reports. -/
theorem cancel_meets (startedAt : Int) :
    Program.Meets (cancel setting useCaseId startedAt Dict.empty) before fun ending after =>
      (setting.appendEnding .cancelled = .ok () ∧
        (∃ (result : DriftScanResult) (endedAt : Int), ending = .ok result ∧
          result.toDriftScanFields =
            cancelledFields setting useCaseId Dict.empty startedAt endedAt) ∧
        before.Grew after [cancelledEvent useCaseId] []) ∨
      ∃ raised, setting.appendEnding .cancelled = .error raised ∧ ending = .error raised := by
  refine Program.Meets.bind
    (record_meets workflowType Await.cancelled cancelledEvent_valid) ?_ ?_
  · rintro _ recorded ⟨answer, grew⟩
    have lands : setting.lands .cancelled = true := lands_of_appended answer.symm
    rw [if_pos lands] at grew
    refine Program.Meets.bind now_meets ?_ ?_
    · rintro endedAt after ⟨read, grewOn, -⟩
      rw [validated, DriftScanResult.build_of_valid
        (cancelledFields_valid startedAt endedAt), Except.mapError, Program.meets_ofExcept]
      exact Or.inl ⟨answer.symm, ⟨_, endedAt, rfl, rfl⟩, grew.trans grewOn⟩
    · rintro failure after ⟨read, -⟩
      cases read
  · rintro failure after ⟨answer, -⟩
    exact Or.inr ⟨failure, answer.symm, rfl⟩

/-- A completed evaluation records its counts and returns its reports. -/
theorem conclude_meets
    {reports : List DriftReport} (distinct : (reports.map DriftReport.deviceId).Nodup)
    {startedAt : Int} (begun : startedAt ≤ setting.now before.ticks) :
    Program.Meets (conclude setting useCaseId startedAt reports) before fun ending after =>
      (setting.appendEnding .terminated = .ok () ∧
        (∃ (result : DriftScanResult) (endedAt : Int), ending = .ok result ∧
          startedAt ≤ endedAt ∧
          result.toDriftScanFields =
            scanFields setting useCaseId reports startedAt endedAt) ∧
        before.Grew after [terminatedEvent useCaseId reports] []) ∨
      ∃ raised, setting.appendEnding .terminated = .error raised ∧ ending = .error raised ∧
        before.Grew after
          (if setting.lands .terminated then [terminatedEvent useCaseId reports] else [])
          [] := by
  refine Program.Meets.bind
    (record_meets workflowType Await.terminated (terminatedEvent_valid reports)) ?_ ?_
  · rintro _ recorded ⟨answer, grew⟩
    have lands : setting.lands .terminated = true := lands_of_appended answer.symm
    rw [if_pos lands] at grew
    refine Program.Meets.bind now_meets ?_ ?_
    · rintro endedAt after ⟨read, grewOn, -⟩
      cases read
      rw [validated, DriftScanResult.build_of_valid (scanFields_valid distinct startedAt _),
        Except.mapError, Program.meets_ofExcept]
      exact Or.inl ⟨answer.symm, ⟨_, _, rfl, le_trans begun (setting.monotone grew.ticks),
        rfl⟩, grew.trans grewOn⟩
    · rintro failure after ⟨read, -⟩
      cases read
  · rintro failure after ⟨answer, grew⟩
    exact Or.inr ⟨failure, answer.symm, rfl, grew⟩

theorem scanDevices_meets
    {startedAt : Int} (begun : setting.appendEnding .started = .ok ())
    (later : startedAt ≤ setting.now before.ticks)
    (opened : before.trail = [startedEvent useCaseId]) :
    Program.Meets (scanDevices setting useCaseId startedAt) before fun ending after =>
      Scanned setting useCaseId ending after.trail := by
  have cancelling : ∀ {reached : Journal Command} {events : List EventBody}
      {commands : List Command},
      before.Grew reached events commands → (∀ body ∈ events, announced body = none) →
      CancelledWhileScanning setting →
      Program.Meets (cancel setting useCaseId startedAt Dict.empty) reached
        fun ending after => Scanned setting useCaseId ending after.trail := by
    intro reached events commands grew silent cancels
    refine (cancel_meets startedAt).mono ?_
    rintro ending after (⟨answered, ⟨result, endedAt, rfl, returned⟩, grewOn⟩ |
      ⟨raised, failed, rfl⟩)
    · rw [(grew.trans grewOn).trail, opened]
      exact Scanned.cancelled begun cancels answered silent returned
    · exact Scanned.cancelFailed begun cancels failed
  refine Program.Meets.attempt
    (executeActivity_meets Await.fetchDevices _ setting.devices) ?_ ?_
  · rintro devices fetched ⟨answer, grewFetch⟩
    have laterFetched := le_trans later (setting.monotone grewFetch.ticks)
    refine Program.Meets.attempt gather_meets ?_ ?_
    · intro reports reached ended
      cases ended with
      | completed uncancelled evaluated grew silent appended recorded =>
          have pending : ¬ PendingAtCancellation setting devices := by
            rwa [PendingAtCancellation, cancelsGather_congr devices Journal.blank fetched]
          have distinct : (reports.map DriftReport.deviceId).Nodup := by
            rw [map_deviceId evaluated]
            exact nodup_devices answer.symm
          refine (conclude_meets distinct
            (le_trans laterFetched (setting.monotone grew.ticks))).mono ?_
          rintro ending after (⟨terminated, ⟨result, endedAt, rfl, ordered, returned⟩, grewOn⟩ |
            ⟨raised, failed, rfl, grewOn⟩)
          · have trail := (grewFetch.trans (grew.trans grewOn)).trail
            rw [opened, List.nil_append] at trail
            rw [trail]
            exact Scanned.completed ⟨begun, answer.symm, pending, appended, terminated⟩
              evaluated silent recorded ordered returned
          · have trail := (grewFetch.trans (grew.trans grewOn)).trail
            rw [opened, List.nil_append] at trail
            rw [trail]
            exact Scanned.terminateFailed begun answer.symm pending silent failed
    · intro raised reached ended
      cases ended with
      | cancelled cancels grew silent =>
          refine cancelling (grewFetch.trans grew) (by simpa using silent) ?_
          refine .evaluating answer.symm ?_
          rwa [PendingAtCancellation, cancelsGather_congr devices Journal.blank fetched]
      | appendFailed uncancelled member appended grew silent =>
          refine Scanned.deviceFailed begun answer.symm ?_ member appended
          rwa [PendingAtCancellation, cancelsGather_congr devices Journal.blank fetched]
  · rintro raised fetched ⟨answer, grewFetch⟩
    have answered := answer
    simp only [Surroundings.answer] at answered
    split_ifs at answered with cancelled
    · cases answered
      exact cancelling grewFetch (by simp) (.fetching answer.symm)
    · rcases given : setting.devices with devices | failure
      · rw [given] at answered
        cases answered
      · rw [given] at answered
        cases answered
        change Scanned setting useCaseId (.error (.activityError failure)) fetched.trail
        rw [grewFetch.trail, opened]
        exact Scanned.devicesFailed begun answer.symm

variable (setting useCaseId) in
/-- Every run of a scan ends in one of these ways. -/
theorem run_scanned :
    Program.Meets (run setting useCaseId) Journal.blank fun ending after =>
      Scanned setting useCaseId ending after.trail := by
  refine Program.Meets.bind now_meets ?_ ?_
  · rintro startedAt begun ⟨read, grewFirst, -⟩
    cases read
    refine Program.Meets.bind
      (record_meets workflowType Await.started startedEvent_valid) ?_ ?_
    · rintro _ recorded ⟨answer, grew⟩
      rw [if_pos (lands_of_appended answer.symm)] at grew
      refine scanDevices_meets answer.symm ?_ (grewFirst.trans grew).trail
      exact setting.monotone (Nat.zero_le _)
    · rintro raised after ⟨answer, grew⟩
      rw [(grewFirst.trans grew).trail]
      exact Scanned.startFailed answer.symm
  · rintro failure after ⟨read, -⟩
    cases read

/-! ## Which way a scan ends -/

section Ways

variable {ending : Except Raised DriftScanResult} {trail : List EventBody}
variable {devices : List Device}

/-- A cancellation reaches a scan while it evaluates, and its record is appended. -/
structure Cancels (setting : Setting) : Prop where
  started : setting.appendEnding .started = .ok ()
  scanning : CancelledWhileScanning setting
  appended : setting.appendEnding .cancelled = .ok ()

theorem not_scanning_of_completes
    (completes : Completes setting devices) : ¬ CancelledWhileScanning setting := by
  rintro (cancelled | ⟨fetched, pending⟩)
  · rw [completes.fetched] at cancelled
    cases cancelled
  · cases completes.fetched.symm.trans fetched
    exact completes.uncancelled pending

theorem devices_unique
    {others : List Device} (completes : Completes setting devices)
    (again : Completes setting others) : devices = others := by
  cases completes.fetched.symm.trans again.fetched
  rfl

/-- A cancelled scan returns an empty result with all counts zero. -/
theorem returned_of_cancels
    (scanned : Scanned setting useCaseId ending trail) (cancels : Cancels setting) :
    ∃ (result : DriftScanResult) (startedAt endedAt : Int), ending = .ok result ∧
      result.toDriftScanFields =
        cancelledFields setting useCaseId Dict.empty startedAt endedAt := by
  have evaluated : ∀ {devices : List Device},
      setting.answer .fetchDevices setting.devices = .ok devices →
        PendingAtCancellation setting devices := by
    intro devices fetched
    cases cancels.scanning with
    | fetching cancelled =>
        rw [fetched] at cancelled
        cases cancelled
    | evaluating again pending =>
        cases fetched.symm.trans again
        exact pending
  cases scanned with
  | startFailed failed => cases cancels.started.symm.trans failed
  | devicesFailed begun failed =>
      cases cancels.scanning with
      | fetching cancelled => cases failed.symm.trans cancelled
      | evaluating fetched pending => cases failed.symm.trans fetched
  | cancelled begun scanning answered silent returned => exact ⟨_, _, _, rfl, returned⟩
  | cancelFailed begun scanning failed => cases cancels.appended.symm.trans failed
  | deviceFailed begun fetched uncancelled => exact absurd (evaluated fetched) uncancelled
  | terminateFailed begun fetched uncancelled => exact absurd (evaluated fetched) uncancelled
  | completed completes => exact absurd (evaluated completes.fetched) completes.uncancelled

/-- A scan that completes returns one report for every device. -/
theorem returned_of_completes
    (scanned : Scanned setting useCaseId ending trail)
    (completes : Completes setting devices) :
    ∃ (reports : List DriftReport) (result : DriftScanResult)
      (startedAt endedAt : Int) (events : List EventBody),
      ending = .ok result ∧
      List.Forall₂ (Evaluated setting) devices reports ∧
      events.Perm (reports.map deviceEvent) ∧
      result.toDriftScanFields =
        scanFields setting useCaseId reports startedAt endedAt ∧
      trail = startedEvent useCaseId :: (events ++ [terminatedEvent useCaseId reports]) := by
  cases scanned with
  | startFailed failed => cases completes.started.symm.trans failed
  | devicesFailed begun failed => cases completes.fetched.symm.trans failed
  | cancelled begun scanning => exact absurd scanning (not_scanning_of_completes completes)
  | cancelFailed begun scanning => exact absurd scanning (not_scanning_of_completes completes)
  | deviceFailed begun fetched uncancelled member appended =>
      cases completes.fetched.symm.trans fetched
      cases (completes.recorded _ member).symm.trans appended
  | terminateFailed begun fetched uncancelled silent failed =>
      cases completes.terminated.symm.trans failed
  | @completed found reports result startedAt endedAt events again evaluated silent
      recorded ordered returned =>
      cases devices_unique completes again
      exact ⟨reports, result, startedAt, endedAt, events, rfl, evaluated, recorded,
        returned, rfl⟩

end Ways

/-! ## The reports of a result -/

section Results

variable {devices : List Device} {reports : List DriftReport} {result : DriftScanResult}
variable {startedAt endedAt : Int}
variable (evaluated : List.Forall₂ (Evaluated setting) devices reports)
variable (distinct : (devices.map Device.id).Nodup)
variable (returned : result.toDriftScanFields =
  scanFields setting useCaseId reports startedAt endedAt)

include evaluated distinct returned

theorem entries_of_returned :
    result.reports.entries = reports.map fun report => (report.deviceId, report) := by
  rw [returned, scanFields]
  exact entries_reports (by rwa [map_deviceId evaluated])

theorem values_of_returned : result.reports.values = reports := by
  simp [Dict.values, entries_of_returned evaluated distinct returned, Function.comp_def]

/-- Every device has its own report in the result. -/
theorem get?_of_returned {device : Device} (member : device ∈ devices) :
    ∃ report ∈ reports, result.reports.get? device.id = some report ∧
      report.deviceId = device.id ∧ Evaluated setting device report := by
  obtain ⟨report, present, own⟩ := exists_mem_of_forall₂ evaluated member
  have keyed : report.deviceId = device.id := by
    obtain ⟨time, rfl⟩ := own
    exact deviceId_evaluation setting device time
  refine ⟨report, present, ?_, keyed, own⟩
  rw [Dict.get?_eq_some_iff, entries_of_returned evaluated distinct returned, ← keyed]
  exact List.mem_map.2 ⟨report, present, rfl⟩

end Results

end Running

end Snapl.Orchestrator.ScanDrift
