import Navin.Semantics.Restriction
import Navin.Webhooks.TelemetryEtas

/-! Every record that waits to be anchored has one job for it. The record is stored
first and the job is enqueued next. Whoever has stored the one owes the other. -/
namespace Navin

open Async

/-- What stores readings, and what looks at them afterwards. -/
inductive IngestActivity where
  | ingest (items : List BulkTelemetryItem)
  | webhook (header : Option String) (body : IotWebhookBody)
  | detection (task : BackgroundTask)

def IngestActivity.program [Sha256] [Bcrypt] : IngestActivity → TelemetryM Unit
  | .ingest items => do
      let _ ← bulkIngestTelemetry items
  | .webhook header body => do
      let _ ← iotWebhook header body
  | .detection task => task.perform

def ingestPool [Sha256] [Bcrypt] {ι : Type} (store : TelemetryStore)
    (activities : ι → IngestActivity) : Pool telemetryWorld ι Unit where
  store := store
  thread i := (activities i).program

/-- The job is the one for the record. -/
structure AnchorTelemetryJob.Fits (job : AnchorTelemetryJob) (row : TelemetryRow) : Prop where
  telemetryId : job.telemetryId = row.id.toString
  shipmentId : ObjectId.cast? job.shipmentId = some row.shipmentId
  dataHash : job.dataHash = row.dataHash

namespace TelemetryStore

variable (store : TelemetryStore)

/-- The jobs that were enqueued for a record. -/
def jobsOf (id : ObjectId) : List AnchorTelemetryJob :=
  store.2.anchorJobs.filter fun job => job.telemetryId = id.toString

/-- Every record that waits to be anchored has exactly one job. -/
def PendingPaired : Prop :=
  ∀ id telemetry, store.telemetryRecord id = some telemetry →
    telemetry.anchorStatus = .pendingAnchor →
    ∃ job, store.jobsOf id = [job] ∧ job.Fits telemetry.toTelemetryRow

/-- Every job is for a stored record. -/
def JobsKnown : Prop :=
  ∀ job ∈ store.2.anchorJobs, ∃ row ∈ store.1.telemetry, job.telemetryId = row.id.toString

end TelemetryStore

section Protocol

/-- Where an ingest is. It is broken if it gives up between the record and the job. -/
inductive AnchorStage where
  | idle
  | owing (job : AnchorTelemetryJob)
  | broken

namespace AnchorStage

def next : AnchorStage → (request : TelemetryCall) → Except ThrownError request.Answer →
    AnchorStage
  | .idle, .telemetryCreate input, .ok telemetry =>
      .owing ⟨telemetry.id.toString, input.shipmentId, input.dataHash⟩
  | .owing _, .pushStellarAnchorJob _, _ => .idle
  | stage, _, _ => stage

/-- A backend call leads nowhere, unless it fails while a job is owed. -/
def settle {α : Type} : AnchorStage → Except ThrownError α → AnchorStage
  | .owing _, .error _ => .broken
  | stage, _ => stage

end AnchorStage

/-- The calls that neither store records nor enqueue jobs, and leave what waits waiting. -/
def leavesPending : BackendCall ⊕ TelemetryCall → Bool
  | .inl request => !request.writesTelemetry
  | .inr (.telemetryFindByIdAndUpdate _ (.anomaly _)) => true
  | .inr (.telemetryCreate _) | .inr (.pushStellarAnchorJob _)
  | .inr (.telemetryFindByIdAndUpdate _ _) => false
  | .inr _ => true

def AnchorStage.allows : AnchorStage → BackendCall ⊕ TelemetryCall → Prop
  | .idle, request => leavesPending request = true ∨
      ∃ input, request = .inr (.telemetryCreate input)
  | .owing job, request => request = .inr (.pushStellarAnchorJob job) ∨
      ∃ shipmentId, request = .inl (.invalidateShipmentEtaCache shipmentId)
  | .broken, _ => False

/-- Who has stored a record goes on to its job. -/
def anchors : Protocol (BackendCall ⊕ TelemetryCall)
    (Sum.elim BackendCall.Answer TelemetryCall.Answer) ThrownError AnchorStage where
  allows := AnchorStage.allows
  next stage request response :=
    match request, response with
    | .inr request, response => stage.next request response
    | .inl _, response => stage.settle response

/-- A program ends with nothing owed, unless it fails when it is broken. -/
def EndsPaired {α : Type} (stage : AnchorStage) : Except ThrownError α → Prop
  | .ok _ => stage = .idle
  | .error _ => stage = .idle ∨ stage = .broken

theorem anchors_passes {request : BackendCall ⊕ TelemetryCall} (h : leavesPending request = true) :
    anchors.allows .idle request ∧ ∀ response, anchors.next .idle request response = .idle := by
  refine ⟨.inl h, fun response => ?_⟩
  cases request with
  | inl request => rfl
  | inr request => cases request <;> first | rfl | cases h

/-- What leaves the records waiting stays idle. -/
theorem follows_idle {α : Type} {p : TelemetryM α}
    (h : p.Uses fun request => leavesPending request = true) :
    p.Follows anchors (fun stage _ => stage = .idle) .idle :=
  h.follows fun _ => anchors_passes

variable {β : Type} {R : AnchorStage → Except ThrownError β → Prop}

/-- A record is created, and a job is owed. -/
theorem follows_create {input : TelemetryInput} {f : Telemetry → TelemetryM β}
    (hError : ∀ error, R .idle (.error error))
    (hOk : ∀ telemetry : Telemetry, (f telemetry).Follows anchors R
      (.owing ⟨telemetry.id.toString, input.shipmentId, input.dataHash⟩)) :
    (createTelemetryRecord input >>= f).Follows anchors R .idle :=
  Program.Follows.await_bind (.inr ⟨input, rfl⟩) hError hOk

/-- The job is enqueued, and nothing is owed. -/
theorem follows_push {job : AnchorTelemetryJob} {f : Unit → TelemetryM β}
    (hError : ∀ error, R .idle (.error error)) (hOk : (f ()).Follows anchors R .idle) :
    (call (.pushStellarAnchorJob job) >>= f).Follows anchors R (.owing job) :=
  Program.Follows.await_bind (.inl rfl) hError fun _ => hOk

theorem follows_invalidate {job : AnchorTelemetryJob} {shipmentId : String}
    {f : Unit → TelemetryM β} (hError : ∀ error, R .broken (.error error))
    (hOk : (f ()).Follows anchors R (.owing job)) :
    (backendProgram (request (.invalidateShipmentEtaCache shipmentId)) >>= f).Follows anchors R
      (.owing job) := by
  rw [backendProgram, request, Program.lift_await]
  exact Program.Follows.await_bind (.inr ⟨shipmentId, rfl⟩) hError fun _ => hOk

abbrev LeavesPending (α : Type) (p : TelemetryM α) : Prop :=
  p.Uses fun request => leavesPending request = true

theorem leavesPending_call (request : TelemetryCall) (h : leavesPending (.inr request) = true) :
    LeavesPending _ (call request) :=
  .await h

theorem LeavesPending.ends {α : Type} {p : TelemetryM α} (h : LeavesPending α p) :
    p.Follows anchors EndsPaired .idle := by
  refine (follows_idle h).mono fun stage outcome hIdle => ?_
  cases outcome with
  | ok _ => exact hIdle
  | error _ => exact .inl hIdle

/-- A program of which the first part ends so, and then leaves the rest to `f`. -/
theorem EndsPaired.bind {α β : Type} {p : TelemetryM α} {f : α → TelemetryM β}
    (hp : p.Follows anchors EndsPaired .idle)
    (hf : ∀ a, (f a).Follows anchors EndsPaired .idle) :
    (p >>= f).Follows anchors EndsPaired .idle := by
  apply hp.bind
  · intro stage a hIdle
    rw [show stage = .idle from hIdle]
    exact hf a
  · exact fun _ _ hEnds => hEnds

variable [Sha256]

omit [Sha256] in
theorem resolveShipmentId_leavesPending (notFoundCode : String)
    (shipmentId sensorId : Option String) :
    LeavesPending _ (resolveShipmentId notFoundCode shipmentId sensorId) :=
  resolveShipmentId_uses (C := (leavesPending · = true)) (fun _ => rfl) _ _ _

theorem ingestTelemetryItem_follows (item : BulkTelemetryItem) :
    (ingestTelemetryItem item).Follows anchors EndsPaired .idle := by
  rw [ingestTelemetryItem_eq]
  apply EndsPaired.bind (resolveShipmentId_leavesPending _ _ _).ends
  intro shipmentId
  apply follows_create (fun _ => .inl rfl)
  intro telemetry
  apply follows_invalidate (fun _ => .inr rfl)
  apply follows_push (fun _ => .inl rfl)
  apply EndsPaired.bind (leavesPending_call _ rfl).ends
  intro _
  exact EndsPaired.bind (leavesPending_call _ rfl).ends fun _ => rfl

theorem bulkIngestTelemetry_follows (items : List BulkTelemetryItem) :
    (bulkIngestTelemetry items).Follows anchors EndsPaired .idle := by
  induction items with
  | nil => rfl
  | cons item rest ih =>
      rw [bulkIngestTelemetry]
      apply EndsPaired.bind (ingestTelemetryItem_follows item)
      intro createdId
      exact EndsPaired.bind ih fun _ => rfl

theorem processIotWebhook_follows (body : IotWebhookBody) :
    (processIotWebhook body).Follows anchors EndsPaired .idle := by
  rw [processIotWebhook_eq]
  apply EndsPaired.bind (resolveShipmentId_leavesPending _ _ _).ends
  intro shipmentId
  apply follows_create (fun _ => .inl rfl)
  intro telemetry
  apply follows_push (fun _ => .inl rfl)
  apply EndsPaired.bind (leavesPending_call _ rfl).ends
  intro _
  exact EndsPaired.bind (leavesPending_call _ rfl).ends fun _ => rfl

variable [Bcrypt]

theorem iotWebhook_follows (header : Option String) (body : IotWebhookBody) :
    (iotWebhook header body).Follows anchors EndsPaired .idle := by
  have hKey : LeavesPending _ (requireApiKey header) :=
    requireApiKey_uses (C := (leavesPending · = true)) rfl rfl (fun _ _ => rfl) header
  apply EndsPaired.bind hKey.ends
  intro key
  split
  · exact processIotWebhook_follows body
  · exact .inl rfl

theorem IngestActivity.program_follows (activity : IngestActivity) :
    activity.program.Follows anchors EndsPaired .idle := by
  cases activity with
  | ingest items => exact EndsPaired.bind (bulkIngestTelemetry_follows items) fun _ => rfl
  | webhook header body => exact EndsPaired.bind (iotWebhook_follows header body) fun _ => rfl
  | detection task =>
      have hLeaves : LeavesPending _ task.perform := by
        apply task.perform_detects.mono
        intro request h
        cases request with
        | inl request =>
            simp only [detects, BackendCall.keepsCollections, Bool.not_eq_true',
              Bool.or_eq_false_iff] at h
            simp only [leavesPending, h.1.2, Bool.not_false]
        | inr request =>
            cases request with
            | telemetryFindByIdAndUpdate id update => cases update <;> first | rfl | cases h
            | _ => first | rfl | cases h
      exact hLeaves.ends

end Protocol

section Stores

variable {store after : TelemetryStore} {id : ObjectId} {telemetry : Telemetry}

/-- What a call that neither stores a record nor enqueues a job leaves as it was. -/
structure Waiting (store after : TelemetryStore) : Prop where
  rows : after.1.telemetry = store.1.telemetry
  jobs : after.2.anchorJobs = store.2.anchorJobs
  records : ∀ id telemetry, after.telemetryRecord id = some telemetry →
    ∃ before, store.telemetryRecord id = some before ∧
      before.toTelemetryRow = telemetry.toTelemetryRow ∧
      before.anchorStatus = telemetry.anchorStatus

theorem Waiting.of_readings (hRows : after.1.telemetry = store.1.telemetry)
    (hJobs : after.2.anchorJobs = store.2.anchorJobs)
    (hReadings : after.2.readings = store.2.readings) : Waiting store after where
  rows := hRows
  jobs := hJobs
  records id telemetry h := by
    rw [TelemetryStore.telemetryRecord_congr hRows hReadings] at h
    exact ⟨telemetry, h, rfl, rfl⟩

theorem Waiting.jobsOf (h : Waiting store after) : after.jobsOf id = store.jobsOf id := by
  rw [TelemetryStore.jobsOf, TelemetryStore.jobsOf, h.jobs]

theorem Waiting.refl : Waiting store store :=
  .of_readings rfl rfl rfl

/-- Flagging a record as an anomaly leaves it waiting. -/
theorem waiting_flag (target : ObjectId) (anomalyType : TelemetryAnomalyType) :
    Waiting store (store.updateTelemetry target (.anomaly anomalyType)) where
  rows := by
    simp [TelemetryStore.updateTelemetry, TelemetryUpdate.applyRow]
  jobs := rfl
  records id telemetry h := by
    rw [TelemetryStore.telemetryRecord_updateTelemetry] at h
    obtain ⟨before, hBefore, hAfter⟩ := Option.map_eq_some_iff.mp h
    refine ⟨before, hBefore, ?_⟩
    split_ifs at hAfter
    · rw [← hAfter]
      exact ⟨rfl, rfl⟩
    · rw [← hAfter]
      exact ⟨rfl, rfl⟩

theorem waiting_execute (decision : TelemetryDecision) {request : TelemetryCall}
    (h : leavesPending (.inr request) = true) :
    Waiting store (executeTelemetry decision store request).1 := by
  cases request with
  | telemetryCreate => cases h
  | pushStellarAnchorJob => cases h
  | telemetryFindByIdAndUpdate id update =>
      cases update with
      | anomaly anomalyType =>
          simp only [executeTelemetry, castingId]
          split
          · exact .refl
          · split
            · exact .refl
            · exact waiting_flag _ _
      | _ => cases h
  | anomalyCreate =>
      simp only [executeTelemetry]
      split
      · exact .refl
      · exact .of_readings rfl rfl rfl
  | apiKeyFind organizationId =>
      simp only [executeTelemetry, castingId]
      split <;> exact .refl
  | apiKeyRevoke id =>
      simp only [executeTelemetry, castingId]
      split
      · exact .refl
      · split
        · exact .refl
        · exact .of_readings rfl rfl rfl
  | thresholdFindOne organizationId shipmentType =>
      simp only [executeTelemetry, castingId]
      split <;> exact .refl
  | anchorEvent shipmentId dataHash =>
      simp only [executeTelemetry]
      split
      · exact .of_readings rfl rfl rfl
      · exact .refl
  | _ => exact .of_readings rfl rfl rfl

theorem waiting_perform (env : Decision × TelemetryDecision)
    {request : BackendCall ⊕ TelemetryCall} (h : leavesPending request = true) :
    Waiting store (telemetryWorld.perform env store request).1 := by
  cases request with
  | inl request =>
      have hRows : (perform env.1 store.1 request).1.telemetry = store.1.telemetry :=
        perform_telemetry ((Bool.not_eq_true' _).mp h)
      exact .of_readings hRows rfl rfl
  | inr request =>
      change Waiting store (performTelemetry env.2 store request).1
      rcases performTelemetry_cases env.2 store request with hKept | hDone
      · rw [hKept]
        exact .refl
      · rw [hDone]
        exact waiting_execute env.2 h

theorem telemetryRecord_eq_some_iff : store.telemetryRecord id = some telemetry ↔
    (store.1.telemetry.find? fun row => row.id = id) = some telemetry.toTelemetryRow ∧
      store.2.readings.lookup id = some telemetry.toReading := by
  simp only [TelemetryStore.telemetryRecord, Option.bind_eq_bind, Option.bind_eq_some_iff,
    Option.pure_def, Option.some.injEq]
  constructor
  · rintro ⟨row, hRow, reading, hReading, rfl⟩
    exact ⟨hRow, hReading⟩
  · rintro ⟨hRow, hReading⟩
    exact ⟨_, hRow, _, hReading, rfl⟩

theorem telemetryRecord_id (h : store.telemetryRecord id = some telemetry) :
    telemetry.id = id := by
  have hFound := List.find?_some (telemetryRecord_eq_some_iff.mp h).1
  exact of_decide_eq_true hFound

/-- The row of a fresh id is the one that was stored. -/
theorem telemetryRecord_insert {stored : Telemetry}
    (hFresh : ∀ row ∈ store.1.telemetry, row.id ≠ stored.id)
    (h : (store.insertTelemetry stored).telemetryRecord id = some telemetry) :
    id = stored.id ∧ telemetry.toTelemetryRow = stored.toTelemetryRow ∨
      id ≠ stored.id ∧ store.telemetryRecord id = some telemetry := by
  obtain ⟨hRow, hReading⟩ := telemetryRecord_eq_some_iff.mp h
  simp only [TelemetryStore.insertTelemetry, List.find?_append, List.lookup_append] at hRow hReading
  by_cases hId : id = stored.id
  · have hNone : (store.1.telemetry.find? fun row => row.id = id) = none := by
      simpa [hId] using hFresh
    rw [hNone, Option.none_or] at hRow
    simp only [hId, List.find?_cons, decide_true, Option.some.injEq] at hRow
    exact .inl ⟨hId, hRow.symm⟩
  · refine .inr ⟨hId, telemetryRecord_eq_some_iff.mpr ⟨?_, ?_⟩⟩
    · simpa [Ne.symm hId] using hRow
    · have hOther : (id == stored.id) = false := beq_eq_false_iff_ne.mpr hId
      simpa only [List.lookup_cons, hOther, List.lookup_nil, Option.or_none] using hReading

/-- A creation that is answered when it takes effect stores the record or does nothing. -/
theorem create_cases {decision : TelemetryDecision} {input : TelemetryInput}
    (hAnswered : ∀ error, decision.fault = some (.lost error) →
      ObjectId.cast? input.shipmentId = none) :
    (∃ error, performTelemetry decision store (.telemetryCreate input) = (store, .error error)) ∨
      ∃ shipmentId, ObjectId.cast? input.shipmentId = some shipmentId ∧
        (∀ row ∈ store.1.telemetry, row.id ≠ decision.freshId) ∧
        performTelemetry decision store (.telemetryCreate input) =
          (store.insertTelemetry (input.telemetry decision.freshId shipmentId),
            .ok (input.telemetry decision.freshId shipmentId)) := by
  have hDone : (∃ error, executeTelemetry decision store (.telemetryCreate input) =
      (store, .error error)) ∨
      ∃ shipmentId, ObjectId.cast? input.shipmentId = some shipmentId ∧
        (∀ row ∈ store.1.telemetry, row.id ≠ decision.freshId) ∧
        executeTelemetry decision store (.telemetryCreate input) =
          (store.insertTelemetry (input.telemetry decision.freshId shipmentId),
            .ok (input.telemetry decision.freshId shipmentId)) := by
    simp only [executeTelemetry, castingId]
    cases hCast : ObjectId.cast? input.shipmentId with
    | none => exact .inl ⟨_, rfl⟩
    | some shipmentId =>
        dsimp only
        split_ifs with hFresh
        · exact .inr ⟨shipmentId, rfl, hFresh, rfl⟩
        · exact .inl ⟨_, rfl⟩
  rw [performTelemetry]
  split
  next => exact hDone
  next error _ => exact .inl ⟨error, rfl⟩
  next error hFault =>
    have hNone := hAnswered error hFault
    refine .inl ⟨error, ?_⟩
    simp only [executeTelemetry, castingId, hNone]

/-- A job that is not refused is enqueued. -/
theorem push_enqueues {decision : TelemetryDecision} {job : AnchorTelemetryJob}
    (hAccepted : ∀ error, decision.fault ≠ some (.rejected error)) :
    (performTelemetry decision store (.pushStellarAnchorJob job)).1 =
      (store.1, { store.2 with anchorJobs := store.2.anchorJobs ++ [job] }) := by
  rw [performTelemetry]
  split
  next => rfl
  next error hFault => exact absurd hFault (hAccepted error)
  next => rfl

end Stores

section Runs

variable {ι : Type} [DecidableEq ι]

/-- No record is stored without the ingest hearing of it, and no job is refused. -/
def pairsReliably (_ : TelemetryStore) (request : BackendCall ⊕ TelemetryCall)
    (decision : Decision × TelemetryDecision) : Prop :=
  match request with
  | .inr (.telemetryCreate input) => ∀ error, decision.2.fault = some (.lost error) →
      ObjectId.cast? input.shipmentId = none
  | .inr (.pushStellarAnchorJob _) => ∀ error, decision.2.fault ≠ some (.rejected error)
  | _ => True

/-- Every record that waits has its job, or there is an ingest that owes it. -/
structure PairingInvariant (stages : ι → AnchorStage) (store : TelemetryStore) : Prop where
  intact : ∀ i, stages i ≠ .broken
  known : store.JobsKnown
  owed : ∀ i job, stages i = .owing job →
    ∃ row ∈ store.1.telemetry, job.telemetryId = row.id.toString ∧ store.jobsOf row.id = []
  apart : ∀ i j job job', stages i = .owing job → stages j = .owing job' →
    job.telemetryId = job'.telemetryId → i = j
  paired : ∀ id telemetry, store.telemetryRecord id = some telemetry →
    telemetry.anchorStatus = .pendingAnchor →
    (∃ job, store.jobsOf id = [job] ∧ job.Fits telemetry.toTelemetryRow) ∨
      ∃ i job, stages i = .owing job ∧ job.Fits telemetry.toTelemetryRow

variable {stages : ι → AnchorStage} {store after : TelemetryStore} {i : ι}

omit [DecidableEq ι] in
theorem PairingInvariant.waiting (h : PairingInvariant stages store)
    (hWaiting : Waiting store after) : PairingInvariant stages after where
  intact := h.intact
  known job hJob := by
    rw [hWaiting.jobs] at hJob
    rw [hWaiting.rows]
    exact h.known job hJob
  owed i job hOwing := by
    simp only [hWaiting.rows, hWaiting.jobsOf]
    exact h.owed i job hOwing
  apart := h.apart
  paired id telemetry hRecord hPending := by
    obtain ⟨before, hBefore, hRow, hStatus⟩ := hWaiting.records id telemetry hRecord
    rw [hWaiting.jobsOf, ← hRow]
    exact h.paired id before hBefore (hStatus.trans hPending)

omit [DecidableEq ι] in
/-- No job has been enqueued for an id that is not in use. -/
theorem PairingInvariant.jobsOf_fresh (h : PairingInvariant stages store) {id : ObjectId}
    (hFresh : ∀ row ∈ store.1.telemetry, row.id ≠ id) : store.jobsOf id = [] := by
  rw [TelemetryStore.jobsOf, List.filter_eq_nil_iff]
  intro job hJob hNamed
  obtain ⟨row, hRow, hKnown⟩ := h.known job hJob
  rw [of_decide_eq_true hNamed] at hKnown
  exact hFresh row hRow (ObjectId.toString_injective hKnown.symm)

omit [DecidableEq ι] in
/-- Nobody owes a job for it either. -/
theorem PairingInvariant.unowed_fresh (h : PairingInvariant stages store) {id : ObjectId}
    {job : AnchorTelemetryJob} (hFresh : ∀ row ∈ store.1.telemetry, row.id ≠ id)
    (hOwing : stages i = .owing job) : job.telemetryId ≠ id.toString := by
  intro hSame
  obtain ⟨row, hRow, hNamed, -⟩ := h.owed i job hOwing
  rw [hSame] at hNamed
  exact hFresh row hRow (ObjectId.toString_injective hNamed.symm)

omit [DecidableEq ι] in
/-- The job that is owed has not been enqueued before. -/
theorem PairingInvariant.jobsOf_owed (h : PairingInvariant stages store) {id : ObjectId}
    {job : AnchorTelemetryJob} (hOwing : stages i = .owing job)
    (hNamed : job.telemetryId = id.toString) : store.jobsOf id = [] := by
  obtain ⟨row, -, hRow, hNone⟩ := h.owed i job hOwing
  rwa [ObjectId.toString_injective (hRow.symm.trans hNamed)] at hNone

/-- A record is stored, and its job is owed. -/
theorem PairingInvariant.creating (h : PairingInvariant stages store) {input : TelemetryInput}
    {id shipmentId : ObjectId} (hIdle : stages i = .idle)
    (hCast : ObjectId.cast? input.shipmentId = some shipmentId)
    (hFresh : ∀ row ∈ store.1.telemetry, row.id ≠ id) :
    PairingInvariant
      (Function.update stages i (.owing ⟨id.toString, input.shipmentId, input.dataHash⟩))
      (store.insertTelemetry (input.telemetry id shipmentId)) := by
  obtain ⟨stored, hStored⟩ : ∃ stored, stored = input.telemetry id shipmentId := ⟨_, rfl⟩
  obtain ⟨job, hJob⟩ : ∃ job : AnchorTelemetryJob,
    job = ⟨id.toString, input.shipmentId, input.dataHash⟩ := ⟨_, rfl⟩
  have hId : stored.id = id := by rw [hStored]; rfl
  have hFits : job.Fits stored.toTelemetryRow := by
    rw [hStored, hJob]
    exact ⟨rfl, hCast, rfl⟩
  have hRows : (store.insertTelemetry stored).1.telemetry =
      store.1.telemetry ++ [stored.toTelemetryRow] := rfl
  have hJobs (other : ObjectId) :
      (store.insertTelemetry stored).jobsOf other = store.jobsOf other := rfl
  rw [← hStored, ← hJob]
  have hUnowed (j : ι) (other : AnchorTelemetryJob) (hOwing : stages j = .owing other) :
      other.telemetryId ≠ job.telemetryId := by
    rw [hJob]
    exact h.unowed_fresh hFresh hOwing
  have hStage (j : ι) (hj : j ≠ i) : Function.update stages i (.owing job) j = stages j :=
    Function.update_of_ne hj _ _
  constructor
  · intro j
    by_cases hj : j = i
    · rw [hj, Function.update_self]
      exact AnchorStage.noConfusion
    · rw [hStage j hj]
      exact h.intact j
  · intro other hOther
    obtain ⟨row, hRow, hNamed⟩ := h.known other hOther
    exact ⟨row, List.mem_append_left _ hRow, hNamed⟩
  · intro j other hOwing
    by_cases hj : j = i
    · rw [hj, Function.update_self] at hOwing
      cases hOwing
      refine ⟨stored.toTelemetryRow, ?_, hFits.telemetryId, ?_⟩
      · rw [hRows]
        exact List.mem_append_right _ (List.mem_singleton_self _)
      · rw [hJobs, hId, h.jobsOf_fresh hFresh]
    · rw [hStage j hj] at hOwing
      obtain ⟨row, hRow, hNamed, hNoJob⟩ := h.owed j other hOwing
      exact ⟨row, List.mem_append_left _ hRow, hNamed, hNoJob⟩
  · intro j k first second hFirst hSecond hSame
    by_cases hj : j = i <;> by_cases hk : k = i
    · rw [hj, hk]
    · rw [hj, Function.update_self] at hFirst
      rw [hStage k hk] at hSecond
      cases hFirst
      exact absurd hSame.symm (hUnowed k second hSecond)
    · rw [hk, Function.update_self] at hSecond
      rw [hStage j hj] at hFirst
      cases hSecond
      exact absurd hSame (hUnowed j first hFirst)
    · rw [hStage j hj] at hFirst
      rw [hStage k hk] at hSecond
      exact h.apart j k first second hFirst hSecond hSame
  · intro other telemetry hRecord hPending
    rw [← hId] at hFresh
    rcases telemetryRecord_insert hFresh hRecord with ⟨-, hRow⟩ | ⟨-, hOld⟩
    · rw [hRow]
      exact .inr ⟨i, job, Function.update_self .., hFits⟩
    · rcases h.paired other telemetry hOld hPending with hPaired | ⟨j, owed, hOwing, hOwed⟩
      · exact .inl hPaired
      · refine .inr ⟨j, owed, ?_, hOwed⟩
        rw [hStage j fun hj => ?_, hOwing]
        rw [hj, hIdle] at hOwing
        cases hOwing

/-- The job that is owed is enqueued. -/
theorem PairingInvariant.pushing (h : PairingInvariant stages store) {job : AnchorTelemetryJob}
    (hOwing : stages i = .owing job) :
    PairingInvariant (Function.update stages i .idle)
      (store.1, { store.2 with anchorJobs := store.2.anchorJobs ++ [job] }) := by
  obtain ⟨after, hAfter⟩ : ∃ after : TelemetryStore,
    after = (store.1, { store.2 with anchorJobs := store.2.anchorJobs ++ [job] }) := ⟨_, rfl⟩
  have hOther {id : ObjectId} (hNamed : job.telemetryId ≠ id.toString) :
      after.jobsOf id = store.jobsOf id := by
    simp [hAfter, TelemetryStore.jobsOf, hNamed]
  have hOwn {id : ObjectId} (hNamed : job.telemetryId = id.toString) : after.jobsOf id = [job] := by
    have hNone := h.jobsOf_owed hOwing hNamed
    rw [TelemetryStore.jobsOf] at hNone
    simp [hAfter, TelemetryStore.jobsOf, hNone, hNamed]
  have hStage {j : ι} {owed : AnchorTelemetryJob}
      (hj : Function.update stages i .idle j = .owing owed) : j ≠ i ∧ stages j = .owing owed := by
    by_cases hSame : j = i
    · rw [hSame, Function.update_self] at hj
      cases hj
    · rw [Function.update_of_ne hSame] at hj
      exact ⟨hSame, hj⟩
  rw [← hAfter]
  constructor
  · intro j
    by_cases hj : j = i
    · rw [hj, Function.update_self]
      exact AnchorStage.noConfusion
    · rw [Function.update_of_ne hj]
      exact h.intact j
  · intro other hMem
    rw [hAfter] at hMem ⊢
    rcases List.mem_append.mp hMem with hOld | hNew
    · exact h.known other hOld
    · obtain ⟨row, hRow, hNamed, -⟩ := h.owed i job hOwing
      rw [List.mem_singleton.mp hNew]
      exact ⟨row, hRow, hNamed⟩
  · intro j owed hj
    obtain ⟨hNe, hTheirs⟩ := hStage hj
    obtain ⟨row, hRow, hNamed, hNone⟩ := h.owed j owed hTheirs
    refine ⟨row, by rw [hAfter]; exact hRow, hNamed, ?_⟩
    rw [hOther fun hSame => hNe (h.apart j i owed job hTheirs hOwing (hNamed.trans hSame.symm))]
    exact hNone
  · intro j k first second hj hk hSame
    exact h.apart j k first second (hStage hj).2 (hStage hk).2 hSame
  · intro id telemetry hRecord hPending
    have hOld : store.telemetryRecord id = some telemetry := by
      rw [hAfter] at hRecord
      exact hRecord
    rcases h.paired id telemetry hOld hPending with ⟨paired, hJobs, hFits⟩ | ⟨j, owed, hj, hFits⟩
    · refine .inl ⟨paired, ?_, hFits⟩
      rw [hOther fun hSame => ?_, hJobs]
      rw [h.jobsOf_owed hOwing hSame] at hJobs
      cases hJobs
    · by_cases hSame : j = i
      · rw [hSame, hOwing] at hj
        cases hj
        have hId := telemetryRecord_id hOld
        exact .inl ⟨job, hOwn (hFits.telemetryId.trans (congrArg _ hId)), hFits⟩
      · exact .inr ⟨j, owed, by rw [Function.update_of_ne hSame, hj], hFits⟩

theorem PairingInvariant.step (h : PairingInvariant stages store)
    {env : Decision × TelemetryDecision} {request : BackendCall ⊕ TelemetryCall}
    (hAllows : anchors.allows (stages i) request) (hReliable : pairsReliably store request env) :
    PairingInvariant
      (Function.update stages i
        (anchors.next (stages i) request (telemetryWorld.perform env store request).2))
      (telemetryWorld.perform env store request).1 := by
  have hAllows : (stages i).allows request := hAllows
  cases hStage : stages i with
  | idle =>
      rw [hStage] at hAllows
      rcases hAllows with hLeaves | ⟨input, rfl⟩
      · rw [(anchors_passes hLeaves).2, ← hStage, Function.update_eq_self]
        exact h.waiting (waiting_perform env hLeaves)
      · change PairingInvariant (Function.update stages i (AnchorStage.next .idle
          (.telemetryCreate input) (performTelemetry env.2 store (.telemetryCreate input)).2))
            (performTelemetry env.2 store (.telemetryCreate input)).1
        rcases @create_cases store _ _ hReliable with
          ⟨error, hNothing⟩ | ⟨shipmentId, hCast, hFresh, hStored⟩
        · rw [hNothing]
          change PairingInvariant (Function.update stages i .idle) store
          rw [← hStage, Function.update_eq_self]
          exact h
        · rw [hStored]
          exact h.creating hStage hCast hFresh
  | owing job =>
      rw [hStage] at hAllows
      rcases hAllows with rfl | ⟨shipmentId, rfl⟩
      · have hStore : (telemetryWorld.perform env store (.inr (.pushStellarAnchorJob job))).1 =
            (store.1, { store.2 with anchorJobs := store.2.anchorJobs ++ [job] }) :=
          push_enqueues hReliable
        rw [hStore]
        exact h.pushing hStage
      · obtain ⟨answer, hAnswer⟩ := @perform_ok_of_alwaysAnswers env.1 store.1
          (.invalidateShipmentEtaCache shipmentId) rfl
        have hNext : AnchorStage.settle (.owing job)
            (perform env.1 store.1 (.invalidateShipmentEtaCache shipmentId)).2 = stages i := by
          rw [hAnswer, hStage]
          rfl
        change PairingInvariant (Function.update stages i (AnchorStage.settle (.owing job)
          (perform env.1 store.1 (.invalidateShipmentEtaCache shipmentId)).2)) _
        rw [hNext, Function.update_eq_self]
        exact h.waiting (waiting_perform env rfl)
  | broken => exact absurd hStage (h.intact i)

omit [DecidableEq ι] in
theorem PairingInvariant.start (hPaired : store.PendingPaired) (hKnown : store.JobsKnown) :
    PairingInvariant (fun _ : ι => .idle) store where
  intact _ := AnchorStage.noConfusion
  known := hKnown
  owed _ _ hOwing := by cases hOwing
  apart _ _ _ _ hOwing := by cases hOwing
  paired id telemetry hRecord hPending := .inl (hPaired id telemetry hRecord hPending)

/-- The telemetry code where records are stored and jobs are enqueued reliably. -/
abbrev pairingWorld : World (BackendCall ⊕ TelemetryCall)
    (Sum.elim BackendCall.Answer TelemetryCall.Answer) ThrownError :=
  telemetryWorld.restrict pairsReliably

variable [Sha256] [Bcrypt] {activities : ι → IngestActivity} {point : Point pairingWorld ι Unit}

/-- Whatever fails besides, once all ingests have ended every record that waits to be
anchored has exactly one job. -/
theorem pendingPaired_of_atRest (hPaired : store.PendingPaired) (hKnown : store.JobsKnown)
    (run : GuardedRun (anyStep : Guard pairingWorld ι)
      ((ingestPool store activities).restrict pairsReliably) point)
    (hRest : AtRest point) : TelemetryStore.PendingPaired point.2.store := by
  have hFollows (i : ι) :
      (((ingestPool store activities).restrict pairsReliably).thread i).Follows anchors
        EndsPaired .idle :=
    (activities i).program_follows
  have hInvariant : PairingInvariant (anchors.after (fun _ => .idle) point.1) point.2.store := by
    apply run.invariant anchors (fun _ => .idle) hFollows
      (fun history store => PairingInvariant (anchors.after (fun _ => .idle) history) store)
    · exact .start hPaired hKnown
    · intro history store env i request h hAllows _
      exact h.step hAllows (env store request).2
  have hIdle (i : ι) : anchors.after (fun _ => .idle) point.1 i = .idle := by
    rcases run.ended_of_atRest anchors (fun _ => .idle) hFollows hRest i with
      hIdle | ⟨outcome, hEnded⟩
    · exact hIdle
    · cases outcome with
      | ok _ => exact hEnded
      | error _ => exact hEnded.resolve_right (hInvariant.intact i)
  intro id telemetry hRecord hPending
  rcases hInvariant.paired id telemetry hRecord hPending with hJob | ⟨i, job, hOwing, -⟩
  · exact hJob
  · rw [hIdle i] at hOwing
    cases hOwing

end Runs

section Samples

def samplePairedItem : BulkTelemetryItem where
  shipmentId := sampleShipment.id.toString
  temperature := .ofNat 5
  humidity := .ofNat 50
  latitude := .finite (.ofNat 10)
  longitude := .finite (.ofNat 20)
  batteryLevel := .ofNat 90
  timestamp := ⟨0⟩
  sensorId := none

def samplePairedPool : Pool telemetryWorld Unit Unit :=
  @ingestPool blankSha256 plainBcrypt Unit ({}, {}) fun _ => .ingest [samplePairedItem]

private def pairing : Decision × TelemetryDecision :=
  ({}, { freshId := .repeated 1 })

private def pairingAlways : pairingWorld.Env :=
  fun _ request => ⟨pairing, by
    unfold pairsReliably
    split
    · intro _ hLost
      cases hLost
    · intro _ hRefused
      cases hRefused
    · trivial⟩

theorem empty_pendingPaired : TelemetryStore.PendingPaired ({}, {}) := by
  intro id telemetry hRecord
  cases hRecord

theorem empty_jobsKnown : TelemetryStore.JobsKnown ({}, {}) :=
  fun _ hJob => by cases hJob

/-- A record is stored, and so is its job. -/
theorem pendingPaired_of_atRest_sample : ∃ point : Point pairingWorld Unit Unit,
    (TelemetryState.anchorJobs (Prod.snd point.2.store)).length = 1 ∧
      TelemetryStore.PendingPaired point.2.store := by
  obtain ⟨point, run, hTest⟩ := Pool.exists_run (anyStep : Guard pairingWorld Unit)
    (samplePairedPool.restrict pairsReliably)
    (fun point => (point.2.thread ()).settled?.isSome &&
      (TelemetryState.anchorJobs (Prod.snd point.2.store)).length == 1)
    (List.replicate 5 (pairingAlways, ())) (by decide +kernel)
  simp only [Bool.and_eq_true, beq_iff_eq] at hTest
  refine ⟨point, hTest.2, ?_⟩
  exact @pendingPaired_of_atRest _ _ _ blankSha256 plainBcrypt _ _ empty_pendingPaired
    empty_jobsKnown run fun _ => .inl hTest.1

private def refusingJob : Decision × TelemetryDecision :=
  ({}, { freshId := .repeated 1, fault := some (.rejected .unavailable) })

/-- The queue refuses the job, and the record waits for ever. -/
theorem refused_job_leaves_record_pending : ¬∀ (_ : Sha256) (_ : Bcrypt)
    (activities : Unit → IngestActivity) (store : TelemetryStore)
    (point : Point telemetryWorld Unit Unit), store.PendingPaired → store.JobsKnown →
    GuardedRun anyStep (ingestPool store activities) point → AtRest point →
      TelemetryStore.PendingPaired point.2.store := by
  intro hClaim
  obtain ⟨point, run, hTest⟩ := Pool.exists_run anyStep samplePairedPool
    (fun point => (point.2.thread ()).settled?.isSome &&
      ((TelemetryState.anchorJobs (Prod.snd point.2.store)).isEmpty &&
        (TelemetryStore.telemetryRecord point.2.store (.repeated 1)).any
          fun telemetry => telemetry.anchorStatus = .pendingAnchor))
    [(pairing, ()), (pairing, ()), (refusingJob, ())] (by decide +kernel)
  simp only [Bool.and_eq_true, List.isEmpty_iff, Option.any_eq_true, decide_eq_true_eq] at hTest
  obtain ⟨hSettled, hNone, telemetry, hRecord, hPending⟩ := hTest
  obtain ⟨job, hJobs, -⟩ := hClaim blankSha256 plainBcrypt _ _ point empty_pendingPaired
    empty_jobsKnown run (fun _ => .inl hSettled) _ telemetry hRecord hPending
  rw [TelemetryStore.jobsOf, hNone] at hJobs
  cases hJobs

end Samples

end Navin
