import Navin.Anomalies.Service
import Navin.Semantics.Since
import Navin.Semantics.Timed

/-! Which anomalies does maintenance remove, and after how long? Detections, resolutions, deletions
of shipments and clean-ups run in any order, and any write may fail or be lost. -/
namespace Navin.Anomalies

open Async Program

section Writes

abbrev AnomalyEvent (ι : Type) : Type :=
  Event AnomalyCall AnomalyCall.Answer ThrownError ι

/-- The time that a call which may write the anomaly sets as that of its last update. -/
def AnomalyCall.dates (anomaly : Anomaly) : AnomalyCall → Option Date
  | .findByIdAndUpdate id _ now =>
      if ObjectId.cast? id = some anomaly.id then some now else none
  | .updateMany shipmentId _ now =>
      if ObjectId.cast? shipmentId = some anomaly.shipmentId then some now else none
  | _ => none

/-- The answer says that something was written. -/
def AnomalyCall.hasWritten : (call : AnomalyCall) → call.Answer → Bool
  | .findByIdAndUpdate _ _ _, updated => updated.isSome
  | .updateMany _ _ _, _ => true
  | _, _ => false

def AnomalyCall.resolves (id : ObjectId) : AnomalyCall → Bool
  | .findByIdAndUpdate text _ _ => ObjectId.cast? text = some id
  | _ => false

variable {ι : Type}

/-- The event is known to have written the anomaly. -/
def KnownWrite (anomaly : Anomaly) (event : AnomalyEvent ι) : Prop :=
  (event.request.dates anomaly).isSome ∧
    ∃ answer, event.response = .ok answer ∧ event.request.hasWritten answer = true

/-- A write to the anomaly took place at the date, and none is known of since. -/
def LastWritten (history : List (AnomalyEvent ι)) (anomaly : Anomaly) (date : Date) : Prop :=
  ∃ newer write older, history = newer ++ write :: older ∧
    write.request.dates anomaly = some date ∧ ∀ later ∈ newer, ¬KnownWrite anomaly later

theorem LastWritten.cons {history : List (AnomalyEvent ι)} {anomaly : Anomaly} {date : Date}
    {event : AnomalyEvent ι} (h : LastWritten history anomaly date)
    (hEvent : ¬KnownWrite anomaly event) : LastWritten (event :: history) anomaly date := by
  obtain ⟨newer, write, older, rfl, hWrite, hSince⟩ := h
  exact ⟨event :: newer, write, older, rfl, hWrite, List.forall_mem_cons.mpr ⟨hEvent, hSince⟩⟩

end Writes

section Steps

variable {decision : AnomalyDecision} {store : AnomalyStore} {call : AnomalyCall}
  {created current : Anomaly}

variable (decision store call) in
/-- A call takes effect, or it fails and only time passes. -/
theorem perform_cases :
    ((anomalies.perform decision store call).1 : AnomalyStore) =
        (execute decision (store.wait decision.elapsed) call).1 ∨
      (∃ error, (anomalies.perform decision store call).2 = .error error) ∧
        ((anomalies.perform decision store call).1 : AnomalyStore) = store.wait decision.elapsed :=
  faultedBy_cases

variable (decision call) in
/-- What a call does to an anomaly that is stored. -/
theorem execute_cases (hCurrent : store.anomalies.get? created.id = some current)
    (hShipment : current.shipmentId = created.shipmentId) :
    ((execute decision store call).1.anomalies.get? created.id = some current ∧
      ∀ answer, (execute decision store call).2 = .ok answer → (call.dates created).isSome →
        call.hasWritten answer = false) ∨
    (∃ next, (execute decision store call).1.anomalies.get? created.id = some next ∧
      next.shipmentId = created.shipmentId ∧ call.dates created = some next.updatedAt ∧
      (next.resolved = true → current.resolved = true ∨ call.resolves created.id = true)) ∨
    ∃ cutoffDate, call = .deleteMany cutoffDate ∧ current.outdated cutoffDate = true := by
  cases call with
  | create anomaly now =>
      left
      simp only [execute, castingId]
      cases ObjectId.cast? anomaly.shipmentId with
      | none => simp [hCurrent]
      | some shipmentId =>
          dsimp only
          split
          · rename_i hFree
            have hOther : created.id ≠ decision.freshId := by
              intro hSame
              rw [createdAnomaly, ← hSame, hCurrent] at hFree
              cases hFree
            simp [Collection.get?_insert, createdAnomaly, hOther, hCurrent, AnomalyCall.dates]
          · simp [hCurrent]
  | findByIdAndUpdate id update now =>
      simp only [execute, castingId]
      cases hId : ObjectId.cast? id with
      | none => simp [hCurrent]
      | some found =>
          by_cases hSame : found = created.id
          · subst hSame
            cases hLive : current.deletedAt.isNone with
            | false =>
                left
                simp [hCurrent, Option.filter, hLive, AnomalyCall.hasWritten]
            | true =>
                right
                left
                refine ⟨update.apply now current, ?_, hShipment, by simp [AnomalyCall.dates, hId,
                  Resolution.apply], fun _ => .inr (by simp [AnomalyCall.resolves, hId])⟩
                simp [hCurrent, Option.filter, hLive, Collection.get?_modify_self]
          · left
            have hDates : (AnomalyCall.findByIdAndUpdate id update now).dates created = none := by
              simp [AnomalyCall.dates, hId, hSame]
            refine ⟨?_, by simp [hDates]⟩
            dsimp only
            split
            · exact hCurrent
            · rw [← hCurrent]
              exact Collection.get?_modify_of_ne _ (apply_id update now) (Ne.symm hSame)
  | updateMany shipmentId deletedAt now =>
      simp only [execute, castingId]
      cases hId : ObjectId.cast? shipmentId with
      | none => simp [hCurrent]
      | some found =>
          by_cases hSame : found = created.shipmentId
          · subst hSame
            right
            left
            refine ⟨current.delete deletedAt now, ?_, hShipment, by simp [AnomalyCall.dates, hId,
              Anomaly.delete], fun hResolved => .inl hResolved⟩
            simp [Collection.get?_modifyAll, hCurrent, Anomaly.isOf, hShipment]
          · left
            have hOther : current.isOf found = false := by
              simp [Anomaly.isOf, hShipment, Ne.symm hSame]
            simp [Collection.get?_modifyAll, hCurrent, hOther, AnomalyCall.dates, hId, hSame]
  | deleteMany cutoffDate =>
      cases hOutdated : current.outdated cutoffDate with
      | true => exact .inr (.inr ⟨cutoffDate, rfl, hOutdated⟩)
      | false =>
          left
          simp [execute, Collection.get?_filter, hCurrent, Option.filter, hOutdated,
            AnomalyCall.dates]
  | aggregate organizationId =>
      left
      refine ⟨?_, by simp [AnomalyCall.dates]⟩
      simp only [execute]
      split <;> exact hCurrent
  | _ => exact .inl ⟨hCurrent, by simp [AnomalyCall.dates]⟩

variable {ι : Type} {i : ι} {since : List (AnomalyEvent ι)}

/-- The anomaly is stored. If it is resolved, that came about since it was created. -/
def Kept (created : Anomaly) (since : List (AnomalyEvent ι)) (store : AnomalyStore) : Prop :=
  ∃ current, store.anomalies.get? created.id = some current ∧
    current.shipmentId = created.shipmentId ∧
    (current.resolved = true → LastWritten since created current.updatedAt ∧
      ∃ event ∈ since, event.request.resolves created.id = true)

/-- A clean-up took place when the anomaly had been resolved and was last written before the
cutoff. -/
def CleanedUp (created : Anomaly) (since : List (AnomalyEvent ι)) : Prop :=
  ∃ later j cutoffDate response earlier date,
    since = later ++ ⟨j, .deleteMany cutoffDate, response⟩ :: earlier ∧
    LastWritten earlier created date ∧ date.ms < cutoffDate.ms ∧
    ∃ event ∈ earlier, event.request.resolves created.id = true

theorem CleanedUp.cons {event : AnomalyEvent ι} (h : CleanedUp created since) :
    CleanedUp created (event :: since) := by
  obtain ⟨later, j, cutoffDate, response, earlier, date, rfl, hRest⟩ := h
  exact ⟨event :: later, j, cutoffDate, response, earlier, date, rfl, hRest⟩

/-- An event that leaves the anomaly alone. -/
theorem Kept.quiet {event : AnomalyEvent ι} {after : AnomalyStore} (h : Kept created since store)
    (hSame : after.anomalies.get? created.id = store.anomalies.get? created.id)
    (hEvent : ¬KnownWrite created event) : Kept created (event :: since) after := by
  obtain ⟨current, hCurrent, hShipment, hResolved⟩ := h
  refine ⟨current, hSame.trans hCurrent, hShipment, fun hNow => ?_⟩
  obtain ⟨hLast, resolution, hMem, hResolves⟩ := hResolved hNow
  exact ⟨hLast.cons hEvent, resolution, List.mem_cons_of_mem event hMem, hResolves⟩

/-- One call of any request, whatever comes of it. -/
theorem Kept.perform (h : Kept created since store) (decision : AnomalyDecision) (i : ι)
    (call : AnomalyCall) :
    Kept created (⟨i, call, (anomalies.perform decision store call).2⟩ :: since)
        (anomalies.perform decision store call).1 ∨
      CleanedUp created (⟨i, call, (anomalies.perform decision store call).2⟩ :: since) := by
  obtain ⟨current, hCurrent, hShipment, hResolved⟩ := h
  have hKept : Kept created since (store.wait decision.elapsed) :=
    ⟨current, hCurrent, hShipment, hResolved⟩
  have hThere : (store.wait decision.elapsed).anomalies.get? created.id = some current := hCurrent
  rcases perform_cases decision store call with hEffect | ⟨⟨error, hError⟩, hSame⟩
  · rcases execute_cases decision call hThere hShipment with ⟨hStill, hQuiet⟩ |
      ⟨next, hNext, hSame, hDates, hBefore⟩ | ⟨cutoffDate, rfl, hOutdated⟩
    · left
      refine hKept.quiet ((congrArg (·.anomalies.get? created.id) hEffect).trans
        (hStill.trans hCurrent.symm)) fun ⟨hDates, answer, hAnswer, hWritten⟩ => ?_
      have hDone := (congrArg Prod.snd (faultedBy_ok hAnswer)).symm.trans hAnswer
      rw [hQuiet answer hDone hDates] at hWritten
      cases hWritten
    · left
      refine ⟨next, (congrArg (·.anomalies.get? created.id) hEffect).trans hNext, hSame,
        fun hNow => ⟨⟨[], _, since, rfl, hDates, by simp⟩, ?_⟩⟩
      rcases hBefore hNow with hAlready | hResolves
      · obtain ⟨-, event, hMem, hEvent⟩ := hResolved hAlready
        exact ⟨event, List.mem_cons_of_mem _ hMem, hEvent⟩
      · exact ⟨_, List.mem_cons_self, hResolves⟩
    · right
      simp only [Anomaly.outdated, Bool.and_eq_true, decide_eq_true_eq] at hOutdated
      obtain ⟨hLast, hMem⟩ := hResolved hOutdated.1
      exact ⟨[], i, cutoffDate, _, since, current.updatedAt, rfl, hLast, hOutdated.2, hMem⟩
  · left
    refine hKept.quiet (congrArg (·.anomalies.get? created.id) hSame) ?_
    rintro ⟨-, answer, hAnswer, -⟩
    cases hError.symm.trans hAnswer

/-- An anomaly that was created is stored, as it was answered. -/
theorem kept_of_created {evaluated : EvaluatedAnomaly} {now : Date}
    (h : (anomalies.perform decision store (.create evaluated now)).2 = .ok created) :
    Kept created ([] : List (AnomalyEvent ι))
      (anomalies.perform decision store (.create evaluated now)).1 := by
  have hDone : anomalies.perform decision store (.create evaluated now) =
    execute decision (store.wait decision.elapsed) (.create evaluated now) := faultedBy_ok h
  rw [hDone] at h ⊢
  simp only [execute, castingId] at h ⊢
  cases hId : ObjectId.cast? evaluated.shipmentId with
  | none =>
      rw [hId] at h
      cases h
  | some shipmentId =>
      simp only [hId] at h ⊢
      split at h
      · rename_i hFree
        cases h
        refine ⟨_, ?_, rfl, fun hResolved => ?_⟩
        · simp only [dif_pos hFree, Collection.get?_insert, if_pos]
        · cases hResolved
      · cases h

end Steps

section Requests

/-- What a request is, and the time it has read last. -/
structure Progress where
  request : AnomalyRequest
  now : Option Date := none

def Progress.next (progress : Progress) :
    (call : AnomalyCall) → Except ThrownError call.Answer → Progress
  | .currentDate, .ok now => { progress with now := some now }
  | _, _ => progress

theorem next_request (progress : Progress) (call : AnomalyCall)
    (response : Except ThrownError call.Answer) :
    (progress.next call response).request = progress.request := by
  cases call <;> cases response <;> rfl

/-- The calls of a request. -/
def AnomalyRequest.Calls : AnomalyRequest → AnomalyCall → Prop
  | .detect _, .currentDate | .detect _, .resolveTelemetryThresholdsForShipment _ => True
  | .detect _, .create _ _ | .detect _, .auditLog _ => True
  | .resolve _ _ _, .currentDate => True
  | .resolve id resolvedBy note, .findByIdAndUpdate asked update _ =>
      asked = id ∧ update.resolvedBy = resolvedBy ∧ update.resolutionNote = note
  | .stats _, .getRedisClient => True
  | .stats organizationId, .get key => key = statsCacheKey organizationId
  | .stats organizationId, .set key _ _ => key = statsCacheKey organizationId
  | .stats organizationId, .aggregate asked => asked = organizationId
  | .deleteShipment _, .currentDate => True
  | .deleteShipment shipmentId, .updateMany asked _ _ => asked = shipmentId
  | .maintenance _, .currentDate | .maintenance _, .deleteMany _ => True
  | _, _ => False

theorem saveAll_uses (data : TelemetryData) (evaluated : List EvaluatedAnomaly) :
    (saveAll evaluated).Uses (AnomalyRequest.detect data).Calls := by
  induction evaluated with
  | nil => exact .pure
  | cons anomaly rest ih =>
      refine (Uses.await trivial).bind fun now => ?_
      have hSaved : (tryCatch (Except.ok <$> ask (.create anomaly now)) fun error =>
          return .error error : AnomalyM (Except ThrownError Anomaly)).Uses
            (AnomalyRequest.detect data).Calls := by
        rw [map_eq_pure_bind]
        exact ((Uses.await trivial).bind fun _ => .pure).tryCatch fun _ => .pure
      exact hSaved.bind fun _ => ih.bind fun _ => .pure

theorem createAnomalies_uses (data : TelemetryData) (evaluated : List EvaluatedAnomaly) :
    (createAnomalies evaluated).Uses (AnomalyRequest.detect data).Calls := by
  refine (saveAll_uses data evaluated).bind fun saved => ?_
  split
  · exact .pure
  · exact .throw

theorem forM_auditLog_uses (data : TelemetryData) (docs : List Anomaly) :
    (docs.forM fun doc => ask (.auditLog doc.audit)).Uses (AnomalyRequest.detect data).Calls := by
  induction docs with
  | nil => exact .pure
  | cons doc rest ih => exact (Uses.await trivial).bind fun _ => ih

theorem detectAnomaly_uses (data : TelemetryData) :
    (detectAnomaly data).Uses (AnomalyRequest.detect data).Calls := by
  have hTime : data.time.Uses (AnomalyRequest.detect data).Calls := by
    unfold TelemetryData.time
    split
    · exact .pure
    · exact .await trivial
  refine hTime.bind fun timestamp => (Uses.await trivial).bind fun thresholds => ?_
  dsimp only
  split
  · exact .pure
  · exact (createAnomalies_uses data _).bind fun docs =>
      (forM_auditLog_uses data docs).bind fun _ => .pure

theorem resolveAnomalyService_uses (id resolvedBy : String) (note : Option String) :
    (resolveAnomalyService id resolvedBy note).Uses
      (AnomalyRequest.resolve id resolvedBy note).Calls := by
  refine (Uses.await trivial).bind fun resolvedAt => (Uses.await trivial).bind fun now =>
    (Uses.await ⟨rfl, rfl, rfl⟩).bind fun found => ?_
  cases found with
  | none => exact .throw
  | some anomaly => exact .pure

theorem readStatsCache_uses (organizationId : Option String) :
    (readStatsCache (statsCacheKey organizationId)).Uses
      (AnomalyRequest.stats organizationId).Calls := by
  have hGet : (AnomalyRequest.stats organizationId).Calls (.get (statsCacheKey organizationId)) := rfl
  refine .tryCatch ((Uses.await trivial).bind fun _ => ?_) fun _ => .pure
  exact .tryCatch ((Uses.await hGet).bind fun _ => .pure) fun _ => .pure

theorem writeStatsCache_uses (organizationId : Option String) (client : Bool) (stats : AnomalyStats) :
    (writeStatsCache client (statsCacheKey organizationId) stats).Uses
      (AnomalyRequest.stats organizationId).Calls := by
  have hSet : (AnomalyRequest.stats organizationId).Calls
      (.set (statsCacheKey organizationId) stats STATS_CACHE_TTL) := rfl
  unfold writeStatsCache
  split
  · exact (Uses.await hSet).tryCatch fun _ => .pure
  · exact .pure

theorem getAnomalyStatsService_uses (organizationId : Option String) :
    (getAnomalyStatsService organizationId).Uses (AnomalyRequest.stats organizationId).Calls := by
  refine (readStatsCache_uses organizationId).bind fun read => ?_
  obtain ⟨client, cached⟩ := read
  cases cached with
  | some cached => exact .pure
  | none =>
      have hAggregate : (AnomalyRequest.stats organizationId).Calls (.aggregate organizationId) := rfl
      exact (Uses.await hAggregate).bind fun result =>
        (writeStatsCache_uses organizationId client _).bind fun _ => .pure

theorem deleteShipmentAnomalies_uses (shipmentId : String) :
    (deleteShipmentAnomalies shipmentId).Uses (AnomalyRequest.deleteShipment shipmentId).Calls :=
  (Uses.await trivial).bind fun _ => (Uses.await trivial).bind fun _ => .await rfl

theorem processMaintenance_uses [ServerZone] (job : MaintenanceJobData) :
    (processMaintenance job).Uses (AnomalyRequest.maintenance job).Calls := by
  unfold processMaintenance
  split
  · exact (Uses.await trivial).bind fun _ => (Uses.await trivial).bind fun _ => .pure
  · exact .throw

variable [ServerZone] {request : AnomalyRequest}

theorem program_uses (request : AnomalyRequest) : request.program.Uses request.Calls := by
  cases request with
  | detect data =>
      rw [AnomalyRequest.program, map_eq_pure_bind]
      exact (detectAnomaly_uses data).bind fun _ => .pure
  | resolve id resolvedBy note =>
      rw [AnomalyRequest.program, map_eq_pure_bind]
      exact (resolveAnomalyService_uses id resolvedBy note).bind fun _ => .pure
  | stats organizationId =>
      rw [AnomalyRequest.program, map_eq_pure_bind]
      exact (getAnomalyStatsService_uses organizationId).bind fun _ => .pure
  | deleteShipment shipmentId => exact (deleteShipmentAnomalies_uses shipmentId).bind fun _ => .pure
  | maintenance job => exact (processMaintenance_uses job).bind fun _ => .pure

/-- What anomalies are written and removed for. -/
def asRequested : Protocol AnomalyCall AnomalyCall.Answer ThrownError Progress where
  allows progress call :=
    match call with
    | .findByIdAndUpdate id update _ =>
        progress.request = .resolve id update.resolvedBy update.resolutionNote
    | .deleteMany cutoffDate =>
        ∃ job now, progress.request = .maintenance job ∧
          job.jobType = "cleanup_resolved_anomalies" ∧ progress.now = some now ∧
          cutoffDate = daysBefore now job.days
    | _ => True
  next := Progress.next

/-- A call of another request than a maintenance job is allowed at any time. -/
theorem allows_of_calls {call : AnomalyCall} (h : request.Calls call)
    (hRequest : ∀ job, request ≠ .maintenance job) (now : Option Date) :
    asRequested.allows ⟨request, now⟩ call := by
  cases call with
  | findByIdAndUpdate id update date =>
      cases request with
      | resolve asked resolvedBy note =>
          obtain ⟨rfl, rfl, rfl⟩ := h
          rfl
      | _ => cases h
  | deleteMany cutoffDate =>
      cases request with
      | maintenance job => exact absurd rfl (hRequest job)
      | _ => cases h
  | _ => trivial

theorem processMaintenance_follows (job : MaintenanceJobData) :
    (processMaintenance job).Follows asRequested (fun _ _ => True) ⟨.maintenance job, none⟩ := by
  unfold processMaintenance
  split
  · rename_i hType
    refine .await_bind trivial (fun _ => trivial) fun now => ?_
    exact .await_bind ⟨job, now, rfl, hType, rfl, rfl⟩ (fun _ => trivial) fun _ => trivial
  · trivial

theorem program_follows (request : AnomalyRequest) :
    request.program.Follows asRequested (fun _ _ => True) { request } := by
  have hOther (hRequest : ∀ job, request ≠ .maintenance job) :
      request.program.Follows asRequested (fun _ _ => True) { request } := by
    refine Follows.mono ((program_uses request).follows_within
      (I := fun progress : Progress => progress.request = request) (fun progress call hSame hCall => ?_)
      rfl) fun _ _ _ => trivial
    subst hSame
    exact ⟨allows_of_calls hCall hRequest progress.now, next_request progress call⟩
  cases request with
  | maintenance job =>
      exact (processMaintenance_follows job).bind (fun _ _ _ => trivial) fun _ _ _ => trivial
  | _ => exact hOther (by simp)

end Requests

section Runs

theorem clock_perform (decision : AnomalyDecision) (store : AnomalyStore) (call : AnomalyCall) :
    ((anomalies.perform decision store call).1 : AnomalyStore).clock =
      store.clock + decision.elapsed := by
  refine faultedBy_view AnomalyStore.clock ?_
  cases call with
  | create anomaly now =>
      simp only [execute, castingId]
      split
      · rfl
      · split <;> rfl
  | findByIdAndUpdate id update now =>
      simp only [execute, castingId]
      split
      · rfl
      · split <;> rfl
  | updateMany shipmentId deletedAt now =>
      simp only [execute, castingId]
      split <;> rfl
  | aggregate organizationId =>
      simp only [execute]
      split <;> rfl
  | _ => rfl

theorem clock_le_perform (decision : AnomalyDecision) (store : AnomalyStore) (call : AnomalyCall) :
    store.clock ≤ ((anomalies.perform decision store call).1 : AnomalyStore).clock := by
  rw [clock_perform]
  omega

variable {ι : Type} [DecidableEq ι] [ServerZone] (requests : ι → AnomalyRequest)

/-- What the requests have learned from a history. -/
def learned (history : List (AnomalyEvent ι)) : ι → Progress :=
  asRequested.after (fun i => { request := requests i }) history

theorem learned_request (history : List (AnomalyEvent ι)) (i : ι) :
    (learned requests history i).request = requests i :=
  asRequested.after_field Progress.request next_request _ history i

variable {requests} {start : AnomalyStore} {point : TimedPoint anomalies ι AnomalyReply}

/-- No request knows of a time that has not come. -/
theorem learned_now_le (run : TimedRun AnomalyStore.clock (anomalyPool start requests) point)
    (i : ι) (now : Date) (hNow : (learned requests (point.1.map Prod.snd) i).now = some now) :
    now.ms ≤ AnomalyStore.clock point.2.store := by
  induction run with
  | refl => cases hNow
  | @tail before after prior last ih =>
      obtain ⟨decision, j, call, next, -, hHistory, hStore⟩ := last.cases
      have hClock := clock_le_perform decision before.2.store call
      rw [hStore]
      rw [hHistory, List.map_cons] at hNow
      by_cases hThread : i = j
      · subst hThread
        rw [learned, Protocol.after_cons_self] at hNow
        cases call with
        | currentDate =>
            cases hNow
            exact le_refl _
        | _ => exact (ih hNow).trans hClock
      · rw [learned, Protocol.after_cons_of_ne _ _ _ hThread] at hNow
        exact (ih hNow).trans hClock

/-- Every event is one that its request may cause. -/
theorem anomaly_allowed (run : TimedRun AnomalyStore.clock (anomalyPool start requests) point)
    {newer older : List (Int × AnomalyEvent ι)} {time : Int} {event : AnomalyEvent ι}
    (hSplit : point.1 = newer ++ (time, event) :: older) :
    asRequested.allows (learned requests (older.map Prod.snd) event.thread) event.request :=
  TimedRun.allowed asRequested (fun i => { request := requests i }) run
    (fun i => program_follows (requests i)) hSplit

/-- A clean-up takes place days after its cutoff, as the job says, but for a change of the offset
of local time. -/
theorem cutoff_le (run : TimedRun AnomalyStore.clock (anomalyPool start requests) point)
    {newer older : List (Int × AnomalyEvent ι)} {time : Int} {j : ι} {cutoffDate : Date}
    {response : Except ThrownError Nat}
    (hSplit : point.1 = newer ++ (time, ⟨j, .deleteMany cutoffDate, response⟩) :: older) :
    ∃ job, requests j = .maintenance job ∧ job.jobType = "cleanup_resolved_anomalies" ∧
      cutoffDate.ms + job.days * 86400000 ≤ time + ServerZone.spread := by
  obtain ⟨job, now, hRequest, hType, hNow, rfl⟩ := anomaly_allowed run hSplit
  rw [learned_request] at hRequest
  obtain ⟨before, decision, k, call, next, prior, rfl, -, hEvent⟩ := run.stepAt hSplit
  have hTime : time = ((anomalies.perform decision before.2.store call).1 : AnomalyStore).clock :=
    congrArg Prod.fst hEvent
  have hClock := clock_le_perform decision before.2.store call
  have hBefore := learned_now_le prior j now hNow
  have hDays := daysBefore_le now job.days
  exact ⟨job, hRequest, hType, by omega⟩

/-- What was done to resolve an anomaly was requested by someone. -/
theorem resolve_of_event (run : TimedRun AnomalyStore.clock (anomalyPool start requests) point)
    {event : AnomalyEvent ι} {id : ObjectId} (hMem : event ∈ point.1.map Prod.snd)
    (hResolves : event.request.resolves id = true) :
    ∃ text resolvedBy note, requests event.thread = .resolve text resolvedBy note ∧
      ObjectId.cast? text = some id := by
  obtain ⟨newer, older, hEvents⟩ := List.append_of_mem hMem
  obtain ⟨later, time, earlier, hSplit, -⟩ := exists_stamped hEvents
  have hAllowed := anomaly_allowed run hSplit
  obtain ⟨i, call, response⟩ := event
  cases call with
  | findByIdAndUpdate text update now =>
      have hRequest : (learned requests (earlier.map Prod.snd) i).request = _ := hAllowed
      rw [learned_request] at hRequest
      exact ⟨text, update.resolvedBy, update.resolutionNote, hRequest, of_decide_eq_true hResolves⟩
  | _ => cases hResolves

/-- An anomaly that is no longer stored was removed by a clean-up. Before that someone had
resolved it, and the last write to it that is known of was dated more days back than the job
retains, but for a change of the offset of local time. -/
theorem removed_after_retention
    (run : TimedRun AnomalyStore.clock (anomalyPool start requests) point)
    {newer older : List (Int × AnomalyEvent ι)} {time : Int} {i : ι} {evaluated : EvaluatedAnomaly}
    {now : Date} {created : Anomaly}
    (hCreated : point.1 = newer ++ (time, ⟨i, .create evaluated now, .ok created⟩) :: older)
    (hGone : (AnomalyStore.anomalies point.2.store).get? created.id = none) :
    ∃ later removed j cutoffDate response earlier job date,
      newer = later ++ (removed, ⟨j, .deleteMany cutoffDate, response⟩) :: earlier ∧
      requests j = .maintenance job ∧ job.jobType = "cleanup_resolved_anomalies" ∧
      LastWritten (earlier.map Prod.snd) created date ∧
      date.ms + job.days * 86400000 < removed + ServerZone.spread ∧
      ∃ event ∈ earlier.map Prod.snd, ∃ text resolvedBy note,
        requests event.thread = .resolve text resolvedBy note ∧
        ObjectId.cast? text = some created.id := by
  have hEvents : point.1.map Prod.snd =
      newer.map Prod.snd ++ ⟨i, .create evaluated now, .ok created⟩ :: older.map Prod.snd := by
    simp [hCreated]
  have hSince : Kept created (newer.map Prod.snd) point.2.store ∨
      CleanedUp created (newer.map Prod.snd) := by
    refine GuardedRun.since (TimedRun.erase run) hEvents
      (fun since store => Kept created since store ∨ CleanedUp created since)
      (fun decision store hAnswer => .inl (kept_of_created hAnswer.symm))
      fun since store decision j call ih => ?_
    rcases ih with hKept | hCleaned
    · exact hKept.perform decision j call
    · exact .inr hCleaned.cons
  rcases hSince with ⟨current, hCurrent, -⟩ | hCleaned
  · rw [hGone] at hCurrent
    cases hCurrent
  · obtain ⟨_, j, cutoffDate, response, _, date, hNewer, hLast, hBefore, event, hMem, hResolves⟩ :=
      hCleaned
    obtain ⟨later, removed, earlier, hSplit, rfl⟩ := exists_stamped hNewer
    have hPoint : point.1 = later ++ (removed, ⟨j, .deleteMany cutoffDate, response⟩) ::
        (earlier ++ (time, ⟨i, .create evaluated now, .ok created⟩) :: older) := by
      rw [hCreated, hSplit, List.append_assoc, List.cons_append]
    obtain ⟨job, hRequest, hType, hCutoff⟩ := cutoff_le run hPoint
    have hEvent : event ∈ point.1.map Prod.snd := by
      rw [hEvents, hSplit]
      simp [hMem]
    exact ⟨later, removed, j, cutoffDate, response, earlier, job, date, hSplit, hRequest, hType,
      hLast, by omega, event, hMem, resolve_of_event run hEvent hResolves⟩

end Runs

section Sample

theorem utc_bounded (_ _ : Int) : |(0 : Int) - 0| ≤ (0 : Nat) := by
  decide

private instance retentionZone : ServerZone where
  offsetAt _ := 0
  offsetOf _ := 0
  spread := 0
  offset_bounded := utc_bounded

private def warmReading : TelemetryData where
  shipmentId := (ObjectId.repeated 2).toString
  temperature := .digit 9
  humidity := .zero
  batteryLevel := .zero
  timestamp := some ⟨0⟩

private def lifeOfAnomaly (i : Fin 3) : AnomalyRequest :=
  if i = 0 then .detect warmReading
  else if i = 1 then .resolve (ObjectId.repeated 1).toString "manager" none
  else .maintenance { jobType := "cleanup_resolved_anomalies" }

private def coldOnly : TelemetryThresholds where
  maxTemp := some .zero

private def undisturbed : AnomalyDecision where
  freshId := .repeated 1
  thresholds := coldOnly

private def noAnomalies : AnomalyStore where
  clock := 0
  anomalies := .empty

private def removedAfterCreation : TimedPoint anomalies (Fin 3) AnomalyReply → Bool
  | (_ :: _ :: _ :: _ :: _ :: _ :: (_, ⟨_, .create _ _, .ok created⟩) :: _, pool) =>
      (AnomalyStore.anomalies pool.store).get? created.id |>.isNone
  | _ => false

/-- An anomaly is resolved at once and cleaned up after ninety-one days. -/
theorem removed_after_retention_sample :
    ∃ (point : TimedPoint anomalies (Fin 3) AnomalyReply) (created : Anomaly) (newer : _),
      TimedRun AnomalyStore.clock (anomalyPool noAnomalies lifeOfAnomaly) point ∧
      ∃ later removed j cutoffDate response earlier job date,
        newer = later ++ (removed, ⟨j, .deleteMany cutoffDate, response⟩) :: earlier ∧
        lifeOfAnomaly j = .maintenance job ∧ job.jobType = "cleanup_resolved_anomalies" ∧
        LastWritten (earlier.map Prod.snd) created date ∧
        date.ms + job.days * 86400000 < removed + ServerZone.spread ∧
        ∃ event ∈ earlier.map Prod.snd, ∃ text resolvedBy note,
          lifeOfAnomaly event.thread = .resolve text resolvedBy note ∧
          ObjectId.cast? text = some created.id := by
  obtain ⟨point, run, hTest⟩ := Pool.exists_timedRun AnomalyStore.clock
    (anomalyPool noAnomalies lifeOfAnomaly) removedAfterCreation
    [(undisturbed, 0), (undisturbed, 0), (undisturbed, 0), (undisturbed, 0), (undisturbed, 1),
      (undisturbed, 1), (undisturbed, 1), ({ undisturbed with elapsed := 7862400000 }, 2),
      (undisturbed, 2)] (by decide +kernel)
  unfold removedAfterCreation at hTest
  split at hTest
  · rename_i a b c d e f time i evaluated now created older pool
    have hCreated : (a :: b :: c :: d :: e :: f ::
        (time, ⟨i, .create evaluated now, .ok created⟩) :: older) =
          [a, b, c, d, e, f] ++ (time, ⟨i, .create evaluated now, .ok created⟩) :: older := rfl
    exact ⟨_, created, [a, b, c, d, e, f], run,
      removed_after_retention run hCreated (Option.isNone_iff_eq_none.mp hTest)⟩
  · cases hTest

end Sample

end Navin.Anomalies
