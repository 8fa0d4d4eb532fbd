import Navin.Semantics.Paging
import Navin.Telemetry.ThresholdService
import Navin.Webhooks.Normalisation
import Navin.Webhooks.TelemetryEtas

/-! When the background detection of the webhook reports a lost position. The detector
reads the latest records back after the current one has been stored, and counts the
current one twice. A single coordinate that is zero is a missing one to it. -/
namespace Navin

open Async

/-- Where and when a reading was taken. -/
structure Fix where
  latitude : Coordinate
  longitude : Coordinate
  timestamp : Date

namespace Fix

variable (fix : Fix)

/-- The coordinates are invalid: one of them is not finite, or both are zero. -/
def Lacking : Prop :=
  fix.latitude.isFinite = false ∨ fix.longitude.isFinite = false ∨
    fix.latitude = .finite .zero ∧ fix.longitude = .finite .zero

instance : Decidable fix.Lacking :=
  inferInstanceAs (Decidable (_ ∨ _ ∨ _ ∧ _))

/-- A coordinate is not finite or is zero. -/
def Faint : Prop :=
  hasValidCoordinates fix.latitude fix.longitude = false

end Fix

def TelemetryRow.fix (row : TelemetryRow) : Fix :=
  ⟨row.latitude, row.longitude, row.timestamp⟩

def IotWebhookBody.fix (body : IotWebhookBody) : Fix :=
  ⟨body.reading.latitude, body.reading.longitude, body.reading.timestamp⟩

namespace TelemetryStore

variable (store : TelemetryStore) (shipmentId : ObjectId)

/-- The records of the shipment that are not deleted. -/
def recordsOf : List TelemetryRow :=
  store.1.telemetry.filter fun row => row.shipmentId = shipmentId && row.deletedAt.isNone

/-- Where the shipment was, the latest record first. -/
def fixesOf : List Fix :=
  (store.recordsOf shipmentId).reverse.map (·.fix)

/-- The limits for the readings of the shipment. -/
def limitsOf : TelemetryThresholds :=
  match store.1.liveShipment shipmentId with
  | none => mergeWithDefaults none
  | some shipment =>
      store.appliedThresholds shipment.enterpriseId (shipmentTypeOf shipment.offChainMetadata)

end TelemetryStore

theorem TelemetryStore.limitsOf_congr {store store' : TelemetryStore} {shipmentId : ObjectId}
    (hShipments : store'.1.shipments = store.1.shipments)
    (hThresholds : store'.2.thresholds = store.2.thresholds) :
    store'.limitsOf shipmentId = store.limitsOf shipmentId := by
  simp only [limitsOf, Store.liveShipment, Store.shipment, appliedThresholds, profile, hShipments,
    hThresholds]

/-- No service fails. -/
abbrev Faultless (decision : Decision × TelemetryDecision) : Prop :=
  decision.1.fault = none ∧ decision.2.fault = none

/-- A body that the webhook processes, and then the detection that it leaves behind. -/
structure IotTurn where
  env : Nat → Decision × TelemetryDecision
  before : TelemetryStore
  body : IotWebhookBody

section Turns

variable [Sha256]

namespace IotTurn

variable (turn : IotTurn) (shipmentId : ObjectId)

def webhook : TelemetryStore × Except ThrownError Telemetry ×
    (Nat → Decision × TelemetryDecision) :=
  (processIotWebhook turn.body).run telemetryWorld turn.env turn.before

/-- The tasks that the webhook leaves to `setImmediate`. -/
def tasks : List BackgroundTask :=
  turn.webhook.1.2.scheduled.drop turn.before.2.scheduled.length

def after : TelemetryStore :=
  ((Program.inTurn (turn.tasks.map (·.perform))).run telemetryWorld turn.webhook.2.2
    turn.webhook.1).1

/-- The webhook stores a reading of the shipment. -/
structure Processed : Prop where
  accepted : turn.body.accepted = true
  named : turn.body.target turn.before = some shipmentId
  faultless : ∀ n, Faultless (turn.env n)
  answered : ∃ telemetry, turn.webhook.2.1 = .ok telemetry

/-- The reading is within the limits of the shipment. -/
def NoOtherAnomaly : Prop :=
  ∀ telemetry, turn.webhook.2.1 = .ok telemetry →
    detectBreach (turn.before.limitsOf shipmentId) telemetry.detectionInput = none

/-- An alert of a lost position is raised. -/
def ReportsGpsLoss : Prop :=
  ∃ alert, turn.after.2.alerts = alert :: turn.before.2.alerts ∧ alert.type = "GPS_LOST"

end IotTurn

/-- The readings of a shipment one after the other, the latest first. Between two of them
other work leaves the records of the shipment alone. -/
inductive ReadingRun (shipmentId : ObjectId) (start : TelemetryStore) :
    List IotTurn → TelemetryStore → Prop
  | start : ReadingRun shipmentId start [] start
  | reading {turns : List IotTurn} {turn : IotTurn}
      (prior : ReadingRun shipmentId start turns turn.before)
      (processed : turn.Processed shipmentId) :
      ReadingRun shipmentId start (turn :: turns) turn.after
  | other {turns : List IotTurn} {store store' : TelemetryStore}
      (prior : ReadingRun shipmentId start turns store)
      (kept : store'.recordsOf shipmentId = store.recordsOf shipmentId) :
      ReadingRun shipmentId start turns store'

/-- A lost position is reported for a reading when it and the two before it lack
coordinates, and for no other. -/
def GpsLossExact (shipmentId : ObjectId) (start : TelemetryStore) (turns : List IotTurn) : Prop :=
  ∀ later turn earlier, turns = later ++ turn :: earlier → turn.NoOtherAnomaly shipmentId →
    (turn.ReportsGpsLoss ↔ ∃ second third rest,
      earlier.map (·.body.fix) ++ start.fixesOf shipmentId = second :: third :: rest ∧
        turn.body.fix.Lacking ∧ second.Lacking ∧ third.Lacking)

/-- From the third reading on, two faint ones in a row lack coordinates, and so does the
one before them. -/
def FaintMeansLost (shipmentId : ObjectId) (start : TelemetryStore) (turns : List IotTurn) : Prop :=
  ∀ later turn earlier, turns = later ++ turn :: earlier → turn.NoOtherAnomaly shipmentId →
    ∀ second third rest,
      earlier.map (·.body.fix) ++ start.fixesOf shipmentId = second :: third :: rest →
      turn.body.fix.Faint → second.Faint →
        turn.body.fix.Lacking ∧ second.Lacking ∧ third.Lacking

end Turns

section Detector

/-- What the detector makes of the records of the shipment. -/
def gpsCheckOf (rows : List TelemetryRow) (currentLat currentLng : Coordinate) : GpsCheck :=
  let recentRecords := (rows.insertionSort fun first second =>
    second.timestamp.ms ≤ first.timestamp.ms).take (gpsLossThreshold + 1)
  if recentRecords.length < gpsLossThreshold then ⟨false, 0⟩
  else if hasValidCoordinates currentLat currentLng then ⟨false, 0⟩
  else countMissing 1 recentRecords

theorem Fix.Lacking.faint {fix : Fix} (h : fix.Lacking) : fix.Faint := by
  rw [Fix.Faint, hasValidCoordinates]
  rcases h with hLatitude | hLongitude | ⟨hLatitude, -⟩
  · simp [hLatitude]
  · simp [hLongitude]
  · simp [hLatitude]

/-- The current record is the latest one, so that one more suffices. -/
theorem gpsCheckOf_iff {rows : List TelemetryRow} {current : Fix} {earlier : List Fix}
    (hRows : rows.reverse.map (·.fix) = current :: earlier)
    (hOrder : rows.reverse.Pairwise fun first second =>
      second.timestamp.ms < first.timestamp.ms) :
    (gpsCheckOf rows current.latitude current.longitude).hasGpsLoss = true ↔
      ∃ second third rest, earlier = second :: third :: rest ∧ current.Faint ∧ second.Faint := by
  rw [gpsCheckOf,
    Paging.insertionSort_eq_reverse (fun row : TelemetryRow => row.timestamp.ms) hOrder]
  obtain ⟨latest, previous, hReverse, rfl, rfl⟩ := List.map_eq_cons_iff.mp hRows
  rw [hReverse]
  match previous with
  | [] => simp [gpsLossThreshold]
  | [second] => simp [gpsLossThreshold]
  | second :: third :: rest =>
      have hFaint (row : TelemetryRow) :
          row.fix.Faint ↔ hasValidCoordinates row.latitude row.longitude = false := Iff.rfl
      have hExists : (∃ before older later,
          (second :: third :: rest).map (·.fix) = before :: older :: later ∧
            latest.fix.Faint ∧ before.Faint) ↔ latest.fix.Faint ∧ second.fix.Faint := by
        constructor
        · rintro ⟨before, older, later, hFixes, hLatest, hBefore⟩
          obtain ⟨rfl, -⟩ := List.cons.inj hFixes
          exact ⟨hLatest, hBefore⟩
        · rintro ⟨hLatest, hSecond⟩
          exact ⟨second.fix, third.fix, rest.map (·.fix), rfl, hLatest, hSecond⟩
      rw [hExists, hFaint, hFaint]
      change (if _ then _ else if hasValidCoordinates latest.latitude latest.longitude = true then _
        else _ : GpsCheck).hasGpsLoss = true ↔ _
      rw [if_neg (by simp [gpsLossThreshold])]
      cases hLatest : hasValidCoordinates latest.latitude latest.longitude with
      | true => simp
      | false =>
          cases hSecond : hasValidCoordinates second.latitude second.longitude <;>
            simp [countMissing, gpsLossThreshold, hLatest, hSecond]

end Detector

section Detection

variable {store : TelemetryStore} {text : String} {shipmentId : ObjectId}

/-- The condition on the steps of a run without failures. -/
abbrev Undisturbed (step : Step telemetryWorld) : Prop :=
  Faultless step.decision

/-- A text that names a shipment has the limits of that shipment. -/
theorem resolveTelemetryThresholdsForShipment_wp (hCast : ObjectId.cast? text = some shipmentId) :
    (resolveTelemetryThresholdsForShipment text).wp Undisturbed (fun outcome after =>
      outcome = .ok (store.limitsOf shipmentId) ∧ after = store) store := by
  have hText : text ≠ "" := by
    intro hEmpty
    rw [hEmpty] at hCast
    cases hCast
  have hProfile (decision : Decision × TelemetryDecision) (hStep : Faultless decision)
      (organizationId : ObjectId) (shipmentType : String) :
      ∃ doc, performTelemetry decision.2 store
          (.thresholdFindOne organizationId.toString shipmentType) = (store, .ok doc) ∧
        doc.map (·.toTelemetryThresholds) = store.profile organizationId shipmentType := by
    rw [performTelemetry_of_fault_none hStep.2]
    simp only [executeTelemetry, castingId, ObjectId.cast?_toString]
    exact ⟨_, rfl, rfl⟩
  rw [resolveTelemetryThresholdsForShipment, if_neg (by simp [hText, hCast]),
    TelemetryStore.limitsOf, findShipmentById, wp_request_bind]
  intro decision hStep
  rw [perform_of_fault_none hStep.1]
  simp only [execute, castingId, hCast]
  cases store.1.liveShipment shipmentId with
  | none => exact ⟨rfl, rfl⟩
  | some shipment =>
      change Program.wp Undisturbed (call _ >>= _) _ _
      rw [wp_call_bind]
      intro decision hStep
      obtain ⟨doc, hFind, hDoc⟩ := hProfile decision hStep shipment.enterpriseId
        (shipmentTypeOf shipment.offChainMetadata)
      rw [hFind]
      change Program.wp Undisturbed (if _ then _ else _) (fun outcome after =>
        outcome = .ok (store.appliedThresholds _ _) ∧ after = store) _
      rw [TelemetryStore.appliedThresholds, ← hDoc]
      split_ifs with hFallback
      · rw [wp_call_bind]
        intro decision hStep
        obtain ⟨fallback, hFind, hDefault⟩ := hProfile decision hStep shipment.enterpriseId
          defaultShipmentType
        rw [hFind, ← hDefault, Option.isNone_iff_eq_none.mp hFallback.1]
        exact ⟨rfl, rfl⟩
      · cases doc with
        | some profile => exact ⟨rfl, rfl⟩
        | none =>
            -- then the type is the default one, which has no profile either
            have hType : shipmentTypeOf shipment.offChainMetadata = defaultShipmentType := by
              simpa using hFallback
            rw [← hType, ← hDoc]
            exact ⟨rfl, rfl⟩

theorem detectGpsLoss_wp (hCast : ObjectId.cast? text = some shipmentId)
    (currentLat currentLng : Coordinate) :
    (detectGpsLoss text currentLat currentLng).wp Undisturbed (fun outcome after =>
      outcome = .ok (gpsCheckOf (store.recordsOf shipmentId) currentLat currentLng) ∧
        after = store) store := by
  rw [detectGpsLoss, Program.wp_tryCatch, wp_request_bind]
  intro decision hStep
  rw [perform_of_fault_none hStep.1]
  simp only [execute, castingId, hCast]
  change Program.wp Undisturbed (if _ then _ else if _ then _ else _) _ _
  rw [gpsCheckOf, TelemetryStore.recordsOf]
  split_ifs <;> exact ⟨rfl, rfl⟩

/-- Whatever is found is flagged, and no alert is raised by that. -/
theorem flagTelemetry_wp (telemetryId : ObjectId) (found : Option (TelemetryAnomalyType × String)) :
    (flagTelemetry telemetryId.toString found).wp Undisturbed (fun outcome after =>
      (∃ result, outcome = .ok result ∧ result.isAnomaly = found.isSome ∧
        result.anomalyType = found.map Prod.fst) ∧ after.2.alerts = store.2.alerts) store := by
  cases found with
  | none => exact ⟨⟨_, rfl, rfl, rfl⟩, rfl⟩
  | some found =>
      rw [flagTelemetry, wp_call_bind]
      intro decision hStep
      rw [performTelemetry_of_fault_none hStep.2]
      simp only [executeTelemetry, castingId, ObjectId.cast?_toString]
      split <;> exact ⟨⟨_, rfl, rfl, rfl⟩, rfl⟩

variable {telemetry : Telemetry}

/-- Within the limits, a lost position is all that is found. -/
theorem detectTelemetryAnomalies_wp
    (hLimits : detectBreach (store.limitsOf telemetry.shipmentId) telemetry.detectionInput = none) :
    (detectTelemetryAnomalies telemetry.detectionInput).wp Undisturbed (fun outcome after =>
      (∃ result, outcome = .ok result ∧
        result.isAnomaly = (gpsCheckOf (store.recordsOf telemetry.shipmentId) telemetry.latitude
          telemetry.longitude).hasGpsLoss ∧
        (result.isAnomaly = true → result.anomalyType = some .gpsLost)) ∧
      after.2.alerts = store.2.alerts) store := by
  have hCast : ObjectId.cast? telemetry.detectionInput.shipmentId = some telemetry.shipmentId :=
    ObjectId.cast?_toString _
  have hGps : (detectGpsLoss telemetry.detectionInput.shipmentId telemetry.detectionInput.latitude
      telemetry.detectionInput.longitude).wp Undisturbed _ store := detectGpsLoss_wp hCast _ _
  change (detectGpsLoss _ _ _).wp Undisturbed (fun outcome after => outcome = .ok (gpsCheckOf _
    telemetry.latitude telemetry.longitude) ∧ after = store) store at hGps
  generalize gpsCheckOf (store.recordsOf telemetry.shipmentId) telemetry.latitude
    telemetry.longitude = check at hGps ⊢
  rw [detectTelemetryAnomalies, Program.wp_tryCatch, Program.wp_bind]
  apply (resolveTelemetryThresholdsForShipment_wp hCast).mono
  rintro outcome after ⟨rfl, rfl⟩
  change Program.wp Undisturbed (detectWithThresholds _ _) _ _
  rw [detectWithThresholds, hLimits]
  change Program.wp Undisturbed (detectGpsLoss _ _ _ >>= _) _ _
  rw [Program.wp_bind]
  apply hGps.mono
  rintro outcome after ⟨rfl, rfl⟩
  apply (flagTelemetry_wp telemetry.id _).mono
  rintro outcome stored ⟨⟨result, rfl, hAnomaly, hType⟩, hAlerts⟩
  refine ⟨⟨result, rfl, ?_⟩, hAlerts⟩
  rw [hAnomaly, hType]
  cases check.hasGpsLoss <;> simp

/-- An alert is raised exactly for a lost position. -/
theorem detectIotAnomalies_wp
    (hLimits : detectBreach (store.limitsOf telemetry.shipmentId) telemetry.detectionInput = none) :
    (detectIotAnomalies telemetry text).wp Undisturbed (fun _ after =>
      (∃ alert, after.2.alerts = alert :: store.2.alerts ∧ alert.type = "GPS_LOST") ↔
        (gpsCheckOf (store.recordsOf telemetry.shipmentId) telemetry.latitude
          telemetry.longitude).hasGpsLoss = true) store := by
  rw [detectIotAnomalies, Program.wp_tryCatch, Program.wp_bind]
  apply (detectTelemetryAnomalies_wp hLimits).mono
  rintro outcome after ⟨⟨⟨isAnomaly, anomalyType, details⟩, rfl, hAnomaly, hType⟩, hAlerts⟩
  rw [← hAnomaly]
  cases isAnomaly with
  | false =>
      refine iff_of_false ?_ Bool.false_ne_true
      rintro ⟨alert, hAlert, -⟩
      exact List.cons_ne_self _ _ (hAlert.symm.trans hAlerts)
  | true =>
      cases hType rfl
      change Program.wp Undisturbed (backendProgram (request .now) >>= _) _ _
      rw [wp_request_bind]
      intro decision hStep
      rw [perform_of_fault_none hStep.1]
      change Program.wp Undisturbed (call _ >>= _) _ _
      rw [wp_call_bind]
      intro decision hStep
      rw [performTelemetry_of_fault_none hStep.2]
      change Program.wp Undisturbed (call _) _ _
      rw [wp_call]
      intro decision hStep
      rw [performTelemetry_of_fault_none hStep.2]
      exact iff_of_true ⟨_, congrArg (List.cons _) hAlerts, rfl⟩ rfl

end Detection

section Processing

/-- The flag of an anomaly is no part of the row. -/
theorem updateTelemetry_anomaly (store : TelemetryStore) (id : ObjectId)
    (anomalyType : TelemetryAnomalyType) :
    (store.updateTelemetry id (.anomaly anomalyType)).1 = store.1 := by
  simp [TelemetryStore.updateTelemetry, TelemetryUpdate.applyRow]

/-- A detection changes no record but for its flag. -/
theorem perform_detects_telemetry (env : Decision × TelemetryDecision) (store : TelemetryStore)
    (request : BackendCall ⊕ TelemetryCall) (h : detects request = true) :
    (telemetryWorld.perform env store request).1.1.telemetry = store.1.telemetry := by
  by_cases hKeeps : keepsTelemetry request = true
  · exact congrArg Prod.fst (perform_keepsTelemetry env store request hKeeps)
  · cases request with
    | inl backendCall =>
        simp only [detects, BackendCall.keepsCollections, Bool.not_eq_true', Bool.or_eq_false_iff]
          at h
        simp [keepsTelemetry, h.1.2] at hKeeps
    | inr request =>
        cases request with
        | telemetryCreate => cases h
        | telemetryFindByIdAndUpdate id update =>
            cases update with
            | anchored => cases h
            | anchorFailed => cases h
            | anomaly anomalyType =>
                change (performTelemetry env.2 store _).1.1.telemetry = _
                rcases performTelemetry_cases env.2 store
                  (.telemetryFindByIdAndUpdate id (.anomaly anomalyType)) with hKept | hDone
                · rw [hKept]
                · rw [hDone]
                  simp only [executeTelemetry, castingId]
                  split
                  · rfl
                  · split
                    · rfl
                    · rw [updateTelemetry_anomaly]
        | _ => exact absurd rfl hKeeps

variable [Sha256] {turn : IotTurn} {shipmentId : ObjectId}

/-- What the webhook has stored and scheduled when it answers. -/
theorem processIotWebhook_of_run {body : IotWebhookBody} {store store' : TelemetryStore}
    {env env' : Nat → Decision × TelemetryDecision} {telemetry : Telemetry}
    (hAccepted : body.accepted = true)
    (hRun : (processIotWebhook body).run telemetryWorld env store =
      (store', .ok telemetry, env')) :
    ∃ text id job, body.target store = some telemetry.shipmentId ∧
      telemetry = ((normalizeIotWebhookBody body).input text).telemetry id telemetry.shipmentId ∧
      store' = ((store.insertTelemetry telemetry).1,
        { (store.insertTelemetry telemetry).2 with
          anchorJobs := store.2.anchorJobs ++ [job]
          scheduled := store.2.scheduled ++ [.iotDetection telemetry text] }) := by
  rw [processIotWebhook_eq, Program.run_bind_eq_ok] at hRun
  obtain ⟨store₁, text, env₁, hResolve, hRun⟩ := hRun
  obtain ⟨rfl, hTarget⟩ := resolve_of_run hAccepted hResolve
  rw [Program.run_bind_eq_ok] at hRun
  obtain ⟨store₂, created, env₂, hCreate, hRun⟩ := hRun
  have hCreated := execute_of_run_call hCreate
  simp only [executeTelemetry, castingId] at hCreated
  rw [announceTelemetry, Program.run_bind_eq_ok] at hRun
  obtain ⟨store₃, pushed, env₃, hPush, hRun⟩ := hRun
  have hPushed := execute_of_run_call hPush
  rw [Program.run_bind_eq_ok] at hRun
  obtain ⟨store₄, emitted, env₄, hEmit, hRun⟩ := hRun
  have hEmitted := execute_of_run_call hEmit
  rw [Program.run_bind_eq_ok] at hRun
  obtain ⟨store₅, scheduled, env₅, hSchedule, hReturn⟩ := hRun
  have hScheduled := execute_of_run_call hSchedule
  cases hReturn
  cases hEmitted
  cases hPushed
  cases hScheduled
  split at hCreated
  · cases hCreated
  · rename_i shipmentId hCast
    split_ifs at hCreated
    · cases hCreated
      exact ⟨text, _, _, hTarget.symm.trans hCast, rfl, rfl⟩
    · cases hCreated

/-- The webhook has stored the record of the reading, and its detection is left to do. -/
structure IotTurn.Leaves (turn : IotTurn) (telemetry : Telemetry) (text : String) : Prop where
  answer : turn.webhook.2.1 = .ok telemetry
  fix : telemetry.toTelemetryRow.fix = turn.body.fix
  live : telemetry.deletedAt = none
  store : turn.webhook.1.1 = (turn.before.insertTelemetry telemetry).1
  thresholds : turn.webhook.1.2.thresholds = turn.before.2.thresholds
  alerts : turn.webhook.1.2.alerts = turn.before.2.alerts
  tasks : turn.tasks = [.iotDetection telemetry text]

namespace IotTurn

theorem Processed.leaves (h : turn.Processed shipmentId) :
    ∃ telemetry text, telemetry.shipmentId = shipmentId ∧ turn.Leaves telemetry text := by
  obtain ⟨telemetry, hAnswer⟩ := h.answered
  have hRun : (processIotWebhook turn.body).run telemetryWorld turn.env turn.before =
      (turn.webhook.1, .ok telemetry, turn.webhook.2.2) :=
    Prod.ext rfl (Prod.ext hAnswer rfl)
  obtain ⟨text, id, job, hTarget, hInput, hStored⟩ := processIotWebhook_of_run h.accepted hRun
  refine ⟨telemetry, text, Option.some.inj (hTarget.symm.trans h.named), hAnswer, ?_, ?_, ?_, ?_,
    ?_, ?_⟩
  · rw [hInput]
    cases turn.body <;> rfl
  · rw [hInput]
    rfl
  · rw [hStored]
  · rw [hStored]
    rfl
  · rw [hStored]
    rfl
  · rw [tasks, hStored]
    exact List.drop_left

namespace Leaves

variable {telemetry : Telemetry} {text : String}

theorem after_eq (h : turn.Leaves telemetry text) : turn.after =
    ((detectIotAnomalies telemetry text).run telemetryWorld turn.webhook.2.2 turn.webhook.1).1 := by
  rw [after, h.tasks, List.map_cons, Program.run_inTurn_cons]
  rfl

/-- The record of the reading is the latest one of its shipment. -/
theorem fixesOf (h : turn.Leaves telemetry text) :
    TelemetryStore.fixesOf turn.webhook.1 telemetry.shipmentId =
      turn.body.fix :: turn.before.fixesOf telemetry.shipmentId := by
  have hRecords : TelemetryStore.recordsOf turn.webhook.1 telemetry.shipmentId =
      turn.before.recordsOf telemetry.shipmentId ++ [telemetry.toTelemetryRow] := by
    rw [TelemetryStore.recordsOf, h.store]
    simp [TelemetryStore.insertTelemetry, TelemetryStore.recordsOf, h.live]
  rw [TelemetryStore.fixesOf, hRecords, List.reverse_append, List.reverse_singleton,
    List.singleton_append, List.map_cons, h.fix]
  rfl

theorem limitsOf (h : turn.Leaves telemetry text) :
    TelemetryStore.limitsOf turn.webhook.1 shipmentId = turn.before.limitsOf shipmentId := by
  apply TelemetryStore.limitsOf_congr
  · rw [h.store]
    rfl
  · exact h.thresholds

end Leaves

theorem Processed.fixesOf_after (h : turn.Processed shipmentId) :
    turn.after.fixesOf shipmentId = turn.body.fix :: turn.before.fixesOf shipmentId := by
  obtain ⟨telemetry, text, rfl, hLeaves⟩ := h.leaves
  have hRows : turn.after.1.telemetry = turn.webhook.1.1.telemetry := by
    rw [hLeaves.after_eq]
    exact Program.Uses.run (W := telemetryWorld) (detectIotAnomalies_detects telemetry text)
      (fun store => store.1.telemetry) perform_detects_telemetry _ _
  rw [← hLeaves.fixesOf, TelemetryStore.fixesOf, TelemetryStore.recordsOf, hRows]
  rfl

theorem Processed.detection_undisturbed (h : turn.Processed shipmentId) {p : TelemetryM Unit}
    {store : TelemetryStore} : ∀ step ∈ p.steps turn.webhook.2.2 store, Undisturbed step := by
  intro step hStep
  obtain ⟨n, hDecision⟩ := Program.exists_decision_of_mem_steps hStep
  obtain ⟨used, hUsed⟩ := Program.exists_run_env (W := telemetryWorld)
    (processIotWebhook turn.body) turn.env turn.before
  rw [Undisturbed, hDecision, webhook, hUsed]
  exact h.faultless _

/-- A lost position is reported when the reading and the one before it are faint, and there
is a third one. -/
theorem Processed.reports_iff (h : turn.Processed shipmentId)
    (hOrder : (turn.body.fix :: turn.before.fixesOf shipmentId).Pairwise fun later earlier =>
      earlier.timestamp.ms < later.timestamp.ms)
    (hOther : turn.NoOtherAnomaly shipmentId) :
    turn.ReportsGpsLoss ↔ ∃ second third rest,
      turn.before.fixesOf shipmentId = second :: third :: rest ∧
        turn.body.fix.Faint ∧ second.Faint := by
  obtain ⟨telemetry, text, rfl, hLeaves⟩ := h.leaves
  have hChecked : (TelemetryStore.recordsOf turn.webhook.1 telemetry.shipmentId).reverse.Pairwise
      fun later earlier => earlier.timestamp.ms < later.timestamp.ms := by
    rw [← hLeaves.fixesOf] at hOrder
    exact List.pairwise_map.mp hOrder
  have hLimits := hOther telemetry hLeaves.answer
  rw [← hLeaves.limitsOf] at hLimits
  have hDetection : (detectIotAnomalies telemetry text).wp Undisturbed _ turn.webhook.1 :=
    detectIotAnomalies_wp hLimits
  have hReports := hDetection.run turn.webhook.2.2 h.detection_undisturbed
  rw [ReportsGpsLoss, hLeaves.after_eq, ← hLeaves.alerts, hReports,
    ← gpsCheckOf_iff hLeaves.fixesOf hChecked, ← hLeaves.fix]
  rfl


end IotTurn

namespace ReadingRun

variable {start store : TelemetryStore} {turns later earlier : List IotTurn}

/-- The records of the shipment are those of its readings. -/
theorem fixesOf (h : ReadingRun shipmentId start turns store) :
    store.fixesOf shipmentId = turns.map (·.body.fix) ++ start.fixesOf shipmentId := by
  induction h with
  | start => rfl
  | reading prior processed ih =>
      rw [processed.fixesOf_after, ih]
      rfl
  | other prior kept ih => rw [TelemetryStore.fixesOf, kept, ← TelemetryStore.fixesOf, ih]

/-- Every reading of a run is processed after the earlier ones. -/
theorem processed_of_mem (h : ReadingRun shipmentId start turns store)
    (hSplit : turns = later ++ turn :: earlier) : turn.Processed shipmentId ∧
      turn.before.fixesOf shipmentId = earlier.map (·.body.fix) ++ start.fixesOf shipmentId := by
  induction h generalizing later with
  | start => exact absurd hSplit (by simp)
  | other prior kept ih => exact ih hSplit
  | reading prior processed ih =>
      cases later with
      | nil =>
          obtain ⟨rfl, rfl⟩ := List.cons.inj hSplit
          exact ⟨processed, prior.fixesOf⟩
      | cons latest later => exact ih (List.cons.inj hSplit).2

end ReadingRun

/-- The reports of lost positions are right exactly when every two faint readings in a row,
with one before them, lack coordinates together with that one. -/
theorem gpsLossExact_iff {start store : TelemetryStore} {turns : List IotTurn}
    (hRun : ReadingRun shipmentId start turns store)
    (hOrder : (turns.map (·.body.fix) ++ start.fixesOf shipmentId).Pairwise
      fun later earlier => earlier.timestamp.ms < later.timestamp.ms) :
    GpsLossExact shipmentId start turns ↔ FaintMeansLost shipmentId start turns := by
  refine forall_congr' fun later => forall_congr' fun turn => forall_congr' fun earlier =>
    forall_congr' fun hSplit => forall_congr' fun hOther => ?_
  obtain ⟨hProcessed, hBefore⟩ := hRun.processed_of_mem hSplit
  have hLatest : (turn.body.fix :: turn.before.fixesOf shipmentId).Pairwise
      fun later earlier => earlier.timestamp.ms < later.timestamp.ms := by
    rw [hSplit, List.map_append, List.append_assoc] at hOrder
    rw [hBefore]
    exact (List.pairwise_append.mp hOrder).2.1
  rw [hProcessed.reports_iff hLatest hOther, hBefore]
  constructor
  · intro hExact second third rest hFixes hCurrent hSecond
    obtain ⟨second', third', rest', hSame, hLacking⟩ :=
      hExact.mp ⟨second, third, rest, hFixes, hCurrent, hSecond⟩
    cases hFixes.symm.trans hSame
    exact hLacking
  · intro hMeans
    constructor
    · rintro ⟨second, third, rest, hFixes, hCurrent, hSecond⟩
      exact ⟨second, third, rest, hFixes, hMeans second third rest hFixes hCurrent hSecond⟩
    · rintro ⟨second, third, rest, hFixes, hCurrent, hSecond, -⟩
      exact ⟨second, third, rest, hFixes, hCurrent.faint, hSecond.faint⟩

/-- No reading has coordinates. -/
theorem faintMeansLost_of_lacking {start : TelemetryStore} {turns : List IotTurn}
    (h : ∀ fix ∈ turns.map (·.body.fix) ++ start.fixesOf shipmentId, fix.Lacking) :
    FaintMeansLost shipmentId start turns := by
  intro later turn earlier hSplit _ second third rest hFixes _ _
  rw [hSplit, List.map_append, List.append_assoc, List.map_cons, List.cons_append, hFixes] at h
  exact ⟨h _ (by simp), h _ (by simp), h _ (by simp)⟩

end Processing

section SampleRun

/-- A gateway that sends a position of the sample shipment. -/
def samplePosition (position : Coordinate × Coordinate) (timestamp : Date) : IotWebhookBody :=
  .normalized { sampleNamedBody with
    latitude := position.1
    longitude := position.2
    timestamp }

variable [Sha256]

/-- The store after the latest turn. -/
def latestStore : List IotTurn → TelemetryStore
  | [] => ({}, {})
  | turn :: _ => turn.after

/-- Readings at the positions, the latest first, while every service is up. -/
def sampleTurns : List (Coordinate × Coordinate) → List IotTurn
  | [] => []
  | position :: earlier =>
      { env := serving (.repeated (Fin.ofNat 16 earlier.length))
        before := latestStore (sampleTurns earlier)
        body := samplePosition position ⟨earlier.length⟩ } :: sampleTurns earlier

/-- The webhook answers, and the reading is within the limits. -/
def IotTurn.calm (turn : IotTurn) : Bool :=
  match turn.webhook.2.1 with
  | .ok telemetry =>
      detectBreach (turn.before.limitsOf sampleShipment.id) telemetry.detectionInput = none
  | .error _ => false

theorem IotTurn.calm_iff {turn : IotTurn} : turn.calm = true ↔
    (∃ telemetry, turn.webhook.2.1 = .ok telemetry) ∧ turn.NoOtherAnomaly sampleShipment.id := by
  rw [calm, NoOtherAnomaly]
  cases turn.webhook.2.1 <;> simp

theorem sampleTurns_run (positions : List (Coordinate × Coordinate))
    (hCalm : (sampleTurns positions).all (·.calm) = true) :
    ReadingRun sampleShipment.id ({}, {}) (sampleTurns positions)
      (latestStore (sampleTurns positions)) := by
  induction positions with
  | nil => exact .start
  | cons position earlier ih =>
      rw [sampleTurns, List.all_cons, Bool.and_eq_true] at hCalm
      refine .reading (ih hCalm.2) ?_
      have hAccepted : (samplePosition position ⟨earlier.length⟩).accepted = true :=
        sampleNamedBody_accepted
      refine ⟨hAccepted, ?_, fun _ => ⟨rfl, rfl⟩, (IotTurn.calm_iff.mp hCalm.1).1⟩
      unfold IotWebhookBody.target
      rw [if_pos hAccepted]
      exact ObjectId.cast?_toString _

end SampleRun

section Samples

/-- What a device sends that does not know where it is. -/
def sampleLost : Coordinate × Coordinate :=
  (.finite .zero, .finite .zero)

/-- The latest of three readings that lack coordinates is reported, and rightly so. -/
theorem gpsLossExact_sample : @GpsLossExact blankSha256 sampleShipment.id ({}, {})
    (@sampleTurns blankSha256 [sampleLost, sampleLost, sampleLost]) := by
  refine (@gpsLossExact_iff blankSha256 _ _ _ _
    (@sampleTurns_run blankSha256 _ (by decide +kernel)) (by decide +kernel)).mpr ?_
  apply @faintMeansLost_of_lacking blankSha256
  decide +kernel

def sampleInPlace : Coordinate × Coordinate :=
  (.finite (.ofNat 10), .finite (.ofNat 20))

/-- Two lost positions are enough for a report, after one in place. -/
theorem two_lost_readings_are_reported : ¬∀ (_ : Sha256) (shipmentId : ObjectId)
    (start store : TelemetryStore) (turns : List IotTurn),
    ReadingRun shipmentId start turns store →
    ((turns.map (·.body.fix) ++ start.fixesOf shipmentId).Pairwise
      fun later earlier => earlier.timestamp.ms < later.timestamp.ms) →
    GpsLossExact shipmentId start turns := by
  intro hClaim
  have hCalm : (@sampleTurns blankSha256 [sampleLost, sampleLost, sampleInPlace]).all
      (@IotTurn.calm blankSha256 ·) = true := by
    decide +kernel
  have hExact := hClaim blankSha256 sampleShipment.id ({}, {}) _ _
    (@sampleTurns_run blankSha256 _ hCalm) (by decide +kernel)
  have hLatest := List.all_eq_true.mp hCalm _ List.mem_cons_self
  have hReports := (hExact [] _ _ rfl (@IotTurn.calm_iff blankSha256 _ |>.mp hLatest).2).mp
    ⟨⟨sampleShipment.id.toString, "GPS_LOST", "HIGH",
      "GPS signal lost for 3 consecutive readings"⟩, by decide +kernel, rfl⟩
  obtain ⟨second, third, rest, hFixes, -, -, hThird⟩ := hReports
  cases hFixes
  exact absurd hThird (by decide)

end Samples

end Navin
