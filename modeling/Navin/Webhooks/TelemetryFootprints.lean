import Navin.Telemetry.Effects
import Navin.Webhooks.IotScope

/-! Which calls the background detections and the ingests make. -/
namespace Navin

open Async

/-- The backend calls that write no shipments, records or anomalies. -/
def BackendCall.keepsCollections (request : BackendCall) : Bool :=
  !(request.writesShipments || request.writesTelemetry || request.writesAnomalies)

/-- The calls of a background detection. It flags the record it looks at. -/
def detects : BackendCall ⊕ TelemetryCall → Bool
  | .inl request => request.keepsCollections
  | .inr (.thresholdFindOne _ _) | .inr (.telemetryFindByIdAndUpdate _ (.anomaly _))
  | .inr (.anomalyCreate _) | .inr (.emitAnomalyDetected _ _) | .inr (.pushAlertJob _) => true
  | .inr _ => false

abbrev Detects (α : Type) (p : TelemetryM α) : Prop :=
  p.Uses fun request => detects request = true

theorem detects_call (request : TelemetryCall) (h : detects (.inr request) = true) :
    Detects _ (call request) :=
  .await h

theorem detects_request {request : BackendCall} (h : request.keepsCollections = true) :
    Detects _ (backendProgram (Navin.request request)) := by
  rw [backendProgram, Navin.request, Program.lift_await]
  exact .await h

theorem resolveTelemetryThresholdsForShipment_detects (shipmentId : String) :
    Detects _ (resolveTelemetryThresholdsForShipment shipmentId) := by
  unfold resolveTelemetryThresholdsForShipment
  split
  · trivial
  · apply (detects_request rfl).bind
    intro found
    split
    · trivial
    · apply (detects_call _ rfl).bind
      intro doc
      split
      · exact (detects_call _ rfl).bind fun _ => trivial
      · trivial

theorem flagTelemetry_detects (telemetryId : String)
    (found : Option (TelemetryAnomalyType × String)) :
    Detects _ (flagTelemetry telemetryId found) := by
  cases found with
  | none => trivial
  | some found => exact (detects_call _ rfl).bind fun _ => trivial

theorem detectTelemetryAnomalies_detects (input : DetectionInput) :
    Detects _ (detectTelemetryAnomalies input) := by
  have hGps : Detects _ (detectGpsLoss input.shipmentId input.latitude input.longitude) := by
    apply Program.Uses.tryCatch
    · apply (detects_request rfl).bind
      intro rows
      dsimp only
      split
      · trivial
      · split <;> trivial
    · exact fun _ => trivial
  apply Program.Uses.tryCatch
  · apply (resolveTelemetryThresholdsForShipment_detects _).bind
    intro thresholds
    unfold detectWithThresholds
    split
    · exact flagTelemetry_detects _ _
    · exact hGps.bind fun _ => flagTelemetry_detects _ _
  · exact fun _ => trivial

theorem detectIotAnomalies_detects (telemetry : Telemetry) (shipmentId : String) :
    Detects _ (detectIotAnomalies telemetry shipmentId) := by
  apply Program.Uses.tryCatch
  · apply (detectTelemetryAnomalies_detects _).bind
    intro result
    split
    · apply (detects_request rfl).bind
      intro now
      exact (detects_call _ rfl).bind fun _ => detects_call _ rfl
    · trivial
  · exact fun _ => trivial

theorem forM_detects {α : Type} (f : α → TelemetryM Unit) (h : ∀ a, Detects _ (f a))
    (as : List α) : Detects _ (as.forM f) := by
  induction as with
  | nil => trivial
  | cons a rest ih => exact (h a).bind fun _ => ih

theorem detectBulkAnomalies_detects (telemetry : Telemetry) :
    Detects _ (detectBulkAnomalies telemetry) := by
  have hDetect : Detects _ (detectAnomaly telemetry.shipmentId.toString telemetry.timestamp
      telemetry.temperature telemetry.humidity telemetry.batteryLevel) := by
    apply (resolveTelemetryThresholdsForShipment_detects _).bind
    intro thresholds
    dsimp only
    split
    · trivial
    · apply (detects_call _ rfl).bind
      intro rows
      exact (forM_detects _ (fun _ => detects_request rfl) rows).bind fun _ => trivial
  apply Program.Uses.tryCatch
  · apply hDetect.bind
    intro result
    split
    · apply forM_detects
      intro anomaly
      apply Program.Uses.tryCatch
      · exact (detects_call _ rfl).bind fun _ => detects_call _ rfl
      · exact fun _ => trivial
    · trivial
  · exact fun _ => trivial

/-- Whichever detection a request has left behind. -/
theorem BackgroundTask.perform_detects (task : BackgroundTask) : Detects _ task.perform := by
  cases task with
  | iotDetection telemetry shipmentId => exact detectIotAnomalies_detects telemetry shipmentId
  | bulkDetection telemetry shipmentId => exact detectBulkAnomalies_detects telemetry

section Ingest

/-- The calls of an ingest: who sends the reading, where it belongs, the record and what
follows it. -/
def ingests : BackendCall ⊕ TelemetryCall → Bool
  | .inl .now | .inl (.invalidateShipmentEtaCache _) => true
  | .inr .apiKeyFindActive | .inr (.apiKeyTouch _ _) | .inr (.shipmentFindBySensor _)
  | .inr (.telemetryCreate _) | .inr (.pushStellarAnchorJob _) | .inr (.emitTelemetryUpdate _ _)
  | .inr (.setImmediate _) => true
  | _ => false

abbrev Ingests (α : Type) (p : TelemetryM α) : Prop :=
  p.Uses fun request => ingests request = true

theorem ingests_call (request : TelemetryCall) (h : ingests (.inr request) = true) :
    Ingests _ (call request) :=
  .await h

theorem resolveShipmentId_ingests (notFoundCode : String) (shipmentId sensorId : Option String) :
    Ingests _ (resolveShipmentId notFoundCode shipmentId sensorId) :=
  resolveShipmentId_uses (C := (ingests · = true)) (fun _ => rfl) _ _ _

variable [Sha256]

theorem ingestTelemetryItem_ingests (item : BulkTelemetryItem) :
    Ingests _ (ingestTelemetryItem item) := by
  apply (resolveShipmentId_ingests _ _ _).bind
  intro shipmentId
  apply (ingests_call _ rfl).bind
  intro telemetry
  apply Program.Uses.bind
  · rw [backendProgram, request, Program.lift_await]
    exact .await rfl
  · intro _
    apply (ingests_call _ rfl).bind
    intro _
    apply (ingests_call _ rfl).bind
    intro _
    exact (ingests_call _ rfl).bind fun _ => trivial

theorem bulkIngestTelemetry_ingests (items : List BulkTelemetryItem) :
    Ingests _ (bulkIngestTelemetry items) := by
  induction items with
  | nil => trivial
  | cons item rest ih =>
      apply (ingestTelemetryItem_ingests item).bind
      intro createdId
      exact ih.bind fun _ => trivial

theorem iotWebhook_ingests [Bcrypt] (header : Option String) (body : IotWebhookBody) :
    Ingests _ (iotWebhook header body) := by
  have hKey : Ingests _ (requireApiKey header) :=
    requireApiKey_uses (C := (ingests · = true)) rfl rfl (fun _ _ => rfl) header
  apply hKey.bind
  intro key
  split
  · apply (resolveShipmentId_ingests _ _ _).bind
    intro shipmentId
    apply (ingests_call _ rfl).bind
    intro telemetry
    exact announceTelemetry_uses (C := (ingests · = true)) (fun _ => rfl) (fun _ _ => rfl)
      (fun _ => rfl) _ _ _
  · trivial

end Ingest

end Navin
