import Navin.Shared.Crypto
import Navin.Telemetry.AnomalyDetection

/-! Telemetry records: how they are stored, how their anchoring is recorded, and the
bulk ingest. -/
namespace Navin

open Async

def findActiveShipmentBySensorId (sensorId : String) : TelemetryM (Option Shipment) :=
  call (.shipmentFindBySensor sensorId)

def createTelemetryRecord (input : TelemetryInput) : TelemetryM Telemetry :=
  call (.telemetryCreate input)

def updateTelemetryAnchor (telemetryId stellarTxHash : String) :
    TelemetryM (Option Telemetry) := do
  let updated ← call (.telemetryFindByIdAndUpdate telemetryId (.anchored stellarTxHash))
  if updated.isSome then do
    let now ← backendProgram currentDate
    backendProgram (request (.auditLog
      { userId := "system", action := "TELEMETRY_ANCHORED", resourceId := telemetryId
        timestamp := now }))
    return updated
  else return updated

def markTelemetryAnchorFailed (telemetryId error : String) : TelemetryM (Option Telemetry) :=
  call (.telemetryFindByIdAndUpdate telemetryId (.anchorFailed error))

/-- The shipment that a reading names, or else the one its sensor travels with. -/
def resolveShipmentId (notFoundCode : String) (shipmentId sensorId : Option String) :
    TelemetryM String :=
  match truthy shipmentId, truthy sensorId with
  | some shipmentId, _ => return shipmentId
  | none, some sensorId => do
      match ← findActiveShipmentBySensorId sensorId with
      | none => throw (appError 404 ("No active shipment found for sensor " ++ sensorId)
          notFoundCode)
      | some shipment => return shipment.id.toString
  | none, none => throw (appError 400 "shipmentId could not be resolved" "ERR_BAD_REQUEST")

/-- What the sockets are told of a record. -/
def Telemetry.updatePayload (telemetry : Telemetry) : TelemetryUpdatePayload where
  telemetryId := telemetry.id.toString
  shipmentId := telemetry.shipmentId.toString
  sensorId := telemetry.sensorId
  temperature := telemetry.temperature
  humidity := telemetry.humidity
  latitude := telemetry.latitude
  longitude := telemetry.longitude
  batteryLevel := telemetry.batteryLevel
  timestamp := telemetry.timestamp.toISOString
  dataHash := telemetry.dataHash
  anchorStatus := telemetry.anchorStatus.name
  stellarTxHash := truthy telemetry.stellarTxHash

structure BulkTelemetryItem where
  shipmentId : String
  temperature : JsNumber
  humidity : JsNumber
  latitude : Coordinate
  longitude : Coordinate
  batteryLevel : JsNumber
  timestamp : Date
  sensorId : Option String

/-- The item as a payload, its properties in the order of the schema. -/
def BulkTelemetryItem.value (item : BulkTelemetryItem) : Value :=
  .object
    [("shipmentId", some (.string item.shipmentId)),
     ("temperature", some (.number item.temperature)),
     ("humidity", some (.number item.humidity)),
     ("latitude", some item.latitude.value),
     ("longitude", some item.longitude.value),
     ("batteryLevel", some (.number item.batteryLevel)),
     ("timestamp", some (.date item.timestamp)),
     ("sensorId", item.sensorId.map .string)]

section Ingest

variable [Sha256]

/-- One turn of the loop over the items. -/
def ingestTelemetryItem (item : BulkTelemetryItem) : TelemetryM String := do
  let shipmentId ← resolveShipmentId "ERR_NOT_FOUND" (some item.shipmentId) item.sensorId
  let dataHash := generateDataHash item.value
  let telemetry ← createTelemetryRecord
    { sensorId := item.sensorId
      shipmentId
      temperature := item.temperature
      humidity := item.humidity
      latitude := item.latitude
      longitude := item.longitude
      batteryLevel := item.batteryLevel
      timestamp := item.timestamp
      dataHash
      anchorStatus := some .pendingAnchor
      rawPayload := item.value }
  backendProgram (request (.invalidateShipmentEtaCache shipmentId))
  call (.pushStellarAnchorJob ⟨telemetry.id.toString, shipmentId, dataHash⟩)
  call (.emitTelemetryUpdate shipmentId telemetry.updatePayload)
  call (.setImmediate (.bulkDetection telemetry shipmentId))
  return telemetry.id.toString

def bulkIngestTelemetry : List BulkTelemetryItem → TelemetryM (List String)
  | [] => return []
  | item :: rest => do
      let createdId ← ingestTelemetryItem item
      let createdIds ← bulkIngestTelemetry rest
      return createdId :: createdIds

end Ingest

/-- Announce a stored anomaly. -/
def announceAnomaly (anomaly : AnomalyAlertPayload) : TelemetryM Unit := do
  call (.emitAnomalyDetected anomaly.shipmentId anomaly)
  call (.pushAlertJob ⟨anomaly.shipmentId, anomaly.type, anomaly.severity, anomaly.message⟩)

/-- The background detection of the bulk ingest. The anomalies are announced side by
side, and every error is logged and forgotten. -/
def detectBulkAnomalies (telemetry : Telemetry) : TelemetryM Unit :=
  tryCatch
    (do let result ← detectAnomaly telemetry.shipmentId.toString telemetry.timestamp
          telemetry.temperature telemetry.humidity telemetry.batteryLevel
        if result.detected then
          result.anomalies.forM fun anomaly =>
            tryCatch (announceAnomaly anomaly) fun _ => return ()
        else return ())
    fun _ => return ()

end Navin
