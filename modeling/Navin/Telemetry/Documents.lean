import Navin.Backend.Documents
import Navin.Shared.NumberText

/-! Telemetry records, threshold profiles and API keys, and what the telemetry code
sends to the queues and to the sockets. -/
namespace Navin

/-- An API key. Only its hash is stored. -/
structure ApiKey where
  id : ObjectId
  name : String
  keyHash : String
  organizationId : ObjectId
  shipmentId : Option ObjectId
  isActive : Bool
  lastUsedAt : Option Date
  createdAt : Date
deriving DecidableEq

inductive TelemetryAnchorStatus where
  | pendingAnchor
  | anchored
  | anchorFailed
  | verified
deriving DecidableEq

def TelemetryAnchorStatus.name : TelemetryAnchorStatus → String
  | .pendingAnchor => "PENDING_ANCHOR"
  | .anchored => "ANCHORED"
  | .anchorFailed => "ANCHOR_FAILED"
  | .verified => "VERIFIED"

/-- The anomaly that a telemetry record is flagged with. -/
inductive TelemetryAnomalyType where
  | temperatureBreach
  | humidityBreach
  | shockEvent
  | gpsLost
  | batteryLow
deriving DecidableEq

def TelemetryAnomalyType.name : TelemetryAnomalyType → String
  | .temperatureBreach => "TEMPERATURE_BREACH"
  | .humidityBreach => "HUMIDITY_BREACH"
  | .shockEvent => "SHOCK_EVENT"
  | .gpsLost => "GPS_LOST"
  | .batteryLow => "BATTERY_LOW"

/-- The type of a stored anomaly. -/
inductive AnomalyType where
  | temperatureExceeded
  | temperatureBelowMin
  | humidityExceeded
  | humidityBelowMin
  | batteryLow
deriving DecidableEq

def AnomalyType.name : AnomalyType → String
  | .temperatureExceeded => "TEMPERATURE_EXCEEDED"
  | .temperatureBelowMin => "TEMPERATURE_BELOW_MIN"
  | .humidityExceeded => "HUMIDITY_EXCEEDED"
  | .humidityBelowMin => "HUMIDITY_BELOW_MIN"
  | .batteryLow => "BATTERY_LOW"

/-- Thresholds as they are stored and as they are applied; `null` is no threshold. -/
structure TelemetryThresholds where
  maxTemp : Option JsNumber := none
  minTemp : Option JsNumber := none
  maxHumidity : Option JsNumber := none
  minHumidity : Option JsNumber := none
  minBatteryLevel : Option JsNumber := none
deriving DecidableEq

structure ThresholdProfile extends TelemetryThresholds where
  organizationId : ObjectId
  shipmentType : String
deriving DecidableEq

/-- The fields of a telemetry record that `TelemetryRow` leaves out. -/
structure Reading where
  sensorId : String
  temperature : JsNumber
  humidity : JsNumber
  batteryLevel : JsNumber
  anchorStatus : TelemetryAnchorStatus
  anchorError : Option String
  shockMagnitude : Option JsNumber
  isAnomaly : Bool
  anomalyType : Option TelemetryAnomalyType
  rawPayload : Value

/-- A telemetry record. It is stored in two parts. -/
structure Telemetry extends TelemetryRow, Reading

/-- The input of `createTelemetryRecord`. -/
structure TelemetryInput where
  sensorId : Option String
  shipmentId : String
  temperature : JsNumber
  humidity : JsNumber
  latitude : Coordinate
  longitude : Coordinate
  batteryLevel : JsNumber
  timestamp : Date
  dataHash : String
  stellarTxHash : Option String := none
  anchorStatus : Option TelemetryAnchorStatus := none
  shockMagnitude : Option JsNumber := none
  rawPayload : Value

/-- The document that is created, once the shipment id has been cast. -/
def TelemetryInput.telemetry (input : TelemetryInput) (id shipmentId : ObjectId) : Telemetry :=
  let anchorStatus := input.anchorStatus.getD .pendingAnchor
  { id
    shipmentId
    latitude := input.latitude
    longitude := input.longitude
    timestamp := input.timestamp
    dataHash := input.dataHash
    stellarTxHash := input.stellarTxHash
    anchored := anchorStatus = .anchored
    deletedAt := none
    sensorId := input.sensorId.getD input.shipmentId
    temperature := input.temperature
    humidity := input.humidity
    batteryLevel := input.batteryLevel
    anchorStatus
    anchorError := none
    shockMagnitude := input.shockMagnitude
    isAnomaly := false
    anomalyType := none
    rawPayload := input.rawPayload }

/-- The second argument of `Telemetry.findByIdAndUpdate` at each call site. -/
inductive TelemetryUpdate where
  | anchored (stellarTxHash : String)
  | anchorFailed (anchorError : String)
  | anomaly (anomalyType : TelemetryAnomalyType)

namespace TelemetryUpdate

def applyRow : TelemetryUpdate → TelemetryRow → TelemetryRow
  | .anchored stellarTxHash, row =>
      { row with stellarTxHash := some stellarTxHash, anchored := true }
  | .anchorFailed _, row => { row with anchored := false }
  | .anomaly _, row => row

def applyReading : TelemetryUpdate → Reading → Reading
  | .anchored _, reading => { reading with anchorStatus := .anchored }
  | .anchorFailed anchorError, reading =>
      { reading with anchorStatus := .anchorFailed, anchorError := some anchorError }
  | .anomaly anomalyType, reading =>
      { reading with isAnomaly := true, anomalyType := some anomalyType }

@[simp] theorem applyRow_id (update : TelemetryUpdate) (row : TelemetryRow) :
    (update.applyRow row).id = row.id := by
  cases update <;> rfl

@[simp] theorem applyRow_shipmentId (update : TelemetryUpdate) (row : TelemetryRow) :
    (update.applyRow row).shipmentId = row.shipmentId := by
  cases update <;> rfl

@[simp] theorem applyRow_deletedAt (update : TelemetryUpdate) (row : TelemetryRow) :
    (update.applyRow row).deletedAt = row.deletedAt := by
  cases update <;> rfl

end TelemetryUpdate

/-- An anomaly that the bulk path has found in a reading. -/
structure EvaluatedAnomaly where
  shipmentId : String
  timestamp : Date
  type : AnomalyType
  severity : String
  message : String
deriving DecidableEq

structure AnchorTelemetryJob where
  telemetryId : String
  shipmentId : String
  dataHash : String
deriving DecidableEq

structure AlertJob where
  shipmentId : String
  type : String
  severity : String
  message : String
deriving DecidableEq

structure TelemetryUpdatePayload where
  telemetryId : String
  shipmentId : String
  sensorId : String
  temperature : JsNumber
  humidity : JsNumber
  latitude : Coordinate
  longitude : Coordinate
  batteryLevel : JsNumber
  timestamp : String
  dataHash : String
  anchorStatus : String
  stellarTxHash : Option String
deriving DecidableEq

structure AnomalyAlertPayload where
  anomalyId : String
  shipmentId : String
  type : String
  severity : String
  message : String
  timestamp : String
  resolved : Bool
deriving DecidableEq

/-- Work that a request leaves to `setImmediate`. -/
inductive BackgroundTask where
  | iotDetection (telemetry : Telemetry) (shipmentId : String)
  | bulkDetection (telemetry : Telemetry) (shipmentId : String)

end Navin
