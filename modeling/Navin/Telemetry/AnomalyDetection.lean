import Navin.Telemetry.ThresholdService

/-! Two engines look for anomalies in a reading. The one of the IoT webhook flags the
record with the first anomaly it finds. The one of the bulk ingest stores them all. -/
namespace Navin

open Async

section Detection

structure TelemetryAnomalyDetectionResult where
  isAnomaly : Bool
  anomalyType : Option TelemetryAnomalyType := none
  details : List String
deriving DecidableEq

/-- The arguments of `detectTelemetryAnomalies`. -/
structure DetectionInput where
  telemetryId : String
  shipmentId : String
  temperature : JsNumber
  humidity : JsNumber
  batteryLevel : JsNumber
  shockMagnitude : Option JsNumber
  latitude : Coordinate
  longitude : Coordinate

/-- `limit && crosses(limit)`: zero is falsy, like no limit at all. -/
def crossed (limit : Option JsNumber) (crosses : JsNumber → Bool) : Option JsNumber :=
  limit.filter fun limit => limit ≠ .zero && crosses limit

/-- The text about a reading above its maximum or else below its minimum. -/
def rangeDetail (quantity unit : String) (maximum minimum : Option JsNumber)
    (reading : JsNumber) : Option String :=
  match crossed maximum fun limit => limit < reading with
  | some limit => some (quantity ++ " exceeded: " ++ reading.toString ++ unit ++ " > " ++
      limit.toString ++ unit)
  | none => (crossed minimum fun limit => reading < limit).map fun limit =>
      quantity ++ " below minimum: " ++ reading.toString ++ unit ++ " < " ++
        limit.toString ++ unit

/-- The checks that only need the reading, in their order. -/
def detectBreach (thresholds : TelemetryThresholds) (input : DetectionInput) :
    Option (TelemetryAnomalyType × String) :=
  match rangeDetail "Temperature" "°C" thresholds.maxTemp thresholds.minTemp
      input.temperature with
  | some detail => some (.temperatureBreach, detail)
  | none =>
      match rangeDetail "Humidity" "%" thresholds.maxHumidity thresholds.minHumidity
          input.humidity with
      | some detail => some (.humidityBreach, detail)
      | none =>
          match crossed input.shockMagnitude fun magnitude => .ofNat 2 < magnitude with
          | some magnitude => some (.shockEvent, "Shock detected: " ++ magnitude.toString ++ "G")
          | none =>
              (crossed thresholds.minBatteryLevel fun limit => input.batteryLevel < limit).map
                fun limit => (.batteryLow, "Battery low: " ++ input.batteryLevel.toString ++
                  "% < " ++ limit.toString ++ "%")

structure GpsCheck where
  hasGpsLoss : Bool
  consecutiveCount : Nat
deriving DecidableEq

def gpsLossThreshold : Nat := 3

/-- Zero on its own is taken for a missing coordinate. -/
def hasValidCoordinates (latitude longitude : Coordinate) : Bool :=
  latitude.isFinite && longitude.isFinite && latitude ≠ .finite .zero &&
    longitude ≠ .finite .zero

/-- Count the latest records without a position until one has it. -/
def countMissing (consecutiveCount : Nat) : List TelemetryRow → GpsCheck
  | [] => ⟨false, consecutiveCount⟩
  | record :: rest =>
      if hasValidCoordinates record.latitude record.longitude then ⟨false, consecutiveCount⟩
      else if gpsLossThreshold ≤ consecutiveCount + 1 then ⟨true, consecutiveCount + 1⟩
      else countMissing (consecutiveCount + 1) rest

def detectGpsLoss (shipmentId : String) (currentLat currentLng : Coordinate) :
    TelemetryM GpsCheck :=
  tryCatch
    (do let rows ← backendProgram (request (.telemetryFind shipmentId))
        let recentRecords := (rows.insertionSort fun first second =>
          second.timestamp.ms ≤ first.timestamp.ms).take (gpsLossThreshold + 1)
        if recentRecords.length < gpsLossThreshold then return ⟨false, 0⟩
        else if hasValidCoordinates currentLat currentLng then return ⟨false, 0⟩
        else return countMissing 1 recentRecords)
    fun _ => return ⟨false, 0⟩

/-- Flag the record with what was found. -/
def flagTelemetry (telemetryId : String) :
    Option (TelemetryAnomalyType × String) → TelemetryM TelemetryAnomalyDetectionResult
  | none => return { isAnomaly := false, details := [] }
  | some (anomalyType, detail) => do
      let _ ← call (.telemetryFindByIdAndUpdate telemetryId (.anomaly anomalyType))
      return { isAnomaly := true, anomalyType := some anomalyType, details := [detail] }

/-- The checks and the update, once the thresholds are known. -/
def detectWithThresholds (thresholds : TelemetryThresholds) (input : DetectionInput) :
    TelemetryM TelemetryAnomalyDetectionResult :=
  match detectBreach thresholds input with
  | some breach => flagTelemetry input.telemetryId (some breach)
  | none => do
      let gpsCheck ← detectGpsLoss input.shipmentId input.latitude input.longitude
      flagTelemetry input.telemetryId
        (if gpsCheck.hasGpsLoss then
          some (.gpsLost, "GPS signal lost for " ++ toString gpsCheck.consecutiveCount ++
            " consecutive readings")
        else none)

def detectTelemetryAnomalies (input : DetectionInput) :
    TelemetryM TelemetryAnomalyDetectionResult :=
  tryCatch
    (do let thresholds ← resolveTelemetryThresholdsForShipment input.shipmentId
        detectWithThresholds thresholds input)
    fun _ => return { isAnomaly := false, details := ["Error during anomaly detection"] }

end Detection

section Evaluation

structure TelemetryPayload where
  shipmentId : String
  timestamp : Date
  temperature : Option JsNumber
  humidity : Option JsNumber
  batteryLevel : Option JsNumber

/-- More severe the further below the threshold. -/
def batterySeverity (batteryLevel minBatteryLevel : JsNumber) : String :=
  if batteryLevel.value < max 0 (minBatteryLevel.value / 2) then "HIGH"
  else if batteryLevel < minBatteryLevel then "MEDIUM"
  else "LOW"

/-- One comparison of a reading with a limit, when both are numbers. -/
def evaluateLimit (payload : TelemetryPayload) (type : AnomalyType) (message relation : String)
    (severity : JsNumber → JsNumber → String) (crosses : JsNumber → JsNumber → Bool) :
    (reading limit : Option JsNumber) → List EvaluatedAnomaly
  | some reading, some limit =>
      if crosses reading limit then
        [{ shipmentId := payload.shipmentId
           timestamp := payload.timestamp
           type
           severity := severity reading limit
           message := message ++ ": " ++ reading.toString ++ relation ++ limit.toString }]
      else []
  | _, _ => []

def evaluateMaximum (payload : TelemetryPayload) (type : AnomalyType) (quantity : String) :
    (reading limit : Option JsNumber) → List EvaluatedAnomaly :=
  evaluateLimit payload type (quantity ++ " exceeded max threshold") " > " (fun _ _ => "HIGH")
    fun reading limit => limit < reading

def evaluateMinimum (payload : TelemetryPayload) (type : AnomalyType) (quantity : String) :
    (reading limit : Option JsNumber) → List EvaluatedAnomaly :=
  evaluateLimit payload type (quantity ++ " fell below min threshold") " < " (fun _ _ => "HIGH")
    fun reading limit => reading < limit

def evaluateTelemetry (payload : TelemetryPayload) (thresholds : TelemetryThresholds) :
    List EvaluatedAnomaly :=
  if payload.shipmentId = "" then []
  else
    evaluateMaximum payload .temperatureExceeded "Temperature" payload.temperature
        thresholds.maxTemp ++
      evaluateMinimum payload .temperatureBelowMin "Temperature" payload.temperature
        thresholds.minTemp ++
      evaluateMaximum payload .humidityExceeded "Humidity" payload.humidity
        thresholds.maxHumidity ++
      evaluateMinimum payload .humidityBelowMin "Humidity" payload.humidity
        thresholds.minHumidity ++
      evaluateLimit payload .batteryLow "Battery level below threshold" " < " batterySeverity
        (fun reading limit => reading < limit) payload.batteryLevel thresholds.minBatteryLevel

structure AnomalyResult where
  detected : Bool
  anomalies : List AnomalyAlertPayload
deriving DecidableEq

/-- A stored anomaly, as it is returned. -/
def AnomalyRow.payload (row : AnomalyRow) : AnomalyAlertPayload where
  anomalyId := row.id.toString
  shipmentId := row.shipmentId.toString
  type := row.type
  severity := row.severity
  message := row.message
  timestamp := row.timestamp.toISOString
  resolved := row.resolved

def AnomalyRow.audit (row : AnomalyRow) : AuditEntry where
  userId := "system"
  action := "ANOMALY_DETECTED"
  resourceId := row.id.toString
  timestamp := row.timestamp

def detectAnomaly (shipmentId : String) (timestamp : Date)
    (temperature humidity batteryLevel : JsNumber) : TelemetryM AnomalyResult := do
  let thresholds ← resolveTelemetryThresholdsForShipment shipmentId
  let evaluated := evaluateTelemetry
    { shipmentId, timestamp, temperature := some temperature, humidity := some humidity,
      batteryLevel := some batteryLevel } thresholds
  if evaluated = [] then return { detected := false, anomalies := [] }
  else do
    let docs ← call (.anomalyCreate evaluated)
    docs.forM fun row => backendProgram (request (.auditLog row.audit))
    return { detected := true, anomalies := docs.map (·.payload) }

end Evaluation

end Navin
