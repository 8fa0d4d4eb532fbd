import Navin.Auth.ApiKeyService
import Navin.Telemetry.Service

/-! The webhook of the IoT devices. It is authenticated by an API key. -/
namespace Navin

open Async

/-- The body that names a shipment. -/
structure NormalizedTelemetry where
  sensorId : Option String
  shipmentId : String
  temperature : JsNumber
  humidity : JsNumber
  latitude : Coordinate
  longitude : Coordinate
  batteryLevel : Option JsNumber
  timestamp : Date
  shockMagnitude : Option JsNumber
  gpsLost : Option Bool

/-- The body that names only a sensor. -/
structure SensorTelemetry where
  sensorId : String
  temp : JsNumber
  humidity : JsNumber
  lat : Coordinate
  lng : Coordinate
  batteryLevel : Option JsNumber
  timestamp : Date
  shockMagnitude : Option JsNumber
  gpsLost : Option Bool

inductive IotWebhookBody where
  | normalized (body : NormalizedTelemetry)
  | sensor (body : SensorTelemetry)

/-- The body as a payload, its properties in the order of the schema. -/
def IotWebhookBody.value : IotWebhookBody → Value
  | .normalized body => .object
      [("sensorId", body.sensorId.map .string),
       ("shipmentId", some (.string body.shipmentId)),
       ("temperature", some (.number body.temperature)),
       ("humidity", some (.number body.humidity)),
       ("latitude", some body.latitude.value),
       ("longitude", some body.longitude.value),
       ("batteryLevel", body.batteryLevel.map .number),
       ("timestamp", some (.date body.timestamp)),
       ("shockMagnitude", body.shockMagnitude.map .number),
       ("gpsLost", body.gpsLost.map .bool)]
  | .sensor body => .object
      [("sensorId", some (.string body.sensorId)),
       ("temp", some (.number body.temp)),
       ("humidity", some (.number body.humidity)),
       ("location", some (.object
         [("lat", some body.lat.value), ("lng", some body.lng.value)])),
       ("batteryLevel", body.batteryLevel.map .number),
       ("timestamp", some (.date body.timestamp)),
       ("shockMagnitude", body.shockMagnitude.map .number),
       ("gpsLost", body.gpsLost.map .bool)]

def withinRange (minimum maximum number : JsNumber) : Bool :=
  !(number < minimum) && !(maximum < number)

/-- The bounds that `IotWebhookBodySchema` checks. -/
def IotWebhookBody.accepted (body : IotWebhookBody) : Bool :=
  let acceptedReading (temperature : JsNumber) (batteryLevel shockMagnitude : Option JsNumber) :=
    withinRange (.mk (-5) 1 JsNumber.fifty_reduced) (.ofNat 100) temperature &&
      batteryLevel.all (withinRange .zero (.ofNat 100)) &&
      shockMagnitude.all fun magnitude => !(magnitude < .zero)
  match body with
  | .normalized body => body.sensorId ≠ some "" && body.shipmentId ≠ "" &&
      acceptedReading body.temperature body.batteryLevel body.shockMagnitude
  | .sensor body => body.sensorId ≠ "" &&
      acceptedReading body.temp body.batteryLevel body.shockMagnitude

/-- An accepted body names what it is about. -/
theorem truthy_of_accepted_normalized {body : NormalizedTelemetry}
    (h : (IotWebhookBody.normalized body).accepted = true) :
    truthy (some body.shipmentId) = some body.shipmentId := by
  simp only [IotWebhookBody.accepted, Bool.and_eq_true, decide_eq_true_eq] at h
  exact truthy_of_ne h.1.2

theorem truthy_of_accepted_sensor {body : SensorTelemetry}
    (h : (IotWebhookBody.sensor body).accepted = true) :
    truthy (some body.sensorId) = some body.sensorId := by
  simp only [IotWebhookBody.accepted, Bool.and_eq_true, decide_eq_true_eq] at h
  exact truthy_of_ne h.1

structure NormalizedBody where
  sensorId : Option String := none
  shipmentId : Option String := none
  temperature : JsNumber
  humidity : JsNumber
  latitude : Coordinate
  longitude : Coordinate
  batteryLevel : JsNumber
  timestamp : Date
  shockMagnitude : Option JsNumber
  gpsLost : Option Bool
  rawPayload : IotWebhookBody

/-- The sensor of a body that names a shipment is not taken over. -/
def normalizeIotWebhookBody : IotWebhookBody → NormalizedBody
  | .normalized body =>
      { body with
        sensorId := none
        shipmentId := some body.shipmentId
        batteryLevel := body.batteryLevel.getD (.ofNat 100)
        rawPayload := .normalized body }
  | .sensor body =>
      { sensorId := some body.sensorId
        temperature := body.temp
        humidity := body.humidity
        latitude := body.lat
        longitude := body.lng
        batteryLevel := body.batteryLevel.getD (.ofNat 100)
        timestamp := body.timestamp
        shockMagnitude := body.shockMagnitude
        gpsLost := body.gpsLost
        rawPayload := .sensor body }

section Webhook

variable [Sha256]

/-- The record that is created for a normalised body. -/
def NormalizedBody.input (body : NormalizedBody) (shipmentId : String) : TelemetryInput where
  sensorId := body.sensorId
  shipmentId
  temperature := body.temperature
  humidity := body.humidity
  latitude := body.latitude
  longitude := body.longitude
  batteryLevel := body.batteryLevel
  timestamp := body.timestamp
  dataHash := generateDataHash body.rawPayload.value
  shockMagnitude := body.shockMagnitude
  anchorStatus := some .pendingAnchor
  rawPayload := body.rawPayload.value

def processIotWebhook (body : IotWebhookBody) : TelemetryM Telemetry := do
  let normalizedBody := normalizeIotWebhookBody body
  let shipmentId ← resolveShipmentId "NOT_FOUND" normalizedBody.shipmentId normalizedBody.sensorId
  let input := normalizedBody.input shipmentId
  let telemetry ← createTelemetryRecord input
  call (.pushStellarAnchorJob ⟨telemetry.id.toString, shipmentId, input.dataHash⟩)
  call (.emitTelemetryUpdate shipmentId telemetry.updatePayload)
  call (.setImmediate (.iotDetection telemetry shipmentId))
  return telemetry

/-- `POST /api/webhooks/iot`. The controller reads the body alone. -/
def iotWebhook [Bcrypt] (header : Option String) (body : IotWebhookBody) :
    TelemetryM Telemetry := do
  let _ ← requireApiKey header
  if body.accepted then processIotWebhook body
  else throw (appError 400 "Validation error" "VALIDATION_ERROR")

end Webhook

/-- The arguments of the detection, read off the stored record. -/
def Telemetry.detectionInput (telemetry : Telemetry) : DetectionInput where
  telemetryId := telemetry.id.toString
  shipmentId := telemetry.shipmentId.toString
  temperature := telemetry.temperature
  humidity := telemetry.humidity
  batteryLevel := telemetry.batteryLevel
  shockMagnitude := telemetry.shockMagnitude
  latitude := telemetry.latitude
  longitude := telemetry.longitude

/-- The background detection of the webhook. Every error is logged and forgotten. -/
def detectIotAnomalies (telemetry : Telemetry) (shipmentId : String) : TelemetryM Unit :=
  tryCatch
    (do let result ← detectTelemetryAnomalies telemetry.detectionInput
        match result.isAnomaly, result.anomalyType with
        | true, some anomalyType => do
            let message := String.intercalate "; " result.details
            let now ← backendProgram currentDate
            call (.emitAnomalyDetected shipmentId
              { anomalyId := telemetry.id.toString
                shipmentId := telemetry.shipmentId.toString
                type := anomalyType.name
                severity := "HIGH"
                message
                timestamp := now.toISOString
                resolved := false })
            call (.pushAlertJob ⟨shipmentId, anomalyType.name, "HIGH", message⟩)
        | _, _ => return ())
    fun _ => return ()

def BackgroundTask.perform : BackgroundTask → TelemetryM Unit
  | .iotDetection telemetry shipmentId => detectIotAnomalies telemetry shipmentId
  | .bulkDetection telemetry _ => detectBulkAnomalies telemetry

end Navin
