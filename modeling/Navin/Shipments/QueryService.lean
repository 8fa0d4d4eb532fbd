import Navin.Shipments.AttachmentService
import Navin.Shipments.RecordService

/-! Reading one shipment: its detail, its timeline and its arrival estimate.
Detail and timeline ask whether the caller's organisation takes part in the
shipment; the estimate does not. -/
namespace Navin

open Async

/-- Who asks: the token's user, role and organisation. -/
structure AccessContext where
  organizationId : Option String
  role : UserRole

def isAuthorizedForShipment (shipmentId : String) (organizationId : Option String) :
    BackendM Bool :=
  match truthy (some shipmentId), truthy organizationId with
  | some shipmentId, some organizationId => do
      let found ← findShipmentById shipmentId
      return found.any fun shipment => ownedBy shipment organizationId
  | _, _ => return false

def insufficientAccess : ThrownError :=
  appError 403 "Forbidden: insufficient access to shipment" "ERR_PERMISSION_DENIED"

/-- The access check after the shipment has been found. -/
def authorizeDetail (id : String) (context : AccessContext) (shipment : Shipment) :
    BackendM Shipment :=
  if context.role = .superAdmin then return shipment
  else match truthy context.organizationId with
    | none => throw insufficientAccess
    | some organizationId => do
        let authorized ← isAuthorizedForShipment id (some organizationId)
        if authorized then return shipment else throw insufficientAccess

def getShipmentByIdService (id : String) (context : AccessContext) : BackendM Shipment := do
  let found ← findShipmentById id
  match found with
  | none => throw shipmentNotFound
  | some shipment => authorizeDetail id context shipment

structure TimelineEvent where
  type : String
  timestamp : String
  description : String
  metadata : Value

/-- A timeline event together with its key for cursors. -/
structure TimelineEventWithCursor extends TimelineEvent where
  cursorKey : String

def buildTimelineCursorKey (timestamp suffix : String) : String :=
  timestamp ++ "|" ++ suffix

def Milestone.timelineEvent (milestone : Milestone) : TimelineEventWithCursor :=
  let timestamp := milestone.timestamp.toISOString
  { type := "STATUS_CHANGE", timestamp, description := milestone.description
    metadata := .object [("status", some (.string milestone.name.name)),
      ("userId", milestone.userId.map .string), ("walletAddress", milestone.walletAddress.map .string)]
    cursorKey := buildTimelineCursorKey timestamp ("status-" ++ milestone.name.name) }

def DeliveryProof.timelineEvent (proof : DeliveryProof) : TimelineEventWithCursor :=
  let timestamp := proof.uploadedAt.toISOString
  { type := "PROOF_UPLOADED", timestamp, description := "Proof of delivery uploaded"
    metadata := .object [("url", some (.string proof.url)),
      ("recipientSignatureName", proof.recipientSignatureName.map .string),
      ("notes", proof.notes.map .string)]
    cursorKey := buildTimelineCursorKey timestamp "proof" }

def TelemetryRow.timelineEvent (row : TelemetryRow) : TimelineEventWithCursor :=
  let timestamp := row.timestamp.toISOString
  { type := "TELEMETRY_ANCHORED", timestamp
    description := "Telemetry record anchored on Stellar"
    metadata := .object [("telemetryId", some (.string row.id.toString)),
      ("stellarTxHash", row.stellarTxHash.map .string), ("dataHash", some (.string row.dataHash))]
    cursorKey := buildTimelineCursorKey timestamp ("telemetry-" ++ row.id.toString) }

def AnomalyRow.timelineEvent (row : AnomalyRow) : TimelineEventWithCursor :=
  let timestamp := row.timestamp.toISOString
  { type := "ANOMALY_DETECTED", timestamp, description := row.message
    metadata := .object [("anomalyId", some (.string row.id.toString)),
      ("type", some (.string row.type)), ("severity", some (.string row.severity)),
      ("resolved", some (.bool row.resolved))]
    cursorKey := buildTimelineCursorKey timestamp ("anomaly-" ++ row.id.toString) }

/-- `localeCompare` in the server's locale: negative, zero or positive. -/
class Locale where
  compare : String → String → Int

structure TimelinePage where
  data : List TimelineEvent
  nextCursor : Option String
  hasMore : Bool

/-- The page after the cursor, or the first one when no event has that key. -/
def paginateTimeline (events : List TimelineEventWithCursor) (cursor : Option String) (limit : Nat) :
    TimelinePage :=
  let startIndex := match truthy cursor with
    | none => 0
    | some cursor =>
        match events.findIdx? (·.cursorKey = cursor) with
        | none => 0
        | some index => index + 1
  let page := (events.drop startIndex).take (limit + 1)
  let hasMore := limit < page.length
  let pageEvents := if hasMore then page.take limit else page
  { data := pageEvents.map (·.toTimelineEvent)
    nextCursor := if hasMore then pageEvents.getLast?.map (·.cursorKey) else none
    hasMore }

section Timeline

variable [Locale]

/-- Ascending by timestamp, then by cursor key. -/
def timelineBefore (first second : TimelineEventWithCursor) : Bool :=
  let byTime := Locale.compare first.timestamp second.timestamp
  if byTime ≠ 0 then byTime ≤ 0 else Locale.compare first.cursorKey second.cursorKey ≤ 0

def timelineEvents (shipment : Shipment) (telemetry : List TelemetryRow)
    (anomalies : List AnomalyRow) : List TimelineEventWithCursor :=
  (shipment.milestones.map (·.timelineEvent) ++
    shipment.deliveryProof.toList.map (·.timelineEvent) ++
    (telemetry.filter (·.anchored)).map (·.timelineEvent) ++
    anomalies.map (·.timelineEvent)).insertionSort fun first second => timelineBefore first second

def getShipmentTimelineService (id : String) (cursor : Option String) (limit : Nat)
    (context : AccessContext) : BackendM TimelinePage := do
  let shipment ← getShipmentByIdService id context
  let (telemetry, anomalies) ← promiseAll (request (.telemetryFind id)) (request (.anomalyFind id))
  return paginateTimeline (timelineEvents shipment telemetry anomalies) cursor limit

end Timeline

structure Coordinates where
  latitude : JsNumber
  longitude : JsNumber

/-- The first of the keys that holds a finite number. -/
def readNumberField (record : Value) (keys : List String) : Option JsNumber :=
  keys.findSome? fun key =>
    match record.get? key with
    | some (.number value) => some value
    | _ => none

def extractCoordinates (value : Option Value) : Option Coordinates := do
  let record ← value
  let latitude ← readNumberField record ["latitude", "lat"]
  let longitude ← readNumberField record ["longitude", "lng", "lon"]
  return ⟨latitude, longitude⟩

def resolveDestinationCoordinates (metadata : Option Value) : Option Coordinates :=
  let field (key : String) := metadata.bind (·.get? key)
  (extractCoordinates (field "destinationCoordinates")).or
    ((extractCoordinates (field "destination")).or
      (extractCoordinates ((field "route").bind (·.get? "destination"))))

/-- The floating-point part of the estimate: distances, speeds, confidence and
the arrival computed from the points, newest first, the destination and now. -/
class EtaArithmetic where
  estimate : (latest : TelemetryRow) → (earlier : List TelemetryRow) → Coordinates → Date → EtaPayload

def etaPointsWindow : Nat := 8

/-- `sort({ timestamp: -1, _id: -1 })`. -/
def newerRow (first second : TelemetryRow) : Bool :=
  second.timestamp.ms < first.timestamp.ms ||
    first.timestamp.ms == second.timestamp.ms && second.id.toString ≤ first.id.toString

section Eta

variable [EtaArithmetic]

def estimateInTransit (id : String) (shipment : Shipment) : BackendM EtaPayload :=
  match resolveDestinationCoordinates shipment.offChainMetadata with
  | none => throw (appError 400 "Destination coordinates are missing in shipment metadata"
      "ERR_SHIPMENT_ETA_DESTINATION_MISSING")
  | some destination => do
      let rows ← request (.telemetryFind id)
      match (rows.insertionSort fun first second => newerRow first second).take etaPointsWindow with
      | [] => throw (appError 404 "No GPS telemetry data points found" "ERR_SHIPMENT_ETA_NO_GPS")
      | latest :: earlier => do
          let now ← currentDate
          let payload := EtaArithmetic.estimate latest earlier destination now
          request (.writeShipmentEtaCache id payload)
          return payload

def computeShipmentEta (id : String) : BackendM EtaPayload := do
  let found ← findShipmentById id
  match found with
  | none => throw shipmentNotFound
  | some shipment =>
      if shipment.status = .inTransit then estimateInTransit id shipment
      else do
        let payload := EtaPayload.unavailable
          ("ETA is available only for " ++ ShipmentStatus.inTransit.name ++ " shipments")
        request (.writeShipmentEtaCache id payload)
        return payload

def getShipmentEtaService (id : String) : BackendM EtaPayload := do
  let cached ← request (.readShipmentEtaCache id)
  match (cached : Option EtaPayload) with
  | some payload => return payload
  | none => computeShipmentEta id

end Eta

end Navin
