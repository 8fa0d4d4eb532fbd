import Navin.Shipments.StatusService

/-! Creating, patching and deleting a shipment. A new shipment is stored first
and tokenized afterwards; a failed tokenization is logged and forgotten. -/
namespace Navin

open Async

/-- The validated body of `POST /api/shipments`. -/
structure CreateShipmentInput where
  trackingNumber : Option String
  origin : String
  destination : String
  enterpriseId : String
  logisticsId : String
  offChainMetadata : Option Value

def chooseTrackingNumber (given : Option String) : BackendM String :=
  match truthy given with
  | some trackingNumber => return trackingNumber
  | none => do
      let number ← request .randomReference
      return "NVN-" ++ toString (100000 + number.val)

/-- `new Shipment(data)`, with the schema's defaults. -/
def newShipment (input : CreateShipmentInput) (trackingNumber : String)
    (enterpriseId logisticsId id : ObjectId) (now : Date) : Shipment :=
  { id, trackingNumber, origin := input.origin, destination := input.destination
    enterpriseId, logisticsId, status := .created, priority := "STANDARD"
    expectedDelivery := none, milestones := [], offChainMetadata := input.offChainMetadata
    stellarTokenId := none, stellarTxHash := none, deliveryProof := none
    documents := [], photos := [], disputes := [], deletedAt := none
    createdAt := now, updatedAt := now }

/-- The first save, which validates the organisation ids. -/
def insertShipment (input : CreateShipmentInput) (trackingNumber : String) : BackendM Shipment :=
  match ObjectId.cast? input.enterpriseId, ObjectId.cast? input.logisticsId with
  | none, _ => throw (.castError input.enterpriseId)
  | some _, none => throw (.castError input.logisticsId)
  | some enterpriseId, some logisticsId =>
      request (.shipmentInsert (newShipment input trackingNumber enterpriseId logisticsId))

/-- The fields are assigned before the second save, so the returned document
has them even when that save fails. -/
def tokenizeCreated (shipment : Shipment) : BackendM Shipment :=
  tryCatch
    (do
      let stellarTxHash ← request (.tokenizeShipment
        { trackingNumber := shipment.trackingNumber, origin := shipment.origin
          destination := shipment.destination, shipmentId := shipment.id.toString })
      let stellarTokenId := "stellar:" ++ shipment.id.toString ++ ":" ++
        String.ofList (stellarTxHash.toList.take 8)
      let changes : ShipmentChanges := { stellarToken := some (stellarTokenId, stellarTxHash) }
      tryCatch
        (do
          let savedAt ← request (.shipmentSave shipment.id changes)
          return changes.apply savedAt shipment)
        fun _ => return changes.apply shipment.updatedAt shipment)
    fun _ => return shipment

def createShipmentService (input : CreateShipmentInput) (actor : Option String) :
    BackendM Shipment := do
  let trackingNumber ← chooseTrackingNumber input.trackingNumber
  let shipment ← insertShipment input trackingNumber
  let tokenized ← tokenizeCreated shipment
  let now ← currentDate
  request (.auditLog ⟨actor.getD "system", "SHIPMENT_CREATED", shipment.id.toString, now⟩)
  return tokenized

def patchShipmentService (id : String) (offChainMetadata : Option Value) :
    BackendM (Option Shipment) :=
  request (.shipmentFindByIdAndUpdate id (.offChainMetadata offChainMetadata))

/-- Soft deletion, with the shipment's telemetry and anomalies. -/
def deleteShipmentService (id : String) : BackendM (Option Shipment) := do
  let now ← currentDate
  let deleted ← request (.shipmentFindByIdAndUpdate id (.deletedAt now))
  match (deleted : Option Shipment) with
  | none => return none
  | some shipment => do
      let anomaliesAt ← currentDate
      let telemetryAt ← currentDate
      let _ ← promiseAll (request (.anomalyDelete id anomaliesAt))
        (request (.telemetryDelete id telemetryAt))
      return some shipment

section Properties

variable {T : (α : Type) → BackendM α → Prop} (hT : Program.Compositional T)
  (hAside : ∀ call : BackendCall, call.incidental → T _ (request call))
include hT hAside

theorem createShipmentService_holds {input : CreateShipmentInput} {actor : Option String}
    (hInsert : ∀ build, T _ (request (.shipmentInsert build)))
    (hTokenize : ∀ shipment, T _ (request (.tokenizeShipment shipment)))
    (hSave : ∀ id changes, T _ (request (.shipmentSave id changes))) :
    T _ (createShipmentService input actor) := by
  have hChoose : T _ (chooseTrackingNumber input.trackingNumber) := by
    unfold chooseTrackingNumber
    split
    · exact hT.pure _
    · exact hT.bind (hAside .randomReference rfl) fun _ => hT.pure _
  refine hT.bind hChoose fun trackingNumber => hT.bind ?_ fun shipment => hT.bind ?_ fun _ => ?_
  · unfold insertShipment
    split
    · exact hT.throw _
    · exact hT.throw _
    · exact hInsert _
  · refine hT.tryCatch (hT.bind (hTokenize _) fun hash => ?_) fun _ => hT.pure _
    exact hT.tryCatch (hT.bind (hSave _ _) fun _ => hT.pure _) fun _ => hT.pure _
  · exact hT.bind (hAside .now rfl) fun _ => hT.bind (hAside (.auditLog _) rfl) fun _ => hT.pure _

omit hAside in
theorem promiseAll_holds {α β : Type} {first : BackendM α} {second : BackendM β}
    (hFirst : T _ first) (hSecond : T _ second) : T _ (promiseAll first second) := by
  have hProtected {γ : Type} {p : BackendM γ} (hp : T _ p) :
      T _ (tryCatch (Except.ok <$> p) fun error => return .error error : BackendM (Except _ γ)) :=
    hT.tryCatch (hT.bind hp fun _ => hT.pure _) fun _ => hT.pure _
  refine hT.bind (hProtected hFirst) fun a => hT.bind (hProtected hSecond) fun b => ?_
  split
  · exact hT.pure _
  · exact hT.throw _
  · exact hT.throw _

end Properties

end Navin
