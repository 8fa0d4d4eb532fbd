import Navin.Shared.Crypto
import Navin.Shared.Domain

/-! The stored documents and the updates the services send for them. Fields no
modelled function reads or writes are left out. -/
namespace Navin

structure Milestone where
  name : ShipmentStatus
  timestamp : Date
  description : String
  userId : Option String
  walletAddress : Option String
deriving DecidableEq

structure DeliveryProof where
  url : String
  recipientSignatureName : Option String
  notes : Option String
  uploadedAt : Date
deriving DecidableEq

/-- Documents and photos: a photo has a caption where a document has a type. -/
structure Attachment where
  url : String
  fileName : String
  mimeType : String
  label : Option String
  size : Nat
  uploadedBy : Option String
  uploadedAt : Date
deriving DecidableEq

structure Dispute where
  referenceNumber : String
  status : String
  type : String
  description : String
  evidenceUrl : Option String
  createdAt : Date
  updatedAt : Date
deriving DecidableEq

structure Shipment where
  id : ObjectId
  trackingNumber : String
  origin : String
  destination : String
  enterpriseId : ObjectId
  logisticsId : ObjectId
  status : ShipmentStatus
  priority : String
  expectedDelivery : Option Date
  milestones : List Milestone
  offChainMetadata : Option Value
  stellarTokenId : Option String
  stellarTxHash : Option String
  deliveryProof : Option DeliveryProof
  documents : List Attachment
  photos : List Attachment
  disputes : List Dispute
  deletedAt : Option Date
  createdAt : Date
  updatedAt : Date

/-- A freshly created shipment of organisations `bb…b` and `cc…c`. -/
def sampleShipment : Shipment where
  id := .repeated 10
  trackingNumber := "NVN-100000"
  origin := "Lagos"
  destination := "Accra"
  enterpriseId := .repeated 11
  logisticsId := .repeated 12
  status := .created
  priority := "STANDARD"
  expectedDelivery := none
  milestones := []
  offChainMetadata := none
  stellarTokenId := none
  stellarTxHash := none
  deliveryProof := none
  documents := []
  photos := []
  disputes := []
  deletedAt := none
  createdAt := ⟨0⟩
  updatedAt := ⟨0⟩

theorem outForDelivery_nodup :
    ([{ sampleShipment with status := .outForDelivery }].map Shipment.id).Nodup :=
  List.nodup_singleton _

/-- The paths a loaded shipment has had modified when it is saved. Scalars are
written with `$set`, new array entries with `$push`. -/
structure ShipmentChanges where
  status : Option ShipmentStatus := none
  stellarToken : Option (String × String) := none
  milestones : List Milestone := []
  documents : List Attachment := []
  photos : List Attachment := []
  disputes : List Dispute := []

def ShipmentChanges.apply (changes : ShipmentChanges) (now : Date) (shipment : Shipment) :
    Shipment :=
  { shipment with
    status := changes.status.getD shipment.status
    stellarTokenId := (changes.stellarToken.map Prod.fst).or shipment.stellarTokenId
    stellarTxHash := (changes.stellarToken.map Prod.snd).or shipment.stellarTxHash
    milestones := shipment.milestones ++ changes.milestones
    documents := shipment.documents ++ changes.documents
    photos := shipment.photos ++ changes.photos
    disputes := shipment.disputes ++ changes.disputes
    updatedAt := now }

theorem ShipmentChanges.apply_id (changes : ShipmentChanges) (now : Date) (shipment : Shipment) :
    (changes.apply now shipment).id = shipment.id := rfl

/-- The second argument of `Shipment.findByIdAndUpdate` at each call site. -/
inductive ShipmentUpdate where
  | offChainMetadata (metadata : Option Value)
  | setStatus (status : ShipmentStatus) (milestone : Milestone)
  | deliveryProof (proof : DeliveryProof)
  | deletedAt (date : Date)

/-- An undefined field of an update is dropped, not stored. -/
def ShipmentUpdate.apply (update : ShipmentUpdate) (now : Date) (shipment : Shipment) :
    Shipment :=
  match update with
  | .offChainMetadata metadata =>
      { shipment with
        offChainMetadata := metadata.or shipment.offChainMetadata, updatedAt := now }
  | .setStatus status milestone =>
      { shipment with
        status, milestones := shipment.milestones ++ [milestone], updatedAt := now }
  | .deliveryProof proof => { shipment with deliveryProof := some proof, updatedAt := now }
  | .deletedAt date => { shipment with deletedAt := some date, updatedAt := now }

theorem ShipmentUpdate.apply_id (update : ShipmentUpdate) (now : Date) (shipment : Shipment) :
    (update.apply now shipment).id = shipment.id := by
  cases update <;> rfl

structure EscrowRelease where
  disputedAt : Option Date
  disputeReason : Option String
  additionalNotes : Option String
deriving DecidableEq

structure Payment where
  id : ObjectId
  shipmentId : ObjectId
  organizationId : ObjectId
  amount : JsNumber
  status : PaymentStatus
  stellarTxHash : Option String
  escrowRelease : Option EscrowRelease
  deletedAt : Option Date
  updatedAt : Date
deriving DecidableEq

/-- A payment in escrow for the sample shipment. -/
def samplePayment : Payment where
  id := .repeated 14
  shipmentId := sampleShipment.id
  organizationId := sampleShipment.enterpriseId
  amount := .digit 5
  status := .escrowed
  stellarTxHash := none
  escrowRelease := none
  deletedAt := none
  updatedAt := ⟨0⟩

inductive PaymentUpdate where
  | setStatus (status : PaymentStatus) (stellarTxHash : Option String)
  | dispute (disputedAt : Date) (disputeReason : String) (additionalNotes : Option String)

/-- The status an update leaves. -/
def PaymentUpdate.target : PaymentUpdate → PaymentStatus
  | .setStatus status _ => status
  | .dispute _ _ _ => .disputed

/-- Truthiness of an optional string: the empty string is false. -/
def truthy (text : Option String) : Option String :=
  text.filter (· ≠ "")

theorem truthy_of_ne {text : String} (h : text ≠ "") : truthy (some text) = some text := by
  simp [truthy, h]

def PaymentUpdate.apply (update : PaymentUpdate) (now : Date) (payment : Payment) : Payment :=
  match update with
  | .setStatus status stellarTxHash =>
      { payment with
        status, stellarTxHash := (truthy stellarTxHash).or payment.stellarTxHash
        updatedAt := now }
  | .dispute disputedAt disputeReason additionalNotes =>
      { payment with
        status := .disputed
        escrowRelease := some
          { disputedAt := some disputedAt
            disputeReason := some disputeReason
            additionalNotes := (truthy additionalNotes).or
              (payment.escrowRelease.bind (·.additionalNotes)) }
        updatedAt := now }

/-- Neither kind of update moves a payment to another shipment, renames it or
deletes it. -/
@[simp] theorem PaymentUpdate.apply_id (update : PaymentUpdate) (now : Date) (payment : Payment) :
    (update.apply now payment).id = payment.id := by
  cases update <;> rfl

@[simp] theorem PaymentUpdate.apply_shipmentId (update : PaymentUpdate) (now : Date)
    (payment : Payment) : (update.apply now payment).shipmentId = payment.shipmentId := by
  cases update <;> rfl

@[simp] theorem PaymentUpdate.apply_deletedAt (update : PaymentUpdate) (now : Date)
    (payment : Payment) : (update.apply now payment).deletedAt = payment.deletedAt := by
  cases update <;> rfl

@[simp] theorem PaymentUpdate.apply_status (update : PaymentUpdate) (now : Date)
    (payment : Payment) : (update.apply now payment).status = update.target := by
  cases update <;> rfl

/-- The fields a writer passes to `LedgerBlock.create`. -/
structure LedgerBlockFields where
  blockNumber : Nat
  timestamp : Date
  shipmentId : ObjectId
  shipmentReference : Option String
  milestoneEvent : MilestoneEvent
  transactionHash : Option String
  dataHash : Option String
  canonicalPayload : Option Value
  ledger : Nat
  verified : Bool
  actor : Option String
  metadata : Option Value

structure LedgerBlock extends LedgerBlockFields where
  id : ObjectId
  deletedAt : Option Date
  createdAt : Date

/-- A coordinate of a reading. The schema lets infinities through. -/
inductive Coordinate where
  | finite (degrees : JsNumber)
  | infinite (negative : Bool)
deriving DecidableEq

/-- JSON writes an infinity as `null`. -/
def Coordinate.value : Coordinate → Value
  | .finite degrees => .number degrees
  | .infinite _ => .null

/-- `Number.isFinite`. -/
def Coordinate.isFinite : Coordinate → Bool
  | .finite _ => true
  | .infinite _ => false

structure TelemetryRow where
  id : ObjectId
  shipmentId : ObjectId
  latitude : Coordinate
  longitude : Coordinate
  timestamp : Date
  dataHash : String
  stellarTxHash : Option String
  anchored : Bool
  deletedAt : Option Date
deriving DecidableEq

structure AnomalyRow where
  id : ObjectId
  shipmentId : ObjectId
  type : String
  severity : String
  message : String
  timestamp : Date
  resolved : Bool
  deletedAt : Option Date
deriving DecidableEq

/-- A contract event as the indexer receives it, already checked against the
event schemas. -/
inductive ChainEventBody where
  | anchor (shipmentId dataHash : String)
  | escrowInit (paymentId shipmentId payer payee token amount : String)
  | escrowRelease (paymentId proofHash payee amount : String)
deriving DecidableEq

structure ChainEvent where
  id : String
  contractId : String
  txHash : String
  ledger : Nat
  body : ChainEventBody
deriving DecidableEq

/-- The digest an event reports as committed by its transaction. -/
def ChainEvent.digest (event : ChainEvent) : Option String :=
  match event.body with
  | .anchor _ dataHash => some dataHash
  | .escrowInit _ _ _ _ _ _ => none
  | .escrowRelease _ proofHash _ _ => some proofHash

/-- A transaction the application submitted. Tokenization writes a tracking
number and a route; it commits no digest. -/
structure ChainTx where
  hash : String
  digest : Option String
deriving DecidableEq

structure ChainReceipt where
  txHash : String
  ledger : Nat
  simulated : Bool
deriving DecidableEq

/-- A cached or freshly computed arrival estimate. -/
inductive EtaPayload where
  | estimate (estimatedArrival distanceRemaining averageSpeed confidence : String)
  | unavailable (reason : String)
deriving DecidableEq

end Navin
