import Navin.Backend.Query
import Navin.Semantics.Interleaving

/-! Everything the shipment, payment, ledger and indexer code awaits. One call
is one indivisible step of the database, the chain, Redis or the storage
bucket. Reading the clock or drawing a random number is a call as well, so that
programs stay functions of the answers they get. Logging is left out. -/
namespace Navin

open Async

structure ReleaseEscrowInput where
  paymentId : String
  proofHash : String
deriving DecidableEq

structure TokenizeInput where
  trackingNumber : String
  origin : String
  destination : String
  shipmentId : String
deriving DecidableEq

/-- Who did what to which resource, for the audit trail. -/
structure AuditEntry where
  userId : String
  action : String
  resourceId : String
  timestamp : Date
deriving DecidableEq

structure StatusUpdatePayload where
  shipmentId : String
  status : ShipmentStatus
  milestones : List Milestone
  updatedAt : Date
deriving DecidableEq

structure SettlementStatusPayload where
  paymentId : String
  shipmentId : String
  oldStatus : PaymentStatus
  newStatus : PaymentStatus
  amount : JsNumber
  txHash : Option String
  timestamp : String
deriving DecidableEq

/-- The fields the indexer writes for one event. `shipmentId` is only used when
no block with the transaction hash exists yet. -/
structure LedgerUpsert where
  shipmentId : String
  milestoneEvent : MilestoneEvent
  actor : String
  metadata : Value
  dataHash : Option String

inductive BackendCall where
  | now
  | randomReference
  | randomUUID
  | shipmentInsert (shipment : ObjectId → Date → Shipment)
  | shipmentFindById (id : String)
  | shipmentFindByIds (ids : List String)
  | shipmentFind (query : Query) (sort : List (String × SortOrder)) (skip limit : Nat)
  | shipmentCount (query : Query)
  | shipmentSave (id : ObjectId) (changes : ShipmentChanges)
  | shipmentFindByIdAndUpdate (id : String) (update : ShipmentUpdate)
  | userWallet (userId : String)
  | paymentFindById (id : String)
  | paymentFindByShipmentId (shipmentId : String)
  | paymentFindByIdAndUpdate (id : String) (update : PaymentUpdate)
  | ledgerCreate (fields : LedgerBlockFields)
  | ledgerFindById (id : String)
  | ledgerUpsert (transactionHash : String) (upsert : LedgerUpsert)
  | releaseEscrow (input : ReleaseEscrowInput)
  | tokenizeShipment (input : TokenizeInput)
  | streamEvent (position : Option String)
  | getStoredCursor
  | saveStoredCursor (cursor : String)
  | uploadFile (mimeType key : String)
  | telemetryFind (shipmentId : String)
  | anomalyFind (shipmentId : String)
  | telemetryDelete (shipmentId : String) (deletedAt : Date)
  | anomalyDelete (shipmentId : String) (deletedAt : Date)
  | readShipmentEtaCache (shipmentId : String)
  | writeShipmentEtaCache (shipmentId : String) (payload : EtaPayload)
  | invalidateShipmentEtaCache (shipmentId : String)
  | invalidateAnalyticsPerformanceCache
  | emitStatusUpdate (shipmentId : String) (payload : StatusUpdatePayload)
  | emitPaymentStatusChange (shipmentId : String) (payload : SettlementStatusPayload)
  | auditLog (entry : AuditEntry)

instance references_neZero : NeZero 900000 := ⟨by decide⟩

@[reducible] def BackendCall.Answer : BackendCall → Type
  | .now => Date
  | .randomReference => Fin 900000
  | .randomUUID => String
  | .shipmentInsert _ => Shipment
  | .shipmentFindById _ => Option Shipment
  | .shipmentFindByIds _ => List Shipment
  | .shipmentFind _ _ _ _ => List Shipment
  | .shipmentCount _ => Nat
  | .shipmentSave _ _ => Date
  | .shipmentFindByIdAndUpdate _ _ => Option Shipment
  | .userWallet _ => Option (Option String)
  | .paymentFindById _ => Option Payment
  | .paymentFindByShipmentId _ => Option Payment
  | .paymentFindByIdAndUpdate _ _ => Option Payment
  | .ledgerCreate _ => LedgerBlock
  | .ledgerFindById _ => Option LedgerBlock
  | .ledgerUpsert _ _ => Bool
  | .releaseEscrow _ => ChainReceipt
  | .tokenizeShipment _ => String
  | .streamEvent _ => Option ChainEvent
  | .getStoredCursor => Option String
  | .saveStoredCursor _ => Unit
  | .uploadFile _ _ => String
  | .telemetryFind _ => List TelemetryRow
  | .anomalyFind _ => List AnomalyRow
  | .telemetryDelete _ _ => Unit
  | .anomalyDelete _ _ => Unit
  | .readShipmentEtaCache _ => Option EtaPayload
  | .writeShipmentEtaCache _ _ => Unit
  | .invalidateShipmentEtaCache _ => Unit
  | .invalidateAnalyticsPerformanceCache => Unit
  | .emitStatusUpdate _ _ => Unit
  | .emitPaymentStatusChange _ _ => Unit
  | .auditLog _ => Unit

/-- Programs over the backend calls. -/
abbrev BackendM : Type → Type :=
  Program BackendCall BackendCall.Answer ThrownError

/-- The calls that read a clock, draw a random value, notify, audit, or touch
users, caches, files and the indexer's cursor only. -/
def BackendCall.incidental : BackendCall → Bool
  | .now | .randomReference | .randomUUID | .userWallet _ | .uploadFile _ _ | .getStoredCursor
  | .saveStoredCursor _ | .readShipmentEtaCache _ | .writeShipmentEtaCache _ _
  | .invalidateShipmentEtaCache _ | .invalidateAnalyticsPerformanceCache | .emitStatusUpdate _ _
  | .emitPaymentStatusChange _ _ | .auditLog _ => true
  | _ => false

/-- One settled backend call of a request in a run. -/
abbrev BackendEvent (ι : Type) : Type :=
  Event BackendCall BackendCall.Answer ThrownError ι

abbrev request (call : BackendCall) : BackendM call.Answer :=
  Program.await call

end Navin
