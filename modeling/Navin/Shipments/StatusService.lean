import Navin.Payments.Service
import Navin.Ledger.Service

/-! Shipment status changes, single and bulk: the transition is checked against
a copy read earlier, the change is written by id, and a delivery then releases
the escrow of the shipment's payment. -/
namespace Navin

open Async

variable [Sha256]

def findShipmentById (id : String) : BackendM (Option Shipment) :=
  request (.shipmentFindById id)

/-- The proof payload whose hash the escrow release commits. -/
def escrowProofPayload (shipment : Shipment) (paymentId : String) : Value :=
  .object
    [("shipmentId", some (.string shipment.id.toString)),
     ("paymentId", some (.string paymentId)),
     ("deliveryProofUrl", some ((shipment.deliveryProof.map (·.url)).elim .null .string))]

def releaseEscrowOnDelivery (shipment : Shipment) (paymentId : String) :
    BackendM ChainReceipt :=
  request (.releaseEscrow
    { paymentId, proofHash := generateDataHash (escrowProofPayload shipment paymentId) })

/-- The milestone of a status change, attributed to the acting user. -/
def milestoneFor (status : ShipmentStatus) (actor : Option String) :
    BackendM Milestone := do
  let now ← currentDate
  let description := "Status changed to " ++ status.name
  match truthy actor with
  | none => return ⟨status, now, description, none, none⟩
  | some userId =>
      let found ← request (.userWallet userId)
      return ⟨status, now, description, some userId, truthy (Option.join found)⟩

def auditStatusChange (actor : Option String) (id : String) : BackendM Unit := do
  match truthy actor with
  | none => return ()
  | some userId =>
      let now ← currentDate
      request (.auditLog ⟨userId, "SHIPMENT_STATUS_CHANGED", id, now⟩)

def emitStatusUpdate (id : String) (shipment : Shipment) : BackendM Unit :=
  request (.emitStatusUpdate id ⟨id, shipment.status, shipment.milestones, shipment.updatedAt⟩)

/-- Run a block whose failure is only logged. -/
def loggingFailure (block : BackendM Unit) : BackendM Unit :=
  tryCatch block fun _ => return ()

/-- The ledger block of a status change. No transaction is cited. -/
def recordStatusChange (id : String) (previousStatus status : ShipmentStatus)
    (actor : Option String) : BackendM Unit :=
  loggingFailure do
    let now ← currentDate
    let previous := ("previousStatus", some (Value.string previousStatus.name))
    let canonical := buildCanonicalShipmentPayload id status.name actor now (.object [previous])
    let _ ← createLedgerBlockService
      { shipmentId := id
        eventType := some status.milestoneEvent
        actor
        metadata := some (.object
          [previous, ("simulated", some (.bool true)), ("canonical", some canonical)])
        dataHash := some (generateDataHash canonical) }

/-- The ledger block of a settlement, citing the release transaction. -/
def recordSettlementInitiated (id paymentId : String) (actor : Option String)
    (released : ChainReceipt) : BackendM Unit :=
  loggingFailure do
    let now ← currentDate
    let payment := ("paymentId", some (Value.string paymentId))
    let canonical := buildCanonicalShipmentPayload id MilestoneEvent.settlementInitiated.name
      actor now (.object [payment])
    let _ ← createLedgerBlockService
      { shipmentId := id
        eventType := some .settlementInitiated
        transactionHash := some released.txHash
        dataHash := some (generateDataHash canonical)
        actor
        metadata := some (.object
          [payment, ("canonical", some canonical), ("simulated", some (.bool released.simulated))]) }

/-- Escrow release on delivery. The answer is the assigned `simulated` flag,
which keeps its value when a later step of the block fails. -/
def settleDelivery (id : String) (shipment : Shipment) (actor : Option String) :
    BackendM (Option Bool) :=
  tryCatch
    (do
      let payment ← getPaymentByShipmentId shipment.id.toString
      match payment with
      | none => return none
      | some payment =>
          let released ← releaseEscrowOnDelivery shipment payment.id.toString
          loggingFailure do
            let _ ← updatePaymentStatus payment.id.toString .released (some released.txHash)
            recordSettlementInitiated id payment.id.toString actor released
          return some released.simulated)
    fun _ => return none

def settleWhenDelivered (id : String) (status : ShipmentStatus) (shipment : Shipment)
    (actor : Option String) : BackendM (Option Bool) :=
  if status = .delivered then settleDelivery id shipment actor else return none

structure StatusUpdateResult where
  shipment : Shipment
  simulated : Option Bool

/-- Everything after the transition has been validated. -/
def commitStatusUpdate (id : String) (shipment : Shipment) (status : ShipmentStatus)
    (actor : Option String) : BackendM (Option StatusUpdateResult) := do
  let milestone ← milestoneFor status actor
  let changes : ShipmentChanges := { status := some status, milestones := [milestone] }
  let savedAt ← request (.shipmentSave shipment.id changes)
  let saved := changes.apply savedAt shipment
  request .invalidateAnalyticsPerformanceCache
  request (.invalidateShipmentEtaCache id)
  recordStatusChange id shipment.status status actor
  let simulated ← settleWhenDelivered id status saved actor
  auditStatusChange actor id
  emitStatusUpdate id saved
  return some ⟨saved, simulated⟩

def updateShipmentStatusService (id : String) (status : ShipmentStatus) (actor : Option String) :
    BackendM (Option StatusUpdateResult) := do
  let shipment ← findShipmentById id
  match shipment with
  | none => return none
  | some shipment =>
      if shipment.status = status then return some ⟨shipment, none⟩
      else match validateStatusTransition shipment.status status with
        | .error error => throw error
        | .ok () => commitStatusUpdate id shipment status actor

inductive BulkFailureReason where
  | notFound
  | wrongOrg
  | invalidTransition
  | updateFailed
deriving DecidableEq

def BulkFailureReason.name : BulkFailureReason → String
  | .notFound => "NOT_FOUND"
  | .wrongOrg => "WRONG_ORG"
  | .invalidTransition => "INVALID_TRANSITION"
  | .updateFailed => "UPDATE_FAILED"

structure BulkUpdateResult where
  updated : Nat
  failed : List (String × BulkFailureReason)
deriving DecidableEq

/-- Escrow release of the bulk path. No ledger block is written. -/
def settleBulkDelivery (id : String) (shipment : Shipment) : BackendM Unit :=
  loggingFailure do
    let payment ← getPaymentByShipmentId id
    match payment with
    | none => return ()
    | some payment =>
        let released ← releaseEscrowOnDelivery shipment payment.id.toString
        let _ ← updatePaymentStatus payment.id.toString .released (some released.txHash)

def settleBulkWhenDelivered (id : String) (status : ShipmentStatus) (shipment : Shipment) :
    BackendM Unit :=
  if status = .delivered then settleBulkDelivery id shipment else return ()

/-- The protected part of one bulk iteration; `none` means updated. -/
def bulkCommit (id : String) (status : ShipmentStatus) (milestone : Milestone)
    (actor : Option String) : BackendM (Option BulkFailureReason) :=
  tryCatch
    (do
      let shipment ← request (.shipmentFindByIdAndUpdate id (.setStatus status milestone))
      match (shipment : Option Shipment) with
      | none => return some .notFound
      | some shipment =>
          request .invalidateAnalyticsPerformanceCache
          settleBulkWhenDelivered id status shipment
          auditStatusChange actor id
          emitStatusUpdate id shipment
          return none)
    fun _ => return some .updateFailed

def ownedBy (shipment : Shipment) (organizationId : String) : Bool :=
  shipment.enterpriseId.toString = organizationId || shipment.logisticsId.toString = organizationId

/-- One iteration of the bulk loop, against the snapshot read at the start. The
user lookup is outside the protected part. -/
def bulkUpdateOne (snapshot : List Shipment) (organizationId : String) (status : ShipmentStatus)
    (actor : Option String) (id : String) : BackendM (Option BulkFailureReason) :=
  match snapshot.find? fun shipment => shipment.id.toString = id with
  | none => return some .notFound
  | some existing =>
      if ¬ownedBy existing organizationId then return some .wrongOrg
      else if status ∉ allowedTransitions existing.status then return some .invalidTransition
      else do
        let milestone ← milestoneFor status actor
        bulkCommit id status milestone actor

def bulkUpdateLoop (snapshot : List Shipment) (organizationId : String) (status : ShipmentStatus)
    (actor : Option String) : List String → BulkUpdateResult → BackendM BulkUpdateResult
  | [], result => return result
  | id :: rest, result => do
      let failure ← bulkUpdateOne snapshot organizationId status actor id
      match failure with
      | none =>
          bulkUpdateLoop snapshot organizationId status actor rest
            { result with updated := result.updated + 1 }
      | some reason =>
          bulkUpdateLoop snapshot organizationId status actor rest
            { result with failed := result.failed ++ [(id, reason)] }

def bulkUpdateShipmentStatusService (shipmentIds : List String) (status : ShipmentStatus)
    (organizationId : String) (actor : Option String) : BackendM BulkUpdateResult := do
  let snapshot ← request (.shipmentFindByIds shipmentIds)
  bulkUpdateLoop snapshot organizationId status actor shipmentIds ⟨0, []⟩

/-- The two kinds of status request, with everything they are given. -/
inductive StatusRequest where
  | single (id : String) (status : ShipmentStatus) (actor : Option String)
  | bulk (shipmentIds : List String) (status : ShipmentStatus) (organizationId : String)
      (actor : Option String)

def StatusRequest.program : StatusRequest → BackendM Unit
  | .single id status actor => do
      let _ ← updateShipmentStatusService id status actor
  | .bulk shipmentIds status organizationId actor => do
      let _ ← bulkUpdateShipmentStatusService shipmentIds status organizationId actor

end Navin
