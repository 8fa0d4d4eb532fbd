import Navin.Backend.Interface

/-! Settlement status updates and disputes, as the payment repository and
service perform them: look the payment up, then update it by id. -/
namespace Navin

open Async

/-- Which Stellar network the deployment is configured for. -/
class StellarNetwork where
  isPublic : Bool

def currentDate : BackendM Date :=
  request .now

def getPaymentById (id : String) : BackendM (Option Payment) :=
  request (.paymentFindById id)

def updatePaymentStatus (id : String) (status : PaymentStatus) (stellarTxHash : Option String) :
    BackendM (Option Payment) :=
  request (.paymentFindByIdAndUpdate id (.setStatus status stellarTxHash))

def getPaymentByShipmentId (shipmentId : String) : BackendM (Option Payment) :=
  request (.paymentFindByShipmentId shipmentId)

def disputePayment (id disputeReason : String) (additionalNotes : Option String) :
    BackendM (Option Payment) := do
  let now ← currentDate
  request (.paymentFindByIdAndUpdate id (.dispute now disputeReason additionalNotes))

def emitPaymentStatusChange (shipmentId : String) (payload : SettlementStatusPayload) :
    BackendM Unit :=
  request (.emitPaymentStatusChange shipmentId payload)

structure AugmentedPayment extends Payment where
  explorerUrl : Option String

variable [StellarNetwork]

def getStellarExplorerUrl (txHash : String) : String :=
  let network := if StellarNetwork.isPublic then "public" else "testnet"
  "https://stellar.expert/explorer/" ++ network ++ "/tx/" ++ txHash

def augmentPayment (payment : Payment) : AugmentedPayment :=
  { payment with explorerUrl := (truthy payment.stellarTxHash).map getStellarExplorerUrl }

def getPaymentByIdService (id : String) : BackendM AugmentedPayment := do
  let some payment ← getPaymentById id
    | throw (appError 404 "Settlement not found" "ERR_PAYMENT_NOT_FOUND")
  return augmentPayment payment

/-- The last part of both updates: announce the stored change and return it. -/
def announceSettlement (oldStatus : PaymentStatus) (updated : Payment) :
    BackendM AugmentedPayment := do
  let now ← currentDate
  emitPaymentStatusChange updated.shipmentId.toString
    { paymentId := updated.id.toString
      shipmentId := updated.shipmentId.toString
      oldStatus
      newStatus := updated.status
      amount := updated.amount
      txHash := truthy updated.stellarTxHash
      timestamp := now.toISOString }
  return augmentPayment updated

def updatePaymentStatusService (id : String) (status : PaymentStatus)
    (stellarTxHash : Option String) : BackendM AugmentedPayment := do
  let some payment ← getPaymentById id
    | throw (appError 404 "Settlement not found" "ERR_PAYMENT_NOT_FOUND")
  let some updated ← updatePaymentStatus id status stellarTxHash
    | throw (appError 500 "Failed to update payment status" "ERR_INTERNAL_SERVER_ERROR")
  announceSettlement payment.status updated

def disputeSettlementService (id reason : String) (notes : Option String) :
    BackendM AugmentedPayment := do
  let some payment ← getPaymentById id
    | throw (appError 404 "Settlement not found" "ERR_PAYMENT_NOT_FOUND")
  let some updated ← disputePayment id reason notes
    | throw (appError 500 "Failed to dispute settlement" "ERR_INTERNAL_SERVER_ERROR")
  announceSettlement payment.status updated

section Properties

variable {T : (α : Type) → BackendM α → Prop} (hT : Program.Compositional T)
  (hAside : ∀ call : BackendCall, call.incidental → T _ (request call))
include hT hAside

theorem announceSettlement_holds {oldStatus : PaymentStatus} {updated : Payment} :
    T _ (announceSettlement oldStatus updated) :=
  hT.bind (hAside .now rfl) fun _ =>
    hT.bind (hAside (.emitPaymentStatusChange _ _) rfl) fun _ => hT.pure _

theorem updatePaymentStatusService_holds {id : String} {status : PaymentStatus}
    {stellarTxHash : Option String} (hFind : T _ (request (.paymentFindById id)))
    (hUpdate : T _ (request (.paymentFindByIdAndUpdate id (.setStatus status stellarTxHash)))) :
    T _ (updatePaymentStatusService id status stellarTxHash) := by
  refine hT.bind hFind fun found => ?_
  split
  · refine hT.bind hUpdate fun updated => ?_
    split
    · exact announceSettlement_holds hT hAside
    · exact hT.throw _
  · exact hT.throw _

theorem disputeSettlementService_holds {id reason : String} {notes : Option String}
    (hFind : T _ (request (.paymentFindById id)))
    (hUpdate : ∀ now, T _ (request (.paymentFindByIdAndUpdate id (.dispute now reason notes)))) :
    T _ (disputeSettlementService id reason notes) := by
  refine hT.bind hFind fun found => ?_
  split
  · refine hT.bind (hT.bind (hAside .now rfl) fun now => hUpdate now) fun updated => ?_
    split
    · exact announceSettlement_holds hT hAside
    · exact hT.throw _
  · exact hT.throw _

end Properties

end Navin
