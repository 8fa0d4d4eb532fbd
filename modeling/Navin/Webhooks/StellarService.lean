import Navin.Payments.Service
import Navin.Ledger.Service

/-! The Stellar settlement webhook. The payload has been validated; only the
fields the handler reads are kept. -/
namespace Navin

open Async

inductive StellarWebhookType where
  | release
  | escrow
  | failed
  | unknown (text : String)
deriving DecidableEq

structure StellarWebhookPayload where
  type : StellarWebhookType
  paymentId : String
  transactionHash : String
deriving DecidableEq

structure StellarWebhookResult where
  event : String
  paymentId : String
  status : PaymentStatus
  transactionHash : Option String
deriving DecidableEq

/-- The block recorded after a release. Its failure is logged and forgotten. -/
def recordSettlementCompleted (paymentId transactionHash : String) : BackendM Unit :=
  tryCatch
    (do
      let payment ← getPaymentById paymentId
      match payment with
      | none => return ()
      | some payment =>
          let _ ← createLedgerBlockService
            { shipmentId := payment.shipmentId.toString
              eventType := some .settlementCompleted
              transactionHash := some transactionHash
              metadata := some (.object [("paymentId", some (.string paymentId))]) }
          return ())
    fun _ => return ()

variable [StellarNetwork]

def handleReleaseEvent (paymentId transactionHash : String) :
    BackendM StellarWebhookResult := do
  let _ ← updatePaymentStatusService paymentId .released (some transactionHash)
  recordSettlementCompleted paymentId transactionHash
  return ⟨"release", paymentId, .released, some transactionHash⟩

def handleEscrowEvent (paymentId transactionHash : String) :
    BackendM StellarWebhookResult := do
  let _ ← updatePaymentStatusService paymentId .escrowed (some transactionHash)
  return ⟨"escrow", paymentId, .escrowed, some transactionHash⟩

def handleFailedEvent (paymentId : String) : BackendM StellarWebhookResult := do
  let _ ← updatePaymentStatusService paymentId .failed none
  return ⟨"failed", paymentId, .failed, none⟩

def handleStellarWebhookEvent (payload : StellarWebhookPayload) :
    BackendM StellarWebhookResult :=
  match payload.type with
  | .release => handleReleaseEvent payload.paymentId payload.transactionHash
  | .escrow => handleEscrowEvent payload.paymentId payload.transactionHash
  | .failed => handleFailedEvent payload.paymentId
  | .unknown text =>
      throw (appError 400 ("Unknown webhook event type: " ++ text) "UNKNOWN_EVENT_TYPE")

/-- The two entry points that write a payment's status by id. -/
inductive SettlementRequest where
  | webhook (payload : StellarWebhookPayload)
  | update (id : String) (status : PaymentStatus) (stellarTxHash : Option String)

def SettlementRequest.program : SettlementRequest → BackendM Unit
  | .webhook payload => do
      let _ ← handleStellarWebhookEvent payload
  | .update id status stellarTxHash => do
      let _ ← updatePaymentStatusService id status stellarTxHash

section Properties

variable {T : (α : Type) → BackendM α → Prop} (hT : Program.Compositional T)
  (hAside : ∀ call : BackendCall, call.incidental → T _ (request call))
  (hFind : ∀ id, T _ (request (.paymentFindById id)))
  (hCreate : ∀ fields : LedgerBlockFields, fields.dataHash = none →
    fields.canonicalPayload = none → T _ (request (.ledgerCreate fields)))
include hT hAside hFind hCreate

omit [StellarNetwork] in
theorem recordSettlementCompleted_holds {paymentId transactionHash : String} :
    T _ (recordSettlementCompleted paymentId transactionHash) := by
  refine hT.tryCatch (hT.bind (hFind _) fun payment => ?_) fun _ => hT.pure _
  split
  · exact hT.pure _
  · exact hT.bind (createLedgerBlock_holds hT (hAside .now rfl) fun _ _ _ _ => hCreate _ rfl rfl)
      fun _ => hT.pure _

variable (hUpdate : ∀ id status stellarTxHash,
    T _ (request (.paymentFindByIdAndUpdate id (.setStatus status stellarTxHash))))
include hUpdate

theorem SettlementRequest.program_holds (request : SettlementRequest) : T _ request.program := by
  have hService (id : String) (status : PaymentStatus) (stellarTxHash : Option String) :
      T _ (updatePaymentStatusService id status stellarTxHash) :=
    updatePaymentStatusService_holds hT hAside (hFind _) (hUpdate _ _ _)
  cases request with
  | update id status stellarTxHash => exact hT.bind (hService _ _ _) fun _ => hT.pure _
  | webhook payload =>
      obtain ⟨type, paymentId, transactionHash⟩ := payload
      refine hT.bind ?_ fun _ => hT.pure _
      cases type with
      | release =>
          exact hT.bind (hService _ _ _) fun _ =>
            hT.bind (recordSettlementCompleted_holds hT hAside hFind hCreate) fun _ => hT.pure _
      | escrow => exact hT.bind (hService _ _ _) fun _ => hT.pure _
      | failed => exact hT.bind (hService _ _ _) fun _ => hT.pure _
      | unknown text => exact hT.throw _

end Properties

end Navin
