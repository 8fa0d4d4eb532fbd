import Navin.Backend.Interface

/-! The ledger repository and service: how a block is built from what a writer
passes, and what the verification endpoint reads back. -/
namespace Navin

open Async

structure LedgerBlockInput where
  shipmentId : String
  milestoneEvent : Option MilestoneEvent := none
  eventType : Option MilestoneEvent := none
  blockNumber : Option Nat := none
  timestamp : Option Date := none
  shipmentReference : Option String := none
  dataHash : Option String := none
  canonicalPayload : Option Value := none
  transactionHash : Option String := none
  ledger : Option Nat := none
  verified : Option Bool := none
  actor : Option String := none
  metadata : Option Value := none

/-- The document handed to `LedgerBlock.create`. Empty strings are dropped. -/
def LedgerBlockInput.fields (input : LedgerBlockInput) (milestoneEvent : MilestoneEvent)
    (shipmentId : ObjectId) (now : Date) : LedgerBlockFields :=
  { blockNumber := input.blockNumber.getD 0
    timestamp := input.timestamp.getD now
    shipmentId
    shipmentReference := input.shipmentReference
    milestoneEvent
    transactionHash := truthy input.transactionHash
    dataHash := truthy input.dataHash
    canonicalPayload := input.canonicalPayload
    ledger := input.ledger.getD (input.blockNumber.getD 0)
    verified := input.verified.getD false
    actor := truthy input.actor
    metadata := input.metadata }

def createLedgerBlock (input : LedgerBlockInput) : BackendM LedgerBlock := do
  let some milestoneEvent := input.milestoneEvent.or input.eventType
    | throw (appError 400 "milestoneEvent or eventType is required" "ERR_BAD_REQUEST")
  let now ← request .now
  let some shipmentId := ObjectId.cast? input.shipmentId
    | throw (.castError input.shipmentId)
  request (.ledgerCreate (input.fields milestoneEvent shipmentId now))

/-- A block is created from the writer's own fields or not at all. -/
theorem createLedgerBlock_holds {T : (α : Type) → BackendM α → Prop}
    (hT : Program.Compositional T) {input : LedgerBlockInput} (hNow : T _ (request .now))
    (hCreate : ∀ event shipmentId now, input.milestoneEvent.or input.eventType = some event →
      T _ (request (.ledgerCreate (input.fields event shipmentId now)))) :
    T _ (createLedgerBlock input) := by
  unfold createLedgerBlock
  split
  · rename_i hEvent
    refine hT.bind hNow fun now => ?_
    split
    · exact hCreate _ _ _ hEvent
    · exact hT.throw _
  · exact hT.throw _

def createLedgerBlockService (input : LedgerBlockInput) : BackendM LedgerBlock :=
  createLedgerBlock input

def getLedgerBlockById (id : String) : BackendM (Option LedgerBlock) :=
  request (.ledgerFindById id)

def getLedgerBlockByIdService (id : String) : BackendM LedgerBlock := do
  let some block ← getLedgerBlockById id
    | throw (appError 404 "Ledger block not found" "ERR_LEDGER_BLOCK_NOT_FOUND")
  return block

/-- The answer of `GET /ledger/:id/verification`; `none` is a JSON `null`. -/
structure LedgerBlockVerification where
  canonicalPayload : Option Value
  dataHash : Option String
  txHash : Option String
  transactionHash : Option String
  ledger : Nat

def LedgerBlock.verification (block : LedgerBlock) : LedgerBlockVerification :=
  { canonicalPayload := block.canonicalPayload
    dataHash := block.dataHash
    txHash := block.transactionHash
    transactionHash := block.transactionHash
    ledger := block.ledger }

def getLedgerBlockVerificationService (id : String) : BackendM LedgerBlockVerification := do
  let block ← getLedgerBlockByIdService id
  return block.verification

end Navin
