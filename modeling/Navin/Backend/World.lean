import Navin.Backend.Interface
import Navin.Semantics.Collection
import Navin.Shared.Chain

/-! The atomic effect of each backend call on the stored collections, and how a
call may fail. A failing call may have had its effect before the answer was
lost. Deleted documents stay stored; the query hooks hide them. -/
namespace Navin

open Async

structure Store where
  shipments : Collection Shipment.id := .empty
  payments : Collection Payment.id := .empty
  ledgerBlocks : Collection LedgerBlock.id := .empty
  wallets : List (ObjectId × Option String) := []
  chain : Collection ChainTx.hash := .empty
  reported : List ChainEvent := []
  cursor : Option String := none
  telemetry : List TelemetryRow := []
  anomalies : List AnomalyRow := []
  etaCache : List (String × EtaPayload) := []

namespace Store

variable (store : Store)

/-- The stored shipment, deleted or not. -/
def shipment (id : ObjectId) : Option Shipment :=
  store.shipments.get? id

/-- What a query by id finds. -/
def liveShipment (id : ObjectId) : Option Shipment :=
  (store.shipment id).filter fun shipment => shipment.deletedAt.isNone

def payment (id : ObjectId) : Option Payment :=
  store.payments.get? id

def livePayment (id : ObjectId) : Option Payment :=
  (store.payment id).filter fun payment => payment.deletedAt.isNone

/-- `findOne` by shipment: the first live payment in natural order. -/
def paymentOfShipment (shipmentId : ObjectId) : Option Payment :=
  store.payments.docs.find? fun payment =>
    payment.shipmentId = shipmentId && payment.deletedAt.isNone

def ledgerBlock (id : ObjectId) : Option LedgerBlock :=
  store.ledgerBlocks.get? id

def blockOfTransaction (transactionHash : String) : Option LedgerBlock :=
  store.ledgerBlocks.docs.find? fun block => block.transactionHash = some transactionHash

def transaction (hash : String) : Option ChainTx :=
  store.chain.get? hash

def modifyShipment (id : ObjectId) (f : Shipment → Shipment)
    (hId : ∀ shipment, (f shipment).id = shipment.id) : Store :=
  { store with shipments := store.shipments.modify id f hId }

def modifyPayment (id : ObjectId) (f : Payment → Payment)
    (hId : ∀ payment, (f payment).id = payment.id) : Store :=
  { store with payments := store.payments.modify id f hId }

/-- Submit a transaction. Its hash is one nobody has seen yet; a decision that
offers an old hash counts as an outage. -/
def submit {α : Type} (tx : ChainTx) (answer : α) : Store × Except ThrownError α :=
  if h : store.chain.get? tx.hash = none ∧ ∀ event ∈ store.reported, event.txHash ≠ tx.hash then
    ({ store with chain := store.chain.insert tx h.1 }, .ok answer)
  else (store, .error .unavailable)

/-- The chain reports the digest that a submitted transaction committed. About
transactions of others it may report anything. -/
def mayReport (event : ChainEvent) : Bool :=
  (store.transaction event.txHash).all fun tx => tx.digest = event.digest

end Store

/-- What the world decides when a call is made. -/
structure Decision where
  fault : Option Fault := none
  now : Date := ⟨0⟩
  reference : Fin 900000 := 0
  uuid : String := ""
  freshId : ObjectId := .repeated 0
  receipt : ChainReceipt := ⟨"", 0, true⟩
  url : String := ""
  event : Option ChainEvent := none
  cacheMiss : Bool := false

/-- A call that meets no fault at the epoch. -/
def Decision.ok : Decision := {}

/-- The decision lets the call have its effect, whatever becomes of the answer. -/
def Decision.applies (decision : Decision) : Bool :=
  match decision.fault with
  | some (.rejected _) => false
  | _ => true

/-- The block an upsert inserts, with the schema's defaults. -/
def LedgerUpsert.insert (upsert : LedgerUpsert) (transactionHash : String) (shipmentId id : ObjectId)
    (now : Date) : LedgerBlock :=
  { id, deletedAt := none, createdAt := now
    blockNumber := 0, timestamp := now, shipmentId, shipmentReference := none
    milestoneEvent := upsert.milestoneEvent, transactionHash := some transactionHash
    dataHash := upsert.dataHash, canonicalPayload := none, ledger := 0, verified := false
    actor := some upsert.actor, metadata := some upsert.metadata }

/-- What an upsert sets on a block that exists. -/
def LedgerUpsert.set (upsert : LedgerUpsert) (block : LedgerBlock) : LedgerBlock :=
  { block with
    milestoneEvent := upsert.milestoneEvent
    metadata := some upsert.metadata
    dataHash := upsert.dataHash.or block.dataHash }

theorem LedgerUpsert.set_id (upsert : LedgerUpsert) (block : LedgerBlock) :
    (upsert.set block).id = block.id := rfl

/-- A call that succeeds, or that the database itself refuses. -/
def execute (decision : Decision) (store : Store) :
    (call : BackendCall) → Store × Except ThrownError call.Answer
  | .now => (store, .ok decision.now)
  | .randomReference => (store, .ok decision.reference)
  | .randomUUID => (store, .ok decision.uuid)
  | .shipmentInsert build =>
      let shipment := build decision.freshId decision.now
      if h : store.shipments.get? shipment.id = none ∧
          ∀ other ∈ store.shipments.docs, other.trackingNumber ≠ shipment.trackingNumber then
        ({ store with shipments := store.shipments.insert shipment h.1 }, .ok shipment)
      else (store, .error .duplicateKey)
  | .shipmentFindById id => castingId store id fun id => (store, .ok (store.liveShipment id))
  | .shipmentFindByIds ids =>
      match ids.mapM ObjectId.cast? with
      | none => (store, .error (.castError (ids.find? (ObjectId.cast? · |>.isNone) |>.getD "")))
      | some wanted =>
          (store, .ok (store.shipments.docs.filter fun shipment =>
            wanted.contains shipment.id && shipment.deletedAt.isNone))
  | .shipmentFind query sort skip limit =>
      (store, .ok (window skip limit (query.live.select sort store.shipments.docs)))
  | .shipmentCount query =>
      (store, .ok (store.shipments.docs.filter query.live.accepts).length)
  | .shipmentSave id changes =>
      match store.shipment id with
      | none => (store, .error .documentNotFound)
      | some _ =>
          (store.modifyShipment id (changes.apply decision.now) (changes.apply_id _),
            .ok decision.now)
  | .shipmentFindByIdAndUpdate id update => castingId store id fun id =>
      match store.liveShipment id with
      | none => (store, .ok none)
      | some shipment =>
          (store.modifyShipment id (update.apply decision.now) (update.apply_id _),
            .ok (some (update.apply decision.now shipment)))
  | .userWallet userId => castingId store userId fun id => (store, .ok (store.wallets.lookup id))
  | .paymentFindById id => castingId store id fun id => (store, .ok (store.livePayment id))
  | .paymentFindByShipmentId shipmentId => castingId store shipmentId fun id =>
      (store, .ok (store.paymentOfShipment id))
  | .paymentFindByIdAndUpdate id update => castingId store id fun id =>
      match store.livePayment id with
      | none => (store, .ok none)
      | some payment =>
          (store.modifyPayment id (update.apply decision.now) (update.apply_id _),
            .ok (some (update.apply decision.now payment)))
  | .ledgerCreate fields =>
      let block : LedgerBlock :=
        { fields with id := decision.freshId, deletedAt := none, createdAt := decision.now }
      if h : store.ledgerBlocks.get? block.id = none then
        ({ store with ledgerBlocks := store.ledgerBlocks.insert block h }, .ok block)
      else (store, .error .duplicateKey)
  | .ledgerFindById id => castingId store id fun id =>
      (store, .ok ((store.ledgerBlock id).filter fun block => block.deletedAt.isNone))
  | .ledgerUpsert transactionHash upsert => castingId store upsert.shipmentId fun shipmentId =>
      match store.blockOfTransaction transactionHash with
      | some block =>
          let ledgerBlocks := store.ledgerBlocks.modify block.id upsert.set upsert.set_id
          ({ store with ledgerBlocks }, .ok false)
      | none =>
          let block := upsert.insert transactionHash shipmentId decision.freshId decision.now
          if h : store.ledgerBlocks.get? block.id = none then
            ({ store with ledgerBlocks := store.ledgerBlocks.insert block h }, .ok true)
          else (store, .error .duplicateKey)
  | .releaseEscrow input =>
      if ¬isBytes32Hex input.proofHash then
        (store, .error (appError 422 "proof_hash must be 32 bytes of lowercase hex"
          "ERR_CHAIN_INVALID_PROOF"))
      else store.submit ⟨decision.receipt.txHash, some input.proofHash⟩ decision.receipt
  | .tokenizeShipment _ =>
      store.submit ⟨decision.receipt.txHash, none⟩ decision.receipt.txHash
  | .streamEvent _ =>
      match decision.event with
      | none => (store, .ok none)
      | some event =>
          if store.mayReport event then
            ({ store with reported := event :: store.reported }, .ok (some event))
          else (store, .ok none)
  | .getStoredCursor => (store, .ok store.cursor)
  | .saveStoredCursor cursor => ({ store with cursor := some cursor }, .ok ())
  | .uploadFile _ _ => (store, .ok decision.url)
  | .telemetryFind shipmentId => castingId store shipmentId fun id =>
      (store, .ok (store.telemetry.filter fun row =>
        row.shipmentId = id && row.deletedAt.isNone))
  | .anomalyFind shipmentId => castingId store shipmentId fun id =>
      (store, .ok (store.anomalies.filter fun row =>
        row.shipmentId = id && row.deletedAt.isNone))
  | .telemetryDelete shipmentId date => castingId store shipmentId fun id =>
      let telemetry := store.telemetry.map fun row =>
        if row.shipmentId = id then { row with deletedAt := some date } else row
      ({ store with telemetry }, .ok ())
  | .anomalyDelete shipmentId date => castingId store shipmentId fun id =>
      let anomalies := store.anomalies.map fun row =>
        if row.shipmentId = id then { row with deletedAt := some date } else row
      ({ store with anomalies }, .ok ())
  | .readShipmentEtaCache shipmentId =>
      (store, .ok (if decision.cacheMiss then none else store.etaCache.lookup shipmentId))
  | .writeShipmentEtaCache shipmentId payload =>
      ({ store with etaCache := (shipmentId, payload) :: store.etaCache }, .ok ())
  | .invalidateShipmentEtaCache shipmentId =>
      ({ store with etaCache := store.etaCache.filter fun entry => entry.1 ≠ shipmentId }, .ok ())
  | .invalidateAnalyticsPerformanceCache => (store, .ok ())
  | .emitStatusUpdate _ _ => (store, .ok ())
  | .emitPaymentStatusChange _ _ => (store, .ok ())
  | .auditLog _ => (store, .ok ())

/-- The answer of a call that met a fault. Clocks and randomness cannot fail;
the cache helpers, the cursor helpers and the audit log swallow errors. -/
def recover (decision : Decision) (error : ThrownError) :
    (call : BackendCall) → Except ThrownError call.Answer
  | .now => .ok decision.now
  | .randomReference => .ok decision.reference
  | .randomUUID => .ok decision.uuid
  | .getStoredCursor => .ok none
  | .saveStoredCursor _ => .ok ()
  | .readShipmentEtaCache _ => .ok none
  | .writeShipmentEtaCache _ _ => .ok ()
  | .invalidateShipmentEtaCache _ => .ok ()
  | .invalidateAnalyticsPerformanceCache => .ok ()
  | .auditLog _ => .ok ()
  | _ => .error error

def perform (decision : Decision) (store : Store) (call : BackendCall) :
    Store × Except ThrownError call.Answer :=
  match decision.fault with
  | none => execute decision store call
  | some (.rejected error) => (store, recover decision error call)
  | some (.lost error) => ((execute decision store call).1, recover decision error call)

abbrev backend : World BackendCall BackendCall.Answer ThrownError where
  Store := Store
  Env := Decision
  perform := perform

@[simp] theorem backend_perform : backend.perform = perform := rfl

theorem perform_of_fault_none {decision : Decision} {store : Store} {call : BackendCall}
    (h : decision.fault = none) :
    perform decision store call = execute decision store call := by
  simp [perform, h]

theorem perform_of_fault {decision : Decision} {store : Store} {call : BackendCall}
    {fault : Fault} (h : decision.fault = some fault) :
    (perform decision store call).2 = recover decision fault.error call := by
  cases fault <;> simp [perform, h, Fault.error]

theorem perform_store_eq (decision : Decision) (store : Store) (call : BackendCall) :
    (perform decision store call).1 =
      if decision.applies then (execute decision store call).1 else store := by
  unfold perform Decision.applies
  split <;> rename_i h <;> simp [h]

/-- Whatever happens to the answer, the effect of a call is all or nothing. -/
theorem perform_store (decision : Decision) (store : Store) (call : BackendCall) :
    (perform decision store call).1 = store ∨
      (perform decision store call).1 = (execute decision store call).1 := by
  rw [perform_store_eq]
  split
  · exact .inr rfl
  · exact .inl rfl

end Navin
