import Navin.Payments.Service
import Navin.Ledger.Service

/-! The indexer worker. It pulls contract events one by one, writes one ledger
block for each transaction and remembers its position. -/
namespace Navin

open Async

structure IndexerSummary where
  processed : Nat := 0
  upserted : Nat := 0
  lastCursor : Option String
deriving DecidableEq

/-- The block fields of one event. A release event names no shipment, so its
payment id is stored in place of the shipment id. -/
def ChainEvent.upsert (event : ChainEvent) (indexedAt : Date) : LedgerUpsert :=
  let metadata (rest : List (String × String)) := Value.object
    ([("blockNumber", some (.number (.ofNat event.ledger))),
      ("ledger", some (.number (.ofNat event.ledger))),
      ("contractId", some (.string event.contractId)),
      ("eventId", some (.string event.id)),
      ("indexedAt", some (.string indexedAt.toISOString))] ++
      rest.map fun (key, text) => (key, some (.string text)))
  match event.body with
  | .anchor shipmentId dataHash =>
      { shipmentId, milestoneEvent := .inTransit, actor := "stellar-indexer"
        metadata := metadata [("dataHash", dataHash)], dataHash := some dataHash }
  | .escrowInit paymentId shipmentId payer payee token amount =>
      { shipmentId, milestoneEvent := .settlementInitiated, actor := "stellar-indexer"
        metadata := metadata [("paymentId", paymentId), ("payer", payer), ("payee", payee),
          ("token", token), ("amount", amount)]
        dataHash := none }
  | .escrowRelease paymentId proofHash payee amount =>
      { shipmentId := paymentId, milestoneEvent := .settlementCompleted, actor := "stellar-indexer"
        metadata := metadata [("paymentId", paymentId), ("proofHash", proofHash),
          ("payee", payee), ("amount", amount)]
        dataHash := none }

/-- A digest the indexer writes is the one the event reports. -/
theorem ChainEvent.digest_of_upsert {event : ChainEvent} {indexedAt : Date} {hash : String}
    (h : (event.upsert indexedAt).dataHash = some hash) : event.digest = some hash := by
  obtain ⟨id, contractId, txHash, ledger, body⟩ := event
  cases body with
  | anchor shipmentId dataHash => exact h
  | escrowInit paymentId shipmentId payer payee token amount => cases h
  | escrowRelease paymentId proofHash payee amount => cases h

def saveCursor (cursor : String) : BackendM Unit :=
  match truthy (some cursor) with
  | none => return ()
  | some cursor => request (.saveStoredCursor cursor)

/-- One turn of the `for await` loop: pull an event, write its block, save the
position. Nothing when the stream has ended. -/
def indexNextEvent (position : Option String) : BackendM (Option (String × Bool)) := do
  let event ← request (.streamEvent position)
  match (event : Option ChainEvent) with
  | none => return none
  | some event => do
      let indexedAt ← currentDate
      let inserted ← request (.ledgerUpsert event.txHash (event.upsert indexedAt))
      saveCursor event.id
      return some (event.id, inserted)

/-- The loop, cut after at most `limit` turns: the stream may never end, and a
process may be stopped at any time. -/
def indexEvents : (limit : Nat) → IndexerSummary → BackendM IndexerSummary
  | 0, summary => return summary
  | limit + 1, summary => do
      let turn ← indexNextEvent summary.lastCursor
      match turn with
      | none => return summary
      | some (cursor, inserted) =>
          indexEvents limit
            { processed := summary.processed + 1
              upserted := summary.upserted + inserted.toNat
              lastCursor := some cursor }

def indexStellarTransactions (initialCursor : Option String) (limit : Nat) :
    BackendM IndexerSummary :=
  match initialCursor with
  | some cursor => indexEvents limit { lastCursor := some cursor }
  | none => do
      let cursor ← request .getStoredCursor
      indexEvents limit { lastCursor := cursor }

section Properties

variable {T : (α : Type) → BackendM α → Prop} (hT : Program.Compositional T)
  (hAside : ∀ call : BackendCall, call.incidental → T _ (request call))
include hT hAside

theorem indexStellarTransactions_holds (hTurn : ∀ position, T _ (indexNextEvent position))
    {initialCursor : Option String} {limit : Nat} :
    T _ (indexStellarTransactions initialCursor limit) := by
  have hLoop : ∀ summary, T _ (indexEvents limit summary) := by
    induction limit with
    | zero => exact fun _ => hT.pure _
    | succ limit ih =>
        intro summary
        refine hT.bind (hTurn _) fun turn => ?_
        cases turn with
        | none => exact hT.pure _
        | some next => exact ih _
  unfold indexStellarTransactions
  split
  · exact hLoop _
  · exact hT.bind (hAside .getStoredCursor rfl) fun _ => hLoop _

end Properties

end Navin
