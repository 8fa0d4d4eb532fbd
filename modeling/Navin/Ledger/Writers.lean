import Navin.Backend.World
import Navin.Shipments.AttachmentService
import Navin.Shipments.RecordService
import Navin.Shipments.StatusCalls
import Navin.Webhooks.StellarService
import Navin.Workers.StellarIndexer

/-! Every request that can end in a ledger block or in a transaction. -/
namespace Navin

open Async

/-- Requests with everything they are given. An indexer cycle also gets the
number of events after which it is stopped. -/
inductive LedgerRequest where
  | shipmentStatus (request : StatusRequest)
  | settlement (request : SettlementRequest)
  | proof (id : String) (file : UploadedFile) (recipientSignatureName notes actor : Option String)
  | create (input : CreateShipmentInput) (actor : Option String)
  | index (initialCursor : Option String) (limit : Nat)

variable [Sha256] [StellarNetwork]

def LedgerRequest.program : LedgerRequest → BackendM Unit
  | .shipmentStatus request => request.program
  | .settlement request => request.program
  | .proof id file recipientSignatureName notes actor => do
      let _ ← uploadShipmentProofService id file recipientSignatureName notes actor
  | .create input actor => do
      let _ ← createShipmentService input actor
  | .index initialCursor limit => do
      let _ ← indexStellarTransactions initialCursor limit

/-- Any number of ledger requests about to start over one store. -/
def ledgerPool {ι : Type} (store : Store) (requests : ι → LedgerRequest) : Pool backend ι Unit :=
  ⟨store, fun i => (requests i).program⟩

end Navin
