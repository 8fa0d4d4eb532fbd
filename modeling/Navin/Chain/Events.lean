import Navin.Backend.Documents
import Navin.Shared.Chain

/-! The schemas of contract events. -/
namespace Navin

def ChainEventBody.isValid : ChainEventBody → Bool
  | .anchor shipmentId dataHash => isSymbol shipmentId && isBytes32Hex dataHash
  | .escrowInit paymentId shipmentId payer payee token amount =>
      isSymbol paymentId && isSymbol shipmentId && isAddress payer && isAddress payee &&
        isContractAddress token && isPositiveI128 amount
  | .escrowRelease paymentId proofHash payee amount =>
      isSymbol paymentId && isBytes32Hex proofHash && isAddress payee && isPositiveI128 amount

/-- What the specification admits as an event. A transaction hash has the form of
any 32 bytes. -/
def ChainEvent.isValid (event : ChainEvent) : Bool :=
  event.id ≠ "" && isContractAddress event.contractId && isBytes32Hex event.txHash &&
    isU32 event.ledger && event.body.isValid

end Navin
