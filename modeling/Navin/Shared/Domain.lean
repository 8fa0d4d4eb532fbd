import Navin.Shared.ObjectId

/-! Vocabulary shared by the services: statuses, roles, errors, and the
shipment state machine. Each enumeration carries the string the source stores. -/
namespace Navin

inductive ShipmentStatus where
  | created
  | pickupConfirmed
  | inTransit
  | customsCleared
  | outForDelivery
  | delivered
  | settlementInitiated
  | settlementCompleted
  | cancelled
deriving DecidableEq

inductive MilestoneEvent where
  | created
  | pickupConfirmed
  | inTransit
  | customsCleared
  | outForDelivery
  | delivered
  | settlementInitiated
  | settlementCompleted
  | proofSubmitted
  | cancelled
deriving DecidableEq

def MilestoneEvent.name : MilestoneEvent → String
  | .created => "CREATED"
  | .pickupConfirmed => "PICKUP_CONFIRMED"
  | .inTransit => "IN_TRANSIT"
  | .customsCleared => "CUSTOMS_CLEARED"
  | .outForDelivery => "OUT_FOR_DELIVERY"
  | .delivered => "DELIVERED"
  | .settlementInitiated => "SETTLEMENT_INITIATED"
  | .settlementCompleted => "SETTLEMENT_COMPLETED"
  | .proofSubmitted => "PROOF_SUBMITTED"
  | .cancelled => "CANCELLED"

namespace ShipmentStatus

/-- The milestone event with the same string: `status as unknown as MilestoneEvent`. -/
def milestoneEvent : ShipmentStatus → MilestoneEvent
  | .created => .created
  | .pickupConfirmed => .pickupConfirmed
  | .inTransit => .inTransit
  | .customsCleared => .customsCleared
  | .outForDelivery => .outForDelivery
  | .delivered => .delivered
  | .settlementInitiated => .settlementInitiated
  | .settlementCompleted => .settlementCompleted
  | .cancelled => .cancelled

def name (status : ShipmentStatus) : String :=
  status.milestoneEvent.name

end ShipmentStatus

inductive PaymentStatus where
  | pending
  | escrowed
  | released
  | failed
  | disputed
deriving DecidableEq

def PaymentStatus.name : PaymentStatus → String
  | .pending => "Pending"
  | .escrowed => "Escrowed"
  | .released => "Released"
  | .failed => "Failed"
  | .disputed => "Disputed"

inductive UserRole where
  | superAdmin
  | admin
  | manager
  | driver
  | viewer
  | customer
deriving DecidableEq

def UserRole.name : UserRole → String
  | .superAdmin => "SUPER_ADMIN"
  | .admin => "ADMIN"
  | .manager => "MANAGER"
  | .driver => "DRIVER"
  | .viewer => "VIEWER"
  | .customer => "CUSTOMER"

structure AppError where
  statusCode : Nat
  message : String
  code : String
  details : List String
deriving DecidableEq

/-- What an `await` or a statement may throw. Errors of libraries and of the
runtime are told apart only by where they come from. -/
inductive ThrownError where
  | app (error : AppError)
  | castError (text : String)
  | documentNotFound
  | duplicateKey
  | invalidToken
  | unavailable
deriving DecidableEq

/-- A call that fails may have been refused, or its answer may have been lost. -/
inductive Fault where
  | rejected (error : ThrownError)
  | lost (error : ThrownError)

def Fault.error : Fault → ThrownError
  | .rejected error => error
  | .lost error => error

/-- Continue with the identifier a string denotes, or throw the driver's error. -/
def castingId {σ α : Type} (store : σ) (text : String)
    (next : ObjectId → σ × Except ThrownError α) : σ × Except ThrownError α :=
  match ObjectId.cast? text with
  | none => (store, .error (.castError text))
  | some id => next id

def appError (statusCode : Nat) (message code : String) (details : List String := []) :
    ThrownError :=
  .app ⟨statusCode, message, code, details⟩

def allowedTransitions : ShipmentStatus → List ShipmentStatus
  | .created => [.pickupConfirmed, .inTransit, .cancelled]
  | .pickupConfirmed => [.inTransit, .cancelled]
  | .inTransit => [.customsCleared, .outForDelivery, .delivered, .cancelled]
  | .customsCleared => [.outForDelivery, .delivered, .cancelled]
  | .outForDelivery => [.delivered, .cancelled]
  | .delivered => [.settlementInitiated]
  | .settlementInitiated => [.settlementCompleted]
  | .settlementCompleted => []
  | .cancelled => []

/-- The error an update meets when the transition is not allowed. -/
def validateStatusTransition (currentStatus newStatus : ShipmentStatus) : Except ThrownError Unit :=
  if newStatus ∈ allowedTransitions currentStatus then .ok ()
  else .error (appError 400
    ("Invalid status transition from " ++ currentStatus.name ++ " to " ++ newStatus.name)
    "ERR_SHIPMENT_INVALID_TRANSITION" ((allowedTransitions currentStatus).map (·.name)))

@[simp] theorem validateStatusTransition_ok_iff {currentStatus newStatus : ShipmentStatus} :
    validateStatusTransition currentStatus newStatus = .ok () ↔
      newStatus ∈ allowedTransitions currentStatus := by
  unfold validateStatusTransition
  split <;> simp_all

/-- No status is its own successor, so repeating a status is never a transition. -/
theorem not_mem_allowedTransitions_self (status : ShipmentStatus) :
    status ∉ allowedTransitions status := by
  cases status <;> decide

end Navin
