import Navin.Backend.World
import Navin.Semantics.Extension
import Navin.Telemetry.Documents

/-! What the telemetry and API key code awaits besides the backend calls, and the
effect of each of these calls. Both kinds of calls act on one store: the backend's
collections, and those that only this code uses. -/
namespace Navin

open Async

inductive TelemetryCall where
  | apiKeyFindActive
  | apiKeyTouch (id : ObjectId) (lastUsedAt : Date)
  | apiKeyFind (organizationId : String)
  | apiKeyRevoke (id : String)
  | shipmentFindBySensor (sensorId : String)
  | telemetryCreate (input : TelemetryInput)
  | telemetryFindByIdAndUpdate (id : String) (update : TelemetryUpdate)
  | thresholdFindOne (organizationId shipmentType : String)
  | anomalyCreate (anomalies : List EvaluatedAnomaly)
  | anchorEvent (shipmentId dataHash : String)
  | pushStellarAnchorJob (job : AnchorTelemetryJob)
  | pushAlertJob (alert : AlertJob)
  | emitTelemetryUpdate (shipmentId : String) (payload : TelemetryUpdatePayload)
  | emitAnomalyDetected (shipmentId : String) (payload : AnomalyAlertPayload)
  | setImmediate (task : BackgroundTask)

@[reducible] def TelemetryCall.Answer : TelemetryCall → Type
  | .apiKeyFindActive => List ApiKey
  | .apiKeyTouch _ _ => Unit
  | .apiKeyFind _ => List ApiKey
  | .apiKeyRevoke _ => Nat
  | .shipmentFindBySensor _ => Option Shipment
  | .telemetryCreate _ => Telemetry
  | .telemetryFindByIdAndUpdate _ _ => Option Telemetry
  | .thresholdFindOne _ _ => Option ThresholdProfile
  | .anomalyCreate _ => List AnomalyRow
  | .anchorEvent _ _ => String
  | .pushStellarAnchorJob _ => Unit
  | .pushAlertJob _ => Unit
  | .emitTelemetryUpdate _ _ => Unit
  | .emitAnomalyDetected _ _ => Unit
  | .setImmediate _ => Unit

/-- Programs over the backend calls and the telemetry calls. -/
abbrev TelemetryM : Type → Type :=
  Extended BackendCall.Answer TelemetryCall.Answer ThrownError

/-- One settled call of either kind in a run. -/
abbrev TelemetryEvent (ι : Type) : Type :=
  Event (BackendCall ⊕ TelemetryCall) (Sum.elim BackendCall.Answer TelemetryCall.Answer)
    ThrownError ι

/-- Await one of the telemetry calls. -/
abbrev call (request : TelemetryCall) : TelemetryM request.Answer :=
  Program.await (Sum.inr request)

/-- A backend program among the telemetry calls. -/
abbrev backendProgram {α : Type} (p : BackendM α) : TelemetryM α :=
  p.lift

structure TelemetryState where
  apiKeys : Collection ApiKey.id := .empty
  readings : List (ObjectId × Reading) := []
  thresholds : List ThresholdProfile := []
  anchorJobs : List AnchorTelemetryJob := []
  alerts : List AlertJob := []
  anchorTransactions : List String := []
  scheduled : List BackgroundTask := []

/-- The backend's collections and those of the telemetry code. -/
abbrev TelemetryStore : Type :=
  Store × TelemetryState

/-- What the world decides when a telemetry call is made. -/
structure TelemetryDecision where
  fault : Option Fault := none
  freshId : ObjectId := .repeated 0
  freshIds : List ObjectId := []
  txHash : String := ""

/-- `'offChainMetadata.sensorId': sensorId` matches the text and arrays that hold it. -/
def carriesSensor (sensorId : String) (metadata : Option Value) : Bool :=
  let matchesText : Value → Bool
    | .string text => text = sensorId
    | _ => false
  match metadata.bind (·.get? "sensorId") with
  | some (.array items) => items.any matchesText
  | some value => matchesText value
  | none => false

namespace TelemetryStore

variable (store : TelemetryStore)

/-- The first shipment in transit that carries the sensor. -/
def activeShipmentOfSensor (sensorId : String) : Option Shipment :=
  store.1.shipments.docs.find? fun shipment =>
    carriesSensor sensorId shipment.offChainMetadata && shipment.status = .inTransit &&
      shipment.deletedAt.isNone

/-- The stored record, deleted or not. -/
def telemetryRecord (id : ObjectId) : Option Telemetry := do
  let row ← store.1.telemetry.find? fun row => row.id = id
  let reading ← store.2.readings.lookup id
  return { row, reading with }

/-- Rewrite both parts of a record. -/
def updateTelemetry (id : ObjectId) (update : TelemetryUpdate) : TelemetryStore :=
  ({ store.1 with
      telemetry := store.1.telemetry.map fun row =>
        if row.id = id then update.applyRow row else row },
    { store.2 with
      readings := store.2.readings.map fun entry =>
        if entry.1 = id then (entry.1, update.applyReading entry.2) else entry })

def insertTelemetry (telemetry : Telemetry) : TelemetryStore :=
  ({ store.1 with telemetry := store.1.telemetry ++ [telemetry.toTelemetryRow] },
    { store.2 with readings := store.2.readings ++ [(telemetry.id, telemetry.toReading)] })

end TelemetryStore

/-- The anomaly documents of a batch, once their shipment ids have been cast. -/
def anomalyRows : List ObjectId → List EvaluatedAnomaly → Except ThrownError (List AnomalyRow)
  | id :: ids, anomaly :: rest =>
      match ObjectId.cast? anomaly.shipmentId with
      | none => .error (.castError anomaly.shipmentId)
      | some shipmentId => (anomalyRows ids rest).map fun rows =>
          { id, shipmentId, type := anomaly.type.name, severity := anomaly.severity
            message := anomaly.message, timestamp := anomaly.timestamp, resolved := false
            deletedAt := none } :: rows
  | [], _ :: _ => .error .unavailable
  | _, [] => .ok []

def executeTelemetry (decision : TelemetryDecision) (store : TelemetryStore) :
    (request : TelemetryCall) → TelemetryStore × Except ThrownError request.Answer
  | .apiKeyFindActive => (store, .ok (store.2.apiKeys.docs.filter (·.isActive)))
  | .apiKeyTouch id lastUsedAt =>
      let apiKeys := store.2.apiKeys.modify id (fun key => { key with lastUsedAt := some lastUsedAt })
        fun _ => rfl
      ((store.1, { store.2 with apiKeys }), .ok ())
  | .apiKeyFind organizationId => castingId store organizationId fun organizationId =>
      (store, .ok ((store.2.apiKeys.docs.filter fun key =>
        key.organizationId = organizationId && key.isActive).insertionSort fun first second =>
          second.createdAt.ms ≤ first.createdAt.ms))
  | .apiKeyRevoke id => castingId store id fun id =>
      match store.2.apiKeys.get? id with
      | none => (store, .ok 0)
      | some _ =>
          let apiKeys := store.2.apiKeys.modify id (fun key => { key with isActive := false })
            fun _ => rfl
          ((store.1, { store.2 with apiKeys }), .ok 1)
  | .shipmentFindBySensor sensorId => (store, .ok (store.activeShipmentOfSensor sensorId))
  | .telemetryCreate input => castingId store input.shipmentId fun shipmentId =>
      let telemetry := input.telemetry decision.freshId shipmentId
      if ∀ row ∈ store.1.telemetry, row.id ≠ decision.freshId then
        (store.insertTelemetry telemetry, .ok telemetry)
      else (store, .error .duplicateKey)
  | .telemetryFindByIdAndUpdate id update => castingId store id fun id =>
      match (store.telemetryRecord id).filter fun telemetry => telemetry.deletedAt.isNone with
      | none => (store, .ok none)
      | some _ =>
          (store.updateTelemetry id update, .ok ((store.updateTelemetry id update).telemetryRecord id))
  | .thresholdFindOne organizationId shipmentType =>
      castingId store organizationId fun organizationId =>
        (store, .ok (store.2.thresholds.find? fun profile =>
          profile.organizationId = organizationId && profile.shipmentType = shipmentType))
  | .anomalyCreate anomalies =>
      match anomalyRows decision.freshIds anomalies with
      | .error error => (store, .error error)
      | .ok rows => (({ store.1 with anomalies := store.1.anomalies ++ rows }, store.2), .ok rows)
  | .anchorEvent _ _ =>
      if decision.txHash ≠ "" then
        ((store.1, { store.2 with
          anchorTransactions := decision.txHash :: store.2.anchorTransactions }),
          .ok decision.txHash)
      else (store, .error .unavailable)
  | .pushStellarAnchorJob job =>
      ((store.1, { store.2 with anchorJobs := store.2.anchorJobs ++ [job] }), .ok ())
  | .pushAlertJob alert =>
      ((store.1, { store.2 with alerts := alert :: store.2.alerts }), .ok ())
  | .emitTelemetryUpdate _ _ => (store, .ok ())
  | .emitAnomalyDetected _ _ => (store, .ok ())
  | .setImmediate task =>
      ((store.1, { store.2 with scheduled := store.2.scheduled ++ [task] }), .ok ())

/-- The event loop takes every task. -/
def TelemetryCall.fallible : TelemetryCall → Bool
  | .setImmediate _ => false
  | _ => true

/-- A call is refused, or takes effect, or takes effect and its answer is lost. -/
def performTelemetry (decision : TelemetryDecision) (store : TelemetryStore)
    (request : TelemetryCall) : TelemetryStore × Except ThrownError request.Answer :=
  match if request.fallible then decision.fault else none with
  | none => executeTelemetry decision store request
  | some (.rejected error) => (store, .error error)
  | some (.lost error) => ((executeTelemetry decision store request).1, .error error)

theorem performTelemetry_cases (decision : TelemetryDecision) (store : TelemetryStore)
    (request : TelemetryCall) :
    (performTelemetry decision store request).1 = store ∨
      (performTelemetry decision store request).1 = (executeTelemetry decision store request).1 := by
  rw [performTelemetry]
  split
  · exact .inr rfl
  · exact .inl rfl
  · exact .inr rfl

theorem performTelemetry_of_fault_none {decision : TelemetryDecision} {store : TelemetryStore}
    {request : TelemetryCall} (h : decision.fault = none) :
    performTelemetry decision store request = executeTelemetry decision store request := by
  rw [performTelemetry, h, ite_self]

theorem performTelemetry_of_rejected {decision : TelemetryDecision} {store : TelemetryStore}
    {request : TelemetryCall} {error : ThrownError} (hFallible : request.fallible = true)
    (h : decision.fault = some (.rejected error)) :
    performTelemetry decision store request = (store, .error error) := by
  rw [performTelemetry, if_pos hFallible, h]

/-- An answered call took effect. -/
theorem executeTelemetry_of_answered {decision : TelemetryDecision} {store store' : TelemetryStore}
    {request : TelemetryCall} {answer : request.Answer}
    (h : performTelemetry decision store request = (store', .ok answer)) :
    executeTelemetry decision store request = (store', .ok answer) := by
  rw [performTelemetry] at h
  split at h
  · exact h
  · simp at h
  · simp at h

/-- The backend with the telemetry calls. -/
abbrev telemetryWorld : World (BackendCall ⊕ TelemetryCall)
    (Sum.elim BackendCall.Answer TelemetryCall.Answer) ThrownError :=
  backend.extend TelemetryState TelemetryDecision performTelemetry

section Runs

variable {α : Type} (p : BackendM α) (env : Nat → Decision × TelemetryDecision)
  (store : TelemetryStore)

/-- A backend program runs as it does in the backend. -/
theorem run_backendProgram : ∃ used, (backendProgram p).run telemetryWorld env store =
    (((p.run backend (fun n => (env n).1) store.1).1, store.2),
      (p.run backend (fun n => (env n).1) store.1).2.1, fun n => env (n + used)) :=
  Program.run_lift (W := backend) performTelemetry p env store

theorem run_call (request : TelemetryCall) : (call request).run telemetryWorld env store =
    ((performTelemetry (env 0).2 store request).1, (performTelemetry (env 0).2 store request).2,
      fun n => env (n + 1)) :=
  Program.run_await (W := telemetryWorld) (Sum.inr request) env store

variable {env store} {store' : TelemetryStore} {env' : Nat → Decision × TelemetryDecision}

theorem execute_of_run_call {request : TelemetryCall} {answer : request.Answer}
    (h : (call request).run telemetryWorld env store = (store', .ok answer, env')) :
    executeTelemetry (env 0).2 store request = (store', .ok answer) := by
  rw [call] at h
  exact executeTelemetry_of_answered ((Program.run_await_eq_ok (W := telemetryWorld)).mp h).1

/-- A backend call of a backend program. -/
theorem perform_of_run_request {backendCall : BackendCall} {answer : backendCall.Answer}
    (h : (backendProgram (request backendCall)).run telemetryWorld env store =
      (store', .ok answer, env')) :
    perform (env 0).1 store.1 backendCall = (store'.1, .ok answer) ∧ store'.2 = store.2 := by
  rw [backendProgram, request, Program.lift_await] at h
  have hPerform := ((Program.run_await_eq_ok (W := telemetryWorld)).mp h).1
  have hStore : ((perform (env 0).1 store.1 backendCall).1, store.2) = store' :=
    congrArg Prod.fst hPerform
  have hAnswer : (perform (env 0).1 store.1 backendCall).2 = .ok answer :=
    congrArg Prod.snd hPerform
  subst hStore
  exact ⟨Prod.ext rfl hAnswer, rfl⟩

end Runs

end Navin
