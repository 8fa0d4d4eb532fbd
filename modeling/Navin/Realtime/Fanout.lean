import Navin.Realtime.SseHub
import Navin.Shared.MessageText
import Navin.Shipments.MilestoneHistory
import Navin.Telemetry.Documents

/-! What is emitted on the sockets is built again for the event streams, in other
shapes. -/
namespace Navin

/-- The fan-out reads a property of the settlement payload that no emitter sets. -/
def SettlementStatusPayload.stellarTxHash (_payment : SettlementStatusPayload) : Option String :=
  none

namespace Sse

inductive ShipmentStatusEvent where
  | pending
  | inTransit
  | delivered
  | cancelled
deriving DecidableEq

def ShipmentStatusEvent.name : ShipmentStatusEvent → String
  | .pending => "PENDING"
  | .inTransit => "IN_TRANSIT"
  | .delivered => "DELIVERED"
  | .cancelled => "CANCELLED"

def mapShipmentStatus : ShipmentStatus → ShipmentStatusEvent
  | .created => .pending
  | .inTransit => .inTransit
  | .delivered | .settlementCompleted => .delivered
  | .cancelled => .cancelled
  | _ => .inTransit

/-- What the services emit, with the shipment they name. -/
inductive SocketEmission where
  | locationUpdate (shipmentId : String) (telemetry : TelemetryUpdatePayload)
  | anomalyDetected (shipmentId : String) (anomaly : AnomalyAlertPayload)
  | shipmentStatus (shipmentId : String) (statusData : StatusUpdatePayload)
  | settlementStatus (shipmentId : String) (payment : SettlementStatusPayload)

/-- The shipment that an emission is addressed to. -/
def SocketEmission.shipmentId : SocketEmission → String
  | .locationUpdate shipmentId _ | .anomalyDetected shipmentId _ | .shipmentStatus shipmentId _
  | .settlementStatus shipmentId _ => shipmentId

section Events

variable [DateText]

def statusEvent (shipmentId : String) (statusData : StatusUpdatePayload) : RealtimeEvent :=
  ⟨.shipmentStatus,
    [("shipmentId", some (.string shipmentId)),
     ("newStatus", some (.string (mapShipmentStatus statusData.status).name)),
     ("timestamp", some (.string statusData.updatedAt.toISOString))]⟩

def milestoneEvent (shipmentId : String) (milestone : Milestone) : RealtimeEvent :=
  ⟨.shipmentMilestone,
    [("shipmentId", some (.string shipmentId)),
     ("milestoneId", some (.string (shipmentId ++ "-" ++ milestone.name.name ++ "-" ++
       DateText.text milestone.timestamp))),
     ("event", some (.string milestone.name.name)),
     ("txHash", milestone.walletAddress.map .string)]⟩

def fanoutStatusUpdate (shipmentId : String) (statusData : StatusUpdatePayload) :
    List RealtimeEvent :=
  statusEvent shipmentId statusData ::
    (statusData.milestones.getLast?.map (milestoneEvent shipmentId)).toList

def fanoutAnomalyDetected (shipmentId : String) (anomaly : AnomalyAlertPayload) : RealtimeEvent :=
  ⟨.anomalyDetected,
    [("shipmentId", some (.string shipmentId)),
     ("anomalyType", some (.string anomaly.type)),
     ("severity", some (.string anomaly.severity))]⟩

def fanoutLocationUpdate (shipmentId : String) (telemetry : TelemetryUpdatePayload) :
    RealtimeEvent :=
  ⟨.locationUpdate,
    [("shipmentId", some (.string shipmentId)),
     ("lat", some telemetry.latitude.value),
     ("lng", some telemetry.longitude.value),
     ("timestamp", some (.string telemetry.timestamp))]⟩

def fanoutSettlementStatus (payment : SettlementStatusPayload) : RealtimeEvent :=
  ⟨.settlementStatus,
    [("settlementId", some (.string payment.paymentId)),
     ("newStatus", some (.string payment.newStatus.name)),
     ("txHash", payment.stellarTxHash.map .string)]⟩

/-- The events that are built from one emission, in order. -/
def SocketEmission.fanout : SocketEmission → List RealtimeEvent
  | .locationUpdate shipmentId telemetry => [fanoutLocationUpdate shipmentId telemetry]
  | .anomalyDetected shipmentId anomaly => [fanoutAnomalyDetected shipmentId anomaly]
  | .shipmentStatus shipmentId statusData => fanoutStatusUpdate shipmentId statusData
  | .settlementStatus _ payment => [fanoutSettlementStatus payment]

end Events

/-- `event[key]`, for the properties that the event's type brings. -/
def RealtimeEvent.property (event : RealtimeEvent) (key : String) : Option Value :=
  (event.properties.lookup key).join

/-- A transaction hash that is the wallet address of no milestone. -/
def OnlyTransactionHash (milestones : List Milestone) (text : String) : Prop :=
  isBytes32Hex text = true ∧ ∀ milestone ∈ milestones, milestone.walletAddress ≠ some text

/-- The event says what was emitted. -/
def SocketEmission.AgreesWith (event : RealtimeEvent) : SocketEmission → Prop
  | .locationUpdate _ telemetry =>
      event.type = .locationUpdate ∧ event.property "lat" = some telemetry.latitude.value ∧
        event.property "lng" = some telemetry.longitude.value ∧
        event.property "timestamp" = some (.string telemetry.timestamp)
  | .anomalyDetected _ anomaly =>
      event.type = .anomalyDetected ∧
        event.property "anomalyType" = some (.string anomaly.type) ∧
        event.property "severity" = some (.string anomaly.severity)
  | .shipmentStatus _ statusData =>
      event.type = .shipmentStatus ∨ event.type = .shipmentMilestone ∧
        ∀ value ∈ event.property "txHash", ∃ text, value = .string text ∧
          OnlyTransactionHash statusData.milestones text
  | .settlementStatus _ payment =>
      event.type = .settlementStatus ∧ event.property "txHash" = payment.txHash.map .string

def SocketEmission.statusOf (id : ObjectId) : SocketEmission → Option ShipmentStatus
  | .shipmentStatus shipmentId statusData =>
      if ObjectId.cast? shipmentId = some id then some statusData.status else none
  | _ => none

/-- The statuses of one shipment that are emitted, in order. -/
def emittedStatuses (id : ObjectId) (emissions : List SocketEmission) : List ShipmentStatus :=
  emissions.filterMap (SocketEmission.statusOf id)

/-- What the stream says of the shipment's status. -/
def RealtimeEvent.statusOf (id : ObjectId) (event : RealtimeEvent) : Option Value :=
  match event.type, event.property "shipmentId" with
  | .shipmentStatus, some (.string shipmentId) =>
      if ObjectId.cast? shipmentId = some id then event.property "newStatus" else none
  | _, _ => none

/-- A delivered shipment is not reported in transit next. -/
def StaysDelivered (reported next : Value) : Prop :=
  ¬(reported = .string ShipmentStatusEvent.delivered.name ∧
    next = .string ShipmentStatusEvent.inTransit.name)

/-- Along a run of emissions, the streams say the same as the sockets. -/
structure FanoutParity [DateText] (emissions : List SocketEmission) : Prop where
  agrees : ∀ emission ∈ emissions, ∀ event ∈ emission.fanout, emission.AgreesWith event
  statuses : ∀ id, List.IsChain StaysDelivered
    ((emissions.flatMap SocketEmission.fanout).filterMap (RealtimeEvent.statusOf id))

/-- The emission loses nothing on the way: it carries no transaction hash, and no
wallet address with its last milestone. -/
def SocketEmission.plain : SocketEmission → Prop
  | .shipmentStatus _ statusData =>
      ∀ milestone ∈ statusData.milestones.getLast?, milestone.walletAddress = none
  | .settlementStatus _ payment => payment.txHash = none
  | _ => True

section Parity

variable [DateText] {emission : SocketEmission} {emissions : List SocketEmission} {id : ObjectId}

/-- The last milestone's event carries no hash exactly when it carries no address. -/
theorem agreesWith_milestoneEvent_iff {statusData : StatusUpdatePayload} {milestone : Milestone}
    (shipmentId : String) (hLast : milestone ∈ statusData.milestones.getLast?) :
    (SocketEmission.shipmentStatus shipmentId statusData).AgreesWith
      (milestoneEvent shipmentId milestone) ↔ milestone.walletAddress = none := by
  have hMem := List.mem_of_mem_getLast? hLast
  have hHash : (milestoneEvent shipmentId milestone).property "txHash" =
      milestone.walletAddress.map .string := rfl
  rw [SocketEmission.AgreesWith, hHash]
  cases hWallet : milestone.walletAddress with
  | none => simp [milestoneEvent]
  | some address =>
      simp only [milestoneEvent, reduceCtorEq, true_and, false_or, iff_false]
      intro hOnly
      obtain ⟨text, hText, -, hNone⟩ := hOnly (.string address) rfl
      obtain rfl := Value.string.inj hText
      exact hNone milestone hMem hWallet

/-- What is built from one emission agrees with it exactly when nothing is lost. -/
theorem agrees_iff_plain :
    (∀ event ∈ emission.fanout, emission.AgreesWith event) ↔ emission.plain := by
  cases emission with
  | locationUpdate shipmentId telemetry =>
      simp only [SocketEmission.fanout, List.forall_mem_singleton, SocketEmission.plain, iff_true]
      exact ⟨rfl, rfl, rfl, rfl⟩
  | anomalyDetected shipmentId anomaly =>
      simp only [SocketEmission.fanout, List.forall_mem_singleton, SocketEmission.plain, iff_true]
      exact ⟨rfl, rfl, rfl⟩
  | settlementStatus shipmentId payment =>
      have hHash : (fanoutSettlementStatus payment).property "txHash" = none := rfl
      have hType : (fanoutSettlementStatus payment).type = .settlementStatus := rfl
      simp [SocketEmission.fanout, SocketEmission.AgreesWith, SocketEmission.plain, hHash, hType]
  | shipmentStatus shipmentId statusData =>
      have hStatus : (SocketEmission.shipmentStatus shipmentId statusData).AgreesWith
          (statusEvent shipmentId statusData) := .inl rfl
      simp only [SocketEmission.fanout, fanoutStatusUpdate, List.forall_mem_cons, hStatus,
        true_and, SocketEmission.plain]
      cases hLast : statusData.milestones.getLast? with
      | none => simp
      | some milestone =>
          simpa using agreesWith_milestoneEvent_iff shipmentId (Option.mem_def.mpr hLast)

def reportedStatus (status : ShipmentStatus) : Value :=
  .string (mapShipmentStatus status).name

omit [DateText] in
theorem statusOf_statusEvent (shipmentId : String) (statusData : StatusUpdatePayload) :
    (statusEvent shipmentId statusData).statusOf id =
      if ObjectId.cast? shipmentId = some id then some (reportedStatus statusData.status)
      else none := rfl

/-- One emission reports at most one status. -/
theorem filterMap_statusOf_fanout : emission.fanout.filterMap (RealtimeEvent.statusOf id) =
    ((emission.statusOf id).map reportedStatus).toList := by
  cases emission with
  | shipmentStatus shipmentId statusData =>
      have hMilestone (milestone : Milestone) :
          (milestoneEvent shipmentId milestone).statusOf id = none := rfl
      have hLast : ((statusData.milestones.getLast?.map (milestoneEvent shipmentId)).toList).filterMap
          (RealtimeEvent.statusOf id) = [] := by
        cases statusData.milestones.getLast? <;> simp [hMilestone]
      rw [SocketEmission.fanout, fanoutStatusUpdate, List.filterMap_cons, statusOf_statusEvent,
        SocketEmission.statusOf, hLast]
      by_cases hCast : ObjectId.cast? shipmentId = some id <;> simp [hCast]
  | _ => rfl

/-- The stream reports the emitted statuses, collapsed. -/
theorem statusOf_fanout :
    (emissions.flatMap SocketEmission.fanout).filterMap (RealtimeEvent.statusOf id) =
      (emittedStatuses id emissions).map reportedStatus := by
  induction emissions with
  | nil => rfl
  | cons emission rest ih =>
      rw [List.flatMap_cons, List.filterMap_append, filterMap_statusOf_fanout, ih,
        emittedStatuses, emittedStatuses, List.filterMap_cons]
      cases emission.statusOf id <;> rfl

omit [DateText] in
/-- The one transition that takes a shipment out of delivered, as the stream has it. -/
theorem staysDelivered_iff (status next : ShipmentStatus) (h : CanFollow status next) :
    StaysDelivered (reportedStatus status) (reportedStatus next) ↔ next ≠ .settlementInitiated := by
  have hName (a b : ShipmentStatusEvent) : Value.string a.name = .string b.name ↔ a = b := by
    rw [Value.string.injEq]
    cases a <;> cases b <;> decide
  unfold CanFollow at h
  simp only [StaysDelivered, reportedStatus, hName]
  cases status <;> cases next <;> revert h <;> decide

omit [DateText] in
/-- Along a legal path the stream never goes back exactly when no settlement begins. -/
theorem isChain_staysDelivered_iff {statuses : List ShipmentStatus}
    (hLegal : List.IsChain CanFollow (.created :: statuses)) :
    List.IsChain StaysDelivered (statuses.map reportedStatus) ↔
      .settlementInitiated ∉ statuses := by
  rw [List.isChain_map]
  constructor
  · intro hStays hMem
    obtain ⟨before, after, rfl⟩ := List.append_of_mem hMem
    rcases List.eq_nil_or_concat before with rfl | ⟨earlier, last, rfl⟩
    · have hFirst : CanFollow .created .settlementInitiated :=
        (List.isChain_cons_cons.mp hLegal).1
      revert hFirst
      unfold CanFollow
      decide
    · rw [List.concat_eq_append, List.append_assoc, List.singleton_append] at hLegal hStays
      have hStep := (List.isChain_cons_append_cons_cons.mp hLegal).2.1
      have hPair := (List.isChain_append_cons_cons.mp hStays).2.1
      exact (staysDelivered_iff _ _ hStep).mp hPair rfl
  · intro hNever
    apply List.isChain_iff_forall_rel_of_append_cons_cons.mpr
    intro status next before after hStatuses
    subst hStatuses
    have hStep := (List.isChain_cons_append_cons_cons.mp hLegal).2.1
    apply (staysDelivered_iff _ _ hStep).mpr
    intro hNext
    exact hNever (by simp [hNext])

/-- The streams say the same as the sockets exactly when no emission carries a
transaction hash, none ends in a milestone with a wallet address, and no shipment goes
on to its settlement. -/
theorem fanoutParity_iff
    (hLegal : ∀ id, List.IsChain CanFollow (.created :: emittedStatuses id emissions)) :
    FanoutParity emissions ↔ (∀ emission ∈ emissions, emission.plain) ∧
      ∀ id, .settlementInitiated ∉ emittedStatuses id emissions := by
  have hStatuses (id : ObjectId) : List.IsChain StaysDelivered
      ((emissions.flatMap SocketEmission.fanout).filterMap (RealtimeEvent.statusOf id)) ↔
        .settlementInitiated ∉ emittedStatuses id emissions := by
    rw [statusOf_fanout]
    exact isChain_staysDelivered_iff (hLegal id)
  constructor
  · intro hParity
    exact ⟨fun emission hMem => agrees_iff_plain.mp (hParity.agrees emission hMem),
      fun id => (hStatuses id).mp (hParity.statuses id)⟩
  · intro ⟨hPlain, hNever⟩
    exact ⟨fun emission hMem => agrees_iff_plain.mpr (hPlain emission hMem),
      fun id => (hStatuses id).mpr (hNever id)⟩

end Parity

section Sample

@[reducible] def isoDateText : DateText :=
  ⟨Date.toISOString⟩

/-- The release of the sample payment, as it is announced. -/
def sampleSettlement : SettlementStatusPayload where
  paymentId := samplePayment.id.toString
  shipmentId := sampleShipment.id.toString
  oldStatus := .escrowed
  newStatus := .released
  amount := samplePayment.amount
  txHash := some "tx"
  timestamp := "1970-01-01T00:00:00.000Z"

private theorem sample_legal (id : ObjectId) : List.IsChain CanFollow (.created ::
    emittedStatuses id [.settlementStatus sampleShipment.id.toString sampleSettlement]) :=
  List.isChain_singleton _

theorem fanoutParity_sample :
    @FanoutParity isoDateText [.settlementStatus sampleShipment.id.toString sampleSettlement] ↔
      (∀ emission ∈ [SocketEmission.settlementStatus sampleShipment.id.toString sampleSettlement],
        emission.plain) ∧ ∀ id, .settlementInitiated ∉ emittedStatuses id
          [.settlementStatus sampleShipment.id.toString sampleSettlement] :=
  @fanoutParity_iff isoDateText _ sample_legal

/-- The hash of an announced settlement does not reach the streams. -/
theorem settlement_hash_is_dropped : ¬∀ (_ : DateText) (emissions : List SocketEmission),
    (∀ id, List.IsChain CanFollow (.created :: emittedStatuses id emissions)) →
      FanoutParity emissions := by
  intro hClaim
  have hParity := hClaim isoDateText _ sample_legal
  have hAgrees := @FanoutParity.agrees isoDateText _ hParity _ (List.mem_singleton_self _)
    (fanoutSettlementStatus sampleSettlement) (List.mem_singleton_self _)
  have hHash : (fanoutSettlementStatus sampleSettlement).property "txHash" = some (.string "tx") :=
    hAgrees.2
  cases hHash

end Sample

end Sse

end Navin
