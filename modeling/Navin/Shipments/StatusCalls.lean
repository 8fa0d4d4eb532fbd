import Navin.Shipments.StatusService

/-! Properties of the status services, from properties of the calls they make.
Each lemma follows the code of one function; what is left open are the calls the
laws about shipments, escrow and ledger blocks care about. -/
namespace Navin

open Async

/-- The incidental calls that announce no settlement and store no arrival estimate. A
status service makes no others. -/
def BackendCall.aside (call : BackendCall) : Bool :=
  match call with
  | .emitPaymentStatusChange _ _ | .writeShipmentEtaCache _ _ => false
  | call => call.incidental

theorem BackendCall.incidental_of_aside {call : BackendCall} (h : call.aside = true) :
    call.incidental = true := by
  cases call <;> first | exact h | cases h

variable {id paymentId : String} {status previousStatus : ShipmentStatus} {actor : Option String}
  {shipment : Shipment} {milestone : Milestone} {released : ChainReceipt}
  {T : (α : Type) → BackendM α → Prop} (hT : Program.Compositional T)
include hT

theorem loggingFailure_holds {block : BackendM Unit} (h : T _ block) :
    T _ (loggingFailure block) :=
  hT.tryCatch h fun _ => hT.pure _

variable (hAside : ∀ call : BackendCall, call.aside → T _ (request call))
include hAside

theorem milestoneFor_holds : T _ (milestoneFor status actor) := by
  refine hT.bind (hAside .now rfl) fun now => ?_
  dsimp only
  split
  · exact hT.pure _
  · exact hT.bind (hAside (.userWallet _) rfl) fun found => hT.pure _

/-- What is done with the milestone may rely on its name. -/
theorem milestoneFor_bind_holds {α : Type} {f : Milestone → BackendM α}
    (h : ∀ milestone, milestone.name = status → T _ (f milestone)) :
    T _ (milestoneFor status actor >>= f) := by
  rw [milestoneFor, bind_assoc]
  refine hT.bind (hAside .now rfl) fun now => ?_
  dsimp only
  split
  · rw [pure_bind]
    exact h _ rfl
  · rw [bind_assoc]
    refine hT.bind (hAside (.userWallet _) rfl) fun found => ?_
    rw [pure_bind]
    exact h _ rfl

theorem auditStatusChange_holds : T _ (auditStatusChange actor id) := by
  unfold auditStatusChange
  split
  · exact hT.pure _
  · exact hT.bind (hAside .now rfl) fun now => hAside (.auditLog _) rfl

variable [Sha256]

/-- The block of a status change cites no transaction and carries no payload
outside its metadata. -/
theorem recordStatusChange_holds
    (hCreate : ∀ fields : LedgerBlockFields, fields.transactionHash = none →
      fields.canonicalPayload = none → T _ (request (.ledgerCreate fields))) :
    T _ (recordStatusChange id previousStatus status actor) :=
  loggingFailure_holds hT <| hT.bind (hAside .now rfl) fun _ =>
    hT.bind (createLedgerBlock_holds hT (hAside .now rfl) fun _ _ _ _ => hCreate _ rfl rfl)
      fun _ => hT.pure _

theorem recordSettlementInitiated_holds
    (hCreate : ∀ fields : LedgerBlockFields, fields.canonicalPayload = none →
      T _ (request (.ledgerCreate fields))) :
    T _ (recordSettlementInitiated id paymentId actor released) :=
  loggingFailure_holds hT <| hT.bind (hAside .now rfl) fun _ =>
    hT.bind (createLedgerBlock_holds hT (hAside .now rfl) fun _ _ _ _ => hCreate _ rfl)
      fun _ => hT.pure _

section Release

variable (hLookup : ∀ id, T _ (request (.paymentFindByShipmentId id)))
  (hRelease : ∀ input, T _ (request (.releaseEscrow input)))
  (hMark : ∀ id hash, T _ (request (.paymentFindByIdAndUpdate id (.setStatus .released hash))))
include hLookup hRelease hMark

theorem settleDelivery_holds
    (hCreate : ∀ fields : LedgerBlockFields, fields.canonicalPayload = none →
      T _ (request (.ledgerCreate fields))) :
    T _ (settleDelivery id shipment actor) := by
  refine hT.tryCatch (hT.bind (hLookup _) fun payment => ?_) fun _ => hT.pure _
  split
  · exact hT.pure _
  · refine hT.bind (hRelease _) fun released =>
      hT.bind (loggingFailure_holds hT ?_) fun _ => hT.pure _
    exact hT.bind (hMark _ _) fun _ => recordSettlementInitiated_holds hT hAside hCreate

omit hAside in
theorem settleBulkDelivery_holds : T _ (settleBulkDelivery id shipment) := by
  refine loggingFailure_holds hT (hT.bind (hLookup _) fun payment => ?_)
  split
  · exact hT.pure _
  · exact hT.bind (hRelease _) fun released => hT.bind (hMark _ _) fun _ => hT.pure _

end Release

theorem commitStatusUpdate_holds
    (hSave : ∀ milestone : Milestone, milestone.name = status → T _ (request
      (.shipmentSave shipment.id { status := some status, milestones := [milestone] })))
    (hCreate : ∀ fields : LedgerBlockFields, fields.transactionHash = none →
      fields.canonicalPayload = none → T _ (request (.ledgerCreate fields)))
    (hSettle : ∀ saved, T _ (settleDelivery id saved actor)) :
    T _ (commitStatusUpdate id shipment status actor) := by
  refine milestoneFor_bind_holds hT hAside fun milestone hName => ?_
  refine hT.bind (hSave milestone hName) fun savedAt => ?_
  refine hT.bind (hAside .invalidateAnalyticsPerformanceCache rfl) fun _ => ?_
  refine hT.bind (hAside (.invalidateShipmentEtaCache _) rfl) fun _ => ?_
  refine hT.bind (recordStatusChange_holds hT hAside hCreate) fun _ => hT.bind ?_ fun simulated => ?_
  · unfold settleWhenDelivered
    split
    · exact hSettle _
    · exact hT.pure _
  · exact hT.bind (auditStatusChange_holds hT hAside) fun _ =>
      hT.bind (hAside (.emitStatusUpdate _ _) rfl) fun _ => hT.pure _

theorem bulkCommit_holds
    (hUpdate : T _ (request (.shipmentFindByIdAndUpdate id (.setStatus status milestone))))
    (hSettle : ∀ updated, T _ (settleBulkDelivery id updated)) :
    T _ (bulkCommit id status milestone actor) := by
  refine hT.tryCatch (hT.bind hUpdate fun updated => ?_) fun _ => hT.pure _
  split
  · exact hT.pure _
  · refine hT.bind (hAside .invalidateAnalyticsPerformanceCache rfl) fun _ => hT.bind ?_ fun _ => ?_
    · unfold settleBulkWhenDelivered
      split
      · exact hSettle _
      · exact hT.pure _
    · exact hT.bind (auditStatusChange_holds hT hAside) fun _ =>
        hT.bind (hAside (.emitStatusUpdate _ _) rfl) fun _ => hT.pure _

theorem bulkUpdateOne_holds {snapshot : List Shipment} {organizationId : String}
    (hUpdate : ∀ id milestone,
      T _ (request (.shipmentFindByIdAndUpdate id (.setStatus milestone.name milestone))))
    (hSettle : ∀ id updated, T _ (settleBulkDelivery id updated)) :
    T _ (bulkUpdateOne snapshot organizationId status actor id) := by
  unfold bulkUpdateOne
  split
  · exact hT.pure _
  · split
    · exact hT.pure _
    · split
      · exact hT.pure _
      · refine milestoneFor_bind_holds hT hAside fun milestone hName => ?_
        exact bulkCommit_holds hT hAside (hName ▸ hUpdate id milestone) (hSettle _)

omit hAside in
theorem bulkUpdateLoop_holds {snapshot : List Shipment} {organizationId : String}
    (hOne : ∀ id, T _ (bulkUpdateOne snapshot organizationId status actor id))
    (ids : List String) (result : BulkUpdateResult) :
    T _ (bulkUpdateLoop snapshot organizationId status actor ids result) := by
  induction ids generalizing result with
  | nil => exact hT.pure _
  | cons id rest ih =>
      refine hT.bind (hOne id) fun failure => ?_
      cases failure with
      | none => exact ih _
      | some reason => exact ih _

/-- A status request has a property that its reads, its writes of the status,
its ledger block and its escrow release have. -/
theorem StatusRequest.program_holds
    (hFind : ∀ id, T _ (request (.shipmentFindById id)))
    (hFindAll : ∀ ids, T _ (request (.shipmentFindByIds ids)))
    (hSave : ∀ id (milestone : Milestone), T _ (request
      (.shipmentSave id { status := some milestone.name, milestones := [milestone] })))
    (hUpdate : ∀ id milestone,
      T _ (request (.shipmentFindByIdAndUpdate id (.setStatus milestone.name milestone))))
    (hCreate : ∀ fields : LedgerBlockFields, fields.transactionHash = none →
      fields.canonicalPayload = none → T _ (request (.ledgerCreate fields)))
    (statusRequest : StatusRequest)
    (hSettle : ∀ id status actor saved, statusRequest = .single id status actor →
      T _ (settleDelivery id saved actor))
    (hSettleBulk : ∀ id updated, T _ (settleBulkDelivery id updated)) :
    T _ statusRequest.program := by
  cases statusRequest with
  | single id status actor =>
      refine hT.bind (hT.bind (hFind id) fun found => ?_) fun _ => hT.pure _
      split
      · exact hT.pure _
      · split
        · exact hT.pure _
        · split
          · exact hT.throw _
          · exact commitStatusUpdate_holds hT hAside
              (fun milestone hName => hName ▸ hSave _ milestone) hCreate
              fun saved => hSettle _ _ _ saved rfl
  | bulk shipmentIds status organizationId actor =>
      refine hT.bind (hT.bind (hFindAll _) fun snapshot => ?_) fun _ => hT.pure _
      exact bulkUpdateLoop_holds hT
        (fun id => bulkUpdateOne_holds hT hAside hUpdate hSettleBulk) _ _

end Navin
