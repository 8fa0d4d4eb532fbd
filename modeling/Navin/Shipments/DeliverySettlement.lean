import Navin.Backend.Effects
import Navin.Semantics.Protocol
import Navin.Payments.EscrowSafety
import Navin.Shipments.StatusCalls

/-! In which order a delivery writes. The shipment is saved before the escrow is
released, the payment is marked only after the release succeeded, and the ledger
hears of the settlement only after the payment has been stored. -/
namespace Navin

open Async

/-- How far a delivery has come, by the answers it got. Other requests are
elsewhere and do as they please. -/
inductive DeliveryStage where
  | elsewhere
  | arriving
  | delivered
  | found (payment : ObjectId)
  | rejected
  | released (payment : ObjectId) (txHash : String)
  | stored (txHash : String)
  | paymentGone

namespace DeliveryStage

/-- The chain has released the escrow. -/
def settles : DeliveryStage → Bool
  | .released _ _ | .stored _ | .paymentGone => true
  | _ => false

/-- The payment the delivery is going to mark. -/
def payment : DeliveryStage → Option ObjectId
  | .found payment | .released payment _ => some payment
  | _ => none

end DeliveryStage

/-- What a delivery saves. -/
def ShipmentChanges.delivers (changes : ShipmentChanges) : Prop :=
  changes.status = some .delivered ∧ ∃ milestone, changes.milestones = [milestone] ∧
    milestone.name = .delivered

def settlesInOrder : Protocol BackendCall BackendCall.Answer ThrownError DeliveryStage where
  allows stage call := stage = .elsewhere ∨
    match call with
    | .shipmentSave _ changes => stage = .arriving ∧ changes.delivers
    | .shipmentInsert _ | .shipmentFindByIdAndUpdate _ _ | .ledgerUpsert _ _ => False
    | .releaseEscrow _ => ∃ payment, stage = .found payment
    | .paymentFindByIdAndUpdate id update => ∃ payment txHash, stage = .released payment txHash ∧
        id = payment.toString ∧ update = .setStatus .released (some txHash)
    | .ledgerCreate fields => fields.milestoneEvent = .settlementInitiated →
        stage = .paymentGone ∨ ∃ txHash, stage = .stored txHash ∧
          fields.transactionHash = truthy (some txHash)
    | _ => True
  next stage call response :=
    match stage, call, response with
    | .arriving, .shipmentSave _ _, .ok _ => .delivered
    | .delivered, .paymentFindByShipmentId _, .ok (some payment) => .found payment.id
    | .found _, .releaseEscrow _, .error _ => .rejected
    | .found payment, .releaseEscrow _, .ok receipt => .released payment receipt.txHash
    | .released _ txHash, .paymentFindByIdAndUpdate _ _, .ok (some _) => .stored txHash
    | .released _ _, .paymentFindByIdAndUpdate _ _, .ok none => .paymentGone
    | stage, _, _ => stage

section Programs

variable {id : String} {actor : Option String} {shipment : Shipment} {stage : DeliveryStage}

/-- A program that leaves the delivery where it is. -/
abbrev KeepsStage (stage : DeliveryStage) (α : Type) (p : BackendM α) : Prop :=
  p.Follows settlesInOrder (fun after _ => after = stage) stage

/-- The calls that do not bear on the order. -/
def BackendCall.unordered : BackendCall → Bool
  | .shipmentSave _ _ | .shipmentInsert _ | .shipmentFindByIdAndUpdate _ _ | .ledgerUpsert _ _
  | .releaseEscrow _ | .paymentFindByIdAndUpdate _ _ | .paymentFindByShipmentId _
  | .ledgerCreate _ => false
  | _ => true

theorem keepsStage_of_unordered {call : BackendCall} (h : call.unordered = true) :
    KeepsStage stage _ (request call) := by
  refine Program.follows_await.mpr ⟨?_, fun response => ?_⟩
  · cases call <;> first | exact .inr trivial | cases h
  · cases call <;> first | (cases stage <;> rfl) | cases h

theorem keepsStage_of_incidental (call : BackendCall) (h : call.incidental = true) :
    KeepsStage stage _ (request call) := by
  refine keepsStage_of_unordered ?_
  cases call <;> first | rfl | cases h

/-- Blocks about anything but the settlement may be written at any time. -/
theorem keepsStage_ledgerCreate {fields : LedgerBlockFields}
    (h : fields.milestoneEvent = .settlementInitiated → stage = .paymentGone ∨
      ∃ txHash, stage = .stored txHash ∧ fields.transactionHash = truthy (some txHash)) :
    KeepsStage stage _ (request (.ledgerCreate fields)) := by
  refine Program.follows_await.mpr ⟨.inr h, fun response => ?_⟩
  cases stage <;> rfl

theorem KeepsStage.andThen {α β : Type} {p : BackendM α} {f : α → BackendM β}
    (h : KeepsStage stage α p)
    (hRest : ∀ a, (f a).Follows settlesInOrder (fun _ _ => True) stage) :
    (p >>= f).Follows settlesInOrder (fun _ _ => True) stage := by
  refine Program.Follows.bind h ?_ fun _ _ _ => trivial
  rintro _ a rfl
  exact hRest a

/-- A request that is elsewhere is free, and stays there. -/
theorem elsewhere_follows {α : Type} (p : BackendM α) :
    p.Follows settlesInOrder (fun after _ => after = .elsewhere) .elsewhere := by
  induction p with
  | done a => rfl
  | fail e => rfl
  | call request next ih => exact ⟨.inl rfl, fun response => ih response⟩

variable [Sha256]

theorem recordStatusChange_keepsStage {previousStatus : ShipmentStatus} :
    KeepsStage stage _ (recordStatusChange id previousStatus .delivered actor) := by
  have hT := Program.Follows.compositional settlesInOrder stage
  refine loggingFailure_holds hT (hT.bind (keepsStage_of_incidental .now rfl) fun now => ?_)
  refine hT.bind (createLedgerBlock_holds hT (keepsStage_of_incidental .now rfl)
    fun event shipmentId now hEvent => keepsStage_ledgerCreate fun hSettlement => ?_) fun _ => rfl
  have hDelivered : some ShipmentStatus.delivered.milestoneEvent = some event := hEvent
  have hInitiated : event = .settlementInitiated := hSettlement
  subst hInitiated
  cases hDelivered

theorem recordSettlementInitiated_keepsStage {paymentId : String} {released : ChainReceipt}
    (h : stage = .paymentGone ∨ stage = .stored released.txHash) :
    KeepsStage stage _ (recordSettlementInitiated id paymentId actor released) := by
  have hT := Program.Follows.compositional settlesInOrder stage
  refine loggingFailure_holds hT (hT.bind (keepsStage_of_incidental .now rfl) fun now => ?_)
  refine hT.bind (createLedgerBlock_holds hT (keepsStage_of_incidental .now rfl)
    fun event shipmentId now hEvent => keepsStage_ledgerCreate fun _ => ?_) fun _ => rfl
  exact h.imp_right fun hStored => ⟨released.txHash, hStored, rfl⟩

/-- Marking the payment, and then telling the ledger. -/
theorem markReleased_follows {payment : ObjectId} {released : ChainReceipt} :
    (loggingFailure do
      let _ ← updatePaymentStatus payment.toString .released (some released.txHash)
      recordSettlementInitiated id payment.toString actor released).Follows settlesInOrder
      (fun _ _ => True) (.released payment released.txHash) := by
  have hRecord (stage : DeliveryStage)
      (h : stage = .paymentGone ∨ stage = .stored released.txHash) :
      (recordSettlementInitiated id payment.toString actor released).Follows settlesInOrder
        (Program.Caught (P := settlesInOrder) (fun _ => return ()) fun _ _ => True) stage := by
    refine (recordSettlementInitiated_keepsStage h).mono fun _ outcome _ => ?_
    cases outcome <;> trivial
  refine Program.follows_tryCatch.mpr (Program.follows_bind.mpr (Program.follows_await.mpr
    ⟨.inr ⟨payment, released.txHash, rfl, rfl, rfl⟩, fun response => ?_⟩))
  cases response with
  | error error => trivial
  | ok found =>
      cases found with
      | none => exact hRecord .paymentGone (.inl rfl)
      | some updated => exact hRecord (.stored released.txHash) (.inr rfl)

theorem settleDelivery_inOrder :
    (settleDelivery id shipment actor).Follows settlesInOrder (fun _ _ => True) .delivered := by
  refine Program.follows_tryCatch.mpr (Program.follows_bind.mpr (Program.follows_await.mpr
    ⟨.inr trivial, fun response => ?_⟩))
  cases response with
  | error error => trivial
  | ok found =>
      cases found with
      | none => trivial
      | some payment =>
          refine Program.follows_bind.mpr (Program.follows_await.mpr
            ⟨.inr ⟨payment.id, rfl⟩, fun response => ?_⟩)
          cases response with
          | error error => trivial
          | ok released =>
              refine markReleased_follows.bind (fun _ _ _ => trivial) fun _ _ _ => trivial

omit [Sha256] in
theorem milestoneFor_inOrder :
    (milestoneFor .delivered actor).Follows settlesInOrder (fun after outcome => after = stage ∧
      ∀ milestone, outcome = .ok milestone → milestone.name = .delivered) stage := by
  refine Program.Follows.bind (keepsStage_of_incidental .now rfl) ?_
    fun _ _ h => ⟨h, by rintro _ ⟨⟩⟩
  rintro _ now rfl
  dsimp only
  split
  · exact ⟨rfl, by rintro _ ⟨⟩; rfl⟩
  · refine Program.Follows.bind (keepsStage_of_incidental (.userWallet _) rfl) ?_
      fun _ _ h => ⟨h, by rintro _ ⟨⟩⟩
    rintro _ found rfl
    exact ⟨rfl, by rintro _ ⟨⟩; rfl⟩

theorem commitStatusUpdate_inOrder :
    (commitStatusUpdate id shipment .delivered actor).Follows settlesInOrder
      (fun _ _ => True) .arriving := by
  refine milestoneFor_inOrder.bind ?_ fun _ _ _ => trivial
  rintro _ milestone ⟨rfl, hName⟩
  refine Program.follows_bind.mpr (Program.follows_await.mpr
    ⟨.inr ⟨rfl, rfl, milestone, rfl, hName milestone rfl⟩, fun response => ?_⟩)
  cases response with
  | error error => trivial
  | ok savedAt =>
      -- The shipment is saved; only the settlement moves on from here.
      refine KeepsStage.andThen (keepsStage_of_incidental .invalidateAnalyticsPerformanceCache rfl)
        fun _ => KeepsStage.andThen (keepsStage_of_incidental (.invalidateShipmentEtaCache id) rfl)
          fun _ => KeepsStage.andThen recordStatusChange_keepsStage fun _ => ?_
      refine settleDelivery_inOrder.bind (fun stage simulated _ => ?_) fun _ _ _ => trivial
      have hT := Program.Follows.compositional settlesInOrder stage
      refine KeepsStage.andThen (auditStatusChange_holds hT fun call h =>
        keepsStage_of_incidental call (BackendCall.incidental_of_aside h)) fun _ => ?_
      exact KeepsStage.andThen (keepsStage_of_incidental (.emitStatusUpdate id _) rfl)
        fun _ => trivial

/-- A status update to `DELIVERED` writes in order, whatever fails. -/
theorem delivery_follows :
    (StatusRequest.single id .delivered actor).program.Follows settlesInOrder
      (fun _ _ => True) .arriving := by
  refine Program.Follows.bind (Q := fun _ _ => True) ?_ (fun _ _ _ => trivial) fun _ _ _ => trivial
  refine KeepsStage.andThen (keepsStage_of_unordered rfl) fun found => ?_
  split
  · trivial
  · split
    · trivial
    · split
      · trivial
      · exact commitStatusUpdate_inOrder

end Programs

section World

variable {decision : Decision} {store : Store} {call : BackendCall}

/-- No call deletes a payment. -/
theorem livePayment_isSome_of_perform {payment : ObjectId}
    (h : (store.livePayment payment).isSome = true) :
    (Store.livePayment (perform decision store call).1 payment).isSome = true := by
  by_cases hWrites : call.writesPayments = true
  · cases call with
    | paymentFindByIdAndUpdate id update =>
        rcases perform_store decision store (.paymentFindByIdAndUpdate id update) with
          hStore | hStore
        · rwa [hStore]
        · rw [hStore]
          simp only [execute, castingId]
          split
          · exact h
          · split
            · exact h
            · rename_i oid _ _ _ _
              simp only [Store.livePayment, Store.payment, Store.modifyPayment,
                Option.isSome_filter, Option.any_eq_true] at h ⊢
              obtain ⟨before, hBefore, hAlive⟩ := h
              by_cases hSame : payment = oid
              · subst hSame
                refine ⟨update.apply decision.now before, ?_, by simpa using hAlive⟩
                rw [store.payments.get?_modify_self, hBefore]
                rfl
              · exact ⟨before, (store.payments.get?_modify_of_ne _ hSame).trans hBefore, hAlive⟩
    | _ => cases hWrites
  · rw [Store.livePayment, Store.payment, perform_payments (eq_false_of_ne_true hWrites)]
    exact h

/-- An update of a live payment finds it, and answers what it stored. -/
theorem markReleased_answer {payment : ObjectId} {txHash : String} {found : Option Payment}
    (hLive : (store.livePayment payment).isSome = true)
    (h : (perform decision store (.paymentFindByIdAndUpdate payment.toString
      (.setStatus .released (some txHash)))).2 = .ok found) :
    ∃ stored, found = some stored ∧ stored.status = .released ∧
      ∀ hash, truthy (some txHash) = some hash → stored.stellarTxHash = some hash := by
  rw [perform_eq_execute_of_ok rfl h] at h
  obtain ⟨before, hBefore⟩ := Option.isSome_iff_exists.mp hLive
  simp only [execute, castingId, ObjectId.cast?_toString, hBefore, Except.ok.injEq] at h
  refine ⟨_, h.symm, rfl, fun hash hHash => ?_⟩
  simp [PaymentUpdate.apply, hHash]

theorem livePayment_of_found {shipmentId : String} {payment : Payment}
    (h : (perform decision store (.paymentFindByShipmentId shipmentId)).2 = .ok (some payment)) :
    (store.livePayment payment.id).isSome = true := by
  rw [perform_eq_execute_of_ok rfl h] at h
  simp only [execute, castingId] at h
  split at h
  · cases h
  · simp only [Except.ok.injEq] at h
    have hAlive := List.find?_some h
    simp only [Bool.and_eq_true] at hAlive
    rw [Store.livePayment, Store.payment, store.payments.get?_of_mem (List.mem_of_find?_eq_some h),
      Option.filter_some, if_pos hAlive.2]
    rfl

/-- The stored shipment is delivered, and its last milestone says so. -/
def Store.deliveredWithMilestone (store : Store) (id : ObjectId) : Prop :=
  ∃ shipment, store.shipment id = some shipment ∧ shipment.status = .delivered ∧
    ∃ milestone, shipment.milestones.getLast? = some milestone ∧ milestone.name = .delivered

theorem delivered_of_save {id : ObjectId} {changes : ShipmentChanges} {savedAt : Date}
    (hDelivers : changes.delivers)
    (h : (perform decision store (.shipmentSave id changes)).2 = .ok savedAt) :
    Store.deliveredWithMilestone (perform decision store (.shipmentSave id changes)).1 id := by
  have hEffect := perform_eq_execute_of_ok rfl h
  rw [hEffect] at h ⊢
  simp only [execute] at h ⊢
  split at h
  · cases h
  · rename_i shipment hShipment
    obtain ⟨hStatus, milestone, hMilestones, hName⟩ := hDelivers
    refine ⟨changes.apply decision.now shipment, ?_, ?_, milestone, ?_, hName⟩
    · exact (store.shipments.get?_modify_self (changes.apply_id _)).trans (congrArg _ hShipment)
    · simp [ShipmentChanges.apply, hStatus]
    · simp [ShipmentChanges.apply, hMilestones]

end World

/-- A block that says a settlement has been initiated, citing `txHash`. -/
def BackendCall.initiatesSettlement (call : BackendCall) (txHash : Option String) : Prop :=
  match call with
  | .ledgerCreate fields =>
      fields.milestoneEvent = .settlementInitiated ∧ fields.transactionHash = txHash
  | _ => False

section Allowed

variable {stage : DeliveryStage} {call : BackendCall} (hBound : stage ≠ .elsewhere)
  (h : settlesInOrder.allows stage call)
include hBound h

/-- Before the release nothing is settled. -/
theorem unsettled_of_allows (hSettles : stage.settles = false) :
    call.writesPayments = false ∧ ∀ txHash, ¬call.initiatesSettlement txHash := by
  have hAllowed := h.resolve_left hBound
  cases call with
  | paymentFindByIdAndUpdate id update =>
      obtain ⟨payment, txHash, rfl, -⟩ := hAllowed
      cases hSettles
  | ledgerCreate fields =>
      refine ⟨rfl, fun txHash hInitiates => ?_⟩
      rcases hAllowed hInitiates.1 with rfl | ⟨txHash, rfl, -⟩ <;> cases hSettles
  | _ => exact ⟨rfl, fun _ => id⟩

/-- After the save the shipment is left alone. -/
theorem writesShipments_of_allows (hSaved : stage ≠ .arriving) : call.writesShipments = false := by
  have hAllowed := h.resolve_left hBound
  cases call with
  | shipmentSave id changes => exact absurd hAllowed.1 hSaved
  | shipmentInsert build => exact hAllowed.elim
  | shipmentFindByIdAndUpdate id update => exact hAllowed.elim
  | _ => rfl

/-- A settlement is recorded once its payment has been stored. -/
theorem stored_of_initiates {txHash : Option String} (hPresent : stage ≠ .paymentGone)
    (hInitiates : call.initiatesSettlement txHash) :
    ∃ hash, stage = .stored hash ∧ txHash = truthy (some hash) := by
  have hAllowed := h.resolve_left hBound
  cases call with
  | ledgerCreate fields =>
      obtain ⟨hEvent, rfl⟩ := hInitiates
      exact (hAllowed hEvent).resolve_left hPresent
  | _ => exact hInitiates.elim

end Allowed

section Runs

variable {ι : Type}

def rejectsRelease (event : BackendEvent ι) : Prop :=
  match event with
  | ⟨_, .releaseEscrow _, .error _⟩ => True
  | _ => False

/-- The shipment was saved as delivered. -/
def savesDelivery (id : ObjectId) (event : BackendEvent ι) : Prop :=
  match event with
  | ⟨_, .shipmentSave saved changes, .ok _⟩ => saved = id ∧ changes.delivers
  | _ => False

/-- The payment was stored as released, by the transaction if there is one. -/
def storesReleased (txHash : Option String) (event : BackendEvent ι) : Prop :=
  match event with
  | ⟨_, .paymentFindByIdAndUpdate _ _, .ok (some payment)⟩ => payment.status = .released ∧
      ∀ hash, txHash = some hash → payment.stellarTxHash = some hash
  | _ => False

/-- What delivery `i` has written so far, and in which order. -/
structure DeliveryLaw (i : ι) (history : List (BackendEvent ι)) (store : Store) : Prop where
  rejected : ∀ event ∈ history, event.thread = i → rejectsRelease event →
    (∀ other ∈ history, other.thread = i → other.request.writesPayments = false ∧
      ∀ txHash, ¬other.request.initiatesSettlement txHash) ∧
    ∃ id, ∃ save ∈ history, save.thread = i ∧ savesDelivery id save
  stays : ∀ id later save earlier, history = later ++ save :: earlier → save.thread = i →
    savesDelivery id save →
    (∀ other ∈ later, other.thread ≠ i → other.request.writesShipments = false) →
    store.deliveredWithMilestone id
  ordered : ∀ later event earlier txHash, history = later ++ event :: earlier →
    event.thread = i → event.request.initiatesSettlement txHash →
    ∃ stored ∈ earlier, stored.thread = i ∧ storesReleased txHash stored

variable [DecidableEq ι]

/-- Delivery `i` is about to begin; everybody else is elsewhere. -/
def deliveryStages (i : ι) : ι → DeliveryStage :=
  Function.update (fun _ => .elsewhere) i .arriving

/-- How far delivery `i` has come. -/
def deliveryStage (i : ι) (history : List (BackendEvent ι)) : DeliveryStage :=
  settlesInOrder.after (deliveryStages i) history i

/-- What the stage says of the events so far, and the law as far as it is about
order. -/
structure DeliveryInv (i : ι) (history : List (BackendEvent ι)) (store : Store) : Prop where
  bound : deliveryStage i history ≠ .elsewhere
  present : deliveryStage i history ≠ .paymentGone
  payable : ∀ payment, (deliveryStage i history).payment = some payment →
    (store.livePayment payment).isSome = true
  unsettled : (deliveryStage i history).settles = false → ∀ event ∈ history, event.thread = i →
    event.request.writesPayments = false ∧ ∀ txHash, ¬event.request.initiatesSettlement txHash
  rejected : ∀ event ∈ history, event.thread = i → rejectsRelease event →
    deliveryStage i history = .rejected
  saved : deliveryStage i history ≠ .arriving →
    ∃ id, ∃ save ∈ history, save.thread = i ∧ savesDelivery id save
  unsaved : deliveryStage i history = .arriving → ∀ event ∈ history, event.thread = i →
    ∀ id, ¬savesDelivery id event
  stored : ∀ txHash, deliveryStage i history = .stored txHash →
    ∃ stored ∈ history, stored.thread = i ∧ storesReleased (truthy (some txHash)) stored
  stays : ∀ id later save earlier, history = later ++ save :: earlier → save.thread = i →
    savesDelivery id save →
    (∀ other ∈ later, other.thread ≠ i → other.request.writesShipments = false) →
    store.deliveredWithMilestone id
  ordered : ∀ later event earlier txHash, history = later ++ event :: earlier →
    event.thread = i → event.request.initiatesSettlement txHash →
    ∃ stored ∈ earlier, stored.thread = i ∧ storesReleased txHash stored

variable {i j : ι} {history : List (BackendEvent ι)} {store : Store} {call : BackendCall}
  {decision : Decision}

variable (i history) in
theorem deliveryStage_cons_self (response : Except ThrownError call.Answer) :
    deliveryStage i (⟨i, call, response⟩ :: history) =
      settlesInOrder.next (deliveryStage i history) call response :=
  settlesInOrder.after_cons_self (deliveryStages i) ⟨i, call, response⟩ history

variable (history) in
theorem deliveryStage_cons_of_ne (h : i ≠ j) (response : Except ThrownError call.Answer) :
    deliveryStage i (⟨j, call, response⟩ :: history) = deliveryStage i history :=
  settlesInOrder.after_cons_of_ne (deliveryStages i) history h

theorem DeliveryInv.law (inv : DeliveryInv i history store) : DeliveryLaw i history store where
  rejected event hEvent hThread hRejects := by
    have hStage := inv.rejected event hEvent hThread hRejects
    constructor
    · exact inv.unsettled (by rw [hStage]; rfl)
    · exact inv.saved (by rw [hStage]; nofun)
  stays := inv.stays
  ordered := inv.ordered

omit [DecidableEq ι] in
theorem deliveredWithMilestone_congr {store' : Store} {id : ObjectId}
    (h : store'.shipments = store.shipments) :
    store'.deliveredWithMilestone id ↔ store.deliveredWithMilestone id := by
  simp only [Store.deliveredWithMilestone, Store.shipment, h]

/-- The other requests cannot disturb the order, only write the shipment again. -/
theorem DeliveryInv.step_other (inv : DeliveryInv i history store) (h : i ≠ j) :
    DeliveryInv i (⟨j, call, (perform decision store call).2⟩ :: history)
      (perform decision store call).1 := by
  have hStage := deliveryStage_cons_of_ne history h (perform decision store call).2
  have hForeign {p : BackendEvent ι → Prop} (hOld : ∀ event ∈ history, event.thread = i → p event) :
      ∀ event ∈ (⟨j, call, (perform decision store call).2⟩ : BackendEvent ι) :: history,
        event.thread = i → p event := by
    intro event hEvent hThread
    rcases List.mem_cons.mp hEvent with rfl | hMem
    · exact absurd hThread.symm h
    · exact hOld event hMem hThread
  constructor
  · rw [hStage]
    exact inv.bound
  · rw [hStage]
    exact inv.present
  · rw [hStage]
    exact fun payment hPayment => livePayment_isSome_of_perform (inv.payable payment hPayment)
  · rw [hStage]
    exact fun hSettles => hForeign (inv.unsettled hSettles)
  · rw [hStage]
    exact hForeign inv.rejected
  · rw [hStage]
    intro hSaved
    obtain ⟨id, save, hSave, hThread⟩ := inv.saved hSaved
    exact ⟨id, save, List.mem_cons_of_mem _ hSave, hThread⟩
  · rw [hStage]
    exact fun hArriving => hForeign (inv.unsaved hArriving)
  · rw [hStage]
    intro txHash hStored
    obtain ⟨stored, hMem, hThread⟩ := inv.stored txHash hStored
    exact ⟨stored, List.mem_cons_of_mem _ hMem, hThread⟩
  · intro id later save earlier hHistory hThread hSaves hLater
    cases later with
    | nil =>
        obtain ⟨rfl, -⟩ := List.cons.inj hHistory
        exact absurd hThread.symm h
    | cons last later =>
        obtain ⟨rfl, hRest⟩ := List.cons.inj hHistory
        rw [deliveredWithMilestone_congr
          (perform_shipments (hLater _ List.mem_cons_self (Ne.symm h)))]
        exact inv.stays id later save earlier hRest hThread hSaves fun other hOther =>
          hLater other (List.mem_cons_of_mem _ hOther)
  · intro later event earlier txHash hHistory hThread hInitiates
    cases later with
    | nil =>
        obtain ⟨rfl, -⟩ := List.cons.inj hHistory
        exact absurd hThread.symm h
    | cons last later =>
        exact inv.ordered later event earlier txHash (List.cons.inj hHistory).2 hThread hInitiates

omit [DecidableEq ι] in
/-- Every way a delivery can move on. -/
theorem next_cases (stage : DeliveryStage) (event : BackendEvent ι) :
    let next := settlesInOrder.next stage event.request event.response
    next = stage ∨
    (∃ id changes savedAt, event = ⟨event.thread, .shipmentSave id changes, .ok savedAt⟩ ∧
      stage = .arriving ∧ next = .delivered) ∨
    (∃ id payment, event = ⟨event.thread, .paymentFindByShipmentId id, .ok (some payment)⟩ ∧
      stage = .delivered ∧ next = .found payment.id) ∨
    (∃ input error payment, event = ⟨event.thread, .releaseEscrow input, .error error⟩ ∧
      stage = .found payment ∧ next = .rejected) ∨
    (∃ input receipt payment, event = ⟨event.thread, .releaseEscrow input, .ok receipt⟩ ∧
      stage = .found payment ∧ next = .released payment receipt.txHash) ∨
    ∃ id update found payment txHash,
      event = ⟨event.thread, .paymentFindByIdAndUpdate id update, .ok found⟩ ∧
      stage = .released payment txHash ∧
      next = if found.isSome then .stored txHash else .paymentGone := by
  obtain ⟨j, call, response⟩ := event
  simp only [settlesInOrder]
  split
  · exact .inr (.inl ⟨_, _, _, rfl, rfl, rfl⟩)
  · exact .inr (.inr (.inl ⟨_, _, rfl, rfl, rfl⟩))
  · exact .inr (.inr (.inr (.inl ⟨_, _, _, rfl, rfl, rfl⟩)))
  · exact .inr (.inr (.inr (.inr (.inl ⟨_, _, _, rfl, rfl, rfl⟩))))
  · exact .inr (.inr (.inr (.inr (.inr ⟨_, _, _, _, _, rfl, rfl, rfl⟩))))
  · exact .inr (.inr (.inr (.inr (.inr ⟨_, _, _, _, _, rfl, rfl, rfl⟩))))
  · exact .inl rfl

/-- The event of a call of the delivery itself. -/
abbrev ownEvent (i : ι) (call : BackendCall) (decision : Decision) (store : Store) :
    BackendEvent ι :=
  ⟨i, call, (perform decision store call).2⟩

/-- A step of the delivery itself. -/
theorem deliveryStage_step {next : DeliveryStage}
    (hNext : deliveryStage i (ownEvent i call decision store :: history) = next) :
    next = deliveryStage i history ∨
    (∃ id changes savedAt, (call = .shipmentSave id changes ∧
        HEq (perform decision store call).2 (Except.ok savedAt : Except ThrownError Date)) ∧
      deliveryStage i history = .arriving ∧ next = .delivered) ∨
    (∃ id payment, (call = .paymentFindByShipmentId id ∧ HEq (perform decision store call).2
        (Except.ok (some payment) : Except ThrownError (Option Payment))) ∧
      deliveryStage i history = .delivered ∧ next = .found payment.id) ∨
    (∃ input error payment, (call = .releaseEscrow input ∧
        HEq (perform decision store call).2
          (Except.error error : Except ThrownError ChainReceipt)) ∧
      deliveryStage i history = .found payment ∧ next = .rejected) ∨
    (∃ input receipt payment, (call = .releaseEscrow input ∧
        HEq (perform decision store call).2
          (Except.ok receipt : Except ThrownError ChainReceipt)) ∧
      deliveryStage i history = .found payment ∧ next = .released payment receipt.txHash) ∨
    ∃ id update found payment txHash, (call = .paymentFindByIdAndUpdate id update ∧
        HEq (perform decision store call).2
          (Except.ok found : Except ThrownError (Option Payment))) ∧
      deliveryStage i history = .released payment txHash ∧
      next = if found.isSome then .stored txHash else .paymentGone := by
  have hCases := next_cases (deliveryStage i history) (ownEvent i call decision store)
  simpa only [← deliveryStage_cons_self i history, hNext, Event.mk.injEq, true_and] using hCases

section Own

variable (inv : DeliveryInv i history store)
  (hAllows : settlesInOrder.allows (deliveryStage i history) call)
include inv hAllows

/-- The payment that is marked was found alive, and is alive still. -/
theorem DeliveryInv.marked_answer {id : String} {update : PaymentUpdate} {found : Option Payment}
    {payment : ObjectId} {txHash : String} (hCall : call = .paymentFindByIdAndUpdate id update)
    (hReleased : deliveryStage i history = .released payment txHash)
    (hResponse : (perform decision store (.paymentFindByIdAndUpdate id update)).2 = .ok found) :
    ∃ stored, found = some stored ∧ stored.status = .released ∧
      ∀ hash, truthy (some txHash) = some hash → stored.stellarTxHash = some hash := by
  subst hCall
  obtain ⟨other, otherHash, hSame, rfl, rfl⟩ := hAllows.resolve_left inv.bound
  obtain ⟨rfl, rfl⟩ := DeliveryStage.released.inj (hReleased.symm.trans hSame)
  exact markReleased_answer (inv.payable payment (by rw [hReleased]; rfl)) hResponse

omit hAllows in
theorem DeliveryInv.bound_step :
    deliveryStage i (ownEvent i call decision store :: history) ≠ .elsewhere := by
  generalize hNext : deliveryStage i (ownEvent i call decision store :: history) = next
  rcases deliveryStage_step hNext with rfl | ⟨_, _, _, -, -, rfl⟩ | ⟨_, _, -, -, rfl⟩ |
    ⟨_, _, _, -, -, rfl⟩ | ⟨_, _, _, -, -, rfl⟩ | ⟨_, _, found, _, _, -, -, rfl⟩
  · exact inv.bound
  · nofun
  · nofun
  · nofun
  · nofun
  · split <;> nofun

theorem DeliveryInv.present_step :
    deliveryStage i (ownEvent i call decision store :: history) ≠ .paymentGone := by
  generalize hNext : deliveryStage i (ownEvent i call decision store :: history) = next
  rcases deliveryStage_step hNext with rfl | ⟨_, _, _, -, -, rfl⟩ | ⟨_, _, -, -, rfl⟩ |
    ⟨_, _, _, -, -, rfl⟩ | ⟨_, _, _, -, -, rfl⟩ |
    ⟨id, update, found, payment, txHash, ⟨rfl, hResponse⟩, hReleased, rfl⟩
  · exact inv.present
  · nofun
  · nofun
  · nofun
  · nofun
  · obtain ⟨stored, rfl, -⟩ := inv.marked_answer hAllows rfl hReleased (eq_of_heq hResponse)
    nofun

omit hAllows in
theorem DeliveryInv.payable_step (payment : ObjectId)
    (hPayment : (deliveryStage i (ownEvent i call decision store :: history)).payment =
      some payment) :
    (Store.livePayment (perform decision store call).1 payment).isSome = true := by
  generalize hNext : deliveryStage i (ownEvent i call decision store :: history) = next
    at hPayment
  rcases deliveryStage_step hNext with rfl | ⟨_, _, _, -, -, rfl⟩ |
    ⟨id, found, ⟨rfl, hResponse⟩, -, rfl⟩ | ⟨_, _, _, -, -, rfl⟩ |
    ⟨_, receipt, other, -, hFound, rfl⟩ | ⟨_, _, found, _, _, -, -, rfl⟩
  · exact livePayment_isSome_of_perform (inv.payable payment hPayment)
  · cases hPayment
  · obtain rfl := Option.some.inj hPayment
    exact livePayment_isSome_of_perform (livePayment_of_found (eq_of_heq hResponse))
  · cases hPayment
  · refine livePayment_isSome_of_perform (inv.payable payment ?_)
    rw [hFound]
    exact hPayment
  · split at hPayment <;> cases hPayment

theorem DeliveryInv.unsettled_step
    (hSettles : (deliveryStage i (ownEvent i call decision store :: history)).settles =
      false) :
    ∀ event ∈ ownEvent i call decision store :: history,
      event.thread = i → event.request.writesPayments = false ∧
        ∀ txHash, ¬event.request.initiatesSettlement txHash := by
  generalize hNext : deliveryStage i (ownEvent i call decision store :: history) = next
    at hSettles
  have hBefore : (deliveryStage i history).settles = false := by
    rcases deliveryStage_step hNext with rfl | ⟨_, _, _, -, hArriving, -⟩ |
      ⟨_, _, -, hDelivered, -⟩ |
      ⟨_, _, _, -, hFound, -⟩ | ⟨_, _, _, -, -, rfl⟩ | ⟨_, _, found, _, _, -, -, rfl⟩
    · exact hSettles
    · rw [hArriving]
      rfl
    · rw [hDelivered]
      rfl
    · rw [hFound]
      rfl
    · cases hSettles
    · split at hSettles <;> cases hSettles
  intro event hEvent hThread
  rcases List.mem_cons.mp hEvent with rfl | hOld
  · exact unsettled_of_allows inv.bound hAllows hBefore
  · exact inv.unsettled hBefore event hOld hThread

theorem DeliveryInv.rejected_step :
    ∀ event ∈ ownEvent i call decision store :: history,
      event.thread = i → rejectsRelease event →
        deliveryStage i (ownEvent i call decision store :: history) = .rejected := by
  intro event hEvent hThread hRejects
  rcases List.mem_cons.mp hEvent with rfl | hOld
  · cases call with
    | releaseEscrow input =>
        obtain ⟨payment, hFound⟩ := hAllows.resolve_left inv.bound
        rw [deliveryStage_cons_self, hFound]
        cases hResponse : (perform decision store (.releaseEscrow input)).2 with
        | error error => rfl
        | ok receipt =>
            rw [ownEvent, hResponse] at hRejects
            exact hRejects.elim
    | _ => exact hRejects.elim
  · have hBefore := inv.rejected event hOld hThread hRejects
    generalize hNext : deliveryStage i (ownEvent i call decision store :: history) = next
    rcases deliveryStage_step hNext with rfl | ⟨_, _, _, -, hOther, -⟩ | ⟨_, _, -, hOther, -⟩ |
      ⟨_, _, _, -, hOther, -⟩ | ⟨_, _, _, -, hOther, -⟩ | ⟨_, _, _, _, _, -, hOther, -⟩
    · exact hBefore
    all_goals cases hBefore.symm.trans hOther

theorem DeliveryInv.saved_step
    (hSaved : deliveryStage i (ownEvent i call decision store :: history) ≠ .arriving) :
    ∃ id, ∃ save ∈ ownEvent i call decision store :: history,
      save.thread = i ∧ savesDelivery id save := by
  by_cases hArriving : deliveryStage i history = .arriving
  · generalize hNext : deliveryStage i (ownEvent i call decision store :: history) = next at hSaved
    rcases deliveryStage_step hNext with rfl | ⟨id, changes, savedAt, ⟨rfl, hResponse⟩, -, rfl⟩ |
      ⟨_, _, -, hOther, -⟩ | ⟨_, _, _, -, hOther, -⟩ | ⟨_, _, _, -, hOther, -⟩ |
      ⟨_, _, _, _, _, -, hOther, -⟩
    · exact absurd hArriving hSaved
    · have hDelivers := (hAllows.resolve_left inv.bound).2
      refine ⟨id, _, List.mem_cons_self, rfl, ?_⟩
      rw [ownEvent, eq_of_heq hResponse]
      exact ⟨rfl, hDelivers⟩
    all_goals cases hArriving.symm.trans hOther
  · obtain ⟨id, save, hSave, hThread⟩ := inv.saved hArriving
    exact ⟨id, save, List.mem_cons_of_mem _ hSave, hThread⟩

omit hAllows in
theorem DeliveryInv.unsaved_step
    (hArriving : deliveryStage i (ownEvent i call decision store :: history) = .arriving) :
    ∀ event ∈ ownEvent i call decision store :: history,
      event.thread = i → ∀ id, ¬savesDelivery id event := by
  have hBefore : deliveryStage i history = .arriving := by
    rcases deliveryStage_step hArriving with hSame | ⟨_, _, _, -, -, hOther⟩ |
      ⟨_, _, -, -, hOther⟩ | ⟨_, _, _, -, -, hOther⟩ | ⟨_, _, _, -, -, hOther⟩ |
      ⟨_, _, found, _, _, -, -, hOther⟩
    · exact hSame.symm
    · cases hOther
    · cases hOther
    · cases hOther
    · cases hOther
    · split at hOther <;> cases hOther
  intro event hEvent hThread id hSaves
  rcases List.mem_cons.mp hEvent with rfl | hOld
  · rw [deliveryStage_cons_self, hBefore] at hArriving
    cases call with
    | shipmentSave saved changes =>
        cases hResponse : (perform decision store (.shipmentSave saved changes)).2 with
        | error error =>
            rw [ownEvent, hResponse] at hSaves
            exact hSaves.elim
        | ok savedAt =>
            rw [hResponse] at hArriving
            cases hArriving
    | _ => exact hSaves.elim
  · exact inv.unsaved hBefore event hOld hThread id hSaves

theorem DeliveryInv.stored_step {txHash : String}
    (hStored : deliveryStage i (ownEvent i call decision store :: history) = .stored txHash) :
    ∃ stored ∈ ownEvent i call decision store :: history,
      stored.thread = i ∧ storesReleased (truthy (some txHash)) stored := by
  rcases deliveryStage_step hStored with hSame | ⟨_, _, _, -, -, hOther⟩ |
    ⟨_, _, -, -, hOther⟩ | ⟨_, _, _, -, -, hOther⟩ | ⟨_, _, _, -, -, hOther⟩ |
    ⟨id, update, found, payment, hash, ⟨rfl, hResponse⟩, hReleased, hNext⟩
  · obtain ⟨stored, hMem, hThread⟩ := inv.stored txHash hSame.symm
    exact ⟨stored, List.mem_cons_of_mem _ hMem, hThread⟩
  · cases hOther
  · cases hOther
  · cases hOther
  · cases hOther
  · obtain ⟨stored, rfl, hStatus, hHash⟩ :=
      inv.marked_answer hAllows rfl hReleased (eq_of_heq hResponse)
    obtain rfl := DeliveryStage.stored.inj hNext
    refine ⟨_, List.mem_cons_self, rfl, ?_⟩
    rw [ownEvent, eq_of_heq hResponse]
    exact ⟨hStatus, hHash⟩

/-- Its own save makes the shipment delivered, and no later call of it undoes that. -/
theorem DeliveryInv.stays_step {id : ObjectId} {later earlier : List (BackendEvent ι)}
    {save : BackendEvent ι}
    (hHistory : ownEvent i call decision store :: history = later ++ save :: earlier)
    (hThread : save.thread = i) (hSaves : savesDelivery id save)
    (hLater : ∀ other ∈ later, other.thread ≠ i → other.request.writesShipments = false) :
    Store.deliveredWithMilestone (perform decision store call).1 id := by
  cases later with
  | nil =>
      obtain ⟨rfl, -⟩ := List.cons.inj hHistory
      cases call with
      | shipmentSave saved changes =>
          cases hResponse : (perform decision store (.shipmentSave saved changes)).2 with
          | error error =>
              rw [ownEvent, hResponse] at hSaves
              exact hSaves.elim
          | ok savedAt =>
              rw [ownEvent, hResponse] at hSaves
              obtain ⟨rfl, hDelivers⟩ := hSaves
              exact delivered_of_save hDelivers hResponse
      | _ => exact hSaves.elim
  | cons last later =>
      obtain ⟨rfl, hRest⟩ := List.cons.inj hHistory
      have hSaved : deliveryStage i history ≠ .arriving := fun hArriving =>
        inv.unsaved hArriving save (by rw [hRest]; simp) hThread id hSaves
      rw [deliveredWithMilestone_congr
        (perform_shipments (writesShipments_of_allows inv.bound hAllows hSaved))]
      exact inv.stays id later save earlier hRest hThread hSaves fun other hOther =>
        hLater other (List.mem_cons_of_mem _ hOther)

theorem DeliveryInv.ordered_step {later earlier : List (BackendEvent ι)} {event : BackendEvent ι}
    {txHash : Option String}
    (hHistory : ownEvent i call decision store :: history = later ++ event :: earlier)
    (hThread : event.thread = i) (hInitiates : event.request.initiatesSettlement txHash) :
    ∃ stored ∈ earlier, stored.thread = i ∧ storesReleased txHash stored := by
  cases later with
  | nil =>
      obtain ⟨rfl, rfl⟩ := List.cons.inj hHistory
      obtain ⟨hash, hStored, rfl⟩ := stored_of_initiates inv.bound hAllows inv.present hInitiates
      exact inv.stored hash hStored
  | cons last later =>
      exact inv.ordered later event earlier txHash (List.cons.inj hHistory).2 hThread hInitiates

/-- The delivery's own steps. -/
theorem DeliveryInv.step_self :
    DeliveryInv i (ownEvent i call decision store :: history) (perform decision store call).1 where
  bound := inv.bound_step
  present := inv.present_step hAllows
  payable := inv.payable_step
  unsettled := inv.unsettled_step hAllows
  rejected := inv.rejected_step hAllows
  saved := inv.saved_step hAllows
  unsaved := inv.unsaved_step
  stored _ := inv.stored_step hAllows
  stays _ _ _ _ := inv.stays_step hAllows
  ordered _ _ _ _ := inv.ordered_step hAllows

end Own

theorem DeliveryInv.start (i : ι) (store : Store) :
    DeliveryInv i ([] : List (BackendEvent ι)) store := by
  have hStage : deliveryStage i ([] : List (BackendEvent ι)) = .arriving := by
    simp [deliveryStage, deliveryStages]
  constructor <;> simp [hStage, DeliveryStage.payment]

section Deliveries

variable [Sha256] {id : String} {actor : Option String} {pool : Pool backend ι Unit}
  {point : Point backend ι Unit}

/-- Whatever fails and whoever else is running: a delivery whose release is
rejected settles nothing and stays delivered, and one that records a settlement
has stored it as paid before. -/
theorem delivery_settles_in_order
    (hDelivery : pool.thread i = (StatusRequest.single id .delivered actor).program)
    (run : GuardedRun anyStep pool point) : DeliveryLaw i point.1 point.2.store := by
  have hFollows (j : ι) :
      (pool.thread j).Follows settlesInOrder (fun _ _ => True) (deliveryStages i j) := by
    by_cases hij : j = i
    · subst hij
      rw [hDelivery, deliveryStages, Function.update_self]
      exact delivery_follows
    · rw [deliveryStages, Function.update_of_ne hij]
      exact (elsewhere_follows _).mono fun _ _ _ => trivial
  refine (GuardedRun.invariant settlesInOrder (deliveryStages i) run hFollows
    (fun history store => DeliveryInv i history store) (.start i _) ?_).law
  intro history store decision j call inv hAllows _
  by_cases hij : i = j
  · subst hij
    exact inv.step_self hAllows
  · exact inv.step_other hij

end Deliveries

end Runs

/-- The sample shipment on its last leg, with an escrowed payment. -/
def lastLegPool : Pool backend Unit Unit where
  store :=
    { shipments := ⟨[{ sampleShipment with status := .outForDelivery }], outForDelivery_nodup⟩
      payments := ⟨[samplePayment], Collection.nodup_single _ _⟩ }
  thread _ := (@StatusRequest.program sampleReleaseDigest
    (.single sampleShipment.id.toString .delivered none))

/-- On a run that releases the escrow and records both blocks, the law is the
theorem's. -/
theorem delivery_settles_in_order_sample :
    ∃ point : Point backend Unit Unit, GuardedRun anyStep lastLegPool point ∧
      (Store.ledgerBlocks point.2.store).docs.length = 2 ∧
      DeliveryLaw () point.1 point.2.store := by
  let answer (digit : Fin 16) : Decision × Unit :=
    ({ Decision.ok with receipt := ⟨"r1", 7, true⟩, freshId := .repeated digit }, ())
  obtain ⟨point, run, hBlocks⟩ := Pool.exists_run anyStep lastLegPool
    (fun point => (Store.ledgerBlocks point.2.store).docs.length = 2)
    (List.replicate 10 (answer 1) ++ List.replicate 5 (answer 2)) (by decide +kernel)
  exact ⟨point, run, of_decide_eq_true hBlocks,
    @delivery_settles_in_order _ _ () sampleReleaseDigest _ _ _ _ rfl run⟩

end Navin
