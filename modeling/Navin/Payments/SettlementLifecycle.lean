import Navin.Backend.Effects
import Navin.Webhooks.StellarService

/-! Does the settlement lifecycle only advance? Webhooks and the status endpoint
are handled one after the other here, in any order and number; each of their
database calls may fail, before or after its effect. -/
namespace Navin

open Async

/-- The payment a request names and the status it carries. -/
def SettlementRequest.target : SettlementRequest → Option (String × PaymentStatus)
  | .webhook ⟨.release, paymentId, _⟩ => some (paymentId, .released)
  | .webhook ⟨.escrow, paymentId, _⟩ => some (paymentId, .escrowed)
  | .webhook ⟨.failed, paymentId, _⟩ => some (paymentId, .failed)
  | .webhook ⟨.unknown _, _, _⟩ => none
  | .update id status _ => some (id, status)

/-- One request together with what the world decides while it is handled. -/
structure Delivery where
  request : SettlementRequest
  env : Nat → Decision

/-- The status a delivery tries to give payment `id`: it names the payment, its
lookup is answered and its update is not refused. -/
def Delivery.sets (delivery : Delivery) (id : ObjectId) : Option PaymentStatus :=
  match delivery.request.target with
  | none => none
  | some (paymentId, status) =>
      if ObjectId.cast? paymentId = some id ∧ (delivery.env 0).fault.isNone ∧
        (delivery.env 1).applies then some status else none

variable {store : Store} {id : ObjectId}

/-- Whether queries by id find the payment. -/
def Store.isLive (store : Store) (id : ObjectId) : Prop :=
  (store.livePayment id).isSome

theorem Store.isLive_iff {store : Store} {id : ObjectId} :
    store.isLive id ↔ (store.payment id).map (·.deletedAt.isNone) = some true := by
  unfold isLive livePayment
  cases store.payment id with
  | none => simp
  | some payment => cases h : payment.deletedAt <;> simp [h]

theorem Store.isLive_modifyPayment (store : Store) (id other : ObjectId)
    {f : Payment → Payment} (hId : ∀ payment, (f payment).id = payment.id)
    (hDeleted : ∀ payment, (f payment).deletedAt = payment.deletedAt) :
    (store.modifyPayment id f hId).isLive other ↔ store.isLive other := by
  rw [isLive_iff, isLive_iff]
  unfold payment modifyPayment
  rw [Collection.get?_modify_map_of_eq _ hId fun payment => by rw [hDeleted]]

/-- What the lookup of a service finds. -/
theorem perform_paymentFindById (decision : Decision) (store : Store) (text : String) :
    perform decision store (.paymentFindById text) =
      (store, match decision.fault, ObjectId.cast? text with
        | some fault, _ => .error fault.error
        | none, none => .error (.castError text)
        | none, some id => .ok (store.livePayment id)) := by
  refine Prod.ext ?_ ?_
  · simp only [perform_store_eq, execute, castingId]
    split
    · split <;> rfl
    · rfl
  · cases hFault : decision.fault with
    | some fault => simp [perform_of_fault hFault, recover]
    | none =>
        simp only [perform_of_fault_none hFault, execute, castingId]
        cases ObjectId.cast? text <;> rfl

section Requests

variable [StellarNetwork]

/-- The payments after a status update: changed exactly if the lookup answers
with a live payment and the update takes effect. -/
theorem updatePaymentStatusService_payments (text : String) (status : PaymentStatus)
    (stellarTxHash : Option String) (env : Nat → Decision) (store : Store) :
    ((updatePaymentStatusService text status stellarTxHash).run backend env store).1.payments =
      (ObjectId.cast? text).elim store.payments fun id =>
        if (env 0).fault.isNone ∧ (env 1).applies ∧ (store.livePayment id).isSome then
          (store.modifyPayment id
            ((PaymentUpdate.setStatus status stellarTxHash).apply (env 1).now)
            (PaymentUpdate.apply_id _ _)).payments
        else store.payments := by
  unfold updatePaymentStatusService
  rw [Program.run_bind, getPaymentById, request, Program.run_await, backend_perform]
  have hLookup := perform_paymentFindById (env 0) store text
  cases hFault : (env 0).fault with
  | some fault =>
      simp only [hFault] at hLookup
      rw [hLookup]
      cases ObjectId.cast? text <;> simp
  | none =>
      cases hCast : ObjectId.cast? text with
      | none =>
          simp only [hFault, hCast] at hLookup
          rw [hLookup]
          rfl
      | some id =>
          simp only [hFault, hCast] at hLookup
          rw [hLookup]
          cases hLive : store.livePayment id with
          | none => simp [hLive]
          | some payment =>
              -- What follows the update only announces it.
              refine (Program.run_bind_view backend Store.payments
                (BackendCall.writesPayments · = false) (fun found => ?_)
                (fun _ _ _ h => perform_payments h) _ _).trans ?_
              · split
                · exact announceSettlement_holds (Program.Uses.compositional _) fun _ h =>
                    .await (BackendCall.writesPayments_of_incidental h)
                · exact .throw
              · rw [updatePaymentStatus, request, Program.run_await]
                simp only [perform_store_eq, execute, castingId, hCast, hLive, Option.elim_some]
                split <;> simp_all

/-- A status update, seen from any one payment. -/
theorem updatePaymentStatusService_run (id : ObjectId) (text : String) (status : PaymentStatus)
    (stellarTxHash : Option String) (env : Nat → Decision) (store after : Store)
    (hAfter : after.payments =
      ((updatePaymentStatusService text status stellarTxHash).run backend env store).1.payments) :
    (after.isLive id ↔ store.isLive id) ∧
    ((ObjectId.cast? text = some id ∧ (env 0).fault.isNone ∧ (env 1).applies) ∧ store.isLive id →
      after.paymentStatus id = some status) ∧
    (¬((ObjectId.cast? text = some id ∧ (env 0).fault.isNone ∧ (env 1).applies) ∧
        store.isLive id) →
      after.paymentStatus id = store.paymentStatus id) := by
  have hView (other : Store) (h : after.payments = other.payments) :
      (after.isLive id ↔ other.isLive id) ∧
        after.paymentStatus id = other.paymentStatus id := by
    simp only [Store.isLive, Store.livePayment, Store.paymentStatus, Store.payment, h,
      and_self]
  rw [updatePaymentStatusService_payments] at hAfter
  cases hCast : ObjectId.cast? text with
  | none =>
      rw [hCast] at hAfter
      obtain ⟨hLive, hStatus⟩ := hView store hAfter
      exact ⟨hLive, by simp, fun _ => hStatus⟩
  | some named =>
      simp only [hCast, Option.elim_some] at hAfter
      split at hAfter
      · rename_i hTakes
        obtain ⟨hLive, hStatus⟩ := hView _ hAfter
        rw [Store.isLive_modifyPayment _ _ _ (by simp) (by simp)] at hLive
        rw [Store.paymentStatus_modifyPayment _ _ _ (by simp)] at hStatus
        refine ⟨hLive, ?_, ?_⟩
        · rintro ⟨⟨hNamed, -, -⟩, hStored⟩
          obtain rfl := Option.some.inj hNamed
          rw [Store.isLive_iff] at hStored
          obtain ⟨payment, hPayment, -⟩ := Option.map_eq_some_iff.mp hStored
          simpa [hPayment, PaymentUpdate.target] using hStatus
        · intro hNot
          rw [hStatus, if_neg]
          rintro rfl
          exact hNot ⟨⟨rfl, hTakes.1, hTakes.2.1⟩, hTakes.2.2⟩
      · rename_i hTakes
        obtain ⟨hLive, hStatus⟩ := hView store hAfter
        refine ⟨hLive, ?_, fun _ => hStatus⟩
        rintro ⟨⟨hNamed, hAnswers, hApplies⟩, hStored⟩
        obtain rfl := Option.some.inj hNamed
        exact absurd ⟨hAnswers, hApplies, hStored⟩ hTakes

/-- Handling a request with nobody else running. -/
def Delivery.handle (delivery : Delivery) (store : Store) : Store :=
  (delivery.request.program.run backend delivery.env store).1

/-- A webhook moves the payments exactly as the status update it performs. -/
theorem Delivery.handle_payments (store : Store) {delivery : Delivery} {text : String}
    {status : PaymentStatus} (h : delivery.request.target = some (text, status)) :
    ∃ stellarTxHash, (delivery.handle store).payments =
      ((updatePaymentStatusService text status stellarTxHash).run backend
        delivery.env store).1.payments := by
  obtain ⟨request, env⟩ := delivery
  have hRest {α β : Type} (first : BackendM α) {rest : α → BackendM β}
      (hRest : ∀ a, (rest a).Uses fun call => call.writesPayments = false) :
      ((first >>= rest).run backend env store).1.payments =
        (first.run backend env store).1.payments :=
    Program.run_bind_view backend Store.payments _ hRest (fun _ _ _ => perform_payments)
      env store
  cases request with
  | update id status' stellarTxHash =>
      simp only [SettlementRequest.target, Option.some.injEq, Prod.mk.injEq] at h
      obtain ⟨rfl, rfl⟩ := h
      exact ⟨stellarTxHash, hRest _ fun _ => .pure⟩
  | webhook payload =>
      obtain ⟨type, paymentId, transactionHash⟩ := payload
      cases type with
      | unknown _ => cases h
      | release =>
          simp only [SettlementRequest.target, Option.some.injEq, Prod.mk.injEq] at h
          obtain ⟨rfl, rfl⟩ := h
          refine ⟨some transactionHash, (hRest _ fun _ => .pure).trans (hRest _ fun _ => ?_)⟩
          exact .bind (recordSettlementCompleted_holds (Program.Uses.compositional _)
            (fun _ h => .await (BackendCall.writesPayments_of_incidental h)) (fun _ => .await rfl)
            fun _ _ _ => .await rfl) fun _ => .pure
      | escrow =>
          simp only [SettlementRequest.target, Option.some.injEq, Prod.mk.injEq] at h
          obtain ⟨rfl, rfl⟩ := h
          exact ⟨some transactionHash, (hRest _ fun _ => .pure).trans (hRest _ fun _ => .pure)⟩
      | failed =>
          simp only [SettlementRequest.target, Option.some.injEq, Prod.mk.injEq] at h
          obtain ⟨rfl, rfl⟩ := h
          exact ⟨none, (hRest _ fun _ => .pure).trans (hRest _ fun _ => .pure)⟩

/-- The whole effect of one delivery on one payment. -/
theorem Delivery.handle_spec (delivery : Delivery) (store : Store) (id : ObjectId) :
    ((delivery.handle store).isLive id ↔ store.isLive id) ∧
    (store.isLive id → (delivery.handle store).paymentStatus id =
      (delivery.sets id).or (store.paymentStatus id)) ∧
    (¬store.isLive id → (delivery.handle store).paymentStatus id = store.paymentStatus id) := by
  cases hTarget : delivery.request.target with
  | none =>
      have hHandle : delivery.handle store = store := by
        obtain ⟨request, env⟩ := delivery
        cases request with
        | update id status stellarTxHash => cases hTarget
        | webhook payload =>
            obtain ⟨type, paymentId, transactionHash⟩ := payload
            cases type with
            | unknown text => rfl
            | release => cases hTarget
            | escrow => cases hTarget
            | failed => cases hTarget
      simp [hHandle, sets, hTarget]
  | some target =>
      obtain ⟨text, status⟩ := target
      obtain ⟨stellarTxHash, hPayments⟩ := handle_payments store hTarget
      obtain ⟨hLive, hSet, hKeep⟩ := updatePaymentStatusService_run id text status
        stellarTxHash delivery.env store _ hPayments
      refine ⟨hLive, fun hStored => ?_, fun hStored => hKeep fun h => hStored h.2⟩
      simp only [sets, hTarget]
      split
      · rename_i hTakes
        simpa using hSet ⟨hTakes, hStored⟩
      · rename_i hTakes
        simpa using hKeep fun h => hTakes h.1

/-- The stores before, between and after a sequence of deliveries. -/
def settlementTrace : Store → List Delivery → List Store
  | store, [] => [store]
  | store, delivery :: rest => store :: settlementTrace (delivery.handle store) rest

end Requests

/-- Statuses a released payment must not return to. -/
def PaymentStatus.beforeRelease : PaymentStatus → Bool
  | .pending | .escrowed | .failed => true
  | .released | .disputed => false

/-- From a released payment, no later status lies before the release. -/
def Advances (earlier later : Option PaymentStatus) : Prop :=
  earlier = some .released → later.all fun status => !status.beforeRelease

instance (earlier later : Option PaymentStatus) : Decidable (Advances earlier later) := by
  unfold Advances
  infer_instance

theorem Advances.refl (status : Option PaymentStatus) : Advances status status := by
  rintro rfl
  rfl

/-- The lifecycle of payment `id` only advances along a trace of stores. -/
def LifecycleAdvances (id : ObjectId) (trace : List Store) : Prop :=
  trace.Pairwise fun earlier later => Advances (earlier.paymentStatus id) (later.paymentStatus id)

/-- Under a reflexive relation a repeated entry adds nothing. -/
private theorem pairwise_cons_cons_self {α : Type} {R : α → α → Prop} (hRefl : ∀ a, R a a)
    {a : α} {rest : List α} : (a :: a :: rest).Pairwise R ↔ (a :: rest).Pairwise R := by
  simp only [List.pairwise_cons, List.mem_cons, forall_eq_or_imp]
  exact ⟨fun h => h.2, fun h => ⟨⟨hRefl a, h.1⟩, h⟩⟩

section Traces

variable [StellarNetwork]

/-- The statuses a live payment goes through are the current one and those the
deliveries set. -/
private theorem mem_settlementTrace_iff (deliveries : List Delivery) (hLive : store.isLive id)
    {status : Option PaymentStatus} :
    status ∈ (settlementTrace store deliveries).map (Store.paymentStatus · id) ↔
      status ∈ store.paymentStatus id :: (deliveries.filterMap (·.sets id)).map some := by
  induction deliveries generalizing store with
  | nil => rfl
  | cons delivery rest ih =>
      obtain ⟨hStill, hStatus, -⟩ := delivery.handle_spec store id
      simp only [settlementTrace, List.map_cons, List.mem_cons, ih (hStill.mpr hLive),
        hStatus hLive]
      cases hSets : delivery.sets id with
      | none => simp [hSets]
      | some next => simp [hSets]

private theorem lifecycleAdvances_iff_of_isLive (deliveries : List Delivery)
    (hLive : store.isLive id) :
    LifecycleAdvances id (settlementTrace store deliveries) ↔
      (store.paymentStatus id ::
        (deliveries.filterMap (·.sets id)).map some).Pairwise Advances := by
  unfold LifecycleAdvances
  rw [← @List.pairwise_map _ _ (fun store => Store.paymentStatus store id) Advances]
  induction deliveries generalizing store with
  | nil => simp [settlementTrace]
  | cons delivery rest ih =>
      obtain ⟨hStill, hStatus, -⟩ := delivery.handle_spec store id
      have hNext := hStill.mpr hLive
      have hCons : ((settlementTrace store (delivery :: rest)).map
            (Store.paymentStatus · id)).Pairwise Advances ↔
          (store.paymentStatus id :: (delivery.handle store).paymentStatus id ::
            (rest.filterMap (·.sets id)).map some).Pairwise Advances := by
        rw [settlementTrace, List.map_cons, List.pairwise_cons, List.pairwise_cons, ih hNext]
        simp only [mem_settlementTrace_iff rest hNext]
      rw [hCons, hStatus hLive]
      cases hSets : delivery.sets id with
      | none =>
          simp only [List.filterMap_cons, hSets, Option.none_or]
          exact pairwise_cons_cons_self Advances.refl
      | some next => simp only [List.filterMap_cons, hSets, Option.some_or, List.map_cons]

private theorem lifecycleAdvances_of_not_isLive (deliveries : List Delivery)
    (hLive : ¬store.isLive id) : LifecycleAdvances id (settlementTrace store deliveries) := by
  have hConstant : ∀ reached ∈ settlementTrace store deliveries,
      reached.paymentStatus id = store.paymentStatus id := by
    induction deliveries generalizing store with
    | nil => simp [settlementTrace]
    | cons delivery rest ih =>
        obtain ⟨hStill, -, hStatus⟩ := delivery.handle_spec store id
        intro reached hReached
        rcases List.mem_cons.mp hReached with rfl | hLater
        · rfl
        · rw [ih (mt hStill.mp hLive) reached hLater, hStatus hLive]
  refine List.pairwise_of_forall_mem_list fun earlier hEarlier later hLater => ?_
  rw [hConstant _ hEarlier, hConstant _ hLater]
  exact .refl _

/-- For every payment and every sequence of webhooks and status updates: the
lifecycle only advances exactly when, among the status a live payment starts
with and those that deliveries set, nothing before the release comes after it.
No request checks this. -/
theorem lifecycleAdvances_iff (store : Store) (id : ObjectId) (deliveries : List Delivery) :
    LifecycleAdvances id (settlementTrace store deliveries) ↔
      (store.isLive id → (store.paymentStatus id ::
        (deliveries.filterMap (·.sets id)).map some).Pairwise Advances) := by
  by_cases hLive : store.isLive id
  · simp only [hLive, true_imp_iff]
    exact lifecycleAdvances_iff_of_isLive deliveries hLive
  · simp only [hLive, false_imp_iff, iff_true]
    exact lifecycleAdvances_of_not_isLive deliveries hLive

end Traces

/-- The release notification, followed by a late escrow notification. -/
def releaseThenEscrow : List Delivery :=
  [⟨.webhook ⟨.release, samplePayment.id.toString, "r1"⟩, fun _ => .ok⟩,
    ⟨.webhook ⟨.escrow, samplePayment.id.toString, "e1"⟩, fun _ => .ok⟩]

/-- The late notification puts the released payment back in escrow. -/
theorem releaseThenEscrow_regresses :
    ¬∀ deliveries, LifecycleAdvances samplePayment.id
      (@settlementTrace ⟨false⟩ { payments := ⟨[samplePayment], by decide⟩ } deliveries) := by
  intro advances
  have hTrace := advances releaseThenEscrow
  revert hTrace
  unfold LifecycleAdvances
  decide

end Navin
