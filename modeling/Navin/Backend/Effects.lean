import Navin.Backend.World

/-! Which collections a call can change, and how. Later modules reason about
calls through these facts and never unfold the world again. -/
namespace Navin

open Async

namespace BackendCall

/-- The calls that write the shipments collection. -/
def writesShipments : BackendCall → Bool
  | .shipmentInsert _ | .shipmentSave _ _ | .shipmentFindByIdAndUpdate _ _ => true
  | _ => false

/-- The calls that have nothing to do with the shipments collection. -/
def ignoresShipments : BackendCall → Bool
  | .shipmentInsert _ | .shipmentFindById _ | .shipmentFindByIds _ | .shipmentFind _ _ _ _
  | .shipmentCount _ | .shipmentSave _ _ | .shipmentFindByIdAndUpdate _ _ => false
  | _ => true

/-- The calls that write the payments collection. -/
def writesPayments : BackendCall → Bool
  | .paymentFindByIdAndUpdate _ _ => true
  | _ => false

theorem writesPayments_of_incidental {call : BackendCall} (h : call.incidental = true) :
    call.writesPayments = false := by
  cases call <;> first | rfl | cases h

/-- The shipment status a call asks to store. -/
def statusWrite : BackendCall → Option (ObjectId × ShipmentStatus)
  | .shipmentSave id changes => changes.status.map fun status => (id, status)
  | .shipmentFindByIdAndUpdate id (.setStatus status _) =>
      (ObjectId.cast? id).map fun id => (id, status)
  | _ => none

theorem ignoresShipments_of_incidental {call : BackendCall} (h : call.incidental = true) :
    call.ignoresShipments = true := by
  cases call <;> first | rfl | cases h

theorem writesShipments_of_ignoresShipments {call : BackendCall}
    (h : call.ignoresShipments = true) : call.writesShipments = false := by
  cases call <;> first | rfl | cases h

theorem statusWrite_of_ignoresShipments {call : BackendCall} (h : call.ignoresShipments = true) :
    call.statusWrite = none := by
  cases call <;> first | rfl | cases h

/-- The calls that write ledger blocks. -/
def writesLedger : BackendCall → Bool
  | .ledgerCreate _ | .ledgerUpsert _ _ => true
  | _ => false

/-- The calls that submit a transaction or hear of one. -/
def touchesChain : BackendCall → Bool
  | .releaseEscrow _ | .tokenizeShipment _ | .streamEvent _ => true
  | _ => false

/-- The calls that always answer: clocks, randomness and the helpers that swallow
their errors. -/
def alwaysAnswers : BackendCall → Bool
  | .now | .randomReference | .randomUUID | .getStoredCursor | .saveStoredCursor _
  | .readShipmentEtaCache _ | .writeShipmentEtaCache _ _ | .invalidateShipmentEtaCache _
  | .invalidateAnalyticsPerformanceCache | .auditLog _ => true
  | _ => false

end BackendCall

variable {decision : Decision} {store : Store} {call : BackendCall}

theorem perform_ok_of_alwaysAnswers (h : call.alwaysAnswers = true) :
    ∃ answer, (perform decision store call).2 = .ok answer := by
  cases hFault : decision.fault with
  | none =>
      rw [perform_of_fault_none hFault]
      cases call <;> first | exact ⟨_, rfl⟩ | cases h
  | some fault =>
      rw [perform_of_fault hFault]
      cases call <;> first | exact ⟨_, rfl⟩ | cases h

/-- Any other call answers only when it meets no fault. -/
theorem perform_eq_execute_of_ok {answer : call.Answer} (h : call.alwaysAnswers = false)
    (hOk : (perform decision store call).2 = .ok answer) :
    perform decision store call = execute decision store call := by
  cases hFault : decision.fault with
  | none => exact perform_of_fault_none hFault
  | some fault =>
      rw [perform_of_fault hFault] at hOk
      cases call <;> contradiction

/-- The clock is read, whatever else goes wrong. -/
theorem perform_now : perform decision store .now = (store, .ok decision.now) := by
  unfold perform
  split <;> rfl

theorem execute_shipments (h : call.writesShipments = false) :
    (execute decision store call).1.shipments = store.shipments := by
  cases call <;> simp only [BackendCall.writesShipments, Bool.true_eq_false] at h <;>
    simp only [execute, castingId, Store.submit] <;> repeat' split
  all_goals rfl

theorem execute_payments (h : call.writesPayments = false) :
    (execute decision store call).1.payments = store.payments := by
  cases call <;> simp only [BackendCall.writesPayments, Bool.true_eq_false] at h <;>
    simp only [execute, castingId, Store.submit] <;> repeat' split
  all_goals rfl

theorem execute_ledgerBlocks (h : call.writesLedger = false) :
    (execute decision store call).1.ledgerBlocks = store.ledgerBlocks := by
  cases call <;> simp only [BackendCall.writesLedger, Bool.true_eq_false] at h <;>
    simp only [execute, castingId, Store.submit] <;> repeat' split
  all_goals rfl

theorem execute_chain (h : call.touchesChain = false) :
    (execute decision store call).1.chain = store.chain ∧
      (execute decision store call).1.reported = store.reported := by
  cases call <;> simp only [BackendCall.touchesChain, Bool.true_eq_false] at h <;>
    simp only [execute, castingId] <;> repeat' split
  all_goals trivial

theorem perform_shipments (h : call.writesShipments = false) :
    (perform decision store call).1.shipments = store.shipments := by
  rcases perform_store decision store call with hStore | hStore
  · rw [hStore]
  · rw [hStore, execute_shipments h]

theorem perform_payments (h : call.writesPayments = false) :
    (perform decision store call).1.payments = store.payments := by
  rcases perform_store decision store call with hStore | hStore
  · rw [hStore]
  · rw [hStore, execute_payments h]

namespace Store

/-- The stored status, of deleted shipments too. -/
def status? (store : Store) (id : ObjectId) : Option ShipmentStatus :=
  (store.shipment id).map (·.status)

theorem status?_eq_of_shipments {before after : Store} (h : after.shipments = before.shipments)
    (id : ObjectId) : after.status? id = before.status? id := by
  simp [status?, shipment, h]

/-- Modifying one shipment changes at most its own status. -/
theorem status?_modifyShipment (store : Store) (id other : ObjectId) {f : Shipment → Shipment}
    (hId : ∀ shipment, (f shipment).id = shipment.id) :
    (store.modifyShipment id f hId).status? other =
      if other = id then (store.shipment id).map (fun shipment => (f shipment).status)
      else store.status? other :=
  Collection.get?_modify_map _ hId _

/-- The stored status of a payment, deleted or not. -/
def paymentStatus (store : Store) (id : ObjectId) : Option PaymentStatus :=
  (store.payment id).map (·.status)

/-- Modifying one payment changes at most its own status. -/
theorem paymentStatus_modifyPayment (store : Store) (id other : ObjectId)
    {f : Payment → Payment} (hId : ∀ payment, (f payment).id = payment.id) :
    (store.modifyPayment id f hId).paymentStatus other =
      if other = id then (store.payment id).map (fun payment => (f payment).status)
      else store.paymentStatus other :=
  Collection.get?_modify_map _ hId _

end Store

/-- A save stores its status change, if it has one, and nothing else. -/
theorem changes_status_of_save {id saved : ObjectId} {changes : ShipmentChanges} {now : Date}
    {previous next : ShipmentStatus} (hBefore : store.status? id = some previous)
    (hAfter : (store.modifyShipment saved (changes.apply now) (changes.apply_id now)).status? id =
      some next)
    (hNe : previous ≠ next) : id = saved ∧ changes.status = some next := by
  rw [Store.status?_modifyShipment] at hAfter
  by_cases h : id = saved
  · subst h
    refine ⟨rfl, ?_⟩
    simp only [Store.status?, Option.map_eq_some_iff] at hBefore
    obtain ⟨shipment, hShipment, rfl⟩ := hBefore
    simp only [if_true, hShipment, Option.map_some, ShipmentChanges.apply,
      Option.some.injEq] at hAfter
    cases hStatus : changes.status with
    | none => simp [hStatus] at hAfter; exact absurd hAfter hNe
    | some status => simpa [hStatus] using hAfter
  · rw [if_neg h, hBefore] at hAfter
    exact absurd (Option.some.inj hAfter) hNe

theorem update_status_of_update {id updated : ObjectId} {update : ShipmentUpdate} {now : Date}
    {previous next : ShipmentStatus} (hBefore : store.status? id = some previous)
    (hAfter : (store.modifyShipment updated (update.apply now) (update.apply_id now)).status? id =
      some next)
    (hNe : previous ≠ next) :
    id = updated ∧ ∃ milestone, update = .setStatus next milestone := by
  rw [Store.status?_modifyShipment] at hAfter
  by_cases h : id = updated
  · subst h
    refine ⟨rfl, ?_⟩
    simp only [Store.status?, Option.map_eq_some_iff] at hBefore
    obtain ⟨shipment, hShipment, rfl⟩ := hBefore
    simp only [if_true, hShipment, Option.map_some, Option.some.injEq] at hAfter
    cases update with
    | setStatus status milestone => exact ⟨milestone, by rw [← hAfter]; rfl⟩
    | offChainMetadata _ => exact absurd hAfter hNe
    | deliveryProof _ => exact absurd hAfter hNe
    | deletedAt _ => exact absurd hAfter hNe
  · rw [if_neg h, hBefore] at hAfter
    exact absurd (Option.some.inj hAfter) hNe

/-- A stored status changes only by a call that asks to store the new one. -/
theorem statusWrite_of_execute {id : ObjectId} {previous next : ShipmentStatus}
    (hBefore : store.status? id = some previous)
    (hAfter : (execute decision store call).1.status? id = some next) (hNe : previous ≠ next) :
    call.statusWrite = some (id, next) := by
  have hSame : ∀ after : Store, after.status? id = store.status? id →
      after.status? id = some next → False := by
    intro after hEq h
    rw [hEq, hBefore] at h
    exact hNe (Option.some.inj h)
  cases call with
  | shipmentInsert build =>
      refine absurd hAfter (hSame _ ?_)
      simp only [execute]
      split
      · rename_i hFresh
        simp only [Store.status?, Store.shipment, Collection.get?_insert]
        split
        · rename_i hSame
          rw [Store.status?, Store.shipment, hSame, hFresh.1] at hBefore
          cases hBefore
        · rfl
      · rfl
  | shipmentSave saved changes =>
      simp only [execute] at hAfter
      split at hAfter
      · exact absurd hAfter (hSame _ rfl)
      · obtain ⟨rfl, hStatus⟩ := changes_status_of_save hBefore hAfter hNe
        simp [BackendCall.statusWrite, hStatus]
  | shipmentFindByIdAndUpdate text update =>
      simp only [execute, castingId] at hAfter
      split at hAfter
      · exact absurd hAfter (hSame _ rfl)
      · rename_i updated hCast
        split at hAfter
        · exact absurd hAfter (hSame _ rfl)
        · obtain ⟨rfl, milestone, rfl⟩ := update_status_of_update hBefore hAfter hNe
          simp [BackendCall.statusWrite, hCast]
  | _ => exact absurd hAfter (hSame _ (Store.status?_eq_of_shipments (execute_shipments rfl) id))

/-- Shipments are never removed, so a stored status stays stored. -/
theorem status?_isSome_of_perform {id : ObjectId} (h : (store.status? id).isSome) :
    ((perform decision store call).1.status? id).isSome := by
  rcases perform_store decision store call with hStore | hStore
  · rwa [hStore]
  · rw [hStore]
    cases hWrites : call.writesShipments with
    | false => rwa [Store.status?_eq_of_shipments (execute_shipments hWrites)]
    | true =>
        simp only [Store.status?, Store.shipment, Option.isSome_map] at h ⊢
        cases call with
        | shipmentInsert build =>
            simp only [execute]
            split
            · simp only [Collection.get?_insert]
              split
              · rfl
              · exact h
            · exact h
        | shipmentSave saved changes =>
            simp only [execute]
            split
            · exact h
            · exact Collection.get?_modify_isSome _ (changes.apply_id _) h
        | shipmentFindByIdAndUpdate text update =>
            simp only [execute, castingId]
            split
            · exact h
            · split
              · exact h
              · exact Collection.get?_modify_isSome _ (update.apply_id _) h
        | _ => cases hWrites

theorem statusWrite_of_perform {id : ObjectId} {previous next : ShipmentStatus}
    (hBefore : store.status? id = some previous)
    (hAfter : (perform decision store call).1.status? id = some next) (hNe : previous ≠ next) :
    call.statusWrite = some (id, next) := by
  rcases perform_store decision store call with hStore | hStore
  · rw [hStore, hBefore] at hAfter
    exact absurd (Option.some.inj hAfter) hNe
  · rw [hStore] at hAfter
    exact statusWrite_of_execute hBefore hAfter hNe

/-- Where a stored ledger block comes from: it was there, a writer created it, or
the indexer rewrote or inserted it. -/
inductive BlockOrigin (store : Store) (id : ObjectId) (block : LedgerBlock) : BackendCall → Prop
  | kept {call : BackendCall} (h : store.ledgerBlock id = some block) : BlockOrigin store id block call
  | created (hNew : store.ledgerBlock id = none) :
      BlockOrigin store id block (.ledgerCreate block.toLedgerBlockFields)
  | rewritten {old : LedgerBlock} {transactionHash : String} {upsert : LedgerUpsert}
      (h : store.ledgerBlock id = some old) (hHash : old.transactionHash = some transactionHash)
      (hSet : block = upsert.set old) : BlockOrigin store id block (.ledgerUpsert transactionHash upsert)
  | inserted {transactionHash : String} {upsert : LedgerUpsert} {shipmentId fresh : ObjectId}
      {now : Date} (hNew : store.ledgerBlock id = none)
      (hInsert : block = upsert.insert transactionHash shipmentId fresh now) :
      BlockOrigin store id block (.ledgerUpsert transactionHash upsert)

theorem blockOrigin_of_execute {id : ObjectId} {block : LedgerBlock}
    (h : (execute decision store call).1.ledgerBlock id = some block) :
    BlockOrigin store id block call := by
  cases hWrites : call.writesLedger with
  | false =>
      rw [Store.ledgerBlock, execute_ledgerBlocks hWrites] at h
      exact .kept h
  | true =>
      cases call with
      | ledgerCreate fields =>
          simp only [execute] at h
          split at h
          · rename_i hFresh
            simp only [Store.ledgerBlock, Collection.get?_insert] at h
            split at h
            · rename_i hId
              obtain rfl := Option.some.inj h
              exact .created (hId ▸ hFresh)
            · exact .kept h
          · exact .kept h
      | ledgerUpsert transactionHash upsert =>
          simp only [execute, castingId] at h
          split at h
          · exact .kept h
          · split at h
            · rename_i found hFound
              have hHash : found.transactionHash = some transactionHash := by
                simpa using List.find?_some hFound
              have hStored : store.ledgerBlock found.id = some found :=
                store.ledgerBlocks.get?_of_mem (List.mem_of_find?_eq_some hFound)
              by_cases hId : id = found.id
              · subst hId
                simp only [Store.ledgerBlock, Collection.get?_modify_self] at h hStored
                rw [hStored] at h
                exact .rewritten hStored hHash (Option.some.inj h).symm
              · simp only [Store.ledgerBlock, Collection.get?_modify_of_ne _ _ hId] at h
                exact .kept h
            · split at h
              · rename_i hFresh
                simp only [Store.ledgerBlock, Collection.get?_insert] at h
                split at h
                · rename_i hId
                  exact .inserted (hId ▸ hFresh) (Option.some.inj h).symm
                · exact .kept h
              · exact .kept h
      | _ => cases hWrites

theorem blockOrigin_of_perform {id : ObjectId} {block : LedgerBlock}
    (h : (perform decision store call).1.ledgerBlock id = some block) :
    BlockOrigin store id block call := by
  rcases perform_store decision store call with hStore | hStore
  · rw [hStore] at h
    exact .kept h
  · rw [hStore] at h
    exact blockOrigin_of_execute h

/-- Nothing submitted or reported is ever forgotten. -/
def Store.ChainGrows (before after : Store) : Prop :=
  (∀ hash tx, before.transaction hash = some tx → after.transaction hash = some tx) ∧
    ∀ event ∈ before.reported, event ∈ after.reported

theorem Store.ChainGrows.refl (store : Store) : store.ChainGrows store :=
  ⟨fun _ _ h => h, fun _ h => h⟩

theorem chainGrows_submit {α : Type} (store : Store) (tx : ChainTx) (answer : α) :
    store.ChainGrows (store.submit tx answer).1 := by
  unfold Store.submit
  split
  · rename_i hFresh
    refine ⟨fun hash old hOld => ?_, fun _ h => h⟩
    simp only [Store.transaction, Collection.get?_insert] at hOld ⊢
    split
    · rename_i hSame
      rw [hSame, hFresh.1] at hOld
      cases hOld
    · exact hOld
  · exact .refl store

theorem chainGrows_execute (decision : Decision) (store : Store) (call : BackendCall) :
    store.ChainGrows (execute decision store call).1 := by
  cases hTouches : call.touchesChain with
  | false =>
      have hSame := @execute_chain decision store call hTouches
      simp [Store.ChainGrows, Store.transaction, hSame]
  | true =>
      cases call with
      | releaseEscrow input =>
          simp only [execute]
          split
          · exact .refl store
          · exact chainGrows_submit store _ _
      | tokenizeShipment input => exact chainGrows_submit store _ _
      | streamEvent position =>
          simp only [execute]
          split
          · exact .refl store
          · split
            · exact ⟨fun _ _ h => h, fun _ h => List.mem_cons_of_mem _ h⟩
            · exact .refl store
      | _ => cases hTouches

theorem chainGrows_perform (decision : Decision) (store : Store) (call : BackendCall) :
    store.ChainGrows (perform decision store call).1 := by
  rcases perform_store decision store call with hStore | hStore
  · rw [hStore]
    exact .refl store
  · rw [hStore]
    exact chainGrows_execute decision store call

/-- A streamed event has been reported. -/
theorem mem_reported_of_streamEvent {position : Option String} {event : ChainEvent}
    (h : (perform decision store (.streamEvent position)).2 = .ok (some event)) :
    event ∈ (perform decision store (.streamEvent position)).1.reported := by
  cases hFault : decision.fault with
  | some fault => simp [perform_of_fault hFault, recover] at h
  | none =>
      rw [perform_of_fault_none hFault] at h ⊢
      simp only [execute] at h ⊢
      split at h
      · cases h
      · split at h
        · rename_i hReport
          obtain rfl := Option.some.inj (Except.ok.inj h)
          simp [hReport]
        · cases h

/-- An update by id answers with the stored live shipment, updated. -/
theorem shipment_of_findByIdAndUpdate {text : String} {update : ShipmentUpdate} {updated : Shipment}
    (h : (perform decision store (.shipmentFindByIdAndUpdate text update)).2 = .ok (some updated)) :
    ∃ shipment ∈ (ObjectId.cast? text).bind store.liveShipment,
      updated = update.apply decision.now shipment := by
  cases hFault : decision.fault with
  | some fault => simp [perform_of_fault hFault, recover] at h
  | none =>
      rw [perform_of_fault_none hFault] at h
      simp only [execute, castingId] at h
      split at h
      · cases h
      · rename_i id hCast
        split at h
        · cases h
        · rename_i shipment hLive
          exact ⟨shipment, by simp [hCast, hLive], (Option.some.inj (Except.ok.inj h)).symm⟩

/-- A delivery's lookup changes nothing and finds a stored live payment. -/
theorem perform_paymentFindByShipmentId (decision : Decision) (store : Store) (text : String) :
    (perform decision store (.paymentFindByShipmentId text)).1 = store ∧
      ∀ payment, (perform decision store (.paymentFindByShipmentId text)).2 = .ok (some payment) →
        payment ∈ (ObjectId.cast? text).bind store.paymentOfShipment := by
  constructor
  · rw [perform_store_eq]
    simp only [execute, castingId]
    repeat' split
    all_goals rfl
  · intro payment h
    cases hFault : decision.fault with
    | some fault => simp [perform_of_fault hFault, recover] at h
    | none =>
        rw [perform_of_fault_none hFault] at h
        simp only [execute, castingId] at h
        split at h
        · cases h
        · rename_i id hCast
          simpa [hCast] using h

theorem Store.paymentStatus_of_paymentOfShipment {store : Store} {shipmentId : ObjectId}
    {payment : Payment} (h : store.paymentOfShipment shipmentId = some payment) :
    store.paymentStatus payment.id = some payment.status := by
  have hStored : store.payment payment.id = some payment :=
    store.payments.get?_of_mem (List.mem_of_find?_eq_some h)
  simp [paymentStatus, hStored]

/-- A stored payment status stays as it is, or an update by id replaces it. -/
theorem paymentStatus_of_perform (decision : Decision) (store : Store) (call : BackendCall)
    (id : ObjectId) :
    (perform decision store call).1.paymentStatus id = store.paymentStatus id ∨
      ∃ text update, call = .paymentFindByIdAndUpdate text update ∧
        ObjectId.cast? text = some id ∧
        (perform decision store call).1.paymentStatus id =
          (store.paymentStatus id).map fun _ => update.target := by
  cases hWrites : call.writesPayments with
  | false =>
      left
      simp only [Store.paymentStatus, Store.payment, perform_payments hWrites]
  | true =>
      cases call with
      | paymentFindByIdAndUpdate text update =>
          rcases perform_store decision store (.paymentFindByIdAndUpdate text update) with h | h
          · exact .inl (by rw [h])
          · rw [h]
            simp only [execute, castingId]
            split
            · exact .inl rfl
            · rename_i named hCast
              split
              · exact .inl rfl
              · rw [Store.paymentStatus_modifyPayment]
                split
                · rename_i hSame
                  refine .inr ⟨text, update, rfl, hSame ▸ hCast, ?_⟩
                  simp [Store.paymentStatus, hSame, Function.comp_def]
                · exact .inl rfl
      | _ => cases hWrites

end Navin
