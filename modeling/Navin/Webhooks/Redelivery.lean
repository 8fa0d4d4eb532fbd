import Navin.Backend.Runs
import Navin.Webhooks.StellarService
import Mathlib.Logic.Function.Iterate

/-! Delivering the same Stellar webhook again. The payment is written by id and
comes out the same, but nothing ties the block of a completed settlement to the
event, so every delivery of a release appends another one. -/
namespace Navin

open Async

/-- A payment up to the time of its last update. -/
def Payment.undated (payment : Payment) : Payment :=
  { payment with updatedAt := ⟨0⟩ }

/-- Marking a payment the same way again changes nothing. -/
theorem PaymentUpdate.apply_apply (update : PaymentUpdate) (now : Date) (payment : Payment) :
    update.apply now (update.apply now payment) = update.apply now payment := by
  cases update with
  | setStatus status stellarTxHash =>
      simp only [PaymentUpdate.apply, Payment.mk.injEq, true_and]
      cases truthy stellarTxHash <;> simp
  | dispute disputedAt disputeReason additionalNotes =>
      cases hNotes : truthy additionalNotes <;> simp [PaymentUpdate.apply, hNotes]

/-- A ledger block up to its `_id` and its timestamps. -/
def LedgerBlock.content (block : LedgerBlock) : LedgerBlock :=
  { block with id := .repeated 0, timestamp := ⟨0⟩, createdAt := ⟨0⟩ }

/-- The payments and the ledger blocks, as far as a redelivery is compared. -/
structure Records where
  payments : ObjectId → Option Payment
  blocks : List LedgerBlock

def Store.records (store : Store) : Records where
  payments id := (store.payment id).map Payment.undated
  blocks := store.ledgerBlocks.docs.map LedgerBlock.content

/-- The same payments, and the same ledger blocks as often. -/
def Records.Same (first second : Records) : Prop :=
  first.payments = second.payments ∧ first.blocks.Perm second.blocks

namespace StellarWebhookPayload

variable (payload : StellarWebhookPayload)

/-- What an event sets on its payment. -/
def update : Option PaymentUpdate :=
  match payload.type with
  | .release => some (.setStatus .released (some payload.transactionHash))
  | .escrow => some (.setStatus .escrowed (some payload.transactionHash))
  | .failed => some (.setStatus .failed none)
  | .unknown _ => none

/-- The block a release records. -/
def completion (payment : Payment) : LedgerBlockInput :=
  { shipmentId := payment.shipmentId.toString
    eventType := some .settlementCompleted
    transactionHash := some payload.transactionHash
    metadata := some (.object [("paymentId", some (.string payload.paymentId))]) }

def completionBlock (payment : Payment) : LedgerBlock :=
  { (payload.completion payment).fields .settlementCompleted payment.shipmentId ⟨0⟩ with
    id := .repeated 0, deletedAt := none, createdAt := ⟨0⟩ }

/-- The blocks one delivery adds. -/
def newBlocks (payment : Payment) : List LedgerBlock :=
  if payload.type = .release then [payload.completionBlock payment] else []

end StellarWebhookPayload

namespace Records

variable (payload : StellarWebhookPayload) (records : Records)

/-- The payment an event is about, unless it is deleted or unknown. -/
def payable : Option (ObjectId × Payment) := do
  let id ← ObjectId.cast? payload.paymentId
  let payment ← (records.payments id).filter (·.deletedAt.isNone)
  return (id, payment)

/-- What one delivery makes of the records. -/
def deliver : Records :=
  match payload.update, records.payable payload with
  | some update, some (id, payment) =>
      { payments := Function.update records.payments id (some (update.apply ⟨0⟩ payment))
        blocks := records.blocks ++ payload.newBlocks payment }
  | _, _ => records

variable {payload records} {id : ObjectId} {payment : Payment} {update : PaymentUpdate}

theorem payable_eq_some_iff : records.payable payload = some (id, payment) ↔
    ObjectId.cast? payload.paymentId = some id ∧ records.payments id = some payment ∧
      payment.deletedAt.isNone = true := by
  simp only [payable, Option.bind_eq_bind, Option.bind_eq_some_iff, Option.filter_eq_some_iff,
    Option.pure_def, Option.some.injEq, Prod.mk.injEq]
  constructor
  · rintro ⟨_, hId, _, hPayment, rfl, rfl⟩
    exact ⟨hId, hPayment⟩
  · rintro ⟨hId, hPayment⟩
    exact ⟨id, hId, payment, hPayment, rfl, rfl⟩

theorem deliver_of_payable (hUpdate : payload.update = some update)
    (hPayable : records.payable payload = some (id, payment)) :
    records.deliver payload =
      { payments := Function.update records.payments id (some (update.apply ⟨0⟩ payment))
        blocks := records.blocks ++ payload.newBlocks payment } := by
  simp only [deliver, hUpdate, hPayable]

theorem deliver_of_unpayable (h : records.payable payload = none) :
    records.deliver payload = records := by
  unfold deliver
  split
  · rename_i hPayable
    cases h.symm.trans hPayable
  · rfl

theorem deliver_of_unknown (h : payload.update = none) : records.deliver payload = records := by
  unfold deliver
  split
  · rename_i hUpdate _
    cases h.symm.trans hUpdate
  · rfl

/-- A payment that has been marked is still there to be marked. -/
theorem payable_deliver (hUpdate : payload.update = some update)
    (hPayable : records.payable payload = some (id, payment)) :
    (records.deliver payload).payable payload = some (id, update.apply ⟨0⟩ payment) := by
  rw [deliver_of_payable hUpdate hPayable, payable_eq_some_iff]
  obtain ⟨hId, -, hAlive⟩ := payable_eq_some_iff.mp hPayable
  exact ⟨hId, Function.update_self _ _ _, by simpa using hAlive⟩

theorem newBlocks_apply (now : Date) :
    payload.newBlocks (update.apply now payment) = payload.newBlocks payment := by
  simp [StellarWebhookPayload.newBlocks, StellarWebhookPayload.completionBlock,
    StellarWebhookPayload.completion, LedgerBlockInput.fields]

/-- The payment is marked once and for all; the blocks pile up. -/
theorem iterate_deliver (hUpdate : payload.update = some update)
    (hPayable : records.payable payload = some (id, payment)) (n : Nat) :
    (deliver payload)^[n + 1] records =
      { payments := Function.update records.payments id (some (update.apply ⟨0⟩ payment))
        blocks := records.blocks ++ (List.replicate (n + 1) (payload.newBlocks payment)).flatten } := by
  induction n generalizing records payment with
  | zero => simp [deliver_of_payable hUpdate hPayable]
  | succ n ih =>
      rw [Function.iterate_succ_apply, ih (payable_deliver hUpdate hPayable),
        deliver_of_payable hUpdate hPayable, newBlocks_apply, PaymentUpdate.apply_apply,
        Function.update_idem, List.append_assoc, ← List.flatten_cons, ← List.replicate_succ]

theorem iterate_deliver_of_fixed (h : records.deliver payload = records) (n : Nat) :
    (deliver payload)^[n] records = records :=
  Function.iterate_fixed h n

/-- Which deliveries can be repeated. -/
theorem same_iterate_deliver_iff {n : Nat} (hDelivered : 0 < n) :
    ((deliver payload)^[n] records).Same (records.deliver payload) ↔
      n = 1 ∨ payload.type ≠ .release ∨ records.payable payload = none := by
  have hRefl : records.Same records := ⟨rfl, .refl _⟩
  cases hUpdate : payload.update with
  | none =>
      have hType : payload.type ≠ .release := by
        intro hRelease
        rw [StellarWebhookPayload.update, hRelease] at hUpdate
        cases hUpdate
      have hFixed := @deliver_of_unknown payload records hUpdate
      rw [iterate_deliver_of_fixed hFixed, hFixed]
      exact iff_of_true hRefl (.inr (.inl hType))
  | some update =>
      cases hPayable : records.payable payload with
      | none =>
          have hFixed := deliver_of_unpayable hPayable
          rw [iterate_deliver_of_fixed hFixed, hFixed]
          exact iff_of_true hRefl (.inr (.inr rfl))
      | some found =>
          obtain ⟨id, payment⟩ := found
          obtain ⟨m, rfl⟩ := Nat.exists_eq_succ_of_ne_zero hDelivered.ne'
          rw [iterate_deliver hUpdate hPayable, deliver_of_payable hUpdate hPayable]
          by_cases hType : payload.type = .release
          · -- The blocks of the repeated deliveries are one and the same block, again and again.
            simp only [Same, StellarWebhookPayload.newBlocks, hType, if_true, true_and, ne_eq,
              not_true, reduceCtorEq, or_false]
            constructor
            · intro hPerm
              simpa using hPerm.length_eq
            · intro hOnce
              obtain rfl := Nat.succ.inj hOnce
              simp
          · refine iff_of_true ⟨rfl, ?_⟩ (.inr (.inl hType))
            simp [StellarWebhookPayload.newBlocks, hType]

end Records

/-- A new ledger block gets an id that no block has. -/
def assignsFreshId (step : Step backend) : Bool :=
  match step.request with
  | .ledgerCreate _ => ((Store.ledgerBlocks step.before).get? step.decision.freshId).isNone
  | _ => true

abbrev AssignsFreshIds (steps : List (Step backend)) : Prop :=
  ∀ step ∈ steps, assignsFreshId step = true

section Runs

variable {payload : StellarWebhookPayload} {paymentId : String} {status : PaymentStatus}
  {stellarTxHash : Option String} {id : ObjectId} {payment : Payment} {env : Nat → Decision}
  {store : Store}

theorem payable_records_of_live (hId : ObjectId.cast? payload.paymentId = some id)
    (hLive : store.livePayment id = some payment) :
    store.records.payable payload = some (id, payment.undated) := by
  obtain ⟨hStored, hAlive⟩ := Option.filter_eq_some_iff.mp hLive
  refine Records.payable_eq_some_iff.mpr ⟨hId, ?_, hAlive⟩
  exact congrArg (Option.map Payment.undated) hStored

theorem payable_records_eq_none_iff : store.records.payable payload = none ↔
    (ObjectId.cast? payload.paymentId).bind store.livePayment = none := by
  rw [← not_iff_not, ← ne_eq, ← ne_eq, Option.ne_none_iff_exists', Option.ne_none_iff_exists']
  constructor
  · rintro ⟨⟨id, payment⟩, hPayable⟩
    obtain ⟨hId, hPayment, hAlive⟩ := Records.payable_eq_some_iff.mp hPayable
    obtain ⟨stored, hStored, rfl⟩ := Option.map_eq_some_iff.mp hPayment
    refine ⟨stored, ?_⟩
    rw [hId, Option.bind_some, Store.livePayment, Option.filter_eq_some_iff]
    exact ⟨hStored, hAlive⟩
  · rintro ⟨payment, hFound⟩
    obtain ⟨id, hId, hLive⟩ := Option.bind_eq_some_iff.mp hFound
    exact ⟨(id, payment.undated), payable_records_of_live hId hLive⟩

theorem undated_apply (update : PaymentUpdate) (now : Date) (payment : Payment) :
    (update.apply now payment).undated = update.apply ⟨0⟩ payment.undated := by
  cases update <;> rfl

theorem records_modifyPayment (hStored : store.payment id = some payment) (update : PaymentUpdate)
    (now : Date) :
    (store.modifyPayment id (update.apply now) (update.apply_id now)).records =
      { store.records with
        payments := Function.update store.records.payments id
          (some (update.apply ⟨0⟩ payment.undated)) } := by
  simp only [Store.records, Records.mk.injEq]
  refine ⟨funext fun other => ?_, rfl⟩
  rw [Function.update_apply]
  refine (Collection.get?_modify_map _ (update.apply_id now) Payment.undated).trans ?_
  simp only [show store.payments.get? id = some payment from hStored, undated_apply]
  rfl

variable [StellarNetwork]

/-- The update of a payment that cannot be found fails and writes nothing. -/
theorem updatePaymentStatusService_fails (hQuiet : Quiet env)
    (h : (ObjectId.cast? paymentId).bind store.livePayment = none) :
    ∃ error env', (updatePaymentStatusService paymentId status stellarTxHash).run backend env store =
      (store, .error error, env') := by
  have hFind := run_request hQuiet store (.paymentFindById paymentId)
  unfold updatePaymentStatusService getPaymentById
  cases hId : ObjectId.cast? paymentId with
  | none =>
      simp only [execute, castingId, hId] at hFind
      exact ⟨_, _, Program.run_bind_error hFind⟩
  | some id =>
      rw [hId, Option.bind_some] at h
      simp only [execute, castingId, hId, h] at hFind
      rw [Program.run_bind_ok hFind]
      exact ⟨_, _, rfl⟩

variable (status stellarTxHash) in
/-- The update of a live payment marks it and succeeds. -/
theorem updatePaymentStatusService_marks (hQuiet : Quiet env)
    (hId : ObjectId.cast? paymentId = some id) (hLive : store.livePayment id = some payment) :
    ∃ now updated env',
      let update : PaymentUpdate := .setStatus status stellarTxHash
      (updatePaymentStatusService paymentId status stellarTxHash).run backend env store =
        (store.modifyPayment id (update.apply now) (update.apply_id now), .ok updated, env') := by
  have hFind := run_request hQuiet store (.paymentFindById paymentId)
  simp only [execute, castingId, hId, hLive] at hFind
  have hMark := run_request (fun n => hQuiet (n + 1)) store
    (.paymentFindByIdAndUpdate paymentId (.setStatus status stellarTxHash))
  simp only [execute, castingId, hId, hLive] at hMark
  refine ⟨(env 1).now, ?_⟩
  unfold updatePaymentStatusService getPaymentById updatePaymentStatus
  rw [Program.run_bind_ok hFind]
  dsimp only
  rw [Program.run_bind_ok hMark]
  dsimp only
  have hEmit := run_request (fun n => hQuiet (n + 3))
    (store.modifyPayment id ((PaymentUpdate.setStatus status stellarTxHash).apply (env 1).now)
      (PaymentUpdate.apply_id _ _))
  unfold announceSettlement emitPaymentStatusChange
  rw [Program.run_bind_ok (run_currentDate _ _), Program.run_bind_ok (hEmit _)]
  exact ⟨_, _, rfl⟩

omit [StellarNetwork] in
/-- The block of a completed settlement is stored under a fresh id. -/
theorem recordSettlementCompleted_records (hQuiet : Quiet env)
    (hFresh : AssignsFreshIds
      ((recordSettlementCompleted payload.paymentId payload.transactionHash).steps env store))
    (hId : ObjectId.cast? payload.paymentId = some id)
    (hLive : store.livePayment id = some payment) :
    Store.records ((recordSettlementCompleted payload.paymentId payload.transactionHash).run backend
      env store).1 =
        { store.records with
          blocks := store.records.blocks ++ [payload.completionBlock payment] } := by
  have hFind := run_request hQuiet store (.paymentFindById payload.paymentId)
  simp only [execute, castingId, hId, hLive] at hFind
  have hCreate : createLedgerBlockService (payload.completion payment) =
      currentDate >>= fun now => request (.ledgerCreate
        ((payload.completion payment).fields .settlementCompleted payment.shipmentId now)) := by
    simp [createLedgerBlockService, createLedgerBlock, StellarWebhookPayload.completion, currentDate]
  have hBody : recordSettlementCompleted payload.paymentId payload.transactionHash =
      tryCatch (getPaymentById payload.paymentId >>= fun found => found.elim (pure ())
        fun payment => (fun _ => ()) <$> createLedgerBlockService (payload.completion payment))
      fun _ => pure () := by
    refine congrArg (tryCatch · _) (congrArg (getPaymentById payload.paymentId >>= ·)
      (funext fun found => ?_))
    cases found with
    | none => rfl
    | some payment =>
        simp only [Option.elim_some, map_eq_pure_bind]
        rfl
  rw [hBody, getPaymentById, Program.steps_tryCatch_pure, Program.steps_bind_ok hFind] at hFresh
  rw [hBody, getPaymentById, Program.run_tryCatch, Program.run_bind_ok hFind]
  dsimp only [Option.elim_some] at hFresh ⊢
  rw [Program.steps_map, hCreate, Program.steps_bind_ok (run_currentDate _ _),
    Program.steps_await, Program.steps_await] at hFresh
  -- The create is the last step, in the store that the lookups left as it was.
  have hUnused : store.ledgerBlocks.get? (env 2).freshId = none :=
    Option.isNone_iff_eq_none.mp (hFresh ⟨env 2, store, .ledgerCreate _⟩
      (List.mem_append_right _ (List.mem_append_right _ (List.mem_singleton_self _))))
  rw [Program.run_map, hCreate, Program.run_bind_ok (run_currentDate _ _),
    run_request (fun n => hQuiet (n + 2))]
  simp only [execute, dif_pos hUnused]
  simp [Store.records, Store.payment, Collection.insert, Except.map, LedgerBlock.content,
    StellarWebhookPayload.completionBlock, StellarWebhookPayload.completion,
    LedgerBlockInput.fields]

omit [StellarNetwork] in
/-- The payment that a delivery marks. -/
theorem deliver_marks {update : PaymentUpdate} (hUpdate : payload.update = some update)
    (hId : ObjectId.cast? payload.paymentId = some id)
    (hLive : store.livePayment id = some payment) (now : Date) :
    store.records.deliver payload =
      { Store.records (store.modifyPayment id (update.apply now) (update.apply_id now)) with
        blocks := store.records.blocks ++ payload.newBlocks payment } := by
  have hStored := (Option.filter_eq_some_iff.mp hLive).1
  rw [Records.deliver_of_payable hUpdate (payable_records_of_live hId hLive),
    records_modifyPayment hStored]
  rfl

omit [StellarNetwork] in
theorem livePayment_modifyPayment (hLive : store.livePayment id = some payment)
    (update : PaymentUpdate) (now : Date) :
    (store.modifyPayment id (update.apply now) (update.apply_id now)).livePayment id =
      some (update.apply now payment) := by
  obtain ⟨hStored, hAlive⟩ := Option.filter_eq_some_iff.mp hLive
  rw [Store.livePayment, Option.filter_eq_some_iff]
  constructor
  · exact (store.payments.get?_modify_self (update.apply_id now)).trans (congrArg _ hStored)
  · simpa using hAlive

/-- One delivery does to the records what it is meant to do. -/
theorem handleStellarWebhookEvent_records (hQuiet : Quiet env)
    (hFresh : AssignsFreshIds ((handleStellarWebhookEvent payload).steps env store)) :
    Store.records ((handleStellarWebhookEvent payload).run backend env store).1 =
      store.records.deliver payload := by
  cases hFind : (ObjectId.cast? payload.paymentId).bind store.livePayment with
  | none =>
      have hSame : ((handleStellarWebhookEvent payload).run backend env store).1 = store := by
        obtain ⟨type, paymentId, transactionHash⟩ := payload
        cases type with
        | unknown text => rfl
        | _ =>
            obtain ⟨_, _, hFails⟩ := updatePaymentStatusService_fails hQuiet hFind
            simp only [handleStellarWebhookEvent, handleReleaseEvent, handleEscrowEvent,
              handleFailedEvent]
            rw [Program.run_bind_error hFails]
      rw [hSame, Records.deliver_of_unpayable (payable_records_eq_none_iff.mpr hFind)]
  | some payment =>
      obtain ⟨id, hId, hLive⟩ := Option.bind_eq_some_iff.mp hFind
      cases hType : payload.type with
      | unknown text =>
          simp only [handleStellarWebhookEvent, hType]
          exact (Records.deliver_of_unknown (by simp only [StellarWebhookPayload.update, hType])).symm
      | failed =>
          obtain ⟨now, _, _, hMarks⟩ := updatePaymentStatusService_marks .failed none hQuiet hId hLive
          have hUpdate : payload.update = some (.setStatus .failed none) := by
            simp only [StellarWebhookPayload.update, hType]
          simp only [handleStellarWebhookEvent, hType, handleFailedEvent]
          rw [Program.run_bind_ok hMarks, deliver_marks hUpdate hId hLive now]
          simp [StellarWebhookPayload.newBlocks, hType, Store.records, Store.modifyPayment]
      | escrow =>
          obtain ⟨now, _, _, hMarks⟩ := updatePaymentStatusService_marks .escrowed
            (some payload.transactionHash) hQuiet hId hLive
          have hUpdate : payload.update =
              some (.setStatus .escrowed (some payload.transactionHash)) := by
            simp only [StellarWebhookPayload.update, hType]
          simp only [handleStellarWebhookEvent, hType, handleEscrowEvent]
          rw [Program.run_bind_ok hMarks, deliver_marks hUpdate hId hLive now]
          simp [StellarWebhookPayload.newBlocks, hType, Store.records, Store.modifyPayment]
      | release =>
          obtain ⟨now, _, env', hMarks⟩ := updatePaymentStatusService_marks .released
            (some payload.transactionHash) hQuiet hId hLive
          have hUpdate : payload.update =
              some (.setStatus .released (some payload.transactionHash)) := by
            simp only [StellarWebhookPayload.update, hType]
          have hQuiet' : Quiet env' := by
            have hAfter := Quiet.after hQuiet (updatePaymentStatusService payload.paymentId .released
              (some payload.transactionHash)) store
            rwa [hMarks] at hAfter
          simp only [handleStellarWebhookEvent, hType, handleReleaseEvent, ← map_eq_pure_bind]
            at hFresh ⊢
          rw [Program.steps_bind_ok hMarks, Program.steps_map] at hFresh
          rw [Program.run_bind_ok hMarks, Program.run_map, recordSettlementCompleted_records hQuiet'
            (fun step hStep => hFresh step (List.mem_append_right _ hStep)) hId
            (livePayment_modifyPayment hLive _ now), deliver_marks hUpdate hId hLive now]
          simp [StellarWebhookPayload.newBlocks, hType, Store.records, Store.modifyPayment,
            StellarWebhookPayload.completionBlock, StellarWebhookPayload.completion,
            LedgerBlockInput.fields]

/-- The same payload, handled `n` times in a row. -/
def deliveries (payload : StellarWebhookPayload) (n : Nat) : BackendM Unit :=
  Program.inTurn (List.replicate n (handleStellarWebhookEvent payload))

theorem deliveries_records {n : Nat} (hQuiet : Quiet env)
    (hFresh : AssignsFreshIds ((deliveries payload n).steps env store)) :
    Store.records ((deliveries payload n).run backend env store).1 =
      (Records.deliver payload)^[n] store.records := by
  induction n generalizing env store with
  | zero => rfl
  | succ n ih =>
      rw [deliveries, List.replicate_succ, Program.steps_inTurn_cons] at hFresh
      have hFirst := handleStellarWebhookEvent_records hQuiet
        fun step hStep => hFresh step (List.mem_append_left _ hStep)
      rw [deliveries, List.replicate_succ, Program.run_inTurn_cons, Function.iterate_succ_apply,
        ← hFirst]
      exact ih (hQuiet.after _ _) fun step hStep => hFresh step (List.mem_append_right _ hStep)

/-- Redelivering an event leaves the records as a single delivery does, unless it
is a release of a payment that exists: its block is recorded every time. -/
theorem redelivery_idempotent_iff {n : Nat} {env' : Nat → Decision} (hDelivered : 0 < n)
    (hQuiet : Quiet env) (hQuiet' : Quiet env')
    (hFresh : AssignsFreshIds ((deliveries payload n).steps env store))
    (hFresh' : AssignsFreshIds ((handleStellarWebhookEvent payload).steps env' store)) :
    (Store.records ((deliveries payload n).run backend env store).1).Same
        (Store.records ((handleStellarWebhookEvent payload).run backend env' store).1) ↔
      n = 1 ∨ payload.type ≠ .release ∨
        (ObjectId.cast? payload.paymentId).bind store.livePayment = none := by
  rw [deliveries_records hQuiet hFresh, handleStellarWebhookEvent_records hQuiet' hFresh',
    Records.same_iterate_deliver_iff hDelivered, payable_records_eq_none_iff]

end Runs

/-- A release of the sample payment. -/
def sampleRelease : StellarWebhookPayload :=
  ⟨.release, samplePayment.id.toString, "r1"⟩

def releaseStore : Store where
  payments := ⟨[samplePayment], Collection.nodup_single _ _⟩

/-- Decisions that number the new documents. -/
def numbering (n : Nat) : Decision where
  freshId := .repeated (Fin.ofNat 16 n)

/-- Three times the news that the payment is in escrow are one. -/
theorem redelivery_idempotent_iff_sample :
    let _ : StellarNetwork := ⟨false⟩
    let funding : StellarWebhookPayload := { sampleRelease with type := .escrow }
    (Store.records ((deliveries funding 3).run backend numbering releaseStore).1).Same
      (Store.records ((handleStellarWebhookEvent funding).run backend numbering
        releaseStore).1) := by
  intro _ funding
  exact (redelivery_idempotent_iff (by decide) (fun _ => rfl) (fun _ => rfl) (by decide +kernel)
    (by decide +kernel)).mpr (.inr (.inl (by decide)))

/-- A release delivered twice leaves two blocks where one delivery leaves one. -/
theorem release_recorded_twice :
    ¬∀ (_ : StellarNetwork) (payload : StellarWebhookPayload) (n : Nat) (store : Store)
      (env env' : Nat → Decision), 0 < n → Quiet env → Quiet env' →
      AssignsFreshIds ((deliveries payload n).steps env store) →
      AssignsFreshIds ((handleStellarWebhookEvent payload).steps env' store) →
      (Store.records ((deliveries payload n).run backend env store).1).Same
        (Store.records ((handleStellarWebhookEvent payload).run backend env' store).1) := by
  intro idempotent
  have hSame := idempotent ⟨false⟩ sampleRelease 2 releaseStore numbering numbering (by decide)
    (fun _ => rfl) (fun _ => rfl) (by decide +kernel) (by decide +kernel)
  exact absurd hSame.2.length_eq (by decide +kernel)

end Navin
