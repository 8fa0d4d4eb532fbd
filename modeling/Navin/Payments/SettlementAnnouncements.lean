import Navin.Payments.EscrowSafety
import Navin.Payments.SettlementLifecycle
import Navin.Semantics.Trace

/-! Is every change of a payment's status announced? The requests of a run are handled
one after the other here. What a request announces is compared with what it commits. -/
namespace Navin

open Async

structure StatusChange where
  oldStatus : PaymentStatus
  newStatus : PaymentStatus
deriving DecidableEq

/-- The change of payment `id`'s stored status that a step commits. -/
def committedChange (id : ObjectId) (step : Step backend) : Option StatusChange :=
  match Store.paymentStatus step.before id, Store.paymentStatus step.after id with
  | some oldStatus, some newStatus =>
      if oldStatus = newStatus then none else some ⟨oldStatus, newStatus⟩
  | _, _ => none

/-- The change of payment `id` that a step announces. Announcing that nothing has changed
is no announcement of a change. -/
def announcedChange (id : ObjectId) (step : Step backend) : Option StatusChange :=
  match step.request with
  | .emitPaymentStatusChange _ payload =>
      if Decision.applies step.decision ∧ payload.paymentId = id.toString ∧
          payload.oldStatus ≠ payload.newStatus then
        some ⟨payload.oldStatus, payload.newStatus⟩
      else none
  | _ => none

/-- The changes of each payment and their announcements correspond one to one, in order. -/
def AnnouncesChanges (steps : List (Step backend)) : Prop :=
  ∀ id, steps.filterMap (committedChange id) = steps.filterMap (announcedChange id)

/-- A step that gives a payment another status than it has. -/
def Restates (step : Step backend) : Prop :=
  match step.request with
  | .paymentFindByIdAndUpdate text update =>
      Decision.applies step.decision ∧
        ∃ payment, (ObjectId.cast? text).bind (Store.livePayment step.before) = some payment ∧
          payment.status ≠ update.target
  | _ => False

/-- Neither the answer to an update nor an announcement gets lost. -/
def GetsThrough (step : Step backend) : Prop :=
  match step.request with
  | .paymentFindByIdAndUpdate _ _ => ∀ error, (step.decision : Decision).fault ≠ some (.lost error)
  | .emitPaymentStatusChange _ _ => Decision.applies step.decision
  | _ => True

/-- A request that gives a payment another status is no delivery, and all it has to say gets
through. -/
def ReportsRestating (escrowRequest : EscrowRequest) (steps : List (Step backend)) : Prop :=
  (∃ step ∈ steps, Restates step) →
    (∀ statusRequest, escrowRequest ≠ .shipmentStatus statusRequest) ∧
      ∀ step ∈ steps, GetsThrough step

section Steps

variable {id key : ObjectId} {text : String} {update : PaymentUpdate} {payment updated : Payment}
  {store : Store} {decision : Decision} {step : Step backend}

/-- An update announces nothing. -/
theorem announcedChange_of_update :
    announcedChange id ⟨decision, store, .paymentFindByIdAndUpdate text update⟩ = none := rfl

theorem committedChange_of_payments
    (h : Store.payments step.after = Store.payments step.before) :
    committedChange id step = none := by
  have hSame : Store.paymentStatus step.after id = Store.paymentStatus step.before id := by
    simp [Store.paymentStatus, Store.payment, h]
  rw [committedChange, hSame]
  cases Store.paymentStatus step.before id <;> simp

theorem restates_update_iff (hApplies : decision.applies) (hCast : ObjectId.cast? text = some key)
    (hLive : store.livePayment key = some payment) :
    Restates ⟨decision, store, .paymentFindByIdAndUpdate text update⟩ ↔
      payment.status ≠ update.target := by
  simp only [Restates, hApplies, hCast, Option.bind_some, hLive, Option.some.injEq, true_and,
    exists_eq_left']

/-- An update in effect changes the status of the payment it finds. -/
theorem committedChange_of_update (hApplies : decision.applies)
    (hCast : ObjectId.cast? text = some key) (hLive : store.livePayment key = some payment) :
    committedChange id ⟨decision, store, .paymentFindByIdAndUpdate text update⟩ =
      if id = key ∧ payment.status ≠ update.target then some ⟨payment.status, update.target⟩
      else none := by
  have hStored : store.payment key = some payment := (Option.filter_eq_some_iff.mp hLive).1
  have hAfter : Step.after (W := backend)
      ⟨decision, store, .paymentFindByIdAndUpdate text update⟩ =
      store.modifyPayment key (update.apply decision.now) (update.apply_id _) := by
    change (perform decision store (.paymentFindByIdAndUpdate text update)).1 = _
    rw [perform_store_eq, if_pos hApplies]
    simp only [execute, castingId, hCast, hLive]
  rw [committedChange, hAfter, Store.paymentStatus_modifyPayment, hStored]
  by_cases hId : id = key
  · subst hId
    have hStatus : store.paymentStatus id = some payment.status := by
      rw [Store.paymentStatus, hStored]
      rfl
    simp only [hStatus, if_true, Option.map_some, PaymentUpdate.apply_status, true_and]
    by_cases hSame : payment.status = update.target <;> simp [hSame]
  · rw [if_neg hId, if_neg fun h => hId h.1]
    cases store.paymentStatus id <;> simp

/-- Only a step that restates a payment commits a change. -/
theorem committedChange_of_not_restates (h : ¬Restates step) : committedChange id step = none := by
  obtain ⟨decision, store, call⟩ := step
  cases hWrites : call.writesPayments with
  | false => exact committedChange_of_payments (perform_payments hWrites)
  | true =>
      cases call with
      | paymentFindByIdAndUpdate text update =>
          cases hApplies : decision.applies with
          | false =>
              apply committedChange_of_payments
              change (perform decision store _).1.payments = store.payments
              rw [perform_store_eq, hApplies]
              rfl
          | true =>
              cases hCast : ObjectId.cast? text with
              | none =>
                  apply committedChange_of_payments
                  change (perform decision store _).1.payments = store.payments
                  simp only [perform_store_eq, hApplies, if_true, execute, castingId, hCast]
              | some key =>
                  cases hLive : store.livePayment key with
                  | none =>
                      apply committedChange_of_payments
                      change (perform decision store _).1.payments = store.payments
                      simp only [perform_store_eq, hApplies, if_true, execute, castingId, hCast,
                        hLive]
                  | some payment =>
                      rw [committedChange_of_update hApplies hCast hLive, if_neg]
                      rintro ⟨-, hStatus⟩
                      exact h ⟨hApplies, payment, by rw [hCast]; exact hLive, hStatus⟩
      | _ => cases hWrites

/-- A step that restates a payment commits a change of it. -/
theorem Restates.committedChange (h : Restates step) :
    ∃ id change, committedChange id step = some change := by
  obtain ⟨decision, store, call⟩ := step
  cases call with
  | paymentFindByIdAndUpdate text update =>
      obtain ⟨hApplies, payment, hFound, hStatus⟩ := h
      obtain ⟨key, hCast, hLive⟩ := Option.bind_eq_some_iff.mp hFound
      refine ⟨key, ⟨payment.status, update.target⟩, ?_⟩
      rw [committedChange_of_update hApplies hCast hLive, if_pos ⟨rfl, hStatus⟩]
  | _ => exact h.elim

/-- Where nothing is announced, no change must be committed. -/
theorem announcesChanges_iff_of_silent {steps : List (Step backend)}
    (hSilent : ∀ step ∈ steps, ∀ id, announcedChange id step = none) :
    AnnouncesChanges steps ↔ ¬∃ step ∈ steps, Restates step := by
  have hNothing (id : ObjectId) : steps.filterMap (announcedChange id) = [] :=
    List.filterMap_eq_nil_iff.mpr fun step hStep => hSilent step hStep id
  constructor
  · rintro h ⟨step, hStep, hRestates⟩
    obtain ⟨id, change, hChange⟩ := hRestates.committedChange
    have hNone := h id
    rw [hNothing, List.filterMap_eq_nil_iff] at hNone
    rw [hNone step hStep] at hChange
    cases hChange
  · intro h id
    rw [hNothing, List.filterMap_eq_nil_iff]
    intro step hStep
    apply committedChange_of_not_restates
    exact fun hRestates => h ⟨step, hStep, hRestates⟩

end Steps

section Services

variable {id : ObjectId} {step : Step backend} {steps others : List (Step backend)}

/-- The calls that update a payment or announce a change of one. -/
def BackendCall.settles : BackendCall → Bool
  | .paymentFindByIdAndUpdate _ _ | .emitPaymentStatusChange _ _ => true
  | _ => false

/-- The calls that announce a change of a payment. -/
def BackendCall.announcesSettlement : BackendCall → Bool
  | .emitPaymentStatusChange _ _ => true
  | _ => false

theorem not_restates_of_not_settles (h : step.request.settles = false) : ¬Restates step := by
  intro hRestates
  obtain ⟨decision, store, call⟩ := step
  cases call <;> first | exact hRestates.elim | cases h

theorem announcedChange_of_not_settles (h : step.request.settles = false) :
    announcedChange id step = none := by
  obtain ⟨decision, store, call⟩ := step
  cases call <;> first | rfl | cases h

theorem getsThrough_of_not_settles (h : step.request.settles = false) : GetsThrough step := by
  obtain ⟨decision, store, call⟩ := step
  cases call <;> trivial

/-- The changes are announced exactly if what there is to say gets through. -/
def Accounts (steps : List (Step backend)) : Prop :=
  AnnouncesChanges steps ↔ ((∃ step ∈ steps, Restates step) → ∀ step ∈ steps, GetsThrough step)

theorem accounts_nil : Accounts [] := by
  simp [Accounts, AnnouncesChanges]

/-- Steps that have nothing to do with settlements make no difference. -/
theorem accounts_append_iff (hOthers : ∀ step ∈ others, step.request.settles = false) :
    Accounts (steps ++ others) ↔ Accounts steps := by
  have hCommitted (id : ObjectId) : others.filterMap (committedChange id) = [] :=
    List.filterMap_eq_nil_iff.mpr fun step hStep =>
      committedChange_of_not_restates (not_restates_of_not_settles (hOthers step hStep))
  have hAnnounced (id : ObjectId) : others.filterMap (announcedChange id) = [] :=
    List.filterMap_eq_nil_iff.mpr fun step hStep =>
      announcedChange_of_not_settles (hOthers step hStep)
  have hRestates : (∃ step ∈ steps ++ others, Restates step) ↔ ∃ step ∈ steps, Restates step := by
    constructor
    · rintro ⟨step, hStep, hRestates⟩
      rcases List.mem_append.mp hStep with hOld | hOther
      · exact ⟨step, hOld, hRestates⟩
      · exact absurd hRestates (not_restates_of_not_settles (hOthers step hOther))
    · rintro ⟨step, hStep, hRestates⟩
      exact ⟨step, List.mem_append_left _ hStep, hRestates⟩
  have hThrough : (∀ step ∈ steps ++ others, GetsThrough step) ↔
      ∀ step ∈ steps, GetsThrough step := by
    constructor
    · exact fun h step hStep => h step (List.mem_append_left _ hStep)
    · intro h step hStep
      rcases List.mem_append.mp hStep with hOld | hOther
      · exact h step hOld
      · exact getsThrough_of_not_settles (hOthers step hOther)
  simp only [Accounts, AnnouncesChanges, List.filterMap_append, hCommitted, hAnnounced,
    List.append_nil, hRestates, hThrough]

theorem accounts_cons_iff (h : step.request.settles = false) :
    Accounts (step :: steps) ↔ Accounts steps := by
  have hCommitted (id : ObjectId) : committedChange id step = none :=
    committedChange_of_not_restates (not_restates_of_not_settles h)
  simp only [Accounts, AnnouncesChanges, List.filterMap_cons_none (hCommitted _),
    List.filterMap_cons_none (announcedChange_of_not_settles h), List.mem_cons,
    exists_eq_or_imp, forall_eq_or_imp, not_restates_of_not_settles h, false_or,
    getsThrough_of_not_settles h, true_and]

variable {decision : Decision} {store : Store} {text : String} {update : PaymentUpdate}

/-- An update that is not answered with a payment changes none, or its answer is lost. -/
theorem accounts_unanswered
    (h : ∀ updated, (perform decision store (.paymentFindByIdAndUpdate text update)).2 ≠
      .ok (some updated)) :
    Accounts [⟨decision, store, .paymentFindByIdAndUpdate text update⟩] := by
  have hSilent : ∀ step ∈
      [(⟨decision, store, .paymentFindByIdAndUpdate text update⟩ : Step backend)],
      ∀ id, announcedChange id step = none := by
    intro step hStep id
    obtain rfl := List.mem_singleton.mp hStep
    rfl
  rw [Accounts, announcesChanges_iff_of_silent hSilent]
  constructor
  · exact fun hNone hSome => absurd hSome hNone
  · rintro hThrough ⟨step, hStep, hRestates⟩
    have hAnswered := hThrough ⟨step, hStep, hRestates⟩ step hStep
    obtain rfl := List.mem_singleton.mp hStep
    obtain ⟨hApplies, payment, hFound, -⟩ := hRestates
    obtain ⟨key, hCast, hLive⟩ := Option.bind_eq_some_iff.mp hFound
    -- The update takes effect and its answer is not lost, so it meets no fault.
    have hFault : decision.fault = none := by
      cases hFault : decision.fault with
      | none => rfl
      | some fault =>
          cases fault with
          | lost error => exact absurd hFault (hAnswered error)
          | rejected error => simp [Decision.applies, hFault] at hApplies
    apply h (update.apply decision.now payment)
    rw [perform_of_fault_none hFault]
    simp only [execute, castingId, hCast, hLive]

/-- An answered update has met no fault and found a live payment. -/
theorem of_answered_update {updated : Payment}
    (h : (perform decision store (.paymentFindByIdAndUpdate text update)).2 = .ok (some updated)) :
    decision.fault = none ∧ ∃ key payment, ObjectId.cast? text = some key ∧
      store.livePayment key = some payment ∧ updated = update.apply decision.now payment := by
  cases hFault : decision.fault with
  | some fault =>
      rw [perform_of_fault hFault] at h
      cases h
  | none =>
      refine ⟨rfl, ?_⟩
      simp only [perform_of_fault_none hFault, execute, castingId] at h
      split at h
      · cases h
      · rename_i key hCast
        split at h
        · cases h
        · rename_i payment hLive
          exact ⟨key, payment, hCast, hLive, (Option.some.inj (Except.ok.inj h)).symm⟩

/-- An update that is answered, and its announcement. -/
theorem accounts_announced {updated : Payment} {now : Step backend} {announcer : Decision}
    {after : Store} {room : String} {payload : SettlementStatusPayload}
    (hAnswer : (perform decision store (.paymentFindByIdAndUpdate text update)).2 =
      .ok (some updated))
    (hNow : now.request.settles = false) (hId : payload.paymentId = updated.id.toString)
    (hOld : ∀ key payment, ObjectId.cast? text = some key → store.livePayment key = some payment →
      payload.oldStatus = payment.status)
    (hNew : payload.newStatus = updated.status) :
    Accounts [⟨decision, store, .paymentFindByIdAndUpdate text update⟩, now,
      ⟨announcer, after, .emitPaymentStatusChange room payload⟩] := by
  obtain ⟨hFault, key, payment, hCast, hLive, rfl⟩ := of_answered_update hAnswer
  have hApplies : decision.applies = true := by rw [Decision.applies, hFault]
  have hKey : payment.id = key :=
    store.payments.key_of_get? (Option.filter_eq_some_iff.mp hLive).1
  rw [PaymentUpdate.apply_id, hKey] at hId
  rw [PaymentUpdate.apply_status] at hNew
  have hStatus := hOld key payment hCast hLive
  have hNowCommits (id : ObjectId) : committedChange id now = none :=
    committedChange_of_not_restates (not_restates_of_not_settles hNow)
  have hEmitCommits (id : ObjectId) :
      committedChange id ⟨announcer, after, .emitPaymentStatusChange room payload⟩ = none :=
    committedChange_of_not_restates fun h => h
  have hNowAnnounces (id : ObjectId) : announcedChange id now = none :=
    announcedChange_of_not_settles hNow
  have hEmitAnnounces (id : ObjectId) :
      announcedChange id ⟨announcer, after, .emitPaymentStatusChange room payload⟩ =
        if announcer.applies ∧ id = key ∧ payment.status ≠ update.target then
          some ⟨payment.status, update.target⟩
        else none := by
    simp only [announcedChange, hId, hNew, hStatus, ObjectId.toString_injective.eq_iff,
      eq_comm (a := key)]
  have hAnnounces : AnnouncesChanges [⟨decision, store, .paymentFindByIdAndUpdate text update⟩, now,
      ⟨announcer, after, .emitPaymentStatusChange room payload⟩] ↔
      (payment.status ≠ update.target → announcer.applies = true) := by
    simp only [AnnouncesChanges, List.filterMap_cons, List.filterMap_nil,
      committedChange_of_update hApplies hCast hLive, hNowCommits, hEmitCommits, hNowAnnounces,
      hEmitAnnounces, announcedChange_of_update]
    constructor
    · intro h hNe
      by_contra hSilent
      simpa [hNe, hSilent] using h key
    · intro h id
      by_cases hNe : payment.status = update.target
      · simp [hNe]
      · simp [hNe, h hNe]
  have hRestates : Restates ⟨decision, store, .paymentFindByIdAndUpdate text update⟩ ↔
      payment.status ≠ update.target := restates_update_iff hApplies hCast hLive
  have hThrough : GetsThrough ⟨decision, store, .paymentFindByIdAndUpdate text update⟩ := by
    intro error hLost
    rw [show decision.fault = none from hFault] at hLost
    cases hLost
  have hAnnouncer : GetsThrough ⟨announcer, after, .emitPaymentStatusChange room payload⟩ ↔
      announcer.applies = true := Iff.rfl
  have hNotEmit : ¬Restates ⟨announcer, after, .emitPaymentStatusChange room payload⟩ := fun h => h
  rw [Accounts, hAnnounces]
  simp only [List.mem_cons, List.not_mem_nil, or_false, exists_eq_or_imp, exists_eq_left,
    forall_eq_or_imp, forall_eq, hRestates, not_restates_of_not_settles hNow, hNotEmit, hThrough,
    getsThrough_of_not_settles hNow, hAnnouncer, true_and]

variable [StellarNetwork] {env : Nat → Decision}

/-- The announcement comes after one look at the clock. -/
theorem announceSettlement_steps (oldStatus : PaymentStatus) (updated : Payment)
    (env : Nat → Decision) (store : Store) :
    ∃ payload : SettlementStatusPayload, payload.paymentId = updated.id.toString ∧
      payload.oldStatus = oldStatus ∧ payload.newStatus = updated.status ∧
      (announceSettlement oldStatus updated).steps (W := backend) env store =
        [⟨env 0, store, .now⟩,
          ⟨env 1, store, .emitPaymentStatusChange updated.shipmentId.toString payload⟩] := by
  refine ⟨
    { paymentId := updated.id.toString
      shipmentId := updated.shipmentId.toString
      oldStatus
      newStatus := updated.status
      amount := updated.amount
      txHash := truthy updated.stellarTxHash
      timestamp := (env 0).now.toISOString }, rfl, rfl, rfl, ?_⟩
  rw [announceSettlement, currentDate, Program.steps_await_bind, backend_perform, perform_now]
  dsimp only
  rw [emitPaymentStatusChange, Program.steps_await_bind]
  cases (perform _ _ _).2 <;> rfl

/-- The second half of a service: update the payment, and announce the new status. -/
theorem accounts_of_update {oldStatus : PaymentStatus}
    {f : Option Payment → BackendM AugmentedPayment}
    (hNone : ∃ error, f none = throw error)
    (hSome : ∀ updated, f (some updated) = announceSettlement oldStatus updated)
    (hOld : ∀ key payment, ObjectId.cast? text = some key → store.livePayment key = some payment →
      oldStatus = payment.status) :
    Accounts ((request (.paymentFindByIdAndUpdate text update) >>= f).steps env store) := by
  obtain ⟨refusal, hNone⟩ := hNone
  rw [Program.steps_await_bind, backend_perform]
  cases hAnswer : (perform (env 0) store (.paymentFindByIdAndUpdate text update)).2 with
  | error failure => exact accounts_unanswered fun updated h => by rw [hAnswer] at h; cases h
  | ok found =>
      cases found with
      | none =>
          dsimp only
          rw [hNone]
          exact accounts_unanswered fun updated h => by rw [hAnswer] at h; cases h
      | some updated =>
          dsimp only
          rw [hSome]
          obtain ⟨payload, hId, hOldStatus, hNew, hSteps⟩ :=
            announceSettlement_steps oldStatus updated (fun n => env (n + 1))
              (perform (env 0) store (.paymentFindByIdAndUpdate text update)).1
          rw [hSteps]
          exact accounts_announced hAnswer rfl hId
            (fun key payment hCast hLive => hOldStatus.trans (hOld key payment hCast hLive)) hNew

omit [StellarNetwork] in
/-- A lookup leaves the store alone, and answers with the live payment. -/
theorem of_answered_lookup {found : Payment}
    (h : (perform decision store (.paymentFindById text)).2 = .ok (some found))
    {key : ObjectId} (hCast : ObjectId.cast? text = some key) :
    store.livePayment key = some found := by
  rw [perform_paymentFindById, hCast] at h
  cases hFault : decision.fault with
  | some fault => rw [hFault] at h; cases h
  | none =>
      rw [hFault] at h
      exact Except.ok.inj h

omit [StellarNetwork] in
/-- A service that looks a payment up, and then updates it. -/
theorem accounts_of_lookup {f : Option Payment → BackendM AugmentedPayment}
    (hNone : ∃ error, f none = throw error)
    (hSome : ∀ found env, (∀ key payment, ObjectId.cast? text = some key →
      store.livePayment key = some payment → found.status = payment.status) →
        Accounts ((f (some found)).steps env store)) :
    Accounts ((request (.paymentFindById text) >>= f).steps env store) := by
  obtain ⟨refusal, hNone⟩ := hNone
  rw [Program.steps_await_bind, backend_perform, accounts_cons_iff rfl]
  cases hAnswer : (perform (env 0) store (.paymentFindById text)).2 with
  | error failure => exact accounts_nil
  | ok found =>
      cases found with
      | none =>
          dsimp only
          rw [hNone]
          exact accounts_nil
      | some found =>
          rw [perform_paymentFindById]
          apply hSome
          intro key payment hCast hLive
          rw [of_answered_lookup hAnswer hCast] at hLive
          rw [Option.some.inj hLive]

theorem updatePaymentStatusService_accounts (id : String) (status : PaymentStatus)
    (stellarTxHash : Option String) (env : Nat → Decision) (store : Store) :
    Accounts ((updatePaymentStatusService id status stellarTxHash).steps env store) := by
  apply accounts_of_lookup ⟨_, rfl⟩
  intro found env hOld
  exact accounts_of_update ⟨_, rfl⟩ (fun _ => rfl) hOld

theorem disputeSettlementService_accounts (id reason : String) (notes : Option String)
    (env : Nat → Decision) (store : Store) :
    Accounts ((disputeSettlementService id reason notes).steps env store) := by
  apply accounts_of_lookup ⟨_, rfl⟩
  intro found env hOld
  simp only [disputePayment, currentDate, bind_assoc]
  rw [Program.steps_await_bind, backend_perform, perform_now, accounts_cons_iff rfl]
  exact accounts_of_update ⟨_, rfl⟩ (fun _ => rfl) hOld

omit [StellarNetwork] in
/-- What a request does besides makes no difference. -/
theorem accounts_of_bind {α β : Type} {p : BackendM α} {f : α → BackendM β}
    (h : Accounts (p.steps env store))
    (hRest : ∀ a, (f a).Uses fun call => call.settles = false) :
    Accounts ((p >>= f).steps env store) := by
  rcases hRun : p.run backend env store with ⟨store', outcome, env'⟩
  cases outcome with
  | error error => rwa [Program.steps_bind_error hRun]
  | ok a =>
      rw [Program.steps_bind_ok hRun, accounts_append_iff]
      · exact h
      · exact (hRest a).steps

omit [StellarNetwork] in
theorem recordSettlementCompleted_silent (paymentId transactionHash : String) :
    (recordSettlementCompleted paymentId transactionHash).Uses fun call =>
      call.settles = false := by
  apply Program.Uses.tryCatch
  · refine Program.Uses.bind (.await rfl) fun payment => ?_
    split
    · trivial
    · exact .bind (createLedgerBlock_holds (Program.Uses.compositional _) (.await rfl)
        fun _ _ _ _ => .await rfl) fun _ => trivial
  · exact fun _ => trivial

/-- The requests that are handled by the payment services account for what they do. -/
theorem SettlementRequest.accounts (settlementRequest : SettlementRequest) (env : Nat → Decision)
    (store : Store) : Accounts (settlementRequest.program.steps env store) := by
  have hUpdate (id : String) (status : PaymentStatus) (stellarTxHash : Option String) :=
    updatePaymentStatusService_accounts id status stellarTxHash env store
  cases settlementRequest with
  | update id status stellarTxHash => exact accounts_of_bind (hUpdate _ _ _) fun _ => trivial
  | webhook payload =>
      obtain ⟨type, paymentId, transactionHash⟩ := payload
      apply accounts_of_bind
      · cases type with
        | release =>
            apply accounts_of_bind (hUpdate _ _ _)
            exact fun _ => (recordSettlementCompleted_silent _ _).bind fun _ => trivial
        | escrow => exact accounts_of_bind (hUpdate _ _ _) fun _ => trivial
        | failed => exact accounts_of_bind (hUpdate _ _ _) fun _ => trivial
        | unknown text => exact accounts_nil
      · exact fun _ => trivial

end Services

section Runs

variable [Sha256] [StellarNetwork]

/-- The programs that announce no settlement. -/
abbrev Silent (α : Type) (p : BackendM α) : Prop :=
  p.Uses fun call => call.announcesSettlement = false

omit [StellarNetwork] in
/-- Neither kind of status request announces what it does to the payment. -/
theorem StatusRequest.program_silent (statusRequest : StatusRequest) :
    Silent _ statusRequest.program := by
  have hT : Program.Compositional Silent := Program.Uses.compositional _
  have hAside (call : BackendCall) (h : call.aside = true) : Silent _ (request call) :=
    Program.Uses.await (by cases call <;> first | rfl | cases h)
  apply statusRequest.program_holds hT hAside
  · exact fun _ => Program.Uses.await rfl
  · exact fun _ => Program.Uses.await rfl
  · exact fun _ _ => Program.Uses.await rfl
  · exact fun _ _ => Program.Uses.await rfl
  · exact fun _ _ _ => Program.Uses.await rfl
  · intro id status actor saved _
    exact settleDelivery_holds hT hAside (fun _ => Program.Uses.await rfl)
      (fun _ => Program.Uses.await rfl) (fun _ _ => Program.Uses.await rfl)
      fun _ _ => Program.Uses.await rfl
  · intro id updated
    exact settleBulkDelivery_holds hT (fun _ => Program.Uses.await rfl)
      (fun _ => Program.Uses.await rfl) fun _ _ => Program.Uses.await rfl

/-- One request announces the changes it commits exactly if it reports its restating. -/
theorem EscrowRequest.announcesChanges_iff (escrowRequest : EscrowRequest) (env : Nat → Decision)
    (store : Store) :
    AnnouncesChanges (escrowRequest.program.steps env store) ↔
      ReportsRestating escrowRequest (escrowRequest.program.steps env store) := by
  have hOther (h : ∀ statusRequest, escrowRequest ≠ .shipmentStatus statusRequest)
      (hAccounts : Accounts (escrowRequest.program.steps env store)) :
      AnnouncesChanges (escrowRequest.program.steps env store) ↔
        ReportsRestating escrowRequest (escrowRequest.program.steps env store) := by
    rw [Accounts] at hAccounts
    rw [hAccounts, ReportsRestating]
    exact ⟨fun hThrough hRestates => ⟨h, hThrough hRestates⟩,
      fun hReports hRestates => (hReports hRestates).2⟩
  cases escrowRequest with
  | shipmentStatus statusRequest =>
      rw [announcesChanges_iff_of_silent]
      · constructor
        · exact fun hNone hRestates => absurd hRestates hNone
        · exact fun hReports hRestates => (hReports hRestates).1 statusRequest rfl
      · intro step hStep id
        have hSilent : step.request.announcesSettlement = false :=
          statusRequest.program_silent.steps step hStep
        obtain ⟨decision, before, call⟩ := step
        cases call <;> first | rfl | cases hSilent
  | settlement settlementRequest =>
      exact hOther nofun (settlementRequest.accounts env store)
  | dispute id reason notes =>
      have hDispute := disputeSettlementService_accounts id reason notes env store
      exact hOther nofun (accounts_of_bind hDispute fun _ => trivial)

/-- In a run that handles one request after the other, every change of a payment's status
is announced exactly if no delivery gives a payment another status, and whatever else does
so hears of its update and can announce it. -/
theorem changes_announced_iff (requests : List EscrowRequest) (env : Nat → Decision)
    (store : Store) :
    (∀ turn ∈ Program.turns (W := backend) EscrowRequest.program requests env store,
      AnnouncesChanges turn.2) ↔
    ∀ turn ∈ Program.turns (W := backend) EscrowRequest.program requests env store,
      ReportsRestating turn.1 turn.2 := by
  have hTurns : ∀ turn ∈ Program.turns (W := backend) EscrowRequest.program requests env store,
      (AnnouncesChanges turn.2 ↔ ReportsRestating turn.1 turn.2) :=
    Program.forall_turns (P := fun request steps =>
      AnnouncesChanges steps ↔ ReportsRestating request steps) EscrowRequest.announcesChanges_iff
  exact forall₂_congr hTurns

end Runs

section Sample

/-- A request for the sample shipment on its last leg, with everything in order. -/
private def sampleDeliveryRun (escrowRequest : EscrowRequest) :
    List (EscrowRequest × List (Step backend)) :=
  Program.turns (@EscrowRequest.program sampleReleaseDigest ⟨false⟩) [escrowRequest]
    (fun n => { Decision.ok with
      receipt := ⟨"r1", 7, true⟩, freshId := .repeated (if n < 10 then 1 else 2) })
    { shipments := ⟨[{ sampleShipment with status := .outForDelivery }], outForDelivery_nodup⟩
      payments := ⟨[samplePayment], Collection.nodup_single _ _⟩ }

/-- A delivery releases the payment, and nothing announces it. -/
theorem release_unannounced : ¬∀ (_ : Sha256) (_ : StellarNetwork) (requests : List EscrowRequest)
    (env : Nat → Decision) (store : Store), (∀ n, (env n).fault = none) →
      ∀ turn ∈ Program.turns (W := backend) EscrowRequest.program requests env store,
        AnnouncesChanges turn.2 := by
  intro hClaim
  have hRun : ∀ turn ∈ sampleDeliveryRun
      (.shipmentStatus (.single sampleShipment.id.toString .delivered none)),
      AnnouncesChanges turn.2 :=
    hClaim sampleReleaseDigest ⟨false⟩ _ _ _ fun _ => rfl
  have hTurns : (sampleDeliveryRun
      (.shipmentStatus (.single sampleShipment.id.toString .delivered none))).map (fun turn =>
        (turn.2.filterMap (committedChange samplePayment.id),
          turn.2.filterMap (announcedChange samplePayment.id))) =
      [([⟨.escrowed, .released⟩], [])] := by
    decide +kernel
  obtain ⟨turn, hTurn, hChanges⟩ := List.mem_map.mp (hTurns ▸ List.mem_singleton_self _)
  have hAnnounced := hRun turn hTurn samplePayment.id
  rw [(Prod.mk.inj hChanges).1, (Prod.mk.inj hChanges).2] at hAnnounced
  cases hAnnounced

end Sample

end Navin
