import Mathlib.Data.Fintype.Basic
import Navin.Backend.Effects
import Navin.Semantics.Protocol
import Navin.Shipments.StatusCalls
import Navin.Webhooks.StellarService

/-! Is escrow released once, and only while the payment awaits it? A delivery
looks the payment up, submits the release whatever it found, and marks the
payment afterwards. Deliveries of both paths, settlement updates, webhooks and
disputes overlap here in any number. -/
namespace Navin

open Async

/-- Statuses of a payment whose escrow may still be released. -/
def PaymentStatus.awaitsRelease : PaymentStatus → Bool
  | .pending | .escrowed => true
  | .released | .failed | .disputed => false

/-- The calls that neither look a payment up for release nor release it. -/
def BackendCall.ignoresEscrow : BackendCall → Bool
  | .paymentFindByShipmentId _ | .releaseEscrow _ => false
  | _ => true

/-- A request submits the release of the payment it last looked up for a
shipment, and only once. What the payment's status was does not matter. -/
def releasesWhatItFound : Protocol BackendCall BackendCall.Answer ThrownError (Option Payment) where
  allows found call := ∀ input, call = .releaseEscrow input →
    found.map (·.id.toString) = some input.paymentId
  next found call response :=
    match call, response with
    | .paymentFindByShipmentId _, .ok payment => payment
    | .paymentFindByShipmentId _, .error _ => none
    | .releaseEscrow _, _ => none
    | _, _ => found

variable {found : Option Payment} {id paymentId : String} {status : ShipmentStatus}
  {actor : Option String} {shipment : Shipment} {milestone : Milestone}

private theorem unmoved_of_ignoresEscrow {call : BackendCall} (h : call.ignoresEscrow = true) :
    releasesWhatItFound.allows found call ∧
      ∀ response, releasesWhatItFound.next found call response = found := by
  refine ⟨?_, fun response => ?_⟩
  · rintro input rfl
    cases h
  · cases call <;> first | rfl | cases h

/-- Nothing awaits submission when the program begins, nor when it ends. -/
abbrev FollowsReleases (α : Type) (p : BackendM α) : Prop :=
  p.Follows releasesWhatItFound (fun found _ => found = none) none

theorem followsReleases_compositional : Program.Compositional FollowsReleases :=
  Program.Follows.compositional releasesWhatItFound none

theorem followsReleases_of_ignoresEscrow {call : BackendCall} (h : call.ignoresEscrow = true) :
    FollowsReleases _ (request call) :=
  Program.follows_await.mpr (unmoved_of_ignoresEscrow h)

theorem followsReleases_of_incidental (call : BackendCall) (h : call.incidental = true) :
    FollowsReleases _ (request call) := by
  refine followsReleases_of_ignoresEscrow ?_
  cases call <;> first | rfl | cases h

section Deliveries

variable [Sha256]

/-- The shape both delivery paths share: look up, submit, carry on. -/
private theorem lookup_then_release {α : Type} {shipmentId : String} {nothing : α}
    {afterRelease : Payment → ChainReceipt → BackendM α}
    (hRest : ∀ payment released, FollowsReleases _ (afterRelease payment released)) :
    FollowsReleases _ (do
      let payment ← getPaymentByShipmentId shipmentId
      match payment with
      | none => return nothing
      | some payment =>
          let released ← releaseEscrowOnDelivery shipment payment.id.toString
          afterRelease payment released) := by
  refine Program.follows_bind.mpr (Program.follows_await.mpr ⟨nofun, fun response => ?_⟩)
  cases response with
  | error error => rfl
  | ok payment =>
      cases payment with
      | none => rfl
      | some payment =>
          refine Program.follows_bind.mpr (Program.follows_await.mpr ⟨?_, fun response => ?_⟩)
          · rintro input h
            cases h
            rfl
          · cases response with
            | error error => rfl
            | ok released => exact hRest payment released

theorem settleDelivery_follows : FollowsReleases _ (settleDelivery id shipment actor) := by
  have hT := followsReleases_compositional
  refine hT.tryCatch (lookup_then_release fun payment released => ?_) fun _ => hT.pure _
  refine hT.bind (loggingFailure_holds hT ?_) fun _ => hT.pure _
  refine hT.bind (followsReleases_of_ignoresEscrow rfl) fun _ => ?_
  exact recordSettlementInitiated_holds hT
    (fun call h => followsReleases_of_incidental call (BackendCall.incidental_of_aside h))
    fun _ _ => followsReleases_of_ignoresEscrow rfl

theorem settleBulkDelivery_follows : FollowsReleases _ (settleBulkDelivery id shipment) := by
  have hT := followsReleases_compositional
  refine hT.tryCatch (lookup_then_release fun payment released => ?_) fun _ => hT.pure _
  exact hT.bind (followsReleases_of_ignoresEscrow rfl) fun _ => hT.pure _

end Deliveries

section Requests

variable [Sha256] [StellarNetwork]

/-- Everything that touches payments while shipments are delivered. -/
inductive EscrowRequest where
  | shipmentStatus (request : StatusRequest)
  | settlement (request : SettlementRequest)
  | dispute (id reason : String) (notes : Option String)

def EscrowRequest.program : EscrowRequest → BackendM Unit
  | .shipmentStatus request => request.program
  | .settlement request => request.program
  | .dispute id reason notes => do
      let _ ← disputeSettlementService id reason notes

theorem EscrowRequest.program_follows (escrowRequest : EscrowRequest) :
    FollowsReleases _ escrowRequest.program := by
  have hT := followsReleases_compositional
  have hAside := followsReleases_of_incidental
  cases escrowRequest with
  | shipmentStatus statusRequest =>
      exact statusRequest.program_holds hT
        (fun call h => hAside call (BackendCall.incidental_of_aside h))
        (fun _ => followsReleases_of_ignoresEscrow rfl)
        (fun _ => followsReleases_of_ignoresEscrow rfl)
        (fun _ _ => followsReleases_of_ignoresEscrow rfl)
        (fun _ _ => followsReleases_of_ignoresEscrow rfl)
        (fun _ _ _ => followsReleases_of_ignoresEscrow rfl)
        (fun _ _ _ _ _ => settleDelivery_follows) fun _ _ => settleBulkDelivery_follows
  | settlement settlementRequest =>
      exact settlementRequest.program_holds hT hAside
        (fun _ => followsReleases_of_ignoresEscrow rfl)
        (fun _ _ _ => followsReleases_of_ignoresEscrow rfl)
        fun _ _ _ => followsReleases_of_ignoresEscrow rfl
  | dispute id reason notes =>
      exact hT.bind (disputeSettlementService_holds hT hAside
        (followsReleases_of_ignoresEscrow rfl) fun _ => followsReleases_of_ignoresEscrow rfl)
        fun _ => hT.pure _

/-- Any number of requests about to start over one store. -/
def escrowPool {ι : Type} (store : Store) (requests : ι → EscrowRequest) : Pool backend ι Unit :=
  ⟨store, fun i => (requests i).program⟩

end Requests

section Runs

variable {ι : Type}

/-- The payments whose release has been submitted, latest first. -/
def submissions (history : List (BackendEvent ι)) : List String :=
  history.filterMap fun event =>
    match event.request with
    | .releaseEscrow input => some input.paymentId
    | _ => none

/-- The payments that deliveries have found, latest first. -/
def foundPayments (history : List (BackendEvent ι)) : List ObjectId :=
  history.filterMap fun event =>
    match event with
    | ⟨_, .paymentFindByShipmentId _, .ok payment⟩ => payment.map (·.id)
    | _ => none

variable [DecidableEq ι]

/-- The payment request `i` has found and not yet submitted. -/
def awaiting (history : List (BackendEvent ι)) (i : ι) : Option Payment :=
  releasesWhatItFound.after (fun _ => none) history i

/-- A delivery finds only a payment that awaits its release and that no other
delivery has found; nobody takes that status from the payment before the
delivery has submitted. -/
def ReleasesUndisturbed : Guard backend ι := fun history store _ call =>
  match call with
  | .paymentFindByShipmentId shipmentId =>
      ∀ payment ∈ (ObjectId.cast? shipmentId).bind (Store.paymentOfShipment store),
        payment.status.awaitsRelease ∧ payment.id ∉ foundPayments history
  | .paymentFindByIdAndUpdate id update =>
      update.target.awaitsRelease ∨
        ∀ j, ∀ payment ∈ awaiting history j, ObjectId.cast? id ≠ some payment.id
  | _ => True

instance [Fintype ι] (history : List (BackendEvent ι)) (store : Store) (i : ι)
    (call : BackendCall) : Decidable (ReleasesUndisturbed history store i call) := by
  unfold ReleasesUndisturbed
  split <;> infer_instance

/-- A submitted release is the payment's first, and the stored payment awaits it. -/
def EscrowLaw (before after : Point backend ι Unit) : Prop :=
  ∀ paymentId, submissions after.1 = paymentId :: submissions before.1 →
    paymentId ∉ submissions before.1 ∧
      ∃ id status, paymentId = ObjectId.toString id ∧
        Store.paymentStatus before.2.store id = some status ∧ status.awaitsRelease

/-- What every point of an undisturbed run satisfies. A payment awaiting
submission still has the status it was found with, it was found by one request
only, and it has not been submitted. -/
structure EscrowInv (history : List (BackendEvent ι)) (store : Store) : Prop where
  status : ∀ i payment, awaiting history i = some payment →
    ∃ status, store.paymentStatus payment.id = some status ∧ status.awaitsRelease
  exclusive : ∀ i j payment other, awaiting history i = some payment →
    awaiting history j = some other → payment.id = other.id → i = j
  unsubmitted : ∀ i payment, awaiting history i = some payment →
    payment.id.toString ∉ submissions history
  found : ∀ i payment, awaiting history i = some payment → payment.id ∈ foundPayments history
  submitted : ∀ paymentId ∈ submissions history,
    ∃ id ∈ foundPayments history, paymentId = id.toString
  nodup : (submissions history).Nodup

theorem EscrowInv.start (store : Store) : EscrowInv ([] : List (BackendEvent ι)) store where
  status _ _ h := by cases h
  exclusive _ _ _ _ h := by cases h
  unsubmitted _ _ h := by cases h
  found _ _ h := by cases h
  submitted _ h := by cases h
  nodup := .nil

theorem awaiting_cons (event : BackendEvent ι) (history : List (BackendEvent ι)) (i : ι) :
    awaiting (event :: history) i =
      if i = event.thread then
        releasesWhatItFound.next (awaiting history event.thread) event.request event.response
      else awaiting history i :=
  Function.update_apply _ _ _ _

variable {history : List (BackendEvent ι)} {store : Store} {decision : Decision} {i : ι}

/-- Calls outside the release only matter through the stored status. -/
theorem EscrowInv.step_ignoring {call : BackendCall} (inv : EscrowInv history store)
    (hIgnores : call.ignoresEscrow = true) (hGuard : ReleasesUndisturbed history store i call) :
    EscrowInv (⟨i, call, (perform decision store call).2⟩ :: history)
      (perform decision store call).1 := by
  have hAwaiting : ∀ j, awaiting (⟨i, call, (perform decision store call).2⟩ :: history) j =
      awaiting history j := by
    intro j
    rw [awaiting_cons]
    split
    · rename_i h
      rw [h]
      exact (unmoved_of_ignoresEscrow hIgnores).2 _
    · rfl
  have hSubmissions : submissions (⟨i, call, (perform decision store call).2⟩ :: history) =
      submissions history := by
    cases call <;> first | rfl | cases hIgnores
  have hFound : foundPayments (⟨i, call, (perform decision store call).2⟩ :: history) =
      foundPayments history := by
    cases call <;> first | rfl | cases hIgnores
  refine ⟨fun j payment h => ?_, ?_, ?_, ?_, ?_, ?_⟩
  · rw [hAwaiting] at h
    obtain ⟨status, hStatus, hAwaits⟩ := inv.status j payment h
    rcases paymentStatus_of_perform decision store call payment.id with
      hSame | ⟨text, update, rfl, hCast, hUpdated⟩
    · exact ⟨status, hSame.trans hStatus, hAwaits⟩
    · rcases hGuard with hTarget | hNobody
      · exact ⟨_, by rw [hUpdated, hStatus]; rfl, hTarget⟩
      · exact absurd hCast (hNobody j payment h)
  · simpa only [hAwaiting] using inv.exclusive
  · simpa only [hAwaiting, hSubmissions] using inv.unsubmitted
  · simpa only [hAwaiting, hFound] using inv.found
  · simpa only [hSubmissions, hFound] using inv.submitted
  · simpa only [hSubmissions] using inv.nodup

/-- A lookup may add the payment it finds to those awaiting submission. -/
theorem EscrowInv.step_lookup {shipmentId : String} (inv : EscrowInv history store)
    (hGuard : ReleasesUndisturbed history store i (.paymentFindByShipmentId shipmentId)) :
    EscrowInv (⟨i, .paymentFindByShipmentId shipmentId,
        (perform decision store (.paymentFindByShipmentId shipmentId)).2⟩ :: history)
      (perform decision store (.paymentFindByShipmentId shipmentId)).1 := by
  obtain ⟨hStore, hAnswer⟩ := perform_paymentFindByShipmentId decision store shipmentId
  rw [hStore]
  generalize (perform decision store (.paymentFindByShipmentId shipmentId)).2 = response at *
  let event : BackendEvent ι := ⟨i, .paymentFindByShipmentId shipmentId, response⟩
  -- What the response adds is fresh, and it still awaits its release.
  have hNew : ∀ payment, response = .ok (some payment) →
      payment.status.awaitsRelease ∧ payment.id ∉ foundPayments history ∧
        store.paymentStatus payment.id = some payment.status := by
    intro payment h
    have hMem := hAnswer payment h
    obtain ⟨id, -, hOf⟩ := Option.bind_eq_some_iff.mp hMem
    exact ⟨(hGuard payment hMem).1, (hGuard payment hMem).2,
      Store.paymentStatus_of_paymentOfShipment hOf⟩
  have hAwaiting : ∀ j payment, awaiting (event :: history) j = some payment →
      (j = i ∧ response = .ok (some payment)) ∨ (j ≠ i ∧ awaiting history j = some payment) := by
    intro j payment h
    rw [awaiting_cons] at h
    split at h
    · rename_i hThread
      cases response with
      | error error => cases h
      | ok answer => exact .inl ⟨hThread, congrArg Except.ok h⟩
    · rename_i hThread
      exact .inr ⟨hThread, h⟩
  have hFound : ∀ id ∈ foundPayments history, id ∈ foundPayments (event :: history) := by
    intro id hMem
    obtain ⟨old, hOld, hId⟩ := List.mem_filterMap.mp hMem
    exact List.mem_filterMap.mpr ⟨old, List.mem_cons_of_mem _ hOld, hId⟩
  refine ⟨fun j payment h => ?_, fun j k payment other h hOther hId => ?_, fun j payment h => ?_,
    fun j payment h => ?_, fun paymentId h => ?_, inv.nodup⟩
  · rcases hAwaiting j payment h with ⟨-, hResponse⟩ | ⟨-, hOld⟩
    · exact ⟨_, (hNew payment hResponse).2.2, (hNew payment hResponse).1⟩
    · exact inv.status j payment hOld
  · rcases hAwaiting j payment h with ⟨rfl, hResponse⟩ | ⟨-, hOld⟩ <;>
      rcases hAwaiting k other hOther with ⟨rfl, hResponse'⟩ | ⟨-, hOld'⟩
    · rfl
    · exact absurd (hId ▸ inv.found k other hOld') (hNew payment hResponse).2.1
    · exact absurd (hId ▸ inv.found j payment hOld) (hNew other hResponse').2.1
    · exact inv.exclusive j k payment other hOld hOld' hId
  · rcases hAwaiting j payment h with ⟨-, hResponse⟩ | ⟨-, hOld⟩
    · intro hSubmitted
      obtain ⟨id, hMem, hText⟩ := inv.submitted _ hSubmitted
      exact (hNew payment hResponse).2.1 (ObjectId.toString_injective hText ▸ hMem)
    · exact inv.unsubmitted j payment hOld
  · rcases hAwaiting j payment h with ⟨-, rfl⟩ | ⟨-, hOld⟩
    · exact List.mem_filterMap.mpr ⟨event, List.mem_cons_self, rfl⟩
    · exact hFound _ (inv.found j payment hOld)
  · obtain ⟨id, hMem, hText⟩ := inv.submitted paymentId h
    exact ⟨id, hFound id hMem, hText⟩

/-- A submission takes its payment out of those awaiting. -/
theorem EscrowInv.step_release {input : ReleaseEscrowInput} (inv : EscrowInv history store)
    (hAllows : releasesWhatItFound.allows (awaiting history i) (.releaseEscrow input)) :
    EscrowInv (⟨i, .releaseEscrow input, (perform decision store (.releaseEscrow input)).2⟩ ::
        history) (perform decision store (.releaseEscrow input)).1 := by
  obtain ⟨released, hReleased, hText⟩ := Option.map_eq_some_iff.mp (hAllows input rfl)
  generalize (perform decision store (.releaseEscrow input)).2 = response
  have hAwaiting : ∀ j payment,
      awaiting (⟨i, .releaseEscrow input, response⟩ :: history) j = some payment →
        j ≠ i ∧ awaiting history j = some payment := by
    intro j payment h
    rw [awaiting_cons] at h
    split at h
    · cases h
    · rename_i hThread
      exact ⟨hThread, h⟩
  refine ⟨fun j payment h => ?_, fun j k payment other h hOther => ?_, fun j payment h => ?_,
    fun j payment h => ?_, fun paymentId h => ?_, ?_⟩
  · obtain ⟨status, hStatus⟩ := inv.status j payment (hAwaiting j payment h).2
    have hPayments : (perform decision store (.releaseEscrow input)).1.payments =
        store.payments := perform_payments rfl
    exact ⟨status, by simpa only [Store.paymentStatus, Store.payment, hPayments] using hStatus⟩
  · exact inv.exclusive j k payment other (hAwaiting j payment h).2 (hAwaiting k other hOther).2
  · obtain ⟨hThread, hOld⟩ := hAwaiting j payment h
    intro hSubmitted
    rcases List.mem_cons.mp hSubmitted with hSame | hEarlier
    · have hId := ObjectId.toString_injective (hSame.trans hText.symm)
      exact hThread (inv.exclusive j i payment released hOld hReleased hId)
    · exact inv.unsubmitted j payment hOld hEarlier
  · exact inv.found j payment (hAwaiting j payment h).2
  · rcases List.mem_cons.mp h with rfl | hEarlier
    · exact ⟨released.id, inv.found i released hReleased, hText.symm⟩
    · exact inv.submitted paymentId hEarlier
  · exact List.nodup_cons.mpr ⟨hText ▸ inv.unsubmitted i released hReleased, inv.nodup⟩

section Safety

variable [Sha256] [StellarNetwork] {requests : ι → EscrowRequest}
  {before after : Point backend ι Unit}

theorem escrowInv_of_run (run : GuardedRun ReleasesUndisturbed (escrowPool store requests) before) :
    EscrowInv before.1 before.2.store := by
  refine GuardedRun.invariant releasesWhatItFound (fun _ => none) run
    (fun i => (requests i).program_follows) EscrowInv (.start store) ?_
  intro history store decision i call inv hAllows hGuard
  cases hIgnores : call.ignoresEscrow with
  | true => exact inv.step_ignoring hIgnores hGuard
  | false =>
      cases call with
      | paymentFindByShipmentId shipmentId => exact inv.step_lookup hGuard
      | releaseEscrow input => exact inv.step_release hAllows
      | _ => cases hIgnores

/-- Over any interleaving of deliveries, settlement updates, webhooks and
disputes in which the releases are not disturbed: no payment is submitted for
release twice, and at every submission the stored payment still awaits it. -/
theorem escrow_released_once
    (run : GuardedRun ReleasesUndisturbed (escrowPool store requests) before) :
    (submissions before.1).Nodup ∧
      (GuardedStep ReleasesUndisturbed before after → EscrowLaw before after) := by
  have inv := escrowInv_of_run run
  refine ⟨inv.nodup, fun step paymentId hSubmitted => ?_⟩
  obtain ⟨decision, i, call, next, hThread, -, hHistory, -⟩ := step.cases
  have hAllows := run.allows releasesWhatItFound (fun _ => none)
    (fun i => (requests i).program_follows) hThread
  rw [hHistory] at hSubmitted
  cases call with
  | releaseEscrow input =>
      obtain ⟨released, hReleased, hText⟩ := Option.map_eq_some_iff.mp (hAllows input rfl)
      obtain rfl : input.paymentId = paymentId := (List.cons.inj hSubmitted).1
      obtain ⟨status, hStatus⟩ := inv.status i released hReleased
      exact ⟨hText ▸ inv.unsubmitted i released hReleased, released.id, status, hText.symm, hStatus⟩
  | _ => exact absurd hSubmitted.symm (List.cons_ne_self _ _)

end Safety

end Runs

/-- One bulk request delivers the sample shipment, nothing else goes on. -/
def oneDelivery : Unit → EscrowRequest := fun _ =>
  .shipmentStatus (.bulk [sampleShipment.id.toString] .delivered
    sampleShipment.enterpriseId.toString none)

/-- The one text a release of the sample payment hashes. -/
abbrev sampleReleaseDigest : Sha256 :=
  tabulatedSha256 [("\x7b\"deliveryProofUrl\":null,\"paymentId\":\"" ++
    samplePayment.id.toString ++ "\",\"shipmentId\":\"" ++ sampleShipment.id.toString ++ "\"\x7d",
    "cb6ec36e07e7924b4a4c9ad5e16e7d34ccf4e6951b3baac0d6525c7d2d9ef435")]

def deliveryPool (status : PaymentStatus) : Pool backend Unit Unit :=
  @escrowPool sampleReleaseDigest ⟨false⟩ Unit
    { shipments := ⟨[{ sampleShipment with status := .outForDelivery }], outForDelivery_nodup⟩
      payments := ⟨[{ samplePayment with status }], by simp⟩ }
    oneDelivery

/-- On a run that releases the escrowed payment, the law is the theorem's. -/
theorem escrow_released_once_sample :
    ∃ before after : Point backend Unit Unit,
      GuardedRun ReleasesUndisturbed (deliveryPool .escrowed) before ∧
      submissions after.1 = [samplePayment.id.toString] ∧ EscrowLaw before after := by
  obtain ⟨before, run, hNext⟩ := Pool.exists_run ReleasesUndisturbed (deliveryPool .escrowed)
    (fun point => (Pool.runSchedule ReleasesUndisturbed [(Decision.ok, ())] point).any
      fun next => submissions next.1 = [samplePayment.id.toString])
    (List.replicate 5 (Decision.ok, ())) (by decide +kernel)
  rw [Option.any_eq_true] at hNext
  obtain ⟨after, hAfter, hReleased⟩ := hNext
  exact ⟨before, after, run, of_decide_eq_true hReleased,
    (@escrow_released_once _ _ _ sampleReleaseDigest ⟨false⟩ _ _ _ run).2
      (Pool.runSchedule_step hAfter)⟩

/-- The delivery finds the disputed payment and submits its release. -/
theorem delivery_releases_disputed_payment :
    ¬∀ before after : Point backend Unit Unit,
      GuardedRun anyStep (deliveryPool .disputed) before →
      GuardedStep anyStep before after → EscrowLaw before after := by
  intro law
  obtain ⟨before, run, hTest⟩ := Pool.exists_run anyStep (deliveryPool .disputed)
    (fun point => submissions point.1 = [] &&
      Store.paymentStatus point.2.store samplePayment.id = some .disputed &&
      (Pool.runSchedule anyStep
        [({ Decision.ok with receipt := ⟨"r1", 7, true⟩ }, ())] point).any fun next =>
        submissions next.1 = [samplePayment.id.toString] &&
          (Store.transaction next.2.store "r1").isSome)
    (List.replicate 5 (Decision.ok, ())) (by decide +kernel)
  simp only [Bool.and_eq_true, decide_eq_true_eq, Option.any_eq_true] at hTest
  obtain ⟨⟨hNone, hDisputed⟩, after, hAfter, hReleased, -⟩ := hTest
  obtain ⟨-, id, status, hText, hStatus, hAwaits⟩ :=
    law before after run (Pool.runSchedule_step hAfter) _ (hReleased.trans (by rw [hNone]))
  obtain rfl := ObjectId.toString_injective hText
  obtain rfl : status = .disputed := Option.some.inj (hStatus.symm.trans hDisputed)
  cases hAwaits

end Navin
