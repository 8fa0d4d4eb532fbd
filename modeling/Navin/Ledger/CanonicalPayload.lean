import Navin.Backend.Effects
import Navin.Ledger.Writers
import Navin.Semantics.Protocol

/-! Can the hash of a ledger block be recomputed from the block? The writers put
the hashed payload into the metadata; the verification endpoint reads the field
`canonicalPayload`, which none of them sets. -/
namespace Navin

open Async

/-- The block carries a payload whose hash is the block's. -/
def LedgerBlock.CarriesPayload [Sha256] (block : LedgerBlock) : Prop :=
  ∃ payload, block.canonicalPayload = some payload ∧
    block.dataHash = some (generateDataHash payload)

/-- A block is created without a canonical payload. -/
def BackendCall.omitsPayload : BackendCall → Prop
  | .ledgerCreate fields => fields.canonicalPayload = none
  | _ => True

section Requests

variable [Sha256] [StellarNetwork]

theorem LedgerRequest.program_uses (ledgerRequest : LedgerRequest) :
    ledgerRequest.program.Uses BackendCall.omitsPayload := by
  have hT : Program.Compositional fun α (p : BackendM α) => p.Uses BackendCall.omitsPayload :=
    Program.Uses.compositional _
  have hAside : ∀ call : BackendCall, call.incidental →
      (request call).Uses BackendCall.omitsPayload := fun call h =>
    .await (by cases call <;> trivial)
  cases ledgerRequest with
  | shipmentStatus statusRequest =>
      refine statusRequest.program_holds hT
        (fun call h => hAside call (BackendCall.incidental_of_aside h)) (fun _ => .await trivial)
        (fun _ => .await trivial) (fun _ _ => .await trivial) (fun _ _ => .await trivial)
        (fun _ _ h => .await h) (fun _ _ _ _ _ => ?_) fun _ _ => ?_
      · exact settleDelivery_holds hT
          (fun call h => hAside call (BackendCall.incidental_of_aside h))
          (fun _ => .await trivial) (fun _ => .await trivial) (fun _ _ => .await trivial)
          fun _ h => .await h
      · exact settleBulkDelivery_holds hT (fun _ => .await trivial) (fun _ => .await trivial)
          fun _ _ => .await trivial
  | settlement settlementRequest =>
      exact settlementRequest.program_holds hT hAside (fun _ => .await trivial)
        (fun _ _ h => .await h) fun _ _ _ => .await trivial
  | proof id file recipientSignatureName notes actor =>
      refine .bind (.bind (storeFile_holds hT hAside (storageKey_holds hT hAside)) fun url =>
        .bind (.await trivial) fun now => .bind (.await trivial) fun updated => ?_) fun _ => .pure
      split
      · exact .throw
      · exact .bind (recordProofSubmitted_holds hT hAside fun _ h _ => .await h) fun _ =>
          .bind (auditAction_holds hT hAside) fun _ => .pure
  | create input actor =>
      exact .bind (createShipmentService_holds hT hAside (fun _ => .await trivial)
        (fun _ => .await trivial) fun _ _ => .await trivial) fun _ => .pure
  | index initialCursor limit =>
      refine .bind (indexStellarTransactions_holds hT hAside fun position => ?_) fun _ => .pure
      refine .bind (.await trivial) fun event => ?_
      split
      · exact .pure
      · refine .bind (.await trivial) fun _ => .bind (.await trivial) fun _ => .bind ?_ fun _ => .pure
        unfold saveCursor
        split
        · exact .pure
        · exact .await trivial

end Requests

variable {id : ObjectId} {block : LedgerBlock}

/-- A call that omits the payload gives no block one. -/
theorem canonicalPayload_of_perform {decision : Decision} {store : Store} {call : BackendCall}
    {old : ObjectId → Prop} (hOmits : call.omitsPayload)
    (inv : ∀ id block, store.ledgerBlock id = some block → ¬old id → block.canonicalPayload = none)
    (h : (perform decision store call).1.ledgerBlock id = some block) (hNew : ¬old id) :
    block.canonicalPayload = none := by
  cases blockOrigin_of_perform h with
  | kept hStored => exact inv id block hStored hNew
  | created hFresh => exact hOmits
  | rewritten hStored hHash hSet =>
      rename_i previous transactionHash upsert
      have hPrevious : previous.canonicalPayload = none := inv id previous hStored hNew
      rw [hSet]
      exact hPrevious
  | inserted hFresh hInsert =>
      rw [hInsert]
      rfl

/-- What the endpoint returns is read from the stored block. -/
theorem getLedgerBlockVerificationService_run {env : Nat → Decision} {store after : Store}
    {answer : LedgerBlockVerification} {rest : Nat → Decision}
    (h : (getLedgerBlockVerificationService id.toString).run backend env store =
      (after, .ok answer, rest)) :
    ∃ block, store.ledgerBlock id = some block ∧ answer = block.verification := by
  simp only [getLedgerBlockVerificationService, getLedgerBlockByIdService, getLedgerBlockById,
    request, Program.run_bind, Program.run_await] at h
  cases hFault : (env 0).fault with
  | some fault => simp [perform_of_fault hFault, recover] at h
  | none =>
      simp only [perform_of_fault_none hFault, execute, castingId, ObjectId.cast?_toString] at h
      cases hStored : store.ledgerBlock id with
      | none => simp [hStored] at h
      | some block =>
          refine ⟨block, rfl, ?_⟩
          simp only [hStored, Option.filter_some] at h
          by_cases hLive : block.deletedAt.isNone = true
          · rw [if_pos hLive] at h
            simp only [Program.run_pure, Prod.mk.injEq, Except.ok.injEq] at h
            exact h.2.1.symm
          · rw [if_neg hLive] at h
            simp at h

section Runs

variable {ι : Type} [DecidableEq ι] [Sha256] [StellarNetwork] {store : Store}
  {requests : ι → LedgerRequest} {reached : Point backend ι Unit}

/-- Over every interleaving of all requests that write ledger blocks: no block
they store carries a canonical payload, and the endpoint returns none for it. -/
theorem writtenBlock_not_recomputable
    (run : GuardedRun anyStep (ledgerPool store requests) reached)
    (hStored : Store.ledgerBlock reached.2.store id = some block)
    (hNew : store.ledgerBlock id = none) :
    ¬block.CarriesPayload ∧ ∀ env after answer rest,
      (getLedgerBlockVerificationService id.toString).run backend env reached.2.store =
        (after, .ok answer, rest) → answer.canonicalPayload = none := by
  have inv : ∀ id block, Store.ledgerBlock reached.2.store id = some block →
      ¬(store.ledgerBlock id).isSome → block.canonicalPayload = none :=
    run.invariant_of_uses (fun i => (requests i).program_uses)
      (fun after => ∀ id block, Store.ledgerBlock after id = some block →
        ¬(store.ledgerBlock id).isSome → block.canonicalPayload = none)
      (fun id block h hNew => absurd (Option.isSome_iff_exists.mpr ⟨block, h⟩) hNew)
      fun after decision call inv hOmits id block => canonicalPayload_of_perform hOmits inv
  have hNone : block.canonicalPayload = none := inv id block hStored (by simp [hNew])
  refine ⟨?_, fun env after answer rest hAnswer => ?_⟩
  · rintro ⟨payload, hPayload, -⟩
    rw [hNone] at hPayload
    cases hPayload
  · obtain ⟨found, hFound, rfl⟩ := getLedgerBlockVerificationService_run hAnswer
    obtain rfl := Option.some.inj (hFound.symm.trans hStored)
    exact hNone

end Runs

/-- The one text the status change below hashes. -/
abbrev sampleStatusDigest : Sha256 :=
  tabulatedSha256 [("\x7b\"actor\":null,\"event\":\"IN_TRANSIT\"," ++
    "\"metadata\":\x7b\"previousStatus\":\"CREATED\"\x7d,\"shipmentId\":\"" ++
    sampleShipment.id.toString ++ "\",\"timestamp\":\"1970-01-01T00:00:00.000Z\",\"v\":1\x7d",
    "ba3fff7870e4e02f915fdbcc30279c3f6723983a410b69fde0abf7d134c770e7")]

/-- The sample shipment is moved into transit. -/
def statusChangePool : Pool backend Unit Unit :=
  @ledgerPool sampleStatusDigest ⟨false⟩ Unit { shipments := ⟨[sampleShipment], Collection.nodup_single _ _⟩ }
    fun _ => .shipmentStatus (.single sampleShipment.id.toString .inTransit none)

/-- The run of that request up to and including its ledger block. -/
theorem statusChangePool_run : ∃ reached : Point backend Unit Unit,
    GuardedRun anyStep statusChangePool reached ∧
    ∃ block, Store.ledgerBlock reached.2.store block.id = some block ∧
      block.dataHash = some "ba3fff7870e4e02f915fdbcc30279c3f6723983a410b69fde0abf7d134c770e7" ∧
      block.canonicalPayload.isNone := by
  obtain ⟨reached, run, hTest⟩ := Pool.exists_run anyStep statusChangePool
    (fun point => point.2.store.ledgerBlocks.docs.any fun block =>
      block.dataHash = some "ba3fff7870e4e02f915fdbcc30279c3f6723983a410b69fde0abf7d134c770e7" &&
        block.canonicalPayload.isNone)
    (List.replicate 8 (Decision.ok, ())) (by decide +kernel)
  simp only [List.any_eq_true, Bool.and_eq_true, decide_eq_true_eq] at hTest
  obtain ⟨block, hMem, hHash, hNone⟩ := hTest
  exact ⟨reached, run, block, reached.2.store.ledgerBlocks.get?_of_mem hMem, hHash, hNone⟩

/-- On that run the theorem speaks of a block that has a hash. -/
theorem writtenBlock_not_recomputable_sample : ∃ reached : Point backend Unit Unit,
    GuardedRun anyStep statusChangePool reached ∧
    ∃ block, Store.ledgerBlock reached.2.store block.id = some block ∧
      block.dataHash.isSome ∧ ¬@LedgerBlock.CarriesPayload sampleStatusDigest block := by
  obtain ⟨reached, run, block, hStored, hHash, -⟩ := statusChangePool_run
  exact ⟨reached, run, block, hStored, by rw [hHash]; rfl,
    (@writtenBlock_not_recomputable _ _ _ _ sampleStatusDigest ⟨false⟩ _ _ _ run hStored rfl).1⟩

/-- The status change stores a block with a hash and no payload. -/
theorem statusChange_stores_no_payload :
    ¬∀ reached : Point backend Unit Unit, GuardedRun anyStep statusChangePool reached →
      ∀ id block, Store.ledgerBlock reached.2.store id = some block → block.dataHash.isSome →
        @LedgerBlock.CarriesPayload sampleStatusDigest block := by
  intro law
  obtain ⟨reached, run, block, hStored, hHash, hNone⟩ := statusChangePool_run
  obtain ⟨payload, hPayload, -⟩ := law reached run block.id block hStored (by rw [hHash]; rfl)
  rw [hPayload] at hNone
  cases hNone

end Navin
