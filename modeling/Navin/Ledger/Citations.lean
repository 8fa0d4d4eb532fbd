import Navin.Backend.Effects
import Navin.Ledger.Writers
import Navin.Semantics.Protocol

/-! Does the transaction a ledger block cites commit the hash the block stores?
The indexer writes what an event reports. A delivery cites the escrow release,
which commits the hash of another payload; a proof cites whatever transaction
the shipment carries. -/
namespace Navin

open Async

/-- The transaction was submitted with, or reported with, this digest. -/
def Store.Committed (store : Store) (transactionHash dataHash : String) : Prop :=
  (∃ tx, store.transaction transactionHash = some tx ∧ tx.digest = some dataHash) ∨
    ∃ event ∈ store.reported, event.txHash = transactionHash ∧ event.digest = some dataHash

/-- A block with both hashes cites a transaction that commits its data hash. -/
def Store.CitesRightly (store : Store) (block : LedgerBlock) : Prop :=
  ∀ transactionHash dataHash, block.transactionHash = some transactionHash →
    block.dataHash = some dataHash → store.Committed transactionHash dataHash

theorem Store.CitesRightly.mono {before after : Store} {block : LedgerBlock}
    (h : before.CitesRightly block) (hGrows : before.ChainGrows after) :
    after.CitesRightly block := by
  intro transactionHash dataHash hTransaction hData
  rcases h transactionHash dataHash hTransaction hData with
    ⟨tx, hTx, hDigest⟩ | ⟨event, hEvent, hSame, hDigest⟩
  · exact .inl ⟨tx, hGrows.1 _ _ hTx, hDigest⟩
  · exact .inr ⟨event, hGrows.2 _ hEvent, hSame, hDigest⟩

/-- What a request has learned that bears on citations. -/
structure CitationState where
  single : Bool
  mayCite : Bool := false
  streamed : Option ChainEvent := none

/-- A block with both hashes is created only by a single-path delivery that has
found a payment, or for a proof of a shipment that carries a transaction; the
indexer writes what it was last told. -/
def citesWithCause : Protocol BackendCall BackendCall.Answer ThrownError CitationState where
  allows state call :=
    match call with
    | .ledgerCreate fields =>
        fields.transactionHash = none ∨ fields.dataHash = none ∨ state.mayCite = true
    | .ledgerUpsert transactionHash upsert => ∃ event, state.streamed = some event ∧
        transactionHash = event.txHash ∧
          ∀ hash, upsert.dataHash = some hash → event.digest = some hash
    | _ => True
  next state call response :=
    match call, response with
    | .paymentFindByShipmentId _, .ok (some _) =>
        { state with mayCite := state.mayCite || state.single }
    | .shipmentFindByIdAndUpdate _ (.deliveryProof _), .ok (some shipment) =>
        { state with mayCite := state.mayCite || (truthy shipment.stellarTxHash).isSome }
    | .streamEvent _, .ok (some event) => { state with streamed := some event }
    | _, _ => state

/-- The program cites with cause from every state in `I`, and ends in one. -/
abbrev CitesWithin (I : CitationState → Prop) (α : Type) (p : BackendM α) : Prop :=
  ∀ state, I state → p.Follows citesWithCause (fun state _ => I state) state

/-- Once in `I`, no answer leads out of it. -/
def Closed (I : CitationState → Prop) : Prop :=
  ∀ state (call : BackendCall) (response : Except ThrownError call.Answer), I state →
    I (citesWithCause.next state call response)

/-- The requests of one kind. -/
def OfKind (single : Bool) (state : CitationState) : Prop :=
  state.single = single

/-- The single-path requests and proof uploads that may cite. -/
def MayCite (single : Bool) (state : CitationState) : Prop :=
  state.single = single ∧ state.mayCite = true

variable {single : Bool}

theorem ofKind_closed : Closed (OfKind single) := by
  intro state call response h
  simp only [OfKind, citesWithCause] at h ⊢
  split <;> exact h

theorem mayCite_closed : Closed (MayCite single) := by
  intro state call response h
  simp only [MayCite, citesWithCause] at h ⊢
  split <;> simp [h]

theorem citesWithin_call {I : CitationState → Prop} (hClosed : Closed I) {call : BackendCall}
    (hAllows : ∀ state, I state → citesWithCause.allows state call) :
    CitesWithin I _ (request call) := fun state hState =>
  Program.follows_await.mpr ⟨hAllows state hState, fun response =>
    hClosed state call response hState⟩

/-- Calls that write no block need no cause. -/
theorem citesWithin_of_writesLedger {I : CitationState → Prop} (hClosed : Closed I)
    {call : BackendCall} (h : call.writesLedger = false) : CitesWithin I _ (request call) :=
  citesWithin_call hClosed fun _ _ => by cases call <;> trivial

theorem citesWithin_incidental {I : CitationState → Prop} (hClosed : Closed I)
    (call : BackendCall) (h : call.incidental = true) : CitesWithin I _ (request call) :=
  citesWithin_of_writesLedger hClosed (by cases call <;> first | rfl | cases h)

theorem citesWithin_compositional (I : CitationState → Prop) :
    Program.Compositional (CitesWithin I) :=
  Program.Follows.compositional_within _ _

section Requests

variable [Sha256] {id : String} {shipment : Shipment} {actor : Option String}

/-- A delivery that finds a payment may cite its release. -/
theorem settleDelivery_cites :
    CitesWithin (OfKind true) _ (settleDelivery id shipment actor) := by
  refine (citesWithin_compositional _).tryCatch (fun state hState => ?_) fun _ =>
    (citesWithin_compositional _).pure _
  refine Program.follows_bind.mpr (Program.follows_await.mpr ⟨trivial, fun response => ?_⟩)
  cases response with
  | error error => exact ofKind_closed state _ _ hState
  | ok found =>
      cases found with
      | none => exact ofKind_closed state (.paymentFindByShipmentId _) (.ok none) hState
      | some payment =>
          have hMayCite : MayCite true (citesWithCause.next state
              (.paymentFindByShipmentId shipment.id.toString) (.ok (some payment))) := by
            simp only [OfKind] at hState
            simp [citesWithCause, MayCite, hState]
          have hT := citesWithin_compositional (MayCite true)
          have hRest : CitesWithin (MayCite true) _ (do
              let released ← releaseEscrowOnDelivery shipment payment.id.toString
              loggingFailure do
                let _ ← updatePaymentStatus payment.id.toString .released (some released.txHash)
                recordSettlementInitiated id payment.id.toString actor released
              return some released.simulated) := by
            refine hT.bind (citesWithin_of_writesLedger mayCite_closed rfl) fun released =>
              hT.bind (loggingFailure_holds hT ?_) fun _ => hT.pure _
            refine hT.bind (citesWithin_of_writesLedger mayCite_closed rfl) fun _ => ?_
            exact recordSettlementInitiated_holds hT (fun call h =>
                citesWithin_incidental mayCite_closed call (BackendCall.incidental_of_aside h))
              fun _ _ => citesWithin_call mayCite_closed fun _ h => .inr (.inr h.2)
          exact (hRest _ hMayCite).mono fun _ _ h => h.1

/-- A proof of a shipment that carries a transaction may cite it. -/
theorem uploadShipmentProofService_cites {file : UploadedFile}
    {recipientSignatureName notes : Option String} :
    CitesWithin (OfKind single) _
      (uploadShipmentProofService id file recipientSignatureName notes actor) := by
  have hT := citesWithin_compositional (OfKind single)
  have hAside := citesWithin_incidental (@ofKind_closed single)
  refine hT.bind (storeFile_holds hT hAside (storageKey_holds hT hAside)) fun url =>
    hT.bind (hAside .now rfl) fun now state hState => ?_
  refine Program.follows_bind.mpr (Program.follows_await.mpr ⟨trivial, fun response => ?_⟩)
  cases response with
  | error error => exact ofKind_closed state _ _ hState
  | ok updated =>
      cases updated with
      | none => exact hState
      | some shipment =>
          cases hCarries : truthy shipment.stellarTxHash with
          | none =>
              have hRest : CitesWithin (OfKind single) _ (do
                  recordProofSubmitted id shipment url recipientSignatureName actor
                  auditAction actor "PROOF_UPLOADED" id
                  return shipment) := by
                refine hT.bind (recordProofSubmitted_holds hT hAside fun _ _ hCites => ?_) fun _ =>
                  hT.bind (auditAction_holds hT hAside) fun _ => hT.pure _
                exact citesWithin_call ofKind_closed fun _ _ => .inl (hCites.trans hCarries)
              exact hRest _ hState
          | some hash =>
              have hM := citesWithin_compositional (MayCite single)
              have hAsideM := citesWithin_incidental (@mayCite_closed single)
              have hRest : CitesWithin (MayCite single) _ (do
                  recordProofSubmitted id shipment url recipientSignatureName actor
                  auditAction actor "PROOF_UPLOADED" id
                  return shipment) := by
                refine hM.bind (recordProofSubmitted_holds hM hAsideM fun _ _ _ => ?_) fun _ =>
                  hM.bind (auditAction_holds hM hAsideM) fun _ => hM.pure _
                exact citesWithin_call mayCite_closed fun _ h => .inr (.inr h.2)
              have hMayCite : MayCite single (citesWithCause.next state
                  (.shipmentFindByIdAndUpdate id
                    (.deliveryProof ⟨url, recipientSignatureName, notes, now⟩))
                  (.ok (some shipment))) :=
                ⟨hState, by simp [citesWithCause, hCarries]⟩
              exact (hRest _ hMayCite).mono fun _ _ h => h.1

omit [Sha256] in
/-- One turn of the indexer writes what it was told in that turn. -/
theorem indexNextEvent_cites {position : Option String} :
    CitesWithin (OfKind single) _ (indexNextEvent position) := by
  intro state hState
  refine Program.follows_bind.mpr (Program.follows_await.mpr ⟨trivial, fun response => ?_⟩)
  cases response with
  | error error => exact hState
  | ok streamed =>
      cases streamed with
      | none => exact hState
      | some event =>
          refine Program.follows_bind.mpr (Program.follows_await.mpr ⟨trivial, fun response => ?_⟩)
          cases response with
          | error error => exact hState
          | ok indexedAt =>
              refine Program.follows_bind.mpr (Program.follows_await.mpr
                ⟨⟨event, rfl, rfl, fun _ => ChainEvent.digest_of_upsert⟩, fun response => ?_⟩)
              cases response with
              | error error => exact hState
              | ok inserted =>
                  have hT := citesWithin_compositional (OfKind single)
                  refine (hT.bind ?_ fun _ => hT.pure _) _ hState
                  unfold saveCursor
                  split
                  · exact hT.pure _
                  · exact citesWithin_of_writesLedger ofKind_closed rfl

variable [StellarNetwork]

/-- Whether a request is a status update of the single path. -/
def LedgerRequest.isSingle : LedgerRequest → Bool
  | .shipmentStatus (.single _ _ _) => true
  | _ => false

theorem LedgerRequest.program_cites (ledgerRequest : LedgerRequest) :
    CitesWithin (OfKind ledgerRequest.isSingle) _ ledgerRequest.program := by
  have hT (single : Bool) := citesWithin_compositional (OfKind single)
  have hAside (single : Bool) := citesWithin_incidental (@ofKind_closed single)
  have hCall (single : Bool) {call : BackendCall} (h : call.writesLedger = false) :
      CitesWithin (OfKind single) _ (request call) := citesWithin_of_writesLedger ofKind_closed h
  cases ledgerRequest with
  | shipmentStatus statusRequest =>
      refine statusRequest.program_holds (hT _)
        (fun call h => hAside _ call (BackendCall.incidental_of_aside h)) (fun _ => hCall _ rfl)
        (fun _ => hCall _ rfl) (fun _ _ => hCall _ rfl) (fun _ _ => hCall _ rfl)
        (fun _ h _ => citesWithin_call ofKind_closed fun _ _ => .inl h) ?_ fun _ _ => ?_
      · rintro id status actor saved rfl
        exact settleDelivery_cites
      · exact settleBulkDelivery_holds (hT _) (fun _ => hCall _ rfl) (fun _ => hCall _ rfl)
          fun _ _ => hCall _ rfl
  | settlement settlementRequest =>
      exact settlementRequest.program_holds (hT _) (hAside _) (fun _ => hCall _ rfl)
        (fun _ h _ => citesWithin_call ofKind_closed fun _ _ => .inr (.inl h))
        fun _ _ _ => hCall _ rfl
  | proof id file recipientSignatureName notes actor =>
      exact (hT _).bind uploadShipmentProofService_cites fun _ => (hT _).pure _
  | create input actor =>
      exact (hT _).bind (createShipmentService_holds (hT _) (hAside _) (fun _ => hCall _ rfl)
        (fun _ => hCall _ rfl) fun _ _ => hCall _ rfl) fun _ => (hT _).pure _
  | index initialCursor limit =>
      exact (hT _).bind (indexStellarTransactions_holds (hT _) (hAside _) fun _ =>
        indexNextEvent_cites) fun _ => (hT _).pure _

end Requests

section Runs

variable {ι : Type} [DecidableEq ι] (requests : ι → LedgerRequest)

/-- No single-path delivery finds a payment, and no proof is uploaded for a
shipment that carries a transaction. -/
def CitesNothingUnrelated : Guard backend ι := fun _ store i call =>
  match call with
  | .paymentFindByShipmentId shipmentId => (requests i).isSingle →
      (ObjectId.cast? shipmentId).bind (Store.paymentOfShipment store) = none
  | .shipmentFindByIdAndUpdate id (.deliveryProof _) =>
      ∀ shipment ∈ (ObjectId.cast? id).bind (Store.liveShipment store),
        truthy shipment.stellarTxHash = none
  | _ => True

instance (history : List (BackendEvent ι)) (store : Store) (i : ι) (call : BackendCall) :
    Decidable (CitesNothingUnrelated requests history store i call) := by
  unfold CitesNothingUnrelated
  rcases call with ⟨⟩
  case shipmentFindByIdAndUpdate id update => rcases update with ⟨⟩ <;> infer_instance
  all_goals infer_instance

/-- What request `i` has learned, from the events so far. -/
def citationState (history : List (BackendEvent ι)) (i : ι) : CitationState :=
  citesWithCause.after (fun i => { single := (requests i).isSingle }) history i

/-- No request has found anything unrelated to cite, what the indexer was told
has been reported, and every stored block cites rightly. -/
structure CitationInv (history : List (BackendEvent ι)) (store : Store) : Prop where
  single : ∀ i, (citationState requests history i).single = (requests i).isSingle
  quiet : ∀ i, (citationState requests history i).mayCite = false
  streamed : ∀ i event, (citationState requests history i).streamed = some event →
    event ∈ store.reported
  cited : ∀ id block, store.ledgerBlock id = some block → store.CitesRightly block

variable {requests} {history : List (BackendEvent ι)} {store : Store} {decision : Decision} {i : ι}
  {call : BackendCall}

theorem citationState_cons (event : BackendEvent ι) (j : ι) :
    citationState requests (event :: history) j =
      if j = event.thread then citesWithCause.next (citationState requests history event.thread)
        event.request event.response
      else citationState requests history j :=
  Function.update_apply _ _ _ _

/-- A guarded call finds nothing unrelated to cite. -/
theorem CitationInv.quiet_next (inv : CitationInv requests history store)
    (hGuard : CitesNothingUnrelated requests history store i call) :
    (citesWithCause.next (citationState requests history i) call
      (perform decision store call).2).mayCite = false := by
  have hQuiet := inv.quiet i
  cases call with
  | paymentFindByShipmentId text =>
      cases hResponse : (perform decision store (.paymentFindByShipmentId text)).2 with
      | error error => exact hQuiet
      | ok found =>
          cases found with
          | none => exact hQuiet
          | some payment =>
              cases hSingle : (requests i).isSingle with
              | false => simp [citesWithCause, hQuiet, inv.single i, hSingle]
              | true =>
                  have hFound :=
                    (perform_paymentFindByShipmentId decision store text).2 payment hResponse
                  rw [hGuard hSingle] at hFound
                  cases hFound
  | shipmentFindByIdAndUpdate text update =>
      cases update with
      | deliveryProof proof =>
          cases hResponse : (perform decision store
              (.shipmentFindByIdAndUpdate text (.deliveryProof proof))).2 with
          | error error => exact hQuiet
          | ok found =>
              cases found with
              | none => exact hQuiet
              | some updated =>
                  obtain ⟨shipment, hLive, rfl⟩ := shipment_of_findByIdAndUpdate hResponse
                  have hCarries := hGuard shipment hLive
                  simp [citesWithCause, hQuiet, ShipmentUpdate.apply, hCarries]
      | _ => exact hQuiet
  | streamEvent position =>
      rcases (perform decision store (.streamEvent position)).2 with error | (_ | event) <;>
        exact hQuiet
  | _ => exact hQuiet

/-- What the indexer is told has been reported by then. -/
theorem CitationInv.streamed_next (inv : CitationInv requests history store) {event : ChainEvent}
    (h : (citesWithCause.next (citationState requests history i) call
      (perform decision store call).2).streamed = some event) :
    event ∈ (perform decision store call).1.reported := by
  have hOld : (citationState requests history i).streamed = some event →
      event ∈ (perform decision store call).1.reported := fun hStreamed =>
    (chainGrows_perform decision store call).2 event (inv.streamed i event hStreamed)
  cases call with
  | streamEvent position =>
      cases hResponse : (perform decision store (.streamEvent position)).2 with
      | error error => exact hOld (by simpa [citesWithCause, hResponse] using h)
      | ok found =>
          cases found with
          | none => exact hOld (by simpa [citesWithCause, hResponse] using h)
          | some told =>
              obtain rfl : told = event := by simpa [citesWithCause, hResponse] using h
              exact mem_reported_of_streamEvent hResponse
  | paymentFindByShipmentId text =>
      refine hOld ?_
      generalize (perform decision store (.paymentFindByShipmentId text)).2 = response at h
      rcases response with error | (_ | payment) <;> exact h
  | shipmentFindByIdAndUpdate text update =>
      refine hOld ?_
      generalize (perform decision store (.shipmentFindByIdAndUpdate text update)).2 = response at h
      rcases response with error | (_ | shipment) <;> cases update <;> exact h
  | _ => exact hOld h

/-- A block an allowed call leaves behind cites rightly. -/
theorem CitationInv.cited_next (inv : CitationInv requests history store)
    (hAllows : citesWithCause.allows (citationState requests history i) call)
    {id : ObjectId} {block : LedgerBlock}
    (h : (perform decision store call).1.ledgerBlock id = some block) :
    (perform decision store call).1.CitesRightly block := by
  have hGrows := chainGrows_perform decision store call
  cases blockOrigin_of_perform h with
  | kept hStored => exact (inv.cited id block hStored).mono hGrows
  | created hNew =>
      intro transactionHash dataHash hTransaction hData
      rcases hAllows with hNone | hNone | hMay
      · rw [hNone] at hTransaction
        cases hTransaction
      · rw [hNone] at hData
        cases hData
      · rw [inv.quiet i] at hMay
        cases hMay
  | rewritten hStored hHash hSet =>
      rename_i old cited upsert
      obtain ⟨event, hStreamed, rfl, hDigest⟩ := hAllows
      intro transactionHash dataHash hTransaction hData
      subst hSet
      obtain rfl : event.txHash = transactionHash :=
        Option.some.inj (hHash.symm.trans hTransaction)
      cases hNew : upsert.dataHash with
      | none =>
          refine (inv.cited id old hStored).mono hGrows _ _ hHash ?_
          simpa [LedgerUpsert.set, hNew] using hData
      | some hash =>
          obtain rfl : hash = dataHash := by simpa [LedgerUpsert.set, hNew] using hData
          exact .inr ⟨event, hGrows.2 _ (inv.streamed i event hStreamed), rfl, hDigest _ hNew⟩
  | inserted hNew hInsert =>
      obtain ⟨event, hStreamed, rfl, hDigest⟩ := hAllows
      intro transactionHash dataHash hTransaction hData
      subst hInsert
      obtain rfl := Option.some.inj hTransaction
      exact .inr ⟨event, hGrows.2 _ (inv.streamed i event hStreamed), rfl, hDigest _ hData⟩

theorem CitationInv.step (inv : CitationInv requests history store)
    (hAllows : citesWithCause.allows (citationState requests history i) call)
    (hGuard : CitesNothingUnrelated requests history store i call) :
    CitationInv requests (⟨i, call, (perform decision store call).2⟩ :: history)
      (perform decision store call).1 where
  single j := by
    rw [citationState_cons]
    split
    · rename_i hThread
      rw [hThread]
      exact ofKind_closed _ _ _ (inv.single i)
    · exact inv.single j
  quiet j := by
    rw [citationState_cons]
    split
    · exact inv.quiet_next hGuard
    · exact inv.quiet j
  streamed j event h := by
    rw [citationState_cons] at h
    split at h
    · exact inv.streamed_next h
    · exact (chainGrows_perform decision store call).2 event (inv.streamed j event h)
  cited _ _ h := inv.cited_next hAllows h

variable [Sha256] [StellarNetwork] {reached : Point backend ι Unit}

/-- Over every interleaving of all requests that write ledger blocks or submit
transactions, from a store whose blocks cite rightly: as long as nothing
unrelated is at hand to be cited, every stored block cites rightly. -/
theorem ledgerBlocks_cite_committed
    (hStart : ∀ id block, store.ledgerBlock id = some block → store.CitesRightly block)
    (run : GuardedRun (CitesNothingUnrelated requests) (ledgerPool store requests) reached)
    {id : ObjectId} {block : LedgerBlock}
    (hStored : Store.ledgerBlock reached.2.store id = some block) :
    Store.CitesRightly reached.2.store block := by
  have inv : CitationInv requests reached.1 reached.2.store := by
    refine GuardedRun.invariant citesWithCause (fun i => { single := (requests i).isSingle }) run
      (fun i => (requests i).program_cites _ rfl) (CitationInv requests) ?_ ?_
    · exact ⟨fun _ => rfl, fun _ => rfl, fun _ _ h => (by cases h), hStart⟩
    · intro history store decision i call inv hAllows hGuard
      exact inv.step hAllows hGuard
  exact inv.cited id block hStored

end Runs

/-- An anchoring of the sample shipment, as the chain reports it. -/
def sampleAnchor : ChainEvent where
  id := "e1"
  contractId := "c1"
  txHash := "t1"
  ledger := 7
  body := .anchor sampleShipment.id.toString
    "ba3fff7870e4e02f915fdbcc30279c3f6723983a410b69fde0abf7d134c770e7"

/-- One indexer cycle over an empty store. -/
def indexerPool : Pool backend Unit Unit :=
  @ledgerPool (tabulatedSha256 []) ⟨false⟩ Unit {} fun _ => .index (some "e0") 1

/-- On a run that indexes the anchoring, the theorem speaks of a block with both
hashes. -/
theorem ledgerBlocks_cite_committed_sample : ∃ reached : Point backend Unit Unit,
    GuardedRun (CitesNothingUnrelated fun _ => .index (some "e0") 1) indexerPool reached ∧
    ∃ block, Store.ledgerBlock reached.2.store block.id = some block ∧
      block.transactionHash.isSome ∧ block.dataHash.isSome ∧
        Store.CitesRightly reached.2.store block := by
  obtain ⟨reached, run, hTest⟩ := Pool.exists_run
    (CitesNothingUnrelated fun _ => .index (some "e0") 1) indexerPool
    (fun point => point.2.store.ledgerBlocks.docs.any fun block =>
      block.transactionHash.isSome && block.dataHash.isSome)
    (List.replicate 3 ({ Decision.ok with event := some sampleAnchor }, ())) (by decide +kernel)
  simp only [List.any_eq_true, Bool.and_eq_true] at hTest
  obtain ⟨block, hMem, hTransaction, hData⟩ := hTest
  have hStored := reached.2.store.ledgerBlocks.get?_of_mem hMem
  exact ⟨reached, run, block, hStored, hTransaction, hData,
    @ledgerBlocks_cite_committed _ _ _ _ (tabulatedSha256 []) ⟨false⟩ _
      (fun _ _ h => (by cases h)) run _ _ hStored⟩

/-- The one text the proof below hashes. -/
abbrev sampleProofDigest : Sha256 :=
  tabulatedSha256 [("\x7b\"actor\":null,\"event\":\"PROOF_SUBMITTED\"," ++
    "\"metadata\":\x7b\"proofUrl\":\"/proofs/1\"\x7d,\"shipmentId\":\"" ++
    sampleShipment.id.toString ++ "\",\"timestamp\":\"1970-01-01T00:00:00.000Z\",\"v\":1\x7d",
    "758d7acd2a35d7aa939a4e46dabb4003f33e6c16cdbe6702543b99f8a4047438")]

/-- A proof is uploaded for a shipment that was tokenized by transaction `t1`. -/
def proofPool : Pool backend Unit Unit :=
  @ledgerPool sampleProofDigest ⟨false⟩ Unit
    { shipments := ⟨[{ sampleShipment with stellarTxHash := some "t1" }], by decide⟩
      chain := ⟨[⟨"t1", none⟩], by decide⟩ }
    fun _ => .proof sampleShipment.id.toString ⟨"proof.pdf", "application/pdf", 1⟩ none none none

/-- The block of the proof cites the tokenization, which commits no digest. -/
theorem proof_cites_tokenization :
    ¬∀ reached : Point backend Unit Unit, GuardedRun anyStep proofPool reached →
      ∀ id block, Store.ledgerBlock reached.2.store id = some block →
        Store.CitesRightly reached.2.store block := by
  intro law
  obtain ⟨reached, run, hTest⟩ := Pool.exists_run anyStep proofPool
    (fun point => (point.2.store.ledgerBlocks.docs.any fun block =>
        block.transactionHash = some "t1" && block.dataHash.isSome) &&
      ((Store.transaction point.2.store "t1").all (·.digest.isNone) &&
        point.2.store.reported.isEmpty))
    (List.replicate 7 ({ Decision.ok with url := "/proofs/1" }, ())) (by decide +kernel)
  simp only [Bool.and_eq_true, List.any_eq_true, decide_eq_true_eq, List.isEmpty_iff] at hTest
  obtain ⟨⟨block, hMem, hTransaction, hData⟩, hNoDigest, hNone⟩ := hTest
  obtain ⟨dataHash, hHash⟩ := Option.isSome_iff_exists.mp hData
  have hStored := reached.2.store.ledgerBlocks.get?_of_mem hMem
  rcases law reached run _ block hStored "t1" dataHash hTransaction hHash with
    ⟨tx, hTx, hDigest⟩ | ⟨event, hEvent, -⟩
  · rw [hTx, Option.all_some, hDigest] at hNoDigest
    cases hNoDigest
  · rw [hNone] at hEvent
    cases hEvent

end Navin
