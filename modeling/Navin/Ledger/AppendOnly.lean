import Navin.Backend.Effects
import Navin.Ledger.Writers

/-! Whether the ledger is append-only. Every writer but one only adds blocks. The
indexer's upsert rewrites a block whenever the transaction of an event already
has one. -/
namespace Navin

open Async

/-- What a block says about its event. -/
structure BlockRecord where
  milestoneEvent : MilestoneEvent
  dataHash : Option String
  metadata : Option Value

def LedgerBlock.record (block : LedgerBlock) : BlockRecord :=
  ⟨block.milestoneEvent, block.dataHash, block.metadata⟩

/-- A block already has everything that an upsert would set on it. -/
structure LedgerUpsert.AgreesWith (upsert : LedgerUpsert) (block : LedgerBlock) : Prop where
  milestoneEvent : upsert.milestoneEvent = block.milestoneEvent
  dataHash : upsert.dataHash.or block.dataHash = block.dataHash
  metadata : some upsert.metadata = block.metadata

theorem LedgerUpsert.record_set_iff (upsert : LedgerUpsert) (block : LedgerBlock) :
    (upsert.set block).record = block.record ↔ upsert.AgreesWith block := by
  rw [LedgerBlock.record, LedgerBlock.record, BlockRecord.mk.injEq]
  exact ⟨fun ⟨h₁, h₂, h₃⟩ => ⟨h₁, h₂, h₃⟩, fun h => ⟨h.milestoneEvent, h.dataHash, h.metadata⟩⟩

/-- No event is indexed whose transaction has a block that says something else. -/
def IndexesNothingRecorded {ι : Type} : Guard backend ι := fun _ store _ call =>
  match call with
  | .ledgerUpsert transactionHash upsert =>
      ∀ block, Store.blockOfTransaction store transactionHash = some block → upsert.AgreesWith block
  | _ => True

variable {decision : Decision} {store : Store} {id : ObjectId} {block : LedgerBlock}

/-- Creating blocks keeps the ones that are there. -/
theorem ledgerBlock_insert {fresh : LedgerBlock} (h : store.ledgerBlocks.get? fresh.id = none)
    (hStored : store.ledgerBlock id = some block) :
    (store.ledgerBlocks.insert fresh h).get? id = some block := by
  rw [Collection.get?_insert, if_neg]
  · exact hStored
  · rintro rfl
    cases hStored.symm.trans h

/-- An upsert that finds a block changes no other one, and this one as it says. -/
theorem record_modify {found : LedgerBlock} {upsert : LedgerUpsert}
    (hStored : store.ledgerBlock id = some block) (hFound : found ∈ store.ledgerBlocks.docs)
    (hAgrees : upsert.AgreesWith found) :
    ∃ kept, (store.ledgerBlocks.modify found.id upsert.set upsert.set_id).get? id = some kept ∧
      kept.record = block.record := by
  by_cases hSame : id = found.id
  · have hBlock : block = found := by
      have hLookup := store.ledgerBlocks.get?_of_mem hFound
      rw [← hSame] at hLookup
      exact Option.some.inj (hStored.symm.trans hLookup)
    refine ⟨upsert.set block, ?_, ?_⟩
    · rw [hSame, Collection.get?_modify_self, ← hSame]
      exact congrArg (Option.map upsert.set) hStored
    · rw [hBlock]
      exact (upsert.record_set_iff found).mpr hAgrees
  · refine ⟨block, ?_, rfl⟩
    rw [Collection.get?_modify_of_ne _ _ hSame]
    exact hStored

/-- No call takes a stored block away, and only an upsert that finds a block and
disagrees with it changes what a block says. -/
theorem record_of_execute {call : BackendCall} (hStored : store.ledgerBlock id = some block)
    (hUpsert : ∀ transactionHash upsert, call = .ledgerUpsert transactionHash upsert →
      ∀ found, store.blockOfTransaction transactionHash = some found →
        upsert.AgreesWith found) :
    ∃ kept, (execute decision store call).1.ledgerBlock id = some kept ∧
      kept.record = block.record := by
  cases hWrites : call.writesLedger with
  | false =>
      refine ⟨block, ?_, rfl⟩
      rw [Store.ledgerBlock, execute_ledgerBlocks hWrites]
      exact hStored
  | true =>
      cases call with
      | ledgerCreate fields =>
          refine ⟨block, ?_, rfl⟩
          simp only [execute]
          split
          · rename_i hFresh
            exact ledgerBlock_insert hFresh hStored
          · exact hStored
      | ledgerUpsert transactionHash upsert =>
          simp only [execute, castingId]
          split
          · exact ⟨block, hStored, rfl⟩
          · split
            · rename_i found hFound
              exact record_modify hStored (List.mem_of_find?_eq_some hFound)
                (hUpsert _ _ rfl found hFound)
            · refine ⟨block, ?_, rfl⟩
              split
              · rename_i hFresh
                exact ledgerBlock_insert hFresh hStored
              · exact hStored
      | _ => cases hWrites

/-- An upsert that disagrees with the block it finds does change it. -/
theorem record_of_disagreeing {transactionHash : String} {upsert : LedgerUpsert}
    (hApplies : decision.applies = true) (hCast : (ObjectId.cast? upsert.shipmentId).isSome)
    (hFound : store.blockOfTransaction transactionHash = some block)
    (hDisagrees : ¬upsert.AgreesWith block) :
    ∃ changed, (perform decision store (.ledgerUpsert transactionHash upsert)).1.ledgerBlock
        block.id = some changed ∧ changed.record ≠ block.record := by
  obtain ⟨shipmentId, hCast⟩ := Option.isSome_iff_exists.mp hCast
  refine ⟨upsert.set block, ?_, fun h => hDisagrees ((upsert.record_set_iff block).mp h)⟩
  rw [perform_store_eq, if_pos hApplies]
  simp only [execute, castingId, hCast, hFound, Store.ledgerBlock]
  rw [Collection.get?_modify_self,
    store.ledgerBlocks.get?_of_mem (List.mem_of_find?_eq_some hFound), Option.map_some]

section Runs

variable {ι : Type} [DecidableEq ι] {before after : Point backend ι Unit}

theorem record_of_step (step : GuardedStep IndexesNothingRecorded before after)
    (hStored : Store.ledgerBlock before.2.store id = some block) :
    ∃ kept, Store.ledgerBlock after.2.store id = some kept ∧ kept.record = block.record := by
  obtain ⟨decision, i, call, next, -, hGuard, -, hStore⟩ := step.cases
  rw [hStore]
  rcases perform_store decision before.2.store call with hSame | hExecute
  · exact ⟨block, by rw [backend_perform, hSame]; exact hStored, rfl⟩
  · rw [backend_perform, hExecute]
    refine record_of_execute hStored ?_
    rintro transactionHash upsert rfl
    exact hGuard

theorem record_of_steps (steps : GuardedSteps IndexesNothingRecorded before after)
    (hStored : Store.ledgerBlock before.2.store id = some block) :
    ∃ kept, Store.ledgerBlock after.2.store id = some kept ∧ kept.record = block.record := by
  induction steps with
  | refl => exact ⟨block, hStored, rfl⟩
  | tail _ step ih =>
      obtain ⟨earlier, hEarlier, hRecord⟩ := ih
      obtain ⟨kept, hKept, hSame⟩ := record_of_step step hEarlier
      exact ⟨kept, hKept, hSame.trans hRecord⟩

variable [Sha256] [StellarNetwork]

/-- Over every interleaving of all writers of the ledger: as long as no event is
indexed for a transaction whose block says something else, what a stored block
says stays what it was from the moment it is stored. -/
theorem ledgerBlocks_append_only (requests : ι → LedgerRequest) (store : Store) :
    GuardedRun IndexesNothingRecorded (ledgerPool store requests) before →
      GuardedSteps IndexesNothingRecorded before after →
      ∀ id block, Store.ledgerBlock before.2.store id = some block →
        ∃ kept, Store.ledgerBlock after.2.store id = some kept ∧ kept.record = block.record :=
  fun _ steps _ _ hStored => record_of_steps steps hStored

end Runs

/-- The call indexes no event whose transaction has a block at all. -/
def indexesOnlyNew (store : Store) : BackendCall → Bool
  | .ledgerUpsert transactionHash _ => (store.blockOfTransaction transactionHash).isNone
  | _ => true

theorem indexesNothingRecorded_of_onlyNew {ι : Type}
    {history : List (Event BackendCall BackendCall.Answer ThrownError ι)} {i : ι}
    {call : BackendCall} (h : indexesOnlyNew store call = true) :
    IndexesNothingRecorded history store i call := by
  cases call with
  | ledgerUpsert transactionHash upsert =>
      intro block hFound
      rw [indexesOnlyNew, hFound] at h
      cases h
  | _ => trivial

/-- A release of the sample payment is notified while the indexer runs. -/
def releasePool : Pool backend Bool Unit :=
  @ledgerPool (tabulatedSha256 []) ⟨false⟩ Bool
    { payments := ⟨[samplePayment], Collection.nodup_single _ _⟩ }
    fun
    | true => .settlement (.webhook ⟨.release, samplePayment.id.toString, "r1"⟩)
    | false => .index (some "e0") 1

/-- The escrow contract reports a release of the sample payment. -/
def sampleReleased (txHash : String) : ChainEvent where
  id := "e1"
  contractId := "c1"
  txHash
  ledger := 7
  body := .escrowRelease samplePayment.id.toString "" "" "5"

/-- The webhook is handled, then one event is indexed. -/
def releaseSchedule (txHash : String) : List (Decision × Bool) :=
  List.replicate 7 (Decision.ok, true) ++
    List.replicate 3
      ({ Decision.ok with event := some (sampleReleased txHash), freshId := .repeated 1 }, false)

/-- Blocks that name no event of the chain. -/
def LedgerBlock.eventless (block : LedgerBlock) : Bool :=
  block.metadata.all fun metadata => (metadata.get? "eventId").isNone

/-- On a run that records the release and indexes another transaction, the
theorem keeps the recorded block. -/
theorem ledgerBlocks_append_only_sample : ∃ before after : Point backend Bool Unit,
    GuardedSteps IndexesNothingRecorded before after ∧
    Store.blockOfTransaction after.2.store "t1" ≠ none ∧
    ∃ block, Store.ledgerBlock before.2.store block.id = some block ∧
      ∃ kept, Store.ledgerBlock after.2.store block.id = some kept ∧
        kept.record = block.record := by
  obtain ⟨before, run, hTest⟩ := Pool.exists_run
    (fun _ store _ call => indexesOnlyNew store call = true) releasePool
    (fun point => point.2.store.ledgerBlocks.docs.length = 1 &&
      (Pool.runSchedule (fun _ store _ call => indexesOnlyNew store call = true)
        ((releaseSchedule "t1").drop 7) point).any
        fun next => (Store.blockOfTransaction next.2.store "t1").isSome)
    ((releaseSchedule "t1").take 7) (by decide +kernel)
  simp only [Bool.and_eq_true, decide_eq_true_eq, Option.any_eq_true] at hTest
  obtain ⟨hOne, after, hAfter, hNew⟩ := hTest
  obtain ⟨block, hDocs⟩ := List.length_eq_one_iff.mp hOne
  have hStored := before.2.store.ledgerBlocks.get?_of_mem (hDocs ▸ List.mem_singleton_self block)
  have hRun : GuardedRun IndexesNothingRecorded releasePool before :=
    run.mono fun _ _ _ _ => indexesNothingRecorded_of_onlyNew
  have steps : GuardedSteps IndexesNothingRecorded before after :=
    (Pool.runSchedule_steps hAfter).mono fun _ _ _ _ => indexesNothingRecorded_of_onlyNew
  exact ⟨before, after, steps, Option.isSome_iff_ne_none.mp hNew, block, hStored,
    @ledgerBlocks_append_only _ _ _ _ (tabulatedSha256 []) ⟨false⟩ _ _ hRun steps _ _ hStored⟩

/-- The block of the recorded release is rewritten when the event of the same
transaction is indexed. -/
theorem indexing_rewrites_recorded_release :
    ¬∀ before after : Point backend Bool Unit,
      GuardedRun anyStep releasePool before → GuardedSteps anyStep before after →
      ∀ id block, Store.ledgerBlock before.2.store id = some block →
        ∃ kept, Store.ledgerBlock after.2.store id = some kept ∧ kept.record = block.record := by
  intro law
  obtain ⟨before, run, hTest⟩ := Pool.exists_run anyStep releasePool
    (fun point => point.2.store.ledgerBlocks.docs.any (·.eventless) &&
      (Pool.runSchedule anyStep ((releaseSchedule "r1").drop 7) point).any
        fun next => next.2.store.ledgerBlocks.docs.all fun block => !block.eventless)
    ((releaseSchedule "r1").take 7) (by decide +kernel)
  simp only [Bool.and_eq_true, List.any_eq_true, Option.any_eq_true, List.all_eq_true,
    Bool.not_eq_true'] at hTest
  obtain ⟨⟨block, hMem, hEventless⟩, after, hAfter, hRewritten⟩ := hTest
  have hStored := before.2.store.ledgerBlocks.get?_of_mem hMem
  obtain ⟨kept, hKept, hRecord⟩ :=
    law before after run (Pool.runSchedule_steps hAfter) _ block hStored
  have hChanged := hRewritten kept (Collection.get?_eq_some_iff _ |>.mp hKept).1
  have hMetadata : kept.metadata = block.metadata := congrArg BlockRecord.metadata hRecord
  rw [LedgerBlock.eventless, hMetadata] at hChanged
  exact Bool.noConfusion (hChanged.symm.trans hEventless)

end Navin
