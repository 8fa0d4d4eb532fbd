import Navin.Backend.World
import Navin.Chain.Events
import Navin.Semantics.Cursors
import Navin.Semantics.Upsert
import Navin.Workers.StellarIndexer

/-! The indexer over a stream of contract events. Its update documents are those
of the source here, and the ledger blocks are the documents that result. What the
database rejects is a parameter. -/
namespace Navin

open Async Database

/-- The update document that the indexer writes for an event. -/
def LedgerUpsert.updateDocument (upsert : LedgerUpsert) (transactionHash : String) :
    UpdateDocument Value where
  setOnInsert :=
    [("shipmentId", .string upsert.shipmentId),
      ("milestoneEvent", .string upsert.milestoneEvent.name),
      ("transactionHash", .string transactionHash), ("actor", .string upsert.actor)]
  set :=
    [("milestoneEvent", .string upsert.milestoneEvent.name), ("metadata", upsert.metadata)] ++
      (upsert.dataHash.map fun dataHash => ("dataHash", .string dataHash)).toList

/-- The filter `{ transactionHash }`. -/
def hasTransaction (transactionHash : String) (block : Document Value) : Bool :=
  match block "transactionHash" with
  | some (.string text) => text = transactionHash
  | _ => false

/-- What the database rejects: two operators naming one path, and a shipment id
that is no identifier. -/
structure UpsertRules where
  conflicts : Bool
  casts : Bool

structure IndexerStore where
  blocks : List (Document Value) := []
  cursor : Option String := none
  yielded : Nat := 0

section Worlds

variable (rules : UpsertRules) (yields : Nat → Option String → Option ChainEvent)

/-- A call that succeeds, or that the database rejects. The indexer makes no
other calls than these. -/
def executeIndexer (decision : Decision) (store : IndexerStore) :
    (call : BackendCall) → IndexerStore × Except ThrownError call.Answer
  | .now => (store, .ok decision.now)
  | .getStoredCursor => (store, .ok store.cursor)
  | .saveStoredCursor cursor => ({ store with cursor := some cursor }, .ok ())
  | .streamEvent position =>
      ({ store with yielded := store.yielded + 1 }, .ok (yields store.yielded position))
  | .ledgerUpsert transactionHash upsert =>
      let update := upsert.updateDocument transactionHash
      if rules.conflicts && update.conflicts then (store, .error .unavailable)
      else if rules.casts && (ObjectId.cast? upsert.shipmentId).isNone then
        (store, .error (.castError upsert.shipmentId))
      else
        let (blocks, upserted) := updateOne (hasTransaction transactionHash) update store.blocks
        ({ store with blocks }, .ok upserted)
  | _ => (store, .error .unavailable)

def performIndexer (decision : Decision) (store : IndexerStore) (call : BackendCall) :
    IndexerStore × Except ThrownError call.Answer :=
  match decision.fault with
  | none => executeIndexer rules yields decision store call
  | some (.rejected error) => (store, recover decision error call)
  | some (.lost error) =>
      ((executeIndexer rules yields decision store call).1, recover decision error call)

/-- The n-th pull of an event from a position is answered by `yields`. -/
abbrev indexerWorld : World BackendCall BackendCall.Answer ThrownError where
  Store := IndexerStore
  Env := Decision
  perform := performIndexer rules yields

end Worlds

/-- An adapter that yields these events. -/
def streaming (events : List ChainEvent) : Nat → Option String → Option ChainEvent :=
  fun n _ => events[n]?

section Turns

variable {rules : UpsertRules} {yields : Nat → Option String → Option ChainEvent}
  {env : Nat → Decision} {store : IndexerStore} {position : Option String} {event : ChainEvent}

theorem performIndexer_of_fault_none {decision : Decision} (h : decision.fault = none)
    (call : BackendCall) :
    performIndexer rules yields decision store call =
      executeIndexer rules yields decision store call := by
  rw [performIndexer, h]

theorem indexNextEvent_ends (hFault : ∀ n, (env n).fault = none)
    (hNone : yields store.yielded position = none) :
    (indexNextEvent position).run (indexerWorld rules yields) env store =
      ({ store with yielded := store.yielded + 1 }, .ok none, fun n => env (n + 1)) := by
  simp [indexNextEvent, request, Program.run_bind, Program.run_await,
    performIndexer_of_fault_none (hFault _), executeIndexer, hNone]

/-- The indexer names the milestone under both operators. -/
theorem updateDocument_conflicts (upsert : LedgerUpsert) (transactionHash : String) :
    (upsert.updateDocument transactionHash).conflicts = true := by
  refine List.any_eq_true.mpr ⟨("milestoneEvent", .string upsert.milestoneEvent.name), ?_, rfl⟩
  exact List.mem_cons_of_mem _ List.mem_cons_self

/-- So a database that rejects such a document rejects every event. -/
theorem indexNextEvent_rejects (hFault : ∀ n, (env n).fault = none)
    (hSome : yields store.yielded position = some event) (hConflicts : rules.conflicts = true) :
    ((indexNextEvent position).run (indexerWorld rules yields) env store).2.1 =
      .error .unavailable := by
  simp [indexNextEvent, request, Program.run_bind, Program.run_await, currentDate,
    performIndexer_of_fault_none (hFault _), executeIndexer, hSome, hConflicts,
    updateDocument_conflicts]

/-- A call without a fault, at the head of a run. -/
theorem run_indexer_request (hFault : ∀ n, (env n).fault = none) (call : BackendCall) :
    (request call).run (indexerWorld rules yields) env store =
      ((executeIndexer rules yields (env 0) store call).1,
        (executeIndexer rules yields (env 0) store call).2, fun n => env (n + 1)) := by
  rw [request, Program.run_await]
  simp only [performIndexer_of_fault_none (hFault 0)]

variable (rules yields store) in
theorem saveCursor_run (hFault : ∀ n, (env n).fault = none) (id : String) :
    ∃ cursor env', (∀ n, (env' n).fault = none) ∧
      (saveCursor id).run (indexerWorld rules yields) env store =
        ({ store with cursor }, .ok (), env') := by
  cases hTruthy : truthy (some id) with
  | none => exact ⟨store.cursor, env, hFault, by rw [saveCursor, hTruthy]; rfl⟩
  | some cursor =>
      refine ⟨some cursor, fun n => env (n + 1), fun n => hFault (n + 1), ?_⟩
      rw [saveCursor, hTruthy]
      exact run_indexer_request hFault _

/-- The shipment id of an upsert does not depend on when it is made. -/
theorem ChainEvent.shipmentId_upsert (event : ChainEvent) (indexedAt : Date) :
    (event.upsert indexedAt).shipmentId = (event.upsert ⟨0⟩).shipmentId := by
  obtain ⟨id, contractId, txHash, ledger, body⟩ := event
  cases body <;> rfl

variable (rules) in
/-- What the database asks of an event before it stores its block. -/
def Accepts (event : ChainEvent) : Prop :=
  rules.conflicts = false ∧
    (rules.casts = true → (ObjectId.cast? (event.upsert ⟨0⟩).shipmentId).isSome)

theorem executeIndexer_upsert (hAccepts : Accepts rules event) (decision : Decision)
    (indexedAt : Date) :
    executeIndexer rules yields decision store
      (.ledgerUpsert event.txHash (event.upsert indexedAt)) =
        let upserted := updateOne (hasTransaction event.txHash)
          ((event.upsert indexedAt).updateDocument event.txHash) store.blocks
        ({ store with blocks := upserted.1 }, .ok upserted.2) := by
  have hCasts : (rules.casts &&
      (ObjectId.cast? (event.upsert indexedAt).shipmentId).isNone) = false := by
    rw [event.shipmentId_upsert]
    cases hRule : rules.casts with
    | false => rfl
    | true => simpa using hAccepts.2 hRule
  simp only [executeIndexer, hAccepts.1, hCasts, Bool.false_and, Bool.false_eq_true, if_false]

/-- A block is stored for the event, and the position is saved. -/
theorem indexNextEvent_stores (hFault : ∀ n, (env n).fault = none)
    (hSome : yields store.yielded position = some event) (hAccepts : Accepts rules event) :
    ∃ indexedAt cursor inserted env', (∀ n, (env' n).fault = none) ∧
      (indexNextEvent position).run (indexerWorld rules yields) env store =
        ({ blocks := (updateOne (hasTransaction event.txHash)
            ((event.upsert indexedAt).updateDocument event.txHash) store.blocks).1
           cursor, yielded := store.yielded + 1 }, .ok (some (event.id, inserted)), env') := by
  let pulled : IndexerStore := { store with yielded := store.yielded + 1 }
  let indexedAt := (env 1).now
  let upserted := updateOne (hasTransaction event.txHash)
    ((event.upsert indexedAt).updateDocument event.txHash) store.blocks
  obtain ⟨cursor, env', hFault', hSaved⟩ := saveCursor_run rules yields
    { pulled with blocks := upserted.1 } (fun n => hFault (n + 3)) event.id
  refine ⟨indexedAt, cursor, upserted.2, env', hFault', ?_⟩
  have hPull : (request (.streamEvent position)).run (indexerWorld rules yields) env store =
      (pulled, .ok (some event), fun n => env (n + 1)) := by
    rw [run_indexer_request hFault]
    simp only [executeIndexer, hSome]
    rfl
  have hNow : currentDate.run (indexerWorld rules yields) (fun n => env (n + 1)) pulled =
      (pulled, .ok indexedAt, fun n => env (n + 2)) :=
    run_indexer_request (fun n => hFault (n + 1)) .now
  have hUpsert : (request (.ledgerUpsert event.txHash (event.upsert indexedAt))).run
      (indexerWorld rules yields) (fun n => env (n + 2)) pulled =
        ({ pulled with blocks := upserted.1 }, .ok upserted.2, fun n => env (n + 3)) := by
    rw [run_indexer_request fun n => hFault (n + 2)]
    simp only [executeIndexer_upsert hAccepts]
    rfl
  rw [indexNextEvent, Program.run_bind_ok hPull]
  dsimp only
  rw [Program.run_bind_ok hNow, Program.run_bind_ok hUpsert, Program.run_bind_ok hSaved]
  rfl

variable (rules yields store) in
/-- A cycle first looks up its position, which takes nothing from the stream. -/
theorem indexStellarTransactions_run (hFault : ∀ n, (env n).fault = none)
    (initialCursor : Option String) (limit : Nat) :
    ∃ env', (∀ n, (env' n).fault = none) ∧
      (indexStellarTransactions initialCursor limit).run (indexerWorld rules yields) env store =
        (indexEvents limit { lastCursor := initialCursor.or store.cursor }).run
          (indexerWorld rules yields) env' store := by
  cases initialCursor with
  | some cursor => exact ⟨env, hFault, rfl⟩
  | none =>
      refine ⟨fun n => env (n + 1), fun n => hFault (n + 1), ?_⟩
      simp [indexStellarTransactions, request, Program.run_bind, Program.run_await,
        performIndexer_of_fault_none (hFault _), executeIndexer]

theorem indexEvents_rejects (hFault : ∀ n, (env n).fault = none) {limit : Nat}
    {summary : IndexerSummary} (hLimit : limit ≠ 0)
    (hSome : yields store.yielded summary.lastCursor = some event)
    (hConflicts : rules.conflicts = true) :
    ((indexEvents limit summary).run (indexerWorld rules yields) env store).2.1 =
      .error .unavailable := by
  obtain ⟨limit, rfl⟩ := Nat.exists_eq_succ_of_ne_zero hLimit
  rw [indexEvents, Program.run_bind]
  have hTurn := indexNextEvent_rejects hFault hSome hConflicts
  generalize (indexNextEvent summary.lastCursor).run (indexerWorld rules yields) env store =
    turn at hTurn ⊢
  obtain ⟨store', outcome, env'⟩ := turn
  cases hTurn
  rfl

end Turns

section Blocks

/-- A metadata object without its `indexedAt`. -/
def withoutIndexedAt : Value → Value
  | .object properties => .object (properties.filter fun property => property.1 ≠ "indexedAt")
  | value => value

/-- A block up to the time at which it was indexed. -/
def upToIndexedAt (block : Document Value) : Document Value :=
  fun field => if field = "metadata" then (block field).map withoutIndexedAt else block field

/-- The block of an event, up to the time at which it is indexed. -/
def ChainEvent.block (event : ChainEvent) : Document Value :=
  upToIndexedAt ((event.upsert ⟨0⟩).updateDocument event.txHash).inserted

theorem withoutIndexedAt_upsert (event : ChainEvent) (indexedAt : Date) :
    withoutIndexedAt (event.upsert indexedAt).metadata =
      withoutIndexedAt (event.upsert ⟨0⟩).metadata := by
  obtain ⟨id, contractId, txHash, ledger, body⟩ := event
  cases body <;> simp [ChainEvent.upsert, withoutIndexedAt]

theorem upsert_frame (event : ChainEvent) (indexedAt : Date) :
    (event.upsert indexedAt) =
      { event.upsert ⟨0⟩ with metadata := (event.upsert indexedAt).metadata } := by
  obtain ⟨id, contractId, txHash, ledger, body⟩ := event
  cases body <;> rfl

/-- Two upserts that differ in the metadata set the same fields otherwise. -/
theorem lookup_set (upsert : LedgerUpsert) (metadata : Value) (transactionHash field : String) :
    (({ upsert with metadata } : LedgerUpsert).updateDocument transactionHash).set.lookup field =
      if field = "metadata" then some metadata
      else (upsert.updateDocument transactionHash).set.lookup field := by
  by_cases hMetadata : field = "metadata"
  · subst hMetadata
    rfl
  · have hOther : (field == "metadata") = false := beq_eq_false_iff_ne.mpr hMetadata
    simp only [LedgerUpsert.updateDocument, List.cons_append, List.lookup_cons, hOther,
      if_neg hMetadata]

theorem setOnInsert_withMetadata (upsert : LedgerUpsert) (metadata : Value)
    (transactionHash : String) :
    (({ upsert with metadata } : LedgerUpsert).updateDocument transactionHash).setOnInsert =
      (upsert.updateDocument transactionHash).setOnInsert := rfl

theorem inserted_block (event : ChainEvent) (indexedAt : Date) :
    upToIndexedAt ((event.upsert indexedAt).updateDocument event.txHash).inserted =
      event.block := by
  funext field
  rw [upsert_frame event indexedAt, ChainEvent.block, upToIndexedAt, upToIndexedAt]
  by_cases hMetadata : field = "metadata"
  · subst hMetadata
    exact congrArg some (withoutIndexedAt_upsert event indexedAt)
  · rw [if_neg hMetadata, if_neg hMetadata]
    simp only [UpdateDocument.inserted, Document.write, List.lookup_append, lookup_set,
      if_neg hMetadata, setOnInsert_withMetadata]

/-- Indexing an event again only changes the time. -/
theorem write_block (event : ChainEvent) (indexedAt : Date) {block : Document Value}
    (h : upToIndexedAt block = event.block) :
    upToIndexedAt (block.write ((event.upsert indexedAt).updateDocument event.txHash).set) =
      event.block := by
  funext field
  rw [upsert_frame event indexedAt, ← h, upToIndexedAt, upToIndexedAt, Document.write, lookup_set]
  by_cases hMetadata : field = "metadata"
  · subst hMetadata
    have hOld := congrFun h "metadata"
    rw [upToIndexedAt, if_pos rfl] at hOld
    rw [if_pos rfl, if_pos rfl, if_pos rfl, hOld]
    exact congrArg some (withoutIndexedAt_upsert event indexedAt)
  · have hOld := congrFun h field
    rw [upToIndexedAt, if_neg hMetadata] at hOld
    rw [if_neg hMetadata, if_neg hMetadata, if_neg hMetadata, hOld, ChainEvent.block,
      upToIndexedAt, if_neg hMetadata, UpdateDocument.inserted, Document.write, List.lookup_append,
      Option.or_none]
    cases List.lookup field ((event.upsert ⟨0⟩).updateDocument event.txHash).set <;> rfl

/-- The blocks are those of these events, in this order, up to the times. -/
def BlocksOf (events : List ChainEvent) (blocks : List (Document Value)) : Prop :=
  blocks.map upToIndexedAt = events.map ChainEvent.block

theorem hasTransaction_block (event : ChainEvent) (transactionHash : String) :
    hasTransaction transactionHash event.block = decide (event.txHash = transactionHash) := by
  obtain ⟨id, contractId, txHash, ledger, body⟩ := event
  cases body <;> rfl

theorem hasTransaction_of_block {event : ChainEvent} {block : Document Value}
    (h : upToIndexedAt block = event.block) (transactionHash : String) :
    hasTransaction transactionHash block = decide (event.txHash = transactionHash) := by
  rw [← hasTransaction_block, ← h]
  rfl

variable {events : List ChainEvent} {blocks : List (Document Value)}

theorem not_hasTransaction_of_blocks {transactionHash : String} (h : BlocksOf events blocks)
    (hFresh : ∀ event ∈ events, event.txHash ≠ transactionHash) :
    ∀ block ∈ blocks, hasTransaction transactionHash block = false := by
  intro block hBlock
  have hMem : upToIndexedAt block ∈ events.map ChainEvent.block := by
    rw [← h]
    exact List.mem_map_of_mem hBlock
  obtain ⟨event, hEvent, hSame⟩ := List.mem_map.mp hMem
  rw [hasTransaction_of_block hSame.symm]
  exact decide_eq_false (hFresh event hEvent)

/-- The next event adds its block. -/
theorem BlocksOf.store {event : ChainEvent} (h : BlocksOf events blocks)
    (hFresh : ∀ earlier ∈ events, earlier.txHash ≠ event.txHash) (indexedAt : Date) :
    BlocksOf (events ++ [event]) (updateOne (hasTransaction event.txHash)
      ((event.upsert indexedAt).updateDocument event.txHash) blocks).1 := by
  rw [updateOne_of_none (not_hasTransaction_of_blocks h hFresh), BlocksOf, List.map_append, h,
    List.map_append, List.map_singleton, List.map_singleton, inserted_block]

/-- An event that has been stored before changes nothing but the time. -/
theorem BlocksOf.storeAgain {before after : List ChainEvent} {event : ChainEvent}
    (h : BlocksOf (before ++ event :: after) blocks)
    (hFresh : ∀ earlier ∈ before, earlier.txHash ≠ event.txHash) (indexedAt : Date) :
    BlocksOf (before ++ event :: after) (updateOne (hasTransaction event.txHash)
      ((event.upsert indexedAt).updateDocument event.txHash) blocks).1 := by
  have hSplit := h
  rw [BlocksOf, List.map_append, List.map_cons, List.map_eq_append_iff] at hSplit
  obtain ⟨first, rest, rfl, hFirst, hRest⟩ := hSplit
  obtain ⟨block, last, rfl, hBlock, hLast⟩ := List.map_eq_cons_iff.mp hRest
  have hSelected : hasTransaction event.txHash block := by
    rw [hasTransaction_of_block hBlock]
    exact decide_eq_true rfl
  rw [updateOne_of_selected (not_hasTransaction_of_blocks hFirst hFresh) hSelected, BlocksOf,
    List.map_append, List.map_append, List.map_cons, List.map_cons, hFirst, hLast,
    write_block event indexedAt hBlock]

/-- The block of an event is found by its transaction. -/
theorem BlocksOf.find? {before after : List ChainEvent} {event : ChainEvent}
    (h : BlocksOf (before ++ event :: after) blocks)
    (hFresh : ∀ earlier ∈ before, earlier.txHash ≠ event.txHash) :
    ∃ block, blocks.find? (hasTransaction event.txHash) = some block ∧
      upToIndexedAt block = event.block := by
  rw [BlocksOf, List.map_append, List.map_cons, List.map_eq_append_iff] at h
  obtain ⟨first, rest, rfl, hFirst, hRest⟩ := h
  obtain ⟨block, last, rfl, hBlock, hLast⟩ := List.map_eq_cons_iff.mp hRest
  refine ⟨block, ?_, hBlock⟩
  have hNone := List.find?_eq_none.mpr fun other hOther =>
    Bool.eq_false_iff.mp (not_hasTransaction_of_blocks hFirst hFresh other hOther)
  rw [List.find?_append, hNone, Option.none_or, List.find?_cons_of_pos]
  rw [hasTransaction_of_block hBlock]
  exact decide_eq_true rfl

/-- An adapter that yields the events one after the other, pulled from the position
of the last one. -/
def Yields (events : List ChainEvent) (start : Option String)
    (yields : Nat → Option String → Option ChainEvent) : Prop :=
  ∀ done rest, events = done ++ rest →
    yields done.length (Cursor.resume (·.id) start done) = rest.head?

theorem streaming_yields (events : List ChainEvent) (start : Option String) :
    Yields events start (streaming events) := by
  rintro done rest rfl
  rw [streaming, List.getElem?_append_right (Nat.le_refl _), Nat.sub_self, List.head?_eq_getElem?]

/-- The indexer stores one block for each event of a stream of distinct transactions. -/
theorem indexEvents_stores {rules : UpsertRules}
    {yields : Nat → Option String → Option ChainEvent} {start : Option String}
    {events done rest : List ChainEvent} {env : Nat → Decision} {store : IndexerStore}
    {limit : Nat} {summary : IndexerSummary} (hFault : ∀ n, (env n).fault = none)
    (hHashes : (events.map (·.txHash)).Nodup) (hAccepts : ∀ event ∈ events, Accepts rules event)
    (hYields : Yields events start yields) (hEvents : events = done ++ rest)
    (hYielded : store.yielded = done.length)
    (hCursor : summary.lastCursor = Cursor.resume (·.id) start done)
    (hBlocks : BlocksOf done store.blocks) (hLimit : rest.length < limit) :
    ∃ store' summary' env', (indexEvents limit summary).run
      (indexerWorld rules yields) env store = (store', .ok summary', env') ∧
        BlocksOf events store'.blocks := by
  have hNext := hYields done rest hEvents
  rw [← hYielded, ← hCursor] at hNext
  induction rest generalizing done env store limit summary with
  | nil =>
      rw [List.append_nil] at hEvents
      obtain ⟨limit, rfl⟩ := Nat.exists_eq_succ_of_ne_zero (Nat.ne_zero_of_lt hLimit)
      have hRun : (indexEvents (limit + 1) summary).run (indexerWorld rules yields) env store =
          ({ store with yielded := store.yielded + 1 }, .ok summary, fun n => env (n + 1)) := by
        rw [indexEvents, Program.run_bind_ok (indexNextEvent_ends hFault hNext)]
        rfl
      exact ⟨_, summary, _, hRun, hEvents ▸ hBlocks⟩
  | cons event rest ih =>
      obtain ⟨limit, rfl⟩ := Nat.exists_eq_succ_of_ne_zero (Nat.ne_zero_of_lt hLimit)
      have hMem : event ∈ events := by
        rw [hEvents]
        exact List.mem_append_right _ List.mem_cons_self
      have hFresh : ∀ earlier ∈ done, earlier.txHash ≠ event.txHash := by
        rw [hEvents, List.map_append, List.nodup_append] at hHashes
        exact fun earlier hEarlier =>
          hHashes.2.2 _ (List.mem_map_of_mem hEarlier) _ (List.mem_map_of_mem List.mem_cons_self)
      obtain ⟨indexedAt, cursor, inserted, env', hFault', hTurn⟩ :=
        indexNextEvent_stores hFault hNext (hAccepts event hMem)
      rw [indexEvents, Program.run_bind_ok hTurn]
      have hEvents' : events = (done ++ [event]) ++ rest := by
        rw [hEvents, List.append_assoc, List.singleton_append]
      have hYielded' : store.yielded + 1 = (done ++ [event]).length := by
        rw [hYielded, List.length_append, List.length_singleton]
      have hNext' := hYields _ rest hEvents'
      rw [← hYielded', Cursor.resume_concat] at hNext'
      exact ih hFault' hEvents' hYielded' (Cursor.resume_concat _).symm
        (hBlocks.store hFresh indexedAt) (Nat.lt_of_succ_lt_succ hLimit) hNext'

end Blocks

section NoLoss

/-- The database as the deployment has it: both kinds of document are rejected. -/
def strictRules : UpsertRules := ⟨true, true⟩

/-- Every event has a block with its milestone and its id. -/
def Stored (events : List ChainEvent) (blocks : List (Document Value)) : Prop :=
  ∀ event ∈ events, ∃ block ∈ blocks,
    block "milestoneEvent" = some (.string (event.upsert ⟨0⟩).milestoneEvent.name) ∧
      (block "metadata").bind (Value.get? "eventId") = some (.string event.id)

/-- The whole stream is consumed, and nothing of it is lost. -/
def IndexedWithoutLoss (events : List ChainEvent) (initialCursor : Option String) (limit : Nat)
    (env : Nat → Decision) : Prop :=
  ∃ store' summary env', (indexStellarTransactions initialCursor limit).run
      (indexerWorld strictRules (streaming events)) env {} = (store', .ok summary, env') ∧
    summary.processed = events.length ∧ Stored events store'.blocks

/-- The indexer loses nothing exactly when there is nothing to index. -/
theorem indexedWithoutLoss_iff {events : List ChainEvent} {initialCursor : Option String}
    {limit : Nat} {env : Nat → Decision} (hFault : ∀ n, (env n).fault = none)
    (hLimit : events.length < limit) :
    IndexedWithoutLoss events initialCursor limit env ↔ events = [] := by
  obtain ⟨env₁, hFault₁, hRun⟩ :=
    indexStellarTransactions_run strictRules (streaming events) {} hFault initialCursor limit
  rw [Option.or_none] at hRun
  have hSome : limit ≠ 0 := Nat.ne_zero_of_lt hLimit
  cases events with
  | nil =>
      refine iff_of_true ?_ rfl
      obtain ⟨limit, rfl⟩ := Nat.exists_eq_succ_of_ne_zero hSome
      have hEnds : (indexEvents (limit + 1) { lastCursor := initialCursor }).run
          (indexerWorld strictRules (streaming [])) env₁ {} =
            ({ yielded := 1 }, .ok { lastCursor := initialCursor }, fun n => env₁ (n + 1)) := by
        rw [indexEvents, Program.run_bind_ok (indexNextEvent_ends hFault₁ rfl)]
        rfl
      exact ⟨_, _, _, hRun.trans hEnds, rfl, List.forall_mem_nil _⟩
  | cons event rest =>
      refine iff_of_false ?_ (List.cons_ne_nil event rest)
      rintro ⟨store', summary, env', hOk, -⟩
      have hRejects : ((indexEvents limit { lastCursor := initialCursor }).run
          (indexerWorld strictRules (streaming (event :: rest))) env₁ {}).2.1 =
            .error .unavailable :=
        indexEvents_rejects hFault₁ hSome rfl rfl
      rw [← hRun, hOk] at hRejects
      cases hRejects

theorem indexedWithoutLoss_iff_sample : IndexedWithoutLoss [] none 1 fun _ => {} :=
  (indexedWithoutLoss_iff (fun _ => rfl) Nat.zero_lt_one).mpr rfl

/-- The anchor event of the golden fixtures. -/
def goldenAnchor : ChainEvent where
  id := "0002200479567253504-0000000001"
  contractId := "CACAIBAEAQCAIBAEAQCAIBAEAQCAIBAEAQCAIBAEAQCAIBAEAQCAINCW"
  txHash := "2e7d2c03a9507ae265ecf5b5356885a53393a2029d241394997265a1a25aefc6"
  ledger := 512345
  body := .anchor "65f1a2b3c4d5e6f708192a3b"
    "ca978112ca1bbdcafac231b39a23dc4da786eff8147c4e72b9807785afee48bb"

theorem goldenAnchor_not_indexed : ¬∀ (events : List ChainEvent) (env : Nat → Decision)
    (limit : Nat), (∀ event ∈ events, event.isValid) → (events.map (·.id)).Nodup →
      (∀ n, (env n).fault = none) → events.length < limit →
        IndexedWithoutLoss events none limit env := by
  intro h
  obtain ⟨store', summary, env', hRun, -⟩ := h [goldenAnchor] (fun _ => {}) 2 (by decide +kernel)
    (List.nodup_singleton _) (fun _ => rfl) (by decide)
  have hRejects : ((indexStellarTransactions none 2).run
      (indexerWorld strictRules (streaming [goldenAnchor])) (fun _ => {}) {}).2.1 =
        .error .unavailable := by
    rfl
  rw [hRun] at hRejects
  cases hRejects

end NoLoss

section Attribution

/-- An upsert that is rejected for nothing. -/
def plainRules : UpsertRules := ⟨false, false⟩

/-- The shipment an event is about. A release names its payment only; the shipment
is that of the payment's escrow. -/
inductive About (before : List ChainEvent) : ChainEventBody → String → Prop
  | anchor (shipmentId dataHash : String) : About before (.anchor shipmentId dataHash) shipmentId
  | escrowInit (paymentId shipmentId payer payee token amount : String) :
      About before (.escrowInit paymentId shipmentId payer payee token amount) shipmentId
  | escrowRelease {init : ChainEvent} {paymentId shipmentId payer payee token amount : String}
      (hInit : init ∈ before)
      (hBody : init.body = .escrowInit paymentId shipmentId payer payee token amount)
      (proofHash releasedTo released : String) :
      About before (.escrowRelease paymentId proofHash releasedTo released) shipmentId

/-- The block of each event names the shipment that the event is about. -/
def Attributed (events : List ChainEvent) (blocks : List (Document Value)) : Prop :=
  ∀ before event after, events = before ++ event :: after →
    ∃ block, blocks.find? (hasTransaction event.txHash) = some block ∧
      ∀ shipmentId, About before event.body shipmentId →
        block "shipmentId" = some (.string shipmentId)

theorem block_shipmentId (event : ChainEvent) :
    event.block "shipmentId" = some (.string (event.upsert ⟨0⟩).shipmentId) := by
  obtain ⟨id, contractId, txHash, ledger, body⟩ := event
  cases body <;> rfl

/-- A block names the shipment of the update document its event was stored with. -/
theorem attributed_iff_upsert {events : List ChainEvent} {blocks : List (Document Value)}
    (hHashes : (events.map (·.txHash)).Nodup) (hBlocks : BlocksOf events blocks) :
    Attributed events blocks ↔ ∀ before event after, events = before ++ event :: after →
      ∀ shipmentId, About before event.body shipmentId →
        (event.upsert ⟨0⟩).shipmentId = shipmentId := by
  refine forall_congr' fun before => forall_congr' fun event => forall_congr' fun after =>
    forall_congr' fun hEvents => ?_
  have hFresh : ∀ earlier ∈ before, earlier.txHash ≠ event.txHash := by
    rw [hEvents, List.map_append, List.nodup_append] at hHashes
    exact fun earlier hEarlier =>
      hHashes.2.2 _ (List.mem_map_of_mem hEarlier) _ (List.mem_map_of_mem List.mem_cons_self)
  obtain ⟨block, hFound, hBlock⟩ := (hEvents ▸ hBlocks).find? hFresh
  have hShipment : block "shipmentId" = some (.string (event.upsert ⟨0⟩).shipmentId) :=
    (congrFun hBlock "shipmentId").trans (block_shipmentId event)
  simp only [hFound, Option.some.injEq, exists_eq_left', hShipment, Value.string.injEq]

/-- The blocks name the right shipments exactly when every payment that is
released has the identifier of its shipment. -/
theorem attributed_iff {events : List ChainEvent} {initialCursor : Option String} {limit : Nat}
    {env : Nat → Decision} (hFault : ∀ n, (env n).fault = none)
    (hHashes : (events.map (·.txHash)).Nodup) (hLimit : events.length < limit) :
    (∃ store' summary env', (indexStellarTransactions initialCursor limit).run
      (indexerWorld plainRules (streaming events)) env {} = (store', .ok summary, env') ∧
        Attributed events store'.blocks) ↔
      ∀ before event after, events = before ++ event :: after →
        ∀ paymentId proofHash payee amount,
          event.body = .escrowRelease paymentId proofHash payee amount →
            ∀ shipmentId, About before event.body shipmentId → shipmentId = paymentId := by
  obtain ⟨env₁, hFault₁, hRun⟩ :=
    indexStellarTransactions_run plainRules (streaming events) {} hFault initialCursor limit
  rw [Option.or_none] at hRun
  have hLoop : ∃ store summary env', (indexEvents limit { lastCursor := initialCursor }).run
      (indexerWorld plainRules (streaming events)) env₁ {} = (store, .ok summary, env') ∧
        BlocksOf events store.blocks :=
    indexEvents_stores hFault₁ hHashes (fun _ _ => ⟨rfl, nofun⟩)
      (streaming_yields events initialCursor) (List.nil_append events).symm rfl rfl rfl hLimit
  obtain ⟨store, summary, env₂, hEnd, hBlocks⟩ := hLoop
  rw [hRun, hEnd]
  have hStored : (∃ store' summary' env', (store, Except.ok summary, env₂) =
      ((store', Except.ok summary', env') :
        IndexerStore × Except ThrownError IndexerSummary × (Nat → Decision)) ∧
          Attributed events store'.blocks) ↔ Attributed events store.blocks := by
    constructor
    · rintro ⟨_, _, _, hSame, hAttributed⟩
      cases hSame
      exact hAttributed
    · exact fun hAttributed => ⟨_, _, _, rfl, hAttributed⟩
  rw [hStored, attributed_iff_upsert hHashes hBlocks]
  refine forall_congr' fun before => forall_congr' fun event => forall_congr' fun after =>
    forall_congr' fun hEvents => ?_
  obtain ⟨id, contractId, txHash, ledger, body⟩ := event
  constructor
  · rintro h paymentId proofHash payee amount rfl shipmentId hAbout
    exact (h shipmentId hAbout).symm
  · intro h shipmentId hAbout
    cases hAbout with
    | anchor => rfl
    | escrowInit => rfl
    | escrowRelease hInit hBody =>
        exact (h _ _ _ _ rfl shipmentId (.escrowRelease hInit hBody _ _ _)).symm

/-- The escrow events of the golden fixtures. -/
def goldenInit : ChainEvent where
  id := "0002200479567253505-0000000001"
  contractId := "CACAIBAEAQCAIBAEAQCAIBAEAQCAIBAEAQCAIBAEAQCAIBAEAQCAINCW"
  txHash := "18ac3e7343f016890c510e93f935261169d9e3f565436429830faf0934f4f8e4"
  ledger := 512346
  body := .escrowInit "66a0b1c2d3e4f50617283940" "65f1a2b3c4d5e6f708192a3b"
    "GABAEAQCAIBAEAQCAIBAEAQCAIBAEAQCAIBAEAQCAIBAEAQCAIBAEJXA"
    "GABQGAYDAMBQGAYDAMBQGAYDAMBQGAYDAMBQGAYDAMBQGAYDAMBQHGPC"
    "CACQKBIFAUCQKBIFAUCQKBIFAUCQKBIFAUCQKBIFAUCQKBIFAUCQLC2U" "1500000000"

def goldenRelease : ChainEvent where
  id := "0002200479567253506-0000000001"
  contractId := "CACAIBAEAQCAIBAEAQCAIBAEAQCAIBAEAQCAIBAEAQCAIBAEAQCAINCW"
  txHash := "3f79bb7b435b05321651daefd374cdc681dc06faa65e374e38337b88ca046dea"
  ledger := 512400
  body := .escrowRelease "66a0b1c2d3e4f50617283940"
    "3e23e8160039594a33894f6564e1b1348bbd7a0088d42c4acb73eeaed59c009d"
    "GABQGAYDAMBQGAYDAMBQGAYDAMBQGAYDAMBQGAYDAMBQGAYDAMBQHGPC" "1500000000"

theorem attributed_iff_sample : ∃ store' summary env', (indexStellarTransactions none 3).run
    (indexerWorld plainRules (streaming [goldenAnchor, goldenInit])) (fun _ => {}) {} =
      (store', .ok summary, env') ∧ Attributed [goldenAnchor, goldenInit] store'.blocks := by
  refine (attributed_iff (fun _ => rfl) (by decide +kernel) (by decide)).mpr ?_
  intro before event after hEvents paymentId proofHash payee amount hBody
  have hMem : event ∈ [goldenAnchor, goldenInit] := by
    rw [hEvents]
    simp
  rcases List.mem_pair.mp hMem with rfl | rfl <;> cases hBody

/-- The golden release is stored under its payment's identifier. -/
theorem goldenRelease_misattributed : ¬∀ (events : List ChainEvent) (env : Nat → Decision)
    (limit : Nat), (∀ event ∈ events, event.isValid) → (∀ n, (env n).fault = none) →
      (events.map (·.txHash)).Nodup → events.length < limit →
        (∀ before event after, events = before ++ event :: after →
          ∃ shipmentId, About before event.body shipmentId) →
            ∃ store' summary env', (indexStellarTransactions none limit).run
              (indexerWorld plainRules (streaming events)) env {} = (store', .ok summary, env') ∧
                Attributed events store'.blocks := by
  intro h
  have hAbout : ∀ before event after, [goldenInit, goldenRelease] = before ++ event :: after →
      ∃ shipmentId, About before event.body shipmentId := by
    intro before event after hEvents
    rcases before with _ | ⟨first, _ | ⟨second, rest⟩⟩
    · cases hEvents
      exact ⟨_, .escrowInit _ _ _ _ _ _⟩
    · cases hEvents
      exact ⟨_, .escrowRelease List.mem_cons_self rfl _ _ _⟩
    · simp at hEvents
  obtain ⟨store', summary, env', hRun, hAttributed⟩ := h [goldenInit, goldenRelease]
    (fun _ => {}) 3 (by decide +kernel) (fun _ => rfl) (by decide +kernel) (by decide) hAbout
  obtain ⟨block, hFound, hShipment⟩ := hAttributed [goldenInit] goldenRelease [] rfl
  have hStored : (((indexStellarTransactions none 3).run (indexerWorld plainRules
      (streaming [goldenInit, goldenRelease])) (fun _ => {}) {}).1.blocks.find?
        (hasTransaction goldenRelease.txHash)).bind (· "shipmentId") =
          some (.string "66a0b1c2d3e4f50617283940") := by
    rfl
  rw [hRun, hFound, Option.bind_some,
    hShipment _ (.escrowRelease List.mem_cons_self rfl _ _ _)] at hStored
  simp at hStored

end Attribution

end Navin
