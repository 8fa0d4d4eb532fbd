import Navin.Semantics.Protocol
import Navin.Workers.IndexerStream

/-! Crashes of the indexer. A block and the position are stored by two separate
writes, and the position's reads and writes may fail unnoticed. Whatever was
stored before a crash, the next run finds an initial part of the history. -/
namespace Navin

open Async Database

/-- The events after a position. -/
abbrev eventsAfter (events : List ChainEvent) (position : Option String) : List ChainEvent :=
  Cursor.itemsAfter (·.id) events position

/-- An adapter that yields exactly the events after the position, in order. -/
def following (events : List ChainEvent) : Nat → Option String → Option ChainEvent :=
  fun _ position => (eventsAfter events position).head?

/-- Nothing is rejected but shipment ids that are no identifiers. -/
def castingRules : UpsertRules := ⟨false, true⟩

/-- A single worker that indexes the events. -/
def indexingPool (events : List ChainEvent) (store : IndexerStore) (limit : Nat) :
    Pool (indexerWorld castingRules (following events)) Unit IndexerSummary :=
  ⟨store, fun _ => indexStellarTransactions none limit⟩

/-- What runs of single workers, one after the other, may leave behind. Each run
starts with what the one before has left, and may end at any await. -/
inductive Recovered (events : List ChainEvent) : IndexerStore → Prop
  | start : Recovered events {}
  | crash {store : IndexerStore} {limit : Nat}
      {point : Point (indexerWorld castingRules (following events)) Unit IndexerSummary}
      (prior : Recovered events store)
      (run : GuardedRun anyStep (indexingPool events store limit) point) :
      Recovered events point.2.store

/-- What the worker is about to do. -/
inductive IndexerState where
  | looking
  | pulling (position : Option String)
  | pulled (event : ChainEvent)
  | stamped (event : ChainEvent) (indexedAt : Date)
  | stored (event : ChainEvent)
  | finished
  | thrown

namespace IndexerState

/-- The position from which the next event may be pulled. -/
def position : IndexerState → Option (Option String)
  | .pulling position => some position
  | .stored event => some (some event.id)
  | _ => none

end IndexerState

def indexing : Protocol BackendCall BackendCall.Answer ThrownError IndexerState where
  allows state call := match call with
    | .getStoredCursor => state = .looking
    | .streamEvent position => state.position = some position
    | .now => ∃ event, state = .pulled event
    | .ledgerUpsert transactionHash upsert => ∃ event indexedAt,
        state = .stamped event indexedAt ∧ transactionHash = event.txHash ∧
          upsert = event.upsert indexedAt
    | .saveStoredCursor cursor => ∃ event, state = .stored event ∧ cursor = event.id
    | _ => False
  next state call response := match call, response with
    | .getStoredCursor, .ok cursor => .pulling cursor
    | .streamEvent _, .ok none => .finished
    | .streamEvent _, .ok (some event) => .pulled event
    | .now, .ok indexedAt => match state with
        | .pulled event => .stamped event indexedAt
        | _ => .thrown
    | .ledgerUpsert _ _, .ok _ => match state with
        | .stamped event _ => .stored event
        | _ => .thrown
    | .saveStoredCursor cursor, .ok _ => .pulling (some cursor)
    | _, _ => .thrown

section Follows

theorem saveCursor_follows (event : ChainEvent) :
    (saveCursor event.id).Follows indexing (fun s outcome =>
      outcome = .ok () → s.position = some (some event.id)) (.stored event) := by
  unfold saveCursor
  split
  · exact fun _ => rfl
  · rename_i cursor hTruthy
    have hCursor : event.id = cursor := (Option.filter_eq_some_iff.mp hTruthy).1 |> Option.some.inj
    refine Program.follows_await.mpr ⟨⟨event, rfl, hCursor.symm⟩, fun response hOk => ?_⟩
    rw [hOk, hCursor]
    rfl

/-- A turn ends the run, or is ready for the next one. -/
theorem indexNextEvent_follows {position : Option String} {s : IndexerState}
    (h : s.position = some position) :
    (indexNextEvent position).Follows indexing
      (fun s outcome => ∀ cursor inserted, outcome = .ok (some (cursor, inserted)) →
        s.position = some (some cursor)) s := by
  refine Program.follows_bind.mpr (Program.follows_await.mpr ⟨h, fun response => ?_⟩)
  rcases response with error | (_ | event)
  · exact nofun
  · exact nofun
  · refine Program.follows_bind.mpr (Program.follows_await.mpr ⟨⟨event, rfl⟩, fun response => ?_⟩)
    rcases response with error | indexedAt
    · exact nofun
    · refine Program.follows_bind.mpr (Program.follows_await.mpr
        ⟨⟨event, indexedAt, rfl, rfl, rfl⟩, fun response => ?_⟩)
      rcases response with error | inserted
      · exact nofun
      · refine (saveCursor_follows event).bind (fun s _ hSaved => ?_) fun _ _ _ => nofun
        intro cursor _ hOk
        cases hOk
        exact hSaved rfl

theorem indexEvents_follows {limit : Nat} {summary : IndexerSummary} {s : IndexerState}
    (h : s.position = some summary.lastCursor) :
    (indexEvents limit summary).Follows indexing (fun _ _ => True) s := by
  induction limit generalizing summary s with
  | zero => trivial
  | succ limit ih =>
      refine (indexNextEvent_follows h).bind (fun s turn hTurn => ?_) fun _ _ _ => trivial
      cases turn with
      | none => trivial
      | some next => exact ih (hTurn next.1 next.2 rfl)

theorem indexStellarTransactions_follows (limit : Nat) :
    (indexStellarTransactions none limit).Follows indexing (fun _ _ => True) .looking := by
  refine Program.follows_bind.mpr (Program.follows_await.mpr ⟨rfl, fun response => ?_⟩)
  rcases response with error | cursor
  · trivial
  · exact indexEvents_follows rfl

end Follows

section Progress

variable {events done rest before after : List ChainEvent} {event : ChainEvent}
  {position : Option String} {state : IndexerState} {store : IndexerStore} {decision : Decision}

/-- The position is the beginning, or an event of these. -/
def Within (done : List ChainEvent) (position : Option String) : Prop :=
  ∀ cursor, position = some cursor → ∃ event ∈ done, event.id = cursor

/-- What the worker is about to do stays within the events that are stored, and
the next one. -/
def Ready (done rest : List ChainEvent) : IndexerState → Prop
  | .looking | .thrown => True
  | .pulling position => Within done position
  | .pulled event | .stamped event _ => event ∈ done ∨ rest.head? = some event
  | .stored event => event ∈ done
  | .finished => rest = []

/-- The blocks are those of an initial part of the history, and the saved position
is within it. -/
structure Progress (done rest : List ChainEvent) (state : IndexerState) (store : IndexerStore) :
    Prop where
  blocks : BlocksOf done store.blocks
  cursor : Within done store.cursor
  ready : Ready done rest state

def IndexerInv (events : List ChainEvent) (state : IndexerState) (store : IndexerStore) : Prop :=
  ∃ done rest, events = done ++ rest ∧ Progress done rest state store

theorem Within.mono (h : Within done position) : Within (done ++ [event]) position := by
  intro cursor hCursor
  obtain ⟨earlier, hEarlier, hId⟩ := h cursor hCursor
  exact ⟨earlier, List.mem_append_left _ hEarlier, hId⟩

theorem Ready.within (h : Ready done rest state) (hPosition : state.position = some position) :
    Within done position := by
  cases state with
  | pulling resumed =>
      cases hPosition
      exact h
  | stored event =>
      cases hPosition
      rintro cursor ⟨⟩
      exact ⟨event, h, rfl⟩
  | _ => cases hPosition

/-- From a position within the stored events, the adapter yields one of them or
the next one, and ends only after the last. -/
theorem following_within (hIds : ((done ++ rest).map (·.id)).Nodup) (h : Within done position) :
    match (eventsAfter (done ++ rest) position).head? with
    | none => rest = []
    | some event => event ∈ done ∨ rest.head? = some event := by
  have hSplit : ∃ replayed, (∀ event ∈ replayed, event ∈ done) ∧
      eventsAfter (done ++ rest) position = replayed ++ rest := by
    cases position with
    | none => exact ⟨done, fun _ hMem => hMem, rfl⟩
    | some cursor =>
        obtain ⟨event, hMem, rfl⟩ := h cursor rfl
        obtain ⟨before, after, rfl⟩ := List.mem_iff_append.mp hMem
        rw [List.append_assoc, List.cons_append] at hIds ⊢
        refine ⟨after, fun _ hAfter => ?_, Cursor.itemsAfter_split _ hIds⟩
        exact List.mem_append_right _ (List.mem_cons_of_mem _ hAfter)
  obtain ⟨replayed, hReplayed, hAfter⟩ := hSplit
  rw [hAfter]
  cases replayed with
  | nil => cases rest <;> simp
  | cons event replayed => exact .inl (hReplayed event List.mem_cons_self)

/-- Storing one of the stored events again, or the next one. -/
theorem BlocksOf.upsert {blocks : List (Document Value)}
    (hHashes : ((done ++ rest).map (·.txHash)).Nodup) (h : BlocksOf done blocks)
    (hEvent : event ∈ done ∨ rest.head? = some event) (indexedAt : Date) :
    ∃ done' rest', done ++ rest = done' ++ rest' ∧ event ∈ done' ∧
      (∀ position, Within done position → Within done' position) ∧
      BlocksOf done' (updateOne (hasTransaction event.txHash)
        ((event.upsert indexedAt).updateDocument event.txHash) blocks).1 := by
  rcases hEvent with hMem | hNext
  · refine ⟨done, rest, rfl, hMem, fun _ hWithin => hWithin, ?_⟩
    obtain ⟨before, after, rfl⟩ := List.mem_iff_append.mp hMem
    rw [List.append_assoc, List.cons_append, List.map_append, List.nodup_append] at hHashes
    exact h.storeAgain (fun earlier hEarlier => hHashes.2.2 _ (List.mem_map_of_mem hEarlier) _
      (List.mem_map_of_mem List.mem_cons_self)) indexedAt
  · obtain ⟨rest, rfl⟩ := List.head?_eq_some_iff.mp hNext
    refine ⟨done ++ [event], rest, by simp, by simp, fun _ hWithin => hWithin.mono, ?_⟩
    rw [List.map_append, List.nodup_append] at hHashes
    exact h.store (fun earlier hEarlier => hHashes.2.2 _ (List.mem_map_of_mem hEarlier) _
      (List.mem_map_of_mem List.mem_cons_self)) indexedAt

/-- A call has its effect and is answered, or fails before or after its effect. -/
theorem performIndexer_cases (decision : Decision) (store : IndexerStore) (call : BackendCall) :
    performIndexer castingRules (following events) decision store call =
        executeIndexer castingRules (following events) decision store call ∨
      ∃ error, performIndexer castingRules (following events) decision store call =
          (store, recover decision error call) ∨
        performIndexer castingRules (following events) decision store call =
          ((executeIndexer castingRules (following events) decision store call).1,
            recover decision error call) := by
  unfold performIndexer
  rcases decision.fault with _ | (error | error)
  · exact .inl rfl
  · exact .inr ⟨error, .inl rfl⟩
  · exact .inr ⟨error, .inr rfl⟩

/-- A failed read is taken for a missing position. -/
theorem Progress.lookUp (h : Progress done rest state store) :
    Progress done rest (indexing.next state .getStoredCursor
      (performIndexer castingRules (following events) decision store .getStoredCursor).2)
      (performIndexer castingRules (following events) decision store .getStoredCursor).1 := by
  rcases @performIndexer_cases events decision store .getStoredCursor with
    hDone | ⟨error, hRejected | hLost⟩
  · rw [hDone]
    exact ⟨h.blocks, h.cursor, h.cursor⟩
  · rw [hRejected]
    exact ⟨h.blocks, h.cursor, nofun⟩
  · rw [hLost]
    exact ⟨h.blocks, h.cursor, nofun⟩

theorem Progress.pull (hIds : ((done ++ rest).map (·.id)).Nodup)
    (h : Progress done rest state store) (hPosition : state.position = some position) :
    Progress done rest (indexing.next state (.streamEvent position)
      (performIndexer castingRules (following (done ++ rest)) decision store
        (.streamEvent position)).2)
      (performIndexer castingRules (following (done ++ rest)) decision store
        (.streamEvent position)).1 := by
  have hNext := following_within hIds (h.ready.within hPosition)
  rcases @performIndexer_cases (done ++ rest) decision store (.streamEvent position) with
    hDone | ⟨error, hRejected | hLost⟩
  · rw [hDone, executeIndexer, following]
    generalize (eventsAfter (done ++ rest) position).head? = head at hNext
    cases head with
    | none => exact ⟨h.blocks, h.cursor, hNext⟩
    | some event => exact ⟨h.blocks, h.cursor, hNext⟩
  · rw [hRejected]
    exact ⟨h.blocks, h.cursor, trivial⟩
  · rw [hLost]
    exact ⟨h.blocks, h.cursor, trivial⟩

theorem Progress.stamp (h : Progress done rest (.pulled event) store) :
    Progress done rest (indexing.next (.pulled event) .now
      (performIndexer castingRules (following events) decision store .now).2)
      (performIndexer castingRules (following events) decision store .now).1 := by
  rcases @performIndexer_cases events decision store .now with
    hDone | ⟨error, hRejected | hLost⟩
  · rw [hDone]
    exact ⟨h.blocks, h.cursor, h.ready⟩
  · rw [hRejected]
    exact ⟨h.blocks, h.cursor, h.ready⟩
  · rw [hLost]
    exact ⟨h.blocks, h.cursor, h.ready⟩

/-- A failed write may have had its effect, and goes unnoticed either way. -/
theorem Progress.save (h : Progress done rest (.stored event) store) :
    Progress done rest (indexing.next (.stored event) (.saveStoredCursor event.id)
      (performIndexer castingRules (following events) decision store
        (.saveStoredCursor event.id)).2)
      (performIndexer castingRules (following events) decision store
        (.saveStoredCursor event.id)).1 := by
  have hWithin : Within done (some event.id) := by
    rintro cursor ⟨⟩
    exact ⟨event, h.ready, rfl⟩
  rcases @performIndexer_cases events decision store (.saveStoredCursor event.id) with
    hDone | ⟨error, hRejected | hLost⟩
  · rw [hDone]
    exact ⟨h.blocks, hWithin, hWithin⟩
  · rw [hRejected]
    exact ⟨h.blocks, h.cursor, hWithin⟩
  · rw [hLost]
    exact ⟨h.blocks, hWithin, hWithin⟩

theorem Progress.upsert {indexedAt : Date} (hHashes : ((done ++ rest).map (·.txHash)).Nodup)
    (hCasts : ∀ event ∈ done ++ rest, (ObjectId.cast? (event.upsert ⟨0⟩).shipmentId).isSome)
    (h : Progress done rest (.stamped event indexedAt) store) :
    IndexerInv (done ++ rest) (indexing.next (.stamped event indexedAt)
      (.ledgerUpsert event.txHash (event.upsert indexedAt))
      (performIndexer castingRules (following events) decision store
        (.ledgerUpsert event.txHash (event.upsert indexedAt))).2)
      (performIndexer castingRules (following events) decision store
        (.ledgerUpsert event.txHash (event.upsert indexedAt))).1 := by
  have hMem : event ∈ done ++ rest := by
    rcases h.ready with hDone | hNext
    · exact List.mem_append_left _ hDone
    · exact List.mem_append_right _ (List.mem_of_head? hNext)
  have hUpsert := @executeIndexer_upsert castingRules (following events) store event
    ⟨rfl, fun _ => hCasts event hMem⟩ decision indexedAt
  obtain ⟨done', rest', hSplit, hStored, hWithin, hBlocks⟩ :=
    h.blocks.upsert hHashes h.ready indexedAt
  rcases @performIndexer_cases events decision store
    (.ledgerUpsert event.txHash (event.upsert indexedAt)) with hDone | ⟨error, hRejected | hLost⟩
  · rw [hDone, hUpsert]
    exact ⟨done', rest', hSplit, hBlocks, hWithin _ h.cursor, hStored⟩
  · rw [hRejected]
    exact ⟨done, rest, rfl, h.blocks, h.cursor, trivial⟩
  · rw [hLost, hUpsert]
    exact ⟨done', rest', hSplit, hBlocks, hWithin _ h.cursor, trivial⟩

theorem IndexerInv.step {call : BackendCall} (hIds : (events.map (·.id)).Nodup)
    (hHashes : (events.map (·.txHash)).Nodup)
    (hCasts : ∀ event ∈ events, (ObjectId.cast? (event.upsert ⟨0⟩).shipmentId).isSome)
    (h : IndexerInv events state store) (hAllows : indexing.allows state call) :
    IndexerInv events (indexing.next state call
      (performIndexer castingRules (following events) decision store call).2)
      (performIndexer castingRules (following events) decision store call).1 := by
  obtain ⟨done, rest, rfl, hProgress⟩ := h
  cases call with
  | getStoredCursor => exact ⟨done, rest, rfl, hProgress.lookUp⟩
  | streamEvent position => exact ⟨done, rest, rfl, hProgress.pull hIds hAllows⟩
  | now =>
      obtain ⟨event, rfl⟩ := hAllows
      exact ⟨done, rest, rfl, hProgress.stamp⟩
  | ledgerUpsert transactionHash upsert =>
      obtain ⟨event, indexedAt, rfl, rfl, rfl⟩ := hAllows
      exact hProgress.upsert hHashes hCasts
  | saveStoredCursor cursor =>
      obtain ⟨event, rfl, rfl⟩ := hAllows
      exact ⟨done, rest, rfl, hProgress.save⟩
  | _ => exact hAllows.elim

end Progress

/-- In a run, the stream has ended. -/
def ReachedEnd (history : List (Event BackendCall BackendCall.Answer ThrownError Unit)) : Prop :=
  ∃ position, ⟨(), .streamEvent position, .ok none⟩ ∈ history

section Crashes

variable {events : List ChainEvent} (hIds : (events.map (·.id)).Nodup)
  (hHashes : (events.map (·.txHash)).Nodup)
  (hCasts : ∀ event ∈ events, (ObjectId.cast? (event.upsert ⟨0⟩).shipmentId).isSome)
  {store : IndexerStore} {limit : Nat}
  {point : Point (indexerWorld castingRules (following events)) Unit IndexerSummary}
include hIds hHashes hCasts

/-- One run, up to any of its awaits. -/
theorem indexerInv_of_run (hStart : IndexerInv events .looking store)
    (run : GuardedRun anyStep (indexingPool events store limit) point) :
    IndexerInv events (indexing.after (fun _ => .looking) point.1 ()) point.2.store := by
  refine GuardedRun.invariant indexing (fun _ => .looking) run
    (fun _ => indexStellarTransactions_follows limit)
    (fun history store => IndexerInv events (indexing.after (fun _ => .looking) history ()) store)
    hStart ?_
  intro history store decision i call hInv hAllows _
  rw [indexing.after_cons_self (fun _ => .looking) ⟨(), call, _⟩]
  exact hInv.step hIds hHashes hCasts hAllows

/-- Whatever a run has left, the next one may start with it. -/
theorem Recovered.inv (h : Recovered events store) : IndexerInv events .looking store := by
  induction h with
  | start => exact ⟨[], events, rfl, rfl, nofun, trivial⟩
  | crash _ run ih =>
      obtain ⟨done, rest, hEvents, hProgress⟩ := indexerInv_of_run hIds hHashes hCasts ih run
      exact ⟨done, rest, hEvents, hProgress.blocks, hProgress.cursor, trivial⟩

omit hIds hHashes hCasts in
/-- Nothing is done after the stream has ended. -/
theorem finished_of_reachedEnd (run : GuardedRun anyStep (indexingPool events store limit) point)
    (hEnd : ReachedEnd point.1) :
    indexing.after (fun _ => .looking) point.1 () = .finished := by
  revert hEnd
  refine GuardedRun.invariant indexing (fun _ => .looking) run
    (fun _ => indexStellarTransactions_follows limit)
    (fun history _ => ReachedEnd history →
      indexing.after (fun _ => .looking) history () = .finished) ?_ ?_
  · rintro ⟨position, hMem⟩
    cases hMem
  · rintro history store decision ⟨⟩ call hPrior hAllows - ⟨position, hMem⟩
    rw [indexing.after_cons_self (fun _ => .looking) ⟨(), call, _⟩]
    generalize ((indexerWorld castingRules (following events)).perform decision store call).2 =
      response at hMem
    rcases List.mem_cons.mp hMem with hNew | hOld
    · cases hNew
      rfl
    · rw [hPrior ⟨position, hOld⟩] at hAllows
      cases call with
      | getStoredCursor => cases hAllows
      | streamEvent position => cases hAllows
      | now =>
          obtain ⟨event, hState⟩ := hAllows
          cases hState
      | ledgerUpsert transactionHash upsert =>
          obtain ⟨event, indexedAt, hState, -⟩ := hAllows
          cases hState
      | saveStoredCursor cursor =>
          obtain ⟨event, hState, -⟩ := hAllows
          cases hState
      | _ => exact hAllows.elim

omit hHashes hCasts in
theorem following_yields : Yields events none (following events) := by
  rintro done rest rfl
  rw [following, eventsAfter, Cursor.itemsAfter_resume _ hIds]

/-- One run that nothing interrupts. -/
theorem clean_run {env : Nat → Decision} (hFault : ∀ n, (env n).fault = none)
    (hLimit : events.length < limit) :
    ∃ store summary env', (indexStellarTransactions none limit).run
      (indexerWorld castingRules (following events)) env {} = (store, .ok summary, env') ∧
        BlocksOf events store.blocks := by
  obtain ⟨env', hFault', hRun⟩ :=
    indexStellarTransactions_run castingRules (following events) {} hFault none limit
  rw [hRun]
  exact indexEvents_stores hFault' hHashes (fun event hMem => ⟨rfl, fun _ => hCasts event hMem⟩)
    (following_yields hIds) (List.nil_append events).symm rfl rfl rfl hLimit

end Crashes

/-- The pull that finds the end of the stream. -/
def endsStream : Event BackendCall BackendCall.Answer ThrownError Unit → Bool
  | ⟨_, .streamEvent _, .ok none⟩ => true
  | _ => false

theorem reachedEnd_of_any {history : List (Event BackendCall BackendCall.Answer ThrownError Unit)}
    (h : history.any endsStream = true) : ReachedEnd history := by
  obtain ⟨event, hMem, hEnds⟩ := List.any_eq_true.mp h
  unfold endsStream at hEnds
  split at hEnds
  · rename_i position
    exact ⟨position, hMem⟩
  · cases hEnds

end Navin
