import Navin.Middleware.RateLimiter
import Navin.Semantics.Restriction
import Navin.Semantics.Stops

/-! Does every counter expire? A counter is made by one command and gets its time to live by
the next. -/
namespace Navin.RateLimiter

open Async

inductive LimiterOperation where
  | increment
  | decrement
  | resetKey

/-- One call of a method of the store. -/
structure LimiterRequest (π : Type) where
  this : π
  store : RedisRateLimitStore
  key : String
  operation : LimiterOperation

variable {π : Type}

def LimiterRequest.redisKey (request : LimiterRequest π) : String :=
  request.store.redisKey request.key

def LimiterRequest.program (request : LimiterRequest π) :
    LimiterM π (Option IncrementResponse) :=
  match request.operation with
  | .increment => do
      let response ← increment request.this request.store request.key
      return some response
  | .decrement => do
      decrement request.this request.store request.key
      return none
  | .resetKey => do
      resetKey request.this request.store request.key
      return none

/-- The key a method is about, its time to live, and whether the method has made the counter
and not set its time to live yet. -/
structure Expiry where
  redisKey : String
  seconds : Nat
  due : Bool := false

def LimiterRequest.expiry (request : LimiterRequest π) : Expiry where
  redisKey := request.redisKey
  seconds := request.store.windowSeconds

/-- What is made is given a time to live next. -/
def expiresWhatItMakes :
    Protocol (LimiterCall π) LimiterCall.Answer ThrownError Expiry where
  allows expiry call :=
    match call with
    | .incr key => expiry.due = false ∧ key = expiry.redisKey
    | .expire key seconds => expiry.due = true ∧ key = expiry.redisKey ∧ seconds = expiry.seconds
    | .decr key => expiry.due = false ∧ key = expiry.redisKey
    | _ => expiry.due = false
  next expiry call response :=
    match call, response with
    | .incr _, .ok totalHits => { expiry with due := totalHits = 1 }
    | .expire _ _, _ => { expiry with due := false }
    | _, _ => expiry

section Follows

/-- No counter of the method waits for its time to live. -/
def Settled {α : Type} (expiry : Expiry) (_ : Except ThrownError α) : Prop :=
  expiry.due = false

variable {this : π} {store : RedisRateLimitStore} {key : String} {expiry : Expiry}

theorem follows_now (h : expiry.due = false) (totalHits : Int) :
    (do
      let ttlMs ← ask (.pttl (store.redisKey key))
      let now ← ask .now
      pure ⟨totalHits, now + if 0 < ttlMs then ttlMs else store.windowMs⟩ :
        LimiterM π IncrementResponse).Follows expiresWhatItMakes Settled expiry :=
  .await_bind h (fun _ => h) fun _ => .await_bind h (fun _ => h) fun _ => h

theorem increment_follows : (increment this store key).Follows expiresWhatItMakes Settled
    ⟨store.redisKey key, store.windowSeconds, false⟩ := by
  refine .await_bind rfl (fun _ => rfl) fun client => ?_
  split
  · refine Program.Follows.tryCatch (Q := Settled) ?_ (fun _ _ h => h) fun expiry _ h =>
      .await_bind h (fun _ => h) fun _ => Program.follows_await.mpr ⟨h, fun _ => h⟩
    refine .await_bind ⟨rfl, rfl⟩ (fun _ => rfl) fun totalHits => ?_
    by_cases hFirst : totalHits = 1
    · rw [if_pos hFirst]
      exact .await_bind ⟨decide_eq_true hFirst, rfl, rfl⟩ (fun _ => rfl) fun _ =>
        follows_now rfl totalHits
    · rw [if_neg hFirst]
      exact follows_now (decide_eq_false hFirst) totalHits
  · exact Program.follows_await.mpr ⟨rfl, fun _ => rfl⟩

theorem decrement_follows : (decrement this store key).Follows expiresWhatItMakes Settled
    ⟨store.redisKey key, store.windowSeconds, false⟩ := by
  refine .await_bind rfl (fun _ => rfl) fun client => ?_
  split
  · exact Program.Follows.tryCatch (Q := Settled)
      (.await_bind ⟨rfl, rfl⟩ (fun _ => rfl) fun _ => rfl) (fun _ _ h => h)
      fun _ _ h => Program.follows_await.mpr ⟨h, fun _ => h⟩
  · exact Program.follows_await.mpr ⟨rfl, fun _ => rfl⟩

theorem resetKey_follows : (resetKey this store key).Follows expiresWhatItMakes Settled
    ⟨store.redisKey key, store.windowSeconds, false⟩ := by
  refine .await_bind rfl (fun _ => rfl) fun client => ?_
  split
  · exact Program.Follows.tryCatch (Q := Settled)
      (.await_bind rfl (fun _ => rfl) fun _ => rfl) (fun _ _ h => h)
      fun _ _ h => Program.follows_await.mpr ⟨h, fun _ => h⟩
  · exact Program.follows_await.mpr ⟨rfl, fun _ => rfl⟩

theorem LimiterRequest.program_follows (request : LimiterRequest π) :
    request.program.Follows expiresWhatItMakes Settled request.expiry := by
  unfold LimiterRequest.program
  split
  · exact increment_follows.bind (fun _ _ h => h) fun _ _ h => h
  · exact decrement_follows.bind (fun _ _ h => h) fun _ _ h => h
  · exact resetKey_follows.bind (fun _ _ h => h) fun _ _ h => h

end Follows

section Statements

variable {ι Result : Type}

/-- The counter under a key has at most that time to live, and is gone after it if there are
no commands. -/
structure ExpiresWithin (store : LimiterStore π) (key : String) (seconds : Nat) : Prop where
  bounded : ∀ counter ∈ store.counter key,
    ∃ expiresAt ∈ counter.expiresAt, expiresAt ≤ store.clock + seconds * 1000
  gone : (store.wait (seconds * 1000)).counter key = none

/-- A call that runs is about to give the counter under a key its time to live. -/
def ExpireComes (threads : ι → LimiterM π Result) (stopped : ι → Prop) (key : String) : Prop :=
  ∃ i seconds next, ¬stopped i ∧ threads i = .call (.expire key seconds) next

/-- The counters of all calls expire within their windows. -/
def CountersExpire (requests : ι → LimiterRequest π) (store : LimiterStore π)
    (threads : ι → LimiterM π Result) (stopped : ι → Prop) : Prop :=
  ∀ i, ExpiresWithin store (requests i).redisKey (requests i).store.windowSeconds ∨
    ExpireComes threads stopped (requests i).redisKey

def takesEffect : Option Fault → Bool
  | some (.rejected _) => false
  | _ => true

/-- No counter is left without a time to live: the answer of an `INCR` that makes one is not
lost, a `DECR` does not make one, and an `EXPIRE` that is needed is carried out. -/
def keepsExpiry (store : LimiterStore π) (call : LimiterCall π) (decision : LimiterDecision) :
    Prop :=
  let store := store.wait decision.elapsed
  match call with
  | .incr key =>
      decision.fault.isSome → takesEffect decision.fault → (store.counter key).isSome
  | .decr key => takesEffect decision.fault → (store.counter key).isSome
  | .expire key _ =>
      takesEffect decision.fault ∨ ∀ counter ∈ store.counter key, counter.expiresAt.isSome
  | _ => True

end Statements

section Steps

variable {ι : Type} {requests : ι → LimiterRequest π} {expiry expiry' : ι → Expiry}
  {store store' : LimiterStore π} {stopped : ι → Prop} {i : ι}

/-- A counter without a time to live is one that a running call still has to give one. -/
structure Maintained (requests : ι → LimiterRequest π) (expiry : ι → Expiry)
    (store : LimiterStore π) (stopped : ι → Prop) : Prop where
  bounded : ∀ i, ∀ counter ∈ store.counter (requests i).redisKey,
    ∀ expiresAt ∈ counter.expiresAt,
      expiresAt ≤ store.clock + (requests i).store.windowSeconds * 1000
  covered : ∀ i, ∀ counter ∈ store.counter (requests i).redisKey, counter.expiresAt = none →
    ∃ j, ¬stopped j ∧ (requests j).redisKey = (requests i).redisKey ∧ (expiry j).due = true

theorem Maintained.wait (h : Maintained requests expiry store stopped) (ms : Nat) :
    Maintained requests expiry (store.wait ms) stopped := by
  have hEarlier (key : String) (counter : Redis.Counter)
      (hLater : (store.wait ms).counter key = some counter) : store.counter key = some counter :=
    Redis.Keyspace.get_of_later (by simp only [LimiterStore.wait]; omega) hLater
  constructor
  · intro i counter hCounter expiresAt hExpires
    have hBefore := h.bounded i counter (hEarlier _ _ hCounter) expiresAt hExpires
    simp only [LimiterStore.wait]
    omega
  · exact fun i counter hCounter => h.covered i counter (hEarlier _ _ hCounter)

/-- Counters of the same times to live, or fewer, and no call less that has to give one. -/
theorem Maintained.frame (h : Maintained requests expiry store stopped)
    (hClock : store'.clock = store.clock)
    (hCounters : ∀ i, ∀ counter ∈ store'.counter (requests i).redisKey,
      ∃ before ∈ store.counter (requests i).redisKey, counter.expiresAt = before.expiresAt)
    (hDue : ∀ j, (expiry j).due = true → (expiry' j).due = true) :
    Maintained requests expiry' store' stopped := by
  constructor
  · intro i counter hCounter expiresAt hExpires
    obtain ⟨before, hBefore, hSame⟩ := hCounters i counter hCounter
    rw [hClock]
    exact h.bounded i before hBefore expiresAt (hSame ▸ hExpires)
  · intro i counter hCounter hNone
    obtain ⟨before, hBefore, hSame⟩ := hCounters i counter hCounter
    obtain ⟨j, hRunning, hKey, hOpen⟩ := h.covered i before hBefore (hSame ▸ hNone)
    exact ⟨j, hRunning, hKey, hDue j hOpen⟩

variable (hShared : ∀ i j, (requests i).redisKey = (requests j).redisKey →
  (requests i).store.windowMs = (requests j).store.windowMs)

include hShared

/-- The counter of one call has a time to live now. -/
theorem Maintained.expire (h : Maintained requests expiry store stopped)
    (hClock : store'.clock = store.clock)
    (hOthers : ∀ key, key ≠ (requests i).redisKey → store'.counter key = store.counter key)
    (hOwn : ∀ counter ∈ store'.counter (requests i).redisKey,
      ∃ expiresAt ∈ counter.expiresAt,
        expiresAt ≤ store.clock + (requests i).store.windowSeconds * 1000)
    (hDue : ∀ j ≠ i, (expiry j).due = true → (expiry' j).due = true) :
    Maintained requests expiry' store' stopped := by
  constructor
  · intro j counter hCounter expiresAt hExpires
    by_cases hKey : (requests j).redisKey = (requests i).redisKey
    · rw [hKey] at hCounter
      obtain ⟨bound, hBound, hLe⟩ := hOwn counter hCounter
      rw [Option.mem_def] at hBound hExpires
      rw [hBound] at hExpires
      cases hExpires
      rw [hClock, RedisRateLimitStore.windowSeconds, hShared j i hKey]
      exact hLe
    · rw [hOthers _ hKey] at hCounter
      rw [hClock]
      exact h.bounded j counter hCounter expiresAt hExpires
  · intro j counter hCounter hNone
    by_cases hKey : (requests j).redisKey = (requests i).redisKey
    · rw [hKey] at hCounter
      obtain ⟨bound, hBound, -⟩ := hOwn counter hCounter
      rw [hNone] at hBound
      cases hBound
    · rw [hOthers _ hKey] at hCounter
      obtain ⟨k, hRunning, hSame, hOpen⟩ := h.covered j counter hCounter hNone
      have hOther : k ≠ i := by
        rintro rfl
        exact hKey hSame.symm
      exact ⟨k, hRunning, hSame, hDue k hOther hOpen⟩

end Steps

section Calls

variable {ι : Type} [DecidableEq ι] {requests : ι → LimiterRequest π} {expiry : ι → Expiry}
  {store : LimiterStore π} {stopped : ι → Prop} {i : ι} {key : String}
  {decision : LimiterDecision}

theorem command_store (fault : Option Fault) (effect : Redis.Keyspace × Int) :
    (store.command fault effect).1 =
      if takesEffect fault then { store with counters := effect.1 } else store := by
  rcases fault with _ | _ | _ <;> rfl

/-- A call for which no time to live is due takes none from the others. -/
theorem due_update (h : (expiry i).due = false) (next : Expiry) (j : ι)
    (hDue : (expiry j).due = true) : (Function.update expiry i next j).due = true := by
  have hOther : j ≠ i := by
    rintro rfl
    rw [h] at hDue
    cases hDue
  rwa [Function.update_of_ne hOther]

/-- Counting keeps the time to live of a counter that is present. -/
theorem Maintained.count (h : Maintained requests expiry store stopped)
    (hDone : (expiry i).due = false) (amount : Int) (next : Expiry)
    (hPresent : takesEffect decision.fault = true → (store.counter key).isSome = true) :
    Maintained requests (Function.update expiry i next)
      (store.command decision.fault
        (Redis.Keyspace.incrBy store.counters store.clock key amount)).1 stopped := by
  rw [command_store]
  split
  · rename_i hEffect
    refine h.frame rfl (fun j counter hCounter => ?_) (due_update hDone next)
    by_cases hKey : (requests j).redisKey = key
    · subst hKey
      rcases Redis.Keyspace.expiresAt_of_get_incrBy hCounter with hBefore | ⟨hAbsent, -⟩
      · exact hBefore
      · have hSome := hPresent hEffect
        rw [LimiterStore.counter, hAbsent] at hSome
        cases hSome
    · refine ⟨counter, ?_, rfl⟩
      rwa [LimiterStore.counter, Redis.Keyspace.get_incrBy_of_ne hKey] at hCounter
  · exact h.frame rfl (fun j counter hCounter => ⟨counter, hCounter, rfl⟩) (due_update hDone next)

/-- A counter that is made is due its time to live from the call that makes it. -/
theorem Maintained.make (h : Maintained requests expiry store stopped) (hRunning : ¬stopped i)
    (hAbsent : store.counter (requests i).redisKey = none) (next : Expiry)
    (hDone : (expiry i).due = false) (hDue : next.due = true) :
    Maintained requests (Function.update expiry i next)
      { store with counters :=
        (Redis.Keyspace.incrBy store.counters store.clock (requests i).redisKey 1).1 } stopped := by
  have hNew {j : ι} {counter : Redis.Counter}
      (hKey : (requests j).redisKey = (requests i).redisKey)
      (hCounter : counter ∈ LimiterStore.counter { store with counters :=
        (Redis.Keyspace.incrBy store.counters store.clock (requests i).redisKey 1).1 }
          (requests j).redisKey) : counter.expiresAt = none := by
    rw [hKey] at hCounter
    rcases Redis.Keyspace.expiresAt_of_get_incrBy hCounter with ⟨before, hBefore, -⟩ | ⟨-, hNone⟩
    · rw [← LimiterStore.counter, hAbsent] at hBefore
      cases hBefore
    · exact hNone
  have hOld {j : ι} {counter : Redis.Counter}
      (hKey : (requests j).redisKey ≠ (requests i).redisKey)
      (hCounter : counter ∈ LimiterStore.counter { store with counters :=
        (Redis.Keyspace.incrBy store.counters store.clock (requests i).redisKey 1).1 }
          (requests j).redisKey) : counter ∈ store.counter (requests j).redisKey := by
    rwa [LimiterStore.counter, Redis.Keyspace.get_incrBy_of_ne hKey] at hCounter
  constructor
  · intro j counter hCounter expiresAt hExpires
    by_cases hKey : (requests j).redisKey = (requests i).redisKey
    · rw [hNew hKey hCounter] at hExpires
      cases hExpires
    · exact h.bounded j counter (hOld hKey hCounter) expiresAt hExpires
  · intro j counter hCounter hNone
    by_cases hKey : (requests j).redisKey = (requests i).redisKey
    · exact ⟨i, hRunning, hKey.symm, by rw [Function.update_self, hDue]⟩
    · obtain ⟨k, hRuns, hSame, hOpen⟩ := h.covered j counter (hOld hKey hCounter) hNone
      exact ⟨k, hRuns, hSame, due_update hDone next k hOpen⟩

/-- A command that removes a counter leaves the others. -/
theorem Maintained.remove (h : Maintained requests expiry store stopped)
    (hDone : (expiry i).due = false) (next : Expiry) :
    Maintained requests (Function.update expiry i next)
      (store.command decision.fault
        (Redis.Keyspace.del store.counters store.clock key)).1 stopped := by
  rw [command_store]
  split
  · refine h.frame rfl (fun j counter hCounter => ⟨counter, ?_, rfl⟩) (due_update hDone next)
    by_cases hKey : (requests j).redisKey = key
    · rw [hKey, LimiterStore.counter, Redis.Keyspace.get_del_self] at hCounter
      cases hCounter
    · rwa [LimiterStore.counter, Redis.Keyspace.get_del_of_ne hKey] at hCounter
  · exact h.frame rfl (fun j counter hCounter => ⟨counter, hCounter, rfl⟩) (due_update hDone next)

variable (hShared : ∀ i j, (requests i).redisKey = (requests j).redisKey →
  (requests i).store.windowMs = (requests j).store.windowMs)

include hShared in
/-- The counter of the call has its time to live, from this command or from before. -/
theorem Maintained.setExpiry (h : Maintained requests expiry store stopped) (next : Expiry)
    (hCarriedOut : takesEffect decision.fault = true ∨
      ∀ counter ∈ store.counter (requests i).redisKey, counter.expiresAt.isSome = true) :
    Maintained requests (Function.update expiry i next)
      (store.command decision.fault (Redis.Keyspace.expire store.counters store.clock
        (requests i).redisKey (requests i).store.windowSeconds)).1 stopped := by
  have hDue : ∀ j ≠ i, (expiry j).due = true →
      (Function.update expiry i next j).due = true := fun j hOther hOpen => by
    rwa [Function.update_of_ne hOther]
  rw [command_store]
  split
  · refine h.expire hShared rfl (fun key hKey => Redis.Keyspace.get_expire_of_ne hKey)
      (fun counter hCounter => ?_) hDue
    exact ⟨_, Redis.Keyspace.expiresAt_of_get_expire hCounter, Int.le_refl _⟩
  · rename_i hRefused
    refine h.expire hShared rfl (fun key _ => rfl) (fun counter hCounter => ?_) hDue
    obtain ⟨expiresAt, hExpires⟩ := Option.isSome_iff_exists.mp
      (hCarriedOut.resolve_left hRefused counter hCounter)
    exact ⟨expiresAt, hExpires, h.bounded i counter hCounter expiresAt hExpires⟩

variable [DecidableEq π]

/-- Calls that stay inside the process. -/
def LimiterCall.isLocal : LimiterCall π → Bool
  | .incr _ | .expire _ _ | .pttl _ | .decr _ | .del _ => false
  | _ => true

theorem performNow_local {call : LimiterCall π} (h : call.isLocal = true) :
    (performNow decision store call).1.counters = store.counters ∧
      (performNow decision store call).1.clock = store.clock := by
  cases call with
  | incr | expire | pttl | decr | del => cases h
  | now | forgetRedis | resetFallback => exact ⟨rfl, rfl⟩
  | getRedis this =>
      simp only [performNow]
      split <;> exact ⟨rfl, rfl⟩
  | incrementFallback this windowMs key =>
      simp only [performNow]
      split
      · split <;> exact ⟨rfl, rfl⟩
      · exact ⟨rfl, rfl⟩
  | decrementFallback this key =>
      simp only [performNow]
      split
      · split <;> exact ⟨rfl, rfl⟩
      · exact ⟨rfl, rfl⟩

include hShared in
/-- What one call may do to the counters. -/
theorem Maintained.step (h : Maintained requests expiry store stopped) (hRunning : ¬stopped i)
    (hKey : (expiry i).redisKey = (requests i).redisKey)
    (hSeconds : (expiry i).seconds = (requests i).store.windowSeconds) {call : LimiterCall π}
    (hAllows : expiresWhatItMakes.allows (expiry i) call)
    (hKeeps : keepsExpiry store call decision) :
    Maintained requests
      (Function.update expiry i
        (expiresWhatItMakes.next (expiry i) call ((limiters π).perform decision store call).2))
      ((limiters π).perform decision store call).1 stopped := by
  have hLater := h.wait decision.elapsed
  have hLocal (hCall : call.isLocal = true) (hDone : (expiry i).due = false) :
      Maintained requests
        (Function.update expiry i
          (expiresWhatItMakes.next (expiry i) call ((limiters π).perform decision store call).2))
        ((limiters π).perform decision store call).1 stopped := by
    obtain ⟨hCounters, hClock⟩ := @performNow_local π (store.wait decision.elapsed) decision _ _ hCall
    refine hLater.frame hClock (fun j counter hCounter => ⟨counter, ?_, rfl⟩) (due_update hDone _)
    rwa [LimiterStore.counter, hCounters, hClock] at hCounter
  cases call with
  | incr key =>
      obtain ⟨hDone, rfl⟩ := hAllows
      cases hPresent : (store.wait decision.elapsed).counter (expiry i).redisKey with
      | some counter => exact hLater.count hDone 1 _ fun _ => by rw [hPresent]; rfl
      | none =>
          cases hEffect : takesEffect decision.fault with
          | false => exact hLater.count hDone 1 _ fun hTakes => by rw [hEffect] at hTakes; cases hTakes
          | true =>
              have hFault : decision.fault = none := by
                by_contra hSome
                have hFound := hKeeps (Option.isSome_iff_ne_none.mpr hSome) hEffect
                rw [hPresent] at hFound
                cases hFound
              rw [hKey] at hPresent ⊢
              simp only [performNow, hFault, LimiterStore.command]
              exact hLater.make hRunning hPresent _ hDone
                (decide_eq_true (Redis.Keyspace.incrBy_of_absent hPresent))
  | decr key =>
      obtain ⟨hDone, rfl⟩ := hAllows
      exact hLater.count hDone (-1) _ hKeeps
  | expire key seconds =>
      obtain ⟨-, rfl, rfl⟩ := hAllows
      simp only [keepsExpiry, hKey] at hKeeps
      rw [hKey, hSeconds]
      exact hLater.setExpiry hShared _ hKeeps
  | pttl key =>
      have hSame : ((limiters π).perform decision store (.pttl key)).1 =
          store.wait decision.elapsed := (command_store _ _).trans (ite_self _)
      rw [hSame]
      exact hLater.frame rfl (fun j counter hCounter => ⟨counter, hCounter, rfl⟩)
        (due_update hAllows _)
  | del key => exact hLater.remove hAllows _
  | _ => exact hLocal rfl hAllows

end Calls

section Runs

theorem ExpiresWithin.of_bounded {store : LimiterStore π} {key : String} {seconds : Nat}
    (h : ∀ counter ∈ store.counter key,
      ∃ expiresAt ∈ counter.expiresAt, expiresAt ≤ store.clock + seconds * 1000) :
    ExpiresWithin store key seconds := by
  refine ⟨h, Option.eq_none_iff_forall_not_mem.mpr fun counter hLater => ?_⟩
  have hNow : store.counter key = some counter :=
    Redis.Keyspace.get_of_later (by simp only [LimiterStore.wait]; omega) hLater
  obtain ⟨expiresAt, hExpires, hLe⟩ := h counter hNow
  have hAlive := (Redis.Keyspace.get_eq_some_iff.mp hLater).2 expiresAt hExpires
  simp only [LimiterStore.wait] at hAlive
  omega

variable {ι : Type} [DecidableEq ι]

theorem next_expiry (expiry : Expiry) (call : LimiterCall π)
    (response : Except ThrownError call.Answer) :
    (expiresWhatItMakes.next expiry call response).redisKey = expiry.redisKey ∧
      (expiresWhatItMakes.next expiry call response).seconds = expiry.seconds := by
  unfold expiresWhatItMakes
  dsimp only
  split <;> exact ⟨rfl, rfl⟩

/-- A call is about one counter. -/
theorem after_expiry (requests : ι → LimiterRequest π)
    (history : List (Event (LimiterCall π) LimiterCall.Answer ThrownError ι)) (i : ι) :
    (expiresWhatItMakes.after (fun i => (requests i).expiry) history i).redisKey =
        (requests i).redisKey ∧
      (expiresWhatItMakes.after (fun i => (requests i).expiry) history i).seconds =
        (requests i).store.windowSeconds := by
  induction history with
  | nil => exact ⟨rfl, rfl⟩
  | cons event earlier ih =>
      by_cases hOwn : i = event.thread
      · subst hOwn
        rw [Protocol.after_cons_self]
        obtain ⟨hKey, hSeconds⟩ := next_expiry (expiresWhatItMakes.after
          (fun i => (requests i).expiry) earlier event.thread) event.request event.response
        exact ⟨hKey.trans ih.1, hSeconds.trans ih.2⟩
      · rw [Protocol.after_cons_of_ne _ _ _ hOwn]
        exact ih

variable [DecidableEq π]

/-- Any number of calls, none of which has begun. -/
def limiterPool (store : LimiterStore π) (requests : ι → LimiterRequest π) :
    Pool (limiters π) ι (Option IncrementResponse) :=
  ⟨store, fun i => (requests i).program⟩

/-- Redis, where no counter is left without a time to live. -/
abbrev expiringLimiters (π : Type) [DecidableEq π] :
    World (LimiterCall π) LimiterCall.Answer ThrownError :=
  (limiters π).restrict keepsExpiry

/-- A call that is about to give a counter its time to live does not stop while the counter
has none. -/
def stopsWithoutDebt (point : Point (expiringLimiters π) ι (Option IncrementResponse)) (i : ι) :
    Prop :=
  ∀ key seconds next, point.2.thread i = .call (.expire key seconds) next →
    ∀ counter ∈ LimiterStore.counter point.2.store key, counter.expiresAt.isSome = true

variable {requests : ι → LimiterRequest π} {store : LimiterStore π}
  {point : Point (expiringLimiters π) ι (Option IncrementResponse)}

/-- A call by which a counter is due its time to live gives it next. -/
theorem awaits_expire
    (run : GuardedRun anyStep ((limiterPool store requests).restrict keepsExpiry) point) {i : ι}
    (hDue : (expiresWhatItMakes.after (fun i => (requests i).expiry) point.1 i).due = true) :
    ∃ seconds next, point.2.thread i = .call (.expire (requests i).redisKey seconds) next := by
  have hFollows := run.follows expiresWhatItMakes (fun i => (requests i).expiry)
    (fun i => (requests i).program_follows) i
  have hKey := (after_expiry requests point.1 i).1
  cases hThread : point.2.thread i with
  | done result =>
      rw [hThread] at hFollows
      exact absurd (hDue.symm.trans hFollows) Bool.noConfusion
  | fail error =>
      rw [hThread] at hFollows
      exact absurd (hDue.symm.trans hFollows) Bool.noConfusion
  | call request next =>
      rw [hThread] at hFollows
      have hAllows := hFollows.1
      cases request with
      | expire key seconds =>
          obtain ⟨-, rfl, -⟩ := hAllows
          exact ⟨seconds, next, by rw [hKey]⟩
      | incr | decr => exact absurd (hDue.symm.trans hAllows.1) Bool.noConfusion
      | _ => exact absurd (hDue.symm.trans hAllows) Bool.noConfusion

/-- As long as no counter is left without a time to live, by a fault, by a `DECR` or by a
process that stops, every counter expires within its window: no client stays limited for
longer without new requests. -/
theorem countersExpire {stopped : ι → Prop}
    (hShared : ∀ i j, (requests i).redisKey = (requests j).redisKey →
      (requests i).store.windowMs = (requests j).store.windowMs)
    (hStore : ∀ i, ExpiresWithin store (requests i).redisKey (requests i).store.windowSeconds)
    (run : StoppingRun anyStep stopsWithoutDebt
      ((limiterPool store requests).restrict keepsExpiry) point stopped) :
    CountersExpire requests point.2.store point.2.thread stopped := by
  have hMaintained : Maintained requests
      (expiresWhatItMakes.after (fun i => (requests i).expiry) point.1) point.2.store stopped := by
    apply run.invariant expiresWhatItMakes (fun i => (requests i).expiry)
      (fun i => (requests i).program_follows) (fun history store stopped => Maintained requests
        (expiresWhatItMakes.after (fun i => (requests i).expiry) history) store stopped)
    · constructor
      · intro i counter hCounter expiresAt hExpires
        obtain ⟨bound, hBound, hLe⟩ := (hStore i).bounded counter hCounter
        rw [Option.mem_def.mp hBound] at hExpires
        cases hExpires
        exact hLe
      · intro i counter hCounter hNone
        obtain ⟨bound, hBound, -⟩ := (hStore i).bounded counter hCounter
        rw [hNone] at hBound
        cases hBound
    · intro history store stopped env i request h hRunning hAllows _
      exact h.step hShared hRunning (after_expiry requests history i).1 (after_expiry requests history i).2 hAllows
        (env store request).2
    · intro point stopped more prior h hStops
      refine ⟨h.bounded, fun i counter hCounter hNone => ?_⟩
      obtain ⟨j, hRunning, hKey, hDue⟩ := h.covered i counter hCounter hNone
      refine ⟨j, fun hStopped => ?_, hKey, hDue⟩
      rcases hStopped with hStopped | hMore
      · exact hRunning hStopped
      · obtain ⟨seconds, next, hThread⟩ := awaits_expire prior hDue
        have hSome := hStops j hMore _ seconds next hThread counter (hKey ▸ hCounter)
        rw [hNone] at hSome
        cases hSome
  intro i
  by_cases hDue : ∃ j, ¬stopped j ∧ (requests j).redisKey = (requests i).redisKey ∧
      (expiresWhatItMakes.after (fun i => (requests i).expiry) point.1 j).due = true
  · obtain ⟨j, hRunning, hKey, hDue⟩ := hDue
    obtain ⟨seconds, next, hThread⟩ := awaits_expire run.run hDue
    exact .inr ⟨j, seconds, next, hRunning, hKey ▸ hThread⟩
  · refine .inl (.of_bounded fun counter hCounter => ?_)
    cases hExpires : counter.expiresAt with
    | none => exact absurd (hMaintained.covered i counter hCounter hExpires) hDue
    | some expiresAt =>
        exact ⟨expiresAt, rfl, hMaintained.bounded i counter hCounter expiresAt hExpires⟩

end Runs

section Sample

/-- One process counts a request to log in. -/
def sampleRequests : Fin 1 → LimiterRequest Unit :=
  fun _ => ⟨(), loginLimiter, "10.0.0.1", .increment⟩

/-- Nothing fails but the commands that might make a counter without a time to live. -/
private def answering : (expiringLimiters Unit).Env
  | _, .decr _ => ⟨{ fault := some (.rejected .unavailable) }, fun hTakes => by cases hTakes⟩
  | _, .incr _ => ⟨{}, fun hFault => by cases hFault⟩
  | _, .expire _ _ => ⟨{}, .inl rfl⟩
  | _, .pttl _ | _, .del _ | _, .now | _, .getRedis _ | _, .forgetRedis _
  | _, .incrementFallback _ _ _ | _, .decrementFallback _ _ | _, .resetFallback _ _ => ⟨{}, trivial⟩

/-- The request is counted, and the counter expires in a quarter of an hour. -/
theorem countersExpire_sample :
    ∃ point : Point (expiringLimiters Unit) (Fin 1) (Option IncrementResponse),
      LimiterStore.counter point.2.store "rl:login:10.0.0.1" = some ⟨1, some 900000⟩ ∧
        CountersExpire sampleRequests point.2.store point.2.thread fun _ => False := by
  obtain ⟨point, run, hTest⟩ := Pool.exists_run (anyStep : Guard (expiringLimiters Unit) (Fin 1))
    ((limiterPool { clock := 0 } sampleRequests).restrict keepsExpiry)
    (fun point => LimiterStore.counter point.2.store "rl:login:10.0.0.1" = some ⟨1, some 900000⟩)
    (List.replicate 5 (answering, 0)) (by decide +kernel)
  have hStart (i : Fin 1) : ExpiresWithin ({ clock := 0 } : LimiterStore Unit)
      (sampleRequests i).redisKey (sampleRequests i).store.windowSeconds :=
    .of_bounded fun counter hCounter => by cases hCounter
  exact ⟨point, of_decide_eq_true hTest,
    countersExpire (fun _ _ _ => rfl) hStart (StoppingRun.of_run run)⟩

/-- The `EXPIRE` of a new counter fails, and nobody gives it a time to live again. -/
theorem failed_expire_leaves_counter : ¬∀ (requests : Fin 1 → LimiterRequest Unit)
    (store : LimiterStore Unit) (point : Point (limiters Unit) (Fin 1) (Option IncrementResponse))
    (stopped : Fin 1 → Prop),
    (∀ i j, (requests i).redisKey = (requests j).redisKey →
      (requests i).store.windowMs = (requests j).store.windowMs) →
    (∀ i, ExpiresWithin store (requests i).redisKey (requests i).store.windowSeconds) →
    StoppingRun anyStep (fun _ _ => True) (limiterPool store requests) point stopped →
      CountersExpire requests point.2.store point.2.thread stopped := by
  intro hClaim
  obtain ⟨point, run, hTest⟩ := Pool.exists_run (anyStep : Guard (limiters Unit) (Fin 1))
    (limiterPool { clock := 0 } sampleRequests)
    (fun point => (point.2.thread 0).settled?.isSome &&
      LimiterStore.counter point.2.store "rl:login:10.0.0.1" = some ⟨1, none⟩)
    [({}, 0), ({}, 0), ({ fault := some (.rejected .unavailable) }, 0), ({}, 0), ({}, 0)]
    (by decide +kernel)
  obtain ⟨hSettled, hCounter⟩ := Bool.and_eq_true_iff.mp hTest
  have hExpire := hClaim sampleRequests { clock := 0 } point _ (fun _ _ _ => rfl)
    (fun i => .of_bounded fun counter hCounter => by cases hCounter) (StoppingRun.of_run run) 0
  rcases hExpire with hWithin | ⟨i, seconds, next, -, hThread⟩
  · obtain ⟨expiresAt, hExpires, -⟩ := hWithin.bounded _ (of_decide_eq_true hCounter)
    cases hExpires
  · rw [Subsingleton.elim i 0] at hThread
    rw [hThread] at hSettled
    cases hSettled

end Sample

end Navin.RateLimiter
