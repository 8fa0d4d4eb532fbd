import Mathlib.Algebra.BigOperators.Group.Finset.Basic
import Mathlib.Algebra.Order.BigOperators.Group.Finset
import Mathlib.Data.Finset.Option
import Navin.Middleware.CounterExpiry
import Navin.Semantics.FixedWindow
import Navin.Semantics.Timed

/-! How many requests does a limit let through? A request is counted in Redis, or in the
memory of a process that has no Redis, and each of these counts for a window at a time. -/
namespace Navin.RateLimiter

open Async FixedWindow

/-- Where a request may be counted. -/
inductive HitCounter (π : Type) where
  | redis (redisKey : String)
  | memory (this : π) (key : String)
deriving DecidableEq

variable {π : Type}

/-- The counter in Redis that the method is about, and the one in its process. -/
def LimiterRequest.counts (request : LimiterRequest π) (counter : HitCounter π) : Prop :=
  counter = .redis request.redisKey ∨ counter = .memory request.this request.key

/-- The counter that a call counts with, and the number that it answers. -/
def hit : (call : LimiterCall π) → Except ThrownError call.Answer → Option (HitCounter π × Int)
  | .incr key, .ok totalHits => some (.redis key, totalHits)
  | .incrementFallback this _ key, .ok response => some (.memory this key, response.totalHits)
  | _, _ => none

/-- What is stored for a counter, expired or not. -/
def LimiterStore.stored (store : LimiterStore π) : HitCounter π → Option Redis.Counter
  | .redis key => store.counters key
  | .memory this key =>
      ((store.fields this).fallback key).map fun entry => ⟨entry.hits, some entry.resetTime⟩

/-- The number that a call gets from one counter. -/
def hitOf [DecidableEq π] (counter : HitCounter π) (call : LimiterCall π)
    (response : Except ThrownError call.Answer) : Option Int :=
  (hit call response).bind fun (source, totalHits) => if source = counter then some totalHits else none

/-- The counter is only counted with, in windows of this length. -/
def OnlyCounts (windowMs : Nat) (counter : HitCounter π) (request : LimiterRequest π) : Prop :=
  request.counts counter → request.operation = .increment ∧ request.store.windowMs = windowMs

/-- The counter that a call is about. -/
def LimiterCall.counter? : LimiterCall π → Option (HitCounter π)
  | .incr key | .expire key _ | .pttl key | .decr key | .del key => some (.redis key)
  | .incrementFallback this _ key | .decrementFallback this key | .resetFallback this key =>
      some (.memory this key)
  | .now | .getRedis _ | .forgetRedis _ => none

/-- What a method may ask of a counter. -/
def LimiterRequest.asks (request : LimiterRequest π) : LimiterCall π → Prop
  | .incr _ => request.operation = .increment
  | .expire _ seconds => request.operation = .increment ∧ seconds = request.store.windowSeconds
  | .incrementFallback _ windowMs _ => request.operation = .increment ∧
      windowMs = request.store.windowMs
  | .decr _ | .del _ | .decrementFallback _ _ | .resetFallback _ _ => request.operation ≠ .increment
  | .pttl _ | .now | .getRedis _ | .forgetRedis _ => True

/-- A method calls about its own counters only. -/
def LimiterRequest.allows (request : LimiterRequest π) (call : LimiterCall π) : Prop :=
  (∀ counter, call.counter? = some counter → request.counts counter) ∧ request.asks call

/-- The window in Redis is in whole seconds, and no shorter. -/
theorem RedisRateLimitStore.windowMs_le (store : RedisRateLimitStore) :
    store.windowMs ≤ store.windowSeconds * 1000 := by
  unfold windowSeconds
  omega

section Steps

variable {windowMs : Nat} {counter : HitCounter π} {store store' : LimiterStore π}
  {numbers : List (Int × Int)} {key : String}

/-- The times and numbers of a counter once a call has been answered. -/
def withHit (now : Int) (number : Option Int) (numbers : List (Int × Int)) : List (Int × Int) :=
  (number.map (now, ·)).toList ++ numbers

/-- The numbers of a counter are those that its windows give out. -/
def LimiterStore.Counted (store : LimiterStore π) (windowMs : Nat) (counter : HitCounter π)
    (numbers : List (Int × Int)) : Prop :=
  Numbered windowMs store.clock (store.stored counter) numbers

theorem LimiterStore.Counted.wait (h : store.Counted windowMs counter numbers) (ms : Nat) :
    (store.wait ms).Counted windowMs counter numbers :=
  Numbered.wait h (Int.le_add_of_nonneg_right (Int.natCast_nonneg ms))

/-- A call that leaves the counter alone and counts nothing. -/
theorem LimiterStore.Counted.frame (h : store.Counted windowMs counter numbers)
    (hClock : store'.clock = store.clock) (hStored : store'.stored counter = store.stored counter)
    {number : Option Int} (hNumber : number = none) :
    store'.Counted windowMs counter (withHit store'.clock number numbers) := by
  rw [Counted, hClock, hStored, hNumber]
  exact h

/-- `INCR` gives out the next number of a counter that runs, or starts the counter. -/
theorem LimiterStore.Counted.incr (hWindow : 0 < windowMs)
    (h : store.Counted windowMs (.redis key) numbers) :
    Numbered windowMs store.clock
      ((Redis.Keyspace.incrBy store.counters store.clock key 1).1 key)
      ((store.clock, (Redis.Keyspace.incrBy store.counters store.clock key 1).2) :: numbers) := by
  have hGet : Redis.Keyspace.get store.counters store.clock key =
      alive store.clock (store.stored (.redis key)) := rfl
  simp only [Redis.Keyspace.incrBy, Redis.Keyspace.set, Function.update_self, hGet]
  cases hAlive : alive store.clock (store.stored (.redis key)) with
  | some before => exact Numbered.count h hAlive
  | none =>
      exact Numbered.start h hAlive none (Int.natCast_pos.mpr hWindow) fun _ hTime => by cases hTime

theorem LimiterStore.Counted.expire {seconds : Nat} (hWindow : 0 < windowMs)
    (hSeconds : windowMs ≤ seconds * 1000) (h : store.Counted windowMs (.redis key) numbers) :
    Numbered windowMs store.clock
      ((Redis.Keyspace.expire store.counters store.clock key seconds).1 key) numbers := by
  rw [Redis.Keyspace.expire]
  split
  · rename_i before hAlive
    simp only [Redis.Keyspace.set, Function.update_self]
    exact Numbered.expire h hAlive (Int.natCast_pos.mpr hWindow) (by omega)
  · exact h

/-- `EXPIRE` lets a counter that runs count for a window from now on. -/
theorem LimiterStore.Counted.expire_command {seconds : Nat} (hWindow : 0 < windowMs)
    (hSeconds : windowMs ≤ seconds * 1000) (h : store.Counted windowMs (.redis key) numbers)
    (fault : Option Fault) :
    (store.command fault (Redis.Keyspace.expire store.counters store.clock key seconds)).1.Counted
      windowMs (.redis key) numbers := by
  rcases fault with _ | _ | _
  · exact h.expire hWindow hSeconds
  · exact h
  · exact h.expire hWindow hSeconds

variable [DecidableEq π] {this : π} {decision : LimiterDecision} {request : LimiterRequest π}

theorem stored_updateFallback (entry : Option FallbackEntry) :
    (store.updateFallback this key entry).stored counter =
      if counter = .memory this key then
        entry.map fun entry => ⟨entry.hits, some entry.resetTime⟩
      else store.stored counter := by
  cases counter with
  | redis redisKey => rfl
  | memory other otherKey =>
      simp only [LimiterStore.stored, LimiterStore.updateFallback, LimiterStore.update,
        HitCounter.memory.injEq]
      by_cases hThis : other = this
      · subst hThis
        by_cases hKey : otherKey = key <;> simp [hKey]
      · simp [hThis]

variable (windowMs store key this decision) in
/-- The memory of a process counts as Redis would, with the time to live set at once. -/
theorem performNow_incrementFallback :
    ∃ entry, performNow decision store (.incrementFallback this windowMs key) =
        (store.updateFallback this key (some entry), .ok ⟨entry.hits, entry.resetTime⟩) ∧
      ((alive store.clock (store.stored (.memory this key)) = none ∧
          entry = ⟨1, store.clock + windowMs⟩) ∨
        ∃ before, alive store.clock (store.stored (.memory this key)) = some before ∧
          entry.hits = before.value + 1 ∧ some entry.resetTime = before.expiresAt) := by
  simp only [performNow, LimiterStore.stored]
  cases (store.fields this).fallback key with
  | none => exact ⟨_, rfl, .inl ⟨rfl, rfl⟩⟩
  | some entry =>
      by_cases hOver : entry.resetTime ≤ store.clock
      · exact ⟨_, if_pos hOver, .inl ⟨by simp [alive, hOver], rfl⟩⟩
      · exact ⟨⟨entry.hits + 1, entry.resetTime⟩, if_neg hOver,
          .inr ⟨⟨entry.hits, some entry.resetTime⟩, by simp [alive, Int.not_le.mp hOver], rfl, rfl⟩⟩

theorem LimiterStore.Counted.incrementFallback (hWindow : 0 < windowMs)
    (h : store.Counted windowMs (.memory this key) numbers) (decision : LimiterDecision) :
    (performNow decision store (.incrementFallback this windowMs key)).1.Counted windowMs
      (.memory this key)
      (withHit store.clock (hitOf (.memory this key) (.incrementFallback this windowMs key)
        (performNow decision store (.incrementFallback this windowMs key)).2) numbers) := by
  obtain ⟨entry, hPerform, hEntry⟩ :=
    performNow_incrementFallback windowMs store key this decision
  have hNumber : hitOf (.memory this key) (.incrementFallback this windowMs key)
      (.ok ⟨entry.hits, entry.resetTime⟩) = some entry.hits := by simp [hitOf, hit]
  rw [hPerform, hNumber, Counted, stored_updateFallback, if_pos rfl]
  rcases hEntry with ⟨hAbsent, rfl⟩ | ⟨before, hAlive, hHits, hReset⟩
  · exact Numbered.start h hAbsent _ (Int.natCast_pos.mpr hWindow)
      fun time hTime => by cases hTime; exact Int.le_refl _
  · have hNext := Numbered.count h hAlive
    rw [← hReset, ← hHits] at hNext
    exact hNext

/-- Redis counts a request, tells nobody, or refuses the command. -/
theorem LimiterStore.Counted.incr_command (hWindow : 0 < windowMs)
    (h : store.Counted windowMs (.redis key) numbers) (fault : Option Fault) :
    (store.command fault (Redis.Keyspace.incrBy store.counters store.clock key 1)).1.Counted
      windowMs (.redis key) (withHit store.clock (hitOf (.redis key) (.incr (π := π) key)
        (store.command fault (Redis.Keyspace.incrBy store.counters store.clock key 1)).2)
        numbers) := by
  rcases fault with _ | _ | _
  · have hNumber : hitOf (.redis key) (.incr (π := π) key)
        (.ok (Redis.Keyspace.incrBy store.counters store.clock key 1).2) =
          some (Redis.Keyspace.incrBy store.counters store.clock key 1).2 := by simp [hitOf, hit]
    simp only [LimiterStore.command, hNumber]
    exact h.incr hWindow
  · exact h
  · exact Numbered.forget (h.incr hWindow)

omit [DecidableEq π] in
/-- A command to Redis about one key leaves the others. -/
theorem stored_command {fault : Option Fault} {effect : Redis.Keyspace × Int}
    (hEffect : ∀ other ≠ key, effect.1 other = store.counters other)
    (hCounter : some (HitCounter.redis key) ≠ some counter) :
    (store.command fault effect).1.stored counter = store.stored counter := by
  rw [command_store]
  split
  · cases counter with
    | memory this memoryKey => rfl
    | redis redisKey => exact hEffect redisKey fun hSame => hCounter (congrArg (fun key => some (HitCounter.redis key)) hSame.symm)
  · rfl

variable (store this) in
/-- A process that looks for a Redis client, or drops it, keeps its counters. -/
theorem stored_update (f : Fields → Fields) (h : ∀ fields, (f fields).fallback = fields.fallback) :
    (store.update this f).stored counter = store.stored counter := by
  cases counter with
  | redis redisKey => rfl
  | memory other key =>
      simp only [LimiterStore.stored, LimiterStore.update, Function.update_apply]
      split
      · rename_i hThis
        rw [h, hThis]
      · rfl

/-- A call leaves the counters that it is not about. -/
theorem stored_performNow {call : LimiterCall π} (h : call.counter? ≠ some counter) :
    (performNow decision store call).1.stored counter = store.stored counter := by
  cases call with
  | incr key | decr key =>
      exact stored_command (fun other hOther => Function.update_of_ne hOther _ _) h
  | expire key seconds =>
      refine stored_command (fun other hOther => ?_) h
      rw [Redis.Keyspace.expire]
      split
      · exact Function.update_of_ne hOther _ _
      · rfl
  | pttl key => exact stored_command (fun _ _ => rfl) h
  | del key => exact stored_command (fun other hOther => Function.update_of_ne hOther _ _) h
  | now => rfl
  | getRedis this =>
      simp only [performNow]
      split
      · rfl
      · rw [stored_update store this]
        exact fun _ => rfl
  | forgetRedis this =>
      rw [performNow, stored_update store this]
      exact fun _ => rfl
  | incrementFallback this windowMs key =>
      obtain ⟨entry, hPerform, -⟩ := performNow_incrementFallback windowMs store key this decision
      rw [hPerform, stored_updateFallback, if_neg (fun hSame => h (congrArg some hSame.symm))]
  | decrementFallback this key =>
      have hOther (entry : Option FallbackEntry) :
          (store.updateFallback this key entry).stored counter = store.stored counter := by
        rw [stored_updateFallback, if_neg (fun hSame => h (congrArg some hSame.symm))]
      simp only [performNow]
      split
      · split
        · exact hOther _
        · rfl
      · rfl
  | resetFallback this key =>
      exact (stored_updateFallback _).trans (if_neg fun hSame => h (congrArg some hSame.symm))

theorem clock_performNow (store : LimiterStore π) (decision : LimiterDecision)
    (call : LimiterCall π) :
    (performNow decision store call).1.clock = store.clock := by
  cases hLocal : call.isLocal with
  | true => exact (performNow_local hLocal).2
  | false =>
      cases call with
      | incr | expire | pttl | decr | del =>
          simp only [performNow, command_store]
          split <;> rfl
      | _ => cases hLocal

omit [DecidableEq π] in
/-- What a call counts, it counts with the counter that it is about. -/
theorem hit_counter {call : LimiterCall π} {response : Except ThrownError call.Answer}
    {number : HitCounter π × Int} (h : hit call response = some number) :
    call.counter? = some number.1 := by
  unfold hit at h
  split at h <;> cases h <;> rfl

theorem hitOf_eq_none {call : LimiterCall π} {response : Except ThrownError call.Answer}
    (h : call.counter? ≠ some counter) : hitOf counter call response = none := by
  unfold hitOf
  cases hHit : hit call response with
  | none => rfl
  | some number =>
      refine if_neg fun hSame => h ?_
      rw [hit_counter hHit, hSame]

/-- A call of one method keeps the numbers of every counter that is only counted with. -/
theorem LimiterStore.Counted.step (hWindow : 0 < windowMs)
    (hOnly : OnlyCounts windowMs counter request) (h : store.Counted windowMs counter numbers)
    {call : LimiterCall π} (hAllows : request.allows call) (decision : LimiterDecision) :
    ((limiters π).perform decision store call).1.Counted windowMs counter
      (withHit ((limiters π).perform decision store call).1.clock
        (hitOf counter call ((limiters π).perform decision store call).2) numbers) := by
  have hLater := h.wait decision.elapsed
  have hClock := clock_performNow (store.wait decision.elapsed) decision call
  by_cases hCounter : call.counter? = some counter
  · obtain ⟨hOperation, rfl⟩ := hOnly (hAllows.1 counter hCounter)
    rw [hClock]
    cases call with
    | incr key =>
        cases hCounter
        exact hLater.incr_command hWindow decision.fault
    | expire key seconds =>
        cases hCounter
        obtain ⟨-, -, rfl⟩ := hAllows
        exact hLater.expire_command hWindow request.store.windowMs_le decision.fault
    | pttl key =>
        refine hLater.frame hClock ?_ rfl
        cases hCounter
        simp only [performNow, command_store, ite_self]
    | incrementFallback this windowMs key =>
        cases hCounter
        obtain ⟨-, -, rfl⟩ := hAllows
        exact hLater.incrementFallback hWindow decision
    | decr key | del key | decrementFallback this key | resetFallback this key =>
        exact absurd hOperation hAllows.2
    | now | getRedis this | forgetRedis this => cases hCounter
  · exact hLater.frame hClock (stored_performNow hCounter) (hitOf_eq_none hCounter)

end Steps

section Methods

/-- What a method is about, and the last number it got. -/
structure Counting (π : Type) where
  request : LimiterRequest π
  last : Option (HitCounter π × Int) := none

/-- A method calls about its own counters, and remembers the last number. -/
def countsForItself : Protocol (LimiterCall π) LimiterCall.Answer ThrownError (Counting π) where
  allows counting call := counting.request.allows call
  next counting call response :=
    { counting with last := (hit call response).or counting.last }

variable {request : LimiterRequest π} {counting : Counting π}

/-- The answer of a method is the last number that it got. -/
def Answered {α : Type} (request : LimiterRequest π) (response? : α → Option IncrementResponse)
    (counting : Counting π) (outcome : Except ThrownError α) : Prop :=
  counting.request = request ∧ ∀ answer response, outcome = .ok answer →
    response? answer = some response →
      ∃ counter, counting.last = some (counter, response.totalHits) ∧ request.counts counter

theorem Answered.error {α : Type} {response? : α → Option IncrementResponse} {error : ThrownError}
    (h : counting.request = request) : Answered request response? counting (.error error) :=
  ⟨h, fun _ _ hOk => by cases hOk⟩

theorem Answered.nothing {α : Type} {response? : α → Option IncrementResponse} {answer : α}
    (h : counting.request = request) (hNone : response? answer = none) :
    Answered request response? counting (.ok answer) := by
  refine ⟨h, fun _ response hOk hSome => ?_⟩
  cases hOk
  rw [hNone] at hSome
  cases hSome

theorem Answered.last {α : Type} {response? : α → Option IncrementResponse} {answer : α}
    {response : IncrementResponse} {counter : HitCounter π} (h : counting.request = request)
    (hResponse : response? answer = some response)
    (hLast : counting.last = some (counter, response.totalHits)) (hCounts : request.counts counter) :
    Answered request response? counting (.ok answer) := by
  refine ⟨h, fun _ other hOk hSome => ?_⟩
  cases hOk
  rw [hResponse] at hSome
  cases hSome
  exact ⟨counter, hLast, hCounts⟩

/-- A call about one of the two counters. -/
theorem LimiterRequest.allows.redis {call : LimiterCall π}
    (hCounter : call.counter? = some (.redis request.redisKey)) (hAsks : request.asks call) :
    request.allows call :=
  ⟨fun _ hSame => .inl (Option.some.inj (hSame.symm.trans hCounter)), hAsks⟩

theorem LimiterRequest.allows.memory {call : LimiterCall π}
    (hCounter : call.counter? = some (.memory request.this request.key))
    (hAsks : request.asks call) : request.allows call :=
  ⟨fun _ hSame => .inr (Option.some.inj (hSame.symm.trans hCounter)), hAsks⟩

/-- A call about no counter. -/
theorem LimiterRequest.allows.elsewhere {call : LimiterCall π} (hCounter : call.counter? = none)
    (hAsks : request.asks call) : request.allows call :=
  ⟨fun _ hSame => (Option.some_ne_none _ (hSame.symm.trans hCounter)).elim, hAsks⟩

section Increment

variable (hRequest : counting.request = request) (hOperation : request.operation = .increment)

include hRequest hOperation

theorem incrementFallback_follows :
    (ask (.incrementFallback request.this request.store.windowMs request.key)).Follows
      countsForItself (Answered request some) counting := by
  subst hRequest
  refine Program.follows_await.mpr ⟨.memory rfl ⟨hOperation, rfl⟩, fun response => ?_⟩
  cases response with
  | error error => exact .error rfl
  | ok response => exact .last rfl rfl rfl (.inr rfl)

omit hOperation in
theorem answerHits_follows {totalHits : Int}
    (hLast : counting.last = some (.redis request.redisKey, totalHits)) :
    (do
      let ttlMs ← ask (.pttl request.redisKey)
      let now ← ask .now
      pure ⟨totalHits, now + if 0 < ttlMs then ttlMs else request.store.windowMs⟩ :
        LimiterM π IncrementResponse).Follows countsForItself (Answered request some) counting := by
  subst hRequest
  refine .await_bind (.redis rfl trivial) (fun _ => .error rfl) fun ttlMs =>
    .await_bind (.elsewhere rfl trivial) (fun _ => .error rfl) fun now => ?_
  exact .last rfl rfl hLast (.inl rfl)

theorem forgetRedis_follows :
    (do
      ask (.forgetRedis request.this)
      ask (.incrementFallback request.this request.store.windowMs request.key) :
        LimiterM π IncrementResponse).Follows countsForItself (Answered request some) counting := by
  subst hRequest
  refine .await_bind (.elsewhere rfl trivial) (fun _ => .error rfl) fun _ => ?_
  exact incrementFallback_follows rfl hOperation

theorem increment_counts :
    (increment request.this request.store request.key).Follows countsForItself
      (Answered request some) counting := by
  subst hRequest
  refine .await_bind (.elsewhere rfl trivial) (fun _ => .error rfl) fun client => ?_
  split
  · refine Program.Follows.tryCatch (Q := Answered counting.request some) ?_ (fun _ _ h => h)
      fun after _ h => forgetRedis_follows h.1 hOperation
    refine .await_bind (.redis rfl hOperation) (fun _ => .error rfl) fun totalHits => ?_
    split
    · refine .await_bind (.redis rfl ⟨hOperation, rfl⟩) (fun _ => .error rfl) fun _ => ?_
      exact answerHits_follows rfl rfl
    · exact answerHits_follows rfl rfl
  · exact incrementFallback_follows rfl hOperation

end Increment

/-- The method is still about the same. -/
def About {α : Type} (request : LimiterRequest π) (counting : Counting π)
    (_ : Except ThrownError α) : Prop :=
  counting.request = request

/-- A command to Redis, with the memory of the process in its place where it fails. -/
theorem commandOrMemory_follows {command fallback : LimiterM π Unit}
    (hRequest : counting.request = request)
    (hCommand : ∀ counting : Counting π, counting.request = request →
      command.Follows countsForItself (About request) counting)
    (hFallback : ∀ counting : Counting π, counting.request = request →
      fallback.Follows countsForItself (About request) counting) :
    (do
      let client ← ask (.getRedis request.this)
      if client then tryCatch command fun _ => fallback else fallback :
        LimiterM π Unit).Follows countsForItself (About request) counting := by
  refine .await_bind (.elsewhere rfl trivial) (fun _ => hRequest) fun client => ?_
  split
  · exact (hCommand _ hRequest).tryCatch (fun _ _ h => h) fun after _ h => hFallback after h
  · exact hFallback _ hRequest

section TakingBack

variable (hRequest : counting.request = request) (hOperation : request.operation ≠ .increment)

include hRequest hOperation

theorem decrement_counts :
    (decrement request.this request.store request.key).Follows countsForItself (About request)
      counting := by
  refine commandOrMemory_follows hRequest (fun counting hSame => ?_) fun counting hSame => ?_
  · subst hSame
    exact .await_bind (.redis rfl hOperation) (fun _ => rfl) fun _ => rfl
  · subst hSame
    exact Program.follows_await.mpr ⟨.memory rfl hOperation, fun _ => rfl⟩

theorem resetKey_counts :
    (resetKey request.this request.store request.key).Follows countsForItself (About request)
      counting := by
  refine commandOrMemory_follows hRequest (fun counting hSame => ?_) fun counting hSame => ?_
  · subst hSame
    exact .await_bind (.redis rfl hOperation) (fun _ => rfl) fun _ => rfl
  · subst hSame
    exact Program.follows_await.mpr ⟨.memory rfl hOperation, fun _ => rfl⟩

end TakingBack

theorem LimiterRequest.program_counts (request : LimiterRequest π) :
    request.program.Follows countsForItself (Answered request id) ⟨request, none⟩ := by
  unfold LimiterRequest.program
  split
  · rename_i hOperation
    refine (increment_counts rfl hOperation).bind (fun after response h => ?_) fun _ _ h => .error h.1
    obtain ⟨counter, hLast, hCounts⟩ := h.2 response response rfl rfl
    exact .last h.1 rfl hLast hCounts
  · rename_i hOperation
    refine (decrement_counts rfl fun hSame => ?_).bind (fun _ _ h => .nothing h rfl) fun _ _ h => .error h
    cases hOperation.symm.trans hSame
  · rename_i hOperation
    refine (resetKey_counts rfl fun hSame => ?_).bind (fun _ _ h => .nothing h rfl) fun _ _ h => .error h
    cases hOperation.symm.trans hSame

end Methods

section Runs

variable {ι : Type} [DecidableEq ι] {requests : ι → LimiterRequest π}

variable (requests) in
/-- A method stays about what it is about. -/
theorem after_request (history : List (Event (LimiterCall π) LimiterCall.Answer ThrownError ι))
    (i : ι) :
    (countsForItself.after (fun i => ⟨requests i, none⟩) history i).request = requests i := by
  induction history with
  | nil => rfl
  | cons event earlier ih =>
      by_cases hOwn : i = event.thread
      · subst hOwn
        rw [Protocol.after_cons_self]
        exact ih
      · rw [Protocol.after_cons_of_ne _ _ _ hOwn]
        exact ih

/-- The last number of a method is one that it was given. -/
theorem exists_hit {history : List (Event (LimiterCall π) LimiterCall.Answer ThrownError ι)} {i : ι}
    {number : HitCounter π × Int}
    (h : (countsForItself.after (fun i => ⟨requests i, none⟩) history i).last = some number) :
    ∃ event ∈ history, event.thread = i ∧ hit event.request event.response = some number := by
  induction history with
  | nil => cases h
  | cons event earlier ih =>
      by_cases hOwn : i = event.thread
      · subst hOwn
        rw [Protocol.after_cons_self] at h
        rcases Option.or_eq_some_iff.mp h with hHit | ⟨-, hBefore⟩
        · exact ⟨event, List.mem_cons_self, rfl, hHit⟩
        · obtain ⟨found, hFound, hRest⟩ := ih hBefore
          exact ⟨found, List.mem_cons_of_mem _ hFound, hRest⟩
      · rw [Protocol.after_cons_of_ne _ _ _ hOwn] at h
        obtain ⟨found, hFound, hRest⟩ := ih h
        exact ⟨found, List.mem_cons_of_mem _ hFound, hRest⟩

end Runs

section Admitted

variable {ι : Type} [DecidableEq π]

/-- An event that gets a number from a counter, with the time. -/
def countedBy (counter : HitCounter π)
    (stamped : Int × Event (LimiterCall π) LimiterCall.Answer ThrownError ι) :
    Option (Int × Int) :=
  (hitOf counter stamped.2.request stamped.2.response).map (stamped.1, ·)

/-- The event lets a request through, within a window from `t` on. -/
def admitsWithin (windowMs : Nat) (t : Int) (limit : Nat) (counter : HitCounter π)
    (stamped : Int × Event (LimiterCall π) LimiterCall.Answer ThrownError ι) : Bool :=
  (countedBy counter stamped).any (admittedWithin windowMs t limit)

variable {windowMs : Nat} {counter : HitCounter π}

theorem filterMap_countedBy_cons (time : Int)
    (event : Event (LimiterCall π) LimiterCall.Answer ThrownError ι)
    (history : List (Int × Event (LimiterCall π) LimiterCall.Answer ThrownError ι)) :
    ((time, event) :: history).filterMap (countedBy counter) =
      withHit time (hitOf counter event.request event.response)
        (history.filterMap (countedBy counter)) := by
  rw [List.filterMap_cons, countedBy, withHit]
  cases hitOf counter event.request event.response <;> rfl

theorem length_admitsWithin (t : Int) (limit : Nat)
    (history : List (Int × Event (LimiterCall π) LimiterCall.Answer ThrownError ι)) :
    (history.filter (admitsWithin windowMs t limit counter)).length =
      ((history.filterMap (countedBy counter)).filter (admittedWithin windowMs t limit)).length := by
  induction history with
  | nil => rfl
  | cons stamped earlier ih =>
      rw [List.filter_cons, List.filterMap_cons]
      cases hNumber : countedBy counter stamped with
      | none => simp [admitsWithin, hNumber, ih]
      | some number =>
          by_cases hAdmitted : admittedWithin windowMs t limit number = true <;>
            simp [admitsWithin, hNumber, hAdmitted, ih]

variable [DecidableEq ι] {requests : ι → LimiterRequest π} {start : LimiterStore π}
  {point : TimedPoint (limiters π) ι (Option IncrementResponse)}

/-- Over a run, a counter that is only counted with numbers its requests window by window. -/
theorem counted_of_run (run : TimedRun LimiterStore.clock (limiterPool start requests) point)
    (hWindow : 0 < windowMs) (hOnly : ∀ i, OnlyCounts windowMs counter (requests i))
    (hStart : ∀ stored, start.stored counter = some stored → 0 ≤ stored.value) :
    LimiterStore.Counted point.2.store windowMs counter (point.1.filterMap (countedBy counter)) := by
  apply TimedRun.invariant countsForItself (fun i => ⟨requests i, none⟩) run
    (fun i => (requests i).program_counts)
    (fun history store => LimiterStore.Counted store windowMs counter (history.filterMap (countedBy counter)))
  · refine Numbered.init (fun stored hAlive => hStart stored (alive_eq_some_iff.mp hAlive).1) ?_
    exact Int.natCast_nonneg windowMs
  · intro history store env i call hCounted hAllows
    have hAllowed : (countsForItself.after (fun i => ⟨requests i, none⟩)
        (history.map Prod.snd) i).request.allows call := hAllows
    rw [after_request requests] at hAllowed
    rw [filterMap_countedBy_cons]
    exact hCounted.step hWindow (hOnly i) hAllowed env

/-- The counters of one client of a limiter: the one in Redis, and one in each process. -/
def countersOf (limiter : RedisRateLimitStore) (key : String) (objects : Finset π) :
    Finset (HitCounter π) :=
  insert (.redis (limiter.redisKey key)) (objects.image (.memory · key))

/-- A request that was answered is counted by one of its counters while it is served. -/
theorem exists_admits (run : TimedRun LimiterStore.clock (limiterPool start requests) point)
    {counters : Finset (HitCounter π)} {t : Int} {limit : Nat} {i : ι}
    {response : IncrementResponse} (hServed : point.2.thread i = .done (some response))
    (hCounters : ∀ counter, (requests i).counts counter → counter ∈ counters)
    (hLimit : response.totalHits ≤ limit)
    (hTimes : ∀ stamped ∈ point.1, stamped.2.thread = i →
      t ≤ stamped.1 ∧ stamped.1 < t + windowMs) :
    ∃ counter ∈ counters, ∃ stamped ∈ point.1, stamped.2.thread = i ∧
      admitsWithin windowMs t limit counter stamped = true := by
  have hFollows := GuardedRun.follows countsForItself (fun i => ⟨requests i, none⟩) run.erase
    (fun i => (requests i).program_counts) i
  rw [hServed] at hFollows
  obtain ⟨counter, hLast, hCounts⟩ := hFollows.2 _ response rfl rfl
  obtain ⟨event, hEvent, hThread, hHit⟩ := exists_hit hLast
  obtain ⟨stamped, hStamped, rfl⟩ := List.mem_map.mp hEvent
  refine ⟨counter, hCounters counter hCounts, stamped, hStamped, hThread, ?_⟩
  obtain ⟨hAfter, hBefore⟩ := hTimes stamped hStamped hThread
  simp [admitsWithin, countedBy, hitOf, hHit, admittedWithin, hAfter, hBefore, hLimit]

end Admitted

section Sample

/-- Two requests of one client, through one process. -/
def strictRequests : Fin 2 → LimiterRequest Unit :=
  fun _ => ⟨(), strictLimiter, "10.0.0.1", .increment⟩

/-- The method has answered a number up to the limit. -/
def servedUpTo (limit : Nat) : LimiterM Unit (Option IncrementResponse) → Bool
  | .done (some response) => response.totalHits ≤ limit
  | _ => false

theorem servedUpTo_iff {limit : Nat} {program : LimiterM Unit (Option IncrementResponse)} :
    servedUpTo limit program = true ↔
      ∃ response, program = .done (some response) ∧ response.totalHits ≤ limit := by
  unfold servedUpTo
  split <;> simp_all

/-- No time passes and nothing fails. -/
def calm : LimiterDecision := {}

/-- The first request is counted while the second waits. -/
def bothRequests : List (LimiterDecision × Fin 2) :=
  [(calm, 0), (calm, 1)] ++ List.replicate 4 (calm, 0) ++ List.replicate 3 (calm, 1)

end Sample

end Navin.RateLimiter
