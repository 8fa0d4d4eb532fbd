import Navin.Semantics.Program
import Navin.Semantics.Redis
import Navin.Shared.Domain

/-! The counters behind the rate limits. They are kept in Redis, which all processes
share, and in the memory of a process while it has no Redis. -/
namespace Navin.RateLimiter

open Async

structure FallbackEntry where
  hits : Int
  resetTime : Int

structure IncrementResponse where
  totalHits : Int
  resetTime : Int

/-- What a process keeps for one limiter: the fields of the class that change. -/
structure Fields where
  redis : Bool := false
  redisChecked : Bool := false
  fallback : String → Option FallbackEntry := fun _ => none

/-- The fields of the class that do not. -/
structure RedisRateLimitStore where
  windowMs : Nat
  keyPrefix : String
deriving DecidableEq

def RedisRateLimitStore.redisKey (store : RedisRateLimitStore) (key : String) : String :=
  store.keyPrefix ++ key

/-- `Math.ceil(windowMs / 1000)`. -/
def RedisRateLimitStore.windowSeconds (store : RedisRateLimitStore) : Nat :=
  (store.windowMs + 999) / 1000

section Limiters

variable (isDev : Bool)

def standardLimiter : RedisRateLimitStore :=
  ⟨if isDev then 60 * 1000 else 15 * 60 * 1000, "rl:standard:"⟩

def strictLimiter : RedisRateLimitStore :=
  ⟨60 * 1000, "rl:strict:"⟩

def loginLimiter : RedisRateLimitStore :=
  ⟨15 * 60 * 1000, "rl:login:"⟩

def otpLimiter : RedisRateLimitStore :=
  ⟨15 * 60 * 1000, "rl:otp:"⟩

/-- The limiters of the backend. -/
def backendLimiters : List RedisRateLimitStore :=
  [standardLimiter isDev, strictLimiter, loginLimiter, otpLimiter]

/-- No two of them share a counter. -/
theorem redisKey_apart {store store' : RedisRateLimitStore} {key key' : String}
    (hStore : store ∈ backendLimiters isDev) (hStore' : store' ∈ backendLimiters isDev)
    (h : store.redisKey key = store'.redisKey key') : store = store' := by
  have hLong : ∀ store ∈ backendLimiters isDev, 6 ≤ store.keyPrefix.toList.length := by
    cases isDev <;> decide
  have hApart : ∀ store ∈ backendLimiters isDev, ∀ store' ∈ backendLimiters isDev,
      store.keyPrefix.toList.take 6 = store'.keyPrefix.toList.take 6 → store = store' := by
    cases isDev <;> decide
  refine hApart store hStore store' hStore' ?_
  have hTexts := congrArg (fun text => text.toList.take 6) h
  simp only [RedisRateLimitStore.redisKey, String.toList_append] at hTexts
  rwa [List.take_append_of_le_length (hLong store hStore),
    List.take_append_of_le_length (hLong store' hStore')] at hTexts

end Limiters

/-- A command to Redis, or a method that stays inside the process of its object. -/
inductive LimiterCall (π : Type) where
  | incr (key : String)
  | expire (key : String) (seconds : Nat)
  | pttl (key : String)
  | decr (key : String)
  | del (key : String)
  | now
  | getRedis (this : π)
  | forgetRedis (this : π)
  | incrementFallback (this : π) (windowMs : Nat) (key : String)
  | decrementFallback (this : π) (key : String)
  | resetFallback (this : π) (key : String)

variable {π : Type}

@[reducible] def LimiterCall.Answer : LimiterCall π → Type
  | .incr _ | .expire _ _ | .pttl _ | .decr _ | .del _ | .now => Int
  | .getRedis _ => Bool
  | .incrementFallback _ _ _ => IncrementResponse
  | .forgetRedis _ | .decrementFallback _ _ | .resetFallback _ _ => Unit

abbrev LimiterM (π : Type) : Type → Type :=
  Program (LimiterCall π) LimiterCall.Answer ThrownError

abbrev ask (call : LimiterCall π) : LimiterM π call.Answer :=
  Program.await call

section Operations

variable (this : π) (store : RedisRateLimitStore) (key : String)

def increment : LimiterM π IncrementResponse := do
  let client ← ask (.getRedis this)
  if client then
    try
      let redisKey := store.redisKey key
      let totalHits ← ask (.incr redisKey)
      if totalHits = 1 then
        let _ ← ask (.expire redisKey store.windowSeconds)
      let ttlMs ← ask (.pttl redisKey)
      let now ← ask .now
      pure ⟨totalHits, now + if 0 < ttlMs then ttlMs else store.windowMs⟩
    catch _ =>
      ask (.forgetRedis this)
      ask (.incrementFallback this store.windowMs key)
  else ask (.incrementFallback this store.windowMs key)

def decrement : LimiterM π Unit := do
  let client ← ask (.getRedis this)
  if client then
    try
      let _ ← ask (.decr (store.redisKey key))
    catch _ => ask (.decrementFallback this key)
  else ask (.decrementFallback this key)

def resetKey : LimiterM π Unit := do
  let client ← ask (.getRedis this)
  if client then
    try
      let _ ← ask (.del (store.redisKey key))
    catch _ => ask (.resetFallback this key)
  else ask (.resetFallback this key)

end Operations

structure LimiterStore (π : Type) where
  clock : Int
  counters : Redis.Keyspace := fun _ => none
  fields : π → Fields := fun _ => {}

def LimiterStore.wait (store : LimiterStore π) (ms : Nat) : LimiterStore π :=
  { store with clock := store.clock + ms }

/-- The counter that a command finds under a key. -/
def LimiterStore.counter (store : LimiterStore π) (key : String) : Option Redis.Counter :=
  Redis.Keyspace.get store.counters store.clock key

/-- What the world decides at a call: how much time has passed, whether a client can be
had, and whether the command fails. -/
structure LimiterDecision where
  elapsed : Nat := 0
  available : Bool := true
  fault : Option Fault := none

section Effects

variable [DecidableEq π]

def LimiterStore.update (store : LimiterStore π) (this : π) (f : Fields → Fields) :
    LimiterStore π :=
  { store with fields := Function.update store.fields this (f (store.fields this)) }

def LimiterStore.updateFallback (store : LimiterStore π) (this : π) (key : String)
    (entry : Option FallbackEntry) : LimiterStore π :=
  store.update this fun fields =>
    { fields with fallback := Function.update fields.fallback key entry }

/-- A command to Redis with its fault. -/
def LimiterStore.command (store : LimiterStore π) (fault : Option Fault)
    (effect : Redis.Keyspace × Int) : LimiterStore π × Except ThrownError Int :=
  match fault with
  | none => ({ store with counters := effect.1 }, .ok effect.2)
  | some (.rejected error) => (store, .error error)
  | some (.lost error) => ({ store with counters := effect.1 }, .error error)

/-- A call once its time has come. Only commands to Redis fail. -/
def performNow (decision : LimiterDecision) (store : LimiterStore π) :
    (call : LimiterCall π) → LimiterStore π × Except ThrownError call.Answer
  | .incr key =>
      store.command decision.fault (Redis.Keyspace.incrBy store.counters store.clock key 1)
  | .expire key seconds =>
      store.command decision.fault (Redis.Keyspace.expire store.counters store.clock key seconds)
  | .pttl key =>
      store.command decision.fault
        (store.counters, Redis.Keyspace.pttl store.counters store.clock key)
  | .decr key =>
      store.command decision.fault (Redis.Keyspace.incrBy store.counters store.clock key (-1))
  | .del key =>
      store.command decision.fault (Redis.Keyspace.del store.counters store.clock key)
  | .now => (store, .ok store.clock)
  | .getRedis this =>
      let fields := store.fields this
      if fields.redisChecked then (store, .ok fields.redis)
      else
        (store.update this fun fields =>
          { fields with redis := decision.available, redisChecked := true },
          .ok decision.available)
  | .forgetRedis this =>
      (store.update this fun fields => { fields with redis := false, redisChecked := false }, .ok ())
  | .incrementFallback this windowMs key =>
      match (store.fields this).fallback key with
      | some entry =>
          if entry.resetTime ≤ store.clock then
            let resetTime := store.clock + windowMs
            (store.updateFallback this key (some ⟨1, resetTime⟩), .ok ⟨1, resetTime⟩)
          else
            let hits := entry.hits + 1
            (store.updateFallback this key (some { entry with hits }), .ok ⟨hits, entry.resetTime⟩)
      | none =>
          let resetTime := store.clock + windowMs
          (store.updateFallback this key (some ⟨1, resetTime⟩), .ok ⟨1, resetTime⟩)
  | .decrementFallback this key =>
      match (store.fields this).fallback key with
      | some entry =>
          if 0 < entry.hits then
            (store.updateFallback this key (some { entry with hits := entry.hits - 1 }), .ok ())
          else (store, .ok ())
      | none => (store, .ok ())
  | .resetFallback this key => (store.updateFallback this key none, .ok ())

abbrev limiters (π : Type) [DecidableEq π] :
    World (LimiterCall π) LimiterCall.Answer ThrownError where
  Store := LimiterStore π
  Env := LimiterDecision
  perform decision store := performNow decision (store.wait decision.elapsed)

end Effects

end Navin.RateLimiter
