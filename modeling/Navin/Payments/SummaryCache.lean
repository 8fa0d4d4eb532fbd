import Navin.Payments.SettlementSummary
import Navin.Semantics.Expiring
import Navin.Semantics.TwoRuns
import Navin.Shared.Faults

/-! The settlement summary behind its cache. Several processes answer from one Redis for five
minutes what one of them has computed. A process that Redis has failed once does without. -/
namespace Navin.SettlementCache

open Async Program

def CACHE_TTL_SECONDS : Nat := 300

/-- The payments are written by other services, of which only what they leave matters here. -/
structure SummaryStore where
  clock : Int
  values : String → Option (Expiring SettlementSummaryResult) := fun _ => none
  redisUnavailable : Nat → Bool := fun _ => false
  payments : List ListedPayment

inductive SummaryCall where
  | redisUnavailable (process : Nat)
  | setRedisUnavailable (process : Nat)
  | getRedisClient
  | get (key : String)
  | set (key : String) (payload : SettlementSummaryResult) (seconds : Nat)
  | currentDate
  | aggregateSettlementSummary (organizationId : String) (since : Date)
  | buildSettlementSparkline (organizationId : String) (since : Date) (days : Nat)
  | leavePayments (payments : List ListedPayment)

@[reducible] def SummaryCall.Answer : SummaryCall → Type
  | .redisUnavailable _ => Bool
  | .setRedisUnavailable _ | .getRedisClient | .set _ _ _ | .leavePayments _ => Unit
  | .get _ => Option SettlementSummaryResult
  | .currentDate => Date
  | .aggregateSettlementSummary _ _ => SettlementSummaryAggResult
  | .buildSettlementSparkline _ _ _ => List ℚ

abbrev SummaryM : Type → Type :=
  Program SummaryCall SummaryCall.Answer ThrownError

abbrev ask (call : SummaryCall) : SummaryM call.Answer :=
  Program.await call

section Services

/-- Whether there is a client to use. -/
def getCacheClient (process : Nat) : SummaryM Bool := do
  let redisUnavailable ← ask (.redisUnavailable process)
  if redisUnavailable then return false
  else
    tryCatch (do ask .getRedisClient; return true) fun _ => do
      ask (.setRedisUnavailable process)
      return false

def readSummaryCache (process : Nat) (key : String) : SummaryM (Option SettlementSummaryResult) := do
  let client ← getCacheClient process
  if client then
    tryCatch (ask (.get key)) fun _ => do
      ask (.setRedisUnavailable process)
      return none
  else return none

def writeSummaryCache (process : Nat) (key : String) (payload : SettlementSummaryResult) :
    SummaryM Unit := do
  let client ← getCacheClient process
  if client then
    tryCatch (ask (.set key payload CACHE_TTL_SECONDS)) fun _ => ask (.setRedisUnavailable process)
  else return ()

/-- The summary when nothing is cached. -/
def computeSummary (organizationId : String) (period : SummaryPeriod) :
    SummaryM SettlementSummaryResult := do
  let now ← ask .currentDate
  let since := settlementWindowStart now period.days
  let (totals, sparkline) ← promiseAll (ask (.aggregateSettlementSummary organizationId since))
    (ask (.buildSettlementSparkline organizationId since period.days))
  return { totals with sparkline, period }

def getSettlementSummaryService (process : Nat) (organizationId period : String) :
    SummaryM SettlementSummaryResult :=
  match SummaryPeriod.ofString? period with
  | none => throw (appError 400 "Invalid period. Must be one of: week, month, quarter."
      "ERR_BAD_REQUEST")
  | some validPeriod => do
      let cacheKey := settlementSummaryCacheKey organizationId period
      let cached ← readSummaryCache process cacheKey
      match cached with
      | some cached => return cached
      | none =>
          let result ← computeSummary organizationId validPeriod
          writeSummaryCache process cacheKey result
          return result

end Services

/-- What the world decides at a call: how much time passes, and whether the call fails. -/
structure SummaryDecision where
  elapsed : Nat := 0
  fault : Option Fault := none

/-- A process reads its own memory and its clock without fail. -/
def SummaryDecision.faultOf (decision : SummaryDecision) : SummaryCall → Option Fault
  | .redisUnavailable _ | .setRedisUnavailable _ | .currentDate | .leavePayments _ => none
  | _ => decision.fault

def SummaryStore.wait (store : SummaryStore) (ms : Nat) : SummaryStore :=
  { store with clock := store.clock + ms }

/-- A result, or the error of an identifier that cannot be cast. -/
def orCastError {α : Type} (organizationId : String) : Option α → Except ThrownError α
  | none => .error (.castError organizationId)
  | some result => .ok result

/-- A call that goes through. -/
def execute (store : SummaryStore) :
    (call : SummaryCall) → SummaryStore × Except ThrownError call.Answer
  | .redisUnavailable process => (store, .ok (store.redisUnavailable process))
  | .setRedisUnavailable process =>
      ({ store with redisUnavailable := Function.update store.redisUnavailable process true },
        .ok ())
  | .getRedisClient => (store, .ok ())
  | .get key => (store, .ok (found store.clock (store.values key)))
  | .set key payload seconds =>
      ({ store with values :=
        Function.update store.values key (some ⟨payload, store.clock + (seconds * 1000 : Nat)⟩) },
        .ok ())
  | .currentDate => (store, .ok ⟨store.clock⟩)
  | .aggregateSettlementSummary organizationId since =>
      (store, orCastError organizationId
        (Navin.aggregateSettlementSummary store.payments organizationId since))
  | .buildSettlementSparkline organizationId since days =>
      (store, orCastError organizationId
        (Navin.buildSettlementSparkline store.payments organizationId since days))
  | .leavePayments payments => ({ store with payments }, .ok ())

abbrev summaries : World SummaryCall SummaryCall.Answer ThrownError where
  Store := SummaryStore
  Env := SummaryDecision
  perform decision store call :=
    let store := store.wait decision.elapsed
    faultedBy (decision.faultOf call) store (execute store call)

section Sequential

/-- A world in which no time passes and nothing fails. -/
def calm (_ : Nat) : SummaryDecision := {}

variable {store : SummaryStore} {process : Nat} {organizationId period key : String}

theorem calm_perform (call : SummaryCall) :
    summaries.perform (calm 0) store call = execute store call := by
  have hStore : store.wait 0 = store := by simp [SummaryStore.wait]
  change faultedBy (SummaryDecision.faultOf {} call) (store.wait 0) (execute (store.wait 0) call) = _
  rw [hStore]
  cases call <;> rfl

theorem ask_run (call : SummaryCall) :
    (ask call).run summaries calm store = ((execute store call).1, (execute store call).2, calm) := by
  rw [run_await, calm_perform]
  rfl

theorem getCacheClient_run (hClient : store.redisUnavailable process = false) :
    (getCacheClient process).run summaries calm store = (store, .ok true, calm) := by
  have hAsk : (ask (.redisUnavailable process)).run summaries calm store = (store, .ok false, calm) := by
    rw [ask_run, ← hClient]
    rfl
  have hConnect : (ask .getRedisClient).run summaries calm store = (store, .ok (), calm) := ask_run _
  rw [getCacheClient, run_bind_ok hAsk, if_neg Bool.false_ne_true, run_tryCatch, run_bind_ok hConnect,
    run_pure]

theorem readSummaryCache_run (hClient : store.redisUnavailable process = false) :
    (readSummaryCache process key).run summaries calm store =
      (store, .ok (found store.clock (store.values key)), calm) := by
  rw [readSummaryCache, run_bind_ok (getCacheClient_run hClient), if_pos rfl, run_tryCatch, ask_run]
  rfl

theorem writeSummaryCache_run (hClient : store.redisUnavailable process = false)
    (payload : SettlementSummaryResult) :
    (writeSummaryCache process key payload).run summaries calm store =
      ((execute store (.set key payload CACHE_TTL_SECONDS)).1, .ok (), calm) := by
  rw [writeSummaryCache, run_bind_ok (getCacheClient_run hClient), if_pos rfl, run_tryCatch, ask_run]
  rfl

theorem computeSummary_run {valid : SummaryPeriod} :
    ((computeSummary organizationId valid).run summaries calm store) =
      (store, (orCastError organizationId (do
        let since := settlementWindowStart ⟨store.clock⟩ valid.days
        let totals ← Navin.aggregateSettlementSummary store.payments organizationId since
        let sparkline ← Navin.buildSettlementSparkline store.payments organizationId since valid.days
        return { totals with sparkline, period := valid })), calm) := by
  have hDate : (ask .currentDate).run summaries calm store = (store, .ok ⟨store.clock⟩, calm) :=
    ask_run _
  rw [computeSummary, run_bind_ok hDate]
  dsimp only
  rw [run_bind, run_promiseAll_outcomes (ask_run _) (ask_run _)]
  simp only [execute, Option.bind_eq_bind]
  cases Navin.aggregateSettlementSummary store.payments organizationId
      (settlementWindowStart ⟨store.clock⟩ valid.days) with
  | none =>
      rfl
  | some totals =>
      cases Navin.buildSettlementSparkline store.payments organizationId
          (settlementWindowStart ⟨store.clock⟩ valid.days) valid.days with
      | none => rfl
      | some sparkline => rfl

/-- Alone, and with a cache that can be reached, a request answers what the service makes of
the payments and of what the cache holds. -/
theorem getSettlementSummaryService_run (hClient : store.redisUnavailable process = false) :
    ((getSettlementSummaryService process organizationId period).run summaries calm store).2.1 =
      (Navin.getSettlementSummaryService store.payments
        (fun key => found store.clock (store.values key)) ⟨store.clock⟩ organizationId period).getD
          (.error (.castError organizationId)) := by
  unfold getSettlementSummaryService Navin.getSettlementSummaryService
  cases SummaryPeriod.ofString? period with
  | none => rfl
  | some valid =>
      dsimp only
      rw [run_bind_ok (readSummaryCache_run hClient)]
      cases found store.clock (store.values (settlementSummaryCacheKey organizationId period)) with
      | some cached => rfl
      | none =>
          dsimp only
          rw [run_bind, computeSummary_run]
          dsimp only
          cases Navin.aggregateSettlementSummary store.payments organizationId
              (settlementWindowStart ⟨store.clock⟩ valid.days) with
          | none => rfl
          | some totals =>
              cases Navin.buildSettlementSparkline store.payments organizationId
                  (settlementWindowStart ⟨store.clock⟩ valid.days) valid.days with
              | none => rfl
              | some sparkline =>
                  simp only [orCastError, Option.bind_eq_bind, Option.bind_some, Option.pure_def]
                  rw [run_bind_ok (writeSummaryCache_run hClient _)]
                  rfl

end Sequential

/-- A request for a summary at one of the processes, or another service that writes payments. -/
inductive SummaryRequest where
  | summary (process : Nat) (organizationId period : String)
  | leave (payments : List ListedPayment)

def SummaryRequest.program : SummaryRequest → SummaryM (Option SettlementSummaryResult)
  | .summary process organizationId period =>
      some <$> getSettlementSummaryService process organizationId period
  | .leave payments => do
      ask (.leavePayments payments)
      return none

/-- Any number of requests, none of which has begun. -/
def summaryPool {ι : Type} (store : SummaryStore) (requests : ι → SummaryRequest) :
    Pool summaries ι (Option SettlementSummaryResult) :=
  ⟨store, fun i => (requests i).program⟩

end Navin.SettlementCache
