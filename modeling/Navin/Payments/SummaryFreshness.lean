import Navin.Payments.SummaryCache
import Navin.Semantics.Readability

/-! How old can a settlement summary be? Requests of any organisations run in any processes
while payments are written, and Redis may fail any of them at any call. -/
namespace Navin.SettlementCache

open Async Program

section Values

/-- What the calls write to Redis. -/
def SummaryCall.writes : SummaryCall → String → Write SettlementSummaryResult
  | .set setKey payload seconds, key =>
      if setKey = key then .put payload (seconds * 1000 : Nat) else .keep
  | _, _ => .keep

/-- What the calls read from Redis. -/
def SummaryCall.reads : (call : SummaryCall) → call.Answer → String → Option SettlementSummaryResult
  | .get getKey, cached, key => if getKey = key then cached else none
  | _, _, _ => none

/-- What the calls make of the payments. -/
def SummaryCall.leaves : SummaryCall → List ListedPayment → List ListedPayment
  | .leavePayments payments, _ => payments
  | _, payments => payments

theorem set_of_put {call : SummaryCall} {key : String} {payload : SettlementSummaryResult} {ms : Int}
    (h : call.writes key = .put payload ms) :
    ∃ seconds : Nat, call = .set key payload seconds ∧ ms = (seconds * 1000 : Nat) := by
  cases call with
  | set setKey setPayload seconds =>
      by_cases hKey : setKey = key
      · simp only [SummaryCall.writes, if_pos hKey, Write.put.injEq] at h
        exact ⟨seconds, by rw [hKey, h.1], h.2.symm⟩
      · simp [SummaryCall.writes, hKey] at h
  | _ => cases h

variable {decision : SummaryDecision} {store : SummaryStore} {call : SummaryCall} {key : String}

theorem execute_clock : (execute store call).1.clock = store.clock := by
  cases call <;> rfl

theorem execute_values : (execute store call).1.values key =
    (call.writes key).apply store.clock (store.values key) := by
  cases call with
  | set setKey payload seconds =>
      by_cases hKey : setKey = key
      · simp [execute, SummaryCall.writes, hKey, Write.apply]
      · simp [execute, SummaryCall.writes, hKey, Ne.symm hKey, Write.apply]
  | _ => rfl

theorem perform_clock : ((summaries.perform decision store call).1 : SummaryStore).clock =
    store.clock + decision.elapsed :=
  faultedBy_view SummaryStore.clock execute_clock

theorem clock_le_perform (decision : SummaryDecision) (store : SummaryStore) (call : SummaryCall) :
    store.clock ≤ ((summaries.perform decision store call).1 : SummaryStore).clock := by
  rw [perform_clock]
  omega

/-- The payments change when they are written, and then they do change. -/
theorem perform_payments : ((summaries.perform decision store call).1 : SummaryStore).payments =
    call.leaves store.payments := by
  cases call with
  | leavePayments payments => rfl
  | _ => exact faultedBy_view SummaryStore.payments rfl

/-- The summaries that are cached. -/
def cachedSummaries :
    ExpiringValues summaries SummaryStore.clock String SettlementSummaryResult where
  entries := SummaryStore.values
  writes := SummaryCall.writes
  reads := SummaryCall.reads
  written decision store call key := by
    rw [perform_clock]
    rcases faultedBy_cases with hEffect | ⟨hError, hSame⟩
    · exact .inl ((congrArg (SummaryStore.values · key) hEffect).trans execute_values)
    · have hKept := congrArg (SummaryStore.values · key) hSame
      exact .inr ⟨hError, hKept⟩
  read decision store call answer key payload hAnswer hRead := by
    rw [perform_clock]
    cases call with
    | get getKey =>
        have hPerform := (congrArg Prod.snd (faultedBy_ok hAnswer)).symm.trans hAnswer
        cases hPerform
        by_cases hKey : getKey = key
        · subst hKey
          simp only [SummaryCall.reads, if_true] at hRead
          exact hRead
        · simp [SummaryCall.reads, hKey] at hRead
    | _ => cases hRead

end Values

section Keys

variable {organizationId organizationId' period period' : String} {valid valid' : SummaryPeriod}

theorem colon_not_mem_period (h : SummaryPeriod.ofString? period = some valid) :
    ':' ∉ period.toList := by
  unfold SummaryPeriod.ofString? at h
  split at h
  · decide
  · decide
  · decide
  · cases h

private theorem toList_key (first second last : String) :
    (first ++ second ++ ":" ++ last).toList =
      (first.toList ++ second.toList) ++ ':' :: last.toList := by
  simp

theorem settlementSummaryCacheKey_toList (organizationId period : String) :
    (settlementSummaryCacheKey organizationId period).toList =
      ("settlements:summary:".toList ++ organizationId.toList) ++ ':' :: period.toList :=
  toList_key _ _ _

/-- Organisations and periods do not share keys: the period is what follows the last colon. -/
theorem settlementSummaryCacheKey_injective (hPeriod : SummaryPeriod.ofString? period = some valid)
    (hPeriod' : SummaryPeriod.ofString? period' = some valid')
    (h : settlementSummaryCacheKey organizationId period =
      settlementSummaryCacheKey organizationId' period') :
    organizationId = organizationId' ∧ period = period' := by
  have hTexts := congrArg String.toList h
  rw [settlementSummaryCacheKey_toList, settlementSummaryCacheKey_toList] at hTexts
  obtain ⟨hFirst, hSame⟩ := Readability.eq_of_append_cons_last
    (colon_not_mem_period hPeriod) (colon_not_mem_period hPeriod') hTexts
  exact ⟨String.toList_injective (List.append_cancel_left hFirst),
    String.toList_injective hSame⟩

end Keys

section Requests

/-- How far a request for a summary has come. -/
inductive Stage where
  | reading
  | served (cached : SettlementSummaryResult)
  | dated (now : Date)
  | totalled (now : Date) (totals : SettlementSummaryAggResult)
  | computed (now : Date) (totals : SettlementSummaryAggResult) (sparkline : List ℚ)

/-- What a request has learned. -/
structure Progress where
  request : SummaryRequest
  stage : Stage := .reading

def Stage.next : Stage → (call : SummaryCall) → Except ThrownError call.Answer → Stage
  | .reading, .get _, .ok (some cached) => .served cached
  | .reading, .currentDate, .ok now => .dated now
  | .dated now, .aggregateSettlementSummary _ _, .ok totals => .totalled now totals
  | .totalled now totals, .buildSettlementSparkline _ _ _, .ok sparkline =>
      .computed now totals sparkline
  | stage, _, _ => stage

/-- When the window of a computation starts. -/
def Stage.now? : Stage → Option Date
  | .dated now | .totalled now _ | .computed now _ _ => some now
  | _ => none

/-- The summary is what the two aggregations have given. -/
def Stage.Computed (stage : Stage) (period : SummaryPeriod) (result : SettlementSummaryResult) :
    Prop :=
  ∃ now, stage = .computed now result.toSettlementSummaryAggResult result.sparkline ∧
    result.period = period

/-- A request for a summary uses one key, aggregates one window, and caches what it has
computed from them. -/
def cachesWhatWasComputed : Protocol SummaryCall SummaryCall.Answer ThrownError Progress where
  allows progress call :=
    match progress.request, call with
    | .summary process _ _, .redisUnavailable asked => asked = process
    | .summary process _ _, .setRedisUnavailable failed => failed = process
    | .summary _ _ _, .getRedisClient => True
    | .summary _ organizationId period, .get key =>
        key = settlementSummaryCacheKey organizationId period
    | .summary _ _ _, .currentDate => True
    | .summary _ organizationId period, .aggregateSettlementSummary asked since =>
        asked = organizationId ∧ ∃ valid now, SummaryPeriod.ofString? period = some valid ∧
          progress.stage.now? = some now ∧ since = settlementWindowStart now valid.days
    | .summary _ organizationId period, .buildSettlementSparkline asked since days =>
        asked = organizationId ∧ ∃ valid now, SummaryPeriod.ofString? period = some valid ∧
          progress.stage.now? = some now ∧ since = settlementWindowStart now valid.days ∧
          days = valid.days
    | .summary _ organizationId period, .set key payload seconds =>
        key = settlementSummaryCacheKey organizationId period ∧ seconds = CACHE_TTL_SECONDS ∧
          ∃ valid, SummaryPeriod.ofString? period = some valid ∧
            progress.stage.Computed valid payload
    | .leave payments, .leavePayments left => left = payments
    | _, _ => False
  next progress call response := { progress with stage := progress.stage.next call response }

/-- A call that is allowed and teaches nothing. -/
def Quiet (progress : Progress) (call : SummaryCall) : Prop :=
  cachesWhatWasComputed.allows progress call ∧
    ∀ response, cachesWhatWasComputed.next progress call response = progress

variable {process : Nat} {organizationId period : String} {stage : Stage}

theorem quiet_redisUnavailable :
    Quiet ⟨.summary process organizationId period, stage⟩ (.redisUnavailable process) :=
  ⟨rfl, fun _ => by cases stage <;> rfl⟩

theorem quiet_setRedisUnavailable :
    Quiet ⟨.summary process organizationId period, stage⟩ (.setRedisUnavailable process) :=
  ⟨rfl, fun _ => by cases stage <;> rfl⟩

theorem quiet_getRedisClient :
    Quiet ⟨.summary process organizationId period, stage⟩ .getRedisClient :=
  ⟨trivial, fun _ => by cases stage <;> rfl⟩

theorem getCacheClient_uses : (getCacheClient process).Uses
    (Quiet ⟨.summary process organizationId period, stage⟩) := by
  refine (Uses.await quiet_redisUnavailable).bind fun unavailable => ?_
  split
  · exact .pure
  · refine .tryCatch ((Uses.await quiet_getRedisClient).bind fun _ => .pure) fun _ => ?_
    exact (Uses.await quiet_setRedisUnavailable).bind fun _ => .pure

/-- After a quiet program, what has been learned is the same. -/
theorem follows_of_quiet {α : Type} {progress : Progress} {p : SummaryM α}
    (h : p.Uses (Quiet progress)) :
    p.Follows cachesWhatWasComputed (fun after _ => after = progress) progress :=
  h.follows fun _ hCall => hCall

/-- What is known when the cache has been asked. -/
def Asked (request : SummaryRequest) (progress : Progress) :
    Except ThrownError (Option SettlementSummaryResult) → Prop
  | .ok (some cached) => progress = ⟨request, .served cached⟩
  | .ok none => progress = ⟨request, .reading⟩
  | .error _ => True

theorem readSummaryCache_follows :
    (readSummaryCache process (settlementSummaryCacheKey organizationId period)).Follows
      cachesWhatWasComputed (Asked (.summary process organizationId period))
      ⟨.summary process organizationId period, .reading⟩ := by
  refine (follows_of_quiet getCacheClient_uses).bind (fun progress client hSame => ?_)
    fun _ _ _ => trivial
  subst hSame
  split
  · refine Program.follows_tryCatch.mpr (Program.follows_await.mpr ⟨rfl, fun response => ?_⟩)
    cases response with
    | ok cached => cases cached <;> rfl
    | error error =>
        refine .await_bind quiet_setRedisUnavailable.1 (fun _ => trivial) fun answer => ?_
        exact quiet_setRedisUnavailable.2 (.ok answer)
  · exact rfl

variable {valid : SummaryPeriod}

/-- What is known when a summary has been computed. -/
def Made (request : SummaryRequest) (period : SummaryPeriod) (progress : Progress) :
    Except ThrownError SettlementSummaryResult → Prop
  | .ok result => progress.request = request ∧ progress.stage.Computed period result
  | .error _ => True

theorem computeSummary_follows (hPeriod : SummaryPeriod.ofString? period = some valid) :
    (computeSummary organizationId valid).Follows cachesWhatWasComputed
      (Made (.summary process organizationId period) valid)
      ⟨.summary process organizationId period, .reading⟩ := by
  refine .await_bind trivial (fun _ => trivial) fun now => ?_
  obtain ⟨since, hSince⟩ : ∃ since, since = settlementWindowStart now valid.days := ⟨_, rfl⟩
  rw [← hSince]
  have hBoth : (promiseAll (ask (.aggregateSettlementSummary organizationId since))
      (ask (.buildSettlementSparkline organizationId since valid.days))).Follows
        cachesWhatWasComputed (fun last outcome => ∀ totals sparkline,
          outcome = .ok (totals, sparkline) → last =
            ⟨.summary process organizationId period, .computed now totals sparkline⟩)
        ⟨.summary process organizationId period, .dated now⟩ := by
    refine Follows.promiseAll
      (Q := fun middle totals => middle = ⟨.summary process organizationId period,
        (Stage.dated now).next (.aggregateSettlementSummary organizationId since) totals⟩)
      (T := fun totals last sparkline => last = ⟨.summary process organizationId period,
        ((Stage.dated now).next (.aggregateSettlementSummary organizationId since) totals).next
          (.buildSettlementSparkline organizationId since valid.days) sparkline⟩)
      (Program.follows_await.mpr ⟨⟨rfl, valid, now, hPeriod, rfl, hSince⟩, fun _ => rfl⟩)
      (fun middle totals hMiddle => Program.follows_await.mpr ⟨?_, fun sparkline => ?_⟩)
      fun last totals sparkline hLast => ?_
    · subst hMiddle
      exact ⟨rfl, valid, now, hPeriod, by cases totals <;> rfl, hSince, rfl⟩
    · subst hMiddle
      rfl
    · subst hLast
      cases totals with
      | error error => exact fun _ _ hNone => by cases hNone
      | ok totals =>
          cases sparkline with
          | error error => exact fun _ _ hNone => by cases hNone
          | ok sparkline => exact fun _ _ hAnswers => by cases hAnswers; rfl
  refine hBoth.bind (fun last answers hLast => ⟨?_, now, ?_, rfl⟩) fun _ _ _ => trivial
  · rw [hLast _ _ rfl]
  · rw [hLast _ _ rfl]

theorem writeSummaryCache_uses {result : SettlementSummaryResult} {stage : Stage}
    (hPeriod : SummaryPeriod.ofString? period = some valid) (hMade : stage.Computed valid result) :
    (writeSummaryCache process (settlementSummaryCacheKey organizationId period) result).Uses
      (Quiet ⟨.summary process organizationId period, stage⟩) := by
  refine getCacheClient_uses.bind fun client => ?_
  split
  · refine .tryCatch (.await ⟨⟨rfl, rfl, valid, hPeriod, hMade⟩, fun _ => ?_⟩) fun _ =>
      .await quiet_setRedisUnavailable
    cases stage <;> rfl
  · exact .pure

/-- What a request for a summary ends with. -/
def Answered (period : String) (progress : Progress) (result : SettlementSummaryResult) : Prop :=
  ∃ valid, SummaryPeriod.ofString? period = some valid ∧
    (progress.stage = .served result ∨ progress.stage.Computed valid result)

theorem getSettlementSummaryService_follows :
    (getSettlementSummaryService process organizationId period).Follows cachesWhatWasComputed
      (fun progress outcome => ∀ result, outcome = .ok result → Answered period progress result)
      ⟨.summary process organizationId period, .reading⟩ := by
  unfold getSettlementSummaryService
  split
  · exact fun _ hNone => by cases hNone
  · rename_i valid hPeriod
    refine readSummaryCache_follows.bind (fun progress cached hAsked => ?_)
      fun _ _ _ _ hNone => by cases hNone
    cases cached with
    | some cached =>
        cases hAsked
        exact fun _ hSame => by cases hSame; exact ⟨valid, hPeriod, .inl rfl⟩
    | none =>
        cases hAsked
        refine (computeSummary_follows hPeriod).bind (fun progress result hMade => ?_)
          fun _ _ _ _ hNone => by cases hNone
        obtain ⟨request, stage⟩ := progress
        obtain ⟨rfl, hComputed⟩ := hMade
        refine (follows_of_quiet (writeSummaryCache_uses hPeriod hComputed)).bind
          (fun progress _ hSame => ?_) fun _ _ _ _ hNone => by cases hNone
        subst hSame
        exact fun _ hSame => by cases hSame; exact ⟨valid, hPeriod, .inr hComputed⟩

theorem program_follows (request : SummaryRequest) :
    request.program.Follows cachesWhatWasComputed (fun progress outcome =>
      ∀ process organizationId period result, request = .summary process organizationId period →
        outcome = .ok (some result) → Answered period progress result) { request } := by
  cases request with
  | summary process organizationId period =>
      rw [SummaryRequest.program, map_eq_pure_bind]
      refine getSettlementSummaryService_follows.bind (fun progress made hMade => ?_)
        fun progress error _ => ?_
      · rintro _ _ _ result ⟨⟩ ⟨⟩
        exact hMade _ rfl
      · rintro _ _ _ _ - ⟨⟩
  | leave payments =>
      refine .await_bind rfl (fun _ => ?_) fun _ => ?_
      · rintro _ _ _ _ ⟨⟩
      · rintro _ _ _ _ ⟨⟩

end Requests

section Histories

variable {ι : Type} [DecidableEq ι] (requests : ι → SummaryRequest)

abbrev SummaryEvent (ι : Type) : Type :=
  Event SummaryCall SummaryCall.Answer ThrownError ι

/-- What the requests have learned from a history. -/
def learned (history : List (SummaryEvent ι)) : ι → Progress :=
  cachesWhatWasComputed.after (fun i => { request := requests i }) history

variable {requests} {i : ι} {history : List (SummaryEvent ι)} {stage : Stage} {now : Date}
  {cached : SettlementSummaryResult} {totals : SettlementSummaryAggResult} {sparkline : List ℚ}

variable (requests) in
theorem learned_request (history : List (SummaryEvent ι)) (i : ι) :
    (learned requests history i).request = requests i :=
  cachesWhatWasComputed.after_field Progress.request (fun _ _ _ => rfl) _ history i

omit [DecidableEq ι] in
/-- Everything that an event can teach. -/
theorem next_cases (stage : Stage) (event : SummaryEvent ι) :
    stage.next event.request event.response = stage ∨
    (∃ key cached, stage = .reading ∧ event = ⟨event.thread, .get key, .ok (some cached)⟩ ∧
      stage.next event.request event.response = .served cached) ∨
    (∃ now, stage = .reading ∧ event = ⟨event.thread, .currentDate, .ok now⟩ ∧
      stage.next event.request event.response = .dated now) ∨
    (∃ now organizationId since totals, stage = .dated now ∧
      event = ⟨event.thread, .aggregateSettlementSummary organizationId since, .ok totals⟩ ∧
      stage.next event.request event.response = .totalled now totals) ∨
    ∃ now totals organizationId since days sparkline, stage = .totalled now totals ∧
      event =
        ⟨event.thread, .buildSettlementSparkline organizationId since days, .ok sparkline⟩ ∧
      stage.next event.request event.response = .computed now totals sparkline := by
  obtain ⟨thread, call, response⟩ := event
  cases stage with
  | served | computed => exact .inl rfl
  | reading =>
      cases call with
      | get key =>
          cases response with
          | error error => exact .inl rfl
          | ok answer =>
              cases answer with
              | none => exact .inl rfl
              | some cached => exact .inr (.inl ⟨key, cached, rfl, rfl, rfl⟩)
      | currentDate =>
          cases response with
          | error error => exact .inl rfl
          | ok now => exact .inr (.inr (.inl ⟨now, rfl, rfl, rfl⟩))
      | _ => exact .inl rfl
  | dated now =>
      cases call with
      | aggregateSettlementSummary organizationId since =>
          cases response with
          | error error => exact .inl rfl
          | ok totals =>
              exact .inr (.inr (.inr (.inl ⟨now, organizationId, since, totals, rfl, rfl, rfl⟩)))
      | _ => exact .inl rfl
  | totalled now totals =>
      cases call with
      | buildSettlementSparkline organizationId since days =>
          cases response with
          | error error => exact .inl rfl
          | ok sparkline => exact .inr (.inr (.inr (.inr
              ⟨now, totals, organizationId, since, days, sparkline, rfl, rfl, rfl⟩)))
      | _ => exact .inl rfl

/-- A stage that was reached was reached by an event. -/
theorem exists_reached {reached : Stage} (h : (learned requests history i).stage = reached)
    (hStart : reached ≠ .reading) :
    ∃ newer event older, history = newer ++ event :: older ∧ event.thread = i ∧
      (learned requests older i).stage ≠ reached ∧
      (learned requests older i).stage.next event.request event.response = reached :=
  cachesWhatWasComputed.exists_turn (p := (·.stage = reached)) h fun hReading => hStart hReading.symm

/-- What was served was found in the cache. -/
theorem exists_served (h : (learned requests history i).stage = .served cached) :
    ∃ newer key older, history = newer ++ (⟨i, .get key, .ok (some cached)⟩ : SummaryEvent ι) :: older := by
  obtain ⟨newer, event, older, rfl, rfl, hBefore, hAfter⟩ := exists_reached h fun hNone => by cases hNone
  rcases next_cases (learned requests older event.thread).stage event with hSame |
    ⟨key, found, -, hEvent, hNext⟩ | ⟨now, -, -, hNext⟩ | ⟨now, _, _, totals, -, -, hNext⟩ |
    ⟨now, totals, _, _, _, sparkline, -, -, hNext⟩
  · exact absurd (hSame.symm.trans hAfter) hBefore
  · cases hNext.symm.trans hAfter
    exact ⟨newer, key, older, by rw [← hEvent]⟩
  · cases hNext.symm.trans hAfter
  · cases hNext.symm.trans hAfter
  · cases hNext.symm.trans hAfter

/-- What was computed was aggregated twice, after the date was taken. -/
theorem exists_computed (h : (learned requests history i).stage = .computed now totals sparkline) :
    ∃ newer organizationId since days older, history = newer ++ (⟨i,
        .buildSettlementSparkline organizationId since days, .ok sparkline⟩ : SummaryEvent ι) :: older ∧
      (learned requests older i).stage = .totalled now totals := by
  obtain ⟨newer, event, older, rfl, rfl, hBefore, hAfter⟩ := exists_reached h fun hNone => by cases hNone
  rcases next_cases (learned requests older event.thread).stage event with hSame |
    ⟨key, found, -, -, hNext⟩ | ⟨now, -, -, hNext⟩ | ⟨now, _, _, totals, -, -, hNext⟩ |
    ⟨now, totals, organizationId, since, days, sparkline, hStage, hEvent, hNext⟩
  · exact absurd (hSame.symm.trans hAfter) hBefore
  · cases hNext.symm.trans hAfter
  · cases hNext.symm.trans hAfter
  · cases hNext.symm.trans hAfter
  · cases hNext.symm.trans hAfter
    exact ⟨newer, organizationId, since, days, older, by rw [← hEvent], hStage⟩

theorem exists_totalled (h : (learned requests history i).stage = .totalled now totals) :
    ∃ newer organizationId since older, history = newer ++ (⟨i,
        .aggregateSettlementSummary organizationId since, .ok totals⟩ : SummaryEvent ι) :: older ∧
      (learned requests older i).stage = .dated now := by
  obtain ⟨newer, event, older, rfl, rfl, hBefore, hAfter⟩ := exists_reached h fun hNone => by cases hNone
  rcases next_cases (learned requests older event.thread).stage event with hSame |
    ⟨key, found, -, -, hNext⟩ | ⟨now, -, -, hNext⟩ |
    ⟨now, organizationId, since, totals, hStage, hEvent, hNext⟩ | ⟨now, _, _, _, _, sparkline, -, -, hNext⟩
  · exact absurd (hSame.symm.trans hAfter) hBefore
  · cases hNext.symm.trans hAfter
  · cases hNext.symm.trans hAfter
  · cases hNext.symm.trans hAfter
    exact ⟨newer, organizationId, since, older, by rw [← hEvent], hStage⟩
  · cases hNext.symm.trans hAfter

theorem exists_dated (h : (learned requests history i).stage = .dated now) :
    ∃ newer older, history = newer ++ (⟨i, .currentDate, .ok now⟩ : SummaryEvent ι) :: older := by
  obtain ⟨newer, event, older, rfl, rfl, hBefore, hAfter⟩ := exists_reached h fun hNone => by cases hNone
  rcases next_cases (learned requests older event.thread).stage event with hSame |
    ⟨key, found, -, -, hNext⟩ | ⟨now, -, hEvent, hNext⟩ | ⟨now, _, _, totals, -, -, hNext⟩ |
    ⟨now, totals, _, _, _, sparkline, -, -, hNext⟩
  · exact absurd (hSame.symm.trans hAfter) hBefore
  · cases hNext.symm.trans hAfter
  · cases hNext.symm.trans hAfter
    exact ⟨newer, older, by rw [← hEvent]⟩
  · cases hNext.symm.trans hAfter
  · cases hNext.symm.trans hAfter

end Histories

section Runs

variable {ι : Type} {requests : ι → SummaryRequest}

abbrev SummaryHistory (ι : Type) : Type :=
  List (Int × SummaryEvent ι)

/-- The event was over at this time, and what had happened before. -/
def HappenedAt (history : SummaryHistory ι) (time : Int) (event : SummaryEvent ι)
    (older : SummaryHistory ι) : Prop :=
  ∃ newer, history = newer ++ (time, event) :: older

/-- The payments as other services have left them. -/
def paymentsAfter (payments : List ListedPayment) : SummaryHistory ι → List ListedPayment
  | [] => payments
  | stamped :: older => stamped.2.request.leaves (paymentsAfter payments older)

/-- The request aggregated the payments of the organisation as they stood at two moments, over
the window of the period that ends at a time before both. -/
def ComputedBy (payments : List ListedPayment) (history : SummaryHistory ι) (i : ι)
    (organizationId : String) (period : SummaryPeriod) (result : SettlementSummaryResult) : Prop :=
  ∃ now totalled older summed older',
    HappenedAt history totalled ⟨i, .aggregateSettlementSummary organizationId
      (settlementWindowStart now period.days), .ok result.toSettlementSummaryAggResult⟩ older ∧
    HappenedAt history summed ⟨i, .buildSettlementSparkline organizationId
      (settlementWindowStart now period.days) period.days, .ok result.sparkline⟩ older' ∧
    now.ms ≤ totalled ∧ totalled ≤ summed ∧ result.period = period ∧
    Navin.aggregateSettlementSummary (paymentsAfter payments older) organizationId
      (settlementWindowStart now period.days) = some result.toSettlementSummaryAggResult ∧
    Navin.buildSettlementSparkline (paymentsAfter payments older') organizationId
      (settlementWindowStart now period.days) period.days = some result.sparkline

variable [DecidableEq ι] {start : SummaryStore}
  {point : TimedPoint summaries ι (Option SettlementSummaryResult)} {i : ι} {time : Int}
  {newer older : SummaryHistory ι} {organizationId : String} {since now : Date} {days : Nat}
  {totals : SettlementSummaryAggResult} {sparkline : List ℚ}

theorem orCastError_eq_ok {α : Type} {result : Option α} {a : α}
    (h : orCastError organizationId result = .ok a) : result = some a := by
  cases result with
  | none => cases h
  | some result => exact congrArg some (Except.ok.inj h)

theorem payments_of_run (run : TimedRun SummaryStore.clock (summaryPool start requests) point) :
    SummaryStore.payments point.2.store = paymentsAfter start.payments point.1 := by
  induction run with
  | refl => rfl
  | tail prior last ih =>
      obtain ⟨decision, i, call, next, -, hHistory, hStore⟩ := last.cases
      rw [hHistory, hStore, perform_payments, ih]
      rfl

/-- An answer is that of the call on the payments as they stood. -/
theorem answer_of_run (run : TimedRun SummaryStore.clock (summaryPool start requests) point)
    {call : SummaryCall} {answer : call.Answer}
    (hSplit : point.1 = newer ++ (time, ⟨i, call, .ok answer⟩) :: older) :
    ∃ store : SummaryStore, store.payments = paymentsAfter start.payments older ∧
      store.clock = time ∧ (execute store call).2 = .ok answer := by
  obtain ⟨before, decision, j, call', next, prior, rfl, -, hEvent⟩ := run.stepAt hSplit
  simp only [Prod.mk.injEq, Event.mk.injEq] at hEvent
  obtain ⟨hTime, rfl, rfl, hResponse⟩ := hEvent
  have hAnswer := (eq_of_heq hResponse).symm
  refine ⟨SummaryStore.wait before.2.store decision.elapsed, payments_of_run prior, ?_,
    (congrArg Prod.snd (faultedBy_ok hAnswer)).symm.trans hAnswer⟩
  rw [hTime, perform_clock]
  rfl

/-- Every event is one that its request may cause. -/
theorem summary_allowed (run : TimedRun SummaryStore.clock (summaryPool start requests) point)
    {event : SummaryEvent ι} (hSplit : point.1 = newer ++ (time, event) :: older) :
    cachesWhatWasComputed.allows (learned requests (older.map Prod.snd) event.thread)
      event.request :=
  TimedRun.allowed cachesWhatWasComputed (fun i => { request := requests i }) run
    (fun i => program_follows (requests i)) hSplit

section Allowed

variable {process : Nat} {period key asked : String} {progress : Progress} {seconds : Nat}
  {result : SettlementSummaryResult}
  (hRequest : progress.request = .summary process organizationId period)

include hRequest

theorem allowed_get (h : cachesWhatWasComputed.allows progress (.get key)) :
    key = settlementSummaryCacheKey organizationId period := by
  obtain ⟨request, stage⟩ := progress
  subst hRequest
  exact h

theorem allowed_aggregate
    (h : cachesWhatWasComputed.allows progress (.aggregateSettlementSummary asked since)) :
    asked = organizationId ∧ ∃ valid now, SummaryPeriod.ofString? period = some valid ∧
      progress.stage.now? = some now ∧ since = settlementWindowStart now valid.days := by
  obtain ⟨request, stage⟩ := progress
  subst hRequest
  exact h

theorem allowed_sparkline
    (h : cachesWhatWasComputed.allows progress (.buildSettlementSparkline asked since days)) :
    asked = organizationId ∧ ∃ valid now, SummaryPeriod.ofString? period = some valid ∧
      progress.stage.now? = some now ∧ since = settlementWindowStart now valid.days ∧
      days = valid.days := by
  obtain ⟨request, stage⟩ := progress
  subst hRequest
  exact h

end Allowed

theorem allowed_set {progress : Progress} {key : String} {result : SettlementSummaryResult}
    {seconds : Nat} (h : cachesWhatWasComputed.allows progress (.set key result seconds)) :
    ∃ process organizationId period valid,
      progress.request = .summary process organizationId period ∧
      key = settlementSummaryCacheKey organizationId period ∧ seconds = CACHE_TTL_SECONDS ∧
      SummaryPeriod.ofString? period = some valid ∧ progress.stage.Computed valid result := by
  obtain ⟨request, stage⟩ := progress
  cases request with
  | summary process organizationId period =>
      obtain ⟨hKey, hSeconds, valid, hPeriod, hComputed⟩ := h
      exact ⟨process, organizationId, period, valid, rfl, hKey, hSeconds, hPeriod, hComputed⟩
  | leave => exact h.elim

/-- What a request has computed, it has computed from the payments. -/
theorem computedBy_of_learned
    (run : TimedRun SummaryStore.clock (summaryPool start requests) point) {process : Nat}
    {period : String} {valid : SummaryPeriod} {result : SettlementSummaryResult}
    (hRequest : requests i = .summary process organizationId period)
    (hPeriod : SummaryPeriod.ofString? period = some valid)
    (hComputed : (learned requests (point.1.map Prod.snd) i).stage.Computed valid result) :
    ComputedBy start.payments point.1 i organizationId valid result := by
  obtain ⟨now, hStage, hValid⟩ := hComputed
  obtain ⟨_, asked, since, days, _, hEvents, hTotalled⟩ := exists_computed hStage
  obtain ⟨newer, summed, older', hSummed, rfl⟩ := exists_stamped hEvents
  obtain ⟨_, asked', since', _, hEvents, hDated⟩ := exists_totalled hTotalled
  obtain ⟨middle, totalled, older, hMiddle, rfl⟩ := exists_stamped hEvents
  obtain ⟨_, _, hEvents⟩ := exists_dated hDated
  obtain ⟨first, dated, oldest, hFirst, -⟩ := exists_stamped hEvents
  have hTotalledSplit : point.1 = (newer ++ (summed, ⟨i, .buildSettlementSparkline asked since days,
      .ok result.sparkline⟩) :: middle) ++ (totalled, ⟨i, .aggregateSettlementSummary asked' since',
        .ok result.toSettlementSummaryAggResult⟩) :: older := by
    rw [hSummed, hMiddle, List.append_assoc, List.cons_append]
  have hDatedSplit : point.1 = (newer ++ (summed, ⟨i, .buildSettlementSparkline asked since days,
      .ok result.sparkline⟩) :: (middle ++ (totalled, ⟨i, .aggregateSettlementSummary asked' since',
        .ok result.toSettlementSummaryAggResult⟩) :: first)) ++
          (dated, ⟨i, .currentDate, .ok now⟩) :: oldest := by
    rw [hSummed, hMiddle, hFirst, List.append_assoc, List.cons_append, List.append_assoc,
      List.cons_append]
  obtain ⟨rfl, valid', now', hPeriod', hNow, rfl, rfl⟩ := allowed_sparkline
    ((learned_request requests _ i).trans hRequest) (summary_allowed run hSummed)
  rw [hTotalled] at hNow
  cases hNow
  cases hPeriod.symm.trans hPeriod'
  obtain ⟨rfl, valid', now', hPeriod', hNow, rfl⟩ := allowed_aggregate
    ((learned_request requests _ i).trans hRequest) (summary_allowed run hTotalledSplit)
  rw [hDated] at hNow
  cases hNow
  cases hPeriod.symm.trans hPeriod'
  obtain ⟨store, -, rfl, hDate⟩ := answer_of_run run hDatedSplit
  obtain ⟨store', hPayments', -, hTotals⟩ := answer_of_run run hTotalledSplit
  obtain ⟨store'', hPayments'', -, hSparkline⟩ := answer_of_run run hSummed
  cases hDate
  have hFirstMem : (store.clock, (⟨i, .currentDate, .ok ⟨store.clock⟩⟩ : SummaryEvent ι)) ∈ older := by
    rw [hFirst]
    exact List.mem_append_right _ List.mem_cons_self
  have hMiddleMem : (totalled, (⟨i, .aggregateSettlementSummary asked'
      (settlementWindowStart ⟨store.clock⟩ valid.days),
        .ok result.toSettlementSummaryAggResult⟩ : SummaryEvent ι)) ∈ older' := by
    rw [hMiddle]
    exact List.mem_append_right _ List.mem_cons_self
  refine ⟨⟨store.clock⟩, totalled, older, summed, older', ⟨_, hTotalledSplit⟩, ⟨_, hSummed⟩,
    TimedRun.earlier run clock_le_perform hTotalledSplit hFirstMem,
    TimedRun.earlier run clock_le_perform hSummed hMiddleMem, hValid, ?_, ?_⟩
  · rw [← hPayments']
    exact orCastError_eq_ok hTotals
  · rw [← hPayments'']
    exact orCastError_eq_ok hSparkline

/-- The request found the summary in the cache, where a request for the same organisation and
period had put it less than five minutes before. -/
def FoundCached (requests : ι → SummaryRequest) (payments : List ListedPayment)
    (history : SummaryHistory ι) (i : ι) (organizationId period : String)
    (valid : SummaryPeriod) (result : SettlementSummaryResult) : Prop :=
  ∃ read older put before j process response,
    HappenedAt history read ⟨i, .get (settlementSummaryCacheKey organizationId period),
      .ok (some result)⟩ older ∧
    HappenedAt older put ⟨j, .set (settlementSummaryCacheKey organizationId period) result
      CACHE_TTL_SECONDS, response⟩ before ∧
    read < put + 300000 ∧ requests j = .summary process organizationId period ∧
    ComputedBy payments before j organizationId valid result

theorem foundCached_of_learned
    (run : TimedRun SummaryStore.clock (summaryPool start requests) point)
    (hEmpty : ∀ key, start.values key = none) {process : Nat} {period : String}
    {valid : SummaryPeriod} {result : SettlementSummaryResult}
    (hRequest : requests i = .summary process organizationId period)
    (hPeriod : SummaryPeriod.ofString? period = some valid)
    (hServed : (learned requests (point.1.map Prod.snd) i).stage = .served result) :
    FoundCached requests start.payments point.1 i organizationId period valid result := by
  obtain ⟨_, key, _, hEvents⟩ := exists_served hServed
  obtain ⟨later, read, older, hRead, -⟩ := exists_stamped hEvents
  obtain rfl := allowed_get ((learned_request requests _ i).trans hRequest)
    (summary_allowed run hRead)
  have hValue : cachedSummaries.reads (.get (settlementSummaryCacheKey organizationId period))
      (some result) (settlementSummaryCacheKey organizationId period) = some result := if_pos rfl
  obtain ⟨expiresAt, ⟨between, ⟨put, j, call, response⟩, before, ms, rfl, hPut, rfl, -⟩, hTime⟩ :=
    TimedRun.read_putLast run (hEmpty _) hRead rfl hValue
  obtain ⟨seconds, rfl, rfl⟩ := set_of_put hPut
  have hPutSplit := hRead
  rw [← List.cons_append, ← List.append_assoc] at hPutSplit
  obtain ⟨process', organizationId', period', valid', hWriter, hKey, rfl, hPeriod', hComputed⟩ :=
    allowed_set (summary_allowed run hPutSplit)
  obtain ⟨rfl, rfl⟩ := settlementSummaryCacheKey_injective hPeriod hPeriod' hKey
  cases hPeriod.symm.trans hPeriod'
  rw [learned_request] at hWriter
  obtain ⟨earlier, -, -, -, -, prior, rfl, -, -⟩ := run.stepAt hPutSplit
  exact ⟨read, _, put, earlier.1, j, process', response, ⟨later, hRead⟩, ⟨between, rfl⟩, hTime,
    hWriter, computedBy_of_learned prior hWriter hPeriod hComputed⟩

end Runs

section Sample

/-- Two processes are asked for the summary of one organisation. -/
def sampleRequests (i : Fin 2) : SummaryRequest :=
  .summary i.val "111111111111111111111111" "week"

def sampleStore : SummaryStore :=
  { clock := 1700000000000, payments := [] }

private def quiet : SummaryDecision := {}

/-- The request has been answered for a week. -/
def answeredWeek : SummaryM (Option SettlementSummaryResult) → Bool
  | .done (some result) => result.sparkline.length = 7
  | _ => false

end Sample

end Navin.SettlementCache
