import Navin.Anomalies.Retention

/-! What the dashboard says of the anomalies. The pipeline and the code that reads its answer come
to plain counts of the documents, and so does every answer that is cached, while anomalies are
written and Redis fails at any call. -/
namespace Navin.Anomalies

open Aggregation (Document matching group count facet run groupKey groupRow)
open Async Program

section Records

variable {counts : Counts} {key other : String} {value : ℚ}

/-- Setting the value of a key leaves the others alone. -/
theorem lookup_set_of_ne (counts : Counts) (hOther : other ≠ key) :
    (counts.map fun entry => if entry.1 = key then (key, value) else entry).lookup other =
      counts.lookup other := by
  induction counts with
  | nil => rfl
  | cons entry rest ih =>
      obtain ⟨name, old⟩ := entry
      by_cases hName : name = key
      · subst hName
        simp [List.lookup_cons, beq_eq_false_iff_ne.mpr hOther, ih]
      · simp [List.lookup_cons, hName, ih]

theorem lookup_set_self (counts : Counts) (h : key ∈ counts.map Prod.fst) :
    (counts.map fun entry => if entry.1 = key then (key, value) else entry).lookup key =
      some value := by
  induction counts with
  | nil => cases h
  | cons entry rest ih =>
      obtain ⟨name, old⟩ := entry
      by_cases hName : name = key
      · simp [hName]
      · have hRest : key ∈ rest.map Prod.fst := by
          simpa [Ne.symm hName] using h
        simp [List.lookup_cons, hName, beq_eq_false_iff_ne.mpr (Ne.symm hName), ih hRest]

theorem lookup_eq_none (h : key ∉ counts.map Prod.fst) : counts.lookup key = none := by
  rw [List.lookup_eq_none_iff]
  intro entry hEntry
  rw [bne_iff_ne]
  rintro rfl
  exact h (List.mem_map_of_mem hEntry)

theorem lookup_assign (counts : Counts) (key other : String) (value : ℚ) :
    (counts.assign key value).lookup other =
      if other = key then some value else counts.lookup other := by
  unfold Counts.assign
  split
  · rename_i h
    by_cases hOther : other = key
    · subst hOther
      simp [lookup_set_self counts h]
    · simp [lookup_set_of_ne counts hOther, hOther]
  · rename_i h
    by_cases hOther : other = key
    · subst hOther
      simp [List.lookup_append, lookup_eq_none h]
    · simp [List.lookup_append, List.lookup_cons, beq_eq_false_iff_ne.mpr hOther, hOther]

theorem keys_assign (counts : Counts) (key : String) (value : ℚ) :
    (counts.assign key value).map Prod.fst =
      if key ∈ counts.map Prod.fst then counts.map Prod.fst else counts.map Prod.fst ++ [key] := by
  unfold Counts.assign
  split
  · rw [List.map_map]
    refine List.map_congr_left fun entry _ => ?_
    by_cases hSame : entry.1 = key <;> simp [hSame]
  · simp

theorem nodup_assign (h : (counts.map Prod.fst).Nodup) :
    ((counts.assign key value).map Prod.fst).Nodup := by
  rw [keys_assign]
  split
  · exact h
  · rename_i hKey
    exact h.append (List.nodup_singleton key) (by simpa using hKey)

/-- The values add up over the keys, where none is there twice. -/
theorem sum_values (h : (counts.map Prod.fst).Nodup) :
    (counts.map Prod.snd).sum =
      ((counts.map Prod.fst).map fun key => (counts.lookup key).getD 0).sum := by
  induction counts with
  | nil => rfl
  | cons entry rest ih =>
      obtain ⟨name, number⟩ := entry
      obtain ⟨hNew, hRest⟩ := List.nodup_cons.mp h
      have hSame : (rest.map Prod.fst).map
            (fun key => (List.lookup key ((name, number) :: rest)).getD 0) =
          (rest.map Prod.fst).map fun key => (rest.lookup key).getD 0 := by
        refine List.map_congr_left fun key hKey => ?_
        have hOther : key ≠ name := fun hEq => hNew (hEq ▸ hKey)
        simp [List.lookup_cons, beq_eq_false_iff_ne.mpr hOther]
      simp only [List.map_cons, List.sum_cons, hSame, ← ih hRest]
      simp

end Records

/-! What the branches of the pipeline leave, and what is read of it. -/
section Branches

variable (items : List Anomaly) (text : Anomaly → String)

/-- The row of a group. -/
def countRow (own : String) : Document := fun name =>
  if name = "_id" then some (.scalar (.string own))
  else [("count", Aggregation.Value.number (items.filter (text · = own)).length)].lookup name

theorem countedBy_run {field : String} (hField : ∀ anomaly : Anomaly,
      anomaly.stored field = some (.string (text anomaly))) :
    countedBy field (items.map Anomaly.stored) =
      some ((items.map text).dedup.map (countRow items text)) := by
  refine Aggregation.group_map_of_injective (fun _ _ => Aggregation.Scalar.string.inj)
    (fun anomaly _ => ?_) fun own _ => ?_
  · simp [groupKey, Aggregation.Expr.of, Aggregation.Expr.eval, hField, Aggregation.Value.comparable]
  · simp [groupRow, count_over]
    rfl

theorem count_run : ∃ rows, count "count" (items.map Anomaly.stored) = some rows ∧
    (rows.head?.map (numberField · "count")).getD 0 = items.length := by
  refine ⟨_, rfl, ?_⟩
  cases items with
  | nil => rfl
  | cons anomaly rest => simp [numberField, Aggregation.Value.number?]

theorem resolvedStage_run (resolved : Bool) :
    resolvedStage resolved (items.map Anomaly.stored) =
      some ((items.filter (·.resolved = resolved)).map Anomaly.stored) := by
  refine Aggregation.matching_map fun anomaly _ => ?_
  have hHolds := @Aggregation.holds_eq anomaly.stored "resolved" (.bool anomaly.resolved) rfl
    (.bool resolved)
  have hAll := Aggregation.allHold_cons hHolds Aggregation.allHold_nil
  simpa using hAll

variable {items text}

/-- What is assigned from the rows of a group. -/
theorem lookup_assignCounts (keys : List String) (counts : Counts) (other : String) :
    (assignCounts counts (keys.map (countRow items text))).lookup other =
      if other ∈ keys then some ((items.filter (text · = other)).length : ℚ)
      else counts.lookup other := by
  induction keys generalizing counts with
  | nil => rfl
  | cons key rest ih =>
      have hStep : assignCounts counts ((key :: rest).map (countRow items text)) =
          assignCounts (counts.assign key (items.filter (text · = key)).length)
            (rest.map (countRow items text)) := rfl
      rw [hStep, ih, lookup_assign]
      by_cases hRest : other ∈ rest
      · simp [hRest]
      · by_cases hKey : other = key
        · subst hKey
          simp [hRest]
        · simp [hRest, hKey]

theorem nodup_assignCounts (entries : List Document) {counts : Counts}
    (h : (counts.map Prod.fst).Nodup) : ((assignCounts counts entries).map Prod.fst).Nodup := by
  induction entries generalizing counts with
  | nil => exact h
  | cons entry rest ih => exact ih (nodup_assign h)

end Branches

/-! The answer of the pipeline, as plain counts. -/
section Tallies

/-- One count for each value of a text. -/
structure CountsOf (items : List Anomaly) (text : Anomaly → String) (counts : Counts) : Prop where
  nodup : (counts.map Prod.fst).Nodup
  value : ∀ key, (counts.lookup key).getD 0 = ((items.filter (text · = key)).length : ℚ)

variable {items : List Anomaly} {text : Anomaly → String} {counts : Counts}

theorem CountsOf.mem_keys (h : CountsOf items text counts) {anomaly : Anomaly}
    (hMem : anomaly ∈ items) : text anomaly ∈ counts.map Prod.fst := by
  by_contra hKey
  have hValue := h.value (text anomaly)
  rw [lookup_eq_none hKey, Option.getD_none, eq_comm, Nat.cast_eq_zero, List.length_eq_zero_iff,
    List.filter_eq_nil_iff] at hValue
  simpa using hValue anomaly hMem

/-- Every anomaly is in one of the counts. -/
theorem CountsOf.sum (h : CountsOf items text counts) :
    (counts.map Prod.snd).sum = (items.length : ℚ) := by
  have hAll : items.filter (fun anomaly => text anomaly ∈ counts.map Prod.fst) = items :=
    List.filter_eq_self.mpr fun anomaly hMem => decide_eq_true (h.mem_keys hMem)
  have hBuckets := Aggregation.sum_buckets items text (fun _ => (1 : ℚ)) h.nodup
  rw [hAll] at hBuckets
  simp only [List.map_const', List.sum_replicate, nsmul_eq_mul, mul_one] at hBuckets
  rw [sum_values h.nodup, ← hBuckets]
  exact congrArg List.sum (List.map_congr_left fun key _ => h.value key)

theorem countsOf_assign (hNodup : (counts.map Prod.fst).Nodup)
    (hZero : ∀ key, (counts.lookup key).getD 0 = 0) :
    CountsOf items text
      (assignCounts counts ((items.map text).dedup.map (countRow items text))) where
  nodup := nodup_assignCounts _ hNodup
  value key := by
    rw [lookup_assignCounts]
    split
    · rfl
    · rename_i hKey
      rw [hZero, eq_comm, Nat.cast_eq_zero, List.length_eq_zero_iff, List.filter_eq_nil_iff]
      intro anomaly hMem hSame
      exact hKey (List.mem_dedup.mpr (List.mem_map.mpr ⟨anomaly, hMem, of_decide_eq_true hSame⟩))

/-- The stats of these anomalies. -/
structure Tallies (items : List Anomaly) (stats : AnomalyStats) : Prop where
  totalActive : stats.totalActive = ((items.filter (·.resolved = false)).length : ℚ)
  bySeverity : CountsOf (items.filter (·.resolved = false)) (·.severity) stats.bySeverity
  byType : CountsOf (items.filter (·.resolved = false)) (·.type) stats.byType
  resolutionRate : 0 ≤ stats.resolutionRate ∧ stats.resolutionRate ≤ 1
  noneResolved : (∀ anomaly ∈ items, anomaly.resolved = false) → stats.resolutionRate = 0

theorem Tallies.sum_bySeverity {stats : AnomalyStats} (h : Tallies items stats) :
    (stats.bySeverity.map Prod.snd).sum = stats.totalActive :=
  h.bySeverity.sum.trans h.totalActive.symm

theorem Tallies.sum_byType {stats : AnomalyStats} (h : Tallies items stats) :
    (stats.byType.map Prod.snd).sum = stats.totalActive :=
  h.byType.sum.trans h.totalActive.symm

/-- The stats where there is nothing to count. -/
structure AllZero (stats : AnomalyStats) : Prop where
  totalActive : stats.totalActive = 0
  bySeverity : ∀ severity, (stats.bySeverity.lookup severity).getD 0 = 0
  byType : ∀ type, (stats.byType.lookup type).getD 0 = 0
  resolutionRate : stats.resolutionRate = 0

theorem Tallies.allZero {stats : AnomalyStats} (h : Tallies [] stats) : AllZero stats where
  totalActive := by simpa using h.totalActive
  bySeverity severity := by simpa using h.bySeverity.value severity
  byType type := by simpa using h.byType.value type
  resolutionRate := h.noneResolved (by simp)

theorem mathRound_mem {x : ℚ} (hLow : 0 ≤ x) (hHigh : x ≤ 100) :
    0 ≤ mathRound x / 100 ∧ mathRound x / 100 ≤ 1 := by
  have hFloor : (0 : ℤ) ≤ ⌊x + 1 / 2⌋ := Int.floor_nonneg.mpr (by linarith)
  have hCeiling : ⌊x + 1 / 2⌋ < (101 : ℤ) := Int.floor_lt.mpr (by push_cast; linarith)
  have hLow' : (0 : ℚ) ≤ (⌊x + 1 / 2⌋ : ℤ) := by exact_mod_cast hFloor
  have hHigh' : ((⌊x + 1 / 2⌋ : ℤ) : ℚ) ≤ 100 := by exact_mod_cast Int.lt_add_one_iff.mp hCeiling
  simp only [mathRound]
  constructor
  · positivity
  · linarith

/-- The anomalies that a request for stats counts: none carries an organisation. -/
def countedFor (organizationId : Option String) (docs : List Anomaly) : List Anomaly :=
  docs.filter fun anomaly => anomaly.deletedAt = none && organizationId.getD "" = ""

theorem deletedAt_holds (anomaly : Anomaly) :
    Aggregation.Condition.holds ⟨"deletedAt", .eq, .null⟩ anomaly.stored =
      some (decide (anomaly.deletedAt = none)) := by
  have hField : anomaly.stored "deletedAt" = some (storedDate anomaly.deletedAt) := rfl
  cases hDeleted : anomaly.deletedAt with
  | none =>
      rw [hDeleted] at hField
      exact Aggregation.holds_eq hField _
  | some date =>
      rw [hDeleted] at hField
      exact Aggregation.holds_eq hField _

theorem organizationConditions_hold (organizationId : Option String) (anomaly : Anomaly) :
    Aggregation.allHold (organizationConditions organizationId) anomaly.stored =
      some (decide (organizationId.getD "" = "")) := by
  cases organizationId with
  | none => rfl
  | some organizationId =>
      by_cases hEmpty : organizationId = ""
      · subst hEmpty
        rfl
      · have hMissing : anomaly.stored "organizationId" = none := rfl
        have hHolds := Aggregation.allHold_cons (Aggregation.holds_eq_missing hMissing
          (.string organizationId)) Aggregation.allHold_nil
        simpa [organizationConditions, hEmpty] using hHolds

theorem match_run (organizationId : Option String) (docs : List Anomaly) :
    run [softDeleteStage,
        matching (⟨"deletedAt", .eq, .null⟩ :: organizationConditions organizationId)]
      (docs.map Anomaly.stored) = some ((countedFor organizationId docs).map Anomaly.stored) := by
  have hDeleted (anomaly : Anomaly) :
      anomaly.stored "deletedAt" = some (storedDate anomaly.deletedAt) := rfl
  rw [run_softDelete_matching hDeleted fun anomaly _ => Aggregation.allHold_cons
    (deletedAt_holds anomaly) (organizationConditions_hold organizationId anomaly)]
  simp only [countedFor, ← Bool.and_assoc, Bool.and_self]

/-- What the code reads of an answer whose branches are these. -/
theorem tallies_of_branches {items : List Anomaly} {result : Document}
    (hTotalActive : branchCount result "totalActive" = (items.filter (·.resolved = false)).length)
    (hTotalAll : branchCount result "totalAll" = items.length)
    (hResolved : branchCount result "resolved" = (items.filter (·.resolved = true)).length)
    (hBySeverity : facetRows result "bySeverity" =
      ((items.filter (·.resolved = false)).map (·.severity)).dedup.map
        (countRow (items.filter (·.resolved = false)) (·.severity)))
    (hByType : facetRows result "byType" =
      ((items.filter (·.resolved = false)).map (·.type)).dedup.map
        (countRow (items.filter (·.resolved = false)) (·.type))) :
    Tallies items (statsOf result) where
  totalActive := hTotalActive
  bySeverity := by
    simp only [statsOf, hBySeverity]
    refine countsOf_assign (by decide) fun key => ?_
    simp only [List.lookup_cons, List.lookup_nil]
    repeat' split
    all_goals rfl
  byType := by
    simp only [statsOf, hByType]
    exact countsOf_assign List.nodup_nil fun key => rfl
  resolutionRate := by
    simp only [statsOf, hTotalAll, hResolved]
    split
    · rename_i hSome
      have hPart : ((items.filter (·.resolved = true)).length : ℚ) ≤ items.length := by
        exact_mod_cast List.length_filter_le _ items
      refine mathRound_mem (by positivity) ?_
      rw [div_mul_eq_mul_div, div_le_iff₀ hSome]
      linarith
    · exact ⟨le_refl 0, zero_le_one⟩
  noneResolved hNone := by
    have hEmpty : items.filter (·.resolved = true) = [] := by
      rw [List.filter_eq_nil_iff]
      intro anomaly hMem
      simp [hNone anomaly hMem]
    have hRound : mathRound 0 = 0 := by
      norm_num [mathRound]
    rw [hEmpty] at hResolved
    simp [statsOf, hResolved, hRound]

/-- The pipeline answers with one document, from which the counts are read. -/
theorem statsPipeline_run (organizationId : Option String) (docs : List Anomaly) :
    ∃ result, run (statsPipeline organizationId) (docs.map Anomaly.stored) = some [result] ∧
      Tallies (countedFor organizationId docs) (statsOf result) := by
  obtain ⟨items, hItems⟩ : ∃ items, items = countedFor organizationId docs := ⟨_, rfl⟩
  obtain ⟨activeRows, hActiveRun, hActiveCount⟩ :=
    count_run (items.filter (·.resolved = false))
  obtain ⟨allRows, hAllRun, hAllCount⟩ := count_run items
  obtain ⟨resolvedRows, hResolvedRun, hResolvedCount⟩ :=
    count_run (items.filter (·.resolved = true))
  have hBySeverity := @countedBy_run (items.filter (·.resolved = false)) (·.severity) "severity"
    fun _ => rfl
  have hByType := @countedBy_run (items.filter (·.resolved = false)) (·.type) "type" fun _ => rfl
  have hStage := resolvedStage_run items
  have hFacet := Aggregation.run_cons_cons (match_run organizationId docs)
    [facet [("totalActive", [resolvedStage false, count "count"]),
      ("totalAll", [count "count"]),
      ("resolved", [resolvedStage true, count "count"]),
      ("bySeverity", [resolvedStage false, countedBy "severity"]),
      ("byType", [resolvedStage false, countedBy "type"])]]
  rw [← hItems] at hFacet
  rw [statsPipeline, hFacet]
  simp only [Aggregation.run, facet, List.mapM_cons, List.mapM_nil, hStage, Option.bind_some,
    hActiveRun, hAllRun, hResolvedRun, hBySeverity, hByType, Option.map_some, Option.bind_eq_bind,
    Option.pure_def]
  refine ⟨_, rfl, ?_⟩
  rw [← hItems]
  refine tallies_of_branches ?_ ?_ ?_ (facetRows_of_array rfl) (facetRows_of_array rfl)
  · rw [branchCount, @facetRows_of_array _ _ activeRows rfl, hActiveCount]
  · rw [branchCount, @facetRows_of_array _ _ allRows rfl, hAllCount]
  · rw [branchCount, @facetRows_of_array _ _ resolvedRows rfl, hResolvedCount]

end Tallies

section Requests

/-- How far a request for stats has come. -/
inductive Stage where
  | reading
  | served (cached : AnomalyStats)
  | computed (stats : AnomalyStats)

structure StatsProgress where
  request : AnomalyRequest
  stage : Stage := .reading

def Stage.next : Stage → (call : AnomalyCall) → Except ThrownError call.Answer → Stage
  | .reading, .get _, .ok (some cached) => .served cached
  | .reading, .aggregate _, .ok result => .computed (statsOf result)
  | stage, _, _ => stage

/-- A request keeps to its calls, and caches what it has computed. -/
def cachesWhatWasCounted : Protocol AnomalyCall AnomalyCall.Answer ThrownError StatsProgress where
  allows progress call := progress.request.Calls call ∧
    ∀ key stats seconds, call = .set key stats seconds →
      seconds = STATS_CACHE_TTL ∧ progress.stage = .computed stats
  next progress call response := { progress with stage := progress.stage.next call response }

variable {organizationId : Option String} {client : Bool} {stats : AnomalyStats}

/-- What is known when the cache has been asked. -/
def Asked (organizationId : Option String) (progress : StatsProgress) :
    Except ThrownError (Bool × Option AnomalyStats) → Prop
  | .ok (_, some cached) => progress = ⟨.stats organizationId, .served cached⟩
  | .ok (_, none) | .error _ => progress = ⟨.stats organizationId, .reading⟩

theorem readStatsCache_follows : (readStatsCache (statsCacheKey organizationId)).Follows
    cachesWhatWasCounted (Asked organizationId) ⟨.stats organizationId, .reading⟩ := by
  have hClient : cachesWhatWasCounted.allows ⟨.stats organizationId, .reading⟩ .getRedisClient :=
    ⟨trivial, by simp⟩
  have hGet : cachesWhatWasCounted.allows ⟨.stats organizationId, .reading⟩
      (.get (statsCacheKey organizationId)) := ⟨rfl, by simp⟩
  refine Follows.tryCatch (Q := Asked organizationId) (.await_bind hClient (fun _ => rfl) fun _ => ?_)
    (fun _ _ h => h) fun _ _ h => h
  refine Follows.tryCatch (Q := Asked organizationId) (.await_bind hGet (fun _ => rfl) fun cached => ?_)
    (fun _ _ h => h) fun _ _ h => h
  cases cached <;> rfl

theorem writeStatsCache_follows :
    (writeStatsCache client (statsCacheKey organizationId) stats).Follows cachesWhatWasCounted
      (fun progress _ => progress = ⟨.stats organizationId, .computed stats⟩)
      ⟨.stats organizationId, .computed stats⟩ := by
  have hSet : cachesWhatWasCounted.allows ⟨.stats organizationId, .computed stats⟩
      (.set (statsCacheKey organizationId) stats STATS_CACHE_TTL) := by
    refine ⟨rfl, fun key other seconds hSame => ?_⟩
    cases hSame
    exact ⟨rfl, rfl⟩
  unfold writeStatsCache
  split
  · refine Program.follows_tryCatch.mpr (Program.follows_await.mpr ⟨hSet, fun response => ?_⟩)
    cases response <;> rfl
  · rfl

/-- What a request for stats ends with. -/
def Answered (progress : StatsProgress) (stats : AnomalyStats) : Prop :=
  progress.stage = .served stats ∨ progress.stage = .computed stats

theorem getAnomalyStatsService_follows : (getAnomalyStatsService organizationId).Follows
    cachesWhatWasCounted
    (fun progress outcome => ∀ stats, outcome = .ok stats → Answered progress stats)
    ⟨.stats organizationId, .reading⟩ := by
  refine readStatsCache_follows.bind (fun progress read hAsked => ?_) fun _ _ _ _ h => by cases h
  obtain ⟨client, cached⟩ := read
  cases cached with
  | some cached =>
      cases hAsked
      rintro stats ⟨⟩
      exact .inl rfl
  | none =>
      cases hAsked
      refine .await_bind ⟨rfl, by simp⟩ (fun _ _ h => by cases h) fun result => ?_
      refine writeStatsCache_follows.bind (fun progress _ hSame => ?_) fun _ _ _ _ h => by cases h
      rintro stats ⟨⟩
      exact .inr (congrArg StatsProgress.stage hSame)

theorem program_answers [ServerZone] (request : AnomalyRequest) :
    request.program.Follows cachesWhatWasCounted (fun progress outcome =>
      ∀ organizationId stats, request = .stats organizationId → outcome = .ok (.stats stats) →
        Answered progress stats) { request } := by
  have hOther (hRequest : ∀ organizationId, request ≠ .stats organizationId) :
      request.program.Follows cachesWhatWasCounted (fun progress outcome =>
        ∀ organizationId stats, request = .stats organizationId → outcome = .ok (.stats stats) →
          Answered progress stats) { request } := by
    refine Follows.mono ((program_uses request).follows_within
      (I := fun progress : StatsProgress => progress.request = request)
      (fun progress call hSame hCall => ⟨⟨hSame ▸ hCall, ?_⟩, fun _ => hSame⟩) rfl)
      fun _ _ _ organizationId _ hStats => absurd hStats (hRequest organizationId)
    rintro key stats seconds rfl
    cases request with
    | stats organizationId => exact absurd rfl (hRequest organizationId)
    | _ => cases hCall
  cases request with
  | stats organizationId =>
      rw [AnomalyRequest.program, map_eq_pure_bind]
      refine getAnomalyStatsService_follows.bind (fun progress stats hAnswered => ?_)
        fun _ _ _ _ _ _ h => by cases h
      rintro _ _ ⟨⟩ ⟨⟩
      exact hAnswered stats rfl
  | _ => exact hOther (by simp)

end Requests

/-! The cached stats as values that expire. -/
section Cache

/-- What the calls write to Redis. -/
def AnomalyCall.caches : AnomalyCall → String → Write AnomalyStats
  | .set setKey stats seconds, key =>
      if setKey = key then .put stats (seconds * 1000 : Nat) else .keep
  | _, _ => .keep

/-- What the calls read from Redis. -/
def AnomalyCall.finds : (call : AnomalyCall) → call.Answer → String → Option AnomalyStats
  | .get getKey, cached, key => if getKey = key then cached else none
  | _, _, _ => none

theorem set_of_put {call : AnomalyCall} {key : String} {stats : AnomalyStats} {ms : Int}
    (h : call.caches key = .put stats ms) :
    ∃ seconds : Nat, call = .set key stats seconds ∧ ms = (seconds * 1000 : Nat) := by
  cases call with
  | set setKey setStats seconds =>
      by_cases hKey : setKey = key
      · simp only [AnomalyCall.caches, if_pos hKey, Write.put.injEq] at h
        exact ⟨seconds, by rw [hKey, h.1], h.2.symm⟩
      · simp [AnomalyCall.caches, hKey] at h
  | _ => cases h

variable (decision : AnomalyDecision) (store : AnomalyStore) (call : AnomalyCall) (key : String)

theorem execute_values : (execute decision store call).1.values key =
    (call.caches key).apply store.clock (store.values key) := by
  cases call with
  | set setKey stats seconds =>
      by_cases hKey : setKey = key
      · simp [execute, AnomalyCall.caches, hKey, Write.apply]
      · simp [execute, AnomalyCall.caches, hKey, Ne.symm hKey, Write.apply]
  | create anomaly now =>
      simp only [execute, castingId]
      split
      · rfl
      · split <;> rfl
  | findByIdAndUpdate id update now =>
      simp only [execute, castingId]
      split
      · rfl
      · split <;> rfl
  | updateMany shipmentId deletedAt now =>
      simp only [execute, castingId]
      split <;> rfl
  | aggregate organizationId =>
      simp only [execute]
      split <;> rfl
  | _ => rfl

/-- The stats that are cached. -/
def cachedStats : ExpiringValues anomalies AnomalyStore.clock String AnomalyStats where
  entries := AnomalyStore.values
  writes := AnomalyCall.caches
  reads := AnomalyCall.finds
  written decision store call key := by
    rw [clock_perform]
    rcases perform_cases decision store call with hEffect | ⟨hError, hSame⟩
    · exact .inl ((congrArg (AnomalyStore.values · key) hEffect).trans (execute_values _ _ _ _))
    · have hKept := congrArg (AnomalyStore.values · key) hSame
      exact .inr ⟨hError, hKept⟩
  read decision store call answer key stats hAnswer hRead := by
    rw [clock_perform]
    cases call with
    | get getKey =>
        have hDone := (congrArg Prod.snd (faultedBy_ok hAnswer)).symm.trans hAnswer
        cases hDone
        by_cases hKey : getKey = key
        · subst hKey
          simp only [AnomalyCall.finds, if_true] at hRead
          exact hRead
        · simp [AnomalyCall.finds, hKey] at hRead
    | _ => cases hRead

end Cache

section Runs

variable {ι : Type} [DecidableEq ι] [ServerZone] {requests : ι → AnomalyRequest}

/-- What the requests have learned of the stats. -/
def statsLearned (requests : ι → AnomalyRequest) (history : List (AnomalyEvent ι)) :
    ι → StatsProgress :=
  cachesWhatWasCounted.after (fun i => { request := requests i }) history

omit [ServerZone] in
theorem statsLearned_request (history : List (AnomalyEvent ι)) (i : ι) :
    (statsLearned requests history i).request = requests i :=
  cachesWhatWasCounted.after_field StatsProgress.request (fun _ _ _ => rfl) _ history i

omit [DecidableEq ι] [ServerZone] in
/-- Everything that an event can teach. -/
theorem next_cases (stage : Stage) (event : AnomalyEvent ι) :
    stage.next event.request event.response = stage ∨
    (∃ key cached, event = ⟨event.thread, .get key, .ok (some cached)⟩ ∧
      stage.next event.request event.response = .served cached) ∨
    ∃ organizationId result, event = ⟨event.thread, .aggregate organizationId, .ok result⟩ ∧
      stage.next event.request event.response = .computed (statsOf result) := by
  obtain ⟨thread, call, response⟩ := event
  cases stage with
  | served | computed => exact .inl rfl
  | reading =>
      cases call with
      | get key =>
          cases response with
          | error error => exact .inl rfl
          | ok answer =>
              cases answer with
              | none => exact .inl rfl
              | some cached => exact .inr (.inl ⟨key, cached, rfl, rfl⟩)
      | aggregate organizationId =>
          cases response with
          | error error => exact .inl rfl
          | ok result => exact .inr (.inr ⟨organizationId, result, rfl, rfl⟩)
      | _ => exact .inl rfl

variable {history : List (AnomalyEvent ι)} {i : ι} {stats : AnomalyStats}

omit [ServerZone] in
/-- What was served was found in the cache. -/
theorem exists_served (h : (statsLearned requests history i).stage = .served stats) :
    ∃ newer key older,
      history = newer ++ (⟨i, .get key, .ok (some stats)⟩ : AnomalyEvent ι) :: older := by
  obtain ⟨newer, event, older, rfl, rfl, hBefore, hAfter⟩ :=
    cachesWhatWasCounted.exists_turn (p := (·.stage = .served stats)) h (by simp)
  rcases next_cases (statsLearned requests older event.thread).stage event with hSame |
    ⟨key, cached, hEvent, hNext⟩ | ⟨organizationId, result, -, hNext⟩
  · exact absurd (hSame.symm.trans hAfter) hBefore
  · cases hNext.symm.trans hAfter
    exact ⟨newer, key, older, by rw [← hEvent]⟩
  · cases hNext.symm.trans hAfter

omit [ServerZone] in
/-- What was computed was aggregated. -/
theorem exists_computed (h : (statsLearned requests history i).stage = .computed stats) :
    ∃ newer organizationId result older, stats = statsOf result ∧ history = newer ++
      (⟨i, .aggregate organizationId, .ok result⟩ : AnomalyEvent ι) :: older := by
  obtain ⟨newer, event, older, rfl, rfl, hBefore, hAfter⟩ :=
    cachesWhatWasCounted.exists_turn (p := (·.stage = .computed stats)) h (by simp)
  rcases next_cases (statsLearned requests older event.thread).stage event with hSame |
    ⟨key, cached, -, hNext⟩ | ⟨organizationId, result, hEvent, hNext⟩
  · exact absurd (hSame.symm.trans hAfter) hBefore
  · cases hNext.symm.trans hAfter
  · cases hNext.symm.trans hAfter
    exact ⟨newer, organizationId, result, older, rfl, by rw [← hEvent]⟩

variable {start : AnomalyStore} {point : TimedPoint anomalies ι AnomalyReply}

/-- Every event is one that its request may cause. -/
theorem stats_allowed (run : TimedRun AnomalyStore.clock (anomalyPool start requests) point)
    {newer older : List (Int × AnomalyEvent ι)} {time : Int} {event : AnomalyEvent ι}
    (hSplit : point.1 = newer ++ (time, event) :: older) :
    cachesWhatWasCounted.allows (statsLearned requests (older.map Prod.snd) event.thread)
      event.request :=
  TimedRun.allowed cachesWhatWasCounted (fun i => { request := requests i }) run
    (fun i => program_answers (requests i)) hSplit

/-- The request has counted the anomalies that were stored at a moment that the run has passed. -/
def CountedBy (start : AnomalyStore) (requests : ι → AnomalyRequest)
    (point : TimedPoint anomalies ι AnomalyReply) (i : ι) (organizationId : Option String)
    (stats : AnomalyStats) : Prop :=
  ∃ before after time result,
    TimedRun AnomalyStore.clock (anomalyPool start requests) before ∧
    after.1 = (time, ⟨i, .aggregate organizationId, .ok result⟩) :: before.1 ∧
    TimedSteps AnomalyStore.clock after point ∧
    Tallies (countedFor organizationId (AnomalyStore.anomalies before.2.store).docs) stats

omit [ServerZone] in
/-- An answer of the pipeline counts what is stored. -/
theorem tallies_of_aggregate {decision : AnomalyDecision} {store : AnomalyStore}
    {organizationId : Option String} {result : Document}
    (h : (anomalies.perform decision store (.aggregate organizationId)).2 = .ok result) :
    Tallies (countedFor organizationId store.anomalies.docs) (statsOf result) := by
  have hDone := (congrArg Prod.snd (faultedBy_ok h)).symm.trans h
  obtain ⟨answer, hRun, hTallies⟩ := statsPipeline_run organizationId store.anomalies.docs
  have hSame : (store.wait decision.elapsed).anomalies = store.anomalies := rfl
  simp only [execute, hSame, hRun] at hDone
  cases hDone
  exact hTallies

theorem countedBy_of_learned
    (run : TimedRun AnomalyStore.clock (anomalyPool start requests) point)
    {organizationId : Option String} (hRequest : requests i = .stats organizationId)
    (hComputed : (statsLearned requests (point.1.map Prod.snd) i).stage = .computed stats) :
    CountedBy start requests point i organizationId stats := by
  obtain ⟨_, asked, result, _, rfl, hEvents⟩ := exists_computed hComputed
  obtain ⟨newer, time, older, hSplit, -⟩ := exists_stamped hEvents
  have hCalls := (stats_allowed run hSplit).1
  rw [statsLearned_request, hRequest] at hCalls
  cases hCalls
  obtain ⟨before, after, prior, rfl, hStep, hAfter, hLater⟩ := run.passes hSplit
  refine ⟨before, after, time, result, prior, hAfter, hLater, ?_⟩
  obtain ⟨decision, j, call, next, -, hHistory, -⟩ := hStep.cases
  rw [hAfter] at hHistory
  have hEvent := (List.cons.inj hHistory).1
  simp only [Prod.mk.injEq, Event.mk.injEq] at hEvent
  obtain ⟨-, rfl, rfl, hResponse⟩ := hEvent
  exact tallies_of_aggregate (eq_of_heq hResponse).symm

/-- The request found in the cache what another had counted and put there less than five minutes
before, for the same organisation or another of the same key. -/
def FoundCounted (start : AnomalyStore) (requests : ι → AnomalyRequest)
    (point : TimedPoint anomalies ι AnomalyReply) (i : ι) (organizationId : Option String)
    (stats : AnomalyStats) : Prop :=
  ∃ newer read between put before response j counted,
    point.1 = newer ++ (read, ⟨i, .get (statsCacheKey organizationId), .ok (some stats)⟩) ::
      (between ++ (put, ⟨j, .set (statsCacheKey organizationId) stats STATS_CACHE_TTL, response⟩) ::
        before.1) ∧
    read < put + 300000 ∧ requests j = .stats counted ∧
    statsCacheKey counted = statsCacheKey organizationId ∧
    TimedRun AnomalyStore.clock (anomalyPool start requests) before ∧
    CountedBy start requests before j counted stats

theorem foundCounted_of_learned
    (run : TimedRun AnomalyStore.clock (anomalyPool start requests) point)
    (hEmpty : ∀ key, start.values key = none) {organizationId : Option String}
    (hRequest : requests i = .stats organizationId)
    (hServed : (statsLearned requests (point.1.map Prod.snd) i).stage = .served stats) :
    FoundCounted start requests point i organizationId stats := by
  obtain ⟨_, key, _, hEvents⟩ := exists_served hServed
  obtain ⟨newer, read, older, hRead, -⟩ := exists_stamped hEvents
  have hCalls := (stats_allowed run hRead).1
  rw [statsLearned_request, hRequest] at hCalls
  cases hCalls
  have hValue : cachedStats.reads (.get (statsCacheKey organizationId)) (some stats)
      (statsCacheKey organizationId) = some stats := if_pos rfl
  obtain ⟨expiresAt, ⟨between, ⟨put, j, call, response⟩, before, ms, rfl, hPut, rfl, -⟩, hTime⟩ :=
    TimedRun.read_putLast run (hEmpty _) hRead rfl hValue
  obtain ⟨seconds, rfl, rfl⟩ := set_of_put hPut
  have hPutSplit := hRead
  rw [← List.cons_append, ← List.append_assoc] at hPutSplit
  obtain ⟨hCalls, hSet⟩ := stats_allowed run hPutSplit
  obtain ⟨rfl, hStage⟩ := hSet _ _ _ rfl
  rw [statsLearned_request] at hCalls
  obtain ⟨earlier, -, prior, rfl, -, -, -⟩ := run.passes hPutSplit
  cases hWriter : requests j with
  | stats counted =>
      rw [hWriter] at hCalls
      exact ⟨newer, read, between, put, earlier, response, j, counted, hRead, hTime, hWriter,
        hCalls.symm, prior, countedBy_of_learned prior hWriter hStage⟩
  | _ =>
      rw [hWriter] at hCalls
      cases hCalls

theorem source_of_run (run : TimedRun AnomalyStore.clock (anomalyPool start requests) point)
    (hEmpty : ∀ key, start.values key = none) {organizationId : Option String}
    (hRequest : requests i = .stats organizationId)
    (hDone : point.2.thread i = .done (.stats stats)) :
    CountedBy start requests point i organizationId stats ∨
      FoundCounted start requests point i organizationId stats := by
  have hFollows := GuardedRun.follows cachesWhatWasCounted (fun i => { request := requests i })
    (TimedRun.erase run) (fun i => program_answers (requests i)) i
  dsimp only at hFollows
  rw [hDone] at hFollows
  rcases hFollows organizationId stats hRequest rfl with hServed | hComputed
  · exact .inr (foundCounted_of_learned run hEmpty hRequest hServed)
  · exact .inl (countedBy_of_learned run hRequest hComputed)

omit [DecidableEq ι] [ServerZone] in
theorem statsCacheKey_injective {first second : Option String}
    (h : statsCacheKey first = statsCacheKey second) :
    first.getD "global" = second.getD "global" := by
  have hTexts := congrArg String.toList h
  simp only [statsCacheKey, String.toList_append] at hTexts
  exact String.toList_injective (List.append_cancel_left hTexts)

/-- In either case the stats count documents, for an organisation of the same key. -/
theorem exists_tallies {organizationId : Option String}
    (h : CountedBy start requests point i organizationId stats ∨
      FoundCounted start requests point i organizationId stats) :
    ∃ counted docs, counted.getD "global" = organizationId.getD "global" ∧
      Tallies (countedFor counted docs) stats := by
  rcases h with ⟨_, _, _, _, -, -, -, hTallies⟩ |
    ⟨_, _, _, _, _, _, _, counted, -, -, -, hKey, -, _, _, _, _, -, -, -, hTallies⟩
  · exact ⟨organizationId, _, rfl, hTallies⟩
  · exact ⟨counted, _, statsCacheKey_injective hKey, hTallies⟩

/-- All stats that are answered are plain counts of the anomalies at one moment, and so add up. The
request has counted them itself, or they were cached less than five minutes before. -/
theorem stats_counted (run : TimedRun AnomalyStore.clock (anomalyPool start requests) point)
    (hEmpty : ∀ key, start.values key = none) {organizationId : Option String}
    (hRequest : requests i = .stats organizationId)
    (hDone : point.2.thread i = .done (.stats stats)) :
    (CountedBy start requests point i organizationId stats ∨
      FoundCounted start requests point i organizationId stats) ∧
    (stats.bySeverity.map Prod.snd).sum = stats.totalActive ∧
    (stats.byType.map Prod.snd).sum = stats.totalActive := by
  have hSource := source_of_run run hEmpty hRequest hDone
  obtain ⟨_, _, -, hTallies⟩ := exists_tallies hSource
  exact ⟨hSource, hTallies.sum_bySeverity, hTallies.sum_byType⟩

/-- No organisation is told of an anomaly, whatever is stored: the stats of each are all zero. One
called `global` would share its key with the stats of all. -/
theorem organization_stats_zero
    (run : TimedRun AnomalyStore.clock (anomalyPool start requests) point)
    (hEmpty : ∀ key, start.values key = none) {organizationId : String}
    (hRequest : requests i = .stats (some organizationId)) (hName : organizationId ≠ "")
    (hGlobal : organizationId ≠ "global") (hDone : point.2.thread i = .done (.stats stats)) :
    AllZero stats := by
  obtain ⟨counted, docs, hKey, hTallies⟩ := exists_tallies (source_of_run run hEmpty hRequest hDone)
  cases counted with
  | none => exact absurd hKey.symm hGlobal
  | some counted =>
      have hSame : counted = organizationId := hKey
      have hNone : countedFor (some counted) docs = [] := by
        simp [countedFor, hSame, hName]
      rw [hNone] at hTallies
      exact hTallies.allZero

end Runs

section Sample

private instance statsZone : ServerZone where
  offsetAt _ := 0
  offsetOf _ := 0
  spread := 0
  offset_bounded := utc_bounded

private def storedAnomaly : Anomaly where
  id := .repeated 1
  shipmentId := .repeated 2
  type := "BATTERY_LOW"
  severity := "HIGH"
  message := "Battery level below threshold: 3 < 9"
  timestamp := ⟨0⟩
  resolved := false
  deletedAt := none
  resolvedAt := none
  resolvedBy := none
  resolutionNote := none
  createdAt := ⟨0⟩
  updatedAt := ⟨0⟩

private def oneAnomaly : AnomalyStore where
  clock := 0
  anomalies := ⟨[storedAnomaly], Collection.nodup_single _ _⟩

/-- Two dashboards of all anomalies and one of an organisation. -/
private def dashboards (i : Fin 3) : AnomalyRequest :=
  if i = 2 then .stats (some "333333333333333333333333") else .stats none

private def dashboardDecision : AnomalyDecision where
  freshId := .repeated 9

def answeredTotal (total : ℚ) : AnomalyM AnomalyReply → Bool
  | .done (.stats stats) => stats.totalActive = total
  | _ => false

theorem exists_answered {total : ℚ} {thread : AnomalyM AnomalyReply}
    (h : answeredTotal total thread = true) :
    ∃ stats : AnomalyStats, thread = .done (.stats stats) ∧ stats.totalActive = total := by
  unfold answeredTotal at h
  split at h
  · rename_i stats
    exact ⟨stats, rfl, of_decide_eq_true h⟩
  · cases h

/-- The second dashboard answers what the first one has cached. -/
theorem stats_counted_sample :
    ∃ (point : TimedPoint anomalies (Fin 3) AnomalyReply) (stats : AnomalyStats),
      TimedRun AnomalyStore.clock (anomalyPool oneAnomaly dashboards) point ∧
      stats.totalActive = 1 ∧
      (CountedBy oneAnomaly dashboards point 1 none stats ∨
        FoundCounted oneAnomaly dashboards point 1 none stats) ∧
      (stats.bySeverity.map Prod.snd).sum = stats.totalActive ∧
      (stats.byType.map Prod.snd).sum = stats.totalActive := by
  obtain ⟨point, run, hTest⟩ := Pool.exists_timedRun AnomalyStore.clock
    (anomalyPool oneAnomaly dashboards) (fun point => answeredTotal 1 (point.2.thread 1))
    [(dashboardDecision, 0), (dashboardDecision, 0), (dashboardDecision, 0), (dashboardDecision, 0),
      (dashboardDecision, 1), (dashboardDecision, 1)] (by decide +kernel)
  obtain ⟨stats, hDone, hTotal⟩ := exists_answered hTest
  exact ⟨point, stats, run, hTotal, stats_counted run (fun _ => rfl) rfl hDone⟩

/-- The organisation is told of none. -/
theorem organization_stats_zero_sample :
    ∃ (point : TimedPoint anomalies (Fin 3) AnomalyReply) (stats : AnomalyStats),
      TimedRun AnomalyStore.clock (anomalyPool oneAnomaly dashboards) point ∧ AllZero stats := by
  obtain ⟨point, run, hTest⟩ := Pool.exists_timedRun AnomalyStore.clock
    (anomalyPool oneAnomaly dashboards) (fun point => answeredTotal 0 (point.2.thread 2))
    [(dashboardDecision, 2), (dashboardDecision, 2), (dashboardDecision, 2), (dashboardDecision, 2)]
    (by decide +kernel)
  obtain ⟨stats, hDone, -⟩ := exists_answered hTest
  exact ⟨point, stats, run, organization_stats_zero run (fun _ => rfl) rfl (by decide) (by decide)
    hDone⟩

end Sample

end Navin.Anomalies
