import Navin.Analytics.Performance

/-! What the dashboard comes to for any collections, and exactly when that is what it is
meant to show. -/
namespace Navin

open Aggregation (Document matching project facet run)

section Windows

variable (query : PerformanceQuery)

def inQueryWindow (date : Date) : Bool :=
  query.startDate.ms ≤ date.ms && date.ms ≤ query.endDate.ms

def windowShipments (shipments : List StoredShipment) : List StoredShipment :=
  shipments.filter fun shipment =>
    shipment.deletedAt = none && inQueryWindow query shipment.createdAt

def windowAnomalies (anomalies : List AnomalyRow) : List AnomalyRow :=
  anomalies.filter fun anomaly =>
    anomaly.deletedAt = none && inQueryWindow query anomaly.timestamp

/-- The first day of the bucket that an anomaly is counted in. -/
def AnomalyRow.bucket (granularity : Granularity) (anomaly : AnomalyRow) : Int :=
  granularity.firstDay anomaly.timestamp.day

theorem allHold_queryWindow {document : Document} {field : String} {date : Date}
    (h : document field = some (.date date.ms)) :
    Aggregation.allHold [⟨field, .gte, .date query.startDate.ms⟩,
      ⟨field, .lte, .date query.endDate.ms⟩] document = some (inQueryWindow query date) := by
  have hBoth := Aggregation.allHold_cons (Aggregation.holds_gte_date h query.startDate.ms)
    (Aggregation.allHold_cons (Aggregation.holds_lte_date h query.endDate.ms)
      Aggregation.allHold_nil)
  rwa [Bool.and_true] at hBoth

end Windows

section Anomalies

variable (anomalies : List AnomalyRow) (query : PerformanceQuery)

def anomalyRow (items : List AnomalyRow) (granularity : Granularity) (day : Int) : Document :=
  fun name => if name = "_id" then some (.date (day * 86400000)) else
    [("count", Aggregation.Value.number
      (items.filter (·.bucket granularity = day)).length)].lookup name

theorem groupKey_anomaly (granularity : Granularity) (anomaly : AnomalyRow) :
    Aggregation.groupKey (.dateTrunc (.field "timestamp") (Date.truncate granularity.firstDay))
      anomaly.stored = some (.date (anomaly.bucket granularity * 86400000)) :=
  rfl

theorem groupRow_anomaly (items : List AnomalyRow) (granularity : Granularity) (day : Int) :
    Aggregation.groupRow [("count", .sum (.const (.number 1)))] (.date (day * 86400000))
      ((items.filter (·.bucket granularity = day)).map AnomalyRow.stored) =
        some (anomalyRow items granularity day) := by
  simp only [Aggregation.groupRow, List.mapM_cons, List.mapM_nil, count_over]
  rfl

theorem matching_anomalies :
    run [softDeleteStage, matching [⟨"timestamp", .gte, .date query.startDate.ms⟩,
      ⟨"timestamp", .lte, .date query.endDate.ms⟩]] (anomalies.map AnomalyRow.stored) =
        some ((windowAnomalies query anomalies).map AnomalyRow.stored) :=
  run_softDelete_matching (fun _ => rfl) fun _ _ => allHold_queryWindow query rfl

theorem anomalyCounts_eq : ∃ days : List Int,
    days.Perm ((windowAnomalies query anomalies).map
      (·.bucket query.chosenGranularity)).dedup ∧
      anomalyCounts anomalies query = some (days.map fun day => ((Date.ofDay day).toISOString,
        (((windowAnomalies query anomalies).filter
          (·.bucket query.chosenGranularity = day)).length : ℚ))) := by
  obtain ⟨items, hItems⟩ : ∃ items, windowAnomalies query anomalies = items := ⟨_, rfl⟩
  have hMatched := matching_anomalies anomalies query
  rw [hItems] at hMatched
  have hGroup := Aggregation.group_map_of_injective dayKey_injective
    (fun anomaly (_ : anomaly ∈ items) => groupKey_anomaly query.chosenGranularity anomaly)
    fun day _ => groupRow_anomaly items query.chosenGranularity day
  obtain ⟨days, hPerm, hSort⟩ := @Aggregation.sort_map _
    (items.map (·.bucket query.chosenGranularity)).dedup
    (anomalyRow items query.chosenGranularity) "_id"
    (fun day => some (.date (day * 86400000))) fun day _ => rfl
  have hRead := @Aggregation.mapM_map_of_forall _ days _ _
    (anomalyRow items query.chosenGranularity)
    (fun row => (rowIdDate row).map fun date => (date, numberField row "count"))
    (fun day => ((Date.ofDay day).toISOString,
      ((items.filter (·.bucket query.chosenGranularity = day)).length : ℚ))) fun day _ => rfl
  refine ⟨days, by rwa [hItems], ?_⟩
  rw [hItems, anomalyCounts, anomalyPipeline, Aggregation.run_cons_cons hMatched, run, hGroup, Option.bind_some, run, hSort, Option.bind_some, run]
  exact hRead

/-- The count that is found under a bucket is the number of its anomalies. -/
theorem anomalyCount_eq {counts : List (String × ℚ)} (hCounts : anomalyCounts anomalies query =
    some counts) (day : Int) :
    (mapOfEntries counts (Date.ofDay day).toISOString).getD 0 =
      ((windowAnomalies query anomalies).filter
        (·.bucket query.chosenGranularity = day)).length := by
  obtain ⟨days, hDays, hEq⟩ := anomalyCounts_eq anomalies query
  obtain rfl := Option.some.inj (hCounts.symm.trans hEq)
  refine mapOfEntries_getD (fun entry hEntry hKey => ?_) fun hNone => ?_
  · obtain ⟨other, -, rfl⟩ := List.mem_map.mp hEntry
    obtain rfl : other = day := Date.isoDay_injective hKey
    rfl
  · rw [List.filter_eq_nil_iff.mpr, List.length_nil, Nat.cast_zero]
    intro anomaly hAnomaly hBucket
    have hMem : day ∈ days := hDays.mem_iff.mpr (List.mem_dedup.mpr
      (List.mem_map.mpr ⟨anomaly, hAnomaly, of_decide_eq_true hBucket⟩))
    exact hNone _ (List.mem_map_of_mem hMem) rfl

end Anomalies

section Dashboard

variable (shipments : List StoredShipment) (anomalies : List AnomalyRow) (now : Date)
  (query : PerformanceQuery)

theorem matching_shipments :
    run [softDeleteStage, matching [⟨"createdAt", .gte, .date query.startDate.ms⟩,
      ⟨"createdAt", .lte, .date query.endDate.ms⟩]] (shipments.map StoredShipment.stored) =
        some ((windowShipments query shipments).map StoredShipment.stored) :=
  run_softDelete_matching (fun _ => rfl) fun _ _ => allHold_queryWindow query rfl

/-- The two facets that the totals are read of. -/
theorem performancePipeline_run : ∃ (result : Document) (days : List Int),
    days.Perm ((windowShipments query shipments).map
      (·.bucket query.chosenGranularity)).dedup ∧
      run (performancePipeline query now) (shipments.map StoredShipment.stored) = some [result] ∧
        facetRows result "delayedShipments" = [] ∧
          facetRows result "timeSeries" = days.map
            (timeRow (windowShipments query shipments) query.chosenGranularity) := by
  obtain ⟨items, hItems⟩ : ∃ items, windowShipments query shipments = items := ⟨_, rfl⟩
  have hMatched := matching_shipments shipments query
  rw [hItems] at hMatched
  obtain ⟨statuses, hStatuses⟩ := run_shipmentsByStatus items
  obtain ⟨averages, hAverages⟩ := run_averageDeliveryTime items
  obtain ⟨days, hPerm, hSeries⟩ := run_timeSeries items query.chosenGranularity
  have hDelayed := run_delayedShipments items now
  obtain ⟨result, hResult⟩ : ∃ result : Document, result = fun name =>
      ([("shipmentsByStatus", statuses), ("averageDeliveryTimeByLogisticsId", averages),
        ("delayedShipments", []),
        ("timeSeries", days.map (timeRow items query.chosenGranularity))].lookup name).map
          fun rows => .array (rows.map .document) := ⟨_, rfl⟩
  have hFacet : facet [("shipmentsByStatus", shipmentsByStatusStages),
      ("averageDeliveryTimeByLogisticsId", averageDeliveryTimeStages),
      ("delayedShipments", delayedShipmentsStages now),
      ("timeSeries", timeSeriesStages query.chosenGranularity)]
        (items.map StoredShipment.projected) = some [result] := by
    simp only [facet, List.mapM_cons, List.mapM_nil, hStatuses, hAverages, hDelayed, hSeries,
      hResult]
    rfl
  refine ⟨result, days, by rwa [hItems], ?_, ?_, ?_⟩
  · rw [performancePipeline, Aggregation.run_cons_cons hMatched, run, project_eq, Option.bind_some, run, hFacet]
    rfl
  · exact facetRows_of_array (by rw [hResult]; rfl)
  · rw [hItems]
    exact facetRows_of_array (by rw [hResult]; rfl)

/-- The rows of the time series for buckets. -/
def computedSeries (days : List Int) : List TimeSeriesRow :=
  days.map fun day =>
    { date := (Date.ofDay day).toISOString
      shipmentCount := ((windowShipments query shipments).filter
        (·.bucket query.chosenGranularity = day)).length
      deliveredCount := ((windowShipments query shipments).filter
        (·.bucket query.chosenGranularity = day)).length
      anomalyCount := ((windowAnomalies query anomalies).filter
        (·.bucket query.chosenGranularity = day)).length }

/-- What the dashboard comes to, in the figures that are totals. -/
theorem getAnalyticsPerformance_eq (cache : String → Option AnalyticsDashboardPayload)
    (hCache : cache (analyticsPerformanceCacheKey query.startDate.toISOString
      query.endDate.toISOString query.chosenGranularity) = none) :
    ∃ (payload : AnalyticsDashboardPayload) (days : List Int),
      getAnalyticsPerformance shipments anomalies cache now query = some payload ∧
      days.Perm ((windowShipments query shipments).map
        (·.bucket query.chosenGranularity)).dedup ∧
      payload.totalDelayedShipments = 0 ∧
      payload.timeSeries = computedSeries shipments anomalies query days := by
  obtain ⟨result, days, hPerm, hRun, hDelayed, hSeries⟩ :=
    performancePipeline_run shipments now query
  obtain ⟨_, -, hCounts⟩ := anomalyCounts_eq anomalies query
  obtain ⟨counts, hRead⟩ : ∃ counts, anomalyCounts anomalies query = some counts := ⟨_, hCounts⟩
  have hRows : (days.map (timeRow (windowShipments query shipments)
      query.chosenGranularity)).mapM (fun row => (rowIdDate row).map fun date =>
        TimeSeriesRow.mk date (numberField row "shipmentCount")
          (numberField row "deliveredCount") ((mapOfEntries counts date).getD 0)) =
      some (computedSeries shipments anomalies query days) := by
    refine Aggregation.mapM_map_of_forall fun day _ => ?_
    rw [← anomalyCount_eq anomalies query hRead day]
    rfl
  have hPayload : getAnalyticsPerformance shipments anomalies cache now query =
      AnalyticsDashboardPayload.read query counts result := by
    simp only [getAnalyticsPerformance, hCache, hRun, hRead]
    rfl
  rw [hPayload, AnalyticsDashboardPayload.read, hSeries, hRows, hDelayed]
  exact ⟨_, days, rfl, hPerm, rfl, rfl⟩

end Dashboard

section Reference

/-- A milestone of delivery is recorded. -/
def StoredShipment.hasDelivery (shipment : StoredShipment) : Bool :=
  shipment.milestones.any fun milestone => milestone.name = .delivered

/-- Expected by now and not delivered. -/
def StoredShipment.isDelayed (now : Date) (shipment : StoredShipment) : Bool :=
  shipment.status ≠ .delivered && shipment.expectedDelivery.any fun date => date.ms < now.ms

variable (shipments : List StoredShipment) (anomalies : List AnomalyRow) (now : Date)
  (query : PerformanceQuery)

/-- What the dashboard is meant to show: a row for each bucket in which shipments were
created, with their number and that of the delivered ones, the number of delayed shipments,
and all the anomalies in some row. -/
structure AnalyticsDashboardPayload.MeetsReference (payload : AnalyticsDashboardPayload) :
    Prop where
  buckets : (payload.timeSeries.map (·.date)).Perm (((windowShipments query shipments).map
    (·.bucket query.chosenGranularity)).dedup.map fun day => (Date.ofDay day).toISOString)
  counts : ∀ row ∈ payload.timeSeries, ∀ day, row.date = (Date.ofDay day).toISOString →
    row.shipmentCount = ((windowShipments query shipments).filter
      (·.bucket query.chosenGranularity = day)).length ∧
    row.deliveredCount = (((windowShipments query shipments).filter
      (·.bucket query.chosenGranularity = day)).filter StoredShipment.hasDelivery).length
  delayed : payload.totalDelayedShipments =
    ((windowShipments query shipments).filter (StoredShipment.isDelayed now)).length
  anomalies : (payload.timeSeries.map (·.anomalyCount)).sum =
    (windowAnomalies query anomalies).length

/-- Every shipment of the window is delivered, none is delayed, and every anomaly of the
window lies in a bucket in which a shipment was created. -/
structure PerformanceHolds : Prop where
  delivered : ∀ shipment ∈ windowShipments query shipments, shipment.hasDelivery = true
  notDelayed : ∀ shipment ∈ windowShipments query shipments, shipment.isDelayed now = false
  joined : ∀ anomaly ∈ windowAnomalies query anomalies,
    ∃ shipment ∈ windowShipments query shipments,
      shipment.bucket query.chosenGranularity = anomaly.bucket query.chosenGranularity

variable {days : List Int}

/-- The rows count the anomalies of the buckets that have a row. -/
theorem sum_anomalyCount (hNodup : days.Nodup) :
    ((computedSeries shipments anomalies query days).map (·.anomalyCount)).sum =
      ((windowAnomalies query anomalies).filter
        (·.bucket query.chosenGranularity ∈ days)).length := by
  have hBuckets := Aggregation.sum_buckets (windowAnomalies query anomalies)
    (·.bucket query.chosenGranularity) (fun _ => (1 : ℚ)) hNodup
  simp only [List.map_const', List.sum_replicate, nsmul_eq_mul, mul_one] at hBuckets
  rw [computedSeries, List.map_map]
  exact hBuckets

theorem buckets_perm (hDays : days.Perm ((windowShipments query shipments).map
      (·.bucket query.chosenGranularity)).dedup) :
    ((computedSeries shipments anomalies query days).map (·.date)).Perm
      (((windowShipments query shipments).map (·.bucket query.chosenGranularity)).dedup.map
        fun day => (Date.ofDay day).toISOString) := by
  rw [computedSeries, List.map_map]
  exact hDays.map _

/-- The rows are right about deliveries where there is no shipment without one. -/
theorem counts_iff (hDays : days.Perm ((windowShipments query shipments).map
      (·.bucket query.chosenGranularity)).dedup) :
    (∀ row ∈ computedSeries shipments anomalies query days, ∀ day,
      row.date = (Date.ofDay day).toISOString →
        row.shipmentCount = ((windowShipments query shipments).filter
          (·.bucket query.chosenGranularity = day)).length ∧
        row.deliveredCount = (((windowShipments query shipments).filter
          (·.bucket query.chosenGranularity = day)).filter StoredShipment.hasDelivery).length) ↔
      ∀ shipment ∈ windowShipments query shipments, shipment.hasDelivery = true := by
  constructor
  · intro hCounts shipment hShipment
    have hDay : shipment.bucket query.chosenGranularity ∈ days :=
      hDays.mem_iff.mpr (List.mem_dedup.mpr (List.mem_map_of_mem hShipment))
    obtain ⟨-, hDelivered⟩ := hCounts _ (List.mem_map_of_mem hDay) _ rfl
    have hLength := Nat.cast_injective hDelivered
    exact List.length_filter_eq_length_iff.mp hLength.symm shipment
      (List.mem_filter.mpr ⟨hShipment, decide_eq_true rfl⟩)
  · intro hAll row hRow day hDate
    obtain ⟨other, -, rfl⟩ := List.mem_map.mp hRow
    obtain rfl : other = day := Date.isoDay_injective hDate
    refine ⟨rfl, ?_⟩
    rw [List.filter_eq_self.mpr fun shipment hShipment =>
      hAll shipment (List.mem_of_mem_filter hShipment)]

theorem delayed_iff (items : List StoredShipment) :
    (0 : ℚ) = (items.filter (StoredShipment.isDelayed now)).length ↔
      ∀ shipment ∈ items, shipment.isDelayed now = false := by
  rw [eq_comm, Nat.cast_eq_zero, List.length_eq_zero_iff, List.filter_eq_nil_iff]
  simp only [Bool.not_eq_true]

theorem anomalies_iff (hDays : days.Perm ((windowShipments query shipments).map
      (·.bucket query.chosenGranularity)).dedup) :
    ((computedSeries shipments anomalies query days).map (·.anomalyCount)).sum =
        (windowAnomalies query anomalies).length ↔
      ∀ anomaly ∈ windowAnomalies query anomalies,
        ∃ shipment ∈ windowShipments query shipments,
          shipment.bucket query.chosenGranularity =
            anomaly.bucket query.chosenGranularity := by
  rw [sum_anomalyCount shipments anomalies query (hDays.nodup_iff.mpr (List.nodup_dedup _)),
    Nat.cast_inj, List.length_filter_eq_length_iff]
  simp only [decide_eq_true_eq, hDays.mem_iff, List.mem_dedup, List.mem_map]

theorem meetsReference_iff {payload : AnalyticsDashboardPayload}
    (hDays : days.Perm ((windowShipments query shipments).map
      (·.bucket query.chosenGranularity)).dedup)
    (hDelayed : payload.totalDelayedShipments = 0)
    (hSeries : payload.timeSeries = computedSeries shipments anomalies query days) :
    payload.MeetsReference shipments anomalies now query ↔
      PerformanceHolds shipments anomalies now query := by
  have hCounts := counts_iff shipments anomalies query hDays
  have hLate := delayed_iff now (windowShipments query shipments)
  have hJoined := anomalies_iff shipments anomalies query hDays
  rw [← hSeries] at hCounts hJoined
  rw [← hDelayed] at hLate
  constructor
  · rintro ⟨-, hRows, hNone, hSum⟩
    exact ⟨hCounts.mp hRows, hLate.mp hNone, hJoined.mp hSum⟩
  · rintro ⟨hDelivered, hNone, hAll⟩
    refine ⟨?_, hCounts.mpr hDelivered, hLate.mpr hNone, hJoined.mpr hAll⟩
    rw [hSeries]
    exact buckets_perm shipments anomalies query hDays

/-- The dashboard shows what it is meant to exactly for collections that leave nothing to be
missed. -/
theorem performance_meetsReference_iff (cache : String → Option AnalyticsDashboardPayload)
    (hCache : cache (analyticsPerformanceCacheKey query.startDate.toISOString
      query.endDate.toISOString query.chosenGranularity) = none) :
    ∃ payload, getAnalyticsPerformance shipments anomalies cache now query = some payload ∧
      (payload.MeetsReference shipments anomalies now query ↔
        PerformanceHolds shipments anomalies now query) := by
  obtain ⟨payload, days, hPayload, hDays, hDelayed, hSeries⟩ :=
    getAnalyticsPerformance_eq shipments anomalies now query cache hCache
  exact ⟨payload, hPayload,
    meetsReference_iff shipments anomalies now query hDays hDelayed hSeries⟩

end Reference

section Samples

def sampleWindow : PerformanceQuery where
  startDate := ⟨1709251200000⟩
  endDate := ⟨1709337600000⟩
  granularity := none

/-- A shipment that was created within the sample window. -/
def windowShipment : StoredShipment :=
  { sampleShipment with createdAt := ⟨1709254800000⟩, expectsNull := false }

def deliveredShipment : StoredShipment :=
  { windowShipment with
    status := .delivered
    milestones := [⟨.delivered, ⟨1709260000000⟩, "", none, none⟩] }

/-- An anomaly of the same day. -/
def windowAnomaly : AnomalyRow where
  id := .repeated 9
  shipmentId := sampleShipment.id
  type := "TEMPERATURE"
  severity := "HIGH"
  message := ""
  timestamp := ⟨1709258400000⟩
  resolved := false
  deletedAt := none

theorem performance_meetsReference_delivered : ∃ payload,
    getAnalyticsPerformance [deliveredShipment] [windowAnomaly] (fun _ => none) ⟨1709380800000⟩
      sampleWindow = some payload ∧
    payload.MeetsReference [deliveredShipment] [windowAnomaly] ⟨1709380800000⟩ sampleWindow := by
  obtain ⟨payload, hPayload, hIff⟩ := performance_meetsReference_iff [deliveredShipment]
    [windowAnomaly] ⟨1709380800000⟩ sampleWindow (fun _ => none) rfl
  refine ⟨payload, hPayload, hIff.mpr ⟨?_, ?_, ?_⟩⟩
  · intro shipment hShipment
    obtain rfl := List.mem_singleton.mp (List.mem_of_mem_filter hShipment)
    rfl
  · intro shipment hShipment
    obtain rfl := List.mem_singleton.mp (List.mem_of_mem_filter hShipment)
    rfl
  · intro anomaly hAnomaly
    obtain rfl := List.mem_singleton.mp (List.mem_of_mem_filter hAnomaly)
    exact ⟨deliveredShipment, List.mem_filter.mpr ⟨List.mem_singleton.mpr rfl, by decide⟩,
      by decide⟩

/-- A shipment on its way is shown as delivered. -/
theorem undelivered_counted : ∃ payload,
    getAnalyticsPerformance [windowShipment] [] (fun _ => none) ⟨1709380800000⟩ sampleWindow =
      some payload ∧
    ¬payload.MeetsReference [windowShipment] [] ⟨1709380800000⟩ sampleWindow := by
  obtain ⟨payload, days, hPayload, hDays, hDelayed, hSeries⟩ := getAnalyticsPerformance_eq
    [windowShipment] [] ⟨1709380800000⟩ sampleWindow (fun _ => none) rfl
  refine ⟨payload, hPayload, fun hMeets => ?_⟩
  obtain ⟨hDelivered, -, -⟩ :=
    (meetsReference_iff [windowShipment] [] _ sampleWindow hDays hDelayed hSeries).mp hMeets
  have hMem : windowShipment ∈ windowShipments sampleWindow [windowShipment] :=
    List.mem_filter.mpr ⟨List.mem_singleton.mpr rfl, by decide⟩
  exact absurd (hDelivered windowShipment hMem) (by decide)

end Samples

end Navin
