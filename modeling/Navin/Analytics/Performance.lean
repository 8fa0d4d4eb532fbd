import Navin.Analytics.Documents

/-! The performance dashboard of a window: four facets of the shipments that were created in
it, and the anomalies of the same window joined to the time series by bucket. -/
namespace Navin

open Aggregation (Document Expr matching project group sort count facet run)

inductive Granularity where
  | daily
  | weekly
  | monthly
deriving DecidableEq

def Granularity.name : Granularity → String
  | .daily => "daily"
  | .weekly => "weekly"
  | .monthly => "monthly"

/-- The first day of the bucket of a day: `dateTruncUnit`. -/
def Granularity.firstDay : Granularity → Int → Int
  | .daily => id
  | .weekly => Date.startOfWeek
  | .monthly => Date.firstOfMonth

structure PerformanceQuery where
  startDate : Date
  endDate : Date
  granularity : Option Granularity

def calculateDefaultGranularity (startDate endDate : Date) : Granularity :=
  if endDate.ms - startDate.ms ≤ 30 * (1000 * 60 * 60 * 24) then .daily else .weekly

def PerformanceQuery.chosenGranularity (query : PerformanceQuery) : Granularity :=
  query.granularity.getD (calculateDefaultGranularity query.startDate query.endDate)

def analyticsPerformanceCacheKey (startDateIso endDateIso : String) (granularity : Granularity) :
    String :=
  "analytics:performance:" ++ startDateIso ++ ":" ++ endDateIso ++ ":" ++ granularity.name

def shipmentsByStatusStages : List Aggregation.Stage :=
  [group (.field "status") [("total", .sum (.const (.number 1)))]]

def averageDeliveryTimeStages : List Aggregation.Stage :=
  [matching [⟨"deliveredTimestamp", .ne, .null⟩],
    group (.field "logisticsId") [("averageDeliveryTimeMs",
      .avg (.subtract (.field "deliveredTimestamp") (.field "createdAt")))]]

def delayedShipmentsStages (now : Date) : List Aggregation.Stage :=
  [matching [⟨"status", .ne, .string "DELIVERED"⟩, ⟨"expectedDelivery", .lt, .date now.ms⟩],
    count "totalDelayed"]

def timeSeriesStages (granularity : Granularity) : List Aggregation.Stage :=
  [group (.dateTrunc (.field "createdAt") (Date.truncate granularity.firstDay))
    [("shipmentCount", .sum (.const (.number 1))),
      ("deliveredCount", countIf (.compare .ne (.field "deliveredTimestamp") (.const .null)))],
    sort "_id"]

def performancePipeline (query : PerformanceQuery) (now : Date) : List Aggregation.Stage :=
  [softDeleteStage,
    matching [⟨"createdAt", .gte, .date query.startDate.ms⟩,
      ⟨"createdAt", .lte, .date query.endDate.ms⟩],
    project ["_id", "status", "logisticsId", "createdAt"]
      [("deliveredTimestamp", deliveredTimestampExpr)],
    facet [("shipmentsByStatus", shipmentsByStatusStages),
      ("averageDeliveryTimeByLogisticsId", averageDeliveryTimeStages),
      ("delayedShipments", delayedShipmentsStages now),
      ("timeSeries", timeSeriesStages query.chosenGranularity)]]

def anomalyPipeline (query : PerformanceQuery) : List Aggregation.Stage :=
  [softDeleteStage,
    matching [⟨"timestamp", .gte, .date query.startDate.ms⟩,
      ⟨"timestamp", .lte, .date query.endDate.ms⟩],
    group (.dateTrunc (.field "timestamp") (Date.truncate query.chosenGranularity.firstDay))
      [("count", .sum (.const (.number 1)))],
    sort "_id"]

structure TimeSeriesRow where
  date : String
  shipmentCount : ℚ
  deliveredCount : ℚ
  anomalyCount : ℚ

structure AnalyticsDashboardPayload where
  startDate : String
  endDate : String
  shipmentsByStatus : List (String × ℚ)
  averageDeliveryTimeByLogisticsId : List (String × ℚ)
  totalDelayedShipments : ℚ
  timeSeries : List TimeSeriesRow

/-- `String(row._id)`, of a string, an identifier or null. -/
def rowIdText (row : Document) : String :=
  match row "_id" with
  | some (.scalar (.string text)) => text
  | some (.scalar (.id text)) => text
  | _ => "null"

/-- `row._id.toISOString()`, which throws where there is no date. -/
def rowIdDate (row : Document) : Option String :=
  ((row "_id").bind Aggregation.Value.date?).map fun ms => (Date.mk ms).toISOString

/-- How many anomalies each bucket has. -/
def anomalyCounts (anomalies : List AnomalyRow) (query : PerformanceQuery) :
    Option (List (String × ℚ)) := do
  let rows ← run (anomalyPipeline query) (anomalies.map AnomalyRow.stored)
  rows.mapM fun row => (rowIdDate row).map fun date => (date, numberField row "count")

/-- The payload that is made of the facets and of the anomalies. -/
def AnalyticsDashboardPayload.read (query : PerformanceQuery) (counts : List (String × ℚ))
    (result : Document) : Option AnalyticsDashboardPayload := do
  let timeSeries ← (facetRows result "timeSeries").mapM fun row => (rowIdDate row).map fun date =>
    { date
      shipmentCount := numberField row "shipmentCount"
      deliveredCount := numberField row "deliveredCount"
      anomalyCount := (mapOfEntries counts date).getD 0 }
  some {
    startDate := query.startDate.toISOString
    endDate := query.endDate.toISOString
    shipmentsByStatus := (facetRows result "shipmentsByStatus").map fun row =>
      (rowIdText row, numberField row "total")
    averageDeliveryTimeByLogisticsId :=
      (facetRows result "averageDeliveryTimeByLogisticsId").map fun row =>
        (rowIdText row, numberField row "averageDeliveryTimeMs")
    totalDelayedShipments := ((facetRows result "delayedShipments").head?.map
      (numberField · "totalDelayed")).getD 0
    timeSeries }

/-- No result where the database throws. What is computed is also cached, and a cache that
cannot be reached holds nothing. -/
def getAnalyticsPerformance (shipments : List StoredShipment) (anomalies : List AnomalyRow)
    (cache : String → Option AnalyticsDashboardPayload) (now : Date) (query : PerformanceQuery) :
    Option AnalyticsDashboardPayload :=
  match cache (analyticsPerformanceCacheKey query.startDate.toISOString
      query.endDate.toISOString query.chosenGranularity) with
  | some cached => some cached
  | none => do
      let results ← run (performancePipeline query now) (shipments.map StoredShipment.stored)
      let result ← results.head?
      let counts ← anomalyCounts anomalies query
      AnalyticsDashboardPayload.read query counts result

section Facets

variable (items : List StoredShipment)

/-- A shipment as the facets see it: without the expected delivery, which is not listed. -/
def StoredShipment.projected (shipment : StoredShipment) : Document :=
  Aggregation.withFields
    [("deliveredTimestamp", shipment.deliveredAt.map fun date => .date date.ms)]
    (Aggregation.restrictTo ["_id", "status", "logisticsId", "createdAt"] shipment.stored)

theorem project_eq : project ["_id", "status", "logisticsId", "createdAt"]
    [("deliveredTimestamp", deliveredTimestampExpr)] (items.map StoredShipment.stored) =
      some (items.map StoredShipment.projected) := by
  refine Aggregation.project_map fun shipment _ => ?_
  have hDelivered := @deliveredTimestampExpr_eval shipment.stored shipment.milestones rfl
  simp only [Aggregation.computeFields, List.mapM_cons, List.mapM_nil, hDelivered]
  rfl

theorem run_shipmentsByStatus : ∃ rows,
    run shipmentsByStatusStages (items.map StoredShipment.projected) = some rows := by
  have hRow : ∀ (key : Aggregation.Scalar) (members : List StoredShipment),
      Aggregation.groupRow [("total", .sum (.const (.number 1)))] key
        (members.map StoredShipment.projected) = some fun name =>
          if name = "_id" then some (.scalar key) else
            [("total", Aggregation.Value.number members.length)].lookup name := by
    intro key members
    simp only [Aggregation.groupRow, List.mapM_cons, List.mapM_nil, count_over]
    rfl
  have hGroup := @Aggregation.group_map _ items StoredShipment.projected (.field "status")
    [("total", .sum (.const (.number 1)))] (fun shipment => .string shipment.status.name) _
    (fun _ _ => rfl) fun key _ => hRow key _
  rw [shipmentsByStatusStages, run, hGroup]
  exact ⟨_, rfl⟩

theorem projected_deliveredTimestamp (shipment : StoredShipment) :
    shipment.projected "deliveredTimestamp" =
      shipment.deliveredAt.map fun date => .date date.ms :=
  rfl

theorem allHold_delivered (shipment : StoredShipment) :
    Aggregation.allHold [⟨"deliveredTimestamp", .ne, .null⟩] shipment.projected =
      some (shipment.deliveredAt.isSome && true) := by
  refine Aggregation.allHold_cons ?_ Aggregation.allHold_nil
  have hField := projected_deliveredTimestamp shipment
  cases hDate : shipment.deliveredAt with
  | none =>
      rw [hDate, Option.map_none] at hField
      exact Aggregation.holds_ne_missing hField _
  | some date =>
      rw [hDate, Option.map_some] at hField
      exact Aggregation.holds_ne hField _

theorem deliveryTime_eval (shipment : StoredShipment) :
    Expr.of (.subtract (.field "deliveredTimestamp") (.field "createdAt")) shipment.projected =
      some (some (match shipment.deliveredAt with
        | some date => .number ((date.ms - shipment.createdAt.ms : Int) : ℚ)
        | none => .null)) := by
  have hField := projected_deliveredTimestamp shipment
  have hCreated : shipment.projected "createdAt" = some (.date shipment.createdAt.ms) := rfl
  cases hDate : shipment.deliveredAt <;>
    simp [Expr.eval, hField, hCreated, hDate, Aggregation.bothOrNull,
      Aggregation.Value.isNullish, Aggregation.subtractValues]

theorem run_averageDeliveryTime : ∃ rows,
    run averageDeliveryTimeStages (items.map StoredShipment.projected) = some rows := by
  have hRow : ∀ (key : Aggregation.Scalar) (members : List StoredShipment), ∃ row,
      Aggregation.groupRow [("averageDeliveryTimeMs",
        .avg (.subtract (.field "deliveredTimestamp") (.field "createdAt")))] key
          (members.map StoredShipment.projected) = some row := by
    intro key members
    have hAverage := @Aggregation.over_map _ members StoredShipment.projected
      (.avg (.subtract (.field "deliveredTimestamp") (.field "createdAt"))) _
      fun shipment _ => deliveryTime_eval shipment
    simp only [Aggregation.groupRow, List.mapM_cons, List.mapM_nil, hAverage]
    exact ⟨_, rfl⟩
  have hGroup := @Aggregation.group_map _ (items.filter (·.deliveredAt.isSome && true))
    StoredShipment.projected (.field "logisticsId") _
    (fun shipment => .id shipment.logisticsId.toString) _ (fun _ _ => rfl)
    fun key _ => (hRow key _).choose_spec
  rw [averageDeliveryTimeStages, run,
    Aggregation.matching_map fun shipment _ => allHold_delivered shipment, Option.bind_some, run,
    hGroup]
  exact ⟨_, rfl⟩

/-- No shipment is delayed, as the field to tell by is gone. -/
theorem run_delayedShipments (now : Date) :
    run (delayedShipmentsStages now) (items.map StoredShipment.projected) = some [] := by
  have hNone : ∀ shipment ∈ items, Aggregation.allHold
      [⟨"status", .ne, .string "DELIVERED"⟩, ⟨"expectedDelivery", .lt, .date now.ms⟩]
        shipment.projected = some (decide
          ((.string shipment.status.name : Aggregation.Scalar) ≠ .string "DELIVERED") &&
            (false && true)) := fun shipment _ =>
    Aggregation.allHold_cons (@Aggregation.holds_ne shipment.projected "status" _ rfl _)
      (Aggregation.allHold_cons (@Aggregation.holds_lt_date_missing shipment.projected
        "expectedDelivery" rfl now.ms) Aggregation.allHold_nil)
  rw [delayedShipmentsStages, run, Aggregation.matching_map hNone]
  simp only [Bool.false_and, Bool.and_false, List.filter_false, List.map_nil, Option.bind_some]
  rfl

/-- The first day of the bucket that a shipment is counted in. -/
def StoredShipment.bucket (granularity : Granularity) (shipment : StoredShipment) : Int :=
  granularity.firstDay shipment.createdAt.day

/-- A row of the time series: every shipment counts as delivered, as a missing time is not
null. -/
def timeRow (granularity : Granularity) (day : Int) : Document := fun name =>
  if name = "_id" then some (.date (day * 86400000)) else
    [("shipmentCount", Aggregation.Value.number
        (items.filter (·.bucket granularity = day)).length),
      ("deliveredCount", .number (items.filter (·.bucket granularity = day)).length)].lookup name

theorem groupRow_time (granularity : Granularity) (day : Int) :
    Aggregation.groupRow [("shipmentCount", .sum (.const (.number 1))),
      ("deliveredCount", countIf (.compare .ne (.field "deliveredTimestamp") (.const .null)))]
        (.date (day * 86400000))
        ((items.filter (·.bucket granularity = day)).map StoredShipment.projected) =
      some (timeRow items granularity day) := by
  obtain ⟨members, hMembers⟩ : ∃ members, items.filter (·.bucket granularity = day) = members :=
    ⟨_, rfl⟩
  have hDelivered : (countIf (.compare .ne (.field "deliveredTimestamp") (.const .null))).over
      (members.map StoredShipment.projected) =
        some (.number (members.filter fun _ => true).length) := by
    refine countIf_over fun shipment _ => ?_
    have hField := projected_deliveredTimestamp shipment
    cases hDate : shipment.deliveredAt <;>
      simp [Expr.eval, hField, hDate, Aggregation.Value.comparable,
        Aggregation.Comparison.holds]
  rw [List.filter_true] at hDelivered
  simp only [Aggregation.groupRow, List.mapM_cons, List.mapM_nil, hMembers, count_over, hDelivered]
  subst hMembers
  rfl

theorem groupKey_bucket (granularity : Granularity) (shipment : StoredShipment) :
    Aggregation.groupKey (.dateTrunc (.field "createdAt") (Date.truncate granularity.firstDay))
      shipment.projected = some (.date (shipment.bucket granularity * 86400000)) :=
  rfl

theorem run_timeSeries (granularity : Granularity) : ∃ days : List Int,
    days.Perm (items.map (·.bucket granularity)).dedup ∧
      run (timeSeriesStages granularity) (items.map StoredShipment.projected) =
        some (days.map (timeRow items granularity)) := by
  have hGroup := Aggregation.group_map_of_injective dayKey_injective
    (fun shipment (_ : shipment ∈ items) => groupKey_bucket granularity shipment)
    fun day _ => groupRow_time items granularity day
  obtain ⟨days, hPerm, hSort⟩ := @Aggregation.sort_map _
    (items.map (·.bucket granularity)).dedup (timeRow items granularity) "_id"
    (fun day => some (.date (day * 86400000))) fun day _ => rfl
  refine ⟨days, hPerm, ?_⟩
  rw [timeSeriesStages, run, hGroup, Option.bind_some, run]
  exact congrArg (Option.bind · (run [])) hSort

end Facets

end Navin
