import Navin.Analytics.Documents

/-! The summary of the analytics: figures of the last thirty days and of the thirty before,
and a value for each of thirty days. One pipeline computes them in three facets. -/
namespace Navin

open Aggregation (Document Expr Accumulator matching addFields group sort facet run)

/-- The identifier that a caller asks for, where it is not empty. -/
def givenOrganization (organizationId : Option String) : Option String :=
  organizationId.filter (· ≠ "")

def sixtyDaysAgo (now : Date) : Date :=
  ⟨now.ms - 60 * 24 * 60 * 60 * 1000⟩

def thirtyDaysAgo (now : Date) : Date :=
  ⟨now.ms - 30 * 24 * 60 * 60 * 1000⟩

def summaryMatch (organizationId : Option String) (now : Date) : List Aggregation.Condition :=
  [⟨"createdAt", .gte, .date (sixtyDaysAgo now).ms⟩, ⟨"createdAt", .lte, .date now.ms⟩] ++
    (givenOrganization organizationId).toList.map fun id => ⟨"organizationId", .eq, .string id⟩

def isOnTimeExpr : Expr :=
  .cond (.compare .ne (.field "expectedDelivery") (.const .null))
    (.cond (.compare .ne (.field "deliveredTimestamp") (.const .null))
      (.compare .lte (.field "deliveredTimestamp") (.field "expectedDelivery"))
      (.const (.bool false)))
    (.const .null)

def transitDaysExpr : Expr :=
  .cond (.compare .ne (.field "deliveredTimestamp") (.const .null))
    (.divide (.subtract (.field "deliveredTimestamp") (.field "createdAt"))
      (.const (.number 86400000)))
    (.const .null)

def summaryFields (now : Date) : List (String × Expr) :=
  [("deliveredTimestamp", deliveredTimestampExpr),
    ("isOnTime", isOnTimeExpr),
    ("transitDays", transitDaysExpr),
    ("period", .cond (.compare .gte (.field "createdAt")
      (.const (.date (thirtyDaysAgo now).ms))) (.const (.string "CURRENT"))
        (.const (.string "PREVIOUS"))),
    ("dayOfAnalysis", .dateTrunc (.field "createdAt") (Date.truncate id))]

/-- The accumulators that all three facets share, under the name of the count. -/
def summaryAccumulators (count : String) : List (String × Accumulator) :=
  [(count, .sum (.const (.number 1))),
    ("onTimeCount", countIf (.compare .eq (.field "isOnTime") (.const (.bool true)))),
    ("dispatchedCount", countIf (.compare .ne (.field "isOnTime") (.const .null))),
    ("disputedCount", countIf (.compare .gt
      (.size (.ifNull (.field "disputes") (.const (.array [])))) (.const (.number 0)))),
    ("avgTransitDays", .avg (.field "transitDays"))]

def summaryKpis (period : String) : List Aggregation.Stage :=
  [matching [⟨"period", .eq, .string period⟩],
    group (.const .null) (summaryAccumulators "totalShipments")]

def summarySparklines : List Aggregation.Stage :=
  [matching [⟨"period", .eq, .string "CURRENT"⟩],
    group (.field "dayOfAnalysis") (summaryAccumulators "shipmentCount"),
    sort "_id"]

def summaryPipeline (organizationId : Option String) (now : Date) : List Aggregation.Stage :=
  [softDeleteStage, matching (summaryMatch organizationId now), addFields (summaryFields now),
    facet [("currentKpis", summaryKpis "CURRENT"), ("previousKpis", summaryKpis "PREVIOUS"),
      ("currentSparklines", summarySparklines)]]

/-- The figures of a period, or of a day. There may be no average. -/
structure SummaryKpi where
  totalShipments : ℚ
  onTimeCount : ℚ
  dispatchedCount : ℚ
  disputedCount : ℚ
  avgTransitDays : Option ℚ

def SummaryKpi.ofRow (count : String) (row : Document) : SummaryKpi where
  totalShipments := numberField row count
  onTimeCount := numberField row "onTimeCount"
  dispatchedCount := numberField row "dispatchedCount"
  disputedCount := numberField row "disputedCount"
  avgTransitDays := (row "avgTransitDays").bind Aggregation.Value.number?

def SummaryKpi.zero : SummaryKpi :=
  ⟨0, 0, 0, 0, some 0⟩

/-- The first row of a facet, or zeros. -/
def SummaryKpi.first (result : Document) (name : String) : SummaryKpi :=
  ((facetRows result name).head?.map (SummaryKpi.ofRow "totalShipments")).getD SummaryKpi.zero

structure SummaryAggregates where
  currentKpi : SummaryKpi
  previousKpi : SummaryKpi
  currentSparklines : List (Int × SummaryKpi)

/-- What is read of the one document that the facets leave. -/
def SummaryAggregates.read (result : Document) : Option SummaryAggregates := do
  let days ← (facetRows result "currentSparklines").mapM fun row =>
    ((row "_id").bind Aggregation.Value.date?).map fun ms =>
      (ms, SummaryKpi.ofRow "shipmentCount" row)
  some ⟨SummaryKpi.first result "currentKpis", SummaryKpi.first result "previousKpis", days⟩

/-- No result where the database throws. -/
def summaryAggregates (shipments : List StoredShipment) (organizationId : Option String)
    (now : Date) : Option SummaryAggregates := do
  let results ← run (summaryPipeline organizationId now) (shipments.map StoredShipment.stored)
  let result ← results.head?
  SummaryAggregates.read result

structure AnalyticsSummary where
  onTimeDeliveryRate : ℚ
  onTimeDeliveryRatePrev : ℚ
  onTimeDeliverySparkline : List ℚ
  averageTransitDays : ℚ
  averageTransitDaysPrev : ℚ
  averageTransitSparkline : List ℚ
  totalShipmentsThisMonth : ℚ
  totalShipmentsPrevMonth : ℚ
  shipmentsSparkline : List ℚ
  disputeRate : ℚ
  disputeRatePrev : ℚ
  disputesSparkline : List ℚ
  lastUpdated : String

/-- `Math.round`. -/
def mathRound (x : ℚ) : ℚ :=
  ⌊x + 1 / 2⌋

def roundToTenth (x : ℚ) : ℚ :=
  mathRound (x * 10) / 10

def percentage (part whole : ℚ) : ℚ :=
  if 0 < whole then part / whole * 100 else 0

/-- What is shown of an average: null is not above zero. -/
def shownAverage (average : Option ℚ) : ℚ :=
  match average with
  | some days => if 0 < days then roundToTenth days else 0
  | none => 0

/-- The days that get a value, from the earliest to today. -/
def sparklineDays (now : Date) : List Int :=
  (List.range 30).reverse.map fun i : Nat => (Date.startOfUTCDay ⟨now.ms - i * 86400000⟩).ms

def SummaryAggregates.sparkline (aggregates : SummaryAggregates) (now : Date)
    (value : SummaryKpi → ℚ) : List ℚ :=
  (sparklineDays now).map fun day =>
    ((mapOfEntries aggregates.currentSparklines day).map value).getD 0

def SummaryAggregates.summary (aggregates : SummaryAggregates) (now finished : Date) :
    AnalyticsSummary where
  onTimeDeliveryRate := roundToTenth
    (percentage aggregates.currentKpi.onTimeCount aggregates.currentKpi.dispatchedCount)
  onTimeDeliveryRatePrev := roundToTenth
    (percentage aggregates.previousKpi.onTimeCount aggregates.previousKpi.dispatchedCount)
  onTimeDeliverySparkline := aggregates.sparkline now fun day =>
    mathRound (percentage day.onTimeCount day.dispatchedCount)
  averageTransitDays := shownAverage aggregates.currentKpi.avgTransitDays
  averageTransitDaysPrev := shownAverage aggregates.previousKpi.avgTransitDays
  averageTransitSparkline := aggregates.sparkline now fun day =>
    (day.avgTransitDays.map roundToTenth).getD 0
  totalShipmentsThisMonth := aggregates.currentKpi.totalShipments
  totalShipmentsPrevMonth := aggregates.previousKpi.totalShipments
  shipmentsSparkline := aggregates.sparkline now SummaryKpi.totalShipments
  disputeRate := roundToTenth
    (percentage aggregates.currentKpi.disputedCount aggregates.currentKpi.totalShipments)
  disputeRatePrev := roundToTenth
    (percentage aggregates.previousKpi.disputedCount aggregates.previousKpi.totalShipments)
  disputesSparkline := aggregates.sparkline now SummaryKpi.disputedCount
  lastUpdated := finished.toISOString

def analyticsSummaryCacheKey (organizationId : Option String) : String :=
  "analytics:summary:" ++ (givenOrganization organizationId).getD "global"

/-- A cache that cannot be reached holds nothing. What is computed is also cached. -/
def getAnalyticsSummary (shipments : List StoredShipment)
    (cache : String → Option AnalyticsSummary) (now finished : Date)
    (organizationId : Option String) : Option AnalyticsSummary :=
  match cache (analyticsSummaryCacheKey organizationId) with
  | some cached => some cached
  | none => (summaryAggregates shipments organizationId now).map
      (SummaryAggregates.summary · now finished)

section Fields

variable (now : Date) (shipment : StoredShipment)

/-- The field of the expected delivery holds null, rather than a date or nothing. -/
def StoredShipment.expectsExplicitNull : Bool :=
  shipment.expectedDelivery = none && shipment.expectsNull

/-- What the computed fields come to: the time of delivery is not there yet when the others
are computed. -/
def analysedFields : List (String × Option Aggregation.Value) :=
  [("deliveredTimestamp", shipment.deliveredAt.map fun date => .date date.ms),
    ("isOnTime", some (if shipment.expectsExplicitNull then .null else .bool true)),
    ("transitDays", some .null),
    ("period", some (.string
      (if (thirtyDaysAgo now).ms ≤ shipment.createdAt.ms then "CURRENT" else "PREVIOUS"))),
    ("dayOfAnalysis", some (.date (shipment.createdAt.day * 86400000)))]

/-- A shipment as the facets see it. -/
def StoredShipment.analysed : Document :=
  Aggregation.withFields (analysedFields now shipment) shipment.stored

theorem isOnTimeExpr_eval : isOnTimeExpr.of shipment.stored =
    some (some (if shipment.expectsExplicitNull then .null else .bool true)) := by
  have hDelivered : shipment.stored "deliveredTimestamp" = none := rfl
  have hExpected : shipment.stored "expectedDelivery" = shipment.storedExpectedDelivery := rfl
  cases hDate : shipment.expectedDelivery <;> cases hNull : shipment.expectsNull <;>
    simp [isOnTimeExpr, Expr.eval, hDelivered, hExpected, StoredShipment.storedExpectedDelivery,
      StoredShipment.expectsExplicitNull, hDate, hNull, Aggregation.Value.comparable,
      Aggregation.Comparison.holds, Aggregation.before, Aggregation.Value.truthy]

theorem transitDaysExpr_eval : transitDaysExpr.of shipment.stored = some (some .null) := by
  have hDelivered : shipment.stored "deliveredTimestamp" = none := rfl
  have hCreated : shipment.stored "createdAt" = some (.date shipment.createdAt.ms) := rfl
  simp [transitDaysExpr, Expr.eval, hDelivered, hCreated, Aggregation.Value.comparable,
    Aggregation.Comparison.holds, Aggregation.Value.truthy, Aggregation.bothOrNull,
    Aggregation.Value.isNullish]

theorem computeFields_summary : Aggregation.computeFields (summaryFields now) shipment.stored =
    some (analysedFields now shipment) := by
  have hCreated : shipment.stored "createdAt" = some (.date shipment.createdAt.ms) := rfl
  have hPeriod : Expr.of (.cond (.compare .gte (.field "createdAt")
      (.const (.date (thirtyDaysAgo now).ms))) (.const (.string "CURRENT"))
        (.const (.string "PREVIOUS"))) shipment.stored = some (some (.string
      (if (thirtyDaysAgo now).ms ≤ shipment.createdAt.ms then "CURRENT" else "PREVIOUS"))) := by
    by_cases hCurrent : (thirtyDaysAgo now).ms ≤ shipment.createdAt.ms <;>
      simp [Expr.eval, hCreated, Aggregation.Value.comparable, Aggregation.gte_date,
        Aggregation.Value.truthy, hCurrent]
  have hDay : Expr.of (.dateTrunc (.field "createdAt") (Date.truncate id)) shipment.stored =
      some (some (.date (shipment.createdAt.day * 86400000))) := by
    simp [Expr.eval, hCreated, Aggregation.orNull, Aggregation.Value.date?]
    rfl
  have hDelivered := @deliveredTimestampExpr_eval shipment.stored shipment.milestones rfl
  simp only [Aggregation.computeFields, summaryFields, List.mapM_cons, List.mapM_nil, hDelivered,
    isOnTimeExpr_eval, transitDaysExpr_eval, hPeriod, hDay]
  rfl

end Fields

section Facets

variable (now : Date) (items : List StoredShipment)

/-- The figures of the shipments of a period or a day, as they are computed. -/
def computedKpi : SummaryKpi where
  totalShipments := items.length
  onTimeCount := (items.filter fun shipment => !shipment.expectsExplicitNull).length
  dispatchedCount := (items.filter fun shipment => !shipment.expectsExplicitNull).length
  disputedCount := (items.filter fun shipment => 0 < shipment.disputes.length).length
  avgTransitDays := none

def computedRow (count : String) (key : Aggregation.Scalar) : Document := fun name =>
  if name = "_id" then some (.scalar key) else
    [(count, Aggregation.Value.number (computedKpi items).totalShipments),
      ("onTimeCount", .number (computedKpi items).onTimeCount),
      ("dispatchedCount", .number (computedKpi items).dispatchedCount),
      ("disputedCount", .number (computedKpi items).disputedCount),
      ("avgTransitDays", .null)].lookup name

theorem groupRow_computed (count : String) (key : Aggregation.Scalar) :
    Aggregation.groupRow (summaryAccumulators count) key
      (items.map (StoredShipment.analysed now)) = some (computedRow items count key) := by
  have hField : ∀ shipment : StoredShipment, shipment.analysed now "isOnTime" =
    some (if shipment.expectsExplicitNull then .null else .bool true) := fun _ => rfl
  have hOnTime : (countIf (.compare .eq (.field "isOnTime") (.const (.bool true)))).over
      (items.map (StoredShipment.analysed now)) =
        some (.number (computedKpi items).onTimeCount) := by
    refine countIf_over fun shipment _ => ?_
    cases hNull : shipment.expectsExplicitNull <;>
      simp [Expr.eval, hField, hNull, Aggregation.Value.comparable, Aggregation.Comparison.holds]
  have hDispatched : (countIf (.compare .ne (.field "isOnTime") (.const .null))).over
      (items.map (StoredShipment.analysed now)) =
        some (.number (computedKpi items).dispatchedCount) := by
    refine countIf_over fun shipment _ => ?_
    cases hNull : shipment.expectsExplicitNull <;>
      simp [Expr.eval, hField, hNull, Aggregation.Value.comparable, Aggregation.Comparison.holds]
  have hDisputed : (countIf (.compare .gt
      (.size (.ifNull (.field "disputes") (.const (.array [])))) (.const (.number 0)))).over
        (items.map (StoredShipment.analysed now)) =
          some (.number (computedKpi items).disputedCount) := by
    refine countIf_over fun shipment _ => ?_
    have hDisputes : shipment.analysed now "disputes" =
      some (.array (shipment.disputes.map Dispute.stored)) := rfl
    simp [Expr.eval, hDisputes, Aggregation.Value.isNullish, Aggregation.Value.comparable,
      Aggregation.Comparison.holds, Aggregation.before, Aggregation.Scalar.before]
  have hTransit : (Accumulator.avg (.field "transitDays")).over
      (items.map (StoredShipment.analysed now)) = some .null := by
    rw [@Aggregation.over_map _ _ _ _ (fun _ => some .null) fun shipment _ => rfl]
    simp [Accumulator.combine, Aggregation.numbersOf, Aggregation.Value.number?]
  simp only [Aggregation.groupRow, summaryAccumulators, List.mapM_cons, List.mapM_nil, count_over,
    hOnTime, hDispatched, hDisputed, hTransit]
  rfl

/-- The period of a shipment is what the facets select by. -/
theorem allHold_period (period : String) (shipment : StoredShipment) :
    Aggregation.allHold [⟨"period", .eq, .string period⟩] (shipment.analysed now) =
      some (decide ((if (thirtyDaysAgo now).ms ≤ shipment.createdAt.ms then "CURRENT"
        else "PREVIOUS") = period)) := by
  have hPeriod := Aggregation.allHold_cons (@Aggregation.holds_eq (shipment.analysed now) "period"
    _ rfl (.string period)) Aggregation.allHold_nil
  simp only [Aggregation.Scalar.string.injEq, Bool.and_true] at hPeriod
  exact hPeriod

def isCurrent (shipment : StoredShipment) : Bool :=
  (thirtyDaysAgo now).ms ≤ shipment.createdAt.ms

theorem matching_current :
    matching [⟨"period", .eq, .string "CURRENT"⟩] (items.map (StoredShipment.analysed now)) =
      some ((items.filter (isCurrent now)).map (StoredShipment.analysed now)) := by
  refine Aggregation.matching_map fun shipment _ => (allHold_period now _ shipment).trans ?_
  by_cases hCurrent : (thirtyDaysAgo now).ms ≤ shipment.createdAt.ms <;>
    simp [isCurrent, hCurrent]

theorem matching_previous :
    matching [⟨"period", .eq, .string "PREVIOUS"⟩] (items.map (StoredShipment.analysed now)) =
      some ((items.filter fun shipment => !isCurrent now shipment).map
        (StoredShipment.analysed now)) := by
  refine Aggregation.matching_map fun shipment _ => (allHold_period now _ shipment).trans ?_
  by_cases hCurrent : (thirtyDaysAgo now).ms ≤ shipment.createdAt.ms <;>
    simp [isCurrent, hCurrent]

theorem groupKey_dayOfAnalysis (shipment : StoredShipment) :
    Aggregation.groupKey (.field "dayOfAnalysis") (shipment.analysed now) =
      some (.date (shipment.createdAt.day * 86400000)) :=
  rfl

def kpiRows (kept : List StoredShipment) : List Document :=
  if kept = [] then [] else [computedRow kept "totalShipments" .null]

theorem run_kpis {period : String} {kept : List StoredShipment}
    (hPeriod : matching [⟨"period", .eq, .string period⟩]
      (items.map (StoredShipment.analysed now)) =
        some (kept.map (StoredShipment.analysed now))) :
    run (summaryKpis period) (items.map (StoredShipment.analysed now)) =
      some (kpiRows kept) := by
  rw [summaryKpis, run, hPeriod, Option.bind_some, run,
    Aggregation.group_const_map (groupRow_computed now kept "totalShipments" .null)]
  rfl

def dayRow (day : Int) : Document :=
  computedRow (items.filter (·.createdAt.day = day)) "shipmentCount" (.date (day * 86400000))

/-- One row for each day of the current period, in some order. -/
theorem run_sparklines : ∃ days : List Int,
    days.Perm ((items.filter (isCurrent now)).map (·.createdAt.day)).dedup ∧
      run summarySparklines (items.map (StoredShipment.analysed now)) =
        some (days.map (dayRow (items.filter (isCurrent now)))) := by
  have hGroup := Aggregation.group_map_of_injective dayKey_injective
    (fun shipment (_ : shipment ∈ items.filter (isCurrent now)) => groupKey_dayOfAnalysis now shipment)
    fun day _ => groupRow_computed now ((items.filter (isCurrent now)).filter
      (·.createdAt.day = day)) "shipmentCount" (.date (day * 86400000))
  obtain ⟨days, hPerm, hSort⟩ := @Aggregation.sort_map _
    ((items.filter (isCurrent now)).map (·.createdAt.day)).dedup
    (dayRow (items.filter (isCurrent now))) "_id" (fun day => some (.date (day * 86400000)))
    fun day _ => rfl
  refine ⟨days, hPerm, ?_⟩
  rw [summarySparklines, run, matching_current, Option.bind_some, run, hGroup, Option.bind_some,
    run]
  exact congrArg (Option.bind · (run [])) hSort

end Facets

section Aggregates

variable (shipments : List StoredShipment) (organizationId : Option String) (now : Date)

/-- The shipments that the pipeline is about. None has the field that an organisation is
asked for by. -/
def summaryScope : List StoredShipment :=
  shipments.filter fun shipment => shipment.deletedAt = none &&
    ((sixtyDaysAgo now).ms ≤ shipment.createdAt.ms && (shipment.createdAt.ms ≤ now.ms &&
      (givenOrganization organizationId).isNone))

def currentShipments : List StoredShipment :=
  (summaryScope shipments organizationId now).filter (isCurrent now)

def previousShipments : List StoredShipment :=
  (summaryScope shipments organizationId now).filter fun shipment => !isCurrent now shipment

def periodKpi (items : List StoredShipment) : SummaryKpi :=
  if items = [] then SummaryKpi.zero else computedKpi items

theorem allHold_summaryMatch (shipment : StoredShipment) :
    Aggregation.allHold (summaryMatch organizationId now) shipment.stored =
      some (decide ((sixtyDaysAgo now).ms ≤ shipment.createdAt.ms) &&
        (decide (shipment.createdAt.ms ≤ now.ms) &&
          (givenOrganization organizationId).isNone)) := by
  have hOrganization : Aggregation.allHold
      ((givenOrganization organizationId).toList.map fun id =>
        ⟨"organizationId", .eq, .string id⟩) shipment.stored =
          some (givenOrganization organizationId).isNone := by
    cases givenOrganization organizationId with
    | none => rfl
    | some id =>
        exact Aggregation.allHold_cons (@Aggregation.holds_eq_missing shipment.stored
          "organizationId" rfl (.string id)) Aggregation.allHold_nil
  exact Aggregation.allHold_cons
    (@Aggregation.holds_gte_date shipment.stored "createdAt" _ rfl (sixtyDaysAgo now).ms)
    (Aggregation.allHold_cons
      (@Aggregation.holds_lte_date shipment.stored "createdAt" _ rfl now.ms) hOrganization)

/-- The document that the facets leave. -/
def facetResult (current previous : List StoredShipment) (days : List Int) : Document :=
  fun name => ([("currentKpis", kpiRows current), ("previousKpis", kpiRows previous),
    ("currentSparklines", days.map (dayRow current))].lookup name).map fun rows =>
      .array (rows.map .document)

theorem read_kpi {result : Document} {name : String} {kept : List StoredShipment}
    (h : facetRows result name = kpiRows kept) :
    SummaryKpi.first result name = periodKpi kept := by
  rw [SummaryKpi.first, h, kpiRows, periodKpi]
  split <;> rfl

theorem read_facetResult (current previous : List StoredShipment) (days : List Int) :
    SummaryAggregates.read (facetResult current previous days) = some {
      currentKpi := periodKpi current
      previousKpi := periodKpi previous
      currentSparklines := days.map fun day =>
        (day * 86400000, computedKpi (current.filter (·.createdAt.day = day))) } := by
  have hCurrent := @facetRows_of_array (facetResult current previous days) "currentKpis" _ rfl
  have hPrevious := @facetRows_of_array (facetResult current previous days) "previousKpis" _ rfl
  have hDays := @facetRows_of_array (facetResult current previous days) "currentSparklines" _ rfl
  have hRead := @Aggregation.mapM_map_of_forall _ days _ _ (dayRow current) (fun row =>
    ((row "_id").bind Aggregation.Value.date?).map fun ms =>
      (ms, SummaryKpi.ofRow "shipmentCount" row))
    (fun day => (day * 86400000, computedKpi (current.filter (·.createdAt.day = day))))
    fun day _ => rfl
  rw [SummaryAggregates.read, hDays, hRead, read_kpi hCurrent, read_kpi hPrevious]
  rfl

/-- What the aggregation comes to, for any shipments. -/
theorem summaryAggregates_eq : ∃ days : List Int,
    days.Perm ((currentShipments shipments organizationId now).map (·.createdAt.day)).dedup ∧
      summaryAggregates shipments organizationId now = some {
        currentKpi := periodKpi (currentShipments shipments organizationId now)
        previousKpi := periodKpi (previousShipments shipments organizationId now)
        currentSparklines := days.map fun day => (day * 86400000, computedKpi
          ((currentShipments shipments organizationId now).filter (·.createdAt.day = day))) } := by
  obtain ⟨scope, hScope⟩ : ∃ scope, summaryScope shipments organizationId now = scope := ⟨_, rfl⟩
  have hMatched : run [softDeleteStage, matching (summaryMatch organizationId now)]
      (shipments.map StoredShipment.stored) = some (scope.map StoredShipment.stored) := by
    rw [← hScope]
    exact run_softDelete_matching (fun _ => rfl) fun shipment _ =>
      allHold_summaryMatch organizationId now shipment
  obtain ⟨days, hDays, hSparklines⟩ := run_sparklines now scope
  have hCurrent := run_kpis now scope (matching_current now scope)
  have hPrevious := run_kpis now scope (matching_previous now scope)
  have hFields : addFields (summaryFields now) (scope.map StoredShipment.stored) =
      some (scope.map (StoredShipment.analysed now)) :=
    Aggregation.addFields_map fun shipment _ => computeFields_summary now shipment
  refine ⟨days, by rwa [currentShipments, hScope], ?_⟩
  rw [currentShipments, previousShipments, hScope]
  have hFacet : facet [("currentKpis", summaryKpis "CURRENT"),
      ("previousKpis", summaryKpis "PREVIOUS"), ("currentSparklines", summarySparklines)]
        (scope.map (StoredShipment.analysed now)) =
          some [facetResult (scope.filter (isCurrent now))
            (scope.filter fun shipment => !isCurrent now shipment) days] := by
    simp only [facet, List.mapM_cons, List.mapM_nil, hCurrent, hPrevious, hSparklines]
    rfl
  rw [summaryAggregates, summaryPipeline, Aggregation.run_cons_cons hMatched, run, hFields, Option.bind_some, run, hFacet, Option.bind_some, run]
  exact read_facetResult _ _ days

end Aggregates

end Navin
