import Navin.Analytics.Summary

/-! The sparklines of the summary against its totals. The period reaches back thirty times
twenty-four hours, while the days that get a value are the last thirty of the calendar. -/
namespace Navin

section Sums

variable {current : List StoredShipment} {days : List Int} {now : Date}
  {value : SummaryKpi → ℚ} {amount : StoredShipment → ℚ}

theorem sparklineDays_eq (now : Date) :
    sparklineDays now = (List.range 30).reverse.map fun i : Nat => (now.day - i) * 86400000 := by
  refine List.map_congr_left fun i _ => ?_
  simp only [Date.startOfUTCDay, Date.ofDay, Date.day]
  omega

/-- Whether a shipment was created on a day that gets a value. -/
def hasBucket (now : Date) (shipment : StoredShipment) : Bool :=
  now.day - 30 < shipment.createdAt.day && shipment.createdAt.day ≤ now.day

/-- A sparkline of an additive figure has the sum of each day. -/
theorem sparkline_eq {aggregates : SummaryAggregates}
    (hDays : days.Perm (current.map (·.createdAt.day)).dedup)
    (hSparklines : aggregates.currentSparklines = days.map fun day =>
      (day * 86400000, computedKpi (current.filter (·.createdAt.day = day))))
    (hValue : ∀ items, value (computedKpi items) = (items.map amount).sum) :
    aggregates.sparkline now value = ((List.range 30).reverse.map fun i : Nat =>
      now.day - i).map fun day => ((current.filter (·.createdAt.day = day)).map amount).sum := by
  rw [SummaryAggregates.sparkline, sparklineDays_eq, hSparklines, List.map_map, List.map_map]
  refine List.map_congr_left fun i _ => mapOfEntries_map_getD ?_ fun hNone => ?_
  · intro entry hEntry hKey
    obtain ⟨day, -, rfl⟩ := List.mem_map.mp hEntry
    obtain rfl : day = now.day - i := by simpa using hKey
    exact hValue _
  · rw [Function.comp_apply, List.filter_eq_nil_iff.mpr, List.map_nil, List.sum_nil]
    intro shipment hShipment hDay
    have hMem : now.day - i ∈ days := hDays.mem_iff.mpr (List.mem_dedup.mpr
      (List.mem_map.mpr ⟨shipment, hShipment, of_decide_eq_true hDay⟩))
    exact hNone _ (List.mem_map_of_mem hMem) rfl

/-- So it adds up the shipments of the days it shows. -/
theorem sparkline_sum {aggregates : SummaryAggregates}
    (hDays : days.Perm (current.map (·.createdAt.day)).dedup)
    (hSparklines : aggregates.currentSparklines = days.map fun day =>
      (day * 86400000, computedKpi (current.filter (·.createdAt.day = day))))
    (hValue : ∀ items, value (computedKpi items) = (items.map amount).sum) :
    (aggregates.sparkline now value).sum = ((current.filter (hasBucket now)).map amount).sum := by
  have hNodup : ((List.range 30).reverse.map fun i : Nat => now.day - (i : Int)).Nodup :=
    List.Nodup.map (fun first second hSame => by simpa using hSame)
      (List.nodup_reverse.mpr List.nodup_range)
  rw [sparkline_eq hDays hSparklines hValue,
    Aggregation.sum_buckets current (fun shipment => shipment.createdAt.day) amount hNodup]
  refine congrArg (fun items : List StoredShipment => (items.map amount).sum)
    (List.filter_congr fun shipment _ => ?_)
  rw [Bool.eq_iff_iff]
  simp only [hasBucket, List.mem_map, List.mem_reverse, List.mem_range, Bool.and_eq_true,
    decide_eq_true_eq]
  constructor
  · rintro ⟨i, hIndex, hDay⟩
    omega
  · rintro ⟨hLow, hHigh⟩
    exact ⟨(now.day - shipment.createdAt.day).toNat, by omega, by omega⟩

end Sums

section Totals

variable (shipments : List StoredShipment) (organizationId : Option String) (now : Date)

/-- Both sparklines sum to the figure that is shown beside them, or behind the rate that is. -/
def SparklinesAddUp (aggregates : SummaryAggregates) (summary : AnalyticsSummary) : Prop :=
  summary.shipmentsSparkline.sum = summary.totalShipmentsThisMonth ∧
    summary.disputesSparkline.sum = aggregates.currentKpi.disputedCount

/-- No shipment of the current period was created on the day on which the period starts,
before the first of the thirty days that get a value. -/
def NoneOnFirstDay : Prop :=
  givenOrganization organizationId = none → ∀ shipment ∈ shipments, shipment.deletedAt = none →
    (thirtyDaysAgo now).ms ≤ shipment.createdAt.ms → shipment.createdAt.ms ≤ now.ms →
      shipment.createdAt.day ≠ (thirtyDaysAgo now).day

theorem computedKpi_totalShipments (items : List StoredShipment) :
    (computedKpi items).totalShipments = (items.map fun _ => (1 : ℚ)).sum := by
  simp [computedKpi]

theorem computedKpi_disputedCount (items : List StoredShipment) :
    (computedKpi items).disputedCount =
      (items.map fun shipment => if 0 < shipment.disputes.length then (1 : ℚ) else 0).sum := by
  have hSum := sum_map_ite_one items fun shipment => decide (0 < shipment.disputes.length)
  simpa [computedKpi] using hSum.symm

theorem periodKpi_totalShipments (items : List StoredShipment) :
    (periodKpi items).totalShipments = (items.map fun _ => (1 : ℚ)).sum := by
  rw [periodKpi]
  split
  next hEmpty => rw [hEmpty]; rfl
  next => exact computedKpi_totalShipments items

theorem periodKpi_disputedCount (items : List StoredShipment) :
    (periodKpi items).disputedCount =
      (items.map fun shipment => if 0 < shipment.disputes.length then (1 : ℚ) else 0).sum := by
  rw [periodKpi]
  split
  next hEmpty => rw [hEmpty]; rfl
  next => exact computedKpi_disputedCount items

theorem mem_currentShipments {shipment : StoredShipment} :
    shipment ∈ currentShipments shipments organizationId now ↔
      shipment ∈ shipments ∧ shipment.deletedAt = none ∧
        (thirtyDaysAgo now).ms ≤ shipment.createdAt.ms ∧ shipment.createdAt.ms ≤ now.ms ∧
          givenOrganization organizationId = none := by
  simp only [currentShipments, summaryScope, isCurrent, List.mem_filter, Bool.and_eq_true,
    decide_eq_true_eq, Option.isNone_iff_eq_none]
  constructor
  · rintro ⟨⟨hMem, hDeleted, -, hNow, hNone⟩, hCurrent⟩
    exact ⟨hMem, hDeleted, hCurrent, hNow, hNone⟩
  · rintro ⟨hMem, hDeleted, hCurrent, hNow, hNone⟩
    refine ⟨⟨hMem, hDeleted, ?_, hNow, hNone⟩, hCurrent⟩
    simp only [sixtyDaysAgo, thirtyDaysAgo] at hCurrent ⊢
    omega

theorem noneOnFirstDay_iff : NoneOnFirstDay shipments organizationId now ↔
    ∀ shipment ∈ currentShipments shipments organizationId now,
      hasBucket now shipment = true := by
  have hBucket : ∀ shipment : StoredShipment, (thirtyDaysAgo now).ms ≤ shipment.createdAt.ms →
      shipment.createdAt.ms ≤ now.ms →
        (hasBucket now shipment = true ↔ shipment.createdAt.day ≠ (thirtyDaysAgo now).day) := by
    intro shipment hCurrent hNow
    simp only [hasBucket, Bool.and_eq_true, decide_eq_true_eq]
    simp only [thirtyDaysAgo, Date.day] at *
    omega
  constructor
  · intro hNone shipment hShipment
    obtain ⟨hMem, hDeleted, hCurrent, hNow, hGiven⟩ :=
      (mem_currentShipments shipments organizationId now).mp hShipment
    exact (hBucket shipment hCurrent hNow).mpr (hNone hGiven shipment hMem hDeleted hCurrent hNow)
  · intro hAll hGiven shipment hMem hDeleted hCurrent hNow
    exact (hBucket shipment hCurrent hNow).mp (hAll shipment
      ((mem_currentShipments shipments organizationId now).mpr
        ⟨hMem, hDeleted, hCurrent, hNow, hGiven⟩))

/-- The sums agree where every shipment of the period has a day that is shown. -/
theorem sparklinesAddUp_summary (finished : Date) : ∃ aggregates,
    summaryAggregates shipments organizationId now = some aggregates ∧
      (SparklinesAddUp aggregates (aggregates.summary now finished) ↔
        NoneOnFirstDay shipments organizationId now) := by
  obtain ⟨days, hDays, hAggregates⟩ := summaryAggregates_eq shipments organizationId now
  obtain ⟨current, hCurrent⟩ : ∃ current, currentShipments shipments organizationId now = current :=
    ⟨_, rfl⟩
  rw [noneOnFirstDay_iff, hCurrent]
  rw [hCurrent] at hDays hAggregates
  obtain ⟨aggregates, hRead, hKpi, hLines⟩ : ∃ aggregates,
      summaryAggregates shipments organizationId now = some aggregates ∧
        aggregates.currentKpi = periodKpi current ∧
          aggregates.currentSparklines = days.map fun day =>
            (day * 86400000, computedKpi (current.filter (·.createdAt.day = day))) :=
    ⟨_, hAggregates, rfl, rfl⟩
  refine ⟨aggregates, hRead, ?_⟩
  have hShipments := @sparkline_sum _ _ now _ _ _ hDays hLines computedKpi_totalShipments
  have hDisputes := @sparkline_sum _ _ now _ _ _ hDays hLines computedKpi_disputedCount
  simp only [SparklinesAddUp, SummaryAggregates.summary, hShipments, hDisputes, hKpi,
    periodKpi_totalShipments, periodKpi_disputedCount]
  constructor
  · rintro ⟨hTotal, -⟩
    have hLength : (current.filter (hasBucket now)).length = current.length := by
      simpa using hTotal
    exact List.length_filter_eq_length_iff.mp hLength
  · intro hAll
    rw [List.filter_eq_self.mpr hAll]
    exact ⟨rfl, rfl⟩

/-- The sparklines add up exactly when nothing was created in the part of the current period
that lies on its first day. -/
theorem sparklinesAddUp_iff (cache : String → Option AnalyticsSummary) (finished : Date)
    (hCache : cache (analyticsSummaryCacheKey organizationId) = none) :
    ∃ aggregates summary, summaryAggregates shipments organizationId now = some aggregates ∧
      getAnalyticsSummary shipments cache now finished organizationId = some summary ∧
        (SparklinesAddUp aggregates summary ↔ NoneOnFirstDay shipments organizationId now) := by
  obtain ⟨aggregates, hAggregates, hIff⟩ :=
    sparklinesAddUp_summary shipments organizationId now finished
  refine ⟨aggregates, _, hAggregates, ?_, hIff⟩
  rw [getAnalyticsSummary, hCache, hAggregates, Option.map_some]

end Totals

section Samples

/-- A shipment created in the evening of the day that is thirty days before the sample's now,
which is a noon. -/
def eveningShipment : StoredShipment :=
  { sampleShipment with createdAt := ⟨1706810400000⟩, expectsNull := false }

theorem noneOnFirstDay_morning :
    NoneOnFirstDay [{ eveningShipment with createdAt := ⟨1709337600000⟩ }] none ⟨1709380800000⟩ := by
  intro _ shipment hShipment _ _ _
  obtain rfl := List.mem_singleton.mp hShipment
  decide

theorem sparklinesAddUp_morning : ∃ aggregates summary,
    summaryAggregates [{ eveningShipment with createdAt := ⟨1709337600000⟩ }] none
      ⟨1709380800000⟩ = some aggregates ∧
    getAnalyticsSummary [{ eveningShipment with createdAt := ⟨1709337600000⟩ }] (fun _ => none)
      ⟨1709380800000⟩ ⟨1709380800000⟩ none = some summary ∧ SparklinesAddUp aggregates summary := by
  obtain ⟨aggregates, summary, hAggregates, hSummary, hIff⟩ := sparklinesAddUp_iff
    [{ eveningShipment with createdAt := ⟨1709337600000⟩ }] none ⟨1709380800000⟩ (fun _ => none)
      ⟨1709380800000⟩ rfl
  exact ⟨aggregates, summary, hAggregates, hSummary, hIff.mpr noneOnFirstDay_morning⟩

/-- The shipment of that evening is in the total and in no day. -/
theorem evening_missing : ∃ aggregates summary,
    summaryAggregates [eveningShipment] none ⟨1709380800000⟩ = some aggregates ∧
    getAnalyticsSummary [eveningShipment] (fun _ => none) ⟨1709380800000⟩ ⟨1709380800000⟩ none =
      some summary ∧ ¬SparklinesAddUp aggregates summary := by
  obtain ⟨aggregates, hAggregates, hIff⟩ :=
    sparklinesAddUp_summary [eveningShipment] none ⟨1709380800000⟩ ⟨1709380800000⟩
  refine ⟨aggregates, aggregates.summary ⟨1709380800000⟩ ⟨1709380800000⟩, hAggregates,
    congrArg (Option.map _) hAggregates, fun hSum => ?_⟩
  exact hIff.mp hSum rfl eveningShipment (List.mem_singleton.mpr rfl) rfl (by decide) (by decide)
    (by decide)

end Samples

end Navin
