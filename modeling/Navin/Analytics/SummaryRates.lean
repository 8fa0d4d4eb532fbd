import Mathlib.Tactic.NormNum
import Mathlib.Tactic.Linarith
import Mathlib.Tactic.FieldSimp
import Navin.Analytics.Summary

/-! The on-time rate and the transit time of the summary against their plain definitions.
The fields that they are computed from come before the time of delivery is there, so that
the delivery of no shipment enters them. -/
namespace Navin

section Definitions

/-- The shipments of the current period. -/
def periodShipments (shipments : List StoredShipment) (now : Date) : List StoredShipment :=
  shipments.filter fun shipment => shipment.deletedAt = none &&
    ((thirtyDaysAgo now).ms ≤ shipment.createdAt.ms && shipment.createdAt.ms ≤ now.ms)

def StoredShipment.isScheduled (shipment : StoredShipment) : Bool :=
  shipment.expectedDelivery.isSome

/-- Delivered for the first time no later than expected. -/
def StoredShipment.isDeliveredOnTime (shipment : StoredShipment) : Bool :=
  match shipment.deliveredAt, shipment.expectedDelivery with
  | some delivered, some expected => delivered.ms ≤ expected.ms
  | _, _ => false

/-- The time in transit of a shipment that was delivered. -/
def StoredShipment.transitMs (shipment : StoredShipment) : Option Int :=
  shipment.deliveredAt.map fun delivered => delivered.ms - shipment.createdAt.ms

def onTimeRate (items : List StoredShipment) : ℚ :=
  roundToTenth (percentage (items.filter StoredShipment.isDeliveredOnTime).length
    (items.filter StoredShipment.isScheduled).length)

def averageTransit (items : List StoredShipment) : ℚ :=
  let transits := items.filterMap StoredShipment.transitMs
  shownAverage (if transits = [] then none else some ((transits.sum : ℚ) / transits.length / 86400000))

/-- Where the rate that is shown is the one that is meant: with nothing but nulls expected, or
when the rate rounds to a hundred. -/
def RateHolds (items : List StoredShipment) : Prop :=
  (∀ shipment ∈ items, shipment.expectsExplicitNull = true) ∨
    0 < (items.filter StoredShipment.isScheduled).length ∧
      1999 * (items.filter StoredShipment.isScheduled).length ≤
        2000 * (items.filter StoredShipment.isDeliveredOnTime).length

/-- Where the shown average is the one that is meant: with no delivery, or a mean below a
twentieth of a day. -/
def TransitHolds (items : List StoredShipment) : Prop :=
  items.filterMap StoredShipment.transitMs = [] ∨
    (items.filterMap StoredShipment.transitMs).sum <
      4320000 * (items.filterMap StoredShipment.transitMs).length

end Definitions

section Rounding

theorem roundToTenth_eq_iff (x : ℚ) (tenths : Int) :
    roundToTenth x = tenths / 10 ↔ (tenths : ℚ) ≤ x * 10 + 1 / 2 ∧ x * 10 + 1 / 2 < tenths + 1 := by
  rw [roundToTenth, mathRound, div_left_inj' (by norm_num), Int.cast_inj, Int.floor_eq_iff]

theorem roundToTenth_hundred : roundToTenth 100 = 100 := by
  have hIff := roundToTenth_eq_iff 100 1000
  norm_num at hIff
  exact hIff

theorem roundToTenth_zero : roundToTenth 0 = 0 := by
  have hIff := roundToTenth_eq_iff 0 0
  norm_num at hIff
  exact hIff

theorem percentage_self {count : ℚ} (h : 0 < count) : percentage count count = 100 := by
  rw [percentage, if_pos h, div_self h.ne', one_mul]

theorem percentage_zero (part : ℚ) : percentage part 0 = 0 := by
  rw [percentage, if_neg (lt_irrefl 0)]

/-- A part rounds to a hundred per cent from 99.95 on. -/
theorem roundToTenth_percentage_iff {part whole : Nat} (hWhole : 0 < whole) (hPart : part ≤ whole) :
    roundToTenth (percentage part whole) = 100 ↔ 1999 * whole ≤ 2000 * part := by
  have hPositive : (0 : ℚ) < whole := Nat.cast_pos.mpr hWhole
  have hIff := roundToTenth_eq_iff (percentage part whole) 1000
  have hHundred : ((1000 : Int) : ℚ) / 10 = 100 := by norm_num
  rw [hHundred] at hIff
  rw [hIff, percentage, if_pos hPositive]
  obtain ⟨share, hShare⟩ : ∃ share : ℚ, share = part / whole := ⟨_, rfl⟩
  have hScaled : (part : ℚ) = share * whole := by
    rw [hShare, div_mul_cancel₀ _ hPositive.ne']
  have hAtMost : share ≤ 1 := by
    rw [hShare, div_le_one hPositive]
    exact_mod_cast hPart
  have hCast : 1999 * whole ≤ 2000 * part ↔ 1999 * (whole : ℚ) ≤ 2000 * part := by
    norm_cast
  rw [← hShare, hCast, hScaled]
  constructor
  · rintro ⟨hLow, -⟩
    have hLeast : 1999 / 2000 ≤ share := by
      push_cast at hLow
      linarith
    nlinarith
  · intro hLow
    have hLeast : 1999 ≤ 2000 * share := by
      refine le_of_mul_le_mul_right ?_ hPositive
      linarith
    constructor
    · push_cast
      linarith
    · push_cast
      linarith

/-- A mean that is shown as nothing is below a twentieth of a day. -/
theorem shownAverage_eq_zero_iff (total : Int) {count : Nat} (hCount : 0 < count) :
    shownAverage (some ((total : ℚ) / count / 86400000)) = 0 ↔ total < 4320000 * count := by
  have hPositive : (0 : ℚ) < count := Nat.cast_pos.mpr hCount
  obtain ⟨mean, hMean⟩ : ∃ mean : ℚ, mean = total / count / 86400000 := ⟨_, rfl⟩
  have hTotal : (total : ℚ) = mean * 86400000 * count := by
    rw [hMean]
    field_simp
  have hCast : total < 4320000 * count ↔ (total : ℚ) < 4320000 * count := by
    norm_cast
  rw [← hMean, hCast, hTotal, shownAverage]
  have hIff := roundToTenth_eq_iff mean 0
  rw [Int.cast_zero, zero_div] at hIff
  split
  next hAbove =>
    rw [hIff]
    constructor
    · rintro ⟨-, hBelow⟩
      nlinarith
    · intro hBelow
      have hMean' : mean * 86400000 < 4320000 := lt_of_mul_lt_mul_right hBelow hPositive.le
      constructor <;> linarith
  next hNot =>
    have hBelow : mean ≤ 0 := not_lt.mp hNot
    refine ⟨fun _ => ?_, fun _ => rfl⟩
    nlinarith

end Rounding

section Figures

variable (items : List StoredShipment)

theorem length_onTime_le : (items.filter StoredShipment.isDeliveredOnTime).length ≤
    (items.filter StoredShipment.isScheduled).length := by
  refine (List.monotone_filter_right items fun shipment hOnTime => ?_).length_le
  rw [StoredShipment.isDeliveredOnTime] at hOnTime
  rw [StoredShipment.isScheduled]
  cases hExpected : shipment.expectedDelivery with
  | none => simp [hExpected] at hOnTime
  | some date => rfl

/-- The rate is a hundred as soon as one expected delivery is not an explicit null. -/
theorem shownRate_eq : roundToTenth
    (percentage (periodKpi items).onTimeCount (periodKpi items).dispatchedCount) =
      if ∀ shipment ∈ items, shipment.expectsExplicitNull = true then 0 else 100 := by
  obtain ⟨answered, hAnswered⟩ : ∃ answered, (items.filter fun shipment =>
    !shipment.expectsExplicitNull) = answered := ⟨_, rfl⟩
  have hAll : answered = [] ↔ ∀ shipment ∈ items, shipment.expectsExplicitNull = true := by
    rw [← hAnswered]
    simp
  by_cases hNone : answered = []
  · rw [if_pos (hAll.mp hNone), periodKpi]
    split
    next =>
      rw [SummaryKpi.zero, percentage_zero, roundToTenth_zero]
    next =>
      rw [computedKpi, hAnswered, hNone, List.length_nil, Nat.cast_zero, percentage_zero,
        roundToTenth_zero]
  · have hItems : items ≠ [] := by
      rintro rfl
      exact hNone hAnswered.symm
    have hPositive : (0 : ℚ) < answered.length :=
      Nat.cast_pos.mpr (List.length_pos_iff.mpr hNone)
    rw [if_neg (mt hAll.mpr hNone), periodKpi, if_neg hItems, computedKpi, hAnswered,
      percentage_self hPositive, roundToTenth_hundred]

theorem shownRate_iff : roundToTenth
    (percentage (periodKpi items).onTimeCount (periodKpi items).dispatchedCount) =
      onTimeRate items ↔ RateHolds items := by
  rw [shownRate_eq, onTimeRate, RateHolds]
  split
  next hAll =>
    have hScheduled : items.filter StoredShipment.isScheduled = [] := by
      refine List.filter_eq_nil_iff.mpr fun shipment hShipment hSome => ?_
      have hNull := hAll shipment hShipment
      rw [StoredShipment.expectsExplicitNull, Bool.and_eq_true, decide_eq_true_eq] at hNull
      rw [StoredShipment.isScheduled, hNull.1] at hSome
      cases hSome
    rw [hScheduled, List.length_nil, Nat.cast_zero, percentage_zero, roundToTenth_zero]
    exact ⟨fun _ => Or.inl hAll, fun _ => rfl⟩
  next hNot =>
    rcases Nat.eq_zero_or_pos (items.filter StoredShipment.isScheduled).length with hZero | hSome
    · rw [hZero, Nat.cast_zero, percentage_zero, roundToTenth_zero]
      constructor
      · intro hSame
        norm_num at hSame
      · rintro (hAll | ⟨hLess, -⟩)
        · exact absurd hAll hNot
        · exact absurd hLess (lt_irrefl 0)
    · have hIff := roundToTenth_percentage_iff hSome (length_onTime_le items)
      constructor
      · intro hSame
        exact Or.inr ⟨hSome, hIff.mp hSame.symm⟩
      · rintro (hAll | ⟨-, hMost⟩)
        · exact absurd hAll hNot
        · exact (hIff.mpr hMost).symm

theorem shownTransit_eq : shownAverage (periodKpi items).avgTransitDays = 0 := by
  rw [periodKpi]
  split
  next => rw [SummaryKpi.zero, shownAverage, if_neg (lt_irrefl 0)]
  next => rfl

theorem shownTransit_iff :
    shownAverage (periodKpi items).avgTransitDays = averageTransit items ↔
      TransitHolds items := by
  obtain ⟨transits, hTransits⟩ : ∃ transits,
    items.filterMap StoredShipment.transitMs = transits := ⟨_, rfl⟩
  simp only [shownTransit_eq, averageTransit, TransitHolds, hTransits]
  by_cases hNone : transits = []
  · rw [if_pos hNone]
    exact ⟨fun _ => Or.inl hNone, fun _ => rfl⟩
  · rw [if_neg hNone, eq_comm,
      shownAverage_eq_zero_iff transits.sum (List.length_pos_iff.mpr hNone)]
    exact ⟨Or.inr, fun hHolds => hHolds.resolve_left hNone⟩

end Figures

section Rates

variable (shipments : List StoredShipment) (now : Date)

theorem currentShipments_none : currentShipments shipments none now =
    periodShipments shipments now := by
  rw [currentShipments, summaryScope, periodShipments, List.filter_filter]
  refine List.filter_congr fun shipment _ => ?_
  rw [Bool.eq_iff_iff]
  simp only [isCurrent, givenOrganization, Option.filter_none, Option.isNone_none, Bool.and_eq_true,
    decide_eq_true_eq, and_true]
  simp only [sixtyDaysAgo, thirtyDaysAgo]
  constructor
  · rintro ⟨hCurrent, hDeleted, -, hNow⟩
    exact ⟨hDeleted, hCurrent, hNow⟩
  · rintro ⟨hDeleted, hCurrent, hNow⟩
    exact ⟨hCurrent, hDeleted, by omega, hNow⟩

theorem summary_rates (finished : Date) : ∃ aggregates,
    summaryAggregates shipments none now = some aggregates ∧
      ((aggregates.summary now finished).onTimeDeliveryRate =
          onTimeRate (periodShipments shipments now) ∧
        (aggregates.summary now finished).averageTransitDays =
          averageTransit (periodShipments shipments now) ↔
        RateHolds (periodShipments shipments now) ∧
          TransitHolds (periodShipments shipments now)) := by
  obtain ⟨days, -, hAggregates⟩ := summaryAggregates_eq shipments none now
  rw [currentShipments_none] at hAggregates
  exact ⟨_, hAggregates, and_congr (shownRate_iff _) (shownTransit_iff _)⟩

/-- The rate and the average are what they are called only where the rate rounds to a hundred
and the average to nothing, or there is nothing to take them of. -/
theorem summaryRates_iff (cache : String → Option AnalyticsSummary) (finished : Date)
    (hCache : cache (analyticsSummaryCacheKey none) = none) :
    ∃ summary, getAnalyticsSummary shipments cache now finished none = some summary ∧
      (summary.onTimeDeliveryRate = onTimeRate (periodShipments shipments now) ∧
        summary.averageTransitDays = averageTransit (periodShipments shipments now) ↔
          RateHolds (periodShipments shipments now) ∧
            TransitHolds (periodShipments shipments now)) := by
  obtain ⟨aggregates, hAggregates, hIff⟩ := summary_rates shipments now finished
  refine ⟨_, ?_, hIff⟩
  rw [getAnalyticsSummary, hCache, hAggregates, Option.map_some]

end Rates

section Samples

/-- A shipment of the first of March that is expected on the second, with its delivery. -/
def sampleDelivery (delivered : Date) : StoredShipment :=
  { sampleShipment with
    createdAt := ⟨1709251200000⟩
    expectedDelivery := some ⟨1709337600000⟩
    milestones := [⟨.delivered, delivered, "", none, none⟩]
    expectsNull := false }

theorem summaryRates_fast : ∃ summary,
    getAnalyticsSummary [sampleDelivery ⟨1709254800000⟩] (fun _ => none) ⟨1709380800000⟩
      ⟨1709380800000⟩ none = some summary ∧
    summary.onTimeDeliveryRate =
      onTimeRate (periodShipments [sampleDelivery ⟨1709254800000⟩] ⟨1709380800000⟩) ∧
    summary.averageTransitDays =
      averageTransit (periodShipments [sampleDelivery ⟨1709254800000⟩] ⟨1709380800000⟩) := by
  obtain ⟨summary, hSummary, hIff⟩ := summaryRates_iff [sampleDelivery ⟨1709254800000⟩]
    ⟨1709380800000⟩ (fun _ => none) ⟨1709380800000⟩ rfl
  exact ⟨summary, hSummary, hIff.mpr ⟨Or.inr (by decide), Or.inr (by decide)⟩⟩

/-- A delivery of half a day too late counts as one on time and in no time. -/
theorem late_counts_as_onTime : ∃ summary,
    getAnalyticsSummary [sampleDelivery ⟨1709380800000⟩] (fun _ => none) ⟨1709424000000⟩
      ⟨1709424000000⟩ none = some summary ∧
    ¬(summary.onTimeDeliveryRate =
        onTimeRate (periodShipments [sampleDelivery ⟨1709380800000⟩] ⟨1709424000000⟩) ∧
      summary.averageTransitDays =
        averageTransit (periodShipments [sampleDelivery ⟨1709380800000⟩] ⟨1709424000000⟩)) := by
  obtain ⟨aggregates, hAggregates, hIff⟩ := summary_rates [sampleDelivery ⟨1709380800000⟩]
    ⟨1709424000000⟩ ⟨1709424000000⟩
  refine ⟨_, congrArg (Option.map _) hAggregates, fun hSame => ?_⟩
  obtain ⟨hRate, -⟩ := hIff.mp hSame
  rcases hRate with hNulls | ⟨-, hMost⟩
  · have hMem : sampleDelivery ⟨1709380800000⟩ ∈
        periodShipments [sampleDelivery ⟨1709380800000⟩] ⟨1709424000000⟩ :=
      List.mem_filter.mpr ⟨List.mem_singleton.mpr rfl, by decide⟩
    exact absurd (hNulls _ hMem) (by decide)
  · exact absurd hMost (by decide)

end Samples

end Navin
