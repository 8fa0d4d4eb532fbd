import Navin.Listings.Collections
import Navin.Shared.NumberText
import Navin.Shared.Pipelines

/-! The settlement summary of an organisation: three totals, and the released amount of
each day of the window. They come from two aggregations, each with a window of its own. -/
namespace Navin

open Aggregation (Document Expr matching group project run groupKey groupRow)

/-- A payment as it is stored, in the fields that the aggregations read. -/
def ListedPayment.stored (payment : ListedPayment) : Document
  | "organizationId" => some (.scalar (.id payment.organizationId.toString))
  | "amount" => some (.number payment.amount.value)
  | "status" => some (.string payment.status.name)
  | "deletedAt" => some (storedDate payment.deletedAt)
  | "createdAt" => some (.date payment.createdAt.ms)
  | _ => none

structure SettlementSummaryAggResult where
  totalReleased : ℚ
  totalInEscrow : ℚ
  totalPending : ℚ

/-- `{ $cond: [{ $eq: ['$status', status] }, '$amount', 0] }`. -/
def amountIf (status : PaymentStatus) : Expr :=
  .cond (.compare .eq (.field "status") (.const (.string status.name))) (.field "amount")
    (.const (.number 0))

def settlementTotalsPipeline (organizationId : ObjectId) (since : Date) : List Aggregation.Stage :=
  [softDeleteStage,
    matching [⟨"organizationId", .eq, .id organizationId.toString⟩,
      ⟨"createdAt", .gte, .date since.ms⟩],
    group (.const .null) [("totalReleased", .sum (amountIf .released)),
      ("totalInEscrow", .sum (amountIf .escrowed)), ("totalPending", .sum (amountIf .pending))],
    project ["totalReleased", "totalInEscrow", "totalPending"] []]

/-- No result where the cast of the identifier or the database throws. -/
def aggregateSettlementSummary (payments : List ListedPayment) (organizationId : String)
    (since : Date) : Option SettlementSummaryAggResult := do
  let organizationId ← ObjectId.cast? organizationId
  let rows ← run (settlementTotalsPipeline organizationId since)
    (payments.map ListedPayment.stored)
  match rows.head? with
  | some result => some ⟨numberField result "totalReleased", numberField result "totalInEscrow",
      numberField result "totalPending"⟩
  | none => some ⟨0, 0, 0⟩

def settlementDaysPipeline (organizationId : ObjectId) (since : Date) : List Aggregation.Stage :=
  [softDeleteStage,
    matching [⟨"organizationId", .eq, .id organizationId.toString⟩,
      ⟨"createdAt", .gte, .date since.ms⟩,
      ⟨"status", .eq, .string PaymentStatus.released.name⟩],
    group (.dateToString (.field "createdAt") Date.dateToString)
      [("total", .sum (.field "amount"))]]

def buildSettlementSparkline (payments : List ListedPayment) (organizationId : String)
    (since : Date) (days : Nat) : Option (List ℚ) := do
  let organizationId ← ObjectId.cast? organizationId
  let rows ← run (settlementDaysPipeline organizationId since)
    (payments.map ListedPayment.stored)
  let totals := mapOfEntries (rows.map fun row =>
    ((row "_id").bind Aggregation.Value.string?, numberField row "total"))
  some ((List.range days).map fun i : Nat =>
    (totals (some (since.setUTCDate (since.getUTCDate + i)).dayText)).getD 0)

inductive SummaryPeriod where
  | week
  | month
  | quarter
deriving DecidableEq

def SummaryPeriod.ofString? : String → Option SummaryPeriod
  | "week" => some .week
  | "month" => some .month
  | "quarter" => some .quarter
  | _ => none

/-- `PERIOD_DAYS`. -/
def SummaryPeriod.days : SummaryPeriod → Nat
  | .week => 7
  | .month => 30
  | .quarter => 90

structure SettlementSummaryResult extends SettlementSummaryAggResult where
  sparkline : List ℚ
  period : SummaryPeriod

def settlementSummaryCacheKey (organizationId period : String) : String :=
  "settlements:summary:" ++ organizationId ++ ":" ++ period

/-- The first instant of the window, whose last day is today. -/
def settlementWindowStart (now : Date) (days : Nat) : Date :=
  (now.setUTCDate (now.getUTCDate - days + 1)).startOfUTCDay

/-- No result where an aggregation throws. A summary that was computed is also cached, and
a cache that cannot be reached holds nothing. -/
def getSettlementSummaryService (payments : List ListedPayment)
    (cache : String → Option SettlementSummaryResult) (now : Date)
    (organizationId period : String) : Option (Except ThrownError SettlementSummaryResult) :=
  match SummaryPeriod.ofString? period with
  | none => some (.error (appError 400 "Invalid period. Must be one of: week, month, quarter."
      "ERR_BAD_REQUEST"))
  | some validPeriod =>
      match cache (settlementSummaryCacheKey organizationId period) with
      | some cached => some (.ok cached)
      | none => do
          let since := settlementWindowStart now validPeriod.days
          let totals ← aggregateSettlementSummary payments organizationId since
          let sparkline ← buildSettlementSparkline payments organizationId since validPeriod.days
          some (.ok { totals with sparkline, period := validPeriod })

section Windows

/-- The payments that an aggregation of an organisation is about. -/
def inSettlementWindow (organizationId : ObjectId) (since : Date) (payment : ListedPayment) :
    Bool :=
  payment.deletedAt = none && (payment.organizationId = organizationId &&
    since.ms ≤ payment.createdAt.ms)

variable (payments : List ListedPayment) (organizationId : ObjectId) (since : Date)

theorem PaymentStatus.name_inj {first second : PaymentStatus} :
    first.name = second.name ↔ first = second := by
  cases first <;> cases second <;> decide

theorem allHold_window (payment : ListedPayment) :
    Aggregation.allHold [⟨"organizationId", .eq, .id organizationId.toString⟩,
      ⟨"createdAt", .gte, .date since.ms⟩] payment.stored =
        some (decide (payment.organizationId = organizationId) &&
          decide (since.ms ≤ payment.createdAt.ms)) := by
  have hOrganization := @Aggregation.holds_eq payment.stored "organizationId" _ rfl
    (.id organizationId.toString)
  simp only [Aggregation.Scalar.id.injEq, ObjectId.toString_injective.eq_iff] at hOrganization
  have hCreated := Aggregation.allHold_cons
    (@Aggregation.holds_gte_date payment.stored "createdAt" _ rfl since.ms) Aggregation.allHold_nil
  rw [Bool.and_true] at hCreated
  exact Aggregation.allHold_cons hOrganization hCreated

theorem allHold_released (payment : ListedPayment) :
    Aggregation.allHold [⟨"organizationId", .eq, .id organizationId.toString⟩,
      ⟨"createdAt", .gte, .date since.ms⟩,
      ⟨"status", .eq, .string PaymentStatus.released.name⟩] payment.stored =
        some (decide (payment.organizationId = organizationId) &&
          (decide (since.ms ≤ payment.createdAt.ms) && decide (payment.status = .released))) := by
  have hOrganization := @Aggregation.holds_eq payment.stored "organizationId" _ rfl
    (.id organizationId.toString)
  simp only [Aggregation.Scalar.id.injEq, ObjectId.toString_injective.eq_iff] at hOrganization
  have hStatus := Aggregation.allHold_cons (@Aggregation.holds_eq payment.stored "status" _ rfl
    (.string PaymentStatus.released.name)) Aggregation.allHold_nil
  simp only [Aggregation.Scalar.string.injEq, PaymentStatus.name_inj, Bool.and_true] at hStatus
  exact Aggregation.allHold_cons hOrganization (Aggregation.allHold_cons
    (@Aggregation.holds_gte_date payment.stored "createdAt" _ rfl since.ms) hStatus)

/-- The amounts of the payments in the window that have a status. -/
def windowAmount (status : PaymentStatus) : ℚ :=
  ((payments.filter fun payment => inSettlementWindow organizationId since payment &&
    payment.status = status).map fun payment => payment.amount.value).sum

theorem amountIf_eval (status : PaymentStatus) (payment : ListedPayment) :
    (amountIf status).of payment.stored =
      some (some (.number (if payment.status = status then payment.amount.value else 0))) := by
  have hStatus : payment.stored "status" = some (.string payment.status.name) := rfl
  have hAmount : payment.stored "amount" = some (.number payment.amount.value) := rfl
  by_cases hSame : payment.status = status <;>
    simp [amountIf, Expr.eval, hStatus, hAmount, Aggregation.Value.comparable,
      Aggregation.Comparison.holds, Aggregation.Value.truthy, PaymentStatus.name_inj, hSame]

theorem sum_amountIf (scope : List ListedPayment) (status : PaymentStatus) :
    (scope.map fun payment => if payment.status = status then payment.amount.value else 0).sum =
      ((scope.filter fun payment => payment.status = status).map fun payment =>
        payment.amount.value).sum := by
  rw [List.sum_map_ite]
  simp

theorem matching_window :
    run [softDeleteStage, matching [⟨"organizationId", .eq, .id organizationId.toString⟩,
        ⟨"createdAt", .gte, .date since.ms⟩]] (payments.map ListedPayment.stored) =
      some ((payments.filter (inSettlementWindow organizationId since)).map
        ListedPayment.stored) :=
  run_softDelete_matching (fun _ => rfl) fun payment _ =>
    allHold_window organizationId since payment

theorem windowAmount_eq (status : PaymentStatus) :
    windowAmount payments organizationId since status =
      (((payments.filter (inSettlementWindow organizationId since)).filter fun payment =>
        payment.status = status).map fun payment => payment.amount.value).sum := by
  rw [windowAmount, List.filter_filter]
  simp only [Bool.and_comm]

theorem groupRow_totals (scope : List ListedPayment) :
    groupRow [("totalReleased", .sum (amountIf .released)),
      ("totalInEscrow", .sum (amountIf .escrowed)), ("totalPending", .sum (amountIf .pending))]
        .null (scope.map ListedPayment.stored) = some fun name =>
          if name = "_id" then some .null else
            [("totalReleased", Aggregation.Value.number ((scope.filter fun payment =>
                payment.status = .released).map fun payment => payment.amount.value).sum),
              ("totalInEscrow", .number ((scope.filter fun payment =>
                payment.status = .escrowed).map fun payment => payment.amount.value).sum),
              ("totalPending", .number ((scope.filter fun payment =>
                payment.status = .pending).map fun payment => payment.amount.value).sum)].lookup
              name := by
  have hSum : ∀ status, (Aggregation.Accumulator.sum (amountIf status)).over
      (scope.map ListedPayment.stored) = some (.number ((scope.filter fun payment =>
        payment.status = status).map fun payment => payment.amount.value).sum) := fun status => by
    rw [Aggregation.sum_over_map fun payment _ => amountIf_eval status payment, sum_amountIf]
  simp [groupRow, hSum]

/-- The first aggregation sums the window by status. -/
theorem aggregateSettlementSummary_eq {text : String}
    (hCast : ObjectId.cast? text = some organizationId) :
    aggregateSettlementSummary payments text since =
      some ⟨windowAmount payments organizationId since .released,
        windowAmount payments organizationId since .escrowed,
        windowAmount payments organizationId since .pending⟩ := by
  obtain ⟨scope, hScope⟩ : ∃ scope, payments.filter (inSettlementWindow organizationId since) =
    scope := ⟨_, rfl⟩
  have hWindow := matching_window payments organizationId since
  rw [hScope] at hWindow
  rw [aggregateSettlementSummary, hCast, windowAmount_eq, windowAmount_eq, windowAmount_eq, hScope,
    Option.bind_eq_bind, Option.bind_some, settlementTotalsPipeline,
    Aggregation.run_cons_cons hWindow, run, Aggregation.group_const_map (groupRow_totals scope)]
  by_cases hEmpty : scope = []
  · rw [if_pos hEmpty, hEmpty]
    rfl
  · rw [if_neg hEmpty]
    rfl

/-- The released payments of the window. -/
def releasedInWindow : List ListedPayment :=
  payments.filter fun payment => payment.deletedAt = none &&
    (payment.organizationId = organizationId && (since.ms ≤ payment.createdAt.ms &&
      payment.status = .released))

theorem matching_released :
    run [softDeleteStage, matching [⟨"organizationId", .eq, .id organizationId.toString⟩,
        ⟨"createdAt", .gte, .date since.ms⟩,
        ⟨"status", .eq, .string PaymentStatus.released.name⟩]]
      (payments.map ListedPayment.stored) =
        some ((releasedInWindow payments organizationId since).map ListedPayment.stored) :=
  run_softDelete_matching (fun _ => rfl) fun payment _ =>
    allHold_released organizationId since payment

theorem groupKey_day (payment : ListedPayment) :
    groupKey (.dateToString (.field "createdAt") Date.dateToString) payment.stored =
      (Date.dateToString payment.createdAt.ms).map .string := by
  have hCreated : payment.stored "createdAt" = some (.date payment.createdAt.ms) := rfl
  cases hText : Date.dateToString payment.createdAt.ms <;>
    simp [groupKey, Expr.eval, hCreated, Aggregation.orNull, Aggregation.Value.date?, hText,
      Aggregation.Value.comparable]

theorem groupRow_day (key : Aggregation.Scalar) (scope : List ListedPayment) :
    groupRow [("total", .sum (.field "amount"))] key (scope.map ListedPayment.stored) =
      some fun name => if name = "_id" then some (.scalar key) else
        [("total", Aggregation.Value.number (scope.map fun payment =>
          payment.amount.value).sum)].lookup name := by
  have hSum : (Aggregation.Accumulator.sum (.field "amount")).over
      (scope.map ListedPayment.stored) =
        some (.number (scope.map fun payment => payment.amount.value).sum) :=
    Aggregation.sum_over_map fun payment _ => rfl
  simp [groupRow, hSum]

/-- The text that a payment is grouped under is that of a day of the window when it was
created on that day. -/
theorem dayText_eq_iff_day {payment : ListedPayment}
    (hText : Date.dateToString payment.createdAt.ms ≠ none) (i : Nat) :
    (Date.dateToString payment.createdAt.ms).getD "" =
      (since.setUTCDate (since.getUTCDate + i)).dayText ↔
        payment.createdAt.day = since.day + i := by
  obtain ⟨text, hWritten⟩ := Option.ne_none_iff_exists'.mp hText
  rw [hWritten, Option.getD_some, eq_comm, Date.dayText_eq_iff hWritten,
    Date.setUTCDate_getUTCDate]
  simp only [Date.day]
  omega

/-- The entries of the map of totals, by the text of the day. -/
def dayEntries (scope : List ListedPayment) : List (Option String × ℚ) :=
  (scope.map fun payment => Aggregation.Scalar.string
    ((Date.dateToString payment.createdAt.ms).getD "")).dedup.map fun key =>
      ((some (Aggregation.Value.scalar key)).bind Aggregation.Value.string?,
        ((scope.filter fun payment => Aggregation.Scalar.string
          ((Date.dateToString payment.createdAt.ms).getD "") = key).map fun payment =>
            payment.amount.value).sum)

/-- What the map gives for a day is the sum of the payments of that day. -/
theorem mapOfEntries_dayEntries {scope : List ListedPayment}
    (hTexts : ∀ payment ∈ scope, Date.dateToString payment.createdAt.ms ≠ none) (i : Nat) :
    (mapOfEntries (dayEntries scope)
      (some (since.setUTCDate (since.getUTCDate + i)).dayText)).getD 0 =
        ((scope.filter fun payment => payment.createdAt.day = since.day + i).map fun payment =>
          payment.amount.value).sum := by
  refine mapOfEntries_getD (fun entry hEntry hName => ?_) fun hNone => ?_
  · obtain ⟨key, hMem, rfl⟩ := List.mem_map.mp hEntry
    obtain ⟨other, hOther, rfl⟩ := List.mem_map.mp (List.mem_dedup.mp hMem)
    have hSame : (Date.dateToString other.createdAt.ms).getD "" =
        (since.setUTCDate (since.getUTCDate + i)).dayText := Option.some.inj hName
    refine congrArg (fun group : List ListedPayment =>
      (group.map fun payment => payment.amount.value).sum)
        (List.filter_congr fun payment hPayment => ?_)
    rw [decide_eq_decide, Aggregation.Scalar.string.injEq, hSame]
    exact dayText_eq_iff_day since (hTexts payment hPayment) i
  · rw [List.filter_eq_nil_iff.mpr, List.map_nil, List.sum_nil]
    intro payment hPayment hOn
    refine hNone _ (List.mem_map_of_mem (List.mem_dedup.mpr (List.mem_map_of_mem hPayment))) ?_
    exact congrArg some ((dayText_eq_iff_day since (hTexts payment hPayment) i).mpr
      (of_decide_eq_true hOn))

/-- What the days that the database can write make of the released payments. -/
theorem buildSettlementSparkline_eq {text : String}
    (hCast : ObjectId.cast? text = some organizationId) (days : Nat)
    (hTexts : ∀ payment ∈ releasedInWindow payments organizationId since,
      Date.dateToString payment.createdAt.ms ≠ none) :
    buildSettlementSparkline payments text since days =
      some ((List.range days).map fun i : Nat => (((releasedInWindow payments organizationId
        since).filter fun payment => payment.createdAt.day = since.day + i).map fun payment =>
          payment.amount.value).sum) := by
  obtain ⟨scope, hScope⟩ : ∃ scope, releasedInWindow payments organizationId since = scope :=
    ⟨_, rfl⟩
  have hReleased := matching_released payments organizationId since
  rw [hScope] at hReleased hTexts
  have hKey : ∀ payment ∈ scope,
      groupKey (.dateToString (.field "createdAt") Date.dateToString) payment.stored =
        some (.string ((Date.dateToString payment.createdAt.ms).getD "")) := by
    intro payment hPayment
    obtain ⟨day, hDay⟩ := Option.ne_none_iff_exists'.mp (hTexts payment hPayment)
    rw [groupKey_day, hDay, Option.map_some, Option.getD_some]
  rw [buildSettlementSparkline, hCast, hScope, Option.bind_eq_bind, Option.bind_some,
    settlementDaysPipeline, Aggregation.run_cons_cons hReleased, run,
    Aggregation.group_map hKey fun key _ => groupRow_day key _, Option.bind_some, run,
    Option.bind_eq_bind, Option.bind_some, List.map_map]
  exact congrArg some (List.map_congr_left fun i _ => mapOfEntries_dayEntries since hTexts i)

theorem buildSettlementSparkline_of_none {text : String} (days : Nat)
    (hCast : ObjectId.cast? text = some organizationId)
    (hTexts : ∃ payment ∈ releasedInWindow payments organizationId since,
      Date.dateToString payment.createdAt.ms = none) :
    buildSettlementSparkline payments text since days = none := by
  obtain ⟨payment, hPayment, hNone⟩ := hTexts
  have hKey : groupKey (.dateToString (.field "createdAt") Date.dateToString) payment.stored =
      none := by
    rw [groupKey_day, hNone, Option.map_none]
  rw [buildSettlementSparkline, hCast, Option.bind_eq_bind, Option.bind_some,
    settlementDaysPipeline,
    Aggregation.run_cons_cons (matching_released payments organizationId since), run,
    Aggregation.group_of_key_none ⟨payment, hPayment, hKey⟩]
  rfl

end Windows

section Summaries

variable {payments : List ListedPayment} {cache : String → Option SettlementSummaryResult}
  {now : Date} {organizationId period : String}

/-- The amounts of an organisation's payments of one status that were created on such days. -/
def amountOn (payments : List ListedPayment) (organizationId : ObjectId) (status : PaymentStatus)
    (days : Int → Bool) : ℚ :=
  ((payments.filter fun payment => payment.deletedAt = none &&
    payment.organizationId = organizationId && payment.status = status &&
      days payment.createdAt.day).map fun payment => payment.amount.value).sum

/-- The window of a period, as days of the calendar. -/
def SummaryPeriod.window (period : SummaryPeriod) (today day : Int) : Bool :=
  today - period.days < day && day ≤ today

structure SettlementSummaryResult.AddsUp (payments : List ListedPayment)
    (organizationId : ObjectId) (today : Int) (summary : SettlementSummaryResult) : Prop where
  length : summary.sparkline.length = summary.period.days
  daily : ∀ i < summary.period.days, summary.sparkline[i]? = some (amountOn payments
    organizationId .released fun day => day = today - summary.period.days + 1 + i)
  sum : summary.sparkline.sum = summary.totalReleased
  released : summary.totalReleased =
    amountOn payments organizationId .released (summary.period.window today)
  escrowed : summary.totalInEscrow =
    amountOn payments organizationId .escrowed (summary.period.window today)
  pending : summary.totalPending =
    amountOn payments organizationId .pending (summary.period.window today)

theorem settlementWindowStart_eq (now : Date) (days : Nat) :
    settlementWindowStart now days = Date.ofDay (now.day - days + 1) := by
  have hMoved : now.setUTCDate (now.getUTCDate - days + 1) =
      ⟨now.ms + (1 - days) * 86400000⟩ := by
    rw [← Date.setUTCDate_getUTCDate]
    exact congrArg now.setUTCDate (by omega)
  rw [settlementWindowStart, hMoved, Date.startOfUTCDay]
  simp only [Date.day]
  exact congrArg Date.ofDay (by omega)

/-- The window of an aggregation is the window of the calendar, as nothing is created after
now. -/
theorem windowAmount_eq_amountOn {id : ObjectId} (validPeriod : SummaryPeriod)
    (hPast : ∀ payment ∈ payments, payment.deletedAt = none → payment.organizationId = id →
      payment.createdAt.ms ≤ now.ms) (status : PaymentStatus) :
    windowAmount payments id (settlementWindowStart now validPeriod.days) status =
      amountOn payments id status (validPeriod.window now.day) := by
  rw [windowAmount, amountOn, settlementWindowStart_eq]
  refine congrArg (fun scope : List ListedPayment =>
    (scope.map fun payment => payment.amount.value).sum)
      (List.filter_congr fun payment hPayment => ?_)
  have hLater := hPast payment hPayment
  rw [Bool.eq_iff_iff]
  simp only [inSettlementWindow, SummaryPeriod.window, Bool.and_eq_true, decide_eq_true_eq]
  simp only [Date.ofDay, Date.day]
  constructor
  · rintro ⟨⟨hDeleted, hOrganization, hSince⟩, hStatus⟩
    have hMs := hLater hDeleted hOrganization
    exact ⟨⟨⟨hDeleted, hOrganization⟩, hStatus⟩, by omega, by omega⟩
  · rintro ⟨⟨⟨hDeleted, hOrganization⟩, hStatus⟩, hDay, -⟩
    exact ⟨⟨hDeleted, hOrganization, by omega⟩, hStatus⟩

theorem releasedInWindow_day {id : ObjectId} {validPeriod : SummaryPeriod} {i : Nat} :
    ((releasedInWindow payments id (settlementWindowStart now validPeriod.days)).filter
      fun payment => payment.createdAt.day =
        (settlementWindowStart now validPeriod.days).day + i).map (fun payment =>
          payment.amount.value) =
      (payments.filter fun payment => payment.deletedAt = none && payment.organizationId = id &&
        payment.status = .released &&
          decide (payment.createdAt.day = now.day - validPeriod.days + 1 + i)).map fun payment =>
            payment.amount.value := by
  rw [releasedInWindow, List.filter_filter, settlementWindowStart_eq, Date.day_ofDay]
  refine congrArg (List.map fun payment : ListedPayment => payment.amount.value)
    (List.filter_congr fun payment _ => ?_)
  rw [Bool.eq_iff_iff]
  simp only [Bool.and_eq_true, decide_eq_true_eq]
  simp only [Date.ofDay, Date.day]
  constructor
  · rintro ⟨hDay, hDeleted, hOrganization, -, hStatus⟩
    exact ⟨⟨⟨hDeleted, hOrganization⟩, hStatus⟩, hDay⟩
  · rintro ⟨⟨⟨hDeleted, hOrganization⟩, hStatus⟩, hDay⟩
    exact ⟨hDay, hDeleted, hOrganization, by omega, hStatus⟩

/-- The days of the window are summed one by one. -/
theorem sum_releasedInWindow {id : ObjectId} {validPeriod : SummaryPeriod}
    (hPast : ∀ payment ∈ payments, payment.deletedAt = none → payment.organizationId = id →
      payment.createdAt.ms ≤ now.ms) :
    ((List.range validPeriod.days).map fun i : Nat =>
      (((releasedInWindow payments id (settlementWindowStart now validPeriod.days)).filter
        fun payment => payment.createdAt.day =
          (settlementWindowStart now validPeriod.days).day + i).map fun payment =>
            payment.amount.value).sum).sum =
      windowAmount payments id (settlementWindowStart now validPeriod.days) .released := by
  have hNodup : ((List.range validPeriod.days).map fun i : Nat =>
      (settlementWindowStart now validPeriod.days).day + i).Nodup :=
    List.Nodup.map (fun first second hSame => by simpa using hSame) List.nodup_range
  have hBuckets := Aggregation.sum_buckets
    (releasedInWindow payments id (settlementWindowStart now validPeriod.days))
    (fun payment => payment.createdAt.day) (fun payment => payment.amount.value) hNodup
  rw [List.map_map] at hBuckets
  refine hBuckets.trans ?_
  rw [windowAmount, releasedInWindow, List.filter_filter, settlementWindowStart_eq]
  refine congrArg (fun scope : List ListedPayment =>
    (scope.map fun payment => payment.amount.value).sum)
      (List.filter_congr fun payment hPayment => ?_)
  have hLater := hPast payment hPayment
  rw [Bool.eq_iff_iff]
  simp only [inSettlementWindow, Bool.and_eq_true, decide_eq_true_eq, List.mem_map,
    List.mem_range, Date.day_ofDay]
  simp only [Date.ofDay, Date.day]
  constructor
  · rintro ⟨-, hDeleted, hOrganization, hSince, hStatus⟩
    exact ⟨⟨hDeleted, hOrganization, hSince⟩, hStatus⟩
  · rintro ⟨⟨hDeleted, hOrganization, hSince⟩, hStatus⟩
    -- created between the start of the window and now, so on one of its days
    have hMs := hLater hDeleted hOrganization
    refine ⟨⟨(payment.createdAt.ms / 86400000 -
      (now.ms / 86400000 - validPeriod.days + 1)).toNat, by omega, by omega⟩, hDeleted,
        hOrganization, hSince, hStatus⟩

/-- What a summary that was computed is made of. -/
theorem getSettlementSummaryService_ok {summary : SettlementSummaryResult}
    (hCache : cache (settlementSummaryCacheKey organizationId period) = none)
    (hSummary : getSettlementSummaryService payments cache now organizationId period =
      some (.ok summary)) :
    SummaryPeriod.ofString? period = some summary.period ∧
      aggregateSettlementSummary payments organizationId
        (settlementWindowStart now summary.period.days) =
          some summary.toSettlementSummaryAggResult ∧
      buildSettlementSparkline payments organizationId
        (settlementWindowStart now summary.period.days) summary.period.days =
          some summary.sparkline := by
  rw [getSettlementSummaryService] at hSummary
  cases hPeriod : SummaryPeriod.ofString? period with
  | none =>
      rw [hPeriod] at hSummary
      cases hSummary
  | some validPeriod =>
      simp only [hPeriod, hCache] at hSummary
      obtain ⟨totals, hTotals, hRest⟩ := Option.bind_eq_some_iff.mp hSummary
      obtain ⟨sparkline, hSparkline, hResult⟩ := Option.bind_eq_some_iff.mp hRest
      obtain rfl := Except.ok.inj (Option.some.inj hResult)
      exact ⟨rfl, hTotals, hSparkline⟩

/-- A summary is computed where the days of all payments can be written. -/
theorem getSettlementSummaryService_computes {id : ObjectId} {validPeriod : SummaryPeriod}
    (hCache : cache (settlementSummaryCacheKey organizationId period) = none)
    (hCast : ObjectId.cast? organizationId = some id)
    (hPeriod : SummaryPeriod.ofString? period = some validPeriod)
    (hTexts : ∀ payment ∈ payments, Date.dateToString payment.createdAt.ms ≠ none) :
    ∃ summary, getSettlementSummaryService payments cache now organizationId period =
      some (.ok summary) := by
  have hTotals := aggregateSettlementSummary_eq payments id
    (settlementWindowStart now validPeriod.days) hCast
  have hDays := buildSettlementSparkline_eq payments id
    (settlementWindowStart now validPeriod.days) hCast validPeriod.days fun payment hPayment =>
      hTexts payment (List.mem_of_mem_filter hPayment)
  simp only [getSettlementSummaryService, hPeriod, hCache, hTotals, hDays, Option.bind_eq_bind,
    Option.bind_some]
  exact ⟨_, rfl⟩

/-- The sparkline has the released amount of each day of the window and sums to the total,
and the totals are those of the same window. -/
theorem settlementSummary_addsUp {summary : SettlementSummaryResult}
    (hPast : ∀ payment ∈ payments, payment.deletedAt = none →
      ObjectId.cast? organizationId = some payment.organizationId →
        payment.createdAt.ms ≤ now.ms)
    (hCache : cache (settlementSummaryCacheKey organizationId period) = none)
    (hSummary : getSettlementSummaryService payments cache now organizationId period =
      some (.ok summary)) :
    SummaryPeriod.ofString? period = some summary.period ∧
      ∃ id, ObjectId.cast? organizationId = some id ∧ summary.AddsUp payments id now.day := by
  obtain ⟨hPeriod, hTotals, hDays⟩ := getSettlementSummaryService_ok hCache hSummary
  obtain ⟨id, hCast, -⟩ := Option.bind_eq_some_iff.mp hTotals
  have hOfOrganization : ∀ payment ∈ payments, payment.deletedAt = none →
      payment.organizationId = id → payment.createdAt.ms ≤ now.ms :=
    fun payment hPayment hDeleted hSame => hPast payment hPayment hDeleted (hSame ▸ hCast)
  rw [aggregateSettlementSummary_eq payments id _ hCast] at hTotals
  have hTexts : ∀ payment ∈ releasedInWindow payments id
      (settlementWindowStart now summary.period.days),
        Date.dateToString payment.createdAt.ms ≠ none := by
    intro payment hPayment hNone
    rw [buildSettlementSparkline_of_none payments id _ _ hCast ⟨payment, hPayment, hNone⟩] at hDays
    cases hDays
  rw [buildSettlementSparkline_eq payments id _ hCast _ hTexts] at hDays
  have hSparkline := (Option.some.inj hDays).symm
  have hSame := fun status => windowAmount_eq_amountOn summary.period hOfOrganization status
  obtain ⟨hReleased, hEscrowed, hPending⟩ := SettlementSummaryAggResult.mk.inj
    (Option.some.inj hTotals)
  refine ⟨hPeriod, id, hCast, ?_, ?_, ?_, ?_, ?_, ?_⟩
  · rw [hSparkline, List.length_map, List.length_range]
  · intro i hIndex
    rw [hSparkline, List.getElem?_map, List.getElem?_range hIndex, Option.map_some,
      releasedInWindow_day]
    rfl
  · rw [hSparkline, sum_releasedInWindow hOfOrganization, hReleased]
  · rw [← hReleased, hSame]
  · rw [← hEscrowed, hSame]
  · rw [← hPending, hSame]

/-- Payments of an eve, a last instant and a second day of a month, one of them deleted. -/
def sampleSettlements : List ListedPayment :=
  [{ samplePayment with createdAt := ⟨1709078400000⟩, status := .released },
    { samplePayment with createdAt := ⟨1709251199999⟩, status := .released },
    { samplePayment with createdAt := ⟨1709251199999⟩, status := .released,
                         deletedAt := some ⟨1709251200000⟩ },
    { samplePayment with createdAt := ⟨1709337600000⟩, status := .escrowed }]

theorem settlementSummary_addsUp_sample :
    ∃ summary, getSettlementSummaryService sampleSettlements (fun _ => none) ⟨1709380800000⟩
      samplePayment.organizationId.toString "week" = some (.ok summary) ∧
        summary.AddsUp sampleSettlements samplePayment.organizationId 19784 := by
  have hCast := ObjectId.cast?_toString samplePayment.organizationId
  obtain ⟨summary, hSummary⟩ := @getSettlementSummaryService_computes sampleSettlements
    (fun _ => none) ⟨1709380800000⟩ _ "week" _ _ rfl hCast rfl (by decide)
  obtain ⟨-, id, hId, hAddsUp⟩ := settlementSummary_addsUp (by
    intro payment hPayment _ _
    exact of_decide_eq_true (List.all_eq_true.mp
      (show sampleSettlements.all fun payment => payment.createdAt.ms ≤ 1709380800000 by decide)
        payment hPayment)) rfl hSummary
  obtain rfl : samplePayment.organizationId = id := Option.some.inj (hCast.symm.trans hId)
  exact ⟨summary, hSummary, hAddsUp⟩

end Summaries

end Navin
