import Navin.Semantics.GreatCircle
import Navin.Backend.Effects
import Navin.Semantics.WeakestPreconditions
import Navin.Shared.NumberText
import Navin.Shipments.QueryService

/-! The arithmetic of the arrival estimate, over the real numbers. A square root of a
negative number and a quotient by zero are no numbers. -/
namespace Navin.Exact

open GreatCircle InnerProductGeometry Real

structure Coordinates where
  latitude : ℝ
  longitude : ℝ

structure TelemetryPoint extends Coordinates where
  timestamp : Date

noncomputable def minEffectiveSpeedKmh : ℝ := 5

noncomputable def defaultSinglePointSpeedKmh : ℝ := 40

noncomputable def earthRadiusKm : ℝ := 6371

section Distance

/-- `Math.sqrt`. -/
noncomputable def sqrt (x : ℝ) : Option ℝ :=
  if x < 0 then none else some √x

noncomputable def divide (x y : ℝ) : Option ℝ :=
  if y = 0 then none else some (x / y)

/-- `Math.atan2`, which is zero at the origin. -/
noncomputable def atan2 (y x : ℝ) : ℝ :=
  Complex.arg ⟨x, y⟩

noncomputable def toRadians (degrees : ℝ) : ℝ :=
  degrees * π / 180

/-- The term `a` of `calculateDistanceKm`. -/
noncomputable def haversineTerm (start finish : Coordinates) : ℝ :=
  let deltaLatitude := toRadians (finish.latitude - start.latitude)
  let deltaLongitude := toRadians (finish.longitude - start.longitude)
  sin (deltaLatitude / 2) * sin (deltaLatitude / 2) +
    cos (toRadians start.latitude) * cos (toRadians finish.latitude) *
      sin (deltaLongitude / 2) * sin (deltaLongitude / 2)

noncomputable def calculateDistanceKm (start finish : Coordinates) : Option ℝ := do
  let a := haversineTerm start finish
  let c := 2 * atan2 (← sqrt a) (← sqrt (1 - a))
  return earthRadiusKm * c

/-- Where the coordinates point to, from the centre of the earth. -/
noncomputable def Coordinates.direction (place : Coordinates) : EuclideanSpace ℝ (Fin 3) :=
  GreatCircle.direction (toRadians place.latitude) (toRadians place.longitude)

/-- The length of the arc between two places. -/
noncomputable def distanceKm (start finish : Coordinates) : ℝ :=
  earthRadiusKm * angle start.direction finish.direction

theorem toRadians_sub (x y : ℝ) : toRadians (x - y) = toRadians x - toRadians y := by
  rw [toRadians, toRadians, toRadians]
  ring

theorem haversineTerm_eq (start finish : Coordinates) :
    haversineTerm start finish =
      haversine (toRadians start.latitude) (toRadians start.longitude)
        (toRadians finish.latitude) (toRadians finish.longitude) := by
  simp only [haversineTerm, haversine, toRadians_sub]

theorem haversineTerm_nonneg (start finish : Coordinates) : 0 ≤ haversineTerm start finish := by
  rw [haversineTerm_eq]
  exact haversine_nonneg _ _ _ _

theorem haversineTerm_le_one (start finish : Coordinates) : haversineTerm start finish ≤ 1 := by
  rw [haversineTerm_eq]
  exact haversine_le_one _ _ _ _

theorem sqrt_of_nonneg {x : ℝ} (h : 0 ≤ x) : sqrt x = some √x :=
  if_neg (not_lt.mpr h)

theorem divide_of_pos {x y : ℝ} (h : 0 < y) : divide x y = some (x / y) :=
  if_neg h.ne'

/-- What is calculated is the length of the arc. -/
theorem calculateDistanceKm_eq (start finish : Coordinates) :
    calculateDistanceKm start finish = some (distanceKm start finish) := by
  have hRoot := sqrt_of_nonneg (haversineTerm_nonneg start finish)
  have hOther := sqrt_of_nonneg (sub_nonneg.mpr (haversineTerm_le_one start finish))
  have hAngle := two_mul_arg_sqrt_haversine (toRadians start.latitude)
    (toRadians start.longitude) (toRadians finish.latitude) (toRadians finish.longitude)
  rw [← haversineTerm_eq] at hAngle
  simp only [calculateDistanceKm, hRoot, hOther, Option.bind_eq_bind, Option.bind_some,
    Option.pure_def, atan2, hAngle, distanceKm, Coordinates.direction]

theorem distanceKm_nonneg (start finish : Coordinates) : 0 ≤ distanceKm start finish :=
  mul_nonneg (by norm_num [earthRadiusKm]) (angle_nonneg _ _)

theorem distanceKm_le (start finish : Coordinates) :
    distanceKm start finish ≤ earthRadiusKm * π :=
  mul_le_mul_of_nonneg_left (angle_le_pi _ _) (by norm_num [earthRadiusKm])

end Distance

section Speed

structure SpeedTotals where
  distanceKm : ℝ
  elapsedHours : ℝ

/-- The hours from one point to the next. -/
noncomputable def segmentHours (previous current : TelemetryPoint) : ℝ :=
  ((current.timestamp.ms - previous.timestamp.ms : ℤ) : ℝ) / 3600000

/-- The body of the loop. -/
noncomputable def addSegment (totals : SpeedTotals) (previous current : TelemetryPoint) :
    Option SpeedTotals :=
  if segmentHours previous current ≤ 0 then some totals
  else do
    let distance ← calculateDistanceKm previous.toCoordinates current.toCoordinates
    return ⟨totals.distanceKm + distance, totals.elapsedHours + segmentHours previous current⟩

noncomputable def addSegments : SpeedTotals → List TelemetryPoint → Option SpeedTotals
  | totals, previous :: current :: rest => do
      addSegments (← addSegment totals previous current) (current :: rest)
  | totals, _ => some totals

/-- The points are listed from the newest to the oldest. -/
noncomputable def calculateAverageSpeedKmh (points : List TelemetryPoint) : Option ℝ :=
  if points.length < 2 then some defaultSinglePointSpeedKmh
  else do
    let totals ← addSegments ⟨0, 0⟩ points.reverse
    if totals.elapsedHours ≤ 0 then some defaultSinglePointSpeedKmh
    else divide totals.distanceKm totals.elapsedHours

/-- Two points one after the other. -/
abbrev Segment : Type :=
  TelemetryPoint × TelemetryPoint

/-- The segments that go forward in time. -/
def forward (chronological : List TelemetryPoint) : List Segment :=
  (chronological.zip chronological.tail).filter fun segment =>
    segment.1.timestamp.ms < segment.2.timestamp.ms

noncomputable def totalKm (segments : List Segment) : ℝ :=
  (segments.map fun segment => distanceKm segment.1.toCoordinates segment.2.toCoordinates).sum

noncomputable def totalHours (segments : List Segment) : ℝ :=
  (segments.map fun segment => segmentHours segment.1 segment.2).sum

/-- The average speed over segments, and the default if there is none. -/
noncomputable def averageSpeed : List Segment → ℝ
  | [] => defaultSinglePointSpeedKmh
  | segments => totalKm segments / totalHours segments

theorem segmentHours_pos_iff (previous current : TelemetryPoint) :
    0 < segmentHours previous current ↔ previous.timestamp.ms < current.timestamp.ms := by
  rw [segmentHours, div_pos_iff_of_pos_right (by norm_num), Int.cast_pos, sub_pos]

theorem forward_cons (previous current : TelemetryPoint) (rest : List TelemetryPoint) :
    forward (previous :: current :: rest) =
      if 0 < segmentHours previous current then (previous, current) :: forward (current :: rest)
      else forward (current :: rest) := by
  simp only [segmentHours_pos_iff]
  exact List.filter_cons.trans (by simp only [decide_eq_true_eq]; rfl)

theorem segmentHours_pos_of_mem {chronological : List TelemetryPoint} {segment : Segment}
    (h : segment ∈ forward chronological) : 0 < segmentHours segment.1 segment.2 :=
  (segmentHours_pos_iff _ _).mpr (of_decide_eq_true (List.mem_filter.mp h).2)

theorem addSegment_forward (totals : SpeedTotals) {previous current : TelemetryPoint}
    (h : 0 < segmentHours previous current) :
    addSegment totals previous current = some
      ⟨totals.distanceKm + distanceKm previous.toCoordinates current.toCoordinates,
        totals.elapsedHours + segmentHours previous current⟩ := by
  rw [addSegment, if_neg (not_le.mpr h), calculateDistanceKm_eq]
  rfl

theorem addSegment_ignored (totals : SpeedTotals) {previous current : TelemetryPoint}
    (h : ¬0 < segmentHours previous current) :
    addSegment totals previous current = some totals :=
  if_pos (not_lt.mp h)

/-- The loop adds up the segments that go forward. -/
theorem addSegments_eq (totals : SpeedTotals) (chronological : List TelemetryPoint) :
    addSegments totals chronological = some
      ⟨totals.distanceKm + totalKm (forward chronological),
        totals.elapsedHours + totalHours (forward chronological)⟩ := by
  fun_induction addSegments totals chronological with
  | case1 totals previous current rest ih =>
      rw [forward_cons]
      by_cases hForward : 0 < segmentHours previous current
      · rw [addSegment_forward totals hForward, Option.bind_eq_bind, Option.bind_some, ih,
          if_pos hForward]
        simp only [totalKm, totalHours, List.map_cons, List.sum_cons, add_assoc]
      · rw [addSegment_ignored totals hForward, Option.bind_eq_bind, Option.bind_some, ih,
          if_neg hForward]
  | case2 points totals hShort =>
      have hNone : forward points = [] := by
        match points, hShort with
        | [], _ => rfl
        | [_], _ => rfl
        | _ :: _ :: _, hShort => exact (hShort _ _ _ rfl).elim
      rw [hNone]
      simp [totalKm, totalHours]

theorem totalHours_pos {chronological : List TelemetryPoint} {segment : Segment}
    {rest : List Segment} (h : forward chronological = segment :: rest) :
    0 < totalHours (segment :: rest) := by
  refine List.sum_pos _ ?_ (List.cons_ne_nil _ _)
  intro hours hHours
  obtain ⟨segment, hSegment, rfl⟩ := List.mem_map.mp hHours
  exact segmentHours_pos_of_mem (h ▸ hSegment)

theorem totalKm_nonneg (segments : List Segment) : 0 ≤ totalKm segments := by
  refine List.sum_nonneg ?_
  intro distance hDistance
  obtain ⟨segment, -, rfl⟩ := List.mem_map.mp hDistance
  exact distanceKm_nonneg _ _

/-- Only the segments that go forward are looked at. -/
theorem calculateAverageSpeedKmh_eq (points : List TelemetryPoint) :
    calculateAverageSpeedKmh points = some (averageSpeed (forward points.reverse)) := by
  rw [calculateAverageSpeedKmh]
  split_ifs with hShort
  · have hNone : forward points.reverse = [] := by
      match points, hShort with
      | [], _ => rfl
      | [_], _ => rfl
    rw [hNone, averageSpeed]
  · rw [addSegments_eq, Option.bind_eq_bind, Option.bind_some]
    simp only [zero_add]
    cases hForward : forward points.reverse with
    | nil => exact if_pos le_rfl
    | cons segment rest =>
        have hPos := totalHours_pos hForward
        rw [if_neg (not_le.mpr hPos), divide_of_pos hPos, averageSpeed]
        exact List.cons_ne_nil _ _

theorem averageSpeed_nonneg (chronological : List TelemetryPoint) :
    0 ≤ averageSpeed (forward chronological) := by
  cases hForward : forward chronological with
  | nil => norm_num [averageSpeed, defaultSinglePointSpeedKmh]
  | cons segment rest => exact div_nonneg (totalKm_nonneg _) (totalHours_pos hForward).le

end Speed

section Estimate

inductive EtaConfidence where
  | low
  | medium
  | high

def EtaConfidence.name : EtaConfidence → String
  | .low => "LOW"
  | .medium => "MEDIUM"
  | .high => "HIGH"

noncomputable def inferEtaConfidence (pointsCount : Nat) (averageSpeed : ℝ) : EtaConfidence :=
  if 6 ≤ pointsCount ∧ 15 ≤ averageSpeed then .high
  else if 3 ≤ pointsCount ∧ 8 ≤ averageSpeed then .medium
  else .low

/-- What is computed for the payload, before anything is written as a text. The arrival is
the time value of a date. -/
structure EtaEstimate where
  estimatedArrival : ℝ
  distanceRemaining : ℝ
  averageSpeed : ℝ
  confidence : EtaConfidence

noncomputable def estimateEta (latest : TelemetryPoint) (earlier : List TelemetryPoint)
    (destination : Coordinates) (now : Date) : Option EtaEstimate := do
  let points := latest :: earlier
  let distanceRemaining ← calculateDistanceKm latest.toCoordinates destination
  let averageSpeedRaw ← calculateAverageSpeedKmh points
  let averageSpeed := max averageSpeedRaw minEffectiveSpeedKmh
  let confidence := inferEtaConfidence points.length averageSpeedRaw
  let etaHours ← divide distanceRemaining averageSpeed
  return ⟨now.ms + etaHours * 3600000, distanceRemaining, averageSpeed, confidence⟩

/-- The last time value of a date. -/
def maxTime : Nat := 8640000000000000

/-- `new Date(time)`, which drops the fraction. Beyond the last time value it is no date. -/
noncomputable def newDate (time : ℝ) : Option Date :=
  if |time| ≤ maxTime then some ⟨if 0 ≤ time then ⌊time⌋ else ⌈time⌉⟩ else none

/-- The longest that an arrival lies ahead: half round the earth at the lowest speed. -/
noncomputable def longestMs : ℝ :=
  earthRadiusKm * π / minEffectiveSpeedKmh * 3600000

theorem minEffectiveSpeedKmh_pos : 0 < minEffectiveSpeedKmh := by
  norm_num [minEffectiveSpeedKmh]

theorem estimateEta_eq (latest : TelemetryPoint) (earlier : List TelemetryPoint)
    (destination : Coordinates) (now : Date) :
    let raw := averageSpeed (forward (latest :: earlier).reverse)
    let distance := distanceKm latest.toCoordinates destination
    estimateEta latest earlier destination now = some
      ⟨now.ms + distance / max raw minEffectiveSpeedKmh * 3600000, distance,
        max raw minEffectiveSpeedKmh, inferEtaConfidence (latest :: earlier).length raw⟩ := by
  intro raw distance
  have hPos : 0 < max raw minEffectiveSpeedKmh := lt_max_of_lt_right minEffectiveSpeedKmh_pos
  simp only [estimateEta, calculateDistanceKm_eq, calculateAverageSpeedKmh_eq,
    Option.bind_eq_bind, Option.bind_some, Option.pure_def, divide_of_pos hPos, raw, distance]

/-- The time that is left, in milliseconds. -/
theorem remaining_bounds (start finish : Coordinates) {speed : ℝ}
    (h : minEffectiveSpeedKmh ≤ speed) :
    0 ≤ distanceKm start finish / speed * 3600000 ∧
      distanceKm start finish / speed * 3600000 ≤ longestMs := by
  have hSpeed := minEffectiveSpeedKmh_pos.trans_le h
  constructor
  · exact mul_nonneg (div_nonneg (distanceKm_nonneg _ _) hSpeed.le) (by norm_num)
  · refine mul_le_mul_of_nonneg_right ?_ (by norm_num)
    calc distanceKm start finish / speed
        ≤ distanceKm start finish / minEffectiveSpeedKmh :=
          div_le_div_of_nonneg_left (distanceKm_nonneg _ _) minEffectiveSpeedKmh_pos h
      _ ≤ earthRadiusKm * π / minEffectiveSpeedKmh :=
          div_le_div_of_nonneg_right (distanceKm_le _ _) minEffectiveSpeedKmh_pos.le

/-- A date in a span of time that begins at a whole millisecond, not before the epoch. -/
theorem newDate_bounds {now : Date} {time length : ℝ} (hNow : 0 ≤ now.ms) (hFrom : now.ms ≤ time)
    (hTo : time ≤ now.ms + length) (hLast : now.ms + length ≤ maxTime) :
    ∃ date, newDate time = some date ∧ now.ms ≤ date.ms ∧ date.ms ≤ now.ms + length := by
  have hTime : 0 ≤ time := le_trans (by exact_mod_cast hNow) hFrom
  refine ⟨⟨⌊time⌋⟩, ?_, Int.le_floor.mpr hFrom, (Int.floor_le time).trans hTo⟩
  rw [newDate, if_pos ((abs_of_nonneg hTime).trans_le (hTo.trans hLast)), if_pos hTime]

/-- Nothing is computed that is not a number, and the arrival is not before now and at most
half round the earth away. -/
theorem etaArithmetic_wellDefined :
    (∀ start finish, 0 ≤ haversineTerm start finish ∧ haversineTerm start finish ≤ 1 ∧
      ∃ distance, calculateDistanceKm start finish = some distance ∧
        0 ≤ distance ∧ distance ≤ 6371 * π) ∧
    (∀ points, ∃ speed, calculateAverageSpeedKmh points = some speed ∧ 0 ≤ speed ∧
      speed = averageSpeed (forward points.reverse)) ∧
    ∀ latest earlier destination now, ∃ eta,
      estimateEta latest earlier destination now = some eta ∧
        minEffectiveSpeedKmh ≤ eta.averageSpeed ∧
        now.ms ≤ eta.estimatedArrival ∧
        eta.estimatedArrival ≤ now.ms + 6371 * π / 5 * 3600000 ∧
        (0 ≤ now.ms → now.ms + 6371 * π / 5 * 3600000 ≤ maxTime →
          ∃ date, newDate eta.estimatedArrival = some date ∧ now.ms ≤ date.ms ∧
            date.ms ≤ now.ms + 6371 * π / 5 * 3600000) := by
  refine ⟨fun start finish => ⟨haversineTerm_nonneg _ _, haversineTerm_le_one _ _, _,
    calculateDistanceKm_eq _ _, distanceKm_nonneg _ _, distanceKm_le _ _⟩,
    fun points => ⟨_, calculateAverageSpeedKmh_eq points, averageSpeed_nonneg _, rfl⟩, ?_⟩
  intro latest earlier destination now
  have hRemaining := remaining_bounds latest.toCoordinates destination
    (le_max_right (averageSpeed (forward (latest :: earlier).reverse)) minEffectiveSpeedKmh)
  refine ⟨_, estimateEta_eq latest earlier destination now, le_max_right _ _,
    le_add_of_nonneg_right hRemaining.1, add_le_add_right hRemaining.2 _, ?_⟩
  intro hNow hLast
  exact newDate_bounds hNow (le_add_of_nonneg_right hRemaining.1)
    (add_le_add_right hRemaining.2 _) hLast

end Estimate

section Stored

/-- A stored point, if its coordinates are finite. -/
noncomputable def storedPoint (row : TelemetryRow) : Option TelemetryPoint :=
  match row.latitude, row.longitude with
  | .finite latitude, .finite longitude => some ⟨⟨latitude.value, longitude.value⟩, row.timestamp⟩
  | _, _ => none

noncomputable def storedPlace (place : Navin.Coordinates) : Coordinates :=
  ⟨place.latitude.value, place.longitude.value⟩

/-- `Number(value.toFixed(3))` in JSON, of a value that is not negative. -/
noncomputable def fixedText (value : ℝ) : String :=
  let thousandths := ⌊value * 1000 + 1 / 2⌋.toNat
  (JsNumber.stripZeros (thousandths + 1) thousandths (-3)).toString

noncomputable def EtaEstimate.payload (eta : EtaEstimate) (estimatedArrival : Date) : EtaPayload :=
  .estimate estimatedArrival.toISOString (fixedText eta.distanceRemaining)
    (fixedText eta.averageSpeed) eta.confidence.name

/-- The estimate is computed in exact arithmetic wherever it is computed from numbers. -/
def ComputesExactly [EtaArithmetic] : Prop :=
  ∀ latest earlier destination now point points eta date,
    storedPoint latest = some point → earlier.mapM storedPoint = some points →
    estimateEta point points (storedPlace destination) now = some eta →
    newDate eta.estimatedArrival = some date →
    EtaArithmetic.estimate latest earlier destination now = eta.payload date

/-- The payload announces an arrival within the longest time from now. -/
def Announces (now : Date) (payload : EtaPayload) : Prop :=
  ∃ eta : EtaEstimate, ∃ date, payload = eta.payload date ∧
    minEffectiveSpeedKmh ≤ eta.averageSpeed ∧ now.ms ≤ date.ms ∧ date.ms ≤ now.ms + longestMs

variable [EtaArithmetic] {text : String} {shipment : Shipment} {store : Store} {now : Date}

omit [EtaArithmetic] in
theorem exists_points {rows : List TelemetryRow} (h : ∀ row ∈ rows, (storedPoint row).isSome) :
    ∃ points, rows.mapM storedPoint = some points := by
  induction rows with
  | nil => exact ⟨[], rfl⟩
  | cons row rest ih =>
      obtain ⟨hRow, hRest⟩ := List.forall_mem_cons.mp h
      obtain ⟨point, hPoint⟩ := Option.isSome_iff_exists.mp hRow
      obtain ⟨points, hPoints⟩ := ih hRest
      exact ⟨point :: points, by simp [hPoint, hPoints]⟩

theorem estimate_announces (hExact : ComputesExactly) (latest : TelemetryRow)
    (earlier : List TelemetryRow) (destination : Navin.Coordinates)
    (hFinite : ∀ row ∈ latest :: earlier, (storedPoint row).isSome)
    (hNow : 0 ≤ now.ms) (hLast : now.ms + longestMs ≤ maxTime) :
    Announces now (EtaArithmetic.estimate latest earlier destination now) := by
  obtain ⟨hLatest, hEarlier⟩ := List.forall_mem_cons.mp hFinite
  obtain ⟨point, hPoint⟩ := Option.isSome_iff_exists.mp hLatest
  obtain ⟨points, hPoints⟩ := exists_points hEarlier
  have hEta := estimateEta_eq point points (storedPlace destination) now
  have hRemaining := remaining_bounds point.toCoordinates (storedPlace destination)
    (le_max_right (averageSpeed (forward (point :: points).reverse)) minEffectiveSpeedKmh)
  obtain ⟨date, hDate, hBounds⟩ := newDate_bounds hNow (le_add_of_nonneg_right hRemaining.1)
    (add_le_add_right hRemaining.2 _) hLast
  exact ⟨_, date, hExact _ _ _ _ _ _ _ _ hPoint hPoints hEta hDate, le_max_right _ _, hBounds⟩

omit [EtaArithmetic] in
theorem mem_telemetry_of_find {decision : Decision} {rows : List TelemetryRow}
    (h : (perform decision store (.telemetryFind text)).2 = .ok rows) :
    ∀ row ∈ rows, row ∈ store.telemetry := by
  rw [perform_eq_execute_of_ok rfl h, execute, castingId] at h
  split at h
  · cases h
  · obtain rfl := Except.ok.inj h
    exact fun row hRow => List.mem_of_mem_filter hRow

omit [EtaArithmetic] in
theorem writeAndReturn_answers {R : Async.Step backend → Prop} {written : EtaPayload} :
    (do request (.writeShipmentEtaCache text written)
        return written : BackendM EtaPayload).wp R
      (fun outcome _ => ∀ payload, outcome = .ok payload → payload = written) store := by
  rw [request, Async.Program.wp_await_bind]
  intro decision _
  cases (backend.perform decision store (.writeShipmentEtaCache text written)).2 with
  | error error => exact fun _ h => by cases h
  | ok answer => exact fun _ h => (Except.ok.inj h).symm

/-- In transit, what is answered is an arrival within the longest time from the reading of
the clock. -/
theorem estimateInTransit_announces (hExact : ComputesExactly)
    (hFinite : ∀ row ∈ store.telemetry, (storedPoint row).isSome)
    (hNow : 0 ≤ now.ms) (hLast : now.ms + longestMs ≤ maxTime) :
    (estimateInTransit text shipment).wp (fun step : Async.Step backend => step.decision.now = now)
      (fun outcome _ => ∀ payload, outcome = .ok payload → Announces now payload) store := by
  unfold estimateInTransit
  split
  · exact fun _ h => by cases h
  · rename_i destination _
    rw [request, Async.Program.wp_await_bind]
    intro decision _
    rw [backend_perform]
    cases hRows : (perform decision store (.telemetryFind text)).2 with
    | error error => exact fun _ h => by cases h
    | ok rows =>
        change Async.Program.wp _ _ _ _
        dsimp only
        split
        · exact fun _ h => by cases h
        · rename_i latest earlier hWindow
          have hRead (row) (hRow : row ∈ latest :: earlier) : (storedPoint row).isSome := by
            rw [← hWindow] at hRow
            refine hFinite row (mem_telemetry_of_find hRows row ?_)
            exact (List.mem_insertionSort _).mp (List.mem_of_mem_take hRow)
          rw [currentDate, request, Async.Program.wp_await_bind]
          intro clock hClock
          rw [backend_perform, perform_now]
          have hPayload := estimate_announces hExact latest earlier destination hRead hNow hLast
          obtain rfl : clock.now = now := hClock
          change Async.Program.wp _ _ _ _
          apply writeAndReturn_answers.mono
          intro outcome _ hAnswers payload hSame
          rw [hAnswers payload hSame]
          exact hPayload

end Stored

end Navin.Exact
