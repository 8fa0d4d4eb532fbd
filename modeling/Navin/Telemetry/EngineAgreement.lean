import Navin.Semantics.TwoRuns
import Navin.Telemetry.AnomalyDetection

/-! When the two engines say the same about a reading. A limit of zero is no limit for
the one that compares truthy limits only. -/
namespace Navin

open Async

/-- What the IoT path would call the anomaly. -/
def AnomalyType.breach : AnomalyType → TelemetryAnomalyType
  | .temperatureExceeded | .temperatureBelowMin => .temperatureBreach
  | .humidityExceeded | .humidityBelowMin => .humidityBreach
  | .batteryLow => .batteryLow

/-- The bulk path finds an anomaly of this kind. -/
def FindsBreach (anomalies : List EvaluatedAnomaly) (breach : TelemetryAnomalyType) : Prop :=
  ∃ anomaly ∈ anomalies, anomaly.type.breach = breach

/-- The type that is reported is that of the first kind of anomaly that is found. -/
structure EnginesAgree (reported : Option TelemetryAnomalyType)
    (anomalies : List EvaluatedAnomaly) : Prop where
  temperature : reported = some .temperatureBreach ↔ FindsBreach anomalies .temperatureBreach
  humidity : ¬FindsBreach anomalies .temperatureBreach →
    (reported = some .humidityBreach ↔ FindsBreach anomalies .humidityBreach)
  batteryLevel : ¬FindsBreach anomalies .temperatureBreach → ¬FindsBreach anomalies .humidityBreach →
    (reported = some .batteryLow ↔ FindsBreach anomalies .batteryLow)
  nothing : reported = none ↔ anomalies = []

/-- A reading above its maximum or below its minimum. -/
def Outside (maximum minimum : Option JsNumber) (reading : JsNumber) : Prop :=
  (∃ limit ∈ maximum, limit < reading) ∨ ∃ limit ∈ minimum, reading < limit

/-- A reading beyond a limit that is not zero. -/
def OutsideNonzero (maximum minimum : Option JsNumber) (reading : JsNumber) : Prop :=
  Outside (maximum.filter (· ≠ .zero)) (minimum.filter (· ≠ .zero)) reading

theorem OutsideNonzero.outside {maximum minimum : Option JsNumber} {reading : JsNumber}
    (h : OutsideNonzero maximum minimum reading) : Outside maximum minimum reading := by
  rcases h with ⟨limit, hLimit, hReading⟩ | ⟨limit, hLimit, hReading⟩
  · exact .inl ⟨limit, (Option.mem_filter_iff.mp hLimit).1, hReading⟩
  · exact .inr ⟨limit, (Option.mem_filter_iff.mp hLimit).1, hReading⟩

namespace DetectionInput

variable (input : DetectionInput) (thresholds : TelemetryThresholds)

def temperatureOutside : Prop :=
  Outside thresholds.maxTemp thresholds.minTemp input.temperature

def humidityOutside : Prop :=
  Outside thresholds.maxHumidity thresholds.minHumidity input.humidity

def batteryOutside : Prop :=
  Outside none thresholds.minBatteryLevel input.batteryLevel

/-- The first quantity outside its limits, in the order temperature, humidity,
battery level, is beyond one that is not zero. -/
structure NoZeroLimitDecides : Prop where
  temperature : input.temperatureOutside thresholds →
    OutsideNonzero thresholds.maxTemp thresholds.minTemp input.temperature
  humidity : ¬input.temperatureOutside thresholds → input.humidityOutside thresholds →
    OutsideNonzero thresholds.maxHumidity thresholds.minHumidity input.humidity
  batteryLevel : ¬input.temperatureOutside thresholds → ¬input.humidityOutside thresholds →
    input.batteryOutside thresholds →
      OutsideNonzero none thresholds.minBatteryLevel input.batteryLevel

/-- The same reading, on the bulk path. -/
def payload (timestamp : Date) : TelemetryPayload where
  shipmentId := input.shipmentId
  timestamp
  temperature := some input.temperature
  humidity := some input.humidity
  batteryLevel := some input.batteryLevel

end DetectionInput

section Detection

theorem crossed_isSome_iff (limit : Option JsNumber) (crosses : JsNumber → Bool) :
    (crossed limit crosses).isSome ↔ ∃ bound ∈ limit.filter (· ≠ .zero), crosses bound := by
  cases limit with
  | none => simp [crossed]
  | some bound =>
      by_cases hZero : bound = .zero
      · simp [crossed, hZero]
      · simp [crossed, Option.filter, hZero]

theorem rangeDetail_isSome_iff {maximum minimum : Option JsNumber} {reading : JsNumber}
    (quantity unit : String) :
    (rangeDetail quantity unit maximum minimum reading).isSome ↔
      OutsideNonzero maximum minimum reading := by
  have hMaximum := crossed_isSome_iff maximum fun limit => limit < reading
  have hMinimum := crossed_isSome_iff minimum fun limit => reading < limit
  simp only [decide_eq_true_eq] at hMaximum hMinimum
  rw [OutsideNonzero, Outside, ← hMaximum, ← hMinimum, rangeDetail]
  cases crossed maximum fun limit => limit < reading <;> simp

variable {thresholds : TelemetryThresholds} {input : DetectionInput}

open Classical in
/-- The first quantity beyond a limit that is not zero. -/
theorem detectBreach_type
    (hShock : ∀ magnitude ∈ input.shockMagnitude, ¬JsNumber.ofNat 2 < magnitude) :
    (detectBreach thresholds input).map Prod.fst =
      if OutsideNonzero thresholds.maxTemp thresholds.minTemp input.temperature then
        some .temperatureBreach
      else if OutsideNonzero thresholds.maxHumidity thresholds.minHumidity input.humidity then
        some .humidityBreach
      else if OutsideNonzero none thresholds.minBatteryLevel input.batteryLevel then
        some .batteryLow
      else none := by
  have hBattery := crossed_isSome_iff thresholds.minBatteryLevel fun limit =>
    input.batteryLevel < limit
  have hCalm : (crossed input.shockMagnitude fun magnitude => .ofNat 2 < magnitude) = none := by
    rw [← Option.not_isSome_iff_eq_none, crossed_isSome_iff]
    rintro ⟨magnitude, hMagnitude, hCrosses⟩
    exact hShock magnitude (Option.mem_filter_iff.mp hMagnitude).1 (of_decide_eq_true hCrosses)
  have hNone : OutsideNonzero none thresholds.minBatteryLevel input.batteryLevel ↔
      (crossed thresholds.minBatteryLevel fun limit => input.batteryLevel < limit).isSome := by
    rw [hBattery]
    simp [OutsideNonzero, Outside]
  rw [← rangeDetail_isSome_iff "Temperature" "°C", ← rangeDetail_isSome_iff "Humidity" "%", hNone,
    detectBreach, hCalm]
  cases rangeDetail "Temperature" "°C" thresholds.maxTemp thresholds.minTemp input.temperature with
  | some detail => simp
  | none =>
      cases rangeDetail "Humidity" "%" thresholds.maxHumidity thresholds.minHumidity
          input.humidity with
      | some detail => simp
      | none =>
          cases crossed thresholds.minBatteryLevel fun limit => input.batteryLevel < limit <;> simp

end Detection

section Evaluation

variable {payload : TelemetryPayload} {breach : TelemetryAnomalyType}

theorem findsBreach_append (first second : List EvaluatedAnomaly) :
    FindsBreach (first ++ second) breach ↔ FindsBreach first breach ∨ FindsBreach second breach := by
  simp [FindsBreach, or_and_right, exists_or]

theorem findsBreach_evaluateLimit {type : AnomalyType} {message relation : String}
    {severity : JsNumber → JsNumber → String} {crosses : JsNumber → JsNumber → Bool}
    (reading : JsNumber) (limit : Option JsNumber) :
    FindsBreach (evaluateLimit payload type message relation severity crosses (some reading) limit)
        breach ↔ type.breach = breach ∧ ∃ bound ∈ limit, crosses reading bound := by
  cases limit with
  | none => simp [FindsBreach, evaluateLimit]
  | some bound =>
      rw [evaluateLimit]
      split_ifs with hCrosses <;> simp [FindsBreach, hCrosses]

theorem eq_nil_iff_not_findsBreach (anomalies : List EvaluatedAnomaly) :
    anomalies = [] ↔ ∀ breach, ¬FindsBreach anomalies breach := by
  rw [List.eq_nil_iff_forall_not_mem]
  exact ⟨fun hNone breach ⟨anomaly, hAnomaly, _⟩ => hNone anomaly hAnomaly,
    fun hNone anomaly hAnomaly => hNone _ ⟨anomaly, hAnomaly, rfl⟩⟩

variable {thresholds : TelemetryThresholds} {input : DetectionInput}

/-- The kinds of anomalies that the bulk path finds. -/
theorem findsBreach_evaluateTelemetry (hShipment : input.shipmentId ≠ "") (timestamp : Date) :
    FindsBreach (evaluateTelemetry (input.payload timestamp) thresholds) breach ↔
      breach = .temperatureBreach ∧ input.temperatureOutside thresholds ∨
        breach = .humidityBreach ∧ input.humidityOutside thresholds ∨
          breach = .batteryLow ∧ input.batteryOutside thresholds := by
  have hPayload : (input.payload timestamp).shipmentId ≠ "" := hShipment
  rw [evaluateTelemetry, if_neg hPayload]
  simp only [DetectionInput.payload, evaluateMaximum, evaluateMinimum, findsBreach_append,
    findsBreach_evaluateLimit, AnomalyType.breach, decide_eq_true_eq, eq_comm (b := breach)]
  rw [DetectionInput.temperatureOutside, DetectionInput.humidityOutside,
    DetectionInput.batteryOutside, Outside, Outside, Outside]
  simp only [Option.mem_def, reduceCtorEq, false_and, exists_false, false_or, and_or_left,
    or_assoc]

theorem evaluateTelemetry_eq_nil_iff (hShipment : input.shipmentId ≠ "") (timestamp : Date) :
    evaluateTelemetry (input.payload timestamp) thresholds = [] ↔
      ¬input.temperatureOutside thresholds ∧ ¬input.humidityOutside thresholds ∧
        ¬input.batteryOutside thresholds := by
  rw [eq_nil_iff_not_findsBreach]
  simp only [findsBreach_evaluateTelemetry hShipment]
  constructor
  · intro hNone
    exact ⟨fun hOut => hNone _ (.inl ⟨rfl, hOut⟩), fun hOut => hNone _ (.inr (.inl ⟨rfl, hOut⟩)),
      fun hOut => hNone _ (.inr (.inr ⟨rfl, hOut⟩))⟩
  · intro hNone breach hFound
    rcases hFound with ⟨-, hOut⟩ | ⟨-, hOut⟩ | ⟨-, hOut⟩
    · exact hNone.1 hOut
    · exact hNone.2.1 hOut
    · exact hNone.2.2 hOut

end Evaluation

section Agreement

variable {thresholds : TelemetryThresholds} {input : DetectionInput}

/-- The type that the limits alone decide, against all anomalies. -/
theorem enginesAgree_detectBreach_iff (hShipment : input.shipmentId ≠ "") (timestamp : Date)
    (hShock : ∀ magnitude ∈ input.shockMagnitude, ¬JsNumber.ofNat 2 < magnitude) :
    EnginesAgree ((detectBreach thresholds input).map Prod.fst)
        (evaluateTelemetry (input.payload timestamp) thresholds) ↔
      input.NoZeroLimitDecides thresholds := by
  have hFinds : ∀ breach, FindsBreach (evaluateTelemetry (input.payload timestamp) thresholds) breach ↔
      _ := fun _ => findsBreach_evaluateTelemetry hShipment timestamp
  have hNothing : evaluateTelemetry (input.payload timestamp) thresholds = [] ↔ _ :=
    evaluateTelemetry_eq_nil_iff hShipment timestamp
  have hTemperature : OutsideNonzero thresholds.maxTemp thresholds.minTemp input.temperature →
      input.temperatureOutside thresholds := OutsideNonzero.outside
  have hHumidity : OutsideNonzero thresholds.maxHumidity thresholds.minHumidity input.humidity →
      input.humidityOutside thresholds := OutsideNonzero.outside
  have hBattery : OutsideNonzero none thresholds.minBatteryLevel input.batteryLevel →
      input.batteryOutside thresholds := OutsideNonzero.outside
  rw [detectBreach_type hShock]
  constructor
  · intro hAgree
    constructor
    · intro hOut
      by_contra hZero
      have hReported := hAgree.temperature.mpr ((hFinds _).mpr (.inl ⟨rfl, hOut⟩))
      rw [if_neg hZero] at hReported
      split_ifs at hReported <;> cases hReported
    · intro hIn hOut
      by_contra hZero
      have hReported := (hAgree.humidity (by simp [hFinds, hIn])).mpr
        ((hFinds _).mpr (.inr (.inl ⟨rfl, hOut⟩)))
      rw [if_neg (mt hTemperature hIn), if_neg hZero] at hReported
      split_ifs at hReported
      cases hReported
    · intro hIn hIn' hOut
      by_contra hZero
      have hReported := (hAgree.batteryLevel (by simp [hFinds, hIn])
        (by simp [hFinds, hIn'])).mpr ((hFinds _).mpr (.inr (.inr ⟨rfl, hOut⟩)))
      rw [if_neg (mt hTemperature hIn), if_neg (mt hHumidity hIn'), if_neg hZero] at hReported
      cases hReported
  · intro hDecides
    -- the first quantity that is outside decides, and if there is none nothing is found
    by_cases hOut : input.temperatureOutside thresholds
    · rw [if_pos (hDecides.temperature hOut)]
      constructor <;> simp [hNothing, hFinds, hOut]
    · rw [if_neg (mt hTemperature hOut)]
      by_cases hOut' : input.humidityOutside thresholds
      · rw [if_pos (hDecides.humidity hOut hOut')]
        constructor <;> simp [hNothing, hFinds, hOut, hOut']
      · rw [if_neg (mt hHumidity hOut')]
        by_cases hOut'' : input.batteryOutside thresholds
        · rw [if_pos (hDecides.batteryLevel hOut hOut' hOut'')]
          constructor <;> simp [hNothing, hFinds, hOut, hOut', hOut'']
        · rw [if_neg (mt hBattery hOut'')]
          constructor <;> simp [hNothing, hFinds, hOut, hOut', hOut'']

variable {env env' : Nat → Decision × TelemetryDecision} {store store' : TelemetryStore}
  {result : TelemetryAnomalyDetectionResult}

theorem anomalyType_of_flagTelemetry {telemetryId : String}
    {found : Option (TelemetryAnomalyType × String)}
    (hRun : (flagTelemetry telemetryId found).run telemetryWorld env store =
      (store', .ok result, env')) : result.anomalyType = found.map Prod.fst := by
  cases found with
  | none =>
      cases hRun
      rfl
  | some breach =>
      rw [flagTelemetry, Program.run_bind_eq_ok] at hRun
      obtain ⟨store₁, updated, env₁, -, hReturn⟩ := hRun
      cases hReturn
      rfl

theorem anomalyType_of_detectWithThresholds
    (hGps : ∀ check, ((detectGpsLoss input.shipmentId input.latitude input.longitude).run
      telemetryWorld env store).2.1 = .ok check → check.hasGpsLoss = false)
    (hRun : (detectWithThresholds thresholds input).run telemetryWorld env store =
      (store', .ok result, env')) :
    result.anomalyType = (detectBreach thresholds input).map Prod.fst := by
  rw [detectWithThresholds] at hRun
  cases hBreach : detectBreach thresholds input with
  | some breach =>
      rw [hBreach] at hRun
      exact anomalyType_of_flagTelemetry hRun
  | none =>
      rw [hBreach, Program.run_bind_eq_ok] at hRun
      obtain ⟨store₁, check, env₁, hCheck, hRun⟩ := hRun
      have hNoLoss := hGps check (by rw [hCheck])
      rw [hNoLoss] at hRun
      exact anomalyType_of_flagTelemetry hRun

/-- The IoT path answers what its checks answered, once it has the thresholds. -/
theorem run_detectTelemetryAnomalies {env₁ : Nat → Decision × TelemetryDecision}
    {store₁ : TelemetryStore}
    (hResolved : (resolveTelemetryThresholdsForShipment input.shipmentId).run telemetryWorld env
      store = (store₁, .ok thresholds, env₁))
    (hRun : (detectWithThresholds thresholds input).run telemetryWorld env₁ store₁ =
      (store', .ok result, env')) :
    (detectTelemetryAnomalies input).run telemetryWorld env store = (store', .ok result, env') := by
  rw [detectTelemetryAnomalies, Program.run_tryCatch, Program.run_bind_ok hResolved, hRun]

/-- For any thresholds, when no shock was felt and no loss of position is found: the
two engines agree exactly when no limit of zero decides. -/
theorem engines_agree_iff (hShipment : input.shipmentId ≠ "")
    (hShock : ∀ magnitude ∈ input.shockMagnitude, ¬JsNumber.ofNat 2 < magnitude)
    (hGps : ∀ check, ((detectGpsLoss input.shipmentId input.latitude input.longitude).run
      telemetryWorld env store).2.1 = .ok check → check.hasGpsLoss = false)
    (hRun : (detectWithThresholds thresholds input).run telemetryWorld env store =
      (store', .ok result, env')) :
    (∀ env₀ store₀, (resolveTelemetryThresholdsForShipment input.shipmentId).run telemetryWorld
        env₀ store₀ = (store, .ok thresholds, env) →
      (detectTelemetryAnomalies input).run telemetryWorld env₀ store₀ =
        (store', .ok result, env')) ∧
      ∀ timestamp, EnginesAgree result.anomalyType
          (evaluateTelemetry (input.payload timestamp) thresholds) ↔
        input.NoZeroLimitDecides thresholds := by
  constructor
  · intro env₀ store₀ hResolved
    exact run_detectTelemetryAnomalies hResolved hRun
  · intro timestamp
    rw [anomalyType_of_detectWithThresholds hGps hRun]
    exact enginesAgree_detectBreach_iff hShipment timestamp hShock

section Sample

/-- Frozen goods that have thawed. -/
def sampleThawed : DetectionInput where
  telemetryId := (ObjectId.repeated 3).toString
  shipmentId := sampleShipment.id.toString
  temperature := .ofNat 5
  humidity := .ofNat 50
  batteryLevel := .ofNat 90
  shockMagnitude := none
  latitude := .finite (.ofNat 10)
  longitude := .finite (.ofNat 20)

def sampleFreezerStore : TelemetryStore :=
  ({ shipments := ⟨[sampleShipment], Collection.nodup_single _ _⟩ },
    { thresholds :=
        [{ maxTemp := some .zero, organizationId := sampleShipment.enterpriseId
           shipmentType := defaultShipmentType }] })

def sampleFreezerThresholds : TelemetryThresholds :=
  mergeWithDefaults (some { maxTemp := some .zero })

private def undisturbed : Nat → Decision × TelemetryDecision :=
  fun _ => ({}, {})

private theorem sample_breach : detectBreach sampleFreezerThresholds sampleThawed = none := by
  decide +kernel

private theorem sample_resolved :
    (resolveTelemetryThresholdsForShipment sampleThawed.shipmentId).run telemetryWorld undisturbed
      sampleFreezerStore = (sampleFreezerStore, .ok sampleFreezerThresholds, undisturbed) := by
  rfl

private theorem sample_gpsCheck :
    (detectGpsLoss sampleThawed.shipmentId sampleThawed.latitude sampleThawed.longitude).run
      telemetryWorld undisturbed sampleFreezerStore =
        (sampleFreezerStore, .ok ⟨false, 0⟩, undisturbed) := by
  rfl

private theorem sample_detected :
    (detectWithThresholds sampleFreezerThresholds sampleThawed).run telemetryWorld undisturbed
      sampleFreezerStore =
        (sampleFreezerStore, .ok { isAnomaly := false, details := [] }, undisturbed) := by
  rw [detectWithThresholds, sample_breach]
  exact Program.run_bind_ok sample_gpsCheck

private theorem sample_noLoss (check : GpsCheck)
    (h : ((detectGpsLoss sampleThawed.shipmentId sampleThawed.latitude sampleThawed.longitude).run
      telemetryWorld undisturbed sampleFreezerStore).2.1 = .ok check) :
    check.hasGpsLoss = false := by
  rw [sample_gpsCheck] at h
  cases h
  rfl

theorem engines_agree_sample :
    EnginesAgree none (evaluateTelemetry (sampleThawed.payload ⟨0⟩) sampleFreezerThresholds) ↔
      sampleThawed.NoZeroLimitDecides sampleFreezerThresholds :=
  (engines_agree_iff (ObjectId.toString_ne_empty _) (fun _ h => by cases h) sample_noLoss
    sample_detected).2 ⟨0⟩

/-- Above a maximum of zero degrees the IoT path finds nothing. -/
theorem thawed_goods_raise_no_alert : ¬∀ (input : DetectionInput) (timestamp : Date)
    (thresholds : TelemetryThresholds) (env env₁ : Nat → Decision × TelemetryDecision)
    (store store₁ : TelemetryStore) (result : TelemetryAnomalyDetectionResult),
    input.shipmentId ≠ "" →
    (∀ magnitude ∈ input.shockMagnitude, ¬JsNumber.ofNat 2 < magnitude) →
    (resolveTelemetryThresholdsForShipment input.shipmentId).run telemetryWorld env store =
      (store₁, .ok thresholds, env₁) →
    (∀ check, ((detectGpsLoss input.shipmentId input.latitude input.longitude).run
      telemetryWorld env₁ store₁).2.1 = .ok check → check.hasGpsLoss = false) →
    ((detectTelemetryAnomalies input).run telemetryWorld env store).2.1 = .ok result →
    EnginesAgree result.anomalyType
      (evaluateTelemetry (input.payload timestamp) thresholds) := by
  intro hClaim
  have hResult : ((detectTelemetryAnomalies sampleThawed).run telemetryWorld undisturbed
      sampleFreezerStore).2.1 = .ok { isAnomaly := false, details := [] } := by
    rw [run_detectTelemetryAnomalies sample_resolved sample_detected]
  have hAgree := hClaim sampleThawed ⟨0⟩ _ _ _ _ _ _ (ObjectId.toString_ne_empty _)
    (fun _ h => by cases h) sample_resolved sample_noLoss hResult
  have hFound : evaluateTelemetry (sampleThawed.payload ⟨0⟩) sampleFreezerThresholds ≠ [] := by
    decide +kernel
  exact hFound (hAgree.nothing.mp rfl)

end Sample

end Agreement

end Navin
