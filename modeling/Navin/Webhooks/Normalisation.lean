import Navin.Telemetry.Effects
import Navin.Webhooks.IotScope

/-! What is left of a body of the devices in the record that is stored for it. Bodies
come in two shapes. The one that names a shipment may name its sensor as well. -/
namespace Navin

open Async

/-- What a device has measured. -/
structure ReadingValues where
  temperature : JsNumber
  humidity : JsNumber
  latitude : Coordinate
  longitude : Coordinate
  batteryLevel : JsNumber
  timestamp : Date
  shockMagnitude : Option JsNumber
deriving DecidableEq

/-- The measured values of a body. A battery that is not mentioned is full. -/
def IotWebhookBody.reading : IotWebhookBody → ReadingValues
  | .normalized body =>
      { temperature := body.temperature
        humidity := body.humidity
        latitude := body.latitude
        longitude := body.longitude
        batteryLevel := body.batteryLevel.getD (.ofNat 100)
        timestamp := body.timestamp
        shockMagnitude := body.shockMagnitude }
  | .sensor body =>
      { temperature := body.temp
        humidity := body.humidity
        latitude := body.lat
        longitude := body.lng
        batteryLevel := body.batteryLevel.getD (.ofNat 100)
        timestamp := body.timestamp
        shockMagnitude := body.shockMagnitude }

/-- The record of a reading, up to its id and to what is kept of the payload. -/
def ReadingValues.record (reading : ReadingValues) (shipmentId : ObjectId) (sensorId : String) :
    Telemetry where
  id := .repeated 0
  shipmentId := shipmentId
  latitude := reading.latitude
  longitude := reading.longitude
  timestamp := reading.timestamp
  dataHash := ""
  stellarTxHash := none
  anchored := false
  deletedAt := none
  sensorId := sensorId
  temperature := reading.temperature
  humidity := reading.humidity
  batteryLevel := reading.batteryLevel
  anchorStatus := .pendingAnchor
  anchorError := none
  shockMagnitude := reading.shockMagnitude
  isAnomaly := false
  anomalyType := none
  rawPayload := .null

def IotWebhookBody.givenSensor : IotWebhookBody → Option String
  | .normalized body => body.sensorId
  | .sensor body => some body.sensorId

namespace Telemetry

def reading (telemetry : Telemetry) : ReadingValues where
  temperature := telemetry.temperature
  humidity := telemetry.humidity
  latitude := telemetry.latitude
  longitude := telemetry.longitude
  batteryLevel := telemetry.batteryLevel
  timestamp := telemetry.timestamp
  shockMagnitude := telemetry.shockMagnitude

/-- The record up to its fresh id and to what is kept of the payload. -/
def withoutPayload (telemetry : Telemetry) : Telemetry :=
  { telemetry with id := .repeated 0, dataHash := "", rawPayload := .null }

end Telemetry

/-- The stored records, in their two parts. -/
def TelemetryStore.records (store : TelemetryStore) :
    List TelemetryRow × List (ObjectId × Reading) :=
  (store.1.telemetry, store.2.readings)

section Records

/-- The calls that leave the records alone. -/
def keepsTelemetry : BackendCall ⊕ TelemetryCall → Bool
  | .inl request => !request.writesTelemetry
  | .inr (.telemetryCreate _) | .inr (.telemetryFindByIdAndUpdate _ _) => false
  | .inr _ => true

theorem executeTelemetry_keepsTelemetry (decision : TelemetryDecision) (store : TelemetryStore)
    {request : TelemetryCall} (h : keepsTelemetry (.inr request) = true) :
    (executeTelemetry decision store request).1.records = store.records := by
  cases request with
  | telemetryCreate => cases h
  | telemetryFindByIdAndUpdate => cases h
  | anomalyCreate =>
      simp only [executeTelemetry]
      split <;> rfl
  | apiKeyFind organizationId =>
      simp only [executeTelemetry, castingId]
      split <;> rfl
  | apiKeyRevoke id =>
      simp only [executeTelemetry, castingId]
      split
      · rfl
      · split <;> rfl
  | thresholdFindOne organizationId shipmentType =>
      simp only [executeTelemetry, castingId]
      split <;> rfl
  | anchorEvent shipmentId dataHash =>
      simp only [executeTelemetry]
      split <;> rfl
  | _ => rfl

theorem perform_keepsTelemetry (env : Decision × TelemetryDecision) (store : TelemetryStore)
    (request : BackendCall ⊕ TelemetryCall) (h : keepsTelemetry request = true) :
    TelemetryStore.records (telemetryWorld.perform env store request).1 = store.records := by
  cases request with
  | inl backendCall =>
      have hRows : (perform env.1 store.1 backendCall).1.telemetry = store.1.telemetry :=
        perform_telemetry (Bool.not_eq_true' _ |>.mp h)
      exact congrArg (fun rows => (rows, store.2.readings)) hRows
  | inr request =>
      change (performTelemetry env.2 store request).1.records = store.records
      rcases performTelemetry_cases env.2 store request with hKept | hDone
      · rw [hKept]
      · rw [hDone, executeTelemetry_keepsTelemetry env.2 store h]

/-- What follows leaves the records alone. -/
abbrev KeepsTelemetry (α : Type) (p : TelemetryM α) : Prop :=
  p.Uses fun request => keepsTelemetry request = true

theorem keepsTelemetry_announceTelemetry (shipmentId dataHash : String) (telemetry : Telemetry) :
    KeepsTelemetry _ (announceTelemetry shipmentId dataHash telemetry) :=
  announceTelemetry_uses (C := (keepsTelemetry · = true)) (fun _ => rfl) (fun _ _ => rfl)
    (fun _ => rfl) _ _ _

theorem keepsTelemetry_resolveShipmentId (notFoundCode : String)
    (shipmentId sensorId : Option String) :
    KeepsTelemetry _ (resolveShipmentId notFoundCode shipmentId sensorId) :=
  resolveShipmentId_uses (C := (keepsTelemetry · = true)) (fun _ => rfl) _ _ _

/-- A record is added, or nothing happens to the records. -/
theorem records_create (decision : TelemetryDecision) (store : TelemetryStore)
    (input : TelemetryInput) :
    (performTelemetry decision store (.telemetryCreate input)).1.records = store.records ∨
      ∃ shipmentId, ObjectId.cast? input.shipmentId = some shipmentId ∧
        (performTelemetry decision store (.telemetryCreate input)).1 =
          store.insertTelemetry (input.telemetry decision.freshId shipmentId) := by
  rcases performTelemetry_cases decision store (.telemetryCreate input) with hKept | hDone
  · rw [hKept]
    exact .inl rfl
  · rw [hDone]
    simp only [executeTelemetry, castingId]
    cases hCast : ObjectId.cast? input.shipmentId with
    | none => exact .inl rfl
    | some shipmentId =>
        dsimp only
        split_ifs with hFresh
        · exact .inr ⟨shipmentId, rfl, rfl⟩
        · exact .inl rfl

end Records

section Webhook

variable [Sha256] {env env' : Nat → Decision × TelemetryDecision}
  {store store' : TelemetryStore} {telemetry telemetry' : Telemetry}

/-- A run of the webhook stores the record. -/
def StoresRecord (env : Nat → Decision × TelemetryDecision) (store : TelemetryStore)
    (body : IotWebhookBody) (telemetry : Telemetry) : Prop :=
  TelemetryStore.records ((processIotWebhook body).run telemetryWorld env store).1 =
    (store.insertTelemetry telemetry).records

/-- The record has the values of the body, and its sensor when the body gives one. -/
def KeepsReading (body : IotWebhookBody) : Prop :=
  ∀ env store telemetry, StoresRecord env store body telemetry →
    telemetry.reading = body.reading ∧
      ∀ sensorId ∈ body.givenSensor, telemetry.sensorId = sensorId

/-- Two bodies store the same record for a shipment, up to what is kept of the payload. -/
def StoresAlike (body body' : IotWebhookBody) : Prop :=
  ∀ env env' store store' telemetry telemetry',
    StoresRecord env store body telemetry → StoresRecord env' store' body' telemetry' →
    telemetry.shipmentId = telemetry'.shipmentId →
    telemetry.withoutPayload = telemetry'.withoutPayload

omit [Sha256] in
/-- The records before and after tell which one was stored. -/
theorem insertTelemetry_records_inj
    (h : (store.insertTelemetry telemetry).records = (store.insertTelemetry telemetry').records) :
    telemetry = telemetry' := by
  obtain ⟨hRows, hReadings⟩ := Prod.mk.inj h
  have hRow := List.append_cancel_left hRows
  have hReading := List.append_cancel_left hReadings
  cases telemetry
  cases telemetry'
  simp_all

omit [Sha256] in
theorem insertTelemetry_records_ne : (store.insertTelemetry telemetry).records ≠ store.records := by
  intro h
  have hLength := congrArg (fun records => records.1.length) h
  simp [TelemetryStore.records, TelemetryStore.insertTelemetry] at hLength

omit [Sha256] in
/-- A body that names a shipment is stored under that text. -/
theorem resolve_named {body : IotWebhookBody} {text shipmentId : String}
    (hAccepted : body.accepted = true)
    (hNamed : (normalizeIotWebhookBody body).shipmentId = some shipmentId)
    (hRun : (resolveShipmentId "NOT_FOUND" (normalizeIotWebhookBody body).shipmentId
      (normalizeIotWebhookBody body).sensorId).run telemetryWorld env store =
        (store', .ok text, env')) : text = shipmentId := by
  cases body with
  | sensor body => cases hNamed
  | normalized body =>
      cases hNamed
      have hId : truthy (some body.shipmentId) = some body.shipmentId :=
        truthy_of_accepted_normalized hAccepted
      simp only [normalizeIotWebhookBody, resolveShipmentId, hId] at hRun
      cases hRun
      rfl

/-- The record that is stored is the one of the normalised body. -/
theorem StoresRecord.input {body : IotWebhookBody} (hAccepted : body.accepted = true)
    (h : StoresRecord env store body telemetry) :
    ∃ text id, body.target store = some telemetry.shipmentId ∧
      ObjectId.cast? text = some telemetry.shipmentId ∧
      (∀ shipmentId, (normalizeIotWebhookBody body).shipmentId = some shipmentId →
        text = shipmentId) ∧
      telemetry = ((normalizeIotWebhookBody body).input text).telemetry id
        telemetry.shipmentId := by
  have hKept : TelemetryStore.records ((resolveShipmentId "NOT_FOUND"
      (normalizeIotWebhookBody body).shipmentId (normalizeIotWebhookBody body).sensorId).run
        telemetryWorld env store).1 = store.records :=
    Program.Uses.run (W := telemetryWorld) (keepsTelemetry_resolveShipmentId _ _ _) _
      perform_keepsTelemetry env store
  rw [StoresRecord, processIotWebhook_eq, Program.run_bind] at h
  split at h
  · rename_i store₁ text env₁ hResolve
    obtain ⟨rfl, hTarget⟩ := resolve_of_run hAccepted hResolve
    have hTail : TelemetryStore.records ((createTelemetryRecord
        ((normalizeIotWebhookBody body).input text) >>= announceTelemetry text
          ((normalizeIotWebhookBody body).input text).dataHash).run telemetryWorld env₁ store₁).1 =
        TelemetryStore.records ((createTelemetryRecord
          ((normalizeIotWebhookBody body).input text)).run telemetryWorld env₁ store₁).1 :=
      Program.run_bind_view telemetryWorld _ _
        (keepsTelemetry_announceTelemetry text _) perform_keepsTelemetry env₁ store₁
    rw [hTail, createTelemetryRecord, run_call] at h
    rcases records_create (env₁ 0).2 store₁ ((normalizeIotWebhookBody body).input text) with
      hNone | ⟨shipmentId, hCast, hStored⟩
    · exact absurd (h.symm.trans hNone) insertTelemetry_records_ne
    · have hSame := insertTelemetry_records_inj (h.symm.trans (congrArg _ hStored))
      have hText : ObjectId.cast? text = some shipmentId := hCast
      subst hSame
      refine ⟨text, _, hTarget.symm.trans hText, hText, fun named hNamed => ?_, rfl⟩
      exact resolve_named hAccepted hNamed hResolve
  · rename_i store₁ error env₁ hResolve
    rw [hResolve] at hKept
    exact absurd (h.symm.trans hKept) insertTelemetry_records_ne

/-- With every service up the record is stored. -/
theorem storesRecord_serving {body : IotWebhookBody} {id shipmentId : ObjectId}
    (hTarget : body.target store = some shipmentId)
    (hUnused : ∀ row ∈ store.1.telemetry, row.id ≠ id) :
    ∃ telemetry, StoresRecord (serving id) store body telemetry ∧
      telemetry.shipmentId = shipmentId := by
  obtain ⟨text, hResolve, hCast⟩ : ∃ text, (resolveShipmentId _ _ _).run telemetryWorld
      (serving id) store = _ ∧ _ := run_resolveShipmentId hTarget
  obtain ⟨input, hInput⟩ : ∃ input, input = (normalizeIotWebhookBody body).input text := ⟨_, rfl⟩
  have hCreate : (createTelemetryRecord input).run telemetryWorld (serving id) store =
      (store.insertTelemetry (input.telemetry id shipmentId),
        .ok (input.telemetry id shipmentId), serving id) := by
    have hText : ObjectId.cast? input.shipmentId = some shipmentId := hInput ▸ hCast
    rw [createTelemetryRecord, run_call_serving]
    simp only [executeTelemetry, castingId, hText, if_pos hUnused]
  refine ⟨input.telemetry id shipmentId, ?_, rfl⟩
  rw [StoresRecord, processIotWebhook_eq, Program.run_bind_ok hResolve, ← hInput,
    Program.run_bind_ok hCreate]
  exact Program.Uses.run (W := telemetryWorld) (keepsTelemetry_announceTelemetry _ _ _)
    TelemetryStore.records perform_keepsTelemetry _ _

/-- The shipment id of the body can be cast. -/
def NormalizedTelemetry.Castable (body : NormalizedTelemetry) : Prop :=
  ∃ id, ObjectId.cast? body.shipmentId = some id

/-- A body that leads to a shipment by its id gives no other text than that for its
sensor. -/
def IotWebhookBody.SensorKept : IotWebhookBody → Prop
  | .normalized body => body.Castable → ∀ sensorId ∈ body.sensorId, sensorId = body.shipmentId
  | .sensor _ => True

/-- The record has the measured values of either shape. -/
theorem StoresRecord.reading {body : IotWebhookBody} (hAccepted : body.accepted = true)
    (h : StoresRecord env store body telemetry) : telemetry.reading = body.reading := by
  obtain ⟨text, id, -, -, -, hInput⟩ := h.input hAccepted
  rw [hInput]
  cases body <;> rfl

/-- A record that is stored by the id of its shipment has that text for its sensor. -/
theorem StoresRecord.sensorId_normalized {body : NormalizedTelemetry}
    (hAccepted : (IotWebhookBody.normalized body).accepted = true)
    (h : StoresRecord env store (.normalized body) telemetry) :
    telemetry.sensorId = body.shipmentId := by
  obtain ⟨text, id, -, -, hNamed, hInput⟩ := h.input hAccepted
  have hText : text = body.shipmentId := hNamed body.shipmentId rfl
  rw [hInput, hText]
  rfl

theorem StoresRecord.sensorId_sensor {body : SensorTelemetry}
    (hAccepted : (IotWebhookBody.sensor body).accepted = true)
    (h : StoresRecord env store (.sensor body) telemetry) :
    telemetry.sensorId = body.sensorId := by
  obtain ⟨text, id, -, -, -, hInput⟩ := h.input hAccepted
  rw [hInput]
  rfl

/-- Whatever a body names as its shipment is stored for it, when it can be cast. -/
theorem exists_storesRecord_normalized {body : NormalizedTelemetry} {id : ObjectId}
    (hAccepted : (IotWebhookBody.normalized body).accepted = true)
    (hCast : ObjectId.cast? body.shipmentId = some id) :
    ∃ telemetry, StoresRecord (serving (.repeated 0)) ({}, {}) (.normalized body) telemetry ∧
      telemetry.shipmentId = id := by
  have hTarget : (IotWebhookBody.normalized body).target ({}, {}) = some id := by
    rw [IotWebhookBody.target, if_pos hAccepted]
    exact hCast
  exact storesRecord_serving hTarget fun row hRow => absurd hRow List.not_mem_nil

theorem keepsReading_iff {body : IotWebhookBody} (hAccepted : body.accepted = true) :
    KeepsReading body ↔ body.SensorKept := by
  constructor
  · intro hKeeps
    cases body with
    | sensor body => trivial
    | normalized body =>
        rintro ⟨id, hCast⟩ sensorId hSensor
        obtain ⟨telemetry, hStored, -⟩ := exists_storesRecord_normalized hAccepted hCast
        rw [← (hKeeps _ _ _ hStored).2 sensorId hSensor]
        exact hStored.sensorId_normalized hAccepted
  · intro hKept env store telemetry hStored
    refine ⟨hStored.reading hAccepted, fun sensorId hSensor => ?_⟩
    cases body with
    | sensor body =>
        rw [hStored.sensorId_sensor hAccepted]
        exact Option.some.inj hSensor
    | normalized body =>
        obtain ⟨text, id, hTarget, hCast, hNamed, -⟩ := hStored.input hAccepted
        rw [hNamed body.shipmentId rfl] at hCast
        rw [hStored.sensorId_normalized hAccepted]
        exact (hKept ⟨_, hCast⟩ sensorId hSensor).symm

/-- Beyond the measured values, only shipment and sensor tell stored records apart. -/
theorem StoresRecord.withoutPayload {body : IotWebhookBody} (hAccepted : body.accepted = true)
    (h : StoresRecord env store body telemetry) :
    telemetry.withoutPayload = body.reading.record telemetry.shipmentId telemetry.sensorId := by
  obtain ⟨text, id, -, -, -, hInput⟩ := h.input hAccepted
  rw [hInput]
  cases body <;> rfl

/-- A shipment that travels with the sensor. -/
def travelling (id : ObjectId) (sensorId : String) : TelemetryStore :=
  ({ shipments :=
      ⟨[{ sampleShipment with
          id
          status := .inTransit
          offChainMetadata := some (.object [("sensorId", some (.string sensorId))]) }],
        List.nodup_singleton _⟩ }, {})

omit [Sha256] in
theorem travelling_target {body : SensorTelemetry} (id : ObjectId)
    (hAccepted : (IotWebhookBody.sensor body).accepted = true) :
    (IotWebhookBody.sensor body).target (travelling id body.sensorId) = some id := by
  rw [IotWebhookBody.target, if_pos hAccepted]
  simp [travelling, TelemetryStore.activeShipmentOfSensor, carriesSensor, Value.get?,
    sampleShipment]

theorem storesAlike_iff {body : NormalizedTelemetry} {other : SensorTelemetry}
    (hAccepted : (IotWebhookBody.normalized body).accepted = true)
    (hOther : (IotWebhookBody.sensor other).accepted = true)
    (hReading : (IotWebhookBody.normalized body).reading = (IotWebhookBody.sensor other).reading) :
    StoresAlike (.normalized body) (.sensor other) ↔
      (body.Castable → other.sensorId = body.shipmentId) := by
  constructor
  · rintro hAlike ⟨id, hCast⟩
    obtain ⟨telemetry, hStored, hShipment⟩ := exists_storesRecord_normalized hAccepted hCast
    obtain ⟨telemetry', hStored', hShipment'⟩ :=
      @storesRecord_serving _ _ _ (.repeated 0) _ (travelling_target id hOther)
        fun row hRow => absurd hRow List.not_mem_nil
    have hSame := hAlike _ _ _ _ _ _ hStored hStored' (hShipment.trans hShipment'.symm)
    have hSensor : telemetry.withoutPayload.sensorId = telemetry'.withoutPayload.sensorId := by
      rw [hSame]
    change telemetry.sensorId = telemetry'.sensorId at hSensor
    rw [hStored.sensorId_normalized hAccepted, hStored'.sensorId_sensor hOther] at hSensor
    exact hSensor.symm
  · intro hSensor env env' store store' telemetry telemetry' hStored hStored' hShipment
    obtain ⟨text, id, hTarget, hCast, hNamed, -⟩ := hStored.input hAccepted
    rw [hNamed body.shipmentId rfl] at hCast
    rw [hStored.withoutPayload hAccepted, hStored'.withoutPayload hOther, hReading, hShipment,
      hStored.sensorId_normalized hAccepted, hStored'.sensorId_sensor hOther,
      hSensor ⟨_, hCast⟩]

/-- What a body says arrives in the record, except for the sensor of a body that names
its shipment. -/
theorem iotNormalisation_iff :
    (∀ body : IotWebhookBody, body.accepted = true → (KeepsReading body ↔ body.SensorKept)) ∧
      ∀ (body : NormalizedTelemetry) (other : SensorTelemetry),
        (IotWebhookBody.normalized body).accepted = true →
        (IotWebhookBody.sensor other).accepted = true →
        (IotWebhookBody.normalized body).reading = (IotWebhookBody.sensor other).reading →
        (StoresAlike (.normalized body) (.sensor other) ↔
          (body.Castable → other.sensorId = body.shipmentId)) :=
  ⟨fun _ => keepsReading_iff, fun _ _ => storesAlike_iff⟩

end Webhook

section Samples

/-- A gateway that names the shipment and the sensor. -/
def sampleNamedBody : NormalizedTelemetry where
  sensorId := some "sensor-1"
  shipmentId := sampleShipment.id.toString
  temperature := .ofNat 5
  humidity := .ofNat 50
  latitude := .finite (.ofNat 10)
  longitude := .finite (.ofNat 20)
  batteryLevel := none
  timestamp := ⟨0⟩
  shockMagnitude := none
  gpsLost := none

theorem sampleNamedBody_accepted : (IotWebhookBody.normalized sampleNamedBody).accepted = true := by
  decide +kernel

def sampleSensorBody : SensorTelemetry where
  sensorId := "sensor-1"
  temp := .ofNat 5
  humidity := .ofNat 50
  lat := .finite (.ofNat 10)
  lng := .finite (.ofNat 20)
  batteryLevel := none
  timestamp := ⟨0⟩
  shockMagnitude := none
  gpsLost := none

/-- The body of the sensor itself loses nothing. The two bodies are stored differently. -/
theorem iotNormalisation_sample :
    @KeepsReading blankSha256 (.sensor sampleSensorBody) ∧
      ¬@StoresAlike blankSha256 (.normalized sampleNamedBody) (.sensor sampleSensorBody) := by
  have hAccepted : (IotWebhookBody.sensor sampleSensorBody).accepted = true := by decide +kernel
  obtain ⟨hKeeps, hAlike⟩ := @iotNormalisation_iff blankSha256
  refine ⟨(hKeeps _ hAccepted).mpr trivial, fun hSame => ?_⟩
  have hSensor := (hAlike _ _ sampleNamedBody_accepted hAccepted rfl).mp hSame
    ⟨_, ObjectId.cast?_toString _⟩
  exact absurd hSensor (by decide)

/-- The sensor that the gateway names is lost. -/
theorem named_sensor_is_lost : ¬∀ (_ : Sha256) (body : IotWebhookBody), body.accepted = true →
    KeepsReading body := by
  intro hKeeps
  have hCast : ObjectId.cast? sampleNamedBody.shipmentId = some sampleShipment.id :=
    ObjectId.cast?_toString _
  obtain ⟨telemetry, hStored, -⟩ := @exists_storesRecord_normalized blankSha256 _ _
    sampleNamedBody_accepted hCast
  obtain ⟨-, hSensor⟩ := hKeeps blankSha256 _ sampleNamedBody_accepted _ _ _ hStored
  have hText := hSensor "sensor-1" rfl
  rw [@StoresRecord.sensorId_normalized blankSha256 _ _ _ _ sampleNamedBody_accepted hStored]
    at hText
  exact absurd hText (by decide)

end Samples

end Navin
