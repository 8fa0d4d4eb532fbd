import Navin.Backend.Effects
import Navin.Shared.JsString
import Navin.Shipments.StatusService
import Navin.Telemetry.Interface

/-! Anomaly thresholds: what an organisation is shown for a type of shipment, and
what is applied to the readings of a shipment. -/
namespace Navin

open Async

def defaultShipmentType : String :=
  "DEFAULT"

/-- The built-in limits. There is none for the minima of temperature and humidity. -/
def defaultTelemetryThresholds : TelemetryThresholds where
  maxTemp := some (.ofNat 25)
  maxHumidity := some (.ofNat 80)
  minBatteryLevel := some (.ofNat 20)

def mergeWithDefaults (stored : Option TelemetryThresholds) : TelemetryThresholds where
  maxTemp := (stored.bind (·.maxTemp)).or defaultTelemetryThresholds.maxTemp
  minTemp := stored.bind (·.minTemp)
  maxHumidity := (stored.bind (·.maxHumidity)).or defaultTelemetryThresholds.maxHumidity
  minHumidity := stored.bind (·.minHumidity)
  minBatteryLevel := (stored.bind (·.minBatteryLevel)).or defaultTelemetryThresholds.minBatteryLevel

def getOrgTelemetryThresholdsService (organizationId : String) (shipmentType : Option String) :
    TelemetryM (String × TelemetryThresholds) := do
  let shipmentType := shipmentType.getD defaultShipmentType
  let doc ← call (.thresholdFindOne organizationId shipmentType)
  return (shipmentType, mergeWithDefaults (doc.map (·.toTelemetryThresholds)))

/-- The type that a shipment's metadata names. -/
def shipmentTypeOf (metadata : Option Value) : String :=
  match metadata.bind (·.get? "shipmentType") with
  | some (.string rawType) => if trim rawType ≠ "" then trim rawType else defaultShipmentType
  | _ => defaultShipmentType

def resolveTelemetryThresholdsForShipment (shipmentId : String) :
    TelemetryM TelemetryThresholds :=
  if shipmentId = "" ∨ ObjectId.cast? shipmentId = none then return mergeWithDefaults none
  else do
    match ← backendProgram (findShipmentById shipmentId) with
    | none => return mergeWithDefaults none
    | some shipment =>
        let organizationId := shipment.enterpriseId.toString
        let shipmentType := shipmentTypeOf shipment.offChainMetadata
        let doc ← call (.thresholdFindOne organizationId shipmentType)
        if doc.isNone ∧ shipmentType ≠ defaultShipmentType then do
          let fallback ← call (.thresholdFindOne organizationId defaultShipmentType)
          return mergeWithDefaults (fallback.map (·.toTelemetryThresholds))
        else return mergeWithDefaults (doc.map (·.toTelemetryThresholds))

namespace TelemetryStore

variable (store : TelemetryStore) (organizationId : ObjectId) (shipmentType : String)

/-- The stored limits of a type of shipment. -/
def profile : Option TelemetryThresholds :=
  (store.2.thresholds.find? fun profile =>
    profile.organizationId = organizationId && profile.shipmentType = shipmentType).map
      (·.toTelemetryThresholds)

/-- What an organisation is shown. -/
def shownThresholds : TelemetryThresholds :=
  mergeWithDefaults (store.profile organizationId shipmentType)

/-- What applies to the shipments of a type: their own profile, or else the default
type's. -/
def appliedThresholds : TelemetryThresholds :=
  mergeWithDefaults ((store.profile organizationId shipmentType).or
    (store.profile organizationId defaultShipmentType))

end TelemetryStore

/-- The limits are the built-in ones wherever they are set. -/
structure KeepsDefaults (stored : TelemetryThresholds) : Prop where
  maxTemp : stored.maxTemp = none ∨ stored.maxTemp = defaultTelemetryThresholds.maxTemp
  minTemp : stored.minTemp = none
  maxHumidity : stored.maxHumidity = none ∨
    stored.maxHumidity = defaultTelemetryThresholds.maxHumidity
  minHumidity : stored.minHumidity = none
  minBatteryLevel : stored.minBatteryLevel = none ∨
    stored.minBatteryLevel = defaultTelemetryThresholds.minBatteryLevel

theorem option_or_eq_iff {α : Type} (stored : Option α) (limit : α) :
    stored.or (some limit) = some limit ↔ stored = none ∨ stored = some limit := by
  cases stored <;> simp

theorem mergeWithDefaults_eq_iff (stored : TelemetryThresholds) :
    mergeWithDefaults (some stored) = mergeWithDefaults none ↔ KeepsDefaults stored := by
  have hTemp := option_or_eq_iff stored.maxTemp (.ofNat 25)
  have hHumidity := option_or_eq_iff stored.maxHumidity (.ofNat 80)
  have hBattery := option_or_eq_iff stored.minBatteryLevel (.ofNat 20)
  constructor
  · intro hSame
    simp only [mergeWithDefaults, TelemetryThresholds.mk.injEq, Option.bind_some,
      Option.bind_none, Option.none_or] at hSame
    obtain ⟨hMaxTemp, hMinTemp, hMaxHumidity, hMinHumidity, hMinBattery⟩ := hSame
    exact ⟨hTemp.mp hMaxTemp, hMinTemp, hHumidity.mp hMaxHumidity, hMinHumidity,
      hBattery.mp hMinBattery⟩
  · intro hKeeps
    simp only [mergeWithDefaults, TelemetryThresholds.mk.injEq, Option.bind_some,
      Option.bind_none, Option.none_or]
    exact ⟨hTemp.mpr hKeeps.maxTemp, hKeeps.minTemp, hHumidity.mpr hKeeps.maxHumidity,
      hKeeps.minHumidity, hBattery.mpr hKeeps.minBatteryLevel⟩

section Runs

variable {env env' : Nat → Decision × TelemetryDecision} {store store' : TelemetryStore}

theorem run_thresholdFindOne {organizationId shipmentType : String} {organization : ObjectId}
    {doc : Option ThresholdProfile} (hCast : ObjectId.cast? organizationId = some organization)
    (hRun : (call (.thresholdFindOne organizationId shipmentType)).run telemetryWorld env store =
      (store', .ok doc, env')) :
    store' = store ∧ doc.map (·.toTelemetryThresholds) = store.profile organization shipmentType := by
  have hAnswer := execute_of_run_call hRun
  simp only [executeTelemetry, castingId, hCast, Prod.mk.injEq, Except.ok.injEq] at hAnswer
  obtain ⟨hStore, hDoc⟩ := hAnswer
  subst hDoc
  exact ⟨hStore.symm, rfl⟩

theorem run_findShipmentById {id : String} {key : ObjectId} {found : Option Shipment}
    (hCast : ObjectId.cast? id = some key)
    (hRun : (backendProgram (findShipmentById id)).run telemetryWorld env store =
      (store', .ok found, env')) : store' = store ∧ found = store.1.liveShipment key := by
  obtain ⟨hAnswer, hRest⟩ := perform_of_run_request hRun
  have hExecute := (perform_eq_execute_of_ok rfl (congrArg Prod.snd hAnswer)).symm.trans hAnswer
  simp only [execute, castingId, hCast, Prod.mk.injEq, Except.ok.injEq] at hExecute
  exact ⟨Prod.ext hExecute.1.symm hRest, hExecute.2.symm⟩

theorem shown_of_run {organizationId : String} {organization : ObjectId}
    {shipmentType : Option String} {shown : String × TelemetryThresholds}
    (hCast : ObjectId.cast? organizationId = some organization)
    (hRun : (getOrgTelemetryThresholdsService organizationId shipmentType).run telemetryWorld env
      store = (store', .ok shown, env')) :
    shown.2 = store.shownThresholds organization (shipmentType.getD defaultShipmentType) := by
  rw [getOrgTelemetryThresholdsService, Program.run_bind_eq_ok] at hRun
  obtain ⟨found, doc, env₁, hFind, hReturn⟩ := hRun
  cases hReturn
  rw [(run_thresholdFindOne hCast hFind).2, TelemetryStore.shownThresholds]

/-- The limits applied to a shipment that is not deleted. -/
theorem applied_of_run {id : String} {shipment : Shipment} {applied : TelemetryThresholds}
    (hCast : ObjectId.cast? id = some shipment.id)
    (hLive : store.1.liveShipment shipment.id = some shipment)
    (hRun : (resolveTelemetryThresholdsForShipment id).run telemetryWorld env store =
      (store', .ok applied, env')) :
    applied = store.appliedThresholds shipment.enterpriseId
      (shipmentTypeOf shipment.offChainMetadata) := by
  have hId : id ≠ "" := by
    intro hEmpty
    rw [hEmpty] at hCast
    cases hCast
  rw [resolveTelemetryThresholdsForShipment, if_neg (by simp [hId, hCast]),
    Program.run_bind_eq_ok] at hRun
  obtain ⟨store₁, found, env₁, hFind, hRun⟩ := hRun
  obtain ⟨rfl, rfl⟩ := run_findShipmentById hCast hFind
  rw [hLive, Program.run_bind_eq_ok] at hRun
  obtain ⟨store₂, doc, env₂, hProfile, hRun⟩ := hRun
  obtain ⟨rfl, hDoc⟩ := run_thresholdFindOne (ObjectId.cast?_toString _) hProfile
  rw [TelemetryStore.appliedThresholds, ← hDoc]
  split_ifs at hRun with hFallback
  · rw [Program.run_bind_eq_ok] at hRun
    obtain ⟨store₃, fallback, env₃, hDefault, hReturn⟩ := hRun
    cases hReturn
    rw [(run_thresholdFindOne (ObjectId.cast?_toString _) hDefault).2,
      Option.isNone_iff_eq_none.mp hFallback.1, Option.map_none, Option.none_or]
  · cases hReturn : doc with
    | some profile =>
        rw [hReturn] at hRun
        cases hRun
        rfl
    | none =>
        -- then the type is the default one, which has no profile either
        have hDefault : shipmentTypeOf shipment.offChainMetadata = defaultShipmentType := by
          simpa [hReturn] using hFallback
        rw [hReturn] at hRun
        cases hRun
        rw [Option.map_none, Option.none_or, ← hDefault, ← hDoc, hReturn]
        rfl

/-- A deleted shipment has the built-in limits. -/
theorem applied_of_run_deleted {id : String} {key : ObjectId} {applied : TelemetryThresholds}
    (hCast : ObjectId.cast? id = some key) (hDeleted : store.1.liveShipment key = none)
    (hRun : (resolveTelemetryThresholdsForShipment id).run telemetryWorld env store =
      (store', .ok applied, env')) : applied = mergeWithDefaults none := by
  rw [resolveTelemetryThresholdsForShipment] at hRun
  split_ifs at hRun
  · cases hRun
    rfl
  · rw [Program.run_bind_eq_ok] at hRun
    obtain ⟨store₁, found, env₁, hFind, hRun⟩ := hRun
    obtain ⟨rfl, rfl⟩ := run_findShipmentById hCast hFind
    rw [hDeleted] at hRun
    cases hRun
    rfl

end Runs

section Agreement

variable {store : TelemetryStore} {shipment : Shipment}

/-- When what an organisation is shown for a type applies to its shipment of that
type. A type without a profile is shown the built-in limits, while its shipments
have those of the default type. -/
def TelemetryStore.ShownApplies (store : TelemetryStore) (shipment : Shipment)
    (shipmentType : String) : Prop :=
  match shipment.deletedAt with
  | none => (store.profile shipment.enterpriseId shipmentType).isSome ∨
      shipmentType = defaultShipmentType ∨
      ∀ stored ∈ store.profile shipment.enterpriseId defaultShipmentType, KeepsDefaults stored
  | some _ => ∀ stored ∈ store.profile shipment.enterpriseId shipmentType, KeepsDefaults stored

theorem mergeWithDefaults_eq_none_iff (stored : Option TelemetryThresholds) :
    mergeWithDefaults stored = mergeWithDefaults none ↔ ∀ limits ∈ stored, KeepsDefaults limits := by
  cases stored with
  | none => simp
  | some limits => simp [mergeWithDefaults_eq_iff]

theorem shownThresholds_eq_applied_iff (organization : ObjectId) (shipmentType : String) :
    store.shownThresholds organization shipmentType =
        store.appliedThresholds organization shipmentType ↔
      (store.profile organization shipmentType).isSome ∨ shipmentType = defaultShipmentType ∨
        ∀ limits ∈ store.profile organization defaultShipmentType, KeepsDefaults limits := by
  rw [TelemetryStore.shownThresholds, TelemetryStore.appliedThresholds]
  cases hProfile : store.profile organization shipmentType with
  | some limits => simp
  | none =>
      have hDefault : shipmentType = defaultShipmentType →
          store.profile organization defaultShipmentType = none :=
        fun hType => hType ▸ hProfile
      rw [Option.none_or, eq_comm, mergeWithDefaults_eq_none_iff]
      constructor
      · exact fun hKeeps => .inr (.inr hKeeps)
      · intro hAgree
        rcases hAgree with hSome | hType | hKeeps
        · cases hSome
        · simp [hDefault hType]
        · exact hKeeps

/-- The thresholds of a type, as they are shown and as they are applied to a stored
shipment of that type, whatever else the two runs meet. -/
theorem shown_thresholds_apply_iff (hStored : store.1.shipment shipment.id = some shipment)
    {organizationId id : String} {shipmentType : Option String}
    (hOrganization : ObjectId.cast? organizationId = some shipment.enterpriseId)
    (hId : ObjectId.cast? id = some shipment.id)
    (hType : shipmentTypeOf shipment.offChainMetadata = shipmentType.getD defaultShipmentType)
    {env env' : Nat → Decision × TelemetryDecision} {shown : String × TelemetryThresholds}
    {applied : TelemetryThresholds}
    (hShown : ((getOrgTelemetryThresholdsService organizationId shipmentType).run telemetryWorld
      env store).2.1 = .ok shown)
    (hApplied : ((resolveTelemetryThresholdsForShipment id).run telemetryWorld
      env' store).2.1 = .ok applied) :
    shown.2 = applied ↔
      store.ShownApplies shipment (shipmentType.getD defaultShipmentType) := by
  rw [shown_of_run hOrganization (Prod.ext rfl (Prod.ext hShown rfl)),
    TelemetryStore.ShownApplies]
  cases hDeleted : shipment.deletedAt with
  | none =>
      have hLive : store.1.liveShipment shipment.id = some shipment := by
        rw [Store.liveShipment, hStored]
        simp [hDeleted]
      rw [applied_of_run hId hLive (Prod.ext rfl (Prod.ext hApplied rfl)), hType,
        shownThresholds_eq_applied_iff]
  | some date =>
      have hNotLive : store.1.liveShipment shipment.id = none := by
        rw [Store.liveShipment, hStored]
        simp [hDeleted]
      rw [applied_of_run_deleted hId hNotLive (Prod.ext rfl (Prod.ext hApplied rfl)),
        TelemetryStore.shownThresholds, mergeWithDefaults_eq_none_iff]

/-- A frozen cargo of an organisation that has only a default profile. -/
def sampleFrozenShipment : Shipment :=
  { sampleShipment with
    offChainMetadata := some (.object [("shipmentType", some (.string " FROZEN "))]) }

def sampleThresholdStore : TelemetryStore :=
  ({ shipments := ⟨[sampleFrozenShipment], by decide⟩ },
    { thresholds :=
        [{ maxTemp := some (.ofNat 5), organizationId := sampleFrozenShipment.enterpriseId
           shipmentType := defaultShipmentType }] })

def sampleShownThresholds : TelemetryThresholds :=
  mergeWithDefaults none

def sampleAppliedThresholds : TelemetryThresholds :=
  mergeWithDefaults (some { maxTemp := some (.ofNat 5) })

theorem sampleFrozenShipment_type :
    shipmentTypeOf sampleFrozenShipment.offChainMetadata =
      (some "FROZEN").getD defaultShipmentType := by
  decide +kernel

section Sample

/-- Every service is up. -/
private def answering : Nat → Decision × TelemetryDecision :=
  fun _ => ({}, {})

private theorem sample_shown :
    ((getOrgTelemetryThresholdsService sampleFrozenShipment.enterpriseId.toString
      (some "FROZEN")).run telemetryWorld answering sampleThresholdStore).2.1 =
        .ok ("FROZEN", sampleShownThresholds) := by
  rfl

private theorem sample_applied :
    ((resolveTelemetryThresholdsForShipment sampleFrozenShipment.id.toString).run telemetryWorld
      answering sampleThresholdStore).2.1 = .ok sampleAppliedThresholds := by
  rfl

theorem shown_thresholds_apply_sample : sampleShownThresholds = sampleAppliedThresholds ↔
    sampleThresholdStore.ShownApplies sampleFrozenShipment "FROZEN" :=
  shown_thresholds_apply_iff rfl (ObjectId.cast?_toString _) (ObjectId.cast?_toString _)
    sampleFrozenShipment_type sample_shown sample_applied

/-- The organisation is shown a limit of 25 degrees for its frozen cargo, to which
its own limit of 5 degrees is applied. -/
theorem shown_thresholds_do_not_apply : ¬∀ (store : TelemetryStore) (shipment : Shipment)
    (organizationId id : String) (shipmentType : Option String)
    (env env' : Nat → Decision × TelemetryDecision) (shown : String × TelemetryThresholds)
    (applied : TelemetryThresholds), store.1.shipment shipment.id = some shipment →
    ObjectId.cast? organizationId = some shipment.enterpriseId →
    ObjectId.cast? id = some shipment.id →
    shipmentTypeOf shipment.offChainMetadata = shipmentType.getD defaultShipmentType →
    ((getOrgTelemetryThresholdsService organizationId shipmentType).run telemetryWorld
      env store).2.1 = .ok shown →
    ((resolveTelemetryThresholdsForShipment id).run telemetryWorld env' store).2.1 = .ok applied →
    shown.2 = applied := by
  intro hClaim
  have hSame := hClaim sampleThresholdStore sampleFrozenShipment _ _ (some "FROZEN") answering
    answering _ _ rfl (ObjectId.cast?_toString _) (ObjectId.cast?_toString _)
    sampleFrozenShipment_type sample_shown sample_applied
  exact absurd hSame (by decide)

end Sample

end Agreement

end Navin
