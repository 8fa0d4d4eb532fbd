import Navin.Semantics.Since
import Navin.Shared.Faults
import Navin.Shipments.Routes
import Navin.Telemetry.ThresholdService

/-! How the anomaly thresholds change. An organisation's limits for a type of shipment are a register
that its administrators write; lookups, detections and any other telemetry code run alongside, and any
call may fail or be lost. -/
namespace Navin.Thresholds

open Async Program

/-- The body of an update. A field that is absent clears the limit as null does. -/
structure UpdateTelemetryThresholdsInput where
  shipmentType : Option String := none
  maxTemp : Option (Option JsNumber) := none
  minTemp : Option (Option JsNumber) := none
  maxHumidity : Option (Option JsNumber) := none
  minHumidity : Option (Option JsNumber) := none
  minBatteryLevel : Option (Option JsNumber) := none

def UpdateTelemetryThresholdsInput.limits (input : UpdateTelemetryThresholdsInput) :
    TelemetryThresholds where
  maxTemp := input.maxTemp.join
  minTemp := input.minTemp.join
  maxHumidity := input.maxHumidity.join
  minHumidity := input.minHumidity.join
  minBatteryLevel := input.minBatteryLevel.join

/-- The call besides those of the telemetry code, an upsert. -/
inductive ThresholdCall where
  | findOneAndUpdate (organizationId shipmentType : String) (limits : TelemetryThresholds)

@[reducible] def ThresholdCall.Answer : ThresholdCall → Type
  | .findOneAndUpdate _ _ _ => ThresholdProfile

abbrev LimitCall : Type :=
  (BackendCall ⊕ TelemetryCall) ⊕ ThresholdCall

abbrev LimitAnswer : LimitCall → Type :=
  Sum.elim (Sum.elim BackendCall.Answer TelemetryCall.Answer) ThresholdCall.Answer

abbrev LimitM : Type → Type :=
  Program LimitCall LimitAnswer ThrownError

abbrev ask (call : ThresholdCall) : LimitM call.Answer :=
  Program.await (Sum.inr call : LimitCall)

/-- A program of the telemetry code. -/
abbrev existing {α : Type} (p : TelemetryM α) : LimitM α :=
  p.lift

section Services

def updateOrgTelemetryThresholdsService (organizationId : String)
    (input : UpdateTelemetryThresholdsInput) : LimitM (String × TelemetryThresholds) := do
  let shipmentType := input.shipmentType.getD defaultShipmentType
  let doc ← ask (.findOneAndUpdate organizationId shipmentType input.limits)
  return (shipmentType, mergeWithDefaults (some doc.toTelemetryThresholds))

def organizationRequired : ThrownError :=
  appError 403 "Organization context required" "ERR_PERMISSION_DENIED"

def getTelemetryThresholds (caller : Caller) (shipmentType : Option String) :
    LimitM (String × TelemetryThresholds) :=
  if caller.organizationId = "" then throw organizationRequired
  else existing (getOrgTelemetryThresholdsService caller.organizationId shipmentType)

def putTelemetryThresholds (caller : Caller) (input : UpdateTelemetryThresholdsInput) :
    LimitM (String × TelemetryThresholds) :=
  if caller.organizationId = "" then throw organizationRequired
  else updateOrgTelemetryThresholdsService caller.organizationId input

end Services

/-- The requests, with validated queries and bodies. Detections ask for the limits of a shipment. -/
inductive LimitRequest where
  | get (caller : Caller) (shipmentType : Option String)
  | put (caller : Caller) (input : UpdateTelemetryThresholdsInput)
  | resolve (shipmentId : String)
  | other (p : TelemetryM Unit)

inductive LimitReply where
  | thresholds (shipmentType : String) (thresholds : TelemetryThresholds)
  | applied (thresholds : TelemetryThresholds)
  | done

def requireRole (roles : List UserRole) (caller : Caller) (handler : LimitM LimitReply) :
    LimitM LimitReply :=
  if caller.role ∈ roles then handler
  else throw (appError 403 "Forbidden: insufficient role" "ERR_PERMISSION_DENIED")

def LimitRequest.program : LimitRequest → LimitM LimitReply
  | .get caller shipmentType =>
      requireRole [.superAdmin, .admin, .manager, .viewer] caller do
        let (shipmentType, thresholds) ← getTelemetryThresholds caller shipmentType
        return .thresholds shipmentType thresholds
  | .put caller input =>
      requireRole [.superAdmin, .admin] caller do
        let (shipmentType, thresholds) ← putTelemetryThresholds caller input
        return .thresholds shipmentType thresholds
  | .resolve shipmentId => do
      let thresholds ← existing (resolveTelemetryThresholdsForShipment shipmentId)
      return .applied thresholds
  | .other p => do
      existing p
      return .done

section World

/-- The document of an organisation and a type. The index of the two is unique. -/
def isOf (organizationId : ObjectId) (shipmentType : String) (profile : ThresholdProfile) : Bool :=
  profile.organizationId = organizationId && profile.shipmentType = shipmentType

def upsertProfile (profiles : List ThresholdProfile) (profile : ThresholdProfile) :
    List ThresholdProfile :=
  if profiles.any (isOf profile.organizationId profile.shipmentType) then
    profiles.map fun other =>
      if isOf profile.organizationId profile.shipmentType other then profile else other
  else profiles ++ [profile]

/-- What the world decides at a call. Of two updates that both insert, the index refuses one. -/
structure LimitDecision where
  existing : Decision × TelemetryDecision
  fault : Option Fault := none

def executeLimits (store : TelemetryStore) :
    (call : ThresholdCall) → TelemetryStore × Except ThrownError call.Answer
  | .findOneAndUpdate organizationId shipmentType limits =>
      castingId store organizationId fun organizationId =>
        let profile : ThresholdProfile := { limits with organizationId, shipmentType }
        ((store.1, { store.2 with thresholds := upsertProfile store.2.thresholds profile }),
          .ok profile)

abbrev limitWorld : World LimitCall LimitAnswer ThrownError where
  Store := TelemetryStore
  Env := LimitDecision
  perform decision store
    | .inl call => telemetryWorld.perform decision.existing store call
    | .inr call => faultedBy decision.fault store (executeLimits store call)

end World

/-- Any number of requests, none of which has begun. -/
def limitPool {ι : Type} (store : TelemetryStore) (requests : ι → LimitRequest) :
    Pool limitWorld ι LimitReply :=
  ⟨store, fun i => (requests i).program⟩

/-! The stored limits as registers, one for each organisation and type. -/
section Registers

variable {organization : ObjectId} {shipmentType : String} {profiles : List ThresholdProfile}

variable (organization shipmentType) in
/-- Replacing the document of a key keeps every document's key. -/
theorem isOf_replaced (profile other : ThresholdProfile) :
    isOf organization shipmentType
        (if isOf profile.organizationId profile.shipmentType other then profile else other) =
      isOf organization shipmentType other := by
  split
  · rename_i hSame
    simp only [isOf, Bool.and_eq_true, decide_eq_true_eq] at hSame
    simp only [isOf, hSame.1, hSame.2]
  · rfl

variable (profiles organization shipmentType) in
/-- What is found after an upsert. -/
theorem find?_upsertProfile (profile : ThresholdProfile) :
    (upsertProfile profiles profile).find? (isOf organization shipmentType) =
      if isOf organization shipmentType profile then some profile
      else profiles.find? (isOf organization shipmentType) := by
  unfold upsertProfile
  split
  · rename_i hAny
    rw [List.find?_map, show isOf organization shipmentType ∘ _ = isOf organization shipmentType from
      funext (isOf_replaced organization shipmentType profile)]
    split
    · rename_i hIs
      simp only [isOf, Bool.and_eq_true, decide_eq_true_eq] at hIs
      obtain ⟨rfl, rfl⟩ := hIs
      obtain ⟨found, hFound⟩ := Option.isSome_iff_exists.mp (List.find?_isSome.mpr
        (List.any_eq_true.mp hAny))
      rw [hFound, Option.map_some, if_pos (List.find?_some hFound)]
    · rename_i hOther
      cases hFound : profiles.find? (isOf organization shipmentType) with
      | none => rfl
      | some found =>
          have hKey := List.find?_some hFound
          rw [Option.map_some, if_neg]
          intro hSame
          apply hOther
          simp only [isOf, Bool.and_eq_true, decide_eq_true_eq] at hKey hSame ⊢
          exact ⟨hSame.1.symm.trans hKey.1, hSame.2.symm.trans hKey.2⟩
  · rename_i hNone
    rw [List.find?_append]
    split
    · rename_i hIs
      simp only [isOf, Bool.and_eq_true, decide_eq_true_eq] at hIs
      obtain ⟨rfl, rfl⟩ := hIs
      rw [List.find?_eq_none.mpr (by simpa using hNone), Option.none_or]
      simp [isOf]
    · rename_i hOther
      simp [hOther]

def profileKey (profile : ThresholdProfile) : ObjectId × String :=
  (profile.organizationId, profile.shipmentType)

/-- No two documents have the same organisation and type. -/
def OneEach (profiles : List ThresholdProfile) : Prop :=
  (profiles.map profileKey).Nodup

theorem OneEach.upsert (h : OneEach profiles) (profile : ThresholdProfile) :
    OneEach (upsertProfile profiles profile) := by
  unfold upsertProfile
  split
  · have hKeys : profileKey ∘ (fun other =>
        if isOf profile.organizationId profile.shipmentType other then profile else other) =
          profileKey := by
      funext other
      simp only [Function.comp_apply]
      split
      · rename_i hSame
        simp only [isOf, Bool.and_eq_true, decide_eq_true_eq] at hSame
        simp only [profileKey, hSame.1, hSame.2]
      · rfl
    rw [OneEach, List.map_map, hKeys]
    exact h
  · rename_i hNone
    rw [OneEach, List.map_append]
    refine h.append (List.nodup_singleton _) fun key hKey hNew => hNone ?_
    obtain ⟨other, hMem, rfl⟩ := List.mem_map.mp hKey
    simp only [List.map_cons, List.map_nil, List.mem_singleton, profileKey, Prod.mk.injEq] at hNew
    refine List.any_eq_true.mpr ⟨other, hMem, ?_⟩
    simp only [isOf, hNew.1, hNew.2, decide_true, Bool.and_self]

/-- What a call writes to the limits of an organisation and a type. -/
def setsLimits (organization : ObjectId) (shipmentType : String) :
    LimitCall → Option (Option TelemetryThresholds)
  | .inr (.findOneAndUpdate organizationId type limits) =>
      if ObjectId.cast? organizationId = some organization ∧ type = shipmentType then
        some (some limits)
      else none
  | _ => none

/-- What the limits of an organisation and a type may be after a history. -/
abbrev MayHold {ι : Type} (start : TelemetryStore) (organization : ObjectId) (shipmentType : String)
    (history : List (Event LimitCall LimitAnswer ThrownError ι)) :
    Option TelemetryThresholds → Prop :=
  LastWrite (setsLimits organization shipmentType) (start.profile organization shipmentType) history

variable (store : TelemetryStore) (organization shipmentType)

/-- The telemetry code does not write limits. -/
theorem thresholds_executeTelemetry (decision : TelemetryDecision) (call : TelemetryCall) :
    (executeTelemetry decision store call).1.2.thresholds = store.2.thresholds := by
  cases call with
  | telemetryFindByIdAndUpdate id update =>
      simp only [executeTelemetry, castingId]
      split
      · rfl
      · split <;> rfl
  | apiKeyFind _ | thresholdFindOne _ _ =>
      simp only [executeTelemetry, castingId]
      split <;> rfl
  | apiKeyRevoke _ =>
      simp only [executeTelemetry, castingId]
      split
      · rfl
      · split <;> rfl
  | telemetryCreate _ =>
      simp only [executeTelemetry, castingId]
      split
      · rfl
      · split <;> rfl
  | anomalyCreate _ | anchorEvent _ _ =>
      simp only [executeTelemetry]
      split <;> rfl
  | _ => rfl

theorem thresholds_telemetryWorld (decision : Decision × TelemetryDecision)
    (call : BackendCall ⊕ TelemetryCall) :
    (telemetryWorld.perform decision store call).1.2.thresholds = store.2.thresholds := by
  cases call with
  | inl call => rfl
  | inr call =>
      rcases performTelemetry_cases decision.2 store call with hSame | hEffect
      · exact congrArg (fun after : TelemetryStore => after.2.thresholds) hSame
      · exact (congrArg (fun after : TelemetryStore => after.2.thresholds) hEffect).trans
          (thresholds_executeTelemetry store decision.2 call)

theorem profile_eq : store.profile organization shipmentType =
    (store.2.thresholds.find? (isOf organization shipmentType)).map (·.toTelemetryThresholds) :=
  rfl

/-- What an update does to the limits of an organisation and a type. -/
theorem profile_executeLimits (call : ThresholdCall) :
    setsLimits organization shipmentType (.inr call) =
        some ((executeLimits store call).1.profile organization shipmentType) ∨
      (executeLimits store call).1.profile organization shipmentType =
          store.profile organization shipmentType ∧
        setsLimits organization shipmentType (.inr call) = none := by
  obtain ⟨organizationId, type, limits⟩ := call
  simp only [executeLimits, castingId, setsLimits]
  cases hCast : ObjectId.cast? organizationId with
  | none => simp
  | some found =>
      simp only [profile_eq, find?_upsertProfile]
      by_cases hKey : found = organization ∧ type = shipmentType
      · obtain ⟨rfl, rfl⟩ := hKey
        simp [isOf]
      · simp [isOf, hKey]

theorem profile_perform (decision : LimitDecision) (call : LimitCall) :
    setsLimits organization shipmentType call =
        some (TelemetryStore.profile (limitWorld.perform decision store call).1 organization
          shipmentType) ∨
      TelemetryStore.profile (limitWorld.perform decision store call).1 organization shipmentType =
          store.profile organization shipmentType ∧
        (setsLimits organization shipmentType call = none ∨
          ∃ error, (limitWorld.perform decision store call).2 = .error error) := by
  cases call with
  | inl call =>
      refine .inr ⟨?_, .inl rfl⟩
      simp only [profile_eq]
      rw [thresholds_telemetryWorld]
  | inr call =>
      rcases @faultedBy_cases _ _ decision.fault store (executeLimits store call) with hEffect |
        ⟨hError, hSame⟩
      · have hProfile := congrArg (TelemetryStore.profile · organization shipmentType) hEffect
        rcases profile_executeLimits organization shipmentType store call with hWritten |
          ⟨hKept, hNone⟩
        · exact .inl (hWritten.trans (congrArg some hProfile.symm))
        · exact .inr ⟨hProfile.trans hKept, .inl hNone⟩
      · exact .inr ⟨congrArg (TelemetryStore.profile · organization shipmentType) hSame,
          .inr hError⟩

variable {store} in
theorem oneEach_perform (decision : LimitDecision) (call : LimitCall)
    (h : OneEach store.2.thresholds) :
    OneEach (limitWorld.perform decision store call).1.2.thresholds := by
  cases call with
  | inl call =>
      rw [thresholds_telemetryWorld]
      exact h
  | inr call =>
      refine @faultedBy_invariant _ _ _ _ _ (fun after : TelemetryStore => OneEach after.2.thresholds) h ?_
      obtain ⟨organizationId, type, limits⟩ := call
      simp only [executeLimits, castingId]
      split
      · exact h
      · exact h.upsert _

end Registers

end Navin.Thresholds
