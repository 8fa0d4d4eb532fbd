import Navin.Semantics.Protocol
import Navin.Telemetry.Effects
import Navin.Telemetry.Service

/-! The worker that anchors telemetry records. A job is attempted again when an
attempt fails, and may be delivered again while an attempt is under way. -/
namespace Navin

open Async

/-- The texts of the errors that the application did not make. -/
class ErrorTexts where
  message : ThrownError → String

def ThrownError.message [ErrorTexts] : ThrownError → String
  | .app error => error.message
  | error => ErrorTexts.message error

section Worker

variable [ErrorTexts]

/-- One attempt at a job. The handler also answers for the update of the record. -/
def processStellarAnchor (job : AnchorTelemetryJob) : TelemetryM String :=
  tryCatch
    (do let stellarTxHash ← call (.anchorEvent job.shipmentId job.dataHash)
        let _ ← updateTelemetryAnchor job.telemetryId stellarTxHash
        return stellarTxHash)
    fun error => do
      let _ ← markTelemetryAnchorFailed job.telemetryId error.message
      throw error

/-- The attempts at a job, in whatever order they make their calls. -/
def anchorPool {ι : Type} (store : TelemetryStore) (job : AnchorTelemetryJob) :
    Pool telemetryWorld ι String where
  store := store
  thread _ := processStellarAnchor job

/-- The calls of an attempt. -/
def anchorsTelemetry : BackendCall ⊕ TelemetryCall → Bool
  | .inl request => request.incidental
  | .inr (.anchorEvent _ _) => true
  | .inr (.telemetryFindByIdAndUpdate _ _) => true
  | .inr _ => false

/-- A program that makes no other calls. -/
abbrev AnchorsTelemetry (α : Type) (p : TelemetryM α) : Prop :=
  p.Uses fun request => anchorsTelemetry request = true

omit [ErrorTexts] in
theorem anchorsTelemetry_request {backendCall : BackendCall} (h : backendCall.incidental = true) :
    AnchorsTelemetry _ (backendProgram (request backendCall)) := by
  rw [backendProgram, request, Program.lift_await]
  exact Program.Uses.await h

theorem processStellarAnchor_uses (job : AnchorTelemetryJob) :
    AnchorsTelemetry _ (processStellarAnchor job) := by
  have hT : Program.Compositional AnchorsTelemetry := Program.Uses.compositional _
  have hUpdate (update : TelemetryUpdate) :
      AnchorsTelemetry _ (call (.telemetryFindByIdAndUpdate job.telemetryId update)) :=
    Program.Uses.await rfl
  apply hT.tryCatch
  · apply hT.bind (Program.Uses.await rfl)
    intro stellarTxHash
    refine hT.bind (hT.bind (hUpdate _) fun updated => ?_) fun _ => hT.pure _
    split
    · apply hT.bind (anchorsTelemetry_request rfl)
      intro now
      exact hT.bind (anchorsTelemetry_request rfl) fun _ => hT.pure _
    · exact hT.pure _
  · intro error
    exact hT.bind (hUpdate _) fun _ => hT.throw _

end Worker

/-- An anchored record has its transaction and no error, and one that could not be
anchored has no transaction. -/
structure AnchorConsistent (telemetry : Telemetry) : Prop where
  anchored : telemetry.anchorStatus = .anchored →
    telemetry.stellarTxHash.isSome ∧ telemetry.anchorError = none
  failed : telemetry.anchorStatus = .anchorFailed → telemetry.stellarTxHash = none

/-- The update leaves nothing behind that contradicts it: success finds no error
recorded, and failure finds no transaction recorded. -/
def TelemetryUpdate.keepsAnchor : TelemetryUpdate → Telemetry → Bool
  | .anchored _, telemetry => telemetry.anchorError.isNone
  | .anchorFailed _, telemetry => telemetry.stellarTxHash.isNone
  | .anomaly _, _ => true

section Updates

variable {telemetry : Telemetry}

/-- Exactly such updates keep a record consistent. -/
theorem anchorConsistent_apply_iff (h : AnchorConsistent telemetry) (update : TelemetryUpdate) :
    AnchorConsistent (update.apply telemetry) ↔ update.keepsAnchor telemetry = true := by
  cases update with
  | anchored stellarTxHash =>
      rw [TelemetryUpdate.keepsAnchor, Option.isNone_iff_eq_none]
      exact ⟨fun hAfter => (hAfter.anchored rfl).2, fun hError => ⟨fun _ => ⟨rfl, hError⟩, nofun⟩⟩
  | anchorFailed anchorError =>
      rw [TelemetryUpdate.keepsAnchor, Option.isNone_iff_eq_none]
      exact ⟨fun hAfter => hAfter.failed rfl, fun hHash => ⟨nofun, fun _ => hHash⟩⟩
  | anomaly anomalyType =>
      exact ⟨fun _ => rfl, fun _ => ⟨h.anchored, h.failed⟩⟩

theorem stellarTxHash_apply (update : TelemetryUpdate) (h : telemetry.stellarTxHash.isSome) :
    (update.apply telemetry).stellarTxHash.isSome := by
  cases update with
  | anchored stellarTxHash => rfl
  | anchorFailed anchorError => exact h
  | anomaly anomalyType => exact h

end Updates

section Runs

variable {ι : Type} [DecidableEq ι] {id : ObjectId}

/-- The request writes nothing to the record that contradicts what it holds. -/
def keepsAnchorOf (id : ObjectId) (store : TelemetryStore) :
    BackendCall ⊕ TelemetryCall → Bool
  | .inr (.telemetryFindByIdAndUpdate text update) =>
      ObjectId.cast? text ≠ some id || (store.telemetryRecord id).all update.keepsAnchor
  | _ => true

/-- Attempts succeed only on a record without an error, and fail only on one without
a transaction. -/
def keepsAnchors (id : ObjectId) : Guard telemetryWorld ι :=
  fun _ store _ request => keepsAnchorOf id store request = true

/-- What an anchoring call does to a record. -/
theorem telemetryRecord_of_perform (env : Decision × TelemetryDecision) (store : TelemetryStore)
    {request : BackendCall ⊕ TelemetryCall} (hCall : anchorsTelemetry request = true) :
    let after : TelemetryStore := (telemetryWorld.perform env store request).1
    after.telemetryRecord id = store.telemetryRecord id ∨
      ∃ text update, request = .inr (.telemetryFindByIdAndUpdate text update) ∧
        ObjectId.cast? text = some id ∧
        after.telemetryRecord id = (store.telemetryRecord id).map update.apply := by
  intro after
  cases request with
  | inl backendCall =>
      have hQuiet : backendCall.writesTelemetry = false := by
        cases backendCall <;> first | rfl | cases hCall
      exact .inl (TelemetryStore.telemetryRecord_congr (perform_telemetry hQuiet) rfl)
  | inr request =>
      have hAfter : after = (performTelemetry env.2 store request).1 := rfl
      rcases performTelemetry_cases env.2 store request with hKept | hDone
      · rw [hAfter, hKept]
        exact .inl rfl
      · rw [hAfter, hDone]
        cases request with
        | anchorEvent shipmentId dataHash =>
            rw [executeTelemetry]
            split <;> exact .inl rfl
        | telemetryFindByIdAndUpdate text update =>
            simp only [executeTelemetry, castingId]
            cases hCast : ObjectId.cast? text with
            | none => exact .inl rfl
            | some key =>
                dsimp only
                split
                · exact .inl rfl
                · rw [TelemetryStore.telemetryRecord_updateTelemetry]
                  by_cases hKey : id = key
                  · subst hKey
                    exact .inr ⟨text, update, rfl, hCast, by simp⟩
                  · exact .inl (by simp [hKey])
        | _ => cases hCall

/-- Along guarded attempts a consistent record stays consistent, and one that has a
transaction keeps one. -/
theorem anchorConsistent_of_steps {before after : Point telemetryWorld ι String}
    {telemetry : Telemetry} (steps : GuardedSteps (keepsAnchors id) before after)
    (hThreads : ∀ i, AnchorsTelemetry _ (before.2.thread i))
    (hRecord : TelemetryStore.telemetryRecord before.2.store id = some telemetry)
    (hConsistent : AnchorConsistent telemetry) :
    (∀ i, AnchorsTelemetry _ (after.2.thread i)) ∧ ∃ later,
      TelemetryStore.telemetryRecord after.2.store id = some later ∧ AnchorConsistent later ∧
        (telemetry.stellarTxHash.isSome → later.stellarTxHash.isSome) := by
  apply steps.invariant_of_uses hThreads
    (fun store : TelemetryStore => ∃ later, store.telemetryRecord id = some later ∧
      AnchorConsistent later ∧ (telemetry.stellarTxHash.isSome → later.stellarTxHash.isSome))
    ⟨telemetry, hRecord, hConsistent, fun h => h⟩
  intro history store env i request hInv hCall hGuard
  obtain ⟨later, hLater, hKept, hHash⟩ := hInv
  rcases telemetryRecord_of_perform env store hCall with hSame | ⟨text, update, rfl, hCast, hNext⟩
  · exact ⟨later, hSame.trans hLater, hKept, hHash⟩
  · have hKeeps : update.keepsAnchor later = true := by
      have hAllowed : keepsAnchorOf id store _ = true := hGuard
      simpa [keepsAnchorOf, hCast, hLater] using hAllowed
    refine ⟨update.apply later, ?_, (anchorConsistent_apply_iff hKept update).mpr hKeeps,
      fun h => stellarTxHash_apply update (hHash h)⟩
    rw [hNext, hLater, Option.map_some]

/-- The record as a run has left it, and as it may be left yet. -/
def AnchorRecordHolds (guard : Guard telemetryWorld ι) (id : ObjectId)
    (point : Point telemetryWorld ι String) : Prop :=
  ∃ telemetry, TelemetryStore.telemetryRecord point.2.store id = some telemetry ∧
    AnchorConsistent telemetry ∧
      (telemetry.anchorStatus = .anchored → ∀ after, GuardedSteps guard point after →
        ∀ later, TelemetryStore.telemetryRecord after.2.store id = some later →
          later.anchorStatus ≠ .anchorFailed)

/-- In every run in which success finds no error recorded and failure finds no
transaction recorded, whatever fails and however the attempts overlap. -/
theorem anchorRecordHolds_of_keepsAnchors [ErrorTexts] {store : TelemetryStore}
    {job : AnchorTelemetryJob} {first : Telemetry}
    (hRecord : store.telemetryRecord id = some first) (hFirst : AnchorConsistent first)
    {point : Point telemetryWorld ι String}
    (run : GuardedRun (keepsAnchors id) (anchorPool store job) point) :
    AnchorRecordHolds (keepsAnchors id) id point := by
  obtain ⟨hThreads, telemetry, hReached, hConsistent, -⟩ :=
    anchorConsistent_of_steps run (fun _ => processStellarAnchor_uses job) hRecord hFirst
  refine ⟨telemetry, hReached, hConsistent, fun hAnchored after steps later hLater hFailed => ?_⟩
  obtain ⟨-, found, hFound, hKept, hHash⟩ :=
    anchorConsistent_of_steps steps hThreads hReached hConsistent
  obtain rfl : found = later := Option.some.inj (hFound.symm.trans hLater)
  have hSome := hHash (hConsistent.anchored hAnchored).1
  rw [hKept.failed hFailed] at hSome
  cases hSome

instance (history : List (TelemetryEvent ι)) (store : TelemetryStore) (i : ι)
    (request : BackendCall ⊕ TelemetryCall) : Decidable (keepsAnchors id history store i request) :=
  inferInstanceAs (Decidable (keepsAnchorOf id store request = true))

end Runs

section Sample

@[reducible] def plainErrorTexts : ErrorTexts :=
  ⟨fun _ => "unavailable"⟩

def sampleTelemetryInput : TelemetryInput where
  sensorId := none
  shipmentId := sampleShipment.id.toString
  temperature := .ofNat 5
  humidity := .ofNat 50
  latitude := .finite (.ofNat 10)
  longitude := .finite (.ofNat 20)
  batteryLevel := .ofNat 90
  timestamp := ⟨0⟩
  dataHash := "hash"
  rawPayload := .null

/-- A record that waits to be anchored. -/
def sampleTelemetry : Telemetry :=
  sampleTelemetryInput.telemetry (.repeated 1) sampleShipment.id

def sampleAnchorJob : AnchorTelemetryJob where
  telemetryId := sampleTelemetry.id.toString
  shipmentId := sampleShipment.id.toString
  dataHash := "hash"

def sampleAnchorPool : Pool telemetryWorld (Fin 2) String :=
  @anchorPool plainErrorTexts (Fin 2) (TelemetryStore.insertTelemetry ({}, {}) sampleTelemetry)
    sampleAnchorJob

private def anchoring : Decision × TelemetryDecision :=
  ({}, { txHash := "tx" })

private def refusing : Decision × TelemetryDecision :=
  ({}, { fault := some (.rejected .unavailable) })

/-- The first attempt is refused by the chain, the second one succeeds. -/
private def retried : List (telemetryWorld.Env × Fin 2) :=
  [(refusing, 0), (anchoring, 0), (anchoring, 1), (anchoring, 1)]

/-- The record's status, and whether an error is noted. -/
private def recorded (point : Point telemetryWorld (Fin 2) String) :
    Option (TelemetryAnchorStatus × Bool) :=
  (TelemetryStore.telemetryRecord point.2.store sampleTelemetry.id).map fun telemetry =>
    (telemetry.anchorStatus, telemetry.anchorError.isSome)

/-- One attempt on its own. -/
theorem anchorRecordHolds_sample : ∃ point : Point telemetryWorld (Fin 2) String,
    GuardedRun (keepsAnchors sampleTelemetry.id) sampleAnchorPool point ∧
      recorded point = some (.anchored, false) ∧
      AnchorRecordHolds (keepsAnchors sampleTelemetry.id) sampleTelemetry.id point := by
  obtain ⟨point, run, hTest⟩ := Pool.exists_run (keepsAnchors sampleTelemetry.id)
    sampleAnchorPool (fun point => recorded point = some (.anchored, false))
    [(anchoring, 0), (anchoring, 0)] (by decide +kernel)
  exact ⟨point, run, of_decide_eq_true hTest, @anchorRecordHolds_of_keepsAnchors (Fin 2) _
    sampleTelemetry.id plainErrorTexts _ sampleAnchorJob sampleTelemetry rfl ⟨nofun, nofun⟩ point
    run⟩

/-- The error of an earlier attempt stays in the anchored record. -/
theorem anchored_record_keeps_error : ¬∀ (_ : ErrorTexts) (store : TelemetryStore)
    (job : AnchorTelemetryJob) (id : ObjectId) (first : Telemetry)
    (point : Point telemetryWorld (Fin 2) String),
    ObjectId.cast? job.telemetryId = some id →
    store.telemetryRecord id = some first → first.anchorStatus = .pendingAnchor →
    GuardedRun anyStep (anchorPool store job) point → AnchorRecordHolds anyStep id point := by
  intro hClaim
  obtain ⟨point, run, hTest⟩ := Pool.exists_run anyStep sampleAnchorPool
    (fun point => recorded point = some (.anchored, true)) retried (by decide +kernel)
  obtain ⟨telemetry, hFound, hConsistent, -⟩ := hClaim plainErrorTexts _ sampleAnchorJob
    sampleTelemetry.id sampleTelemetry point (ObjectId.cast?_toString _) rfl rfl run
  have hRecorded := of_decide_eq_true hTest
  rw [recorded, hFound, Option.map_some, Option.some.injEq, Prod.mk.injEq] at hRecorded
  have hError := (hConsistent.anchored hRecorded.1).2
  rw [hError] at hRecorded
  cases hRecorded.2

end Sample

end Navin
