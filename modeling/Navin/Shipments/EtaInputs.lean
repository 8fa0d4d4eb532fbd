import Navin.Semantics.WeakestPreconditions
import Navin.Shipments.QueryService
import Navin.Telemetry.Effects

/-! What an arrival estimate is computed from, and which calls can change it. An
operation that writes one shipment and its telemetry leaves the inputs of every other
estimate alone. -/
namespace Navin

open Async

/-- What an estimate is computed from, apart from the clock: status and destination of
the shipment, as far as there is one, and its telemetry. -/
def Store.etaInputs (store : Store) (id : ObjectId) :
    Option (ShipmentStatus × Option Coordinates) × List TelemetryRow :=
  ((store.liveShipment id).map fun shipment =>
      (shipment.status, resolveDestinationCoordinates shipment.offChainMetadata),
    store.telemetry.filter fun row => row.shipmentId = id && row.deletedAt.isNone)

/-- No estimate is stored, and only the inputs of the named shipments may differ. -/
structure Touched (keys : ObjectId → Prop) (before after : Store) : Prop where
  entries : ∀ entry ∈ after.etaCache, entry ∈ before.etaCache
  inputs : ∀ id, ¬keys id → after.etaInputs id = before.etaInputs id

/-- No estimate is stored, and those that stay have the inputs they had. -/
structure EtasKept (before after : Store) : Prop where
  entries : ∀ entry ∈ after.etaCache, entry ∈ before.etaCache
  inputs : ∀ entry ∈ after.etaCache, ∀ id, ObjectId.cast? entry.1 = some id →
    after.etaInputs id = before.etaInputs id

section Relations

variable {keys : ObjectId → Prop} {before middle after : Store}

theorem Touched.refl (store : Store) : Touched keys store store :=
  ⟨fun _ h => h, fun _ _ => rfl⟩

theorem Touched.trans (h : Touched keys before middle) (h' : Touched keys middle after) :
    Touched keys before after where
  entries entry hEntry := h.entries entry (h'.entries entry hEntry)
  inputs id hId := (h'.inputs id hId).trans (h.inputs id hId)

theorem EtasKept.refl (store : Store) : EtasKept store store :=
  ⟨fun _ h => h, fun _ _ _ _ => rfl⟩

theorem EtasKept.trans (h : EtasKept before middle) (h' : EtasKept middle after) :
    EtasKept before after where
  entries entry hEntry := h.entries entry (h'.entries entry hEntry)
  inputs entry hEntry id hId := (h'.inputs entry hEntry id hId).trans
    (h.inputs entry (h'.entries entry hEntry) id hId)

/-- It is enough that no estimate of the named shipments stays. -/
theorem Touched.etasKept (h : Touched keys before after)
    (hNone : ∀ entry ∈ after.etaCache, ∀ id, ObjectId.cast? entry.1 = some id → ¬keys id) :
    EtasKept before after where
  entries := h.entries
  inputs entry hEntry id hId := h.inputs id (hNone entry hEntry id hId)

theorem Touched.etasKept_of_before (h : Touched keys before after)
    (hNone : ∀ entry ∈ before.etaCache, ∀ id, ObjectId.cast? entry.1 = some id → ¬keys id) :
    EtasKept before after :=
  h.etasKept fun entry hEntry => hNone entry (h.entries entry hEntry)

end Relations

namespace BackendCall

/-- The calls that change the inputs of the named shipments at most, and store no
estimate. -/
def confined (keys : ObjectId → Prop) : BackendCall → Prop
  | .shipmentInsert _ | .writeShipmentEtaCache _ _ => False
  | .shipmentSave id _ => keys id
  | .shipmentFindByIdAndUpdate text _ | .telemetryDelete text _ =>
      ∀ id, ObjectId.cast? text = some id → keys id
  | _ => True

theorem confined_of_aside {keys : ObjectId → Prop} {call : BackendCall} (h : call.aside = true) :
    call.confined keys := by
  cases call <;> trivial

end BackendCall

section Calls

variable {decision : Decision} {store : Store} {call : BackendCall} {keys : ObjectId → Prop}

theorem mem_etaCache_of_execute {entry : String × EtaPayload}
    (h : entry ∈ (execute decision store call).1.etaCache) :
    entry ∈ store.etaCache ∨ call = .writeShipmentEtaCache entry.1 entry.2 := by
  cases call with
  | writeShipmentEtaCache text payload =>
      rcases List.mem_cons.mp h with rfl | hOld
      · exact .inr rfl
      · exact .inl hOld
  | invalidateShipmentEtaCache text => exact .inl (List.mem_of_mem_filter h)
  | _ =>
      left
      simp only [execute, castingId, Store.submit] at h
      repeat' split at h
      all_goals exact h

/-- Where a stored estimate comes from. -/
theorem mem_etaCache_of_perform {entry : String × EtaPayload}
    (h : entry ∈ (perform decision store call).1.etaCache) :
    entry ∈ store.etaCache ∨ call = .writeShipmentEtaCache entry.1 entry.2 := by
  rcases perform_store decision store call with hStore | hStore
  · rw [hStore] at h
    exact .inl h
  · rw [hStore] at h
    exact mem_etaCache_of_execute h

theorem etaInputs_congr {before after : Store} (hShipments : after.shipments = before.shipments)
    (hTelemetry : after.telemetry = before.telemetry) (id : ObjectId) :
    after.etaInputs id = before.etaInputs id := by
  simp only [Store.etaInputs, Store.liveShipment, Store.shipment, hShipments, hTelemetry]

theorem etaInputs_modifyShipment {id key : ObjectId} (hNe : id ≠ key) {f : Shipment → Shipment}
    (hId : ∀ shipment, (f shipment).id = shipment.id) :
    (store.modifyShipment key f hId).etaInputs id = store.etaInputs id := by
  have hLive : (store.modifyShipment key f hId).liveShipment id = store.liveShipment id := by
    rw [Store.liveShipment, Store.liveShipment, Store.shipment, Store.modifyShipment,
      Collection.get?_modify_of_ne _ hId hNe, Store.shipment]
  rw [Store.etaInputs, Store.etaInputs, hLive]
  rfl

/-- Marking the rows of one shipment leaves the rows of another. -/
theorem filter_rows_map {id key : ObjectId} (hNe : id ≠ key) (date : Date)
    (rows : List TelemetryRow) :
    (rows.map fun row => if row.shipmentId = key then { row with deletedAt := some date }
        else row).filter (fun row => row.shipmentId = id && row.deletedAt.isNone) =
      rows.filter fun row => row.shipmentId = id && row.deletedAt.isNone := by
  induction rows with
  | nil => rfl
  | cons row rest ih =>
      rw [List.map_cons, List.filter_cons, List.filter_cons, ih]
      by_cases hKey : row.shipmentId = key
      · have hOther : row.shipmentId ≠ id := fun hEq => hNe (hEq.symm.trans hKey)
        simp [hKey, hNe.symm]
      · rw [if_neg hKey]

theorem etaInputs_execute (h : call.confined keys) {id : ObjectId} (hId : ¬keys id) :
    (execute decision store call).1.etaInputs id = store.etaInputs id := by
  cases call with
  | shipmentInsert build => exact h.elim
  | shipmentSave key changes =>
      simp only [execute]
      have hNe : id ≠ key := fun hEq => hId (hEq.symm ▸ h)
      split
      · rfl
      · exact etaInputs_modifyShipment hNe _
  | shipmentFindByIdAndUpdate text update =>
      simp only [execute, castingId]
      split
      · rfl
      · rename_i key hKey
        have hNe : id ≠ key := fun hEq => hId (hEq.symm ▸ h key hKey)
        split
        · rfl
        · exact etaInputs_modifyShipment hNe _
  | telemetryDelete text date =>
      simp only [execute, castingId]
      split
      · rfl
      · rename_i key hKey
        have hNe : id ≠ key := fun hEq => hId (hEq.symm ▸ h key hKey)
        exact congrArg (Prod.mk _) (filter_rows_map hNe date _)
  | _ => exact etaInputs_congr (execute_shipments rfl) (execute_telemetry rfl) id

/-- A confined call touches the named shipments at most, even if its answer is lost. -/
theorem touched_perform (h : call.confined keys) :
    Touched keys store (perform decision store call).1 where
  entries entry hEntry := by
    rcases mem_etaCache_of_perform hEntry with hOld | rfl
    · exact hOld
    · exact h.elim
  inputs id hId := by
    rcases perform_store decision store call with hStore | hStore
    · rw [hStore]
    · rw [hStore, etaInputs_execute h hId]

/-- A backend program that makes confined calls only. -/
abbrev Confined (keys : ObjectId → Prop) (α : Type) (p : BackendM α) : Prop :=
  p.Uses (BackendCall.confined keys)

theorem confined_compositional : Program.Compositional (Confined keys) :=
  Program.Uses.compositional _

theorem confined_request (h : call.confined keys) : Confined keys _ (request call) :=
  .await h

theorem Confined.touched_wp {α : Type} {p : BackendM α} (h : Confined keys α p)
    (R : Step backend → Prop) {before : Store} (hBefore : Touched keys before store) :
    p.wp R (fun _ after => Touched keys before after) store :=
  h.wp _ (fun _ hCall _ hKept => hKept.trans (touched_perform hCall)) hBefore

end Calls

end Navin
