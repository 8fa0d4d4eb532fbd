import Navin.Backend.Effects
import Navin.Semantics.TwoRuns
import Navin.Shipments.Routes

/-! What the operations that compare no organisations do to a shipment between
two other organisations. -/
namespace Navin

open Async

/-- An organisation other than `organizationId`. -/
def outsider (organizationId : String) : ObjectId :=
  if (ObjectId.repeated 0).toString = organizationId then .repeated 1 else .repeated 0

/-- The sample shipment under another id, between outsiders. -/
def outsideShipment (organizationId : String) (id : ObjectId) : Shipment :=
  { sampleShipment with
    id, enterpriseId := outsider organizationId, logisticsId := outsider organizationId }

/-- A store with a single shipment. -/
def holding (shipment : Shipment) : Store :=
  { shipments := ⟨[shipment], by simp⟩ }

/-- Nothing fails, and the clock stands one millisecond after the sample
shipment was last written. -/
abbrev steady : Nat → Decision :=
  fun _ => { now := ⟨1⟩ }

/-- All shipments were last written at the steady time. -/
def Rewritten (shipments : Collection Shipment.id) : Prop :=
  ∀ shipment ∈ shipments.docs, shipment.updatedAt = ⟨1⟩

variable {organizationId id : String} {key : ObjectId} {α β : Type}

theorem ownedBy_outsideShipment (organizationId : String) (key : ObjectId) :
    ownedBy (outsideShipment organizationId key) organizationId = false := by
  have hOutside : (outsider organizationId).toString ≠ organizationId := by
    unfold outsider
    split
    · rename_i h
      rw [← h]
      exact ObjectId.toString_injective.ne (by decide)
    · assumption
  simp [ownedBy, outsideShipment, hOutside]

/-- What comes after a rewriting call and ignores shipments changes nothing. -/
theorem rewritten_bind {p : BackendM α} {f : α → BackendM β} {store : Store}
    (h : Rewritten (p.run backend steady store).1.shipments)
    (hf : ∀ a, (f a).Uses fun call => call.ignoresShipments = true) :
    Rewritten ((p >>= f).run backend steady store).1.shipments := by
  have hView := Program.run_bind_view backend Store.shipments
    (fun call => call.ignoresShipments = true) hf
    (fun _ _ _ hCall =>
      perform_shipments (BackendCall.writesShipments_of_ignoresShipments hCall)) steady store (p := p)
  rwa [hView]

/-- A first part that is answered and writes nothing. -/
theorem rewritten_of_answered {p : BackendM α} {f : α → BackendM β} {store : Store} {a : α}
    (hp : p.run backend steady store = (store, .ok a, steady))
    (h : Rewritten ((f a).run backend steady store).1.shipments) :
    Rewritten ((p >>= f).run backend steady store).1.shipments := by
  rwa [Program.run_bind_ok hp]

theorem run_storeFile {file : UploadedFile} {name : BackendM String} {store : Store} {text : String}
    (hName : name.run backend steady store = (store, .ok text, steady)) :
    (storeFile file name).run backend steady store = (store, .ok "", steady) := by
  rw [storeFile, Program.run_tryCatch, Program.run_bind_ok hName]
  rfl

theorem liveShipment_holding (shipment : Shipment) (hLive : shipment.deletedAt = none) :
    (holding shipment).liveShipment shipment.id = some shipment := by
  simp [holding, Store.liveShipment, Store.shipment, Collection.get?, hLive, Option.filter_some]

theorem rewritten_modify (shipment : Shipment) {f : Shipment → Shipment}
    (hId : ∀ shipment, (f shipment).id = shipment.id) (hTime : (f shipment).updatedAt = ⟨1⟩) :
    Rewritten ((holding shipment).modifyShipment shipment.id f hId).shipments := by
  intro stored hMem
  simp only [holding, Store.modifyShipment, Collection.modify, List.map_cons, List.map_nil,
    if_true, List.mem_singleton] at hMem
  rw [hMem, hTime]

theorem rewritten_update (hCast : ObjectId.cast? id = some key) (update : ShipmentUpdate) :
    Rewritten ((request (.shipmentFindByIdAndUpdate id update)).run backend steady
      (holding (outsideShipment organizationId key))).1.shipments := by
  have hLive := liveShipment_holding (outsideShipment organizationId key) rfl
  have hId : (outsideShipment organizationId key).id = key := rfl
  rw [hId] at hLive
  simp only [Program.run_await, perform, execute, castingId, hCast, hLive]
  exact rewritten_modify (outsideShipment organizationId key) _ (by cases update <;> rfl)

theorem rewritten_save (changes : ShipmentChanges) :
    Rewritten ((request (.shipmentSave key changes)).run backend steady
      (holding (outsideShipment organizationId key))).1.shipments := by
  have hStored : (holding (outsideShipment organizationId key)).shipment key =
      some (outsideShipment organizationId key) := by
    simp [holding, Store.shipment, Collection.get?, outsideShipment]
  simp only [Program.run_await, perform, execute, hStored]
  exact rewritten_modify (outsideShipment organizationId key) _ rfl

theorem run_find_holding (hCast : ObjectId.cast? id = some key) {shipment : Shipment}
    (hId : shipment.id = key) (hLive : shipment.deletedAt = none) :
    (findShipmentById id).run backend steady (holding shipment) =
      (holding shipment, .ok (some shipment), steady) := by
  have hFound := liveShipment_holding shipment hLive
  rw [hId] at hFound
  simp only [findShipmentById, Program.run_await, perform, execute, castingId, hCast, hFound]

section Operations

variable {file : UploadedFile} {actor : Option String}

/-- What follows a write does. -/
abbrev IgnoresShipments (α : Type) (p : BackendM α) : Prop :=
  p.Uses fun call => call.ignoresShipments = true

theorem ignoresShipments_compositional : Program.Compositional IgnoresShipments :=
  Program.Uses.compositional _

theorem ignoresShipments_incidental (call : BackendCall) (h : call.incidental = true) :
    IgnoresShipments _ (request call) :=
  Program.Uses.await (BackendCall.ignoresShipments_of_incidental h)

variable (hCast : ObjectId.cast? id = some key)
include hCast

theorem patch_rewrites (offChainMetadata : Option Value) :
    Rewritten ((patchShipmentService id offChainMetadata).run backend steady
      (holding (outsideShipment organizationId key))).1.shipments :=
  rewritten_update hCast _

theorem delete_rewrites :
    Rewritten ((deleteShipmentService id).run backend steady
      (holding (outsideShipment organizationId key))).1.shipments := by
  have hT := ignoresShipments_compositional
  have hAside := ignoresShipments_incidental
  refine rewritten_of_answered (p := currentDate) rfl ?_
  refine rewritten_bind (rewritten_update hCast _) fun deleted => ?_
  cases deleted with
  | none => exact hT.pure _
  | some shipment =>
      refine hT.bind (hAside .now rfl) fun _ => hT.bind (hAside .now rfl) fun _ => ?_
      exact hT.bind (promiseAll_holds hT (Program.Uses.await rfl) (Program.Uses.await rfl))
        fun _ => hT.pure _

theorem proof_rewrites [Sha256] (recipientSignatureName notes : Option String) :
    Rewritten ((uploadShipmentProofService id file recipientSignatureName notes actor).run backend
      steady (holding (outsideShipment organizationId key))).1.shipments := by
  have hT := ignoresShipments_compositional
  have hAside := ignoresShipments_incidental
  refine rewritten_of_answered (run_storeFile rfl) ?_
  refine rewritten_of_answered (p := currentDate) rfl ?_
  refine rewritten_bind (rewritten_update hCast _) fun updated => ?_
  cases updated with
  | none => exact hT.throw _
  | some shipment =>
      refine hT.bind (recordProofSubmitted_holds hT hAside fun _ _ _ => Program.Uses.await rfl)
        fun _ => hT.bind (auditAction_holds hT hAside) fun _ => hT.pure _

theorem attachFile_rewrites {folder : String} {label userId : Option String}
    {refusal : Shipment → Option ThrownError} {changes : Attachment → ShipmentChanges}
    (hRefusal : refusal (outsideShipment organizationId key) = none) :
    Rewritten ((attachFile id file (storageKey id folder file.originalname) label userId refusal
      changes).run backend steady (holding (outsideShipment organizationId key))).1.shipments := by
  refine rewritten_of_answered (run_storeFile rfl) ?_
  refine rewritten_of_answered (run_find_holding hCast rfl rfl) ?_
  simp only [hRefusal]
  refine rewritten_of_answered (p := currentDate) rfl ?_
  exact rewritten_bind (rewritten_save _) fun _ => Program.Uses.pure

theorem dispute_rewrites (file : Option UploadedFile) (type description : String) :
    Rewritten ((createDisputeService id file type description actor).run backend steady
      (holding (outsideShipment organizationId key))).1.shipments := by
  have hT := ignoresShipments_compositional
  have hEvidence (store : Store) : ∃ url,
      (storeEvidence id file).run backend steady store = (store, .ok url, steady) := by
    cases file with
    | none => exact ⟨none, rfl⟩
    | some file =>
        refine ⟨some "", ?_⟩
        rw [storeEvidence, Program.run_bind_ok (run_storeFile rfl)]
        rfl
  obtain ⟨url, hUrl⟩ := hEvidence (holding (outsideShipment organizationId key))
  refine rewritten_of_answered hUrl ?_
  refine rewritten_of_answered (run_find_holding hCast rfl rfl) ?_
  refine rewritten_of_answered (p := request .randomReference) rfl ?_
  refine rewritten_of_answered (p := currentDate) rfl ?_
  refine rewritten_of_answered (p := currentDate) rfl ?_
  refine rewritten_bind (rewritten_save _) fun _ => ?_
  exact hT.bind (auditAction_holds hT ignoresShipments_incidental) fun _ => hT.pure _

/-- A status update to the status the shipment has returns all of it. -/
theorem run_setStatus_same [Sha256] (actor : Option String) (shipment : Shipment)
    (hId : shipment.id = key) (hLive : shipment.deletedAt = none) :
    (updateShipmentStatusService id shipment.status actor).run backend steady (holding shipment) =
      (holding shipment, .ok (some ⟨shipment, none⟩), steady) := by
  rw [updateShipmentStatusService, Program.run_bind_ok (run_find_holding hCast hId hLive)]
  simp

/-- The estimate tells whether the shipment is in transit. -/
theorem run_eta [EtaArithmetic] {shipment : Shipment} (hId : shipment.id = key)
    (hLive : shipment.deletedAt = none) (hMetadata : shipment.offChainMetadata = none) :
    ((getShipmentEtaService id).run backend steady (holding shipment)).2.1.isOk =
      decide (shipment.status ≠ .inTransit) := by
  have hMiss : (request (.readShipmentEtaCache id)).run backend steady (holding shipment) =
      (holding shipment, .ok none, steady) := rfl
  rw [getShipmentEtaService, Program.run_bind_ok hMiss]
  dsimp only
  rw [computeShipmentEta, Program.run_bind_ok (run_find_holding hCast hId hLive)]
  dsimp only
  split
  · rename_i hStatus
    rw [estimateInTransit, hMetadata, decide_eq_false (not_not.mpr hStatus)]
    rfl
  · rename_i hStatus
    rw [decide_eq_true hStatus]
    rfl

end Operations

end Navin
