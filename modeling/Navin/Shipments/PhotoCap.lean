import Navin.Backend.Effects
import Navin.Semantics.Protocol
import Navin.Shipments.AttachmentService

/-! Does a shipment keep to its number of photos? An upload counts them on the copy
it has loaded, and pushes the new photo later. -/
namespace Navin

open Async

/-- One call of `uploadShipmentPhotoService`. -/
structure PhotoUpload where
  id : String
  file : UploadedFile
  caption : Option String
  userId : Option String

def PhotoUpload.program (upload : PhotoUpload) : BackendM Attachment :=
  uploadShipmentPhotoService upload.id upload.file upload.caption upload.userId

variable {ι : Type}

/-- Any number of uploads, none of which has begun. -/
def uploadPool (store : Store) (uploads : ι → PhotoUpload) : Pool backend ι Attachment :=
  ⟨store, fun i => (uploads i).program⟩

/-- How many photos are stored with a shipment. -/
def Store.photoCount (store : Store) (id : ObjectId) : Option Nat :=
  (store.shipment id).map (·.photos.length)

def Store.PhotosCapped (store : Store) (id : ObjectId) : Prop :=
  ∀ count ∈ store.photoCount id, count ≤ maxPhotosPerShipment

instance (store : Store) (id : ObjectId) : Decidable (store.PhotosCapped id) := by
  unfold Store.PhotosCapped
  infer_instance

/-- At every save, what the upload has checked on its copy still holds of the stored
shipment. -/
def SavesWithRoom (id : ObjectId) : Guard backend ι := fun _ store _ call =>
  match call with
  | .shipmentSave saved _ =>
      saved = id → ∀ count ∈ store.photoCount id, count < maxPhotosPerShipment
  | _ => True

instance (id : ObjectId) (history : List (BackendEvent ι)) (store : Store) (i : ι)
    (call : BackendCall) : Decidable (SavesWithRoom id history store i call) := by
  unfold SavesWithRoom
  split <;> infer_instance

/-- An upload saves the shipment it has loaded, if there was room, and pushes one
photo. -/
def pushesOnePhoto : Protocol BackendCall BackendCall.Answer ThrownError (Option Shipment) where
  allows loaded call :=
    match call with
    | .shipmentSave saved changes => changes.photos.length = 1 ∧
        ∃ shipment, loaded = some shipment ∧ shipment.id = saved ∧
          shipment.photos.length < maxPhotosPerShipment
    | call => call.writesShipments = false
  next loaded call response :=
    match call, response with
    | .shipmentFindById _, .ok found => found
    | _, _ => loaded

theorem pushesOnePhoto_ignores {call : BackendCall} (h : call.incidental = true) :
    pushesOnePhoto.Ignores call := by
  intro loaded
  cases call <;> first | exact ⟨rfl, fun _ => rfl⟩ | cases h

theorem storeFile_follows {file : UploadedFile} {id name : String} :
    (storeFile file (generatePhotoKey id name)).Follows pushesOnePhoto
      (fun loaded _ => loaded = none) none :=
  storeFile_holds (Program.Follows.compositional pushesOnePhoto none)
    (fun _ h => Program.follows_await.mpr
      ⟨(pushesOnePhoto_ignores h none).1, (pushesOnePhoto_ignores h none).2⟩)
    (storageKey_holds (Program.Follows.compositional pushesOnePhoto none) fun _ h =>
      Program.follows_await.mpr
        ⟨(pushesOnePhoto_ignores h none).1, (pushesOnePhoto_ignores h none).2⟩)

theorem PhotoUpload.program_follows (upload : PhotoUpload) :
    upload.program.Follows pushesOnePhoto (fun _ _ => True) none := by
  unfold program uploadShipmentPhotoService attachFile
  refine storeFile_follows.bind (fun loaded url hLoaded => ?_) fun _ _ _ => trivial
  subst hLoaded
  refine .await_bind rfl (fun _ => trivial) fun found => ?_
  cases found with
  | none => trivial
  | some shipment =>
      dsimp only
      split
      · trivial
      · rename_i hRoom
        have hCount : shipment.photos.length < maxPhotosPerShipment := by
          by_contra hFull
          rw [if_pos (Nat.le_of_not_lt hFull)] at hRoom
          cases hRoom
        refine .await_bind rfl (fun _ => trivial) fun now => ?_
        exact .await_bind ⟨rfl, shipment, rfl, rfl, hCount⟩ (fun _ => trivial) fun _ => trivial

section Counting

variable {store : Store} {id saved : ObjectId} {changes : ShipmentChanges} {decision : Decision}

/-- A save that takes effect pushes its photos. -/
theorem photoCount_save (now : Date) :
    (store.modifyShipment saved (changes.apply now) (changes.apply_id now)).photoCount id =
      if id = saved then (store.photoCount saved).map (· + changes.photos.length)
      else store.photoCount id := by
  rw [Store.photoCount, Store.shipment, Store.modifyShipment]
  refine (Collection.get?_modify_map _ (changes.apply_id now) _).trans ?_
  simp only [ShipmentChanges.apply, List.length_append, Store.photoCount, Store.shipment,
    Option.map_map, Function.comp_def]

theorem photoCount_perform {call : BackendCall} (h : call.writesShipments = false) :
    (perform decision store call).1.photoCount id = store.photoCount id := by
  simp only [Store.photoCount, Store.shipment, perform_shipments h]

theorem photoCount_execute_save {count : Nat} (hCount : store.photoCount id = some count) :
    (execute decision store (.shipmentSave id changes)).1.photoCount id =
      some (count + changes.photos.length) := by
  obtain ⟨shipment, hShipment, -⟩ := Option.map_eq_some_iff.mp hCount
  simp only [execute, hShipment]
  rw [photoCount_save, if_pos rfl, hCount]
  rfl

end Counting

variable [DecidableEq ι] {store : Store} {uploads : ι → PhotoUpload} {id : ObjectId}
  {point before after : Point backend ι Attachment}

/-- A save that finds room keeps to the number of photos. -/
theorem photosCapped_save {saved : ObjectId} {changes : ShipmentChanges} {decision : Decision}
    (hCapped : store.PhotosCapped id) (hOne : changes.photos.length = 1)
    (hRoom : saved = id → ∀ count ∈ store.photoCount id, count < maxPhotosPerShipment) :
    (perform decision store (.shipmentSave saved changes)).1.PhotosCapped id := by
  rcases perform_store decision store (.shipmentSave saved changes) with hStore | hStore
  · rwa [hStore]
  rw [hStore]
  intro count hCount
  by_cases hSaved : saved = id
  · subst hSaved
    cases hBefore : store.photoCount saved with
    | none =>
        have hNone : store.shipment saved = none := Option.map_eq_none_iff.mp hBefore
        simp only [execute, hNone, hBefore] at hCount
        cases hCount
    | some before =>
        rw [photoCount_execute_save hBefore, hOne] at hCount
        obtain rfl := Option.some.inj hCount
        exact hRoom rfl before hBefore
  · refine hCapped count ?_
    simp only [execute] at hCount
    split at hCount
    · exact hCount
    · rwa [photoCount_save, if_neg (Ne.symm hSaved)] at hCount

omit [DecidableEq ι] in
theorem photosCapped_step {history : List (BackendEvent ι)} {decision : Decision} {i : ι}
    {call : BackendCall} {loaded : Option Shipment} (hCapped : store.PhotosCapped id)
    (hAllows : pushesOnePhoto.allows loaded call) (hGuard : SavesWithRoom id history store i call) :
    (perform decision store call).1.PhotosCapped id := by
  cases hWrites : call.writesShipments with
  | false => exact fun count hCount => hCapped count (photoCount_perform hWrites ▸ hCount)
  | true =>
      cases call with
      | shipmentSave saved changes => exact photosCapped_save hCapped hAllows.1 hGuard
      | shipmentInsert build => cases hAllows
      | shipmentFindByIdAndUpdate saved update => cases hAllows
      | _ => cases hWrites

/-- In every run of uploads whose saves find room, a shipment keeps to its number of
photos. -/
theorem photosCapped_of_savesWithRoom (hCapped : store.PhotosCapped id)
    (run : GuardedRun (SavesWithRoom id) (uploadPool store uploads) point) :
    point.2.store.PhotosCapped id :=
  GuardedRun.invariant pushesOnePhoto (fun _ => none) run
    (fun i => (uploads i).program_follows) (fun _ store => store.PhotosCapped id) hCapped
    fun _ _ _ _ _ hInv hAllows hGuard => photosCapped_step hInv hAllows hGuard

/-- A save without room that takes effect leaves too many photos. -/
theorem not_photosCapped_of_save {changes : ShipmentChanges} {decision : Decision}
    {count : Nat} (hCount : store.photoCount id = some count)
    (hFull : maxPhotosPerShipment ≤ count) (hOne : changes.photos.length = 1)
    (hApplies : decision.applies = true) :
    ¬(perform decision store (.shipmentSave id changes)).1.PhotosCapped id := by
  intro hCapped
  rw [perform_store_eq, if_pos hApplies] at hCapped
  have hMore := hCapped _ (photoCount_execute_save hCount)
  omega

/-- What the calls of an upload so far have told it about the shipment. -/
def loadedBy (history : List (BackendEvent ι)) : ι → Option Shipment :=
  pushesOnePhoto.after (fun _ => none) history

/-- At every save, as many photos are stored as the upload has loaded. -/
def SavesUndisturbed (id : ObjectId) : Guard backend ι := fun history store i call =>
  ∀ changes, call = .shipmentSave id changes →
    store.photoCount id = (loadedBy history i).map (·.photos.length)

/-- Where no other upload comes between, there is room. -/
theorem photosCapped_of_savesUndisturbed (hCapped : store.PhotosCapped id)
    (run : GuardedRun (SavesUndisturbed id) (uploadPool store uploads) point) :
    point.2.store.PhotosCapped id := by
  refine GuardedRun.invariant pushesOnePhoto (fun _ => none) run
    (fun i => (uploads i).program_follows) (fun _ store => store.PhotosCapped id) hCapped ?_
  intro history store decision i call hInv hAllows hGuard
  refine @photosCapped_step ι store id history decision i call _ hInv hAllows ?_
  unfold SavesWithRoom
  split
  · rename_i saved changes
    rintro rfl count hCount
    obtain ⟨-, shipment, hLoaded, -, hRoom⟩ := hAllows
    rw [Option.mem_def, hGuard changes rfl, loadedBy, hLoaded] at hCount
    exact Option.some.inj hCount ▸ hRoom
  · trivial

section Sample

def samplePhoto : Attachment where
  url := "https://files/dock.jpg"
  fileName := "dock.jpg"
  mimeType := "image/jpeg"
  label := none
  size := 2048
  uploadedBy := none
  uploadedAt := ⟨0⟩

/-- One photo short of the most there may be. -/
def nearlyFull : Store :=
  { shipments := ⟨[{ sampleShipment with photos := List.replicate 9 samplePhoto }], by decide⟩ }

/-- Two uploads to the sample shipment. -/
abbrev twoUploads : Pool backend (Fin 2) Attachment :=
  uploadPool nearlyFull fun _ =>
    ⟨sampleShipment.id.toString, ⟨"dock.jpg", "image/jpeg", 2048⟩, none, none⟩

theorem nearlyFull_capped : nearlyFull.PhotosCapped sampleShipment.id := by
  decide

/-- One upload after the other: the tenth photo is stored, the eleventh refused. -/
theorem photosCapped_of_savesWithRoom_sample : ∃ point : Point backend (Fin 2) Attachment,
    GuardedRun (SavesWithRoom sampleShipment.id) twoUploads point ∧
    point.2.store.photoCount sampleShipment.id = some 10 ∧
    point.2.store.PhotosCapped sampleShipment.id := by
  obtain ⟨point, run, hTest⟩ := Pool.exists_run (SavesWithRoom sampleShipment.id) twoUploads
    (fun point => point.2.store.photoCount sampleShipment.id = some 10)
    (List.replicate 5 (Decision.ok, 0) ++ List.replicate 3 (Decision.ok, 1)) (by decide +kernel)
  exact ⟨point, run, of_decide_eq_true hTest, photosCapped_of_savesWithRoom nearlyFull_capped run⟩

/-- Both uploads count nine photos, and then both push theirs. -/
theorem overlapping_uploads_exceed : ¬∀ (store : Store) (uploads : Fin 2 → PhotoUpload)
    (id : ObjectId) (point : Point backend (Fin 2) Attachment), store.PhotosCapped id →
    GuardedRun anyStep (uploadPool store uploads) point → point.2.store.PhotosCapped id := by
  intro hCapped
  obtain ⟨point, run, hTest⟩ := Pool.exists_run anyStep twoUploads
    (fun point => point.2.store.photoCount sampleShipment.id = some 11)
    (List.replicate 3 (Decision.ok, 0) ++ List.replicate 5 (Decision.ok, 1) ++
      List.replicate 2 (Decision.ok, 0)) (by decide +kernel)
  have hMore := hCapped nearlyFull _ sampleShipment.id point nearlyFull_capped run 11
    (of_decide_eq_true hTest)
  exact absurd hMore (by decide)

end Sample

end Navin
