import Navin.Shipments.MilestoneHistory
import Navin.Shipments.StatusLaw

/-! The public view of a shipment, found by its tracking number. Two rules make its
list of milestones: the last one is current, and a status that no milestone names gets
an entry of its own. -/
namespace Navin

open Async

structure PublicTrackingMilestone where
  id : String
  label : String
  status : String
  timestamp : String
  location : Option String
  isCompleted : Bool
  isCurrent : Bool
deriving DecidableEq

structure PublicTrackingResponse where
  trackingNumber : String
  status : String
  originCity : String
  destinationCity : String
  expectedDelivery : Option String
  milestones : List PublicTrackingMilestone

/-- The entry of a stored milestone. -/
def publicTrackingMilestone (shipment : Shipment) (index : Nat) (milestone : Milestone) :
    PublicTrackingMilestone where
  id := "milestone-" ++ toString index
  label := milestone.name.name
  status := milestone.name.name
  timestamp := milestone.timestamp.toISOString
  location := none
  isCompleted := true
  isCurrent := index = shipment.milestones.length - 1 && shipment.status ≠ .delivered

/-- The entry of a status that no milestone names. -/
def currentStatusMilestone (shipment : Shipment) : PublicTrackingMilestone where
  id := "milestone-current"
  label := shipment.status.name
  status := shipment.status.name
  timestamp := shipment.updatedAt.toISOString
  location := none
  isCompleted := shipment.status = .delivered
  isCurrent := shipment.status ≠ .delivered

def publicTrackingMilestones (shipment : Shipment) : List PublicTrackingMilestone :=
  let milestones := shipment.milestones.mapIdx (publicTrackingMilestone shipment)
  if milestones.any fun entry => entry.label = shipment.status.name then milestones
  else milestones ++ [currentStatusMilestone shipment]

def publicTracking (shipment : Shipment) : PublicTrackingResponse where
  trackingNumber := shipment.trackingNumber
  status := shipment.status.name
  originCity := shipment.origin
  destinationCity := shipment.destination
  expectedDelivery := shipment.expectedDelivery.map (·.toISOString)
  milestones := publicTrackingMilestones shipment

/-- `Shipment.findOne({ trackingNumber, deletedAt: null })`. -/
def findOneByTrackingNumber (trackingNumber : String) : BackendM (Option Shipment) := do
  let found ← request (.shipmentFind
    { conditions :=
        [("trackingNumber", .equals (.string trackingNumber)), ("deletedAt", .equals .null)] }
    [] 0 1)
  return (found : List Shipment).head?

def getPublicTrackingService (trackingNumber : String) : BackendM PublicTrackingResponse := do
  let found ← findOneByTrackingNumber trackingNumber
  match found with
  | none => throw shipmentNotFound
  | some shipment => return publicTracking shipment

section View

/-- A shipment is at its last milestone, or where it was created. -/
def Shipment.AtLastMilestone (shipment : Shipment) : Prop :=
  (shipment.milestones.getLast?.map (·.name)).getD .created = shipment.status

/-- The entries tell where a shipment is. -/
structure TracksStatus (status : ShipmentStatus) (entries : List PublicTrackingMilestone) :
    Prop where
  atMostOne : (entries.filter (·.isCurrent)).length ≤ 1
  underway : status ≠ .delivered → ∃ earlier last, entries = earlier ++ [last] ∧
    last.isCurrent = true ∧ last.label = status.name ∧ ∀ entry ∈ earlier, entry.isCurrent = false
  delivered : status = .delivered → (∀ entry ∈ entries, entry.isCurrent = false) ∧
    ∃ entry ∈ entries, entry.label = status.name

/-- It suffices that only the last entry can be current. -/
theorem tracksStatus_of_last {status : ShipmentStatus} {earlier : List PublicTrackingMilestone}
    {last : PublicTrackingMilestone} (hLabel : last.label = status.name)
    (hLast : last.isCurrent = decide (status ≠ .delivered))
    (hEarlier : ∀ entry ∈ earlier, entry.isCurrent = false) :
    TracksStatus status (earlier ++ [last]) := by
  have hNone : earlier.filter (·.isCurrent) = [] := by
    rw [List.filter_eq_nil_iff]
    intro entry hEntry
    simp [hEarlier entry hEntry]
  constructor
  · rw [List.filter_append, hNone]
    simpa using List.length_filter_le (fun entry : PublicTrackingMilestone => entry.isCurrent) [last]
  · intro hUnderway
    exact ⟨earlier, last, rfl, by simpa [hUnderway] using hLast, hLabel, hEarlier⟩
  · intro hDelivered
    refine ⟨?_, last, by simp, hLabel⟩
    intro entry hEntry
    rcases List.mem_append.mp hEntry with hMem | hMem
    · exact hEarlier entry hMem
    · rw [List.mem_singleton.mp hMem, hLast]
      simp [hDelivered]

/-- The view of a shipment that is at its last milestone. -/
theorem tracksStatus_of_atLastMilestone {shipment : Shipment} (h : shipment.AtLastMilestone) :
    TracksStatus shipment.status (publicTrackingMilestones shipment) := by
  rcases List.eq_nil_or_concat shipment.milestones with hNil | ⟨earlier, last, hMilestones⟩
  · have hCreated : ShipmentStatus.created = shipment.status := by
      simpa [Shipment.AtLastMilestone, hNil] using h
    have hEntries : publicTrackingMilestones shipment = [] ++ [currentStatusMilestone shipment] := by
      simp [publicTrackingMilestones, hNil]
    rw [hEntries]
    exact tracksStatus_of_last rfl rfl fun _ hEntry => absurd hEntry List.not_mem_nil
  · rw [List.concat_eq_append] at hMilestones
    have hName : last.name = shipment.status := by
      simpa [Shipment.AtLastMilestone, hMilestones] using h
    let entry := publicTrackingMilestone shipment
    have hEntries : publicTrackingMilestones shipment =
        earlier.mapIdx entry ++ [entry earlier.length last] := by
      simp only [publicTrackingMilestones, hMilestones, List.mapIdx_concat]
      rw [if_pos (by simp [publicTrackingMilestone, hName])]
    rw [hEntries]
    apply tracksStatus_of_last
    · exact congrArg ShipmentStatus.name hName
    · simp [entry, publicTrackingMilestone, hMilestones]
    · intro other hOther
      obtain ⟨index, hIndex, rfl⟩ := List.mem_mapIdx.mp hOther
      have hBefore : index ≠ earlier.length := by omega
      simp [entry, publicTrackingMilestone, hMilestones, hBefore]

end View

section Writes

/-- The changes of a save, or of an update, leave a shipment at its last milestone. -/
def ShipmentChanges.tracks (changes : ShipmentChanges) : Prop :=
  changes.status = changes.milestones.getLast?.map (·.name)

def ShipmentUpdate.tracks : ShipmentUpdate → Prop
  | .setStatus status milestone => milestone.name = status
  | .deletedAt _ => False
  | _ => True

/-- The calls that leave every stored shipment at its last milestone. -/
def BackendCall.tracksMilestones : BackendCall → Prop
  | .shipmentInsert _ => False
  | .shipmentSave _ changes => changes.tracks
  | .shipmentFindByIdAndUpdate _ update => update.tracks
  | _ => True

/-- The shipment can be found by its tracking number, and is at its last milestone. -/
structure Tracked (id : ObjectId) (trackingNumber : String) (store : Store) : Prop where
  stored : ∃ shipment, store.shipment id = some shipment ∧
    shipment.trackingNumber = trackingNumber ∧ shipment.deletedAt = none ∧
      shipment.AtLastMilestone
  only : ∀ other ∈ store.shipments.docs, other.trackingNumber = trackingNumber → other.id = id

variable {id : ObjectId} {trackingNumber : String} {store : Store} {shipment : Shipment}

theorem ShipmentChanges.atLastMilestone_apply {changes : ShipmentChanges} (h : changes.tracks)
    (now : Date) (hBefore : shipment.AtLastMilestone) :
    (changes.apply now shipment).AtLastMilestone := by
  rw [Shipment.AtLastMilestone] at hBefore ⊢
  rw [ShipmentChanges.tracks] at h
  simp only [ShipmentChanges.apply, List.getLast?_append, h]
  cases changes.milestones.getLast? with
  | none => simpa using hBefore
  | some milestone => simp

theorem ShipmentUpdate.atLastMilestone_apply {update : ShipmentUpdate} (h : update.tracks)
    (now : Date) (hBefore : shipment.AtLastMilestone) :
    (update.apply now shipment).AtLastMilestone := by
  cases update with
  | setStatus status milestone =>
      have hName : milestone.name = status := h
      simp [Shipment.AtLastMilestone, ShipmentUpdate.apply, hName]
  | deletedAt date => exact h.elim
  | _ => exact hBefore

/-- Rewriting a shipment, its tracking number kept. -/
theorem Tracked.modify (h : Tracked id trackingNumber store) (saved : ObjectId)
    {f : Shipment → Shipment} (hId : ∀ shipment, (f shipment).id = shipment.id)
    (hKeeps : ∀ shipment, (f shipment).trackingNumber = shipment.trackingNumber ∧
      (f shipment).deletedAt = shipment.deletedAt)
    (hLast : ∀ shipment : Shipment, shipment.AtLastMilestone → (f shipment).AtLastMilestone) :
    Tracked id trackingNumber (store.modifyShipment saved f hId) := by
  obtain ⟨⟨shipment, hStored, hNumber, hLive, hAt⟩, hOnly⟩ := h
  constructor
  · by_cases hSame : id = saved
    · subst hSame
      refine ⟨f shipment, ?_, (hKeeps shipment).1.trans hNumber, (hKeeps shipment).2.trans hLive,
        hLast shipment hAt⟩
      rw [Store.shipment, Store.modifyShipment, Collection.get?_modify_self,
        show store.shipments.get? id = some shipment from hStored, Option.map_some]
    · refine ⟨shipment, ?_, hNumber, hLive, hAt⟩
      rw [Store.shipment, Store.modifyShipment, Collection.get?_modify_of_ne _ _ hSame]
      exact hStored
  · intro other hOther hOtherNumber
    obtain ⟨old, hOld, rfl | rfl⟩ := Collection.mem_modify _ hId hOther
    · exact hOnly _ hOld hOtherNumber
    · rw [hId]
      exact hOnly old hOld ((hKeeps old).1.symm.trans hOtherNumber)

/-- One call, whatever becomes of it. -/
theorem Tracked.perform (h : Tracked id trackingNumber store) (decision : Decision)
    {call : BackendCall} (hCall : call.tracksMilestones) :
    Tracked id trackingNumber (Navin.perform decision store call).1 := by
  rcases perform_store decision store call with hStore | hStore
  · rwa [hStore]
  · rw [hStore]
    by_cases hWrites : call.writesShipments = true
    · cases call with
      | shipmentInsert build => exact hCall.elim
      | shipmentSave saved changes =>
          simp only [execute]
          split
          · exact h
          · exact h.modify saved (changes.apply_id _) (fun _ => ⟨rfl, rfl⟩) fun _ =>
              changes.atLastMilestone_apply hCall _
      | shipmentFindByIdAndUpdate text update =>
          simp only [execute, castingId]
          split
          · exact h
          · split
            · exact h
            · refine h.modify _ (update.apply_id _) (fun shipment => ?_) fun _ =>
                update.atLastMilestone_apply hCall _
              cases update with
              | deletedAt date => exact False.elim hCall
              | _ => exact ⟨rfl, rfl⟩
      | _ => cases hWrites
    · have hSame : (execute decision store call).1.shipments = store.shipments :=
        execute_shipments (eq_false_of_ne_true hWrites)
      constructor
      · rw [Store.shipment, hSame]
        exact h.stored
      · rw [hSame]
        exact h.only

end Writes

section Requests

variable {id : ObjectId} {trackingNumber : String}

/-- A program whose calls leave every stored shipment at its last milestone. -/
abbrev TracksMilestones (α : Type) (p : BackendM α) : Prop :=
  p.Uses BackendCall.tracksMilestones

theorem tracksMilestones_of_incidental (call : BackendCall) (h : call.incidental = true) :
    TracksMilestones _ (request call) :=
  Program.Uses.await (by cases call <;> trivial)

theorem statusRequest_tracksMilestones [Sha256] (statusRequest : StatusRequest) :
    TracksMilestones _ statusRequest.program := by
  have hT : Program.Compositional TracksMilestones := Program.Uses.compositional _
  apply statusRequest.program_holds hT fun call h =>
    tracksMilestones_of_incidental call (BackendCall.incidental_of_aside h)
  · exact fun _ => Program.Uses.await trivial
  · exact fun _ => Program.Uses.await trivial
  · exact fun _ _ => Program.Uses.await rfl
  · exact fun _ _ => Program.Uses.await rfl
  · exact fun _ _ _ => Program.Uses.await trivial
  · intro text status actor saved _
    exact settleDelivery_holds hT
      (fun call h => tracksMilestones_of_incidental call (BackendCall.incidental_of_aside h))
      (fun _ => Program.Uses.await trivial) (fun _ => Program.Uses.await trivial)
      (fun _ _ => Program.Uses.await trivial) fun _ _ => Program.Uses.await trivial
  · intro text updated
    exact settleBulkDelivery_holds hT (fun _ => Program.Uses.await trivial)
      (fun _ => Program.Uses.await trivial) fun _ _ => Program.Uses.await trivial

variable {input : CreateShipmentInput} {creator : Option String} {shipment : Shipment}
  {env env' : Nat → Decision} {store created : Store}

/-- The first save finds the tracking number unused. -/
theorem tracked_of_insertShipment
    (h : (insertShipment input trackingNumber).run backend env store =
      (created, .ok shipment, env')) : Tracked shipment.id trackingNumber created := by
  unfold insertShipment at h
  split at h
  · cases h
  · cases h
  · rename_i enterpriseId logisticsId _ _
    obtain ⟨hPerform, -⟩ := Program.run_await_eq_ok.mp h
    have hResponse := congrArg Prod.snd hPerform
    have hExecute := (perform_eq_execute_of_ok rfl hResponse).symm.trans hPerform
    simp only [execute] at hExecute
    split at hExecute
    · rename_i hFresh
      cases hExecute
      constructor
      · refine ⟨newShipment input trackingNumber enterpriseId logisticsId (env 0).freshId
          (env 0).now, ?_, rfl, rfl, rfl⟩
        simp [Store.shipment, Collection.get?_insert]
      · intro other hOther hNumber
        rcases List.mem_append.mp hOther with hOld | hNew
        · exact absurd hNumber (hFresh.2 other hOld)
        · rw [List.mem_singleton.mp hNew]
    · cases hExecute

/-- What a creation leaves behind. -/
theorem tracked_of_createShipmentService
    (h : (createShipmentService input creator).run backend env store =
      (created, .ok shipment, env')) : ∃ number, Tracked shipment.id number created := by
  have hT : Program.Compositional TracksMilestones := Program.Uses.compositional _
  obtain ⟨_, number, _, -, hRest⟩ := Program.run_bind_eq_ok.mp h
  obtain ⟨store₁, inserted, env₁, hInsert, hRest⟩ := Program.run_bind_eq_ok.mp hRest
  have hTokenize : TracksMilestones _ (tokenizeCreated inserted) := by
    refine hT.tryCatch (hT.bind (Program.Uses.await trivial) fun hash => ?_) fun _ => hT.pure _
    exact hT.tryCatch (hT.bind (Program.Uses.await rfl) fun savedAt => hT.pure _) fun _ => hT.pure _
  have hAfter : TracksMilestones _ (do
      let tokenized ← tokenizeCreated inserted
      let now ← currentDate
      request (.auditLog ⟨creator.getD "system", "SHIPMENT_CREATED", inserted.id.toString, now⟩)
      return tokenized : BackendM Shipment) := by
    apply hT.bind hTokenize
    intro tokenized
    apply hT.bind (tracksMilestones_of_incidental .now rfl)
    intro now
    exact hT.bind (tracksMilestones_of_incidental (.auditLog _) rfl) fun _ => hT.pure _
  have hKept := hAfter.run_invariant (W := backend) (Tracked inserted.id number)
    (fun decision _ _ hCall hTracked => hTracked.perform decision hCall) env₁
    (tracked_of_insertShipment hInsert)
  have hId : shipment.id = inserted.id := by
    obtain ⟨_, tokenized, _, hTokenized, hRest⟩ := Program.run_bind_eq_ok.mp hRest
    obtain ⟨_, now, _, -, hRest⟩ := Program.run_bind_eq_ok.mp hRest
    obtain ⟨_, _, _, -, hDone⟩ := Program.run_bind_eq_ok.mp hRest
    cases hDone
    exact tokenizeCreated_id hTokenized
  rw [hRest] at hKept
  exact ⟨number, hId ▸ hKept⟩

/-- A tracked shipment is the one its number finds. -/
theorem Tracked.select (h : Tracked id trackingNumber store) :
    ∃ shipment, store.shipment id = some shipment ∧ shipment.trackingNumber = trackingNumber ∧
      shipment.AtLastMilestone ∧ ∀ decision, execute decision store (.shipmentFind
        { conditions :=
            [("trackingNumber", .equals (.string trackingNumber)), ("deletedAt", .equals .null)] }
        [] 0 1) = (store, .ok [shipment]) := by
  obtain ⟨⟨shipment, hStored, hNumber, hLive, hAt⟩, hOnly⟩ := h
  refine ⟨shipment, hStored, hNumber, hAt, fun decision => ?_⟩
  let query : Query := { conditions :=
    [("trackingNumber", .equals (.string trackingNumber)), ("deletedAt", .equals .null)] }
  have hAccepts (other : Shipment) : query.live.accepts other = true ↔
      other.trackingNumber = trackingNumber ∧ other.deletedAt = none := by
    rw [Query.accepts_live]
    cases hDeleted : other.deletedAt <;>
      simp [query, Query.accepts, Condition.holds, Shipment.field?, hDeleted]
  have hSelected : shipment ∈ query.live.select [] store.shipments.docs :=
    Query.mem_select_iff.mpr
      ⟨(Collection.get?_eq_some_iff _).mp hStored |>.1, (hAccepts shipment).mpr ⟨hNumber, hLive⟩⟩
  have hAll : ∀ other ∈ query.live.select [] store.shipments.docs, other = shipment := by
    intro other hOther
    obtain ⟨hMem, hAccepted⟩ := Query.mem_select_iff.mp hOther
    have hId := hOnly other hMem ((hAccepts other).mp hAccepted).1
    have hFound : store.shipment other.id = some other := store.shipments.get?_of_mem hMem
    rw [hId, hStored] at hFound
    exact (Option.some.inj hFound).symm
  have hPage : window 0 1 (query.live.select [] store.shipments.docs) = [shipment] := by
    cases hSelect : query.live.select [] store.shipments.docs with
    | nil =>
        rw [hSelect] at hSelected
        cases hSelected
    | cons first rest =>
        rw [hSelect] at hAll
        simp [window, hAll first List.mem_cons_self]
  exact congrArg (fun page => (store, Except.ok page)) hPage

/-- What is answered about a tracked shipment, unless the database does not answer. -/
theorem Tracked.run_getPublicTrackingService (h : Tracked id trackingNumber store) :
    ∃ shipment, store.shipment id = some shipment ∧ shipment.trackingNumber = trackingNumber ∧
      shipment.AtLastMilestone ∧ ∀ env : Nat → Decision,
        let outcome := ((getPublicTrackingService trackingNumber).run backend env store).2.1
        ((env 0).fault = none → outcome = .ok (publicTracking shipment)) ∧
          ∀ response, outcome = .ok response → response = publicTracking shipment := by
  obtain ⟨shipment, hStored, hNumber, hAt, hFound⟩ := h.select
  refine ⟨shipment, hStored, hNumber, hAt, fun env => ?_⟩
  have hAnswered (hFault : (env 0).fault = none) : ((getPublicTrackingService
      trackingNumber).run backend env store).2.1 = .ok (publicTracking shipment) := by
    have hPage := (perform_of_fault_none hFault).trans (hFound (env 0))
    rw [getPublicTrackingService, findOneByTrackingNumber, bind_assoc,
      Program.run_bind_ok (Program.run_await_eq_ok.mpr ⟨hPage, rfl⟩)]
    rfl
  refine ⟨hAnswered, fun response hResponse => ?_⟩
  cases hFault : (env 0).fault with
  | none =>
      rw [hAnswered hFault] at hResponse
      exact (Except.ok.inj hResponse).symm
  | some fault =>
      obtain ⟨_, found, _, hFind, -⟩ := Program.run_bind_eq_ok.mp
        (show (getPublicTrackingService trackingNumber).run backend env store =
          (_, .ok response, _) from Prod.ext rfl (Prod.ext hResponse rfl))
      obtain ⟨_, page, _, hPage, -⟩ := Program.run_bind_eq_ok.mp hFind
      have hRefused := congrArg Prod.snd (Program.run_await_eq_ok.mp hPage).1
      rw [backend_perform, perform_of_fault hFault] at hRefused
      cases hRefused

/-- However single and bulk status updates of a new shipment overlap, and whatever
fails, its public view tells where it is. -/
theorem publicTracking_tracks_status [Sha256] {ι : Type} [DecidableEq ι]
    (hCreated : (createShipmentService input creator).run backend env store =
      (created, .ok shipment, env'))
    (requests : ι → StatusRequest) {point : Point backend ι Unit}
    (run : GuardedRun anyStep (statusPool created requests) point) :
    ∃ stored, Store.shipment point.2.store shipment.id = some stored ∧ ∃ response,
      response.status = stored.status.name ∧ TracksStatus stored.status response.milestones ∧
      ∀ env : Nat → Decision, let outcome := ((getPublicTrackingService
          stored.trackingNumber).run backend env point.2.store).2.1
        ((env 0).fault = none → outcome = .ok response) ∧
          ∀ other, outcome = .ok other → other = response := by
  obtain ⟨number, hTracked⟩ := tracked_of_createShipmentService hCreated
  have hReached : Tracked shipment.id number point.2.store :=
    run.invariant_of_uses (C := BackendCall.tracksMilestones)
      (fun i => statusRequest_tracksMilestones (requests i)) _ hTracked
      fun _ decision _ hInv hCall => hInv.perform decision hCall
  obtain ⟨stored, hStored, hNumber, hAt, hAnswers⟩ := hReached.run_getPublicTrackingService
  refine ⟨stored, hStored, publicTracking stored, rfl, tracksStatus_of_atLastMilestone hAt, ?_⟩
  rw [hNumber]
  exact hAnswers

end Requests

/-- The requests that overlap on a shipment that has just been created. -/
abbrev sampleStatusPool : Pool backend Bool Unit :=
  @statusPool (tabulatedSha256 []) Bool sampleCreation.1 overlappingRequests

/-- Both requests read the new shipment; one sends it off, and the other cancels it. -/
theorem publicTracking_tracks_status_sample : ∃ shipment, sampleCreation.2.1 = .ok shipment ∧
    ∃ point : Point backend Bool Unit, GuardedRun anyStep sampleStatusPool point ∧
      ∃ stored, Store.shipment point.2.store shipment.id = some stored ∧
        stored.status = .cancelled ∧ ∃ response, TracksStatus stored.status response.milestones ∧
          ((getPublicTrackingService stored.trackingNumber).run backend sampleDecisions
            point.2.store).2.1 = .ok response := by
  have hCreated : sampleCreation.2.1.toOption.any (·.id = sampleShipment.id) = true := by
    decide +kernel
  obtain ⟨point, run, hTest⟩ := Pool.exists_run anyStep sampleStatusPool
    (fun point => Store.status? point.2.store sampleShipment.id = some .cancelled)
    [(Decision.ok, true), (Decision.ok, false), (Decision.ok, false), (Decision.ok, false),
      (Decision.ok, true), (Decision.ok, true)] (by decide +kernel)
  have hStatus := of_decide_eq_true hTest
  rcases hRun : sampleCreation with ⟨created, outcome, env'⟩
  rw [hRun] at hCreated
  cases outcome with
  | error error => cases hCreated
  | ok shipment =>
      have hId : shipment.id = sampleShipment.id := of_decide_eq_true hCreated
      have hPool : sampleStatusPool =
          @statusPool (tabulatedSha256 []) Bool created overlappingRequests := by
        rw [sampleStatusPool, hRun]
      obtain ⟨stored, hStored, response, -, hTracks, hAnswers⟩ :=
        @publicTracking_tracks_status _ _ _ _ _ _ _ (tabulatedSha256 []) _ _ hRun
          overlappingRequests point (hPool ▸ run)
      refine ⟨shipment, rfl, point, run, stored, hStored, ?_, response, hTracks,
        (hAnswers sampleDecisions).1 rfl⟩
      rw [Store.status?, ← hId, hStored] at hStatus
      exact Option.some.inj hStatus

end Navin
