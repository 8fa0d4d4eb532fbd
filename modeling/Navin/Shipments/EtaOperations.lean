import Navin.Shipments.BulkAgreement
import Navin.Shipments.EtaInputs

/-! What the operations on shipments do to cached arrival estimates. A single status
update drops the estimate that is cached under the id it is given; no other operation
drops any. So each keeps the cached estimates in step with their inputs as long as it
does not touch a shipment with an estimate it leaves behind. -/
namespace Navin

open Async

/-- Redis is available. -/
def CacheAvailable (step : Step backend) : Prop :=
  match step.request with
  | .readShipmentEtaCache _ | .writeShipmentEtaCache _ _ | .invalidateShipmentEtaCache _ =>
      step.decision.fault = none
  | _ => True

/-- A save that takes effect is answered, at least when an estimate of the shipment is
cached. -/
def SaveAnswered (step : Step backend) : Prop :=
  match step.request with
  | .shipmentSave id _ => (∃ error, step.decision.fault = some (.lost error)) →
      ∀ entry ∈ step.before.etaCache, ObjectId.cast? entry.1 ≠ some id
  | _ => True

variable {text : String} {id : ObjectId} {status : ShipmentStatus} {actor : Option String}
  {store : Store} {R : Step backend → Prop}

theorem etasKept_of_untouched {before after : Store} (h : Touched (fun _ => False) before after) :
    EtasKept before after :=
  h.etasKept fun _ _ _ _ => not_false

/-- A lookup changes nothing and finds a live shipment. -/
theorem perform_shipmentFindById (decision : Decision) (store : Store) (text : String) :
    (perform decision store (.shipmentFindById text)).1 = store ∧
      ∀ shipment, (perform decision store (.shipmentFindById text)).2 = .ok (some shipment) →
        ∃ id, ObjectId.cast? text = some id ∧ store.liveShipment id = some shipment := by
  constructor
  · rw [perform_store_eq]
    simp only [execute, castingId]
    repeat' split
    all_goals rfl
  · intro shipment h
    rw [perform_eq_execute_of_ok rfl h] at h
    simp only [execute, castingId] at h
    split at h
    · cases h
    · rename_i id hCast
      exact ⟨id, hCast, Except.ok.inj h⟩

theorem liveShipment_id {shipment : Shipment} (h : store.liveShipment id = some shipment) :
    shipment.id = id :=
  Collection.key_of_get? _ (Option.filter_eq_some_iff.mp h).1

/-- The milestone changes nothing, and is there only for a user who can be looked up. -/
theorem milestoneFor_wp : (milestoneFor status actor).wp R
    (fun outcome after => after = store ∧ ∀ milestone, outcome = .ok milestone →
      Attributable actor) store := by
  unfold milestoneFor
  rw [currentDate, request, Program.wp_await_bind]
  intro decision _
  rw [backend_perform, perform_now]
  change Program.wp R _ _ _
  cases hActor : truthy actor with
  | none => exact ⟨rfl, fun _ _ userId hUser => by cases hActor.symm.trans hUser⟩
  | some userId =>
      dsimp only
      rw [request, Program.wp_await_bind]
      intro decision' _
      have hStore : (perform decision' store (.userWallet userId)).1 = store := by
        rw [perform_store_eq]
        simp only [execute, castingId]
        repeat' split
        all_goals rfl
      rw [backend_perform, hStore]
      cases hAnswer : (perform decision' store (.userWallet userId)).2 with
      | error error => exact ⟨rfl, fun _ h => by cases h⟩
      | ok found =>
          refine ⟨rfl, fun _ _ other hOther => ?_⟩
          obtain rfl := Option.some.inj (hActor.symm.trans hOther)
          rw [perform_eq_execute_of_ok rfl hAnswer] at hAnswer
          simp only [execute, castingId] at hAnswer
          split at hAnswer
          · cases hAnswer
          · rename_i oid hCast
            exact Option.isSome_iff_exists.mpr ⟨oid, hCast⟩

/-- The conditions under which a status update keeps the estimates in step. -/
abbrev StatusStep (step : Step backend) : Prop :=
  CacheAvailable step ∧ SaveAnswered step

/-- A save that is not answered has changed nothing, or no estimate is cached. -/
theorem etasKept_of_save_error {decision : Decision} {changes : ShipmentChanges}
    {error : ThrownError} (hStep : SaveAnswered ⟨decision, store, .shipmentSave id changes⟩)
    (hError : (perform decision store (.shipmentSave id changes)).2 = .error error) :
    EtasKept store (perform decision store (.shipmentSave id changes)).1 := by
  cases hFault : decision.fault with
  | none =>
      rw [perform_of_fault_none hFault] at hError ⊢
      simp only [execute] at hError ⊢
      split at hError
      · exact .refl store
      · cases hError
  | some fault =>
      cases fault with
      | rejected refusal =>
          rw [perform_store_eq, Decision.applies, hFault]
          exact .refl store
      | lost lostError =>
          have hNone := hStep ⟨lostError, hFault⟩
          have hTouched : Touched (· = id) store
              (perform decision store (.shipmentSave id changes)).1 := touched_perform rfl
          apply hTouched.etasKept_of_before
          rintro entry hEntry key hKey rfl
          exact hNone entry hEntry hKey

theorem perform_invalidate {decision : Decision} (hFault : decision.fault = none) :
    (perform decision store (.invalidateShipmentEtaCache text)).1.etaCache =
      store.etaCache.filter fun entry => entry.1 ≠ text := by
  rw [perform_of_fault_none hFault]
  rfl

/-- Once the changed shipment has lost its estimate, the others are in step. -/
theorem etasKept_of_dropped {before : Store} {decision : Decision}
    (hSaved : Touched (· = id) before store)
    (hOnly : ∀ entry ∈ before.etaCache, ObjectId.cast? entry.1 = some id → entry.1 = text)
    (hFault : decision.fault = none) :
    EtasKept before (perform decision store (.invalidateShipmentEtaCache text)).1 := by
  have hTouched : Touched (· = id) store
      (perform decision store (.invalidateShipmentEtaCache text)).1 := touched_perform trivial
  apply (hSaved.trans hTouched).etasKept
  rintro entry hEntry key hKey rfl
  have hOld := (hSaved.trans hTouched).entries entry hEntry
  rw [perform_invalidate hFault, List.mem_filter] at hEntry
  simp [hOnly entry hOld hKey] at hEntry

/-- What a status update does between the save and the announcements. -/
theorem dropEstimate_etasKept {α : Type} {before : Store} {rest : BackendM α}
    (hSaved : Touched (· = id) before store)
    (hOnly : ∀ entry ∈ before.etaCache, ObjectId.cast? entry.1 = some id → entry.1 = text)
    (hRest : Confined (fun _ => False) α rest) :
    (do request .invalidateAnalyticsPerformanceCache
        request (.invalidateShipmentEtaCache text)
        rest : BackendM α).wp StatusStep (fun _ after => EtasKept before after) store := by
  rw [request, Program.wp_await_bind]
  intro analytics _
  have hStore : (perform analytics store .invalidateAnalyticsPerformanceCache).1 = store := by
    rw [perform_store_eq]
    split <;> rfl
  obtain ⟨answer, hAnswer⟩ := @perform_ok_of_alwaysAnswers analytics store
    .invalidateAnalyticsPerformanceCache rfl
  rw [backend_perform, hStore, hAnswer]
  change Program.wp StatusStep _ _ _
  rw [request, Program.wp_await_bind]
  intro decision hStep
  have hFault : decision.fault = none := hStep.1
  obtain ⟨dropped, hDropped⟩ := @perform_ok_of_alwaysAnswers decision store
    (.invalidateShipmentEtaCache text) rfl
  rw [backend_perform, hDropped]
  change Program.wp StatusStep _ _ _
  apply (hRest.touched_wp StatusStep (.refl _)).mono
  intro outcome after hAfter
  exact (etasKept_of_dropped hSaved hOnly hFault).trans (etasKept_of_untouched hAfter)

section Status

variable [Sha256] {shipment : Shipment}

/-- What follows the save: nothing but the estimate is dropped. -/
def announceStatusUpdate (text : String) (previousStatus status : ShipmentStatus)
    (saved : Shipment) (actor : Option String) : BackendM (Option StatusUpdateResult) := do
  recordStatusChange text previousStatus status actor
  let simulated ← settleWhenDelivered text status saved actor
  auditStatusChange actor text
  emitStatusUpdate text saved
  return some ⟨saved, simulated⟩

theorem announceStatusUpdate_confined {previousStatus : ShipmentStatus} {saved : Shipment}
    (keys : ObjectId → Prop) :
    Confined keys _ (announceStatusUpdate text previousStatus status saved actor) := by
  have hT := @confined_compositional keys
  have hAside (call : BackendCall) (h : call.aside = true) : Confined keys _ (request call) :=
    confined_request (BackendCall.confined_of_aside h)
  apply hT.bind (recordStatusChange_holds hT hAside fun _ _ _ => .await trivial)
  intro _
  apply hT.bind
  · unfold settleWhenDelivered
    split
    · exact settleDelivery_holds hT hAside (fun _ => .await trivial) (fun _ => .await trivial)
        (fun _ _ => .await trivial) fun _ _ => .await trivial
    · exact hT.pure _
  · intro simulated
    apply hT.bind (auditStatusChange_holds hT hAside)
    intro _
    exact hT.bind (hAside (.emitStatusUpdate _ _) rfl) fun _ => hT.pure _

theorem commitStatusUpdate_etasKept
    (hOnly : Attributable actor → ∀ entry ∈ store.etaCache,
      ObjectId.cast? entry.1 = some shipment.id → entry.1 = text) :
    (commitStatusUpdate text shipment status actor).wp StatusStep
      (fun _ after => EtasKept store after) store := by
  unfold commitStatusUpdate
  rw [Program.wp_bind]
  apply milestoneFor_wp.mono
  intro outcome after hAfter
  obtain rfl : store = after := hAfter.1.symm
  have hActor := hAfter.2
  cases outcome with
  | error error => exact .refl _
  | ok milestone =>
      change Program.wp StatusStep (request _ >>= _) _ _
      rw [request, Program.wp_await_bind]
      intro decision hStep
      rw [backend_perform]
      cases hAnswer : (perform decision store _).2 with
      | error error => exact etasKept_of_save_error hStep.2 hAnswer
      | ok savedAt =>
          have hSaved : Touched (· = shipment.id) store (perform decision store
              (.shipmentSave shipment.id { status := some status, milestones := [milestone] })).1 :=
            touched_perform rfl
          exact dropEstimate_etasKept hSaved (hOnly (hActor milestone rfl))
            (announceStatusUpdate_confined _)

/-- A status update keeps the estimates in step, unless it moves a shipment whose
estimate is cached under another spelling of its id. -/
theorem updateShipmentStatusService_etasKept
    (hOnly : CanMove store status text → Attributable actor → ∀ entry ∈ store.etaCache,
      ObjectId.cast? text = ObjectId.cast? entry.1 → entry.1 = text) :
    (updateShipmentStatusService text status actor).wp StatusStep
      (fun _ after => EtasKept store after) store := by
  unfold updateShipmentStatusService
  rw [findShipmentById, request, Program.wp_await_bind]
  intro decision _
  obtain ⟨hSame, hFound⟩ := perform_shipmentFindById decision store text
  rw [backend_perform, hSame]
  cases hAnswer : (perform decision store (.shipmentFindById text)).2 with
  | error error => exact .refl store
  | ok found =>
      change Program.wp StatusStep _ _ _
      cases found with
      | none => exact .refl store
      | some shipment =>
          obtain ⟨id, hId, hLive⟩ := hFound shipment hAnswer
          obtain rfl := liveShipment_id hLive
          dsimp only
          split
          · exact .refl store
          · split
            · exact .refl store
            · rename_i hValid
              have hMove : CanMove store status text :=
                ⟨shipment.id, shipment, hId, hLive, validateStatusTransition_ok_iff.mp hValid⟩
              apply commitStatusUpdate_etasKept
              intro hActor entry hEntry hEntryId
              exact hOnly hMove hActor entry hEntry (hId.trans hEntryId.symm)

/-- A bulk update can move the shipment. -/
def BulkMoves (store : Store) (shipmentIds : List String) (status : ShipmentStatus)
    (organizationId : String) (actor : Option String) (id : ObjectId) : Prop :=
  id.toString ∈ shipmentIds ∧ (shipmentIds.mapM ObjectId.cast?).isSome ∧ Attributable actor ∧
    ∃ shipment, store.liveShipment id = some shipment ∧
      ownedBy shipment organizationId = true ∧ status ∈ allowedTransitions shipment.status

section Bulk

variable {shipmentIds : List String} {organizationId : String} {snapshot : List Shipment}

theorem bulkCommit_confined {milestone : Milestone} {keys : ObjectId → Prop}
    (hKeys : ∀ id, ObjectId.cast? text = some id → keys id) :
    Confined keys _ (bulkCommit text status milestone actor) := by
  have hT := @confined_compositional keys
  apply bulkCommit_holds hT
  · exact fun call h => confined_request (BackendCall.confined_of_aside h)
  · exact confined_request hKeys
  · intro updated
    exact settleBulkDelivery_holds hT (fun _ => .await trivial) (fun _ => .await trivial)
      fun _ _ => .await trivial

/-- One occurrence of a bulk update touches its shipment, if that can be moved. -/
theorem bulkUpdateOne_touched {before : Store} (hText : text ∈ shipmentIds)
    (hIds : (shipmentIds.mapM ObjectId.cast?).isSome)
    (hSnapshot : ∀ found ∈ snapshot, before.liveShipment found.id = some found)
    (hBefore : Touched (BulkMoves before shipmentIds status organizationId actor) before store) :
    (bulkUpdateOne snapshot organizationId status actor text).wp R (fun _ after =>
      Touched (BulkMoves before shipmentIds status organizationId actor) before after) store := by
  unfold bulkUpdateOne
  split
  · exact hBefore
  · rename_i existing hFind
    split
    · exact hBefore
    · rename_i hOwned
      split
      · exact hBefore
      · rename_i hAllowed
        rw [Program.wp_bind]
        apply milestoneFor_wp.mono
        intro outcome after hAfter
        obtain rfl : store = after := hAfter.1.symm
        cases outcome with
        | error error => exact hBefore
        | ok milestone =>
            apply Confined.touched_wp (bulkCommit_confined ?_) R hBefore
            intro id hId
            have hExisting : existing.id.toString = text := by simpa using List.find?_some hFind
            obtain rfl : existing.id = id := by
              rw [← hExisting, ObjectId.cast?_toString] at hId
              exact Option.some.inj hId
            exact ⟨hExisting ▸ hText, hIds, hAfter.2 milestone rfl, existing,
              hSnapshot existing (List.mem_of_find?_eq_some hFind), not_not.mp hOwned,
              not_not.mp hAllowed⟩

theorem bulkUpdateLoop_touched {before : Store}
    (hIds : (shipmentIds.mapM ObjectId.cast?).isSome)
    (hSnapshot : ∀ found ∈ snapshot, before.liveShipment found.id = some found)
    (texts : List String) (hTexts : ∀ text ∈ texts, text ∈ shipmentIds) (result : BulkUpdateResult)
    (hBefore : Touched (BulkMoves before shipmentIds status organizationId actor) before store) :
    (bulkUpdateLoop snapshot organizationId status actor texts result).wp R (fun _ after =>
      Touched (BulkMoves before shipmentIds status organizationId actor) before after) store := by
  induction texts generalizing store result with
  | nil => exact hBefore
  | cons text rest ih =>
      unfold bulkUpdateLoop
      rw [Program.wp_bind]
      apply (bulkUpdateOne_touched (hTexts text List.mem_cons_self) hIds hSnapshot hBefore).mono
      intro outcome after hAfter
      have hRest : ∀ text ∈ rest, text ∈ shipmentIds :=
        fun text hText => hTexts text (List.mem_cons_of_mem _ hText)
      cases outcome with
      | error error => exact hAfter
      | ok failure =>
          cases failure with
          | none => exact ih hRest _ hAfter
          | some reason => exact ih hRest _ hAfter

/-- A bulk update drops no estimate, so it must not move a shipment that has one. -/
theorem bulkUpdateShipmentStatusService_etasKept
    (hNone : ∀ entry ∈ store.etaCache, ∀ id, ObjectId.cast? entry.1 = some id →
      ¬BulkMoves store shipmentIds status organizationId actor id) :
    (bulkUpdateShipmentStatusService shipmentIds status organizationId actor).wp R
      (fun _ after => EtasKept store after) store := by
  unfold bulkUpdateShipmentStatusService
  rw [request, Program.wp_await_bind]
  intro decision _
  have hSame : (perform decision store (.shipmentFindByIds shipmentIds)).1 = store := by
    rw [perform_store_eq]
    simp only [execute]
    repeat' split
    all_goals rfl
  rw [backend_perform, hSame]
  cases hAnswer : (perform decision store (.shipmentFindByIds shipmentIds)).2 with
  | error error => exact .refl store
  | ok snapshot =>
      rw [perform_eq_execute_of_ok rfl hAnswer] at hAnswer
      simp only [execute] at hAnswer
      split at hAnswer
      · cases hAnswer
      · rename_i wanted hWanted
        obtain rfl := Except.ok.inj hAnswer
        have hIds : (shipmentIds.mapM ObjectId.cast?).isSome :=
          Option.isSome_iff_exists.mpr ⟨wanted, hWanted⟩
        apply Program.wp.mono ?_ fun _ _ hAfter => Touched.etasKept_of_before hAfter hNone
        apply bulkUpdateLoop_touched hIds ?_ shipmentIds (fun _ h => h) _ (.refl store)
        intro found hFound
        obtain ⟨hMem, hListed⟩ := List.mem_filter.mp hFound
        simp only [Bool.and_eq_true] at hListed
        exact Option.filter_eq_some_iff.mpr ⟨store.shipments.get?_of_mem hMem, hListed.2⟩

end Bulk

end Status

/-- A patch moves the destination of the shipment. -/
def PatchMoves (store : Store) (metadata : Option Value) (id : ObjectId) : Prop :=
  ∃ shipment, store.liveShipment id = some shipment ∧
    resolveDestinationCoordinates (metadata.or shipment.offChainMetadata) ≠
      resolveDestinationCoordinates shipment.offChainMetadata

theorem etaInputs_patch {metadata : Option Value} {now : Date}
    (hSame : ¬PatchMoves store metadata id) :
    (store.modifyShipment id ((ShipmentUpdate.offChainMetadata metadata).apply now)
      (ShipmentUpdate.apply_id _ now)).etaInputs id = store.etaInputs id := by
  have hStored : (store.modifyShipment id ((ShipmentUpdate.offChainMetadata metadata).apply now)
      (ShipmentUpdate.apply_id _ now)).shipment id =
        (store.shipment id).map ((ShipmentUpdate.offChainMetadata metadata).apply now) :=
    Collection.get?_modify_self _ (ShipmentUpdate.apply_id _ now)
  rw [Store.etaInputs, Store.etaInputs, Store.liveShipment, Store.liveShipment, hStored]
  apply Prod.ext
  · cases hShipment : store.shipment id with
    | none => rfl
    | some shipment =>
        cases hDeleted : shipment.deletedAt with
        | some date => simp [ShipmentUpdate.apply, Option.filter_some, hDeleted]
        | none =>
            have hCoordinates : resolveDestinationCoordinates
                (metadata.or shipment.offChainMetadata) =
                  resolveDestinationCoordinates shipment.offChainMetadata := by
              by_contra hNe
              exact hSame ⟨shipment, by simp [Store.liveShipment, hShipment, hDeleted], hNe⟩
            simp [ShipmentUpdate.apply, Option.filter_some, hDeleted, hCoordinates]
  · rfl

/-- A patch drops no estimate, so it must not move the destination of a shipment that
has one. -/
theorem patchShipmentService_etasKept {metadata : Option Value}
    (hNone : ∀ entry ∈ store.etaCache, ∀ id, ObjectId.cast? entry.1 = some id →
      ObjectId.cast? text = some id → ¬PatchMoves store metadata id) :
    (patchShipmentService text metadata).wp R (fun _ after => EtasKept store after) store := by
  rw [patchShipmentService, request, Program.wp_await]
  intro decision _
  rw [backend_perform]
  rcases perform_store decision store (.shipmentFindByIdAndUpdate text (.offChainMetadata metadata))
    with hStore | hStore
  · rw [hStore]
    exact .refl store
  · rw [hStore]
    simp only [execute, castingId]
    split
    · exact .refl store
    · rename_i key hKey
      split
      · exact .refl store
      · refine ⟨fun _ hEntry => hEntry, fun entry hEntry id hId => ?_⟩
        by_cases hSame : id = key
        · subst hSame
          exact etaInputs_patch (hNone entry hEntry id hId hKey)
        · exact etaInputs_modifyShipment hSame _

/-- A deletion writes the shipment it names, and its telemetry. -/
theorem deleteShipmentService_confined :
    Confined (ObjectId.cast? text = some ·) _ (deleteShipmentService text) := by
  have hT := @confined_compositional (ObjectId.cast? text = some ·)
  have hCall (call : BackendCall) (h : call.confined (ObjectId.cast? text = some ·)) :
      Confined (ObjectId.cast? text = some ·) _ (request call) :=
    confined_request h
  apply hT.bind (hCall .now trivial)
  intro now
  apply hT.bind (hCall (.shipmentFindByIdAndUpdate text _) fun _ h => h)
  intro deleted
  split
  · exact hT.pure _
  · apply hT.bind (hCall .now trivial)
    intro anomaliesAt
    apply hT.bind (hCall .now trivial)
    intro telemetryAt
    apply hT.bind (promiseAll_holds hT (hCall (.anomalyDelete text _) trivial)
      (hCall (.telemetryDelete text _) fun _ h => h))
    exact fun _ => hT.pure _

/-- Where nothing is found, nothing is written, whatever is answered. -/
theorem perform_findByIdAndUpdate_idle {decision : Decision} {update : ShipmentUpdate}
    (hLive : ∀ id, ObjectId.cast? text = some id → store.liveShipment id = none) :
    (perform decision store (.shipmentFindByIdAndUpdate text update)).1 = store ∧
      ∀ found, (perform decision store (.shipmentFindByIdAndUpdate text update)).2 = .ok found →
        found = none := by
  constructor
  · have hExecute :
        (execute decision store (.shipmentFindByIdAndUpdate text update)).1 = store := by
      simp only [execute, castingId]
      split
      · rfl
      · rename_i id hId
        rw [hLive id hId]
    rw [perform_store_eq, hExecute, ite_self]
  · intro found hAnswer
    cases found with
    | none => rfl
    | some shipment =>
        obtain ⟨stored, hStored, -⟩ := shipment_of_findByIdAndUpdate hAnswer
        obtain ⟨id, hId, hSome⟩ := Option.bind_eq_some_iff.mp hStored
        cases (hLive id hId).symm.trans hSome

/-- Deleting a shipment that is not there does nothing. -/
theorem deleteShipmentService_idle
    (hLive : ∀ id, ObjectId.cast? text = some id → store.liveShipment id = none) :
    (deleteShipmentService text).wp R (fun _ after => after = store) store := by
  unfold deleteShipmentService
  rw [currentDate, request, Program.wp_await_bind]
  intro clock _
  rw [backend_perform, perform_now]
  change Program.wp R (request (.shipmentFindByIdAndUpdate text (.deletedAt clock.now)) >>= _) _ _
  rw [request, Program.wp_await_bind]
  intro decision _
  obtain ⟨hStore, hFound⟩ :=
    @perform_findByIdAndUpdate_idle text store decision (.deletedAt clock.now) hLive
  rw [backend_perform, hStore]
  cases hAnswer : (perform decision store (.shipmentFindByIdAndUpdate text
      (.deletedAt clock.now))).2 with
  | error error => rfl
  | ok deleted =>
      obtain rfl := hFound deleted hAnswer
      rfl

/-- A deletion drops no estimate, so the shipment must have none. -/
theorem deleteShipmentService_etasKept
    (hNone : ∀ entry ∈ store.etaCache, ∀ id, ObjectId.cast? entry.1 = some id →
      ObjectId.cast? text = some id → store.liveShipment id = none) :
    (deleteShipmentService text).wp R (fun _ after => EtasKept store after) store := by
  by_cases hLive : ∀ id, ObjectId.cast? text = some id → store.liveShipment id = none
  · apply (deleteShipmentService_idle hLive).mono
    rintro outcome after rfl
    exact .refl _
  · apply (deleteShipmentService_confined.touched_wp R (.refl store)).mono
    intro outcome after hAfter
    apply hAfter.etasKept_of_before
    intro entry hEntry id hEntryId hId
    apply hLive
    intro other hOther
    obtain rfl := Option.some.inj (hId.symm.trans hOther)
    exact hNone entry hEntry id hEntryId hId

/-- A new entry of the cache has been written. -/
theorem etaCache_wp {α : Type} {p : BackendM α} (entry : String × EtaPayload) :
    p.wp (fun step : Step backend => step.request ≠ .writeShipmentEtaCache entry.1 entry.2)
      (fun _ after => entry ∈ after.etaCache → entry ∈ store.etaCache) store :=
  Program.wp_invariant (W := backend) (fun after => entry ∈ after.etaCache → entry ∈ store.etaCache)
    (fun _ hStep hBefore hAfter =>
      hBefore ((mem_etaCache_of_perform hAfter).resolve_right hStep)) id

section Eta

variable [EtaArithmetic]

/-- The calls of the estimate write neither shipments nor telemetry. -/
def BackendCall.estimates : BackendCall → Bool
  | .now | .readShipmentEtaCache _ | .writeShipmentEtaCache _ _ | .shipmentFindById _
  | .telemetryFind _ => true
  | _ => false

omit [EtaArithmetic] in
theorem etaInputs_perform {decision : Decision} {call : BackendCall} (h : call.estimates = true)
    (id : ObjectId) : (perform decision store call).1.etaInputs id = store.etaInputs id := by
  have hShipments : call.writesShipments = false := by cases call <;> first | rfl | cases h
  have hTelemetry : call.writesTelemetry = false := by cases call <;> first | rfl | cases h
  exact etaInputs_congr (perform_shipments hShipments) (perform_telemetry hTelemetry) id

theorem getShipmentEtaService_estimates :
    (getShipmentEtaService text).Uses fun call => call.estimates = true := by
  have hT : Program.Compositional fun α (p : BackendM α) =>
    p.Uses fun call => call.estimates = true := Program.Uses.compositional _
  have hCall (call : BackendCall) (h : call.estimates = true) :
      (request call).Uses fun call => call.estimates = true := .await h
  apply hT.bind (hCall (.readShipmentEtaCache text) rfl)
  intro cached
  split
  · exact hT.pure _
  · apply hT.bind (hCall (.shipmentFindById text) rfl)
    intro found
    split
    · exact hT.throw _
    · split
      · unfold estimateInTransit
        split
        · exact hT.throw _
        · apply hT.bind (hCall (.telemetryFind text) rfl)
          intro rows
          split
          · exact hT.throw _
          · apply hT.bind (hCall .now rfl)
            intro now
            exact hT.bind (hCall (.writeShipmentEtaCache text _) rfl) fun _ => hT.pure _
      · exact hT.bind (hCall (.writeShipmentEtaCache text _) rfl) fun _ => hT.pure _

/-- Asking for an estimate changes none of its inputs. -/
theorem getShipmentEtaService_inputs : (getShipmentEtaService text).wp R
    (fun _ after => ∀ id, after.etaInputs id = store.etaInputs id) store :=
  getShipmentEtaService_estimates.wp (W := backend)
    (fun after => ∀ id, after.etaInputs id = store.etaInputs id)
    (fun _ hCall _ hBefore id => (etaInputs_perform hCall id).trans (hBefore id)) fun _ => rfl

omit [EtaArithmetic] in
/-- What is written is what is answered. -/
theorem writeAndReturn_wp {payload written : EtaPayload} :
    (do request (.writeShipmentEtaCache text written)
        return written : BackendM EtaPayload).wp
      (fun step : Step backend => step.request ≠ .writeShipmentEtaCache text payload)
      (fun outcome _ => outcome ≠ .ok payload) store := by
  rw [request, Program.wp_await_bind]
  intro decision hStep
  obtain ⟨answer, hAnswer⟩ := @perform_ok_of_alwaysAnswers decision store
    (.writeShipmentEtaCache text written) rfl
  rw [backend_perform, hAnswer]
  rintro hSame
  obtain rfl := Except.ok.inj hSame
  exact hStep rfl

theorem computeShipmentEta_wp {payload : EtaPayload} :
    (computeShipmentEta text).wp
      (fun step : Step backend => step.request ≠ .writeShipmentEtaCache text payload)
      (fun outcome _ => outcome ≠ .ok payload) store := by
  unfold computeShipmentEta
  rw [findShipmentById, request, Program.wp_await_bind]
  intro decision _
  cases (backend.perform decision store (.shipmentFindById text)).2 with
  | error error => exact fun h => by cases h
  | ok found =>
      cases found with
      | none => exact fun h => by cases h
      | some shipment =>
          change Program.wp _ (if shipment.status = .inTransit then _ else _) _ _
          split
          · unfold estimateInTransit
            split
            · exact fun h => by cases h
            · rw [request, Program.wp_await_bind]
              intro decision' _
              cases (backend.perform decision' _ (.telemetryFind text)).2 with
              | error error => exact fun h => by cases h
              | ok rows =>
                  change Program.wp _ _ _ _
                  dsimp only
                  split
                  · exact fun h => by cases h
                  · rw [currentDate, request, Program.wp_await_bind]
                    intro clock _
                    rw [backend_perform, perform_now]
                    exact writeAndReturn_wp
          · exact writeAndReturn_wp

/-- An estimate that is served without having been written was cached. -/
theorem getShipmentEtaService_served {payload : EtaPayload} :
    (getShipmentEtaService text).wp
      (fun step : Step backend => step.request ≠ .writeShipmentEtaCache text payload)
      (fun outcome _ => outcome = .ok payload → (text, payload) ∈ store.etaCache) store := by
  unfold getShipmentEtaService
  rw [request, Program.wp_await_bind]
  intro decision _
  rw [backend_perform]
  cases hAnswer : (perform decision store (.readShipmentEtaCache text)).2 with
  | error error => exact fun h => by cases h
  | ok cached =>
      cases cached with
      | none =>
          apply computeShipmentEta_wp.mono
          exact fun _ _ hOther hSame => absurd hSame hOther
      | some found =>
          intro hSame
          obtain rfl := Except.ok.inj hSame
          cases hFault : decision.fault with
          | some fault =>
              rw [perform_of_fault hFault] at hAnswer
              cases hAnswer
          | none =>
              rw [perform_of_fault_none hFault] at hAnswer
              simp only [execute, Except.ok.injEq] at hAnswer
              split at hAnswer
              · cases hAnswer
              · obtain ⟨before, after, hCache, -⟩ := List.lookup_eq_some_iff.mp hAnswer
                rw [hCache]
                simp

end Eta

end Navin
