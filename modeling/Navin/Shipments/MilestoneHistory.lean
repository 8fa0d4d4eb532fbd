import Navin.Semantics.History
import Navin.Shipments.BulkReport
import Navin.Shipments.RecordService
import Navin.Shipments.AttachmentService

/-! The milestones of a shipment are the history of its status. One request
after the other, a status update adds the milestone of the status it stores, in
one save; nothing else a service writes touches either. -/
namespace Navin

open Async

/-- One request to a service that writes an existing shipment. -/
inductive ShipmentWrite where
  | setStatus (id : String) (status : ShipmentStatus) (actor : Option String)
  | patch (id : String) (offChainMetadata : Option Value)
  | proof (id : String) (file : UploadedFile) (recipientSignatureName notes actor : Option String)
  | document (id : String) (file : UploadedFile) (docType : String) (userId : Option String)
  | photo (id : String) (file : UploadedFile) (caption userId : Option String)
  | dispute (id : String) (file : Option UploadedFile) (type description : String)
      (actor : Option String)
  | delete (id : String)

def ShipmentWrite.setsStatus : ShipmentWrite → Bool
  | .setStatus _ _ _ => true
  | _ => false

def ShipmentWrite.program [Sha256] : ShipmentWrite → BackendM Unit
  | .setStatus id status actor => do
      let _ ← updateShipmentStatusService id status actor
  | .patch id offChainMetadata => do
      let _ ← patchShipmentService id offChainMetadata
  | .proof id file recipientSignatureName notes actor => do
      let _ ← uploadShipmentProofService id file recipientSignatureName notes actor
  | .document id file docType userId => do
      let _ ← uploadShipmentDocumentService id file docType userId
  | .photo id file caption userId => do
      let _ ← uploadShipmentPhotoService id file caption userId
  | .dispute id file type description actor => do
      let _ ← createDisputeService id file type description actor
  | .delete id => do
      let _ ← deleteShipmentService id

/-- The transitions of the state machine. -/
def CanFollow (status next : ShipmentStatus) : Prop :=
  next ∈ allowedTransitions status

/-- How far a status is on the way; a cancellation ends it from anywhere. -/
def ShipmentStatus.rank : ShipmentStatus → Nat
  | .created => 0
  | .pickupConfirmed => 1
  | .inTransit => 2
  | .customsCleared => 3
  | .outForDelivery => 4
  | .delivered => 5
  | .settlementInitiated => 6
  | .settlementCompleted => 7
  | .cancelled => 8

/-- No transition leads back. -/
theorem rank_lt_of_canFollow (status next : ShipmentStatus) (h : CanFollow status next) :
    status.rank < next.rank := by
  unfold CanFollow at h
  cases status <;> cases next <;> revert h <;> decide

/-- The calls that leave status and milestones of every shipment alone. -/
def BackendCall.keepsProgress : BackendCall → Prop
  | .shipmentInsert _ => False
  | .shipmentSave _ changes => changes.status = none ∧ changes.milestones = []
  | .shipmentFindByIdAndUpdate _ (.setStatus _ _) => False
  | _ => True

section Calls

variable {decision : Decision} {store : Store} {call : BackendCall} {id saved : ObjectId}

/-- Modifying one shipment changes at most its own progress. -/
theorem Store.progress_modifyShipment (store : Store) (saved id : ObjectId)
    {f : Shipment → Shipment} (hId : ∀ shipment, (f shipment).id = shipment.id) :
    (store.modifyShipment saved f hId).progress id =
      if id = saved then
        (store.shipment saved).map fun shipment => ((f shipment).status, (f shipment).milestones)
      else store.progress id :=
  Collection.get?_modify_map _ hId _

theorem progress_modifyShipment_of_eq {f : Shipment → Shipment}
    (hId : ∀ shipment, (f shipment).id = shipment.id)
    (hKeeps : ∀ shipment, (f shipment).status = shipment.status ∧
      (f shipment).milestones = shipment.milestones) :
    (store.modifyShipment saved f hId).progress id = store.progress id :=
  Collection.get?_modify_map_of_eq _ hId fun shipment =>
    Prod.ext (hKeeps shipment).1 (hKeeps shipment).2

theorem perform_progress (h : call.keepsProgress) :
    Store.progress (perform decision store call).1 id = store.progress id := by
  rcases perform_store decision store call with hStore | hStore
  · rw [hStore]
  · rw [hStore]
    by_cases hWrites : call.writesShipments = true
    · cases call with
      | shipmentInsert build => exact h.elim
      | shipmentSave saved changes =>
          obtain ⟨hStatus, hMilestones⟩ := h
          simp only [execute]
          split
          · rfl
          · refine progress_modifyShipment_of_eq (changes.apply_id _) fun shipment => ?_
            simp [ShipmentChanges.apply, hStatus, hMilestones]
      | shipmentFindByIdAndUpdate text update =>
          simp only [execute, castingId]
          split
          · rfl
          · split
            · rfl
            · refine progress_modifyShipment_of_eq (update.apply_id _) fun shipment => ?_
              cases update with
              | setStatus status milestone => exact h.elim
              | _ => exact ⟨rfl, rfl⟩
      | _ => cases hWrites
    · rw [Store.progress, Store.shipment, execute_shipments (eq_false_of_ne_true hWrites)]
      rfl

/-- A program of such calls leaves the progress of every shipment alone. -/
theorem run_progress {α : Type} {p : BackendM α} (h : p.Uses BackendCall.keepsProgress)
    (id : ObjectId) (env : Nat → Decision) (store : Store) :
    Store.progress (p.run backend env store).1 id = store.progress id :=
  h.run (W := backend) (fun store => store.progress id) (fun _ _ _ hCall => perform_progress hCall)
    env store

theorem keepsProgress_of_incidental {call : BackendCall} (h : call.incidental = true) :
    call.keepsProgress := by
  cases call <;> trivial

/-- A save of status and milestone stores both or neither. -/
theorem progress_of_save (decision : Decision) (store : Store) (saved id : ObjectId)
    (status : ShipmentStatus) (milestone : Milestone) :
    let changes : ShipmentChanges := { status := some status, milestones := [milestone] }
    let after := (perform decision store (.shipmentSave saved changes)).1
    Store.progress after id = store.progress id ∨
      id = saved ∧ Store.progress after id = (store.progress id).map fun progress =>
        (status, progress.2 ++ [milestone]) := by
  intro changes after
  rcases perform_store decision store (.shipmentSave saved changes) with hStore | hStore
  · exact .inl (congrArg (Store.progress · id) hStore)
  · simp only [after, hStore, execute]
    split
    · exact .inl rfl
    · by_cases hSame : id = saved
      · refine .inr ⟨hSame, ?_⟩
        rw [Store.progress_modifyShipment, if_pos hSame, Store.progress, hSame, Option.map_map]
        rfl
      · left
        rw [Store.progress_modifyShipment, if_neg hSame]

theorem progress_of_find {text : String} {shipment : Shipment}
    (h : (perform decision store (.shipmentFindById text)).2 = .ok (some shipment)) :
    ObjectId.cast? text = some shipment.id ∧
      store.progress shipment.id = some (shipment.status, shipment.milestones) := by
  rw [perform_eq_execute_of_ok rfl h] at h
  simp only [execute, castingId] at h
  split at h
  · cases h
  · rename_i oid hId
    have hStored := (Option.filter_eq_some_iff.mp (Except.ok.inj h)).1
    obtain rfl := store.shipments.key_of_get? hStored
    refine ⟨hId, ?_⟩
    rw [Store.progress, hStored]
    rfl

end Calls

section Services

variable {id : String} {status : ShipmentStatus} {actor : Option String} {shipment : Shipment}
  {file : UploadedFile}

theorem keepsProgress_request {call : BackendCall} (h : call.incidental = true) :
    (request call).Uses BackendCall.keepsProgress :=
  .await (keepsProgress_of_incidental h)

theorem attachFile_keepsProgress {key : BackendM String} {label userId : Option String}
    {refusal : Shipment → Option ThrownError} {changes : Attachment → ShipmentChanges}
    (hKey : key.Uses BackendCall.keepsProgress)
    (hChanges : ∀ attachment, (changes attachment).status = none ∧
      (changes attachment).milestones = []) :
    (attachFile id file key label userId refusal changes).Uses BackendCall.keepsProgress := by
  refine .bind (storeFile_holds (Program.Uses.compositional _) (fun _ => keepsProgress_request) hKey)
    fun url => .bind (.await trivial) fun found => ?_
  split
  · trivial
  · split
    · trivial
    · exact .bind (keepsProgress_request rfl) fun now =>
        .bind (.await (hChanges _)) fun savedAt => trivial

theorem auditAction_keepsProgress {action : String} :
    (auditAction actor action id).Uses BackendCall.keepsProgress :=
  auditAction_holds (Program.Uses.compositional _) fun _ => keepsProgress_request

theorem createDisputeService_keepsProgress {evidence : Option UploadedFile}
    {type description : String} :
    (createDisputeService id evidence type description actor).Uses BackendCall.keepsProgress := by
  have hEvidence : (storeEvidence id evidence).Uses BackendCall.keepsProgress := by
    cases evidence with
    | none => trivial
    | some file =>
        refine .bind (storeFile_holds (Program.Uses.compositional _)
          (fun _ => keepsProgress_request) ?_) fun url => trivial
        exact .bind (keepsProgress_request rfl) fun now =>
          storageKey_holds (Program.Uses.compositional _) fun _ => keepsProgress_request
  refine hEvidence.bind fun url => .bind (.await trivial) fun found => ?_
  split
  · trivial
  · refine .bind (keepsProgress_request rfl) fun reference => .bind (keepsProgress_request rfl)
      fun createdAt => .bind (keepsProgress_request rfl) fun updatedAt => ?_
    exact .bind (.await ⟨rfl, rfl⟩) fun savedAt => auditAction_keepsProgress.bind fun _ => trivial

theorem deleteShipmentService_keepsProgress :
    (deleteShipmentService id).Uses BackendCall.keepsProgress := by
  refine .bind (keepsProgress_request rfl) fun now => .bind (.await trivial) fun deleted => ?_
  split
  · trivial
  · refine .bind (keepsProgress_request rfl) fun anomaliesAt =>
      .bind (keepsProgress_request rfl) fun telemetryAt => .bind ?_ fun _ => trivial
    exact promiseAll_holds (Program.Uses.compositional _) (.await trivial) (.await trivial)

variable [Sha256]

/-- Only status updates write status and milestones of a stored shipment. -/
theorem ShipmentWrite.keepsProgress {write : ShipmentWrite} (h : write.setsStatus = false) :
    write.program.Uses BackendCall.keepsProgress := by
  have hKey {shipmentId folder filename : String} :
      (storageKey shipmentId folder filename).Uses BackendCall.keepsProgress :=
    storageKey_holds (Program.Uses.compositional _) fun _ => keepsProgress_request
  cases write with
  | setStatus id status actor => cases h
  | patch id offChainMetadata => exact .bind (.await trivial) fun _ => trivial
  | proof id file recipientSignatureName notes actor =>
      refine .bind (.bind (storeFile_holds (Program.Uses.compositional _)
        (fun _ => keepsProgress_request) hKey) fun url => ?_) fun _ => trivial
      refine .bind (keepsProgress_request rfl) fun now => .bind (.await trivial) fun updated => ?_
      split
      · trivial
      · refine .bind (recordProofSubmitted_holds (Program.Uses.compositional _)
          (fun _ => keepsProgress_request) fun _ _ _ => .await trivial) fun _ => ?_
        exact auditAction_keepsProgress.bind fun _ => trivial
  | document id file docType userId =>
      exact .bind (attachFile_keepsProgress hKey fun _ => ⟨rfl, rfl⟩) fun _ => trivial
  | photo id file caption userId =>
      exact .bind (attachFile_keepsProgress hKey fun _ => ⟨rfl, rfl⟩) fun _ => trivial
  | dispute id file type description actor =>
      exact createDisputeService_keepsProgress.bind fun _ => trivial
  | delete id => exact deleteShipmentService_keepsProgress.bind fun _ => trivial

omit [Sha256] in
theorem milestoneFor_name {env env' : Nat → Decision} {store store' : Store} {milestone : Milestone}
    (h : (milestoneFor status actor).run backend env store = (store', .ok milestone, env')) :
    milestone.name = status := by
  obtain ⟨_, now, _, -, hRest⟩ := Program.run_bind_eq_ok.mp h
  dsimp only at hRest
  split at hRest
  · cases hRest
    rfl
  · obtain ⟨_, found, _, -, hDone⟩ := Program.run_bind_eq_ok.mp hRest
    cases hDone
    rfl

theorem settleWhenDelivered_keepsProgress :
    (settleWhenDelivered id status shipment actor).Uses BackendCall.keepsProgress := by
  unfold settleWhenDelivered
  split
  · exact settleDelivery_holds (Program.Uses.compositional _)
      (fun _ h => keepsProgress_request (BackendCall.incidental_of_aside h))
      (fun _ => .await trivial) (fun _ => .await trivial) (fun _ _ => .await trivial)
      fun _ _ => .await trivial
  · trivial

/-- What is left of a status update after the save. -/
theorem afterSave_keepsProgress {saved : Shipment} {previous : ShipmentStatus} :
    (do
      request .invalidateAnalyticsPerformanceCache
      request (.invalidateShipmentEtaCache id)
      recordStatusChange id previous status actor
      let simulated ← settleWhenDelivered id status saved actor
      auditStatusChange actor id
      emitStatusUpdate id saved
      return some ⟨saved, simulated⟩ : BackendM (Option StatusUpdateResult)).Uses
        BackendCall.keepsProgress := by
  refine .bind (keepsProgress_request rfl) fun _ => .bind (keepsProgress_request rfl) fun _ => ?_
  refine .bind (recordStatusChange_holds (Program.Uses.compositional _)
    (fun _ h => keepsProgress_request (BackendCall.incidental_of_aside h))
    fun _ _ _ => .await trivial) fun _ => ?_
  refine settleWhenDelivered_keepsProgress.bind fun simulated => ?_
  refine .bind (auditStatusChange_holds (Program.Uses.compositional _)
    fun _ h => keepsProgress_request (BackendCall.incidental_of_aside h)) fun _ => ?_
  exact .bind (keepsProgress_request rfl) fun _ => trivial

variable (id status actor shipment) in
/-- A status update that gets as far as the save. -/
theorem commitStatusUpdate_progress (env : Nat → Decision) (store : Store) (oid : ObjectId) :
    let after := ((commitStatusUpdate id shipment status actor).run backend env store).1
    Store.progress after oid = store.progress oid ∨
      oid = shipment.id ∧ ∃ milestone, milestone.name = status ∧
        Store.progress after oid = (store.progress oid).map fun progress =>
          (status, progress.2 ++ [milestone]) := by
  intro after
  have hMilestone : (milestoneFor status actor).Uses BackendCall.keepsProgress :=
    milestoneFor_holds (Program.Uses.compositional _) fun _ h =>
      keepsProgress_request (BackendCall.incidental_of_aside h)
  have hBefore := run_progress hMilestone oid env store
  rcases hRun : (milestoneFor status actor).run backend env store with ⟨store₁, outcome, env₁⟩
  rw [hRun] at hBefore
  simp only [after, commitStatusUpdate]
  cases outcome with
  | error error =>
      rw [Program.run_bind_error hRun]
      exact .inl hBefore
  | ok milestone =>
      rw [Program.run_bind_ok hRun, Program.run_bind_view backend (fun store => store.progress oid)
        BackendCall.keepsProgress (fun _ => afterSave_keepsProgress)
        fun _ _ _ hCall => perform_progress hCall, Program.run_await]
      rcases progress_of_save (env₁ 0) store₁ shipment.id oid status milestone with
        hSame | ⟨rfl, hMoved⟩
      · exact .inl (hSame.trans hBefore)
      · refine .inr ⟨rfl, milestone, milestoneFor_name hRun, hMoved.trans ?_⟩
        rw [hBefore]

variable (id status actor) in
/-- What one status update does to a stored shipment: nothing, or the step to
the requested status that the state machine allows. -/
theorem updateShipmentStatusService_progress (env : Nat → Decision) (store : Store)
    (oid : ObjectId) :
    let after := ((updateShipmentStatusService id status actor).run backend env store).1
    Store.progress after oid = store.progress oid ∨
      ∃ current milestones milestone, ObjectId.cast? id = some oid ∧
        store.progress oid = some (current, milestones) ∧ CanFollow current status ∧
        milestone.name = status ∧
        Store.progress after oid = some (status, milestones ++ [milestone]) := by
  intro after
  let found := perform (env 0) store (.shipmentFindById id)
  have hRun : (findShipmentById id).run backend env store =
      (found.1, found.2, fun n => env (n + 1)) := Program.run_await _ _ _
  have hKept : Store.progress found.1 oid = store.progress oid := perform_progress trivial
  simp only [after, updateShipmentStatusService]
  cases hFind : found.2 with
  | error error =>
      rw [hFind] at hRun
      rw [Program.run_bind_error hRun]
      exact .inl hKept
  | ok answer =>
      rw [hFind] at hRun
      rw [Program.run_bind_ok hRun]
      cases answer with
      | none => exact .inl hKept
      | some shipment =>
          dsimp only
          split
          · exact .inl hKept
          · split
            · exact .inl hKept
            · rename_i hValid
              obtain ⟨hId, hStored⟩ := progress_of_find hFind
              rcases commitStatusUpdate_progress id status actor shipment (fun n => env (n + 1))
                found.1 oid with
                hSame | ⟨rfl, milestone, hName, hMoved⟩
              · exact .inl (hSame.trans hKept)
              · refine .inr ⟨shipment.status, shipment.milestones, milestone, hId, hStored,
                  validateStatusTransition_ok_iff.mp hValid, hName, hMoved.trans ?_⟩
                rw [hKept, hStored]
                rfl

/-- A status update that the state machine does not allow is never answered
with a shipment. -/
theorem updateShipmentStatusService_refuses {current : ShipmentStatus} {milestones : List Milestone}
    {oid : ObjectId} (env : Nat → Decision) (store : Store) (hId : ObjectId.cast? id = some oid)
    (hStored : store.progress oid = some (current, milestones)) (hNe : current ≠ status)
    (hRefused : ¬CanFollow current status) (result : StatusUpdateResult) :
    ((updateShipmentStatusService id status actor).run backend env store).2.1 ≠
      .ok (some result) := by
  intro hOutcome
  rcases hRun : (updateShipmentStatusService id status actor).run backend env store with
    ⟨store', outcome, env'⟩
  rw [hRun] at hOutcome
  subst hOutcome
  obtain ⟨_, found, _, hFind, hRest⟩ := Program.run_bind_eq_ok.mp hRun
  cases found with
  | none => cases hRest
  | some shipment =>
      obtain ⟨hPerform, -⟩ := Program.run_await_eq_ok.mp hFind
      obtain ⟨hOther, hShipment⟩ := progress_of_find (congrArg Prod.snd hPerform)
      obtain rfl := Option.some.inj (hId.symm.trans hOther)
      obtain ⟨rfl, -⟩ := Prod.mk.inj (Option.some.inj (hStored.symm.trans hShipment))
      simp only [if_neg hNe] at hRest
      split at hRest
      · cases hRest
      · rename_i hValid
        exact hRefused (validateStatusTransition_ok_iff.mp hValid)

end Services

section Runs

variable [Sha256]

/-- The milestones stored for a shipment are the history of its status. -/
def Store.WellTraveled (store : Store) (id : ObjectId) : Prop :=
  ∃ status milestones, store.progress id = some (status, milestones) ∧
    History CanFollow .created (milestones.map (·.name)) status

theorem ShipmentWrite.wellTraveled (write : ShipmentWrite) (id : ObjectId) (env : Nat → Decision)
    (store : Store) (h : store.WellTraveled id) :
    Store.WellTraveled (write.program.run backend env store).1 id := by
  obtain ⟨current, milestones, hStored, hHistory⟩ := h
  have hSame (after : Store) (hAfter : after.progress id = store.progress id) :
      after.WellTraveled id :=
    ⟨current, milestones, hAfter.trans hStored, hHistory⟩
  by_cases hWrite : write.setsStatus = true
  · cases write with
    | setStatus text status actor =>
        have hOutcome : Store.progress
            ((ShipmentWrite.setStatus text status actor).program.run backend env store).1 id =
              Store.progress ((updateShipmentStatusService text status actor).run backend env store).1
                id :=
          Program.run_bind_view backend (fun store => store.progress id) BackendCall.keepsProgress
            (f := fun _ => pure ()) (fun _ => trivial) (fun _ _ _ hCall => perform_progress hCall)
            env store
        rcases updateShipmentStatusService_progress text status actor env store id with
          hKept | ⟨before, earlier, milestone, -, hBefore, hAllowed, hName, hAfter⟩
        · exact hSame _ (hOutcome.trans hKept)
        · obtain ⟨rfl, rfl⟩ := Prod.mk.inj (Option.some.inj (hStored.symm.trans hBefore))
          refine ⟨status, milestones ++ [milestone], hOutcome.trans hAfter, ?_⟩
          rw [List.map_append, List.map_singleton, hName]
          exact hHistory.enter hAllowed
    | _ => cases hWrite
  · exact hSame _ (run_progress (write.keepsProgress (eq_false_of_ne_true hWrite)) id env store)

section Creation

variable {input : CreateShipmentInput} {creator : Option String} {shipment : Shipment}
  {env env' : Nat → Decision} {store created : Store}

omit [Sha256]

theorem tokenizeCreated_keepsProgress :
    (tokenizeCreated shipment).Uses BackendCall.keepsProgress := by
  refine .tryCatch (.bind (.await trivial) fun hash => ?_) fun _ => trivial
  exact .tryCatch (.bind (.await ⟨rfl, rfl⟩) fun savedAt => trivial) fun _ => trivial

/-- Tokenization changes what is answered, not which shipment it is about. -/
theorem tokenizeCreated_id {tokenized : Shipment}
    (h : (tokenizeCreated shipment).run backend env store = (created, .ok tokenized, env')) :
    tokenized.id = shipment.id := by
  rw [tokenizeCreated, Program.run_tryCatch] at h
  split at h
  · rename_i hBody
    cases h
    obtain ⟨_, hash, _, -, hSave⟩ := Program.run_bind_eq_ok.mp hBody
    dsimp only at hSave
    rw [Program.run_tryCatch] at hSave
    split at hSave
    · rename_i hSaved
      cases hSave
      obtain ⟨_, savedAt, _, -, hDone⟩ := Program.run_bind_eq_ok.mp hSaved
      cases hDone
      rfl
    · cases hSave
      rfl
  · cases h
    rfl

/-- A first save that succeeds stores the shipment without milestones. -/
theorem insertShipment_progress {trackingNumber : String}
    (h : (insertShipment input trackingNumber).run backend env store =
      (created, .ok shipment, env')) :
    created.progress shipment.id = some (.created, []) := by
  unfold insertShipment at h
  split at h
  · cases h
  · cases h
  · obtain ⟨hPerform, -⟩ := Program.run_await_eq_ok.mp h
    have hResponse := congrArg Prod.snd hPerform
    have hExecute := (perform_eq_execute_of_ok rfl hResponse).symm.trans hPerform
    simp only [execute] at hExecute
    split at hExecute
    · rename_i hFresh
      cases hExecute
      simp [Store.progress, Store.shipment, Collection.get?_insert, newShipment]
    · cases hExecute

/-- A shipment that has just been created has no milestones. -/
theorem createShipmentService_progress
    (h : (createShipmentService input creator).run backend env store =
      (created, .ok shipment, env')) :
    created.progress shipment.id = some (.created, []) := by
  obtain ⟨_, trackingNumber, _, -, hRest⟩ := Program.run_bind_eq_ok.mp h
  obtain ⟨store₁, inserted, env₁, hInsert, hRest⟩ := Program.run_bind_eq_ok.mp hRest
  have hKeeps : (do
      let tokenized ← tokenizeCreated inserted
      let now ← currentDate
      request (.auditLog ⟨creator.getD "system", "SHIPMENT_CREATED", inserted.id.toString, now⟩)
      return tokenized : BackendM Shipment).Uses BackendCall.keepsProgress :=
    tokenizeCreated_keepsProgress.bind fun _ => .bind (keepsProgress_request rfl) fun _ =>
      .bind (keepsProgress_request rfl) fun _ => trivial
  have hKept := run_progress hKeeps inserted.id env₁ store₁
  rw [hRest] at hKept
  obtain ⟨_, tokenized, _, hTokenize, hRest⟩ := Program.run_bind_eq_ok.mp hRest
  obtain ⟨_, now, _, -, hRest⟩ := Program.run_bind_eq_ok.mp hRest
  obtain ⟨_, _, _, -, hDone⟩ := Program.run_bind_eq_ok.mp hRest
  cases hDone
  rw [tokenizeCreated_id hTokenize]
  exact hKept.trans (insertShipment_progress hInsert)

end Creation

/-- The state machine as the stored shipment shows it, and what the next request
may do to it. -/
structure MilestoneLaw (id : ObjectId) (store : Store) (status : ShipmentStatus)
    (milestones : List Milestone) : Prop where
  stored : store.progress id = some (status, milestones)
  path : List.IsChain CanFollow (.created :: milestones.map (·.name))
  last : ∀ milestone ∈ milestones.getLast?, milestone.name = status
  empty : milestones = [] ↔ status = .created
  distinct : (milestones.map (·.name)).Nodup
  rejected : ∀ text target actor env, ObjectId.cast? text = some id → status ≠ target →
    ¬CanFollow status target →
      let ended := (updateShipmentStatusService text target actor).run backend env store
      Store.progress ended.1 id = some (status, milestones) ∧
        ∀ result, ended.2.1 ≠ .ok (some result)
  others : ∀ write : ShipmentWrite, write.setsStatus = false → ∀ env,
    Store.progress (write.program.run backend env store).1 id = some (status, milestones)

theorem milestoneLaw_of_history {id : ObjectId} {store : Store} {status : ShipmentStatus}
    {milestones : List Milestone} (hStored : store.progress id = some (status, milestones))
    (hHistory : History CanFollow .created (milestones.map (·.name)) status) :
    MilestoneLaw id store status milestones where
  stored := hStored
  path := hHistory.path
  last milestone hLast := by
    have hNe : milestones.map (·.name) ≠ [] := by
      intro hNil
      rw [List.map_eq_nil_iff.mp hNil] at hLast
      cases hLast
    have hName := hHistory.getLast?_eq hNe
    rw [List.getLast?_map, Option.mem_def.mp hLast] at hName
    exact Option.some.inj hName
  empty := by
    rw [← hHistory.eq_nil_iff rank_lt_of_canFollow, List.map_eq_nil_iff]
  distinct := (List.nodup_cons.mp (hHistory.nodup rank_lt_of_canFollow)).2
  rejected text target actor env hId hNe hRefused := by
    refine ⟨?_, updateShipmentStatusService_refuses env store hId hStored hNe hRefused⟩
    rcases updateShipmentStatusService_progress text target actor env store id with
      hKept | ⟨before, _, _, -, hBefore, hAllowed, -⟩
    · exact hKept.trans hStored
    · obtain ⟨rfl, -⟩ := Prod.mk.inj (Option.some.inj (hStored.symm.trans hBefore))
      exact absurd hAllowed hRefused
  others write hWrite env := (run_progress (write.keepsProgress hWrite) id env store).trans hStored

/-- However a new shipment is written to, one request after the other and
whatever fails, its milestones are a path through the state machine that ends in
its status. -/
theorem milestones_follow_transitions {input : CreateShipmentInput} {creator : Option String}
    {env env' : Nat → Decision} {store created : Store} {shipment : Shipment}
    (hCreated : (createShipmentService input creator).run backend env store =
      (created, .ok shipment, env'))
    (writes : List ShipmentWrite) :
    ∃ status milestones, MilestoneLaw shipment.id
      ((Program.inTurn (writes.map ShipmentWrite.program)).run backend env' created).1
      status milestones := by
  have hStart : created.WellTraveled shipment.id :=
    ⟨.created, [], createShipmentService_progress hCreated, .refl CanFollow .created⟩
  have hStep : ∀ p ∈ writes.map ShipmentWrite.program, ∀ env store,
      Store.WellTraveled store shipment.id →
        Store.WellTraveled (p.run backend env store).1 shipment.id := by
    intro p hp env store h
    obtain ⟨write, -, rfl⟩ := List.mem_map.mp hp
    exact write.wellTraveled shipment.id env store h
  obtain ⟨status, milestones, hStored, hHistory⟩ :=
    Program.inTurn_invariant (W := backend) _ hStart hStep
  exact ⟨status, milestones, milestoneLaw_of_history hStored hHistory⟩

end Runs

/-- No call fails, and every new document gets the id of the sample shipment. -/
def sampleDecisions (_ : Nat) : Decision where
  freshId := sampleShipment.id

/-- A shipment that gets created. -/
abbrev sampleCreation : Store × Except ThrownError Shipment × (Nat → Decision) :=
  (createShipmentService
    { trackingNumber := none, origin := "Lagos", destination := "Accra"
      enterpriseId := sampleShipment.enterpriseId.toString
      logisticsId := sampleShipment.logisticsId.toString, offChainMetadata := none }
    none).run backend sampleDecisions {}

/-- It is sent on its way, patched and delivered; then somebody wants it picked
up, and it is deleted. -/
def sampleWrites : List ShipmentWrite :=
  let id := sampleShipment.id.toString
  [.setStatus id .inTransit none, .patch id (some .null), .setStatus id .delivered none,
    .setStatus id .pickupConfirmed none, .delete id]

theorem milestones_follow_transitions_sample :
    ∃ shipment, sampleCreation.2.1 = .ok shipment ∧
      ∃ milestones, milestones.length = 2 ∧
        @MilestoneLaw (tabulatedSha256 []) shipment.id ((Program.inTurn (sampleWrites.map
          (@ShipmentWrite.program (tabulatedSha256 [])))).run backend sampleCreation.2.2
            sampleCreation.1).1 .delivered milestones := by
  have hCreated : sampleCreation.2.1.toOption.any (·.id = sampleShipment.id) = true := by
    decide +kernel
  have hReached : (Store.progress ((Program.inTurn (sampleWrites.map
      (@ShipmentWrite.program (tabulatedSha256 [])))).run backend sampleCreation.2.2
        sampleCreation.1).1 sampleShipment.id).map (fun progress =>
          (progress.1, progress.2.length)) = some (.delivered, 2) := by
    decide +kernel
  rcases hRun : sampleCreation with ⟨created, outcome, env'⟩
  rw [hRun] at hCreated hReached
  cases outcome with
  | error error => cases hCreated
  | ok shipment =>
      have hId : shipment.id = sampleShipment.id := of_decide_eq_true hCreated
      obtain ⟨status, milestones, law⟩ :=
        @milestones_follow_transitions (tabulatedSha256 []) _ _ _ _ _ _ _ hRun sampleWrites
      have hStored := @MilestoneLaw.stored (tabulatedSha256 []) _ _ _ _ law
      rw [hId] at hStored
      rw [hStored] at hReached
      obtain ⟨rfl, hLength⟩ := Prod.mk.inj (Option.some.inj hReached)
      exact ⟨shipment, rfl, milestones, hLength, law⟩

end Navin
