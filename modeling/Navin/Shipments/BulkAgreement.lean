import Navin.Backend.Runs
import Navin.Shipments.BulkReport

/-! Does a bulk update do what the single updates would have done? Neither does
anything when no listed shipment can make the transition. As soon as one can,
only the single path records the change and drops the cached arrival time. -/
namespace Navin

open Async

/-- The milestones of a shipment, by name. -/
def Store.milestoneNames (store : Store) (id : ObjectId) : Option (List ShipmentStatus) :=
  (store.shipment id).map fun shipment => shipment.milestones.map (·.name)

/-- What the ledger records of a shipment, in order. -/
def Store.recordedEvents (store : Store) (id : ObjectId) : List MilestoneEvent :=
  (store.ledgerBlocks.docs.filter fun block => block.shipmentId = id).map (·.milestoneEvent)

/-- The shipments whose cached arrival time was dropped. -/
def invalidatedEtas (steps : List (Step backend)) : List String :=
  steps.filterMap fun step =>
    match step.request with
    | .invalidateShipmentEtaCache id => some id
    | _ => none

/-- Two runs that have the same effects on shipments, ledger, payments and the
arrival times. -/
structure SameEffects (steps steps' : List (Step backend)) (after after' : Store) : Prop where
  statuses : ∀ id, after.status? id = after'.status? id
  milestones : ∀ id, after.milestoneNames id = after'.milestoneNames id
  ledger : ∀ id, after.recordedEvents id = after'.recordedEvents id
  payments : ∀ id, after.paymentStatus id = after'.paymentStatus id
  etas : ∀ id, id ∈ invalidatedEtas steps ↔ id ∈ invalidatedEtas steps'

/-- The shipment can be found under the id and may make the transition. -/
def CanMove (store : Store) (status : ShipmentStatus) (id : String) : Prop :=
  ∃ oid shipment, ObjectId.cast? id = some oid ∧ store.liveShipment oid = some shipment ∧
    status ∈ allowedTransitions shipment.status

/-- The acting user, if there is one, can be looked up. -/
def Attributable (actor : Option String) : Prop :=
  ∀ userId, truthy actor = some userId → (ObjectId.cast? userId).isSome

section Programs

variable [Sha256]

/-- The updates of the listed shipments one by one, whatever becomes of each. -/
def singleUpdates (shipmentIds : List String) (status : ShipmentStatus) (actor : Option String) :
    BackendM Unit :=
  Program.inTurn (shipmentIds.map fun id => updateShipmentStatusService id status actor)

/-- One bulk update has the effects of the single updates, when no call fails. -/
def BulkAgrees (shipmentIds : List String) (status : ShipmentStatus) (organizationId : String)
    (actor : Option String) (store : Store) : Prop :=
  ∀ env env', Quiet env → Quiet env' →
    let bulk := bulkUpdateShipmentStatusService shipmentIds status organizationId actor
    let single := singleUpdates shipmentIds status actor
    SameEffects (bulk.steps env store) (single.steps env' store) (bulk.run backend env store).1
      (single.run backend env' store).1

end Programs

variable {id : String} {status : ShipmentStatus} {actor : Option String} {milestone : Milestone}
  {shipment : Shipment} {organizationId : String} {snapshot : List Shipment}
  {env env' : Nat → Decision} {store store' : Store}

/-- The calls of the bulk path leave the arrival times alone. -/
def BackendCall.keepsEtas : BackendCall → Prop
  | .invalidateShipmentEtaCache _ => False
  | _ => True

theorem invalidatedEtas_eq_nil {steps : List (Step backend)}
    (h : ∀ step ∈ steps, BackendCall.keepsEtas step.request) : invalidatedEtas steps = [] := by
  rw [invalidatedEtas, List.filterMap_eq_nil_iff]
  intro step hStep
  have hKeeps := h step hStep
  split
  · rename_i hRequest
    rw [hRequest] at hKeeps
    exact hKeeps.elim
  · rfl

theorem mem_invalidatedEtas {steps : List (Step backend)} {decision : Decision} {before : Store}
    (h : (⟨decision, before, .invalidateShipmentEtaCache id⟩ : Step backend) ∈ steps) :
    id ∈ invalidatedEtas steps :=
  List.mem_filterMap.mpr ⟨_, h, rfl⟩

theorem milestoneFor_keepsEtas : (milestoneFor status actor).Uses BackendCall.keepsEtas := by
  refine .bind (.await trivial) fun now => ?_
  dsimp only
  split
  · trivial
  · exact .bind (.await trivial) fun found => trivial

theorem auditStatusChange_keepsEtas : (auditStatusChange actor id).Uses BackendCall.keepsEtas := by
  unfold auditStatusChange
  split
  · trivial
  · exact .bind (.await trivial) fun now => .await trivial

section Bulk

variable [Sha256]

theorem bulkCommit_keepsEtas :
    (bulkCommit id status milestone actor).Uses BackendCall.keepsEtas := by
  refine .tryCatch (.bind (.await trivial) fun found => ?_) fun _ => trivial
  split
  · trivial
  · refine .bind (.await trivial) fun _ => .bind ?_ fun _ => ?_
    · unfold settleBulkWhenDelivered
      split
      · exact settleBulkDelivery_holds (Program.Uses.compositional _) (fun _ => .await trivial)
          (fun _ => .await trivial) fun _ _ => .await trivial
      · trivial
    · exact .bind auditStatusChange_keepsEtas fun _ => .bind (.await trivial) fun _ => trivial

theorem bulkUpdateShipmentStatusService_keepsEtas {shipmentIds : List String} :
    (bulkUpdateShipmentStatusService shipmentIds status organizationId actor).Uses
      BackendCall.keepsEtas := by
  refine .bind (.await trivial) fun snapshot => ?_
  refine bulkUpdateLoop_holds (Program.Uses.compositional _) (fun id => ?_) shipmentIds _
  unfold bulkUpdateOne
  split
  · trivial
  · split
    · trivial
    · split
      · trivial
      · exact milestoneFor_keepsEtas.bind fun milestone => bulkCommit_keepsEtas

end Bulk

/-- The milestone of an acting user who can be looked up. -/
theorem milestoneFor_run_ok (hQuiet : Quiet env) (h : Attributable actor)
    (status : ShipmentStatus) (store : Store) :
    ∃ milestone env', (milestoneFor status actor).run backend env store =
      (store, .ok milestone, env') := by
  unfold milestoneFor
  rw [Program.run_bind_ok (run_currentDate env store)]
  cases hActor : truthy actor with
  | none => exact ⟨_, _, rfl⟩
  | some userId =>
      obtain ⟨oid, hId⟩ := Option.isSome_iff_exists.mp (h userId hActor)
      have hLookup : perform (env 1) store (.userWallet userId) =
          (store, .ok (store.wallets.lookup oid)) := by
        rw [perform_of_fault_none (hQuiet 1)]
        simp [execute, castingId, hId]
      dsimp only
      rw [Program.run_bind_ok (Program.run_await_eq_ok.mpr ⟨hLookup, rfl⟩)]
      exact ⟨_, _, rfl⟩

/-- An acting user who cannot be looked up stops the update before it begins. -/
theorem milestoneFor_run_error (hQuiet : Quiet env) (h : ¬Attributable actor)
    (status : ShipmentStatus) (store : Store) :
    ∃ error env', (milestoneFor status actor).run backend env store =
      (store, .error error, env') := by
  unfold Attributable at h
  push Not at h
  obtain ⟨userId, hActor, hId⟩ := h
  unfold milestoneFor
  rw [Program.run_bind_ok (run_currentDate env store), hActor]
  have hLookup : perform (env 1) store (.userWallet userId) =
      (store, .error (.castError userId)) := by
    rw [perform_of_fault_none (hQuiet 1)]
    simp [execute, castingId, Option.not_isSome_iff_eq_none.mp hId]
  have hFails : (request (.userWallet userId)).run backend (fun n => env (n + 1)) store =
      (store, .error (.castError userId), fun n => env (n + 2)) := by
    rw [Program.run_await]
    exact congrArg (fun settled => (settled.1, settled.2, fun n => env (n + 2))) hLookup
  exact ⟨_, _, Program.run_bind_error hFails⟩

section Singles

variable [Sha256]

omit [Sha256] in
theorem invalidatedEtas_append (first second : List (Step backend)) :
    invalidatedEtas (first ++ second) = invalidatedEtas first ++ invalidatedEtas second :=
  List.filterMap_append

/-- An update that cannot be made, or cannot be attributed, does nothing. -/
theorem updateShipmentStatusService_idle (hQuiet : Quiet env)
    (h : ¬(Attributable actor ∧ CanMove store status id)) :
    ((updateShipmentStatusService id status actor).run backend env store).1 = store ∧
      invalidatedEtas ((updateShipmentStatusService id status actor).steps env store) = [] := by
  have hFind := run_request hQuiet store (.shipmentFindById id)
  have hFindEtas : invalidatedEtas ((findShipmentById id).steps env store) = [] := by
    rw [findShipmentById, Program.steps_await]
    rfl
  unfold updateShipmentStatusService
  cases hId : ObjectId.cast? id with
  | none =>
      simp only [execute, castingId, hId] at hFind
      rw [findShipmentById, Program.run_bind_error hFind, Program.steps_bind_error hFind]
      exact ⟨rfl, hFindEtas⟩
  | some oid =>
      simp only [execute, castingId, hId] at hFind
      rw [findShipmentById, Program.run_bind_ok hFind, Program.steps_bind_ok hFind,
        invalidatedEtas_append]
      rw [findShipmentById] at hFindEtas
      rw [hFindEtas, List.nil_append]
      cases hLive : store.liveShipment oid with
      | none => exact ⟨rfl, rfl⟩
      | some shipment =>
          dsimp only
          split
          · exact ⟨rfl, rfl⟩
          · cases hValid : validateStatusTransition shipment.status status with
            | error error => exact ⟨rfl, rfl⟩
            | ok _ =>
                have hMove : CanMove store status id :=
                  ⟨oid, shipment, hId, hLive, validateStatusTransition_ok_iff.mp hValid⟩
                obtain ⟨error, env', hMilestone⟩ := milestoneFor_run_error
                  (fun n => hQuiet (n + 1)) (fun hActor => h ⟨hActor, hMove⟩) status store
                unfold commitStatusUpdate
                rw [Program.run_bind_error hMilestone, Program.steps_bind_error hMilestone]
                exact ⟨rfl, invalidatedEtas_eq_nil milestoneFor_keepsEtas.steps⟩

/-- An update that can be made drops the cached arrival time. -/
theorem updateShipmentStatusService_moves (hQuiet : Quiet env) (hActor : Attributable actor)
    (hMove : CanMove store status id) :
    id ∈ invalidatedEtas ((updateShipmentStatusService id status actor).steps env store) := by
  obtain ⟨oid, shipment, hId, hLive, hAllowed⟩ := hMove
  have hFind := run_request hQuiet store (.shipmentFindById id)
  simp only [execute, castingId, hId, hLive] at hFind
  have hNe : shipment.status ≠ status := by
    rintro rfl
    exact not_mem_allowedTransitions_self shipment.status hAllowed
  unfold updateShipmentStatusService
  rw [findShipmentById, Program.steps_bind_ok hFind, invalidatedEtas_append, List.mem_append]
  right
  simp only [if_neg hNe, validateStatusTransition_ok_iff.mpr hAllowed]
  obtain ⟨milestone, env', hMilestone⟩ := milestoneFor_run_ok
    (fun n => hQuiet (n + 1)) hActor status store
  have hQuiet' : Quiet env' := by
    have hAfter := Quiet.after (fun n => hQuiet (n + 1)) (milestoneFor status actor) store
    rwa [hMilestone] at hAfter
  unfold commitStatusUpdate
  rw [Program.steps_bind_ok hMilestone, invalidatedEtas_append, List.mem_append]
  right
  have hShipment : store.shipment shipment.id = some shipment := by
    obtain ⟨hStored, -⟩ := Option.filter_eq_some_iff.mp hLive
    rwa [← Collection.key_of_get? _ hStored] at hStored
  have hSave := run_request hQuiet' store (.shipmentSave shipment.id
    { status := some status, milestones := [milestone] })
  simp only [execute, hShipment] at hSave
  rw [Program.steps_bind_ok hSave, invalidatedEtas_append, List.mem_append]
  right
  have hAnalytics := run_request (fun n => hQuiet' (n + 1)) (store.modifyShipment shipment.id
    (ShipmentChanges.apply { status := some status, milestones := [milestone] } (env' 0).now)
    (ShipmentChanges.apply_id _ _)) .invalidateAnalyticsPerformanceCache
  rw [Program.steps_bind_ok hAnalytics, invalidatedEtas_append, List.mem_append]
  right
  exact mem_invalidatedEtas List.mem_cons_self

/-- While no listed shipment can move, nothing does. -/
theorem singleUpdates_idle {shipmentIds : List String} (hQuiet : Quiet env)
    (h : ∀ id ∈ shipmentIds, ¬(Attributable actor ∧ CanMove store status id)) :
    ((singleUpdates shipmentIds status actor).run backend env store).1 = store ∧
      invalidatedEtas ((singleUpdates shipmentIds status actor).steps env store) = [] := by
  induction shipmentIds generalizing env with
  | nil => exact ⟨rfl, rfl⟩
  | cons id rest ih =>
      obtain ⟨hStore, hEtas⟩ := updateShipmentStatusService_idle hQuiet (h id List.mem_cons_self)
      have hRest := ih (hQuiet.after (updateShipmentStatusService id status actor) store)
        fun id hId => h id (List.mem_cons_of_mem _ hId)
      unfold singleUpdates at hRest ⊢
      rw [List.map_cons, Program.run_inTurn_cons, Program.steps_inTurn_cons, hStore,
        invalidatedEtas_append, hEtas]
      exact hRest

/-- Some arrival time is dropped as soon as one listed shipment can move. -/
theorem singleUpdates_moves {shipmentIds : List String} (hQuiet : Quiet env)
    (hActor : Attributable actor) (hMove : ∃ id ∈ shipmentIds, CanMove store status id) :
    ∃ id, id ∈ invalidatedEtas ((singleUpdates shipmentIds status actor).steps env store) := by
  induction shipmentIds generalizing env with
  | nil =>
      obtain ⟨id, hId, -⟩ := hMove
      cases hId
  | cons id rest ih =>
      unfold singleUpdates at ih ⊢
      rw [List.map_cons, Program.steps_inTurn_cons, invalidatedEtas_append]
      by_cases hHead : CanMove store status id
      · exact ⟨id, List.mem_append_left _
          (updateShipmentStatusService_moves hQuiet hActor hHead)⟩
      · -- The first shipment stays where it is, so the one that can move still can.
        obtain ⟨hStore, -⟩ := updateShipmentStatusService_idle hQuiet fun h => hHead h.2
        obtain ⟨other, hOther, hCan⟩ := hMove
        have hRest : other ∈ rest := (List.mem_cons.mp hOther).resolve_left fun hEq =>
          hHead (hEq ▸ hCan)
        obtain ⟨dropped, hDropped⟩ := ih
          (hQuiet.after (updateShipmentStatusService id status actor) store)
          ⟨other, hRest, hCan⟩
        rw [hStore]
        exact ⟨dropped, List.mem_append_right _ hDropped⟩

/-- An occurrence that cannot move is refused. -/
theorem bulkUpdateOne_idle (hQuiet : Quiet env)
    (hSnapshot : ∀ shipment ∈ snapshot, store.liveShipment shipment.id = some shipment)
    (h : ¬(Attributable actor ∧ CanMove store status id)) :
    ((bulkUpdateOne snapshot organizationId status actor id).run backend env store).1 = store := by
  unfold bulkUpdateOne
  split
  · rfl
  · rename_i existing hFind
    split
    · rfl
    · split
      · rfl
      · rename_i hAllowed
        have hId : existing.id.toString = id := by simpa using List.find?_some hFind
        have hMove : CanMove store status id := ⟨existing.id, existing,
          hId ▸ ObjectId.cast?_toString _, hSnapshot existing (List.mem_of_find?_eq_some hFind),
          not_not.mp hAllowed⟩
        obtain ⟨error, env', hMilestone⟩ :=
          milestoneFor_run_error hQuiet (fun hActor => h ⟨hActor, hMove⟩) status store
        rw [Program.run_bind_error hMilestone]

theorem bulkUpdateLoop_idle {ids : List String} (hQuiet : Quiet env)
    (hSnapshot : ∀ shipment ∈ snapshot, store.liveShipment shipment.id = some shipment)
    (h : ∀ id ∈ ids, ¬(Attributable actor ∧ CanMove store status id)) (sofar : BulkUpdateResult) :
    ((bulkUpdateLoop snapshot organizationId status actor ids sofar).run backend env store).1 =
      store := by
  induction ids generalizing env sofar with
  | nil => rfl
  | cons id rest ih =>
      have hOne := @bulkUpdateOne_idle id status actor organizationId snapshot env store _ hQuiet
        hSnapshot (h id List.mem_cons_self)
      have hAfter := hQuiet.after (bulkUpdateOne snapshot organizationId status actor id) store
      rw [bulkUpdateLoop_cons]
      rcases hRun : (bulkUpdateOne snapshot organizationId status actor id).run backend env store
        with ⟨after, outcome, env'⟩
      rw [hRun] at hOne hAfter
      subst hOne
      cases outcome with
      | error error => rw [Program.run_bind_error hRun]
      | ok failure =>
          rw [Program.run_bind_ok hRun]
          exact ih hAfter (fun id hId => h id (List.mem_cons_of_mem _ hId)) _

/-- So is every occurrence, when no listed shipment can move. -/
theorem bulkUpdateShipmentStatusService_idle {shipmentIds : List String} (hQuiet : Quiet env)
    (h : ∀ id ∈ shipmentIds, ¬(Attributable actor ∧ CanMove store status id)) :
    ((bulkUpdateShipmentStatusService shipmentIds status organizationId actor).run backend env
      store).1 = store := by
  have hFind := run_request hQuiet store (.shipmentFindByIds shipmentIds)
  simp only [execute] at hFind
  unfold bulkUpdateShipmentStatusService
  split at hFind
  · rw [Program.run_bind_error hFind]
  · rw [Program.run_bind_ok hFind]
    refine bulkUpdateLoop_idle (fun n => hQuiet (n + 1)) (fun shipment hShipment => ?_) h ⟨0, []⟩
    obtain ⟨hMem, hListed⟩ := List.mem_filter.mp hShipment
    simp only [Bool.and_eq_true] at hListed
    exact Option.filter_eq_some_iff.mpr ⟨store.shipments.get?_of_mem hMem, hListed.2⟩

/-- A bulk update and the single updates have the same effects exactly when none
of the listed shipments can make the transition, or nobody can be credited. -/
theorem bulk_agrees_iff (shipmentIds : List String) (status : ShipmentStatus)
    (organizationId : String) (actor : Option String) (store : Store) :
    BulkAgrees shipmentIds status organizationId actor store ↔
      ¬(Attributable actor ∧ ∃ id ∈ shipmentIds, CanMove store status id) := by
  constructor
  · rintro hAgrees ⟨hActor, hMove⟩
    have hQuiet : Quiet fun _ => Decision.ok := fun _ => rfl
    obtain ⟨id, hDropped⟩ := singleUpdates_moves hQuiet hActor hMove
    have hEtas := (hAgrees _ _ hQuiet hQuiet).etas id
    rw [invalidatedEtas_eq_nil bulkUpdateShipmentStatusService_keepsEtas.steps] at hEtas
    exact absurd (hEtas.mpr hDropped) List.not_mem_nil
  · intro h env env' hQuiet hQuiet' bulk single
    have hEach (id : String) (hId : id ∈ shipmentIds) :
        ¬(Attributable actor ∧ CanMove store status id) :=
      fun hCan => h ⟨hCan.1, id, hId, hCan.2⟩
    obtain ⟨hSingle, hEtas⟩ := singleUpdates_idle hQuiet' hEach
    have hBulk := @bulkUpdateShipmentStatusService_idle status actor organizationId env store _ _
      hQuiet hEach
    have hBulkEtas : invalidatedEtas (bulk.steps env store) = [] :=
      invalidatedEtas_eq_nil bulkUpdateShipmentStatusService_keepsEtas.steps
    rw [hBulk, hSingle]
    refine ⟨fun _ => rfl, fun _ => rfl, fun _ => rfl, fun _ => rfl, fun id => ?_⟩
    rw [hBulkEtas, hEtas]

end Singles

/-- Moving one created shipment in bulk leaves no trace in the ledger. -/
theorem bulkUpdate_unrecorded :
    ¬∀ shipmentIds status organizationId actor store,
      (∀ id ∈ shipmentIds, ∀ oid shipment, ObjectId.cast? id = some oid →
        store.liveShipment oid = some shipment → ownedBy shipment organizationId = true) →
      @BulkAgrees (tabulatedSha256 []) shipmentIds status organizationId actor store := by
  intro hAgrees
  have hOwned (shipment : Shipment) (oid : ObjectId)
      (hLive : sampleBulkStore.liveShipment oid = some shipment) :
      ownedBy shipment sampleShipment.enterpriseId.toString = true := by
    obtain ⟨hStored, -⟩ := Option.filter_eq_some_iff.mp hLive
    obtain ⟨hMem, -⟩ := (Collection.get?_eq_some_iff _).mp hStored
    rw [List.mem_singleton.mp hMem]
    decide +kernel
  have hSame := hAgrees [sampleShipment.id.toString] .inTransit
    sampleShipment.enterpriseId.toString none sampleBulkStore
    (fun _ _ oid shipment _ => hOwned shipment oid) (fun _ => .ok) (fun _ => .ok)
    (fun _ => rfl) (fun _ => rfl)
  have hLedger := hSame.ledger sampleShipment.id
  revert hLedger
  decide +kernel

end Navin
