import Navin.Backend.Effects
import Navin.Semantics.Trace
import Navin.Shipments.StatusCalls

/-! What a bulk update reports, when the calls it makes fail. The report of an
occurrence is decided by the last of a chain of awaits with the write in the
middle; the user lookup before it is not protected at all. -/
namespace Navin

open Async

/-- The stored status and milestones. -/
def Store.progress (store : Store) (id : ObjectId) :
    Option (ShipmentStatus × List Milestone) :=
  (store.shipment id).map fun shipment => (shipment.status, shipment.milestones)

/-- The shipment that an id names is as far as it was. -/
def Unmoved (id : String) (before after : Store) : Prop :=
  ∀ oid, ObjectId.cast? id = some oid → after.progress oid = before.progress oid

/-- A call fails harmlessly. Only four kinds of calls of the bulk path can do
harm: the two reads that nothing protects, an update that took effect although
it failed, and the notification after it. -/
def FailsHarmlessly (step : Step backend) : Prop :=
  match step.request with
  | .shipmentFindByIds _ | .userWallet _ | .emitStatusUpdate _ _ => step.response.isOk
  | .shipmentFindByIdAndUpdate _ _ =>
      step.response.isOk ∨ Store.shipments step.after = Store.shipments step.before
  | _ => True

section Updates

variable {id : String} {status : ShipmentStatus} {milestone : Milestone} {shipment : Shipment}
  {store store' : Store}

theorem unmoved_of_shipments (h : store'.shipments = store.shipments) :
    Unmoved id store store' := by
  intro oid _
  rw [Store.progress, Store.shipment, h]
  rfl

/-- Only the stored shipments count. -/
theorem unmoved_congr {after after' : Store} (hBefore : store'.shipments = store.shipments)
    (hAfter : after'.shipments = after.shipments) :
    Unmoved id store' after' ↔ Unmoved id store after := by
  simp only [Unmoved, Store.progress, Store.shipment, hBefore, hAfter]

/-- An update that applies adds a milestone, so the shipment has moved. -/
theorem not_unmoved_of_update {oid : ObjectId} (hId : ObjectId.cast? id = some oid)
    (hShipment : store.shipment oid = some shipment) (now : Date) :
    ¬Unmoved id store (store.modifyShipment oid
      ((ShipmentUpdate.setStatus status milestone).apply now)
      (ShipmentUpdate.apply_id _ now)) := by
  intro hUnmoved
  have hAfter := store.shipments.get?_modify_self (k := oid) (ShipmentUpdate.apply_id
    (.setStatus status milestone) now)
  rw [show store.shipments.get? oid = some shipment from hShipment] at hAfter
  have hSame := hUnmoved oid hId
  simp [Store.progress, Store.shipment, Store.modifyShipment, hAfter,
    show store.shipments.get? oid = some shipment from hShipment, ShipmentUpdate.apply] at hSame

/-- The update, when it has its effect. -/
theorem execute_setStatus_cases (decision : Decision) (store : Store) :
    let outcome :=
      execute decision store (.shipmentFindByIdAndUpdate id (.setStatus status milestone))
    (outcome.1 = store ∧ ((∃ error, outcome.2 = .error error) ∨ outcome.2 = .ok none)) ∨
    (¬Unmoved id store outcome.1 ∧ ∃ shipment, outcome.2 = .ok (some shipment)) := by
  simp only [execute, castingId]
  cases hId : ObjectId.cast? id with
  | none => exact .inl ⟨rfl, .inl ⟨_, rfl⟩⟩
  | some oid =>
      cases hLive : store.liveShipment oid with
      | none => exact .inl ⟨by simp only [hLive], .inr (by simp only [hLive])⟩
      | some shipment =>
          simp only [hLive]
          have hShipment := (Option.filter_eq_some_iff.mp hLive).1
          exact .inr ⟨not_unmoved_of_update hId hShipment decision.now, _, rfl⟩

/-- What the update of one occurrence comes to. -/
theorem perform_setStatus_cases (decision : Decision) (store : Store) (id : String)
    (status : ShipmentStatus) (milestone : Milestone) :
    let step : Step backend :=
      ⟨decision, store, .shipmentFindByIdAndUpdate id (.setStatus status milestone)⟩
    ((∃ error, step.response = .error error) ∧
      (Unmoved id store step.after ↔ FailsHarmlessly step)) ∨
    (step.response = .ok none ∧ Unmoved id store step.after) ∨
    ∃ shipment, step.response = .ok (some shipment) ∧ ¬Unmoved id store step.after := by
  intro step
  have hExecute := @execute_setStatus_cases id status milestone decision store
  have hUnmoved : Unmoved id store step.after ↔ Store.shipments step.after = store.shipments := by
    refine ⟨fun h => ?_, unmoved_of_shipments⟩
    rcases perform_store decision store step.request with hSame | hSame
    · exact congrArg Store.shipments hSame
    · rcases hExecute with ⟨hStore, -⟩ | ⟨hMoved, -⟩
      · exact congrArg Store.shipments (hSame.trans hStore)
      · exact absurd (hSame ▸ h) hMoved
  have hHarmless (error : ThrownError) (hError : step.response = .error error) :
      Unmoved id store step.after ↔ FailsHarmlessly step := by
    change _ ↔ (step.response.isOk = true ∨ _)
    rw [hUnmoved, hError]
    simp [Except.isOk, Except.toBool, step]
  cases hFault : decision.fault with
  | none =>
      have hStep : perform decision store step.request = execute decision store step.request :=
        perform_of_fault_none hFault
      have hResponse : step.response = (execute decision store step.request).2 :=
        congrArg Prod.snd hStep
      have hAfter : step.after = (execute decision store step.request).1 := congrArg Prod.fst hStep
      rcases hExecute with ⟨hStore, ⟨error, hError⟩ | hNone⟩ | ⟨hMoved, shipment, hSome⟩
      · have hFails := hResponse.trans hError
        exact .inl ⟨⟨error, hFails⟩, hHarmless error hFails⟩
      · refine .inr (.inl ⟨hResponse.trans hNone, hUnmoved.mpr ?_⟩)
        rw [hAfter, hStore]
      · exact .inr (.inr ⟨shipment, hResponse.trans hSome, hAfter ▸ hMoved⟩)
  | some fault =>
      have hFails : step.response = .error fault.error := perform_of_fault hFault
      exact .inl ⟨⟨_, hFails⟩, hHarmless _ hFails⟩

end Updates

/-- The calls that cannot spoil a report. -/
def BackendCall.offReport (call : BackendCall) : Prop :=
  call.writesShipments = false ∧ ∀ (decision : Decision) (store : Store),
    FailsHarmlessly (⟨decision, store, call⟩ : Step backend)

/-- A program that neither fails nor has to do with shipments, users or rooms. -/
structure Uneventful (p : BackendM Unit) : Prop where
  resolves : p.Resolves backend
  uses : p.Uses BackendCall.offReport

theorem Uneventful.seq {p q : BackendM Unit} (hp : Uneventful p) (hq : Uneventful q) :
    Uneventful (do p; q) where
  resolves := hp.resolves.bind fun _ => hq.resolves
  uses := hp.uses.bind fun _ => hq.uses

theorem Uneventful.run {p : BackendM Unit} (h : Uneventful p) (env : Nat → Decision)
    (store : Store) :
    ∃ store' env', p.run backend env store = (store', .ok (), env') ∧
      store'.shipments = store.shipments ∧ ∀ step ∈ p.steps env store, FailsHarmlessly step := by
  obtain ⟨⟨⟩, hOutcome⟩ := h.resolves env store
  have hShipments : Store.shipments (p.run backend env store).1 = store.shipments :=
    h.uses.run (W := backend) Store.shipments (fun _ _ _ hCall => perform_shipments hCall.1) env store
  refine ⟨_, _, Prod.ext rfl (Prod.ext hOutcome rfl), hShipments, ?_⟩
  rintro ⟨decision, before, call⟩ hStep
  exact (h.uses.steps _ hStep).2 decision before

theorem resolves_of_alwaysAnswers {call : BackendCall} (h : call.alwaysAnswers = true) :
    (request call).Resolves backend :=
  .await fun _ _ => perform_ok_of_alwaysAnswers h

section Bulk

variable {organizationId id : String} {status : ShipmentStatus} {actor : Option String}
  {milestone : Milestone} {shipment : Shipment} {snapshot : List Shipment}
  {env env' : Nat → Decision} {store store' : Store}

theorem uneventful_invalidateAnalyticsPerformanceCache :
    Uneventful (request .invalidateAnalyticsPerformanceCache) :=
  ⟨resolves_of_alwaysAnswers rfl, .await ⟨rfl, fun _ _ => trivial⟩⟩

theorem uneventful_auditStatusChange : Uneventful (auditStatusChange actor id) := by
  unfold auditStatusChange
  split
  · exact ⟨.pure (), trivial⟩
  · constructor
    · exact (resolves_of_alwaysAnswers rfl).bind fun now => resolves_of_alwaysAnswers rfl
    · refine .bind (.await ⟨rfl, fun _ _ => trivial⟩) fun now => ?_
      exact .await ⟨rfl, fun _ _ => trivial⟩

variable [Sha256]

theorem uneventful_settleBulkWhenDelivered :
    Uneventful (settleBulkWhenDelivered id status shipment) := by
  unfold settleBulkWhenDelivered
  split
  · refine ⟨.tryCatch _ fun _ => .pure (), ?_⟩
    exact settleBulkDelivery_holds (Program.Uses.compositional _)
      (fun _ => .await ⟨rfl, fun _ _ => trivial⟩) (fun _ => .await ⟨rfl, fun _ _ => trivial⟩)
      fun _ _ => .await ⟨rfl, fun _ _ => trivial⟩
  · exact ⟨.pure (), trivial⟩

/-- The report of one occurrence: nothing is thrown, and a failure is reported
exactly when the shipment did not move. -/
def ReportsOne (p : BackendM (Option BulkFailureReason)) (id : String) (env : Nat → Decision)
    (store : Store) : Prop :=
  ∃ store' failure env', p.run backend env store = (store', .ok failure, env') ∧
    (failure.isSome ↔ Unmoved id store store')

/-- Once the update is through, only the notification can still fail, and then
it is too late. -/
theorem afterUpdate_run (env : Nat → Decision) (store : Store) (id : String)
    (status : ShipmentStatus) (actor : Option String) (shipment : Shipment) :
    let rest : BackendM (Option BulkFailureReason) := do
      request .invalidateAnalyticsPerformanceCache
      settleBulkWhenDelivered id status shipment
      auditStatusChange actor id
      emitStatusUpdate id shipment
      return none
    ∃ earlier decision before env',
      let last : Step backend := ⟨decision, before, .emitStatusUpdate id
        ⟨id, shipment.status, shipment.milestones, shipment.updatedAt⟩⟩
      rest.steps env store = earlier ++ [last] ∧ (∀ step ∈ earlier, FailsHarmlessly step) ∧
      before.shipments = store.shipments ∧
      rest.run backend env store = (last.after, last.response.map fun _ => none, env') := by
  intro rest
  let aside : BackendM Unit := do
    request .invalidateAnalyticsPerformanceCache
    settleBulkWhenDelivered id status shipment
    auditStatusChange actor id
  have hAside : Uneventful aside := uneventful_invalidateAnalyticsPerformanceCache.seq
    (uneventful_settleBulkWhenDelivered.seq uneventful_auditStatusChange)
  obtain ⟨before, env', hRun, hSame, hHarmless⟩ := hAside.run env store
  have hRest : rest = aside >>= fun _ => do
      emitStatusUpdate id shipment
      return none := by
    simp only [rest, aside, bind_assoc]
  refine ⟨aside.steps env store, env' 0, before, fun n => env' (n + 1), ?_, hHarmless, hSame, ?_⟩
  · rw [hRest, Program.steps_bind_ok hRun, ← map_eq_pure_bind, Program.steps_map]
    exact congrArg _ (Program.steps_await _)
  · rw [hRest, Program.run_bind_ok hRun, ← map_eq_pure_bind, Program.run_map, emitStatusUpdate,
      Program.run_await]
    rfl

omit [Sha256] in
theorem reportsOne_iff_of_run {p : BackendM (Option BulkFailureReason)}
    {failure : Option BulkFailureReason}
    (hRun : p.run backend env store = (store', .ok failure, env')) :
    ReportsOne p id env store ↔ (failure.isSome ↔ Unmoved id store store') := by
  refine ⟨fun ⟨_, _, _, hOther, hReports⟩ => ?_, fun h => ⟨_, _, _, hRun, h⟩⟩
  cases hRun.symm.trans hOther
  exact hReports

omit [Sha256] in
/-- Whatever the protected part throws is reported as a failure. -/
theorem reportsOne_caught_iff {body : BackendM (Option BulkFailureReason)}
    {outcome : Except ThrownError (Option BulkFailureReason)} {reason : BulkFailureReason}
    (hRun : body.run backend env store = (store', outcome, env')) :
    ReportsOne (tryCatch body fun _ => return some reason) id env store ↔
      (outcome ≠ .ok none ↔ Unmoved id store store') := by
  obtain ⟨failure, hCaught, hReported⟩ : ∃ failure,
      (tryCatch body fun _ => return some reason).run backend env store =
        (store', .ok failure, env') ∧ (failure.isSome ↔ outcome ≠ .ok none) := by
    rw [Program.run_tryCatch, hRun]
    rcases outcome with error | ⟨⟨⟩ | failure⟩
    · exact ⟨some reason, rfl, by simp⟩
    · exact ⟨none, rfl, by simp⟩
    · exact ⟨some failure, rfl, by simp⟩
  rw [← hReported]
  exact reportsOne_iff_of_run hCaught

/-- What follows an update that moved the shipment reports the truth exactly
when the notification, the last step, does not fail. -/
theorem afterUpdate_reports (env : Nat → Decision) (status : ShipmentStatus)
    (actor : Option String) (shipment : Shipment) (hMoved : ¬Unmoved id store store') :
    let rest : BackendM (Option BulkFailureReason) := do
      request .invalidateAnalyticsPerformanceCache
      settleBulkWhenDelivered id status shipment
      auditStatusChange actor id
      emitStatusUpdate id shipment
      return none
    ∃ store'' outcome env', rest.run backend env store' = (store'', outcome, env') ∧
      ((outcome ≠ .ok none ↔ Unmoved id store store'') ↔
        ∀ step ∈ rest.steps env store', FailsHarmlessly step) := by
  intro rest
  obtain ⟨earlier, decision, before, env', hSteps, hEarlier, hSame, hRun⟩ :=
    afterUpdate_run env store' id status actor shipment
  generalize hLast : (⟨decision, before, .emitStatusUpdate id
    ⟨id, shipment.status, shipment.milestones, shipment.updatedAt⟩⟩ : Step backend) = last
      at hSteps hRun
  have hEnd : ¬Unmoved id store last.after := by
    have hShipments : Store.shipments last.after = Store.shipments store' := by
      rw [← hSame, ← hLast]
      exact perform_shipments rfl
    exact fun h => hMoved ((unmoved_congr rfl hShipments).mp h)
  have hHarmless : FailsHarmlessly last ↔ last.response.isOk = true := by
    rw [← hLast]
    exact Iff.rfl
  have hOutcome : last.response.map (fun _ => (none : Option BulkFailureReason)) = .ok none ↔
      last.response.isOk = true := by
    cases last.response with
    | error error => exact iff_of_false nofun nofun
    | ok answer => exact iff_of_true rfl rfl
  refine ⟨_, _, env', hRun, ?_⟩
  rw [hSteps, List.forall_mem_append, List.forall_mem_singleton, and_iff_right hEarlier, hHarmless,
    ← hOutcome, iff_false_right hEnd, not_not]

/-- An occurrence that gets as far as the update. -/
theorem bulkCommit_reports_iff :
    ReportsOne (bulkCommit id status milestone actor) id env store ↔
      ∀ step ∈ (bulkCommit id status milestone actor).steps env store, FailsHarmlessly step := by
  let update : BackendM (Option Shipment) :=
    request (.shipmentFindByIdAndUpdate id (.setStatus status milestone))
  let step : Step backend :=
    ⟨env 0, store, .shipmentFindByIdAndUpdate id (.setStatus status milestone)⟩
  have hRun : update.run backend env store = (step.after, step.response, fun n => env (n + 1)) :=
    Program.run_await _ _ _
  have hSteps : update.steps env store = [step] := Program.steps_await _
  have hAnswered (h : step.response.isOk = true) : FailsHarmlessly step := .inl h
  rw [bulkCommit, Program.steps_tryCatch_pure]
  -- The update fails, finds nothing, or moves the shipment.
  rcases perform_setStatus_cases (env 0) store id status milestone with
    ⟨⟨error, hError⟩, hHarmless⟩ | ⟨hNone, hUnmoved⟩ | ⟨shipment, hSome, hMoved⟩
  · rw [reportsOne_caught_iff (Program.run_bind_error (hError ▸ hRun)),
      Program.steps_bind_error (hError ▸ hRun), hSteps]
    simp [hHarmless, step]
  · rw [reportsOne_caught_iff (Program.run_bind_ok (hNone ▸ hRun)),
      Program.steps_bind_ok (hNone ▸ hRun), hSteps]
    simp [hUnmoved, hAnswered (hNone ▸ rfl), step]
  · obtain ⟨store'', outcome, env', hRestRun, hReports⟩ :=
      afterUpdate_reports (fun n => env (n + 1)) status actor shipment hMoved
    have hUpdated : update.run backend env store =
        (step.after, .ok (some shipment), fun n => env (n + 1)) := hSome ▸ hRun
    refine Iff.trans
      (reportsOne_caught_iff (Eq.trans (Program.run_bind_ok hUpdated) hRestRun)) ?_
    rw [Program.steps_bind_ok hUpdated, hSteps, List.forall_mem_append,
      List.forall_mem_singleton, and_iff_right (hAnswered (hSome ▸ rfl))]
    exact hReports

omit [Sha256] in
/-- The milestone needs the user, whom nothing else protects. -/
theorem milestoneFor_run (env : Nat → Decision) (store : Store) (status : ShipmentStatus)
    (actor : Option String) :
    ∃ store' outcome env', (milestoneFor status actor).run backend env store =
        (store', outcome, env') ∧ store'.shipments = store.shipments ∧
      (outcome.isOk ↔ ∀ step ∈ (milestoneFor status actor).steps env store,
        FailsHarmlessly step) := by
  have hNow : currentDate.run backend env store =
      (store, .ok (env 0).now, fun n => env (n + 1)) :=
    Program.run_await_eq_ok.mpr ⟨perform_now, rfl⟩
  have hClock (step : Step backend) (hStep : step ∈ currentDate.steps env store) :
      FailsHarmlessly step := by
    rw [currentDate, Program.steps_await, List.mem_singleton] at hStep
    rw [hStep]
    trivial
  unfold milestoneFor
  rw [Program.run_bind_ok hNow, Program.steps_bind_ok hNow]
  simp only [List.forall_mem_append]
  cases truthy actor with
  | none =>
      exact ⟨store, _, _, rfl, rfl, iff_of_true rfl ⟨hClock, by simp⟩⟩
  | some userId =>
      dsimp only
      rw [← map_eq_pure_bind, Program.run_map, Program.run_await, Program.steps_map,
        Program.steps_await]
      refine ⟨_, _, _, rfl, perform_shipments rfl, ?_⟩
      have hMap (response : Except ThrownError (Option (Option String)))
          (f : Option (Option String) → Milestone) :
          (response.map f).isOk = response.isOk := by
        cases response <;> rfl
      rw [hMap, List.forall_mem_singleton]
      exact ⟨fun h => ⟨hClock, h⟩, fun h => h.2⟩

/-- An occurrence, up to the checks against the snapshot. -/
theorem bulkUpdateOne_reports_iff :
    ReportsOne (bulkUpdateOne snapshot organizationId status actor id) id env store ↔
      ∀ step ∈ (bulkUpdateOne snapshot organizationId status actor id).steps env store,
        FailsHarmlessly step := by
  have hEarly (reason : BulkFailureReason) :
      ReportsOne (return some reason) id env store ↔
        ∀ step ∈ (return some reason : BackendM (Option BulkFailureReason)).steps env store,
          FailsHarmlessly step := by
    refine iff_of_true ⟨store, some reason, env, rfl, ?_⟩ (by simp)
    exact iff_of_true rfl (unmoved_of_shipments rfl)
  unfold bulkUpdateOne
  split
  · exact hEarly .notFound
  · split
    · exact hEarly .wrongOrg
    · split
      · exact hEarly .invalidTransition
      · obtain ⟨store', outcome, env', hRun, hSame, hHarmless⟩ := milestoneFor_run env store status actor
        cases outcome with
        | error error =>
            rw [Program.steps_bind_error hRun, ← hHarmless]
            refine iff_of_false ?_ nofun
            rintro ⟨_, _, _, hOther, -⟩
            rw [Program.run_bind, hRun] at hOther
            cases hOther
        | ok milestone =>
            have hMilestone := hHarmless.mp rfl
            have hCommit := @bulkCommit_reports_iff id status actor milestone env' store' _
            rw [Program.steps_bind_ok hRun, List.forall_mem_append]
            simp only [ReportsOne, Program.run_bind_ok hRun]
            simp only [ReportsOne, unmoved_congr hSame rfl] at hCommit
            exact hCommit.trans ⟨fun h => ⟨hMilestone, h⟩, fun h => h.2⟩

/-- One occurrence of an id in the list, as it was processed. -/
structure BulkOccurrence where
  id : String
  failure : Option BulkFailureReason
  before : Store
  after : Store

/-- The report tells whether the shipment moved. -/
def BulkOccurrence.Truthful (occurrence : BulkOccurrence) : Prop :=
  occurrence.failure.isSome ↔ Unmoved occurrence.id occurrence.before occurrence.after

def BulkOccurrence.entry (occurrence : BulkOccurrence) : Option (String × BulkFailureReason) :=
  occurrence.failure.map fun reason => (occurrence.id, reason)

/-- The occurrences of the loop, up to one that the loop does not survive. -/
def bulkOccurrences (snapshot : List Shipment) (organizationId : String) (status : ShipmentStatus)
    (actor : Option String) : List String → (Nat → Decision) → Store → List BulkOccurrence
  | [], _, _ => []
  | id :: rest, env, store =>
      match (bulkUpdateOne snapshot organizationId status actor id).run backend env store with
      | (after, .ok failure, env') =>
          ⟨id, failure, store, after⟩ ::
            bulkOccurrences snapshot organizationId status actor rest env' after
      | (_, .error _, _) => []

/-- The loop ends, and its result accounts for every occurrence in order and
tells the truth about each. -/
def LoopReports (snapshot : List Shipment) (organizationId : String) (status : ShipmentStatus)
    (actor : Option String) (ids : List String) (sofar : BulkUpdateResult) (env : Nat → Decision)
    (store : Store) : Prop :=
  ∃ result, ((bulkUpdateLoop snapshot organizationId status actor ids sofar).run
      backend env store).2.1 = .ok result ∧
    result.updated + result.failed.length = sofar.updated + sofar.failed.length + ids.length ∧
    let occurrences := bulkOccurrences snapshot organizationId status actor ids env store
    occurrences.map (·.id) = ids ∧
    result.failed = sofar.failed ++ occurrences.filterMap (·.entry) ∧
    ∀ occurrence ∈ occurrences, occurrence.Truthful

/-- Adding one occurrence to a result. -/
def BulkUpdateResult.add (result : BulkUpdateResult) (id : String) :
    Option BulkFailureReason → BulkUpdateResult
  | none => { result with updated := result.updated + 1 }
  | some reason => { result with failed := result.failed ++ [(id, reason)] }

theorem bulkUpdateLoop_cons {sofar : BulkUpdateResult} {rest : List String} :
    bulkUpdateLoop snapshot organizationId status actor (id :: rest) sofar =
      bulkUpdateOne snapshot organizationId status actor id >>= fun failure =>
        bulkUpdateLoop snapshot organizationId status actor rest (sofar.add id failure) := by
  rw [bulkUpdateLoop]
  refine congrArg _ (funext fun failure => ?_)
  cases failure <;> rfl

omit [Sha256] in
/-- Every occurrence adds one to the account. -/
theorem BulkUpdateResult.add_total (result : BulkUpdateResult) (id : String)
    (failure : Option BulkFailureReason) :
    (result.add id failure).updated + (result.add id failure).failed.length =
      result.updated + result.failed.length + 1 := by
  cases failure with
  | none => simp only [add]; omega
  | some reason => simp only [add, List.length_append, List.length_singleton]; omega

theorem loopReports_iff (ids : List String) (sofar : BulkUpdateResult) (env : Nat → Decision)
    (store : Store) :
    LoopReports snapshot organizationId status actor ids sofar env store ↔
      ∀ step ∈ (bulkUpdateLoop snapshot organizationId status actor ids sofar).steps env store,
        FailsHarmlessly step := by
  induction ids generalizing sofar env store with
  | nil =>
      refine iff_of_true ⟨sofar, rfl, rfl, rfl, ?_, ?_⟩ ?_
      · simp [bulkOccurrences]
      · simp [bulkOccurrences]
      · simp [bulkUpdateLoop]
  | cons id rest ih =>
      have hOne := @bulkUpdateOne_reports_iff organizationId id status actor snapshot env store _
      rcases hRun : (bulkUpdateOne snapshot organizationId status actor id).run backend env store
        with ⟨after, outcome, env'⟩
      cases outcome with
      | error error =>
          rw [bulkUpdateLoop_cons, Program.steps_bind_error hRun, ← hOne]
          refine iff_of_false ?_ ?_
          · rintro ⟨result, hResult, -⟩
            rw [bulkUpdateLoop_cons, Program.run_bind, hRun] at hResult
            cases hResult
          · rintro ⟨_, _, _, hOther, -⟩
            cases hRun.symm.trans hOther
      | ok failure =>
          rw [bulkUpdateLoop_cons, Program.steps_bind_ok hRun, List.forall_mem_append, ← hOne,
            ← ih, reportsOne_iff_of_run hRun]
          simp only [LoopReports, bulkOccurrences, hRun, bulkUpdateLoop_cons,
            Program.run_bind_ok hRun, BulkUpdateResult.add_total, List.map_cons, List.cons.injEq,
            true_and, List.length_cons, List.forall_mem_cons]
          have hFailed : sofar.failed ++ (⟨id, failure, store, after⟩ :: bulkOccurrences snapshot
              organizationId status actor rest env' after).filterMap (·.entry) =
              (sofar.add id failure).failed ++ (bulkOccurrences snapshot organizationId status
                actor rest env' after).filterMap (·.entry) := by
            cases failure <;> simp [BulkUpdateResult.add, BulkOccurrence.entry]
          rw [hFailed]
          constructor
          · rintro ⟨result, hResult, hTotal, hIds, hEntries, hTrue, hRest⟩
            exact ⟨hTrue, result, hResult, by omega, hIds, hEntries, hRest⟩
          · rintro ⟨hTrue, result, hResult, hTotal, hIds, hEntries, hRest⟩
            exact ⟨result, hResult, by omega, hIds, hEntries, hTrue, hRest⟩

/-- The call resolves, accounts for every id in order, and tells the truth about
each occurrence. -/
def BulkReports (shipmentIds : List String) (status : ShipmentStatus) (organizationId : String)
    (actor : Option String) (env : Nat → Decision) (store : Store) : Prop :=
  ∃ snapshot store' env', (request (.shipmentFindByIds shipmentIds)).run backend env store =
      (store', .ok snapshot, env') ∧
    ∃ report, ((bulkUpdateShipmentStatusService shipmentIds status organizationId actor).run
        backend env store).2.1 = .ok report ∧
      report.updated + report.failed.length = shipmentIds.length ∧
      let occurrences := bulkOccurrences snapshot organizationId status actor shipmentIds env' store'
      occurrences.map (·.id) = shipmentIds ∧ report.failed = occurrences.filterMap (·.entry) ∧
      ∀ occurrence ∈ occurrences, occurrence.Truthful

/-- A bulk update reports what happened exactly when no call of it fails
harmfully, whatever else fails. -/
theorem bulk_reports_iff (shipmentIds : List String) (status : ShipmentStatus)
    (organizationId : String) (actor : Option String) (env : Nat → Decision) (store : Store) :
    BulkReports shipmentIds status organizationId actor env store ↔
      ∀ step ∈ (bulkUpdateShipmentStatusService shipmentIds status organizationId actor).steps
        env store, FailsHarmlessly step := by
  let find : Step backend := ⟨env 0, store, .shipmentFindByIds shipmentIds⟩
  have hSteps : (request (.shipmentFindByIds shipmentIds)).steps env store = [find] :=
    Program.steps_await _
  have hRun : (request (.shipmentFindByIds shipmentIds)).run backend env store =
      (find.after, find.response, fun n => env (n + 1)) := Program.run_await _ _ _
  have hFind : FailsHarmlessly find ↔ find.response.isOk = true := Iff.rfl
  unfold BulkReports bulkUpdateShipmentStatusService
  cases hResponse : find.response with
  | error error =>
      rw [hResponse] at hRun
      rw [Program.steps_bind_error hRun, hSteps, List.forall_mem_singleton, hFind, hResponse]
      refine iff_of_false ?_ nofun
      rintro ⟨_, _, _, hOther, -⟩
      cases hRun.symm.trans hOther
  | ok snapshot =>
      rw [hResponse] at hRun
      have hLoop := @loopReports_iff organizationId status actor snapshot _ shipmentIds ⟨0, []⟩
        (fun n => env (n + 1)) find.after
      rw [Program.steps_bind_ok hRun, hSteps, List.forall_mem_append, List.forall_mem_singleton,
        hFind, hResponse, ← hLoop, Program.run_bind_ok hRun]
      simp only [LoopReports, List.length_nil, Nat.zero_add, List.nil_append]
      constructor
      · rintro ⟨_, _, _, hOther, hReport⟩
        cases hRun.symm.trans hOther
        exact ⟨rfl, hReport⟩
      · rintro ⟨-, hReport⟩
        exact ⟨snapshot, _, _, hRun, hReport⟩

end Bulk

/-- One created shipment. -/
def sampleBulkStore : Store :=
  { shipments := ⟨[sampleShipment], Collection.nodup_single _ _⟩ }

/-- Only the notification at the end fails. -/
def roomsDown (n : Nat) : Decision :=
  if n = 4 then { fault := some (.rejected .unavailable) } else .ok

/-- The shipment is then in transit, and reported as failed. -/
theorem bulkUpdate_reports_moved_as_failed :
    ¬∀ shipmentIds status organizationId actor env store, (env 0).fault = none →
      @BulkReports (tabulatedSha256 []) shipmentIds status organizationId actor env store := by
  intro hReports
  obtain ⟨snapshot, store', env', hFind, report, -, -, -, -, hTrue⟩ :=
    hReports [sampleShipment.id.toString] .inTransit sampleShipment.enterpriseId.toString none
      roomsDown sampleBulkStore rfl
  have hFound : (request (.shipmentFindByIds [sampleShipment.id.toString])).run backend roomsDown
      sampleBulkStore = (sampleBulkStore, .ok [sampleShipment], fun n => roomsDown (n + 1)) := rfl
  cases hFound.symm.trans hFind
  have hWrong : (@bulkOccurrences (tabulatedSha256 []) [sampleShipment]
      sampleShipment.enterpriseId.toString .inTransit none [sampleShipment.id.toString]
      (fun n => roomsDown (n + 1)) sampleBulkStore).any (fun occurrence =>
        occurrence.failure.isSome && occurrence.id = sampleShipment.id.toString &&
        occurrence.after.progress sampleShipment.id ≠
          occurrence.before.progress sampleShipment.id) = true := by decide +kernel
  obtain ⟨occurrence, hOccurrence, hTest⟩ := List.any_eq_true.mp hWrong
  simp only [Bool.and_eq_true, decide_eq_true_eq] at hTest
  obtain ⟨⟨hFailed, hId⟩, hMoved⟩ := hTest
  exact hMoved ((hTrue occurrence hOccurrence).mp hFailed sampleShipment.id
    (by rw [hId, ObjectId.cast?_toString]))

end Navin
