import Navin.Backend.Effects
import Navin.Semantics.Protocol
import Navin.Shipments.StatusCalls

/-! Does the state machine hold of the stored status when status requests
overlap? Every request validates the transition against the status it read, and
writes later without looking again. -/
namespace Navin

open Async

/-- The status each shipment had when this request last read it. -/
abbrev ReadStatuses : Type :=
  ObjectId → Option ShipmentStatus

/-- A request that writes a status has read one the state machine lets it leave.
Only queries count as reads; the answer of an update does not. -/
def validatesWhatItRead : Protocol BackendCall BackendCall.Answer ThrownError ReadStatuses where
  allows read call := ∀ id status, call.statusWrite = some (id, status) →
    ∃ previous, read id = some previous ∧ status ∈ allowedTransitions previous
  next read call response :=
    match call, response with
    | .shipmentFindById _, .ok (some shipment) =>
        Function.update read shipment.id (some shipment.status)
    | .shipmentFindByIds _, .ok snapshot => fun id =>
        ((snapshot.find? fun shipment => shipment.id = id).map (·.status)).or (read id)
    | _, _ => read

variable {read : ReadStatuses} {id : String} {status : ShipmentStatus} {actor : Option String}
  {snapshot : List Shipment} {organizationId : String}

/-- A program that leaves what the request has read as it is. -/
abbrev KeepsRead (read : ReadStatuses) (α : Type) (p : BackendM α) : Prop :=
  p.Follows validatesWhatItRead (fun after _ => after = read) read

/-- Away from the shipments a call is allowed and teaches nothing. -/
private theorem keepsRead_of_ignoresShipments {call : BackendCall}
    (h : call.ignoresShipments = true) : KeepsRead read _ (request call) := by
  refine Program.follows_await.mpr ⟨fun id status hWrite => ?_, fun response => ?_⟩
  · rw [BackendCall.statusWrite_of_ignoresShipments h] at hWrite
    cases hWrite
  · cases call <;> first | rfl | cases h

private theorem keepsRead_of_incidental (call : BackendCall) (h : call.incidental = true) :
    KeepsRead read _ (request call) :=
  keepsRead_of_ignoresShipments (BackendCall.ignoresShipments_of_incidental h)

private theorem keepsRead_of_aside (call : BackendCall) (h : call.aside = true) :
    KeepsRead read _ (request call) :=
  keepsRead_of_incidental call (BackendCall.incidental_of_aside h)

/-- Finding by printed identifier is finding by identifier. -/
private theorem find?_of_find?_toString {existing : Shipment}
    (h : (snapshot.find? fun shipment => shipment.id.toString = id) = some existing) :
    (snapshot.find? fun shipment => shipment.id = existing.id) = some existing := by
  have hId : existing.id.toString = id := by simpa using List.find?_some h
  simpa only [← hId, ObjectId.toString_injective.eq_iff] using h

section Requests

variable [Sha256]

theorem commitStatusUpdate_follows {shipment : Shipment}
    (hRead : read shipment.id = some shipment.status)
    (hAllowed : status ∈ allowedTransitions shipment.status) :
    KeepsRead read _ (commitStatusUpdate id shipment status actor) := by
  have hT := Program.Follows.compositional validatesWhatItRead read
  refine commitStatusUpdate_holds hT keepsRead_of_aside ?_
    (fun _ _ _ => keepsRead_of_ignoresShipments rfl) fun saved => ?_
  · intro milestone _
    refine Program.follows_await.mpr ⟨fun id next hWrite => ?_, fun response => rfl⟩
    simp only [BackendCall.statusWrite, Option.map_some, Option.some.injEq,
      Prod.mk.injEq] at hWrite
    obtain ⟨rfl, rfl⟩ := hWrite
    exact ⟨shipment.status, hRead, hAllowed⟩
  · exact settleDelivery_holds hT keepsRead_of_aside
      (fun _ => keepsRead_of_ignoresShipments rfl) (fun _ => keepsRead_of_ignoresShipments rfl)
      (fun _ _ => keepsRead_of_ignoresShipments rfl) fun _ _ => keepsRead_of_ignoresShipments rfl

/-- The single path writes only after validating the status it read. -/
theorem updateShipmentStatusService_follows :
    (updateShipmentStatusService id status actor).Follows validatesWhatItRead
      (fun _ _ => True) read := by
  refine Program.follows_bind.mpr (Program.follows_await.mpr ⟨?_, fun response => ?_⟩)
  · intro id next hWrite
    cases hWrite
  · cases response with
    | error error => trivial
    | ok found =>
        cases found with
        | none => trivial
        | some shipment =>
            simp only [Program.then_ok]
            split
            · trivial
            · cases hValid : validateStatusTransition shipment.status status with
              | error error => trivial
              | ok _ =>
                  refine (commitStatusUpdate_follows ?_ ?_).mono fun _ _ _ => trivial
                  · exact Function.update_self _ _ _
                  · exact validateStatusTransition_ok_iff.mp hValid

/-- One bulk iteration writes only a status its snapshot lets it write. -/
theorem bulkUpdateOne_follows
    (hRead : ∀ oid existing, (snapshot.find? fun shipment => shipment.id = oid) = some existing →
      read oid = some existing.status) (id : String) :
    KeepsRead read _ (bulkUpdateOne snapshot organizationId status actor id) := by
  unfold bulkUpdateOne
  split
  · rfl
  · rename_i existing hFind
    split
    · rfl
    · split
      · rfl
      · rename_i hAllowed
        have hT := Program.Follows.compositional validatesWhatItRead read
        have hId : existing.id.toString = id := by simpa using List.find?_some hFind
        refine hT.bind (milestoneFor_holds hT keepsRead_of_aside) fun milestone => ?_
        refine bulkCommit_holds hT keepsRead_of_aside ?_ fun updated => ?_
        · refine Program.follows_await.mpr ⟨fun oid next hWrite => ?_, fun response => rfl⟩
          simp only [BackendCall.statusWrite, ← hId, ObjectId.cast?_toString, Option.map_some,
            Option.some.injEq, Prod.mk.injEq] at hWrite
          obtain ⟨rfl, rfl⟩ := hWrite
          exact ⟨existing.status, hRead _ _ (find?_of_find?_toString hFind), not_not.mp hAllowed⟩
        · exact settleBulkDelivery_holds hT (fun _ => keepsRead_of_ignoresShipments rfl)
            (fun _ => keepsRead_of_ignoresShipments rfl)
            fun _ _ => keepsRead_of_ignoresShipments rfl

/-- The bulk path writes only after validating the snapshot it read. -/
theorem bulkUpdateShipmentStatusService_follows {ids : List String} :
    (bulkUpdateShipmentStatusService ids status organizationId actor).Follows validatesWhatItRead
      (fun _ _ => True) read := by
  refine Program.follows_bind.mpr (Program.follows_await.mpr ⟨?_, fun response => ?_⟩)
  · intro id next hWrite
    cases hWrite
  · cases response with
    | error error => trivial
    | ok snapshot =>
        -- The loop never reads again, so every iteration relies on the snapshot.
        refine (bulkUpdateLoop_holds (Program.Follows.compositional validatesWhatItRead _)
          (bulkUpdateOne_follows fun oid existing hExisting => ?_) ids _).mono fun _ _ _ => trivial
        simp [validatesWhatItRead, hExisting]

theorem StatusRequest.program_follows (request : StatusRequest) :
    request.program.Follows validatesWhatItRead (fun _ _ => True) read := by
  cases request with
  | single id status actor =>
      exact updateShipmentStatusService_follows.bind (fun _ _ _ => trivial) fun _ _ _ => trivial
  | bulk shipmentIds status organizationId actor =>
      exact bulkUpdateShipmentStatusService_follows.bind (fun _ _ _ => trivial)
        fun _ _ _ => trivial

/-- Any number of status requests about to start over one store. -/
def statusPool {ι : Type} (store : Store) (requests : ι → StatusRequest) : Pool backend ι Unit :=
  ⟨store, fun i => (requests i).program⟩

section Runs

variable {ι : Type} [DecidableEq ι]

/-- What request `i` has read, from the events so far. -/
def lastRead (history : List (BackendEvent ι)) (i : ι) :
    ReadStatuses :=
  validatesWhatItRead.after (fun _ _ => none) history i

/-- A status is written only while the stored status is still the one the
request read, or already the one it writes. -/
def WritesOntoWhatItRead : Guard backend ι := fun history store i call =>
  match call.statusWrite with
  | none => True
  | some (id, status) =>
      Store.status? store id = lastRead history i id ∨ Store.status? store id = some status

instance (history : List (BackendEvent ι)) (store : Store)
    (i : ι) (call : BackendCall) : Decidable (WritesOntoWhatItRead history store i call) := by
  unfold WritesOntoWhatItRead
  split <;> infer_instance

/-- The state machine, as a law about two consecutive stores. -/
def StatusLaw (before after : Store) : Prop :=
  ∀ id previous next, before.status? id = some previous → after.status? id = some next →
    previous ≠ next → next ∈ allowedTransitions previous

variable {store : Store} {requests : ι → StatusRequest} {before after : Point backend ι Unit}

/-- One step of a run that writes onto what was read obeys the state machine. -/
theorem statusLaw_step (run : GuardedRun WritesOntoWhatItRead (statusPool store requests) before)
    (step : GuardedStep WritesOntoWhatItRead before after) :
    StatusLaw before.2.store after.2.store := by
  intro id previous next hBefore hAfter hNe
  obtain ⟨decision, i, call, continuation, hThread, hGuard, -, hStore⟩ := step.cases
  have hAllows := run.allows validatesWhatItRead (fun _ _ => none)
    (fun i => (requests i).program_follows) hThread
  rw [hStore] at hAfter
  have hWrite : call.statusWrite = some (id, next) := statusWrite_of_perform hBefore hAfter hNe
  obtain ⟨read, hRead, hMem⟩ := hAllows id next hWrite
  simp only [WritesOntoWhatItRead, hWrite] at hGuard
  rcases hGuard with hCurrent | hTarget
  · rw [hBefore, lastRead, hRead] at hCurrent
    rwa [Option.some.inj hCurrent]
  · rw [hBefore] at hTarget
    exact absurd (Option.some.inj hTarget) hNe

/-- A shipment in a terminal status is never given another one. -/
theorem terminal_steps (run : GuardedRun WritesOntoWhatItRead (statusPool store requests) before)
    (steps : GuardedSteps WritesOntoWhatItRead before after) {id : ObjectId}
    {final : ShipmentStatus} (hFinal : Store.status? before.2.store id = some final)
    (hTerminal : allowedTransitions final = []) :
    Store.status? after.2.store id = some final := by
  induction steps with
  | refl => exact hFinal
  | tail prior last ih =>
      rename_i middle after
      obtain ⟨decision, i, call, continuation, -, -, -, hStore⟩ := last.cases
      obtain ⟨next, hNext⟩ : ∃ next, Store.status? after.2.store id = some next := by
        rw [← Option.isSome_iff_exists, hStore]
        exact status?_isSome_of_perform (by rw [ih]; rfl)
      by_contra hChanged
      have hMem := statusLaw_step (run.trans prior) last id final next ih hNext
        fun hEq => hChanged (hEq ▸ hNext)
      rw [hTerminal] at hMem
      cases hMem

/-- Over any interleaving of any number of single and bulk requests whose writes
land on the status they read: every change of a stored status is a transition
of the state machine, and a terminal status is final. -/
theorem statusRequests_obey_stateMachine
    (run : GuardedRun WritesOntoWhatItRead (statusPool store requests) before) :
    (GuardedStep WritesOntoWhatItRead before after → StatusLaw before.2.store after.2.store) ∧
    (GuardedSteps WritesOntoWhatItRead before after → ∀ id final,
      Store.status? before.2.store id = some final → allowedTransitions final = [] →
        Store.status? after.2.store id = some final) :=
  ⟨statusLaw_step run, fun steps _ _ => terminal_steps run steps⟩

end Runs

end Requests

/-- One request cancels a freshly created shipment while the other moves it on. -/
def overlappingRequests : Bool → StatusRequest
  | true => .single sampleShipment.id.toString .cancelled none
  | false => .single sampleShipment.id.toString .inTransit none

/-- Nothing is hashed in the runs below. -/
def overlappingPool : Pool backend Bool Unit :=
  @statusPool (tabulatedSha256 []) Bool { shipments := ⟨[sampleShipment], Collection.nodup_single _ _⟩ } overlappingRequests

/-- On a run in which a write cancels the shipment it read, the law is the
theorem's. -/
theorem statusRequests_obey_stateMachine_sample :
    ∃ before after : Point backend Bool Unit,
      GuardedRun WritesOntoWhatItRead overlappingPool before ∧
      Store.status? after.2.store sampleShipment.id = some .cancelled ∧
      StatusLaw before.2.store after.2.store := by
  obtain ⟨before, run, hNext⟩ := Pool.exists_run WritesOntoWhatItRead overlappingPool
    (fun point => (Pool.runSchedule WritesOntoWhatItRead [(Decision.ok, true)] point).any
      fun next => Store.status? next.2.store sampleShipment.id = some .cancelled)
    [(Decision.ok, true), (Decision.ok, true)] (by decide)
  rw [Option.any_eq_true] at hNext
  obtain ⟨after, hAfter, hCancelled⟩ := hNext
  exact ⟨before, after, run, of_decide_eq_true hCancelled,
    (@statusRequests_obey_stateMachine (tabulatedSha256 []) _ _ _ _ _ after run).1
      (Pool.runSchedule_step hAfter)⟩

/-- Both requests read the created shipment; one cancels it and the other then
moves the cancelled shipment into transit. -/
theorem overlapping_statusRequests_break_stateMachine :
    ¬∀ before after : Point backend Bool Unit, GuardedRun anyStep overlappingPool before →
      GuardedStep anyStep before after → StatusLaw before.2.store after.2.store := by
  intro law
  obtain ⟨before, run, hTest⟩ := Pool.exists_run anyStep overlappingPool
    (fun point => Store.status? point.2.store sampleShipment.id = some .cancelled &&
      (Pool.runSchedule anyStep [(Decision.ok, false)] point).any
        fun next => Store.status? next.2.store sampleShipment.id = some .inTransit)
    [(Decision.ok, true), (Decision.ok, false), (Decision.ok, true), (Decision.ok, true),
      (Decision.ok, false)] (by decide)
  simp only [Bool.and_eq_true, decide_eq_true_eq, Option.any_eq_true] at hTest
  obtain ⟨hCancelled, after, hAfter, hInTransit⟩ := hTest
  have hMem := law before after run (Pool.runSchedule_step hAfter) _ _ _ hCancelled hInTransit
    (by decide)
  exact absurd hMem (by decide)

end Navin
