import Navin.Semantics.Protocol
import Navin.Workers.StellarWorker
import Navin.Webhooks.IotService

/-! Alerts. The detections push what they find onto the plain list `alert_queue`. The
worker takes the jobs of the queue `alert_queue`, and these are the jobs that were added
to it as a queue: the list and the queue share no key. -/
namespace Navin

open Async

inductive AlertType where
  | anomaly
  | statusChange
deriving DecidableEq

def AlertType.name : AlertType → String
  | .anomaly => "ANOMALY"
  | .statusChange => "STATUS_CHANGE"

/-- What a job of the queue carries. -/
structure AlertPayload where
  type : AlertType
  message : String
  shipmentId : String
deriving DecidableEq

structure AlertQueueJob where
  id : Nat
  data : AlertPayload
  active : Bool := false

inductive AlertCall where
  | add (data : AlertPayload)
  | take
  | complete (id : Nat)
  | timeout
  | info (data : AlertPayload)

@[reducible] def AlertCall.Answer : AlertCall → Type
  | .take => Option AlertQueueJob
  | _ => Unit

/-- The jobs that the queue holds, those that have been processed, and the log. -/
structure AlertState where
  added : Nat := 0
  jobs : List AlertQueueJob := []
  processed : List AlertQueueJob := []
  sent : List AlertPayload := []

abbrev AlertM : Type → Type :=
  Extended (Sum.elim BackendCall.Answer TelemetryCall.Answer) AlertCall.Answer ThrownError

abbrev AlertEvent (ι : Type) : Type :=
  Event ((BackendCall ⊕ TelemetryCall) ⊕ AlertCall)
    (Sum.elim (Sum.elim BackendCall.Answer TelemetryCall.Answer) AlertCall.Answer) ThrownError ι

abbrev alertCall (request : AlertCall) : AlertM request.Answer :=
  Program.await (Sum.inr request)

/-- A program of the telemetry code among the calls of the queue. -/
abbrev telemetryProgram {α : Type} (p : TelemetryM α) : AlertM α :=
  p.lift

/-- The queue gives out its oldest waiting job, which stays in it until it is complete. -/
def performAlert (store : TelemetryStore × AlertState) : (request : AlertCall) →
    (TelemetryStore × AlertState) × Except ThrownError request.Answer
  | .add data =>
      let job : AlertQueueJob := { id := store.2.added, data }
      ((store.1, { store.2 with added := store.2.added + 1, jobs := store.2.jobs ++ [job] }),
        .ok ())
  | .take =>
      match store.2.jobs.find? fun job => !job.active with
      | none => (store, .ok none)
      | some waiting =>
          let jobs := store.2.jobs.map fun job =>
            if job.id = waiting.id then { job with active := true } else job
          ((store.1, { store.2 with jobs }), .ok (some waiting))
  | .complete id =>
      let jobs := store.2.jobs.filter fun job => job.id ≠ id
      let processed := store.2.jobs.filter (fun job => job.id = id) ++ store.2.processed
      ((store.1, { store.2 with jobs, processed }), .ok ())
  | .timeout => (store, .ok ())
  | .info data => ((store.1, { store.2 with sent := data :: store.2.sent }), .ok ())

/-- The telemetry code and the alert queue. Redis is available. -/
abbrev alertWorld : World ((BackendCall ⊕ TelemetryCall) ⊕ AlertCall)
    (Sum.elim (Sum.elim BackendCall.Answer TelemetryCall.Answer) AlertCall.Answer) ThrownError :=
  telemetryWorld.extend AlertState Unit fun _ => performAlert

/-- The queue's own way in, which nothing calls. -/
def dispatchAlert (data : AlertPayload) : AlertM Unit :=
  alertCall (.add data)

def processAlert (job : AlertQueueJob) : AlertM Unit := do
  alertCall .timeout
  alertCall (.info job.data)

/-- One turn of the worker. -/
def alertWorker : AlertM Unit := do
  match ← alertCall .take with
  | none => return ()
  | some job => do
      processAlert job
      alertCall (.complete job.id)

/-- What makes alerts and what is to handle them: the requests that schedule detections,
the detections, and the worker. -/
inductive AlertActivity where
  | webhook (header : Option String) (body : IotWebhookBody)
  | ingest (items : List BulkTelemetryItem)
  | detection (task : BackgroundTask)
  | work

def AlertActivity.program [Sha256] [Bcrypt] : AlertActivity → AlertM Unit
  | .webhook header body => telemetryProgram do
      let _ ← iotWebhook header body
      return ()
  | .ingest items => telemetryProgram do
      let _ ← bulkIngestTelemetry items
      return ()
  | .detection task => telemetryProgram task.perform
  | .work => alertWorker

def alertPool [Sha256] [Bcrypt] {ι : Type} (store : TelemetryStore)
    (activities : ι → AlertActivity) : Pool alertWorld ι Unit where
  store := (store, {})
  thread i := (activities i).program

section Queue

variable {ι α : Type} [DecidableEq ι]

def AlertCall.adds : AlertCall → List AlertPayload
  | .add data => [data]
  | _ => []

/-- What has been added to the queue, latest first. -/
def addedAlerts (history : List (AlertEvent ι)) : List AlertPayload :=
  history.flatMap fun event => Sum.elim (fun _ => []) AlertCall.adds event.request

def AlertState.alerts (state : AlertState) : List AlertPayload :=
  (state.jobs ++ state.processed).map (·.data)

theorem alerts_performAlert (store : TelemetryStore × AlertState) (request : AlertCall) :
    (performAlert store request).1.2.alerts.Perm (request.adds ++ store.2.alerts) := by
  cases request with
  | add data =>
      simp only [performAlert, AlertState.alerts, AlertCall.adds, List.map_append,
        List.append_assoc]
      exact List.perm_middle
  | take =>
      simp only [performAlert, AlertCall.adds, List.nil_append]
      split
      · exact List.Perm.refl _
      · rename_i waiting hWaiting
        have hData : ∀ job : AlertQueueJob,
            (if job.id = waiting.id then { job with active := true } else job).data = job.data := by
          intro job
          split <;> rfl
        simp only [AlertState.alerts, List.map_append, List.map_map, Function.comp_def, hData]
        exact List.Perm.refl _
  | complete id =>
      simp only [performAlert, AlertState.alerts, AlertCall.adds, List.nil_append,
        ← List.append_assoc]
      apply List.Perm.map
      apply List.Perm.append_right
      have hParts := List.filter_append_perm (fun job => decide (job.id ≠ id)) store.2.jobs
      simpa using hParts
  | timeout => exact List.Perm.refl _
  | info data => exact List.Perm.refl _

/-- Whatever runs over it, the queue holds or has processed exactly what was added. -/
theorem alerts_perm_added {point : Point alertWorld ι α} {pool : Pool alertWorld ι α}
    (hEmpty : pool.store.2 = {}) (run : GuardedRun anyStep pool point) :
    point.2.store.2.alerts.Perm (addedAlerts point.1) := by
  induction run with
  | refl =>
      rw [hEmpty]
      exact List.Perm.refl _
  | tail prior last ih =>
      obtain ⟨env, i, request, next, -, -, hHistory, hStore⟩ := last.cases
      rw [hHistory, hStore]
      cases request with
      | inl request => exact ih
      | inr request =>
          exact (alerts_performAlert _ request).trans (ih.append_left request.adds)

/-- No alert is lost that was dispatched to the queue. -/
theorem dispatched_is_kept {point : Point alertWorld ι α} {pool : Pool alertWorld ι α}
    (hEmpty : pool.store.2 = {}) (run : GuardedRun anyStep pool point) {event : AlertEvent ι}
    {data : AlertPayload} (hEvent : event ∈ point.1) (hAdd : event.request = .inr (.add data)) :
    data ∈ point.2.store.2.alerts := by
  apply (alerts_perm_added hEmpty run).mem_iff.mpr
  apply List.mem_flatMap.mpr
  refine ⟨event, hEvent, ?_⟩
  rw [hAdd]
  exact List.mem_singleton_self data

end Queue

section Alerts

variable {ι : Type} [DecidableEq ι]

/-- The alert that an answered push is about. -/
def pushedBy : AlertEvent ι → Option AlertJob
  | ⟨_, .inl (.inr (.pushAlertJob alert)), .ok _⟩ => some alert
  | _ => none

def Pushed (history : List (AlertEvent ι)) (alert : AlertJob) : Prop :=
  ∃ event ∈ history, pushedBy event = some alert

/-- The alert is a job that the queue holds or has processed. -/
def AlertState.Keeps (state : AlertState) (alert : AlertJob) : Prop :=
  ∃ data ∈ state.alerts, data.type.name = alert.type ∧ data.message = alert.message ∧
    data.shipmentId = alert.shipmentId

/-- No alert that was pushed is lost. -/
def NoLostAlert (point : Point alertWorld ι Unit) : Prop :=
  ∀ alert, Pushed point.1 alert → point.2.store.2.Keeps alert

/-- The calls of the telemetry code and of the worker. None adds to the queue. -/
abbrev AddsNothing (α : Type) (p : AlertM α) : Prop :=
  p.Uses (Sum.elim (fun _ => True) fun request => request.adds = [])

theorem addsNothing_telemetry {α : Type} (p : TelemetryM α) : AddsNothing α (telemetryProgram p) := by
  induction p with
  | done a => trivial
  | fail e => trivial
  | call request next ih => exact ⟨trivial, fun response => ih response⟩

theorem addsNothing_call {request : AlertCall} (h : request.adds = []) :
    AddsNothing _ (alertCall request) :=
  Program.Uses.await h

theorem addsNothing_alertWorker : AddsNothing Unit alertWorker := by
  have hT : Program.Compositional AddsNothing := Program.Uses.compositional _
  apply hT.bind (addsNothing_call rfl)
  intro taken
  split
  · exact hT.pure _
  · exact hT.bind (hT.bind (addsNothing_call rfl) fun _ => addsNothing_call rfl)
      fun _ => addsNothing_call rfl

variable [Sha256] [Bcrypt] {activities : ι → AlertActivity} {store : TelemetryStore}
  {point : Point alertWorld ι Unit}

theorem AlertActivity.program_addsNothing (activity : AlertActivity) :
    AddsNothing Unit activity.program := by
  cases activity with
  | work => exact addsNothing_alertWorker
  | _ => exact addsNothing_telemetry _

theorem addedAlerts_eq_nil (run : GuardedRun anyStep (alertPool store activities) point) :
    addedAlerts point.1 = [] := by
  apply run.invariant ⟨fun _ => Sum.elim (fun _ => True) fun request => request.adds = [],
    fun _ _ _ => ()⟩ (fun _ => ()) (Q := fun _ _ _ => True)
    (fun i => ((activities i).program_addsNothing.follows fun _ hCall =>
      ⟨hCall, fun _ => rfl⟩).mono fun _ _ _ => trivial)
    (fun history _ => addedAlerts history = [])
  · rfl
  · intro history store _ i request hNone hAllows _
    cases request with
    | inl request => exact hNone
    | inr request =>
        simp only [addedAlerts, List.flatMap_cons, Sum.elim_inr]
        rw [hAllows]
        exact hNone

/-- Every alert that was pushed is lost: none is kept exactly when there was one. -/
theorem noLostAlert_iff (run : GuardedRun anyStep (alertPool store activities) point) :
    NoLostAlert point ↔ ∀ alert, ¬Pushed point.1 alert := by
  constructor
  · intro hKept alert hPushed
    obtain ⟨data, hData, -⟩ := hKept alert hPushed
    have hAdded := (alerts_perm_added rfl run).mem_iff.mp hData
    rw [addedAlerts_eq_nil run] at hAdded
    cases hAdded
  · intro hNone alert hPushed
    exact absurd hPushed (hNone alert)

end Alerts

section Sample

/-- A reading above the limit, and the worker. -/
def sampleAlertActivities : Fin 2 → AlertActivity
  | 0 => .detection (.iotDetection { sampleTelemetry with temperature := .ofNat 90 }
      sampleShipment.id.toString)
  | 1 => .work

def sampleAlertPool : Pool alertWorld (Fin 2) Unit :=
  @alertPool (tabulatedSha256 []) saltBcrypt _ ({}, {}) sampleAlertActivities

def sampleAlert : AlertJob where
  shipmentId := sampleShipment.id.toString
  type := "TEMPERATURE_BREACH"
  severity := "HIGH"
  message := "Temperature exceeded: 90°C > 25°C"

private theorem sample_pushed : ∃ point, GuardedRun anyStep sampleAlertPool point ∧
    Pushed point.1 sampleAlert := by
  obtain ⟨point, run, hTest⟩ := Pool.exists_run anyStep sampleAlertPool
    (fun point => point.1.any fun event => pushedBy event = some sampleAlert)
    (List.replicate 5 ((({}, {}), ()), 0)) (by decide +kernel)
  obtain ⟨event, hEvent, hPushed⟩ := List.any_eq_true.mp hTest
  exact ⟨point, run, event, hEvent, of_decide_eq_true hPushed⟩

theorem noLostAlert_sample : ∃ point : Point alertWorld (Fin 2) Unit, Pushed point.1 sampleAlert ∧
    (NoLostAlert point ↔ ∀ alert, ¬Pushed point.1 alert) := by
  obtain ⟨point, run, hPushed⟩ := sample_pushed
  exact ⟨point, hPushed, @noLostAlert_iff _ _ (tabulatedSha256 []) saltBcrypt
    sampleAlertActivities ({}, {}) point run⟩

/-- The alert of the reading is no job of the queue. -/
theorem pushed_alert_is_lost : ¬∀ (_ : Sha256) (_ : Bcrypt) (activities : Fin 2 → AlertActivity)
    (store : TelemetryStore) (point : Point alertWorld (Fin 2) Unit),
    GuardedRun anyStep (alertPool store activities) point → NoLostAlert point := by
  intro hClaim
  obtain ⟨point, run, hPushed⟩ := sample_pushed
  obtain ⟨data, hData, -⟩ := hClaim (tabulatedSha256 []) saltBcrypt _ _ point run _ hPushed
  have hAdded := (alerts_perm_added rfl run).mem_iff.mp hData
  rw [@addedAlerts_eq_nil _ _ (tabulatedSha256 []) saltBcrypt _ _ point run] at hAdded
  cases hAdded

end Sample

end Navin
