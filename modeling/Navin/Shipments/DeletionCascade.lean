import Mathlib.Data.Fintype.Basic
import Navin.Semantics.Restriction
import Navin.Shipments.RecordService
import Navin.Webhooks.TelemetryFootprints

/-! Is what belongs to a shipment deleted with it? Deleting marks the shipment first, and
then its anomalies and its telemetry. Whoever stores a record does not ask whether its
shipment is still there. -/
namespace Navin

open Async

/-- What deletes shipments, and what stores records about them. -/
inductive CascadeActivity where
  | deletion (id : String)
  | ingest (items : List BulkTelemetryItem)
  | webhook (header : Option String) (body : IotWebhookBody)
  | detection (task : BackgroundTask)

def CascadeActivity.program [Sha256] [Bcrypt] : CascadeActivity → TelemetryM Unit
  | .deletion id => do
      let _ ← backendProgram (deleteShipmentService id)
  | .ingest items => do
      let _ ← bulkIngestTelemetry items
  | .webhook header body => do
      let _ ← iotWebhook header body
  | .detection task => task.perform

def cascadePool [Sha256] [Bcrypt] {ι : Type} (store : TelemetryStore)
    (activities : ι → CascadeActivity) : Pool telemetryWorld ι Unit where
  store := store
  thread i := (activities i).program

namespace Store

variable (store : Store) (id : ObjectId)

def isDeleted : Bool :=
  (store.shipment id).any fun shipment => shipment.deletedAt.isSome

def hasLiveTelemetry : Bool :=
  store.telemetry.any fun row => row.shipmentId = id && row.deletedAt.isNone

def hasLiveAnomaly : Bool :=
  store.anomalies.any fun row => row.shipmentId = id && row.deletedAt.isNone

/-- Nothing that belongs to a deleted shipment is live. -/
def Cascaded : Prop :=
  ∀ id, store.isDeleted id = true →
    store.hasLiveTelemetry id = false ∧ store.hasLiveAnomaly id = false

end Store

section Protocol

/-- Where a deletion is. It is broken if it gives up between its writes. -/
inductive CascadeStage where
  | idle
  | marked (id : String)
  | telemetryLeft (id : String)
  | broken
deriving DecidableEq

namespace CascadeStage

def next : CascadeStage → (request : BackendCall) → Except ThrownError request.Answer →
    CascadeStage
  | .idle, .shipmentFindByIdAndUpdate id (.deletedAt _), .ok (some _) => .marked id
  | .marked _, .now, .error _ => .broken
  | .marked id, .anomalyDelete _ _, _ => .telemetryLeft id
  | .telemetryLeft _, .telemetryDelete _ _, _ => .idle
  | stage, _, _ => stage

/-- The telemetry of shipment `id` is still to be deleted. -/
def owesTelemetry (id : ObjectId) : CascadeStage → Bool
  | .marked text | .telemetryLeft text => ObjectId.cast? text = some id
  | .idle | .broken => false

/-- The anomalies of shipment `id` are still to be deleted. -/
def owesAnomalies (id : ObjectId) : CascadeStage → Bool
  | .marked text => ObjectId.cast? text = some id
  | .idle | .telemetryLeft _ | .broken => false

end CascadeStage

/-- The calls that neither write shipments nor delete records. -/
def storesOnly : BackendCall ⊕ TelemetryCall → Bool
  | .inl request => !(request.writesShipments || request.writesTelemetry || request.writesAnomalies)
  | .inr _ => true

def CascadeStage.allows : CascadeStage → BackendCall ⊕ TelemetryCall → Prop
  | .idle, request => storesOnly request = true ∨
      ∃ id now, request = .inl (.shipmentFindByIdAndUpdate id (.deletedAt now))
  | .marked id, request => request = .inl .now ∨ ∃ now, request = .inl (.anomalyDelete id now)
  | .telemetryLeft id, request => ∃ now, request = .inl (.telemetryDelete id now)
  | .broken, _ => False

/-- Who has marked a shipment goes on to its anomalies and then to its telemetry. -/
def cascades : Protocol (BackendCall ⊕ TelemetryCall)
    (Sum.elim BackendCall.Answer TelemetryCall.Answer) ThrownError CascadeStage where
  allows := CascadeStage.allows
  next stage request response :=
    match request, response with
    | .inl request, response => stage.next request response
    | .inr _, _ => stage

theorem cascades_ignores {request : BackendCall ⊕ TelemetryCall} (h : storesOnly request = true) :
    cascades.allows .idle request ∧
      ∀ response, cascades.next .idle request response = .idle := by
  refine ⟨.inl h, fun response => ?_⟩
  cases request with
  | inr request => rfl
  | inl request => cases request <;> first | rfl | cases h

/-- A thread ends outside of a deletion, or in a broken one. -/
def Abandons {α : Type} (stage : CascadeStage) (_ : Except ThrownError α) : Prop :=
  stage = .idle ∨ stage = .broken

/-- Both operations of `Promise.all` are carried out, whatever becomes of the first. -/
theorem promiseAll_follows {α β State : Type} {first : BackendM α} {second : BackendM β}
    {P : Protocol BackendCall BackendCall.Answer ThrownError State} {s s₁ s₂ : State}
    (hFirst : first.Follows P (fun s' _ => s' = s₁) s)
    (hSecond : second.Follows P (fun s' _ => s' = s₂) s₁) :
    (promiseAll first second).Follows P (fun s' _ => s' = s₂) s := by
  have hSettled {γ : Type} {p : BackendM γ} {s s' : State}
      (h : p.Follows P (fun t _ => t = s') s) :
      (tryCatch (Except.ok <$> p) fun error => return .error error :
        BackendM (Except ThrownError γ)).Follows P
          (fun t outcome => t = s' ∧ outcome.isOk = true) s := by
    have hMapped : (Except.ok <$> p : BackendM (Except ThrownError γ)).Follows P
        (fun t _ => t = s') s := by
      rw [map_eq_pure_bind]
      exact h.bind (fun _ _ h => h) fun _ _ h => h
    apply hMapped.tryCatch
    · exact fun _ _ h => ⟨h, rfl⟩
    · exact fun _ _ h => ⟨h, rfl⟩
  apply (hSettled hFirst).bind
  · rintro _ a ⟨rfl, -⟩
    apply (hSettled hSecond).bind
    · rintro _ b ⟨rfl, -⟩
      cases a <;> cases b <;> rfl
    · rintro _ error ⟨-, hOk⟩
      cases hOk
  · rintro _ error ⟨-, hOk⟩
    cases hOk

theorem deleteShipmentService_follows (id : String) :
    (backendProgram (deleteShipmentService id)).Follows cascades Abandons .idle := by
  apply Program.Follows.lift
  apply Program.Follows.await_bind
  · exact Or.inl rfl
  · exact fun _ => .inl rfl
  intro now
  apply Program.Follows.await_bind
  · exact Or.inr ⟨id, now, rfl⟩
  · exact fun _ => .inl rfl
  intro deleted
  cases deleted with
  | none => exact .inl rfl
  | some shipment =>
      apply Program.Follows.await_bind
      · exact Or.inl rfl
      · exact fun _ => .inr rfl
      intro anomaliesAt
      apply Program.Follows.await_bind
      · exact Or.inl rfl
      · exact fun _ => .inr rfl
      intro telemetryAt
      have hAnomalies : (request (.anomalyDelete id anomaliesAt)).Follows cascades.left
          (fun stage _ => stage = .telemetryLeft id) (.marked id) :=
        Program.follows_await.mpr ⟨Or.inr ⟨anomaliesAt, rfl⟩, fun _ => rfl⟩
      have hTelemetry : (request (.telemetryDelete id telemetryAt)).Follows cascades.left
          (fun stage _ => stage = .idle) (.telemetryLeft id) :=
        Program.follows_await.mpr ⟨⟨telemetryAt, rfl⟩, fun _ => rfl⟩
      exact (promiseAll_follows hAnomalies hTelemetry).bind (fun _ _ h => .inl h)
        fun _ _ h => .inl h

/-- The programs that delete nothing. -/
abbrev StoresOnly (α : Type) (p : TelemetryM α) : Prop :=
  p.Uses fun request => storesOnly request = true

theorem ingests_storesOnly {α : Type} {p : TelemetryM α} (h : Ingests α p) : StoresOnly α p := by
  apply h.mono
  intro request hIngests
  cases request with
  | inl request => cases request <;> first | rfl | cases hIngests
  | inr request => rfl

theorem perform_storesOnly (task : BackgroundTask) : StoresOnly _ task.perform := by
  apply task.perform_detects.mono
  intro request h
  cases request with
  | inl request => exact h
  | inr request => rfl

theorem CascadeActivity.program_follows [Sha256] [Bcrypt] (activity : CascadeActivity) :
    activity.program.Follows cascades Abandons .idle := by
  have hStores {p : TelemetryM Unit} (h : StoresOnly _ p) : p.Follows cascades Abandons .idle :=
    (Program.Uses.follows h fun _ => cascades_ignores).mono fun _ _ h => .inl h
  cases activity with
  | deletion id =>
      exact (deleteShipmentService_follows id).bind (fun _ _ h => h) fun _ _ h => h
  | ingest items =>
      exact hStores (ingests_storesOnly ((bulkIngestTelemetry_ingests items).bind fun _ => trivial))
  | webhook header body =>
      exact hStores (ingests_storesOnly ((iotWebhook_ingests header body).bind fun _ => trivial))
  | detection task => exact hStores (perform_storesOnly task)

end Protocol

section Stores

variable {decision : Decision} {telemetryDecision : TelemetryDecision} {store : Store}
  {both : TelemetryStore} {id key : ObjectId} {text : String} {date : Date}

theorem isDeleted_of_shipments {after : Store} (h : after.shipments = store.shipments) :
    after.isDeleted id = store.isDeleted id := by
  rw [Store.isDeleted, Store.isDeleted, Store.shipment, Store.shipment, h]

theorem isDeleted_modifyShipment_of_ne {f : Shipment → Shipment}
    (hId : ∀ shipment, (f shipment).id = shipment.id) (h : id ≠ key) :
    (store.modifyShipment key f hId).isDeleted id = store.isDeleted id := by
  rw [Store.isDeleted, Store.isDeleted, Store.shipment, Store.shipment, Store.modifyShipment,
    store.shipments.get?_modify_of_ne hId h]

/-- A shipment is deleted by a deletion that says so, or whose answer is lost. -/
theorem deleted_of_mark
    (h : (perform decision store (.shipmentFindByIdAndUpdate text (.deletedAt date))).1.isDeleted
      id = true) :
    store.isDeleted id = true ∨ ObjectId.cast? text = some id ∧
      ((∃ shipment, (perform decision store
          (.shipmentFindByIdAndUpdate text (.deletedAt date))).2 = .ok (some shipment)) ∨
        ∃ error, decision.fault = some (.lost error)) := by
  rw [perform_store_eq] at h
  split at h
  · rename_i hApplies
    simp only [execute, castingId] at h
    split at h
    · exact .inl h
    · rename_i key hCast
      split at h
      · exact .inl h
      · rename_i shipment hLive
        by_cases hId : id = key
        · subst hId
          refine .inr ⟨hCast, ?_⟩
          cases hFault : decision.fault with
          | none =>
              refine .inl ⟨(ShipmentUpdate.deletedAt date).apply decision.now shipment, ?_⟩
              rw [perform_of_fault_none hFault]
              simp only [execute, castingId, hCast, hLive]
          | some fault =>
              cases fault with
              | lost error => exact .inr ⟨error, rfl⟩
              | rejected error => simp [Decision.applies, hFault] at hApplies
        · rw [isDeleted_modifyShipment_of_ne _ hId] at h
          exact .inl h
  · exact .inl h

theorem exists_unmarked {α : Type} {rows : List α} {own : α → Prop} [DecidablePred own]
    {live : α → Bool} {mark : α → α}
    (h : (rows.map fun row => if own row then mark row else row).any live = true)
    (hMark : ∀ row, live (mark row) = false) :
    ∃ row ∈ rows, ¬own row ∧ live row = true := by
  simp only [List.any_map, List.any_eq_true, Function.comp_apply] at h
  obtain ⟨row, hRow, hLive⟩ := h
  by_cases hOwn : own row
  · rw [if_pos hOwn, hMark] at hLive
    cases hLive
  · rw [if_neg hOwn] at hLive
    exact ⟨row, hRow, hOwn, hLive⟩

/-- Deleting the telemetry of a shipment leaves none of it live, if it takes effect. -/
theorem live_of_telemetryDelete
    (h : (perform decision store (.telemetryDelete text date)).1.hasLiveTelemetry id = true) :
    store.hasLiveTelemetry id = true ∧
      (ObjectId.cast? text = some id → decision.applies = false) := by
  rw [perform_store_eq] at h
  split at h
  · simp only [execute, castingId] at h
    split at h
    · rename_i hCast
      exact ⟨h, fun hId => by rw [hCast] at hId; cases hId⟩
    · rename_i key hCast
      obtain ⟨row, hRow, hOther, hLive⟩ := exists_unmarked h fun row => Bool.and_false _
      refine ⟨List.any_eq_true.mpr ⟨row, hRow, hLive⟩, fun hId => ?_⟩
      rw [hCast] at hId
      simp only [Bool.and_eq_true, decide_eq_true_eq] at hLive
      exact absurd (hLive.1.trans (Option.some.inj hId).symm) hOther
  · rename_i hRefused
    exact ⟨h, fun _ => eq_false_of_ne_true hRefused⟩

/-- So does deleting its anomalies. -/
theorem live_of_anomalyDelete
    (h : (perform decision store (.anomalyDelete text date)).1.hasLiveAnomaly id = true) :
    store.hasLiveAnomaly id = true ∧
      (ObjectId.cast? text = some id → decision.applies = false) := by
  rw [perform_store_eq] at h
  split at h
  · simp only [execute, castingId] at h
    split at h
    · rename_i hCast
      exact ⟨h, fun hId => by rw [hCast] at hId; cases hId⟩
    · rename_i key hCast
      obtain ⟨row, hRow, hOther, hLive⟩ := exists_unmarked h fun row => Bool.and_false _
      refine ⟨List.any_eq_true.mpr ⟨row, hRow, hLive⟩, fun hId => ?_⟩
      rw [hCast] at hId
      simp only [Bool.and_eq_true, decide_eq_true_eq] at hLive
      exact absurd (hLive.1.trans (Option.some.inj hId).symm) hOther
  · rename_i hRefused
    exact ⟨h, fun _ => eq_false_of_ne_true hRefused⟩

/-- A record comes with the anomaly it is made of. -/
theorem exists_of_mem_anomalyRows {ids : List ObjectId} {anomalies : List EvaluatedAnomaly}
    {rows : List AnomalyRow} (h : anomalyRows ids anomalies = .ok rows) {row : AnomalyRow}
    (hRow : row ∈ rows) :
    ∃ anomaly ∈ anomalies, ObjectId.cast? anomaly.shipmentId = some row.shipmentId := by
  induction anomalies generalizing ids rows with
  | nil =>
      rw [anomalyRows.eq_3] at h
      cases h
      cases hRow
  | cons anomaly rest ih =>
      cases ids with
      | nil => cases h
      | cons fresh ids =>
          rw [anomalyRows] at h
          cases hCast : ObjectId.cast? anomaly.shipmentId with
          | none =>
              rw [hCast] at h
              cases h
          | some shipmentId =>
              rw [hCast] at h
              cases hRest : anomalyRows ids rest with
              | error error =>
                  rw [hRest] at h
                  cases h
              | ok others =>
                  rw [hRest] at h
                  obtain rfl := Except.ok.inj h
                  rcases List.mem_cons.mp hRow with rfl | hOther
                  · exact ⟨anomaly, List.mem_cons_self, hCast⟩
                  · obtain ⟨other, hMem, hOther⟩ := ih hRest hOther
                    exact ⟨other, List.mem_cons_of_mem _ hMem, hOther⟩

/-- The telemetry call stores a telemetry record of the shipment. -/
def storesTelemetryOf (id : ObjectId) : TelemetryCall → Prop
  | .telemetryCreate input => ObjectId.cast? input.shipmentId = some id
  | _ => False

/-- The telemetry call stores an anomaly of the shipment. -/
def storesAnomalyOf (id : ObjectId) : TelemetryCall → Prop
  | .anomalyCreate anomalies => ∃ anomaly ∈ anomalies, ObjectId.cast? anomaly.shipmentId = some id
  | _ => False

/-- An update neither moves a record nor brings it back. -/
theorem hasLiveTelemetry_updateTelemetry (target : ObjectId) (update : TelemetryUpdate) :
    (both.updateTelemetry target update).1.hasLiveTelemetry id = both.1.hasLiveTelemetry id := by
  simp only [Store.hasLiveTelemetry, TelemetryStore.updateTelemetry, List.any_map]
  apply congrArg (both.1.telemetry.any)
  funext row
  simp only [Function.comp_apply]
  split
  · rw [TelemetryUpdate.applyRow_shipmentId, TelemetryUpdate.applyRow_deletedAt]
  · rfl

theorem live_of_telemetryCall {request : TelemetryCall}
    (h : (performTelemetry telemetryDecision both request).1.1.hasLiveTelemetry id = true) :
    both.1.hasLiveTelemetry id = true ∨ storesTelemetryOf id request := by
  rcases performTelemetry_cases telemetryDecision both request with hKept | hDone
  · rw [hKept] at h
    exact .inl h
  · rw [hDone] at h
    cases request with
    | telemetryCreate input =>
        simp only [executeTelemetry, castingId] at h
        split at h
        · exact .inl h
        · rename_i shipmentId hCast
          split at h
          · simp only [TelemetryStore.insertTelemetry, Store.hasLiveTelemetry, List.any_append,
              Bool.or_eq_true, List.any_cons, List.any_nil, Bool.or_false, Bool.and_eq_true,
              decide_eq_true_eq] at h
            rcases h with hOld | ⟨hNew, -⟩
            · exact .inl hOld
            · exact .inr (hCast.trans (congrArg some hNew))
          · exact .inl h
    | telemetryFindByIdAndUpdate target update =>
        simp only [executeTelemetry, castingId] at h
        split at h
        · exact .inl h
        · split at h
          · exact .inl h
          · rw [hasLiveTelemetry_updateTelemetry] at h
            exact .inl h
    | anomalyCreate anomalies =>
        simp only [executeTelemetry] at h
        split at h <;> exact .inl h
    | _ =>
        rw [executeTelemetry_backend _ _ rfl] at h
        exact .inl h

theorem live_of_anomalyCall {request : TelemetryCall}
    (h : (performTelemetry telemetryDecision both request).1.1.hasLiveAnomaly id = true) :
    both.1.hasLiveAnomaly id = true ∨ storesAnomalyOf id request := by
  rcases performTelemetry_cases telemetryDecision both request with hKept | hDone
  · rw [hKept] at h
    exact .inl h
  · rw [hDone] at h
    cases request with
    | telemetryCreate input =>
        simp only [executeTelemetry, castingId] at h
        split at h
        · exact .inl h
        · split at h <;> exact .inl h
    | telemetryFindByIdAndUpdate target update =>
        simp only [executeTelemetry, castingId] at h
        split at h
        · exact .inl h
        · split at h <;> exact .inl h
    | anomalyCreate anomalies =>
        simp only [executeTelemetry] at h
        split at h
        · exact .inl h
        · rename_i rows hRows
          simp only [Store.hasLiveAnomaly, List.any_append, Bool.or_eq_true] at h
          rcases h with hOld | hNew
          · exact .inl hOld
          · obtain ⟨row, hRow, hLive⟩ := List.any_eq_true.mp hNew
            simp only [Bool.and_eq_true, decide_eq_true_eq] at hLive
            obtain ⟨anomaly, hAnomaly, hCast⟩ := exists_of_mem_anomalyRows hRows hRow
            exact .inr ⟨anomaly, hAnomaly, hCast.trans (congrArg some hLive.1)⟩
    | _ =>
        rw [executeTelemetry_backend _ _ rfl] at h
        exact .inl h

end Stores

section Runs

variable {ι : Type} [DecidableEq ι]

def cascadeStages (history : List (TelemetryEvent ι)) : ι → CascadeStage :=
  cascades.after (fun _ => .idle) history

/-- A record of a deleted shipment is stored only while its deletion has yet to come to the
records of that kind. -/
def storesInTime : Guard telemetryWorld ι := fun history store _ request =>
  match request with
  | .inr (.telemetryCreate input) => ∀ id ∈ ObjectId.cast? input.shipmentId,
      Store.isDeleted (Prod.fst store) id = true →
        ∃ i, (cascadeStages history i).owesTelemetry id = true
  | .inr (.anomalyCreate anomalies) => ∀ anomaly ∈ anomalies,
      ∀ id ∈ ObjectId.cast? anomaly.shipmentId, Store.isDeleted (Prod.fst store) id = true →
        ∃ i, (cascadeStages history i).owesAnomalies id = true
  | _ => True

/-- Where there is something to delete with a shipment, the deletion hears that the shipment
is marked, and its writes take effect. -/
def deletesReliably (store : TelemetryStore) (request : BackendCall ⊕ TelemetryCall)
    (decision : Decision × TelemetryDecision) : Prop :=
  match request with
  | .inl (.shipmentFindByIdAndUpdate text (.deletedAt _)) => ∀ id ∈ ObjectId.cast? text,
      (store.1.hasLiveTelemetry id || store.1.hasLiveAnomaly id) = true →
        ∀ error, decision.1.fault ≠ some (.lost error)
  | .inl (.telemetryDelete text _) => ∀ id ∈ ObjectId.cast? text,
      store.1.hasLiveTelemetry id = true → decision.1.applies = true
  | .inl (.anomalyDelete text _) => ∀ id ∈ ObjectId.cast? text,
      store.1.hasLiveAnomaly id = true → decision.1.applies = true
  | _ => True

variable {history : List (TelemetryEvent ι)} {event : TelemetryEvent ι} {i : ι}

theorem cascadeStages_cons_self :
    cascadeStages (event :: history) event.thread =
      cascades.next (cascadeStages history event.thread) event.request event.response :=
  cascades.after_cons_self _ event history

theorem cascadeStages_cons_of_ne (h : i ≠ event.thread) :
    cascadeStages (event :: history) i = cascadeStages history i :=
  cascades.after_cons_of_ne _ history h

/-- What is owed is still owed, unless the thread that moves owes it no longer. -/
theorem exists_owing_cons {owes : CascadeStage → Bool}
    (hOwed : ∃ i, owes (cascadeStages history i) = true)
    (hKeeps : owes (cascadeStages history event.thread) = true →
      owes (cascadeStages (event :: history) event.thread) = true) :
    ∃ i, owes (cascadeStages (event :: history) i) = true := by
  obtain ⟨i, hi⟩ := hOwed
  refine ⟨i, ?_⟩
  by_cases hThread : i = event.thread
  · rw [hThread] at hi ⊢
    exact hKeeps hi
  · rwa [cascadeStages_cons_of_ne hThread]

/-- Whatever is live of a deleted shipment, some deletion still owes. -/
structure CascadeInvariant (history : List (TelemetryEvent ι)) (store : TelemetryStore) : Prop where
  intact : ∀ i, cascadeStages history i ≠ .broken
  telemetry : ∀ id, store.1.isDeleted id = true → store.1.hasLiveTelemetry id = true →
    ∃ i, (cascadeStages history i).owesTelemetry id = true
  anomalies : ∀ id, store.1.isDeleted id = true → store.1.hasLiveAnomaly id = true →
    ∃ i, (cascadeStages history i).owesAnomalies id = true

theorem intact_cons (h : ∀ i, cascadeStages history i ≠ .broken)
    (hEvent : cascadeStages (event :: history) event.thread ≠ .broken) (i : ι) :
    cascadeStages (event :: history) i ≠ .broken := by
  by_cases hThread : i = event.thread
  · rw [hThread]
    exact hEvent
  · rw [cascadeStages_cons_of_ne hThread]
    exact h i

variable {store : TelemetryStore} {env : Decision × TelemetryDecision} {id : String}

/-- The event of a call that thread `i` makes. -/
abbrev callEvent (env : Decision × TelemetryDecision) (store : TelemetryStore) (i : ι)
    (request : BackendCall ⊕ TelemetryCall) : TelemetryEvent ι :=
  ⟨i, request, (telemetryWorld.perform env store request).2⟩

/-- What deletes neither shipments nor records. -/
theorem CascadeInvariant.storing (h : CascadeInvariant history store)
    {request : BackendCall ⊕ TelemetryCall} (hIdle : cascadeStages history i = .idle)
    (hStores : storesOnly request = true) (hGuard : storesInTime history store i request) :
    CascadeInvariant (callEvent env store i request :: history)
      (telemetryWorld.perform env store request).1 := by
  have hNext : cascadeStages (callEvent env store i request :: history) i = .idle := by
    refine cascadeStages_cons_self.trans ?_
    rw [hIdle]
    exact (cascades_ignores hStores).2 _
  have hOwing {owes : CascadeStage → Bool} (hNothing : owes .idle = false)
      (hOwed : ∃ j, owes (cascadeStages history j) = true) :
      ∃ j, owes (cascadeStages (callEvent env store i request :: history) j) = true := by
    apply exists_owing_cons hOwed
    intro hOwes
    rw [hIdle, hNothing] at hOwes
    cases hOwes
  have hIntact : ∀ j, cascadeStages (callEvent env store i request :: history) j ≠ .broken :=
    intact_cons h.intact (by rw [hNext]; exact CascadeStage.noConfusion)
  cases request with
  | inl request =>
      simp only [storesOnly, Bool.not_eq_true', Bool.or_eq_false_iff] at hStores
      obtain ⟨⟨hShipments, hTelemetry⟩, hAnomalies⟩ := hStores
      have hDeleted (id : ObjectId) :
          (perform env.1 store.1 request).1.isDeleted id = store.1.isDeleted id :=
        isDeleted_of_shipments (perform_shipments hShipments)
      constructor
      · exact hIntact
      · intro id hGone hLive
        change (perform env.1 store.1 request).1.isDeleted id = true at hGone
        change (perform env.1 store.1 request).1.hasLiveTelemetry id = true at hLive
        rw [hDeleted] at hGone
        rw [Store.hasLiveTelemetry, perform_telemetry hTelemetry] at hLive
        exact hOwing rfl (h.telemetry id hGone hLive)
      · intro id hGone hLive
        change (perform env.1 store.1 request).1.isDeleted id = true at hGone
        change (perform env.1 store.1 request).1.hasLiveAnomaly id = true at hLive
        rw [hDeleted] at hGone
        rw [Store.hasLiveAnomaly, perform_anomalies hAnomalies] at hLive
        exact hOwing rfl (h.anomalies id hGone hLive)
  | inr request =>
      have hDeleted (id : ObjectId) :
          (performTelemetry env.2 store request).1.1.isDeleted id = store.1.isDeleted id :=
        isDeleted_of_shipments (performTelemetry_shipments request)
      constructor
      · exact hIntact
      · intro id hGone hLive
        change (performTelemetry env.2 store request).1.1.isDeleted id = true at hGone
        rw [hDeleted] at hGone
        rcases live_of_telemetryCall hLive with hOld | hStored
        · exact hOwing rfl (h.telemetry id hGone hOld)
        · cases request with
          | telemetryCreate input => exact hOwing rfl (hGuard id hStored hGone)
          | _ => exact hStored.elim
      · intro id hGone hLive
        change (performTelemetry env.2 store request).1.1.isDeleted id = true at hGone
        rw [hDeleted] at hGone
        rcases live_of_anomalyCall hLive with hOld | hStored
        · exact hOwing rfl (h.anomalies id hGone hOld)
        · cases request with
          | anomalyCreate anomalies =>
              obtain ⟨anomaly, hAnomaly, hCast⟩ := hStored
              exact hOwing rfl (hGuard anomaly hAnomaly id hCast hGone)
          | _ => exact hStored.elim

/-- A shipment is marked, and its records are owed. -/
theorem CascadeInvariant.marking (h : CascadeInvariant history store) {now : Date}
    (hIdle : cascadeStages history i = .idle)
    (hReliable : deletesReliably store (.inl (.shipmentFindByIdAndUpdate id (.deletedAt now)))
      env) :
    CascadeInvariant
      (callEvent env store i (.inl (.shipmentFindByIdAndUpdate id (.deletedAt now))) :: history)
      (telemetryWorld.perform env store
        (.inl (.shipmentFindByIdAndUpdate id (.deletedAt now)))).1 := by
  generalize hMark : BackendCall.shipmentFindByIdAndUpdate id (.deletedAt now) = mark
  have hNext : cascadeStages (callEvent env store i (.inl mark) :: history) i =
      CascadeStage.next .idle mark (perform env.1 store.1 mark).2 := by
    refine cascadeStages_cons_self.trans ?_
    rw [hIdle]
    rfl
  have hOwing {owes : CascadeStage → Bool} (hNothing : owes .idle = false)
      (hOwed : ∃ j, owes (cascadeStages history j) = true) :
      ∃ j, owes (cascadeStages (callEvent env store i (.inl mark) :: history) j) = true := by
    apply exists_owing_cons hOwed
    intro hOwes
    rw [hIdle, hNothing] at hOwes
    cases hOwes
  subst hMark
  -- Who has newly deleted a shipment with something to delete is told so.
  have hMarked (shipmentId : ObjectId)
      (hGone : (perform env.1 store.1 (.shipmentFindByIdAndUpdate id (.deletedAt now))).1.isDeleted
        shipmentId = true)
      (hLive : (store.1.hasLiveTelemetry shipmentId || store.1.hasLiveAnomaly shipmentId) = true) :
      store.1.isDeleted shipmentId = true ∨ ObjectId.cast? id = some shipmentId ∧
        cascadeStages (callEvent env store i
          (.inl (.shipmentFindByIdAndUpdate id (.deletedAt now))) :: history) i = .marked id := by
    rcases deleted_of_mark hGone with hOld | ⟨hCast, ⟨shipment, hAnswer⟩ | ⟨error, hLost⟩⟩
    · exact .inl hOld
    · refine .inr ⟨hCast, ?_⟩
      rw [hNext, hAnswer]
      rfl
    · exact absurd hLost (hReliable shipmentId hCast hLive error)
  constructor
  · apply intact_cons h.intact
    rw [hNext]
    cases (perform env.1 store.1 (.shipmentFindByIdAndUpdate id (.deletedAt now))).2 with
    | error error => exact CascadeStage.noConfusion
    | ok found => cases found <;> exact CascadeStage.noConfusion
  · intro shipmentId hGone hLive
    change (perform env.1 store.1 _).1.hasLiveTelemetry shipmentId = true at hLive
    rw [Store.hasLiveTelemetry, perform_telemetry rfl] at hLive
    rcases hMarked shipmentId hGone (Bool.or_eq_true_iff.mpr (.inl hLive)) with hOld | ⟨hCast, hNow⟩
    · exact hOwing rfl (h.telemetry shipmentId hOld hLive)
    · exact ⟨i, by rw [hNow]; exact decide_eq_true hCast⟩
  · intro shipmentId hGone hLive
    change (perform env.1 store.1 _).1.hasLiveAnomaly shipmentId = true at hLive
    rw [Store.hasLiveAnomaly, perform_anomalies rfl] at hLive
    rcases hMarked shipmentId hGone (Bool.or_eq_true_iff.mpr (.inr hLive)) with hOld | ⟨hCast, hNow⟩
    · exact hOwing rfl (h.anomalies shipmentId hOld hLive)
    · exact ⟨i, by rw [hNow]; exact decide_eq_true hCast⟩

/-- Between its writes a deletion reads the clock. -/
theorem CascadeInvariant.waiting (h : CascadeInvariant history store)
    (hMarked : cascadeStages history i = .marked id) :
    CascadeInvariant (callEvent env store i (.inl .now) :: history)
      (telemetryWorld.perform env store (.inl .now)).1 := by
  have hNext : cascadeStages (callEvent env store i (.inl .now) :: history) i = .marked id := by
    refine cascadeStages_cons_self.trans ?_
    change CascadeStage.next (cascadeStages history i) .now (perform env.1 store.1 .now).2 = _
    rw [hMarked, perform_now]
    rfl
  have hStore : (telemetryWorld.perform env store (.inl .now)).1 = store :=
    congrArg (fun after : Store × _ => (after.1, store.2)) perform_now
  have hOwing {owes : CascadeStage → Bool} (hOwed : ∃ j, owes (cascadeStages history j) = true) :
      ∃ j, owes (cascadeStages (callEvent env store i (.inl .now) :: history) j) = true := by
    apply exists_owing_cons hOwed
    intro hOwes
    rw [hNext, ← hMarked]
    exact hOwes
  rw [hStore]
  constructor
  · exact intact_cons h.intact (by rw [hNext]; exact CascadeStage.noConfusion)
  · exact fun shipmentId hGone hLive => hOwing (h.telemetry shipmentId hGone hLive)
  · exact fun shipmentId hGone hLive => hOwing (h.anomalies shipmentId hGone hLive)

/-- The anomalies of a marked shipment are deleted. -/
theorem CascadeInvariant.deletingAnomalies (h : CascadeInvariant history store) {now : Date}
    (hMarked : cascadeStages history i = .marked id)
    (hReliable : deletesReliably store (.inl (.anomalyDelete id now)) env) :
    CascadeInvariant (callEvent env store i (.inl (.anomalyDelete id now)) :: history)
      (telemetryWorld.perform env store (.inl (.anomalyDelete id now))).1 := by
  have hNext : cascadeStages (callEvent env store i (.inl (.anomalyDelete id now)) :: history) i =
      .telemetryLeft id := by
    refine cascadeStages_cons_self.trans ?_
    rw [hMarked]
    rfl
  have hDeleted (shipmentId : ObjectId) :
      (perform env.1 store.1 (.anomalyDelete id now)).1.isDeleted shipmentId =
        store.1.isDeleted shipmentId :=
    isDeleted_of_shipments (perform_shipments rfl)
  constructor
  · exact intact_cons h.intact (by rw [hNext]; exact CascadeStage.noConfusion)
  · intro shipmentId hGone hLive
    change (perform env.1 store.1 _).1.isDeleted shipmentId = true at hGone
    change (perform env.1 store.1 _).1.hasLiveTelemetry shipmentId = true at hLive
    rw [hDeleted] at hGone
    rw [Store.hasLiveTelemetry, perform_telemetry rfl] at hLive
    apply exists_owing_cons (h.telemetry shipmentId hGone hLive)
    intro hOwes
    rw [hNext]
    rwa [hMarked] at hOwes
  · intro shipmentId hGone hLive
    change (perform env.1 store.1 _).1.isDeleted shipmentId = true at hGone
    rw [hDeleted] at hGone
    obtain ⟨hOld, hApplied⟩ := live_of_anomalyDelete hLive
    apply exists_owing_cons (h.anomalies shipmentId hGone hOld)
    intro hOwes
    rw [hMarked] at hOwes
    have hCast : ObjectId.cast? id = some shipmentId := of_decide_eq_true hOwes
    have hApplies : env.1.applies = true := hReliable shipmentId hCast hOld
    rw [hApplied hCast] at hApplies
    cases hApplies

/-- Its telemetry is deleted. -/
theorem CascadeInvariant.deletingTelemetry (h : CascadeInvariant history store) {now : Date}
    (hLeft : cascadeStages history i = .telemetryLeft id)
    (hReliable : deletesReliably store (.inl (.telemetryDelete id now)) env) :
    CascadeInvariant (callEvent env store i (.inl (.telemetryDelete id now)) :: history)
      (telemetryWorld.perform env store (.inl (.telemetryDelete id now))).1 := by
  have hNext : cascadeStages (callEvent env store i (.inl (.telemetryDelete id now)) :: history) i =
      .idle := by
    refine cascadeStages_cons_self.trans ?_
    rw [hLeft]
    rfl
  have hDeleted (shipmentId : ObjectId) :
      (perform env.1 store.1 (.telemetryDelete id now)).1.isDeleted shipmentId =
        store.1.isDeleted shipmentId :=
    isDeleted_of_shipments (perform_shipments rfl)
  constructor
  · exact intact_cons h.intact (by rw [hNext]; exact CascadeStage.noConfusion)
  · intro shipmentId hGone hLive
    change (perform env.1 store.1 _).1.isDeleted shipmentId = true at hGone
    rw [hDeleted] at hGone
    obtain ⟨hOld, hApplied⟩ := live_of_telemetryDelete hLive
    apply exists_owing_cons (h.telemetry shipmentId hGone hOld)
    intro hOwes
    rw [hLeft] at hOwes
    have hCast : ObjectId.cast? id = some shipmentId := of_decide_eq_true hOwes
    have hApplies : env.1.applies = true := hReliable shipmentId hCast hOld
    rw [hApplied hCast] at hApplies
    cases hApplies
  · intro shipmentId hGone hLive
    change (perform env.1 store.1 _).1.isDeleted shipmentId = true at hGone
    change (perform env.1 store.1 _).1.hasLiveAnomaly shipmentId = true at hLive
    rw [hDeleted] at hGone
    rw [Store.hasLiveAnomaly, perform_anomalies rfl] at hLive
    apply exists_owing_cons (h.anomalies shipmentId hGone hLive)
    intro hOwes
    rw [hLeft] at hOwes
    cases hOwes

theorem CascadeInvariant.start (h : store.1.Cascaded) :
    CascadeInvariant ([] : List (TelemetryEvent ι)) store where
  intact _ := CascadeStage.noConfusion
  telemetry id hGone hLive := absurd hLive (ne_true_of_eq_false (h id hGone).1)
  anomalies id hGone hLive := absurd hLive (ne_true_of_eq_false (h id hGone).2)

theorem CascadeInvariant.step (h : CascadeInvariant history store)
    {request : BackendCall ⊕ TelemetryCall}
    (hAllows : cascades.allows (cascadeStages history i) request)
    (hGuard : storesInTime history store i request)
    (hReliable : deletesReliably store request env) :
    CascadeInvariant (callEvent env store i request :: history)
      (telemetryWorld.perform env store request).1 := by
  have hAllows : (cascadeStages history i).allows request := hAllows
  cases hStage : cascadeStages history i with
  | idle =>
      rw [hStage] at hAllows
      rcases hAllows with hStores | ⟨id, now, rfl⟩
      · exact h.storing hStage hStores hGuard
      · exact h.marking hStage hReliable
  | marked id =>
      rw [hStage] at hAllows
      rcases hAllows with rfl | ⟨now, rfl⟩
      · exact h.waiting hStage
      · exact h.deletingAnomalies hStage hReliable
  | telemetryLeft id =>
      rw [hStage] at hAllows
      obtain ⟨now, rfl⟩ := hAllows
      exact h.deletingTelemetry hStage hReliable
  | broken => exact absurd hStage (h.intact i)

/-- The telemetry code where a deletion that has something to delete is not disturbed. -/
abbrev cascadeWorld : World (BackendCall ⊕ TelemetryCall)
    (Sum.elim BackendCall.Answer TelemetryCall.Answer) ThrownError :=
  telemetryWorld.restrict deletesReliably

variable [Sha256] [Bcrypt] {activities : ι → CascadeActivity} {point : Point cascadeWorld ι Unit}

/-- Where nothing of a deleted shipment is live at first, records are stored in time and
deletions are not disturbed, nothing of a deleted shipment is live once every request and
background task has ended. -/
theorem cascaded_of_atRest (hStart : store.1.Cascaded)
    (run : GuardedRun (storesInTime.restrict deletesReliably)
      ((cascadePool store activities).restrict deletesReliably) point)
    (hRest : AtRest point) : Store.Cascaded (Prod.fst point.2.store) := by
  have hFollows (i : ι) :
      (((cascadePool store activities).restrict deletesReliably).thread i).Follows cascades
        Abandons .idle :=
    (activities i).program_follows
  have hInvariant : CascadeInvariant point.1 point.2.store := by
    apply run.invariant cascades (fun _ => .idle) hFollows CascadeInvariant
    · exact .start hStart
    · intro history store env i request h hAllows hGuard
      exact h.step hAllows hGuard (env store request).2
  have hIdle (i : ι) : cascadeStages point.1 i = .idle := by
    rcases run.ended_of_atRest cascades (fun _ => .idle) hFollows hRest i with hIdle | ⟨_, hEnded⟩
    · exact hIdle
    · exact hEnded.resolve_right (hInvariant.intact i)
  intro id hGone
  constructor
  · apply eq_false_of_ne_true
    intro hLive
    obtain ⟨i, hOwes⟩ := hInvariant.telemetry id hGone hLive
    rw [hIdle] at hOwes
    cases hOwes
  · apply eq_false_of_ne_true
    intro hLive
    obtain ⟨i, hOwes⟩ := hInvariant.anomalies id hGone hLive
    rw [hIdle] at hOwes
    cases hOwes

end Runs

section Sample

instance {ι : Type} [DecidableEq ι] [Fintype ι] (history : List (TelemetryEvent ι))
    (store : TelemetryStore) (i : ι) (request : BackendCall ⊕ TelemetryCall) :
    Decidable (storesInTime history store i request) := by
  unfold storesInTime
  split <;> infer_instance

/-- A reading above the limit. -/
def sampleHotItem : BulkTelemetryItem where
  shipmentId := sampleShipment.id.toString
  temperature := .ofNat 90
  humidity := .ofNat 50
  latitude := .finite (.ofNat 10)
  longitude := .finite (.ofNat 20)
  batteryLevel := .ofNat 90
  timestamp := ⟨0⟩
  sensorId := none

/-- The record that is made of it. -/
def sampleHotTelemetry : Telemetry :=
  TelemetryInput.telemetry
    { sensorId := none
      shipmentId := sampleShipment.id.toString
      temperature := .ofNat 90
      humidity := .ofNat 50
      latitude := .finite (.ofNat 10)
      longitude := .finite (.ofNat 20)
      batteryLevel := .ofNat 90
      timestamp := ⟨0⟩
      dataHash := @generateDataHash blankSha256 sampleHotItem.value
      anchorStatus := some .pendingAnchor
      rawPayload := sampleHotItem.value } (.repeated 1) sampleShipment.id

def sampleCascadeActivities : Fin 3 → CascadeActivity
  | 0 => .deletion sampleShipment.id.toString
  | 1 => .ingest [sampleHotItem]
  | 2 => .detection (.bulkDetection sampleHotTelemetry sampleShipment.id.toString)

def sampleCascadePool : Pool telemetryWorld (Fin 3) Unit :=
  @cascadePool blankSha256 plainBcrypt _ ({ shipments := ⟨[sampleShipment], Collection.nodup_single _ _⟩ }, {})
    sampleCascadeActivities

private def storing : Decision × TelemetryDecision :=
  ({}, { freshId := .repeated 1, freshIds := [.repeated 2] })

private def storingAlways : cascadeWorld.Env :=
  fun _ request => ⟨storing, by
    unfold deletesReliably
    split
    · intro _ _ _ error hLost
      cases hLost
    · exact fun _ _ _ => rfl
    · exact fun _ _ _ => rfl
    · trivial⟩

/-- A record and its anomaly are stored, and then deleted with their shipment. -/
theorem cascaded_of_atRest_sample : ∃ point : Point cascadeWorld (Fin 3) Unit,
    Store.isDeleted (Prod.fst point.2.store) sampleShipment.id = true ∧
      (Store.telemetry (Prod.fst point.2.store)).length = 1 ∧
      (Store.anomalies (Prod.fst point.2.store)).length = 1 ∧
      Store.Cascaded (Prod.fst point.2.store) := by
  obtain ⟨point, run, hTest⟩ := Pool.exists_run (storesInTime.restrict deletesReliably)
    (sampleCascadePool.restrict deletesReliably)
    (fun point => (List.finRange 3).all (fun i => (point.2.thread i).settled?.isSome) &&
      (Store.isDeleted (Prod.fst point.2.store) sampleShipment.id &&
        ((Store.telemetry (Prod.fst point.2.store)).length == 1 &&
          (Store.anomalies (Prod.fst point.2.store)).length == 1)))
    (List.replicate 5 (storingAlways, 1) ++ List.replicate 6 (storingAlways, 2) ++
      List.replicate 6 (storingAlways, 0)) (by decide +kernel)
  simp only [Bool.and_eq_true, List.all_eq_true, beq_iff_eq] at hTest
  obtain ⟨hSettled, hGone, hTelemetry, hAnomalies⟩ := hTest
  refine ⟨point, hGone, hTelemetry, hAnomalies, ?_⟩
  have hStart : sampleCascadePool.store.1.Cascaded := fun _ _ => ⟨rfl, rfl⟩
  exact @cascaded_of_atRest _ _ _ blankSha256 plainBcrypt _ _ hStart run
    fun i => .inl (hSettled i (List.mem_finRange i))

/-- Every request has ended, and so has every background task that was scheduled. -/
def NothingPending {ι : Type} (activities : ι → CascadeActivity)
    (point : Point telemetryWorld ι Unit) : Prop :=
  (∀ i, (point.2.thread i).settled?.isSome = true) ∧
    ∀ task ∈ TelemetryState.scheduled (Prod.snd point.2.store),
      ∃ i, activities i = .detection task

/-- A reading of a deleted shipment is stored, and so is the anomaly found in it. -/
theorem deleted_shipment_has_records : ¬∀ (_ : Sha256) (_ : Bcrypt)
    (activities : Fin 3 → CascadeActivity) (store : TelemetryStore)
    (point : Point telemetryWorld (Fin 3) Unit), store.1.Cascaded →
    GuardedRun anyStep (cascadePool store activities) point → NothingPending activities point →
      Store.Cascaded (Prod.fst point.2.store) := by
  intro hClaim
  have hScheduled : (Pool.runSchedule anyStep (List.replicate 6 (storing, 0) ++
      List.replicate 5 (storing, 1) ++ List.replicate 5 (storing, 2))
      ([], sampleCascadePool)).map (fun point => TelemetryState.scheduled point.2.store.2) =
        some [.bulkDetection sampleHotTelemetry sampleShipment.id.toString] := by
    with_unfolding_all rfl
  have hTest : (Pool.runSchedule anyStep (List.replicate 6 (storing, 0) ++
      List.replicate 5 (storing, 1) ++ List.replicate 5 (storing, 2))
      ([], sampleCascadePool)).any (fun point =>
        (List.finRange 3).all (fun i => (point.2.thread i).settled?.isSome) &&
          (Store.isDeleted (Prod.fst point.2.store) sampleShipment.id &&
            (Store.hasLiveTelemetry (Prod.fst point.2.store) sampleShipment.id &&
              Store.hasLiveAnomaly (Prod.fst point.2.store) sampleShipment.id))) = true := by
    decide +kernel
  obtain ⟨point, hRun, hTasks⟩ := Option.map_eq_some_iff.mp hScheduled
  rw [hRun, Option.any_some] at hTest
  simp only [Bool.and_eq_true, List.all_eq_true] at hTest
  obtain ⟨hSettled, hGone, hTelemetry, hAnomaly⟩ := hTest
  have hPending : NothingPending sampleCascadeActivities point := by
    refine ⟨fun i => hSettled i (List.mem_finRange i), fun task hTask => ⟨2, ?_⟩⟩
    rw [hTasks] at hTask
    rw [List.mem_singleton.mp hTask]
    rfl
  have hStart : sampleCascadePool.store.1.Cascaded := fun _ _ => ⟨rfl, rfl⟩
  have hCascaded := (hClaim blankSha256 plainBcrypt sampleCascadeActivities _ point hStart
    (Pool.runSchedule_steps hRun) hPending) sampleShipment.id hGone
  rw [hTelemetry] at hCascaded
  cases hCascaded.1

end Sample

end Navin
