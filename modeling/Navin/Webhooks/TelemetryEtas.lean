import Navin.Shipments.EtaOperations
import Navin.Webhooks.TelemetryFootprints

/-! What the two ways of storing telemetry do to cached arrival estimates. The bulk
ingest drops the estimate cached under the text that each item resolves to; the
webhook of the devices drops none. -/
namespace Navin

open Async

/-- Redis is available. -/
def RedisAvailable (step : Step telemetryWorld) : Prop :=
  match step.request with
  | .inl backendCall => CacheAvailable ⟨step.decision.1, step.before.1, backendCall⟩
  | .inr _ => True

/-- A change that takes effect is answered, at least when an estimate of its shipment is
cached. -/
def ChangeAnswered (step : Step telemetryWorld) : Prop :=
  match step.request with
  | .inl backendCall => SaveAnswered ⟨step.decision.1, step.before.1, backendCall⟩
  | .inr (.telemetryCreate input) => (∃ error, step.decision.2.fault = some (.lost error)) →
      ∀ entry ∈ step.before.1.etaCache, ∀ id, ObjectId.cast? input.shipmentId = some id →
        ObjectId.cast? entry.1 ≠ some id
  | .inr _ => True

abbrev EtaStep (step : Step telemetryWorld) : Prop :=
  RedisAvailable step ∧ ChangeAnswered step

section Calls

variable {α β : Type} {keys : ObjectId → Prop} {store : TelemetryStore}
  {S : Step telemetryWorld → Prop}

theorem wp_call (request : TelemetryCall) {Q : Except ThrownError request.Answer →
    TelemetryStore → Prop} :
    (call request).wp S Q store ↔ ∀ decision : Decision × TelemetryDecision,
      S ⟨decision, store, .inr request⟩ → Q (performTelemetry decision.2 store request).2
        (performTelemetry decision.2 store request).1 :=
  Program.wp_await (W := telemetryWorld) (Sum.inr request)

/-- A telemetry call, and what follows. -/
theorem wp_call_bind (request : TelemetryCall) (f : request.Answer → TelemetryM β)
    {Q : Except ThrownError β → TelemetryStore → Prop} :
    (call request >>= f).wp S Q store ↔ ∀ decision : Decision × TelemetryDecision,
      S ⟨decision, store, .inr request⟩ →
        Program.afterwards S f Q (performTelemetry decision.2 store request).2
          (performTelemetry decision.2 store request).1 :=
  Program.wp_await_bind (W := telemetryWorld) (Sum.inr request) f

/-- A backend call, and what follows. -/
theorem wp_request_bind (backendCall : BackendCall) (f : backendCall.Answer → TelemetryM β)
    {Q : Except ThrownError β → TelemetryStore → Prop} :
    (backendProgram (request backendCall) >>= f).wp S Q store ↔
      ∀ decision : Decision × TelemetryDecision, S ⟨decision, store, .inl backendCall⟩ →
        Program.afterwards S f Q (perform decision.1 store.1 backendCall).2
          ((perform decision.1 store.1 backendCall).1, store.2) := by
  rw [backendProgram, request, Program.lift_await]
  exact Program.wp_await_bind (W := telemetryWorld) (Sum.inl backendCall) f

/-- The calls of either kind that change the inputs of the named shipments at most, and
store no estimate. -/
def confinedCall (keys : ObjectId → Prop) : BackendCall ⊕ TelemetryCall → Prop
  | .inl backendCall => backendCall.confined keys
  | .inr (.telemetryCreate input) => ∀ id, ObjectId.cast? input.shipmentId = some id → keys id
  | .inr (.telemetryFindByIdAndUpdate _ _) => False
  | .inr _ => True

theorem touched_insertTelemetry {telemetry : Telemetry} (hKey : keys telemetry.shipmentId) :
    Touched keys store.1 (store.insertTelemetry telemetry).1 where
  entries _ hEntry := hEntry
  inputs id hId := by
    have hOther : telemetry.shipmentId ≠ id := fun hEq => hId (hEq ▸ hKey)
    apply Prod.ext
    · rfl
    · simp [Store.etaInputs, TelemetryStore.insertTelemetry, hOther]

theorem touched_performTelemetry (decision : TelemetryDecision) {request : TelemetryCall}
    (h : confinedCall keys (.inr request)) :
    Touched keys store.1 (performTelemetry decision store request).1.1 := by
  rcases performTelemetry_cases decision store request with hKept | hDone
  · rw [hKept]
    exact .refl _
  · rw [hDone]
    cases request with
    | telemetryCreate input =>
        simp only [executeTelemetry, castingId]
        split
        · exact .refl _
        · rename_i id hId
          split
          · exact touched_insertTelemetry (h id hId)
          · exact .refl _
    | telemetryFindByIdAndUpdate id update => exact h.elim
    | anomalyCreate anomalies =>
        simp only [executeTelemetry]
        split
        · exact .refl _
        · exact ⟨fun _ hEntry => hEntry, fun id _ => etaInputs_congr rfl rfl id⟩
    | _ =>
        rw [executeTelemetry_backend decision store rfl]
        exact .refl _

/-- A confined call touches the named shipments at most. -/
theorem touched_perform_either (env : Decision × TelemetryDecision)
    {request : BackendCall ⊕ TelemetryCall} (h : confinedCall keys request) :
    Touched keys store.1 (telemetryWorld.perform env store request).1.1 := by
  cases request with
  | inl backendCall => exact touched_perform h
  | inr request => exact touched_performTelemetry env.2 h

/-- A program that makes confined calls only. -/
abbrev ConfinedTelemetry (keys : ObjectId → Prop) (α : Type) (p : TelemetryM α) : Prop :=
  p.Uses (confinedCall keys)

theorem ConfinedTelemetry.touched_wp {p : TelemetryM α}
    (h : ConfinedTelemetry keys α p) (S : Step telemetryWorld → Prop) {before : Store}
    (hBefore : Touched keys before store.1) :
    p.wp S (fun _ after => Touched keys before after.1) store :=
  h.wp (W := telemetryWorld) (fun after => Touched keys before after.1)
    (fun step hCall _ hKept => hKept.trans (touched_perform_either step.decision hCall)) hBefore

end Calls

section Ingest

variable {text : String} {store : TelemetryStore}

/-- The text that names the shipment of a reading. -/
def TelemetryStore.resolvedShipment (store : TelemetryStore) (shipmentId sensorId : Option String) :
    Option String :=
  match truthy shipmentId, truthy sensorId with
  | some shipmentId, _ => some shipmentId
  | none, some sensorId =>
      (store.activeShipmentOfSensor sensorId).map fun shipment => shipment.id.toString
  | none, none => none

/-- The texts and shipments that a bulk ingest comes to, up to the first item that
leads nowhere. -/
def ingestTargets (store : TelemetryStore) : List BulkTelemetryItem → List (String × ObjectId)
  | [] => []
  | item :: rest =>
      match store.resolvedShipment (some item.shipmentId) item.sensorId with
      | none => []
      | some text =>
          match ObjectId.cast? text with
          | none => []
          | some id => (text, id) :: ingestTargets store rest

theorem ingestTargets_congr {other : TelemetryStore} (h : other.1.shipments = store.1.shipments)
    (items : List BulkTelemetryItem) : ingestTargets other items = ingestTargets store items := by
  have hResolved (shipmentId sensorId : Option String) :
      other.resolvedShipment shipmentId sensorId = store.resolvedShipment shipmentId sensorId := by
    simp only [TelemetryStore.resolvedShipment, TelemetryStore.activeShipmentOfSensor, h]
  induction items with
  | nil => rfl
  | cons item rest ih => simp only [ingestTargets, hResolved, ih]

theorem resolveShipmentId_wp {S : Step telemetryWorld → Prop} (notFoundCode : String)
    (shipmentId sensorId : Option String) :
    (resolveShipmentId notFoundCode shipmentId sensorId).wp S (fun outcome after =>
      after.1 = store.1 ∧
        ∀ text, outcome = .ok text → store.resolvedShipment shipmentId sensorId = some text)
      store := by
  unfold resolveShipmentId TelemetryStore.resolvedShipment
  cases truthy shipmentId with
  | some named => exact ⟨rfl, fun text h => congrArg some (Except.ok.inj h)⟩
  | none =>
      cases truthy sensorId with
      | none => exact ⟨rfl, fun text h => by cases h⟩
      | some sensor =>
          dsimp only
          rw [findActiveShipmentBySensorId, wp_call_bind]
          intro decision _
          have hSame : (performTelemetry decision.2 store (.shipmentFindBySensor sensor)).1.1 =
              store.1 :=
            perform_keepsBackend decision store (.inr (.shipmentFindBySensor sensor)) rfl
          rcases hAnswer : performTelemetry decision.2 store (.shipmentFindBySensor sensor)
            with ⟨after, answer⟩
          rw [hAnswer] at hSame
          cases answer with
          | error error => exact ⟨hSame, fun text h => by cases h⟩
          | ok found =>
              have hFound := executeTelemetry_of_answered hAnswer
              simp only [executeTelemetry, Prod.mk.injEq, Except.ok.injEq] at hFound
              obtain ⟨-, rfl⟩ := hFound
              change Program.wp S _ _ _
              dsimp only
              cases hSensor : store.activeShipmentOfSensor sensor with
              | none => exact ⟨hSame, fun text h => by cases h⟩
              | some shipment => exact ⟨hSame, fun text h => congrArg some (Except.ok.inj h)⟩

/-- A record that is created but not acknowledged belongs to no shipment whose estimate
is cached. -/
theorem etasKept_of_create_error {decision : Decision × TelemetryDecision} {input : TelemetryInput}
    {error : ThrownError}
    (hStep : ChangeAnswered ⟨decision, store, .inr (.telemetryCreate input)⟩)
    (hError : (performTelemetry decision.2 store (.telemetryCreate input)).2 = .error error) :
    EtasKept store.1 (performTelemetry decision.2 store (.telemetryCreate input)).1.1 := by
  cases hFault : decision.2.fault with
  | none =>
      rw [performTelemetry_of_fault_none hFault] at hError ⊢
      simp only [executeTelemetry, castingId] at hError ⊢
      split at hError
      · exact .refl _
      · split at hError
        · cases hError
        · rename_i hUsed
          rw [if_neg hUsed]
          exact .refl _
  | some fault =>
      cases fault with
      | rejected refusal =>
          rw [performTelemetry_of_rejected rfl hFault]
          exact .refl _
      | lost lostError =>
          have hNone := hStep ⟨lostError, hFault⟩
          have hTouched : Touched (ObjectId.cast? input.shipmentId = some ·) store.1
              (performTelemetry decision.2 store (.telemetryCreate input)).1.1 :=
            touched_performTelemetry decision.2 fun _ h => h
          exact hTouched.etasKept_of_before fun entry hEntry id hId hInput =>
            hNone entry hEntry id hInput hId

/-- Once the shipment of a stored record has lost its estimate, the others are in
step. -/
theorem dropIngested_etasKept {α : Type} {id : ObjectId} {before : Store} {rest : TelemetryM α}
    (hStored : Touched (· = id) before store.1)
    (hOnly : ∀ entry ∈ before.etaCache, ObjectId.cast? entry.1 = some id → entry.1 = text)
    (hRest : ConfinedTelemetry (fun _ => False) α rest) :
    (backendProgram (request (.invalidateShipmentEtaCache text)) >>= fun _ => rest).wp EtaStep
      (fun _ after => EtasKept before after.1) store := by
  rw [wp_request_bind]
  intro decision hStep
  have hFault : decision.1.fault = none := hStep.1
  obtain ⟨dropped, hDropped⟩ := @perform_ok_of_alwaysAnswers decision.1 store.1
    (.invalidateShipmentEtaCache text) rfl
  rw [hDropped]
  change Program.wp EtaStep rest _ _
  apply (hRest.touched_wp EtaStep (.refl _)).mono
  intro outcome after hAfter
  exact (etasKept_of_dropped hStored hOnly hFault).trans (etasKept_of_untouched hAfter)

variable [Sha256]

/-- The record of an item. -/
def BulkTelemetryItem.input (item : BulkTelemetryItem) (shipmentId : String) : TelemetryInput where
  sensorId := item.sensorId
  shipmentId
  temperature := item.temperature
  humidity := item.humidity
  latitude := item.latitude
  longitude := item.longitude
  batteryLevel := item.batteryLevel
  timestamp := item.timestamp
  dataHash := generateDataHash item.value
  anchorStatus := some .pendingAnchor
  rawPayload := item.value

/-- What follows once the estimate has been dropped. -/
def announceIngested (shipmentId dataHash : String) (telemetry : Telemetry) :
    TelemetryM String := do
  call (.pushStellarAnchorJob ⟨telemetry.id.toString, shipmentId, dataHash⟩)
  call (.emitTelemetryUpdate shipmentId telemetry.updatePayload)
  call (.setImmediate (.bulkDetection telemetry shipmentId))
  return telemetry.id.toString

theorem ingestTelemetryItem_eq (item : BulkTelemetryItem) : ingestTelemetryItem item =
    resolveShipmentId "ERR_NOT_FOUND" (some item.shipmentId) item.sensorId >>= fun shipmentId =>
      createTelemetryRecord (item.input shipmentId) >>= fun telemetry =>
        backendProgram (request (.invalidateShipmentEtaCache shipmentId)) >>= fun _ =>
          announceIngested shipmentId (item.input shipmentId).dataHash telemetry := rfl

omit [Sha256] in
theorem announceIngested_confined (shipmentId dataHash : String) (telemetry : Telemetry)
    (keys : ObjectId → Prop) :
    ConfinedTelemetry keys _ (announceIngested shipmentId dataHash telemetry) := by
  have hT : Program.Compositional (ConfinedTelemetry keys) := Program.Uses.compositional _
  have hCall (request : TelemetryCall) (h : confinedCall keys (.inr request)) :
      ConfinedTelemetry keys _ (call request) := .await h
  apply hT.bind (hCall (.pushStellarAnchorJob _) trivial)
  intro _
  apply hT.bind (hCall (.emitTelemetryUpdate _ _) trivial)
  intro _
  exact hT.bind (hCall (.setImmediate _) trivial) fun _ => hT.pure _

/-- An item keeps the estimates in step, unless one of its shipment is cached under
another text than the one it resolves to. -/
theorem ingestTelemetryItem_etasKept (item : BulkTelemetryItem)
    (hOnly : ∀ text id, store.resolvedShipment (some item.shipmentId) item.sensorId = some text →
      ObjectId.cast? text = some id → ∀ entry ∈ store.1.etaCache,
        ObjectId.cast? entry.1 = some id → entry.1 = text) :
    (ingestTelemetryItem item).wp EtaStep (fun outcome after => EtasKept store.1 after.1 ∧
      ∀ created, outcome = .ok created → ∃ text id,
        store.resolvedShipment (some item.shipmentId) item.sensorId = some text ∧
          ObjectId.cast? text = some id) store := by
  rw [ingestTelemetryItem_eq, Program.wp_bind]
  apply (resolveShipmentId_wp _ _ _).mono
  intro outcome resolved hResolved
  obtain ⟨hSame, hText⟩ := hResolved
  cases outcome with
  | error error => exact ⟨hSame ▸ .refl _, fun created h => by cases h⟩
  | ok text =>
      change Program.wp EtaStep (createTelemetryRecord (item.input text) >>= _) _ _
      rw [createTelemetryRecord, wp_call_bind]
      intro decision hStep
      rcases hAnswer : performTelemetry decision.2 resolved (.telemetryCreate (item.input text))
        with ⟨stored, answer⟩
      cases answer with
      | error error =>
          have hKept := etasKept_of_create_error hStep.2 (congrArg Prod.snd hAnswer)
          rw [hAnswer, hSame] at hKept
          exact ⟨hKept, fun created h => by cases h⟩
      | ok telemetry =>
          have hCreated := executeTelemetry_of_answered hAnswer
          simp only [executeTelemetry, castingId] at hCreated
          split at hCreated
          · cases hCreated
          · rename_i id hId
            have hStored : Touched (· = id) store.1 stored.1 := by
              have hTouched : Touched (· = id) resolved.1 (performTelemetry decision.2 resolved
                  (.telemetryCreate (item.input text))).1.1 :=
                touched_performTelemetry decision.2 fun other hOther =>
                  Option.some.inj (hOther.symm.trans hId)
              rwa [hAnswer, hSame] at hTouched
            apply (dropIngested_etasKept hStored (hOnly text id (hText text rfl) hId)
              (announceIngested_confined _ _ telemetry _)).mono
            exact fun outcome after hAfter => ⟨hAfter, fun _ _ => ⟨text, id, hText text rfl, hId⟩⟩

omit [Sha256] in
/-- Telemetry calls and the invalidation write no shipments. -/
theorem perform_keepsShipments (env : Decision × TelemetryDecision) (store : TelemetryStore)
    (request : BackendCall ⊕ TelemetryCall)
    (h : Sum.elim (·.writesShipments) (fun _ => false) request = false) :
    (telemetryWorld.perform env store request).1.1.shipments = store.1.shipments := by
  cases request with
  | inl backendCall => exact perform_shipments h
  | inr request => exact performTelemetry_shipments request

theorem ingestTelemetryItem_shipments (item : BulkTelemetryItem)
    {S : Step telemetryWorld → Prop} :
    (ingestTelemetryItem item).wp S (fun _ after => after.1.shipments = store.1.shipments)
      store := by
  have hItem : (ingestTelemetryItem item).Uses fun request =>
      Sum.elim (·.writesShipments) (fun _ => false) request = false := by
    apply (ingestTelemetryItem_ingests item).mono
    intro request hIngests
    cases request with
    | inl request => cases request <;> first | rfl | cases hIngests
    | inr request => rfl
  exact hItem.wp (W := telemetryWorld) (fun after => after.1.shipments = store.1.shipments)
    (fun step hCall _ hBefore =>
      (perform_keepsShipments step.decision step.before step.request hCall).trans hBefore) rfl

/-- The bulk ingest keeps the estimates in step, item by item. -/
theorem bulkIngestTelemetry_etasKept {before : TelemetryStore} (items : List BulkTelemetryItem)
    (hOnly : ∀ target ∈ ingestTargets before items, ∀ entry ∈ before.1.etaCache,
      ObjectId.cast? entry.1 = some target.2 → entry.1 = target.1)
    (hShipments : store.1.shipments = before.1.shipments) (hBefore : EtasKept before.1 store.1) :
    (bulkIngestTelemetry items).wp EtaStep (fun _ after => EtasKept before.1 after.1) store := by
  induction items generalizing store with
  | nil => exact hBefore
  | cons item rest ih =>
      rw [← ingestTargets_congr hShipments] at hOnly
      have hHead : ∀ text id,
          store.resolvedShipment (some item.shipmentId) item.sensorId = some text →
          ObjectId.cast? text = some id → ∀ entry ∈ store.1.etaCache,
            ObjectId.cast? entry.1 = some id → entry.1 = text := by
        intro text id hText hId entry hEntry
        apply hOnly (text, id) _ entry (hBefore.entries entry hEntry)
        simp only [ingestTargets, hText, hId, List.mem_cons_self]
      unfold bulkIngestTelemetry
      rw [Program.wp_bind]
      apply ((ingestTelemetryItem_etasKept item hHead).and
        (ingestTelemetryItem_shipments item)).mono
      intro outcome after hAfter
      obtain ⟨⟨hKept, hResolved⟩, hSame⟩ := hAfter
      have hAll : EtasKept before.1 after.1 := hBefore.trans hKept
      cases outcome with
      | error error => exact hAll
      | ok created =>
          obtain ⟨text, id, hText, hId⟩ := hResolved created rfl
          change Program.wp EtaStep (bulkIngestTelemetry rest >>= _) _ _
          rw [Program.wp_bind]
          have hRest : ∀ target ∈ ingestTargets before rest, ∀ entry ∈ before.1.etaCache,
              ObjectId.cast? entry.1 = some target.2 → entry.1 = target.1 := by
            intro target hTarget
            apply hOnly target
            rw [← ingestTargets_congr hShipments] at hTarget
            simp only [ingestTargets, hText, hId]
            exact List.mem_cons_of_mem _ hTarget
          apply (ih hRest (hSame.trans hShipments) hAll).mono
          intro outcome last hLast
          cases outcome <;> exact hLast

end Ingest

section Webhook

variable [Bcrypt] {store : TelemetryStore} {header : Option String}

theorem matchApiKey_of_run {rawApiKey : String} {keys : List ApiKey} {found : ApiKey}
    {env env' : Nat → Decision × TelemetryDecision} {store' : TelemetryStore}
    (hRun : (matchApiKey rawApiKey keys).run telemetryWorld env store =
      (store', .ok (some found), env')) :
    (keys.find? fun key => Bcrypt.compare rawApiKey key.keyHash).isSome := by
  induction keys with
  | nil => cases hRun
  | cons key rest ih =>
      rw [List.find?_cons]
      cases hMatch : Bcrypt.compare rawApiKey key.keyHash with
      | true => rfl
      | false =>
          simp only [matchApiKey, hMatch, Bool.false_eq_true, if_false] at hRun
          exact ih hRun

/-- A request gets past the middleware with the header of a stored key only. -/
theorem keyOfHeader_of_run {scope : ApiKeyScope} {env env' : Nat → Decision × TelemetryDecision}
    {store' : TelemetryStore} (hRun : (requireApiKey header).run telemetryWorld env store =
      (store', .ok scope, env')) : (store.keyOfHeader header).isSome := by
  unfold requireApiKey at hRun
  cases hHeader : truthy header with
  | none =>
      rw [hHeader] at hRun
      cases hRun
  | some apiKey =>
      rw [hHeader] at hRun
      dsimp only at hRun
      rw [Program.run_tryCatch] at hRun
      split at hRun
      · rename_i hProtected
        rw [Program.run_bind_eq_ok] at hProtected
        obtain ⟨store₁, found, env₁, hValid, hRest⟩ := hProtected
        cases found with
        | none => cases hRest
        | some key =>
            rw [validateApiKey] at hValid
            split_ifs at hValid
            · cases hValid
            · rw [Program.run_bind_eq_ok] at hValid
              obtain ⟨store₂, keys, env₂, hFind, hMatch⟩ := hValid
              have hKeys := execute_of_run_call hFind
              simp only [executeTelemetry, Prod.mk.injEq, Except.ok.injEq] at hKeys
              obtain ⟨-, rfl⟩ := hKeys
              rw [TelemetryStore.keyOfHeader, hHeader]
              exact matchApiKey_of_run hMatch
      · split at hRun <;> cases hRun

/-- The middleware leaves the backend's collections alone, and lets a request pass with
the header of a stored key only. -/
theorem requireApiKey_wp {S : Step telemetryWorld → Prop} :
    (requireApiKey header).wp S (fun outcome after => after.1 = store.1 ∧
      ∀ scope, outcome = .ok scope → (store.keyOfHeader header).isSome) store := by
  have hEnv : Nonempty telemetryWorld.Env := ⟨(Decision.ok, {})⟩
  apply Program.wp_of_run
  intro env
  refine ⟨(keepsBackend_requireApiKey header).run env store, fun scope hScope => ?_⟩
  exact keyOfHeader_of_run (Prod.ext rfl (Prod.ext hScope rfl))

variable [Sha256]

omit [Bcrypt] [Sha256] in
theorem storeAndAnnounce_confined {keys : ObjectId → Prop} (input : TelemetryInput) (text : String)
    (hKeys : ∀ id, ObjectId.cast? input.shipmentId = some id → keys id) :
    ConfinedTelemetry keys _
      (createTelemetryRecord input >>= announceTelemetry text input.dataHash) := by
  have hT : Program.Compositional (ConfinedTelemetry keys) := Program.Uses.compositional _
  have hCall (request : TelemetryCall) (h : confinedCall keys (.inr request)) :
      ConfinedTelemetry keys _ (call request) := .await h
  apply hT.bind (hCall (.telemetryCreate input) hKeys)
  intro telemetry
  apply hT.bind (hCall (.pushStellarAnchorJob _) trivial)
  intro _
  apply hT.bind (hCall (.emitTelemetryUpdate _ _) trivial)
  intro _
  exact hT.bind (hCall (.setImmediate _) trivial) fun _ => hT.pure _

omit [Bcrypt] in
theorem processIotWebhook_touched {S : Step telemetryWorld → Prop} {body : IotWebhookBody}
    (hAccepted : body.accepted = true) :
    (processIotWebhook body).wp S (fun _ after =>
      Touched (body.target store = some ·) store.1 after.1) store := by
  have hEnv : Nonempty telemetryWorld.Env := ⟨(Decision.ok, {})⟩
  rw [processIotWebhook_eq, Program.wp_bind]
  have hResolve : (resolveShipmentId "NOT_FOUND" (normalizeIotWebhookBody body).shipmentId
      (normalizeIotWebhookBody body).sensorId).wp S (fun outcome after => after.1 = store.1 ∧
        ∀ text, outcome = .ok text → ObjectId.cast? text = body.target store) store := by
    apply Program.wp_of_run
    intro env
    refine ⟨KeepsBackend.run (resolveShipmentId_uses (fun _ => rfl) _ _ _) env store,
      fun text hText => ?_⟩
    exact (resolve_of_run hAccepted (Prod.ext rfl (Prod.ext hText rfl))).2
  apply hResolve.mono
  intro outcome resolved hResolved
  have hSame : Touched (body.target store = some ·) store.1 resolved.1 := by
    rw [hResolved.1]
    exact .refl _
  cases outcome with
  | error error => exact hSame
  | ok text =>
      have hTarget := hResolved.2 text rfl
      have hInput : ((normalizeIotWebhookBody body).input text).shipmentId = text := rfl
      exact (storeAndAnnounce_confined _ text fun id hId => by
        rw [hInput] at hId
        exact hTarget.symm.trans hId).touched_wp S hSame

/-- The webhook drops no estimate, so the shipment of the reading must have none. -/
theorem iotWebhook_etasKept {S : Step telemetryWorld → Prop} {body : IotWebhookBody}
    (hNone : (store.keyOfHeader header).isSome → ∀ id, body.target store = some id →
      ∀ entry ∈ store.1.etaCache, ObjectId.cast? entry.1 ≠ some id) :
    (iotWebhook header body).wp S (fun _ after => EtasKept store.1 after.1) store := by
  unfold iotWebhook
  rw [Program.wp_bind]
  apply requireApiKey_wp.mono
  intro outcome passed hPassed
  obtain ⟨hSame, hKey⟩ := hPassed
  cases outcome with
  | error error => exact hSame ▸ .refl _
  | ok scope =>
      change Program.wp S (if body.accepted then _ else _) _ _
      split_ifs with hAccepted
      · have hTarget : body.target passed = body.target store := by
          unfold IotWebhookBody.target TelemetryStore.activeShipmentOfSensor
          rw [hSame]
        apply (processIotWebhook_touched hAccepted).mono
        intro outcome after hAfter
        rw [hTarget, hSame] at hAfter
        apply hAfter.etasKept_of_before
        exact fun entry hEntry id hId hBody => hNone (hKey scope rfl) id hBody entry hEntry hId
      · exact hSame ▸ .refl _

end Webhook

end Navin
