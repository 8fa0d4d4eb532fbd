import Navin.Webhooks.IotService

/-! Which shipments an API key can store telemetry of. The key is checked, and then
forgotten: whatever shipment the body leads to gets the record. -/
namespace Navin

open Async

/-- The key belongs to a party of the stored shipment, and is not one of another
shipment. -/
def ApiKey.covers (key : ApiKey) (store : Store) (id : ObjectId) : Prop :=
  (∃ shipment, store.shipment id = some shipment ∧
    (shipment.enterpriseId = key.organizationId ∨ shipment.logisticsId = key.organizationId)) ∧
    ∀ own ∈ key.shipmentId, id = own

/-- The shipment that an accepted body leads to. -/
def IotWebhookBody.target (store : TelemetryStore) (body : IotWebhookBody) : Option ObjectId :=
  if body.accepted then
    match body with
    | .normalized body => ObjectId.cast? body.shipmentId
    | .sensor body => (store.activeShipmentOfSensor body.sensorId).map (·.id)
  else none

/-- The key that a request is authenticated with. -/
def TelemetryStore.keyOfHeader [Bcrypt] (store : TelemetryStore) (header : Option String) :
    Option ApiKey :=
  (truthy header).bind fun apiKey =>
    (store.2.apiKeys.docs.filter (·.isActive)).find? fun key => Bcrypt.compare apiKey key.keyHash

section Writes

/-- The calls that leave the backend's collections alone. -/
def keepsBackend : BackendCall ⊕ TelemetryCall → Bool
  | .inl .now => true
  | .inl _ | .inr (.telemetryCreate _) | .inr (.telemetryFindByIdAndUpdate _ _)
  | .inr (.anomalyCreate _) => false
  | .inr _ => true

theorem executeTelemetry_backend (decision : TelemetryDecision) (store : TelemetryStore)
    {request : TelemetryCall} (h : keepsBackend (.inr request) = true) :
    (executeTelemetry decision store request).1.1 = store.1 := by
  cases request with
  | telemetryCreate => cases h
  | telemetryFindByIdAndUpdate => cases h
  | anomalyCreate => cases h
  | apiKeyFind organizationId =>
      simp only [executeTelemetry, castingId]
      split <;> rfl
  | apiKeyRevoke id =>
      simp only [executeTelemetry, castingId]
      split
      · rfl
      · split <;> rfl
  | thresholdFindOne organizationId shipmentType =>
      simp only [executeTelemetry, castingId]
      split <;> rfl
  | anchorEvent shipmentId dataHash =>
      simp only [executeTelemetry]
      split <;> rfl
  | _ => rfl

theorem perform_keepsBackend (env : Decision × TelemetryDecision) (store : TelemetryStore)
    (request : BackendCall ⊕ TelemetryCall) (h : keepsBackend request = true) :
    (telemetryWorld.perform env store request).1.1 = store.1 := by
  cases request with
  | inl backendCall =>
      cases backendCall with
      | now => exact congrArg (fun answer => answer.1) (perform_now : perform env.1 store.1 .now = _)
      | _ => cases h
  | inr request =>
      change (performTelemetry env.2 store request).1.1 = store.1
      rcases performTelemetry_cases env.2 store request with hKept | hDone
      · rw [hKept]
      · rw [hDone, executeTelemetry_backend env.2 store h]

/-- What follows leaves the backend's collections alone. -/
abbrev KeepsBackend (α : Type) (p : TelemetryM α) : Prop :=
  p.Uses fun request => keepsBackend request = true

theorem KeepsBackend.run {α : Type} {p : TelemetryM α} (h : KeepsBackend α p)
    (env : Nat → Decision × TelemetryDecision) (store : TelemetryStore) :
    (p.run telemetryWorld env store).1.1 = store.1 :=
  Program.Uses.run (W := telemetryWorld) h Prod.fst perform_keepsBackend env store

end Writes

section Authentication

variable [Bcrypt]

theorem matchApiKey_uses {C : BackendCall ⊕ TelemetryCall → Prop} (hNow : C (.inl .now))
    (hTouch : ∀ id lastUsedAt, C (.inr (.apiKeyTouch id lastUsedAt))) (rawApiKey : String)
    (keys : List ApiKey) : (matchApiKey rawApiKey keys).Uses C := by
  induction keys with
  | nil => trivial
  | cons key rest ih =>
      rw [matchApiKey]
      split
      · apply Program.Uses.bind
        · rw [backendProgram, currentDate, request, Program.lift_await]
          exact .await hNow
        · exact fun now => Program.Uses.bind (.await (hTouch _ _)) fun _ => trivial
      · exact ih

/-- A request is authenticated by reading and touching keys. -/
theorem requireApiKey_uses {C : BackendCall ⊕ TelemetryCall → Prop} (hNow : C (.inl .now))
    (hFind : C (.inr .apiKeyFindActive))
    (hTouch : ∀ id lastUsedAt, C (.inr (.apiKeyTouch id lastUsedAt))) (header : Option String) :
    (requireApiKey header).Uses C := by
  rw [requireApiKey]
  split
  · trivial
  · rename_i apiKey _
    apply Program.Uses.tryCatch
    · apply Program.Uses.bind
      · rw [validateApiKey]
        split
        · trivial
        · exact Program.Uses.bind (.await hFind) fun keys =>
            matchApiKey_uses hNow hTouch apiKey keys
      · intro found
        split <;> trivial
    · intro error
      split <;> trivial

/-- A request is authenticated without a look at shipments or telemetry. -/
theorem keepsBackend_requireApiKey (header : Option String) :
    KeepsBackend _ (requireApiKey header) :=
  requireApiKey_uses (C := (keepsBackend · = true)) rfl rfl (fun _ _ => rfl) header

end Authentication

section Records

variable {env : Nat → Decision × TelemetryDecision} {store : TelemetryStore}

/-- At most one record is stored, and it belongs to the shipment. -/
def StoresFor (target : Option ObjectId) (before after : TelemetryStore) : Prop :=
  after.1.telemetry = before.1.telemetry ∨
    ∃ row : TelemetryRow, after.1.telemetry = before.1.telemetry ++ [row] ∧
      target = some row.shipmentId

theorem storesFor_create (decision : TelemetryDecision) (store : TelemetryStore)
    (input : TelemetryInput) :
    StoresFor (ObjectId.cast? input.shipmentId) store
      (performTelemetry decision store (.telemetryCreate input)).1 := by
  rcases performTelemetry_cases decision store (.telemetryCreate input) with hKept | hDone
  · rw [hKept]
    exact .inl rfl
  · rw [hDone]
    simp only [executeTelemetry, castingId]
    cases hCast : ObjectId.cast? input.shipmentId with
    | none => exact .inl rfl
    | some shipmentId =>
        dsimp only
        split_ifs with hFresh
        · exact .inr ⟨_, rfl, rfl⟩
        · exact .inl rfl

theorem storesFor_of_backend {target : Option ObjectId} {before middle after : TelemetryStore}
    (hBefore : middle.1 = before.1) (h : StoresFor target middle after) :
    StoresFor target before after := by
  rwa [StoresFor, hBefore] at h

/-- What is resolved from an accepted body is its target. -/
theorem resolve_of_run {notFoundCode text : String} {body : IotWebhookBody}
    {store' : TelemetryStore} {env' : Nat → Decision × TelemetryDecision}
    (hAccepted : body.accepted = true)
    (hRun : (resolveShipmentId notFoundCode (normalizeIotWebhookBody body).shipmentId
      (normalizeIotWebhookBody body).sensorId).run telemetryWorld env store =
        (store', .ok text, env')) :
    store' = store ∧ ObjectId.cast? text = body.target store := by
  unfold IotWebhookBody.target
  rw [if_pos hAccepted]
  cases body with
  | normalized body =>
      have hId : truthy (some body.shipmentId) = some body.shipmentId :=
        truthy_of_accepted_normalized hAccepted
      simp only [normalizeIotWebhookBody, resolveShipmentId, hId] at hRun
      cases hRun
      exact ⟨rfl, rfl⟩
  | sensor body =>
      have hId : truthy (some body.sensorId) = some body.sensorId :=
        truthy_of_accepted_sensor hAccepted
      have hNone : truthy none = none := rfl
      simp only [normalizeIotWebhookBody, resolveShipmentId, hId, hNone,
        findActiveShipmentBySensorId] at hRun
      rw [Program.run_bind_eq_ok] at hRun
      obtain ⟨store₁, found, env₁, hFind, hRun⟩ := hRun
      have hFound := execute_of_run_call hFind
      simp only [executeTelemetry, Prod.mk.injEq, Except.ok.injEq] at hFound
      obtain ⟨rfl, rfl⟩ := hFound
      cases hSensor : store.activeShipmentOfSensor body.sensorId with
      | none =>
          rw [hSensor] at hRun
          cases hRun
      | some shipment =>
          rw [hSensor] at hRun
          cases hRun
          exact ⟨rfl, by simp [hSensor]⟩

variable [Sha256]

/-- What follows the creation of the record. -/
def announceTelemetry (shipmentId dataHash : String) (telemetry : Telemetry) :
    TelemetryM Telemetry := do
  call (.pushStellarAnchorJob ⟨telemetry.id.toString, shipmentId, dataHash⟩)
  call (.emitTelemetryUpdate shipmentId telemetry.updatePayload)
  call (.setImmediate (.iotDetection telemetry shipmentId))
  return telemetry

omit [Sha256] in
theorem announceTelemetry_uses {C : BackendCall ⊕ TelemetryCall → Prop}
    (hPush : ∀ job, C (.inr (.pushStellarAnchorJob job)))
    (hEmit : ∀ shipmentId payload, C (.inr (.emitTelemetryUpdate shipmentId payload)))
    (hSchedule : ∀ task, C (.inr (.setImmediate task)))
    (shipmentId dataHash : String) (telemetry : Telemetry) :
    (announceTelemetry shipmentId dataHash telemetry).Uses C := by
  apply Program.Uses.bind (.await (hPush _))
  intro _
  apply Program.Uses.bind (.await (hEmit _ _))
  intro _
  exact Program.Uses.bind (.await (hSchedule _)) fun _ => trivial

omit [Sha256] in
theorem keepsBackend_announceTelemetry (shipmentId dataHash : String) (telemetry : Telemetry) :
    KeepsBackend _ (announceTelemetry shipmentId dataHash telemetry) :=
  announceTelemetry_uses (fun _ => rfl) (fun _ _ => rfl) (fun _ => rfl) _ _ _

theorem processIotWebhook_eq (body : IotWebhookBody) : processIotWebhook body =
    resolveShipmentId "NOT_FOUND" (normalizeIotWebhookBody body).shipmentId
        (normalizeIotWebhookBody body).sensorId >>= fun shipmentId =>
      createTelemetryRecord ((normalizeIotWebhookBody body).input shipmentId) >>=
        announceTelemetry shipmentId
          ((normalizeIotWebhookBody body).input shipmentId).dataHash := rfl

omit [Sha256] in
/-- A shipment is resolved by looking for a sensor, if at all. -/
theorem resolveShipmentId_uses {C : BackendCall ⊕ TelemetryCall → Prop}
    (hFind : ∀ sensorId, C (.inr (.shipmentFindBySensor sensorId))) (notFoundCode : String)
    (shipmentId sensorId : Option String) :
    (resolveShipmentId notFoundCode shipmentId sensorId).Uses C := by
  rw [resolveShipmentId]
  split
  · trivial
  · apply Program.Uses.bind (.await (hFind _))
    intro found
    split <;> trivial
  · trivial

theorem storesFor_processIotWebhook {body : IotWebhookBody} (hAccepted : body.accepted = true) :
    StoresFor (body.target store) store
      ((processIotWebhook body).run telemetryWorld env store).1 := by
  rw [processIotWebhook_eq, Program.run_bind]
  have hResolves : KeepsBackend _ (resolveShipmentId "NOT_FOUND"
      (normalizeIotWebhookBody body).shipmentId (normalizeIotWebhookBody body).sensorId) :=
    resolveShipmentId_uses (fun _ => rfl) _ _ _
  have hKept := hResolves.run env store
  split
  · rename_i store₁ text env₁ hResolve
    obtain ⟨rfl, hTarget⟩ := resolve_of_run hAccepted hResolve
    let input := (normalizeIotWebhookBody body).input text
    have hTail : ((createTelemetryRecord input >>= announceTelemetry text input.dataHash).run
        telemetryWorld env₁ store₁).1.1 =
          ((createTelemetryRecord input).run telemetryWorld env₁ store₁).1.1 :=
      Program.run_bind_view telemetryWorld Prod.fst _
        (keepsBackend_announceTelemetry text input.dataHash) perform_keepsBackend env₁ store₁
    rw [createTelemetryRecord, run_call] at hTail
    have hCreated := storesFor_create (env₁ 0).2 store₁ input
    rw [StoresFor, ← hTail] at hCreated
    rw [← hTarget]
    exact hCreated
  · rename_i store₁ error env₁ hResolve
    rw [hResolve] at hKept
    exact .inl (congrArg Store.telemetry hKept)

/-- The records of an authenticated run. -/
theorem storesFor_iotWebhook [Bcrypt] (env : Nat → Decision × TelemetryDecision)
    (store : TelemetryStore) (header : Option String) (body : IotWebhookBody) :
    StoresFor (body.target store) store
      ((iotWebhook header body).run telemetryWorld env store).1 := by
  have hKept := (keepsBackend_requireApiKey header).run env store
  rw [iotWebhook, Program.run_bind]
  split
  · rename_i store₁ scope env₁ hKey
    rw [hKey] at hKept
    split_ifs with hAccepted
    · have hTarget : body.target store₁ = body.target store := by
        unfold IotWebhookBody.target TelemetryStore.activeShipmentOfSensor
        rw [hKept]
      exact storesFor_of_backend hKept (hTarget ▸ storesFor_processIotWebhook hAccepted)
    · exact .inl (congrArg Store.telemetry hKept)
  · rename_i store₁ error env₁ hKey
    rw [hKey] at hKept
    exact .inl (congrArg Store.telemetry hKept)

end Records

section Service

/-- Every service is up, and the next record gets the id. -/
def serving (id : ObjectId) : Nat → Decision × TelemetryDecision :=
  fun _ => ({}, { freshId := id })

variable {id : ObjectId} {store : TelemetryStore}

theorem run_call_serving (request : TelemetryCall) :
    (call request).run telemetryWorld (serving id) store =
      ((executeTelemetry { freshId := id } store request).1,
        (executeTelemetry { freshId := id } store request).2, serving id) := by
  rw [run_call, performTelemetry_of_fault_none rfl]
  rfl

theorem run_currentDate_serving : (backendProgram currentDate).run telemetryWorld (serving id) store =
    (store, .ok (serving id 0).1.now, serving id) := by
  rw [backendProgram, currentDate, request, Program.lift_await]
  rfl

variable [Bcrypt]

theorem run_matchApiKey (rawApiKey : String) (keys : List ApiKey) :
    ∃ store', (matchApiKey rawApiKey keys).run telemetryWorld (serving id) store =
      (store', .ok (keys.find? fun key => Bcrypt.compare rawApiKey key.keyHash), serving id) := by
  induction keys with
  | nil => exact ⟨store, rfl⟩
  | cons key rest ih =>
      rw [matchApiKey, List.find?_cons]
      cases hMatch : Bcrypt.compare rawApiKey key.keyHash with
      | false => exact ih
      | true =>
          rw [if_pos rfl, Program.run_bind_ok run_currentDate_serving,
            Program.run_bind_ok (run_call_serving _)]
          exact ⟨_, rfl⟩

/-- A request with a key's header gets past the middleware. -/
theorem run_requireApiKey {header : Option String} {key : ApiKey}
    (hKey : store.keyOfHeader header = some key) :
    ∃ store', (requireApiKey header).run telemetryWorld (serving id) store =
      (store', .ok key.scope, serving id) := by
  rw [TelemetryStore.keyOfHeader, Option.bind_eq_some_iff] at hKey
  obtain ⟨apiKey, hHeader, hFound⟩ := hKey
  have hText : apiKey ≠ "" := by
    have hFilter := (Option.filter_eq_some_iff.mp hHeader).2
    simpa using hFilter
  obtain ⟨store', hMatch⟩ : ∃ store', (matchApiKey apiKey (store.2.apiKeys.docs.filter
      (·.isActive))).run telemetryWorld (serving id) store = _ := run_matchApiKey _ _
  have hFind : (call .apiKeyFindActive).run telemetryWorld (serving id) store =
    (store, .ok (store.2.apiKeys.docs.filter (·.isActive)), serving id) := run_call_serving _
  rw [hFound] at hMatch
  refine ⟨store', ?_⟩
  rw [requireApiKey, hHeader, Program.run_tryCatch, validateApiKey, if_neg hText,
    Program.run_bind_ok ((Program.run_bind_ok hFind).trans hMatch)]
  rfl

omit [Bcrypt] in
theorem target_accepted {body : IotWebhookBody} {shipmentId : ObjectId}
    (hTarget : body.target store = some shipmentId) : body.accepted = true := by
  unfold IotWebhookBody.target at hTarget
  split_ifs at hTarget with hAccepted
  exact hAccepted

omit [Bcrypt] in
theorem run_resolveShipmentId {body : IotWebhookBody} {shipmentId : ObjectId}
    (hTarget : body.target store = some shipmentId) :
    ∃ text, (resolveShipmentId "NOT_FOUND" (normalizeIotWebhookBody body).shipmentId
      (normalizeIotWebhookBody body).sensorId).run telemetryWorld (serving id) store =
        (store, .ok text, serving id) ∧ ObjectId.cast? text = some shipmentId := by
  have hAccepted := target_accepted hTarget
  unfold IotWebhookBody.target at hTarget
  rw [if_pos hAccepted] at hTarget
  cases body with
  | normalized body =>
      have hId : truthy (some body.shipmentId) = some body.shipmentId :=
        truthy_of_accepted_normalized hAccepted
      refine ⟨body.shipmentId, ?_, hTarget⟩
      simp only [normalizeIotWebhookBody, resolveShipmentId, hId]
      rfl
  | sensor body =>
      have hId : truthy (some body.sensorId) = some body.sensorId :=
        truthy_of_accepted_sensor hAccepted
      have hNone : truthy none = none := rfl
      obtain ⟨shipment, hSensor, hShipment⟩ := Option.map_eq_some_iff.mp hTarget
      refine ⟨shipment.id.toString, ?_, by rw [ObjectId.cast?_toString, hShipment]⟩
      simp only [normalizeIotWebhookBody, resolveShipmentId, hId, hNone,
        findActiveShipmentBySensorId]
      have hFind : (call (.shipmentFindBySensor body.sensorId)).run telemetryWorld (serving id)
          store = (store, .ok (some shipment), serving id) := by
        rw [run_call_serving, executeTelemetry, hSensor]
      rw [Program.run_bind_ok hFind]
      rfl

variable [Sha256]

/-- With every service up the record is stored. -/
theorem stored_of_target {header : Option String} {key : ApiKey} {body : IotWebhookBody}
    {shipmentId : ObjectId} (hKey : store.keyOfHeader header = some key)
    (hTarget : body.target store = some shipmentId)
    (hUnused : ∀ row ∈ store.1.telemetry, row.id ≠ id) :
    ∃ row : TelemetryRow, row ∈ ((iotWebhook header body).run telemetryWorld (serving id)
      store).1.1.telemetry ∧ row.id = id ∧ row.shipmentId = shipmentId := by
  obtain ⟨store₁, hAuthenticated⟩ : ∃ store', (requireApiKey header).run telemetryWorld
      (serving id) store = _ := run_requireApiKey hKey
  have hKept : store₁.1 = store.1 := by
    have hSame := (keepsBackend_requireApiKey header).run (serving id) store
    rwa [hAuthenticated] at hSame
  have hTarget₁ : body.target store₁ = some shipmentId := by
    rw [← hTarget]
    unfold IotWebhookBody.target TelemetryStore.activeShipmentOfSensor
    rw [hKept]
  obtain ⟨text, hResolve, hCast⟩ : ∃ text, (resolveShipmentId _ _ _).run telemetryWorld
      (serving id) store₁ = _ ∧ _ := run_resolveShipmentId hTarget₁
  let input := (normalizeIotWebhookBody body).input text
  let telemetry := input.telemetry id shipmentId
  have hCreate : (createTelemetryRecord input).run telemetryWorld (serving id) store₁ =
      (TelemetryStore.insertTelemetry store₁ telemetry, .ok telemetry, serving id) := by
    have hFresh : ∀ row ∈ store₁.1.telemetry, row.id ≠ id := by rwa [hKept]
    have hInput : ObjectId.cast? input.shipmentId = some shipmentId := hCast
    rw [createTelemetryRecord, run_call_serving]
    simp only [executeTelemetry, castingId, hInput, if_pos hFresh, telemetry]
  have hTail := (keepsBackend_announceTelemetry text input.dataHash telemetry).run (serving id)
    (TelemetryStore.insertTelemetry store₁ telemetry)
  rw [iotWebhook, Program.run_bind_ok hAuthenticated, if_pos (target_accepted hTarget),
    processIotWebhook_eq, Program.run_bind_ok hResolve, Program.run_bind_ok hCreate, hTail]
  exact ⟨telemetry.toTelemetryRow, List.mem_append_right _ (List.mem_singleton_self _), rfl, rfl⟩

/-- What the webhook stores for a key is within the key's scope, whatever the world
decides, exactly when the body leads to a shipment within that scope or to none. -/
theorem iotWebhook_in_scope_iff {header : Option String} {key : ApiKey}
    (hKey : store.keyOfHeader header = some key) (body : IotWebhookBody)
    (hUnused : ∃ id, ∀ row ∈ store.1.telemetry, row.id ≠ id) :
    (∀ env, ∀ row ∈ ((iotWebhook header body).run telemetryWorld env store).1.1.telemetry,
      row ∉ store.1.telemetry → key.covers store.1 row.shipmentId) ↔
      ∀ id ∈ body.target store, key.covers store.1 id := by
  constructor
  · intro hScope shipmentId hTarget
    obtain ⟨id, hFresh⟩ := hUnused
    obtain ⟨row, hStored, hId, hShipment⟩ := stored_of_target hKey hTarget hFresh
    rw [← hShipment]
    exact hScope (serving id) row hStored fun hOld => hFresh row hOld hId
  · intro hCovers env row hStored hNew
    rcases storesFor_iotWebhook env store header body with hSame | ⟨stored, hSame, hTarget⟩
    · rw [hSame] at hStored
      exact absurd hStored hNew
    · rw [hSame, List.mem_append, List.mem_singleton] at hStored
      rcases hStored with hOld | hRow
      · exact absurd hOld hNew
      · rw [hRow]
        exact hCovers _ hTarget

end Service

section Sample

/-- Texts that are their own hashes. -/
@[reducible] def plainBcrypt : Bcrypt :=
  ⟨fun password _ _ => password, fun password passwordHash => password = passwordHash⟩

@[reducible] def blankSha256 : Sha256 :=
  tabulatedSha256 []

/-- A key of an organisation that has no part in the sample shipment. -/
def sampleGatewayKey : ApiKey where
  id := .repeated 3
  name := "gateway"
  keyHash := "secret"
  organizationId := .repeated 13
  shipmentId := none
  isActive := true
  lastUsedAt := none
  createdAt := ⟨0⟩

def sampleGatewayStore : TelemetryStore :=
  ({ shipments := ⟨[sampleShipment], Collection.nodup_single _ _⟩ },
    { apiKeys := ⟨[sampleGatewayKey], by decide⟩ })

def sampleGatewayBody : IotWebhookBody :=
  .normalized
    { sensorId := none
      shipmentId := sampleShipment.id.toString
      temperature := .ofNat 5
      humidity := .ofNat 50
      latitude := .finite (.ofNat 10)
      longitude := .finite (.ofNat 20)
      batteryLevel := none
      timestamp := ⟨0⟩
      shockMagnitude := none
      gpsLost := none }

private theorem sample_key :
    @TelemetryStore.keyOfHeader plainBcrypt sampleGatewayStore (some "secret") =
      some sampleGatewayKey := by
  rfl

private theorem sample_target :
    sampleGatewayBody.target sampleGatewayStore = some sampleShipment.id := by
  have hAccepted : sampleGatewayBody.accepted = true := by decide +kernel
  unfold IotWebhookBody.target
  rw [if_pos hAccepted]
  exact ObjectId.cast?_toString _

theorem iotWebhook_in_scope_sample :
    (∀ env, ∀ row ∈ ((@iotWebhook blankSha256 plainBcrypt (some "secret") sampleGatewayBody).run
      telemetryWorld env sampleGatewayStore).1.1.telemetry,
      row ∉ sampleGatewayStore.1.telemetry →
        sampleGatewayKey.covers sampleGatewayStore.1 row.shipmentId) ↔
      ∀ id ∈ sampleGatewayBody.target sampleGatewayStore,
        sampleGatewayKey.covers sampleGatewayStore.1 id :=
  @iotWebhook_in_scope_iff sampleGatewayStore plainBcrypt blankSha256 _ _ sample_key
    sampleGatewayBody ⟨.repeated 0, fun _ h => by cases h⟩

/-- The reading of a foreign shipment is stored. -/
theorem foreign_reading_is_stored : ¬∀ (_ : Bcrypt) (_ : Sha256) (store : TelemetryStore)
    (header : Option String) (key : ApiKey) (body : IotWebhookBody)
    (env : Nat → Decision × TelemetryDecision) (row : TelemetryRow),
    store.keyOfHeader header = some key → body.accepted = true →
    row ∈ ((iotWebhook header body).run telemetryWorld env store).1.1.telemetry →
    row ∉ store.1.telemetry → key.covers store.1 row.shipmentId := by
  intro hClaim
  have hUnused : ∀ row ∈ sampleGatewayStore.1.telemetry, row.id ≠ .repeated 0 :=
    fun _ h => by cases h
  obtain ⟨row, hStored, -, hShipment⟩ := @stored_of_target _ _ plainBcrypt blankSha256 _ _ _ _
    sample_key sample_target hUnused
  have hCovers := hClaim plainBcrypt blankSha256 sampleGatewayStore (some "secret")
    sampleGatewayKey sampleGatewayBody _ row sample_key (target_accepted sample_target) hStored
    (fun h => by cases h)
  rw [hShipment] at hCovers
  obtain ⟨⟨shipment, hFound, hParty⟩, -⟩ := hCovers
  have hSample : some shipment = some sampleShipment := hFound.symm.trans rfl
  rw [Option.some.inj hSample] at hParty
  revert hParty
  decide

end Sample

end Navin
