import Navin.Auth.ApiKeyCreation
import Navin.Semantics.Since

/-! The life of an API key. A key is accepted only between its creation and its revocation, for
the organisation it was created for, and while it is not revoked it is not turned away. -/
namespace Navin.ApiKeys

open Async

section Calls

/-- The key as it was issued, whatever has happened to it since. -/
def asIssued (key : ApiKey) : ApiKey :=
  { key with isActive := true, lastUsedAt := none }

/-- A call that revokes the key with the identifier. -/
def Revokes (id : ObjectId) (call : KeyCall) : Prop :=
  ∃ text, call = .inl (.inr (.apiKeyRevoke text)) ∧ ObjectId.cast? text = some id

/-- What a creation stores of its input. -/
structure ApiKeyInput.Describes (input : ApiKeyInput) (key : ApiKey) : Prop where
  name : key.name = input.name
  keyHash : key.keyHash = input.keyHash
  organizationId : ObjectId.cast? input.organizationId = some key.organizationId
  shipmentId : input.shipmentId.map ObjectId.cast? = key.shipmentId.map some

/-- What one call does to the keys. -/
inductive KeysChange (call : KeyCall) (keys : Collection ApiKey.id) : Collection ApiKey.id → Prop
  | kept : KeysChange call keys keys
  | touched (id : ObjectId) (lastUsedAt : Date) : KeysChange call keys
      (keys.modify id (fun key => { key with lastUsedAt := some lastUsedAt }) fun _ => rfl)
  | revoked {id : ObjectId} (h : Revokes id call) : KeysChange call keys
      (keys.modify id (fun key => { key with isActive := false }) fun _ => rfl)
  | created {input : ApiKeyInput} {key : ApiKey} (hCall : call = .inr (.apiKeyCreate input))
      (hInput : input.Describes key) (hIssued : asIssued key = key)
      (hFree : keys.get? key.id = none) : KeysChange call keys (keys.insert key hFree)

variable {decision : KeyDecision} {store : TelemetryStore} {call : KeyCall}
  {keys keys' : Collection ApiKey.id}

theorem executeTelemetry_keys (decision : TelemetryDecision) (call : TelemetryCall) :
    KeysChange (.inl (.inr call)) store.2.apiKeys (executeTelemetry decision store call).1.2.apiKeys := by
  cases call with
  | apiKeyTouch id lastUsedAt => exact .touched id lastUsedAt
  | apiKeyRevoke text =>
      simp only [executeTelemetry, castingId]
      split
      · exact .kept
      · rename_i id hId
        split
        · exact .kept
        · exact .revoked ⟨text, rfl, hId⟩
  | _ =>
      simp only [executeTelemetry, castingId]
      repeat' split
      all_goals exact .kept

/-- A creation fails, or adds an active key that its input describes. -/
theorem executeKeys_create (decision : KeyDecision) (store : TelemetryStore) (input : ApiKeyInput) :
    (∃ error, executeKeys decision store (.apiKeyCreate input) = (store, .error error)) ∨
      ∃ key hFree, input.Describes key ∧ asIssued key = key ∧
        executeKeys decision store (.apiKeyCreate input) =
          ((store.1, { store.2 with apiKeys := store.2.apiKeys.insert key hFree }), .ok key) := by
  simp only [executeKeys, castingId]
  split
  · exact .inl ⟨_, rfl⟩
  · rename_i organizationId hOrganization
    split
    · exact .inl ⟨_, rfl⟩
    · rename_i hShipment
      have hShipmentId : input.shipmentId.map ObjectId.cast? =
          (input.shipmentId.map ObjectId.cast?).join.map some := by
        cases hId : input.shipmentId.map ObjectId.cast? with
        | none => rfl
        | some shipmentId =>
            cases shipmentId with
            | none => exact absurd hId hShipment
            | some id => rfl
      split
      · exact .inl ⟨_, rfl⟩
      · split
        · rename_i hFree
          exact .inr ⟨_, hFree, ⟨rfl, rfl, hOrganization, hShipmentId⟩, rfl, rfl⟩
        · exact .inl ⟨_, rfl⟩

theorem executeKeys_keys (call : ApiKeyCall) :
    KeysChange (.inr call) store.2.apiKeys (executeKeys decision store call).1.2.apiKeys := by
  cases call with
  | randomBytes size => exact .kept
  | apiKeyCreate input =>
      rcases executeKeys_create decision store input with
        ⟨error, hFailed⟩ | ⟨key, hFree, hInput, hIssued, hCreated⟩
      · rw [hFailed]
        exact .kept
      · rw [hCreated]
        exact .created rfl hInput hIssued hFree

theorem perform_keys :
    KeysChange call store.2.apiKeys (keyWorld.perform decision store call).1.2.apiKeys := by
  rcases call with (call | call) | call
  · exact .kept
  · change KeysChange _ _ (performTelemetry decision.existing.2 store call).1.2.apiKeys
    rcases performTelemetry_cases decision.existing.2 store call with hStore | hStore
    · rw [hStore]
      exact .kept
    · rw [hStore]
      exact executeTelemetry_keys decision.existing.2 call
  · have hKept : KeysChange (.inr call) store.2.apiKeys store.2.apiKeys := .kept
    exact @faultedBy_invariant TelemetryStore _ decision.fault store (executeKeys decision store call)
      (fun after => KeysChange (.inr call) store.2.apiKeys after.2.apiKeys) hKept
      (executeKeys_keys call)

/-- A key that is there stays, and only a revocation makes it inactive. -/
theorem KeysChange.get? (h : KeysChange call keys keys') {id : ObjectId} {old : ApiKey}
    (hOld : keys.get? id = some old) : ∃ key, keys'.get? id = some key ∧
      asIssued key = asIssued old ∧
      (key.isActive = old.isActive ∨ key.isActive = false ∧ Revokes id call) := by
  cases h with
  | kept => exact ⟨old, hOld, rfl, .inl rfl⟩
  | touched other lastUsedAt =>
      by_cases hId : id = other
      · subst hId
        rw [Collection.get?_modify_self, hOld]
        exact ⟨_, rfl, rfl, .inl rfl⟩
      · rw [Collection.get?_modify_of_ne _ _ hId]
        exact ⟨old, hOld, rfl, .inl rfl⟩
  | @revoked other hRevokes =>
      by_cases hId : id = other
      · subst hId
        rw [Collection.get?_modify_self, hOld]
        exact ⟨_, rfl, rfl, .inr ⟨rfl, hRevokes⟩⟩
      · rw [Collection.get?_modify_of_ne _ _ hId]
        exact ⟨old, hOld, rfl, .inl rfl⟩
  | created hCall hInput hIssued hFree =>
      refine ⟨old, ?_, rfl, .inl rfl⟩
      rw [Collection.get?_insert, if_neg, hOld]
      intro hId
      rw [hId, hFree] at hOld
      cases hOld

/-- An active key was active before, or it has just been created. -/
theorem KeysChange.origin (h : KeysChange call keys keys') {key : ApiKey} (hKey : key ∈ keys'.docs)
    (hActive : key.isActive = true) :
    (∃ old ∈ keys.docs, asIssued key = asIssued old ∧ old.isActive = true) ∨
      ∃ input, call = .inr (.apiKeyCreate input) ∧ input.Describes key := by
  cases h with
  | kept => exact .inl ⟨key, hKey, rfl, hActive⟩
  | touched id lastUsedAt =>
      obtain ⟨old, hOld, rfl | rfl⟩ := keys.mem_modify _ hKey
      · exact .inl ⟨key, hOld, rfl, hActive⟩
      · exact .inl ⟨old, hOld, rfl, hActive⟩
  | revoked hRevokes =>
      obtain ⟨old, hOld, rfl | rfl⟩ := keys.mem_modify _ hKey
      · exact .inl ⟨key, hOld, rfl, hActive⟩
      · cases hActive
  | created hCall hInput hIssued hFree =>
      rcases keys.mem_insert.mp hKey with hOld | rfl
      · exact .inl ⟨key, hOld, rfl, hActive⟩
      · exact .inr ⟨_, hCall, hInput⟩

end Calls

section Requests

/-- What a request has drawn, or found. -/
inductive KeyProgress where
  | creating (params : CreateApiKeyParams) (rawApiKey salt : Option String)
  | created (params : CreateApiKeyParams) (rawApiKey salt : String) (key : ApiKey)
  | authenticating (header : Option String) (found : Option (List ApiKey)) (failed : Bool)
  | other

/-- What a request asks to be created. -/
def KeyRequest.params? : KeyRequest → Option CreateApiKeyParams
  | .create caller name organizationId shipmentId =>
      some { name, organizationId, shipmentId, createdBy := caller.userId }
  | .createCompany caller name shipmentId =>
      some { name, organizationId := caller.organizationId, shipmentId, createdBy := caller.userId }
  | .records _ _ | .authenticate _ => none

def KeyRequest.progress (request : KeyRequest) : KeyProgress :=
  match request.params?, request with
  | some params, _ => .creating params none none
  | none, .authenticate header => .authenticating header none false
  | none, _ => .other

variable [Bcrypt]

/-- A key is created from the bytes that its request has drawn. -/
def lifecycle : Protocol KeyCall KeyAnswer ThrownError KeyProgress where
  allows progress call :=
    match call, progress with
    | .inr (.apiKeyCreate input), .creating params (some rawApiKey) (some salt) =>
        input = params.input (Bcrypt.hash rawApiKey 10 salt)
    | .inr (.apiKeyCreate _), _ => False
    | _, _ => True
  next progress call response :=
    match progress, call, response with
    | .creating params rawApiKey salt, .inr (.randomBytes size), .ok bytes =>
        if size = 32 then .creating params (some bytes) salt
        else .creating params rawApiKey (some bytes)
    | .creating params (some rawApiKey) (some salt), .inr (.apiKeyCreate _), .ok key =>
        .created params rawApiKey salt key
    | .authenticating header _ failed, .inl (.inr .apiKeyFindActive), .ok keys =>
        .authenticating header (some keys) failed
    | .authenticating header found _, _, .error _ => .authenticating header found true
    | progress, _, _ => progress

/-- A request that presents a key is let through with the first match among the keys found, or
is turned away because there is none or a call failed. -/
def Authenticates (header : Option String) (progress : KeyProgress)
    (outcome : Except ThrownError ApiKeyScope) : Prop :=
  ∃ found failed, progress = .authenticating header found failed ∧
    (∀ scope, outcome = .ok scope → ∃ rawApiKey keys key, truthy header = some rawApiKey ∧
      found = some keys ∧ keys.find? (fun key => Bcrypt.compare rawApiKey key.keyHash) = some key ∧
      key.scope = scope) ∧
    ∀ error, outcome = .error error → failed = true ∨ truthy header = none ∨
      ∃ rawApiKey keys, truthy header = some rawApiKey ∧ found = some keys ∧
        keys.find? (fun key => Bcrypt.compare rawApiKey key.keyHash) = none

/-- The first match, unless a call failed. -/
def Matches (header : Option String) (rawApiKey : String) (found keys : List ApiKey)
    (progress : KeyProgress) (outcome : Except ThrownError (Option ApiKey)) : Prop :=
  ∃ failed, progress = .authenticating header (some found) failed ∧
    (∀ first, outcome = .ok first →
      keys.find? (fun key => Bcrypt.compare rawApiKey key.keyHash) = first) ∧
    ∀ error, outcome = .error error → failed = true

theorem matchApiKey_follows {header : Option String} (rawApiKey : String) (found keys : List ApiKey) :
    (matchApiKey rawApiKey keys).Follows lifecycle.left (Matches header rawApiKey found keys)
      (.authenticating header (some found) false) := by
  have hDone (rest : List ApiKey) (first : Option ApiKey)
      (h : rest.find? (fun key => Bcrypt.compare rawApiKey key.keyHash) = first) :
      Matches header rawApiKey found rest (.authenticating header (some found) false) (.ok first) :=
    ⟨false, rfl, fun other hOther => h.trans (Except.ok.inj hOther), (fun error hError => by cases hError)⟩
  have hFailed (rest : List ApiKey) (error : ThrownError) :
      Matches header rawApiKey found rest (.authenticating header (some found) true) (.error error) :=
    ⟨true, rfl, (fun first hFirst => by cases hFirst), fun _ _ => rfl⟩
  induction keys with
  | nil => exact hDone [] none rfl
  | cons key rest ih =>
      rw [matchApiKey]
      cases hMatch : Bcrypt.compare rawApiKey key.keyHash with
      | false =>
          refine Program.Follows.mono ih fun after outcome hAfter => ?_
          obtain ⟨failed, rfl, hFirst, hError⟩ := hAfter
          exact ⟨failed, rfl, fun first h => by rw [List.find?_cons, hMatch, hFirst first h], hError⟩
      | true =>
          rw [if_pos rfl, backendProgram, currentDate, request, Program.lift_await]
          refine .await_bind trivial (hFailed _) fun now => .await_bind trivial (hFailed _) fun _ => ?_
          exact hDone _ _ (by rw [List.find?_cons, hMatch])

theorem requireApiKey_follows (header : Option String) :
    (requireApiKey header).Follows lifecycle.left (Authenticates header)
      (.authenticating header none false) := by
  rw [requireApiKey]
  cases hHeader : truthy header with
  | none =>
      exact ⟨none, false, rfl, (fun scope h => by cases h), fun _ _ => .inr (.inl hHeader)⟩
  | some rawApiKey =>
      have hNonempty : rawApiKey ≠ "" := by
        simpa using (Option.filter_eq_some_iff.mp hHeader).2
      -- Whatever is thrown inside is thrown again, with the same or another error.
      have hRethrown {after : KeyProgress} {error : ThrownError}
          (h : Authenticates header after (.error error)) (other : ThrownError) :
          Authenticates header after (.error other) := by
        obtain ⟨found, failed, rfl, -, hError⟩ := h
        exact ⟨found, failed, rfl, (fun scope h => by cases h), fun _ _ => hError error rfl⟩
      refine Program.Follows.tryCatch (Q := Authenticates header) ?_ (fun after scope h => h) ?_
      · rw [validateApiKey, if_neg hNonempty]
        refine Program.Follows.bind (Q := fun after outcome =>
          (∃ found, Matches header rawApiKey found found after outcome) ∨
            ∃ error, outcome = .error error ∧ after = .authenticating header none true) ?_ ?_ ?_
        · refine .await_bind trivial (fun error => .inr ⟨error, rfl, rfl⟩) fun keys => ?_
          exact (matchApiKey_follows rawApiKey keys keys).mono fun _ _ h => .inl ⟨keys, h⟩
        · rintro after first (⟨found, failed, rfl, hFirst, hError⟩ | ⟨error, hError, -⟩)
          · have hFind := hFirst first rfl
            cases first with
            | none =>
                exact ⟨some found, failed, rfl, (fun scope h => by cases h),
                  fun _ _ => .inr (.inr ⟨rawApiKey, found, hHeader, rfl, hFind⟩)⟩
            | some key =>
                exact ⟨some found, failed, rfl, fun scope h =>
                  ⟨rawApiKey, found, key, hHeader, rfl, hFind, Except.ok.inj h⟩,
                  (fun error h => by cases h)⟩
          · cases hError
        · rintro after error (⟨found, failed, rfl, hFirst, hError⟩ | ⟨other, hError, rfl⟩)
          · exact ⟨some found, failed, rfl, (fun scope h => by cases h),
              fun _ _ => .inl (hError error rfl)⟩
          · exact ⟨none, true, rfl, (fun scope h => by cases h), fun _ _ => .inl rfl⟩
      · intro after error h
        cases error <;> exact hRethrown h _

/-- Only what presents keys learns from the services for existing keys. -/
theorem existing_follows {α : Type} (p : TelemetryM α) {progress : KeyProgress}
    (h : ∀ call response, lifecycle.next progress (.inl call) response = progress) :
    (existing p).Follows lifecycle (fun after _ => after = progress) progress := by
  refine Program.Uses.follows (C := fun call => ∃ call', call = Sum.inl call')
    (Program.Uses.lift ?_) ?_
  · induction p with
    | done a => trivial
    | fail e => trivial
    | call request next ih => exact ⟨⟨request, rfl⟩, ih⟩
  · rintro call ⟨call', rfl⟩
    exact ⟨trivial, h call'⟩

/-- The key that is returned is the one that was created. -/
theorem generateApiKey_follows (params : CreateApiKeyParams) :
    (generateApiKey params).Follows lifecycle (fun after outcome => ∀ result, outcome = .ok result →
      ∃ rawApiKey salt key, after = .created params rawApiKey salt key ∧
        result = ApiKey.result rawApiKey key) (.creating params none none) := by
  refine .await_bind trivial (fun _ _ h => by cases h) fun rawApiKey =>
    .await_bind trivial (fun _ _ h => by cases h) fun salt =>
      .await_bind rfl (fun _ _ h => by cases h) fun apiKeyDoc => ?_
  have hAudit : (params.audit apiKeyDoc).Follows lifecycle
      (fun after _ => after = .created params rawApiKey salt apiKeyDoc)
      (.created params rawApiKey salt apiKeyDoc) := by
    unfold CreateApiKeyParams.audit
    split
    · rfl
    · exact existing_follows _ fun call response => rfl
  refine hAudit.bind (fun after _ hAfter result hResult => ?_) fun _ _ _ _ h => by cases h
  exact ⟨rawApiKey, salt, apiKeyDoc, hAfter, (Except.ok.inj hResult).symm⟩

/-- What a request has come to. -/
def KeyRequest.Settled (request : KeyRequest) (progress : KeyProgress)
    (outcome : Except ThrownError KeyReply) : Prop :=
  match request with
  | .authenticate header => ∃ answer,
      Authenticates header progress answer ∧ outcome = answer.map .authenticated
  | .records _ _ => ∀ result, outcome ≠ .ok (.created result)
  | _ => ∀ result, outcome = .ok (.created result) → ∃ params rawApiKey salt key,
      progress = .created params rawApiKey salt key ∧ result = ApiKey.result rawApiKey key

theorem requireRole_follows {roles : List UserRole} {caller : Caller}
    {handler : KeyM CreateApiKeyResult} {progress : KeyProgress}
    {Q : KeyProgress → Except ThrownError CreateApiKeyResult → Prop}
    (h : handler.Follows lifecycle Q progress) :
    (requireRole roles caller (do let result ← handler; return .created result)).Follows lifecycle
      (fun after outcome => ∀ result, outcome = .ok (.created result) → Q after (.ok result))
      progress := by
  unfold requireRole
  split
  · refine h.bind (fun after result hQ other hOther => ?_) fun _ _ _ _ h => by cases h
    cases hOther
    exact hQ
  · exact fun _ h => by cases h

theorem program_follows [StellarNetwork] (request : KeyRequest) :
    request.program.Follows lifecycle request.Settled request.progress := by
  cases request with
  | create caller name organizationId shipmentId =>
      have hCreate : (createApiKeyController caller name organizationId shipmentId).Follows lifecycle
          (fun after outcome => ∀ result, outcome = .ok result → ∃ params rawApiKey salt key,
            after = .created params rawApiKey salt key ∧ result = ApiKey.result rawApiKey key)
          (KeyRequest.create caller name organizationId shipmentId).progress := by
        unfold createApiKeyController
        split
        · exact fun _ h => by cases h
        · exact (generateApiKey_follows _).mono fun _ _ h result hResult => ⟨_, h result hResult⟩
      exact (requireRole_follows hCreate).mono fun _ _ h result hResult => h result hResult result rfl
  | createCompany caller name shipmentId =>
      have hCreate : (Company.createApiKeyController caller name shipmentId).Follows lifecycle
          (fun after outcome => ∀ result, outcome = .ok result → ∃ params rawApiKey salt key,
            after = .created params rawApiKey salt key ∧ result = ApiKey.result rawApiKey key)
          (KeyRequest.createCompany caller name shipmentId).progress := by
        unfold Company.createApiKeyController
        split
        · exact fun _ h => by cases h
        · exact (generateApiKey_follows _).mono fun _ _ h result hResult => ⟨_, h result hResult⟩
      exact (requireRole_follows hCreate).mono fun _ _ h result hResult => h result hResult result rfl
  | records caller operation =>
      have hKept : (existing (operation.program caller)).Follows lifecycle
          (fun after _ => after = .other) .other := existing_follows _ fun call response => rfl
      exact hKept.bind (fun _ _ _ _ h => by cases h) fun _ _ _ _ h => by cases h
  | authenticate header =>
      exact (Program.Follows.lift (requireApiKey_follows header)).bind
        (fun after scope h => ⟨.ok scope, h, rfl⟩) fun after error h => ⟨.error error, h, rfl⟩

end Requests

section Histories

abbrev KeyEvent (ι : Type) : Type :=
  Event KeyCall KeyAnswer ThrownError ι

variable [Bcrypt] {ι : Type} [DecidableEq ι] {requests : ι → KeyRequest}
  {history : List (KeyEvent ι)} {i : ι}

/-- How far the requests have come. -/
abbrev progressAfter (requests : ι → KeyRequest) (history : List (KeyEvent ι)) (i : ι) :
    KeyProgress :=
  lifecycle.after (fun i => (requests i).progress) history i

omit [DecidableEq ι] in
/-- What one call may teach. -/
theorem next_cases (progress : KeyProgress) (event : KeyEvent ι) :
    lifecycle.next progress event.request event.response = progress ∨
      (∃ params rawApiKey salt size bytes, progress = .creating params rawApiKey salt ∧
        event = ⟨event.thread, .inr (.randomBytes size), .ok bytes⟩ ∧
        lifecycle.next progress event.request event.response =
          if size = 32 then .creating params (some bytes) salt
          else .creating params rawApiKey (some bytes)) ∨
      (∃ params rawApiKey salt input key, progress = .creating params (some rawApiKey) (some salt) ∧
        event = ⟨event.thread, .inr (.apiKeyCreate input), .ok key⟩ ∧
        lifecycle.next progress event.request event.response = .created params rawApiKey salt key) ∨
      (∃ header found failed keys, progress = .authenticating header found failed ∧
        event = ⟨event.thread, .inl (.inr .apiKeyFindActive), .ok keys⟩ ∧
        lifecycle.next progress event.request event.response =
          .authenticating header (some keys) failed) ∨
      ∃ header found failed error, progress = .authenticating header found failed ∧
        event.response = .error error ∧
        lifecycle.next progress event.request event.response = .authenticating header found true := by
  obtain ⟨thread, call, response⟩ := event
  simp only [lifecycle]
  split
  · exact .inr (.inl ⟨_, _, _, _, _, rfl, rfl, rfl⟩)
  · exact .inr (.inr (.inl ⟨_, _, _, _, _, rfl, rfl, rfl⟩))
  · exact .inr (.inr (.inr (.inl ⟨_, _, _, _, rfl, rfl, rfl⟩)))
  · exact .inr (.inr (.inr (.inr ⟨_, _, _, _, rfl, rfl, rfl⟩)))
  · exact .inl rfl

def KeyProgress.params? : KeyProgress → Option CreateApiKeyParams
  | .creating params _ _ | .created params _ _ _ => some params
  | _ => none

/-- A request keeps to what it asks to be created. -/
theorem progressAfter_params (history : List (KeyEvent ι)) (i : ι) :
    (progressAfter requests history i).params? = (requests i).params? := by
  refine (lifecycle.after_field KeyProgress.params? (fun progress call response => ?_) _ _ _).trans ?_
  · rcases next_cases progress (⟨(), call, response⟩ : KeyEvent Unit) with hSame |
      ⟨_, _, _, _, _, rfl, -, hNext⟩ | ⟨_, _, _, _, _, rfl, -, hNext⟩ | ⟨_, _, _, _, rfl, -, hNext⟩ |
      ⟨_, _, _, _, rfl, -, hNext⟩
    · exact congrArg KeyProgress.params? hSame
    · refine (congrArg KeyProgress.params? hNext).trans ?_
      split <;> rfl
    · exact (congrArg KeyProgress.params? hNext).trans rfl
    · exact (congrArg KeyProgress.params? hNext).trans rfl
    · exact (congrArg KeyProgress.params? hNext).trans rfl
  · cases requests i <;> rfl

/-- What no request starts with, it has come to by one of its calls. -/
theorem exists_taught {p : KeyProgress → Prop} (h : p (progressAfter requests history i))
    (hStart : ∀ request : KeyRequest, ¬p request.progress) :
    ∃ newer event older, history = newer ++ event :: older ∧ event.thread = i ∧
      ¬p (progressAfter requests older event.thread) ∧
      p (lifecycle.next (progressAfter requests older event.thread) event.request event.response) := by
  obtain ⟨newer, event, older, hHistory, rfl, hBefore, hAfter⟩ :=
    lifecycle.exists_turn h (hStart (requests i))
  exact ⟨newer, event, older, hHistory, rfl, hBefore, hAfter⟩

/-- What a request has found, it was answered. -/
theorem exists_found {header : Option String} {keys : List ApiKey} {failed : Bool}
    (h : progressAfter requests history i = .authenticating header (some keys) failed) :
    ∃ newer older, history =
      newer ++ (⟨i, .inl (.inr .apiKeyFindActive), .ok keys⟩ : KeyEvent ι) :: older := by
  obtain ⟨newer, event, older, rfl, rfl, hBefore, header, failed, hAfter⟩ := exists_taught
    (p := fun progress => ∃ header failed, progress = .authenticating header (some keys) failed)
    ⟨header, failed, h⟩ fun request => by cases request <;> simp [KeyRequest.progress, KeyRequest.params?]
  rcases next_cases (progressAfter requests older event.thread) event with hSame |
    ⟨_, _, _, _, _, -, -, hNext⟩ | ⟨_, _, _, _, _, -, -, hNext⟩ | ⟨_, _, _, _, -, hEvent, hNext⟩ |
    ⟨_, _, _, _, hFound, -, hNext⟩
  · exact absurd ⟨header, failed, hSame.symm.trans hAfter⟩ hBefore
  · split at hNext <;> cases hNext.symm.trans hAfter
  · cases hNext.symm.trans hAfter
  · cases hNext.symm.trans hAfter
    exact ⟨newer, older, by rw [← hEvent]⟩
  · cases hNext.symm.trans hAfter
    exact absurd ⟨_, _, hFound⟩ hBefore

/-- What a request took its key from, it has drawn. -/
theorem exists_drawn {params : CreateApiKeyParams} {rawApiKey : String} {salt : Option String}
    (h : progressAfter requests history i = .creating params (some rawApiKey) salt) :
    (⟨i, .inr (.randomBytes 32), .ok rawApiKey⟩ : KeyEvent ι) ∈ history := by
  obtain ⟨newer, event, older, rfl, rfl, hBefore, params, salt, hAfter⟩ := exists_taught
    (p := fun progress => ∃ params salt, progress = .creating params (some rawApiKey) salt)
    ⟨params, salt, h⟩ fun request => by cases request <;> simp [KeyRequest.progress, KeyRequest.params?]
  rcases next_cases (progressAfter requests older event.thread) event with hSame |
    ⟨_, _, _, size, _, hDrawn, hEvent, hNext⟩ | ⟨_, _, _, _, _, -, -, hNext⟩ | ⟨_, _, _, _, -, -, hNext⟩ |
    ⟨_, _, _, _, -, -, hNext⟩
  · exact absurd ⟨params, salt, hSame.symm.trans hAfter⟩ hBefore
  · by_cases hSize : size = 32
    · rw [if_pos hSize] at hNext
      cases hNext.symm.trans hAfter
      rw [hSize] at hEvent
      rw [hEvent]
      exact List.mem_append_right _ List.mem_cons_self
    · rw [if_neg hSize] at hNext
      cases hNext.symm.trans hAfter
      exact absurd ⟨_, _, hDrawn⟩ hBefore
  · cases hNext.symm.trans hAfter
  · cases hNext.symm.trans hAfter
  · cases hNext.symm.trans hAfter

/-- What a request says to have created, it has. -/
theorem exists_created {params : CreateApiKeyParams} {rawApiKey salt : String} {key : ApiKey}
    (h : progressAfter requests history i = .created params rawApiKey salt key) :
    ∃ newer input older, history =
        newer ++ (⟨i, .inr (.apiKeyCreate input), .ok key⟩ : KeyEvent ι) :: older ∧
      progressAfter requests older i = .creating params (some rawApiKey) (some salt) := by
  obtain ⟨newer, event, older, rfl, rfl, hBefore, hAfter⟩ := exists_taught
    (p := (· = .created params rawApiKey salt key)) h fun request => by cases request <;>
      simp [KeyRequest.progress, KeyRequest.params?]
  rcases next_cases (progressAfter requests older event.thread) event with hSame |
    ⟨_, _, _, _, _, -, -, hNext⟩ | ⟨_, _, _, input, _, hDrawn, hEvent, hNext⟩ |
    ⟨_, _, _, _, -, -, hNext⟩ | ⟨_, _, _, _, -, -, hNext⟩
  · exact absurd (hSame.symm.trans hAfter) hBefore
  · split at hNext <;> cases hNext.symm.trans hAfter
  · cases hNext.symm.trans hAfter
    exact ⟨newer, input, older, by rw [← hEvent], hDrawn⟩
  · cases hNext.symm.trans hAfter
  · cases hNext.symm.trans hAfter

/-- A request that counts a failure has seen one of its calls fail. -/
theorem exists_failed {header : Option String} {found : Option (List ApiKey)}
    (h : progressAfter requests history i = .authenticating header found true) :
    ∃ event ∈ history, event.thread = i ∧ ∃ error, event.response = .error error := by
  obtain ⟨newer, event, older, rfl, rfl, hBefore, header, found, hAfter⟩ := exists_taught
    (p := fun progress => ∃ header found, progress = .authenticating header found true)
    ⟨header, found, h⟩ fun request => by cases request <;> simp [KeyRequest.progress, KeyRequest.params?]
  rcases next_cases (progressAfter requests older event.thread) event with hSame |
    ⟨_, _, _, _, _, -, -, hNext⟩ | ⟨_, _, _, _, _, -, -, hNext⟩ | ⟨_, _, _, _, hFound, -, hNext⟩ |
    ⟨_, _, _, error, -, hError, -⟩
  · exact absurd ⟨header, found, hSame.symm.trans hAfter⟩ hBefore
  · split at hNext <;> cases hNext.symm.trans hAfter
  · cases hNext.symm.trans hAfter
  · cases hNext.symm.trans hAfter
    exact absurd ⟨_, _, hFound⟩ hBefore
  · exact ⟨event, List.mem_append_right _ List.mem_cons_self, rfl, error, hError⟩

end Histories

section Runs

variable [Bcrypt] [StellarNetwork] {ι : Type} [DecidableEq ι] {requests : ι → KeyRequest}
  {start : TelemetryStore} {point : Point keyWorld ι KeyReply} {i j : ι}

/-- A request created the key, for the organisation it asked for, from bytes it had drawn. -/
def Issued (requests : ι → KeyRequest) (history : List (KeyEvent ι)) (key : ApiKey) : Prop :=
  ∃ newer i params rawApiKey salt response older,
    history = newer ++ (⟨i, .inr (.apiKeyCreate (params.input (Bcrypt.hash rawApiKey 10 salt))),
      response⟩ : KeyEvent ι) :: older ∧
    (requests i).params? = some params ∧
    (⟨i, .inr (.randomBytes 32), .ok rawApiKey⟩ : KeyEvent ι) ∈ older ∧
    (params.input (Bcrypt.hash rawApiKey 10 salt)).Describes key

/-- A revocation of the key was acknowledged. -/
def RevokedIn (history : List (KeyEvent ι)) (id : ObjectId) : Prop :=
  ∃ i text count, (⟨i, .inl (.inr (.apiKeyRevoke text)), .ok count⟩ : KeyEvent ι) ∈ history ∧
    ObjectId.cast? text = some id ∧ count ≠ (0 : Nat)

omit [Bcrypt] [StellarNetwork] [DecidableEq ι] in
theorem ApiKeyInput.Describes.of_asIssued {input : ApiKeyInput} {old key : ApiKey}
    (h : input.Describes old) (hIssued : asIssued key = asIssued old) : input.Describes key where
  name := (congrArg ApiKey.name hIssued).trans h.name
  keyHash := (congrArg ApiKey.keyHash hIssued).trans h.keyHash
  organizationId := h.organizationId.trans (congrArg (some ·.organizationId) hIssued).symm
  shipmentId := h.shipmentId.trans (congrArg (·.shipmentId.map some) hIssued).symm

omit [StellarNetwork] [DecidableEq ι] in
theorem allows_create {progress : KeyProgress} {input : ApiKeyInput}
    (h : lifecycle.allows progress (.inr (.apiKeyCreate input))) : ∃ params rawApiKey salt,
      progress = .creating params (some rawApiKey) (some salt) ∧
        input = params.input (Bcrypt.hash rawApiKey 10 salt) := by
  rcases progress with ⟨params, _ | rawApiKey, _ | salt⟩ | _ | _ | _
  · exact False.elim h
  · exact False.elim h
  · exact False.elim h
  · exact ⟨params, rawApiKey, salt, rfl, h⟩
  · exact False.elim h
  · exact False.elim h
  · exact False.elim h

omit [StellarNetwork] [DecidableEq ι] in
theorem Issued.cons {history : List (KeyEvent ι)} {key : ApiKey} (h : Issued requests history key)
    (event : KeyEvent ι) : Issued requests (event :: history) key := by
  obtain ⟨newer, i, params, rawApiKey, salt, response, older, rfl, hIssued⟩ := h
  exact ⟨event :: newer, i, params, rawApiKey, salt, response, older, rfl, hIssued⟩

/-- An active key was active from the start or has been issued. -/
theorem active_issued (run : GuardedRun anyStep (keyPool start requests) point) {key : ApiKey}
    (hKey : key ∈ point.2.store.2.apiKeys.docs) (hActive : key.isActive = true) :
    (∃ first ∈ start.2.apiKeys.docs, first.isActive = true ∧ asIssued key = asIssued first) ∨
      Issued requests point.1 key := by
  refine GuardedRun.invariant lifecycle (fun i => (requests i).progress) run
    (fun i => program_follows (requests i))
    (fun history store => ∀ key ∈ store.2.apiKeys.docs, key.isActive = true →
      (∃ first ∈ start.2.apiKeys.docs, first.isActive = true ∧ asIssued key = asIssued first) ∨
        Issued requests history key)
    (fun key hKey hActive => .inl ⟨key, hKey, hActive, rfl⟩)
    (fun history store decision i call ih hAllows _ key hKey hActive => ?_) key hKey hActive
  rcases perform_keys.origin hKey hActive with ⟨old, hOld, hSame, hOldActive⟩ |
    ⟨input, rfl, hInput⟩
  · rcases ih old hOld hOldActive with ⟨first, hFirst, hFirstActive, hFirstSame⟩ |
      ⟨newer, j, params, rawApiKey, salt, response, older, rfl, hParams, hDrawn, hDescribes⟩
    · exact .inl ⟨first, hFirst, hFirstActive, hSame.trans hFirstSame⟩
    · exact .inr (Issued.cons ⟨newer, j, params, rawApiKey, salt, response, older, rfl, hParams,
        hDrawn, hDescribes.of_asIssued hSame⟩ _)
  · obtain ⟨params, rawApiKey, salt, hProgress, rfl⟩ := allows_create hAllows
    have hParams : (progressAfter requests history i).params? = (requests i).params? :=
      progressAfter_params history i
    refine .inr ⟨[], i, params, rawApiKey, salt, _, history, rfl, ?_, exists_drawn hProgress, hInput⟩
    rw [← hParams]
    exact congrArg KeyProgress.params? hProgress

/-- What a request found is what was active. -/
theorem found_active (run : GuardedRun anyStep (keyPool start requests) point)
    {newer older : List (KeyEvent ι)} {keys : List ApiKey}
    (hFind : point.1 = newer ++ ⟨j, .inl (.inr .apiKeyFindActive), .ok keys⟩ :: older) :
    ∃ before, GuardedRun anyStep (keyPool start requests) before ∧ before.1 = older ∧
      keys = before.2.store.2.apiKeys.docs.filter (·.isActive) := by
  obtain ⟨before, decision, i, call, next, prior, hBefore, -, hEvent⟩ := run.stepAt hFind
  obtain ⟨rfl, rfl, hAnswer⟩ := Event.mk.inj hEvent
  refine ⟨before, prior, hBefore, ?_⟩
  have hOk : (performTelemetry decision.existing.2 before.2.store .apiKeyFindActive).2 = .ok keys :=
    (eq_of_heq hAnswer).symm
  have hExecuted := executeTelemetry_of_answered (Prod.ext rfl hOk)
  exact (Except.ok.inj (congrArg Prod.snd hExecuted)).symm

omit [StellarNetwork] [DecidableEq ι] [Bcrypt] in
/-- An acknowledged revocation leaves the key there and inactive. -/
theorem inactive_of_revoked {decision : KeyDecision} {store : TelemetryStore} {text : String}
    {id : ObjectId} {count : Nat} (hId : ObjectId.cast? text = some id) (hCount : count ≠ 0)
    (h : (keyWorld.perform decision store (.inl (.inr (.apiKeyRevoke text)))).2 = .ok count) :
    ∃ key, (keyWorld.perform decision store (.inl (.inr (.apiKeyRevoke text)))).1.2.apiKeys.get? id =
      some key ∧ key.isActive = false := by
  have hExecuted := executeTelemetry_of_answered (Prod.ext rfl h)
  have hStore := (congrArg Prod.fst hExecuted).symm
  have hAnswer := congrArg Prod.snd hExecuted
  change ∃ key, (performTelemetry decision.existing.2 store (.apiKeyRevoke text)).1.2.apiKeys.get? id =
    some key ∧ key.isActive = false
  rw [hStore]
  simp only [executeTelemetry, castingId, hId] at hAnswer ⊢
  cases hFound : store.2.apiKeys.get? id with
  | none =>
      rw [hFound] at hAnswer
      exact absurd (Except.ok.inj hAnswer).symm hCount
  | some key =>
      have hModified := store.2.apiKeys.get?_modify_self (k := id)
        (f := fun key => { key with isActive := false }) fun _ => rfl
      rw [hFound] at hModified
      exact ⟨{ key with isActive := false }, hModified, rfl⟩

/-- A revoked key is there, and stays inactive. -/
theorem inactive_after (run : GuardedRun anyStep (keyPool start requests) point) {id : ObjectId}
    (h : RevokedIn point.1 id) :
    ∃ key, point.2.store.2.apiKeys.get? id = some key ∧ key.isActive = false := by
  obtain ⟨i, text, count, hMem, hId, hCount⟩ := h
  obtain ⟨newer, older, hSplit⟩ := List.append_of_mem hMem
  refine run.since hSplit
    (fun _ store => ∃ key, store.2.apiKeys.get? id = some key ∧ key.isActive = false)
    (fun decision store hAnswer => inactive_of_revoked hId hCount hAnswer.symm)
    fun _ store decision i call ih => ?_
  obtain ⟨old, hOld, hInactive⟩ := ih
  obtain ⟨key, hKey, -, hActive⟩ := perform_keys.get? hOld
  refine ⟨key, hKey, ?_⟩
  rcases hActive with hSame | ⟨hRevoked, -⟩
  · exact hSame.trans hInactive
  · exact hRevoked

/-- A request is authenticated only as a key that matches what it presents, that was there from
the start or issued before, and whose revocation had not been acknowledged when the request
looked at the keys. -/
theorem authenticated_while_live (run : GuardedRun anyStep (keyPool start requests) point)
    {header : Option String} {scope : ApiKeyScope} (hRequest : requests j = .authenticate header)
    (hDone : point.2.thread j = .done (.authenticated scope)) :
    ∃ rawApiKey keys key newer older, truthy header = some rawApiKey ∧
      point.1 = newer ++ (⟨j, .inl (.inr .apiKeyFindActive), .ok keys⟩ : KeyEvent ι) :: older ∧
      keys.find? (fun key => Bcrypt.compare rawApiKey key.keyHash) = some key ∧ key.scope = scope ∧
      ((∃ first ∈ start.2.apiKeys.docs, first.isActive = true ∧ asIssued key = asIssued first) ∨
        Issued requests older key) ∧ ¬RevokedIn older key.id := by
  have hFollows := GuardedRun.follows lifecycle (fun i => (requests i).progress) run
    (fun i => program_follows (requests i)) j
  rw [hDone, hRequest] at hFollows
  obtain ⟨answer, ⟨found, failed, hProgress, hOk, -⟩, hAnswer⟩ := hFollows
  cases answer with
  | error error => cases hAnswer
  | ok other =>
      cases hAnswer
      obtain ⟨rawApiKey, keys, key, hHeader, rfl, hFind, hScope⟩ := hOk scope rfl
      obtain ⟨newer, older, hSplit⟩ := exists_found hProgress
      obtain ⟨before, prior, rfl, rfl⟩ := found_active run hSplit
      obtain ⟨hKey, hActive⟩ := List.mem_filter.mp (List.mem_of_find?_eq_some hFind)
      refine ⟨rawApiKey, _, key, newer, before.1, hHeader, hSplit, hFind, hScope,
        active_issued prior hKey hActive, fun hRevoked => ?_⟩
      obtain ⟨stored, hStored, hInactive⟩ := inactive_after prior hRevoked
      rw [Collection.get?_of_mem _ hKey] at hStored
      cases hStored
      cases hActive.symm.trans hInactive

omit [StellarNetwork] [DecidableEq ι] [Bcrypt] in
/-- An acknowledged creation leaves the key there and active. -/
theorem active_of_created {decision : KeyDecision} {store : TelemetryStore} {input : ApiKeyInput}
    {key : ApiKey}
    (h : (keyWorld.perform decision store (.inr (.apiKeyCreate input))).2 = .ok key) :
    input.Describes key ∧ key.isActive = true ∧
      (keyWorld.perform decision store (.inr (.apiKeyCreate input))).1.2.apiKeys.get? key.id =
        some key := by
  have hDone : keyWorld.perform decision store (.inr (.apiKeyCreate input)) =
      executeKeys decision store (.apiKeyCreate input) := faultedBy_ok h
  rw [hDone] at h ⊢
  rcases executeKeys_create decision store input with
    ⟨error, hFailed⟩ | ⟨created, hFree, hInput, hCreatedActive, hCreated⟩
  · rw [hFailed] at h
    cases h
  · rw [hCreated] at h ⊢
    cases h
    refine ⟨hInput, ?_, (store.2.apiKeys.get?_insert (h := hFree)).trans (if_pos rfl)⟩
    rw [← hCreatedActive]
    rfl

omit [StellarNetwork] in
theorem KeyRequest.Settled.created {request : KeyRequest} {progress : KeyProgress}
    {result : CreateApiKeyResult} (h : request.Settled progress (.ok (.created result))) :
    ∃ params rawApiKey salt key, progress = .created params rawApiKey salt key ∧
      result = ApiKey.result rawApiKey key := by
  cases request with
  | create caller name organizationId shipmentId => exact h result rfl
  | createCompany caller name shipmentId => exact h result rfl
  | records caller operation => exact absurd rfl (h result)
  | authenticate header =>
      obtain ⟨answer, -, hAnswer⟩ := h
      cases answer <;> cases hAnswer

/-- A key that was created has the hash of what its request drew. -/
theorem created_keyHash (run : GuardedRun anyStep (keyPool start requests) point)
    {newer older : List (KeyEvent ι)} {input : ApiKeyInput} {key : ApiKey}
    {params : CreateApiKeyParams} {rawApiKey salt : String}
    (hCreation : point.1 = newer ++ ⟨i, .inr (.apiKeyCreate input), .ok key⟩ :: older)
    (hDrawn : progressAfter requests older i = .creating params (some rawApiKey) (some salt)) :
    key.keyHash = Bcrypt.hash rawApiKey 10 salt := by
  obtain ⟨before, decision, j, call, next, prior, rfl, hThread, hEvent⟩ := run.stepAt hCreation
  obtain ⟨rfl, rfl, hAnswer⟩ := Event.mk.inj hEvent
  obtain ⟨hInput, -, -⟩ := active_of_created (eq_of_heq hAnswer).symm
  have hAllows := GuardedRun.allows lifecycle (fun i => (requests i).progress) prior
    (fun i => program_follows (requests i)) hThread
  obtain ⟨_, _, _, hProgress, rfl⟩ := allows_create hAllows
  cases hDrawn.symm.trans hProgress
  exact hInput.keyHash

/-- A key that was created and not revoked since is there and active. -/
theorem active_after (run : GuardedRun anyStep (keyPool start requests) point)
    {newer older : List (KeyEvent ι)} {input : ApiKeyInput} {key : ApiKey}
    (hCreation : point.1 = newer ++ ⟨i, .inr (.apiKeyCreate input), .ok key⟩ :: older)
    (hUnrevoked : ∀ event ∈ newer, ¬Revokes key.id event.request) :
    ∃ stored, point.2.store.2.apiKeys.get? key.id = some stored ∧
      asIssued stored = asIssued key ∧ stored.isActive = true := by
  refine run.since hCreation (fun events store => (∀ event ∈ events, ¬Revokes key.id event.request) →
      ∃ stored, store.2.apiKeys.get? key.id = some stored ∧
        asIssued stored = asIssued key ∧ stored.isActive = true)
    (fun decision store hAnswer _ => ?_) (fun events store decision i call ih hEvents => ?_) hUnrevoked
  · obtain ⟨-, hActive, hStored⟩ := active_of_created hAnswer.symm
    exact ⟨key, hStored, rfl, hActive⟩
  · obtain ⟨hLast, hEarlier⟩ := List.forall_mem_cons.mp hEvents
    obtain ⟨old, hOld, hSame, hOldActive⟩ := ih hEarlier
    obtain ⟨stored, hStored, hStoredSame, hActive⟩ := perform_keys.get? hOld
    refine ⟨stored, hStored, hStoredSame.trans hSame, ?_⟩
    rcases hActive with hKept | ⟨-, hRevokes⟩
    · exact hKept.trans hOldActive
    · exact absurd hRevokes hLast

/-- The key that a creation returns is not turned away while no call revokes it, unless a call
of the request that presents it fails. -/
theorem issued_key_accepted {middle : Point keyWorld ι KeyReply} {result : CreateApiKeyResult}
    {error : ThrownError} (run : GuardedRun anyStep (keyPool start requests) middle)
    (steps : GuardedSteps anyStep middle point)
    (hBcrypt : ∀ password salt, Bcrypt.compare password (Bcrypt.hash password 10 salt) = true)
    (hIssued : middle.2.thread i = .done (.created result)) (hNonempty : result.apiKey ≠ "")
    (hRequest : requests j = .authenticate (some result.apiKey))
    (hFresh : ∀ event ∈ middle.1, event.thread ≠ j)
    (hUnrevoked : ∀ event ∈ point.1, ∀ id, ObjectId.cast? result.id = some id →
      ¬Revokes id event.request)
    (hRefused : point.2.thread j = .fail error) :
    ∃ event ∈ point.1, event.thread = j ∧ ∃ error, event.response = .error error := by
  have hStart : ∀ i, ((keyPool start requests).thread i).Follows lifecycle (requests i).Settled
      (requests i).progress := fun i => program_follows (requests i)
  have hCreator := GuardedRun.follows lifecycle (fun i => (requests i).progress) run hStart i
  rw [hIssued] at hCreator
  obtain ⟨params, rawApiKey, salt, key, hCreated, rfl⟩ := hCreator.created
  obtain ⟨newer, input, older, hCreation, hDrawn⟩ := exists_created hCreated
  have hKeyHash := created_keyHash run hCreation hDrawn
  have hPresents := GuardedRun.follows lifecycle (fun i => (requests i).progress)
    (run.trans steps) hStart j
  rw [hRefused, hRequest] at hPresents
  obtain ⟨answer, ⟨found, failed, hProgress, -, hError⟩, hAnswer⟩ := hPresents
  cases answer with
  | ok scope => cases hAnswer
  | error other =>
      rcases hError other rfl with rfl | hMissing | ⟨presented, keys, hPresented, rfl, hNone⟩
      · exact exists_failed hProgress
      · exact absurd (hMissing.symm.trans (truthy_of_ne hNonempty)) (by simp)
      · -- Found among the keys: the request looked at them after the creation.
        obtain ⟨latest, earlier, hFind⟩ := exists_found hProgress
        obtain ⟨last, hLast⟩ := GuardedSteps.history_append steps
        obtain ⟨between, -, rfl⟩ := split_of_notMem (hLast.symm.trans hFind)
          fun hMem => hFresh _ hMem rfl
        obtain ⟨before, prior, hBefore, rfl⟩ := found_active (run.trans steps) hFind
        rw [hCreation, ← List.append_assoc] at hBefore
        obtain ⟨stored, hStored, hSame, hActive⟩ := active_after prior hBefore fun event hEvent => by
          refine hUnrevoked event ?_ key.id (ObjectId.cast?_toString key.id)
          rw [hFind, hCreation]
          refine List.mem_append_right _ (List.mem_cons_of_mem _ ?_)
          rw [← List.append_assoc]
          exact List.mem_append_left _ hEvent
        cases hPresented.symm.trans (truthy_of_ne hNonempty)
        have hMatch := List.find?_eq_none.mp hNone stored
          (List.mem_filter.mpr ⟨(Collection.get?_eq_some_iff _).mp hStored |>.1, hActive⟩)
        refine absurd ?_ hMatch
        have hHash : (asIssued stored).keyHash = (asIssued key).keyHash := by rw [hSame]
        exact (congrArg (Bcrypt.compare rawApiKey) (hHash.trans hKeyHash)).trans (hBcrypt _ _)

end Runs

section Sample

/-- A hash that keeps the text. -/
private instance plainBcrypt : Bcrypt where
  hash password _ _ := password
  compare password passwordHash := password = passwordHash

private instance testNetwork : StellarNetwork where
  isPublic := false

private def noKeys : TelemetryStore :=
  (({} : Store), ({} : TelemetryState))

/-- A key is created and presented. -/
private def sampleRequests (i : Fin 2) : KeyRequest :=
  if i = 0 then
    .createCompany ⟨none, .admin, (ObjectId.repeated 11).toString⟩ "Sensor" none
  else .authenticate (some "5ec4e7")

private def granting : KeyDecision :=
  ⟨(Decision.ok, ({} : TelemetryDecision)), none, .repeated 1, ⟨0⟩, "5ec4e7"⟩

private def refusing : KeyDecision :=
  let refused : TelemetryDecision := { fault := some (.rejected .unavailable) }
  { granting with existing := (Decision.ok, refused) }

private def letThrough (point : Point keyWorld (Fin 2) KeyReply) : Bool :=
  match point.2.thread 1 with
  | .done (.authenticated _) => true
  | _ => false

theorem authenticated_while_live_sample :
    ∃ (point : Point keyWorld (Fin 2) KeyReply) (scope : ApiKeyScope),
      GuardedRun anyStep (keyPool noKeys sampleRequests) point ∧
        point.2.thread 1 = .done (.authenticated scope) ∧
        ∃ rawApiKey keys key newer older, truthy (some "5ec4e7") = some rawApiKey ∧
          point.1 = newer ++ (⟨1, .inl (.inr .apiKeyFindActive), .ok keys⟩ : KeyEvent (Fin 2)) :: older ∧
          keys.find? (fun key => Bcrypt.compare rawApiKey key.keyHash) = some key ∧
          key.scope = scope ∧
          ((∃ first ∈ noKeys.2.apiKeys.docs,
              first.isActive = true ∧ asIssued key = asIssued first) ∨
            Issued sampleRequests older key) ∧ ¬RevokedIn older key.id := by
  obtain ⟨point, run, hTest⟩ := Pool.exists_run anyStep (keyPool noKeys sampleRequests) letThrough
    [(granting, 0), (granting, 0), (granting, 0), (granting, 1), (granting, 1), (granting, 1)]
    (by decide +kernel)
  unfold letThrough at hTest
  split at hTest
  · rename_i scope hDone
    exact ⟨point, scope, run, hDone, authenticated_while_live run rfl hDone⟩
  · cases hTest

/-- The key has been returned, the other request has not begun, and nothing was revoked. -/
private def issuedOnly (point : Point keyWorld (Fin 2) KeyReply) : Bool :=
  match point.2.thread 0 with
  | .done (.created result) => result.apiKey = "5ec4e7" && point.1.all (·.thread ≠ 1)
  | _ => false

private def revokes : KeyCall → Bool
  | .inl (.inr (.apiKeyRevoke _)) => true
  | _ => false

private def turnedAway (point : Point keyWorld (Fin 2) KeyReply) : Bool :=
  match point.2.thread 1 with
  | .fail _ => point.1.all fun event => !revokes event.request
  | _ => false

/-- The database refuses the call that looks at the keys. -/
theorem issued_key_accepted_sample :
    ∃ (middle point : Point keyWorld (Fin 2) KeyReply) (result : CreateApiKeyResult)
      (error : ThrownError),
      GuardedRun anyStep (keyPool noKeys sampleRequests) middle ∧
        GuardedSteps anyStep middle point ∧ middle.2.thread 0 = .done (.created result) ∧
        point.2.thread 1 = .fail error ∧
        ∃ event ∈ point.1, event.thread = 1 ∧ ∃ error, event.response = .error error := by
  obtain ⟨middle, run, hTest⟩ := Pool.exists_run anyStep (keyPool noKeys sampleRequests)
    (fun middle => issuedOnly middle &&
      (Pool.runSchedule anyStep [(refusing, 1)] middle).any turnedAway)
    [(granting, 0), (granting, 0), (granting, 0)] (by decide +kernel)
  obtain ⟨hMiddle, hLater⟩ := Bool.and_eq_true_iff.mp hTest
  rw [Option.any_eq_true] at hLater
  obtain ⟨point, hPoint, hTurned⟩ := hLater
  unfold issuedOnly at hMiddle
  unfold turnedAway at hTurned
  split at hMiddle
  · rename_i result hIssued
    obtain ⟨hKey, hFresh⟩ := Bool.and_eq_true_iff.mp hMiddle
    split at hTurned
    · rename_i error hRefused
      have steps := Pool.runSchedule_steps hPoint
      refine ⟨middle, point, result, error, run, steps, hIssued, hRefused,
        issued_key_accepted run steps (fun password salt => by simp [Bcrypt.compare, Bcrypt.hash]) hIssued
          ?_ ?_ ?_ ?_ hRefused⟩
      · rw [of_decide_eq_true hKey]
        decide
      · rw [of_decide_eq_true hKey]
        rfl
      · exact fun event hEvent => of_decide_eq_true (List.all_eq_true.mp hFresh event hEvent)
      · rintro event hEvent id - ⟨text, hRevokes, -⟩
        have hNone := List.all_eq_true.mp hTurned event hEvent
        rw [hRevokes] at hNone
        cases hNone
    · cases hTurned
  · cases hMiddle

end Sample

end Navin.ApiKeys
