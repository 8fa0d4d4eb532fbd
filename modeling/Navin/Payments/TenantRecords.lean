import Navin.Auth.ApiKeyService
import Navin.Payments.Service
import Navin.Shipments.OutsideShipment

/-! Which requests about settlements and API keys leave the records of other
organisations alone and reveal nothing about them. -/
namespace Navin

open Async

/-- The requests, with validated parameters and bodies. API keys have two controllers. -/
inductive RecordOperation where
  | settlementDetail (id : String)
  | updatePaymentStatus (id : String) (status : PaymentStatus) (stellarTxHash : Option String)
  | disputeSettlement (id reason : String) (notes : Option String)
  | listApiKeys (organizationId : String)
  | revokeApiKey (apiKeyId : String)
  | listCompanyApiKeys
  | revokeCompanyApiKey (apiKeyId : String)

inductive RecordData where
  | null
  | settlement (payment : AugmentedPayment)
  | apiKeys (records : List ApiKeyRecord)

structure RecordReply where
  statusCode : Nat
  message : String
  data : RecordData

namespace RecordOperation

/-- The roles of the gate; the detail route has none. -/
def roles : RecordOperation → Option (List UserRole)
  | .settlementDetail _ => none
  | .disputeSettlement _ _ _ => some [.admin, .manager]
  | _ => some [.admin, .superAdmin]

def admits (operation : RecordOperation) (caller : Caller) : Bool :=
  operation.roles.all (·.contains caller.role)

def handler [StellarNetwork] (caller : Caller) : RecordOperation → TelemetryM RecordReply
  | .settlementDetail id => do
      let payment ← backendProgram (getPaymentByIdService id)
      return ⟨200, "Settlement retrieved successfully", .settlement payment⟩
  | .updatePaymentStatus id status stellarTxHash => do
      let payment ← backendProgram (updatePaymentStatusService id status stellarTxHash)
      return ⟨200, "Payment status updated successfully", .settlement payment⟩
  | .disputeSettlement id reason notes => do
      let payment ← backendProgram (disputeSettlementService id reason notes)
      return ⟨200, "Settlement disputed successfully", .settlement payment⟩
  | .listApiKeys organizationId => do
      let records ← listApiKeysController organizationId
      return ⟨200, "API keys retrieved", .apiKeys records⟩
  | .revokeApiKey apiKeyId => do
      let _ ← revokeApiKeyController apiKeyId
      return ⟨200, "API key revoked successfully", .null⟩
  | .listCompanyApiKeys => do
      let records ← Company.listApiKeysController caller
      return ⟨200, "API keys retrieved", .apiKeys records⟩
  | .revokeCompanyApiKey apiKeyId => do
      let _ ← Company.revokeApiKeyController caller apiKeyId
      return ⟨200, "API key revoked successfully", .null⟩

def program [StellarNetwork] (caller : Caller) (operation : RecordOperation) :
    TelemetryM RecordReply :=
  if operation.admits caller then operation.handler caller
  else throw (appError 403 "Forbidden: insufficient role" "ERR_PERMISSION_DENIED")

/-- The record, or the organisation, that an admitted request comes to act on without
comparing organisations. -/
def reaches (caller : Caller) (operation : RecordOperation) : Option ObjectId :=
  if operation.admits caller then
    match operation with
    | .settlementDetail id | .updatePaymentStatus id _ _ | .disputeSettlement id _ _
    | .revokeApiKey id => ObjectId.cast? id
    | .listApiKeys organizationId => (ObjectId.cast? organizationId).filter fun id =>
        ObjectId.cast? caller.organizationId ≠ some id
    | .listCompanyApiKeys | .revokeCompanyApiKey _ => none
  else none

end RecordOperation

/-- A record of `organizationId` belongs to the caller's organisation. -/
def Caller.owns (caller : Caller) (organizationId : ObjectId) : Bool :=
  ObjectId.cast? caller.organizationId = some organizationId

section Isolation

/-- The payments and the API keys of other organisations. -/
def foreignRecords (caller : Caller) (store : TelemetryStore) : List Payment × List ApiKey :=
  (store.1.payments.docs.filter fun payment => !caller.owns payment.organizationId,
    store.2.apiKeys.docs.filter fun key => !caller.owns key.organizationId)

def ownRecords (caller : Caller) (store : TelemetryStore) : List Payment × List ApiKey :=
  (store.1.payments.docs.filter fun payment => caller.owns payment.organizationId,
    store.2.apiKeys.docs.filter fun key => caller.owns key.organizationId)

/-- The stores differ only in payments and API keys of other organisations. Either may
have some that the other has not. -/
structure DifferInForeignRecords (caller : Caller) (first second : TelemetryStore) : Prop where
  backend : second.1 = { first.1 with payments := second.1.payments }
  state : second.2 = { first.2 with apiKeys := second.2.apiKeys }
  own : ownRecords caller first = ownRecords caller second

/-- Run by itself, the request keeps every foreign payment and API key as it is, and its
outcome does not depend on them. -/
structure IsolatesRecords [StellarNetwork] (caller : Caller) (operation : RecordOperation) :
    Prop where
  keepsPayments : ∀ env store payment, payment ∈ store.1.payments.docs →
    caller.owns payment.organizationId = false →
      payment ∈ ((operation.program caller).run telemetryWorld env store).1.1.payments.docs
  keepsApiKeys : ∀ env store key, key ∈ store.2.apiKeys.docs →
    caller.owns key.organizationId = false →
      key ∈ ((operation.program caller).run telemetryWorld env store).1.2.apiKeys.docs
  hides : ∀ env store store', DifferInForeignRecords caller store store' →
    ((operation.program caller).run telemetryWorld env store).2.1 =
      ((operation.program caller).run telemetryWorld env store').2.1

/-- Both runs are at stores that differ only in foreign records, and those are as they
were at the start. -/
structure RecordsUntouched (caller : Caller) (start start' store store' : TelemetryStore) :
    Prop where
  differ : DifferInForeignRecords caller store store'
  left : foreignRecords caller store = foreignRecords caller start
  right : foreignRecords caller store' = foreignRecords caller start'

variable {caller : Caller} {start start' store store' : TelemetryStore} {α : Type}

theorem RecordsUntouched.refl (h : DifferInForeignRecords caller start start') :
    RecordsUntouched caller start start' start start' :=
  ⟨h, rfl, rfl⟩

/-- The request does the same in both runs. -/
abbrev AlikeRecords (caller : Caller) (start start' : TelemetryStore) (α : Type)
    (p : TelemetryM α) : Prop :=
  Program.Coupled (W := telemetryWorld) (RecordsUntouched caller start start') (· = ·) p p

/-- A backend call that fails in every store, and what would have followed it. -/
theorem alikeRecords_refused {request : BackendCall} (f : request.Answer → BackendM α)
    (hRefused : ∀ decision : Decision, ∃ error, ∀ store,
      perform decision store request = (store, .error error)) :
    AlikeRecords caller start start' α (backendProgram (Program.await request >>= f)) := by
  rw [backendProgram, Program.lift_bind, Program.lift_await]
  refine Program.Coupled.bind (V := fun _ _ => False) (.await fun env s t hStores => ?_)
    fun _ _ hNever => hNever.elim
  obtain ⟨error, hPerform⟩ := hRefused env.1
  change RecordsUntouched caller start start' ((perform env.1 s.1 request).1, s.2)
    ((perform env.1 t.1 request).1, t.2) ∧
      Matching _ (perform env.1 s.1 request).2 (perform env.1 t.1 request).2
  rw [hPerform, hPerform]
  exact ⟨hStores, rfl⟩

theorem paymentFind_refused {id : String} (hCast : ObjectId.cast? id = none)
    (decision : Decision) : ∃ error, ∀ store,
      perform decision store (.paymentFindById id) = (store, .error error) := by
  unfold perform
  cases decision.fault with
  | none => exact ⟨.castError id, fun store => by simp [execute, castingId, hCast]⟩
  | some fault =>
      refine ⟨fault.error, fun store => ?_⟩
      cases fault <;> simp [execute, castingId, hCast, recover, Fault.error]

/-- A telemetry call is coupled with itself if it is wherever it takes effect. -/
theorem coupled_call (request : TelemetryCall) {R : TelemetryStore → TelemetryStore → Prop}
    {V : request.Answer → request.Answer → Prop}
    (hExecute : ∀ decision store store', R store store' →
      R (executeTelemetry decision store request).1 (executeTelemetry decision store' request).1 ∧
        Matching V (executeTelemetry decision store request).2
          (executeTelemetry decision store' request).2) :
    Program.Coupled (W := telemetryWorld) R V (call request) (call request) := by
  refine Program.Coupled.await fun env s t hStores => ?_
  obtain ⟨hAfter, hAnswers⟩ := hExecute env.2 s t hStores
  change R (performTelemetry env.2 s request).1 (performTelemetry env.2 t request).1 ∧
    Matching V (performTelemetry env.2 s request).2 (performTelemetry env.2 t request).2
  unfold performTelemetry
  split
  · exact ⟨hAfter, hAnswers⟩
  · exact ⟨hStores, rfl⟩
  · exact ⟨hAfter, rfl⟩

/-- No foreign key of the store has the identifier. -/
def NoForeignKey (caller : Caller) (store : TelemetryStore) (id : ObjectId) : Prop :=
  ∀ key ∈ (foreignRecords caller store).2, key.id ≠ id

/-- The identifier of an own key is that of no foreign one. -/
theorem noForeignKey_of_own {key : ApiKey} (hKey : key ∈ store.2.apiKeys.docs)
    (hOwn : caller.owns key.organizationId = true) : NoForeignKey caller store key.id := by
  intro other hOther hId
  obtain ⟨hMem, hForeign⟩ := List.mem_filter.mp hOther
  have hSame := store.2.apiKeys.get?_of_mem hMem
  rw [hId, store.2.apiKeys.get?_of_mem hKey] at hSame
  obtain rfl := Option.some.inj hSame
  rw [hOwn] at hForeign
  cases hForeign

/-- The keys of an organisation are among the caller's, or there are none. -/
theorem filter_ownRecords {organizationId : ObjectId} (hOwns : caller.owns organizationId = true)
    (store : TelemetryStore) :
    (store.2.apiKeys.docs.filter fun key => key.organizationId = organizationId && key.isActive) =
      (ownRecords caller store).2.filter fun key =>
        key.organizationId = organizationId && key.isActive := by
  rw [ownRecords, List.filter_filter]
  apply List.filter_congr
  intro key _
  by_cases hOrganization : key.organizationId = organizationId
  · simp [hOrganization, hOwns]
  · simp [hOrganization]

/-- Own keys are listed alike, and none of them has the identifier of a foreign one. -/
theorem coupled_apiKeyFind {organizationId : String}
    (hOwns : ∀ id, ObjectId.cast? organizationId = some id → caller.owns id = true) :
    Program.Coupled (W := telemetryWorld) (RecordsUntouched caller start start')
      (fun first second => first = second ∧ ∀ key ∈ first,
        NoForeignKey caller start key.id ∧ NoForeignKey caller start' key.id)
      (call (.apiKeyFind organizationId)) (call (.apiKeyFind organizationId)) := by
  refine coupled_call _ fun decision s t hStores => ?_
  simp only [executeTelemetry, castingId]
  cases hCast : ObjectId.cast? organizationId with
  | none => exact ⟨hStores, rfl⟩
  | some id =>
      refine ⟨hStores, ?_, fun key hKey => ?_⟩
      · rw [filter_ownRecords (hOwns id hCast) s, filter_ownRecords (hOwns id hCast) t,
          hStores.differ.own]
      · have hMem := (List.mem_insertionSort _).mp hKey
        have hOwn : caller.owns key.organizationId = true := by
          obtain ⟨-, hOrganization⟩ := List.mem_filter.mp hMem
          rw [Bool.and_eq_true, decide_eq_true_eq] at hOrganization
          rw [hOrganization.1]
          exact hOwns id hCast
        have hLeft := noForeignKey_of_own (List.mem_of_mem_filter hMem) hOwn
        rw [filter_ownRecords (hOwns id hCast) s, hStores.differ.own,
          ← filter_ownRecords (hOwns id hCast) t] at hMem
        have hRight := noForeignKey_of_own (List.mem_of_mem_filter hMem) hOwn
        unfold NoForeignKey at hLeft hRight ⊢
        rw [hStores.left] at hLeft
        rw [hStores.right] at hRight
        exact ⟨hLeft, hRight⟩

/-- The store once a key has been revoked. -/
theorem deactivated_id (key : ApiKey) : { key with isActive := false }.id = key.id := rfl

def withoutKey (store : TelemetryStore) (id : ObjectId) : TelemetryStore :=
  (store.1, { store.2 with
    apiKeys := store.2.apiKeys.modify id (fun key => { key with isActive := false }) deactivated_id })

theorem ownRecords_withoutKey (caller : Caller) (store : TelemetryStore) (id : ObjectId) :
    ownRecords caller (withoutKey store id) = ((ownRecords caller store).1,
      (ownRecords caller store).2.map fun key =>
        if key.id = id then { key with isActive := false } else key) := by
  refine Prod.ext rfl ?_
  simp only [ownRecords, withoutKey, Collection.modify, List.filter_map]
  refine congrArg (List.map _) (List.filter_congr fun key _ => ?_)
  by_cases hId : key.id = id <;> simp [hId]

/-- The revocation of a key that is not foreign leaves the foreign ones alone. -/
theorem foreignRecords_withoutKey {id : ObjectId} (h : NoForeignKey caller store id) :
    foreignRecords caller (withoutKey store id) = foreignRecords caller store := by
  refine Prod.ext rfl ?_
  simp only [foreignRecords, withoutKey, Collection.modify, List.filter_map]
  have hFilter : (store.2.apiKeys.docs.filter
      ((fun key => !caller.owns key.organizationId) ∘ fun key : ApiKey =>
        if key.id = id then { key with isActive := false } else key)) =
      (foreignRecords caller store).2 := by
    refine List.filter_congr fun key _ => ?_
    by_cases hId : key.id = id <;> simp [hId]
  rw [hFilter]
  refine (List.map_congr_left fun key hKey => if_neg (h key hKey)).trans (List.map_id _)

/-- A key that is not foreign is found in both runs or in neither. -/
theorem get?_of_noForeignKey {id : ObjectId} {key : ApiKey}
    (hOwn : ownRecords caller store = ownRecords caller store')
    (hForeign : NoForeignKey caller store id) (h : store.2.apiKeys.get? id = some key) :
    store'.2.apiKeys.get? id = some key := by
  obtain ⟨hMem, rfl⟩ := store.2.apiKeys.get?_eq_some_iff.mp h
  have hOwns : caller.owns key.organizationId = true := by
    by_contra hNot
    refine hForeign key (List.mem_filter.mpr ⟨hMem, ?_⟩) rfl
    rw [Bool.not_eq_true] at hNot
    rw [hNot, Bool.not_false]
  have hList : key ∈ (ownRecords caller store').2 := by
    rw [← hOwn]
    exact List.mem_filter.mpr ⟨hMem, hOwns⟩
  exact store'.2.apiKeys.get?_of_mem (List.mem_of_mem_filter hList)

theorem coupled_apiKeyRevoke {apiKeyId : String} (h : ∀ id, ObjectId.cast? apiKeyId = some id →
      NoForeignKey caller start id ∧ NoForeignKey caller start' id) :
    AlikeRecords caller start start' _ (call (.apiKeyRevoke apiKeyId)) := by
  refine coupled_call _ fun decision s t hStores => ?_
  simp only [executeTelemetry, castingId]
  cases hCast : ObjectId.cast? apiKeyId with
  | none => exact ⟨hStores, rfl⟩
  | some id =>
      have hLeft : NoForeignKey caller s id := by
        unfold NoForeignKey
        rw [hStores.left]
        exact (h id hCast).1
      have hRight : NoForeignKey caller t id := by
        unfold NoForeignKey
        rw [hStores.right]
        exact (h id hCast).2
      dsimp only
      cases hFound : s.2.apiKeys.get? id with
      | none =>
          have hNone : t.2.apiKeys.get? id = none := by
            cases hOther : t.2.apiKeys.get? id with
            | none => rfl
            | some key =>
                rw [get?_of_noForeignKey hStores.differ.own.symm hRight hOther] at hFound
                cases hFound
          rw [hNone]
          exact ⟨hStores, rfl⟩
      | some key =>
          rw [get?_of_noForeignKey hStores.differ.own hLeft hFound]
          refine ⟨⟨⟨hStores.differ.backend, ?_, ?_⟩, ?_, ?_⟩, rfl⟩
          · rw [hStores.differ.state]
          · exact (ownRecords_withoutKey caller s id).trans
              (hStores.differ.own ▸ (ownRecords_withoutKey caller t id).symm)
          · exact (foreignRecords_withoutKey hLeft).trans hStores.left
          · exact (foreignRecords_withoutKey hRight).trans hStores.right

theorem alikeRecords_listApiKeys {organizationId : String}
    (hOwns : ∀ id, ObjectId.cast? organizationId = some id → caller.owns id = true) :
    AlikeRecords caller start start' _ (listApiKeys organizationId) := by
  refine (coupled_apiKeyFind hOwns).bind fun first second hSame => ?_
  rw [hSame.1]
  exact Program.Coupled.pure rfl

theorem alikeRecords_revokeApiKey {apiKeyId : String} (h : ∀ id, ObjectId.cast? apiKeyId = some id →
      NoForeignKey caller start id ∧ NoForeignKey caller start' id) :
    AlikeRecords caller start start' _ (revokeApiKey apiKeyId) := by
  refine (coupled_apiKeyRevoke h).bind fun first second hSame => ?_
  rw [hSame]
  split
  · exact Program.Coupled.throw _
  · exact Program.Coupled.pure rfl

/-- A key that is found among the caller's is revoked, in both runs or in neither. -/
theorem alikeRecords_revokeCompanyApiKey (apiKeyId : String) :
    AlikeRecords caller start start' _ (Company.revokeApiKeyController caller apiKeyId) := by
  have hOwns (id : ObjectId) (hCast : ObjectId.cast? caller.organizationId = some id) :
      caller.owns id = true := decide_eq_true hCast
  unfold Company.revokeApiKeyController
  split
  · exact Program.Coupled.throw _
  · rw [listApiKeys, bind_assoc]
    refine (coupled_apiKeyFind hOwns).bind fun first second hFound => ?_
    obtain ⟨rfl, hForeign⟩ := hFound
    rw [pure_bind]
    cases hKey : (first.map (·.record)).find? fun record => record.id.toString = apiKeyId with
    | none => exact Program.Coupled.throw _
    | some record =>
        obtain ⟨key, hMem, rfl⟩ := List.mem_map.mp (List.mem_of_find?_eq_some hKey)
        have hText : key.record.id.toString = apiKeyId := by simpa using List.find?_some hKey
        refine alikeRecords_revokeApiKey fun id hCast => ?_
        rw [← hText, ObjectId.cast?_toString] at hCast
        obtain rfl : key.id = id := Option.some.inj hCast
        exact hForeign key hMem

section Requests

variable [StellarNetwork] {operation : RecordOperation}

/-- Requests that come to act on nothing unchecked. -/
theorem alikeRecords_program (hNone : operation.reaches caller = none) :
    AlikeRecords caller start start' _ (operation.program caller) := by
  unfold RecordOperation.program
  split
  · rename_i hAdmits
    unfold RecordOperation.reaches at hNone
    rw [if_pos hAdmits] at hNone
    have hSettlement {β : Type} {id : String} {f : Option Payment → BackendM β}
        (hCast : ObjectId.cast? id = none) (reply : β → RecordReply) :
        AlikeRecords caller start start' _ (do
          let payment ← backendProgram (getPaymentById id >>= f)
          return reply payment) :=
      (alikeRecords_refused f (paymentFind_refused hCast)).bind fun _ _ hSame =>
        Program.Coupled.pure (congrArg reply hSame)
    cases operation with
    | settlementDetail id => exact hSettlement hNone _
    | updatePaymentStatus id status stellarTxHash => exact hSettlement hNone _
    | disputeSettlement id reason notes => exact hSettlement hNone _
    | listApiKeys organizationId =>
        have hOwns (id : ObjectId) (hCast : ObjectId.cast? organizationId = some id) :
            caller.owns id = true := by
          have hFilter := Option.filter_eq_none_iff.mp hNone id hCast
          rw [decide_eq_true_eq, not_not] at hFilter
          exact decide_eq_true hFilter
        refine Program.Coupled.bind (V := (· = ·)) ?_ fun _ _ hSame =>
          Program.Coupled.pure (hSame ▸ rfl)
        unfold listApiKeysController
        split
        · exact Program.Coupled.throw _
        · exact alikeRecords_listApiKeys hOwns
    | revokeApiKey apiKeyId =>
        refine Program.Coupled.bind (V := (· = ·)) ?_ fun _ _ _ => Program.Coupled.pure rfl
        unfold revokeApiKeyController
        split
        · exact Program.Coupled.throw _
        · refine alikeRecords_revokeApiKey fun id hCast => ?_
          cases hCast.symm.trans hNone
    | listCompanyApiKeys =>
        refine Program.Coupled.bind (V := (· = ·)) ?_ fun _ _ hSame =>
          Program.Coupled.pure (hSame ▸ rfl)
        unfold Company.listApiKeysController
        split
        · exact Program.Coupled.throw _
        · exact alikeRecords_listApiKeys fun id hCast => decide_eq_true hCast
    | revokeCompanyApiKey apiKeyId =>
        exact (alikeRecords_revokeCompanyApiKey apiKeyId).bind fun _ _ _ =>
          Program.Coupled.pure rfl
  · exact Program.Coupled.throw _

/-- What is done alike in every two runs touches no foreign record. -/
theorem isolatesRecords_of_reaches_none (hNone : operation.reaches caller = none) :
    IsolatesRecords caller operation := by
  have hAlike (env : Nat → telemetryWorld.Env) {store store' : TelemetryStore}
      (h : DifferInForeignRecords caller store store') :=
    (alikeRecords_program hNone : AlikeRecords caller store store' _ (operation.program caller))
      env store store' (.refl h)
  have hSame (store : TelemetryStore) : DifferInForeignRecords caller store store := ⟨rfl, rfl, rfl⟩
  refine ⟨fun env store payment hPayment hForeign => ?_, fun env store key hKey hForeign => ?_,
    fun env store store' h => matching_eq.mp (hAlike env h).2.1⟩
  · have hKept := (hAlike env (hSame store)).1.left
    have hMem : payment ∈ (foreignRecords caller store).1 :=
      List.mem_filter.mpr ⟨hPayment, by rw [hForeign, Bool.not_false]⟩
    rw [← hKept] at hMem
    exact List.mem_of_mem_filter hMem
  · have hKept := (hAlike env (hSame store)).1.left
    have hMem : key ∈ (foreignRecords caller store).2 :=
      List.mem_filter.mpr ⟨hKey, by rw [hForeign, Bool.not_false]⟩
    rw [← hKept] at hMem
    exact List.mem_of_mem_filter hMem

/-- An organisation that is not the caller's. -/
def foreignOrganization (caller : Caller) : ObjectId :=
  if caller.owns (.repeated 0) then .repeated 1 else .repeated 0

omit [StellarNetwork] in
theorem owns_foreignOrganization (caller : Caller) :
    caller.owns (foreignOrganization caller) = false := by
  unfold foreignOrganization
  split
  · rename_i hOwns
    refine decide_eq_false fun hOther => ?_
    have hSame := (of_decide_eq_true hOwns).symm.trans hOther
    exact absurd (Option.some.inj hSame) (by decide)
  · rename_i hForeign
    exact Bool.eq_false_of_not_eq_true hForeign

def foreignPayment (caller : Caller) (id : ObjectId) : Payment :=
  { samplePayment with id, organizationId := foreignOrganization caller }

def sampleApiKey (id organizationId : ObjectId) : ApiKey where
  id := id
  name := "gateway"
  keyHash := "hash"
  organizationId := organizationId
  shipmentId := none
  isActive := true
  lastUsedAt := none
  createdAt := ⟨0⟩

def holdingPayment (payment : Payment) : TelemetryStore :=
  ({ payments := ⟨[payment], by simp⟩ }, {})

def holdingKey (key : ApiKey) : TelemetryStore :=
  ({}, { apiKeys := ⟨[key], by simp⟩ })

/-- Nothing fails, one millisecond after the sample payment was last written. -/
abbrev steadyTelemetry : Nat → Decision × TelemetryDecision :=
  fun n => (steady n, {})

omit [StellarNetwork] in
/-- The run of a request that a settlement service answers. -/
theorem run_settlement (p : BackendM AugmentedPayment) (reply : AugmentedPayment → RecordReply)
    (env : Nat → Decision × TelemetryDecision) (store : TelemetryStore) :
    ((backendProgram p >>= fun payment => pure (reply payment)).run telemetryWorld env store).1 =
        ((p.run backend (fun n => (env n).1) store.1).1, store.2) ∧
      ((backendProgram p >>= fun payment => pure (reply payment)).run telemetryWorld env store).2.1 =
        (p.run backend (fun n => (env n).1) store.1).2.1.map reply := by
  obtain ⟨used, hRun⟩ := run_backendProgram p env store
  rw [Program.run_bind, hRun]
  cases (p.run backend (fun n => (env n).1) store.1).2.1 <;> exact ⟨rfl, rfl⟩

variable {id : String} {key : ObjectId} {payment : Payment}

omit [StellarNetwork] in
theorem livePayment_holdingPayment (hId : payment.id = key) (hLive : payment.deletedAt = none) :
    (holdingPayment payment).1.livePayment key = some payment := by
  simp [holdingPayment, Store.livePayment, Store.payment, Collection.get?, hId, hLive,
    Option.filter_some]

omit [StellarNetwork] in
/-- The lookup that every settlement service begins with. -/
theorem run_getPaymentById (payment : Payment) (hCast : ObjectId.cast? id = some key)
    (hId : payment.id = key) (hLive : payment.deletedAt = none) :
    (getPaymentById id).run backend steady (holdingPayment payment).1 =
      ((holdingPayment payment).1, .ok (some payment), steady) := by
  rw [getPaymentById, Program.run_await]
  simp only [perform, execute, castingId, hCast, livePayment_holdingPayment hId hLive]

/-- The detail of a foreign settlement is shown. -/
theorem settlementDetail_reveals (hCast : ObjectId.cast? id = some key) :
    ¬IsolatesRecords caller (.settlementDetail id) := by
  intro isolates
  let first := foreignPayment caller key
  let second : Payment := { first with amount := .digit 6 }
  have hDiffer : DifferInForeignRecords caller (holdingPayment first) (holdingPayment second) := by
    refine ⟨rfl, rfl, ?_⟩
    have hForeign := owns_foreignOrganization caller
    simp [ownRecords, holdingPayment, first, second, foreignPayment, hForeign]
  have hSame := isolates.hides steadyTelemetry _ _ hDiffer
  have hRun (payment : Payment) (hId : payment.id = key) (hLive : payment.deletedAt = none) :
      (((RecordOperation.settlementDetail id).program caller).run telemetryWorld steadyTelemetry
        (holdingPayment payment)).2.1 =
          .ok ⟨200, "Settlement retrieved successfully", .settlement (augmentPayment payment)⟩ := by
    refine (run_settlement _ _ _ _).2.trans ?_
    rw [getPaymentByIdService, Program.run_bind_ok (run_getPaymentById payment hCast hId hLive)]
    rfl
  rw [hRun first rfl rfl, hRun second rfl rfl] at hSame
  injection hSame with hReply
  injection hReply with _ _ hData
  injection hData with hPayment
  have hAmount : samplePayment.amount = .digit 6 := congrArg (·.toPayment.amount) hPayment
  exact absurd hAmount (by decide)

/-- A service that rewrites the foreign settlement. -/
theorem not_isolatesRecords_of_rewritten (key : ObjectId) {p : BackendM AugmentedPayment}
    {reply : AugmentedPayment → RecordReply}
    (hProgram : operation.program caller = backendProgram p >>= fun payment => pure (reply payment))
    (hRewritten : ∀ payment ∈ (p.run backend steady
      (holdingPayment (foreignPayment caller key)).1).1.payments.docs, payment.updatedAt = ⟨1⟩) :
    ¬IsolatesRecords caller operation := by
  intro isolates
  have hKept := isolates.keepsPayments steadyTelemetry (holdingPayment (foreignPayment caller key))
    (foreignPayment caller key) (List.mem_singleton_self _) (owns_foreignOrganization caller)
  rw [hProgram, (run_settlement p reply _ _).1] at hKept
  have hTime : (foreignPayment caller key).updatedAt = ⟨1⟩ := hRewritten _ hKept
  exact absurd (congrArg Date.ms hTime) Int.zero_ne_one

/-- After a rewriting update, the announcement writes no payment. -/
theorem rewritten_settlement (caller : Caller) (update : PaymentUpdate)
    (hCast : ObjectId.cast? id = some key)
    (hTime : ∀ payment, (update.apply ⟨1⟩ payment).updatedAt = ⟨1⟩) (oldStatus : PaymentStatus)
    {f : Option Payment → BackendM AugmentedPayment}
    (hf : ∀ updated, f (some updated) = announceSettlement oldStatus updated) :
    ∀ stored ∈ ((request (.paymentFindByIdAndUpdate id update) >>= f).run backend steady
      (holdingPayment (foreignPayment caller key)).1).1.payments.docs, stored.updatedAt = ⟨1⟩ := by
  let payment := foreignPayment caller key
  have hRun : (request (.paymentFindByIdAndUpdate id update)).run backend steady
      (holdingPayment payment).1 = ((holdingPayment payment).1.modifyPayment key
        (update.apply ⟨1⟩) (update.apply_id _), .ok (some (update.apply ⟨1⟩ payment)), steady) := by
    have hLive : (holdingPayment payment).1.livePayment key = some payment :=
      livePayment_holdingPayment rfl rfl
    rw [Program.run_await]
    simp only [perform, execute, castingId, hCast, hLive]
  have hAside : (announceSettlement oldStatus (update.apply ⟨1⟩ payment)).Uses
      fun call => call.writesPayments = false :=
    announceSettlement_holds (Program.Uses.compositional _) fun call hCall =>
      .await (BackendCall.writesPayments_of_incidental hCall)
  rw [Program.run_bind_ok hRun, hf]
  have hPayments := hAside.run Store.payments (W := backend)
    (fun _ _ _ hCall => perform_payments hCall) steady
    ((holdingPayment payment).1.modifyPayment key (update.apply ⟨1⟩) (update.apply_id _))
  rw [hPayments]
  intro stored hStored
  obtain ⟨old, hOld, rfl⟩ := List.mem_map.mp hStored
  obtain rfl : old = payment := List.mem_singleton.mp hOld
  have hId : payment.id = key := rfl
  rw [if_pos hId]
  exact hTime _

/-- The request comes to its handler. -/
theorem program_of_reaches (hReaches : operation.reaches caller = some key) :
    operation.program caller = operation.handler caller := by
  unfold RecordOperation.reaches at hReaches
  unfold RecordOperation.program
  split at hReaches
  · rename_i hAdmits
    rw [if_pos hAdmits]
  · cases hReaches

/-- The keys of any organisation are listed. -/
theorem listApiKeys_reveals {organizationId : String} (hProgram :
      (RecordOperation.listApiKeys organizationId).program caller =
        (RecordOperation.listApiKeys organizationId).handler caller)
    (hOther : (ObjectId.cast? organizationId).filter (fun id =>
      ObjectId.cast? caller.organizationId ≠ some id) = some key) :
    ¬IsolatesRecords caller (.listApiKeys organizationId) := by
  intro isolates
  obtain ⟨hCast, hForeign⟩ := Option.filter_eq_some_iff.mp hOther
  have hOwns : caller.owns key = false := decide_eq_false (of_decide_eq_true hForeign)
  have hText : organizationId ≠ "" := by
    rintro rfl
    cases hCast
  have hDiffer : DifferInForeignRecords caller (holdingKey (sampleApiKey key key)) ({}, {}) := by
    refine ⟨rfl, rfl, ?_⟩
    simp [ownRecords, holdingKey, sampleApiKey, hOwns, Collection.empty]
  have hSame := isolates.hides steadyTelemetry _ _ hDiffer
  have hRun (store : TelemetryStore) : (((RecordOperation.listApiKeys organizationId).program
      caller).run telemetryWorld steadyTelemetry store).2.1 =
        .ok ⟨200, "API keys retrieved", .apiKeys (((store.2.apiKeys.docs.filter fun stored =>
          stored.organizationId = key && stored.isActive).insertionSort fun first second =>
            second.createdAt.ms ≤ first.createdAt.ms).map (·.record))⟩ := by
    have hFind : (call (.apiKeyFind organizationId)).run telemetryWorld steadyTelemetry store =
        (store, .ok ((store.2.apiKeys.docs.filter fun stored =>
          stored.organizationId = key && stored.isActive).insertionSort fun first second =>
            second.createdAt.ms ≤ first.createdAt.ms), steadyTelemetry) := by
      rw [run_call]
      simp [performTelemetry, executeTelemetry, castingId, hCast, steadyTelemetry]
    rw [hProgram]
    simp only [RecordOperation.handler, listApiKeysController, if_neg hText, listApiKeys,
      bind_assoc]
    rw [Program.run_bind_ok hFind]
    rfl
  rw [hRun, hRun] at hSame
  injection hSame with hReply
  injection hReply with _ _ hData
  injection hData with hRecords
  have hLength := congrArg List.length hRecords
  simp [holdingKey, sampleApiKey, Collection.empty] at hLength

/-- A foreign key is revoked. -/
theorem revokeApiKey_rewrites {apiKeyId : String} (hProgram :
      (RecordOperation.revokeApiKey apiKeyId).program caller =
        (RecordOperation.revokeApiKey apiKeyId).handler caller)
    (hCast : ObjectId.cast? apiKeyId = some key) :
    ¬IsolatesRecords caller (.revokeApiKey apiKeyId) := by
  intro isolates
  let foreign := sampleApiKey key (foreignOrganization caller)
  have hText : apiKeyId ≠ "" := by
    rintro rfl
    cases hCast
  have hKept := isolates.keepsApiKeys steadyTelemetry (holdingKey foreign) foreign
    (List.mem_singleton_self _) (owns_foreignOrganization caller)
  have hRun : (((RecordOperation.revokeApiKey apiKeyId).program caller).run telemetryWorld
      steadyTelemetry (holdingKey foreign)).1 = withoutKey (holdingKey foreign) key := by
    have hRevoke : (call (.apiKeyRevoke apiKeyId)).run telemetryWorld steadyTelemetry
        (holdingKey foreign) = (withoutKey (holdingKey foreign) key, .ok 1, steadyTelemetry) := by
      rw [run_call]
      simp [performTelemetry, executeTelemetry, castingId, hCast, steadyTelemetry, withoutKey,
        holdingKey, Collection.get?, foreign, sampleApiKey, TelemetryCall.fallible]
    rw [hProgram]
    simp only [RecordOperation.handler, revokeApiKeyController, if_neg hText, revokeApiKey,
      bind_assoc]
    rw [Program.run_bind_ok hRevoke]
    rfl
  rw [hRun] at hKept
  obtain ⟨old, hOld, hSame⟩ := List.mem_map.mp hKept
  obtain rfl := List.mem_singleton.mp hOld
  have hActive := congrArg ApiKey.isActive hSame
  simp [foreign, sampleApiKey] at hActive

/-- Every request that comes to act on an unchecked record reaches foreign ones. -/
theorem not_isolatesRecords_of_reaches (hReaches : operation.reaches caller = some key) :
    ¬IsolatesRecords caller operation := by
  have hProgram := program_of_reaches hReaches
  unfold RecordOperation.reaches at hReaches
  split at hReaches
  case isFalse => cases hReaches
  case isTrue hAdmits =>
  cases operation with
  | settlementDetail id => exact settlementDetail_reveals hReaches
  | updatePaymentStatus id status stellarTxHash =>
      refine not_isolatesRecords_of_rewritten key hProgram ?_
      have hFind := run_getPaymentById (foreignPayment caller key) hReaches rfl rfl
      rw [updatePaymentStatusService, Program.run_bind_ok hFind]
      exact rewritten_settlement caller (.setStatus status stellarTxHash) hReaches (fun _ => rfl)
        (foreignPayment caller key).status fun _ => rfl
  | disputeSettlement id reason notes =>
      refine not_isolatesRecords_of_rewritten key hProgram ?_
      have hFind := run_getPaymentById (foreignPayment caller key) hReaches rfl rfl
      have hNow : currentDate.run backend steady (holdingPayment (foreignPayment caller key)).1 =
          ((holdingPayment (foreignPayment caller key)).1, .ok ⟨1⟩, steady) := rfl
      rw [disputeSettlementService, Program.run_bind_ok hFind]
      dsimp only
      rw [disputePayment, bind_assoc, Program.run_bind_ok hNow]
      exact rewritten_settlement caller (.dispute ⟨1⟩ reason notes) hReaches (fun _ => rfl)
        (foreignPayment caller key).status fun _ => rfl
  | listApiKeys organizationId =>
      exact listApiKeys_reveals hProgram hReaches
  | revokeApiKey apiKeyId =>
      exact revokeApiKey_rewrites hProgram hReaches
  | _ => cases hReaches

/-- A request isolates tenants exactly when nothing comes of an unchecked id: it has
none, or it is refused, or the id denotes nothing. -/
theorem isolatesRecords_iff :
    IsolatesRecords caller operation ↔ operation.reaches caller = none := by
  refine ⟨fun isolates => ?_, isolatesRecords_of_reaches_none⟩
  cases hReaches : operation.reaches caller with
  | none => rfl
  | some key => exact absurd isolates (not_isolatesRecords_of_reaches hReaches)

end Requests

end Isolation

def sampleKeyAdmin : Caller :=
  ⟨some "u1", .admin, (ObjectId.repeated 13).toString⟩

/-- An administrator revokes the API key of another organisation. -/
theorem admin_revokes_foreign_apiKey :
    ¬∀ (_ : StellarNetwork) (caller : Caller) (operation : RecordOperation),
      caller.role ≠ .superAdmin → IsolatesRecords caller operation := by
  intro hIsolates
  have hReaches : (RecordOperation.revokeApiKey (ObjectId.repeated 10).toString).reaches
      sampleKeyAdmin = some (.repeated 10) := by
    have hAdmits : (RecordOperation.revokeApiKey (ObjectId.repeated 10).toString).admits
        sampleKeyAdmin = true := by decide
    unfold RecordOperation.reaches
    rw [if_pos hAdmits]
    exact ObjectId.cast?_toString _
  have hRole : sampleKeyAdmin.role ≠ .superAdmin := by decide
  exact @not_isolatesRecords_of_reaches _ ⟨false⟩ _ _ hReaches
    (hIsolates ⟨false⟩ sampleKeyAdmin _ hRole)

end Navin
