import Navin.Payments.TenantRecords
import Navin.Shared.Faults

/-! How API keys come about, and the requests of a key's life: it is created, listed,
presented and revoked. -/
namespace Navin.ApiKeys

open Async

structure CreateApiKeyParams where
  name : String
  organizationId : String
  shipmentId : Option String
  createdBy : Option String
deriving DecidableEq

structure CreateApiKeyResult where
  apiKey : String
  id : String
  name : String
  organizationId : String
  shipmentId : Option String
  createdAt : Date
deriving DecidableEq

/-- The argument of `ApiKeyModel.create`, without the constant `isActive: true`. -/
structure ApiKeyInput where
  name : String
  keyHash : String
  organizationId : String
  shipmentId : Option String
deriving DecidableEq

/-- The calls besides those of the services for existing keys. -/
inductive ApiKeyCall where
  | randomBytes (size : Nat)
  | apiKeyCreate (input : ApiKeyInput)
deriving DecidableEq

@[reducible] def ApiKeyCall.Answer : ApiKeyCall → Type
  | .randomBytes _ => String
  | .apiKeyCreate _ => ApiKey

abbrev KeyCall : Type :=
  (BackendCall ⊕ TelemetryCall) ⊕ ApiKeyCall

abbrev KeyAnswer : KeyCall → Type :=
  Sum.elim (Sum.elim BackendCall.Answer TelemetryCall.Answer) ApiKeyCall.Answer

abbrev KeyM : Type → Type :=
  Program KeyCall KeyAnswer ThrownError

abbrev ask (call : ApiKeyCall) : KeyM call.Answer :=
  Program.await (Sum.inr call : KeyCall)

/-- A program for existing keys. -/
abbrev existing {α : Type} (p : TelemetryM α) : KeyM α :=
  p.lift

section Effects

/-- What the world decides at a call. Bytes are drawn as the text that is made of them. -/
structure KeyDecision where
  existing : Decision × TelemetryDecision
  fault : Option Fault
  freshId : ObjectId
  now : Date
  bytes : String

/-- No two keys share an identifier or a hash. -/
def executeKeys (decision : KeyDecision) (store : TelemetryStore) :
    (call : ApiKeyCall) → TelemetryStore × Except ThrownError call.Answer
  | .randomBytes _ => (store, .ok decision.bytes)
  | .apiKeyCreate input =>
      castingId store input.organizationId fun organizationId =>
        match input.shipmentId.map ObjectId.cast? with
        | some none => (store, .error (.castError (input.shipmentId.getD "")))
        | shipmentId =>
            let key : ApiKey :=
              { id := decision.freshId
                name := input.name
                keyHash := input.keyHash
                organizationId
                shipmentId := shipmentId.join
                isActive := true
                lastUsedAt := none
                createdAt := decision.now }
            if store.2.apiKeys.docs.any (·.keyHash = input.keyHash) then
              (store, .error .duplicateKey)
            else if h : store.2.apiKeys.get? key.id = none then
              ((store.1, { store.2 with apiKeys := store.2.apiKeys.insert key h }), .ok key)
            else (store, .error .duplicateKey)

abbrev keyWorld : World KeyCall KeyAnswer ThrownError where
  Store := TelemetryStore
  Env := KeyDecision
  perform decision store
    | .inl call => telemetryWorld.perform decision.existing store call
    | .inr call => faultedBy decision.fault store (executeKeys decision store call)

end Effects

section Services

variable [Bcrypt]

/-- The key itself is not stored, only its hash. -/
def CreateApiKeyParams.input (params : CreateApiKeyParams) (keyHash : String) : ApiKeyInput where
  name := params.name
  keyHash := keyHash
  organizationId := params.organizationId
  shipmentId := params.shipmentId

def CreateApiKeyParams.audit (params : CreateApiKeyParams) (apiKeyDoc : ApiKey) : KeyM Unit :=
  match truthy params.createdBy with
  | none => return ()
  | some userId => existing (backendProgram (request (.auditLog
      { userId, action := "API_KEY_GENERATED", resourceId := apiKeyDoc.id.toString
        timestamp := apiKeyDoc.createdAt })))

def ApiKey.result (rawApiKey : String) (apiKeyDoc : ApiKey) : CreateApiKeyResult where
  apiKey := rawApiKey
  id := apiKeyDoc.id.toString
  name := apiKeyDoc.name
  organizationId := apiKeyDoc.organizationId.toString
  shipmentId := apiKeyDoc.shipmentId.map (·.toString)
  createdAt := apiKeyDoc.createdAt

def generateApiKey (params : CreateApiKeyParams) : KeyM CreateApiKeyResult := do
  let rawApiKey ← ask (.randomBytes 32)
  let salt ← ask (.randomBytes 16)
  let apiKeyDoc ← ask (.apiKeyCreate (params.input (Bcrypt.hash rawApiKey 10 salt)))
  params.audit apiKeyDoc
  return ApiKey.result rawApiKey apiKeyDoc

/-- `POST /api/auth/api-keys`, with a validated body. -/
def createApiKeyController (caller : Caller) (name organizationId : String)
    (shipmentId : Option String) : KeyM CreateApiKeyResult :=
  if name = "" ∨ organizationId = "" then
    throw (appError 400 "name and organizationId are required" "VALIDATION_ERROR")
  else generateApiKey { name, organizationId, shipmentId, createdBy := caller.userId }

/-- `POST /api/company/api-keys`, with a validated body. -/
def Company.createApiKeyController (caller : Caller) (name : String)
    (shipmentId : Option String) : KeyM CreateApiKeyResult :=
  if caller.organizationId = "" then
    throw (appError 403 "User must belong to an organization to create API keys"
      "ERR_PERMISSION_DENIED")
  else
    generateApiKey
      { name, organizationId := caller.organizationId, shipmentId, createdBy := caller.userId }

end Services

inductive KeyReply where
  | created (result : CreateApiKeyResult)
  | record (reply : RecordReply)
  | authenticated (scope : ApiKeyScope)

/-- The requests, with validated parameters and bodies. -/
inductive KeyRequest where
  | create (caller : Caller) (name organizationId : String) (shipmentId : Option String)
  | createCompany (caller : Caller) (name : String) (shipmentId : Option String)
  | records (caller : Caller) (operation : RecordOperation)
  | authenticate (header : Option String)

def requireRole (roles : List UserRole) (caller : Caller) (handler : KeyM KeyReply) : KeyM KeyReply :=
  if caller.role ∈ roles then handler
  else throw (appError 403 "Forbidden: insufficient role" "ERR_PERMISSION_DENIED")

def KeyRequest.program [Bcrypt] [StellarNetwork] : KeyRequest → KeyM KeyReply
  | .create caller name organizationId shipmentId =>
      requireRole [.admin, .superAdmin] caller do
        let result ← createApiKeyController caller name organizationId shipmentId
        return .created result
  | .createCompany caller name shipmentId =>
      requireRole [.admin, .superAdmin] caller do
        let result ← Company.createApiKeyController caller name shipmentId
        return .created result
  | .records caller operation => do
      let reply ← existing (operation.program caller)
      return .record reply
  | .authenticate header => do
      let scope ← existing (requireApiKey header)
      return .authenticated scope

/-- Any number of requests, none of which has begun. -/
def keyPool [Bcrypt] [StellarNetwork] {ι : Type} (store : TelemetryStore)
    (requests : ι → KeyRequest) : Pool keyWorld ι KeyReply :=
  ⟨store, fun i => (requests i).program⟩

end Navin.ApiKeys
