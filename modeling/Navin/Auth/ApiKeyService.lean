import Navin.Auth.Service
import Navin.Shipments.Routes
import Navin.Telemetry.Interface

/-! API keys: how a request is authenticated by one, how they are listed and
revoked, and the two controllers that offer this. -/
namespace Navin

open Async

/-- `.select('-keyHash -__v')`. -/
structure ApiKeyRecord where
  id : ObjectId
  name : String
  organizationId : ObjectId
  shipmentId : Option ObjectId
  isActive : Bool
  lastUsedAt : Option Date
  createdAt : Date
deriving DecidableEq

def ApiKey.record (key : ApiKey) : ApiKeyRecord :=
  { key with }

/-- The key's metadata, as the middleware attaches it to the request. -/
structure ApiKeyScope where
  id : String
  organizationId : String
  shipmentId : Option String
deriving DecidableEq

def ApiKey.scope (key : ApiKey) : ApiKeyScope where
  id := key.id.toString
  organizationId := key.organizationId.toString
  shipmentId := key.shipmentId.map (·.toString)

def revokeApiKey (apiKeyId : String) : TelemetryM Unit := do
  let matchedCount ← call (.apiKeyRevoke apiKeyId)
  if matchedCount = 0 then throw (appError 404 "API key not found" "NOT_FOUND") else return ()

def listApiKeys (organizationId : String) : TelemetryM (List ApiKeyRecord) := do
  let keys ← call (.apiKeyFind organizationId)
  return keys.map (·.record)

section Validation

variable [Bcrypt]

/-- The first key whose hash matches is touched and returned. -/
def matchApiKey (rawApiKey : String) : List ApiKey → TelemetryM (Option ApiKey)
  | [] => return none
  | key :: rest =>
      if Bcrypt.compare rawApiKey key.keyHash then do
        let now ← backendProgram currentDate
        call (.apiKeyTouch key.id now)
        return some key
      else matchApiKey rawApiKey rest

def validateApiKey (rawApiKey : String) : TelemetryM (Option ApiKey) :=
  if rawApiKey = "" then return none
  else do
    let keys ← call .apiKeyFindActive
    matchApiKey rawApiKey keys

def requireApiKey (header : Option String) : TelemetryM ApiKeyScope :=
  match truthy header with
  | none => throw (appError 401 "Missing x-api-key header" "UNAUTHORIZED")
  | some apiKey =>
      let invalid := appError 401 "Invalid API key" "UNAUTHORIZED"
      tryCatch
        (do match ← validateApiKey apiKey with
            | none => throw invalid
            | some key => return key.scope)
        fun
          | .app error => throw (.app error)
          | _ => throw invalid

end Validation

/-- `GET /api/auth/api-keys/:organizationId`. -/
def listApiKeysController (organizationId : String) : TelemetryM (List ApiKeyRecord) :=
  if organizationId = "" then
    throw (appError 400 "organizationId is required" "VALIDATION_ERROR")
  else listApiKeys organizationId

/-- `DELETE /api/auth/api-keys/:apiKeyId`. -/
def revokeApiKeyController (apiKeyId : String) : TelemetryM Unit :=
  if apiKeyId = "" then throw (appError 400 "apiKeyId is required" "VALIDATION_ERROR")
  else revokeApiKey apiKeyId

namespace Company

/-- `GET /api/company/api-keys`. -/
def listApiKeysController (caller : Caller) : TelemetryM (List ApiKeyRecord) :=
  if caller.organizationId = "" then
    throw (appError 403 "User must belong to an organization to list API keys"
      "ERR_PERMISSION_DENIED")
  else listApiKeys caller.organizationId

/-- `DELETE /api/company/api-keys/:apiKeyId`. The key has to be among those of the
caller's organisation. -/
def revokeApiKeyController (caller : Caller) (apiKeyId : String) : TelemetryM Unit :=
  if apiKeyId = "" then throw (appError 400 "apiKeyId is required" "ERR_VALIDATION_FAILED")
  else do
    let keys ← listApiKeys caller.organizationId
    match keys.find? fun key => key.id.toString = apiKeyId with
    | none => throw (appError 404 "API key not found or does not belong to your organization"
        "ERR_NOT_FOUND")
    | some _ => revokeApiKey apiKeyId

end Company

end Navin
