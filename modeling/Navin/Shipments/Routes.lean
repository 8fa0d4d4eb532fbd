import Navin.Shipments.QueryService

/-! The operations on a shipment id as the router offers them: the role gate,
the checks of the controller, the service, and the reply. -/
namespace Navin

open Async

/-- An authenticated caller of organisation `organizationId`. -/
structure Caller where
  userId : Option String
  role : UserRole
  organizationId : String

def Caller.context (caller : Caller) : AccessContext :=
  ⟨some caller.organizationId, caller.role⟩

inductive ReplyData where
  | null
  | shipment (shipment : Shipment)
  | statusUpdate (result : StatusUpdateResult)
  | attachment (attachment : Attachment)
  | dispute (dispute : Dispute)
  | bulk (result : BulkUpdateResult)
  | eta (payload : EtaPayload)
  | timeline (page : TimelinePage)

structure Reply where
  statusCode : Nat
  message : String
  data : ReplyData

/-- The envelope of an update by id: a missing shipment is a 404 reply. -/
def replyOrNotFound {α : Type} (message : String) (data : α → ReplyData) : Option α → Reply
  | none => ⟨404, "Shipment not found", .null⟩
  | some found => ⟨200, message, data found⟩

def requireRole (roles : List UserRole) (caller : Caller) (handler : BackendM Reply) :
    BackendM Reply :=
  if caller.role ∈ roles then handler
  else throw (appError 403 "Forbidden: insufficient role" "ERR_PERMISSION_DENIED")

def requireFile (file : Option UploadedFile) (handler : UploadedFile → BackendM Reply) :
    BackendM Reply :=
  match file with
  | none => throw (appError 400 "No file uploaded" "ERR_BAD_REQUEST")
  | some file => handler file

structure UploadConstraints where
  mimeTypes : List String
  megabytes : Nat

def documentUploadConstraints : UploadConstraints :=
  ⟨["application/pdf", "image/jpeg", "image/png", "image/webp"], 10⟩

def photoUploadConstraints : UploadConstraints :=
  ⟨["image/jpeg", "image/png", "image/webp", "image/heic", "image/heif"], 5⟩

namespace UploadConstraints

variable (constraints : UploadConstraints)

def accepts (file : UploadedFile) : Bool :=
  constraints.mimeTypes.contains file.mimetype && file.size ≤ constraints.megabytes * 1024 * 1024

def check (mimeError sizeError : ThrownError) (file : UploadedFile) : Option ThrownError :=
  if file.mimetype ∉ constraints.mimeTypes then some mimeError
  else if file.size > constraints.megabytes * 1024 * 1024 then some sizeError
  else none

/-- What the upload filter of the route refuses. -/
def filter : UploadedFile → Option ThrownError :=
  constraints.check (appError 400 "Invalid MIME type" "ERR_INVALID_MIME_TYPE")
    (appError 413 "File too large" "ERR_FILE_TOO_LARGE")

/-- What the controller refuses before it calls the service. -/
def refusal : UploadedFile → Option ThrownError :=
  constraints.check
    (appError 415 ("Invalid MIME type. Allowed: " ++ ", ".intercalate constraints.mimeTypes)
      "ERR_INVALID_MIME_TYPE")
    (appError 413
      ("File too large. Maximum size is " ++ toString constraints.megabytes ++ "MB")
      "ERR_FILE_TOO_LARGE")

/-- Filter and controller refuse the same files, so the controller's own errors
never reach a client. -/
theorem check_eq_none_iff (mimeError sizeError : ThrownError) (file : UploadedFile) :
    constraints.check mimeError sizeError file = none ↔ constraints.accepts file = true := by
  unfold check accepts
  split
  · rename_i h
    simp [h]
  · rename_i h
    simp [not_not.mp h]

end UploadConstraints

def requireUpload (constraints : UploadConstraints) (file : Option UploadedFile)
    (handler : UploadedFile → BackendM Reply) : BackendM Reply :=
  requireFile file fun file =>
    match constraints.refusal file with
    | some error => throw error
    | none => handler file

/-- The operations on a shipment id, with validated parameters and bodies. -/
inductive ShipmentOperation where
  | patch (id : String) (offChainMetadata : Option Value)
  | setStatus (id : String) (status : ShipmentStatus)
  | bulkStatus (shipmentIds : List String) (status : ShipmentStatus)
  | proof (id : String) (file : Option UploadedFile) (recipientSignatureName notes : Option String)
  | document (id : String) (file : Option UploadedFile) (docType : String)
  | photo (id : String) (file : Option UploadedFile) (caption : Option String)
  | dispute (id : String) (file : Option UploadedFile) (type description : String)
  | delete (id : String)
  | eta (id : String)
  | detail (id : String)
  | timeline (id : String) (cursor : Option String) (limit : Nat)

/-- The roles of the gate; the estimate has none. -/
def ShipmentOperation.roles : ShipmentOperation → Option (List UserRole)
  | .eta _ => none
  | .detail _ => some [.superAdmin, .admin, .manager, .viewer]
  | .timeline _ _ _ => some [.admin, .manager, .viewer]
  | _ => some [.admin, .manager]

/-- The upload filters of the document and photo routes. -/
def ShipmentOperation.uploadError : ShipmentOperation → Option ThrownError
  | .document _ file _ => file.bind documentUploadConstraints.filter
  | .photo _ file _ => file.bind photoUploadConstraints.filter
  | _ => none

variable [Sha256] [Locale] [EtaArithmetic]

/-- The controller of an operation. -/
def ShipmentOperation.handler (caller : Caller) : ShipmentOperation → BackendM Reply
  | .patch id offChainMetadata =>
      replyOrNotFound "Shipment updated" .shipment <$> patchShipmentService id offChainMetadata
  | .setStatus id status =>
      replyOrNotFound "Shipment status updated" .statusUpdate <$>
        updateShipmentStatusService id status caller.userId
  | .bulkStatus shipmentIds status =>
      (fun result => ⟨200, "Bulk status update completed", .bulk result⟩) <$>
        bulkUpdateShipmentStatusService shipmentIds status caller.organizationId caller.userId
  | .proof id file recipientSignatureName notes =>
      requireFile file fun file =>
        (fun shipment => ⟨200, "Proof uploaded", .shipment shipment⟩) <$>
          uploadShipmentProofService id file recipientSignatureName notes caller.userId
  | .document id file docType =>
      requireUpload documentUploadConstraints file fun file =>
        (fun document => ⟨201, "Document uploaded", .attachment document⟩) <$>
          uploadShipmentDocumentService id file docType caller.userId
  | .photo id file caption =>
      requireUpload photoUploadConstraints file fun file =>
        (fun photo => ⟨201, "Photo uploaded", .attachment photo⟩) <$>
          uploadShipmentPhotoService id file caption caller.userId
  | .dispute id file type description =>
      (fun dispute => ⟨201, "Dispute created", .dispute dispute⟩) <$>
        createDisputeService id file type description caller.userId
  | .delete id =>
      replyOrNotFound "Shipment deleted successfully" .shipment <$> deleteShipmentService id
  | .eta id => (fun eta => ⟨200, "Shipment ETA retrieved", .eta eta⟩) <$> getShipmentEtaService id
  | .detail id =>
      (fun shipment => ⟨200, "Shipment retrieved", .shipment shipment⟩) <$>
        getShipmentByIdService id caller.context
  | .timeline id cursor limit =>
      (fun page => ⟨200, "Shipment timeline retrieved", .timeline page⟩) <$>
        getShipmentTimelineService id cursor limit caller.context

/-- The route of an operation. -/
def ShipmentOperation.program (caller : Caller) (operation : ShipmentOperation) : BackendM Reply :=
  let filtered := match operation.uploadError with
    | some error => throw error
    | none => operation.handler caller
  match operation.roles with
  | none => filtered
  | some roles => requireRole roles caller filtered

end Navin
