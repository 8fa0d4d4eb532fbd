import Navin.Shipments.StatusCalls

/-! Files attached to a shipment: delivery proofs, dispute evidence, documents
and photos. The file goes to the storage bucket first, under a key of its own;
the shipment is looked at afterwards. -/
namespace Navin

open Async

/-- What a service reads of an uploaded file. The content only goes to storage. -/
structure UploadedFile where
  originalname : String
  mimetype : String
  size : Nat
deriving DecidableEq

/-- `filename.match(/\.([a-zA-Z0-9]+)$/)`, in lower case. -/
def getExtension (filename : String) : String :=
  match filename.toList.reverse.span Char.isAlphanum with
  | (suffix, '.' :: _) =>
      if suffix = [] then "" else "." ++ String.ofList (suffix.reverse.map Char.toLower)
  | _ => ""

example : getExtension "cargo.manifest.PDF" = ".pdf" := by decide

def storageKey (shipmentId folder originalFilename : String) : BackendM String := do
  let uuid ← request .randomUUID
  return "shipments/" ++ shipmentId ++ "/" ++ folder ++ "/" ++ uuid ++ getExtension originalFilename

def generateProofKey (shipmentId originalFilename : String) : BackendM String :=
  storageKey shipmentId "proofs" originalFilename

def generateDocumentKey (shipmentId docType originalFilename : String) : BackendM String :=
  storageKey shipmentId ("documents/" ++ docType) originalFilename

def generatePhotoKey (shipmentId originalFilename : String) : BackendM String :=
  storageKey shipmentId "photos" originalFilename

def generateDisputeEvidenceKey (shipmentId disputeId originalFilename : String) : BackendM String :=
  storageKey shipmentId ("disputes/" ++ disputeId) originalFilename

/-- Upload under a generated key. Errors of the application pass, all others
become an outage of the bucket. -/
def storeFile (file : UploadedFile) (key : BackendM String) : BackendM String :=
  tryCatch
    (do
      let key ← key
      request (.uploadFile file.mimetype key))
    fun
      | .app error => throw (.app error)
      | _ => throw (appError 503 "Storage bucket unavailable, please try again later."
          "SERVICE_UNAVAILABLE")

def shipmentNotFound : ThrownError :=
  appError 404 "Shipment not found" "ERR_SHIPMENT_NOT_FOUND"

def auditAction (actor : Option String) (action id : String) : BackendM Unit :=
  match truthy actor with
  | none => return ()
  | some userId => do
      let now ← currentDate
      request (.auditLog ⟨userId, action, id, now⟩)

section Proof

variable [Sha256]

/-- The ledger block of a proof, citing the transaction the shipment carries. -/
def recordProofSubmitted (id : String) (shipment : Shipment) (proofUrl : String)
    (recipientSignatureName actor : Option String) : BackendM Unit :=
  loggingFailure do
    let now ← currentDate
    let proof := [("proofUrl", some (Value.string proofUrl)),
      ("recipientSignatureName", recipientSignatureName.map Value.string)]
    let canonical := buildCanonicalShipmentPayload id MilestoneEvent.proofSubmitted.name actor now
      (.object proof)
    let _ ← createLedgerBlockService
      { shipmentId := id
        milestoneEvent := some .proofSubmitted
        shipmentReference := some shipment.trackingNumber
        transactionHash := shipment.stellarTxHash
        dataHash := some (generateDataHash canonical)
        metadata := some (.object (proof ++ [("canonical", some canonical)])) }

def uploadShipmentProofService (id : String) (file : UploadedFile)
    (recipientSignatureName notes actor : Option String) : BackendM Shipment := do
  let proofUrl ← storeFile file (generateProofKey id file.originalname)
  let now ← currentDate
  let updated ← request (.shipmentFindByIdAndUpdate id
    (.deliveryProof ⟨proofUrl, recipientSignatureName, notes, now⟩))
  match (updated : Option Shipment) with
  | none => throw shipmentNotFound
  | some shipment => do
      recordProofSubmitted id shipment proofUrl recipientSignatureName actor
      auditAction actor "PROOF_UPLOADED" id
      return shipment

end Proof

def storeEvidence (id : String) : Option UploadedFile → BackendM (Option String)
  | none => return none
  | some file => do
      let url ← storeFile file do
        let now ← currentDate
        generateDisputeEvidenceKey id ("dispute-" ++ toString now.ms) file.originalname
      return some url

def createDisputeService (id : String) (file : Option UploadedFile) (type description : String)
    (actor : Option String) : BackendM Dispute := do
  let evidenceUrl ← storeEvidence id file
  let found ← findShipmentById id
  match found with
  | none => throw shipmentNotFound
  | some shipment => do
      let reference ← request .randomReference
      let createdAt ← currentDate
      let updatedAt ← currentDate
      let dispute : Dispute :=
        { referenceNumber := "DSP-" ++ toString (100000 + reference.val), status := "PENDING"
          type, description, evidenceUrl, createdAt, updatedAt }
      let _ ← request (.shipmentSave shipment.id { disputes := [dispute] })
      auditAction actor "DISPUTE_OPENED" id
      return dispute

/-- What documents and photos share: upload, find the shipment, check it, push. -/
def attachFile (id : String) (file : UploadedFile) (key : BackendM String)
    (label userId : Option String) (refusal : Shipment → Option ThrownError)
    (changes : Attachment → ShipmentChanges) : BackendM Attachment := do
  let url ← storeFile file key
  let found ← findShipmentById id
  match found with
  | none => throw shipmentNotFound
  | some shipment =>
      match refusal shipment with
      | some error => throw error
      | none => do
          let now ← currentDate
          let attachment : Attachment :=
            { url, fileName := file.originalname, mimeType := file.mimetype, label
              size := file.size, uploadedBy := userId, uploadedAt := now }
          let _ ← request (.shipmentSave shipment.id (changes attachment))
          return attachment

def uploadShipmentDocumentService (id : String) (file : UploadedFile) (docType : String)
    (userId : Option String) : BackendM Attachment :=
  attachFile id file (generateDocumentKey id docType file.originalname) (some docType) userId
    (fun _ => none) fun document => { documents := [document] }

def maxPhotosPerShipment : Nat := 10

def uploadShipmentPhotoService (id : String) (file : UploadedFile) (caption userId : Option String) :
    BackendM Attachment :=
  attachFile id file (generatePhotoKey id file.originalname) caption userId
    (fun shipment =>
      if shipment.photos.length ≥ maxPhotosPerShipment then
        some (appError 400 ("Maximum " ++ toString maxPhotosPerShipment ++ " photos per shipment")
          "ERR_PHOTO_LIMIT_EXCEEDED")
      else none)
    fun photo => { photos := [photo] }

section Properties

variable {T : (α : Type) → BackendM α → Prop} (hT : Program.Compositional T)
  (hAside : ∀ call : BackendCall, call.incidental → T _ (request call))
include hT hAside

theorem storageKey_holds {shipmentId folder originalFilename : String} :
    T _ (storageKey shipmentId folder originalFilename) :=
  hT.bind (hAside .randomUUID rfl) fun _ => hT.pure _

theorem storeFile_holds {file : UploadedFile} {key : BackendM String} (hKey : T _ key) :
    T _ (storeFile file key) := by
  refine hT.tryCatch (hT.bind hKey fun key => hAside (.uploadFile _ key) rfl) fun error => ?_
  split <;> exact hT.throw _

theorem auditAction_holds {actor : Option String} {action id : String} :
    T _ (auditAction actor action id) := by
  unfold auditAction
  split
  · exact hT.pure _
  · exact hT.bind (hAside .now rfl) fun _ => hAside (.auditLog _) rfl

variable [Sha256] in
/-- The block of a proof cites what the shipment carries. -/
theorem recordProofSubmitted_holds {id proofUrl : String} {shipment : Shipment}
    {recipientSignatureName actor : Option String}
    (hCreate : ∀ fields : LedgerBlockFields, fields.canonicalPayload = none →
      fields.transactionHash = truthy shipment.stellarTxHash →
        T _ (request (.ledgerCreate fields))) :
    T _ (recordProofSubmitted id shipment proofUrl recipientSignatureName actor) :=
  loggingFailure_holds hT <| hT.bind (hAside .now rfl) fun _ =>
    hT.bind (createLedgerBlock_holds hT (hAside .now rfl) fun _ _ _ _ => hCreate _ rfl rfl)
      fun _ => hT.pure _

end Properties

end Navin
