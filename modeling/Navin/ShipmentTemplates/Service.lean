import Navin.Semantics.OwnedDocuments
import Navin.Shared.Faults
import Navin.Shared.JsString
import Navin.Shipments.Routes

/-! Shipment templates: the calls on the collection, the services, and the routes that offer
them to a caller. -/
namespace Navin.ShipmentTemplates

open Async

structure TemplateFields where
  origin : Option String
  destination : Option String
  itemDescription : Option String
  weight : Option JsNumber
  recipientName : Option String
  recipientContact : Option String
deriving DecidableEq

structure ShipmentTemplate where
  id : ObjectId
  name : String
  fields : TemplateFields
  organizationId : ObjectId
  deletedAt : Option Date
  createdAt : Date
  updatedAt : Date
deriving DecidableEq

abbrev TemplateStore : Type :=
  Collection ShipmentTemplate.id

/-- The second argument of `ShipmentTemplate.findOneAndUpdate` at each call site. Only the
first one is validated. -/
inductive TemplateUpdate where
  | set (name : Option String) (fields : Option TemplateFields)
  | deletedAt (date : Date)
deriving DecidableEq

inductive TemplateCall where
  | currentDate
  | create (name : String) (fields : TemplateFields) (organizationId : String)
  | find (organizationId : String)
  | findOne (id organizationId : String)
  | findOneAndUpdate (id organizationId : String) (update : TemplateUpdate)
deriving DecidableEq

@[reducible] def TemplateCall.Answer : TemplateCall → Type
  | .currentDate => Date
  | .create _ _ _ => ShipmentTemplate
  | .find _ => List ShipmentTemplate
  | .findOne _ _ | .findOneAndUpdate _ _ _ => Option ShipmentTemplate

abbrev TemplateM : Type → Type :=
  Program TemplateCall TemplateCall.Answer ThrownError

abbrev ask (call : TemplateCall) : TemplateM call.Answer :=
  Program.await call

/-- What validation throws for the paths it refuses. -/
class SchemaValidation where
  refused : (paths : List String) → ThrownError

section Effects

/-- The schema trims names on their way in. -/
def TemplateUpdate.apply (update : TemplateUpdate) (now : Date) (template : ShipmentTemplate) :
    ShipmentTemplate :=
  match update with
  | .set name fields =>
      { template with
        name := (name.map trim).getD template.name
        fields := fields.getD template.fields
        updatedAt := now }
  | .deletedAt date => { template with deletedAt := some date, updatedAt := now }

/-- A name is required, so it may not be blank. -/
def blankPaths (name : String) : List String :=
  if trim name = "" then ["name"] else []

def TemplateUpdate.blankPaths : TemplateUpdate → List String
  | .set (some name) _ => ShipmentTemplates.blankPaths name
  | .set none _ | .deletedAt _ => []

@[simp] theorem TemplateUpdate.apply_id (update : TemplateUpdate) (now : Date)
    (template : ShipmentTemplate) : (update.apply now template).id = template.id := by
  cases update <;> rfl

@[simp] theorem TemplateUpdate.apply_organizationId (update : TemplateUpdate) (now : Date)
    (template : ShipmentTemplate) :
    (update.apply now template).organizationId = template.organizationId := by
  cases update <;> rfl

/-- `{ organizationId }`, to which the hook of the schema adds `deletedAt: null`. -/
def ShipmentTemplate.selected (organizationId : ObjectId) (template : ShipmentTemplate) : Bool :=
  template.organizationId = organizationId && template.deletedAt.isNone

/-- `sort({ createdAt: -1 })`. -/
def newestFirst (templates : List ShipmentTemplate) : List ShipmentTemplate :=
  templates.insertionSort fun first second => second.createdAt.ms ≤ first.createdAt.ms

variable [SchemaValidation]

/-- A call that goes through, given the identifier and the time it takes. -/
def execute (freshId : ObjectId) (now : Date) (store : TemplateStore) :
    (call : TemplateCall) → TemplateStore × Except ThrownError call.Answer
  | .currentDate => (store, .ok now)
  | .create name fields organizationId =>
      match ObjectId.cast? organizationId with
      | none => (store, .error (SchemaValidation.refused (blankPaths name ++ ["organizationId"])))
      | some organization =>
          let template : ShipmentTemplate :=
            { id := freshId, name := trim name, fields, organizationId := organization
              deletedAt := none, createdAt := now, updatedAt := now }
          if blankPaths name ≠ [] then (store, .error (SchemaValidation.refused (blankPaths name)))
          else if h : store.get? template.id = none then (store.insert template h, .ok template)
          else (store, .error .duplicateKey)
  | .find organizationId =>
      castingId store organizationId fun organization =>
        (store, .ok (newestFirst (store.docs.filter (·.selected organization))))
  | .findOne id organizationId =>
      castingId store id fun id => castingId store organizationId fun organization =>
        (store, .ok ((store.get? id).filter (·.selected organization)))
  | .findOneAndUpdate id organizationId update =>
      castingId store id fun id => castingId store organizationId fun organization =>
        if update.blankPaths ≠ [] then (store, .error (SchemaValidation.refused update.blankPaths))
        else
          match (store.get? id).filter (·.selected organization) with
          | none => (store, .ok none)
          | some template =>
              (store.modify id (update.apply now) (update.apply_id now),
                .ok (some (update.apply now template)))

/-- What the world decides at a call. -/
structure TemplateDecision where
  freshId : ObjectId
  now : Date
  fault : Option Fault

abbrev templates : World TemplateCall TemplateCall.Answer ThrownError where
  Store := TemplateStore
  Env := TemplateDecision
  perform decision store call :=
    faultedBy decision.fault store (execute decision.freshId decision.now store call)

end Effects

section Services

def notFound : ThrownError :=
  appError 404 "Shipment template not found" "ERR_TEMPLATE_NOT_FOUND"

def orNotFound : Option ShipmentTemplate → TemplateM ShipmentTemplate
  | none => throw notFound
  | some template => return template

def createTemplateService (organizationId name : String) (fields : TemplateFields) :
    TemplateM ShipmentTemplate :=
  ask (.create name fields organizationId)

def getTemplatesService (organizationId : String) : TemplateM (List ShipmentTemplate) :=
  ask (.find organizationId)

def getTemplateByIdService (id organizationId : String) : TemplateM ShipmentTemplate := do
  let template ← ask (.findOne id organizationId)
  orNotFound template

def updateTemplateService (id organizationId : String) (name : Option String)
    (fields : Option TemplateFields) : TemplateM ShipmentTemplate := do
  let updated ← ask (.findOneAndUpdate id organizationId (.set name fields))
  orNotFound updated

def deleteTemplateService (id organizationId : String) : TemplateM ShipmentTemplate := do
  let now ← ask .currentDate
  let deleted ← ask (.findOneAndUpdate id organizationId (.deletedAt now))
  orNotFound deleted

end Services

inductive TemplateData where
  | one (template : ShipmentTemplate)
  | many (templates : List ShipmentTemplate)

structure TemplateReply where
  statusCode : Nat
  message : String
  data : TemplateData

/-- The routes, with validated parameters and bodies. -/
inductive TemplateRequest where
  | getTemplates
  | getTemplateById (id : String)
  | createTemplate (name : String) (fields : TemplateFields)
  | updateTemplate (id : String) (name : Option String) (fields : Option TemplateFields)
  | deleteTemplate (id : String)

/-- The roles that `requireRole` lets through. -/
def TemplateRequest.roles : TemplateRequest → List UserRole
  | .getTemplates | .getTemplateById _ => [.admin, .manager, .viewer]
  | .createTemplate _ _ | .updateTemplate _ _ _ | .deleteTemplate _ => [.admin, .manager]

/-- What the controllers do once they have an organisation. -/
def TemplateRequest.serve (organizationId : String) : TemplateRequest → TemplateM TemplateReply
  | .getTemplates => do
      let templates ← getTemplatesService organizationId
      return ⟨200, "Templates retrieved", .many templates⟩
  | .getTemplateById id => do
      let template ← getTemplateByIdService id organizationId
      return ⟨200, "Template retrieved", .one template⟩
  | .createTemplate name fields => do
      let template ← createTemplateService organizationId name fields
      return ⟨201, "Template created", .one template⟩
  | .updateTemplate id name fields => do
      let template ← updateTemplateService id organizationId name fields
      return ⟨200, "Template updated", .one template⟩
  | .deleteTemplate id => do
      let template ← deleteTemplateService id organizationId
      return ⟨200, "Template deleted", .one template⟩

/-- A request to the router, once its caller is known. -/
def TemplateRequest.program (caller : Caller) (request : TemplateRequest) :
    TemplateM TemplateReply :=
  if caller.role ∉ request.roles then
    throw (appError 403 "Forbidden: insufficient role" "ERR_PERMISSION_DENIED")
  else if caller.organizationId = "" then
    throw (appError 403 "Organization context required" "ERR_PERMISSION_DENIED")
  else request.serve caller.organizationId

/-- Any number of requests, none of which has begun. -/
def templatePool [SchemaValidation] {ι : Type} (store : TemplateStore)
    (requests : ι → Caller × TemplateRequest) : Pool templates ι TemplateReply :=
  ⟨store, fun i => (requests i).2.program (requests i).1⟩

end Navin.ShipmentTemplates
