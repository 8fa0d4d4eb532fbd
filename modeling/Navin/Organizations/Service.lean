import Navin.Identity.Documents
import Navin.Semantics.Collection
import Navin.Semantics.Since
import Navin.Semantics.Protocol
import Navin.Shared.Faults

/-! Organisations, and who may change what of them. Requests of callers of any role interleave, with
those of signing up and of changing a profile among them, and any call may fail or be lost. -/
namespace Navin.Organizations

open Async Program

/-- An organisation with all its fields. -/
structure StoredOrganization where
  id : ObjectId
  name : String
  type : OrganizationType
  settings : Value
  deletedAt : Option Date
  createdAt : Date
  updatedAt : Date

abbrev OrganizationStore : Type :=
  Collection fun organization : StoredOrganization => organization.id

/-- The document that `OrganizationModel.create` saves, but for what the schema adds. -/
structure OrganizationFields where
  name : String
  type : OrganizationType
  settings : Option Value := none

/-- The second argument of `OrganizationModel.findByIdAndUpdate`. What is not there stays. -/
structure OrganizationUpdate where
  name : Option String := none
  type : Option OrganizationType := none
  settings : Option Value := none
  deletedAt : Option Date := none

def OrganizationFields.document (fields : OrganizationFields) (id : ObjectId) (now : Date) :
    StoredOrganization where
  id := id
  name := fields.name
  type := fields.type
  settings := fields.settings.getD (.object [])
  deletedAt := none
  createdAt := now
  updatedAt := now

def OrganizationUpdate.apply (update : OrganizationUpdate) (now : Date)
    (organization : StoredOrganization) : StoredOrganization :=
  { organization with
    name := update.name.getD organization.name
    type := update.type.getD organization.type
    settings := update.settings.getD organization.settings
    deletedAt := update.deletedAt.or organization.deletedAt
    updatedAt := now }

theorem apply_id (update : OrganizationUpdate) (now : Date) (organization : StoredOrganization) :
    (update.apply now organization).id = organization.id := rfl

inductive OrganizationCall where
  | currentDate
  | create (fields : OrganizationFields)
  | findById (id : String)
  | findOne (name : String)
  | find
  | findByIdAndUpdate (id : String) (update : OrganizationUpdate)

@[reducible] def OrganizationCall.Answer : OrganizationCall → Type
  | .currentDate => Date
  | .create _ => StoredOrganization
  | .findById _ | .findOne _ | .findByIdAndUpdate _ _ => Option StoredOrganization
  | .find => List StoredOrganization

abbrev OrganizationM : Type → Type :=
  Program OrganizationCall OrganizationCall.Answer ThrownError

abbrev ask (call : OrganizationCall) : OrganizationM call.Answer :=
  Program.await call

/-- What `req.user` says of the caller. -/
structure Caller where
  role : Option UserRole
  organizationId : Option String

section Services

def forbidden (message : String) : ThrownError :=
  appError 403 message "ERR_PERMISSION_DENIED"

def organizationNotFound : ThrownError :=
  appError 404 "Organization not found" "ERR_ORGANIZATION_NOT_FOUND"

/-- The result of a lookup, or an error where there is none. -/
def orNotFound : Option StoredOrganization → OrganizationM StoredOrganization
  | none => throw organizationNotFound
  | some organization => return organization

def createOrganizationService (fields : OrganizationFields) (callerRole : Option UserRole) :
    OrganizationM StoredOrganization := do
  if callerRole ≠ some .superAdmin then
    throw (forbidden "Only SUPER_ADMIN can create organizations")
  else
    match ← ask (.findOne fields.name) with
    | some _ => throw (appError 409 "Organization already exists" "ERR_DUPLICATE_KEY")
    | none => ask (.create fields)

def listOrganizationsService (callerRole : Option UserRole) :
    OrganizationM (List StoredOrganization) :=
  if callerRole ≠ some .superAdmin then
    throw (forbidden "Only SUPER_ADMIN can list all organizations")
  else ask .find

/-- An empty organisation id is none. -/
def Caller.isOf (caller : Caller) (organization : StoredOrganization) : Bool :=
  caller.organizationId.getD "" ≠ "" && caller.organizationId = some organization.id.toString

def getOrganizationService (id : String) (caller : Caller) : OrganizationM StoredOrganization := do
  let organization ← ask (.findById id)
  let organization ← orNotFound organization
  if caller.role = some .superAdmin then return organization
  else if caller.role = some .admin then
    if caller.isOf organization then return organization
    else throw (forbidden "Cannot access organization from another organization")
  else throw (forbidden "Forbidden: insufficient role")

def updateOrganizationService (id : String) (updates : OrganizationUpdate) (caller : Caller) :
    OrganizationM StoredOrganization := do
  let organization ← ask (.findById id)
  let organization ← orNotFound organization
  if caller.role = some .superAdmin then
    let updated ← ask (.findByIdAndUpdate id updates)
    orNotFound updated
  else if caller.role = some .admin then
    if caller.isOf organization then
      let updated ← ask (.findByIdAndUpdate id { updates with type := none })
      orNotFound updated
    else throw (forbidden "Cannot modify organization from another organization")
  else throw (forbidden "Forbidden: insufficient role")

def deleteOrganizationService (id : String) (callerRole : Option UserRole) :
    OrganizationM StoredOrganization := do
  if callerRole ≠ some .superAdmin then
    throw (forbidden "Only SUPER_ADMIN can delete organizations")
  else
    let organization ← ask (.findById id)
    let _ ← orNotFound organization
    let deletedAt ← ask .currentDate
    let deleted ← ask (.findByIdAndUpdate id { deletedAt := some deletedAt })
    orNotFound deleted

/-- What `updateCurrentUser` does to the organisation of the user it has loaded. -/
def renameOrganization (user : User) (companyName : String) : OrganizationM Unit :=
  if user.role = .admin ∨ user.role = .superAdmin then
    match user.organizationId with
    | none => return ()
    | some organizationId => do
        let _ ← ask (.findByIdAndUpdate organizationId.toString { name := some companyName })
  else
    throw (appError 403 "Only ADMIN or SUPER_ADMIN can update the organization name" "FORBIDDEN")

/-- What signing up a company does to the organisations. -/
def registerOrganization (fields : OrganizationFields) : OrganizationM StoredOrganization := do
  match ← ask (.findOne fields.name) with
  | some _ => throw (appError 409 "Organization name already exists" "DUPLICATE_KEY")
  | none => ask (.create fields)

end Services

/-- The body of an update, as the route has validated it. -/
structure UpdateOrganizationBody where
  name : Option String
  settings : Option Value

def UpdateOrganizationBody.updates (body : UpdateOrganizationBody) : OrganizationUpdate where
  name := body.name
  settings := body.settings

/-- What the world decides at a call. -/
structure OrganizationDecision where
  freshId : ObjectId
  now : Date
  fault : Option Fault := none

def OrganizationDecision.faultOf (decision : OrganizationDecision) :
    OrganizationCall → Option Fault
  | .currentDate => none
  | _ => decision.fault

section World

variable (store : OrganizationStore)

/-- What the hook of the schema lets queries find. -/
def live (id : ObjectId) : Option StoredOrganization :=
  (store.get? id).filter (·.deletedAt.isNone)

/-- The unique index of the names covers the deleted documents. -/
def nameTaken (id : ObjectId) (name : String) : Bool :=
  store.docs.any fun other => other.id ≠ id && other.name = name

def newerFirst (first second : StoredOrganization) : Bool :=
  second.createdAt.ms ≤ first.createdAt.ms

def insertOrganization (organization : StoredOrganization) :
    OrganizationStore × Except ThrownError StoredOrganization :=
  if h : store.get? organization.id = none then
    if nameTaken store organization.id organization.name then (store, .error .duplicateKey)
    else (store.insert organization h, .ok organization)
  else (store, .error .duplicateKey)

/-- A call that goes through. -/
def execute (decision : OrganizationDecision) :
    (call : OrganizationCall) → OrganizationStore × Except ThrownError call.Answer
  | .currentDate => (store, .ok decision.now)
  | .create fields =>
      insertOrganization store (fields.document decision.freshId decision.now)
  | .findById id => castingId store id fun id => (store, .ok (live store id))
  | .findOne name =>
      (store, .ok (store.docs.find? fun organization =>
        organization.name = name && organization.deletedAt.isNone))
  | .find =>
      (store, .ok ((store.docs.filter (·.deletedAt.isNone)).mergeSort newerFirst))
  | .findByIdAndUpdate id update =>
      castingId store id fun id =>
        match live store id with
        | none => (store, .ok none)
        | some organization =>
            if nameTaken store id (update.name.getD organization.name) then
              (store, .error .duplicateKey)
            else
              (store.modify id (update.apply decision.now) (apply_id update decision.now),
                .ok (some (update.apply decision.now organization)))

end World

abbrev organizations : World OrganizationCall OrganizationCall.Answer ThrownError where
  Store := OrganizationStore
  Env := OrganizationDecision
  perform decision store call := faultedBy (decision.faultOf call) store (execute store decision call)

inductive OrganizationRequest where
  | create (fields : OrganizationFields) (caller : Caller)
  | list (caller : Caller)
  | get (id : String) (caller : Caller)
  | update (id : String) (body : UpdateOrganizationBody) (caller : Caller)
  | delete (id : String) (caller : Caller)
  | rename (user : User) (companyName : String)
  | register (fields : OrganizationFields)

def OrganizationRequest.program : OrganizationRequest → OrganizationM (List StoredOrganization)
  | .create fields caller => do return [← createOrganizationService fields caller.role]
  | .list caller => listOrganizationsService caller.role
  | .get id caller => do return [← getOrganizationService id caller]
  | .update id body caller => do return [← updateOrganizationService id body.updates caller]
  | .delete id caller => do return [← deleteOrganizationService id caller.role]
  | .rename user companyName => do
      renameOrganization user companyName
      return []
  | .register fields => do return [← registerOrganization fields]

/-- Any number of requests, none of which has begun. -/
def organizationPool {ι : Type} (store : OrganizationStore) (requests : ι → OrganizationRequest) :
    Pool organizations ι (List StoredOrganization) :=
  ⟨store, fun i => (requests i).program⟩

section Requests

/-- What a request is, and the organisation it has found under a text. -/
structure Progress where
  request : OrganizationRequest
  found : Option (String × ObjectId) := none

def Progress.next (progress : Progress) :
    (call : OrganizationCall) → Except ThrownError call.Answer → Progress
  | .findById id, .ok (some organization) => { progress with found := some (id, organization.id) }
  | _, _ => progress

theorem next_request (progress : Progress) (call : OrganizationCall)
    (response : Except ThrownError call.Answer) :
    (progress.next call response).request = progress.request := by
  cases call with
  | findById id =>
      rcases response with _ | _ | _ <;> rfl
  | _ => rfl

theorem found_of_next {progress : Progress} {asked text : String} {id : ObjectId}
    {response : Except ThrownError (Option StoredOrganization)}
    (h : (progress.next (.findById asked) response).found = some (text, id)) :
    progress.found = some (text, id) ∨
      ∃ organization, response = .ok (some organization) ∧ asked = text ∧ organization.id = id := by
  rcases response with error | _ | organization
  · exact .inl h
  · exact .inl h
  · cases h
    exact .inr ⟨organization, rfl, rfl, rfl⟩

/-- Who may write to an organisation that was found, and what. -/
def Progress.MayUpdate (progress : Progress) (id : String) (update : OrganizationUpdate) : Prop :=
  match progress.request with
  | .update asked body caller =>
      asked = id ∧ update = body.updates ∧ (caller.role = some .superAdmin ∨
        caller.role = some .admin ∧ ∃ organizationId, progress.found = some (id, organizationId) ∧
          caller.organizationId = some organizationId.toString)
  | .delete asked caller =>
      asked = id ∧ caller.role = some .superAdmin ∧ ∃ date, update = { deletedAt := some date }
  | .rename user companyName =>
      (user.role = .admin ∨ user.role = .superAdmin) ∧ update = { name := some companyName } ∧
        ∃ organizationId, user.organizationId = some organizationId ∧ id = organizationId.toString
  | _ => False

def writesWithRight :
    Protocol OrganizationCall OrganizationCall.Answer ThrownError Progress where
  allows progress call := ∀ id update, call = .findByIdAndUpdate id update → progress.MayUpdate id update
  next := Progress.next

theorem allows_other {progress : Progress} {call : OrganizationCall}
    (h : ∀ id update, call ≠ .findByIdAndUpdate id update) :
    writesWithRight.allows progress call :=
  fun id update hCall => absurd hCall (h id update)

theorem allows_update {progress : Progress} {id : String} {update : OrganizationUpdate}
    (h : progress.MayUpdate id update) :
    writesWithRight.allows progress (.findByIdAndUpdate id update) := by
  intro asked other hCall
  cases hCall
  exact h

variable {α : Type} {progress : Progress}

/-- A program that does not write to what is there. -/
def Reads (call : OrganizationCall) : Prop :=
  ∀ id update, call ≠ .findByIdAndUpdate id update

theorem follows_of_reads {p : OrganizationM α} (h : p.Uses Reads) :
    p.Follows writesWithRight (fun _ _ => True) progress := by
  refine Follows.mono (h.follows_within (I := fun _ : Progress => True)
    (fun _ _ _ hCall => ⟨allows_other hCall, fun _ => trivial⟩) trivial) fun _ _ _ => trivial

theorem orNotFound_uses {C : OrganizationCall → Prop} (found : Option StoredOrganization) :
    (orNotFound found).Uses C := by
  cases found with
  | none => exact .throw
  | some organization => exact .pure

theorem reads_findById (id : String) : Reads (.findById id) := by
  intro _ _ h
  cases h

theorem reads_findOne (name : String) : Reads (.findOne name) := by
  intro _ _ h
  cases h

theorem reads_create (fields : OrganizationFields) : Reads (.create fields) := by
  intro _ _ h
  cases h

theorem reads_find : Reads .find := by
  intro _ _ h
  cases h

theorem createOrganizationService_uses (fields : OrganizationFields) (role : Option UserRole) :
    (createOrganizationService fields role).Uses Reads := by
  unfold createOrganizationService
  split
  · exact .throw
  · refine (Uses.await (reads_findOne fields.name)).bind fun existing => ?_
    cases existing with
    | none => exact .await (reads_create fields)
    | some organization => exact .throw

theorem registerOrganization_uses (fields : OrganizationFields) :
    (registerOrganization fields).Uses Reads := by
  refine (Uses.await (reads_findOne fields.name)).bind fun existing => ?_
  cases existing with
  | none => exact .await (reads_create fields)
  | some organization => exact .throw

theorem listOrganizationsService_uses (role : Option UserRole) :
    (listOrganizationsService role).Uses Reads := by
  unfold listOrganizationsService
  split
  · exact .throw
  · exact .await reads_find

theorem getOrganizationService_uses (id : String) (caller : Caller) :
    (getOrganizationService id caller).Uses Reads := by
  refine (Uses.await (reads_findById id)).bind fun found =>
    (orNotFound_uses found).bind fun organization => ?_
  split
  · exact .pure
  · split
    · split
      · exact .pure
      · exact .throw
    · exact .throw

/-- The lookup that both writes begin with. -/
theorem lookup_follows {id : String} {request : OrganizationRequest}
    {f : StoredOrganization → OrganizationM α}
    (h : ∀ organization : StoredOrganization, (f organization).Follows writesWithRight
      (fun _ _ => True) ⟨request, some (id, organization.id)⟩) :
    (do let found ← ask (.findById id)
        let organization ← orNotFound found
        f organization : OrganizationM α).Follows writesWithRight (fun _ _ => True) ⟨request, none⟩ := by
  refine .await_bind (allows_other (reads_findById id)) (fun _ => trivial) fun found => ?_
  cases found with
  | none => trivial
  | some organization => exact h organization

theorem update_follows {id : String} {update : OrganizationUpdate}
    (h : progress.MayUpdate id update) :
    (do let updated ← ask (.findByIdAndUpdate id update)
        orNotFound updated : OrganizationM StoredOrganization).Follows writesWithRight
          (fun _ _ => True) progress :=
  .await_bind (allows_update h) (fun _ => trivial) fun updated => by
    cases updated <;> trivial

theorem updateOrganizationService_follows (id : String) (body : UpdateOrganizationBody)
    (caller : Caller) : (updateOrganizationService id body.updates caller).Follows writesWithRight
      (fun _ _ => True) ⟨.update id body caller, none⟩ := by
  refine lookup_follows fun organization => ?_
  split
  · rename_i hRole
    exact update_follows ⟨rfl, rfl, .inl hRole⟩
  · split
    · rename_i hRole
      split
      · rename_i hOwn
        simp only [Caller.isOf, Bool.and_eq_true, decide_eq_true_eq] at hOwn
        exact update_follows ⟨rfl, rfl, .inr ⟨hRole, organization.id, rfl, hOwn.2⟩⟩
      · trivial
    · trivial

theorem deleteOrganizationService_follows (id : String) (caller : Caller) :
    (deleteOrganizationService id caller.role).Follows writesWithRight (fun _ _ => True)
      ⟨.delete id caller, none⟩ := by
  unfold deleteOrganizationService
  split
  · trivial
  · rename_i hRole
    refine lookup_follows fun organization => ?_
    refine .await_bind (allows_other fun _ _ h => by cases h) (fun _ => trivial) fun date => ?_
    exact update_follows ⟨rfl, not_not.mp hRole, date, rfl⟩

theorem renameOrganization_follows (user : User) (companyName : String) :
    (renameOrganization user companyName).Follows writesWithRight (fun _ _ => True)
      ⟨.rename user companyName, none⟩ := by
  unfold renameOrganization
  split
  · rename_i hRole
    split
    · trivial
    · rename_i organizationId hOrganization
      exact .await_bind (allows_update ⟨hRole, rfl, organizationId, hOrganization, rfl⟩)
        (fun _ => trivial) fun _ => trivial
  · trivial

theorem program_follows (request : OrganizationRequest) :
    request.program.Follows writesWithRight (fun _ _ => True) { request } := by
  have hReads (p : OrganizationM StoredOrganization) (h : p.Uses Reads) :
      (do return [← p] : OrganizationM (List StoredOrganization)).Follows writesWithRight
        (fun _ _ => True) { request } :=
    follows_of_reads (h.bind fun _ => .pure)
  cases request with
  | create fields caller => exact hReads _ (createOrganizationService_uses fields caller.role)
  | list caller => exact follows_of_reads (listOrganizationsService_uses caller.role)
  | get id caller => exact hReads _ (getOrganizationService_uses id caller)
  | update id body caller =>
      exact (updateOrganizationService_follows id body caller).bind (fun _ _ _ => trivial)
        fun _ _ _ => trivial
  | delete id caller =>
      exact (deleteOrganizationService_follows id caller).bind (fun _ _ _ => trivial)
        fun _ _ _ => trivial
  | rename user companyName =>
      exact (renameOrganization_follows user companyName).bind (fun _ _ _ => trivial)
        fun _ _ _ => trivial
  | register fields => exact hReads _ (registerOrganization_uses fields)

end Requests

section Changes

variable {ι : Type} {requests : ι → OrganizationRequest}

abbrev OrganizationEvent (ι : Type) : Type :=
  Event OrganizationCall OrganizationCall.Answer ThrownError ι

/-- Its administrator or a SUPER_ADMIN asks to edit the organisation. -/
def OrganizationRequest.Edits (id : ObjectId) : OrganizationRequest → Prop
  | .update _ _ caller => caller.role = some .superAdmin ∨
      caller.role = some .admin ∧ caller.organizationId = some id.toString
  | .rename user _ => (user.role = .admin ∨ user.role = .superAdmin) ∧ user.organizationId = some id
  | _ => False

/-- A SUPER_ADMIN asks to delete an organisation. -/
def OrganizationRequest.Deletes : OrganizationRequest → Prop
  | .delete _ caller => caller.role = some .superAdmin
  | _ => False

/-- The organisation was written to, by a request of that kind and with such an update. -/
def Written (requests : ι → OrganizationRequest) (history : List (OrganizationEvent ι))
    (id : ObjectId) (kind : OrganizationRequest → Prop) (p : OrganizationUpdate → Prop) : Prop :=
  ∃ event ∈ history, ∃ text update, event.request = .findByIdAndUpdate text update ∧
    ObjectId.cast? text = some id ∧ kind (requests event.thread) ∧ p update

theorem Written.cons {history : List (OrganizationEvent ι)} {event : OrganizationEvent ι}
    {id : ObjectId} {kind : OrganizationRequest → Prop} {p : OrganizationUpdate → Prop}
    (h : Written requests history id kind p) : Written requests (event :: history) id kind p := by
  obtain ⟨write, hMem, hWrite⟩ := h
  exact ⟨write, List.mem_cons_of_mem event hMem, hWrite⟩

/-- What can become of an organisation. -/
structure Changed (requests : ι → OrganizationRequest) (history : List (OrganizationEvent ι))
    (before after : StoredOrganization) : Prop where
  type : after.type = before.type
  createdAt : after.createdAt = before.createdAt
  frozen : before.deletedAt ≠ none → after = before
  deleted : after.deletedAt = before.deletedAt ∨
    Written requests history before.id OrganizationRequest.Deletes fun update =>
      update.deletedAt = after.deletedAt
  name : after.name = before.name ∨
    Written requests history before.id (OrganizationRequest.Edits before.id) fun update =>
      update.name = some after.name
  settings : after.settings = before.settings ∨
    Written requests history before.id (OrganizationRequest.Edits before.id) fun update =>
      update.settings = some after.settings

theorem Changed.refl (organization : StoredOrganization) :
    Changed requests [] organization organization :=
  ⟨rfl, rfl, fun _ => rfl, .inl rfl, .inl rfl, .inl rfl⟩

variable {history : List (OrganizationEvent ι)} {before current : StoredOrganization}

theorem Changed.cons (h : Changed requests history before current) (event : OrganizationEvent ι) :
    Changed requests (event :: history) before current where
  type := h.type
  createdAt := h.createdAt
  frozen := h.frozen
  deleted := h.deleted.imp_right Written.cons
  name := h.name.imp_right Written.cons
  settings := h.settings.imp_right Written.cons

variable {progress : Progress} {text : String} {update : OrganizationUpdate} {id : ObjectId}

/-- The two kinds of updates. -/
theorem Progress.MayUpdate.cases (h : progress.MayUpdate text update)
    (hId : ObjectId.cast? text = some id)
    (hFound : ∀ organizationId, progress.found = some (text, organizationId) →
      ObjectId.cast? text = some organizationId) :
    progress.request.Edits id ∧ update.type = none ∧ update.deletedAt = none ∨
      progress.request.Deletes ∧ ∃ date, update = { deletedAt := some date } := by
  obtain ⟨request, found⟩ := progress
  cases request with
  | update asked body caller =>
      obtain ⟨rfl, rfl, hRight⟩ := h
      refine .inl ⟨?_, rfl, rfl⟩
      rcases hRight with hSuper | ⟨hAdmin, organizationId, hSome, hOwn⟩
      · exact .inl hSuper
      · cases hId.symm.trans (hFound organizationId hSome)
        exact .inr ⟨hAdmin, hOwn⟩
  | delete asked caller =>
      obtain ⟨rfl, hRole, hDate⟩ := h
      exact .inr ⟨hRole, hDate⟩
  | rename user companyName =>
      obtain ⟨hRole, rfl, organizationId, hOrganization, rfl⟩ := h
      rw [ObjectId.cast?_toString] at hId
      cases hId
      exact .inl ⟨⟨hRole, hOrganization⟩, rfl, rfl⟩
  | _ => cases h

/-- A write to an organisation that is not deleted. -/
theorem Changed.write (h : Changed requests history before current) {i : ι}
    {response : Except ThrownError (Option StoredOrganization)} (now : Date)
    (hId : ObjectId.cast? text = some before.id) (hLive : current.deletedAt = none)
    (hRight : (requests i).Edits before.id ∧ update.type = none ∧ update.deletedAt = none ∨
      (requests i).Deletes ∧ ∃ date, update = { deletedAt := some date }) :
    Changed requests (⟨i, .findByIdAndUpdate text update, response⟩ :: history) before
      (update.apply now current) := by
  have hFrozen : before.deletedAt ≠ none → update.apply now current = before := by
    intro hDeleted
    rw [h.frozen hDeleted] at hLive
    exact absurd hLive hDeleted
  have hCons := h.cons (⟨i, .findByIdAndUpdate text update, response⟩ : OrganizationEvent ι)
  rcases hRight with ⟨hEdits, hType, hDeleted⟩ | ⟨hDeletes, date, rfl⟩
  · refine ⟨?_, h.createdAt, hFrozen, ?_, ?_, ?_⟩
    · simp [OrganizationUpdate.apply, hType, h.type]
    · simpa [OrganizationUpdate.apply, hDeleted] using hCons.deleted
    · cases hName : update.name with
      | none => simpa [OrganizationUpdate.apply, hName] using hCons.name
      | some name =>
          exact .inr ⟨_, List.mem_cons_self, text, update, rfl, hId, hEdits,
            by simp [OrganizationUpdate.apply, hName]⟩
    · cases hSettings : update.settings with
      | none => simpa [OrganizationUpdate.apply, hSettings] using hCons.settings
      | some settings =>
          exact .inr ⟨_, List.mem_cons_self, text, update, rfl, hId, hEdits,
            by simp [OrganizationUpdate.apply, hSettings]⟩
  · exact ⟨h.type, h.createdAt, hFrozen,
      .inr ⟨_, List.mem_cons_self, text, _, rfl, hId, hDeletes, by simp [OrganizationUpdate.apply]⟩,
      hCons.name, hCons.settings⟩

variable {decision : OrganizationDecision} {store : OrganizationStore} {call : OrganizationCall}

variable (decision call) in
/-- What a call does to an organisation that is stored. -/
theorem execute_cases (hCurrent : store.get? id = some current) :
    (execute store decision call).1.get? id = some current ∨
      ∃ text update, call = .findByIdAndUpdate text update ∧ ObjectId.cast? text = some id ∧
        current.deletedAt = none ∧
        (execute store decision call).1.get? id = some (update.apply decision.now current) := by
  cases call with
  | create fields =>
      left
      simp only [execute, insertOrganization]
      split
      · rename_i hFree
        split
        · exact hCurrent
        · have hOther : id ≠ (fields.document decision.freshId decision.now).id := by
            rintro rfl
            rw [hCurrent] at hFree
            cases hFree
          simp [Collection.get?_insert, hOther, hCurrent]
      · exact hCurrent
  | findById text =>
      left
      simp only [execute, castingId]
      split <;> exact hCurrent
  | findByIdAndUpdate text update =>
      simp only [execute, castingId]
      cases hText : ObjectId.cast? text with
      | none => exact .inl hCurrent
      | some found =>
          dsimp only
          cases hLive : live store found with
          | none => exact .inl hCurrent
          | some organization =>
              dsimp only
              split
              · exact .inl hCurrent
              · by_cases hSame : found = id
                · subst hSame
                  simp only [live, hCurrent, Option.filter_eq_some_iff, Option.some.injEq,
                    Option.isNone_iff_eq_none] at hLive
                  obtain ⟨rfl, hLive⟩ := hLive
                  exact .inr ⟨text, update, rfl, hText, hLive,
                    by simp [Collection.get?_modify_self, hCurrent]⟩
                · left
                  rw [← hCurrent]
                  exact Collection.get?_modify_of_ne _ (apply_id update decision.now) (Ne.symm hSame)
  | _ => exact .inl hCurrent

variable (decision store call) in
/-- A call takes effect, or it changes nothing. -/
theorem perform_cases :
    ((organizations.perform decision store call).1 : OrganizationStore) =
        (execute store decision call).1 ∨
      ((organizations.perform decision store call).1 : OrganizationStore) = store := by
  rcases faultedBy_cases with hEffect | ⟨-, hSame⟩
  · exact .inl hEffect
  · exact .inr hSame

/-- An organisation that is found has the identifier that was asked for. -/
theorem cast_of_found {organization : StoredOrganization}
    (h : (organizations.perform decision store (.findById text)).2 = .ok (some organization)) :
    ObjectId.cast? text = some organization.id := by
  have hDone := (congrArg Prod.snd (faultedBy_ok h)).symm.trans h
  simp only [execute, castingId] at hDone
  cases hText : ObjectId.cast? text with
  | none =>
      rw [hText] at hDone
      cases hDone
  | some found =>
      rw [hText] at hDone
      simp only [Except.ok.injEq, live, Option.filter_eq_some_iff] at hDone
      rw [store.key_of_get? hDone.1]

end Changes

section Runs

variable {ι : Type} [DecidableEq ι] {requests : ι → OrganizationRequest}

/-- What the requests have learned from a history. -/
def learned (requests : ι → OrganizationRequest) (history : List (OrganizationEvent ι)) :
    ι → Progress :=
  writesWithRight.after (fun i => { request := requests i }) history

theorem learned_request (history : List (OrganizationEvent ι)) (i : ι) :
    (learned requests history i).request = requests i :=
  writesWithRight.after_field Progress.request next_request _ history i

/-- What was found is what was asked for, and each organisation has changed as it may. -/
structure Accounted (requests : ι → OrganizationRequest) (start : OrganizationStore)
    (history : List (OrganizationEvent ι)) (store : OrganizationStore) : Prop where
  found : ∀ i text organizationId, (learned requests history i).found = some (text, organizationId) →
    ObjectId.cast? text = some organizationId
  changed : ∀ id before, start.get? id = some before →
    ∃ current, store.get? id = some current ∧ Changed requests history before current

variable {start store : OrganizationStore} {history : List (OrganizationEvent ι)}

theorem Accounted.found_step (h : Accounted requests start history store)
    (decision : OrganizationDecision) (i : ι) (call : OrganizationCall) (j : ι) (text : String)
    (organizationId : ObjectId) (hFound : (learned requests
      (⟨i, call, (organizations.perform decision store call).2⟩ :: history) j).found =
        some (text, organizationId)) : ObjectId.cast? text = some organizationId := by
  by_cases hThread : j = i
  · subst hThread
    rw [learned, Protocol.after_cons_self] at hFound
    cases call with
    | findById asked =>
        rcases found_of_next hFound with hBefore | ⟨organization, hAnswer, rfl, rfl⟩
        · exact h.found j text organizationId hBefore
        · exact cast_of_found hAnswer
    | _ => exact h.found j text organizationId hFound
  · rw [learned, Protocol.after_cons_of_ne _ _ _ hThread] at hFound
    exact h.found j text organizationId hFound

/-- One call of any request that may make it. -/
theorem Accounted.step (h : Accounted requests start history store)
    (decision : OrganizationDecision) (i : ι) (call : OrganizationCall)
    (hAllowed : writesWithRight.allows (learned requests history i) call) :
    Accounted requests start (⟨i, call, (organizations.perform decision store call).2⟩ :: history)
      (organizations.perform decision store call).1 where
  found := h.found_step decision i call
  changed id before hBefore := by
    obtain ⟨current, hCurrent, hChanged⟩ := h.changed id before hBefore
    obtain rfl := start.key_of_get? hBefore
    have hCons := hChanged.cons
      (⟨i, call, (organizations.perform decision store call).2⟩ : OrganizationEvent ι)
    rcases perform_cases decision store call with hEffect | hSame
    · rw [hEffect]
      rcases execute_cases decision call hCurrent with hStill | ⟨text, update, rfl, hText, hLive, hWritten⟩
      · exact ⟨current, hStill, hCons⟩
      · refine ⟨_, hWritten, hChanged.write decision.now hText hLive ?_⟩
        have hRight := (hAllowed text update rfl).cases hText (h.found i text)
        rwa [learned_request] at hRight
    · rw [hSame]
      exact ⟨current, hCurrent, hCons⟩

/-- Whatever requests run, the type of an organisation stays, and a deleted one stays as it is. Only
a SUPER_ADMIN deletes it. Its name and settings are changed by a SUPER_ADMIN or an administrator of
its own. -/
theorem organization_changes {point : Point organizations ι (List StoredOrganization)}
    (run : GuardedRun anyStep (organizationPool start requests) point) {id : ObjectId}
    {before : StoredOrganization} (hBefore : start.get? id = some before) :
    ∃ after, Collection.get? point.2.store id = some after ∧
      Changed requests point.1 before after := by
  have hAccounted : Accounted requests start point.1 point.2.store := by
    refine GuardedRun.invariant writesWithRight (fun i => { request := requests i }) run
      (fun i => program_follows (requests i)) (Accounted requests start) ?_
      fun history store decision i call ih hAllowed _ => ih.step decision i call hAllowed
    refine ⟨fun _ _ _ hNone => ?_, fun _ before hBefore => ⟨before, hBefore, .refl before⟩⟩
    cases hNone
  exact hAccounted.changed id before hBefore

end Runs

section Sample

private def sampleOrganization : StoredOrganization where
  id := .repeated 3
  name := "Navin"
  type := .enterprise
  settings := .object []
  deletedAt := none
  createdAt := ⟨0⟩
  updatedAt := ⟨0⟩

private def oneOrganization : OrganizationStore :=
  ⟨[sampleOrganization], Collection.nodup_single _ _⟩

/-- An administrator renames the organisation, and a SUPER_ADMIN deletes it. -/
private def renameAndDelete (i : Fin 2) : OrganizationRequest :=
  if i = 0 then .update (ObjectId.repeated 3).toString ⟨some "Navin Freight", none⟩
    ⟨some .admin, some (ObjectId.repeated 3).toString⟩
  else .delete (ObjectId.repeated 3).toString ⟨some .superAdmin, none⟩

private def untroubled : OrganizationDecision where
  freshId := .repeated 9
  now := ⟨1000⟩

private def renamedAndDeleted : Point organizations (Fin 2) (List StoredOrganization) → Bool
  | (_, pool) => (Collection.get? pool.store (.repeated 3)).any fun organization =>
      organization.name = "Navin Freight" && organization.deletedAt.isSome

theorem organization_changes_sample :
    ∃ (point : Point organizations (Fin 2) (List StoredOrganization)) (after : _),
      Collection.get? point.2.store (.repeated 3) = some after ∧
      after.name = "Navin Freight" ∧ after.deletedAt ≠ none ∧
      Changed renameAndDelete point.1 sampleOrganization after := by
  obtain ⟨point, run, hTest⟩ := Pool.exists_run anyStep
    (organizationPool oneOrganization renameAndDelete) renamedAndDeleted
    [(untroubled, 0), (untroubled, 0), (untroubled, 1), (untroubled, 1), (untroubled, 1)]
    (by decide +kernel)
  have hBefore : oneOrganization.get? (.repeated 3) = some sampleOrganization := rfl
  obtain ⟨after, hAfter, hChanged⟩ := organization_changes run hBefore
  simp only [renamedAndDeleted, hAfter, Option.any_some, Bool.and_eq_true, decide_eq_true_eq,
    Option.isSome_iff_ne_none] at hTest
  exact ⟨point, after, hAfter, hTest.1, hTest.2, hChanged⟩

end Sample

end Navin.Organizations
