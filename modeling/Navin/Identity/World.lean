import Navin.Identity.Interface
import Navin.Semantics.Collection
import Navin.Shared.Uuid

/-! The atomic effect of each identity call. Time is in whole seconds and may
pass after any call; calls that stay inside the process cannot fail. Signatures
are ideal: a token verifies when the server has signed it. -/
namespace Navin

open Async

structure IdentityStore where
  clock : Nat := 0
  users : Collection User.id := .empty
  organizations : Collection Organization.id := .empty
  sessions : Collection Session.jti := .empty
  invitations : Collection Invitation.id := .empty
  signed : List Token := []
  drawn : List String := []
  redis : List (String × Nat) := []

namespace IdentityStore

variable (store : IdentityStore)

def liveUser (id : ObjectId) : Option User :=
  (store.users.get? id).filter fun user => user.deletedAt.isNone

def liveUserByEmail (email : String) : Option User :=
  store.users.docs.find? fun user => user.email = email && user.deletedAt.isNone

def liveOrganization (id : ObjectId) : Option Organization :=
  (store.organizations.get? id).filter fun organization => organization.deletedAt.isNone

def liveInvitation (id : ObjectId) : Option Invitation :=
  (store.invitations.get? id).filter fun invitation => invitation.deletedAt.isNone

/-- Whether a key written with `EX` is still there: the last write counts. -/
def holds (key : String) : Bool :=
  (store.redis.lookup key).any fun gone => store.clock < gone

def modifyUser (id : ObjectId) (f : User → User) (hId : ∀ user, (f user).id = user.id) :
    IdentityStore :=
  { store with users := store.users.modify id f hId }

end IdentityStore

/-- What the world decides when a call is made. Time passes after the call. -/
structure IdentityDecision where
  fault : Option Fault := none
  elapsed : Nat := 0
  uuid : String := ""
  bytes : String := ""
  freshId : ObjectId := .repeated 0
  organizationId : ObjectId := .repeated 0

/-- The schema's view of the fields, once the organisation id has been cast. -/
def UserFields.user (fields : UserFields) (id : ObjectId) (organizationId : Option ObjectId) :
    User where
  id := id
  email := fields.email
  name := fields.name
  passwordHash := fields.passwordHash
  role := fields.role
  organizationId := organizationId
  deletedAt := none

def InvitationFields.invitation (fields : InvitationFields)
    (id invitedBy organizationId : ObjectId) : Invitation where
  id := id
  email := fields.email
  role := fields.role
  status := .pending
  tokenHash := fields.tokenHash
  expiresAt := fields.expiresAt
  message := fields.message
  invitedBy := invitedBy
  organizationId := organizationId
  deletedAt := none

/-- Insert a user. Emails are unique, those of deleted users included. -/
def IdentityStore.insertUser (store : IdentityStore) (user : User) :
    IdentityStore × Except ThrownError User :=
  if h : store.users.get? user.id = none ∧ ∀ other ∈ store.users.docs, other.email ≠ user.email then
    ({ store with users := store.users.insert user h.1 }, .ok user)
  else (store, .error .duplicateKey)

def IdentityStore.insertOrganization (store : IdentityStore) (organization : Organization) :
    IdentityStore × Except ThrownError Organization :=
  if h : store.organizations.get? organization.id = none ∧
      ∀ other ∈ store.organizations.docs, other.name ≠ organization.name then
    ({ store with organizations := store.organizations.insert organization h.1 }, .ok organization)
  else (store, .error .duplicateKey)

/-- The transaction of a company registration: both documents or none. -/
def IdentityStore.insertCompany (store : IdentityStore) (organization : Organization)
    (admin : User) : IdentityStore × Except ThrownError User :=
  match store.insertOrganization organization with
  | (_, .error error) => (store, .error error)
  | (inserted, .ok _) =>
      match inserted.insertUser admin with
      | (_, .error error) => (store, .error error)
      | (final, .ok user) => (final, .ok user)

def IdentityStore.insertInvitation (store : IdentityStore) (invitation : Invitation) :
    IdentityStore × Except ThrownError Invitation :=
  if h : store.invitations.get? invitation.id = none ∧
      ∀ other ∈ store.invitations.docs, other.tokenHash ≠ invitation.tokenHash then
    ({ store with invitations := store.invitations.insert invitation h.1 }, .ok invitation)
  else (store, .error .duplicateKey)

def executeIdentity (decision : IdentityDecision) (store : IdentityStore) :
    (call : IdentityCall) → IdentityStore × Except ThrownError call.Answer
  | .now => (store, .ok store.clock)
  | .randomUUID =>
      if isDrawnUuid decision.uuid ∧ decision.uuid ∉ store.drawn then
        ({ store with drawn := decision.uuid :: store.drawn }, .ok decision.uuid)
      else (store, .error .unavailable)
  | .randomBytes _ => (store, .ok decision.bytes)
  | .signToken claims expiresIn =>
      let token : Token := ⟨claims, store.clock, store.clock + expiresIn⟩
      ({ store with signed := token :: store.signed }, .ok token)
  | .verifyToken token ignoreExpiration =>
      if token ∈ store.signed ∧ (ignoreExpiration = true ∨ store.clock < token.exp) then
        (store, .ok ())
      else (store, .error .invalidToken)
  | .userFindByEmail email => (store, .ok (store.liveUserByEmail email))
  | .userFindById id => castingId store id fun id => (store, .ok (store.liveUser id))
  | .userCreate fields =>
      match fields.organizationId with
      | none => store.insertUser (fields.user decision.freshId none)
      | some organizationId => castingId store organizationId fun organizationId =>
          store.insertUser (fields.user decision.freshId (some organizationId))
  | .userSave id changes =>
      match store.users.get? id with
      | none => (store, .error .documentNotFound)
      | some user =>
          if ∃ other ∈ store.users.docs, other.id ≠ id ∧ other.email = (changes.apply user).email then
            (store, .error .duplicateKey)
          else (store.modifyUser id changes.apply changes.apply_id, .ok ())
  | .userSoftDelete id deletedAt => castingId store id fun id =>
      match store.liveUser id with
      | none => (store, .ok none)
      | some user =>
          (store.modifyUser id (User.markDeleted deletedAt) fun _ => rfl,
            .ok (some (user.markDeleted deletedAt)))
  | .organizationFindById id => (store, .ok (store.liveOrganization id))
  | .organizationFindByName name =>
      (store, .ok (store.organizations.docs.find? fun organization =>
        organization.name = name && organization.deletedAt.isNone))
  | .organizationRename id name =>
      match store.liveOrganization id with
      | none => (store, .ok none)
      | some organization =>
          if ∃ other ∈ store.organizations.docs, other.id ≠ id ∧ other.name = name then
            (store, .error .duplicateKey)
          else
            let renamed := store.organizations.modify id
              (fun organization => { organization with name }) fun _ => rfl
            ({ store with organizations := renamed }, .ok (some { organization with name }))
  | .companyCreate name settings admin =>
      store.insertCompany
        { id := decision.organizationId, name, type := .enterprise, settings := some settings
          deletedAt := none }
        (admin.user decision.freshId (some decision.organizationId))
  | .sessionCreate userId jti ip userAgent => castingId store userId fun userId =>
      let session : Session := { userId, jti, ip, userAgent }
      if h : store.sessions.get? session.jti = none then
        ({ store with sessions := store.sessions.insert session h }, .ok ())
      else (store, .error .duplicateKey)
  | .sessionFindByJti jti => (store, .ok (store.sessions.get? jti))
  | .sessionDelete jti =>
      ({ store with sessions := store.sessions.filter fun session => session.jti ≠ jti }, .ok ())
  | .invitationFindPending email organizationId => castingId store organizationId fun organizationId =>
      (store, .ok (store.invitations.docs.find? fun invitation =>
        invitation.email = email && invitation.organizationId = organizationId &&
          invitation.status = .pending && invitation.deletedAt.isNone))
  | .invitationCreate fields => castingId store fields.invitedBy fun invitedBy =>
      castingId store fields.organizationId fun organizationId =>
        store.insertInvitation (fields.invitation decision.freshId invitedBy organizationId)
  | .invitationFindById id => castingId store id fun id => (store, .ok (store.liveInvitation id))
  | .invitationUpdateByTokenHash tokenHash update =>
      match store.invitations.docs.find? fun invitation =>
        invitation.tokenHash = tokenHash && invitation.deletedAt.isNone with
      | none => (store, .ok none)
      | some invitation =>
          let updated := update.apply invitation
          if ∃ other ∈ store.invitations.docs,
              other.id ≠ invitation.id ∧ other.tokenHash = updated.tokenHash then
            (store, .error .duplicateKey)
          else
            ({ store with invitations :=
                store.invitations.modify invitation.id update.apply update.apply_id },
              .ok (some updated))
  | .invitationRevoke id => castingId store id fun id =>
      match store.liveInvitation id with
      | none => (store, .ok none)
      | some invitation =>
          let update : InvitationUpdate := { status := some .revoked }
          ({ store with invitations := store.invitations.modify id update.apply update.apply_id },
            .ok (some (update.apply invitation)))
  | .redisSet key ttlSeconds =>
      ({ store with redis := (key, store.clock + ttlSeconds) :: store.redis }, .ok ())
  | .redisGet key => (store, .ok (if store.holds key then some "1" else none))
  | .sendEmail _ => (store, .ok ())
  | .auditInvitation _ => (store, .ok ())

/-- Clock and tokens need nobody else; the audit log swallows errors. -/
def IdentityCall.fallible : IdentityCall → Bool
  | .now | .signToken _ _ | .verifyToken _ _ | .auditInvitation _ => false
  | _ => true

def IdentityStore.elapse (store : IdentityStore) (seconds : Nat) : IdentityStore :=
  { store with clock := store.clock + seconds }

/-- A call together with what may go wrong with it. -/
def settleIdentity (decision : IdentityDecision) (store : IdentityStore) (call : IdentityCall) :
    IdentityStore × Except ThrownError call.Answer :=
  match if call.fallible then decision.fault else none with
  | none => executeIdentity decision store call
  | some (.rejected error) => (store, .error error)
  | some (.lost error) => ((executeIdentity decision store call).1, .error error)

def performIdentity (decision : IdentityDecision) (store : IdentityStore) (call : IdentityCall) :
    IdentityStore × Except ThrownError call.Answer :=
  ((settleIdentity decision store call).1.elapse decision.elapsed,
    (settleIdentity decision store call).2)

abbrev identity : World IdentityCall IdentityCall.Answer ThrownError where
  Store := IdentityStore
  Env := IdentityDecision
  perform := performIdentity

end Navin
