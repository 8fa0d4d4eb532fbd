import Navin.Shared.Crypto
import Navin.Users.Service

/-! Company invitations. An invitation is a stored document; its token is kept
only as a hash, and a resent invitation gets a new token. -/
namespace Navin

open Async

/-- The compact text of a signed token. -/
class TokenText where
  compact : Token → String

namespace Invitations

def inviteExpirySeconds : Nat := 48 * 60 * 60

/-- What identifies one invitation token. -/
structure InviteTokenPayload where
  invitationId : String
  email : String
  role : UserRole
  organizationId : String
  nonce : String

def invitationClaims (payload : InviteTokenPayload) : Claims :=
  { type := some .companyInvitation
    invitationId := some payload.invitationId
    email := some payload.email
    role := some payload.role
    organizationId := some payload.organizationId
    nonce := some payload.nonce }

structure CreateInput where
  email : String
  role : UserRole
  message : Option String
  inviterId : String
  inviterRole : Option UserRole
  organizationId : String

structure AcceptInput where
  token : Token
  name : String
  password : String

structure SentInvitation where
  id : ObjectId
  token : Token
  email : String
  expiresAt : Date
  expiresInSeconds : Nat

structure InvitationInfo where
  invitationId : ObjectId
  email : String
  role : UserRole
  companyName : String
  expiresAt : Date

def notFound : ThrownError :=
  appError 404 "Invitation not found" "ERR_NOT_FOUND"

def forbidden : ThrownError :=
  appError 403 "Forbidden" "ERR_PERMISSION_DENIED"

def generateInvitationToken (payload : InviteTokenPayload) : IdentityM Token :=
  ask (.signToken (invitationClaims payload) inviteExpirySeconds)

/-- A token of another type is refused with an error of its own. -/
def verifyInvitationToken (token : Token) : IdentityM Token := do
  let payload ← tryCatch (verifyToken token) fun _ =>
    throw (appError 401 "Invalid or expired invitation token" "ERR_AUTH_INVALID")
  if payload.claims.type ≠ some .companyInvitation then
    throw (appError 400 "Invalid invitation token type" "ERR_BAD_REQUEST")
  else
    return payload

/-- `new Date(Date.now() + INVITE_EXPIRY_SECONDS * 1000)`. -/
def newExpiry : IdentityM Date := do
  let seconds ← nowSeconds
  return ⟨1000 * seconds + 1000 * inviteExpirySeconds⟩

/-- Mail the link. Failures are logged only: the reply carries the token too. -/
def sendInvitation (email subject : String) (token : Token) (inviterId : String) :
    IdentityM Unit := do
  let inviter ← ask (.userFindById inviterId)
  tryCatch (ask (.sendEmail ⟨email, subject, "/invitations/accept", token, inviter.map (·.name)⟩))
    fun _ => pure ()

/-- `findById` of an absent id finds nothing. -/
def findPayloadInvitation (payload : Token) : IdentityM (Option Invitation) :=
  match payload.claims.invitationId with
  | none => return none
  | some invitationId => ask (.invitationFindById invitationId)

/-- The invitation a token is about, while it can still be accepted. An expired
one is marked as such on the way. -/
def pendingInvitation (payload : Token) : IdentityM Invitation := do
  let some invitation ← findPayloadInvitation payload | throw notFound
  if invitation.status ≠ .pending then
    throw (appError 400 ("Invitation is " ++ invitation.status.name) "ERR_BAD_REQUEST")
  else
    let now ← newDate
    if now.ms > invitation.expiresAt.ms then
      let _ ← ask (.invitationUpdateByTokenHash invitation.tokenHash { status := some .expired })
      throw (appError 400 "Invitation has expired" "ERR_BAD_REQUEST")
    else
      return invitation

def getInvitationInfo (token : Token) : IdentityM InvitationInfo := do
  let payload ← verifyInvitationToken token
  let invitation ← pendingInvitation payload
  let org ← ask (.organizationFindById invitation.organizationId)
  return {
    invitationId := invitation.id
    email := invitation.email
    role := invitation.role
    companyName := (org.map (·.name)).getD "Unknown Organization"
    expiresAt := invitation.expiresAt }

/-- The stored invitation, if it belongs to the caller's organisation. -/
def ownInvitation (invitationId organizationId : String) : IdentityM Invitation := do
  let some invitation ← ask (.invitationFindById invitationId) | throw notFound
  if invitation.organizationId.toString ≠ organizationId then throw forbidden
  else return invitation

def revokeInvitationById (invitationId organizationId : String) :
    IdentityM (Option Invitation) := do
  let _ ← ownInvitation invitationId organizationId
  ask (.invitationRevoke invitationId)

def acceptInvitationWithPassword [Bcrypt] (input : AcceptInput) : IdentityM UserSummary := do
  let payload ← verifyInvitationToken input.token
  let invitation ← pendingInvitation payload
  match ← ask (.userFindByEmail invitation.email) with
  | some _ => throw Users.emailTaken
  | none =>
      let passwordHash ← hashPassword input.password
      let user ← ask (.userCreate
        { email := invitation.email
          name := input.name
          passwordHash
          role := invitation.role
          organizationId := some invitation.organizationId.toString })
      let _ ← ask (.invitationUpdateByTokenHash invitation.tokenHash { status := some .accepted })
      return user.summary

section Hashing

variable [Sha256] [TokenText]

def hashToken (token : Token) : String :=
  Sha256.hexDigest (TokenText.compact token)

/-- The document is created under the hash of a first token, which cannot know
the id yet; the token that is sent replaces it. -/
def createAndSendInvitation (input : CreateInput) : IdentityM SentInvitation := do
  if input.role = .superAdmin then
    throw (appError 400 "Cannot invite SUPER_ADMIN users" "INVALID_ROLE")
  else if input.role ∉ (input.inviterRole.map allowedByRole).getD [] then
    throw (appError 403 "Forbidden: insufficient role to invite this role" "ERR_PERMISSION_DENIED")
  else
    match ← ask (.userFindByEmail input.email) with
    | some _ => throw Users.emailTaken
    | none =>
        match ← ask (.invitationFindPending input.email input.organizationId) with
        | some _ => throw (appError 409 "Invitation already pending for this email" "DUPLICATE_KEY")
        | none =>
            let firstNonce ← ask .randomUUID
            let token ← generateInvitationToken
              ⟨"", input.email, input.role, input.organizationId, firstNonce⟩
            let expiresAt ← newExpiry
            let invitation ← ask (.invitationCreate
              { email := input.email
                role := input.role
                tokenHash := hashToken token
                expiresAt
                message := input.message
                invitedBy := input.inviterId
                organizationId := input.organizationId })
            let nonce ← ask .randomUUID
            let finalToken ← generateInvitationToken
              ⟨invitation.id.toString, input.email, input.role, input.organizationId, nonce⟩
            let _ ← ask (.invitationUpdateByTokenHash (hashToken token)
              { tokenHash := some (hashToken finalToken) })
            sendInvitation input.email "You're invited to join Navin" finalToken input.inviterId
            return ⟨invitation.id, finalToken, input.email, expiresAt, inviteExpirySeconds⟩

def resendInvitation (invitationId organizationId : String) : IdentityM SentInvitation := do
  let invitation ← ownInvitation invitationId organizationId
  if invitation.status ≠ .pending then
    throw (appError 400 ("Cannot resend " ++ invitation.status.name ++ " invitation")
      "ERR_BAD_REQUEST")
  else
    let nonce ← ask .randomUUID
    let newToken ← generateInvitationToken
      ⟨invitationId, invitation.email, invitation.role, invitation.organizationId.toString, nonce⟩
    let expiresAt ← newExpiry
    let _ ← ask (.invitationUpdateByTokenHash invitation.tokenHash
      { tokenHash := some (hashToken newToken), expiresAt := some expiresAt })
    sendInvitation invitation.email "Resend: You're invited to join Navin" newToken
      invitation.invitedBy.toString
    return ⟨invitation.id, newToken, invitation.email, expiresAt, inviteExpirySeconds⟩

end Hashing

section Properties

variable {T : (α : Type) → IdentityM α → Prop} (hT : Program.Compositional T)
  (hOrdinary : ∀ call : IdentityCall, call.ordinary → T _ (ask call))
include hT hOrdinary

theorem verifyInvitationToken_holds (token : Token) : T _ (verifyInvitationToken token) := by
  refine hT.bind (verifyOr_holds hT hOrdinary token _) fun payload => ?_
  split
  · exact hT.throw _
  · exact hT.pure _

theorem newExpiry_holds : T _ newExpiry :=
  hT.bind (hOrdinary .now rfl) fun _ => hT.pure _

theorem sendInvitation_holds (email subject : String) (token : Token) (inviterId : String) :
    T _ (sendInvitation email subject token inviterId) := by
  refine hT.bind (hOrdinary (.userFindById _) rfl) fun inviter => ?_
  exact hT.tryCatch (hOrdinary (.sendEmail _) rfl) fun _ => hT.pure _

theorem findPayloadInvitation_holds (payload : Token) : T _ (findPayloadInvitation payload) := by
  unfold findPayloadInvitation
  split
  · exact hT.pure _
  · exact hOrdinary (.invitationFindById _) rfl

/-- What happens to an invitation that was found. -/
theorem pendingInvitation_holds (payload : Token) : T _ (pendingInvitation payload) := by
  refine hT.bind (findPayloadInvitation_holds hT hOrdinary payload) fun found => ?_
  cases found with
  | none => exact hT.throw _
  | some invitation =>
      dsimp only
      split
      · exact hT.throw _
      · refine hT.bind (newDate_holds hT hOrdinary) fun now => ?_
        split
        · exact hT.bind (hOrdinary (.invitationUpdateByTokenHash _ _) rfl) fun _ => hT.throw _
        · exact hT.pure _

theorem getInvitationInfo_holds (token : Token) : T _ (getInvitationInfo token) := by
  refine hT.bind (verifyInvitationToken_holds hT hOrdinary token) fun payload => ?_
  refine hT.bind (pendingInvitation_holds hT hOrdinary payload) fun invitation => ?_
  exact hT.bind (hOrdinary (.organizationFindById _) rfl) fun _ => hT.pure _

theorem ownInvitation_holds (invitationId organizationId : String) :
    T _ (ownInvitation invitationId organizationId) := by
  refine hT.bind (hOrdinary (.invitationFindById _) rfl) fun found => ?_
  cases found with
  | none => exact hT.throw _
  | some invitation =>
      dsimp only
      split
      · exact hT.throw _
      · exact hT.pure _

theorem revokeInvitationById_holds (invitationId organizationId : String) :
    T _ (revokeInvitationById invitationId organizationId) :=
  hT.bind (ownInvitation_holds hT hOrdinary _ _) fun _ => hOrdinary (.invitationRevoke _) rfl

theorem acceptInvitationWithPassword_holds [Bcrypt] {input : AcceptInput}
    (hCreate : ∀ fields, T _ (ask (.userCreate fields))) :
    T _ (acceptInvitationWithPassword input) := by
  refine hT.bind (verifyInvitationToken_holds hT hOrdinary _) fun payload => ?_
  refine hT.bind (pendingInvitation_holds hT hOrdinary payload) fun invitation => ?_
  refine hT.bind (hOrdinary (.userFindByEmail _) rfl) fun existing => ?_
  cases existing with
  | some user => exact hT.throw _
  | none =>
      refine hT.bind (hashPassword_holds hT hOrdinary _) fun passwordHash => ?_
      refine hT.bind (hCreate _) fun user => ?_
      exact hT.bind (hOrdinary (.invitationUpdateByTokenHash _ _) rfl) fun _ => hT.pure _

variable [Sha256] [TokenText] (hSign : ∀ payload, T _ (generateInvitationToken payload))
include hSign

/-- An invitation is stored only for a role that may be given away. -/
theorem createAndSendInvitation_holds {input : CreateInput}
    (hCreate : ∀ fields : InvitationFields, fields.role ≠ .superAdmin →
      T _ (ask (.invitationCreate fields))) :
    T _ (createAndSendInvitation input) := by
  unfold createAndSendInvitation
  split
  · exact hT.throw _
  · rename_i hRole
    split
    · exact hT.throw _
    · refine hT.bind (hOrdinary (.userFindByEmail _) rfl) fun existing => ?_
      cases existing with
      | some user => exact hT.throw _
      | none =>
          refine hT.bind (hOrdinary (.invitationFindPending _ _) rfl) fun pending => ?_
          cases pending with
          | some invitation => exact hT.throw _
          | none =>
              refine hT.bind (hOrdinary .randomUUID rfl) fun firstNonce => ?_
              refine hT.bind (hSign _) fun token => ?_
              refine hT.bind (newExpiry_holds hT hOrdinary) fun expiresAt => ?_
              refine hT.bind (hCreate _ hRole) fun invitation => ?_
              refine hT.bind (hOrdinary .randomUUID rfl) fun nonce => ?_
              refine hT.bind (hSign _) fun finalToken => ?_
              refine hT.bind (hOrdinary (.invitationUpdateByTokenHash _ _) rfl) fun _ => ?_
              exact hT.bind (sendInvitation_holds hT hOrdinary _ _ _ _) fun _ => hT.pure _

theorem resendInvitation_holds (invitationId organizationId : String) :
    T _ (resendInvitation invitationId organizationId) := by
  refine hT.bind (ownInvitation_holds hT hOrdinary _ _) fun invitation => ?_
  split
  · exact hT.throw _
  · refine hT.bind (hOrdinary .randomUUID rfl) fun nonce => ?_
    refine hT.bind (hSign _) fun newToken => ?_
    refine hT.bind (newExpiry_holds hT hOrdinary) fun expiresAt => ?_
    refine hT.bind (hOrdinary (.invitationUpdateByTokenHash _ _) rfl) fun _ => ?_
    exact hT.bind (sendInvitation_holds hT hOrdinary _ _ _ _) fun _ => hT.pure _

end Properties

end Invitations

end Navin
