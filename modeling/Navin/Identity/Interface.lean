import Navin.Identity.Documents
import Navin.Semantics.Interleaving

/-! Everything the authentication, user and invitation code awaits. Clock,
randomness and tokens are calls as well: signing and verifying read the clock. -/
namespace Navin

open Async

/-- The audit entry of a user invitation. -/
structure InvitationAudit where
  userId : String
  invitedEmail : String
  role : UserRole
  organizationId : String
  timestamp : Date
deriving DecidableEq

/-- An email with a link; the link carries the token. -/
structure Email where
  recipient : String
  subject : String
  path : String
  token : Token
  inviterName : Option String := none
deriving DecidableEq

inductive IdentityCall where
  | now
  | randomUUID
  | randomBytes (size : Nat)
  | signToken (claims : Claims) (expiresIn : Nat)
  | verifyToken (token : Token) (ignoreExpiration : Bool)
  | userFindByEmail (email : String)
  | userFindById (id : String)
  | userCreate (fields : UserFields)
  | userSave (id : ObjectId) (changes : UserChanges)
  | userSoftDelete (id : String) (deletedAt : Date)
  | organizationFindById (id : ObjectId)
  | organizationFindByName (name : String)
  | organizationRename (id : ObjectId) (name : String)
  | companyCreate (name : String) (settings : CompanySettings) (admin : UserFields)
  | sessionCreate (userId jti : String) (ip userAgent : Option String)
  | sessionFindByJti (jti : String)
  | sessionDelete (jti : String)
  | invitationFindPending (email organizationId : String)
  | invitationCreate (fields : InvitationFields)
  | invitationFindById (id : String)
  | invitationUpdateByTokenHash (tokenHash : String) (update : InvitationUpdate)
  | invitationRevoke (id : String)
  | redisSet (key : String) (ttlSeconds : Nat)
  | redisGet (key : String)
  | sendEmail (email : Email)
  | auditInvitation (entry : InvitationAudit)

@[reducible] def IdentityCall.Answer : IdentityCall → Type
  | .now => Nat
  | .randomUUID => String
  | .randomBytes _ => String
  | .signToken _ _ => Token
  | .verifyToken _ _ => Unit
  | .userFindByEmail _ => Option User
  | .userFindById _ => Option User
  | .userCreate _ => User
  | .userSave _ _ => Unit
  | .userSoftDelete _ _ => Option User
  | .organizationFindById _ => Option Organization
  | .organizationFindByName _ => Option Organization
  | .organizationRename _ _ => Option Organization
  | .companyCreate _ _ _ => User
  | .sessionCreate _ _ _ _ => Unit
  | .sessionFindByJti _ => Option Session
  | .sessionDelete _ => Unit
  | .invitationFindPending _ _ => Option Invitation
  | .invitationCreate _ => Invitation
  | .invitationFindById _ => Option Invitation
  | .invitationUpdateByTokenHash _ _ => Option Invitation
  | .invitationRevoke _ => Option Invitation
  | .redisSet _ _ => Unit
  | .redisGet _ => Option String
  | .sendEmail _ => Unit
  | .auditInvitation _ => Unit

/-- Programs over the identity calls. -/
abbrev IdentityM : Type → Type :=
  Program IdentityCall IdentityCall.Answer ThrownError

/-- Calls that create nothing and touch no blocklist entry. -/
def IdentityCall.ordinary : IdentityCall → Bool
  | .signToken _ _ | .userCreate _ | .companyCreate _ _ _ | .sessionCreate _ _ _ _
  | .invitationCreate _ | .redisSet _ _ | .redisGet _ => false
  | _ => true

/-- One settled identity call of a request in a run. -/
abbrev IdentityEvent (ι : Type) : Type :=
  Event IdentityCall IdentityCall.Answer ThrownError ι

abbrev ask (call : IdentityCall) : IdentityM call.Answer :=
  Program.await call

end Navin
