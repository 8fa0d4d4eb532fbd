import Navin.Backend.Documents

/-! Users, organisations, sessions, invitations, and the tokens the server
signs. Fields no modelled function reads or writes are left out. -/
namespace Navin

inductive OrganizationType where
  | enterprise
  | logistics
deriving DecidableEq

inductive Persona where
  | company
  | customer
deriving DecidableEq

structure User where
  id : ObjectId
  email : String
  name : String
  passwordHash : String
  role : UserRole
  organizationId : Option ObjectId
  deletedAt : Option Date
deriving DecidableEq

/-- The argument of `UserModel.create`. -/
structure UserFields where
  email : String
  name : String
  passwordHash : String
  role : UserRole
  organizationId : Option String
deriving DecidableEq

/-- The paths a loaded user has had modified when it is saved. -/
structure UserChanges where
  email : Option String := none
  name : Option String := none
  passwordHash : Option String := none

def UserChanges.apply (changes : UserChanges) (user : User) : User :=
  { user with
    email := changes.email.getD user.email
    name := changes.name.getD user.name
    passwordHash := changes.passwordHash.getD user.passwordHash }

def User.markDeleted (deletedAt : Date) (user : User) : User :=
  { user with deletedAt := some deletedAt }

@[simp] theorem UserChanges.apply_id (changes : UserChanges) (user : User) :
    (changes.apply user).id = user.id := rfl

@[simp] theorem UserChanges.apply_role (changes : UserChanges) (user : User) :
    (changes.apply user).role = user.role := rfl

structure CompanySettings where
  industry : String
  country : String
  companySize : String
deriving DecidableEq

structure Organization where
  id : ObjectId
  name : String
  type : OrganizationType
  settings : Option CompanySettings
  deletedAt : Option Date
deriving DecidableEq

structure Session where
  userId : ObjectId
  jti : String
  ip : Option String
  userAgent : Option String
deriving DecidableEq

inductive InvitationStatus where
  | pending
  | accepted
  | expired
  | revoked
deriving DecidableEq

def InvitationStatus.name : InvitationStatus → String
  | .pending => "PENDING"
  | .accepted => "ACCEPTED"
  | .expired => "EXPIRED"
  | .revoked => "REVOKED"

/-- The argument of `createInvitation`. -/
structure InvitationFields where
  email : String
  role : UserRole
  tokenHash : String
  expiresAt : Date
  message : Option String
  invitedBy : String
  organizationId : String
deriving DecidableEq

structure Invitation where
  id : ObjectId
  email : String
  role : UserRole
  status : InvitationStatus
  tokenHash : String
  expiresAt : Date
  message : Option String
  invitedBy : ObjectId
  organizationId : ObjectId
  deletedAt : Option Date
deriving DecidableEq

/-- The updates the services send for an invitation. -/
structure InvitationUpdate where
  status : Option InvitationStatus := none
  tokenHash : Option String := none
  expiresAt : Option Date := none
deriving DecidableEq

def InvitationUpdate.apply (update : InvitationUpdate) (invitation : Invitation) : Invitation :=
  { invitation with
    status := update.status.getD invitation.status
    tokenHash := update.tokenHash.getD invitation.tokenHash
    expiresAt := update.expiresAt.getD invitation.expiresAt }

theorem InvitationUpdate.apply_id (update : InvitationUpdate) (invitation : Invitation) :
    (update.apply invitation).id = invitation.id := rfl

inductive TokenType where
  | passwordReset
  | userInvitation
  | companyInvitation
deriving DecidableEq

/-- The properties any of the issuers puts into a token. -/
structure Claims where
  type : Option TokenType := none
  userId : Option String := none
  role : Option UserRole := none
  persona : Option Persona := none
  organizationId : Option String := none
  organizationType : Option OrganizationType := none
  jti : Option String := none
  email : Option String := none
  invitedBy : Option String := none
  invitationId : Option String := none
  nonce : Option String := none
deriving DecidableEq

/-- A token is what it carries; times are in seconds. Whether it verifies
depends on whether the server signed it. -/
structure Token where
  claims : Claims
  iat : Nat
  exp : Nat
deriving DecidableEq

end Navin
