import Navin.Auth.Service

/-! Users as `users.service` administers them: registration, team members,
profile updates, removal, and invitation links. -/
namespace Navin

open Async

/-- Which roles an inviter may give away. -/
def allowedByRole : UserRole → List UserRole
  | .superAdmin => [.admin, .manager, .driver, .viewer, .customer]
  | .admin => [.manager, .driver, .viewer, .customer]
  | _ => []

/-- Nobody gives the highest role away. -/
theorem superAdmin_not_mem_allowedByRole (role : UserRole) :
    UserRole.superAdmin ∉ allowedByRole role := by
  cases role <;> decide

namespace Users

structure NewUserInput where
  email : String
  name : String
  role : Option UserRole
  organizationId : Option String

structure UpdateInput where
  fullName : Option String
  email : Option String
  companyName : Option String

structure InvitationLinkInput where
  email : String
  role : UserRole
  inviterUserId : String
  inviterRole : Option UserRole
  organizationId : Option String

structure AcceptInvitationInput where
  token : Token
  name : String
  password : String

/-- What a verified invitation says. -/
structure VerifiedInvitation where
  email : String
  role : UserRole
  organizationId : String
  invitedBy : Option String
  expiresAt : Option String

structure InvitationLink where
  token : Token
  expiresInSeconds : Nat

def inviteExpirySeconds : Nat := 48 * 60 * 60

def invitationClaims (email : String) (role : UserRole) (organizationId invitedBy : String) :
    Claims :=
  { type := some .userInvitation
    email := some email
    role := some role
    organizationId := some organizationId
    invitedBy := some invitedBy }

def emailTaken : ThrownError :=
  appError 409 "Email already in use" "EMAIL_TAKEN"

def userNotFound : ThrownError :=
  appError 404 "User not found" "USER_NOT_FOUND"

/-- An update of `deletedAt` by id. -/
def deleteUser (id : String) : IdentityM User := do
  let deletedAt ← newDate
  let some user ← ask (.userSoftDelete id deletedAt) | throw userNotFound
  return user

def generateInvitationLink (input : InvitationLinkInput) : IdentityM InvitationLink := do
  let some organizationId := truthy input.organizationId
    | throw (appError 403 "Organization context is required" "FORBIDDEN")
  let some inviterRole := input.inviterRole
    | throw (appError 403 "Forbidden: insufficient role" "FORBIDDEN")
  if input.role = .superAdmin then
    throw (appError 400 "Cannot invite SUPER_ADMIN users" "INVALID_ROLE")
  else if input.role ∉ allowedByRole inviterRole then
    throw (appError 403 "Forbidden: insufficient role" "FORBIDDEN")
  else
    match ← ask (.userFindByEmail input.email) with
    | some _ => throw emailTaken
    | none =>
        let token ← ask (.signToken
          (invitationClaims input.email input.role organizationId input.inviterUserId)
          inviteExpirySeconds)
        tryCatch (ask (.sendEmail ⟨input.email, "You're Invited to Navin", "/signup", token, none⟩))
          fun _ => pure ()
        let timestamp ← newDate
        ask (.auditInvitation
          { userId := input.inviterUserId
            invitedEmail := input.email
            role := input.role
            organizationId
            timestamp })
        return ⟨token, inviteExpirySeconds⟩

def verifyInvitationToken (token : Token) : IdentityM VerifiedInvitation := do
  let payload ← tryCatch (verifyToken token) fun _ =>
    throw (appError 401 "Invalid or expired invitation token" "UNAUTHORIZED")
  if payload.claims.type ≠ some .userInvitation then
    throw (appError 401 "Invalid invitation token" "UNAUTHORIZED")
  else
    match truthy payload.claims.organizationId, truthy payload.claims.email,
      payload.claims.role with
    | some organizationId, some email, some role =>
        return {
          email, role, organizationId
          invitedBy := truthy payload.claims.invitedBy
          expiresAt := if payload.exp = 0 then none
            else some (Date.toISOString ⟨1000 * payload.exp⟩) }
    | _, _, _ => throw (appError 401 "Invalid invitation token payload" "UNAUTHORIZED")

/-- Name and email of the caller, and the name of the organisation of an admin. -/
def updateCurrentUser (userId : String) (input : UpdateInput) : IdentityM (Option User) := do
  let some user ← ask (.userFindById userId) | throw userNotFound
  let email ← changedEmail user
  renameOrganization user
  ask (.userSave user.id { email, name := input.fullName })
  ask (.userFindById userId)
where
  /-- The email to store: none when it stays. -/
  changedEmail (user : User) : IdentityM (Option String) :=
    match (truthy input.email).filter (· ≠ user.email) with
    | none => return none
    | some email => do
        match ← ask (.userFindByEmail email) with
        | some _ => throw emailTaken
        | none => return some email
  renameOrganization (user : User) : IdentityM Unit :=
    match input.companyName with
    | none => return
    | some companyName =>
        if user.role = .admin ∨ user.role = .superAdmin then
          match user.organizationId with
          | none => return
          | some organizationId => do
              let _ ← ask (.organizationRename organizationId companyName)
        else
          throw
            (appError 403 "Only ADMIN or SUPER_ADMIN can update the organization name" "FORBIDDEN")

/-- Deleting oneself blocklists the token one did it with. -/
def deleteCurrentUser (userId : String) (token : Token) : IdentityM User := do
  let user ← deleteUser userId
  tryCatch
    (do
      let payload ← verifyToken token
      blockPayload payload tokenTtlSeconds)
    fun _ => pure ()
  return user

section Passwords

variable [Bcrypt]

/-- A random password nobody learns. -/
def lockedPassword : IdentityM String := do
  let password ← ask (.randomBytes 32)
  hashPassword password

def registerUser (input : NewUserInput) : IdentityM User := do
  if input.role = some .superAdmin then
    throw (appError 400 "Cannot create SUPER_ADMIN users via this endpoint" "INVALID_ROLE")
  else
    match ← ask (.userFindByEmail input.email) with
    | some _ => throw emailTaken
    | none =>
        let lockedHash ← lockedPassword
        ask (.userCreate
          { email := input.email
            name := input.name
            passwordHash := lockedHash
            role := input.role.getD .viewer
            organizationId := input.organizationId })

/-- Unlike `registerUser`, this looks at no role. -/
def createTeamMember (input : NewUserInput) (callerOrganizationId : String) : IdentityM User := do
  match ← ask (.userFindByEmail input.email) with
  | some _ => throw emailTaken
  | none =>
      let lockedHash ← lockedPassword
      ask (.userCreate
        { email := input.email
          name := input.name
          passwordHash := lockedHash
          role := input.role.getD .viewer
          organizationId := some callerOrganizationId })

def acceptInvitation (input : AcceptInvitationInput) : IdentityM User := do
  let invitation ← verifyInvitationToken input.token
  match ← ask (.userFindByEmail invitation.email) with
  | some _ => throw emailTaken
  | none =>
      let passwordHash ← hashPassword input.password
      ask (.userCreate
        { email := invitation.email
          name := input.name
          passwordHash
          role := invitation.role
          organizationId := some invitation.organizationId })

end Passwords

section Properties

variable {T : (α : Type) → IdentityM α → Prop} (hT : Program.Compositional T)
  (hOrdinary : ∀ call : IdentityCall, call.ordinary → T _ (ask call))
include hT hOrdinary

theorem deleteUser_holds (id : String) : T _ (deleteUser id) := by
  refine hT.bind (newDate_holds hT hOrdinary) fun deletedAt => ?_
  refine hT.bind (hOrdinary (.userSoftDelete _ _) rfl) fun found => ?_
  cases found with
  | none => exact hT.throw _
  | some user => exact hT.pure _

/-- A link is signed only for a role its inviter may give away. -/
theorem generateInvitationLink_holds {input : InvitationLinkInput}
    (hSign : ∀ email role organizationId invitedBy, role ≠ .superAdmin →
      T _ (ask (.signToken (invitationClaims email role organizationId invitedBy)
        inviteExpirySeconds))) :
    T _ (generateInvitationLink input) := by
  unfold generateInvitationLink
  cases truthy input.organizationId with
  | none => exact hT.throw _
  | some organizationId =>
      cases input.inviterRole with
      | none => exact hT.throw _
      | some inviterRole =>
          dsimp only
          split
          · exact hT.throw _
          · rename_i hRole
            split
            · exact hT.throw _
            · refine hT.bind (hOrdinary (.userFindByEmail _) rfl) fun existing => ?_
              cases existing with
              | some user => exact hT.throw _
              | none =>
                  refine hT.bind (hSign _ _ _ _ hRole) fun token => ?_
                  refine hT.bind ?_ fun _ => ?_
                  · exact hT.tryCatch (hOrdinary (.sendEmail _) rfl) fun _ => hT.pure _
                  · refine hT.bind (newDate_holds hT hOrdinary) fun timestamp => ?_
                    exact hT.bind (hOrdinary (.auditInvitation _) rfl) fun _ => hT.pure _

theorem verifyInvitationToken_holds (token : Token) : T _ (verifyInvitationToken token) := by
  refine hT.bind (verifyOr_holds hT hOrdinary token _) fun payload => ?_
  split
  · exact hT.throw _
  · split
    · exact hT.pure _
    · exact hT.throw _

theorem updateCurrentUser_holds (userId : String) (input : UpdateInput) :
    T _ (updateCurrentUser userId input) := by
  refine hT.bind (hOrdinary (.userFindById _) rfl) fun found => ?_
  cases found with
  | none => exact hT.throw _
  | some user =>
      have hEmail : T _ (updateCurrentUser.changedEmail input user) := by
        unfold updateCurrentUser.changedEmail
        split
        · exact hT.pure _
        · refine hT.bind (hOrdinary (.userFindByEmail _) rfl) fun existing => ?_
          cases existing with
          | some user => exact hT.throw _
          | none => exact hT.pure _
      have hRename : T _ (updateCurrentUser.renameOrganization input user) := by
        unfold updateCurrentUser.renameOrganization
        split
        · exact hT.pure _
        · split
          · split
            · exact hT.pure _
            · exact hT.bind (hOrdinary (.organizationRename _ _) rfl) fun _ => hT.pure _
          · exact hT.throw _
      refine hT.bind hEmail fun email => hT.bind hRename fun _ => ?_
      exact hT.bind (hOrdinary (.userSave _ _) rfl) fun _ => hOrdinary (.userFindById _) rfl

theorem deleteCurrentUser_holds {userId : String} {token : Token}
    (hBlock : ∀ jti ttl, T _ (blockToken jti ttl)) : T _ (deleteCurrentUser userId token) := by
  refine hT.bind (deleteUser_holds hT hOrdinary userId) fun user => ?_
  refine hT.bind (hT.tryCatch ?_ fun _ => hT.pure _) fun _ => hT.pure _
  refine hT.bind (jwtVerify_holds hT hOrdinary _ _) fun payload => ?_
  exact blockPayload_holds hT hOrdinary hBlock _ _

variable [Bcrypt]

theorem lockedPassword_holds : T _ lockedPassword :=
  hT.bind (hOrdinary (.randomBytes 32) rfl) fun _ => hashPassword_holds hT hOrdinary _

/-- A registered user never gets the highest role. -/
theorem registerUser_holds {input : NewUserInput}
    (hCreate : ∀ fields : UserFields, fields.role ≠ .superAdmin → T _ (ask (.userCreate fields))) :
    T _ (registerUser input) := by
  unfold registerUser
  split
  · exact hT.throw _
  · rename_i hRole
    refine hT.bind (hOrdinary (.userFindByEmail _) rfl) fun existing => ?_
    cases existing with
    | some user => exact hT.throw _
    | none =>
        refine hT.bind (lockedPassword_holds hT hOrdinary) fun lockedHash => hCreate _ ?_
        cases hInput : input.role with
        | none => exact nofun
        | some role => exact fun h => hRole (hInput.trans (congrArg some h))

/-- A team member gets whatever role was asked for. -/
theorem createTeamMember_holds {input : NewUserInput} {callerOrganizationId : String}
    (hCreate : ∀ fields : UserFields, fields.role = input.role.getD .viewer →
      T _ (ask (.userCreate fields))) :
    T _ (createTeamMember input callerOrganizationId) := by
  refine hT.bind (hOrdinary (.userFindByEmail _) rfl) fun existing => ?_
  cases existing with
  | some user => exact hT.throw _
  | none => exact hT.bind (lockedPassword_holds hT hOrdinary) fun lockedHash => hCreate _ rfl

/-- What happens once the invitation has been verified. -/
theorem acceptInvitation_holds {input : AcceptInvitationInput}
    (hCreate : ∀ fields, T _ (ask (.userCreate fields))) : T _ (acceptInvitation input) := by
  refine hT.bind (verifyInvitationToken_holds hT hOrdinary _) fun invitation => ?_
  refine hT.bind (hOrdinary (.userFindByEmail _) rfl) fun existing => ?_
  cases existing with
  | some user => exact hT.throw _
  | none => exact hT.bind (hashPassword_holds hT hOrdinary _) fun passwordHash => hCreate _

end Properties

end Users

end Navin
