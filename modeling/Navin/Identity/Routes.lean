import Navin.Identity.World
import Navin.Invitations.Service

/-! The routes of the authentication, user and invitation routers: who may call
them, and what the controllers pass on. Parameters and bodies are validated. -/
namespace Navin

open Async

inductive IdentityData where
  | null
  | auth (result : AuthResult)
  | refreshed (result : RefreshResult)
  | user (user : User)
  | profile (user : Option User)
  | link (link : Users.InvitationLink)
  | verified (invitation : Users.VerifiedInvitation)
  | sent (invitation : Invitations.SentInvitation)
  | revoked (invitation : Option Invitation)
  | info (info : Invitations.InvitationInfo)
  | accepted (user : UserSummary)

structure IdentityReply where
  statusCode : Nat
  message : String
  data : IdentityData

/-- Routes open to everybody. -/
inductive PublicOperation where
  | signup (input : SignupInput) (ctx : RequestContext)
  | login (input : LoginInput) (ctx : RequestContext)
  | registerCompany (input : RegisterCompanyInput)
  | refresh (token : Token)
  | forgotPassword (email : String)
  | resetPassword (token : Token) (newPassword : String)
  | verifyInvitation (token : Token)
  | acceptInvitation (input : Users.AcceptInvitationInput)
  | invitationInfo (token : Token)
  | acceptCompanyInvitation (input : Invitations.AcceptInput)

/-- The body of `POST /api/users` and `POST /api/users/team`. The schema knows
every role and defaults to the least. -/
structure CreateUserBody where
  email : String
  name : String
  role : UserRole := .viewer

/-- Routes behind `requireAuth`. `elsewhere` is any route of another module,
where only the check of the token matters. -/
inductive AuthenticatedOperation where
  | logout
  | changePassword (currentPassword newPassword : String)
  | revokeSession (jti : String)
  | createUser (body : CreateUserBody)
  | createTeamMember (body : CreateUserBody)
  | deleteUser (id : String)
  | createInvitation (email : String) (role : UserRole)
  | updateCurrentUser (input : Users.UpdateInput)
  | deleteCurrentUser
  | createCompanyInvitation (email : String) (role : UserRole) (message : Option String)
  | resendCompanyInvitation (id : String)
  | revokeCompanyInvitation (id : String)
  | elsewhere

inductive IdentityRequest where
  | publicRoute (operation : PublicOperation)
  | authenticated (authorization : Option Token) (operation : AuthenticatedOperation)

/-- The routes that are not for everybody are for admins. -/
def AuthenticatedOperation.adminOnly : AuthenticatedOperation → Bool
  | .createUser _ | .createTeamMember _ | .deleteUser _ | .createInvitation _ _
  | .createCompanyInvitation _ _ _ | .resendCompanyInvitation _
  | .revokeCompanyInvitation _ => true
  | _ => false

/-- `requireRole(UserRole.ADMIN, UserRole.SUPER_ADMIN)`. -/
def requireAdmin (payload : Token) : IdentityM Unit :=
  if payload.claims.role = some .admin ∨ payload.claims.role = some .superAdmin then return
  else throw (appError 403 "Forbidden: insufficient role" "ERR_PERMISSION_DENIED")

def AuthenticatedOperation.gate (operation : AuthenticatedOperation) (payload : Token) :
    IdentityM Unit :=
  if operation.adminOnly then requireAdmin payload else return

/-- The error of a body the company invitation schema refuses. -/
def invitationRoleRefused : ThrownError :=
  appError 400
    ("\x7b\"message\":\"Validation error\",\"details\":[\x7b\"path\":\"role\"," ++
      "\"message\":\"Cannot invite SUPER_ADMIN users\",\"code\":\"custom\"\x7d]\x7d")
    "VALIDATION_ERROR"

section Programs

variable [Bcrypt] [Sha256] [TokenText]

def PublicOperation.program : PublicOperation → IdentityM IdentityReply
  | .signup input ctx => do
      let result ← Navin.signup input ctx
      return ⟨201, "Account created successfully", .auth result⟩
  | .login input ctx => do
      let result ← Navin.login input ctx
      return ⟨200, "Login successful", .auth result⟩
  | .registerCompany input => do
      let result ← Navin.registerCompany input
      return ⟨201, "Company and admin user created successfully", .auth result⟩
  | .refresh token => do
      let result ← refreshToken token
      return ⟨200, "Token refreshed", .refreshed result⟩
  | .forgotPassword email => do
      Navin.forgotPassword email
      return ⟨200, "If the email exists, a reset link has been sent", .null⟩
  | .resetPassword token newPassword => do
      Navin.resetPassword token newPassword
      return ⟨200, "Password reset successfully", .null⟩
  | .verifyInvitation token => do
      let invite ← Users.verifyInvitationToken token
      return ⟨200, "Invitation token verified successfully", .verified invite⟩
  | .acceptInvitation input => do
      let user ← Users.acceptInvitation input
      return ⟨201, "Invitation accepted successfully", .user user⟩
  | .invitationInfo token => do
      let info ← Invitations.getInvitationInfo token
      return ⟨200, "Invitation info retrieved successfully", .info info⟩
  | .acceptCompanyInvitation input => do
      let user ← Invitations.acceptInvitationWithPassword input
      return ⟨201, "Invitation accepted successfully", .accepted user⟩

/-- The controllers behind `requireAuth`; `payload` is `req.user` and `bearer`
the token of the header. -/
def AuthenticatedOperation.handler (bearer payload : Token) :
    AuthenticatedOperation → IdentityM IdentityReply
  | .logout => do
      Navin.logout bearer
      return ⟨200, "Logged out successfully", .null⟩
  | .changePassword currentPassword newPassword => do
      Navin.changePassword payload currentPassword newPassword bearer
      return ⟨200, "Password changed successfully", .null⟩
  | .revokeSession jti =>
      match truthy payload.claims.userId with
      | none => throw (appError 401 "Unauthorized" "ERR_AUTH_INVALID")
      | some userId => do
          Navin.revokeSession userId jti
          return ⟨200, "Session revoked successfully", .null⟩
  | .createUser body => do
      let user ← Users.registerUser
        ⟨body.email, body.name, some body.role, payload.claims.organizationId⟩
      return ⟨201, "User registered successfully", .user user⟩
  | .createTeamMember body => do
      let user ← Users.createTeamMember ⟨body.email, body.name, some body.role, none⟩
        (payload.claims.organizationId.getD "")
      return ⟨201, "Team member created successfully", .user user⟩
  | .deleteUser id => do
      let user ← Users.deleteUser id
      return ⟨200, "User deleted successfully", .user user⟩
  | .createInvitation email role => do
      let link ← Users.generateInvitationLink
        ⟨email, role, payload.claims.userId.getD "", payload.claims.role,
          payload.claims.organizationId⟩
      return ⟨201, "Invitation link generated successfully", .link link⟩
  | .updateCurrentUser input => do
      let user ← Users.updateCurrentUser (payload.claims.userId.getD "") input
      return ⟨200, "User profile updated successfully", .profile user⟩
  | .deleteCurrentUser => do
      let user ← Users.deleteCurrentUser (payload.claims.userId.getD "") bearer
      return ⟨200, "User deleted successfully", .user user⟩
  | .createCompanyInvitation email role message =>
      if role = .superAdmin then throw invitationRoleRefused
      else do
        let sent ← Invitations.createAndSendInvitation
          ⟨email, role, message, payload.claims.userId.getD "", payload.claims.role,
            payload.claims.organizationId.getD ""⟩
        return ⟨201, "Invitation sent successfully", .sent sent⟩
  | .resendCompanyInvitation id => do
      let sent ← Invitations.resendInvitation id (payload.claims.organizationId.getD "")
      return ⟨200, "Invitation resent successfully", .sent sent⟩
  | .revokeCompanyInvitation id => do
      let revoked ← Invitations.revokeInvitationById id (payload.claims.organizationId.getD "")
      return ⟨200, "Invitation revoked successfully", .revoked revoked⟩
  | .elsewhere => return ⟨200, "", .null⟩

def IdentityRequest.program : IdentityRequest → IdentityM IdentityReply
  | .publicRoute operation => operation.program
  | .authenticated authorization operation => do
      let payload ← requireAuth authorization
      operation.gate payload
      operation.handler (authorization.getD payload) payload

/-- Any number of requests about to start over one store. -/
def identityPool {ι : Type} (store : IdentityStore) (requests : ι → IdentityRequest) :
    Pool identity ι IdentityReply :=
  ⟨store, fun i => (requests i).program⟩

end Programs

section Properties

variable {T : (α : Type) → IdentityM α → Prop} (hT : Program.Compositional T)
  (hOrdinary : ∀ call : IdentityCall, call.ordinary → T _ (ask call))
include hT

theorem AuthenticatedOperation.gate_holds (operation : AuthenticatedOperation) (payload : Token) :
    T _ (operation.gate payload) := by
  unfold gate requireAdmin
  split
  · split
    · exact hT.pure _
    · exact hT.throw _
  · exact hT.pure _

include hOrdinary

theorem PublicOperation.program_holds [Bcrypt] (hGenerate : ∀ payload, T _ (generateToken payload))
    (hOpen : ∀ user ctx, T _ (openSession user ctx))
    (hViewer : ∀ fields : UserFields, fields.role = .viewer → T _ (ask (.userCreate fields)))
    (hAdmin : ∀ name settings (admin : UserFields), admin.role = .admin →
      T _ (ask (.companyCreate name settings admin)))
    (hForgot : ∀ email, T _ (Navin.forgotPassword email))
    (hReset : ∀ token newPassword, T _ (Navin.resetPassword token newPassword))
    (hAccept : ∀ input, T _ (Users.acceptInvitation input))
    (hAcceptCompany : ∀ input, T _ (Invitations.acceptInvitationWithPassword input))
    (operation : PublicOperation)
    (hRefresh : ∀ token, operation = .refresh token → T _ (refreshToken token)) :
    T _ operation.program := by
  cases operation with
  | signup input ctx =>
      exact hT.bind (signup_holds hT hOrdinary hViewer fun user => hOpen user ctx) fun _ => hT.pure _
  | login input ctx =>
      exact hT.bind (login_holds hT hOrdinary fun user => hOpen user ctx) fun _ => hT.pure _
  | registerCompany input =>
      exact hT.bind (registerCompany_holds hT hOrdinary hAdmin hGenerate) fun _ => hT.pure _
  | refresh token => exact hT.bind (hRefresh token rfl) fun _ => hT.pure _
  | forgotPassword email => exact hT.bind (hForgot email) fun _ => hT.pure _
  | resetPassword token newPassword => exact hT.bind (hReset token newPassword) fun _ => hT.pure _
  | verifyInvitation token =>
      exact hT.bind (Users.verifyInvitationToken_holds hT hOrdinary token) fun _ => hT.pure _
  | acceptInvitation input => exact hT.bind (hAccept input) fun _ => hT.pure _
  | invitationInfo token =>
      exact hT.bind (Invitations.getInvitationInfo_holds hT hOrdinary token) fun _ => hT.pure _
  | acceptCompanyInvitation input => exact hT.bind (hAcceptCompany input) fun _ => hT.pure _

theorem AuthenticatedOperation.handler_holds [Bcrypt] [Sha256] [TokenText] {bearer payload : Token}
    {operation : AuthenticatedOperation} (hLogout : T _ (Navin.logout bearer))
    (hChange : ∀ current new, T _ (Navin.changePassword payload current new bearer))
    (hRevoke : ∀ userId jti, T _ (Navin.revokeSession userId jti))
    (hDelete : ∀ userId, T _ (Users.deleteCurrentUser userId bearer))
    (hCreate : ∀ fields : UserFields, fields.role ≠ .superAdmin → T _ (ask (.userCreate fields)))
    (hTeam : ∀ body, operation = .createTeamMember body →
      ∀ fields : UserFields, fields.role = body.role → T _ (ask (.userCreate fields)))
    (hSignLink : ∀ email role organizationId invitedBy, role ≠ .superAdmin →
      T _ (ask (.signToken (Users.invitationClaims email role organizationId invitedBy)
        Users.inviteExpirySeconds)))
    (hSign : ∀ payload, T _ (Invitations.generateInvitationToken payload))
    (hInvite : ∀ fields : InvitationFields, fields.role ≠ .superAdmin →
      T _ (ask (.invitationCreate fields))) :
    T _ (operation.handler bearer payload) := by
  cases operation with
  | logout => exact hT.bind hLogout fun _ => hT.pure _
  | changePassword currentPassword newPassword => exact hT.bind (hChange _ _) fun _ => hT.pure _
  | revokeSession jti =>
      dsimp only [handler]
      split
      · exact hT.throw _
      · exact hT.bind (hRevoke _ _) fun _ => hT.pure _
  | createUser body =>
      exact hT.bind (Users.registerUser_holds hT hOrdinary hCreate) fun _ => hT.pure _
  | createTeamMember body =>
      exact hT.bind (Users.createTeamMember_holds hT hOrdinary (hTeam body rfl)) fun _ => hT.pure _
  | deleteUser id => exact hT.bind (Users.deleteUser_holds hT hOrdinary id) fun _ => hT.pure _
  | createInvitation email role =>
      exact hT.bind (Users.generateInvitationLink_holds hT hOrdinary hSignLink) fun _ => hT.pure _
  | updateCurrentUser input =>
      exact hT.bind (Users.updateCurrentUser_holds hT hOrdinary _ input) fun _ => hT.pure _
  | deleteCurrentUser => exact hT.bind (hDelete _) fun _ => hT.pure _
  | createCompanyInvitation email role message =>
      dsimp only [handler]
      split
      · exact hT.throw _
      · exact hT.bind (Invitations.createAndSendInvitation_holds hT hOrdinary hSign hInvite)
          fun _ => hT.pure _
  | resendCompanyInvitation id =>
      exact hT.bind (Invitations.resendInvitation_holds hT hOrdinary hSign _ _) fun _ => hT.pure _
  | revokeCompanyInvitation id =>
      exact hT.bind (Invitations.revokeInvitationById_holds hT hOrdinary _ _) fun _ => hT.pure _
  | elsewhere => exact hT.pure _

end Properties

end Navin
