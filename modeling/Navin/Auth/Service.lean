import Navin.Auth.TokenBlocklist

/-! Authentication as `auth.service` performs it: signup, login, the token
lifecycle and passwords. A verified token is its own payload. -/
namespace Navin

open Async

/-- The password hash. The salt is drawn; the rest is computed. -/
class Bcrypt where
  hash (password : String) (rounds : Nat) (salt : String) : String
  compare (password passwordHash : String) : Bool

/-- A hash that concrete runs may use: it is the salt, and matches nothing. -/
@[reducible] def saltBcrypt : Bcrypt :=
  ⟨fun _ _ salt => salt, fun _ _ => false⟩

def tokenTtlSeconds : Nat := 7 * 24 * 60 * 60

def resetTokenTtlSeconds : Nat := 60 * 60

/-- `TokenPayload` without its identifier. -/
structure SessionPayload where
  userId : String
  role : UserRole
  persona : Persona
  organizationId : Option String
  organizationType : Option OrganizationType

def sessionClaims (payload : SessionPayload) (jti : String) : Claims :=
  { userId := some payload.userId
    role := some payload.role
    persona := some payload.persona
    organizationId := payload.organizationId
    organizationType := payload.organizationType
    jti := some jti }

def resetClaims (userId jti : String) : Claims :=
  { userId := some userId, type := some .passwordReset, jti := some jti }

/-- `Math.floor(Date.now() / 1000)`. -/
def nowSeconds : IdentityM Nat :=
  ask .now

def newDate : IdentityM Date := do
  let seconds ← nowSeconds
  return ⟨1000 * seconds⟩

def generateToken (payload : SessionPayload) : IdentityM (Token × String) := do
  let jti ← ask .randomUUID
  let token ← ask (.signToken (sessionClaims payload jti) tokenTtlSeconds)
  return (token, jti)

def determineUserRole (_email : String) : UserRole :=
  .viewer

def derivePersona (role : UserRole) (organizationType : Option OrganizationType) : Persona :=
  if role = .customer ∨ organizationType = some .enterprise then .customer else .company

structure RequestContext where
  ip : Option String
  userAgent : Option String

/-- Errors are swallowed: a session that cannot be stored never blocks a login. -/
def createSession (userId jti : String) (ctx : RequestContext) : IdentityM Unit :=
  tryCatch (ask (.sessionCreate userId jti ctx.ip ctx.userAgent)) fun _ => pure ()

def organizationTypeOf (user : User) : IdentityM (Option OrganizationType) :=
  match user.organizationId with
  | none => return none
  | some organizationId => do
      let organization ← ask (.organizationFindById organizationId)
      return organization.map (·.type)

def sessionPayload (user : User) (organizationType : Option OrganizationType) : SessionPayload where
  userId := user.id.toString
  role := user.role
  persona := derivePersona user.role organizationType
  organizationId := user.organizationId.map (·.toString)
  organizationType := organizationType

/-- The part of a user that replies carry. -/
structure UserSummary where
  id : ObjectId
  email : String
  name : String
  role : UserRole

def User.summary (user : User) : UserSummary :=
  ⟨user.id, user.email, user.name, user.role⟩

structure AuthResult where
  user : UserSummary
  token : Token

/-- The common end of signup and login. -/
def openSession (user : User) (ctx : RequestContext) : IdentityM AuthResult := do
  let organizationType ← organizationTypeOf user
  let (token, jti) ← generateToken (sessionPayload user organizationType)
  createSession user.id.toString jti ctx
  return ⟨user.summary, token⟩

structure SignupInput where
  email : String
  name : String
  password : String
  organizationId : Option String

structure LoginInput where
  email : String
  password : String

structure RegisterCompanyInput where
  companyName : String
  industry : String
  country : String
  companySize : String
  adminName : String
  email : String
  password : String

/-- `jwt.verify`: what a token says is read off the token. -/
def jwtVerify (token : Token) (ignoreExpiration : Bool) : IdentityM Token := do
  ask (.verifyToken token ignoreExpiration)
  return token

def verifyToken (token : Token) : IdentityM Token :=
  jwtVerify token false

/-- The seconds a verified token has left; `exp` is absent only as zero. -/
def remainingTtl (payload : Token) (fallback : Nat) : IdentityM Int :=
  if payload.exp = 0 then return fallback
  else do
    let now ← nowSeconds
    return payload.exp - now

/-- Blocklist a verified token, if it carries an identifier, for the rest of
its lifetime. -/
def blockPayload (payload : Token) (fallback : Nat) : IdentityM Unit :=
  match truthy payload.claims.jti with
  | none => return
  | some jti => do
      let ttl ← remainingTtl payload fallback
      blockToken jti ttl

def logout (token : Token) : IdentityM Unit := do
  match ← tryCatch (some <$> verifyToken token) fun _ => pure none with
  | none => return
  | some payload =>
      let ttl ← remainingTtl payload tokenTtlSeconds
      match truthy payload.claims.jti with
      | none => return
      | some jti => blockToken jti ttl

structure RefreshResult where
  token : Token
  expiresIn : Nat

def gracePeriodSeconds : Nat := 7 * 24 * 60 * 60

/-- The lifetime a refreshed token's entry gets. -/
def exchangedTtl (payload : Token) (now : Nat) : Int :=
  let oldTtl : Int := payload.exp - now
  if oldTtl > 0 then oldTtl + gracePeriodSeconds else gracePeriodSeconds

/-- The entry of a refreshed token lives for at least the window. -/
theorem grace_le_exchangedTtl (payload : Token) (now : Nat) :
    (gracePeriodSeconds : Int) ≤ exchangedTtl payload now := by
  simp only [exchangedTtl]
  split <;> omega

def invalidToken : ThrownError :=
  appError 401 "Invalid token" "INVALID_TOKEN"

/-- `findById` of an absent id finds nothing. -/
def findPayloadUser (payload : Token) : IdentityM (Option User) :=
  match payload.claims.userId with
  | none => return none
  | some userId => ask (.userFindById userId)

/-- Blocklist the old token and issue a new one. -/
def exchangeToken (payload : Token) (jti : String) (now : Nat) (user : User) :
    IdentityM RefreshResult := do
  let organizationType ← organizationTypeOf user
  blockToken jti (exchangedTtl payload now)
  let (newToken, _) ← generateToken (sessionPayload user organizationType)
  return ⟨newToken, tokenTtlSeconds⟩

def refreshToken (token : Token) : IdentityM RefreshResult := do
  let payload ← tryCatch (jwtVerify token true) fun _ => throw invalidToken
  let some jti := truthy payload.claims.jti | throw invalidToken
  if ← isTokenBlocked jti then
    throw (appError 401 "Token has been revoked" "TOKEN_REVOKED")
  else
    let now ← nowSeconds
    if (now : Int) - payload.iat > gracePeriodSeconds then
      throw (appError 401 "Token is too old to refresh" "TOKEN_EXPIRED")
    else
      match (← findPayloadUser payload).filter (·.deletedAt.isNone) with
      | none => throw (appError 401 "User no longer exists" "USER_NOT_FOUND")
      | some user => exchangeToken payload jti now user

def forgotPassword (email : String) : IdentityM Unit := do
  let some user ← ask (.userFindByEmail email) | return
  let jti ← ask .randomUUID
  let resetToken ← ask (.signToken (resetClaims user.id.toString jti) resetTokenTtlSeconds)
  tryCatch
    (ask (.sendEmail ⟨email, "Reset Your Navin Password", "/reset-password", resetToken, none⟩))
    fun _ => pure ()

def invalidResetToken : ThrownError :=
  appError 400 "Invalid or expired reset token" "ERR_AUTH_INVALID_RESET_TOKEN"

/-- `DELETE /api/auth/sessions/:jti`. Only the owner may revoke a session. -/
def revokeSession (requestingUserId jti : String) : IdentityM Unit := do
  let some session ← ask (.sessionFindByJti jti)
    | throw (appError 404 "Session not found" "ERR_NOT_FOUND")
  if session.userId.toString ≠ requestingUserId then
    throw (appError 403 "Cannot revoke another user's session" "ERR_PERMISSION_DENIED")
  else
    blockToken jti tokenTtlSeconds
    ask (.sessionDelete jti)

/-- The bearer token of the `Authorization` header, if it has that format. Its
payload becomes the caller. -/
def requireAuth (authorization : Option Token) : IdentityM Token := do
  let some token := authorization
    | throw (appError 401 "Missing or invalid authorization header" "ERR_AUTH_INVALID")
  let payload ← tryCatch (verifyToken token) fun _ =>
    throw (appError 401 "Invalid or expired token" "ERR_AUTH_INVALID")
  match truthy payload.claims.jti with
  | none => return payload
  | some jti =>
      if ← isTokenBlocked jti then
        throw (appError 401 "Token has been revoked" "TOKEN_REVOKED")
      else
        return payload

section Passwords

variable [Bcrypt]

/-- `bcrypt.hash(password, 10)`. -/
def hashPassword (password : String) : IdentityM String := do
  let salt ← ask (.randomBytes 16)
  return Bcrypt.hash password 10 salt

def signup (input : SignupInput) (ctx : RequestContext) : IdentityM AuthResult := do
  match ← ask (.userFindByEmail input.email) with
  | some _ => throw (appError 409 "Email already in use" "EMAIL_TAKEN")
  | none =>
      let hashedPassword ← hashPassword input.password
      let user ← ask (.userCreate
        { email := input.email
          name := input.name
          passwordHash := hashedPassword
          role := determineUserRole input.email
          organizationId := input.organizationId })
      openSession user ctx

def login (input : LoginInput) (ctx : RequestContext) : IdentityM AuthResult := do
  let some user ← ask (.userFindByEmail input.email)
    | throw (appError 401 "Invalid credentials" "INVALID_CREDENTIALS")
  if Bcrypt.compare input.password user.passwordHash then
    openSession user ctx
  else
    throw (appError 401 "Invalid credentials" "INVALID_CREDENTIALS")

def resetPassword (token : Token) (newPassword : String) : IdentityM Unit := do
  let payload ← tryCatch (verifyToken token) fun _ => throw invalidResetToken
  if payload.claims.type ≠ some .passwordReset then
    throw invalidResetToken
  else
    match ← findPayloadUser payload with
    | none => throw invalidResetToken
    | some user =>
        let passwordHash ← hashPassword newPassword
        ask (.userSave user.id { passwordHash := some passwordHash })
        blockPayload payload resetTokenTtlSeconds

/-- The admin and the organisation are created in one transaction. -/
def registerCompany (input : RegisterCompanyInput) : IdentityM AuthResult := do
  match ← ask (.userFindByEmail input.email) with
  | some _ => throw (appError 409 "Email already in use" "EMAIL_TAKEN")
  | none =>
      match ← ask (.organizationFindByName input.companyName) with
      | some _ => throw (appError 409 "Organization name already exists" "DUPLICATE_KEY")
      | none =>
          let hashedPassword ← hashPassword input.password
          let user ← ask (.companyCreate input.companyName
            ⟨input.industry, input.country, input.companySize⟩
            { email := input.email
              name := input.adminName
              passwordHash := hashedPassword
              role := .admin
              organizationId := none })
          let (token, _) ← generateToken
            { userId := user.id.toString
              role := .admin
              persona := derivePersona .admin (some .enterprise)
              organizationId := user.organizationId.map (·.toString)
              organizationType := some .enterprise }
          return ⟨user.summary, token⟩

def changePassword (payload : Token) (currentPassword newPassword : String)
    (currentJwt : Token) : IdentityM Unit := do
  match (← findPayloadUser payload).filter (·.deletedAt.isNone) with
  | none => throw (appError 401 "User not found" "ERR_AUTH_INVALID")
  | some user =>
      if Bcrypt.compare currentPassword user.passwordHash then
        let passwordHash ← hashPassword newPassword
        ask (.userSave user.id { passwordHash := some passwordHash })
        tryCatch
          (do
            let payload ← verifyToken currentJwt
            blockPayload payload tokenTtlSeconds)
          fun _ => pure ()
      else
        throw (appError 401 "Current password is incorrect" "INVALID_CREDENTIALS")

end Passwords

section Properties

variable {T : (α : Type) → IdentityM α → Prop} (hT : Program.Compositional T)
  (hOrdinary : ∀ call : IdentityCall, call.ordinary → T _ (ask call))
include hT hOrdinary

theorem newDate_holds : T _ newDate :=
  hT.bind (hOrdinary .now rfl) fun _ => hT.pure _

theorem forgotPassword_holds {email : String}
    (hSign : ∀ userId jti, T _ (ask (.signToken (resetClaims userId jti) resetTokenTtlSeconds))) :
    T _ (forgotPassword email) := by
  refine hT.bind (hOrdinary (.userFindByEmail _) rfl) fun found => ?_
  cases found with
  | none => exact hT.pure _
  | some user =>
      refine hT.bind (hOrdinary .randomUUID rfl) fun jti => ?_
      refine hT.bind (hSign _ _) fun resetToken => ?_
      exact hT.tryCatch (hOrdinary (.sendEmail _) rfl) fun _ => hT.pure _

theorem organizationTypeOf_holds (user : User) : T _ (organizationTypeOf user) := by
  unfold organizationTypeOf
  split
  · exact hT.pure _
  · exact hT.bind (hOrdinary (.organizationFindById _) rfl) fun _ => hT.pure _

theorem findPayloadUser_holds (payload : Token) : T _ (findPayloadUser payload) := by
  unfold findPayloadUser
  split
  · exact hT.pure _
  · exact hOrdinary (.userFindById _) rfl

theorem jwtVerify_holds (token : Token) (ignoreExpiration : Bool) :
    T _ (jwtVerify token ignoreExpiration) :=
  hT.bind (hOrdinary (.verifyToken _ _) rfl) fun _ => hT.pure _

theorem verifyOr_holds (token : Token) (error : ThrownError) :
    T _ (tryCatch (verifyToken token) fun _ => throw error) :=
  hT.tryCatch (jwtVerify_holds hT hOrdinary _ _) fun _ => hT.throw _

theorem remainingTtl_holds (payload : Token) (fallback : Nat) :
    T _ (remainingTtl payload fallback) := by
  unfold remainingTtl
  split
  · exact hT.pure _
  · exact hT.bind (hOrdinary .now rfl) fun _ => hT.pure _

theorem openSession_holds {user : User} {ctx : RequestContext}
    (hGenerate : ∀ payload, T _ (generateToken payload))
    (hSession : ∀ userId jti, T _ (createSession userId jti ctx)) : T _ (openSession user ctx) := by
  refine hT.bind (organizationTypeOf_holds hT hOrdinary user) fun organizationType => ?_
  exact hT.bind (hGenerate _) fun _ => hT.bind (hSession _ _) fun _ => hT.pure _

section Blocklist

variable (hBlock : ∀ jti ttl, T _ (blockToken jti ttl))
include hBlock

theorem blockPayload_holds (payload : Token) (fallback : Nat) :
    T _ (blockPayload payload fallback) := by
  unfold blockPayload
  split
  · exact hT.pure _
  · exact hT.bind (remainingTtl_holds hT hOrdinary _ _) fun _ => hBlock _ _

theorem logout_holds (token : Token) : T _ (logout token) := by
  refine hT.bind ?_ fun found => ?_
  · refine hT.tryCatch ?_ fun _ => hT.pure _
    rw [map_eq_pure_bind]
    exact hT.bind (jwtVerify_holds hT hOrdinary _ _) fun _ => hT.pure _
  · cases found with
    | none => exact hT.pure _
    | some payload =>
        refine hT.bind (remainingTtl_holds hT hOrdinary _ _) fun ttl => ?_
        split
        · exact hT.pure _
        · exact hBlock _ _

theorem revokeSession_holds (requestingUserId jti : String) :
    T _ (revokeSession requestingUserId jti) := by
  refine hT.bind (hOrdinary (.sessionFindByJti _) rfl) fun found => ?_
  cases found with
  | none => exact hT.throw _
  | some session =>
      dsimp only
      split
      · exact hT.throw _
      · exact hT.bind (hBlock _ _) fun _ => hOrdinary (.sessionDelete _) rfl

variable (hLookup : ∀ jti, T _ (isTokenBlocked jti))
include hLookup

theorem refreshToken_holds {token : Token} (hGenerate : ∀ payload, T _ (generateToken payload)) :
    T _ (refreshToken token) := by
  refine hT.bind (hT.tryCatch (jwtVerify_holds hT hOrdinary _ _) fun _ => hT.throw _) fun payload => ?_
  split
  · refine hT.bind (hLookup _) fun blocked => ?_
    split
    · exact hT.throw _
    · refine hT.bind (hOrdinary .now rfl) fun now => ?_
      split
      · exact hT.throw _
      · refine hT.bind (findPayloadUser_holds hT hOrdinary _) fun found => ?_
        split
        · exact hT.throw _
        · refine hT.bind (organizationTypeOf_holds hT hOrdinary _) fun organizationType => ?_
          refine hT.bind (hBlock _ _) fun _ => ?_
          exact hT.bind (hGenerate _) fun _ => hT.pure _
  · exact hT.throw _

end Blocklist

variable [Bcrypt]

theorem hashPassword_holds (password : String) : T _ (hashPassword password) :=
  hT.bind (hOrdinary (.randomBytes 16) rfl) fun _ => hT.pure _

theorem signup_holds {input : SignupInput} {ctx : RequestContext}
    (hCreate : ∀ fields : UserFields, fields.role = .viewer → T _ (ask (.userCreate fields)))
    (hOpen : ∀ user, T _ (openSession user ctx)) : T _ (signup input ctx) := by
  refine hT.bind (hOrdinary (.userFindByEmail _) rfl) fun existing => ?_
  cases existing with
  | some user => exact hT.throw _
  | none =>
      refine hT.bind (hashPassword_holds hT hOrdinary _) fun hashedPassword => ?_
      exact hT.bind (hCreate _ rfl) fun user => hOpen user

theorem login_holds {input : LoginInput} {ctx : RequestContext}
    (hOpen : ∀ user, T _ (openSession user ctx)) : T _ (login input ctx) := by
  refine hT.bind (hOrdinary (.userFindByEmail _) rfl) fun found => ?_
  cases found with
  | none => exact hT.throw _
  | some user =>
      dsimp only
      split
      · exact hOpen user
      · exact hT.throw _

theorem registerCompany_holds {input : RegisterCompanyInput}
    (hCreate : ∀ name settings (admin : UserFields), admin.role = .admin →
      T _ (ask (.companyCreate name settings admin)))
    (hGenerate : ∀ payload, T _ (generateToken payload)) : T _ (registerCompany input) := by
  refine hT.bind (hOrdinary (.userFindByEmail _) rfl) fun existing => ?_
  cases existing with
  | some user => exact hT.throw _
  | none =>
      refine hT.bind (hOrdinary (.organizationFindByName _) rfl) fun existingOrg => ?_
      cases existingOrg with
      | some organization => exact hT.throw _
      | none =>
          refine hT.bind (hashPassword_holds hT hOrdinary _) fun hashedPassword => ?_
          refine hT.bind (hCreate _ _ _ rfl) fun user => ?_
          exact hT.bind (hGenerate _) fun _ => hT.pure _

theorem resetPassword_holds {token : Token} {newPassword : String}
    (hBlock : ∀ jti ttl, T _ (blockToken jti ttl)) : T _ (resetPassword token newPassword) := by
  refine hT.bind (verifyOr_holds hT hOrdinary token _) fun payload => ?_
  split
  · exact hT.throw _
  · refine hT.bind (findPayloadUser_holds hT hOrdinary _) fun found => ?_
    cases found with
    | none => exact hT.throw _
    | some user =>
        refine hT.bind (hashPassword_holds hT hOrdinary _) fun passwordHash => ?_
        refine hT.bind (hOrdinary (.userSave _ _) rfl) fun _ => ?_
        exact blockPayload_holds hT hOrdinary hBlock _ _

theorem changePassword_holds {payload currentJwt : Token} {currentPassword newPassword : String}
    (hBlock : ∀ jti ttl, T _ (blockToken jti ttl)) :
    T _ (changePassword payload currentPassword newPassword currentJwt) := by
  refine hT.bind (findPayloadUser_holds hT hOrdinary _) fun found => ?_
  split
  · exact hT.throw _
  · split
    · refine hT.bind (hashPassword_holds hT hOrdinary _) fun passwordHash => ?_
      refine hT.bind (hOrdinary (.userSave _ _) rfl) fun _ => ?_
      refine hT.tryCatch ?_ fun _ => hT.pure _
      refine hT.bind (jwtVerify_holds hT hOrdinary _ _) fun payload => ?_
      exact blockPayload_holds hT hOrdinary hBlock _ _
    · exact hT.throw _

end Properties

end Navin
