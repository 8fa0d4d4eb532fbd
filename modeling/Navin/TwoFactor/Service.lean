import Navin.Auth.Service
import Navin.Semantics.Collection

/-! Two-factor authentication as `twoFactor.service` performs it. A user holds a
TOTP secret, pending until a code has been verified, and hashes of backup codes. -/
namespace Navin.TwoFactor

open Async

/-- The part of a user that two-factor authentication reads and writes. -/
structure TwoFactorUser where
  id : ObjectId
  email : String
  passwordHash : String
  totpSecret : Option String := none
  totpEnabled : Bool := false
  totpBackupCodes : List String := []
  deletedAt : Option Date := none
deriving DecidableEq

/-- The argument of `findByIdAndUpdate`. -/
structure TwoFactorUpdate where
  totpSecret : Option (Option String) := none
  totpEnabled : Option Bool := none
  totpBackupCodes : Option (List String) := none

def TwoFactorUpdate.apply (update : TwoFactorUpdate) (user : TwoFactorUser) : TwoFactorUser :=
  { user with
    totpSecret := update.totpSecret.getD user.totpSecret
    totpEnabled := update.totpEnabled.getD user.totpEnabled
    totpBackupCodes := update.totpBackupCodes.getD user.totpBackupCodes }

theorem TwoFactorUpdate.apply_id (update : TwoFactorUpdate) (user : TwoFactorUser) :
    (update.apply user).id = user.id := rfl

theorem TwoFactorUpdate.apply_deletedAt (update : TwoFactorUpdate) (user : TwoFactorUser) :
    (update.apply user).deletedAt = user.deletedAt := rfl

/-- `otplib`: a code is valid for a secret at some times. -/
class Otplib where
  generateURI (label issuer secret : String) : String
  verifySync (token secret : String) (seconds : Nat) : Bool

inductive TwoFactorCall where
  | generateSecret
  | randomBytes (size : Nat)
  | verifySync (token secret : String)
  | userFindById (userId : String)
  | userFindByIdAndUpdate (userId : String) (update : TwoFactorUpdate)

@[reducible] def TwoFactorCall.Answer : TwoFactorCall → Type
  | .generateSecret => String
  | .randomBytes _ => String
  | .verifySync _ _ => Bool
  | .userFindById _ => Option TwoFactorUser
  | .userFindByIdAndUpdate _ _ => Unit

abbrev TwoFactorM : Type → Type :=
  Program TwoFactorCall TwoFactorCall.Answer ThrownError

abbrev request (call : TwoFactorCall) : TwoFactorM call.Answer :=
  Program.await call

def userNotFound : ThrownError :=
  appError 404 "User not found" "ERR_NOT_FOUND"

def alreadyEnabled : ThrownError :=
  appError 409 "2FA is already enabled" "ERR_AUTH_2FA_ALREADY_ENABLED"

def notEnabled : ThrownError :=
  appError 400 "2FA is not enabled on this account" "ERR_AUTH_2FA_NOT_ENABLED"

def invalidBackupCode : ThrownError :=
  appError 401 "Invalid backup code" "ERR_AUTH_2FA_INVALID_BACKUP_CODE"

def backupCodeCount : Nat := 10

def backupCodeHashRounds : Nat := 10

def backupCodeBytes : Nat := 5

/-- The codes a user is shown once, and what is stored of them. -/
structure BackupCodes where
  plain : List String
  hashed : List String

structure SetupResult where
  otpauthUrl : String
  secret : String

section Services

variable [Bcrypt]

/-- `bcrypt.hash` draws a salt of its own. -/
def generateBackupCodes : Nat → TwoFactorM BackupCodes
  | 0 => return ⟨[], []⟩
  | count + 1 => do
      let code ← request (.randomBytes backupCodeBytes)
      let salt ← request (.randomBytes 16)
      let rest ← generateBackupCodes count
      return ⟨code :: rest.plain, Bcrypt.hash code backupCodeHashRounds salt :: rest.hashed⟩

/-- The secret is stored, but not active until a code has been verified. -/
def setup2fa [Otplib] (userId : String) : TwoFactorM SetupResult := do
  let some user ← request (.userFindById userId) | throw userNotFound
  if user.totpEnabled then
    throw alreadyEnabled
  else
    let secret ← request .generateSecret
    request (.userFindByIdAndUpdate userId { totpSecret := some (some secret) })
    return ⟨Otplib.generateURI user.email "Navin" secret, secret⟩

def verify2fa (userId code : String) : TwoFactorM (List String) := do
  let some user ← request (.userFindById userId) | throw userNotFound
  match truthy user.totpSecret with
  | none =>
      throw (appError 400 "2FA setup not initiated. Call POST /api/auth/2fa/setup first."
        "ERR_AUTH_2FA_NOT_SETUP")
  | some secret =>
      if user.totpEnabled then
        throw alreadyEnabled
      else if ← request (.verifySync code secret) then
        let codes ← generateBackupCodes backupCodeCount
        request (.userFindByIdAndUpdate userId
          { totpEnabled := some true, totpBackupCodes := some codes.hashed })
        return codes.plain
      else
        throw (appError 400 "Invalid TOTP code" "ERR_AUTH_2FA_INVALID_CODE")

def disable2fa (userId password : String) : TwoFactorM Unit := do
  let some user ← request (.userFindById userId) | throw userNotFound
  if !user.totpEnabled then
    throw notEnabled
  else if Bcrypt.compare password user.passwordHash then
    request (.userFindByIdAndUpdate userId
      { totpSecret := some none, totpEnabled := some false, totpBackupCodes := some [] })
  else
    throw (appError 401 "Incorrect password" "ERR_AUTH_INVALID")

def regenerateBackupCodes (userId : String) : TwoFactorM (List String) := do
  let some user ← request (.userFindById userId) | throw userNotFound
  if !user.totpEnabled then
    throw notEnabled
  else
    let codes ← generateBackupCodes backupCodeCount
    request (.userFindByIdAndUpdate userId { totpBackupCodes := some codes.hashed })
    return codes.plain

/-- The first stored hash that the code matches is removed. -/
def consumeBackupCode (userId code : String) : TwoFactorM Unit := do
  let some user ← request (.userFindById userId) | throw invalidBackupCode
  match user.totpBackupCodes.findIdx? (Bcrypt.compare code) with
  | none => throw invalidBackupCode
  | some matchIndex =>
      request (.userFindByIdAndUpdate userId
        { totpBackupCodes := some (user.totpBackupCodes.eraseIdx matchIndex) })

end Services

structure TwoFactorStore where
  clock : Nat := 0
  users : Collection TwoFactorUser.id := .empty

def TwoFactorStore.liveUser (store : TwoFactorStore) (id : ObjectId) : Option TwoFactorUser :=
  (store.users.get? id).filter fun user => user.deletedAt.isNone

/-- What the world decides when a call is made. Time passes after the call. -/
structure TwoFactorDecision where
  refused : Option ThrownError := none
  elapsed : Nat := 0
  secret : String := ""
  bytes : String := ""

variable [Otplib]

def executeTwoFactor (decision : TwoFactorDecision) (store : TwoFactorStore) :
    (call : TwoFactorCall) → TwoFactorStore × Except ThrownError call.Answer
  | .generateSecret => (store, .ok decision.secret)
  | .randomBytes _ => (store, .ok decision.bytes)
  | .verifySync token secret => (store, .ok (Otplib.verifySync token secret store.clock))
  | .userFindById userId => castingId store userId fun id => (store, .ok (store.liveUser id))
  | .userFindByIdAndUpdate userId update => castingId store userId fun id =>
      match store.liveUser id with
      | none => (store, .ok ())
      | some _ =>
          ({ store with users := store.users.modify id update.apply update.apply_id }, .ok ())

/-- The calls that leave the process; the database may refuse them. -/
def TwoFactorCall.fallible : TwoFactorCall → Bool
  | .userFindById _ | .userFindByIdAndUpdate _ _ => true
  | _ => false

def TwoFactorStore.elapse (store : TwoFactorStore) (seconds : Nat) : TwoFactorStore :=
  { store with clock := store.clock + seconds }

def performTwoFactor (decision : TwoFactorDecision) (store : TwoFactorStore)
    (call : TwoFactorCall) : TwoFactorStore × Except ThrownError call.Answer :=
  match if call.fallible then decision.refused else none with
  | some error => (store.elapse decision.elapsed, .error error)
  | none =>
      ((executeTwoFactor decision store call).1.elapse decision.elapsed,
        (executeTwoFactor decision store call).2)

abbrev twoFactor : World TwoFactorCall TwoFactorCall.Answer ThrownError where
  Store := TwoFactorStore
  Env := TwoFactorDecision
  perform := performTwoFactor

abbrev TwoFactorEvent (ι : Type) : Type :=
  Event TwoFactorCall TwoFactorCall.Answer ThrownError ι

/-- The user behind the text of an identifier. -/
def TwoFactorStore.find (store : TwoFactorStore) (userId : String) : Option TwoFactorUser :=
  (ObjectId.cast? userId).bind store.liveUser

variable {decision : TwoFactorDecision} {store : TwoFactorStore} {call : TwoFactorCall}
  {userId : String}

def TwoFactorCall.writes : TwoFactorCall → Bool
  | .userFindByIdAndUpdate _ _ => true
  | _ => false

/-- Only an update changes users. -/
theorem find_of_reads (h : call.writes = false) :
    (performTwoFactor decision store call).1.find userId = store.find userId := by
  unfold performTwoFactor
  split
  · rfl
  · cases call with
    | userFindByIdAndUpdate => cases h
    | userFindById other =>
        simp only [executeTwoFactor, castingId]
        split <;> rfl
    | _ => rfl

/-- An update is answered and takes effect, or neither. -/
theorem update_cases (update : TwoFactorUpdate) :
    ((performTwoFactor decision store (.userFindByIdAndUpdate userId update)).2 = .ok () ∧
      (performTwoFactor decision store (.userFindByIdAndUpdate userId update)).1.find userId =
        (store.find userId).map update.apply) ∨
    ∃ error, (performTwoFactor decision store (.userFindByIdAndUpdate userId update)).2 =
        .error error ∧
      (performTwoFactor decision store (.userFindByIdAndUpdate userId update)).1.find userId =
        store.find userId := by
  unfold performTwoFactor
  split
  · exact .inr ⟨_, rfl, rfl⟩
  · simp only [executeTwoFactor, castingId]
    cases hCast : ObjectId.cast? userId with
    | none => exact .inr ⟨_, rfl, rfl⟩
    | some id =>
        refine .inl ?_
        dsimp only
        cases hLive : store.liveUser id with
        | none =>
            refine ⟨rfl, ?_⟩
            simp only [TwoFactorStore.find, hCast, Option.bind_some]
            exact hLive.trans (congrArg (Option.map update.apply) hLive).symm
        | some user =>
            refine ⟨rfl, ?_⟩
            simp only [TwoFactorStore.find, hCast, Option.bind_some, TwoFactorStore.liveUser,
              TwoFactorStore.elapse, store.users.get?_modify_self]
            cases store.users.get? id with
            | none => rfl
            | some found => simp [Option.filter_some, TwoFactorUpdate.apply_deletedAt, apply_ite]

end Navin.TwoFactor
