import Navin.Backend.Documents
import Navin.Semantics.Collection
import Navin.Semantics.Expiring
import Navin.Semantics.Readability
import Navin.Shared.Crypto
import Navin.Shared.Faults

/-! One-time passwords sent to a phone. The hash of a password waits in Redis for five
minutes to be presented by the user it was sent for. -/
namespace Navin.SmsOtp

open Async

def OTP_TTL_SECONDS : Nat := 300

def buildOtpRedisKey (userId phone : String) : String :=
  "otp:" ++ userId ++ ":" ++ phone

/-- The seconds that `TTL` answers for a time left in milliseconds. -/
class RedisTtl where
  seconds : Int → Int

/-- Redis rounds to a second, up or down. -/
class LawfulRedisTtl extends RedisTtl where
  close : ∀ ms, seconds ms * 1000 < ms + 1000 ∧ ms < seconds ms * 1000 + 1000

/-- What the service reads and writes of a user. -/
structure PhoneUser where
  id : ObjectId
  phone : Option String
  phoneVerified : Bool
  deletedAt : Option Date
deriving DecidableEq

structure OtpStore where
  clock : Int
  values : String → Option (Expiring String) := fun _ => none
  users : Collection PhoneUser.id

inductive OtpCall where
  | ttl (key : String)
  | randomInt (lower upper : Nat)
  | setex (key : String) (seconds : Nat) (value : String)
  | createMessage (body phone : String)
  | get (key : String)
  | findByIdAndUpdateUser (userId phone : String)
  | del (key : String)
deriving DecidableEq

@[reducible] def OtpCall.Answer : OtpCall → Type
  | .ttl _ => Int
  | .randomInt _ _ => Nat
  | .setex _ _ _ | .createMessage _ _ => Unit
  | .get _ => Option String
  | .findByIdAndUpdateUser _ _ => Option PhoneUser
  | .del _ => Int

abbrev OtpM : Type → Type :=
  Program OtpCall OtpCall.Answer ThrownError

abbrev ask (call : OtpCall) : OtpM call.Answer :=
  Program.await call

section Services

variable [Sha256]

def generateOtp : OtpM String := do
  let number ← ask (.randomInt 100000 999999)
  return toString number

def hashOtp (otp : String) : String :=
  Sha256.hexDigest otp

/-- `twilio` holds in production with an account. Elsewhere the password is only logged. -/
def sendOtpService (twilio : Bool) (userId phone : String) : OtpM Unit := do
  let otpKey := buildOtpRedisKey userId phone
  let existingTtl ← ask (.ttl otpKey)
  if (OTP_TTL_SECONDS : Int) - 60 < existingTtl then
    throw (appError 429 "OTP already sent. Please wait before requesting a new one."
      "ERR_RATE_LIMIT_EXCEEDED")
  else
    let otp ← generateOtp
    ask (.setex otpKey OTP_TTL_SECONDS (hashOtp otp))
    if twilio then
      try
        ask (.createMessage
          ("Your Navin verification code is: " ++ otp ++ ". Valid for 5 minutes.") phone)
      catch _ =>
        throw (appError 503 "Failed to send OTP. Please try again later."
          "ERR_INTERNAL_SERVER_ERROR")

def verifyOtpService (userId phone otp : String) : OtpM PhoneUser := do
  let otpKey := buildOtpRedisKey userId phone
  let storedHash ← ask (.get otpKey)
  match truthy storedHash with
  | none => throw (appError 400 "OTP expired or not found" "ERR_BAD_REQUEST")
  | some storedHash =>
      if hashOtp otp ≠ storedHash then
        throw (appError 400 "Invalid OTP" "ERR_BAD_REQUEST")
      else
        match ← ask (.findByIdAndUpdateUser userId phone) with
        | none => throw (appError 404 "User not found" "ERR_NOT_FOUND")
        | some user =>
            let _ ← ask (.del otpKey)
            return user

end Services

/-- What the world decides at a call: how much time passes, the number that is drawn, and
whether the call fails. -/
structure OtpDecision where
  elapsed : Nat := 0
  draw : Nat := 0
  fault : Option Fault := none

section Effects

variable [RedisTtl]

def OtpStore.wait (store : OtpStore) (ms : Nat) : OtpStore :=
  { store with clock := store.clock + ms }

/-- `{ phoneVerified: true, phone }`. -/
def PhoneUser.verified (user : PhoneUser) (phone : String) : PhoneUser :=
  { user with phone := some phone, phoneVerified := true }

/-- A call that goes through. The hook of the schema leaves out deleted users. -/
def execute (draw : Nat) (store : OtpStore) :
    (call : OtpCall) → OtpStore × Except ThrownError call.Answer
  | .ttl key => (store, .ok (match (store.values key).filter (store.clock < ·.expiresAt) with
      | some entry => RedisTtl.seconds (entry.expiresAt - store.clock)
      | none => -2))
  | .randomInt lower upper => (store, .ok (lower + draw % (upper - lower)))
  | .setex key seconds value =>
      ({ store with values :=
        Function.update store.values key (some ⟨value, store.clock + (seconds * 1000 : Nat)⟩) },
        .ok ())
  | .createMessage _ _ => (store, .ok ())
  | .get key => (store, .ok (found store.clock (store.values key)))
  | .findByIdAndUpdateUser userId phone =>
      castingId store userId fun id =>
        match (store.users.get? id).filter fun user => user.deletedAt.isNone with
        | none => (store, .ok none)
        | some user =>
            ({ store with users := store.users.modify id (·.verified phone) fun _ => rfl },
              .ok (some (user.verified phone)))
  | .del key =>
      ({ store with values := Function.update store.values key none },
        .ok (if (found store.clock (store.values key)).isSome then 1 else 0))

abbrev otps : World OtpCall OtpCall.Answer ThrownError where
  Store := OtpStore
  Env := OtpDecision
  perform decision store call :=
    let store := store.wait decision.elapsed
    faultedBy decision.fault store (execute decision.draw store call)

end Effects

/-- One request to either service. -/
inductive OtpRequest where
  | send (twilio : Bool) (userId phone : String)
  | verify (userId phone otp : String)

def OtpRequest.otpKey : OtpRequest → String
  | .send _ userId phone | .verify userId phone _ => buildOtpRedisKey userId phone

def OtpRequest.userId : OtpRequest → String
  | .send _ userId _ | .verify userId _ _ => userId

def OtpRequest.program [Sha256] : OtpRequest → OtpM (Option PhoneUser)
  | .send twilio userId phone => do
      sendOtpService twilio userId phone
      return none
  | .verify userId phone otp => some <$> verifyOtpService userId phone otp

/-- Any number of requests, none of which has begun. -/
def otpPool [RedisTtl] [Sha256] {ι : Type} (store : OtpStore) (requests : ι → OtpRequest) :
    Pool otps ι (Option PhoneUser) :=
  ⟨store, fun i => (requests i).program⟩

/-- Users do not share keys, as long as no identifier holds a colon. -/
theorem buildOtpRedisKey_injective {userId userId' phone phone' : String}
    (hId : ':' ∉ userId.toList) (hId' : ':' ∉ userId'.toList)
    (h : buildOtpRedisKey userId phone = buildOtpRedisKey userId' phone') :
    userId = userId' ∧ phone = phone' := by
  have hTexts : "otp:".toList ++ (userId.toList ++ ':' :: phone.toList) =
      "otp:".toList ++ (userId'.toList ++ ':' :: phone'.toList) := by
    simpa [buildOtpRedisKey] using congrArg String.toList h
  obtain ⟨hUser, hPhone⟩ := Readability.eq_of_append_cons hId hId' (List.append_cancel_left hTexts)
  exact ⟨String.toList_injective hUser, String.toList_injective hPhone⟩

end Navin.SmsOtp
