import Mathlib.Data.Option.Basic
import Navin.Auth.RevokedTokens
import Navin.Semantics.Trace

/-! Who is let in by the routes, by the event stream and by the sockets? All three
verify the token; the sockets do not look it up on the blocklist. -/
namespace Navin

open Async

/-- What the text of a token says, before its signature is checked. The empty
text is none. -/
class JwtText where
  read : String → Option Token
  read_empty : read "" = none

/-- A query parameter need not be a single text. -/
inductive QueryParameter where
  | text (value : String)
  | other

/-- `authHeader.substring(7)`, if the header starts with `Bearer `. -/
def extractBearerToken (authHeader : Option String) : Option String :=
  authHeader.bind fun header =>
    if "Bearer ".toList.isPrefixOf header.toList then some (String.ofList (header.toList.drop 7))
    else none

def extractQueryToken : Option QueryParameter → Option String
  | some (.text value) => truthy (some value)
  | _ => none

namespace Middleware

variable [JwtText]

def verifyToken (text : String) : IdentityM Token :=
  match JwtText.read text with
  | none => throw .invalidToken
  | some token => Navin.verifyToken token

/-- The end of both middlewares of Express, which give a revoked token codes of
their own. -/
def authenticate (text revokedCode : String) : IdentityM Token := do
  let payload ← tryCatch (verifyToken text) fun _ =>
    throw (appError 401 "Invalid or expired token" "ERR_AUTH_INVALID")
  match truthy payload.claims.jti with
  | none => return payload
  | some jti =>
      if ← isTokenBlocked jti then
        throw (appError 401 "Token has been revoked" revokedCode)
      else
        return payload

def requireAuth (authorization : Option String) : IdentityM Token :=
  match extractBearerToken authorization with
  | none => throw (appError 401 "Missing or invalid authorization header" "ERR_AUTH_INVALID")
  | some token => authenticate token "TOKEN_REVOKED"

/-- An `Authorization` header of the right format rules the query out, even when
its token is empty. -/
def requireSseAuth (authorization : Option String) (queryToken : Option QueryParameter) :
    IdentityM Token :=
  match truthy ((extractBearerToken authorization).or (extractQueryToken queryToken)) with
  | none => throw (appError 401 "Missing or invalid authorization token" "ERR_AUTH_INVALID")
  | some token => authenticate token "ERR_AUTH_TOKEN_REVOKED"

/-- The payload for `socket.user`, or the message of the error passed to `next`. -/
def socketAuth (token : Option String) : IdentityM (Except String Token) :=
  match truthy token with
  | none => return .error "UNAUTHORIZED: Missing token"
  | some token =>
      tryCatch
        (do
          let payload ← verifyToken token
          return .ok payload)
        fun _ => return .error "UNAUTHORIZED: Invalid or expired token"

/-- With the text of a token in its header, a request is authenticated as before. -/
theorem requireAuth_bearer {text : String} {token : Token} (hRead : JwtText.read text = some token)
    {header : String} (hHeader : extractBearerToken (some header) = some text) :
    requireAuth (some header) = Navin.requireAuth (some token) := by
  simp only [requireAuth, hHeader, authenticate, verifyToken, hRead]
  rfl

end Middleware

/-- The ways in, each with its place for the token. -/
inductive EntryPoint where
  | requireAuth
  | requireSseAuth
  | requireSseAuthQuery
  | socketAuth

section Verdicts

variable [JwtText] {text : String} {env : Nat → IdentityDecision} {store : IdentityStore}

/-- The caller that an entry point lets in with the text, if it does. -/
def EntryPoint.admits (text : String) (env : Nat → IdentityDecision) (store : IdentityStore) :
    EntryPoint → Option Token
  | .requireAuth =>
      ((Middleware.requireAuth (some ("Bearer " ++ text))).run reliableIdentity env store).2.1.toOption
  | .requireSseAuth =>
      ((Middleware.requireSseAuth (some ("Bearer " ++ text)) none).run
        reliableIdentity env store).2.1.toOption
  | .requireSseAuthQuery =>
      ((Middleware.requireSseAuth none (some (.text text))).run
        reliableIdentity env store).2.1.toOption
  | .socketAuth =>
      ((Middleware.socketAuth (some text)).run reliableIdentity env store).2.1.toOption.bind
        (·.toOption)

/-- The token of the text, if it verifies. -/
def verified (text : String) (store : IdentityStore) : Option Token :=
  (JwtText.read text).filter fun token => token ∈ store.signed ∧ store.clock < token.exp

theorem verified_of_read {token : Token} (hRead : JwtText.read text = some token)
    (hValid : token ∈ store.signed ∧ store.clock < token.exp) :
    verified text store = some token := by
  rw [verified, hRead, Option.filter_some, if_pos (decide_eq_true hValid)]

/-- Whether the identifier of a token is on the blocklist. -/
def IdentityStore.revokes (store : IdentityStore) (token : Token) : Bool :=
  (truthy token.claims.jti).any fun jti => isValidJti jti && store.holds (blocklistKeyOf jti)

omit [JwtText] in
theorem extractBearerToken_bearer (text : String) :
    extractBearerToken (some ("Bearer " ++ text)) = some text := by
  have hPrefix : "Bearer ".toList.isPrefixOf ("Bearer ".toList ++ text.toList) = true :=
    List.isPrefixOf_iff_prefix.mpr (List.prefix_append _ _)
  simp only [extractBearerToken, Option.bind_some, String.toList_append]
  rw [if_pos hPrefix, List.drop_left' (by decide), String.ofList_toList]

/-- A text that verifies gives its token, any other an error. -/
theorem run_verifyToken (text : String) (env : Nat → IdentityDecision) (store : IdentityStore) :
    (∃ token, verified text store = some token ∧
      (Middleware.verifyToken text).run reliableIdentity env store =
        (store.elapse (env 0).elapsed, .ok token, fun n => env (n + 1))) ∨
    (verified text store = none ∧ ∃ store' error env',
      (Middleware.verifyToken text).run reliableIdentity env store =
        (store', .error error, env')) := by
  unfold verified Middleware.verifyToken
  cases JwtText.read text with
  | none => exact .inr ⟨rfl, _, _, _, rfl⟩
  | some token =>
      by_cases hValid : token ∈ store.signed ∧ store.clock < token.exp
      · refine .inl ⟨token, by simp [hValid], ?_⟩
        have hAnswer : executeIdentity { env 0 with fault := none } store
            (.verifyToken token false) = (store, .ok ()) := if_pos ⟨hValid.1, .inr hValid.2⟩
        dsimp only
        rw [Navin.verifyToken, jwtVerify, Program.run_bind, run_ask_reliable, hAnswer]
        rfl
      · refine .inr ⟨by simpa using hValid, ?_⟩
        have hAnswer : executeIdentity { env 0 with fault := none } store
            (.verifyToken token false) = (store, .error .invalidToken) := by
          refine if_neg fun h => hValid ⟨h.1, h.2.resolve_left Bool.false_ne_true⟩
        dsimp only
        rw [Navin.verifyToken, jwtVerify, Program.run_bind, run_ask_reliable, hAnswer]
        exact ⟨_, _, _, rfl⟩

omit [JwtText] in
theorem run_isTokenBlocked_reliable (jti : String) (env : Nat → IdentityDecision)
    (store : IdentityStore) :
    ((isTokenBlocked jti).run reliableIdentity env store).2.1 =
      .ok (isValidJti jti && store.holds (blocklistKeyOf jti)) := by
  unfold isTokenBlocked
  split
  · rename_i hValid
    rw [Program.run_bind, run_ask_reliable]
    simp only [executeIdentity, hValid, Bool.true_and]
    cases store.holds (blocklistKeyOf jti) <;> rfl
  · rename_i hInvalid
    rw [Bool.eq_false_iff.mpr hInvalid]
    rfl

/-- Whoever has verified the token and is not turned away by the blocklist is let in. -/
theorem admits_authenticate (text revokedCode : String) (env : Nat → IdentityDecision)
    (store : IdentityStore) :
    ((Middleware.authenticate text revokedCode).run reliableIdentity env store).2.1.toOption =
      (verified text store).filter fun token => !(store.elapse (env 0).elapsed).revokes token := by
  unfold Middleware.authenticate
  rw [Program.run_bind, Program.run_tryCatch]
  rcases run_verifyToken text env store with
    ⟨token, hVerified, hRun⟩ | ⟨hVerified, store', error, env', hRun⟩
  · rw [hRun, hVerified]
    dsimp only
    rw [Option.filter_some, IdentityStore.revokes]
    cases truthy token.claims.jti with
    | none => rfl
    | some jti =>
        have hBlocked := run_isTokenBlocked_reliable jti (fun n => env (n + 1))
          (store.elapse (env 0).elapsed)
        dsimp only
        rw [Program.run_bind, Option.any_some]
        rcases hLookup : (isTokenBlocked jti).run reliableIdentity (fun n => env (n + 1))
          (store.elapse (env 0).elapsed) with ⟨store', outcome, env'⟩
        rw [hLookup] at hBlocked
        obtain rfl := hBlocked
        cases isValidJti jti && (store.elapse (env 0).elapsed).holds (blocklistKeyOf jti) <;> rfl
  · rw [hRun, hVerified]
    rfl

theorem verified_empty : verified "" store = none := by
  rw [verified, JwtText.read_empty, Option.filter_none]

theorem admits_socketAuth (text : String) (env : Nat → IdentityDecision) (store : IdentityStore) :
    EntryPoint.socketAuth.admits text env store = verified text store := by
  unfold EntryPoint.admits Middleware.socketAuth
  by_cases hEmpty : text = ""
  · subst hEmpty
    rw [verified_empty]
    rfl
  · rw [truthy_of_ne hEmpty]
    dsimp only
    rw [Program.run_tryCatch, Program.run_bind]
    rcases run_verifyToken text env store with
      ⟨token, hVerified, hRun⟩ | ⟨hVerified, store', error, env', hRun⟩ <;>
      rw [hRun, hVerified] <;> rfl

omit [JwtText] in
theorem truthy_truthy (text : Option String) : truthy (truthy text) = truthy text := by
  rw [truthy, truthy, Option.filter_filter]
  refine congrArg (Option.filter · text) (funext fun value => ?_)
  rw [Bool.and_self]

theorem admits_requireSseAuth {authorization : Option String} {queryToken : Option QueryParameter}
    (hToken : truthy ((extractBearerToken authorization).or (extractQueryToken queryToken)) =
      truthy (some text)) (env : Nat → IdentityDecision) (store : IdentityStore) :
    ((Middleware.requireSseAuth authorization queryToken).run
        reliableIdentity env store).2.1.toOption =
      (verified text store).filter fun token => !(store.elapse (env 0).elapsed).revokes token := by
  unfold Middleware.requireSseAuth
  rw [hToken]
  by_cases hEmpty : text = ""
  · subst hEmpty
    rw [verified_empty]
    rfl
  · rw [truthy_of_ne hEmpty]
    exact admits_authenticate text _ env store

/-- The routes and the event stream look every verified token up. -/
theorem admits_of_ne_socketAuth {entry : EntryPoint} (hEntry : entry ≠ .socketAuth) (text : String)
    (env : Nat → IdentityDecision) (store : IdentityStore) :
    entry.admits text env store =
      (verified text store).filter fun token => !(store.elapse (env 0).elapsed).revokes token := by
  have hBearer := extractBearerToken_bearer text
  cases entry with
  | requireAuth =>
      simp only [EntryPoint.admits, Middleware.requireAuth, hBearer]
      exact admits_authenticate text _ env store
  | requireSseAuth =>
      refine admits_requireSseAuth ?_ env store
      rw [hBearer, Option.some_or]
  | requireSseAuthQuery =>
      refine admits_requireSseAuth ?_ env store
      exact truthy_truthy (some text)
  | socketAuth => exact absurd rfl hEntry

/-- The three entry points let the same caller in, or nobody, exactly when the
token is not one that verifies but has been revoked. -/
theorem entryPoints_agree_iff (text : String) (env : Nat → IdentityDecision)
    (store : IdentityStore) :
    (∀ first second : EntryPoint,
      first.admits text env store = second.admits text env store) ↔
      ∀ token, verified text store = some token →
        (store.elapse (env 0).elapsed).revokes token = false := by
  have hSocket := admits_socketAuth text env store
  have hOthers (entry : EntryPoint) (hEntry : entry ≠ .socketAuth) :=
    admits_of_ne_socketAuth hEntry text env store
  constructor
  · intro hAgree token hVerified
    have hSame := hAgree .requireAuth .socketAuth
    rw [hSocket, hOthers .requireAuth nofun, hVerified, Option.filter_some] at hSame
    cases hRevoked : (store.elapse (env 0).elapsed).revokes token with
    | false => rfl
    | true =>
        rw [hRevoked] at hSame
        cases hSame
  · intro hFree
    have hAll (entry : EntryPoint) : entry.admits text env store = verified text store := by
      by_cases hEntry : entry = .socketAuth
      · rw [hEntry, hSocket]
      · rw [hOthers entry hEntry]
        cases hVerified : verified text store with
        | none => rfl
        | some token => rw [Option.filter_some, hFree token hVerified]; rfl
    intro first second
    rw [hAll first, hAll second]

end Verdicts

section Samples

/-- The one text that is a token. -/
@[reducible] def sampleJwtText : JwtText where
  read text := if text = "admin" then some sampleAdminToken else none
  read_empty := by decide

/-- The admin has logged out. -/
def loggedOutStore : IdentityStore :=
  { sampleSessionStore with
    redis := [(blocklistKeyOf "00000000-0000-4000-8000-000000000001", tokenTtlSeconds)] }

/-- A socket lets in who has logged out; a route does not. -/
theorem socketAuth_admits_revoked :
    ¬∀ (_ : JwtText) (text : String) (env : Nat → IdentityDecision) (store : IdentityStore)
      (first second : EntryPoint), first.admits text env store = second.admits text env store := by
  intro hAgree
  have hSame := hAgree sampleJwtText "admin" (fun _ => {}) loggedOutStore .socketAuth .requireAuth
  rw [@admits_socketAuth sampleJwtText, @admits_of_ne_socketAuth sampleJwtText .requireAuth nofun]
    at hSame
  have hVerified : @verified sampleJwtText "admin" loggedOutStore = some sampleAdminToken := by
    have hMem : sampleAdminToken ∈ loggedOutStore.signed := List.mem_singleton_self _
    have hTime : loggedOutStore.clock < sampleAdminToken.exp := by decide
    have hValid : sampleAdminToken ∈ loggedOutStore.signed ∧
        loggedOutStore.clock < sampleAdminToken.exp := ⟨hMem, hTime⟩
    exact @verified_of_read sampleJwtText "admin" _ _ rfl hValid
  have hRevoked : (loggedOutStore.elapse 0).revokes sampleAdminToken = true := by
    decide +kernel
  rw [hVerified, Option.filter_some, hRevoked] at hSame
  cases hSame

end Samples

end Navin
