import Navin.Identity.Effects
import Navin.Identity.Tokens
import Navin.Semantics.Protocol

/-! How identifiers are drawn, signed, stored and blocklisted. A request signs
an identifier it drew, stores a session for one it signed, and blocklists one it
has verified or found, for at least as long as the token lives. -/
namespace Navin

open Async

/-- What a request has learned, and which token it presents. -/
structure Learned where
  presented : Option Token
  refreshing : Bool
  known : List Token := []
  sessions : List String := []
  reading : Option Nat := none
  fresh : Option String := none
  issued : List String := []

/-- A lifetime that outlasts the token, given the last reading of the clock. -/
def Learned.outlasts (learned : Learned) (token : Token) (ttlSeconds : Nat) : Prop :=
  tokenTtlSeconds ≤ ttlSeconds ∨ token.exp ≤ learned.reading.getD 0 + ttlSeconds

def handlesIdentifiers : Protocol IdentityCall IdentityCall.Answer ThrownError Learned where
  allows learned
    | .signToken claims expiresIn => ∀ jti, claims.jti = some jti →
        learned.fresh = some jti ∧ expiresIn ≤ tokenTtlSeconds
    | .sessionCreate _ jti _ _ => jti ∈ learned.issued
    | .redisGet key => ∃ token ∈ learned.known, learned.presented = some token ∧
        ∃ jti, token.claims.jti = some jti ∧ key = blocklistKeyOf jti
    | .redisSet key ttlSeconds =>
        (∃ token ∈ learned.known, ∃ jti, token.claims.jti = some jti ∧ key = blocklistKeyOf jti ∧
          learned.outlasts token ttlSeconds) ∨
        ∃ jti ∈ learned.sessions, key = blocklistKeyOf jti ∧ tokenTtlSeconds ≤ ttlSeconds
    -- The user of a refreshed token is loaded only within the window.
    | .userFindById _ => learned.refreshing = true → ∀ token, learned.presented = some token →
        ∃ now, learned.reading = some now ∧ now ≤ token.iat + gracePeriodSeconds
    | _ => True
  next learned call response :=
    match call, response with
    | .verifyToken token _, .ok _ => { learned with known := token :: learned.known }
    | .sessionFindByJti jti, .ok (some _) => { learned with sessions := jti :: learned.sessions }
    | .now, .ok now => { learned with reading := some now }
    | .redisGet _, _ => { learned with reading := none }
    | .randomUUID, .ok uuid => { learned with fresh := some uuid }
    | .signToken claims _, .ok _ =>
        { learned with fresh := none, issued := claims.jti.toList ++ learned.issued }
    | _, _ => learned

variable {learned : Learned} {token : Token} {call : IdentityCall} {known : List Token}

/-- A request other than a refresh, which has verified the tokens of `known`. -/
structure Learned.Knows (learned : Learned) (known : List Token) : Prop where
  idle : learned.refreshing = false
  verified : ∀ token ∈ known, token ∈ learned.known

theorem next_refreshing (response : Except ThrownError call.Answer) :
    (handlesIdentifiers.next learned call response).refreshing = learned.refreshing := by
  cases call <;> rcases response with error | answer <;> first | rfl | (cases answer <;> rfl)

theorem next_presented (response : Except ThrownError call.Answer) :
    (handlesIdentifiers.next learned call response).presented = learned.presented := by
  cases call <;> rcases response with error | answer <;> first | rfl | (cases answer <;> rfl)

/-- Verified tokens stay verified. -/
theorem mem_known_next (h : token ∈ learned.known) (response : Except ThrownError call.Answer) :
    token ∈ (handlesIdentifiers.next learned call response).known := by
  cases call <;> rcases response with error | answer <;>
    first | exact h | exact List.mem_cons_of_mem _ h | (cases answer <;> exact h)

theorem Learned.Knows.next (h : learned.Knows known) (response : Except ThrownError call.Answer) :
    (handlesIdentifiers.next learned call response).Knows known where
  idle := (next_refreshing response).trans h.idle
  verified token hToken := mem_known_next (h.verified token hToken) response

/-- Programs that handle identifiers as they should once the tokens of `known`
have been verified. -/
abbrev Careful (known : List Token) (α : Type) (p : IdentityM α) : Prop :=
  ∀ learned, learned.Knows known →
    p.Follows handlesIdentifiers (fun learned _ => learned.Knows known) learned

theorem careful_compositional (known : List Token) : Program.Compositional (Careful known) :=
  Program.Follows.compositional_within handlesIdentifiers fun learned => learned.Knows known

theorem careful_ask (h : ∀ learned, learned.Knows known → handlesIdentifiers.allows learned call) :
    Careful known _ (ask call) :=
  fun learned hKnows => Program.follows_await.mpr ⟨h learned hKnows, fun response => hKnows.next response⟩

theorem careful_ordinary (call : IdentityCall) (h : call.ordinary = true) :
    Careful known _ (ask call) := by
  refine careful_ask fun learned hKnows => ?_
  cases call with
  | userFindById id => exact fun hRefreshing => absurd (hKnows.idle.symm.trans hRefreshing) nofun
  | _ => first | exact trivial | cases h

/-- A generated token has the identifier that was just drawn. -/
theorem generateToken_follows {payload : SessionPayload} (hKnows : learned.Knows known) :
    (generateToken payload).Follows handlesIdentifiers (fun learned outcome => learned.Knows known ∧
      ∀ result, outcome = .ok result → result.2 ∈ learned.issued) learned := by
  refine Program.follows_bind.mpr (Program.follows_await.mpr ⟨trivial, fun drawn => ?_⟩)
  cases drawn with
  | error error => exact ⟨hKnows, by rintro _ ⟨⟩⟩
  | ok jti =>
      refine Program.follows_bind.mpr (Program.follows_await.mpr ⟨?_, fun signed => ?_⟩)
      · rintro other ⟨⟩
        exact ⟨rfl, le_rfl⟩
      · cases signed with
        | error error => exact ⟨⟨hKnows.idle, hKnows.verified⟩, by rintro _ ⟨⟩⟩
        | ok token =>
            refine ⟨⟨hKnows.idle, hKnows.verified⟩, ?_⟩
            rintro result ⟨⟩
            exact List.mem_cons_self

theorem careful_generateToken (payload : SessionPayload) :
    Careful known _ (generateToken payload) :=
  fun _ hKnows => (generateToken_follows hKnows).mono fun _ _ h => h.1

/-- The stored session is the one of the generated token. -/
theorem careful_openSession (user : User) (ctx : RequestContext) :
    Careful known _ (openSession user ctx) := by
  have hT := careful_compositional known
  refine hT.bind (organizationTypeOf_holds hT careful_ordinary user) fun organizationType => ?_
  intro learned hKnows
  refine (generateToken_follows hKnows).bind (fun learned result hResult => ?_) fun _ _ h => h.1
  obtain ⟨token, jti⟩ := result
  have hIssued : jti ∈ learned.issued := hResult.2 _ rfl
  refine Program.Follows.bind (Q := fun learned _ => learned.Knows known) ?_
    (fun _ _ h => h) fun _ _ h => h
  refine Program.follows_tryCatch.mpr (Program.follows_await.mpr ⟨hIssued, fun response => ?_⟩)
  cases response <;> exact hResult.1

theorem careful_forgotPassword (email : String) : Careful known _ (forgotPassword email) := by
  have hT := careful_compositional known
  refine hT.bind (careful_ordinary (.userFindByEmail _) rfl) fun found => ?_
  cases found with
  | none => exact hT.pure _
  | some user =>
      intro learned hKnows
      refine Program.follows_bind.mpr (Program.follows_await.mpr ⟨trivial, fun drawn => ?_⟩)
      cases drawn with
      | error error => exact hKnows
      | ok jti =>
          refine Program.follows_bind.mpr (Program.follows_await.mpr ⟨?_, fun signed => ?_⟩)
          · rintro other ⟨⟩
            exact ⟨rfl, by decide⟩
          · have hDrawn : (handlesIdentifiers.next learned .randomUUID (.ok jti)).Knows known :=
              hKnows.next _
            have hNext := hDrawn.next signed
            cases signed with
            | error error => exact hNext
            | ok token =>
                exact hT.tryCatch (careful_ordinary (.sendEmail _) rfl) (fun _ => hT.pure _) _ hNext

theorem careful_generateInvitationToken (payload : Invitations.InviteTokenPayload) :
    Careful known _ (Invitations.generateInvitationToken payload) :=
  careful_ask fun _ _ => nofun

theorem truthy_eq_some {text : Option String} {value : String} (h : truthy text = some value) :
    text = some value :=
  (Option.filter_eq_some_iff.mp h).1

/-- A verified token may be blocklisted for a lifetime that outlasts it. -/
theorem blockToken_follows {jti : String} {ttlSeconds : Int} (hKnows : learned.Knows known)
    (hToken : token ∈ learned.known) (hJti : token.claims.jti = some jti)
    (hTtl : 0 < ttlSeconds → learned.outlasts token ttlSeconds.toNat) :
    (blockToken jti ttlSeconds).Follows handlesIdentifiers
      (fun learned _ => learned.Knows known) learned := by
  unfold blockToken blocklistKey
  split
  · exact hKnows
  · rename_i hPositive
    split
    · exact hKnows
    · rename_i key hKey
      split at hKey
      · cases hKey
        refine Program.follows_await.mpr ⟨?_, fun response => hKnows.next response⟩
        exact .inl ⟨token, hToken, jti, hJti, rfl, hTtl (not_le.mp hPositive)⟩
      · cases hKey

/-- The remaining lifetime of a token outlasts it, unless `exp` counts as absent;
then any lifetime does. -/
theorem remainingTtl_follows {fallback : Nat} (hKnows : learned.Knows known)
    (hToken : token ∈ learned.known) :
    (remainingTtl token fallback).Follows handlesIdentifiers (fun learned outcome =>
      learned.Knows known ∧ token ∈ learned.known ∧ ∀ ttlSeconds, outcome = .ok ttlSeconds →
        0 < ttlSeconds → learned.outlasts token ttlSeconds.toNat) learned := by
  unfold remainingTtl
  split
  · rename_i hExp
    refine ⟨hKnows, hToken, fun ttlSeconds _ _ => .inr ?_⟩
    rw [hExp]
    exact Nat.zero_le _
  · refine Program.follows_bind.mpr (Program.follows_await.mpr ⟨trivial, fun response => ?_⟩)
    cases response with
    | error error => exact ⟨hKnows, hToken, by rintro _ ⟨⟩⟩
    | ok now =>
        refine ⟨⟨hKnows.idle, hKnows.verified⟩, hToken, ?_⟩
        rintro ttlSeconds ⟨⟩ hPositive
        refine .inr ?_
        simp only [handlesIdentifiers, Option.getD_some]
        omega

theorem careful_blockPayload (hToken : token ∈ known) (fallback : Nat) :
    Careful known _ (blockPayload token fallback) := by
  intro learned hKnows
  unfold blockPayload
  cases hJti : truthy token.claims.jti with
  | none => exact hKnows
  | some jti =>
      refine (remainingTtl_follows hKnows (hKnows.verified token hToken)).bind
        (fun learned ttlSeconds h => ?_) fun _ _ h => h.1
      exact blockToken_follows h.1 h.2.1 (truthy_eq_some hJti) (h.2.2 ttlSeconds rfl)

/-- Verification adds the token to what is known. -/
theorem jwtVerify_follows {ignoreExpiration : Bool} (hKnows : learned.Knows known) :
    (jwtVerify token ignoreExpiration).Follows handlesIdentifiers (fun learned outcome =>
      learned.Knows known ∧ ∀ payload, outcome = .ok payload →
        payload = token ∧ learned.Knows (token :: known)) learned := by
  refine Program.follows_bind.mpr (Program.follows_await.mpr ⟨trivial, fun response => ?_⟩)
  cases response with
  | error error => exact ⟨hKnows, by rintro _ ⟨⟩⟩
  | ok answer =>
      have hAll : ∀ other ∈ token :: known, other ∈ token :: learned.known := fun other hOther =>
        List.mem_cons.mpr ((List.mem_cons.mp hOther).imp id (hKnows.verified other))
      refine ⟨⟨hKnows.idle, fun other hOther => hAll other (List.mem_cons_of_mem _ hOther)⟩, ?_⟩
      rintro payload ⟨⟩
      exact ⟨rfl, hKnows.idle, hAll⟩

/-- What may be done once a token has been verified, may be done after verifying it. -/
theorem careful_verifyToken_bind {α : Type} {next : Token → IdentityM α}
    (h : Careful (token :: known) α (next token)) : Careful known α (verifyToken token >>= next) := by
  intro learned hKnows
  refine (jwtVerify_follows hKnows).bind (fun learned payload hPayload => ?_) fun _ _ h => h.1
  obtain ⟨rfl, hNow⟩ := hPayload.2 payload rfl
  exact (h learned hNow).mono fun _ _ hAfter =>
    ⟨hAfter.idle, fun other hOther => hAfter.verified other (List.mem_cons_of_mem _ hOther)⟩

theorem careful_logout (token : Token) : Careful known _ (logout token) := by
  intro learned hKnows
  refine Program.Follows.bind (Q := fun learned outcome => learned.Knows known ∧
    ∀ payload, outcome = .ok (some payload) → payload = token ∧ token ∈ learned.known) ?_
    (fun learned found hFound => ?_) fun _ _ h => h.1
  · refine Program.follows_tryCatch.mpr ?_
    rw [map_eq_pure_bind]
    refine (jwtVerify_follows hKnows).bind (fun learned payload hPayload => ?_) fun _ _ h => ?_
    · refine ⟨hPayload.1, ?_⟩
      rintro other ⟨⟩
      obtain ⟨rfl, hNow⟩ := hPayload.2 payload rfl
      exact ⟨rfl, hNow.verified _ List.mem_cons_self⟩
    · exact ⟨h.1, by rintro _ ⟨⟩⟩
  · cases found with
    | none => exact hFound.1
    | some payload =>
        obtain ⟨rfl, hToken⟩ := hFound.2 payload rfl
        refine (remainingTtl_follows hFound.1 hToken).bind (fun learned ttlSeconds h => ?_)
          fun _ _ h => h.1
        cases hJti : truthy payload.claims.jti with
        | none => exact h.1
        | some jti => exact blockToken_follows h.1 h.2.1 (truthy_eq_some hJti) (h.2.2 ttlSeconds rfl)

/-- Blocklisting the presented token, whatever comes of it. -/
theorem careful_verify_blockPayload (token : Token) (fallback : Nat) :
    Careful known _ (tryCatch (do
      let payload ← verifyToken token
      blockPayload payload fallback) fun _ => pure ()) := by
  have hT := careful_compositional known
  refine hT.tryCatch (careful_verifyToken_bind ?_) fun _ => hT.pure _
  exact careful_blockPayload List.mem_cons_self fallback

theorem careful_deleteCurrentUser (userId : String) (token : Token) :
    Careful known _ (Users.deleteCurrentUser userId token) := by
  have hT := careful_compositional known
  refine hT.bind (Users.deleteUser_holds hT careful_ordinary userId) fun user => ?_
  exact hT.bind (careful_verify_blockPayload token tokenTtlSeconds) fun _ => hT.pure _

/-- A session is found by its identifier, which may then be blocklisted. -/
theorem careful_revokeSession (requestingUserId jti : String) :
    Careful known _ (revokeSession requestingUserId jti) := by
  have hT := careful_compositional known
  intro learned hKnows
  refine Program.follows_bind.mpr (Program.follows_await.mpr ⟨trivial, fun response => ?_⟩)
  cases response with
  | error error => exact hKnows
  | ok found =>
      cases found with
      | none => exact hKnows
      | some session =>
          have hFound : (handlesIdentifiers.next learned (.sessionFindByJti jti)
              (.ok (some session))).Knows known := hKnows.next _
          rw [Program.then_ok]
          dsimp only
          split
          · exact hFound
          · refine Program.Follows.bind (Q := fun learned _ => learned.Knows known) ?_
              (fun learned _ h => careful_ordinary (.sessionDelete jti) rfl learned h) fun _ _ h => h
            unfold blockToken blocklistKey
            split
            · exact hFound
            · split
              · exact hFound
              · rename_i key hKey
                split at hKey
                · cases hKey
                  refine Program.follows_await.mpr ⟨.inr ?_, fun response => hFound.next response⟩
                  exact ⟨jti, List.mem_cons_self, rfl, le_rfl⟩
                · cases hKey

section Passwords

variable [Bcrypt]

theorem careful_changePassword (payload : Token) (currentPassword newPassword : String)
    (currentJwt : Token) :
    Careful known _ (changePassword payload currentPassword newPassword currentJwt) := by
  have hT := careful_compositional known
  refine hT.bind (findPayloadUser_holds hT careful_ordinary _) fun found => ?_
  split
  · exact hT.throw _
  · split
    · refine hT.bind (hashPassword_holds hT careful_ordinary _) fun passwordHash => ?_
      refine hT.bind (careful_ordinary (.userSave _ _) rfl) fun _ => ?_
      exact careful_verify_blockPayload currentJwt tokenTtlSeconds
    · exact hT.throw _

theorem careful_resetPassword (token : Token) (newPassword : String) :
    Careful known _ (resetPassword token newPassword) := by
  intro learned hKnows
  refine Program.Follows.bind (Q := fun learned outcome => learned.Knows known ∧
    ∀ payload, outcome = .ok payload → payload = token ∧ learned.Knows (token :: known)) ?_
    (fun learned payload hPayload => ?_) fun _ _ h => h.1
  · refine (jwtVerify_follows hKnows).tryCatch (fun _ _ h => h) fun _ _ h => ⟨h.1, ?_⟩
    rintro _ ⟨⟩
  · obtain ⟨rfl, hNow⟩ := hPayload.2 payload rfl
    have hT := careful_compositional (payload :: known)
    refine Program.Follows.mono (Q := fun learned _ => learned.Knows (payload :: known)) ?_
      fun _ _ h => ⟨h.idle, fun other hOther => h.verified other (List.mem_cons_of_mem _ hOther)⟩
    split
    · exact hNow
    · refine hT.bind (findPayloadUser_holds hT careful_ordinary _) (fun found => ?_) _ hNow
      cases found with
      | none => exact hT.throw _
      | some user =>
          refine hT.bind (hashPassword_holds hT careful_ordinary _) fun passwordHash => ?_
          refine hT.bind (careful_ordinary (.userSave _ _) rfl) fun _ => ?_
          exact careful_blockPayload List.mem_cons_self _

theorem careful_publicRoute (operation : PublicOperation)
    (hRefresh : ∀ token, operation ≠ .refresh token) : Careful known _ operation.program := by
  have hT := careful_compositional known
  have hCreate (fields : UserFields) : Careful known _ (ask (.userCreate fields)) :=
    careful_ask fun _ _ => trivial
  refine PublicOperation.program_holds hT careful_ordinary careful_generateToken careful_openSession
    (fun fields _ => hCreate fields) (fun _ _ _ _ => careful_ask fun _ _ => trivial)
    careful_forgotPassword careful_resetPassword ?_ ?_ operation ?_
  · exact fun input => Users.acceptInvitation_holds hT careful_ordinary hCreate
  · exact fun input => Invitations.acceptInvitationWithPassword_holds hT careful_ordinary hCreate
  · exact fun token hOperation => absurd hOperation (hRefresh token)

theorem careful_handler [Sha256] [TokenText] (bearer payload : Token)
    (operation : AuthenticatedOperation) : Careful known _ (operation.handler bearer payload) := by
  have hCreate (fields : UserFields) : Careful known _ (ask (.userCreate fields)) :=
    careful_ask fun _ _ => trivial
  refine AuthenticatedOperation.handler_holds (careful_compositional known) careful_ordinary
    (careful_logout bearer) ?_ careful_revokeSession ?_ (fun fields _ => hCreate fields)
    (fun _ _ fields _ => hCreate fields) (fun _ _ _ _ _ => careful_ask fun _ _ => nofun)
    careful_generateInvitationToken fun _ _ => careful_ask fun _ _ => trivial
  · exact fun _ _ => careful_changePassword payload _ _ bearer
  · exact fun _ => careful_deleteCurrentUser _ bearer

end Passwords

/-- The lookup of the presented token, once it has been verified. -/
theorem isTokenBlocked_follows {jti : String} (hToken : token ∈ learned.known)
    (hPresented : learned.presented = some token) (hJti : token.claims.jti = some jti) :
    (isTokenBlocked jti).Follows handlesIdentifiers (fun after _ => after.known = learned.known ∧
      after.presented = learned.presented ∧ after.refreshing = learned.refreshing) learned := by
  unfold isTokenBlocked
  split
  · refine Program.follows_bind.mpr (Program.follows_await.mpr ⟨?_, fun response => ?_⟩)
    · exact ⟨token, hToken, hPresented, jti, hJti, rfl⟩
    · cases response <;> exact ⟨rfl, rfl, rfl⟩
  · exact ⟨rfl, rfl, rfl⟩

theorem knows_nil (hIdle : learned.refreshing = false) : learned.Knows [] where
  idle := hIdle
  verified _ hToken := absurd hToken List.not_mem_nil

theorem requireAuth_careful {authorization : Option Token}
    (hPresented : learned.presented = authorization) (hIdle : learned.refreshing = false) :
    (requireAuth authorization).Follows handlesIdentifiers
      (fun learned _ => learned.Knows []) learned := by
  cases authorization with
  | none => exact knows_nil hIdle
  | some token =>
      refine Program.follows_bind.mpr (Program.follows_tryCatch.mpr ?_)
      refine Program.follows_bind.mpr (Program.follows_await.mpr ⟨trivial, fun response => ?_⟩)
      cases response with
      | error error => exact knows_nil hIdle
      | ok answer =>
          simp only [Program.then_ok, Program.follows_pure, Program.caught_ok]
          split
          · exact knows_nil hIdle
          · rename_i jti hJti
            refine Program.Follows.bind (isTokenBlocked_follows List.mem_cons_self hPresented
              (truthy_eq_some hJti)) (fun learned blocked h => ?_) ?_
            · split <;> exact knows_nil (h.2.2.trans hIdle)
            · exact fun _ _ h => knows_nil (h.2.2.trans hIdle)

/-- The entry written in exchange for a token outlasts it. -/
theorem exchangeToken_careful {jti : String} {now : Nat} {user : User}
    (hToken : token ∈ learned.known) (hJti : token.claims.jti = some jti) :
    (exchangeToken token jti now user).Follows handlesIdentifiers (fun _ _ => True) learned := by
  have hType : (organizationTypeOf user).Follows handlesIdentifiers
      (fun learned _ => token ∈ learned.known) learned := by
    unfold organizationTypeOf
    split
    · exact hToken
    · refine Program.follows_bind.mpr (Program.follows_await.mpr ⟨trivial, fun response => ?_⟩)
      cases response <;> exact hToken
  refine hType.bind (fun learned organizationType hToken => ?_) fun _ _ _ => trivial
  have hBlock : (blockToken jti (exchangedTtl token now)).Follows handlesIdentifiers
      (fun _ _ => True) learned := by
    unfold blockToken blocklistKey
    split
    · trivial
    · split
      · trivial
      · rename_i key hKey
        split at hKey
        · cases hKey
          refine Program.follows_await.mpr ⟨.inl ⟨token, hToken, jti, hJti, rfl, .inl ?_⟩, ?_⟩
          · have hGrace := grace_le_exchangedTtl token now
            unfold gracePeriodSeconds at hGrace
            unfold tokenTtlSeconds
            omega
          · exact fun response => trivial
        · cases hKey
  refine hBlock.bind (fun learned _ _ => ?_) fun _ _ _ => trivial
  refine Program.Follows.bind (Q := fun _ _ => True) ?_ (fun _ _ _ => trivial) fun _ _ _ => trivial
  refine Program.follows_bind.mpr (Program.follows_await.mpr ⟨trivial, fun drawn => ?_⟩)
  cases drawn with
  | error error => trivial
  | ok jti =>
      refine Program.follows_bind.mpr (Program.follows_await.mpr ⟨?_, fun signed => ?_⟩)
      · rintro other ⟨⟩
        exact ⟨rfl, le_rfl⟩
      · cases signed <;> trivial

/-- A refresh loads the user only after it has found the token young enough. -/
theorem refreshToken_careful (hPresented : learned.presented = some token) :
    (refreshToken token).Follows handlesIdentifiers (fun _ _ => True) learned := by
  refine Program.follows_bind.mpr (Program.follows_tryCatch.mpr ?_)
  refine Program.follows_bind.mpr (Program.follows_await.mpr ⟨trivial, fun response => ?_⟩)
  cases response with
  | error error => trivial
  | ok answer =>
      simp only [Program.then_ok, Program.follows_pure, Program.caught_ok]
      split
      · rename_i jti hJti
        refine Program.Follows.bind (isTokenBlocked_follows List.mem_cons_self hPresented
          (truthy_eq_some hJti)) (fun learned blocked h => ?_) ?_
        · obtain ⟨hKnown, hPresents, -⟩ := h
          split
          · trivial
          · refine Program.follows_bind.mpr (Program.follows_await.mpr ⟨trivial, fun response => ?_⟩)
            cases response with
            | error error => trivial
            | ok now =>
                rw [Program.then_ok]
                split
                · trivial
                · rename_i hYoung
                  have hToken : token ∈ learned.known := hKnown ▸ List.mem_cons_self
                  unfold findPayloadUser
                  cases token.claims.userId with
                  | none => trivial
                  | some userId =>
                      refine Program.follows_bind.mpr (Program.follows_await.mpr ⟨?_, fun found => ?_⟩)
                      · intro _ other hOther
                        obtain rfl := Option.some.inj ((hPresents.trans hPresented).symm.trans hOther)
                        exact ⟨now, rfl, by omega⟩
                      · cases found with
                        | error error => trivial
                        | ok found =>
                            rw [Program.then_ok]
                            split
                            · trivial
                            · exact exchangeToken_careful hToken (truthy_eq_some hJti)
        · exact fun _ _ _ => trivial
      · trivial

def IdentityRequest.refreshes : IdentityRequest → Bool
  | .publicRoute (.refresh _) => true
  | _ => false

/-- The token whose key a request looks up: the bearer's or the refreshed one. -/
def IdentityRequest.presents : IdentityRequest → Option Token
  | .publicRoute (.refresh token) => some token
  | .authenticated authorization _ => authorization
  | _ => none

def IdentityRequest.initial (request : IdentityRequest) : Learned where
  presented := request.presents
  refreshing := request.refreshes

theorem IdentityRequest.program_careful [Bcrypt] [Sha256] [TokenText] (request : IdentityRequest) :
    request.program.Follows handlesIdentifiers (fun _ _ => True) request.initial := by
  cases request with
  | publicRoute operation =>
      by_cases hRefresh : ∃ token, operation = .refresh token
      · obtain ⟨token, rfl⟩ := hRefresh
        exact (refreshToken_careful rfl).bind (fun _ _ _ => trivial) fun _ _ _ => trivial
      · have hIdle : (IdentityRequest.publicRoute operation).initial.refreshing = false := by
          cases operation <;> first | rfl | exact absurd ⟨_, rfl⟩ hRefresh
        exact (careful_publicRoute operation (fun token h => hRefresh ⟨token, h⟩) _
          (knows_nil hIdle)).mono fun _ _ _ => trivial
  | authenticated authorization operation =>
      refine Program.Follows.bind (requireAuth_careful rfl rfl) (fun learned payload hKnows => ?_) ?_
      · have hT := careful_compositional []
        exact (hT.bind (operation.gate_holds hT payload)
          (fun _ => careful_handler _ payload operation) _ hKnows).mono fun _ _ _ => trivial
      · exact fun _ _ _ => trivial

end Navin
