import Navin.Identity.Effects
import Navin.Identity.Tokens
import Navin.Semantics.TwoRuns

/-! Which verifier rejects a token of another kind? Three of the five look at
the `type` claim. The two for sessions do not. -/
namespace Navin

open Async

variable {store store' : IdentityStore} {token : Token} {env env' : Nat → IdentityDecision}

/-- The five verifiers. -/
inductive TokenVerifier where
  | requireAuth
  | refreshToken
  | resetPassword (newPassword : String)
  | verifyUserInvitation
  | verifyCompanyInvitation

def TokenVerifier.kind : TokenVerifier → TokenKind
  | .requireAuth => .session
  | .refreshToken => .session
  | .resetPassword _ => .passwordReset
  | .verifyUserInvitation => .userInvitation
  | .verifyCompanyInvitation => .companyInvitation

def TokenVerifier.program [Bcrypt] (token : Token) : TokenVerifier → IdentityM Unit
  | .requireAuth => do
      let _ ← Navin.requireAuth (some token)
  | .refreshToken => do
      let _ ← Navin.refreshToken token
  | .resetPassword newPassword => Navin.resetPassword token newPassword
  | .verifyUserInvitation => do
      let _ ← Users.verifyInvitationToken token
  | .verifyCompanyInvitation => do
      let _ ← Invitations.verifyInvitationToken token

/-- Whatever happens meanwhile, the verifier throws. -/
def Rejects [Bcrypt] (store : IdentityStore) (verifier : TokenVerifier) (token : Token) : Prop :=
  ∀ env, ∃ error, ((verifier.program token).run identity env store).2.1 = .error error

/-- What `refreshToken` looks at: an identifier that is off the blocklist at
some moment of the window, and a live user. A new identifier must be left. -/
structure Refreshable (store : IdentityStore) (token : Token) : Prop where
  unblocked : ∃ jti seconds, token.claims.jti = some jti ∧
    store.clock + seconds ≤ token.iat + gracePeriodSeconds ∧
    (store.elapse seconds).holds (blocklistKeyOf jti) = false
  owned : ∃ userId id user, token.claims.userId = some userId ∧ ObjectId.cast? userId = some id ∧
    store.liveUser id = some user
  undrawn : ∃ uuid, isDrawnUuid uuid = true ∧ uuid ∉ store.drawn

/-- When a verifier lets a token of another kind through. -/
def LetsThrough (store : IdentityStore) (token : Token) : TokenVerifier → Prop
  | .requireAuth => store.clock < token.exp
  | .refreshToken => Refreshable store token
  | _ => False

/-- Under steady decisions nothing fails and no time passes. -/
private def steadyDecisions (uuid : String) : Nat → IdentityDecision :=
  fun _ => { uuid }

private theorem organizationTypeOf_steady (user : User) (uuid : String) :
    ∃ organizationType, (organizationTypeOf user).run identity (steadyDecisions uuid) store =
      (store, .ok organizationType, steadyDecisions uuid) := by
  unfold organizationTypeOf
  split
  · exact ⟨none, rfl⟩
  · exact ⟨_, by rw [Program.run_bind_ok (run_ask_eq_ok.mpr ⟨rfl, rfl, rfl, rfl⟩)]; rfl⟩

private theorem blockToken_steady {jti uuid : String} (hJti : isDrawnUuid jti = true)
    (payload : Token) (now : Nat) :
    ∃ store', store'.drawn = store.drawn ∧
      (blockToken jti (exchangedTtl payload now)).run identity (steadyDecisions uuid) store =
        (store', .ok (), steadyDecisions uuid) := by
  have hTtl := grace_le_exchangedTtl payload now
  have hPositive : ¬exchangedTtl payload now ≤ 0 := by
    unfold gracePeriodSeconds at hTtl
    omega
  unfold blockToken blocklistKey
  rw [if_neg hPositive, if_pos (isValidJti_of_isDrawnUuid hJti)]
  refine ⟨_, ?_, run_ask_eq_ok.mpr ⟨rfl, rfl, rfl, rfl⟩⟩
  rfl

private theorem generateToken_steady {uuid : String} (hUuid : isDrawnUuid uuid = true)
    (hFresh : uuid ∉ store.drawn) (payload : SessionPayload) :
    ∃ store' result env', (generateToken payload).run identity (steadyDecisions uuid) store =
      (store', .ok result, env') := by
  have hDraw : (executeIdentity (steadyDecisions uuid 0) store .randomUUID).2 = .ok uuid := by
    simp [executeIdentity, steadyDecisions, hUuid, hFresh]
  unfold generateToken
  rw [Program.run_bind_ok (run_ask_eq_ok.mpr ⟨rfl, hDraw, rfl, rfl⟩),
    Program.run_bind_ok (run_ask_eq_ok.mpr ⟨rfl, rfl, rfl, rfl⟩)]
  exact ⟨_, _, _, rfl⟩

private theorem organizationTypeOf_drawn {user : User} {organizationType : Option OrganizationType}
    (h : (organizationTypeOf user).run identity env store = (store', .ok organizationType, env')) :
    store'.drawn = store.drawn := by
  unfold organizationTypeOf at h
  split at h
  · cases h
    rfl
  · obtain ⟨_, _, _, hFind, hRest⟩ := Program.run_bind_eq_ok.mp h
    obtain ⟨-, -, rfl, rfl⟩ := run_ask_eq_ok.mp hFind
    cases hRest
    rfl

private theorem blockToken_drawn {jti : String} {ttl : Int}
    (h : (blockToken jti ttl).run identity env store = (store', .ok (), env')) :
    store'.drawn = store.drawn := by
  unfold blockToken at h
  split at h
  · cases h
    rfl
  · split at h
    · cases h
    · obtain ⟨-, -, rfl, -⟩ := run_ask_eq_ok.mp h
      rfl

/-- A token that is generated takes an identifier nobody has drawn. -/
private theorem exists_undrawn_of_generateToken {payload : SessionPayload} {result : Token × String}
    (h : (generateToken payload).run identity env store = (store', .ok result, env')) :
    ∃ uuid, isDrawnUuid uuid = true ∧ uuid ∉ store.drawn := by
  obtain ⟨_, jti, _, hDraw, -⟩ := Program.run_bind_eq_ok.mp h
  obtain ⟨-, hAnswer, -, -⟩ := run_ask_eq_ok.mp hDraw
  simp only [executeIdentity] at hAnswer
  split at hAnswer
  · rename_i hFresh
    exact ⟨(env 0).uuid, hFresh⟩
  · cases hAnswer

private theorem exchangeToken_steady {jti uuid : String} (hJti : isDrawnUuid jti = true)
    (hUuid : isDrawnUuid uuid = true) (hFresh : uuid ∉ store.drawn) (payload : Token) (now : Nat)
    (user : User) :
    ∃ store' result env', (exchangeToken payload jti now user).run identity (steadyDecisions uuid) store =
      (store', .ok result, env') := by
  obtain ⟨organizationType, hType⟩ := @organizationTypeOf_steady store user uuid
  obtain ⟨blocked, hDrawn, hBlock⟩ := @blockToken_steady store jti uuid hJti payload now
  rw [← hDrawn] at hFresh
  obtain ⟨store', result, env', hGenerate⟩ :=
    generateToken_steady hUuid hFresh (sessionPayload user organizationType)
  unfold exchangeToken
  rw [Program.run_bind_ok hType, Program.run_bind_ok hBlock, Program.run_bind_ok hGenerate]
  exact ⟨_, _, _, rfl⟩

private theorem exists_undrawn_of_exchangeToken {payload : Token} {jti : String} {now : Nat}
    {user : User} {result : RefreshResult}
    (h : (exchangeToken payload jti now user).run identity env store = (store', .ok result, env')) :
    ∃ uuid, isDrawnUuid uuid = true ∧ uuid ∉ store.drawn := by
  obtain ⟨_, _, _, hType, hRest⟩ := Program.run_bind_eq_ok.mp h
  obtain ⟨_, _, _, hBlock, hRest⟩ := Program.run_bind_eq_ok.mp hRest
  obtain ⟨_, _, _, hGenerate, -⟩ := Program.run_bind_eq_ok.mp hRest
  have hUndrawn := exists_undrawn_of_generateToken hGenerate
  rwa [blockToken_drawn hBlock, organizationTypeOf_drawn hType] at hUndrawn

private theorem run_isTokenBlocked {jti : String} {blocked : Bool} (hJti : isDrawnUuid jti = true)
    (h : (isTokenBlocked jti).run identity env store = (store', .ok blocked, env')) :
    blocked = store.holds (blocklistKeyOf jti) ∧ store' = store.elapse (env 0).elapsed := by
  unfold isTokenBlocked at h
  rw [if_pos (isValidJti_of_isDrawnUuid hJti)] at h
  obtain ⟨_, _, _, hGet, hRest⟩ := Program.run_bind_eq_ok.mp h
  obtain ⟨-, hAnswer, rfl, rfl⟩ := run_ask_eq_ok.mp hGet
  cases hAnswer
  cases hRest
  refine ⟨?_, rfl⟩
  cases store.holds (blocklistKeyOf jti) <;> rfl

private theorem run_findPayloadUser {user : User}
    (h : (findPayloadUser token).run identity env store = (store', .ok (some user), env')) :
    (∃ userId id, token.claims.userId = some userId ∧ ObjectId.cast? userId = some id ∧
      store.liveUser id = some user) ∧ store' = store.elapse (env 0).elapsed := by
  unfold findPayloadUser at h
  cases hUserId : token.claims.userId with
  | none =>
      rw [hUserId] at h
      cases h
  | some userId =>
      rw [hUserId] at h
      obtain ⟨-, hAnswer, rfl, -⟩ := run_ask_eq_ok.mp h
      simp only [executeIdentity, castingId] at hAnswer ⊢
      split at hAnswer
      · cases hAnswer
      · rename_i id hCast
        exact ⟨⟨userId, id, rfl, hCast, Except.ok.inj hAnswer⟩, rfl⟩

private theorem findPayloadUser_steady {user : User} {userId uuid : String} {id : ObjectId}
    (hUserId : token.claims.userId = some userId) (hCast : ObjectId.cast? userId = some id)
    (hUser : store.liveUser id = some user) :
    (findPayloadUser token).run identity (steadyDecisions uuid) store =
      (store, .ok (some user), steadyDecisions uuid) := by
  have hAnswer : executeIdentity (steadyDecisions uuid 0) store (.userFindById userId) =
      (store, .ok (some user)) := by
    simp only [executeIdentity, castingId, hCast]
    exact congrArg _ (congrArg _ hUser)
  unfold findPayloadUser
  rw [hUserId]
  refine run_ask_eq_ok.mpr ⟨rfl, ?_, ?_, rfl⟩
  · rw [hAnswer]
  · rw [hAnswer]
    rfl

private theorem filter_live {user : User} {id : ObjectId} (hUser : store.liveUser id = some user) :
    (some user).filter (fun user => user.deletedAt.isNone) = some user := by
  have hDeleted := (Option.filter_eq_some_iff.mp hUser).2
  simp [Option.filter_some, hDeleted]

section Verifiers

variable [Bcrypt] {verifier : TokenVerifier}

theorem rejects_iff :
    Rejects store verifier token ↔
      ¬∃ env store' env', (verifier.program token).run identity env store = (store', .ok (), env') := by
  constructor
  · rintro h ⟨env, store', env', hRun⟩
    obtain ⟨error, hError⟩ := h env
    rw [hRun] at hError
    cases hError
  · intro h env
    rcases hRun : (verifier.program token).run identity env store with ⟨store', outcome, env'⟩
    cases outcome with
    | ok result => exact absurd ⟨env, store', env', hRun⟩ h
    | error error => exact ⟨error, rfl⟩

/-- The three verifiers that look at the `type` claim reject the other kinds. -/
theorem rejects_of_type_ne (hType : token.claims.type ≠ verifier.kind.claimed)
    (hKind : verifier.kind ≠ .session) : Rejects store verifier token := by
  rw [rejects_iff]
  rintro ⟨env, store', env', hRun⟩
  cases verifier with
  | requireAuth => exact hKind rfl
  | refreshToken => exact hKind rfl
  | resetPassword newPassword =>
      have hType : token.claims.type ≠ some .passwordReset := hType
      obtain ⟨_, payload, _, hVerify, hRest⟩ := Program.run_bind_eq_ok.mp hRun
      rw [Program.run_tryCatch_throw_eq_ok] at hVerify
      obtain ⟨-, rfl, -, -⟩ := run_jwtVerify_eq_ok.mp hVerify
      rw [if_pos hType] at hRest
      cases hRest
  | verifyUserInvitation =>
      have hType : token.claims.type ≠ some .userInvitation := hType
      obtain ⟨_, _, _, hInvite, -⟩ := Program.run_bind_eq_ok.mp hRun
      obtain ⟨_, payload, _, hVerify, hRest⟩ := Program.run_bind_eq_ok.mp hInvite
      rw [Program.run_tryCatch_throw_eq_ok] at hVerify
      obtain ⟨-, rfl, -, -⟩ := run_jwtVerify_eq_ok.mp hVerify
      rw [if_pos hType] at hRest
      cases hRest
  | verifyCompanyInvitation =>
      have hType : token.claims.type ≠ some .companyInvitation := hType
      obtain ⟨_, _, _, hInvite, -⟩ := Program.run_bind_eq_ok.mp hRun
      obtain ⟨_, payload, _, hVerify, hRest⟩ := Program.run_bind_eq_ok.mp hInvite
      rw [Program.run_tryCatch_throw_eq_ok] at hVerify
      obtain ⟨-, rfl, -, -⟩ := run_jwtVerify_eq_ok.mp hVerify
      rw [if_pos hType] at hRest
      cases hRest

/-- `requireAuth` rejects a signed token exactly when it has expired. -/
theorem requireAuth_rejects_iff (hSigned : token ∈ store.signed)
    (hDrawn : ∀ jti, token.claims.jti = some jti → isDrawnUuid jti = true) :
    Rejects store .requireAuth token ↔ ¬store.clock < token.exp := by
  rw [rejects_iff, not_iff_not]
  constructor
  · rintro ⟨env, store', env', hRun⟩
    obtain ⟨_, _, _, hAuth, -⟩ := Program.run_bind_eq_ok.mp hRun
    obtain ⟨_, payload, _, hVerify, -⟩ := Program.run_bind_eq_ok.mp hAuth
    rw [Program.run_tryCatch_throw_eq_ok] at hVerify
    obtain ⟨⟨-, hTime⟩, -⟩ := run_jwtVerify_eq_ok.mp hVerify
    exact hTime.resolve_left Bool.false_ne_true
  · intro hTime
    -- The entry may be gone by the time it is looked up.
    obtain ⟨seconds, hGone⟩ : ∃ seconds, ∀ jti, token.claims.jti = some jti →
        (store.elapse seconds).holds (blocklistKeyOf jti) = false := by
      cases hJti : token.claims.jti with
      | none => exact ⟨0, fun jti h => by cases h⟩
      | some jti =>
          obtain ⟨seconds, hSeconds⟩ := exists_elapse_not_holds store (blocklistKeyOf jti)
          exact ⟨seconds, fun other h => Option.some.inj h ▸ hSeconds⟩
    refine ⟨fun _ => { elapsed := seconds }, ?_⟩
    suffices h : ∃ store' env', (requireAuth (some token)).run identity
        (fun _ => { elapsed := seconds }) store = (store', .ok token, env') by
      obtain ⟨store', env', h⟩ := h
      exact ⟨store', env', Program.run_bind_eq_ok.mpr ⟨store', token, env', h, rfl⟩⟩
    have hVerify : (tryCatch (verifyToken token) fun _ =>
        throw (appError 401 "Invalid or expired token" "ERR_AUTH_INVALID")).run identity
        (fun _ => { elapsed := seconds }) store =
          (store.elapse seconds, .ok token, fun _ => { elapsed := seconds }) :=
      Program.run_tryCatch_throw_eq_ok.mpr
        (run_jwtVerify_eq_ok.mpr ⟨⟨hSigned, .inr hTime⟩, rfl, rfl, rfl⟩)
    unfold requireAuth
    rw [Program.run_bind_ok hVerify]
    cases hJti : token.claims.jti with
    | none => exact ⟨_, _, rfl⟩
    | some jti =>
        have hValid := isValidJti_of_isDrawnUuid (hDrawn jti hJti)
        rw [truthy_of_isDrawnUuid (hDrawn jti hJti)]
        have hLookup : (isTokenBlocked jti).run identity (fun _ => { elapsed := seconds })
            (store.elapse seconds) =
              ((store.elapse seconds).elapse seconds, .ok false, fun _ => { elapsed := seconds }) := by
          unfold isTokenBlocked
          rw [if_pos hValid, Program.run_bind_ok (run_ask_eq_ok.mpr ⟨rfl, rfl, rfl, rfl⟩)]
          simp only [hGone jti hJti]
          rfl
        simp only [Program.run_bind_ok hLookup]
        exact ⟨_, _, rfl⟩

omit [Bcrypt] in
/-- A refresh that succeeds has found what it looks at. -/
private theorem refreshable_of_run {env env' : Nat → IdentityDecision} {store' : IdentityStore}
    {result : RefreshResult} (hDrawn : ∀ jti, token.claims.jti = some jti → isDrawnUuid jti = true)
    (hRefresh : (refreshToken token).run identity env store = (store', .ok result, env')) :
    Refreshable store token := by
  obtain ⟨_, payload, _, hVerify, hRest⟩ := Program.run_bind_eq_ok.mp hRefresh
  rw [invalidToken, Program.run_tryCatch_throw_eq_ok] at hVerify
  obtain ⟨-, hPayload, rfl, rfl⟩ := run_jwtVerify_eq_ok.mp hVerify
  rw [hPayload] at hRest
  cases hJti : token.claims.jti with
  | none =>
      rw [hJti] at hRest
      cases hRest
  | some jti =>
      rw [hJti, truthy_of_isDrawnUuid (hDrawn jti hJti)] at hRest
      obtain ⟨_, blocked, _, hBlocked, hRest⟩ := Program.run_bind_eq_ok.mp hRest
      obtain ⟨hHolds, rfl⟩ := run_isTokenBlocked (hDrawn jti hJti) hBlocked
      cases blocked with
      | true => cases hRest
      | false =>
          obtain ⟨_, now, _, hNow, hRest⟩ := Program.run_bind_eq_ok.mp hRest
          obtain ⟨-, hAnswer, rfl, rfl⟩ := run_ask_eq_ok.mp hNow
          cases hAnswer
          simp only at hRest
          split at hRest
          · cases hRest
          · rename_i hWindow
            obtain ⟨_, found, _, hFind, hRest⟩ := Program.run_bind_eq_ok.mp hRest
            cases found with
            | none => cases hRest
            | some user =>
                obtain ⟨⟨userId, id, hUserId, hCast, hUser⟩, rfl⟩ := run_findPayloadUser hFind
                simp only [filter_live hUser] at hRest
                obtain ⟨uuid, hUuid, hFresh⟩ := exists_undrawn_of_exchangeToken hRest
                refine ⟨⟨jti, (env 0).elapsed, hJti, ?_, hHolds.symm⟩,
                  ⟨userId, id, user, hUserId, hCast, hUser⟩, uuid, hUuid, hFresh⟩
                simp only [IdentityStore.elapse] at hWindow
                omega

omit [Bcrypt] in
private theorem exists_run_of_refreshable (hSigned : token ∈ store.signed)
    (hDrawn : ∀ jti, token.claims.jti = some jti → isDrawnUuid jti = true)
    (h : Refreshable store token) : ∃ env store' result env',
      (refreshToken token).run identity env store = (store', .ok result, env') := by
  obtain ⟨⟨jti, seconds, hJti, hWindow, hUnblocked⟩, ⟨userId, id, user, hUserId, hCast, hUser⟩,
    uuid, hUuid, hFresh⟩ := h
  -- Time passes only until the identifier is off the blocklist.
  let env : Nat → IdentityDecision := fun n => { uuid, elapsed := if n = 0 then seconds else 0 }
  have hSteady : (fun n => env (n + 1)) = steadyDecisions uuid := rfl
  have hVerify : (tryCatch (jwtVerify token true) fun _ => throw invalidToken).run identity
      env store = (store.elapse seconds, .ok token, steadyDecisions uuid) :=
    Program.run_tryCatch_throw_eq_ok.mpr
      (run_jwtVerify_eq_ok.mpr ⟨⟨hSigned, .inl rfl⟩, rfl, rfl, rfl⟩)
  have hBlocked : (isTokenBlocked jti).run identity (steadyDecisions uuid) (store.elapse seconds) =
      (store.elapse seconds, .ok false, steadyDecisions uuid) := by
    unfold isTokenBlocked
    rw [if_pos (isValidJti_of_isDrawnUuid (hDrawn jti hJti)),
      Program.run_bind_ok (run_ask_eq_ok.mpr ⟨rfl, rfl, rfl, rfl⟩)]
    simp only [hUnblocked]
    rfl
  have hNow : nowSeconds.run identity (steadyDecisions uuid) (store.elapse seconds) =
      (store.elapse seconds, .ok (store.clock + seconds), steadyDecisions uuid) := rfl
  have hFind : (findPayloadUser token).run identity (steadyDecisions uuid) (store.elapse seconds) =
      (store.elapse seconds, .ok (some user), steadyDecisions uuid) :=
    findPayloadUser_steady hUserId hCast hUser
  have hYoung : ¬((store.clock + seconds : Nat) : Int) - token.iat > gracePeriodSeconds := by
    omega
  refine ⟨env, ?_⟩
  unfold refreshToken
  rw [Program.run_bind_ok hVerify, hJti, truthy_of_isDrawnUuid (hDrawn jti hJti)]
  simp only [Program.run_bind_ok hBlocked, Bool.false_eq_true, if_false, Program.run_bind_ok hNow,
    if_neg hYoung, Program.run_bind_ok hFind, filter_live hUser]
  have hElapsed : uuid ∉ (store.elapse seconds).drawn := hFresh
  exact exchangeToken_steady (hDrawn jti hJti) hUuid hElapsed token _ user

/-- `refreshToken` rejects a signed token exactly when it is not refreshable. -/
theorem refreshToken_rejects_iff (hSigned : token ∈ store.signed)
    (hDrawn : ∀ jti, token.claims.jti = some jti → isDrawnUuid jti = true) :
    Rejects store .refreshToken token ↔ ¬Refreshable store token := by
  rw [rejects_iff, not_iff_not]
  constructor
  · rintro ⟨env, store', env', hRun⟩
    obtain ⟨_, _, _, hRefresh, -⟩ := Program.run_bind_eq_ok.mp hRun
    exact refreshable_of_run hDrawn hRefresh
  · intro h
    obtain ⟨env, store', result, env', hRefresh⟩ := exists_run_of_refreshable hSigned hDrawn h
    exact ⟨env, store', env', Program.run_bind_eq_ok.mpr ⟨store', result, env', hRefresh, rfl⟩⟩

variable {kind : TokenKind}

/-- A token of one kind, presented to a verifier of another: it is rejected,
unless the verifier is one of the two for sessions and lets it through. -/
theorem tokensSeparated_iff (hSigned : token ∈ store.signed) (hIssued : IssuedBy token kind)
    (hKind : verifier.kind ≠ kind) :
    Rejects store verifier token ↔ ¬LetsThrough store token verifier := by
  have hDrawn : ∀ jti, token.claims.jti = some jti → isDrawnUuid jti = true :=
    fun jti => hIssued.isDrawnUuid_of_jti
  have hType : token.claims.type ≠ verifier.kind.claimed := by
    rw [hIssued.type_eq]
    exact fun h => hKind (TokenKind.claimed_injective h.symm)
  cases verifier with
  | requireAuth => exact requireAuth_rejects_iff hSigned hDrawn
  | refreshToken => exact refreshToken_rejects_iff hSigned hDrawn
  | resetPassword newPassword =>
      have hKind : (TokenVerifier.resetPassword newPassword).kind ≠ .session := nofun
      exact iff_of_true (rejects_of_type_ne hType hKind) id
  | verifyUserInvitation =>
      have hKind : TokenVerifier.verifyUserInvitation.kind ≠ .session := nofun
      exact iff_of_true (rejects_of_type_ne hType hKind) id
  | verifyCompanyInvitation =>
      have hKind : TokenVerifier.verifyCompanyInvitation.kind ≠ .session := nofun
      exact iff_of_true (rejects_of_type_ne hType hKind) id

end Verifiers

/-- A reset token that was mailed at time zero. -/
def sampleResetToken : Token :=
  ⟨resetClaims (ObjectId.repeated 1).toString "00000000-0000-4000-8000-000000000001", 0,
    resetTokenTtlSeconds⟩

theorem sampleResetToken_issued : IssuedBy sampleResetToken .passwordReset :=
  ⟨.repeated 1, "00000000-0000-4000-8000-000000000001", by decide +kernel, rfl, rfl⟩

/-- Once it has expired, `requireAuth` rejects it. -/
theorem tokensSeparated_iff_sample :
    @Rejects saltBcrypt { clock := resetTokenTtlSeconds, signed := [sampleResetToken] }
      .requireAuth sampleResetToken :=
  (@tokensSeparated_iff _ _ saltBcrypt _ _ (List.mem_singleton.mpr rfl) sampleResetToken_issued
    (by decide)).mpr (lt_irrefl _)

/-- Until then it opens every route that only asks for a session. -/
theorem resetToken_passes_requireAuth :
    ¬∀ store token kind (verifier : TokenVerifier), token ∈ store.signed → IssuedBy token kind →
      verifier.kind ≠ kind → @Rejects saltBcrypt store verifier token := by
  intro hSeparated
  obtain ⟨error, hError⟩ := hSeparated { signed := [sampleResetToken] } sampleResetToken
    .passwordReset .requireAuth (List.mem_singleton.mpr rfl) sampleResetToken_issued (by decide)
    fun _ => {}
  have hAccepted : ((@TokenVerifier.program saltBcrypt sampleResetToken .requireAuth).run identity
      (fun _ => ({} : IdentityDecision)) { signed := [sampleResetToken] }).2.1 = .ok () := by
    decide +kernel
  rw [hAccepted] at hError
  cases hError

end Navin
