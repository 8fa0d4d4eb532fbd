import Navin.Identity.Effects
import Navin.Identity.Tokens
import Navin.Semantics.Protocol

/-! Can the highest role come out of a world that has none? Every creation path
takes its role from a constant, a request, an invitation or a signed token. -/
namespace Navin

open Async

def Claims.invitesSuperAdmin (claims : Claims) : Prop :=
  claims.type = some .userInvitation ∧ claims.role = some .superAdmin

/-- The call gives the highest role to somebody, or promises to. -/
def IdentityCall.grantsSuperAdmin : IdentityCall → Prop
  | .userCreate fields => fields.role = .superAdmin
  | .companyCreate _ _ admin => admin.role = .superAdmin
  | .invitationCreate fields => fields.role = .superAdmin
  | .signToken claims _ => claims.invitesSuperAdmin
  | _ => False

/-- The answer shows such a promise. -/
def IdentityCall.revealsSuperAdmin : (call : IdentityCall) → Except ThrownError call.Answer → Prop
  | .verifyToken token _, .ok _ => token.claims.invitesSuperAdmin
  | .invitationFindById _, .ok (some invitation) => invitation.role = .superAdmin
  | _, _ => False

/-- A program grants the role only after it has seen a promise of it. -/
def grantsOnlyPromised : Protocol IdentityCall IdentityCall.Answer ThrownError Prop where
  allows seen call := call.grantsSuperAdmin → seen
  next seen call response := seen ∨ call.revealsSuperAdmin response

variable {seen promised : Prop} {token : Token}

/-- The program grants the role only if it is promised, which may have been seen
before it started. -/
abbrev Disciplined (promised : Prop) (α : Type) (p : IdentityM α) : Prop :=
  ∀ seen, (promised → seen) → p.Follows grantsOnlyPromised (fun seen _ => promised → seen) seen

theorem disciplined_compositional (promised : Prop) : Program.Compositional (Disciplined promised) :=
  Program.Follows.compositional_within grantsOnlyPromised fun seen => promised → seen

theorem disciplined_ask {call : IdentityCall} (h : call.grantsSuperAdmin → promised) :
    Disciplined promised _ (ask call) :=
  fun _ hSeen => Program.follows_await.mpr
    ⟨fun hGrants => hSeen (h hGrants), fun _ hPromised => .inl (hSeen hPromised)⟩

theorem disciplined_ordinary (call : IdentityCall) (h : call.ordinary = true) :
    Disciplined promised _ (ask call) := by
  refine disciplined_ask ?_
  cases call <;> first | exact False.elim | cases h

theorem follows_of_disciplined {α : Type} {p : IdentityM α} (hSeen : promised → seen)
    (h : Disciplined promised α p) : p.Follows grantsOnlyPromised (fun _ _ => True) seen :=
  (h seen hSeen).mono fun _ _ _ => trivial

theorem disciplined_generateToken (payload : SessionPayload) :
    Disciplined promised _ (generateToken payload) := by
  have hT := disciplined_compositional promised
  refine hT.bind (disciplined_ordinary .randomUUID rfl) fun jti => ?_
  refine hT.bind (disciplined_ask ?_) fun token => hT.pure _
  rintro ⟨hType, -⟩
  cases hType

theorem disciplined_openSession (user : User) (ctx : RequestContext) :
    Disciplined promised _ (openSession user ctx) := by
  have hT := disciplined_compositional promised
  refine openSession_holds hT disciplined_ordinary disciplined_generateToken fun userId jti => ?_
  exact hT.tryCatch (disciplined_ask False.elim) fun _ => hT.pure _

theorem disciplined_isTokenBlocked (jti : String) : Disciplined promised _ (isTokenBlocked jti) := by
  have hT := disciplined_compositional promised
  unfold isTokenBlocked
  split
  · exact hT.bind (disciplined_ask False.elim) fun _ => hT.pure _
  · exact hT.pure _

theorem disciplined_blockToken (jti : String) (ttl : Int) :
    Disciplined promised _ (blockToken jti ttl) := by
  have hT := disciplined_compositional promised
  unfold blockToken
  split
  · exact hT.pure _
  · split
    · exact hT.throw _
    · exact disciplined_ask False.elim

theorem disciplined_generateInvitationToken (payload : Invitations.InviteTokenPayload) :
    Disciplined promised _ (Invitations.generateInvitationToken payload) := by
  refine disciplined_ask ?_
  rintro ⟨hType, -⟩
  cases hType

/-- A token that verifies is the one presented, and shows what it promises. -/
theorem verifyOr_follows {error : ThrownError} :
    (tryCatch (verifyToken token) fun _ => throw error).Follows grantsOnlyPromised
      (fun seen outcome => ∀ payload, outcome = .ok payload →
        payload = token ∧ (token.claims.invitesSuperAdmin → seen)) seen := by
  unfold verifyToken jwtVerify
  rw [Program.follows_tryCatch, Program.follows_bind]
  refine Program.follows_await.mpr ⟨False.elim, fun response => ?_⟩
  cases response with
  | error error =>
      rw [Program.then_error, Program.caught_error]
      rintro payload ⟨⟩
  | ok answer =>
      rw [Program.then_ok, Program.follows_pure, Program.caught_ok]
      rintro payload ⟨⟩
      exact ⟨rfl, .inr⟩

/-- Verifying an invitation for the role shows that the role was promised. -/
theorem verifyInvitationToken_follows :
    (Users.verifyInvitationToken token).Follows grantsOnlyPromised
      (fun seen outcome => ∀ invitation, outcome = .ok invitation →
        invitation.role = .superAdmin → seen) seen := by
  refine verifyOr_follows.bind (fun seen payload hPayload => ?_) fun _ _ _ => by rintro _ ⟨⟩
  obtain ⟨rfl, hPromised⟩ := hPayload payload rfl
  split
  · rintro _ ⟨⟩
  · rename_i hType
    split
    · rename_i organizationId email role _ _ hRole
      rintro invitation ⟨⟩ hSuper
      refine hPromised ⟨not_not.mp hType, ?_⟩
      rw [hRole]
      exact congrArg some hSuper
    · rintro _ ⟨⟩

/-- So does finding a pending one. -/
theorem pendingInvitation_follows :
    (Invitations.pendingInvitation token).Follows grantsOnlyPromised
      (fun seen outcome => ∀ invitation, outcome = .ok invitation →
        invitation.role = .superAdmin → seen) seen := by
  have hFind : (Invitations.findPayloadInvitation token).Follows grantsOnlyPromised
      (fun seen outcome => ∀ invitation, outcome = .ok (some invitation) →
        invitation.role = .superAdmin → seen) seen := by
    unfold Invitations.findPayloadInvitation
    split
    · rintro _ ⟨⟩
    · refine Program.follows_await.mpr ⟨False.elim, fun response => ?_⟩
      rintro invitation rfl hSuper
      exact .inr hSuper
  refine hFind.bind (fun seen found hFound => ?_) fun _ _ _ => by rintro _ ⟨⟩
  cases found with
  | none => rintro _ ⟨⟩
  | some invitation =>
      dsimp only
      split
      · rintro _ ⟨⟩
      · have hT := disciplined_compositional (invitation.role = .superAdmin)
        have hSeen : invitation.role = .superAdmin → seen := hFound invitation rfl
        refine (newDate_holds hT disciplined_ordinary seen hSeen).bind
          (fun seen now hSeen => ?_) fun _ _ _ => by rintro _ ⟨⟩
        split
        · refine Program.Follows.bind (Q := fun _ _ => True) ?_
            (fun _ _ _ => by rintro _ ⟨⟩) fun _ _ _ => by rintro _ ⟨⟩
          exact Program.follows_await.mpr ⟨False.elim, fun _ => trivial⟩
        · rintro _ ⟨⟩ hSuper
          exact hSeen hSuper

/-- Whoever passes `requireAuth` is who the header says. -/
theorem requireAuth_follows {authorization : Option Token} :
    (requireAuth authorization).Follows grantsOnlyPromised
      (fun _ outcome => ∀ payload, outcome = .ok payload → authorization = some payload) seen := by
  cases authorization with
  | none => exact fun _ h => nomatch h
  | some token =>
      refine verifyOr_follows.bind (fun seen payload hPayload => ?_) fun _ _ _ => by rintro _ ⟨⟩
      obtain ⟨rfl, -⟩ := hPayload payload rfl
      split
      · exact fun _ h => congrArg some (Except.ok.inj h)
      · refine Program.Follows.bind (disciplined_isTokenBlocked _ _ False.elim)
          (fun _ blocked _ => ?_) fun _ _ _ => by rintro _ ⟨⟩
        split
        · rintro _ ⟨⟩
        · exact fun _ h => congrArg some (Except.ok.inj h)

section Worlds

variable {store : IdentityStore}

/-- Nobody has the highest role and nobody is promised it. -/
structure NoSuperAdmin (store : IdentityStore) : Prop where
  users : ∀ user ∈ store.users.docs, user.role ≠ .superAdmin
  invitations : ∀ invitation ∈ store.invitations.docs, invitation.role ≠ .superAdmin
  tokens : ∀ token ∈ store.signed, ¬token.claims.invitesSuperAdmin

/-- A call that grants nothing leaves such a world as it is. -/
theorem noSuperAdmin_execute {decision : IdentityDecision} {call : IdentityCall}
    (h : NoSuperAdmin store) (hGrants : ¬call.grantsSuperAdmin) :
    NoSuperAdmin (executeIdentity decision store call).1 := by
  refine ⟨fun user hUser hSuper => ?_, fun invitation hInvitation hSuper => ?_, ?_⟩
  · rcases role_of_mem_users hUser with ⟨old, hOld, hRole⟩ | hCreates
    · exact h.users old hOld (hRole.symm.trans hSuper)
    · rw [hSuper] at hCreates
      cases call <;> first | exact hGrants hCreates | exact hCreates
  · rcases role_of_mem_invitations hInvitation with ⟨old, hOld, hRole⟩ | ⟨fields, rfl, hRole⟩
    · exact h.invitations old hOld (hRole.symm.trans hSuper)
    · exact hGrants (hRole.trans hSuper)
  · intro token hToken
    rcases mem_signed_executeIdentity hToken with hOld | ⟨claims, expiresIn, rfl, rfl⟩
    · exact h.tokens token hOld
    · exact hGrants

/-- It answers no promise either. -/
theorem not_revealsSuperAdmin_execute {decision : IdentityDecision} {call : IdentityCall}
    (h : NoSuperAdmin store) :
    ¬call.revealsSuperAdmin (executeIdentity decision store call).2 := by
  cases call with
  | verifyToken token ignoreExpiration =>
      simp only [executeIdentity]
      split
      · rename_i hValid
        exact h.tokens token hValid.1
      · exact id
  | invitationFindById id =>
      simp only [executeIdentity, castingId]
      split
      · exact False.elim
      · rename_i id _
        cases hFound : store.liveInvitation id with
        | none => exact fun hReveals => hReveals
        | some invitation =>
            have hGet := (Option.filter_eq_some_iff.mp hFound).1
            exact h.invitations invitation (store.invitations.get?_eq_some_iff.mp hGet).1
  | _ =>
      cases (executeIdentity decision store _).2 <;> exact id

theorem not_revealsSuperAdmin_error {call : IdentityCall} {error : ThrownError} :
    ¬call.revealsSuperAdmin (.error error) := by
  cases call <;> exact id

theorem not_revealsSuperAdmin_perform {decision : IdentityDecision} {call : IdentityCall}
    (h : NoSuperAdmin store) :
    ¬call.revealsSuperAdmin (performIdentity decision store call).2 := by
  rcases performIdentity_cases decision store call with
    ⟨-, -, error, hError⟩ | ⟨-, hAnswer | ⟨-, error, hError⟩⟩
  · rw [hError]
    exact not_revealsSuperAdmin_error
  · rw [hAnswer]
    exact not_revealsSuperAdmin_execute h
  · rw [hError]
    exact not_revealsSuperAdmin_error

end Worlds

section Requests

variable [Bcrypt]

theorem acceptInvitation_follows {input : Users.AcceptInvitationInput} :
    (Users.acceptInvitation input).Follows grantsOnlyPromised (fun _ _ => True) seen := by
  refine verifyInvitationToken_follows.bind (fun seen invitation hSeen => ?_) fun _ _ _ => trivial
  have hT := disciplined_compositional (invitation.role = .superAdmin)
  refine follows_of_disciplined (hSeen invitation rfl) ?_
  refine hT.bind (disciplined_ordinary (.userFindByEmail _) rfl) fun existing => ?_
  cases existing with
  | some user => exact hT.throw _
  | none =>
      refine hT.bind (hashPassword_holds hT disciplined_ordinary _) fun passwordHash => ?_
      exact disciplined_ask id

theorem acceptInvitationWithPassword_follows {input : Invitations.AcceptInput} :
    (Invitations.acceptInvitationWithPassword input).Follows grantsOnlyPromised
      (fun _ _ => True) seen := by
  have hVerify := Invitations.verifyInvitationToken_holds (disciplined_compositional False)
    disciplined_ordinary input.token seen False.elim
  refine hVerify.bind (fun seen payload _ => ?_) fun _ _ _ => trivial
  refine pendingInvitation_follows.bind (fun seen invitation hSeen => ?_) fun _ _ _ => trivial
  have hT := disciplined_compositional (invitation.role = .superAdmin)
  refine follows_of_disciplined (hSeen invitation rfl) ?_
  refine hT.bind (disciplined_ordinary (.userFindByEmail _) rfl) fun existing => ?_
  cases existing with
  | some user => exact hT.throw _
  | none =>
      refine hT.bind (hashPassword_holds hT disciplined_ordinary _) fun passwordHash => ?_
      refine hT.bind (disciplined_ask id) fun user => ?_
      exact hT.bind (disciplined_ordinary (.invitationUpdateByTokenHash _ _) rfl) fun _ => hT.pure _

theorem PublicOperation.program_follows (operation : PublicOperation) :
    operation.program.Follows grantsOnlyPromised (fun _ _ => True) seen := by
  have hT := disciplined_compositional False
  have hWeaken {α : Type} {p : IdentityM α}
      (h : ∀ seen, p.Follows grantsOnlyPromised (fun _ _ => True) seen) : Disciplined False _ p :=
    fun seen _ => (h seen).mono fun _ _ _ => False.elim
  refine follows_of_disciplined False.elim (PublicOperation.program_holds hT disciplined_ordinary
    disciplined_generateToken disciplined_openSession ?_ ?_ ?_ ?_ ?_ ?_ operation ?_)
  · intro fields hRole
    exact disciplined_ask fun hSuper => nomatch hRole.symm.trans hSuper
  · intro name settings admin hRole
    exact disciplined_ask fun hSuper => nomatch hRole.symm.trans hSuper
  · intro email
    exact forgotPassword_holds hT disciplined_ordinary
      fun userId jti => disciplined_ask fun hInvites => nomatch hInvites.1
  · intro token newPassword
    exact resetPassword_holds hT disciplined_ordinary disciplined_blockToken
  · exact fun input => hWeaken fun _ => acceptInvitation_follows
  · exact fun input => hWeaken fun _ => acceptInvitationWithPassword_follows
  · exact fun token _ => refreshToken_holds hT disciplined_ordinary disciplined_blockToken
      disciplined_isTokenBlocked disciplined_generateToken

variable [Sha256] [TokenText]

/-- The one operation that gives the role away on request. -/
def AuthenticatedOperation.asksForSuperAdmin : AuthenticatedOperation → Prop
  | .createTeamMember body => body.role = .superAdmin
  | _ => False

theorem AuthenticatedOperation.handler_follows {bearer : Token} {operation : AuthenticatedOperation}
    (hAsks : ¬operation.asksForSuperAdmin) :
    Disciplined False _ (operation.handler bearer bearer) := by
  have hT := disciplined_compositional False
  have hCreate (fields : UserFields) (hRole : fields.role ≠ .superAdmin) :
      Disciplined False _ (ask (.userCreate fields)) := disciplined_ask hRole
  refine AuthenticatedOperation.handler_holds hT disciplined_ordinary ?_ ?_ ?_ ?_ hCreate ?_ ?_
    disciplined_generateInvitationToken fun fields hRole => disciplined_ask hRole
  · exact logout_holds hT disciplined_ordinary disciplined_blockToken _
  · exact fun _ _ => changePassword_holds hT disciplined_ordinary disciplined_blockToken
  · exact revokeSession_holds hT disciplined_ordinary disciplined_blockToken
  · exact fun _ => Users.deleteCurrentUser_holds hT disciplined_ordinary disciplined_blockToken
  · rintro body rfl fields hRole
    exact hCreate fields (hRole ▸ hAsks)
  · intro email role organizationId invitedBy hRole
    exact disciplined_ask fun hInvites => hRole (Option.some.inj hInvites.2)

/-- A request by an admin for a team member with the highest role. -/
def IdentityRequest.escalates : IdentityRequest → Prop
  | .authenticated (some bearer) operation =>
      bearer.claims.role = some .admin ∧ operation.asksForSuperAdmin
  | _ => False

/-- The role of the principal a request is made by, if it has one. -/
def IdentityRequest.principalRole : IdentityRequest → Option UserRole
  | .authenticated (some bearer) _ => bearer.claims.role
  | _ => none

theorem IdentityRequest.program_follows {request : IdentityRequest}
    (hPrincipal : request.principalRole ≠ some .superAdmin) (hEscalates : ¬request.escalates) :
    request.program.Follows grantsOnlyPromised (fun _ _ => True) seen := by
  cases request with
  | publicRoute operation => exact operation.program_follows
  | authenticated authorization operation =>
      refine requireAuth_follows.bind (fun seen payload hPayload => ?_) fun _ _ _ => trivial
      obtain rfl := hPayload payload rfl
      have hT := disciplined_compositional False
      refine follows_of_disciplined False.elim ?_
      by_cases hAsks : operation.asksForSuperAdmin
      · -- Only admins get here, and no admin asks for the role.
        have hAdminOnly : operation.adminOnly = true := by
          cases operation <;> first | rfl | exact hAsks.elim
        have hRefused : operation.gate payload = throw (appError 403 "Forbidden: insufficient role"
            "ERR_PERMISSION_DENIED") := by
          unfold AuthenticatedOperation.gate
          rw [if_pos hAdminOnly]
          exact if_neg (not_or.mpr ⟨fun hAdmin => hEscalates ⟨hAdmin, hAsks⟩, hPrincipal⟩)
        rw [hRefused]
        exact hT.throw _
      · exact hT.bind (operation.gate_holds hT payload) fun _ =>
          AuthenticatedOperation.handler_follows hAsks

section Runs

variable {ι : Type} [DecidableEq ι] {store : IdentityStore} {requests : ι → IdentityRequest}
  {guard : Guard identity ι} {point : Point identity ι IdentityReply}

/-- Over any interleaving of requests none of whose principals has the highest
role, and none of which is an admin's request for such a team member: if nobody
had the role and nobody was promised it, nobody ever has it. -/
theorem nobody_becomes_superAdmin
    (hPrincipals : ∀ i, (requests i).principalRole ≠ some .superAdmin)
    (hCondition : ∀ i, ¬(requests i).escalates) (hStart : NoSuperAdmin store)
    (run : GuardedRun guard (identityPool store requests) point) :
    ∀ user ∈ point.2.store.users.docs, user.role ≠ .superAdmin := by
  have hFollows (i : ι) : ((identityPool store requests).thread i).Follows grantsOnlyPromised
      (fun _ _ => True) False :=
    IdentityRequest.program_follows (hPrincipals i) (hCondition i)
  have hInv := GuardedRun.invariant grantsOnlyPromised (fun _ => False) run hFollows
    (fun history store => NoSuperAdmin store ∧
      ∀ i, ¬grantsOnlyPromised.after (fun _ => False) history i)
    ⟨hStart, fun _ => id⟩ fun history store decision i call hInv hAllows _ => ?_
  · exact hInv.1.users
  · obtain ⟨hClean, hUnseen⟩ := hInv
    have hGrants : ¬call.grantsSuperAdmin := fun hGrants => hUnseen i (hAllows hGrants)
    refine ⟨performIdentity_keeps _ hClean (fun _ _ h => ⟨h.users, h.invitations, h.tokens⟩)
      (noSuperAdmin_execute hClean hGrants), fun j => ?_⟩
    by_cases hij : j = i
    · subst hij
      rw [Protocol.after_cons_self _ _ ⟨j, call, _⟩]
      exact fun hSeen => hSeen.elim (hUnseen j) (not_revealsSuperAdmin_perform hClean)
    · rw [Protocol.after_cons_of_ne _ _ _ hij]
      exact hUnseen j

end Runs

end Requests

section Samples

def sampleAdmin : User where
  id := .repeated 1
  email := "admin@navin.test"
  name := "Admin"
  passwordHash := ""
  role := .admin
  organizationId := some (.repeated 2)
  deletedAt := none

/-- The session of the admin. -/
def sampleAdminToken : Token :=
  ⟨sessionClaims (sessionPayload sampleAdmin (some .logistics))
    "00000000-0000-4000-8000-000000000001", 0, tokenTtlSeconds⟩

def sampleAdminStore : IdentityStore where
  users := ⟨[sampleAdmin], Collection.nodup_single _ _⟩
  signed := [sampleAdminToken]

/-- The admin asks for a team member. -/
def teamRequest (role : UserRole) : Unit → IdentityRequest := fun _ =>
  .authenticated (some sampleAdminToken)
    (.createTeamMember { email := "member@navin.test", name := "Member", role })

theorem teamRequest_principalRole (role : UserRole) (i : Unit) :
    (teamRequest role i).principalRole ≠ some .superAdmin := nofun

/-- Nothing is hashed in the runs below. -/
def teamPool (role : UserRole) : Pool identity Unit IdentityReply :=
  @identityPool saltBcrypt (tabulatedSha256 []) ⟨fun _ => ""⟩ Unit sampleAdminStore (teamRequest role)

theorem sampleAdminStore_noSuperAdmin : NoSuperAdmin sampleAdminStore where
  users := by simp [sampleAdminStore, sampleAdmin]
  invitations := nofun
  tokens := by simp [sampleAdminStore, sampleAdminToken, sessionClaims, Claims.invitesSuperAdmin]

/-- The whole request, with a fresh id for the member. -/
def teamSchedule : List (IdentityDecision × Unit) :=
  List.replicate 6 ({ freshId := .repeated 3 }, ())

/-- When the admin asks for a manager, the member is created. -/
theorem nobody_becomes_superAdmin_sample :
    ∃ point : Point identity Unit IdentityReply, GuardedRun anyStep (teamPool .manager) point ∧
      point.2.store.users.docs.length = 2 ∧
      ∀ user ∈ point.2.store.users.docs, user.role ≠ .superAdmin := by
  obtain ⟨point, run, hCreated⟩ := Pool.exists_run anyStep (teamPool .manager)
    (fun point => point.2.store.users.docs.length = 2) teamSchedule (by decide +kernel)
  refine ⟨point, run, of_decide_eq_true hCreated, ?_⟩
  exact @nobody_becomes_superAdmin saltBcrypt (tabulatedSha256 []) ⟨fun _ => ""⟩ _ _ _
    (teamRequest .manager) _ _
    (teamRequest_principalRole .manager) (fun _ hEscalates => UserRole.noConfusion hEscalates.2)
    sampleAdminStore_noSuperAdmin run

/-- When the admin asks for the highest role, the member has it. -/
theorem teamMember_becomes_superAdmin :
    ¬∀ (store : IdentityStore) (requests : Unit → IdentityRequest)
      (point : Point identity Unit IdentityReply), NoSuperAdmin store →
      (∀ i, (requests i).principalRole ≠ some .superAdmin) →
      GuardedRun anyStep (@identityPool saltBcrypt (tabulatedSha256 []) ⟨fun _ => ""⟩ Unit store
        requests) point →
      ∀ user ∈ point.2.store.users.docs, user.role ≠ .superAdmin := by
  intro hNobody
  obtain ⟨point, run, hCreated⟩ := Pool.exists_run anyStep (teamPool .superAdmin)
    (fun point => point.2.store.users.docs.any fun user => user.role = .superAdmin)
    teamSchedule (by decide +kernel)
  obtain ⟨user, hUser, hRole⟩ := List.any_eq_true.mp hCreated
  exact hNobody _ _ point sampleAdminStore_noSuperAdmin (teamRequest_principalRole _) run user hUser
    (of_decide_eq_true hRole)

end Samples

end Navin
