import Navin.Auth.Service
import Navin.Identity.World

/-! What it takes for an identity call to be answered. -/
namespace Navin

open Async

variable {decision : IdentityDecision} {store store' : IdentityStore} {call : IdentityCall}
  {token : Token} {env env' : Nat → IdentityDecision}

theorem performIdentity_eq_ok {answer : call.Answer} :
    performIdentity decision store call = (store', .ok answer) ↔
      (if call.fallible then decision.fault else none) = none ∧
      (executeIdentity decision store call).2 = .ok answer ∧
      store' = (executeIdentity decision store call).1.elapse decision.elapsed := by
  unfold performIdentity settleIdentity
  cases hFault : (if call.fallible then decision.fault else none) with
  | none =>
      simp only [Prod.mk.injEq, true_and]
      rw [eq_comm, and_comm]
  | some fault => cases fault <;> simp

theorem run_ask_eq_ok {answer : call.Answer} :
    (ask call).run identity env store = (store', .ok answer, env') ↔
      (if call.fallible then (env 0).fault else none) = none ∧
      (executeIdentity (env 0) store call).2 = .ok answer ∧
      store' = (executeIdentity (env 0) store call).1.elapse (env 0).elapsed ∧
      env' = fun n => env (n + 1) := by
  rw [Program.run_await_eq_ok]
  change performIdentity (env 0) store call = _ ∧ _ ↔ _
  rw [performIdentity_eq_ok, and_assoc, and_assoc]

theorem run_jwtVerify_eq_ok {payload : Token} {ignoreExpiration : Bool} :
    (jwtVerify token ignoreExpiration).run identity env store = (store', .ok payload, env') ↔
      (token ∈ store.signed ∧ (ignoreExpiration = true ∨ store.clock < token.exp)) ∧
      payload = token ∧ store' = store.elapse (env 0).elapsed ∧ env' = fun n => env (n + 1) := by
  constructor
  · intro h
    obtain ⟨_, _, _, hVerify, hRest⟩ := Program.run_bind_eq_ok.mp h
    obtain ⟨-, hAnswer, rfl, rfl⟩ := run_ask_eq_ok.mp hVerify
    simp only [executeIdentity] at hAnswer hRest
    split at hAnswer
    · rename_i hValid
      rw [if_pos hValid] at hRest
      cases hRest
      exact ⟨hValid, rfl, rfl, rfl⟩
    · cases hAnswer
  · rintro ⟨hValid, rfl, rfl, rfl⟩
    have hAnswer : executeIdentity (env 0) store (.verifyToken payload ignoreExpiration) =
        (store, .ok ()) := if_pos hValid
    refine Program.run_bind_eq_ok.mpr ⟨_, (), _, run_ask_eq_ok.mpr ⟨rfl, ?_, rfl, rfl⟩, ?_⟩
    · rw [hAnswer]
    · rw [hAnswer]
      rfl

/-- Every entry of the blocklist is gone some time. -/
theorem exists_elapse_not_holds (store : IdentityStore) (key : String) :
    ∃ seconds, (store.elapse seconds).holds key = false := by
  cases hEntry : store.redis.lookup key with
  | none => exact ⟨0, by simp [IdentityStore.holds, IdentityStore.elapse, hEntry]⟩
  | some gone =>
      refine ⟨gone, ?_⟩
      have hLate : ¬store.clock + gone < gone := by omega
      simp [IdentityStore.holds, IdentityStore.elapse, hEntry, hLate]

section Users

variable {user new : User} {organization : Organization}

theorem mem_users_insertUser (h : user ∈ (store.insertUser new).1.users.docs) :
    user ∈ store.users.docs ∨ user = new := by
  unfold IdentityStore.insertUser at h
  split at h
  · rename_i hFree
    exact (store.users.mem_insert (h := hFree.1)).mp h
  · exact .inl h

theorem users_insertOrganization :
    (store.insertOrganization organization).1.users = store.users := by
  unfold IdentityStore.insertOrganization
  split <;> rfl

theorem mem_users_insertCompany (h : user ∈ (store.insertCompany organization new).1.users.docs) :
    user ∈ store.users.docs ∨ user = new := by
  unfold IdentityStore.insertCompany at h
  split at h
  · exact .inl h
  · rename_i inserted _ hInserted
    have hUsers : (store.insertOrganization organization).1.users = store.users :=
      users_insertOrganization
    rw [hInserted] at hUsers
    split at h
    · exact .inl h
    · rename_i final _ hFinal
      rw [← hUsers]
      refine mem_users_insertUser ?_
      rw [hFinal]
      exact h

end Users

/-- The role of a user comes from the user or from the call that created it. -/
def IdentityCall.createsUserOf (role : UserRole) : IdentityCall → Prop
  | .userCreate fields => fields.role = role
  | .companyCreate _ _ admin => admin.role = role
  | _ => False

/-- The calls that may rewrite or add users. -/
def IdentityCall.writesUsers : IdentityCall → Bool
  | .userCreate _ | .companyCreate _ _ _ | .userSave _ _ | .userSoftDelete _ _ => true
  | _ => false

theorem users_executeIdentity (h : call.writesUsers = false) :
    (executeIdentity decision store call).1.users = store.users := by
  cases call <;> first
    | rfl
    | contradiction
    | (simp only [executeIdentity, castingId, IdentityStore.insertInvitation]
       repeat' split
       all_goals rfl)

theorem role_of_mem_users {user : User}
    (h : user ∈ (executeIdentity decision store call).1.users.docs) :
    (∃ old ∈ store.users.docs, user.role = old.role) ∨ call.createsUserOf user.role := by
  have hSame (h : user ∈ store.users.docs) : (∃ old ∈ store.users.docs, user.role = old.role) ∨
      call.createsUserOf user.role := .inl ⟨user, h, rfl⟩
  cases call with
  | userCreate fields =>
      simp only [executeIdentity, castingId] at h
      split at h
      · exact (mem_users_insertUser h).elim hSame fun hNew => .inr (hNew ▸ rfl)
      · split at h
        · exact hSame h
        · exact (mem_users_insertUser h).elim hSame fun hNew => .inr (hNew ▸ rfl)
  | companyCreate name settings admin =>
      exact (mem_users_insertCompany h).elim hSame fun hNew => .inr (hNew ▸ rfl)
  | userSave id changes =>
      simp only [executeIdentity] at h
      split at h
      · exact hSame h
      · split at h
        · exact hSame h
        · obtain ⟨old, hOld, rfl | rfl⟩ := store.users.mem_modify changes.apply_id h
          · exact hSame hOld
          · exact .inl ⟨old, hOld, rfl⟩
  | userSoftDelete id deletedAt =>
      simp only [executeIdentity, castingId] at h
      split at h
      · exact hSame h
      · split at h
        · exact hSame h
        · obtain ⟨old, hOld, rfl | rfl⟩ := store.users.mem_modify
            (f := User.markDeleted deletedAt) (fun _ => rfl) h
          · exact hSame hOld
          · exact .inl ⟨old, hOld, rfl⟩
  | _ =>
      rw [users_executeIdentity rfl] at h
      exact hSame h

/-- The calls that may rewrite or add invitations. -/
def IdentityCall.writesInvitations : IdentityCall → Bool
  | .invitationCreate _ | .invitationUpdateByTokenHash _ _ | .invitationRevoke _ => true
  | _ => false

/-- A registration touches users and organisations only. -/
theorem insertCompany_frame {β : Type} {view : IdentityStore → β}
    (hUsers : ∀ store users, view { store with users } = view store)
    (hOrganizations : ∀ store organizations, view { store with organizations } = view store)
    (organization : Organization) (admin : User) :
    view (store.insertCompany organization admin).1 = view store := by
  have hFirst : view (store.insertOrganization organization).1 = view store := by
    unfold IdentityStore.insertOrganization
    split
    · exact hOrganizations _ _
    · rfl
  have hSecond (middle : IdentityStore) : view (middle.insertUser admin).1 = view middle := by
    unfold IdentityStore.insertUser
    split
    · exact hUsers _ _
    · rfl
  unfold IdentityStore.insertCompany
  split
  · rfl
  · rename_i inserted _ hInserted
    rw [hInserted] at hFirst
    split
    · rfl
    · rename_i final _ hFinal
      have hLast := hSecond inserted
      rw [hFinal] at hLast
      exact hLast.trans hFirst

theorem invitations_executeIdentity (h : call.writesInvitations = false) :
    (executeIdentity decision store call).1.invitations = store.invitations := by
  cases call <;> first
    | rfl
    | contradiction
    | exact insertCompany_frame (fun _ _ => rfl) (fun _ _ => rfl) _ _
    | (simp only [executeIdentity, castingId, IdentityStore.insertUser]
       repeat' split
       all_goals rfl)

/-- The role of an invitation comes from the invitation or from the call that
created it. -/
theorem role_of_mem_invitations {invitation : Invitation}
    (h : invitation ∈ (executeIdentity decision store call).1.invitations.docs) :
    (∃ old ∈ store.invitations.docs, invitation.role = old.role) ∨
      ∃ fields, call = .invitationCreate fields ∧ fields.role = invitation.role := by
  have hSame (h : invitation ∈ store.invitations.docs) :
      (∃ old ∈ store.invitations.docs, invitation.role = old.role) ∨
        ∃ fields, call = .invitationCreate fields ∧ fields.role = invitation.role :=
    .inl ⟨invitation, h, rfl⟩
  cases call with
  | invitationCreate fields =>
      simp only [executeIdentity, castingId, IdentityStore.insertInvitation] at h
      split at h
      · exact hSame h
      · split at h
        · exact hSame h
        · split at h
          · rename_i hFree
            refine ((store.invitations.mem_insert (h := hFree.1)).mp h).elim hSame ?_
            rintro rfl
            exact .inr ⟨fields, rfl, rfl⟩
          · exact hSame h
  | invitationUpdateByTokenHash tokenHash update =>
      simp only [executeIdentity] at h
      split at h
      · exact hSame h
      · split at h
        · exact hSame h
        · obtain ⟨old, hOld, rfl | rfl⟩ := store.invitations.mem_modify update.apply_id h
          · exact hSame hOld
          · exact .inl ⟨old, hOld, rfl⟩
  | invitationRevoke id =>
      simp only [executeIdentity, castingId] at h
      split at h
      · exact hSame h
      · split at h
        · exact hSame h
        · obtain ⟨old, hOld, rfl | rfl⟩ :=
            store.invitations.mem_modify (InvitationUpdate.apply_id _) h
          · exact hSame hOld
          · exact .inl ⟨old, hOld, rfl⟩
  | _ =>
      rw [invitations_executeIdentity rfl] at h
      exact hSame h

/-- Only the passing of time moves the clock. -/
theorem clock_executeIdentity : (executeIdentity decision store call).1.clock = store.clock := by
  cases call <;> first
    | rfl
    | exact insertCompany_frame (fun _ _ => rfl) (fun _ _ => rfl) _ _
    | (simp only [executeIdentity, castingId, IdentityStore.insertUser,
        IdentityStore.insertInvitation]
       repeat' split
       all_goals rfl)

/-- Everything that tokens and their revocation depend on. -/
def IdentityStore.tokenRecords (store : IdentityStore) :
    List Token × List String × Collection Session.jti × List (String × Nat) :=
  (store.signed, store.drawn, store.sessions, store.redis)

def IdentityCall.writesTokenRecords : IdentityCall → Bool
  | .signToken _ _ | .randomUUID | .sessionCreate _ _ _ _ | .sessionDelete _ | .redisSet _ _ => true
  | _ => false

theorem tokenRecords_executeIdentity (h : call.writesTokenRecords = false) :
    (executeIdentity decision store call).1.tokenRecords = store.tokenRecords := by
  cases call <;> first
    | rfl
    | contradiction
    | exact insertCompany_frame (fun _ _ => rfl) (fun _ _ => rfl) _ _
    | (simp only [executeIdentity, castingId, IdentityStore.insertUser,
        IdentityStore.insertInvitation]
       repeat' split
       all_goals rfl)

/-- Tokens come from `signToken` alone. -/
theorem mem_signed_executeIdentity
    (h : token ∈ (executeIdentity decision store call).1.signed) :
    token ∈ store.signed ∨ ∃ claims expiresIn, call = .signToken claims expiresIn ∧
      token = ⟨claims, store.clock, store.clock + expiresIn⟩ := by
  by_cases hCall : call.writesTokenRecords = true
  · cases call with
    | signToken claims expiresIn =>
        exact (List.mem_cons.mp h).symm.imp id fun hNew => ⟨claims, expiresIn, rfl, hNew⟩
    | randomUUID =>
        simp only [executeIdentity] at h
        split at h <;> exact .inl h
    | sessionCreate userId jti ip userAgent =>
        simp only [executeIdentity, castingId] at h
        repeat' split at h
        all_goals exact .inl h
    | sessionDelete jti => exact .inl h
    | redisSet key ttlSeconds => exact .inl h
    | _ => contradiction
  · have hSame : (executeIdentity decision store call).1.tokenRecords = store.tokenRecords :=
      tokenRecords_executeIdentity (eq_false_of_ne_true hCall)
    have hSigned : (executeIdentity decision store call).1.signed = store.signed :=
      congrArg Prod.fst hSame
    rw [hSigned] at h
    exact .inl h

/-- A call is refused, or takes effect, or takes effect and its answer is lost;
then time passes. Calls that stay in the process are never refused or lost. -/
theorem performIdentity_cases (decision : IdentityDecision) (store : IdentityStore)
    (call : IdentityCall) :
    ((performIdentity decision store call).1 = store.elapse decision.elapsed ∧
        call.fallible = true ∧ ∃ error, (performIdentity decision store call).2 = .error error) ∨
    ((performIdentity decision store call).1 =
        (executeIdentity decision store call).1.elapse decision.elapsed ∧
      ((performIdentity decision store call).2 = (executeIdentity decision store call).2 ∨
        call.fallible = true ∧ ∃ error, (performIdentity decision store call).2 = .error error)) := by
  unfold performIdentity settleIdentity
  cases hFault : (if call.fallible then decision.fault else none) with
  | none => exact .inr ⟨rfl, .inl rfl⟩
  | some fault =>
      have hFallible : call.fallible = true := by
        by_contra hNot
        rw [if_neg hNot] at hFault
        cases hFault
      cases fault with
      | rejected error => exact .inl ⟨rfl, hFallible, error, rfl⟩
      | lost error => exact .inr ⟨rfl, .inr ⟨hFallible, error, rfl⟩⟩

/-- What every call keeps when it takes effect, and time keeps, every step keeps. -/
theorem performIdentity_keeps (Inv : IdentityStore → Prop) (h : Inv store)
    (hElapse : ∀ store seconds, Inv store → Inv (store.elapse seconds))
    (hExecute : Inv (executeIdentity decision store call).1) :
    Inv (performIdentity decision store call).1 := by
  rcases performIdentity_cases decision store call with ⟨hStore, -⟩ | ⟨hStore, -⟩
  · rw [hStore]
    exact hElapse _ _ h
  · rw [hStore]
    exact hElapse _ _ hExecute

theorem clock_le_performIdentity :
    store.clock ≤ (performIdentity decision store call).1.clock := by
  refine performIdentity_keeps (fun after => store.clock ≤ after.clock) le_rfl
    (fun after seconds h => h.trans (Nat.le_add_right _ _)) clock_executeIdentity.ge

/-- The backend as long as nothing fails. -/
abbrev reliableIdentity : World IdentityCall IdentityCall.Answer ThrownError where
  Store := IdentityStore
  Env := IdentityDecision
  perform decision := performIdentity { decision with fault := none }

theorem reliableIdentity_perform (decision : IdentityDecision) (store : IdentityStore)
    (call : IdentityCall) :
    performIdentity { decision with fault := none } store call =
      ((executeIdentity { decision with fault := none } store call).1.elapse decision.elapsed,
        (executeIdentity { decision with fault := none } store call).2) := by
  simp only [performIdentity, settleIdentity, ite_self]

/-- A call on its own, as long as nothing fails. -/
theorem run_ask_reliable (call : IdentityCall) (env : Nat → IdentityDecision)
    (store : IdentityStore) :
    (ask call).run reliableIdentity env store =
      ((executeIdentity { env 0 with fault := none } store call).1.elapse (env 0).elapsed,
        (executeIdentity { env 0 with fault := none } store call).2, fun n => env (n + 1)) := by
  have hPerform := reliableIdentity_perform (env 0) store call
  rw [Program.run_await]
  change ((performIdentity { env 0 with fault := none } store call).1,
    (performIdentity { env 0 with fault := none } store call).2, _) = _
  rw [hPerform]

end Navin
