import Navin.Identity.Effects
import Navin.Invitations.Service
import Navin.Semantics.Protocol

/-! The operations on company invitations as threads of one pool, and what their
calls do to a stored invitation. -/
namespace Navin.Invitations

open Async

inductive InvitationOperation where
  | create (input : CreateInput)
  | resend (invitationId organizationId : String)
  | revoke (invitationId organizationId : String)
  | info (token : Token)
  | accept (input : AcceptInput)

/-- The token that comes with the operation. -/
def InvitationOperation.presents : InvitationOperation → Option Token
  | .info token => some token
  | .accept input => some input.token
  | _ => none

def InvitationOperation.perform [Bcrypt] [Sha256] [TokenText] :
    InvitationOperation → IdentityM Unit
  | .create input => do
      let _ ← createAndSendInvitation input
  | .resend invitationId organizationId => do
      let _ ← resendInvitation invitationId organizationId
  | .revoke invitationId organizationId => do
      let _ ← revokeInvitationById invitationId organizationId
  | .info token => do
      let _ ← getInvitationInfo token
  | .accept input => do
      let _ ← acceptInvitationWithPassword input

/-- Any number of operations about to start over one store. -/
def operationPool [Bcrypt] [Sha256] [TokenText] {ι : Type}
    (W : World IdentityCall IdentityCall.Answer ThrownError) (store : W.Store)
    (operations : ι → InvitationOperation) : Pool W ι Unit :=
  ⟨store, fun i => (operations i).perform⟩

section Effects

variable {decision : IdentityDecision} {store : IdentityStore} {call : IdentityCall}
  {id : ObjectId} {invitation : Invitation}

/-- The update that a call makes on a stored invitation. -/
def updates (invitation : Invitation) (update : InvitationUpdate) : IdentityCall → Prop
  | .invitationUpdateByTokenHash tokenHash sent => invitation.tokenHash = tokenHash ∧
      invitation.deletedAt = none ∧ sent = update
  | .invitationRevoke text => ObjectId.cast? text = some invitation.id ∧
      invitation.deletedAt = none ∧ update = { status := some .revoked }
  | _ => False

/-- A call leaves a stored invitation alone or updates it. -/
theorem executeIdentity_invitation (h : store.invitations.get? id = some invitation) :
    (executeIdentity decision store call).1.invitations.get? id = some invitation ∨
      ∃ update, updates invitation update call ∧
        (executeIdentity decision store call).1.invitations.get? id =
          some (update.apply invitation) := by
  cases call with
  | invitationCreate fields =>
      refine .inl ?_
      simp only [executeIdentity, castingId, IdentityStore.insertInvitation]
      split
      · exact h
      · split
        · exact h
        · split
          · rename_i hFree
            rw [Collection.get?_insert]
            split
            · rename_i hSame
              rw [← hSame, h] at hFree
              cases hFree.1
            · exact h
          · exact h
  | invitationUpdateByTokenHash tokenHash update =>
      simp only [executeIdentity]
      split
      · exact .inl h
      · rename_i found hFound
        split
        · exact .inl h
        · by_cases hSame : id = found.id
          · subst hSame
            have hMem := List.mem_of_find?_eq_some hFound
            have hMatch := List.find?_some hFound
            rw [Bool.and_eq_true, decide_eq_true_eq, Option.isNone_iff_eq_none] at hMatch
            obtain rfl : found = invitation :=
              Option.some.inj ((store.invitations.get?_of_mem hMem).symm.trans h)
            refine .inr ⟨update, ⟨hMatch.1, hMatch.2, rfl⟩, ?_⟩
            rw [Collection.get?_modify_self, h, Option.map_some]
          · rw [Collection.get?_modify_of_ne _ update.apply_id hSame]
            exact .inl h
  | invitationRevoke text =>
      simp only [executeIdentity, castingId]
      split
      · exact .inl h
      · rename_i revoked hCast
        split
        · exact .inl h
        · rename_i found hFound
          by_cases hSame : id = revoked
          · subst hSame
            obtain ⟨hGet, hLive⟩ := Option.filter_eq_some_iff.mp hFound
            obtain rfl : found = invitation := Option.some.inj (hGet.symm.trans h)
            have hId := store.invitations.key_of_get? h
            refine .inr ⟨_, ⟨hId ▸ hCast, Option.isNone_iff_eq_none.mp hLive, rfl⟩, ?_⟩
            rw [Collection.get?_modify_self, h, Option.map_some]
          · rw [Collection.get?_modify_of_ne _ (InvitationUpdate.apply_id _) hSame]
            exact .inl h
  | _ =>
      rw [invitations_executeIdentity rfl]
      exact .inl h

theorem performIdentity_invitation (decision : IdentityDecision) (call : IdentityCall)
    (h : store.invitations.get? id = some invitation) :
    (performIdentity decision store call).1.invitations.get? id = some invitation ∨
      ∃ update, updates invitation update call ∧
        (performIdentity decision store call).1.invitations.get? id =
          some (update.apply invitation) := by
  rcases performIdentity_cases decision store call with ⟨hStore, -⟩ | ⟨hStore, -⟩
  · rw [hStore]
    exact .inl h
  · rw [hStore]
    exact executeIdentity_invitation h

/-- A lookup that is answered finds what is stored. -/
theorem answer_invitationFindById {text : String} {found : Option Invitation}
    (h : (performIdentity decision store (.invitationFindById text)).2 = .ok found) :
    ∃ id, ObjectId.cast? text = some id ∧ found = store.liveInvitation id := by
  have hOk : performIdentity decision store (.invitationFindById text) = (_, .ok found) :=
    Prod.ext rfl h
  obtain ⟨-, hAnswer, -⟩ := performIdentity_eq_ok.mp hOk
  simp only [executeIdentity, castingId] at hAnswer
  split at hAnswer
  · cases hAnswer
  · rename_i id hCast
    exact ⟨id, hCast, (Except.ok.inj hAnswer).symm⟩

/-- An update that is answered with an invitation has been made on it. -/
theorem answer_invitationUpdate {tokenHash : String} {update : InvitationUpdate}
    {updated : Invitation}
    (h : (performIdentity decision store (.invitationUpdateByTokenHash tokenHash update)).2 =
      .ok (some updated)) :
    ∃ old, store.invitations.get? updated.id = some old ∧ updated = update.apply old ∧
      old.tokenHash = tokenHash ∧ old.deletedAt = none ∧
      (performIdentity decision store
        (.invitationUpdateByTokenHash tokenHash update)).1.invitations =
          store.invitations.modify updated.id update.apply update.apply_id := by
  have hOk : performIdentity decision store (.invitationUpdateByTokenHash tokenHash update) =
      (_, .ok (some updated)) := Prod.ext rfl h
  obtain ⟨-, hAnswer, hStore⟩ := performIdentity_eq_ok.mp hOk
  have hInvitations : (performIdentity decision store
      (.invitationUpdateByTokenHash tokenHash update)).1.invitations =
        (executeIdentity decision store
          (.invitationUpdateByTokenHash tokenHash update)).1.invitations :=
    (congrArg IdentityStore.invitations hStore).trans rfl
  rw [hInvitations]
  simp only [executeIdentity] at hAnswer ⊢
  split at hAnswer
  · cases hAnswer
  · rename_i old hFound
    split at hAnswer
    · cases hAnswer
    · rename_i hUnique
      have hMatch := List.find?_some hFound
      rw [Bool.and_eq_true, decide_eq_true_eq, Option.isNone_iff_eq_none] at hMatch
      obtain rfl := Option.some.inj (Except.ok.inj hAnswer)
      refine ⟨old, store.invitations.get?_of_mem (List.mem_of_find?_eq_some hFound), rfl, hMatch.1,
        hMatch.2, ?_⟩
      rw [if_neg hUnique]
      rfl

/-- An update that finds nothing changes nothing. -/
theorem answer_invitationUpdate_none {tokenHash : String} {update : InvitationUpdate}
    (h : (performIdentity decision store (.invitationUpdateByTokenHash tokenHash update)).2 =
      .ok none) :
    (performIdentity decision store
      (.invitationUpdateByTokenHash tokenHash update)).1.invitations = store.invitations := by
  have hOk : performIdentity decision store (.invitationUpdateByTokenHash tokenHash update) =
      (_, .ok none) := Prod.ext rfl h
  obtain ⟨-, hAnswer, hStore⟩ := performIdentity_eq_ok.mp hOk
  have hInvitations : (performIdentity decision store
      (.invitationUpdateByTokenHash tokenHash update)).1.invitations =
        (executeIdentity decision store
          (.invitationUpdateByTokenHash tokenHash update)).1.invitations :=
    (congrArg IdentityStore.invitations hStore).trans rfl
  rw [hInvitations]
  simp only [executeIdentity] at hAnswer ⊢
  split at hAnswer
  · rfl
  · split at hAnswer <;> cases hAnswer

end Effects

section Samples

/-- The text of a token is its nonce, and its own hash. -/
@[reducible] def nonceText : TokenText :=
  ⟨fun token => token.claims.nonce.getD ""⟩

@[reducible] def plainSha256 : Sha256 :=
  ⟨fun text => text⟩

end Samples

end Navin.Invitations
