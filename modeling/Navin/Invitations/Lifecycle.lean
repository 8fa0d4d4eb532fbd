import Navin.Invitations.Operations

/-! The life of one invitation while any number of calls accept it, send it again,
revoke it or ask about it. Acceptance creates the user first and then looks for
the invitation under the hash it has read. -/
namespace Navin.Invitations

open Async

/-- How far a call has come: it has read the invitation, created the user from it,
marked it as accepted, or failed to. -/
inductive LifecycleStage where
  | starting
  | found (invitation : Invitation)
  | created (invitation : Invitation)
  | settled
  | broken

/-- The user has been created. -/
def LifecycleStage.hasCreated : LifecycleStage → Bool
  | .created _ | .settled | .broken => true
  | _ => false

/-- The user has been created, and the invitation is still to be updated. -/
def LifecycleStage.isCreated : LifecycleStage → Bool
  | .created _ => true
  | _ => false

/-- The invitation that an operation is about. -/
def InvitationOperation.invitationText : InvitationOperation → Option String
  | .resend invitationId _ | .revoke invitationId _ => some invitationId
  | .info token => token.claims.invitationId
  | .accept input => input.token.claims.invitationId
  | .create _ => none

def InvitationOperation.isOn (id : ObjectId) (operation : InvitationOperation) : Prop :=
  operation.invitationText.bind ObjectId.cast? = some id

instance (id : ObjectId) (operation : InvitationOperation) : Decidable (operation.isOn id) :=
  inferInstanceAs (Decidable (_ = _))

/-- The calls that change users or invitations, or find the latter. -/
def concerns : IdentityCall → Bool
  | .invitationFindById _ | .invitationCreate _ | .invitationUpdateByTokenHash _ _
  | .invitationRevoke _ | .userCreate _ | .userSave _ _ | .userSoftDelete _ _
  | .companyCreate _ _ _ => true
  | _ => false

/-- The order in which a call reads the invitation and writes what it read. -/
def lives (id : ObjectId) :
    Protocol IdentityCall IdentityCall.Answer ThrownError LifecycleStage where
  allows stage call :=
    match stage, call with
    | .starting, .invitationFindById text => ObjectId.cast? text = some id
    | .found _, .invitationRevoke text => ObjectId.cast? text = some id
    | .found invitation, .userCreate fields => fields.email = invitation.email
    | .found invitation, .invitationUpdateByTokenHash tokenHash update =>
        tokenHash = invitation.tokenHash ∧ update.status ≠ some .accepted
    | .created invitation, .invitationUpdateByTokenHash tokenHash update =>
        tokenHash = invitation.tokenHash ∧ update = { status := some .accepted }
    | _, call => concerns call = false
  next stage call response :=
    match stage, call, response with
    | .starting, .invitationFindById _, .ok (some invitation) => .found invitation
    | .found invitation, .userCreate _, .ok _ => .created invitation
    | .created _, .invitationUpdateByTokenHash _ _, .ok (some _) => .settled
    | .created _, .invitationUpdateByTokenHash _ _, _ => .broken
    | stage, _, _ => stage

/-- Nobody stops between the creation of the user and the update of the invitation. -/
structure Finishes {α : Type} (stage : LifecycleStage) (outcome : Except ThrownError α) :
    Prop where
  not_created : stage.isCreated = false

/-- A verified token is its own payload. -/
structure Verifies (token : Token) (stage : LifecycleStage) (outcome : Except ThrownError Token) :
    Prop where
  starting : stage = .starting
  payload : ∀ payload, outcome = .ok payload → payload = token

/-- The invitation that is returned is the one that was read. -/
structure Finds (stage : LifecycleStage) (outcome : Except ThrownError Invitation) : Prop
    extends Finishes stage outcome where
  found : ∀ invitation, outcome = .ok invitation → stage = .found invitation

section Calls

variable {id : ObjectId} {α : Type}

theorem ignores_of_not_concerns {call : IdentityCall} (h : concerns call = false) :
    (lives id).Ignores call := by
  intro stage
  constructor
  · cases call <;> first | (cases stage <;> exact h) | cases h
  · intro response
    cases call <;> first | (cases stage <;> rfl) | cases h

theorem finishes_starting (outcome : Except ThrownError α) : Finishes .starting outcome :=
  ⟨rfl⟩

theorem finishes_found (invitation : Invitation) (outcome : Except ThrownError α) :
    Finishes (.found invitation) outcome := ⟨rfl⟩

theorem verifies_error (token : Token) (error : ThrownError) :
    Verifies token .starting (.error error) :=
  ⟨rfl, fun _ hOk => nomatch hOk⟩

theorem finds_error {stage : LifecycleStage} {error : ThrownError}
    (h : Finishes (α := Invitation) stage (.error error)) : Finds stage (.error error) :=
  ⟨h, fun _ hOk => nomatch hOk⟩

theorem verifyInvitationToken_lives (token : Token) :
    (verifyInvitationToken token).Follows (lives id) (Verifies token) .starting := by
  refine Program.follows_bind.mpr (Program.follows_tryCatch.mpr ?_)
  refine Program.follows_bind.mpr (Program.follows_await.mpr ⟨rfl, fun response => ?_⟩)
  cases response with
  | error error => exact verifies_error token _
  | ok verified =>
      rw [Program.then_ok, Program.follows_pure, Program.caught_ok, Program.then_ok]
      split
      · exact verifies_error token _
      · exact ⟨rfl, fun payload hPayload => (Except.ok.inj hPayload).symm⟩

theorem sendInvitation_unconcerned (email subject : String) (token : Token) (inviterId : String) :
    (sendInvitation email subject token inviterId).Uses (lives id).Ignores :=
  .bind (.await (ignores_of_not_concerns rfl)) fun _ =>
    .tryCatch (.await (ignores_of_not_concerns rfl)) fun _ => .pure

variable {token : Token}

theorem pendingInvitation_lives (hOn : token.claims.invitationId.bind ObjectId.cast? = some id) :
    (pendingInvitation token).Follows (lives id) Finds .starting := by
  obtain ⟨text, hText, hCast⟩ := Option.bind_eq_some_iff.mp hOn
  rw [pendingInvitation, findPayloadInvitation, hText]
  refine .await_bind hCast (fun error => finds_error (finishes_starting _)) fun found => ?_
  cases found with
  | none => exact finds_error (finishes_starting _)
  | some invitation =>
      have hFound (error : ThrownError) : Finds (.found invitation) (.error error) :=
        finds_error (finishes_found _ _)
      dsimp only
      split
      · exact hFound _
      · refine Program.follows_bind.mpr (.await_bind rfl hFound fun now => ?_)
        rw [Program.follows_pure, Program.then_ok]
        split
        · exact .await_bind ⟨rfl, nofun⟩ hFound fun updated => hFound _
        · refine ⟨finishes_found _ _, fun other hOther => ?_⟩
          exact congrArg LifecycleStage.found (Except.ok.inj hOther)

/-- Verification and lookup, and what follows them. -/
theorem find_bind {rest : Invitation → IdentityM α}
    (hOn : token.claims.invitationId.bind ObjectId.cast? = some id)
    (hRest : ∀ invitation, (rest invitation).Follows (lives id) Finishes (.found invitation)) :
    (do let payload ← verifyInvitationToken token
        let invitation ← pendingInvitation payload
        rest invitation).Follows (lives id) Finishes .starting := by
  refine (verifyInvitationToken_lives token).bind (fun stage payload hPayload => ?_)
    fun stage error hError => ?_
  · obtain ⟨rfl, hSame⟩ := hPayload
    rw [hSame payload rfl]
    refine (pendingInvitation_lives hOn).bind (fun stage invitation hFound => ?_)
      fun stage error hError => ⟨hError.not_created⟩
    rw [hFound.found invitation rfl]
    exact hRest invitation
  · rw [hError.starting]
    exact finishes_starting _

theorem getInvitationInfo_lives (hOn : token.claims.invitationId.bind ObjectId.cast? = some id) :
    (getInvitationInfo token).Follows (lives id) Finishes .starting := by
  refine find_bind hOn fun invitation => ?_
  exact .skip (ignores_of_not_concerns rfl) (fun error => finishes_found _ _) fun org =>
    finishes_found _ _

/-- Once the user has been created, the invitation is looked for at once. -/
theorem acceptInvitation_lives [Bcrypt] {input : AcceptInput}
    (hOn : input.token.claims.invitationId.bind ObjectId.cast? = some id) :
    (acceptInvitationWithPassword input).Follows (lives id) Finishes .starting := by
  refine find_bind hOn fun invitation => ?_
  refine .skip (ignores_of_not_concerns rfl) (fun error => finishes_found _ _) fun existing => ?_
  cases existing with
  | some user => exact finishes_found _ _
  | none =>
      refine Program.follows_bind.mpr (.skip (ignores_of_not_concerns rfl)
        (fun error => finishes_found _ _) fun salt => ?_)
      refine .await_bind rfl (fun error => finishes_found _ _) fun user => ?_
      refine .await_bind ⟨rfl, rfl⟩ (fun error => ⟨rfl⟩) fun updated => ?_
      cases updated <;> exact ⟨rfl⟩

theorem ownInvitation_lives {invitationId organizationId : String}
    {rest : Invitation → IdentityM α} (hOn : ObjectId.cast? invitationId = some id)
    (hRest : ∀ invitation, (rest invitation).Follows (lives id) Finishes (.found invitation)) :
    (ownInvitation invitationId organizationId >>= rest).Follows (lives id) Finishes .starting := by
  refine Program.follows_bind.mpr (.await_bind hOn (fun error => finishes_starting _) fun found => ?_)
  cases found with
  | none => exact finishes_starting _
  | some invitation =>
      dsimp only
      split
      · exact finishes_found _ _
      · exact hRest invitation

theorem revokeInvitation_lives {invitationId organizationId : String}
    (hOn : ObjectId.cast? invitationId = some id) :
    (revokeInvitationById invitationId organizationId).Follows (lives id) Finishes .starting :=
  ownInvitation_lives hOn fun _ => Program.follows_await.mpr ⟨hOn, fun _ => finishes_found _ _⟩

theorem resendInvitation_lives [Sha256] [TokenText] {invitationId organizationId : String}
    (hOn : ObjectId.cast? invitationId = some id) :
    (resendInvitation invitationId organizationId).Follows (lives id) Finishes .starting := by
  refine ownInvitation_lives hOn fun invitation => ?_
  split
  · exact finishes_found _ _
  · refine .skip (ignores_of_not_concerns rfl) (fun error => finishes_found _ _) fun nonce => ?_
    refine .skip (ignores_of_not_concerns rfl) (fun error => finishes_found _ _) fun signed => ?_
    refine Program.follows_bind.mpr (.skip (ignores_of_not_concerns rfl)
      (fun error => finishes_found _ _) fun now => ?_)
    refine .await_bind ⟨rfl, nofun⟩ (fun error => finishes_found _ _) fun updated => ?_
    exact (sendInvitation_unconcerned _ _ _ _).skip (fun error => finishes_found _ _)
      fun _ => finishes_found _ _

/-- Every operation on the invitation keeps to the order. -/
theorem perform_lives [Bcrypt] [Sha256] [TokenText] {operation : InvitationOperation}
    (hOn : operation.isOn id) : operation.perform.Follows (lives id) Finishes .starting := by
  have hUnit {β : Type} {p : IdentityM β} (h : p.Follows (lives id) Finishes .starting) :
      (do let _ ← p : IdentityM Unit).Follows (lives id) Finishes .starting :=
    h.bind (fun _ _ hFinishes => ⟨hFinishes.not_created⟩) fun _ _ hFinishes =>
      ⟨hFinishes.not_created⟩
  cases operation with
  | create input => cases hOn
  | resend invitationId organizationId => exact hUnit (resendInvitation_lives hOn)
  | revoke invitationId organizationId => exact hUnit (revokeInvitation_lives hOn)
  | info token => exact hUnit (getInvitationInfo_lives hOn)
  | accept input => exact hUnit (acceptInvitation_lives hOn)

end Calls

section Statements

variable {ι : Type}

def createsUser (event : IdentityEvent ι) : Bool :=
  match event with
  | ⟨_, .userCreate _, .ok _⟩ => true
  | _ => false

def statusOf (store : IdentityStore) (id : ObjectId) : Option InvitationStatus :=
  (store.invitations.get? id).map (·.status)

variable [DecidableEq ι]

/-- A status other than pending is kept, at most one user is created, and at rest
a user has been created just when the invitation is accepted. -/
structure LifecycleHolds (guard : Guard reliableIdentity ι) (id : ObjectId)
    (point : Point reliableIdentity ι Unit) : Prop where
  kept : ∀ later status, GuardedSteps guard point later → status ≠ .pending →
    statusOf point.2.store id = some status → statusOf later.2.store id = some status
  once : (point.1.filter createsUser).length ≤ 1
  outcome : AtRest point →
    (statusOf point.2.store id = some .accepted ↔ point.1.any createsUser = true)

/-- A status may be written over a pending one, or over itself. -/
def mayBecome (current written : InvitationStatus) : Bool :=
  current = .pending || current = written

/-- Every status is written while the invitation is pending, and an acceptance
still finds the invitation under the hash it has read. -/
def writesWhilePending (id : ObjectId) : Guard reliableIdentity ι :=
  fun _ store _ call =>
    ((store.invitations.get? id).all fun invitation =>
      match call with
      | .invitationRevoke _ => mayBecome invitation.status .revoked
      | .invitationUpdateByTokenHash tokenHash update =>
          update.status.all fun status =>
            if invitation.tokenHash = tokenHash then mayBecome invitation.status status
            else status ≠ .accepted
      | _ => true) = true

instance (id : ObjectId) (history : List (IdentityEvent ι)) (store : IdentityStore) (i : ι)
    (call : IdentityCall) : Decidable (writesWhilePending id history store i call) :=
  inferInstanceAs (Decidable (_ = true))

end Statements

section Hashes

variable {decision : IdentityDecision} {store : IdentityStore} {call : IdentityCall}

/-- The unique index on the token hashes. -/
def UniqueHashes (store : IdentityStore) : Prop :=
  ∀ first ∈ store.invitations.docs, ∀ second ∈ store.invitations.docs,
    first.tokenHash = second.tokenHash → first = second

/-- Updating one invitation to a hash of its own keeps the index. -/
theorem uniqueHashes_modify (h : UniqueHashes store) {found : Invitation}
    (hFound : found ∈ store.invitations.docs) (update : InvitationUpdate)
    (hOwn : ∀ other ∈ store.invitations.docs, other.id ≠ found.id →
      other.tokenHash ≠ (update.apply found).tokenHash) :
    UniqueHashes { store with
      invitations := store.invitations.modify found.id update.apply update.apply_id } := by
  -- Whatever has the identifier is the invitation that was found.
  have hSame (doc : Invitation) (hDoc : doc ∈ store.invitations.docs) (hId : doc.id = found.id) :
      doc = found := by
    have hGet := store.invitations.get?_of_mem hDoc
    rw [hId, store.invitations.get?_of_mem hFound] at hGet
    exact (Option.some.inj hGet).symm
  intro first hFirst second hSecond hHash
  obtain ⟨old, hOld, rfl⟩ := List.mem_map.mp hFirst
  obtain ⟨old', hOld', rfl⟩ := List.mem_map.mp hSecond
  by_cases hId : old.id = found.id <;> by_cases hId' : old'.id = found.id
  · rw [hSame old hOld hId, hSame old' hOld' hId']
  · rw [if_pos hId, if_neg hId', hSame old hOld hId] at hHash
    exact absurd hHash.symm (hOwn old' hOld' hId')
  · rw [if_neg hId, if_pos hId', hSame old' hOld' hId'] at hHash
    exact absurd hHash (hOwn old hOld hId)
  · rw [if_neg hId, if_neg hId'] at hHash ⊢
    exact h old hOld old' hOld' hHash

theorem uniqueHashes_executeIdentity (h : UniqueHashes store) :
    UniqueHashes (executeIdentity decision store call).1 := by
  cases call with
  | invitationCreate fields =>
      simp only [executeIdentity, castingId, IdentityStore.insertInvitation]
      split
      · exact h
      · split
        · exact h
        · split
          · rename_i hFree
            intro first hFirst second hSecond hHash
            rcases (store.invitations.mem_insert (h := hFree.1)).mp hFirst with hOld | rfl <;>
              rcases (store.invitations.mem_insert (h := hFree.1)).mp hSecond with hOld' | rfl
            · exact h first hOld second hOld' hHash
            · exact absurd hHash (hFree.2 first hOld)
            · exact absurd hHash.symm (hFree.2 second hOld')
            · rfl
          · exact h
  | invitationUpdateByTokenHash tokenHash update =>
      simp only [executeIdentity]
      split
      · exact h
      · rename_i found hFound
        split
        · exact h
        · rename_i hOwn
          refine uniqueHashes_modify h (List.mem_of_find?_eq_some hFound) update ?_
          exact fun other hOther hId hHash => hOwn ⟨other, hOther, hId, hHash⟩
  | invitationRevoke text =>
      simp only [executeIdentity, castingId]
      split
      · exact h
      · split
        · exact h
        · rename_i found hFound
          obtain ⟨hGet, -⟩ := Option.filter_eq_some_iff.mp hFound
          obtain ⟨hMem, rfl⟩ := store.invitations.get?_eq_some_iff.mp hGet
          refine uniqueHashes_modify h hMem _ fun other hOther hId hHash => hId ?_
          rw [h other hOther found hMem hHash]
  | _ =>
      unfold UniqueHashes
      rw [invitations_executeIdentity rfl]
      exact h

/-- An acceptance that finds the invitation under the hash is answered. -/
theorem executeIdentity_update (decision : IdentityDecision) {invitation : Invitation} {id : ObjectId}
    (hUnique : UniqueHashes store) (hStored : store.invitations.get? id = some invitation)
    (hLive : invitation.deletedAt = none) (status : InvitationStatus) :
    executeIdentity decision store
        (.invitationUpdateByTokenHash invitation.tokenHash { status := some status }) =
      ({ store with
        invitations := store.invitations.modify id
          (InvitationUpdate.apply { status := some status }) (InvitationUpdate.apply_id _) },
        .ok (some { invitation with status := status })) := by
  obtain ⟨hMem, rfl⟩ := store.invitations.get?_eq_some_iff.mp hStored
  have hFind : (store.invitations.docs.find? fun other =>
      other.tokenHash = invitation.tokenHash && other.deletedAt.isNone) = some invitation := by
    obtain ⟨found, hFound⟩ : ∃ found, (store.invitations.docs.find? fun other =>
        other.tokenHash = invitation.tokenHash && other.deletedAt.isNone) = some found := by
      rw [← Option.isSome_iff_exists, List.find?_isSome]
      exact ⟨invitation, hMem, by simp [hLive]⟩
    have hMatch := List.find?_some hFound
    rw [Bool.and_eq_true, decide_eq_true_eq] at hMatch
    rw [hFound, hUnique found (List.mem_of_find?_eq_some hFound) invitation hMem hMatch.1]
  have hOwn : ¬∃ other ∈ store.invitations.docs, other.id ≠ invitation.id ∧
      other.tokenHash = invitation.tokenHash := by
    rintro ⟨other, hOther, hId, hHash⟩
    exact hId (congrArg Invitation.id (hUnique other hOther invitation hMem hHash))
  simp only [executeIdentity, hFind]
  exact if_neg hOwn

end Hashes

section Runs

variable {ι : Type} [DecidableEq ι] {id : ObjectId} {first : Invitation}
  {history : List (IdentityEvent ι)} {store store' : IdentityStore} {i : ι} {call : IdentityCall}
  {event : IdentityEvent ι}

abbrev lifecycleAfter (id : ObjectId) (history : List (IdentityEvent ι)) : ι → LifecycleStage :=
  (lives id).after (fun _ => .starting) history

/-- The invitation is accepted just when a call has accepted it, and at most one
call has created a user, whose email is then taken. -/
structure Lifecycle (id : ObjectId) (first : Invitation) (history : List (IdentityEvent ι))
    (store : IdentityStore) : Prop where
  unique : UniqueHashes store
  stored : ∃ invitation, store.invitations.get? id = some invitation ∧
    invitation.email = first.email ∧ invitation.deletedAt = first.deletedAt ∧
    (invitation.status = .accepted ↔ ∃ i, lifecycleAfter id history i = .settled)
  reads : ∀ i invitation, (lifecycleAfter id history i = .found invitation ∨
    lifecycleAfter id history i = .created invitation) →
      invitation.email = first.email ∧ first.deletedAt = none
  creators : ∀ i, (lifecycleAfter id history i).hasCreated = true ↔
    ∃ event ∈ history, event.thread = i ∧ createsUser event = true
  once : (history.filter createsUser).length ≤ 1
  taken : ∀ i, (lifecycleAfter id history i).hasCreated = true →
    ∃ user ∈ store.users.docs, user.email = first.email
  unbroken : ∀ i, lifecycleAfter id history i ≠ .broken

theorem Lifecycle.initial (hUnique : UniqueHashes store)
    (hFirst : store.invitations.get? id = some first) (hStatus : first.status ≠ .accepted) :
    Lifecycle (ι := ι) id first [] store where
  unique := hUnique
  stored := by
    refine ⟨first, hFirst, rfl, rfl, fun hAccepted => absurd hAccepted hStatus, ?_⟩
    rintro ⟨i, hSettled⟩
    cases hSettled
  reads i invitation hStage := by rcases hStage with hFound | hCreated <;> contradiction
  creators i := by
    constructor
    · intro hCreated
      cases hCreated
    · rintro ⟨event, hEvent, -⟩
      cases hEvent
  once := Nat.zero_le 1
  taken i hCreated := by cases hCreated
  unbroken i hBroken := by cases hBroken

/-- A step that neither creates a user nor accepts the invitation. -/
theorem Lifecycle.keep (h : Lifecycle id first history store)
    (hCreates : createsUser event = false)
    (hClass : (lifecycleAfter id (event :: history) event.thread).hasCreated =
      (lifecycleAfter id history event.thread).hasCreated)
    (hSettled : lifecycleAfter id (event :: history) event.thread = .settled ↔
      lifecycleAfter id history event.thread = .settled)
    (hBroken : lifecycleAfter id (event :: history) event.thread ≠ .broken)
    (hReads : ∀ invitation, (lifecycleAfter id (event :: history) event.thread =
        .found invitation ∨ lifecycleAfter id (event :: history) event.thread =
          .created invitation) → invitation.email = first.email ∧ first.deletedAt = none)
    (hUsers : store'.users = store.users) (hUnique : UniqueHashes store')
    (hStored : ∀ invitation, store.invitations.get? id = some invitation → ∃ invitation',
      store'.invitations.get? id = some invitation' ∧ invitation'.email = invitation.email ∧
        invitation'.deletedAt = invitation.deletedAt ∧
        (invitation'.status = .accepted ↔ invitation.status = .accepted)) :
    Lifecycle id first (event :: history) store' := by
  have hOther (j : ι) (hj : j ≠ event.thread) :
      lifecycleAfter id (event :: history) j = lifecycleAfter id history j :=
    Protocol.after_cons_of_ne _ _ _ hj
  -- Nobody enters or leaves the stages that the invariant counts.
  have hClasses (j : ι) : (lifecycleAfter id (event :: history) j).hasCreated =
      (lifecycleAfter id history j).hasCreated := by
    by_cases hj : j = event.thread
    · rw [hj, hClass]
    · rw [hOther j hj]
  have hSettledAll (j : ι) : lifecycleAfter id (event :: history) j = .settled ↔
      lifecycleAfter id history j = .settled := by
    by_cases hj : j = event.thread
    · rw [hj, hSettled]
    · rw [hOther j hj]
  refine ⟨hUnique, ?_, fun j invitation hStage => ?_, fun j => ?_, ?_, fun j hStage => ?_,
    fun j => ?_⟩
  · obtain ⟨invitation, hGet, hEmail, hLive, hStatus⟩ := h.stored
    obtain ⟨invitation', hGet', hEmail', hLive', hStatus'⟩ := hStored invitation hGet
    refine ⟨invitation', hGet', hEmail'.trans hEmail, hLive'.trans hLive, ?_⟩
    rw [hStatus', hStatus]
    exact exists_congr fun j => (hSettledAll j).symm
  · by_cases hj : j = event.thread
    · rw [hj] at hStage
      exact hReads invitation hStage
    · rw [hOther j hj] at hStage
      exact h.reads j invitation hStage
  · rw [hClasses j, h.creators j]
    simp [hCreates]
  · rw [List.filter_cons_of_neg (by simp [hCreates])]
    exact h.once
  · rw [hClasses j] at hStage
    rw [hUsers]
    exact h.taken j hStage
  · by_cases hj : j = event.thread
    · rw [hj]
      exact hBroken
    · rw [hOther j hj]
      exact h.unbroken j

/-- In particular a step after which the call is where it was. -/
theorem Lifecycle.keep_of_stage (h : Lifecycle id first history store)
    (hCreates : createsUser event = false)
    (hStage : lifecycleAfter id (event :: history) event.thread =
      lifecycleAfter id history event.thread)
    (hUsers : store'.users = store.users) (hUnique : UniqueHashes store')
    (hStored : ∀ invitation, store.invitations.get? id = some invitation → ∃ invitation',
      store'.invitations.get? id = some invitation' ∧ invitation'.email = invitation.email ∧
        invitation'.deletedAt = invitation.deletedAt ∧
        (invitation'.status = .accepted ↔ invitation.status = .accepted)) :
    Lifecycle id first (event :: history) store' := by
  refine h.keep hCreates (by rw [hStage]) (by rw [hStage]) ?_ (fun invitation hRead => ?_) hUsers
    hUnique hStored
  · rw [hStage]
    exact h.unbroken _
  · rw [hStage] at hRead
    exact h.reads _ invitation hRead

omit [DecidableEq ι] in
/-- A user is created only where nobody has the email. -/
theorem userCreate_cases (decision : IdentityDecision) (store : IdentityStore)
    (fields : UserFields) :
    (∃ error, executeIdentity decision store (.userCreate fields) = (store, .error error)) ∨
    ∃ user users, executeIdentity decision store (.userCreate fields) =
        ({ store with users }, .ok user) ∧ user ∈ users.docs ∧ user.email = fields.email ∧
      (∀ other ∈ store.users.docs, other.email ≠ fields.email) ∧
      ∀ other ∈ store.users.docs, other ∈ users.docs := by
  have hInsert (new : User) (hEmail : new.email = fields.email) :
      (∃ error, store.insertUser new = (store, .error error)) ∨
      ∃ user users, store.insertUser new = ({ store with users }, .ok user) ∧
        user ∈ users.docs ∧ user.email = fields.email ∧
        (∀ other ∈ store.users.docs, other.email ≠ fields.email) ∧
        ∀ other ∈ store.users.docs, other ∈ users.docs := by
    by_cases hFree : store.users.get? new.id = none ∧
        ∀ other ∈ store.users.docs, other.email ≠ new.email
    · refine .inr ⟨new, store.users.insert new hFree.1, dif_pos hFree, ?_, hEmail, ?_, ?_⟩
      · exact (store.users.mem_insert (h := hFree.1)).mpr (.inr rfl)
      · rw [← hEmail]
        exact hFree.2
      · exact fun other hOther => (store.users.mem_insert (h := hFree.1)).mpr (.inl hOther)
    · exact .inl ⟨.duplicateKey, dif_neg hFree⟩
  simp only [executeIdentity, castingId]
  cases fields.organizationId with
  | none =>
      dsimp only
      exact hInsert (fields.user decision.freshId none) rfl
  | some text =>
      dsimp only
      cases ObjectId.cast? text with
      | none => exact .inl ⟨_, rfl⟩
      | some organizationId =>
          exact hInsert (fields.user decision.freshId (some organizationId)) rfl

omit [DecidableEq ι] in
/-- What is written over a status that is not accepted, and is not acceptance. -/
theorem status_of_mayBecome {current written : InvitationStatus}
    (h : mayBecome current written = true) (hWritten : written ≠ .accepted) :
    written = .accepted ↔ current = .accepted := by
  rw [mayBecome, Bool.or_eq_true, decide_eq_true_eq, decide_eq_true_eq] at h
  rcases h with rfl | rfl
  · exact ⟨fun hAccepted => absurd hAccepted hWritten, nofun⟩
  · rfl

omit [DecidableEq ι] in
/-- Everything that the order allows a call to be. -/
theorem lives_cases {stage : LifecycleStage} (h : (lives id).allows stage call) :
    concerns call = false ∨
    (stage = .starting ∧ ∃ text, call = .invitationFindById text ∧ ObjectId.cast? text = some id) ∨
    (∃ invitation, stage = .found invitation ∧ ∃ text, call = .invitationRevoke text) ∨
    (∃ invitation, stage = .found invitation ∧ ∃ tokenHash update,
      call = .invitationUpdateByTokenHash tokenHash update ∧ update.status ≠ some .accepted) ∨
    (∃ invitation, stage = .found invitation ∧ ∃ fields,
      call = .userCreate fields ∧ fields.email = invitation.email) ∨
    ∃ invitation, stage = .created invitation ∧
      call = .invitationUpdateByTokenHash invitation.tokenHash { status := some .accepted } := by
  by_cases hConcerns : concerns call = false
  · exact .inl hConcerns
  · cases stage with
    | starting =>
        cases call <;> first | exact absurd h hConcerns | skip
        exact .inr (.inl ⟨rfl, _, rfl, h⟩)
    | found invitation =>
        cases call <;> first | exact absurd h hConcerns | skip
        · exact .inr (.inr (.inr (.inr (.inl ⟨_, rfl, _, rfl, h⟩))))
        · exact .inr (.inr (.inr (.inl ⟨_, rfl, _, _, rfl, h.2⟩)))
        · exact .inr (.inr (.inl ⟨_, rfl, _, rfl⟩))
    | created invitation =>
        cases call <;> first | exact absurd h hConcerns | skip
        obtain ⟨rfl, rfl⟩ := h
        exact .inr (.inr (.inr (.inr (.inr ⟨_, rfl, rfl⟩))))
    | settled => exact absurd h hConcerns
    | broken => exact absurd h hConcerns

omit [DecidableEq ι] in
/-- What the condition says of a status that is written. -/
theorem mayBecome_of_writesWhilePending {invitation : Invitation} {update : InvitationUpdate}
    {status : InvitationStatus} (hGuard : writesWhilePending id history store i call)
    (hStored : store.invitations.get? id = some invitation)
    (hUpdates : updates invitation update call) (hStatus : update.status = some status) :
    mayBecome invitation.status status = true := by
  rw [writesWhilePending, hStored, Option.all_some] at hGuard
  cases call with
  | invitationUpdateByTokenHash tokenHash sent =>
      obtain ⟨rfl, -, rfl⟩ := hUpdates
      simpa only [hStatus, Option.all_some, if_true] using hGuard
  | invitationRevoke text =>
      obtain ⟨-, -, rfl⟩ := hUpdates
      obtain rfl := Option.some.inj hStatus
      exact hGuard
  | _ => exact hUpdates.elim

omit [DecidableEq ι] in
/-- A status other than acceptance is written only over others. -/
theorem stored_of_writesWhilePending {decision : IdentityDecision} {invitation : Invitation}
    (hGuard : writesWhilePending id history store i call)
    (hOther : ∀ tokenHash update, call = .invitationUpdateByTokenHash tokenHash update →
      update.status ≠ some .accepted)
    (hStored : store.invitations.get? id = some invitation) :
    ∃ invitation', (executeIdentity decision store call).1.invitations.get? id =
        some invitation' ∧ invitation'.email = invitation.email ∧
      invitation'.deletedAt = invitation.deletedAt ∧
      (invitation'.status = .accepted ↔ invitation.status = .accepted) := by
  rcases executeIdentity_invitation hStored with
    hSame | ⟨update, hUpdates, hAfter⟩
  · exact ⟨invitation, hSame, rfl, rfl, Iff.rfl⟩
  · refine ⟨update.apply invitation, hAfter, rfl, rfl, ?_⟩
    have hWritten : update.status ≠ some .accepted := by
      cases call with
      | invitationUpdateByTokenHash tokenHash sent =>
          obtain ⟨-, -, rfl⟩ := hUpdates
          exact hOther _ _ rfl
      | invitationRevoke text =>
          obtain ⟨-, -, rfl⟩ := hUpdates
          intro hRevoked
          cases hRevoked
      | _ => exact hUpdates.elim
    rw [InvitationUpdate.apply]
    cases hStatus : update.status with
    | none => exact Iff.rfl
    | some status =>
        have hMay := mayBecome_of_writesWhilePending hGuard hStored hUpdates hStatus
        exact status_of_mayBecome hMay fun hAccepted => hWritten (hAccepted ▸ hStatus)

/-- The events of the step of a call. -/
abbrev settledEvent (decision : IdentityDecision) (store : IdentityStore) (i : ι)
    (call : IdentityCall) : IdentityEvent ι :=
  ⟨i, call, (executeIdentity decision store call).2⟩

theorem lifecycleAfter_settled (id : ObjectId) (history : List (IdentityEvent ι))
    (decision : IdentityDecision) (store : IdentityStore) (i : ι) (call : IdentityCall) :
    lifecycleAfter id (settledEvent decision store i call :: history) i =
      (lives id).next (lifecycleAfter id history i) call
        (executeIdentity decision store call).2 := Protocol.after_cons_self _ _ _ _

variable {decision : IdentityDecision}

/-- Calls of which the order takes no notice. -/
theorem Lifecycle.step_unconcerned (h : Lifecycle id first history store)
    (hConcerns : concerns call = false) (hGuard : writesWhilePending id history store i call) :
    Lifecycle id first (settledEvent decision store i call :: history)
      (executeIdentity decision store call).1 := by
  refine h.keep_of_stage ?_ ?_ (users_executeIdentity ?_) (uniqueHashes_executeIdentity h.unique)
    fun invitation hStored => stored_of_writesWhilePending hGuard ?_ hStored
  · cases call <;> first | rfl | cases hConcerns
  · rw [lifecycleAfter_settled]
    exact (ignores_of_not_concerns hConcerns _).2 _
  · cases call <;> first | rfl | cases hConcerns
  · rintro tokenHash update rfl
    cases hConcerns

/-- The invitation is read. -/
theorem Lifecycle.step_find (h : Lifecycle id first history store) {text : String}
    (hStarting : lifecycleAfter id history i = .starting) (hCast : ObjectId.cast? text = some id) :
    Lifecycle id first (settledEvent decision store i (.invitationFindById text) :: history)
      (executeIdentity decision store (.invitationFindById text)).1 := by
  have hStore : (executeIdentity decision store (.invitationFindById text)).1 = store := by
    simp only [executeIdentity, castingId, hCast]
  rw [hStore]
  have hAnswer : (executeIdentity decision store (.invitationFindById text)).2 =
      .ok (store.liveInvitation id) := by
    simp only [executeIdentity, castingId, hCast]
  have hOwn : lifecycleAfter id (settledEvent decision store i (.invitationFindById text) ::
      history) i = (store.liveInvitation id).elim .starting .found := by
    rw [lifecycleAfter_settled, hAnswer, hStarting]
    cases store.liveInvitation id <;> rfl
  have hFound (invitation : Invitation) : lifecycleAfter id
      (settledEvent decision store i (.invitationFindById text) :: history) i = .found invitation →
        store.liveInvitation id = some invitation := by
    rw [hOwn]
    cases store.liveInvitation id with
    | none => rintro ⟨⟩
    | some other => exact fun hSome => congrArg some (LifecycleStage.found.inj hSome)
  refine h.keep rfl ?_ ?_ ?_ (fun invitation hRead => ?_) rfl h.unique fun invitation hStored =>
    ⟨invitation, hStored, rfl, rfl, Iff.rfl⟩
  · rw [hOwn, hStarting]
    cases store.liveInvitation id <;> rfl
  · rw [hOwn, hStarting]
    cases store.liveInvitation id <;> constructor <;> rintro ⟨⟩
  · rw [hOwn]
    cases store.liveInvitation id <;> rintro ⟨⟩
  · rcases hRead with hRead | hCreated
    · obtain ⟨hGet, hLive⟩ := Option.filter_eq_some_iff.mp (hFound invitation hRead)
      obtain ⟨stored, hStored, hEmail, hDeleted, -⟩ := h.stored
      obtain rfl := Option.some.inj (hStored.symm.trans hGet)
      exact ⟨hEmail, hDeleted ▸ Option.isNone_iff_eq_none.mp hLive⟩
    · rw [hOwn] at hCreated
      cases hLive : store.liveInvitation id <;> rw [hLive] at hCreated <;> cases hCreated

/-- A caller that has read the invitation revokes it, or writes anything but acceptance. -/
theorem Lifecycle.step_write (h : Lifecycle id first history store) {invitation : Invitation}
    (hFound : lifecycleAfter id history i = .found invitation)
    (hCall : (∃ text, call = .invitationRevoke text) ∨ ∃ tokenHash update,
      call = .invitationUpdateByTokenHash tokenHash update ∧ update.status ≠ some .accepted)
    (hGuard : writesWhilePending id history store i call) :
    Lifecycle id first (settledEvent decision store i call :: history)
      (executeIdentity decision store call).1 := by
  have hOther (tokenHash : String) (update : InvitationUpdate)
      (hUpdate : call = .invitationUpdateByTokenHash tokenHash update) :
      update.status ≠ some .accepted := by
    subst hUpdate
    rcases hCall with ⟨text, hRevoke⟩ | ⟨_, _, hSame, hStatus⟩
    · cases hRevoke
    · cases hSame
      exact hStatus
  refine h.keep_of_stage ?_ ?_ (users_executeIdentity ?_) (uniqueHashes_executeIdentity h.unique)
    fun stored hStored => stored_of_writesWhilePending hGuard hOther hStored
  · rcases hCall with ⟨text, rfl⟩ | ⟨tokenHash, update, rfl, -⟩ <;> rfl
  · rw [lifecycleAfter_settled, hFound]
    rcases hCall with ⟨text, rfl⟩ | ⟨tokenHash, update, rfl, -⟩ <;> rfl
  · rcases hCall with ⟨text, rfl⟩ | ⟨tokenHash, update, rfl, -⟩ <;> rfl

theorem afterOther (id : ObjectId) (history : List (IdentityEvent ι)) {event : IdentityEvent ι}
    {j : ι} (hj : j ≠ event.thread) :
    lifecycleAfter id (event :: history) j = lifecycleAfter id history j :=
  Protocol.after_cons_of_ne _ _ _ hj

/-- The user is created: nobody had been, for the email was free. -/
theorem Lifecycle.step_create (h : Lifecycle id first history store) {invitation : Invitation}
    {fields : UserFields} (hFound : lifecycleAfter id history i = .found invitation)
    (hEmail : fields.email = invitation.email) :
    Lifecycle id first (settledEvent decision store i (.userCreate fields) :: history)
      (executeIdentity decision store (.userCreate fields)).1 := by
  obtain ⟨hFirst, hLive⟩ := h.reads i invitation (.inl hFound)
  have hOwn := lifecycleAfter_settled id history decision store i (.userCreate fields)
  rw [hFound] at hOwn
  rcases userCreate_cases decision store fields with
    ⟨error, hCreate⟩ | ⟨user, users, hCreate, hUser, hHas, hFree, hOld⟩
  · rw [hCreate] at hOwn
    refine h.keep_of_stage ?_ (hOwn.trans hFound.symm) ?_ (uniqueHashes_executeIdentity h.unique)
      fun stored hStored => ⟨stored, ?_, rfl, rfl, Iff.rfl⟩
    · simp only [createsUser, settledEvent, hCreate]
    · rw [hCreate]
    · rw [hCreate]
      exact hStored
  · rw [hCreate] at hOwn
    change lifecycleAfter id _ i = .created invitation at hOwn
    have hCreates : createsUser (settledEvent decision store i (.userCreate fields)) = true := by
      simp only [createsUser, settledEvent, hCreate]
    -- Whoever had created a user would have taken the email.
    have hNobody (j : ι) : (lifecycleAfter id history j).hasCreated = false := by
      by_contra hCreated
      obtain ⟨other, hOther, hTaken⟩ := h.taken j (Bool.of_not_eq_false hCreated)
      exact hFree other hOther (hTaken.trans (hFirst.symm.trans hEmail.symm))
    have hNone : history.filter createsUser = [] := by
      refine List.filter_eq_nil_iff.mpr fun event hEvent hCreated => ?_
      have hThread := (h.creators event.thread).mpr ⟨event, hEvent, rfl, hCreated⟩
      rw [hNobody] at hThread
      cases hThread
    refine ⟨uniqueHashes_executeIdentity h.unique, ?_, fun j read hRead => ?_, fun j => ?_, ?_,
      fun j hCreated => ?_, fun j => ?_⟩
    · obtain ⟨stored, hStored, hSame, hDeleted, hStatus⟩ := h.stored
      refine ⟨stored, ?_, hSame, hDeleted, hStatus.trans (exists_congr fun j => ?_)⟩
      · rw [hCreate]
        exact hStored
      · by_cases hj : j = i
        · subst hj
          rw [hOwn, hFound]
          exact ⟨nofun, nofun⟩
        · rw [afterOther id history hj]
    · by_cases hj : j = i
      · subst hj
        rw [hOwn] at hRead
        obtain rfl : invitation = read :=
          hRead.elim (fun hOther => nomatch hOther) LifecycleStage.created.inj
        exact ⟨hFirst, hLive⟩
      · rw [afterOther id history hj] at hRead
        exact h.reads j read hRead
    · by_cases hj : j = i
      · subst hj
        rw [hOwn]
        exact iff_of_true rfl ⟨_, List.mem_cons_self, rfl, hCreates⟩
      · rw [afterOther id history hj, h.creators j, List.exists_mem_cons_iff]
        exact ⟨.inr, fun hAny => hAny.resolve_left fun hNew => hj hNew.1.symm⟩
    · rw [List.filter_cons_of_pos hCreates, hNone, List.length_singleton]
    · rw [hCreate]
      by_cases hj : j = i
      · exact ⟨user, hUser, hHas.trans (hEmail.trans hFirst)⟩
      · rw [afterOther id history hj] at hCreated
        obtain ⟨other, hOther, hTaken⟩ := h.taken j hCreated
        exact ⟨other, hOld other hOther, hTaken⟩
    · by_cases hj : j = i
      · subst hj
        rw [hOwn]
        exact nofun
      · rw [afterOther id history hj]
        exact h.unbroken j

/-- The invitation is accepted under the hash that was read. -/
theorem Lifecycle.step_accept (h : Lifecycle id first history store) {invitation : Invitation}
    (hCreated : lifecycleAfter id history i = .created invitation)
    (hGuard : writesWhilePending id history store i
      (.invitationUpdateByTokenHash invitation.tokenHash { status := some .accepted })) :
    Lifecycle id first (settledEvent decision store i
        (.invitationUpdateByTokenHash invitation.tokenHash { status := some .accepted }) :: history)
      (executeIdentity decision store
        (.invitationUpdateByTokenHash invitation.tokenHash { status := some .accepted })).1 := by
  obtain ⟨stored, hStored, hSame, hDeleted, hStatus⟩ := h.stored
  have hHash : stored.tokenHash = invitation.tokenHash := by
    rw [writesWhilePending, hStored, Option.all_some] at hGuard
    by_contra hOther
    simp only [Option.all_some, if_neg hOther, ne_eq, not_true_eq_false, decide_false] at hGuard
    cases hGuard
  have hUpdate := executeIdentity_update decision h.unique hStored
    (hDeleted.trans (h.reads i invitation (.inr hCreated)).2) .accepted
  rw [hHash] at hUpdate
  have hOwn := lifecycleAfter_settled id history decision store i
    (.invitationUpdateByTokenHash invitation.tokenHash { status := some .accepted })
  rw [hCreated, hUpdate] at hOwn
  change lifecycleAfter id _ i = .settled at hOwn
  refine ⟨uniqueHashes_executeIdentity h.unique, ?_, fun j read hRead => ?_, fun j => ?_, h.once,
    fun j hHas => ?_, fun j => ?_⟩
  · rw [hUpdate]
    refine ⟨InvitationUpdate.apply { status := some .accepted } stored, ?_, hSame, hDeleted,
      iff_of_true rfl ⟨i, hOwn⟩⟩
    rw [Collection.get?_modify_self, hStored, Option.map_some]
  · by_cases hj : j = i
    · subst hj
      rw [hOwn] at hRead
      exact hRead.elim (fun hOther => nomatch hOther) fun hOther => nomatch hOther
    · rw [afterOther id history hj] at hRead
      exact h.reads j read hRead
  · by_cases hj : j = i
    · subst hj
      rw [hOwn, List.exists_mem_cons_iff, ← h.creators j, hCreated]
      exact iff_of_true rfl (.inr rfl)
    · rw [afterOther id history hj, h.creators j, List.exists_mem_cons_iff]
      exact ⟨.inr, fun hAny => hAny.resolve_left fun hNew => hj hNew.1.symm⟩
  · rw [hUpdate]
    by_cases hj : j = i
    · exact h.taken i (by rw [hCreated, LifecycleStage.hasCreated])
    · rw [afterOther id history hj] at hHas
      exact h.taken j hHas
  · by_cases hj : j = i
    · subst hj
      rw [hOwn]
      exact nofun
    · rw [afterOther id history hj]
      exact h.unbroken j

theorem Lifecycle.elapse (h : Lifecycle id first history store) (seconds : Nat) :
    Lifecycle id first history (store.elapse seconds) :=
  ⟨h.unique, h.stored, h.reads, h.creators, h.once, h.taken, h.unbroken⟩

/-- Every allowed step that meets the condition keeps the invariant. -/
theorem Lifecycle.step (h : Lifecycle id first history store) (decision : IdentityDecision)
    (hAllows : (lives id).allows (lifecycleAfter id history i) call)
    (hGuard : writesWhilePending id history store i call) :
    Lifecycle id first
      (⟨i, call, (performIdentity { decision with fault := none } store call).2⟩ :: history)
      (performIdentity { decision with fault := none } store call).1 := by
  rw [reliableIdentity_perform]
  apply Lifecycle.elapse
  rcases lives_cases hAllows with hConcerns | ⟨hStarting, text, rfl, hCast⟩ |
    ⟨invitation, hFound, hRevoke⟩ | ⟨invitation, hFound, hWrite⟩ |
    ⟨invitation, hFound, fields, rfl, hEmail⟩ | ⟨invitation, hCreated, rfl⟩
  · exact h.step_unconcerned hConcerns hGuard
  · exact h.step_find hStarting hCast
  · exact h.step_write hFound (.inl hRevoke) hGuard
  · exact h.step_write hFound (.inr hWrite) hGuard
  · exact h.step_create hFound hEmail
  · exact h.step_accept hCreated hGuard

omit [DecidableEq ι] in
/-- A status other than pending stays, whatever is written. -/
theorem statusOf_perform {decision : IdentityDecision} {status : InvitationStatus}
    (hGuard : writesWhilePending id history store i call) (hStatus : status ≠ .pending)
    (hStored : statusOf store id = some status) :
    statusOf (performIdentity decision store call).1 id = some status := by
  obtain ⟨invitation, hGet, rfl⟩ := Option.map_eq_some_iff.mp hStored
  rcases performIdentity_invitation decision call hGet with hSame | ⟨update, hUpdates, hAfter⟩
  · rw [statusOf, hSame, Option.map_some]
  · rw [statusOf, hAfter, Option.map_some, InvitationUpdate.apply]
    cases hWritten : update.status with
    | none => rfl
    | some written =>
        have hMay := mayBecome_of_writesWhilePending hGuard hGet hUpdates hWritten
        rw [mayBecome, Bool.or_eq_true, decide_eq_true_eq, decide_eq_true_eq] at hMay
        obtain rfl := hMay.resolve_left hStatus
        rfl

theorem statusOf_steps {point later : Point reliableIdentity ι Unit} {status : InvitationStatus}
    (hSteps : GuardedSteps (writesWhilePending id) point later) (hStatus : status ≠ .pending)
    (hStored : statusOf point.2.store id = some status) :
    statusOf later.2.store id = some status := by
  induction hSteps with
  | refl => exact hStored
  | tail prior last ih =>
      obtain ⟨env, i, request, next, hThread, hGuard, hHistory, hStore⟩ := last.cases
      rw [hStore]
      exact statusOf_perform hGuard hStatus ih

/-- The lifecycle in every run in which nothing fails, a status is written only over
a pending one, and every acceptance still finds the hash it has read. -/
theorem lifecycleHolds_of_writesWhilePending [Bcrypt] [Sha256] [TokenText]
    {operations : ι → InvitationOperation} (hOn : ∀ i, (operations i).isOn id)
    (hUnique : UniqueHashes store) (hFirst : store.invitations.get? id = some first)
    (hStatus : first.status ≠ .accepted) {point : Point reliableIdentity ι Unit}
    (run : GuardedRun (writesWhilePending id) (operationPool reliableIdentity store operations)
      point) : LifecycleHolds (writesWhilePending id) id point := by
  have hStart (i : ι) : ((operationPool reliableIdentity store operations).thread i).Follows
      (lives id) Finishes .starting := perform_lives (hOn i)
  have hInv : Lifecycle id first point.1 point.2.store :=
    GuardedRun.invariant (lives id) (fun _ => .starting) run hStart (Lifecycle id first)
      (.initial hUnique hFirst hStatus)
      fun _ _ decision _ _ h hAllows hGuard => h.step decision hAllows hGuard
  refine ⟨fun later status hSteps => statusOf_steps hSteps, hInv.once, fun hRest => ?_⟩
  -- At rest, every call that has created the user has accepted the invitation.
  have hEnded (i : ι) : (lifecycleAfter id point.1 i).hasCreated = true ↔
      lifecycleAfter id point.1 i = .settled := by
    have hNot : (lifecycleAfter id point.1 i).isCreated = false := by
      rcases GuardedRun.ended_of_atRest (lives id) (fun _ => .starting) run hStart hRest i with
        hStarting | ⟨outcome, hFinishes⟩
      · rw [lifecycleAfter, hStarting]
        rfl
      · exact hFinishes.not_created
    have hUnbroken := hInv.unbroken i
    cases hStage : lifecycleAfter id point.1 i with
    | created invitation =>
        rw [hStage] at hNot
        cases hNot
    | broken => exact absurd hStage hUnbroken
    | _ => simp [LifecycleStage.hasCreated]
  obtain ⟨invitation, hStored, -, -, hAccepted⟩ := hInv.stored
  rw [statusOf, hStored, Option.map_some, Option.some.injEq, hAccepted, List.any_eq_true]
  constructor
  · rintro ⟨i, hSettled⟩
    obtain ⟨event, hEvent, -, hCreates⟩ := (hInv.creators i).mp ((hEnded i).mpr hSettled)
    exact ⟨event, hEvent, hCreates⟩
  · rintro ⟨event, hEvent, hCreates⟩
    have hHas := (hInv.creators event.thread).mpr ⟨event, hEvent, rfl, hCreates⟩
    exact ⟨event.thread, (hEnded event.thread).mp hHas⟩

end Runs

section Samples

def sampleLifecycleInvitation : Invitation where
  id := .repeated 1
  email := "driver@navin.test"
  role := .driver
  status := .pending
  tokenHash := "hash"
  expiresAt := ⟨10000⟩
  message := none
  invitedBy := .repeated 3
  organizationId := .repeated 2
  deletedAt := none

/-- The token that the sample invitation has been sent with. -/
def sampleLifecycleToken : Token :=
  ⟨invitationClaims ⟨(ObjectId.repeated 1).toString, "driver@navin.test", .driver,
    (ObjectId.repeated 2).toString, "nonce"⟩, 0, inviteExpirySeconds⟩

def sampleLifecycleStore : IdentityStore where
  invitations := Collection.empty.insert sampleLifecycleInvitation rfl
  signed := [sampleLifecycleToken]

/-- One call accepts the invitation while another revokes it. -/
def sampleLifecycleOperations : Fin 2 → InvitationOperation
  | 0 => .accept ⟨sampleLifecycleToken, "Driver", "secret"⟩
  | 1 => .revoke (ObjectId.repeated 1).toString (ObjectId.repeated 2).toString

abbrev sampleLifecyclePool : Pool reliableIdentity (Fin 2) Unit :=
  @operationPool saltBcrypt plainSha256 nonceText (Fin 2) reliableIdentity sampleLifecycleStore
    sampleLifecycleOperations

def acceptCalls : List (IdentityDecision × Fin 2) :=
  List.replicate 7 ({ freshId := .repeated 5 }, 0)

def revokeCalls : List (IdentityDecision × Fin 2) :=
  List.replicate 2 ({}, 1)

theorem sampleLifecycle_isOn (i : Fin 2) :
    (sampleLifecycleOperations i).isOn (.repeated 1) := by
  revert i
  decide +kernel

theorem sampleLifecycle_unique : UniqueHashes sampleLifecycleStore := by
  intro first hFirst second hSecond _
  rw [List.mem_singleton.mp hFirst, List.mem_singleton.mp hSecond]

/-- An acceptance on its own. -/
theorem lifecycleHolds_of_writesWhilePending_sample :
    ∃ point : Point reliableIdentity (Fin 2) Unit,
      GuardedRun (writesWhilePending (.repeated 1)) sampleLifecyclePool point ∧
      (point.2.thread 0).succeeded = true ∧
      LifecycleHolds (writesWhilePending (.repeated 1)) (.repeated 1) point := by
  obtain ⟨point, run, hTest⟩ := Pool.exists_run (writesWhilePending (.repeated 1))
    sampleLifecyclePool (fun point => (point.2.thread 0).succeeded) acceptCalls (by decide +kernel)
  have hPending : sampleLifecycleInvitation.status ≠ .accepted := by decide
  exact ⟨point, run, hTest, @lifecycleHolds_of_writesWhilePending (Fin 2) _ (.repeated 1)
    sampleLifecycleInvitation sampleLifecycleStore saltBcrypt plainSha256 nonceText
    sampleLifecycleOperations sampleLifecycle_isOn sampleLifecycle_unique rfl hPending point run⟩

/-- The invitation is revoked after it has been accepted. -/
theorem accepted_invitation_is_revoked :
    ¬∀ (_ : Bcrypt) (_ : Sha256) (_ : TokenText) (id : ObjectId) (store : IdentityStore)
      (first : Invitation) (operations : Fin 2 → InvitationOperation)
      (point : Point reliableIdentity (Fin 2) Unit),
      (∀ i, (operations i).isOn id) → UniqueHashes store →
      store.invitations.get? id = some first → first.status ≠ .accepted →
      GuardedRun anyStep (operationPool reliableIdentity store operations) point →
      LifecycleHolds anyStep id point := by
  intro hHolds
  obtain ⟨point, run, hTest⟩ := Pool.exists_run anyStep sampleLifecyclePool
    (fun point => (List.finRange 2).all (fun i => (point.2.thread i).settled?.isSome) &&
      (point.1.any createsUser && statusOf point.2.store (.repeated 1) = some .revoked))
    (acceptCalls ++ revokeCalls) (by decide +kernel)
  simp only [Bool.and_eq_true, decide_eq_true_eq] at hTest
  obtain ⟨hSettled, hCreates, hStatus⟩ := hTest
  have hRest : AtRest point := fun i => .inl (List.all_eq_true.mp hSettled i (List.mem_finRange i))
  have hPending : sampleLifecycleInvitation.status ≠ .accepted := by decide
  have hAccepted := ((hHolds saltBcrypt plainSha256 nonceText (.repeated 1) sampleLifecycleStore
    sampleLifecycleInvitation sampleLifecycleOperations point sampleLifecycle_isOn
    sampleLifecycle_unique rfl hPending run).outcome hRest).mpr hCreates
  rw [hStatus] at hAccepted
  cases hAccepted

end Samples

end Navin.Invitations
