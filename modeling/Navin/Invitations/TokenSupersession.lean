import Navin.Invitations.Operations

/-! Is only the newest token of an invitation accepted? The stored hash is replaced
whenever a token is sent, but nothing that takes a token compares the two. -/
namespace Navin.Invitations

open Async

/-- How far an operation has come: a sender has signed a token; a reader of a token
has found the invitation, then read the clock. -/
inductive TokenStage where
  | idle
  | signed (token : Token)
  | presenting (token : Token)
  | found (token : Token) (invitation : Invitation)
  | timed (token : Token) (invitation : Invitation) (now : Nat)

/-- The token whose reader is in the stage. -/
def TokenStage.presents : TokenStage → Option Token
  | .presenting token | .found token _ | .timed token _ _ => some token
  | _ => none

def InvitationOperation.tokenStage (operation : InvitationOperation) : TokenStage :=
  operation.presents.elim .idle .presenting

section Protocol

variable [Sha256] [TokenText]

/-- A hash is stored only of the token signed last, and a presented token looks its
invitation up once. -/
def sendsTokens : Protocol IdentityCall IdentityCall.Answer ThrownError TokenStage where
  allows stage call :=
    match stage, call with
    | .signed token, .invitationUpdateByTokenHash _ update =>
        update.tokenHash.all (· = hashToken token) = true
    | _, .invitationUpdateByTokenHash _ update => update.tokenHash = none
    | .found _ _, .invitationFindById _ | .timed _ _ _, .invitationFindById _ => False
    | _, _ => True
  next stage call response :=
    match stage, call, response with
    | .idle, .signToken _ _, .ok token | .signed _, .signToken _ _, .ok token => .signed token
    | .presenting token, .invitationFindById _, .ok (some invitation) => .found token invitation
    | .found token invitation, .now, .ok now => .timed token invitation now
    | stage, _, _ => stage

end Protocol

/-- A presented token is accepted once its invitation has been found pending and
in time. -/
def AcceptsTimed {α : Type} (presented : Option Token) (stage : TokenStage)
    (outcome : Except ThrownError α) : Prop :=
  ∀ result token, outcome = .ok result → presented = some token →
    ∃ invitation now, stage = .timed token invitation now ∧ invitation.status = .pending ∧
      ¬1000 * now > invitation.expiresAt.ms

theorem acceptsTimed_error {α : Type} (presented : Option Token) (stage : TokenStage)
    (error : ThrownError) : AcceptsTimed (α := α) presented stage (.error error) := by
  intro result token hOk
  cases hOk

theorem acceptsTimed_none {α : Type} (stage : TokenStage) (outcome : Except ThrownError α) :
    AcceptsTimed none stage outcome := by
  intro result token _ hSame
  cases hSame

section Operations

variable [Sha256] [TokenText] {α : Type}

/-- The calls that no stage is about. -/
def quiet : IdentityCall → Bool
  | .now | .signToken _ _ | .invitationFindById _ | .invitationUpdateByTokenHash _ _ => false
  | _ => true

theorem ignores_of_quiet {call : IdentityCall} (h : quiet call = true) :
    sendsTokens.Ignores call := by
  intro stage
  constructor
  · cases call <;> cases stage <;> trivial
  · intro response
    cases call <;> first | (cases stage <;> rfl) | cases h

theorem verifyInvitationToken_ignored (token : Token) :
    (verifyInvitationToken token).Uses sendsTokens.Ignores := by
  have hVerify : sendsTokens.Ignores (.verifyToken token false) := ignores_of_quiet rfl
  refine .bind (.tryCatch (.bind (.await hVerify) fun _ => .pure) fun _ => .throw) fun payload => ?_
  split
  · exact .throw
  · exact .pure

theorem sendInvitation_ignored (email subject : String) (token : Token) (inviterId : String) :
    (sendInvitation email subject token inviterId).Uses sendsTokens.Ignores :=
  .bind (.await (ignores_of_quiet rfl)) fun _ =>
    .tryCatch (.await (ignores_of_quiet rfl)) fun _ => .pure

/-- An invitation is returned only where it was found pending and in time. -/
def ReturnsTimed (token : Token) (stage : TokenStage) (outcome : Except ThrownError Invitation) :
    Prop :=
  ∀ invitation, outcome = .ok invitation → ∃ now, stage = .timed token invitation now ∧
    invitation.status = .pending ∧ ¬1000 * now > invitation.expiresAt.ms

omit [Sha256] [TokenText] in
theorem returnsTimed_error (stage : TokenStage) (error : ThrownError) :
    ReturnsTimed token stage (.error error) := by
  intro invitation hOk
  cases hOk

theorem pendingInvitation_timed (token payload : Token) :
    (pendingInvitation payload).Follows sendsTokens (ReturnsTimed token) (.presenting token) := by
  unfold pendingInvitation findPayloadInvitation
  split
  · exact returnsTimed_error _ _
  · refine .await_bind trivial (returnsTimed_error _) fun found => ?_
    cases found with
    | none => exact returnsTimed_error _ _
    | some invitation =>
        dsimp only
        split
        · exact returnsTimed_error _ _
        · rename_i hStatus
          refine Program.follows_bind.mpr (.await_bind trivial (returnsTimed_error _) fun now => ?_)
          rw [Program.follows_pure, Program.then_ok]
          split
          · exact .await_bind rfl (returnsTimed_error _) fun _ => returnsTimed_error _ _
          · rename_i hTime
            intro other hOther
            obtain rfl := Except.ok.inj hOther
            exact ⟨now, rfl, not_not.mp hStatus, hTime⟩

theorem getInvitationInfo_accepts (token : Token) :
    (getInvitationInfo token).Follows sendsTokens (AcceptsTimed (some token))
      (.presenting token) := by
  refine (verifyInvitationToken_ignored token).skip (acceptsTimed_error _ _) fun payload => ?_
  refine (pendingInvitation_timed token payload).bind (fun stage invitation hFound => ?_)
    fun stage error _ => acceptsTimed_error _ _ _
  obtain ⟨now, rfl, hPending, hTime⟩ := hFound invitation rfl
  refine Program.Follows.skip (ignores_of_quiet rfl) (acceptsTimed_error _ _) fun org => ?_
  rintro result other - hSame
  obtain rfl := Option.some.inj hSame
  exact ⟨invitation, now, rfl, hPending, hTime⟩

theorem acceptInvitation_accepts [Bcrypt] (input : AcceptInput) :
    (acceptInvitationWithPassword input).Follows sendsTokens (AcceptsTimed (some input.token))
      (.presenting input.token) := by
  refine (verifyInvitationToken_ignored _).skip (acceptsTimed_error _ _) fun payload => ?_
  refine (pendingInvitation_timed input.token payload).bind
    (fun stage invitation hFound => ?_) fun stage error _ => acceptsTimed_error _ _ _
  obtain ⟨now, rfl, hPending, hTime⟩ := hFound invitation rfl
  refine Program.Follows.skip (ignores_of_quiet rfl) (acceptsTimed_error _ _) fun existing => ?_
  cases existing with
  | some user => exact acceptsTimed_error _ _ _
  | none =>
      refine Program.follows_bind.mpr
        (Program.Follows.skip (ignores_of_quiet rfl) (acceptsTimed_error _ _) fun salt => ?_)
      refine Program.Follows.skip (ignores_of_quiet rfl) (acceptsTimed_error _ _) fun user => ?_
      refine .await_bind rfl (acceptsTimed_error _ _) fun updated => ?_
      rintro result other - hSame
      obtain rfl := Option.some.inj hSame
      exact ⟨invitation, now, rfl, hPending, hTime⟩

/-- A signed token is all that a sender needs to store its hash. -/
theorem send_accepts {token : Token} {replaced : String} {update : InvitationUpdate}
    (hHash : update.tokenHash = some (hashToken token)) {rest : IdentityM α}
    (hRest : rest.Uses sendsTokens.Ignores) :
    (do let _ ← ask (.invitationUpdateByTokenHash replaced update); rest : IdentityM α).Follows
      sendsTokens (AcceptsTimed none) (.signed token) := by
  have hAllows : sendsTokens.allows (.signed token) (.invitationUpdateByTokenHash replaced update) := by
    show update.tokenHash.all _ = true
    rw [hHash, Option.all_some, decide_eq_true rfl]
  refine .await_bind hAllows (fun error => acceptsTimed_none _ _) fun updated => ?_
  exact (hRest.follows fun call hIgnored => hIgnored _).mono fun stage outcome _ =>
    acceptsTimed_none _ _

/-- Signing a token in a sender's stage. -/
theorem sign_bind {payload : InviteTokenPayload} {stage : TokenStage}
    {rest : Token → IdentityM α} (hStage : stage = .idle ∨ ∃ token, stage = .signed token)
    (hRest : ∀ token, (rest token).Follows sendsTokens (AcceptsTimed none) (.signed token)) :
    (generateInvitationToken payload >>= rest).Follows sendsTokens (AcceptsTimed none) stage := by
  obtain rfl | ⟨token, rfl⟩ := hStage <;>
    exact .await_bind trivial (fun error => acceptsTimed_none _ _) hRest

theorem newExpiry_bind {token : Token} {rest : Date → IdentityM α}
    (hRest : ∀ expiresAt, (rest expiresAt).Follows sendsTokens (AcceptsTimed none)
      (.signed token)) :
    (newExpiry >>= rest).Follows sendsTokens (AcceptsTimed none) (.signed token) := by
  refine Program.follows_bind.mpr (.await_bind trivial (fun error => acceptsTimed_none _ _) ?_)
  exact fun now => hRest _

theorem ownInvitation_bind {invitationId organizationId : String}
    {rest : Invitation → IdentityM α}
    (hRest : ∀ invitation, (rest invitation).Follows sendsTokens (AcceptsTimed none) .idle) :
    (ownInvitation invitationId organizationId >>= rest).Follows sendsTokens (AcceptsTimed none)
      .idle := by
  refine Program.follows_bind.mpr (.await_bind trivial (fun error => acceptsTimed_none _ _) ?_)
  intro found
  cases found with
  | none => exact acceptsTimed_none _ _
  | some invitation =>
      dsimp only
      split
      · exact acceptsTimed_none _ _
      · exact hRest invitation

theorem revokeInvitation_accepts (invitationId organizationId : String) :
    (revokeInvitationById invitationId organizationId).Follows sendsTokens (AcceptsTimed none)
      .idle := by
  refine ownInvitation_bind fun invitation => ?_
  exact Program.follows_await.mpr ⟨trivial, fun response => acceptsTimed_none _ _⟩

theorem resendInvitation_accepts (invitationId organizationId : String) :
    (resendInvitation invitationId organizationId).Follows sendsTokens (AcceptsTimed none)
      .idle := by
  refine ownInvitation_bind fun invitation => ?_
  split
  · exact acceptsTimed_none _ _
  · refine Program.Follows.skip (ignores_of_quiet rfl) (fun error => acceptsTimed_none _ _) fun nonce => ?_
    refine sign_bind (.inl rfl) fun token => newExpiry_bind fun expiresAt => ?_
    exact send_accepts rfl (.bind (sendInvitation_ignored _ _ _ _) fun _ => .pure)

theorem createInvitation_accepts (input : CreateInput) :
    (createAndSendInvitation input).Follows sendsTokens (AcceptsTimed none) .idle := by
  unfold createAndSendInvitation
  have hNone (stage : TokenStage) (error : ThrownError) :
      AcceptsTimed (α := SentInvitation) none stage (.error error) := acceptsTimed_none _ _
  split
  · exact hNone _ _
  · split
    · exact hNone _ _
    · refine Program.Follows.skip (ignores_of_quiet rfl) (hNone _) fun existing => ?_
      cases existing with
      | some user => exact hNone _ _
      | none =>
          refine Program.Follows.skip (ignores_of_quiet rfl) (hNone _) fun pending => ?_
          cases pending with
          | some invitation => exact hNone _ _
          | none =>
              refine Program.Follows.skip (ignores_of_quiet rfl) (hNone _) fun firstNonce => ?_
              refine sign_bind (.inl rfl) fun first => newExpiry_bind fun expiresAt => ?_
              refine Program.Follows.skip (ignores_of_quiet rfl) (hNone _) fun invitation => ?_
              refine Program.Follows.skip (ignores_of_quiet rfl) (hNone _) fun nonce => ?_
              refine sign_bind (.inr ⟨_, rfl⟩) fun token => ?_
              exact send_accepts rfl (.bind (sendInvitation_ignored _ _ _ _) fun _ => .pure)

/-- Every operation keeps to the order, and accepts a token as it says. -/
theorem perform_accepts [Bcrypt] (operation : InvitationOperation) :
    operation.perform.Follows sendsTokens (AcceptsTimed operation.presents)
      operation.tokenStage := by
  have hUnit {β : Type} {p : IdentityM β} {presented : Option Token} {stage : TokenStage}
      (h : p.Follows sendsTokens (AcceptsTimed presented) stage) :
      (do let _ ← p : IdentityM Unit).Follows sendsTokens (AcceptsTimed presented) stage :=
    h.bind (fun after result hResult => fun _ token _ hSame => hResult result token rfl hSame)
      fun after error _ => acceptsTimed_error _ _ _
  cases operation with
  | create input => exact hUnit (createInvitation_accepts input)
  | resend invitationId organizationId => exact hUnit (resendInvitation_accepts _ _)
  | revoke invitationId organizationId => exact hUnit (revokeInvitation_accepts _ _)
  | info token => exact hUnit (getInvitationInfo_accepts token)
  | accept input => exact hUnit (acceptInvitation_accepts input)

end Operations

section Statements

variable [Sha256] [TokenText] {ι : Type}

def signedBy [DecidableEq ι] (i : ι) (event : IdentityEvent ι) : Option Token :=
  match event with
  | ⟨j, .signToken _ _, .ok token⟩ => if j = i then some token else none
  | _ => none

/-- The token that an operation has signed last. -/
def lastSigned [DecidableEq ι] (i : ι) (history : List (IdentityEvent ι)) : Option Token :=
  history.findSome? (signedBy i)

/-- The token of the invitation whose hash was stored last. When it is unknown
whether the hash has been replaced, there is none. -/
def newestToken [DecidableEq ι] (id : ObjectId) : List (IdentityEvent ι) → Option Token
  | [] => none
  | event :: earlier =>
      match event with
      | ⟨i, .invitationUpdateByTokenHash replaced update, response⟩ =>
          if update.tokenHash = none then newestToken id earlier
          else
            match response with
            | .ok none => newestToken id earlier
            | .ok (some updated) =>
                if updated.id = id then lastSigned i earlier else newestToken id earlier
            | .error _ => (newestToken id earlier).filter fun token => hashToken token ≠ replaced
      | _ => newestToken id earlier

/-- Every accepted token is the one whose hash the invitation had when it was
looked up. -/
def AcceptsStoredOnly (operations : ι → InvitationOperation) (history : List (IdentityEvent ι))
    (pool : Pool identity ι Unit) : Prop :=
  ∀ i token, (operations i).presents = some token → (pool.thread i).succeeded = true →
    ∃ text invitation, ⟨i, .invitationFindById text, .ok (some invitation)⟩ ∈ history ∧
      invitation.tokenHash = hashToken token

variable [DecidableEq ι]

/-- Nobody presents a token that is not the newest of its invitation, while the
invitation can still be accepted. -/
def presentsNewest (operations : ι → InvitationOperation) : Guard identity ι :=
  fun history store i call =>
    match call, (operations i).presents with
    | .invitationFindById text, some token =>
        (ObjectId.cast? text).all (fun id => newestToken id history = some token ||
          (store.liveInvitation id).all fun invitation =>
            invitation.status ≠ .pending || invitation.expiresAt.ms < 1000 * (store.clock : Int)) = true
    | _, _ => True

instance (operations : ι → InvitationOperation) (history : List (IdentityEvent ι))
    (store : IdentityStore) (i : ι) (call : IdentityCall) :
    Decidable (presentsNewest operations history store i call) := by
  unfold presentsNewest
  split <;> infer_instance

end Statements

section Runs

variable [Sha256] [TokenText] {ι : Type} [DecidableEq ι] {operations : ι → InvitationOperation}
  {history : List (IdentityEvent ι)} {store : IdentityStore} {i : ι} {call : IdentityCall}
  {stage : TokenStage} {response : Except ThrownError call.Answer} {token : Token}
  {invitation : Invitation} {now : Nat}

abbrev tokenStageAfter (operations : ι → InvitationOperation) (history : List (IdentityEvent ι)) :
    ι → TokenStage :=
  sendsTokens.after (fun i => (operations i).tokenStage) history

omit [DecidableEq ι] in
theorem found_of_next (h : sendsTokens.next stage call response = .found token invitation) :
    stage = .found token invitation ∨ stage = .presenting token ∧ ∃ text,
      (⟨i, call, response⟩ : IdentityEvent ι) =
        ⟨i, .invitationFindById text, .ok (some invitation)⟩ := by
  simp only [sendsTokens] at h
  split at h
  case h_3 =>
    obtain ⟨rfl, rfl⟩ := TokenStage.found.inj h
    exact .inr ⟨rfl, _, rfl⟩
  case h_5 => exact .inl h
  all_goals cases h

omit [DecidableEq ι] in
theorem timed_of_next (h : sendsTokens.next stage call response = .timed token invitation now) :
    stage = .timed token invitation now ∨ stage = .found token invitation ∧
      (⟨i, call, response⟩ : IdentityEvent ι) = ⟨i, .now, .ok now⟩ := by
  simp only [sendsTokens] at h
  split at h
  case h_4 =>
    obtain ⟨rfl, rfl, rfl⟩ := TokenStage.timed.inj h
    exact .inr ⟨rfl, rfl⟩
  case h_5 => exact .inl h
  all_goals cases h

theorem signed_of_next (h : sendsTokens.next stage call response = .signed token) :
    signedBy i ⟨i, call, response⟩ = some token ∨
      signedBy i ⟨i, call, response⟩ = none ∧ stage = .signed token := by
  cases call with
  | signToken claims expiresIn =>
      cases response with
      | error error => exact .inr ⟨rfl, by cases stage <;> exact h⟩
      | ok other =>
          refine .inl ?_
          rw [signedBy, if_pos rfl]
          cases stage <;> first | exact congrArg some (TokenStage.signed.inj h) | cases h
  | invitationFindById text =>
      refine .inr ⟨rfl, ?_⟩
      rcases response with error | _ | found <;> cases stage <;> first | exact h | cases h
  | now =>
      refine .inr ⟨rfl, ?_⟩
      cases response <;> cases stage <;> first | exact h | cases h
  | _ => exact .inr ⟨rfl, by cases stage <;> exact h⟩

omit [Sha256] [TokenText] in
theorem signedBy_of_ne {event : IdentityEvent ι} (h : i ≠ event.thread) :
    signedBy i event = none := by
  unfold signedBy
  split
  · rw [if_neg (Ne.symm h)]
  · rfl

/-- A sender's stage holds the token it has signed last. -/
theorem lastSigned_of_signed (h : tokenStageAfter operations history i = .signed token) :
    lastSigned i history = some token := by
  induction history with
  | nil =>
      exfalso
      have hStart : (operations i).tokenStage = .signed token := h
      unfold InvitationOperation.tokenStage at hStart
      cases hPresents : (operations i).presents <;> rw [hPresents] at hStart <;> cases hStart
  | cons event earlier ih =>
      rw [lastSigned, List.findSome?_cons]
      by_cases hi : i = event.thread
      · subst hi
        rw [tokenStageAfter, sendsTokens.after_cons_self] at h
        rcases signed_of_next (i := event.thread) h with hNow | ⟨hNot, hOld⟩
        · rw [hNow]
        · rw [hNot]
          exact ih hOld
      · rw [tokenStageAfter, sendsTokens.after_cons_of_ne _ _ hi] at h
        rw [signedBy_of_ne hi]
        exact ih h

omit [DecidableEq ι] in
theorem presents_next (stage : TokenStage) (response : Except ThrownError call.Answer) :
    (sendsTokens.next stage call response).presents = stage.presents := by
  simp only [sendsTokens]
  split <;> rfl

theorem tokenStageAfter_presents (operations : ι → InvitationOperation)
    (history : List (IdentityEvent ι)) (i : ι) :
    (tokenStageAfter operations history i).presents = (operations i).presents := by
  induction history with
  | nil =>
      show (operations i).tokenStage.presents = _
      unfold InvitationOperation.tokenStage
      cases (operations i).presents <;> rfl
  | cons event earlier ih =>
      by_cases hi : i = event.thread
      · subst hi
        rw [tokenStageAfter, sendsTokens.after_cons_self, presents_next]
        exact ih
      · rwa [tokenStageAfter, sendsTokens.after_cons_of_ne _ _ hi]

/-- The hash fits the token, or at `seconds` the invitation can no longer be accepted. -/
def Fits (token : Token) (invitation : Invitation) (seconds : Nat) : Prop :=
  invitation.tokenHash = hashToken token ∨ invitation.status ≠ .pending ∨
    invitation.expiresAt.ms < 1000 * (seconds : Int)

theorem Fits.mono {seconds later : Nat} (h : Fits token invitation seconds)
    (hLater : seconds ≤ later) : Fits token invitation later := by
  refine h.imp_right (Or.imp_right fun hExpired => ?_)
  omega

/-- The newest token is the one whose hash is stored, and what readers have found
fits the tokens they present. -/
structure Supersession (operations : ι → InvitationOperation) (history : List (IdentityEvent ι))
    (store : IdentityStore) : Prop where
  newest : ∀ id token, newestToken id history = some token →
    ∃ invitation, store.invitations.get? id = some invitation ∧
      invitation.tokenHash = hashToken token
  found : ∀ i token invitation, tokenStageAfter operations history i = .found token invitation →
    Fits token invitation store.clock ∧
      ∃ text, ⟨i, .invitationFindById text, .ok (some invitation)⟩ ∈ history
  timed : ∀ i token invitation now,
    tokenStageAfter operations history i = .timed token invitation now →
      Fits token invitation now ∧
        ∃ text, ⟨i, .invitationFindById text, .ok (some invitation)⟩ ∈ history

omit [Sha256] [TokenText] in
theorem tokenStage_ne_found (token : Token) (invitation : Invitation) (now : Nat)
    (operation : InvitationOperation) :
    operation.tokenStage ≠ .found token invitation ∧
      operation.tokenStage ≠ .timed token invitation now := by
  unfold InvitationOperation.tokenStage
  cases operation.presents <;> exact ⟨nofun, nofun⟩

theorem Supersession.initial : Supersession operations [] store where
  newest id token hNewest := by cases hNewest
  found i token invitation hStage := absurd hStage (tokenStage_ne_found token invitation 0 _).1
  timed i token invitation now hStage := absurd hStage (tokenStage_ne_found token invitation now _).2

omit [DecidableEq ι] in
/-- A hash is stored only of the token that was signed last. -/
theorem signed_of_allows {replaced : String} {update : InvitationUpdate}
    (hAllows : sendsTokens.allows stage (.invitationUpdateByTokenHash replaced update))
    (hHash : update.tokenHash ≠ none) :
    ∃ token, stage = .signed token ∧ update.tokenHash = some (hashToken token) := by
  cases stage with
  | signed token =>
      obtain ⟨hash, hSome⟩ := Option.ne_none_iff_exists'.mp hHash
      have hAll : update.tokenHash.all (· = hashToken token) = true := hAllows
      rw [hSome, Option.all_some, decide_eq_true_eq] at hAll
      exact ⟨token, rfl, by rw [hSome, hAll]⟩
  | _ => exact absurd hAllows hHash

/-- A stored hash is that of the newest token after every allowed step. -/
theorem Supersession.newest_step (h : Supersession operations history store)
    (decision : IdentityDecision)
    (hAllows : sendsTokens.allows (tokenStageAfter operations history i) call) (id : ObjectId)
    (token : Token) (hNewest : newestToken id
      (⟨i, call, (performIdentity decision store call).2⟩ :: history) = some token) :
    ∃ invitation, (performIdentity decision store call).1.invitations.get? id = some invitation ∧
      invitation.tokenHash = hashToken token := by
  -- An update that stores no hash leaves the newest token as it was.
  have hKept (hOld : newestToken id history = some token)
      (hHash : ∀ invitation update, updates invitation update call →
        invitation.tokenHash = hashToken token → update.tokenHash = none) :
      ∃ invitation, (performIdentity decision store call).1.invitations.get? id = some invitation ∧
        invitation.tokenHash = hashToken token := by
    obtain ⟨invitation, hStored, hSame⟩ := h.newest id token hOld
    rcases performIdentity_invitation decision call hStored with
      hAfter | ⟨update, hUpdates, hAfter⟩
    · exact ⟨invitation, hAfter, hSame⟩
    · refine ⟨update.apply invitation, hAfter, ?_⟩
      rw [InvitationUpdate.apply, hHash invitation update hUpdates hSame]
      exact hSame
  cases call with
  | invitationUpdateByTokenHash replaced update =>
      simp only [newestToken] at hNewest
      split at hNewest
      · rename_i hNone
        refine hKept hNewest fun invitation sent hUpdates _ => ?_
        rw [← hUpdates.2.2]
        exact hNone
      · rename_i hHash
        cases hAnswer : (performIdentity decision store
          (.invitationUpdateByTokenHash replaced update)).2 with
        | error error =>
            rw [hAnswer] at hNewest
            obtain ⟨hOld, hOther⟩ := Option.filter_eq_some_iff.mp hNewest
            refine hKept hOld fun invitation sent hUpdates hSame => ?_
            exact absurd (hSame.symm.trans hUpdates.1) (of_decide_eq_true hOther)
        | ok answer =>
            rw [hAnswer] at hNewest
            cases answer with
            | none =>
                rw [answer_invitationUpdate_none hAnswer]
                exact h.newest id token hNewest
            | some updated =>
                obtain ⟨old, hOld, rfl, -, -, hStore⟩ := answer_invitationUpdate hAnswer
                rw [hStore]
                dsimp only at hNewest
                split at hNewest
                · rename_i hSame
                  obtain ⟨signed, hStage, hSigned⟩ := signed_of_allows hAllows hHash
                  rw [lastSigned_of_signed hStage] at hNewest
                  obtain rfl := Option.some.inj hNewest
                  refine ⟨update.apply old, ?_, ?_⟩
                  · rw [← hSame, Collection.get?_modify_self, hOld, Option.map_some]
                  · rw [InvitationUpdate.apply, hSigned, Option.getD_some]
                · rename_i hOther
                  rw [Collection.get?_modify_of_ne _ update.apply_id (Ne.symm hOther)]
                  exact h.newest id token hNewest
  | invitationRevoke text =>
      refine hKept hNewest fun invitation update hUpdates _ => ?_
      rw [hUpdates.2.2]
  | _ => exact hKept hNewest fun invitation update hUpdates => hUpdates.elim

/-- What a lookup finds fits the token presented with it. -/
theorem Supersession.fits_of_lookup (h : Supersession operations history store) {text : String}
    {decision : IdentityDecision}
    (hPresenting : tokenStageAfter operations history i = .presenting token)
    (hGuard : presentsNewest operations history store i (.invitationFindById text))
    (hAnswer : (performIdentity decision store (.invitationFindById text)).2 =
      .ok (some invitation)) : Fits token invitation store.clock := by
  obtain ⟨id, hCast, hFound⟩ := answer_invitationFindById hAnswer
  have hPresents : (operations i).presents = some token := by
    rw [← tokenStageAfter_presents operations history i, hPresenting, TokenStage.presents]
  simp only [presentsNewest, hPresents, hCast, Option.all_some, ← hFound, Bool.or_eq_true,
    decide_eq_true_eq] at hGuard
  rcases hGuard with hNewest | hOver
  · obtain ⟨stored, hStored, hHash⟩ := h.newest id token hNewest
    obtain ⟨hGet, -⟩ := Option.filter_eq_some_iff.mp hFound.symm
    obtain rfl := Option.some.inj (hStored.symm.trans hGet)
    exact .inl hHash
  · exact .inr hOver

/-- Every allowed step in which only newest tokens are presented keeps it so. -/
theorem Supersession.step (h : Supersession operations history store)
    (decision : IdentityDecision)
    (hAllows : sendsTokens.allows (tokenStageAfter operations history i) call)
    (hGuard : presentsNewest operations history store i call) :
    Supersession operations (⟨i, call, (performIdentity decision store call).2⟩ :: history)
      (performIdentity decision store call).1 := by
  have hClock : store.clock ≤ (performIdentity decision store call).1.clock :=
    clock_le_performIdentity
  have hOwn : tokenStageAfter operations
      (⟨i, call, (performIdentity decision store call).2⟩ :: history) i =
        sendsTokens.next (tokenStageAfter operations history i) call
          (performIdentity decision store call).2 := Protocol.after_cons_self _ _ _ _
  have hOther (j : ι) (hj : j ≠ i) : tokenStageAfter operations
      (⟨i, call, (performIdentity decision store call).2⟩ :: history) j =
        tokenStageAfter operations history j := Protocol.after_cons_of_ne _ _ _ hj
  refine ⟨h.newest_step decision hAllows, fun j token invitation hStage => ?_,
    fun j token invitation now hStage => ?_⟩
  · by_cases hj : j = i
    · subst hj
      rw [hOwn] at hStage
      rcases found_of_next (i := j) hStage with hOld | ⟨hPresenting, text, hEvent⟩
      · obtain ⟨hFits, text, hLookup⟩ := h.found j token invitation hOld
        exact ⟨hFits.mono hClock, text, List.mem_cons_of_mem _ hLookup⟩
      · refine ⟨?_, text, List.mem_cons.mpr (.inl hEvent.symm)⟩
        obtain ⟨-, rfl, hResponse⟩ := Event.mk.inj hEvent
        exact (h.fits_of_lookup hPresenting hGuard (eq_of_heq hResponse)).mono hClock
    · rw [hOther j hj] at hStage
      obtain ⟨hFits, text, hLookup⟩ := h.found j token invitation hStage
      exact ⟨hFits.mono hClock, text, List.mem_cons_of_mem _ hLookup⟩
  · by_cases hj : j = i
    · subst hj
      rw [hOwn] at hStage
      rcases timed_of_next (i := j) hStage with hOld | ⟨hFound, hEvent⟩
      · obtain ⟨hFits, text, hLookup⟩ := h.timed j token invitation now hOld
        exact ⟨hFits, text, List.mem_cons_of_mem _ hLookup⟩
      · obtain ⟨hFits, text, hLookup⟩ := h.found j token invitation hFound
        obtain ⟨-, rfl, hResponse⟩ := Event.mk.inj hEvent
        obtain rfl : store.clock = now := Except.ok.inj (eq_of_heq hResponse)
        exact ⟨hFits, text, List.mem_cons_of_mem _ hLookup⟩
    · rw [hOther j hj] at hStage
      obtain ⟨hFits, text, hLookup⟩ := h.timed j token invitation now hStage
      exact ⟨hFits, text, List.mem_cons_of_mem _ hLookup⟩

/-- A token is accepted only under the stored hash, in every run in which no other
token of an invitation is presented than the newest. -/
theorem acceptsStoredOnly_of_presentsNewest [Bcrypt] {point : Point identity ι Unit}
    (run : GuardedRun (presentsNewest operations) (operationPool identity store operations) point) :
    AcceptsStoredOnly operations point.1 point.2 := by
  have hInv : Supersession operations point.1 point.2.store :=
    GuardedRun.invariant sendsTokens (fun i => (operations i).tokenStage) run
      (fun i => perform_accepts (operations i)) (Supersession operations) .initial
      fun _ _ _ _ _ h hAllows hGuard => h.step _ hAllows hGuard
  intro i token hPresents hDone
  obtain ⟨result, hResult⟩ := Program.succeeded_iff.mp hDone
  have hFollows := GuardedRun.follows sendsTokens (fun i => (operations i).tokenStage) run
    (fun i => perform_accepts (operations i)) i
  rw [hResult] at hFollows
  obtain ⟨invitation, now, hStage, hPending, hTime⟩ := hFollows result token rfl hPresents
  obtain ⟨hFits, text, hLookup⟩ := hInv.timed i token invitation now hStage
  refine ⟨text, invitation, hLookup, ?_⟩
  rcases hFits with hHash | hStatus | hExpired
  · exact hHash
  · exact absurd hPending hStatus
  · exact absurd hExpired hTime

end Runs

section Samples

def sampleInput : CreateInput where
  email := "driver@navin.test"
  role := .driver
  message := none
  inviterId := (ObjectId.repeated 1).toString
  inviterRole := some .admin
  organizationId := (ObjectId.repeated 2).toString

/-- The token that the sample invitation is first sent with. -/
def sampleInvitationToken : Token :=
  ⟨invitationClaims ⟨(ObjectId.repeated 0).toString, "driver@navin.test", .driver,
    (ObjectId.repeated 2).toString, "00000000-0000-4000-8000-000000000002"⟩, 0,
    inviteExpirySeconds⟩

/-- An invitation is created and sent again, and somebody asks about its first token. -/
def sampleOperations : Fin 3 → InvitationOperation
  | 0 => .create sampleInput
  | 1 => .resend (ObjectId.repeated 0).toString (ObjectId.repeated 2).toString
  | 2 => .info sampleInvitationToken

abbrev sampleInvitationPool : Pool identity (Fin 3) Unit :=
  @operationPool saltBcrypt plainSha256 nonceText (Fin 3) identity {} sampleOperations

def createCalls : List (IdentityDecision × Fin 3) :=
  List.replicate 3 ({ uuid := "00000000-0000-4000-8000-000000000001" }, 0) ++
    List.replicate 8 ({ uuid := "00000000-0000-4000-8000-000000000002" }, 0)

def resendCalls : List (IdentityDecision × Fin 3) :=
  List.replicate 7 ({ uuid := "00000000-0000-4000-8000-000000000003" }, 1)

def infoCalls : List (IdentityDecision × Fin 3) :=
  List.replicate 4 ({}, 2)

/-- Before it is sent again, the first token is accepted. -/
theorem acceptsStoredOnly_of_presentsNewest_sample :
    ∃ point : Point identity (Fin 3) Unit,
      GuardedRun (@presentsNewest plainSha256 nonceText (Fin 3) _ sampleOperations)
        sampleInvitationPool point ∧
      (point.2.thread 2).succeeded = true ∧ (point.2.thread 1).succeeded = true ∧
      @AcceptsStoredOnly plainSha256 nonceText (Fin 3) sampleOperations point.1 point.2 := by
  obtain ⟨point, run, hTest⟩ := Pool.exists_run
    (@presentsNewest plainSha256 nonceText (Fin 3) _ sampleOperations) sampleInvitationPool
    (fun point => (point.2.thread 2).succeeded && (point.2.thread 1).succeeded)
    (createCalls ++ infoCalls ++ resendCalls) (by decide +kernel)
  rw [Bool.and_eq_true] at hTest
  exact ⟨point, run, hTest.1, hTest.2,
    @acceptsStoredOnly_of_presentsNewest plainSha256 nonceText _ _ _ _ saltBcrypt point run⟩

/-- The third operation finds no invitation by the first token. -/
def findsOther (event : IdentityEvent (Fin 3)) : Bool :=
  match event with
  | ⟨i, .invitationFindById _, .ok (some invitation)⟩ =>
      i ≠ 2 || invitation.tokenHash ≠ @hashToken plainSha256 nonceText sampleInvitationToken
  | _ => true

/-- After it has been sent again, the first token is still accepted. -/
theorem replaced_token_is_accepted :
    ¬∀ (_ : Bcrypt) (_ : Sha256) (_ : TokenText) (store : IdentityStore)
      (operations : Fin 3 → InvitationOperation) (point : Point identity (Fin 3) Unit),
      GuardedRun anyStep (operationPool identity store operations) point →
      AcceptsStoredOnly operations point.1 point.2 := by
  intro hStored
  obtain ⟨point, run, hTest⟩ := Pool.exists_run anyStep sampleInvitationPool
    (fun point => (point.2.thread 2).succeeded && point.1.all findsOther)
    (createCalls ++ resendCalls ++ infoCalls) (by decide +kernel)
  rw [Bool.and_eq_true, List.all_eq_true] at hTest
  obtain ⟨text, invitation, hLookup, hHash⟩ := hStored saltBcrypt plainSha256 nonceText {}
    sampleOperations point run 2 sampleInvitationToken rfl hTest.1
  have hOther := hTest.2 _ hLookup
  simp only [findsOther, ne_eq, not_true_eq_false, decide_false, Bool.false_or,
    decide_eq_true_eq] at hOther
  exact hOther hHash

end Samples

end Navin.Invitations
