import Navin.Auth.RevokedTokens

/-! What a password reset leaves usable: the reset token, which nobody looks up on
the blocklist it is put on, and the sessions of the user, which stay as they are. -/
namespace Navin

open Async

/-- How far a call of `resetPassword` with a token has come. Other requests are exempt. -/
inductive ResetStage where
  | exempt
  | starting (token : Token)
  | verified (token : Token)
  | saved (token : Token)
  | completed (token : Token)
  | abandoned (token : Token)

namespace ResetStage

def token? : ResetStage → Option Token
  | .exempt => none
  | .starting token | .verified token | .saved token | .completed token | .abandoned token =>
      some token

/-- The token has been verified, and the call has changed the password or still may. -/
def engages (token : Token) : ResetStage → Bool
  | .verified other | .saved other | .completed other => other = token
  | _ => false

/-- The call has saved a password. -/
def spends (token : Token) : ResetStage → Bool
  | .saved other | .completed other => other = token
  | _ => false

end ResetStage

/-- A reset saves at most once, after it has verified its token, and reads the
clock and writes to the blocklist only after that. -/
def resetsPassword : Protocol IdentityCall IdentityCall.Answer ThrownError ResetStage where
  allows stage call :=
    match stage, call with
    | .exempt, _ => True
    | .verified _, .userSave _ _ => True
    | .saved _, .now | .saved _, .redisSet _ _ => True
    | _, .userSave _ _ | _, .now | _, .redisSet _ _ => False
    | _, _ => True
  next stage call response :=
    match stage, call, response with
    | .starting token, .verifyToken _ _, .ok _ => .verified token
    -- A save that is not answered may have taken effect.
    | .verified token, .userSave _ _, _ => .saved token
    | .verified token, .userFindById _, .ok none => .abandoned token
    | .verified token, _, .error _ => .abandoned token
    | .saved token, .now, .ok now => if token.exp ≤ now then .completed token else .saved token
    | .saved token, .redisSet _ _, .ok _ => .completed token
    | stage, _, _ => stage

def IdentityRequest.resetToken? : IdentityRequest → Option Token
  | .publicRoute (.resetPassword token _) => some token
  | _ => none

def IdentityRequest.resetStage (request : IdentityRequest) : ResetStage :=
  request.resetToken?.elim .exempt .starting

theorem resetStage_token? (request : IdentityRequest) :
    request.resetStage.token? = request.resetToken? := by
  unfold IdentityRequest.resetStage
  cases request.resetToken? <;> rfl

section Calls

variable {stage : ResetStage} {token : Token} {call : IdentityCall}

theorem token?_next (response : Except ThrownError call.Answer) :
    (resetsPassword.next stage call response).token? = stage.token? := by
  simp only [resetsPassword]
  split <;> first | rfl | (split <;> rfl)

/-- Programs of other requests are not constrained. -/
theorem exempt_follows {α : Type} (p : IdentityM α) :
    p.Follows resetsPassword (fun stage _ => stage = .exempt) .exempt := by
  induction p with
  | done a => rfl
  | fail e => rfl
  | call request next ih =>
      refine ⟨trivial, fun response => ?_⟩
      have hNext : resetsPassword.next .exempt request response = .exempt := by
        cases request <;> rfl
      rw [hNext]
      exact ih response

/-- A reset with a token of `forgotPassword` returns only once it is complete. -/
def CompletesReset (token : Token) (stage : ResetStage) (outcome : Except ThrownError Unit) : Prop :=
  ∀ result, outcome = .ok result → IssuedBy token .passwordReset → stage = .completed token

theorem completesReset_error (stage : ResetStage) (error : ThrownError) :
    CompletesReset token stage (.error error) := by
  rintro result ⟨⟩

theorem blockToken_completes {jti : String} {ttl : Int} (hTtl : ¬ttl ≤ 0) :
    (blockToken jti ttl).Follows resetsPassword (CompletesReset token) (.saved token) := by
  unfold blockToken
  rw [if_neg hTtl]
  split
  · exact completesReset_error _ _
  · refine Program.follows_await.mpr ⟨trivial, fun response => ?_⟩
    cases response with
    | error error => exact completesReset_error _ error
    | ok answer => exact fun _ _ _ => rfl

theorem blockPayload_completes :
    (blockPayload token resetTokenTtlSeconds).Follows resetsPassword (CompletesReset token)
      (.saved token) := by
  unfold blockPayload
  split
  · rename_i hNone
    rintro result - ⟨user, jti, hDrawn, hClaims, -⟩
    rw [hClaims, resetClaims, truthy_of_isDrawnUuid hDrawn] at hNone
    cases hNone
  · rename_i jti hJti
    unfold remainingTtl
    split
    · have hTtl : ¬(resetTokenTtlSeconds : Int) ≤ 0 := by decide
      exact blockToken_completes hTtl
    · refine Program.follows_bind.mpr (Program.follows_bind.mpr
        (Program.follows_await.mpr ⟨trivial, fun response => ?_⟩))
      cases response with
      | error error => exact completesReset_error _ error
      | ok now =>
          have hNext : resetsPassword.next (.saved token) .now (.ok now) =
              if token.exp ≤ now then .completed token else .saved token := rfl
          rw [Program.then_ok, hNext]
          by_cases hOver : token.exp ≤ now
          · have hTtl : (token.exp : Int) - now ≤ 0 := by omega
            rw [if_pos hOver, Program.follows_pure, Program.then_ok]
            unfold blockToken
            rw [if_pos hTtl]
            exact fun _ _ _ => rfl
          · rw [if_neg hOver]
            exact blockToken_completes (by omega)

theorem resetPassword_completes [Bcrypt] (token : Token) (newPassword : String) :
    (resetPassword token newPassword).Follows resetsPassword (CompletesReset token)
      (.starting token) := by
  refine Program.follows_bind.mpr (Program.follows_tryCatch.mpr ?_)
  refine Program.follows_bind.mpr (Program.follows_await.mpr ⟨trivial, fun response => ?_⟩)
  cases response with
  | error error => exact completesReset_error _ _
  | ok answer =>
      simp only [Program.then_ok, Program.follows_pure, Program.caught_ok]
      split
      · exact completesReset_error _ _
      · unfold findPayloadUser
        split
        · exact completesReset_error _ _
        · refine Program.follows_bind.mpr (Program.follows_await.mpr ⟨trivial, fun found => ?_⟩)
          rcases found with error | _ | user
          · exact completesReset_error _ _
          · exact completesReset_error _ _
          · refine Program.follows_bind.mpr (Program.follows_bind.mpr
              (Program.follows_await.mpr ⟨trivial, fun salt => ?_⟩))
            cases salt with
            | error error => exact completesReset_error _ _
            | ok salt =>
                refine Program.follows_bind.mpr (Program.follows_await.mpr ⟨trivial, fun saved => ?_⟩)
                cases saved with
                | error error => exact completesReset_error _ _
                | ok answer => exact blockPayload_completes

end Calls

variable {ι : Type} {requests : ι → IdentityRequest} {signed : List Token} {token : Token}
  {history : List (IdentityEvent ι)} {event : IdentityEvent ι} {i : ι}

/-- A reset with the token saves the user; when the answer is lost, it may still
have done so. -/
def savesPassword (requests : ι → IdentityRequest) (token : Token) (event : IdentityEvent ι) :
    Bool :=
  match event.request with
  | .userSave _ _ => (requests event.thread).resetToken? = some token
  | _ => false

/-- The step with which a reset of the user's password returns: the reset token is
on the blocklist, or has expired. -/
def completesReset (requests : ι → IdentityRequest) (userId : String) (event : IdentityEvent ι) :
    Bool :=
  (requests event.thread).resetToken?.any fun token =>
    token.claims.userId = some userId &&
      match event with
      | ⟨_, .redisSet _ _, .ok _⟩ => true
      | ⟨_, .now, .ok now⟩ => token.exp ≤ now
      | _ => false

def signs (token : Token) (event : IdentityEvent ι) : Bool :=
  match event with
  | ⟨_, .signToken _ _, .ok signed⟩ => signed = token
  | _ => false

/-- The session was issued before a completed reset of its user's password;
`signed` are the tokens issued before the run. -/
def outdated (requests : ι → IdentityRequest) (signed : List Token) (session : Token) :
    List (IdentityEvent ι) → Bool
  | [] => false
  | event :: earlier =>
      (session.claims.userId.any fun userId => completesReset requests userId event) &&
        (session ∈ signed || earlier.any (signs session)) ||
      outdated requests signed session earlier

/-- Every reset token changes a password at most once. -/
def ResetOnce (requests : ι → IdentityRequest) (history : List (IdentityEvent ι)) : Prop :=
  ∀ token, (history.filter (savesPassword requests token)).length ≤ 1

variable [DecidableEq ι]

/-- No request gets in with a session that was issued before a completed reset. -/
def SessionsEnd (requests : ι → IdentityRequest) (signed : List Token)
    (history : List (IdentityEvent ι)) : Prop :=
  ∀ i session key, (requests i).presents = some session → IssuedBy session .session →
    (requests i).presentedKey = some key →
    ∀ later event earlier, history = later ++ event :: earlier →
      outdated requests signed session earlier = true → accepts (requests i) i key event = false

abbrev resetStageAfter (requests : ι → IdentityRequest) (history : List (IdentityEvent ι)) :
    ι → ResetStage :=
  resetsPassword.after (fun i => (requests i).resetStage) history

/-- Nobody verifies a reset token that another reset has verified and used, or
still may use. -/
def verifiesUnused (requests : ι → IdentityRequest) : Guard identity ι :=
  fun history _ i call =>
    (match call with
      | .verifyToken _ _ => (requests i).resetToken?.all fun token =>
          history.all fun event => event.thread = i ||
            !(resetStageAfter requests history event.thread).engages token
      | _ => true) = true

/-- A session that has become outdated is on the blocklist when it is looked up,
and no refresh that looked it up before goes on. -/
def outdatedAreBlocked (requests : ι → IdentityRequest) (signed : List Token) :
    Guard identity ι :=
  fun history store i call =>
    ((requests i).presents.all fun session => (requests i).presentedKey.all fun key =>
      !outdated requests signed session history ||
        match call with
        | .redisGet read => read ≠ key || store.holds key
        | .userFindById _ => !(requests i).refreshes || outdated requests signed session
            (history.dropWhile fun event => !passesLookup i key event)
        | _ => true) = true

instance (requests : ι → IdentityRequest) (history : List (IdentityEvent ι))
    (store : IdentityStore) (i : ι) (call : IdentityCall) :
    Decidable (verifiesUnused requests history store i call) :=
  inferInstanceAs (Decidable (_ = true))

instance (requests : ι → IdentityRequest) (signed : List Token)
    (history : List (IdentityEvent ι)) (store : IdentityStore) (i : ι) (call : IdentityCall) :
    Decidable (outdatedAreBlocked requests signed history store i call) :=
  inferInstanceAs (Decidable (_ = true))

/-- Both conditions at once. -/
def resetsAreSafe (requests : ι → IdentityRequest) (signed : List Token) : Guard identity ι :=
  fun history store i call => verifiesUnused requests history store i call ∧
    outdatedAreBlocked requests signed history store i call

instance (requests : ι → IdentityRequest) (signed : List Token)
    (history : List (IdentityEvent ι)) (store : IdentityStore) (i : ι) (call : IdentityCall) :
    Decidable (resetsAreSafe requests signed history store i call) :=
  inferInstanceAs (Decidable (_ ∧ _))

variable {store : IdentityStore} {call : IdentityCall} {decision : IdentityDecision}
  {stage : ResetStage}

omit [DecidableEq ι] in
/-- A reset becomes engaged by verifying its token, and stays so until it has saved. -/
theorem engages_next {response : Except ThrownError call.Answer}
    (h : (resetsPassword.next stage call response).engages token = true) :
    stage.engages token = true ∨
      stage = .starting token ∧ ∃ verified ignoring, call = .verifyToken verified ignoring := by
  simp only [resetsPassword] at h
  split at h
  · simp only [ResetStage.engages, decide_eq_true_eq] at h
    exact .inr ⟨by rw [h], _, _, rfl⟩
  · exact .inl h
  · cases h
  · cases h
  · refine .inl ?_
    split at h <;> exact h
  · exact .inl h
  · exact .inl h

omit [DecidableEq ι] in
theorem spends_next (h : stage.spends token = true) (response : Except ThrownError call.Answer) :
    (resetsPassword.next stage call response).spends token = true := by
  simp only [resetsPassword]
  split
  · cases h
  · cases h
  · cases h
  · cases h
  · split <;> exact h
  · exact h
  · exact h

omit [DecidableEq ι] in
theorem engages_of_spends (h : stage.spends token = true) : stage.engages token = true := by
  cases stage <;> first | exact h | cases h

theorem resetStageAfter_token? (history : List (IdentityEvent ι)) (i : ι) :
    (resetStageAfter requests history i).token? = (requests i).resetToken? := by
  induction history with
  | nil => exact resetStage_token? (requests i)
  | cons event earlier ih =>
      by_cases hi : i = event.thread
      · subst hi
        rw [resetStageAfter, Protocol.after_cons_self]
        exact (token?_next _).trans ih
      · rwa [resetStageAfter, Protocol.after_cons_of_ne _ _ _ hi]

/-- Nobody but `i` is engaged with the token that `i` may verify. -/
theorem not_engages_of_verifiesUnused {verified : Token} {ignoring : Bool}
    (hGuard : verifiesUnused requests history store i (.verifyToken verified ignoring))
    (hToken : (requests i).resetToken? = some token) {j : ι} (hij : j ≠ i) :
    (resetStageAfter requests history j).engages token = false := by
  by_cases hSeen : ∃ event ∈ history, event.thread = j
  · obtain ⟨event, hEvent, rfl⟩ := hSeen
    have hAll : ∀ event ∈ history, event.thread = i ∨
        (resetStageAfter requests history event.thread).engages token = false := by
      simpa [verifiesUnused, hToken] using hGuard
    exact (hAll event hEvent).resolve_left hij
  · have hIdle : ∀ event ∈ history, event.thread ≠ j := by
      intro event hEvent hThread
      exact hSeen ⟨event, hEvent, hThread⟩
    rw [resetStageAfter, resetsPassword.after_of_forall_ne hIdle, IdentityRequest.resetStage]
    cases (requests j).resetToken? <;> rfl

/-- At most one reset is engaged with a token, and only an engaged one saves. -/
structure ResetUse (requests : ι → IdentityRequest) (history : List (IdentityEvent ι)) : Prop where
  unique : ∀ token i j, (resetStageAfter requests history i).engages token = true →
    (resetStageAfter requests history j).engages token = true → i = j
  spent : ∀ token, history.any (savesPassword requests token) = true →
    ∃ i, (resetStageAfter requests history i).spends token = true
  once : ResetOnce requests history

theorem ResetUse.initial : ResetUse requests [] where
  unique token i j hI := by
    have hStage : ((requests i).resetStage).engages token = true := hI
    unfold IdentityRequest.resetStage at hStage
    cases hToken : (requests i).resetToken? <;> rw [hToken] at hStage <;> cases hStage
  spent := by rintro token ⟨⟩
  once token := Nat.zero_le 1

/-- A save of a password comes from a reset that has verified its token. -/
theorem verified_of_savesPassword {response : Except ThrownError call.Answer}
    (hAllows : resetsPassword.allows (resetStageAfter requests history i) call)
    (hSaves : savesPassword requests token ⟨i, call, response⟩ = true) :
    resetStageAfter requests history i = .verified token ∧ ∃ id changes,
      call = .userSave id changes := by
  cases call with
  | userSave id changes =>
      have hToken : (requests i).resetToken? = some token := of_decide_eq_true hSaves
      have hOwn := (resetStageAfter_token? history i).trans hToken
      refine ⟨?_, id, changes, rfl⟩
      cases hStage : resetStageAfter requests history i with
      | verified other =>
          rw [hStage] at hOwn
          rw [Option.some.inj hOwn]
      | exempt =>
          rw [hStage] at hOwn
          cases hOwn
      | _ =>
          rw [hStage] at hAllows
          exact hAllows.elim
  | _ => cases hSaves

/-- Whoever becomes engaged now is alone. -/
theorem engages_cons (hGuard : verifiesUnused requests history store i call)
    {response : Except ThrownError call.Answer} {j : ι}
    (h : (resetStageAfter requests (⟨i, call, response⟩ :: history) j).engages token = true) :
    (resetStageAfter requests history j).engages token = true ∨
      j = i ∧ ∀ k, k ≠ i → (resetStageAfter requests history k).engages token = false := by
  by_cases hij : j = i
  · subst hij
    rw [resetStageAfter, resetsPassword.after_cons_self _ ⟨j, call, response⟩] at h
    rcases engages_next h with hOld | ⟨hStage, verified, ignoring, rfl⟩
    · exact .inl hOld
    · refine .inr ⟨rfl, fun k hk => not_engages_of_verifiesUnused hGuard ?_ hk⟩
      rw [← resetStageAfter_token? history j]
      exact congrArg ResetStage.token? hStage
  · rw [resetStageAfter, resetsPassword.after_cons_of_ne _ _ hij] at h
    exact .inl h

/-- Every allowed step keeps the uses of reset tokens apart. -/
theorem ResetUse.step (h : ResetUse requests history)
    (hAllows : resetsPassword.allows (resetStageAfter requests history i) call)
    (hGuard : verifiesUnused requests history store i call)
    (response : Except ThrownError call.Answer) :
    ResetUse requests (⟨i, call, response⟩ :: history) := by
  have hOwn : resetStageAfter requests (⟨i, call, response⟩ :: history) i =
      resetsPassword.next (resetStageAfter requests history i) call response :=
    Protocol.after_cons_self _ _ _ _
  have hOther (j : ι) (hij : j ≠ i) : resetStageAfter requests (⟨i, call, response⟩ :: history) j =
      resetStageAfter requests history j := Protocol.after_cons_of_ne _ _ _ hij
  refine ⟨fun token j k hJ hK => ?_, fun token hSaved => ?_, fun token => ?_⟩
  · rcases engages_cons hGuard hJ with hOldJ | ⟨rfl, hAlone⟩ <;>
      rcases engages_cons hGuard hK with hOldK | ⟨rfl, hAlone'⟩
    · exact h.unique token j k hOldJ hOldK
    · by_contra hjk
      rw [hAlone' j hjk] at hOldJ
      cases hOldJ
    · by_contra hjk
      rw [hAlone k (Ne.symm hjk)] at hOldK
      cases hOldK
    · rfl
  · rw [List.any_cons, Bool.or_eq_true] at hSaved
    rcases hSaved with hNew | hOld
    · obtain ⟨hStage, id, changes, rfl⟩ := verified_of_savesPassword hAllows hNew
      refine ⟨i, ?_⟩
      rw [hOwn, hStage]
      exact decide_eq_true rfl
    · obtain ⟨k, hSpent⟩ := h.spent token hOld
      refine ⟨k, ?_⟩
      by_cases hik : k = i
      · subst hik
        rw [hOwn]
        exact spends_next hSpent response
      · rwa [hOther k hik]
  · rw [List.filter_cons]
    split
    · rename_i hSaves
      obtain ⟨hStage, -⟩ := verified_of_savesPassword hAllows hSaves
      have hNone : history.filter (savesPassword requests token) = [] := by
        rw [List.filter_eq_nil_iff]
        intro event hEvent hSaved
        obtain ⟨k, hSpent⟩ := h.spent token (List.any_eq_true.mpr ⟨event, hEvent, hSaved⟩)
        have hVerified : (resetStageAfter requests history i).engages token = true := by
          rw [hStage]
          exact decide_eq_true rfl
        obtain rfl := h.unique token k i (engages_of_spends hSpent) hVerified
        rw [hStage] at hSpent
        cases hSpent
      rw [hNone, List.length_singleton]
    · exact h.once token

/-- No lookup has passed an outdated session. -/
def LookupsCurrent (requests : ι → IdentityRequest) (signed : List Token)
    (history : List (IdentityEvent ι)) : Prop :=
  ∀ i session key, (requests i).presents = some session → (requests i).presentedKey = some key →
    ∀ later event earlier, history = later ++ event :: earlier →
      passesLookup i key event = true → outdated requests signed session earlier = false

theorem LookupsCurrent.step (h : LookupsCurrent requests signed history)
    (hGuard : outdatedAreBlocked requests signed history store i call) :
    LookupsCurrent requests signed
      (⟨i, call, (performIdentity decision store call).2⟩ :: history) := by
  intro j session key hPresents hKey later event earlier hHistory hPasses
  cases later with
  | cons last later =>
      exact h j session key hPresents hKey later event earlier (List.cons.inj hHistory).2 hPasses
  | nil =>
      obtain ⟨rfl, rfl⟩ := List.cons.inj hHistory
      obtain rfl : i = j := congrArg Event.thread (passesLookup_eq_true hPasses)
      obtain ⟨rfl, hGone⟩ := not_holds_of_passesLookup hPasses
      have hBlocked : outdated requests signed session history = false ∨
          store.holds key = true := by
        simpa [outdatedAreBlocked, hPresents, hKey] using hGuard
      refine hBlocked.resolve_right ?_
      rw [hGone]
      exact Bool.false_ne_true

omit [DecidableEq ι] in
/-- What a lookup found current is outdated only by a reset since. -/
theorem LookupsCurrent.outdated_dropWhile [DecidableEq ι]
    (h : LookupsCurrent requests signed history) {session : Token} {key : String}
    (hPresents : (requests i).presents = some session)
    (hKey : (requests i).presentedKey = some key) :
    outdated requests signed session
      (history.dropWhile fun event => !passesLookup i key event) = false := by
  cases hRest : history.dropWhile fun event => !passesLookup i key event with
  | nil => rfl
  | cons event earlier =>
      have hPasses : passesLookup i key event = true := by
        have hHead := List.head?_dropWhile_not (fun event => !passesLookup i key event) history
        rw [hRest] at hHead
        simpa using hHead
      have hSplit : history = history.takeWhile (fun event => !passesLookup i key event) ++
          event :: earlier := by
        rw [← hRest, List.takeWhile_append_dropWhile]
      have hEarlier := h i session key hPresents hKey _ event earlier hSplit hPasses
      have hEvent (userId : String) : completesReset requests userId event = false := by
        rw [passesLookup_eq_true hPasses, completesReset, Option.any_eq_false]
        intro token hToken
        rw [Bool.and_false]
      rw [outdated, hEarlier, Bool.or_false, Bool.and_eq_false_iff]
      refine .inl ?_
      rw [Option.any_eq_false]
      intro userId hUserId
      rw [hEvent]

/-- Under the guard, nobody gets in with an outdated session. -/
theorem SessionsEnd.step (h : SessionsEnd requests signed history)
    (hLookups : LookupsCurrent requests signed history)
    (hGuard : outdatedAreBlocked requests signed history store i call) :
    SessionsEnd requests signed
      (⟨i, call, (performIdentity decision store call).2⟩ :: history) := by
  intro j session key hPresents hIssued hKey later event earlier hHistory hOutdated
  cases later with
  | cons last later =>
      exact h j session key hPresents hIssued hKey later event earlier (List.cons.inj hHistory).2
        hOutdated
  | nil =>
      obtain ⟨rfl, rfl⟩ := List.cons.inj hHistory
      by_cases hij : i = j
      · subst hij
        refine Bool.eq_false_iff.mpr fun hAccepts => ?_
        by_cases hLoads : ∃ userId, call = .userFindById userId
        · obtain ⟨userId, rfl⟩ := hLoads
          have hRefreshes : (requests i).refreshes = true := by
            simpa [accepts] using hAccepts
          have hSince : outdated requests signed session
              (history.dropWhile fun event => !passesLookup i key event) = true := by
            simpa [outdatedAreBlocked, hPresents, hKey, hOutdated, hRefreshes] using hGuard
          rw [hLookups.outdated_dropWhile hPresents hKey] at hSince
          cases hSince
        · have hPasses : passesLookup i key
              ⟨i, call, (performIdentity decision store call).2⟩ = true := by
            unfold accepts at hAccepts
            split at hAccepts
            · rename_i hEvent
              exact absurd ⟨_, congrArg Event.request hEvent⟩ hLoads
            · exact (Bool.and_eq_true_iff.mp hAccepts).1
          have hLater : LookupsCurrent requests signed
              (⟨i, call, (performIdentity decision store call).2⟩ :: history) :=
            hLookups.step hGuard
          have hCurrent := hLater i session key hPresents hKey [] _ history rfl hPasses
          rw [hOutdated] at hCurrent
          cases hCurrent
      · exact accepts_of_ne hij _

section Runs

variable [Bcrypt] [Sha256] [TokenText] {point : Point identity ι IdentityReply}

theorem IdentityRequest.program_resets (request : IdentityRequest) :
    request.program.Follows resetsPassword (fun _ _ => True) request.resetStage := by
  have hOther (h : request.resetToken? = none) :
      request.program.Follows resetsPassword (fun _ _ => True) request.resetStage := by
    rw [IdentityRequest.resetStage, h]
    exact (exempt_follows request.program).mono fun _ _ _ => trivial
  cases request with
  | authenticated authorization operation => exact hOther rfl
  | publicRoute operation =>
      cases operation with
      | resetPassword token newPassword =>
          exact (resetPassword_completes token newPassword).bind (fun _ _ _ => trivial)
            fun _ _ _ => trivial
      | _ => exact hOther rfl

omit [Bcrypt] [Sha256] [TokenText] in
/-- A reset has completed only by an event that completes it. -/
theorem completesReset_of_completed {userId : String} (hUser : token.claims.userId = some userId)
    (h : resetStageAfter requests history i = .completed token) :
    history.any (completesReset requests userId) = true := by
  induction history generalizing token with
  | nil =>
      have hStage : (requests i).resetStage = .completed token := h
      unfold IdentityRequest.resetStage at hStage
      cases hToken : (requests i).resetToken? <;> rw [hToken] at hStage <;> cases hStage
  | cons event earlier ih =>
      rw [List.any_cons, Bool.or_eq_true]
      by_cases hi : i = event.thread
      · subst hi
        have hToken : (requests event.thread).resetToken? =
            (resetStageAfter requests (event :: earlier) event.thread).token? :=
          (resetStageAfter_token? _ _).symm
        rw [h] at hToken
        rw [resetStageAfter, Protocol.after_cons_self] at h
        obtain ⟨thread, request, response⟩ := event
        simp only [resetsPassword] at h
        split at h
        · cases h
        · cases h
        · cases h
        · cases h
        · rename_i hStage
          split at h
          · rename_i hOver
            cases h
            exact .inl (by simp [completesReset, hToken, ResetStage.token?, hUser, hOver])
          · cases h
        · cases h
          exact .inl (by simp [completesReset, hToken, ResetStage.token?, hUser])
        · exact .inr (ih hUser h)
      · rw [resetStageAfter, Protocol.after_cons_of_ne _ _ _ hi] at h
        exact .inr (ih hUser h)

/-- Once `resetPassword` has returned, there is such an event. -/
theorem completesReset_of_done {guard : Guard identity ι} {newPassword userId : String}
    {reply : IdentityReply} (run : GuardedRun guard (identityPool store requests) point)
    (hRequest : requests i = .publicRoute (.resetPassword token newPassword))
    (hIssued : IssuedBy token .passwordReset) (hUser : token.claims.userId = some userId)
    (hDone : point.2.thread i = .done reply) :
    point.1.any (completesReset requests userId) = true := by
  have hStart (j : ι) : ((identityPool store requests).thread j).Follows resetsPassword
      (fun stage outcome => ∀ result, outcome = .ok result → j = i → stage = .completed token)
      (requests j).resetStage := by
    by_cases hij : j = i
    · subst hij
      have hProgram : (identityPool store requests).thread j =
          (PublicOperation.resetPassword token newPassword).program := by
        simp only [identityPool, hRequest, IdentityRequest.program]
      rw [hProgram, hRequest]
      refine (resetPassword_completes token newPassword).bind
        (fun stage result hStage _ _ _ => hStage result rfl hIssued) fun stage error _ => ?_
      rintro result ⟨⟩
    · exact ((requests j).program_resets).mono fun _ _ _ _ _ h => absurd h hij
  have hEnds := GuardedRun.follows resetsPassword (fun j => (requests j).resetStage) run hStart i
  rw [hDone] at hEnds
  exact completesReset_of_completed hUser (hEnds reply rfl rfl)

/-- In every run in which reset tokens are used up and outdated sessions are
blocked, a reset token changes the password once and ends the user's sessions. -/
theorem resets_end_sessions
    (run : GuardedRun (resetsAreSafe requests store.signed) (identityPool store requests) point) :
    ResetOnce requests point.1 ∧ SessionsEnd requests store.signed point.1 := by
  have hInv : ResetUse requests point.1 ∧ LookupsCurrent requests store.signed point.1 ∧
      SessionsEnd requests store.signed point.1 := by
    refine GuardedRun.invariant resetsPassword (fun i => (requests i).resetStage) run
      (fun i => (requests i).program_resets)
      (fun history _ => ResetUse requests history ∧ LookupsCurrent requests store.signed history ∧
        SessionsEnd requests store.signed history)
      ⟨.initial, by simp [LookupsCurrent], by simp [SessionsEnd]⟩ ?_
    rintro history current decision i call ⟨hUse, hLookups, hEnd⟩ hAllows ⟨hUnused, hBlocked⟩
    exact ⟨hUse.step hAllows hUnused _, hLookups.step hBlocked, hEnd.step hLookups hBlocked⟩
  exact ⟨hInv.1.once, hInv.2.2⟩

end Runs

section Samples

/-- What the admin got by email. -/
def emailedResetToken : Token :=
  ⟨resetClaims sampleAdmin.id.toString "00000000-0000-4000-8000-000000000002", 0,
    resetTokenTtlSeconds⟩

def sampleResetStore : IdentityStore where
  users := ⟨[sampleAdmin], Collection.nodup_single _ _⟩
  signed := [emailedResetToken, sampleAdminToken]
  drawn := ["00000000-0000-4000-8000-000000000002", "00000000-0000-4000-8000-000000000001"]

/-- The admin resets the password; the session from before is presented afterwards. -/
def resetThenRequest : Bool → IdentityRequest
  | true => .publicRoute (.resetPassword emailedResetToken "swordfish")
  | false => .authenticated (some sampleAdminToken) .elsewhere

def resetPool (store : IdentityStore) (requests : Bool → IdentityRequest) :
    Pool identity Bool IdentityReply :=
  @identityPool saltBcrypt (tabulatedSha256 []) ⟨fun _ => ""⟩ Bool store requests

/-- The whole reset, and the first calls of the other request. -/
def resetSchedule (calls : Nat) : List (IdentityDecision × Bool) :=
  List.replicate 6 ({ bytes := "first" }, true) ++ List.replicate calls ({ bytes := "second" }, false)

/-- The admin had logged out before. -/
def loggedOutResetStore : IdentityStore :=
  { sampleResetStore with
    redis := [(blocklistKeyOf "00000000-0000-4000-8000-000000000001", tokenTtlSeconds)] }

theorem resets_end_sessions_sample :
    ∃ point : Point identity Bool IdentityReply,
      GuardedRun (resetsAreSafe resetThenRequest loggedOutResetStore.signed)
        (resetPool loggedOutResetStore resetThenRequest) point ∧
      point.1.length = 8 ∧ ResetOnce resetThenRequest point.1 ∧
      SessionsEnd resetThenRequest loggedOutResetStore.signed point.1 := by
  obtain ⟨point, run, hLength⟩ :=
    Pool.exists_run (resetsAreSafe resetThenRequest loggedOutResetStore.signed)
      (resetPool loggedOutResetStore resetThenRequest)
      (fun point => point.1.length = 8) (resetSchedule 2) (by decide +kernel)
  refine ⟨point, run, of_decide_eq_true hLength, ?_⟩
  exact @resets_end_sessions _ _ _ _ saltBcrypt (tabulatedSha256 []) ⟨fun _ => ""⟩ point run

/-- The reset token works twice, and the session goes on working. -/
theorem reset_leaves_tokens_usable :
    (¬∀ (store : IdentityStore) (requests : Bool → IdentityRequest)
        (point : Point identity Bool IdentityReply),
        GuardedRun anyStep (resetPool store requests) point → ∀ token,
          (point.1.filter fun event =>
            savesPassword requests token event && event.response.isOk).length ≤ 1) ∧
      ¬∀ (store : IdentityStore) (requests : Bool → IdentityRequest)
        (point : Point identity Bool IdentityReply),
        GuardedRun anyStep (resetPool store requests) point →
          SessionsEnd requests store.signed point.1 := by
  constructor
  · intro hOnce
    obtain ⟨point, run, hTest⟩ := Pool.exists_run anyStep
      (resetPool sampleResetStore fun _ => resetThenRequest true)
      (fun point => (point.1.filter fun event => savesPassword (fun _ => resetThenRequest true)
        emailedResetToken event && event.response.isOk).length = 2)
      (resetSchedule 4) (by decide +kernel)
    have hAtMostOne := hOnce _ _ point run emailedResetToken
    rw [of_decide_eq_true hTest] at hAtMostOne
    exact absurd hAtMostOne (by decide)
  · intro hEnd
    obtain ⟨point, run, hTest⟩ := Pool.exists_run anyStep
      (resetPool sampleResetStore resetThenRequest)
      (fun point => point.1.head?.any (accepts (resetThenRequest false) false
          (blocklistKeyOf "00000000-0000-4000-8000-000000000001")) &&
        outdated resetThenRequest sampleResetStore.signed sampleAdminToken point.1.tail)
      (resetSchedule 2) (by decide +kernel)
    rw [Bool.and_eq_true, Option.any_eq_true] at hTest
    obtain ⟨⟨event, hHead, hAccepts⟩, hOutdated⟩ := hTest
    have hRejected := hEnd _ _ point run false sampleAdminToken _ rfl
      ⟨_, _, by decide +kernel, rfl, rfl⟩ rfl [] event point.1.tail
      (List.eq_cons_of_mem_head? hHead) hOutdated
    rw [hAccepts] at hRejected
    cases hRejected

end Samples

end Navin
