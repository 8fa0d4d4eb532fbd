import Navin.Auth.RevokedTokens

/-! Does a session token have at most one successor? A refresh looks its token up
first and blocklists it several calls later, so two of them may both find it off
the blocklist. -/
namespace Navin

open Async

/-- How far a refresh has come: it has found the token off the blocklist, read
the clock, blocklisted the token. -/
inductive RefreshStage where
  | starting
  | passed
  | timed (now : Nat)
  | blocked
deriving DecidableEq

/-- The order in which a refresh looks the token up and blocklists it. -/
def rotates (token : Token) (key : String) :
    Protocol IdentityCall IdentityCall.Answer ThrownError RefreshStage where
  allows stage call :=
    match stage, call with
    | .starting, .redisGet read => read = key
    | .timed now, .redisSet written ttlSeconds => written = key ∧
        now ≤ token.iat + gracePeriodSeconds ∧ (ttlSeconds : Int) = exchangedTtl token now
    | _, .redisGet _ | _, .redisSet _ _ => False
    | _, _ => True
  next stage call response :=
    match stage, call, response with
    | .starting, .redisGet _, .ok none => .passed
    | .passed, .now, .ok now => .timed now
    | .timed _, .redisSet _ _, .ok _ => .blocked
    | stage, _, _ => stage

section Calls

variable {token : Token} {key jti : String} {now : Nat}

/-- Only a call that has blocklisted the token returns a successor. -/
def EndsBlocked {α : Type} (stage : RefreshStage) (outcome : Except ThrownError α) : Prop :=
  ∀ result, outcome = .ok result → stage = .blocked

theorem endsBlocked_error {α : Type} (stage : RefreshStage) (error : ThrownError) :
    EndsBlocked (α := α) stage (.error error) := by
  rintro result ⟨⟩

theorem isTokenBlocked_rotates (hJti : isDrawnUuid jti = true) :
    (isTokenBlocked jti).Follows (rotates token (blocklistKeyOf jti))
      (fun stage outcome => outcome = .ok false → stage = .passed) .starting := by
  unfold isTokenBlocked
  rw [if_pos (isValidJti_of_isDrawnUuid hJti)]
  refine Program.follows_bind.mpr (Program.follows_await.mpr ⟨rfl, fun response => ?_⟩)
  rcases response with error | _ | answer
  · rintro ⟨⟩
  · exact fun _ => rfl
  · rintro ⟨⟩

theorem exchangeToken_rotates (hJti : isDrawnUuid jti = true)
    (hYoung : now ≤ token.iat + gracePeriodSeconds) (user : User) :
    (exchangeToken token jti now user).Follows (rotates token (blocklistKeyOf jti)) EndsBlocked
      (.timed now) := by
  have hType : (organizationTypeOf user).Follows (rotates token (blocklistKeyOf jti))
      (fun stage _ => stage = .timed now) (.timed now) := by
    unfold organizationTypeOf
    split
    · rfl
    · refine Program.follows_bind.mpr (Program.follows_await.mpr ⟨trivial, fun response => ?_⟩)
      cases response <;> rfl
  refine hType.bind (fun stage _ hStage => ?_) fun stage error _ => endsBlocked_error stage error
  obtain rfl := hStage
  have hTtl := grace_le_exchangedTtl token now
  have hPositive : ¬exchangedTtl token now ≤ 0 := by
    unfold gracePeriodSeconds at hTtl
    omega
  have hBlock : (blockToken jti (exchangedTtl token now)).Follows
      (rotates token (blocklistKeyOf jti)) EndsBlocked (.timed now) := by
    unfold blockToken blocklistKey
    rw [if_neg hPositive, if_pos (isValidJti_of_isDrawnUuid hJti)]
    refine Program.follows_await.mpr ⟨⟨rfl, hYoung, Int.toNat_of_nonneg (by omega)⟩, ?_⟩
    intro response
    cases response with
    | error error => exact endsBlocked_error _ error
    | ok answer => exact fun _ _ => rfl
  refine hBlock.bind (fun stage _ hStage => ?_) fun stage error _ => endsBlocked_error stage error
  obtain rfl := hStage () rfl
  refine Program.Follows.bind (Q := fun stage _ => stage = .blocked) ?_ (fun _ _ h _ _ => h)
    fun _ error h _ _ => h
  refine Program.follows_bind.mpr (Program.follows_await.mpr ⟨trivial, fun drawn => ?_⟩)
  cases drawn with
  | error error => rfl
  | ok uuid =>
      refine Program.follows_bind.mpr (Program.follows_await.mpr ⟨trivial, fun signed => ?_⟩)
      cases signed <;> rfl

/-- A refresh of a session token goes through the stages in order. -/
theorem refreshToken_rotates (hDrawn : isDrawnUuid jti = true)
    (hJti : token.claims.jti = some jti) :
    (refreshToken token).Follows (rotates token (blocklistKeyOf jti)) EndsBlocked .starting := by
  refine Program.follows_bind.mpr (Program.follows_tryCatch.mpr ?_)
  refine Program.follows_bind.mpr (Program.follows_await.mpr ⟨trivial, fun response => ?_⟩)
  cases response with
  | error error => exact endsBlocked_error _ _
  | ok answer =>
      simp only [Program.then_ok, Program.follows_pure, Program.caught_ok, hJti,
        truthy_of_isDrawnUuid hDrawn]
      refine (isTokenBlocked_rotates hDrawn).bind (fun stage blocked hStage => ?_)
        fun stage error _ => endsBlocked_error stage error
      cases blocked with
      | true => exact endsBlocked_error _ _
      | false =>
          obtain rfl := hStage rfl
          refine Program.follows_bind.mpr (Program.follows_await.mpr ⟨trivial, fun clock => ?_⟩)
          cases clock with
          | error error => exact endsBlocked_error _ _
          | ok now =>
              rw [Program.then_ok]
              split
              · exact endsBlocked_error _ _
              · rename_i hYoung
                have hUser : (findPayloadUser token).Follows
                    (rotates token (blocklistKeyOf jti)) (fun stage _ => stage = .timed now)
                    (.timed now) := by
                  unfold findPayloadUser
                  split
                  · rfl
                  · refine Program.follows_await.mpr ⟨trivial, fun response => ?_⟩
                    cases response <;> rfl
                refine hUser.bind (fun stage found hStage => ?_)
                  fun stage error _ => endsBlocked_error stage error
                obtain rfl := hStage
                split
                · exact endsBlocked_error _ _
                · exact exchangeToken_rotates hDrawn (by omega) _

end Calls

variable {ι : Type} [DecidableEq ι] {token : Token} {key : String} {store : IdentityStore}
  {history : List (IdentityEvent ι)} {i : ι} {call : IdentityCall} {decision : IdentityDecision}
  {stage : RefreshStage}

/-- A refresh blocklists the token only if nobody has since it looked it up. -/
def blocksFirst (key : String) : Guard identity ι :=
  fun history _ i call =>
    (match call with
      | .redisSet _ _ =>
          !(history.takeWhile fun event => !passesLookup i key event).any (blocksKey key)
      | _ => true) = true

instance (history : List (IdentityEvent ι)) (store : IdentityStore) (i : ι)
    (call : IdentityCall) : Decidable (blocksFirst key history store i call) :=
  inferInstanceAs (Decidable (_ = true))

abbrev stageAfter (token : Token) (key : String) (history : List (IdentityEvent ι)) :
    ι → RefreshStage :=
  (rotates token key).after (fun _ => .starting) history

/-- A reading of the clock is the clock's, or an earlier one. -/
theorem timed_of_next {now : Nat} (h : (rotates token key).next stage call
    (performIdentity decision store call).2 = .timed now) :
    now = store.clock ∨ stage = .timed now := by
  cases call with
  | now =>
      cases stage with
      | passed => exact .inl (RefreshStage.timed.inj h).symm
      | _ => exact .inr h
  | redisGet read =>
      cases hAnswer : (performIdentity decision store (.redisGet read)).2 with
      | error error => exact .inr (by rw [hAnswer] at h; cases stage <;> exact h)
      | ok found =>
          rw [hAnswer] at h
          cases found <;> cases stage <;> first | exact .inr h | cases h
  | redisSet written ttlSeconds =>
      cases hAnswer : (performIdentity decision store (.redisSet written ttlSeconds)).2 with
      | error error => exact .inr (by rw [hAnswer] at h; cases stage <;> exact h)
      | ok answer =>
          rw [hAnswer] at h
          cases stage <;> first | exact .inr h | cases h
  | _ => exact .inr (by cases stage <;> exact h)

omit [DecidableEq ι] in
/-- The last stage is reached by blocklisting. -/
theorem blocked_of_next {response : Except ThrownError call.Answer}
    (hAllows : (rotates token key).allows stage call)
    (h : (rotates token key).next stage call response = .blocked) :
    stage = .blocked ∨ ∃ now, stage = .timed now ∧ now ≤ token.iat + gracePeriodSeconds ∧
      blocksKey key (⟨i, call, response⟩ : IdentityEvent ι) = true ∧
      ∃ ttlSeconds, call = .redisSet key ttlSeconds := by
  cases call with
  | now => rcases response with error | now <;> cases stage <;> first | exact .inl h | cases h
  | redisGet read =>
      rcases response with error | _ | found <;> cases stage <;> first | exact .inl h | cases h
  | redisSet written ttlSeconds =>
      rcases response with error | answer
      · cases stage <;> exact .inl h
      · cases stage with
        | timed now =>
            obtain ⟨rfl, hYoung, -⟩ := hAllows
            exact .inr ⟨now, rfl, hYoung, by simp [blocksKey], ttlSeconds, rfl⟩
        | _ => exact .inl h
  | _ => exact .inl (by cases stage <;> exact h)

/-- The entry of the token outlasts every refresh, and at most one has written it. -/
structure Rotation (token : Token) (key : String) (history : List (IdentityEvent ι))
    (store : IdentityStore) : Prop where
  timed : ∀ i now, stageAfter token key history i = .timed now → now ≤ store.clock
  entry : history.any (blocksKey key) = true →
    ∃ gone, store.redis.lookup key = some gone ∧ token.exp + gracePeriodSeconds ≤ gone
  late : ∀ i, PassedLate i key history → token.exp + gracePeriodSeconds ≤ store.clock ∧
    ∀ now, stageAfter token key history i = .timed now → token.exp + gracePeriodSeconds ≤ now
  blocked : ∀ i, stageAfter token key history i = .blocked → history.any (blocksKey key) = true
  unique : ∀ i j, stageAfter token key history i = .blocked →
    stageAfter token key history j = .blocked → i = j

theorem Rotation.initial : Rotation (ι := ι) token key [] store where
  timed := by rintro i now ⟨⟩
  entry := by rintro ⟨⟩
  late := by rintro i ⟨⟩
  blocked := by rintro i ⟨⟩
  unique := by rintro i j ⟨⟩

theorem le_exchangedTtl (token : Token) (now : Nat) :
    (token.exp + gracePeriodSeconds : Int) ≤ now + exchangedTtl token now := by
  simp only [exchangedTtl]
  split <;> omega

/-- An entry that a refresh writes outlasts the window of the token. -/
theorem Rotation.entry_written (h : Rotation token key history store) {ttlSeconds : Nat}
    (hAllows : (rotates token key).allows (stageAfter token key history i)
      (.redisSet key ttlSeconds)) :
    token.exp + gracePeriodSeconds ≤ store.clock + ttlSeconds := by
  cases hStage : stageAfter token key history i with
  | timed now =>
      rw [hStage] at hAllows
      obtain ⟨-, -, hTtl⟩ := hAllows
      have hNow := h.timed i now hStage
      have hOutlasts := le_exchangedTtl token now
      omega
  | _ =>
      rw [hStage] at hAllows
      exact hAllows.elim

/-- A lookup after the token was blocklisted passes only after its window. -/
theorem Rotation.le_clock_of_passesLookup (h : Rotation token key history store)
    (hBlocked : history.any (blocksKey key) = true)
    (hPasses : passesLookup i key ⟨i, call, (performIdentity decision store call).2⟩ = true) :
    token.exp + gracePeriodSeconds ≤ store.clock := by
  obtain ⟨-, hGone⟩ := not_holds_of_passesLookup hPasses
  obtain ⟨gone, hEntry, hLate⟩ := h.entry hBlocked
  have hNot : ¬store.clock < gone := by
    simpa [IdentityStore.holds, hEntry] using hGone
  exact hLate.trans (not_lt.mp hNot)

/-- The call that blocklists the token is the only one that ever does. -/
theorem Rotation.not_blocked_of_blocks (h : Rotation token key history store) {now : Nat}
    (hExp : token.iat < token.exp) (hStage : stageAfter token key history i = .timed now)
    (hYoung : now ≤ token.iat + gracePeriodSeconds)
    (hSince : (history.takeWhile fun event => !passesLookup i key event).any (blocksKey key) =
      false) (j : ι) : stageAfter token key history j ≠ .blocked := by
  intro hOther
  have hLate := (h.late i (passedLate_of_takeWhile (h.blocked j hOther) hSince)).2 now hStage
  omega

/-- Whoever blocklists the token now is the first to do so. -/
theorem Rotation.first_blocks (h : Rotation token key history store) (hExp : token.iat < token.exp)
    (hAllows : (rotates token key).allows (stageAfter token key history i) call)
    (hGuard : blocksFirst key history store i call) {response : Except ThrownError call.Answer}
    {j : ι} (hBlocked : stageAfter token key (⟨i, call, response⟩ :: history) j = .blocked) :
    stageAfter token key history j = .blocked ∨
      j = i ∧ ∀ k, stageAfter token key history k ≠ .blocked := by
  by_cases hij : j = i
  · subst hij
    rw [stageAfter, (rotates token key).after_cons_self _ ⟨j, call, response⟩] at hBlocked
    rcases blocked_of_next (i := j) hAllows hBlocked with
      hOld | ⟨now, hStage, hYoung, -, ttlSeconds, rfl⟩
    · exact .inl hOld
    · refine .inr ⟨rfl, h.not_blocked_of_blocks hExp hStage hYoung ?_⟩
      simpa [blocksFirst] using hGuard
  · rw [stageAfter, (rotates token key).after_cons_of_ne _ _ hij] at hBlocked
    exact .inl hBlocked

/-- Every step that is allowed, and blocklists the token first, keeps the invariant. -/
theorem Rotation.step (h : Rotation token key history store) (hExp : token.iat < token.exp)
    (hAllows : (rotates token key).allows (stageAfter token key history i) call)
    (hGuard : blocksFirst key history store i call) :
    Rotation token key (⟨i, call, (performIdentity decision store call).2⟩ :: history)
      (performIdentity decision store call).1 := by
  have hClock : store.clock ≤ (performIdentity decision store call).1.clock :=
    clock_le_performIdentity
  have hOwn : stageAfter token key
      (⟨i, call, (performIdentity decision store call).2⟩ :: history) i =
      (rotates token key).next (stageAfter token key history i) call
        (performIdentity decision store call).2 := Protocol.after_cons_self _ _ _ _
  have hOther (j : ι) (hij : j ≠ i) : stageAfter token key
      (⟨i, call, (performIdentity decision store call).2⟩ :: history) j =
      stageAfter token key history j := Protocol.after_cons_of_ne _ _ _ hij
  refine ⟨fun j now hTimed => ?_, fun hBlocked => ?_, fun j hLate => ?_, fun j hBlocked => ?_,
    fun j k hJ hK => ?_⟩
  · by_cases hij : j = i
    · subst hij
      rw [hOwn] at hTimed
      rcases timed_of_next hTimed with rfl | hOld
      · exact hClock
      · exact (h.timed j now hOld).trans hClock
    · rw [hOther j hij] at hTimed
      exact (h.timed j now hTimed).trans hClock
  · rw [List.any_cons, Bool.or_eq_true] at hBlocked
    rcases hBlocked with hBlocks | hOld
    · obtain ⟨ttlSeconds, rfl, hEntry⟩ := lookup_of_blocksKey hBlocks
      exact ⟨_, hEntry, h.entry_written hAllows⟩
    · have hMoved := @lookup_performIdentity key store call decision
      rcases hMoved with hSame | ⟨ttlSeconds, rfl, hEntry⟩
      · rw [hSame]
        exact h.entry hOld
      · exact ⟨_, hEntry, h.entry_written hAllows⟩
  · rcases hLate with ⟨hPasses, hBlocked⟩ | hOld
    · obtain rfl : i = j := congrArg Event.thread (passesLookup_eq_true hPasses)
      have hPast := h.le_clock_of_passesLookup hBlocked hPasses
      refine ⟨hPast.trans hClock, fun now hTimed => ?_⟩
      rw [hOwn] at hTimed
      rcases timed_of_next hTimed with rfl | hOld
      · exact hPast
      · obtain ⟨rfl, -⟩ := not_holds_of_passesLookup hPasses
        rw [hOld] at hAllows
        exact hAllows.elim
    · obtain ⟨hPast, hReading⟩ := h.late j hOld
      refine ⟨hPast.trans hClock, fun now hTimed => ?_⟩
      by_cases hij : j = i
      · subst hij
        rw [hOwn] at hTimed
        rcases timed_of_next hTimed with rfl | hOld
        · exact hPast
        · exact hReading now hOld
      · rw [hOther j hij] at hTimed
        exact hReading now hTimed
  · rw [List.any_cons, Bool.or_eq_true]
    by_cases hij : j = i
    · subst hij
      rw [hOwn] at hBlocked
      rcases blocked_of_next (i := j) hAllows hBlocked with hOld | ⟨-, -, -, hBlocks, -⟩
      · exact .inr (h.blocked j hOld)
      · exact .inl hBlocks
    · rw [hOther j hij] at hBlocked
      exact .inr (h.blocked j hBlocked)
  · rcases h.first_blocks hExp hAllows hGuard hJ with hOldJ | ⟨rfl, hNone⟩ <;>
      rcases h.first_blocks hExp hAllows hGuard hK with hOldK | ⟨rfl, hNone'⟩
    · exact h.unique j k hOldJ hOldK
    · exact absurd hOldJ (hNone' j)
    · exact absurd hOldK (hNone k)
    · rfl

/-- At most one call has returned a successor. -/
def SingleSuccessor (pool : Pool identity ι RefreshResult) : Prop :=
  ∀ i j first second, pool.thread i = .done first → pool.thread j = .done second → i = j

/-- Any number of refreshes of one token. -/
def refreshPool (ι : Type) (store : IdentityStore) (token : Token) :
    Pool identity ι RefreshResult :=
  ⟨store, fun _ => refreshToken token⟩

/-- A session token has at most one successor, in every run in which no refresh
blocklists it after another has done so since the lookup. -/
theorem singleSuccessor_of_blocksFirst {jti : String} {point : Point identity ι RefreshResult}
    (hIssued : IssuedBy token .session) (hJti : token.claims.jti = some jti)
    (run : GuardedRun (blocksFirst (blocklistKeyOf jti)) (refreshPool ι store token) point) :
    SingleSuccessor point.2 := by
  have hDrawn := hIssued.isDrawnUuid_of_jti hJti
  have hStart : ∀ i, ((refreshPool ι store token).thread i).Follows
      (rotates token (blocklistKeyOf jti)) EndsBlocked .starting :=
    fun _ => refreshToken_rotates hDrawn hJti
  have hExp : token.iat < token.exp := by
    obtain ⟨payload, other, -, -, hExp⟩ := hIssued
    rw [hExp]
    exact Nat.lt_add_of_pos_right (by decide)
  have hInv : Rotation token (blocklistKeyOf jti) point.1 point.2.store :=
    GuardedRun.invariant (rotates token (blocklistKeyOf jti)) (fun _ => .starting) run hStart
      (Rotation token (blocklistKeyOf jti)) .initial
      fun _ _ _ _ _ h hAllows hGuard => h.step hExp hAllows hGuard
  have hBlocked (i : ι) (result : RefreshResult) (hDone : point.2.thread i = .done result) :
      stageAfter token (blocklistKeyOf jti) point.1 i = .blocked := by
    have hEnds := GuardedRun.follows (rotates token (blocklistKeyOf jti)) (fun _ => .starting) run
      hStart i
    rw [hDone] at hEnds
    exact hEnds result rfl
  intro i j first second hI hJ
  exact hInv.unique i j (hBlocked i first hI) (hBlocked j second hJ)

section Samples

/-- Two requests refresh the admin's token; the first few calls of one go before
the first few of the other. -/
def refreshSchedule (calls : List (Bool × Nat)) : List (IdentityDecision × Bool) :=
  calls.flatMap fun (thread, count) => List.replicate count
    ({ uuid := if thread then "00000000-0000-4000-8000-000000000002"
        else "00000000-0000-4000-8000-000000000003" }, thread)

/-- One after the other, the second is turned away. -/
theorem singleSuccessor_of_blocksFirst_sample :
    ∃ point : Point identity Bool RefreshResult,
      GuardedRun (blocksFirst (blocklistKeyOf "00000000-0000-4000-8000-000000000001"))
        (refreshPool Bool sampleSessionStore sampleAdminToken) point ∧
      (point.2.thread true).settled?.isSome = true ∧
      (point.2.thread false).settled?.isSome = true ∧ SingleSuccessor point.2 := by
  obtain ⟨point, run, hTest⟩ := Pool.exists_run
    (blocksFirst (blocklistKeyOf "00000000-0000-4000-8000-000000000001"))
    (refreshPool Bool sampleSessionStore sampleAdminToken)
    (fun point => (point.2.thread true).settled?.isSome && (point.2.thread false).settled?.isSome)
    (refreshSchedule [(true, 8), (false, 2)]) (by decide +kernel)
  rw [Bool.and_eq_true] at hTest
  refine ⟨point, run, hTest.1, hTest.2, ?_⟩
  exact singleSuccessor_of_blocksFirst ⟨_, _, by decide +kernel, rfl, rfl⟩ rfl run

/-- Both look the token up before either blocklists it, and both succeed. -/
theorem token_has_two_successors :
    ¬∀ (store : IdentityStore) (token : Token) (point : Point identity Bool RefreshResult),
      IssuedBy token .session → GuardedRun anyStep (refreshPool Bool store token) point →
      SingleSuccessor point.2 := by
  intro hSingle
  obtain ⟨point, run, hTest⟩ := Pool.exists_run anyStep
    (refreshPool Bool sampleSessionStore sampleAdminToken)
    (fun point => (point.2.thread true).succeeded && (point.2.thread false).succeeded)
    (refreshSchedule [(true, 2), (false, 2), (true, 6), (false, 6)]) (by decide +kernel)
  rw [Bool.and_eq_true] at hTest
  obtain ⟨first, hFirst⟩ := Program.succeeded_iff.mp hTest.1
  obtain ⟨second, hSecond⟩ := Program.succeeded_iff.mp hTest.2
  have hSame := hSingle _ _ point ⟨_, _, by decide +kernel, rfl, rfl⟩ run true false first second
    hFirst hSecond
  cases hSame

end Samples

end Navin
