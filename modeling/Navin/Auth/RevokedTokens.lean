import Navin.Auth.TokenRecords
import Navin.Users.RoleEscalation

/-! Does a token stay out once its identifier has been blocklisted? The entry
always lives until `exp`, which is when `requireAuth` stops accepting by itself
but one second before `refreshToken` does. -/
namespace Navin

open Async

variable {ι : Type} [DecidableEq ι]

/-- The key was put on the blocklist. -/
def blocksKey (key : String) (event : IdentityEvent ι) : Bool :=
  match event with
  | ⟨_, .redisSet written _, .ok _⟩ => written == key
  | _ => false

/-- Thread `i` looked the key up and did not find it. -/
def passesLookup (i : ι) (key : String) (event : IdentityEvent ι) : Bool :=
  match event with
  | ⟨j, .redisGet read, .ok none⟩ => j == i && read == key
  | _ => false

/-- The step with which a request accepts the token it presents: `requireAuth`
has done all its checks once the lookup is over, and `refreshToken` once it
loads the user. -/
def accepts (request : IdentityRequest) (i : ι) (key : String) (event : IdentityEvent ι) : Bool :=
  match event with
  | ⟨j, .userFindById _, _⟩ => j == i && request.refreshes
  | _ => passesLookup i key event && !request.refreshes

/-- The blocklist key of the token a request presents. -/
def IdentityRequest.presentedKey (request : IdentityRequest) : Option String :=
  request.presents.bind fun token => token.claims.jti.map blocklistKeyOf

/-- The clock, when the token is looked up: `requireAuth` is not past `exp`, and
`refreshToken` not at it. -/
def IdentityRequest.lookupTimely (request : IdentityRequest) (clock : Nat) : Bool :=
  request.presents.all fun token =>
    if request.refreshes then clock ≠ token.exp else clock < token.exp

/-- Once a token is on the blocklist, it is looked up in time, and no refresh
that looked it up before goes on. -/
def timelyLookups (requests : ι → IdentityRequest) : Guard identity ι :=
  fun history store i call =>
    (requests i).presentedKey.all (fun key => !history.any (blocksKey key) ||
      match call with
      | .redisGet _ => (requests i).lookupTimely store.clock
      | .userFindById _ => !(requests i).refreshes ||
          !(history.takeWhile fun event => !passesLookup i key event).any (blocksKey key)
      | _ => true) = true

instance (requests : ι → IdentityRequest) (history : List (IdentityEvent ι))
    (store : IdentityStore) (i : ι) (call : IdentityCall) :
    Decidable (timelyLookups requests history store i call) :=
  inferInstanceAs (Decidable (_ = true))

/-- Thread `i` looked the key up after it had been blocklisted, and did not find it. -/
def PassedLate (i : ι) (key : String) : List (IdentityEvent ι) → Prop
  | [] => False
  | event :: earlier =>
      passesLookup i key event = true ∧ earlier.any (blocksKey key) = true ∨
        PassedLate i key earlier

variable {i : ι} {key : String} {event : IdentityEvent ι} {history : List (IdentityEvent ι)}

omit [DecidableEq ι] in
theorem blocksKey_eq_true (h : blocksKey key event = true) :
    ∃ ttlSeconds answer, event = ⟨event.thread, .redisSet key ttlSeconds, .ok answer⟩ := by
  unfold blocksKey at h
  split at h
  · rename_i thread written ttlSeconds answer
    rw [beq_iff_eq] at h
    exact ⟨ttlSeconds, answer, by rw [h]⟩
  · cases h

theorem passesLookup_eq_true (h : passesLookup i key event = true) :
    event = ⟨i, .redisGet key, .ok none⟩ := by
  unfold passesLookup at h
  split at h
  · simp only [Bool.and_eq_true, beq_iff_eq] at h
    obtain ⟨rfl, rfl⟩ := h
    rfl
  · cases h

/-- When nothing was blocklisted since the lookup, the lookup came later. -/
theorem passedLate_of_takeWhile (hBlocked : history.any (blocksKey key) = true)
    (hSince : (history.takeWhile fun event => !passesLookup i key event).any (blocksKey key) =
      false) : PassedLate i key history := by
  induction history with
  | nil => cases hBlocked
  | cons event earlier ih =>
      rw [List.any_cons, Bool.or_eq_true] at hBlocked
      by_cases hPasses : passesLookup i key event = true
      · refine .inl ⟨hPasses, hBlocked.resolve_left fun hBlocks => ?_⟩
        rw [passesLookup_eq_true hPasses] at hBlocks
        cases hBlocks
      · rw [List.takeWhile_cons_of_pos (by simpa using hPasses), List.any_cons,
          Bool.or_eq_false_iff] at hSince
        refine .inr (ih (hBlocked.resolve_left ?_) hSince.2)
        rw [hSince.1]
        exact Bool.false_ne_true

/-- The store is trustworthy, no entry of the blocklist is ever taken back, and
a refresh that passed its lookup late reads the clock late. -/
structure Revocations (requests : ι → IdentityRequest) (history : List (IdentityEvent ι))
    (store : IdentityStore) : Prop where
  trustworthy : Trustworthy (handlesIdentifiers.after (fun i => (requests i).initial) history) store
  blocked : ∀ key, history.any (blocksKey key) = true → (store.redis.lookup key).isSome
  late : ∀ i key token, (requests i).refreshes = true → (requests i).presents = some token →
    (requests i).presentedKey = some key → PassedLate i key history →
    token.exp < store.clock ∧ ∀ now, (handlesIdentifiers.after (fun i => (requests i).initial)
      history i).reading = some now → token.exp < now

variable {requests : ι → IdentityRequest} {store : IdentityStore} {call : IdentityCall}
  {token : Token} {decision : IdentityDecision}

theorem presented_after (i : ι) :
    (handlesIdentifiers.after (fun i => (requests i).initial) history i).presented =
      (requests i).presents := by
  induction history with
  | nil => rfl
  | cons event earlier ih =>
      by_cases hij : i = event.thread
      · subst hij
        rw [Protocol.after_cons_self]
        exact (next_presented _).trans ih
      · rwa [Protocol.after_cons_of_ne _ _ _ hij]

theorem refreshing_after (i : ι) :
    (handlesIdentifiers.after (fun i => (requests i).initial) history i).refreshing =
      (requests i).refreshes := by
  induction history with
  | nil => rfl
  | cons event earlier ih =>
      by_cases hij : i = event.thread
      · subst hij
        rw [Protocol.after_cons_self]
        exact (next_refreshing _).trans ih
      · rwa [Protocol.after_cons_of_ne _ _ _ hij]

/-- A key that is looked up is the one of the presented token, and if it is on
the blocklist, it is gone only once the token has expired. -/
theorem Revocations.exp_le_of_not_holds (h : Revocations requests history store)
    (hAllows : handlesIdentifiers.allows
      (handlesIdentifiers.after (fun i => (requests i).initial) history i) (.redisGet key))
    (hPresents : (requests i).presents = some token)
    (hBlocked : history.any (blocksKey key) = true) (hGone : store.holds key = false) :
    (requests i).presentedKey = some key ∧ token.exp ≤ store.clock := by
  obtain ⟨other, hKnown, hOther, jti, hJti, rfl⟩ := hAllows
  rw [presented_after, hPresents] at hOther
  obtain rfl := Option.some.inj hOther
  have hSigned := (h.trustworthy.truthful i).known token hKnown
  refine ⟨by simp [IdentityRequest.presentedKey, hPresents, hJti], ?_⟩
  obtain ⟨gone, hEntry⟩ := Option.isSome_iff_exists.mp (h.blocked _ hBlocked)
  have hMem : (blocklistKeyOf jti, gone) ∈ store.redis := by
    obtain ⟨before, after, hRedis, -⟩ := List.lookup_eq_some_iff.mp hEntry
    simp [hRedis]
  obtain ⟨blocked, hBlockedSigned, jti', hJti', hKey, hOutlives⟩ :=
    h.trustworthy.consistent.entries _ hMem
  have hDrawn := (h.trustworthy.consistent.drawn token hSigned jti hJti).1
  have hDrawn' := (h.trustworthy.consistent.drawn blocked hBlockedSigned jti' hJti').1
  obtain rfl := blocklistKeyOf_inj hDrawn hDrawn' hKey
  obtain rfl := h.trustworthy.consistent.distinct token hSigned blocked hBlockedSigned jti hJti hJti'
  have hNot : ¬store.clock < gone := by
    simpa [IdentityStore.holds, hEntry] using hGone
  exact hOutlives.trans (not_lt.mp hNot)

/-- Only a write to a key moves its entry. -/
theorem lookup_performIdentity :
    (performIdentity decision store call).1.redis.lookup key = store.redis.lookup key ∨
      ∃ ttlSeconds, call = .redisSet key ttlSeconds ∧
        (performIdentity decision store call).1.redis.lookup key =
          some (store.clock + ttlSeconds) := by
  refine performIdentity_keeps (fun after => after.redis.lookup key = store.redis.lookup key ∨
    ∃ ttlSeconds, call = .redisSet key ttlSeconds ∧
      after.redis.lookup key = some (store.clock + ttlSeconds)) (.inl rfl) (fun _ _ => id) ?_
  by_cases hWrites : call.writesTokenRecords = true
  · cases call with
    | redisSet written ttlSeconds =>
        by_cases hKey : written = key
        · subst hKey
          exact .inr ⟨ttlSeconds, rfl, List.lookup_cons_self⟩
        · refine .inl ?_
          simp [executeIdentity, List.lookup_cons, beq_eq_false_iff_ne.mpr (Ne.symm hKey)]
    | randomUUID =>
        simp only [executeIdentity]
        split <;> exact .inl rfl
    | sessionCreate userId jti ip userAgent =>
        simp only [executeIdentity, castingId]
        repeat' split
        all_goals exact .inl rfl
    | signToken | sessionDelete => exact .inl rfl
    | _ => contradiction
  · have hSame : (executeIdentity decision store call).1.tokenRecords = store.tokenRecords :=
      tokenRecords_executeIdentity (eq_false_of_ne_true hWrites)
    simp only [IdentityStore.tokenRecords, Prod.mk.injEq] at hSame
    rw [hSame.2.2.2]
    exact .inl rfl

omit [DecidableEq ι] in
/-- A write that was answered has moved the entry. -/
theorem lookup_of_blocksKey
    (h : blocksKey key (⟨i, call, (performIdentity decision store call).2⟩ : IdentityEvent ι) =
      true) :
    ∃ ttlSeconds, call = .redisSet key ttlSeconds ∧
      (performIdentity decision store call).1.redis.lookup key =
        some (store.clock + ttlSeconds) := by
  obtain ⟨ttlSeconds, answer, hEvent⟩ := blocksKey_eq_true h
  simp only [Event.mk.injEq, true_and] at hEvent
  obtain ⟨rfl, hAnswer⟩ := hEvent
  rw [heq_eq_eq] at hAnswer
  refine ⟨ttlSeconds, rfl, ?_⟩
  rcases performIdentity_cases decision store (.redisSet key ttlSeconds) with
    ⟨-, -, error, hError⟩ | ⟨hStore, -⟩
  · rw [hError] at hAnswer
    cases hAnswer
  · rw [hStore]
    simp [executeIdentity, IdentityStore.elapse]

/-- Entries are only ever added. -/
theorem lookup_isSome_performIdentity (h : (store.redis.lookup key).isSome = true) :
    ((performIdentity decision store call).1.redis.lookup key).isSome = true := by
  have hMoved := @lookup_performIdentity key store call decision
  rcases hMoved with hSame | ⟨ttlSeconds, -, hNew⟩
  · rwa [hSame]
  · rw [hNew]
    rfl

/-- What a request reads off the clock is what the clock says. -/
theorem reading_next {learned : Learned} {now : Nat}
    (h : (handlesIdentifiers.next learned call (performIdentity decision store call).2).reading =
      some now) : now = store.clock ∨ learned.reading = some now := by
  cases call with
  | now =>
      obtain rfl := Option.some.inj h
      exact .inl rfl
  | redisGet read => cases h
  | verifyToken | sessionFindByJti | randomUUID | signToken =>
      cases hAnswer : (performIdentity decision store _).2 with
      | error error => exact .inr (by rwa [hAnswer] at h)
      | ok answer =>
          rw [hAnswer] at h
          cases answer <;> exact .inr h
  | _ => exact .inr h

/-- A lookup that fails found the key gone. -/
theorem not_holds_of_passesLookup
    (h : passesLookup i key ⟨i, call, (performIdentity decision store call).2⟩ = true) :
    call = .redisGet key ∧ store.holds key = false := by
  have hEvent := passesLookup_eq_true h
  have hCall : call = .redisGet key := congrArg Event.request hEvent
  subst hCall
  refine ⟨rfl, Bool.eq_false_iff.mpr fun hHolds => ?_⟩
  simp only [Event.mk.injEq, heq_eq_eq, true_and] at hEvent
  rcases performIdentity_cases decision store (.redisGet key) with
    ⟨-, -, error, hError⟩ | ⟨-, hAnswer | ⟨-, error, hError⟩⟩
  · rw [hError] at hEvent
    cases hEvent
  · rw [hAnswer] at hEvent
    simp [executeIdentity, hHolds] at hEvent
  · rw [hError] at hEvent
    cases hEvent

/-- Under the guard, a late lookup passes only once the token has expired, and
then only the lookup of a refresh. -/
theorem Revocations.expired_of_passesLookup (h : Revocations requests history store)
    (hAllows : handlesIdentifiers.allows
      (handlesIdentifiers.after (fun i => (requests i).initial) history i) call)
    (hGuard : timelyLookups requests history store i call)
    (hPresents : (requests i).presents = some token)
    (hBlocked : history.any (blocksKey key) = true)
    (hPasses : passesLookup i key ⟨i, call, (performIdentity decision store call).2⟩ = true) :
    (requests i).refreshes = true ∧ token.exp < store.clock := by
  obtain ⟨rfl, hGone⟩ := not_holds_of_passesLookup hPasses
  obtain ⟨hKey, hExpired⟩ := h.exp_le_of_not_holds hAllows hPresents hBlocked hGone
  have hTimely : (requests i).lookupTimely store.clock = true := by
    simpa [timelyLookups, hKey, hBlocked] using hGuard
  simp only [IdentityRequest.lookupTimely, hPresents, Option.all_some] at hTimely
  split at hTimely
  · rename_i hRefreshes
    exact ⟨hRefreshes, lt_of_le_of_ne hExpired (of_decide_eq_true hTimely).symm⟩
  · exact absurd hExpired (not_le.mpr (of_decide_eq_true hTimely))

/-- Every allowed, timely step keeps the invariant. -/
theorem Revocations.step (h : Revocations requests history store)
    (hAllows : handlesIdentifiers.allows
      (handlesIdentifiers.after (fun i => (requests i).initial) history i) call)
    (hGuard : timelyLookups requests history store i call) :
    Revocations requests (⟨i, call, (performIdentity decision store call).2⟩ :: history)
      (performIdentity decision store call).1 where
  trustworthy := h.trustworthy.perform hAllows
  blocked key hBlocked := by
    rw [List.any_cons, Bool.or_eq_true] at hBlocked
    rcases hBlocked with hNew | hOld
    · obtain ⟨ttlSeconds, -, hEntry⟩ := lookup_of_blocksKey hNew
      rw [hEntry]
      rfl
    · exact lookup_isSome_performIdentity (h.blocked key hOld)
  late j key token hRefreshes hPresents hKey hLate := by
    rcases hLate with ⟨hPasses, hBlocked⟩ | hLate
    · have hEvent := passesLookup_eq_true hPasses
      obtain rfl : i = j := congrArg Event.thread hEvent
      obtain ⟨-, hExpired⟩ := h.expired_of_passesLookup hAllows hGuard hPresents hBlocked hPasses
      obtain ⟨rfl, -⟩ := not_holds_of_passesLookup hPasses
      refine ⟨hExpired.trans_le clock_le_performIdentity, fun now hNow => ?_⟩
      rw [Protocol.after_cons_self] at hNow
      cases hNow
    · obtain ⟨hExpired, hReading⟩ := h.late j key token hRefreshes hPresents hKey hLate
      refine ⟨hExpired.trans_le clock_le_performIdentity, fun now hNow => ?_⟩
      by_cases hij : j = i
      · subst hij
        rw [Protocol.after_cons_self] at hNow
        rcases reading_next hNow with rfl | hOld
        · exact hExpired
        · exact hReading now hOld
      · rw [Protocol.after_cons_of_ne _ _ _ hij] at hNow
        exact hReading now hNow

/-- Under the guard, no step accepts a token on the blocklist. -/
theorem Revocations.not_accepts (h : Revocations requests history store)
    (hAllows : handlesIdentifiers.allows
      (handlesIdentifiers.after (fun i => (requests i).initial) history i) call)
    (hGuard : timelyLookups requests history store i call)
    (hPresents : (requests i).presents = some token) (hIssued : IssuedBy token .session)
    (hKey : (requests i).presentedKey = some key) (hBlocked : history.any (blocksKey key) = true) :
    accepts (requests i) i key ⟨i, call, (performIdentity decision store call).2⟩ = false := by
  refine Bool.eq_false_iff.mpr fun hAccepts => ?_
  by_cases hLoads : ∃ userId, call = .userFindById userId
  · obtain ⟨userId, rfl⟩ := hLoads
    have hRefreshes : (requests i).refreshes = true := by
      simpa [accepts] using hAccepts
    have hSince : (history.takeWhile fun event => !passesLookup i key event).any (blocksKey key) =
        false := by
      simpa [timelyLookups, hKey, hBlocked, hRefreshes] using hGuard
    obtain ⟨-, hReading⟩ := h.late i key token hRefreshes hPresents hKey
      (passedLate_of_takeWhile hBlocked hSince)
    obtain ⟨now, hNow, hYoung⟩ := hAllows ((refreshing_after i).trans hRefreshes) token
      ((presented_after i).trans hPresents)
    obtain ⟨payload, jti, -, -, hExp⟩ := hIssued
    have hOld := hReading now hNow
    unfold gracePeriodSeconds at hYoung
    unfold tokenTtlSeconds at hExp
    omega
  · have hPasses : passesLookup i key ⟨i, call, (performIdentity decision store call).2⟩ = true ∧
        (requests i).refreshes = false := by
      unfold accepts at hAccepts
      split at hAccepts
      · rename_i hEvent
        exact absurd ⟨_, congrArg Event.request hEvent⟩ hLoads
      · simpa using hAccepts
    obtain ⟨hRefreshes, -⟩ :=
      h.expired_of_passesLookup hAllows hGuard hPresents hBlocked hPasses.1
    rw [hPasses.2] at hRefreshes
    cases hRefreshes

theorem Consistent.empty : Consistent {} := by
  constructor <;> simp [Collection.empty]

theorem Revocations.initial (hStart : Consistent store) : Revocations requests [] store where
  trustworthy := by
    refine ⟨hStart, fun i => ?_, ?_⟩
    · constructor <;> simp [IdentityRequest.initial]
    · simp [IdentityRequest.initial]
  blocked _ hBlocked := by cases hBlocked
  late _ _ _ _ _ _ hLate := hLate.elim

/-- Once its identifier is on the blocklist, no request that presents the
session token is let in. -/
def StaysOut (requests : ι → IdentityRequest) (history : List (IdentityEvent ι)) : Prop :=
  ∀ i token key, (requests i).presents = some token → IssuedBy token .session →
    (requests i).presentedKey = some key →
    ∀ later event earlier, history = later ++ event :: earlier →
      earlier.any (blocksKey key) = true → accepts (requests i) i key event = false

theorem StaysOut.cons (h : StaysOut requests history)
    (hEvent : ∀ i token key, (requests i).presents = some token → IssuedBy token .session →
      (requests i).presentedKey = some key → history.any (blocksKey key) = true →
      accepts (requests i) i key event = false) : StaysOut requests (event :: history) := by
  intro i token key hPresents hIssued hKey later accepted earlier hHistory hBlocked
  cases later with
  | nil =>
      obtain ⟨rfl, rfl⟩ := List.cons.inj hHistory
      exact hEvent i token key hPresents hIssued hKey hBlocked
  | cons last later =>
      exact h i token key hPresents hIssued hKey later accepted earlier
        (List.cons.inj hHistory).2 hBlocked

/-- Events of other threads are not the acceptance of a request. -/
theorem accepts_of_ne {j : ι} {request : IdentityRequest} (h : i ≠ j)
    (response : Except ThrownError call.Answer) :
    accepts request j key ⟨i, call, response⟩ = false := by
  unfold accepts passesLookup
  split
  · rename_i hEvent
    obtain rfl := congrArg Event.thread hEvent
    simp [h]
  · split
    · rename_i hEvent
      obtain rfl := congrArg Event.thread hEvent
      simp [h]
    · rfl

section Runs

variable [Bcrypt] [Sha256] [TokenText] {point : Point identity ι IdentityReply}

/-- In every run whose lookups are timely, a token on the blocklist stays out,
whichever requests run at the same time and whatever fails. -/
theorem blocked_tokens_stay_out (hStart : Consistent store)
    (run : GuardedRun (timelyLookups requests) (identityPool store requests) point) :
    StaysOut requests point.1 := by
  refine (GuardedRun.invariant handlesIdentifiers (fun i => (requests i).initial) run
    (fun i => (requests i).program_careful)
    (fun history store => Revocations requests history store ∧ StaysOut requests history)
    ⟨.initial hStart, by simp [StaysOut]⟩ ?_).2
  rintro history store decision i call ⟨hInv, hOut⟩ hAllows hGuard
  refine ⟨hInv.step hAllows hGuard, hOut.cons fun j token key hPresents hIssued hKey hBlocked => ?_⟩
  by_cases hij : i = j
  · subst hij
    exact hInv.not_accepts hAllows hGuard hPresents hIssued hKey hBlocked
  · exact accepts_of_ne hij _

end Runs

section Samples

/-- A user logs out, and whoever kept the token asks for a fresh one. -/
def logoutThenRefresh (token : Token) : Bool → IdentityRequest
  | true => .authenticated (some token) .logout
  | false => .publicRoute (.refresh token)

def sampleSessionStore : IdentityStore where
  users := ⟨[sampleAdmin], Collection.nodup_single _ _⟩
  signed := [sampleAdminToken]
  drawn := ["00000000-0000-4000-8000-000000000001"]

theorem sampleSessionStore_consistent : Consistent sampleSessionStore where
  drawn := by
    have hDrawn : isDrawnUuid "00000000-0000-4000-8000-000000000001" = true := by decide +kernel
    simp [sampleSessionStore, sampleAdminToken, sessionClaims, hDrawn]
  distinct := by simp [sampleSessionStore]
  window := by simp [sampleSessionStore, sampleAdminToken]
  stored := by simp [sampleSessionStore, Collection.empty]
  entries := by simp [sampleSessionStore]

/-- Nothing is hashed in the runs below. -/
def logoutPool : Pool identity Bool IdentityReply :=
  @identityPool saltBcrypt (tabulatedSha256 []) ⟨fun _ => ""⟩ Bool sampleSessionStore
    (logoutThenRefresh sampleAdminToken)

/-- The whole logout, some time, and the first calls of the refresh. -/
def logoutSchedule (elapsed refreshCalls : Nat) : List (IdentityDecision × Bool) :=
  let promptly : IdentityDecision := {}
  List.replicate 4 (promptly, true) ++ ({ elapsed }, true) ::
    List.replicate refreshCalls (promptly, false)

/-- While the token lives, the refresh is turned away. -/
theorem blocked_tokens_stay_out_sample :
    ∃ point : Point identity Bool IdentityReply,
      GuardedRun (timelyLookups (logoutThenRefresh sampleAdminToken)) logoutPool point ∧
      point.1.length = 7 ∧ StaysOut (logoutThenRefresh sampleAdminToken) point.1 := by
  obtain ⟨point, run, hLength⟩ :=
    Pool.exists_run (timelyLookups (logoutThenRefresh sampleAdminToken)) logoutPool
      (fun point => point.1.length = 7) (logoutSchedule 60 2) (by decide +kernel)
  refine ⟨point, run, of_decide_eq_true hLength, ?_⟩
  exact @blocked_tokens_stay_out _ _ _ _ saltBcrypt (tabulatedSha256 []) ⟨fun _ => ""⟩ _
    sampleSessionStore_consistent run

/-- In the second in which it expires, the refresh goes through. -/
theorem loggedOut_token_refreshes :
    ¬∀ (store : IdentityStore) (requests : Bool → IdentityRequest)
      (point : Point identity Bool IdentityReply), Consistent store →
      GuardedRun anyStep (@identityPool saltBcrypt (tabulatedSha256 []) ⟨fun _ => ""⟩ Bool store
        requests) point → StaysOut requests point.1 := by
  intro hOut
  obtain ⟨point, run, hTest⟩ := Pool.exists_run anyStep logoutPool
    (fun point => point.1.head?.any (accepts (logoutThenRefresh sampleAdminToken false) false
        (blocklistKeyOf "00000000-0000-4000-8000-000000000001")) &&
      point.1.tail.any (blocksKey (blocklistKeyOf "00000000-0000-4000-8000-000000000001")))
    (logoutSchedule tokenTtlSeconds 4) (by decide +kernel)
  rw [Bool.and_eq_true, Option.any_eq_true] at hTest
  obtain ⟨⟨event, hHead, hAccepts⟩, hBlocked⟩ := hTest
  have hRejected := hOut _ _ point sampleSessionStore_consistent run false sampleAdminToken _ rfl
    ⟨_, _, by decide +kernel, rfl, rfl⟩ rfl [] event point.1.tail
    (List.eq_cons_of_mem_head? hHead) hBlocked
  rw [hAccepts] at hRejected
  cases hRejected

end Samples

end Navin
