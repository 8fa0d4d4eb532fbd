import Navin.TwoFactor.BackupCodes

/-! What a user whose two-factor authentication is enabled can log in with: the
secret that was verified, and the backup codes that were last returned. -/
namespace Navin.TwoFactor

open Async

section Statements

variable {ι : Type}

def enables (requests : ι → TwoFactorRequest) (event : TwoFactorEvent ι) : Bool :=
  completes event && match requests event.thread with
    | .verify _ => true
    | _ => false

def issuesCodes (requests : ι → TwoFactorRequest) (event : TwoFactorEvent ι) : Bool :=
  completes event && match requests event.thread with
    | .verify _ | .regenerate => true
    | _ => false

variable {requests : ι → TwoFactorRequest} {event : TwoFactorEvent ι}

theorem completes_of_issuesCodes (h : issuesCodes requests event = true) :
    completes event = true := by
  rw [issuesCodes, Bool.and_eq_true] at h
  exact h.1

/-- The stored secret is the one that the last enabling call checked its code
against, or the one that was stored before the run. -/
def HoldsCheckedSecret (requests : ι → TwoFactorRequest) (history : List (TwoFactorEvent ι))
    (before user : TwoFactorUser) : Prop :=
  match history.find? (enables requests) with
  | none => user.totpSecret = before.totpSecret
  | some last => ∃ code secret, user.totpSecret = some secret ∧
      ⟨last.thread, .verifySync code secret, .ok true⟩ ∈ history

/-- The stored hashes are those of the codes that were returned last, or those
that were stored before the run. -/
def HoldsReturnedCodes [Bcrypt] (requests : ι → TwoFactorRequest) (returned : ι → List String)
    (history : List (TwoFactorEvent ι)) (before user : TwoFactorUser) : Prop :=
  match history.find? (issuesCodes requests) with
  | none => user.totpBackupCodes = before.totpBackupCodes
  | some last => HashesOf (returned last.thread) user.totpBackupCodes

theorem HoldsCheckedSecret.cons_of_not {history : List (TwoFactorEvent ι)}
    {before user user' : TwoFactorUser} (h : HoldsCheckedSecret requests history before user)
    (hNot : enables requests event = false) (hSecret : user'.totpSecret = user.totpSecret) :
    HoldsCheckedSecret requests (event :: history) before user' := by
  unfold HoldsCheckedSecret at h ⊢
  rw [List.find?_cons_of_neg (by simp [hNot]), hSecret]
  split at h
  · exact h
  · obtain ⟨code, secret, hUser, hChecked⟩ := h
    exact ⟨code, secret, hUser, List.mem_cons_of_mem _ hChecked⟩

theorem HoldsReturnedCodes.cons_of_not [Bcrypt] {history : List (TwoFactorEvent ι)}
    {before user user' : TwoFactorUser} {returned : ι → List String}
    (h : HoldsReturnedCodes requests returned history before user)
    (hNot : issuesCodes requests event = false)
    (hCodes : user'.totpBackupCodes = user.totpBackupCodes) :
    HoldsReturnedCodes requests returned (event :: history) before user' := by
  unfold HoldsReturnedCodes at h ⊢
  rw [List.find?_cons_of_neg (by simp [hNot]), hCodes]
  exact h

/-- The codes of a call that issues some replace all others. -/
theorem HoldsReturnedCodes.of_issues [Bcrypt] {history : List (TwoFactorEvent ι)}
    {before user : TwoFactorUser} {returned : ι → List String}
    (hIssues : issuesCodes requests event = true)
    (hHashes : HashesOf (returned event.thread) user.totpBackupCodes) :
    HoldsReturnedCodes requests returned (event :: history) before user := by
  rw [HoldsReturnedCodes, List.find?_cons_of_pos hIssues]
  exact hHashes

/-- Only the codes of calls that have made their update count. -/
theorem HoldsReturnedCodes.congr [Bcrypt] {history : List (TwoFactorEvent ι)}
    {before user : TwoFactorUser} {returned returned' : ι → List String}
    (h : HoldsReturnedCodes requests returned history before user)
    (hSame : ∀ event ∈ history, completes event = true →
      returned event.thread = returned' event.thread) :
    HoldsReturnedCodes requests returned' history before user := by
  unfold HoldsReturnedCodes at h ⊢
  cases hLast : history.find? (issuesCodes requests) with
  | none =>
      rw [hLast] at h
      exact h
  | some last =>
      rw [hLast] at h
      have hCompletes := completes_of_issuesCodes (List.find?_some hLast)
      dsimp only
      rw [← hSame last (List.mem_of_find?_eq_some hLast) hCompletes]
      exact h

/-- While two-factor authentication is enabled, its user can log in. -/
def EnabledSoundly [Bcrypt] (requests : ι → TwoFactorRequest) (returned : ι → List String)
    (userId : String) (start : TwoFactorStore) (history : List (TwoFactorEvent ι))
    (store : TwoFactorStore) : Prop :=
  ∀ before user, start.find userId = some before → store.find userId = some user →
    user.totpEnabled = true → HoldsCheckedSecret requests history before user ∧
      HoldsReturnedCodes requests returned history before user

end Statements

section Runs

variable {ι : Type} [Bcrypt] [DecidableEq ι] {userId : String} {requests : ι → TwoFactorRequest}
  {history : List (TwoFactorEvent ι)} {i : ι} {call : TwoFactorCall}
  {before user : TwoFactorUser}

/-- A secret is stored only while two-factor authentication is off, and enabled
only while it is the one that was checked. -/
def updatesWhatItChecked [Otplib] (userId : String) (requests : ι → TwoFactorRequest) :
    Guard twoFactor ι :=
  fun history store i call =>
    match call, stageAfter userId requests history i with
    | .userFindByIdAndUpdate _ _, .storing _ =>
        (store.find userId).all (fun user => !user.totpEnabled) = true
    | .userFindByIdAndUpdate _ _, .enabling _ secret _ =>
        (store.find userId).all (fun user => user.totpSecret = some secret) = true
    | _, _ => True

instance [Otplib] (history : List (TwoFactorEvent ι)) (store : TwoFactorStore) (i : ι)
    (call : TwoFactorCall) :
    Decidable (updatesWhatItChecked userId requests history store i call) := by
  unfold updatesWhatItChecked
  rcases call with ⟨⟩
  case userFindByIdAndUpdate id update =>
    rcases stageAfter userId requests history i with ⟨⟩ <;> infer_instance
  all_goals infer_instance

/-- Who may enable has checked a code against the secret. -/
def Checked (userId : String) (requests : ι → TwoFactorRequest)
    (history : List (TwoFactorEvent ι)) : Prop :=
  ∀ i code secret drawn, stageAfter userId requests history i = .enabling code secret drawn →
    ⟨i, .verifySync code secret, .ok true⟩ ∈ history

omit [DecidableEq ι] in
theorem checked_of_next {stage : TwoFactorStage} {code secret : String} {drawn : List String}
    {response : Except ThrownError call.Answer} (hAllows : (serves userId).allows stage call)
    (h : (serves userId).next stage call response = .enabling code secret drawn) :
    (∃ earlier, stage = .enabling code secret earlier) ∨
      (⟨i, call, response⟩ : TwoFactorEvent ι) = ⟨i, .verifySync code secret, .ok true⟩ := by
  simp only [serves] at h
  split at h
  case h_7 =>
    obtain ⟨rfl, rfl, -⟩ := TwoFactorStage.enabling.inj h
    obtain ⟨rfl, rfl⟩ := hAllows
    exact .inr rfl
  case h_8 _ _ earlier _ _ =>
    obtain ⟨rfl, rfl, -⟩ := TwoFactorStage.enabling.inj h
    exact .inl ⟨earlier, rfl⟩
  case h_11 => exact .inl ⟨drawn, h⟩
  all_goals cases h

theorem Checked.step (h : Checked userId requests history)
    (hAllows : (serves userId).allows (stageAfter userId requests history i) call)
    (response : Except ThrownError call.Answer) :
    Checked userId requests (⟨i, call, response⟩ :: history) := by
  intro j code secret drawn hStage
  by_cases hj : j = i
  · subst hj
    rw [stageAfter, (serves userId).after_cons_self _ ⟨j, call, response⟩] at hStage
    rcases checked_of_next hAllows hStage with ⟨earlier, hOld⟩ | hNow
    · exact List.mem_cons_of_mem _ (h j code secret earlier hOld)
    · exact List.mem_cons.mpr (.inl hNow.symm)
  · rw [stageAfter, (serves userId).after_cons_of_ne _ _ hj] at hStage
    exact List.mem_cons_of_mem _ (h j code secret drawn hStage)

variable {start store : TwoFactorStore}

/-- Enabled soundly, with what the coming updates rely on. -/
structure Enabling (requests : ι → TwoFactorRequest) (userId : String) (start : TwoFactorStore)
    (history : List (TwoFactorEvent ι)) (store : TwoFactorStore) : Prop where
  completed : Completed userId requests history
  checked : Checked userId requests history
  sound : EnabledSoundly requests (drawnBy userId requests history) userId start history store

theorem Enabling.initial : Enabling requests userId start [] start where
  completed _ hEvent := absurd hEvent List.not_mem_nil
  checked := nofun
  sound before user hBefore hUser _ := by
    obtain rfl := Option.some.inj (hBefore.symm.trans hUser)
    exact ⟨rfl, rfl⟩

theorem Enabling.step [Otplib] (decision : TwoFactorDecision)
    (hRequests : ∀ i code, requests i ≠ .consume code)
    (h : Enabling requests userId start history store)
    (hAllows : (serves userId).allows (stageAfter userId requests history i) call)
    (hGuard : updatesWhatItChecked userId requests history store i call) :
    Enabling requests userId start (⟨i, call, (performTwoFactor decision store call).2⟩ :: history)
      (performTwoFactor decision store call).1 := by
  refine ⟨h.completed.step hAllows _, h.checked.step hAllows _, ?_⟩
  intro before user hBefore hUser hEnabled
  have hCodes (found : TwoFactorUser) (hFound : store.find userId = some found)
      (hOn : found.totpEnabled = true) : HoldsReturnedCodes requests (drawnBy userId requests
        (⟨i, call, (performTwoFactor decision store call).2⟩ :: history)) history before found :=
    (h.sound before found hBefore hFound hOn).2.congr fun event hEvent hCompletes =>
      h.completed.drawnBy_eq hAllows _ hEvent hCompletes
  have hRequest := stageAfter_request userId requests history i
  rcases step_cases decision store hAllows with
    ⟨hOpen, hFind⟩ | ⟨update, hMakes, rfl, hCompletes, hFind⟩
  · rw [hFind] at hUser
    have hEnables : enables requests (⟨i, call, (performTwoFactor decision store call).2⟩ :
        TwoFactorEvent ι) = false := by rw [enables, hOpen, Bool.false_and]
    have hIssues : issuesCodes requests (⟨i, call, (performTwoFactor decision store call).2⟩ :
        TwoFactorEvent ι) = false := by rw [issuesCodes, hOpen, Bool.false_and]
    exact ⟨(h.sound before user hBefore hUser hEnabled).1.cons_of_not hEnables rfl,
      (hCodes user hUser hEnabled).cons_of_not hIssues rfl⟩
  rw [hFind] at hUser
  obtain ⟨found, hFound, rfl⟩ := Option.map_eq_some_iff.mp hUser
  generalize (performTwoFactor decision store (.userFindByIdAndUpdate userId update)).2 = response
    at hCompletes hCodes ⊢
  have hDrawn : drawnBy userId requests
      (⟨i, .userFindByIdAndUpdate userId update, response⟩ :: history) i =
        drawnBy userId requests history i := by
    rw [drawnBy, stageAfter_cons_of_completes hCompletes, TwoFactorStage.drawn]
  cases hStage : stageAfter userId requests history i with
  | storing secret =>
      -- The update leaves the flag, which was off.
      rw [hStage] at hMakes
      obtain rfl := hMakes
      have hOn : found.totpEnabled = true := hEnabled
      simp [updatesWhatItChecked, hStage, hFound, hOn] at hGuard
  | enabling code secret drawn =>
      rw [hStage] at hMakes hRequest
      obtain ⟨hashed, hHashes, rfl⟩ := hMakes
      have hEnables : enables requests (⟨i, _, response⟩ : TwoFactorEvent ι) = true := by
        rw [enables, hCompletes, ← hRequest]
        rfl
      have hIssues : issuesCodes requests (⟨i, _, response⟩ : TwoFactorEvent ι) = true := by
        rw [issuesCodes, hCompletes, ← hRequest]
        rfl
      constructor
      · have hSecret : found.totpSecret = some secret := by
          simpa [updatesWhatItChecked, hStage, hFound] using hGuard
        rw [HoldsCheckedSecret, List.find?_cons_of_pos hEnables]
        exact ⟨code, secret, hSecret, List.mem_cons_of_mem _ (h.checked i code secret drawn hStage)⟩
      · apply HoldsReturnedCodes.of_issues hIssues
        rw [hDrawn, drawnBy, hStage]
        exact hHashes
  | disabling password =>
      rw [hStage] at hMakes
      obtain rfl := hMakes
      cases hEnabled
  | regenerating drawn =>
      rw [hStage] at hMakes hRequest
      obtain ⟨hashed, hHashes, rfl⟩ := hMakes
      have hEnables : enables requests (⟨i, _, response⟩ : TwoFactorEvent ι) = false := by
        rw [enables, hCompletes, ← hRequest]
        rfl
      have hIssues : issuesCodes requests (⟨i, _, response⟩ : TwoFactorEvent ι) = true := by
        rw [issuesCodes, hCompletes, ← hRequest]
        rfl
      constructor
      · exact (h.sound before found hBefore hFound hEnabled).1.cons_of_not hEnables rfl
      · apply HoldsReturnedCodes.of_issues hIssues
        rw [hDrawn, drawnBy, hStage]
        exact hHashes
  | matched code codes =>
      rw [hStage] at hRequest
      exact absurd hRequest.symm (hRequests i code)
  | _ =>
      rw [hStage] at hMakes
      exact hMakes.elim

/-- Two-factor authentication stays sound, in every run in which each update is
made while what the call has checked still holds. -/
theorem enabledSoundly_of_updatesWhatItChecked [Otplib] {point : Point twoFactor ι (List String)}
    (hRequests : ∀ i code, requests i ≠ .consume code)
    (run : GuardedRun (updatesWhatItChecked userId requests) (twoFactorPool store userId requests)
      point) :
    EnabledSoundly requests (codesOf point.2) userId store point.1 point.2.store := by
  have hInv : Enabling requests userId store point.1 point.2.store :=
    GuardedRun.invariant (serves userId) (fun i => .starting (requests i)) run
      (fun i => perform_serves (requests i)) (Enabling requests userId store) .initial
      fun _ _ _ _ _ h hAllows hGuard => h.step _ hRequests hAllows hGuard
  intro before user hBefore hUser hEnabled
  obtain ⟨hSecret, hCodes⟩ := hInv.sound before user hBefore hUser hEnabled
  refine ⟨hSecret, hCodes.congr fun event hEvent hCompletes => ?_⟩
  obtain ⟨codes, hReturned⟩ := hInv.completed event hEvent hCompletes
  exact (congrArg TwoFactorStage.drawn hReturned).trans (codesOf_eq run hReturned).symm

end Runs

section Samples

/-- A user who has been shown a secret and has yet to verify a code. -/
def sampleNewcomer : TwoFactorUser where
  id := .repeated 1
  email := "user@navin.test"
  passwordHash := "password"
  totpSecret := some "shown"

def sampleSetupStore : TwoFactorStore :=
  { users := ⟨[sampleNewcomer], List.nodup_singleton _⟩ }

/-- One request verifies a code for the secret, the other sets up another one. -/
def verifyOrSetup : Bool → TwoFactorRequest
  | true => .verify "shown"
  | false => .setup

abbrev sampleSetups : Pool (@twoFactor sampleOtplib) Bool (List String) :=
  @twoFactorPool Bool plainBcrypt sampleOtplib sampleSetupStore (ObjectId.repeated 1).toString
    verifyOrSetup

/-- The first few calls of one request, then the first few of the other. -/
def setupSchedule (calls : List (Bool × Nat)) : List (TwoFactorDecision × Bool) :=
  calls.flatMap fun (thread, count) => List.replicate count ({ secret := "drawn" }, thread)

/-- The user is enabled with a secret that no call has checked. -/
def enabledUnchecked (point : Point (@twoFactor sampleOtplib) Bool (List String)) : Bool :=
  (point.1.find? (enables verifyOrSetup)).isSome &&
    (point.2.store.find (ObjectId.repeated 1).toString).any fun user =>
      user.totpEnabled && point.1.all fun event =>
        match event.request with
        | .verifySync _ secret => user.totpSecret ≠ some secret
        | _ => true

/-- After the verification, the setup is turned away. -/
theorem enabledSoundly_of_updatesWhatItChecked_sample :
    ∃ point : Point (@twoFactor sampleOtplib) Bool (List String),
      GuardedRun (@updatesWhatItChecked Bool plainBcrypt _ sampleOtplib
        (ObjectId.repeated 1).toString verifyOrSetup) sampleSetups point ∧
      (point.2.thread true).succeeded = true ∧ (point.2.thread false).settled?.isSome = true ∧
      @EnabledSoundly Bool plainBcrypt verifyOrSetup (@codesOf Bool sampleOtplib point.2)
        (ObjectId.repeated 1).toString sampleSetupStore point.1 point.2.store := by
  obtain ⟨point, run, hTest⟩ := @Pool.exists_run _ _ _ Bool _ (@twoFactor sampleOtplib) _
    (@updatesWhatItChecked Bool plainBcrypt _ sampleOtplib (ObjectId.repeated 1).toString
      verifyOrSetup)
    (@instDecidableUpdatesWhatItChecked Bool plainBcrypt _ _ _ sampleOtplib) sampleSetups
    (fun point => (point.2.thread true).succeeded && (point.2.thread false).settled?.isSome)
    (setupSchedule [(true, 23), (false, 1)]) (by decide +kernel)
  rw [Bool.and_eq_true] at hTest
  refine ⟨point, run, hTest.1, hTest.2, ?_⟩
  exact @enabledSoundly_of_updatesWhatItChecked _ plainBcrypt _ _ _ _ sampleOtplib _
    (by intro i code; cases i <;> nofun) run

/-- A setup that began before the verification stores its secret after it. -/
theorem setup_replaces_verified_secret :
    ¬∀ (_ : Bcrypt) (_ : Otplib) (store : TwoFactorStore) (userId : String)
      (requests : Bool → TwoFactorRequest) (point : Point twoFactor Bool (List String)),
      (∀ i code, requests i ≠ .consume code) →
      GuardedRun anyStep (twoFactorPool store userId requests) point →
      EnabledSoundly requests (codesOf point.2) userId store point.1 point.2.store := by
  intro hSound
  obtain ⟨point, run, hTest⟩ := @Pool.exists_run _ _ _ Bool _ (@twoFactor sampleOtplib) _ anyStep _
    sampleSetups enabledUnchecked
    (setupSchedule [(false, 2), (true, 23), (false, 1)]) (by decide +kernel)
  have hSoundly := hSound plainBcrypt sampleOtplib sampleSetupStore _ verifyOrSetup point
    (by intro i code; cases i <;> nofun) run
  rw [enabledUnchecked, Bool.and_eq_true, Option.isSome_iff_exists, Option.any_eq_true] at hTest
  obtain ⟨⟨last, hLast⟩, user, hUser, hUnchecked⟩ := hTest
  rw [Bool.and_eq_true, List.all_eq_true] at hUnchecked
  have hStart : sampleSetupStore.find (ObjectId.repeated 1).toString = some sampleNewcomer := by
    decide +kernel
  have hHolds := (hSoundly sampleNewcomer user hStart hUser hUnchecked.1).1
  rw [HoldsCheckedSecret, hLast] at hHolds
  obtain ⟨code, secret, hSecret, hChecked⟩ := hHolds
  have hOther := of_decide_eq_true (hUnchecked.2 _ hChecked)
  exact hOther hSecret

end Samples

end Navin.TwoFactor
