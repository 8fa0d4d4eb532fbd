import Navin.TwoFactor.Requests

/-! Is every backup code good for one login? A call that consumes a code looks
through the hashes it has read, and writes back the rest of them. -/
namespace Navin.TwoFactor

open Async

section Counting

variable {α : Type} {p : α → Bool} {l : List α} {i : Nat}

/-- Removing the first match leaves one match fewer. -/
theorem countP_eraseIdx_findIdx? (h : l.findIdx? p = some i) :
    (l.eraseIdx i).countP p + 1 = l.countP p := by
  induction l generalizing i with
  | nil => cases h
  | cons a rest ih =>
      rw [List.findIdx?_cons] at h
      by_cases hMatch : p a = true
      · rw [if_pos hMatch] at h
        obtain rfl := Option.some.inj h
        simp [hMatch]
      · rw [if_neg hMatch] at h
        obtain ⟨j, hRest, rfl⟩ := Option.map_eq_some_iff.mp h
        simpa [hMatch] using ih hRest

end Counting

/-- `bcrypt` taken as an injective hash: only the text itself matches. -/
def InjectiveBcrypt (_ : Bcrypt) : Prop :=
  ∀ password other rounds salt,
    Bcrypt.compare password (Bcrypt.hash other rounds salt) = true ↔ password = other

section Hashes

variable [bcrypt : Bcrypt] {codes hashes : List String}

/-- Under an injective hash, as many hashes match a code as there are copies of it. -/
theorem HashesOf.countP_compare (hBcrypt : InjectiveBcrypt bcrypt) (h : HashesOf codes hashes)
    (code : String) : hashes.countP (Bcrypt.compare code) = codes.count code := by
  induction h with
  | nil => rfl
  | @cons drawn hash codes hashes hHash _ ih =>
      obtain ⟨salt, rfl⟩ := hHash
      rw [List.countP_cons, List.count_cons, ih]
      by_cases hSame : code = drawn
      · rw [if_pos ((hBcrypt code drawn _ salt).mpr hSame), hSame, beq_self_eq_true, if_pos rfl]
      · rw [if_neg (fun hMatch => hSame ((hBcrypt code drawn _ salt).mp hMatch)),
          if_neg (by simpa using Ne.symm hSame)]

theorem HashesOf.mem_of_compare (hBcrypt : InjectiveBcrypt bcrypt) (h : HashesOf codes hashes)
    {code hash : String} (hHash : hash ∈ hashes) (hMatch : Bcrypt.compare code hash = true) :
    code ∈ codes := by
  rw [← List.count_pos_iff, ← h.countP_compare hBcrypt code]
  exact List.countP_pos_iff.mpr ⟨hash, hHash, hMatch⟩

end Hashes

def storedHashes (userId : String) (store : TwoFactorStore) : Option (List String) :=
  (store.find userId).map (·.totpBackupCodes)

variable {ι : Type}

/-- A backup code is accepted with the update that removes its hash. -/
def accepts (requests : ι → TwoFactorRequest) (code : String) (event : TwoFactorEvent ι) : Bool :=
  completes event && requests event.thread = .consume code

/-- The stored hashes are replaced by those of other codes, or of none. -/
def replaces (requests : ι → TwoFactorRequest) (event : TwoFactorEvent ι) : Bool :=
  completes event && match requests event.thread with
    | .setup | .consume _ => false
    | _ => true

theorem completes_of_replaces {requests : ι → TwoFactorRequest} {event : TwoFactorEvent ι}
    (h : replaces requests event = true) : completes event = true := by
  rw [replaces, Bool.and_eq_true] at h
  exact h.1

/-- How often a code was issued; `returned` are the codes that calls have returned. -/
def issued (requests : ι → TwoFactorRequest) (returned : ι → List String)
    (history : List (TwoFactorEvent ι)) (code : String) : Nat :=
  ((history.filter (replaces requests)).map fun event => (returned event.thread).count code).sum

section Statements

variable [Bcrypt]

/-- How many of the stored hashes the code matches. -/
def storedCodes (userId : String) (store : TwoFactorStore) (code : String) : Nat :=
  (storedHashes userId store).elim 0 fun hashes => hashes.countP (Bcrypt.compare code)

/-- A code is accepted at most as often as it was issued, what was accepted is
gone from the stored list, and once the codes have been replaced only those that
replaced them are accepted. -/
structure CodesAccounted (requests : ι → TwoFactorRequest) (returned : ι → List String)
    (userId : String) (start : TwoFactorStore) (history : List (TwoFactorEvent ι))
    (store : TwoFactorStore) : Prop where
  spent : ∀ code, history.countP (accepts requests code) + storedCodes userId store code ≤
    storedCodes userId start code + issued requests returned history code
  superseded : ∀ later event earlier code, history = later ++ event :: earlier →
    accepts requests code event = true → ∀ last, earlier.find? (replaces requests) = some last →
    code ∈ returned last.thread

/-- Backup codes are single-use: a code that was issued once logs in once, and all
codes are accounted for. -/
structure SingleUse [Otplib] (requests : ι → TwoFactorRequest) (userId : String)
    (start : TwoFactorStore) (point : Point twoFactor ι (List String)) : Prop where
  once : ∀ code, storedCodes userId start code + issued requests (codesOf point.2) point.1 code ≤ 1 →
    ∀ i j, requests i = .consume code → requests j = .consume code →
      (point.2.thread i).succeeded = true → (point.2.thread j).succeeded = true → i = j
  accounted : CodesAccounted requests (codesOf point.2) userId start point.1 point.2.store

end Statements

section Runs

variable [bcrypt : Bcrypt] [DecidableEq ι] {userId : String} {requests : ι → TwoFactorRequest}
  {history : List (TwoFactorEvent ι)} {i : ι} {call : TwoFactorCall} {stage : TwoFactorStage}
  {update : TwoFactorUpdate}

/-- A code is removed only from the list it was found in. -/
def findsWhatItRead [Otplib] (userId : String) (requests : ι → TwoFactorRequest) :
    Guard twoFactor ι :=
  fun history store i call =>
    match call, stageAfter userId requests history i with
    | .userFindByIdAndUpdate _ _, .matched _ codes =>
        storedHashes userId store = some codes
    | _, _ => True

instance [Otplib] (history : List (TwoFactorEvent ι)) (store : TwoFactorStore) (i : ι)
    (call : TwoFactorCall) : Decidable (findsWhatItRead userId requests history store i call) := by
  unfold findsWhatItRead
  split <;> infer_instance

omit [DecidableEq ι] in
/-- What an update does to the stored hashes. -/
theorem makes_cases (h : stage.makes update) :
    (∃ code codes matchIndex, stage = .matched code codes ∧
      codes.findIdx? (Bcrypt.compare code) = some matchIndex ∧
      update.totpBackupCodes = some (codes.eraseIdx matchIndex)) ∨
    (stage.request = .setup ∧ update.totpBackupCodes = none) ∨
    (∃ hashed, HashesOf stage.drawn hashed ∧ update.totpBackupCodes = some hashed ∧
      stage.request ≠ .setup ∧ ∀ code, stage.request ≠ .consume code) := by
  cases stage with
  | storing secret =>
      obtain rfl := h
      exact .inr (.inl ⟨rfl, rfl⟩)
  | enabling code secret drawn =>
      obtain ⟨hashed, hHashes, rfl⟩ := h
      exact .inr (.inr ⟨hashed, hHashes, rfl, nofun, nofun⟩)
  | disabling password =>
      obtain rfl := h
      exact .inr (.inr ⟨[], .nil, rfl, nofun, nofun⟩)
  | regenerating drawn =>
      obtain ⟨hashed, hHashes, rfl⟩ := h
      exact .inr (.inr ⟨hashed, hHashes, rfl, nofun, nofun⟩)
  | matched code codes =>
      obtain ⟨matchIndex, hMatch, rfl⟩ := h
      exact .inl ⟨code, codes, matchIndex, rfl, hMatch, rfl⟩
  | _ => exact h.elim

/-- The codes are accounted for, and the stored hashes are those of the latest
replacement. -/
structure CodeAccounting (requests : ι → TwoFactorRequest) (userId : String)
    (start : TwoFactorStore) (history : List (TwoFactorEvent ι)) (store : TwoFactorStore) :
    Prop where
  completed : Completed userId requests history
  current : ∀ last, history.find? (replaces requests) = some last → ∀ hashes,
    storedHashes userId store = some hashes → ∀ hash ∈ hashes, ∀ code,
    Bcrypt.compare code hash = true → code ∈ drawnBy userId requests history last.thread
  accounted : CodesAccounted requests (drawnBy userId requests history) userId start history store

variable {start store : TwoFactorStore}

theorem CodeAccounting.initial : CodeAccounting requests userId start [] start where
  completed _ hEvent := absurd hEvent List.not_mem_nil
  current _ hLast := nomatch hLast
  accounted :=
    { spent := by simp [issued]
      superseded := by simp }

omit [Bcrypt] [DecidableEq ι] in
/-- Only the codes of calls that have made their update count as issued. -/
theorem issued_congr {returned returned' : ι → List String}
    (h : ∀ event ∈ history, completes event = true →
      returned event.thread = returned' event.thread) (code : String) :
    issued requests returned history code = issued requests returned' history code := by
  unfold issued
  refine congrArg List.sum (List.map_congr_left fun event hEvent => ?_)
  obtain ⟨hMem, hReplaces⟩ := List.mem_filter.mp hEvent
  rw [h event hMem (completes_of_replaces hReplaces)]

omit [DecidableEq ι] in
theorem CodesAccounted.congr {returned returned' : ι → List String}
    (h : CodesAccounted requests returned userId start history store)
    (hSame : ∀ event ∈ history, completes event = true →
      returned event.thread = returned' event.thread) :
    CodesAccounted requests returned' userId start history store where
  spent code := by
    rw [← issued_congr hSame]
    exact h.spent code
  superseded later event earlier code hHistory hAccepts last hLast := by
    have hMem : last ∈ history := by
      rw [hHistory]
      exact List.mem_append_right _ (List.mem_cons_of_mem _ (List.mem_of_find?_eq_some hLast))
    rw [← hSame last hMem (completes_of_replaces (List.find?_some hLast))]
    exact h.superseded later event earlier code hHistory hAccepts last hLast

omit [DecidableEq ι] in
/-- One more event is accounted for when the codes it takes from the store are
those it accepts, up to the ones it issues. -/
theorem CodesAccounted.cons {returned : ι → List String} {event : TwoFactorEvent ι}
    {store' : TwoFactorStore} (h : CodesAccounted requests returned userId start history store)
    (hSpent : ∀ code, (if accepts requests code event then 1 else 0) +
        storedCodes userId store' code ≤ storedCodes userId store code +
          if replaces requests event then (returned event.thread).count code else 0)
    (hCurrent : ∀ code, accepts requests code event = true → ∀ last,
      history.find? (replaces requests) = some last → code ∈ returned last.thread) :
    CodesAccounted requests returned userId start (event :: history) store' where
  spent code := by
    have hBefore := h.spent code
    have hNow := hSpent code
    rw [List.countP_cons]
    have hIssued : issued requests returned (event :: history) code =
        (if replaces requests event then (returned event.thread).count code else 0) +
          issued requests returned history code := by
      rw [issued, List.filter_cons]
      split <;> simp [issued]
    omega
  superseded later other earlier code hHistory hAccepts last hLast := by
    cases later with
    | nil =>
        obtain ⟨rfl, rfl⟩ := List.cons.inj hHistory
        exact hCurrent code hAccepts last hLast
    | cons first later =>
        exact h.superseded later other earlier code (List.cons.inj hHistory).2 hAccepts last hLast

variable [Otplib]

/-- What a step does to the stored hashes: nothing, or it removes the one that it
accepts, or it replaces them all by those of the codes it has drawn. -/
theorem hashes_cases (decision : TwoFactorDecision)
    (hAllows : (serves userId).allows (stageAfter userId requests history i) call)
    (hGuard : findsWhatItRead userId requests history store i call) {event : TwoFactorEvent ι}
    (hEvent : event = ⟨i, call, (performTwoFactor decision store call).2⟩) :
    (replaces requests event = false ∧ (∀ code, accepts requests code event = false) ∧
      storedHashes userId (performTwoFactor decision store call).1 = storedHashes userId store) ∨
    (∃ code hashes matchIndex, replaces requests event = false ∧
      (∀ other, accepts requests other event = decide (code = other)) ∧
      storedHashes userId store = some hashes ∧
      hashes.findIdx? (Bcrypt.compare code) = some matchIndex ∧
      storedHashes userId (performTwoFactor decision store call).1 =
        some (hashes.eraseIdx matchIndex)) ∨
    (∃ hashes, replaces requests event = true ∧ (∀ code, accepts requests code event = false) ∧
      HashesOf (drawnBy userId requests history i) hashes ∧
      storedHashes userId (performTwoFactor decision store call).1 =
        (storedHashes userId store).map fun _ => hashes) := by
  subst hEvent
  have hRequest := stageAfter_request userId requests history i
  rcases step_cases decision store hAllows with
    ⟨hOpen, hFind⟩ | ⟨update, hMakes, rfl, hCompletes, hFind⟩
  · refine .inl ⟨?_, fun code => ?_, by rw [storedHashes, hFind, storedHashes]⟩
    · rw [replaces, hOpen, Bool.false_and]
    · rw [accepts, hOpen, Bool.false_and]
  have hStored : storedHashes userId
      (performTwoFactor decision store (.userFindByIdAndUpdate userId update)).1 =
      (storedHashes userId store).map update.totpBackupCodes.getD := by
    rw [storedHashes, storedHashes, hFind, Option.map_map, Option.map_map]
    rfl
  rw [hStored]
  simp only [accepts, replaces, hCompletes, Bool.true_and, ← hRequest]
  rcases makes_cases hMakes with ⟨code, codes, matchIndex, hStage, hMatch, hCodes⟩ |
    ⟨hSetup, hCodes⟩ | ⟨hashes, hHashes, hCodes, hNotSetup, hNotConsume⟩
  · simp only [findsWhatItRead, hStage] at hGuard
    refine .inr (.inl ⟨code, codes, matchIndex, ?_, fun other => ?_, hGuard, hMatch, ?_⟩)
    · rw [hStage, TwoFactorStage.request]
    · simp only [hStage, TwoFactorStage.request, TwoFactorRequest.consume.injEq]
    · rw [hGuard, hCodes]
      rfl
  · refine .inl ⟨?_, fun code => ?_, ?_⟩
    · rw [hSetup]
    · rw [hSetup]
      rfl
    · rw [hCodes]
      cases storedHashes userId store <;> rfl
  · refine .inr (.inr ⟨hashes, ?_, fun code => ?_, hHashes, ?_⟩)
    · split
      · contradiction
      · rename_i code hConsume
        exact absurd hConsume (hNotConsume code)
      · rfl
    · exact decide_eq_false (hNotConsume code)
    · rw [hCodes]
      rfl

/-- Every allowed step that finds what it has read keeps the codes accounted for. -/
theorem CodeAccounting.step (decision : TwoFactorDecision) (hBcrypt : InjectiveBcrypt bcrypt)
    (h : CodeAccounting requests userId start history store)
    (hAllows : (serves userId).allows (stageAfter userId requests history i) call)
    (hGuard : findsWhatItRead userId requests history store i call) :
    CodeAccounting requests userId start
      (⟨i, call, (performTwoFactor decision store call).2⟩ :: history)
      (performTwoFactor decision store call).1 := by
  have hCompleted := h.completed.step hAllows (performTwoFactor decision store call).2
  have hAccounted := h.accounted.congr fun event hEvent hCompletes =>
    h.completed.drawnBy_eq hAllows (performTwoFactor decision store call).2 hEvent hCompletes
  have hCurrent (last : TwoFactorEvent ι) (hLast : history.find? (replaces requests) = some last)
      (hashes : List String) (hHashes : storedHashes userId store = some hashes) (hash : String)
      (hHash : hash ∈ hashes) (code : String) (hMatch : Bcrypt.compare code hash = true) :
      code ∈ drawnBy userId requests
        (⟨i, call, (performTwoFactor decision store call).2⟩ :: history) last.thread := by
    have hCompletes := completes_of_replaces (List.find?_some hLast)
    rw [← h.completed.drawnBy_eq hAllows _ (List.mem_of_find?_eq_some hLast) hCompletes]
    exact h.current last hLast hashes hHashes hash hHash code hMatch
  refine ⟨hCompleted, ?_, ?_⟩
  · rcases hashes_cases decision hAllows hGuard rfl with
      ⟨hReplaces, -, hStored⟩ |
      ⟨code, hashes, matchIndex, hReplaces, -, hBefore, -, hStored⟩ |
      ⟨hashes, hReplaces, -, hHashes, hStored⟩
    · rw [List.find?_cons_of_neg (by simp [hReplaces]), hStored]
      exact hCurrent
    · rw [List.find?_cons_of_neg (by simp [hReplaces]), hStored]
      intro last hLast rest hRest hash hHash
      obtain rfl := Option.some.inj hRest
      exact hCurrent last hLast hashes hBefore hash (List.mem_of_mem_eraseIdx hHash)
    · rw [List.find?_cons_of_pos hReplaces, hStored]
      intro last hLast rest hRest hash hHash code hMatch
      obtain rfl := Option.some.inj hLast
      obtain ⟨-, -, rfl⟩ := Option.map_eq_some_iff.mp hRest
      rw [drawnBy, stageAfter_cons_of_completes (completes_of_replaces hReplaces)]
      exact hHashes.mem_of_compare hBcrypt hHash hMatch
  · rcases hashes_cases decision hAllows hGuard rfl with
      ⟨hReplaces, hAccepts, hStored⟩ |
      ⟨code, hashes, matchIndex, hReplaces, hAccepts, hBefore, hMatch, hStored⟩ |
      ⟨hashes, hReplaces, hAccepts, hHashes, hStored⟩
    · refine hAccounted.cons (fun code => ?_) fun code hCode => ?_
      · simp [hReplaces, hAccepts, storedCodes, hStored]
      · rw [hAccepts] at hCode
        cases hCode
    · refine hAccounted.cons (fun other => ?_) fun other hCode last hLast => ?_
      · simp only [hReplaces, hAccepts, storedCodes, hStored, hBefore, Option.elim_some]
        by_cases hSame : code = other
        · subst hSame
          have hOneFewer := countP_eraseIdx_findIdx? hMatch
          simp only [decide_true, if_true]
          omega
        · have hFewer := (List.eraseIdx_sublist hashes matchIndex).countP_le
            (p := Bcrypt.compare other)
          simp only [hSame, decide_false, Bool.false_eq_true, if_false]
          omega
      · rw [hAccepts, decide_eq_true_eq] at hCode
        subst hCode
        obtain ⟨hIndex, hMatches, -⟩ := List.findIdx?_eq_some_iff_getElem.mp hMatch
        exact hCurrent last hLast hashes hBefore _ (List.getElem_mem hIndex) code hMatches
    · refine hAccounted.cons (fun code => ?_) fun code hCode => ?_
      · rw [hAccepts, if_neg Bool.false_ne_true, if_pos hReplaces, drawnBy,
          stageAfter_cons_of_completes (completes_of_replaces hReplaces)]
        have hCount := hHashes.countP_compare hBcrypt code
        simp only [storedCodes, hStored]
        cases storedHashes userId store with
        | none => simp
        | some before =>
            simp only [Option.map_some, Option.elim_some, hCount, TwoFactorStage.drawn]
            omega
      · rw [hAccepts] at hCode
        cases hCode

/-- Backup codes are single-use, in every run in which each code is removed from
the list it was found in. -/
theorem singleUse_of_findsWhatItRead {point : Point twoFactor ι (List String)}
    (hBcrypt : InjectiveBcrypt bcrypt)
    (run : GuardedRun (findsWhatItRead userId requests) (twoFactorPool store userId requests)
      point) : SingleUse requests userId store point := by
  have hInv : CodeAccounting requests userId store point.1 point.2.store :=
    GuardedRun.invariant (serves userId) (fun i => .starting (requests i)) run
      (fun i => perform_serves (requests i)) (CodeAccounting requests userId store) .initial
      fun _ _ _ _ _ h hAllows hGuard => h.step _ hBcrypt hAllows hGuard
  have hAccounted := hInv.accounted.congr fun event hEvent hCompletes => by
    obtain ⟨codes, hReturned⟩ := hInv.completed event hEvent hCompletes
    exact (congrArg TwoFactorStage.drawn hReturned).trans (codesOf_eq run hReturned).symm
  refine ⟨fun code hIssued i j hI hJ hDoneI hDoneJ => ?_, hAccounted⟩
  -- Each of the two calls has made an update that accepts the code.
  have hEvent (k : ι) (hRequest : requests k = .consume code)
      (hDone : (point.2.thread k).succeeded = true) :
      ∃ event ∈ point.1.filter (accepts requests code), event.thread = k := by
    obtain ⟨codes, hResult⟩ := Program.succeeded_iff.mp hDone
    obtain ⟨event, hMem, rfl, hCompletes⟩ :=
      completes_of_returned ((done_iff run k codes).mp hResult)
    refine ⟨event, List.mem_filter.mpr ⟨hMem, ?_⟩, rfl⟩
    rw [accepts, hCompletes, hRequest, Bool.true_and, decide_eq_true rfl]
  have hCount : (point.1.filter (accepts requests code)).length ≤ 1 := by
    have hSpent := hAccounted.spent code
    rw [List.countP_eq_length_filter] at hSpent
    omega
  obtain ⟨first, hFirst, rfl⟩ := hEvent i hI hDoneI
  obtain ⟨second, hSecond, rfl⟩ := hEvent j hJ hDoneJ
  rcases hAccepted : point.1.filter (accepts requests code) with _ | ⟨only, _ | ⟨other, rest⟩⟩
  · rw [hAccepted] at hFirst
    cases hFirst
  · rw [hAccepted, List.mem_singleton] at hFirst hSecond
    rw [hFirst, hSecond]
  · rw [hAccepted] at hCount
    simp at hCount

end Runs

section Samples

/-- A hash that is its own text. -/
@[reducible] def plainBcrypt : Bcrypt :=
  ⟨fun password _ _ => password, fun password passwordHash => password = passwordHash⟩

@[reducible] def sampleOtplib : Otplib :=
  ⟨fun _ _ secret => secret, fun token secret _ => token = secret⟩

/-- A user with one backup code left. -/
def sampleUser : TwoFactorUser where
  id := .repeated 1
  email := "user@navin.test"
  passwordHash := "password"
  totpSecret := some "secret"
  totpEnabled := true
  totpBackupCodes := ["a0"]

def sampleStore : TwoFactorStore :=
  { users := ⟨[sampleUser], List.nodup_singleton _⟩ }

/-- Two logins with the same backup code. -/
abbrev sampleLogins : Pool (@twoFactor sampleOtplib) Bool (List String) :=
  @twoFactorPool Bool plainBcrypt sampleOtplib sampleStore (ObjectId.repeated 1).toString
    fun _ => .consume "a0"

theorem plainBcrypt_injective : InjectiveBcrypt plainBcrypt :=
  fun _ _ _ _ => decide_eq_true_iff

/-- One after the other, the second login is turned away. -/
theorem singleUse_of_findsWhatItRead_sample :
    ∃ point : Point (@twoFactor sampleOtplib) Bool (List String),
      GuardedRun (@findsWhatItRead Bool plainBcrypt _ sampleOtplib (ObjectId.repeated 1).toString
        fun _ => .consume "a0") sampleLogins point ∧
      (point.2.thread true).settled?.isSome = true ∧
      (point.2.thread false).settled?.isSome = true ∧
      @SingleUse Bool plainBcrypt sampleOtplib (fun _ => .consume "a0")
        (ObjectId.repeated 1).toString sampleStore point := by
  obtain ⟨point, run, hTest⟩ := @Pool.exists_run _ _ _ Bool _ (@twoFactor sampleOtplib) _
    (@findsWhatItRead Bool plainBcrypt _ sampleOtplib (ObjectId.repeated 1).toString
      fun _ => .consume "a0") _ sampleLogins
    (fun point => (point.2.thread true).settled?.isSome && (point.2.thread false).settled?.isSome)
    [({}, true), ({}, true), ({}, false)] (by decide +kernel)
  rw [Bool.and_eq_true] at hTest
  exact ⟨point, run, hTest.1, hTest.2,
    @singleUse_of_findsWhatItRead _ plainBcrypt _ _ _ _ sampleOtplib _ plainBcrypt_injective run⟩

/-- Both logins read the user before either updates it, and both succeed. -/
theorem backup_code_logs_in_twice :
    ¬∀ (bcrypt : Bcrypt) (_ : Otplib) (store : TwoFactorStore) (userId : String)
      (requests : Bool → TwoFactorRequest) (point : Point twoFactor Bool (List String)),
      InjectiveBcrypt bcrypt →
      (∀ i, requests i = .regenerate ∨ ∃ code, requests i = .consume code) →
      GuardedRun anyStep (twoFactorPool store userId requests) point →
      SingleUse requests userId store point := by
  intro hSingle
  obtain ⟨point, run, hTest⟩ := @Pool.exists_run _ _ _ Bool _ (@twoFactor sampleOtplib) _ anyStep _
    sampleLogins
    (fun point => ((point.2.thread true).succeeded && (point.2.thread false).succeeded) &&
      decide (@storedCodes plainBcrypt (ObjectId.repeated 1).toString sampleStore "a0" +
        issued (fun _ => .consume "a0") (@codesOf Bool sampleOtplib point.2) point.1 "a0" ≤ 1))
    [({}, true), ({}, false), ({}, true), ({}, false)] (by decide +kernel)
  rw [Bool.and_eq_true, Bool.and_eq_true, decide_eq_true_iff] at hTest
  have hUse := hSingle plainBcrypt sampleOtplib sampleStore _ (fun _ => .consume "a0") point
    plainBcrypt_injective (fun _ => .inr ⟨_, rfl⟩) run
  have hSame := @SingleUse.once _ plainBcrypt sampleOtplib _ _ _ _ hUse "a0" hTest.2 true false
    rfl rfl hTest.1.1 hTest.1.2
  cases hSame

end Samples

end Navin.TwoFactor
