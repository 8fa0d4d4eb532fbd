import Navin.Notifications.SmsOtp
import Navin.Semantics.Since

/-! When is a phone verified? Sends and verifications of any users run at the same time, and
every call may fail. -/
namespace Navin.SmsOtp

open Async

section Values

/-- What the calls write to Redis. -/
def OtpCall.writes : OtpCall → String → Write String
  | .setex setKey seconds value, key =>
      if setKey = key then .put value (seconds * 1000 : Nat) else .keep
  | .del delKey, key => if delKey = key then .remove else .keep
  | _, _ => .keep

/-- What the calls read from Redis. -/
def OtpCall.reads : (call : OtpCall) → call.Answer → String → Option String
  | .get getKey, value, key => if getKey = key then value else none
  | _, _, _ => none

theorem setex_of_put {call : OtpCall} {key value : String} {ms : Int}
    (h : call.writes key = .put value ms) :
    ∃ seconds : Nat, call = .setex key seconds value ∧ ms = (seconds * 1000 : Nat) := by
  cases call with
  | setex setKey seconds setValue =>
      by_cases hKey : setKey = key
      · simp only [OtpCall.writes, if_pos hKey, Write.put.injEq] at h
        exact ⟨seconds, by rw [hKey, h.1], h.2.symm⟩
      · simp [OtpCall.writes, hKey] at h
  | del delKey =>
      by_cases hKey : delKey = key <;> simp [OtpCall.writes, hKey] at h
  | _ => cases h

variable [RedisTtl] {decision : OtpDecision} {store : OtpStore} {call : OtpCall} {key : String}

theorem execute_clock (draw : Nat) : (execute draw store call).1.clock = store.clock := by
  cases call with
  | findByIdAndUpdateUser userId phone =>
      simp only [execute, castingId]
      split
      · rfl
      · split <;> rfl
  | _ => rfl

theorem execute_values (draw : Nat) : (execute draw store call).1.values key =
    (call.writes key).apply store.clock (store.values key) := by
  cases call with
  | setex setKey seconds value =>
      by_cases hKey : setKey = key
      · simp [execute, OtpCall.writes, hKey, Write.apply]
      · simp [execute, OtpCall.writes, hKey, Ne.symm hKey, Write.apply]
  | del delKey =>
      by_cases hKey : delKey = key
      · simp [execute, OtpCall.writes, hKey, Write.apply]
      · simp [execute, OtpCall.writes, hKey, Ne.symm hKey, Write.apply]
  | findByIdAndUpdateUser userId phone =>
      simp only [execute, castingId]
      split
      · rfl
      · split <;> rfl
  | ttl | randomInt | createMessage | get => rfl

theorem execute_users (draw : Nat) : (execute draw store call).1.users = store.users ∨
    ∃ userId phone id, call = .findByIdAndUpdateUser userId phone ∧
      ObjectId.cast? userId = some id ∧
      (execute draw store call).1.users = store.users.modify id (·.verified phone) fun _ => rfl := by
  cases call with
  | findByIdAndUpdateUser userId phone =>
      simp only [execute, castingId]
      cases hId : ObjectId.cast? userId with
      | none => exact .inl rfl
      | some id =>
          dsimp only
          split
          · exact .inl rfl
          · exact .inr ⟨userId, phone, id, rfl, hId, rfl⟩
  | _ => exact .inl rfl

variable (decision store call) in
/-- The users change by a verification only. -/
theorem perform_users : ((otps.perform decision store call).1 : OtpStore).users = store.users ∨
    ∃ userId phone id, call = .findByIdAndUpdateUser userId phone ∧
      ObjectId.cast? userId = some id ∧
      ((otps.perform decision store call).1 : OtpStore).users =
        store.users.modify id (·.verified phone) fun _ => rfl := by
  have hEffect := @execute_users _ (store.wait decision.elapsed) call decision.draw
  rcases faultedBy_cases with hDone | ⟨-, hSame⟩
  · have hUsers := congrArg OtpStore.users hDone
    rcases hEffect with hKept | ⟨userId, phone, id, hCall, hId, hModified⟩
    · exact .inl (hUsers.trans hKept)
    · exact .inr ⟨userId, phone, id, hCall, hId, hUsers.trans hModified⟩
  · have hKept := congrArg OtpStore.users hSame
    exact .inl hKept

theorem perform_clock : ((otps.perform decision store call).1 : OtpStore).clock =
    store.clock + decision.elapsed :=
  faultedBy_view OtpStore.clock (execute_clock _)

theorem clock_le_perform (decision : OtpDecision) (store : OtpStore) (call : OtpCall) :
    store.clock ≤ ((otps.perform decision store call).1 : OtpStore).clock := by
  rw [perform_clock]
  omega

/-- The passwords that wait to be presented. -/
def waitingOtps : ExpiringValues otps OtpStore.clock String String where
  entries := OtpStore.values
  writes := OtpCall.writes
  reads := OtpCall.reads
  written decision store call key := by
    rw [perform_clock]
    rcases faultedBy_cases with hEffect | ⟨hError, hSame⟩
    · exact .inl ((congrArg (OtpStore.values · key) hEffect).trans (execute_values _))
    · have hKept := congrArg (OtpStore.values · key) hSame
      exact .inr ⟨hError, hKept⟩
  read decision store call answer key value hAnswer hRead := by
    rw [perform_clock]
    cases call with
    | get getKey =>
        have hPerform := (congrArg Prod.snd (faultedBy_ok hAnswer)).symm.trans hAnswer
        cases hPerform
        by_cases hKey : getKey = key
        · subst hKey
          simp only [OtpCall.reads, if_true] at hRead
          exact hRead
        · simp [OtpCall.reads, hKey] at hRead
    | _ => cases hRead

end Values

section Requests

variable [Sha256]

/-- What a request has learned: how long a password stays, the number it drew, and the hash
it found. -/
structure Progress where
  request : OtpRequest
  ttl : Option Int := none
  drawn : Option Nat := none
  hash : Option String := none

/-- A send puts away the hash of the password that it drew. A verification touches the user
when it has found the hash of the password that was presented. -/
def presentsWhatWasSent : Protocol OtpCall OtpCall.Answer ThrownError Progress where
  allows progress call :=
    match progress.request, call with
    | .send _ userId phone, .ttl key => key = buildOtpRedisKey userId phone
    | .send _ _ _, .randomInt lower upper => lower = 100000 ∧ upper = 999999
    | .send _ userId phone, .setex key seconds value =>
        (key = buildOtpRedisKey userId phone ∧ seconds = OTP_TTL_SECONDS) ∧
          (∃ ttl, progress.ttl = some ttl ∧ ttl ≤ (OTP_TTL_SECONDS : Int) - 60) ∧
          ∃ number, progress.drawn = some number ∧ value = hashOtp (toString number)
    | .send _ _ _, .createMessage _ _ => True
    | .verify userId phone _, .get key => key = buildOtpRedisKey userId phone
    | .verify userId phone otp, .findByIdAndUpdateUser updated newPhone =>
        updated = userId ∧ newPhone = phone ∧ progress.hash = some (hashOtp otp)
    | .verify userId phone _, .del key => key = buildOtpRedisKey userId phone
    | _, _ => False
  next progress call response :=
    match call, response with
    | .ttl _, .ok ttl => { progress with ttl := some ttl }
    | .randomInt _ _, .ok number => { progress with drawn := some number }
    | .get _, .ok value => { progress with hash := value }
    | _, _ => progress

theorem allowed_setex {progress : Progress} {key value : String} {seconds : Nat}
    (h : presentsWhatWasSent.allows progress (.setex key seconds value)) :
    ∃ twilio userId phone, progress.request = .send twilio userId phone ∧
      (key = buildOtpRedisKey userId phone ∧ seconds = OTP_TTL_SECONDS) ∧
      (∃ ttl, progress.ttl = some ttl ∧ ttl ≤ (OTP_TTL_SECONDS : Int) - 60) ∧
      ∃ number, progress.drawn = some number ∧ value = hashOtp (toString number) := by
  obtain ⟨request, ttl, drawn, hash⟩ := progress
  cases request with
  | send twilio userId phone => exact ⟨twilio, userId, phone, rfl, h⟩
  | verify => exact h.elim

theorem allowed_randomInt {progress : Progress} {lower upper : Nat}
    (h : presentsWhatWasSent.allows progress (.randomInt lower upper)) :
    lower = 100000 ∧ upper = 999999 := by
  obtain ⟨request, ttl, drawn, hash⟩ := progress
  cases request with
  | send => exact h
  | verify => exact h.elim

theorem allowed_update {progress : Progress} {userId phone : String}
    (h : presentsWhatWasSent.allows progress (.findByIdAndUpdateUser userId phone)) :
    ∃ otp, progress.request = .verify userId phone otp ∧ progress.hash = some (hashOtp otp) := by
  obtain ⟨request, ttl, drawn, hash⟩ := progress
  cases request with
  | send => exact h.elim
  | verify userId phone otp =>
      obtain ⟨rfl, rfl, hHash⟩ := h
      exact ⟨otp, rfl, hHash⟩

theorem allowed_ttl {progress : Progress} {twilio : Bool} {userId phone key : String}
    (hRequest : progress.request = .send twilio userId phone)
    (h : presentsWhatWasSent.allows progress (.ttl key)) : key = buildOtpRedisKey userId phone := by
  obtain ⟨request, ttl, drawn, hash⟩ := progress
  subst hRequest
  exact h

theorem allowed_get {progress : Progress} {userId phone otp key : String}
    (hRequest : progress.request = .verify userId phone otp)
    (h : presentsWhatWasSent.allows progress (.get key)) : key = buildOtpRedisKey userId phone := by
  obtain ⟨request, ttl, drawn, hash⟩ := progress
  subst hRequest
  exact h

/-- Nothing is said of how a request ends. -/
def anyEnd {State α : Type} (_ : State) (_ : Except ThrownError α) : Prop := True

theorem sendOtpService_follows (twilio : Bool) (userId phone : String) :
    (sendOtpService twilio userId phone).Follows presentsWhatWasSent anyEnd
      { request := .send twilio userId phone } := by
  refine .await_bind rfl (fun _ => trivial) fun existingTtl => ?_
  by_cases hRecent : (OTP_TTL_SECONDS : Int) - 60 < existingTtl
  · rw [if_pos hRecent]
    exact trivial
  · rw [if_neg hRecent, generateOtp, bind_assoc]
    refine .await_bind ⟨rfl, rfl⟩ (fun _ => trivial) fun number => ?_
    refine .await_bind ⟨⟨rfl, rfl⟩, ⟨existingTtl, rfl, Int.not_lt.mp hRecent⟩, number, rfl, rfl⟩
      (fun _ => trivial) fun _ => ?_
    by_cases hTwilio : twilio = true
    · rw [if_pos hTwilio]
      refine Program.follows_tryCatch.mpr (Program.follows_await.mpr ⟨trivial, fun response => ?_⟩)
      cases response <;> exact trivial
    · rw [if_neg hTwilio]
      exact trivial

theorem verifyOtpService_follows (userId phone otp : String) :
    (verifyOtpService userId phone otp).Follows presentsWhatWasSent anyEnd
      { request := .verify userId phone otp } := by
  refine .await_bind rfl (fun _ => trivial) fun storedHash => ?_
  cases hHash : truthy storedHash with
  | none => exact trivial
  | some hash =>
      have hFound : storedHash = some hash := (Option.filter_eq_some_iff.mp hHash).1
      dsimp only
      by_cases hWrong : hashOtp otp ≠ hash
      · rw [if_pos hWrong]
        exact trivial
      · rw [if_neg hWrong]
        have hSame : storedHash = some (hashOtp otp) := by rw [hFound, not_not.mp hWrong]
        refine .await_bind ⟨rfl, rfl, hSame⟩ (fun _ => trivial) fun user => ?_
        cases user with
        | none => exact trivial
        | some user => exact .await_bind rfl (fun _ => trivial) fun _ => trivial

theorem OtpRequest.program_follows (request : OtpRequest) :
    request.program.Follows presentsWhatWasSent anyEnd { request } := by
  cases request with
  | send twilio userId phone =>
      exact (sendOtpService_follows twilio userId phone).bind (fun _ _ _ => trivial)
        fun _ _ _ => trivial
  | verify userId phone otp =>
      rw [OtpRequest.program, map_eq_pure_bind]
      exact (verifyOtpService_follows userId phone otp).bind (fun _ _ _ => trivial)
        fun _ _ _ => trivial

end Requests

section Histories

variable [Sha256] {ι : Type} [DecidableEq ι] (requests : ι → OtpRequest)

abbrev OtpEvent (ι : Type) : Type :=
  Event OtpCall OtpCall.Answer ThrownError ι

/-- What the requests have learned from a history. -/
def learned (history : List (OtpEvent ι)) : ι → Progress :=
  presentsWhatWasSent.after (fun i => { request := requests i }) history

variable {requests} {i : ι} {history : List (OtpEvent ι)}

theorem next_request (progress : Progress) (call : OtpCall)
    (response : Except ThrownError call.Answer) :
    (presentsWhatWasSent.next progress call response).request = progress.request := by
  unfold presentsWhatWasSent
  dsimp only
  split <;> rfl

variable (requests) in
theorem learned_request (history : List (OtpEvent ι)) (i : ι) :
    (learned requests history i).request = requests i := by
  induction history with
  | nil => rfl
  | cons event earlier ih =>
      unfold learned at ih ⊢
      by_cases hOwn : i = event.thread
      · subst hOwn
        rw [Protocol.after_cons_self, next_request]
        exact ih
      · rw [Protocol.after_cons_of_ne _ _ _ hOwn]
        exact ih

/-- A time to live that a request has learned was answered to it. -/
theorem exists_ttl {ttl : Int} (h : (learned requests history i).ttl = some ttl) :
    ∃ newer key older, history = newer ++ (⟨i, .ttl key, .ok ttl⟩ : OtpEvent ι) :: older := by
  obtain ⟨newer, ⟨thread, call, response⟩, older, rfl, rfl, hBefore, hAfter⟩ :=
    presentsWhatWasSent.exists_turn (p := (·.ttl = some ttl)) h fun hNone => by cases hNone
  cases call with
  | ttl key =>
      cases response with
      | error error => exact absurd hAfter hBefore
      | ok answer =>
          cases hAfter
          exact ⟨newer, key, older, rfl⟩
  | randomInt | get => cases response <;> exact absurd hAfter hBefore
  | _ => exact absurd hAfter hBefore

/-- A number that a request has drawn was drawn in an event. -/
theorem exists_drawn {number : Nat} (h : (learned requests history i).drawn = some number) :
    ∃ lower upper, (⟨i, .randomInt lower upper, .ok number⟩ : OtpEvent ι) ∈ history := by
  obtain ⟨newer, ⟨thread, call, response⟩, older, rfl, rfl, hBefore, hAfter⟩ :=
    presentsWhatWasSent.exists_turn (p := (·.drawn = some number)) h fun hNone => by cases hNone
  cases call with
  | randomInt lower upper =>
      cases response with
      | error error => exact absurd hAfter hBefore
      | ok answer =>
          cases hAfter
          exact ⟨lower, upper, List.mem_append_right _ List.mem_cons_self⟩
  | ttl | get => cases response <;> exact absurd hAfter hBefore
  | _ => exact absurd hAfter hBefore

/-- A hash that a request has found was found in an event. -/
theorem exists_found {hash : String} (h : (learned requests history i).hash = some hash) :
    ∃ newer older key, history = newer ++ (⟨i, .get key, .ok (some hash)⟩ : OtpEvent ι) :: older := by
  obtain ⟨newer, ⟨thread, call, response⟩, older, rfl, rfl, hBefore, hAfter⟩ :=
    presentsWhatWasSent.exists_turn (p := (·.hash = some hash)) h fun hNone => by cases hNone
  cases call with
  | get key =>
      cases response with
      | error error => exact absurd hAfter hBefore
      | ok answer =>
          cases hAfter
          exact ⟨newer, older, key, rfl⟩
  | ttl | randomInt => cases response <;> exact absurd hAfter hBefore
  | _ => exact absurd hAfter hBefore

end Histories

section Runs

variable [Sha256] {ι : Type} (requests : ι → OtpRequest)

abbrev OtpHistory (ι : Type) : Type :=
  List (Int × OtpEvent ι)

/-- The verification found the hash of the password presented to it. -/
def FoundRight (history : OtpHistory ι) (i : ι) (userId phone otp : String) (time : Int)
    (older : OtpHistory ι) : Prop :=
  requests i = .verify userId phone otp ∧ ∃ newer, history = newer ++
    (time, ⟨i, .get (buildOtpRedisKey userId phone), .ok (some (hashOtp otp))⟩) :: older

variable {requests} {history older : OtpHistory ι} {user : ObjectId} {userId phone otp : String}
  {time : Int} {i : ι}

theorem FoundRight.later (h : FoundRight requests history i userId phone otp time older)
    (stamped : Int × OtpEvent ι) :
    FoundRight requests (stamped :: history) i userId phone otp time older := by
  obtain ⟨hRequest, newer, hSplit⟩ := h
  exact ⟨hRequest, stamped :: newer, by rw [hSplit, List.cons_append]⟩

variable (requests) in
/-- The user has the phone that a verification was about, and it found the password right. -/
def ProvedRight (history : OtpHistory ι) (user : PhoneUser) : Prop :=
  ∃ i userId phone otp time older, user.phone = some phone ∧ user.phoneVerified = true ∧
    ObjectId.cast? userId = some user.id ∧ FoundRight requests history i userId phone otp time older

theorem ProvedRight.later {user : PhoneUser} (h : ProvedRight requests history user)
    (stamped : Int × OtpEvent ι) : ProvedRight requests (stamped :: history) user := by
  obtain ⟨i, userId, phone, otp, time, older, hPhone, hFlag, hId, hFound⟩ := h
  exact ⟨i, userId, phone, otp, time, older, hPhone, hFlag, hId, hFound.later stamped⟩

variable [RedisTtl] [DecidableEq ι]

variable (requests) in
/-- Less than five minutes before, a send for this user and phone had put away the hash of a
password of six digits, the same as that of `otp`. No verification of them is known to have
ended since. -/
def SentRecently (history : OtpHistory ι) (userId phone otp : String) (time : Int) : Prop :=
  ∃ newer sent older j twilio drawn lower upper number,
    history = newer ++ sent :: older ∧ requests j = .send twilio userId phone ∧
      sent.2.thread = j ∧
      sent.2.request = .setex (buildOtpRedisKey userId phone) OTP_TTL_SECONDS (hashOtp otp) ∧
      time < sent.1 + 300000 ∧
      (∀ later ∈ newer, ¬waitingOtps.Acknowledges later.2 (buildOtpRedisKey userId phone)) ∧
      (drawn, ⟨j, .randomInt lower upper, .ok number⟩) ∈ older ∧
      100000 ≤ number ∧ number < 999999 ∧ hashOtp (toString number) = hashOtp otp

variable {start : OtpStore} {point : TimedPoint otps ι (Option PhoneUser)}

/-- Every event is one that its request may cause. -/
theorem otp_allowed (run : TimedRun OtpStore.clock (otpPool start requests) point)
    {newer older : OtpHistory ι} {time : Int} {event : OtpEvent ι}
    (hSplit : point.1 = newer ++ (time, event) :: older) :
    presentsWhatWasSent.allows (learned requests (older.map Prod.snd) event.thread)
      event.request :=
  TimedRun.allowed presentsWhatWasSent (fun i => { request := requests i }) run
    (fun i => (requests i).program_follows) hSplit

/-- The numbers that are drawn are in the range that was asked for. -/
theorem drawn_bounds (run : TimedRun OtpStore.clock (otpPool start requests) point)
    {lower upper number : Nat} (hMem : (time, ⟨i, .randomInt lower upper, .ok number⟩) ∈ point.1)
    (hRange : lower < upper) : lower ≤ number ∧ number < upper := by
  induction run with
  | refl => exact absurd hMem List.not_mem_nil
  | tail prior last ih =>
      obtain ⟨decision, j, call, next, -, hHistory, -⟩ := last.cases
      rw [hHistory] at hMem
      rcases List.mem_cons.mp hMem with hLast | hEarlier
      · simp only [Prod.mk.injEq, Event.mk.injEq] at hLast
        obtain ⟨-, -, rfl, hResponse⟩ := hLast
        have hAnswer := (eq_of_heq hResponse).symm
        have hNumber := (congrArg Prod.snd (faultedBy_ok hAnswer)).symm.trans hAnswer
        cases hNumber
        have hDraw := Nat.mod_lt decision.draw (Nat.sub_pos_of_lt hRange)
        omega
      · exact ih hEarlier

/-- A password that was found to be right had been sent. -/
theorem FoundRight.sentRecently (run : TimedRun OtpStore.clock (otpPool start requests) point)
    (hEmpty : ∀ key, start.values key = none) (hIds : ∀ i, ':' ∉ (requests i).userId.toList)
    (h : FoundRight requests point.1 i userId phone otp time older) :
    SentRecently requests older userId phone otp time := by
  obtain ⟨hRequest, newer, hSplit⟩ := h
  have hRead : waitingOtps.reads (.get (buildOtpRedisKey userId phone)) (some (hashOtp otp))
      (buildOtpRedisKey userId phone) = some (hashOtp otp) := if_pos rfl
  obtain ⟨expiresAt, ⟨between, ⟨sentAt, j, call, response⟩, rest, ms, rfl, hPut, rfl, hSince⟩, hTime⟩ :=
    TimedRun.read_putLast run (hEmpty _) hSplit rfl hRead
  rw [← List.cons_append, ← List.append_assoc] at hSplit
  obtain ⟨seconds, rfl, rfl⟩ := setex_of_put hPut
  obtain ⟨twilio, userId', phone', hSender, ⟨hKey, rfl⟩, -, number, hDrawn, hHash⟩ :=
    allowed_setex (otp_allowed run hSplit)
  rw [learned_request] at hSender
  have hIdHere := hIds i
  have hIdThere := hIds j
  rw [hRequest] at hIdHere
  rw [hSender] at hIdThere
  obtain ⟨rfl, rfl⟩ := buildOtpRedisKey_injective hIdHere hIdThere hKey
  obtain ⟨lower, upper, hEvent⟩ := exists_drawn hDrawn
  obtain ⟨⟨drawn, event⟩, hMem, rfl⟩ := List.mem_map.mp hEvent
  obtain ⟨before, after, rfl⟩ := List.append_of_mem hMem
  have hDrawnSplit := hSplit
  rw [← List.cons_append, ← List.append_assoc] at hDrawnSplit
  obtain ⟨rfl, rfl⟩ := allowed_randomInt (otp_allowed run hDrawnSplit)
  have hNumber := drawn_bounds run (hSplit ▸ List.mem_append_right _ (List.mem_cons_of_mem _ hMem))
    (by omega)
  exact ⟨between, _, _, j, twilio, drawn, _, _, number, rfl, hSender, rfl, rfl, hTime, hSince, hMem,
    hNumber.1, hNumber.2, hHash.symm⟩

/-- The hash that a verification has learned is one that it found. -/
theorem foundRight_of_learned (run : TimedRun OtpStore.clock (otpPool start requests) point)
    (hRequest : requests i = .verify userId phone otp)
    (hHash : (learned requests (point.1.map Prod.snd) i).hash = some (hashOtp otp)) :
    ∃ time older, FoundRight requests point.1 i userId phone otp time older := by
  obtain ⟨newer, rest, key, hEvents⟩ := exists_found hHash
  obtain ⟨before, time, older, hSplit, rfl⟩ := exists_stamped hEvents
  have hLearned := learned_request requests (older.map Prod.snd) i
  obtain rfl := allowed_get (hLearned.trans hRequest) (otp_allowed run hSplit)
  exact ⟨time, older, hRequest, before, hSplit⟩

/-- A user changes only by presenting a password that is found to be right. -/
theorem users_of_run (run : TimedRun OtpStore.clock (otpPool start requests) point)
    {user : PhoneUser} (hUser : user ∈ (OtpStore.users point.2.store).docs) :
    user ∈ start.users.docs ∨ ProvedRight requests point.1 user := by
  induction run generalizing user with
  | refl => exact .inl hUser
  | @tail before after prior last ih =>
      have hRun := Relation.ReflTransGen.tail prior last
      obtain ⟨decision, i, call, next, -, hHistory, hStore⟩ := last.cases
      have hAllowed := otp_allowed hRun (hHistory.trans (List.nil_append _).symm)
      rw [hStore] at hUser
      have hKeep (hBefore : user ∈ (OtpStore.users before.2.store).docs) :
          user ∈ start.users.docs ∨ ProvedRight requests after.1 user := by
        rw [hHistory]
        exact (ih hBefore).imp_right fun hProved => hProved.later _
      rcases perform_users decision _ call with hSame | ⟨userId, phone, id, rfl, hId, hModified⟩
      · rw [hSame] at hUser
        exact hKeep hUser
      · rw [hModified] at hUser
        rcases Collection.mem_modify_key _ _ hUser with hBefore | ⟨old, -, rfl, rfl⟩
        · exact hKeep hBefore
        · obtain ⟨otp, hRequest, hHash⟩ := allowed_update hAllowed
          rw [learned_request] at hRequest
          obtain ⟨time, older, hFound⟩ := foundRight_of_learned prior hRequest hHash
          rw [hHistory]
          exact .inr ⟨i, userId, phone, otp, time, older, rfl, rfl, hId, hFound.later _⟩

/-- A phone is verified by a password that was sent to it for this user, less than five
minutes before it was checked, and not used up by then. -/
theorem verified_by_sent_password
    (run : TimedRun OtpStore.clock (otpPool start requests) point)
    (hEmpty : ∀ key, start.values key = none) (hIds : ∀ i, ':' ∉ (requests i).userId.toList)
    {user : PhoneUser} (hUser : user ∈ (OtpStore.users point.2.store).docs) :
    user ∈ start.users.docs ∨
      ∃ i userId phone otp time older, user.phone = some phone ∧ user.phoneVerified = true ∧
        ObjectId.cast? userId = some user.id ∧
        FoundRight requests point.1 i userId phone otp time older ∧
        SentRecently requests older userId phone otp time := by
  rcases users_of_run run hUser with hSame | ⟨i, userId, phone, otp, time, older, hPhone, hFlag,
    hId, hFound⟩
  · exact .inl hSame
  · exact .inr ⟨i, userId, phone, otp, time, older, hPhone, hFlag, hId, hFound,
      hFound.sentRecently run hEmpty hIds⟩

end Runs

section Spacing

variable [Sha256] [LawfulRedisTtl] {ι : Type} [DecidableEq ι] {requests : ι → OtpRequest}
  {start : OtpStore} {point : TimedPoint otps ι (Option PhoneUser)}

omit [Sha256] in
/-- An answer to `TTL` of at most four minutes leaves less than a second more. -/
theorem time_left {decision : OtpDecision} {store : OtpStore} {key : String} {ttl : Int}
    {entry : Expiring String} (hEntry : store.values key = some entry)
    (hAnswer : (otps.perform decision store (.ttl key)).2 = .ok ttl)
    (hTtl : ttl ≤ (OTP_TTL_SECONDS : Int) - 60) :
    entry.expiresAt < ((otps.perform decision store (.ttl key)).1 : OtpStore).clock + 241000 := by
  have hPerform := (congrArg Prod.snd (faultedBy_ok hAnswer)).symm.trans hAnswer
  rw [perform_clock]
  by_cases hAlive : store.clock + decision.elapsed < entry.expiresAt
  · have hFound : (execute decision.draw (store.wait decision.elapsed) (.ttl key)).2 =
        .ok (RedisTtl.seconds (entry.expiresAt - (store.clock + decision.elapsed))) := by
      simp only [execute, OtpStore.wait, hEntry, Option.filter_some, hAlive, decide_true, if_true]
    have hSeconds := Except.ok.inj (hFound.symm.trans hPerform)
    have hClose := (LawfulRedisTtl.close (entry.expiresAt - (store.clock + decision.elapsed))).2
    rw [hSeconds] at hClose
    simp only [OTP_TTL_SECONDS] at hTtl
    omega
  · omega

/-- A password stays for five minutes if it is not used up. -/
theorem otp_stays (run : TimedRun OtpStore.clock (otpPool start requests) point)
    {middle older : OtpHistory ι} {first : Int × OtpEvent ι} {key value : String} {seconds : Nat}
    (hSplit : point.1 = middle ++ first :: older)
    (hFirst : first.2.request = .setex key seconds value)
    (hAcknowledged : ∃ answer, first.2.response = .ok answer)
    (hUnused : ∀ stamped ∈ middle, stamped.2.request ≠ .del key) :
    ∃ entry, (OtpStore.values point.2.store) key = some entry ∧
      first.1 + 300000 ≤ entry.expiresAt := by
  obtain ⟨putAt, ⟨i, call, response⟩⟩ := first
  cases hFirst
  obtain ⟨-, -, -, -, ⟨-, rfl⟩, -⟩ := allowed_setex (otp_allowed run hSplit)
  obtain ⟨answer, hAnswer⟩ := hAcknowledged
  refine TimedRun.stays (V := waitingOtps) run clock_le_perform hSplit hAnswer (if_pos rfl)
    fun later hLater => ?_
  obtain ⟨newer, between, rfl⟩ := List.append_of_mem hLater
  rw [List.append_assoc, List.cons_append] at hSplit
  have hLaterAllowed := otp_allowed run hSplit
  have hKept := hUnused later hLater
  obtain ⟨laterAt, ⟨j, laterCall, laterResponse⟩⟩ := later
  cases laterCall with
  | setex laterKey laterSeconds laterValue =>
      obtain ⟨-, -, -, -, ⟨-, rfl⟩, -⟩ := allowed_setex hLaterAllowed
      by_cases hKey : laterKey = key
      · exact .inr ⟨laterValue, if_pos hKey⟩
      · exact .inl (if_neg hKey)
  | del laterKey => exact .inl (if_neg fun hKey => hKept (congrArg OtpCall.del hKey))
  | _ => exact .inl rfl

/-- A send that begins after the password of another was put away puts its own away 59
seconds later at the earliest, unless the other was used up. -/
theorem sends_apart (run : TimedRun OtpStore.clock (otpPool start requests) point)
    {newest middle older : OtpHistory ι} {first second : Int × OtpEvent ι}
    {key value value' : String} {seconds seconds' : Nat}
    (hSplit : point.1 = newest ++ second :: (middle ++ first :: older))
    (hFirst : first.2.request = .setex key seconds value)
    (hAcknowledged : ∃ answer, first.2.response = .ok answer)
    (hSecond : second.2.request = .setex key seconds' value')
    (hBegins : ∀ stamped ∈ first :: older, stamped.2.thread ≠ second.2.thread)
    (hUnused : ∀ stamped ∈ middle, stamped.2.request ≠ .del key) :
    first.1 + 59000 < second.1 := by
  obtain ⟨sentAt, ⟨j, call, response⟩⟩ := second
  cases hSecond
  obtain ⟨twilio, userId, phone, hSender, ⟨hKey, -⟩, ⟨ttl, hTtl, hShort⟩, -⟩ :=
    allowed_setex (otp_allowed run hSplit)
  rw [learned_request] at hSender
  obtain ⟨newer, ttlKey, rest, hEvents⟩ := exists_ttl hTtl
  obtain ⟨n, asked, before, hMiddle, -⟩ := exists_stamped hEvents
  obtain ⟨between, rfl, rfl⟩ := split_of_notMem hMiddle fun hMem => hBegins _ hMem rfl
  have hAsked : point.1 = (newest ++ (sentAt, ⟨j, .setex key seconds' value', response⟩) :: n) ++
      (asked, ⟨j, .ttl ttlKey, .ok ttl⟩) :: (between ++ first :: older) := by
    rw [hSplit]
    simp
  -- The send asked for the key that it put its password under.
  have hOwn := learned_request requests ((between ++ first :: older).map Prod.snd) j
  obtain rfl : ttlKey = key := hKey ▸ allowed_ttl (hOwn.trans hSender) (otp_allowed run hAsked)
  obtain ⟨earlier, decision, i, call, next, prior, hEarlier, -, hEvent⟩ := run.stepAt hAsked
  obtain ⟨entry, hEntry, hStays⟩ := otp_stays prior hEarlier hFirst hAcknowledged
    fun stamped hMem => hUnused stamped (List.mem_append_right _ (List.mem_cons_of_mem _ hMem))
  simp only [Prod.mk.injEq, Event.mk.injEq] at hEvent
  obtain ⟨hTime, rfl, rfl, hResponse⟩ := hEvent
  have hLeft := time_left hEntry (eq_of_heq hResponse).symm hShort
  rw [← hTime] at hLeft
  have hLater := TimedRun.earlier run clock_le_perform hSplit
    (List.mem_append_left _ (List.mem_append_right _ List.mem_cons_self))
  dsimp only at hLater ⊢
  omega

end Spacing

section Sample

/-- Redis rounds up. -/
local instance roundsUp : LawfulRedisTtl where
  seconds ms := (ms + 999) / 1000
  close ms := by omega

/-- The digest of one password. -/
local instance oneDigest : Sha256 :=
  tabulatedSha256 [("100000", "1c4c7ad5a1aa6e3c6b5e2c4a1a5b1d0f")]

def sampleUser : PhoneUser :=
  ⟨.repeated 1, none, false, none⟩

def sampleStore : OtpStore :=
  { clock := 0, users := ⟨[sampleUser], Collection.nodup_single _ _⟩ }

/-- A password is sent twice, and presented. -/
def sampleRequests : Fin 3 → OtpRequest
  | 0 | 1 => .send true "111111111111111111111111" "+2348012345678"
  | 2 => .verify "111111111111111111111111" "+2348012345678" "100000"

theorem sampleRequests_ids (i : Fin 3) : ':' ∉ (sampleRequests i).userId.toList := by
  revert i
  decide

private def calm : OtpDecision := {}

/-- The first password is presented a minute after it was sent. -/
theorem verified_by_sent_password_sample :
    ∃ point, TimedRun OtpStore.clock (otpPool sampleStore sampleRequests) point ∧
      sampleUser.verified "+2348012345678" ∈ (OtpStore.users point.2.store).docs ∧
      (sampleUser.verified "+2348012345678" ∈ sampleStore.users.docs ∨
        ∃ i userId phone otp time older,
          (sampleUser.verified "+2348012345678").phone = some phone ∧
            (sampleUser.verified "+2348012345678").phoneVerified = true ∧
            ObjectId.cast? userId = some (sampleUser.verified "+2348012345678").id ∧
            FoundRight sampleRequests point.1 i userId phone otp time older ∧
            SentRecently sampleRequests older userId phone otp time) := by
  obtain ⟨point, run, hTest⟩ := Pool.exists_timedRun OtpStore.clock
    (otpPool sampleStore sampleRequests)
    (fun point => sampleUser.verified "+2348012345678" ∈ (OtpStore.users point.2.store).docs)
    [(calm, 0), (calm, 0), (calm, 0), ({ calm with elapsed := 60000 }, 2), (calm, 2), (calm, 2)]
    (by decide +kernel)
  have hUser := of_decide_eq_true hTest
  exact ⟨point, run, hUser,
    verified_by_sent_password run (fun _ => rfl) sampleRequests_ids hUser⟩

/-- The hash of the password is put away twice, by requests that follow each other. -/
def sentTwice (key value : String) : OtpHistory (Fin 3) → Bool
  | [second, drawn, asked, first, drawnFirst, askedFirst] =>
      (second.2.request = .setex key 300 value ∧ first.2.request = .setex key 300 value ∧
        first.2.response.isOk) ∧
      (∀ stamped ∈ [first, drawnFirst, askedFirst], stamped.2.thread ≠ second.2.thread) ∧
      ∀ stamped ∈ [drawn, asked], stamped.2.request ≠ .del key
  | _ => false

/-- The second password is sent a minute after the first. -/
theorem sends_apart_sample :
    ∃ (point : TimedPoint otps (Fin 3) (Option PhoneUser)) (first second : Int × OtpEvent (Fin 3)),
      TimedRun OtpStore.clock (otpPool sampleStore sampleRequests) point ∧
        first ∈ point.1 ∧ second ∈ point.1 ∧ first.1 + 59000 < second.1 := by
  obtain ⟨point, run, hTest⟩ := Pool.exists_timedRun OtpStore.clock
    (otpPool sampleStore sampleRequests)
    (fun point => sentTwice (buildOtpRedisKey "111111111111111111111111" "+2348012345678")
      (hashOtp "100000") point.1)
    [(calm, 0), (calm, 0), (calm, 0), ({ calm with elapsed := 60000 }, 1), (calm, 1), (calm, 1)]
    (by decide +kernel)
  unfold sentTwice at hTest
  split at hTest
  · rename_i second drawn asked first drawnFirst askedFirst hHistory
    obtain ⟨⟨hSecond, hFirst, hOk⟩, hBegins, hUnused⟩ := of_decide_eq_true hTest
    have hSplit : point.1 = [] ++ second :: ([drawn, asked] ++ first :: [drawnFirst, askedFirst]) :=
      hHistory
    refine ⟨point, first, second, run, by simp [hHistory], by simp [hHistory],
      sends_apart run hSplit hFirst ?_ hSecond hBegins hUnused⟩
    cases hResponse : first.2.response with
    | ok answer => exact ⟨answer, rfl⟩
    | error error => rw [hResponse] at hOk; cases hOk
  · cases hTest

end Sample

end Navin.SmsOtp
