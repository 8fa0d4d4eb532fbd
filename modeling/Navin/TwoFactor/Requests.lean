import Navin.Semantics.Protocol
import Navin.TwoFactor.Service

/-! The calls of `twoFactor.service` for one user, as threads of one pool. Each
reads the user once and updates it at most once, as the last thing it does. -/
namespace Navin.TwoFactor

open Async

inductive TwoFactorRequest where
  | setup
  | verify (code : String)
  | disable (password : String)
  | regenerate
  | consume (code : String)
deriving DecidableEq

/-- How far a call has come: it has read the user, drawn a secret, checked a code,
drawn backup codes, or found the stored hashes it will look through. -/
inductive TwoFactorStage where
  | starting (request : TwoFactorRequest)
  | enrolling
  | storing (secret : String)
  | checking (code secret : String)
  | enabling (code secret : String) (drawn : List String)
  | disabling (password : String)
  | regenerating (drawn : List String)
  | matched (code : String) (codes : List String)
  | returned (request : TwoFactorRequest) (drawn : List String)

namespace TwoFactorStage

def request : TwoFactorStage → TwoFactorRequest
  | .starting request | .returned request _ => request
  | .enrolling | .storing _ => .setup
  | .checking code _ | .enabling code _ _ => .verify code
  | .disabling password => .disable password
  | .regenerating _ => .regenerate
  | .matched code _ => .consume code

/-- The backup codes drawn so far. -/
def drawn : TwoFactorStage → List String
  | .enabling _ _ drawn | .regenerating drawn | .returned _ drawn => drawn
  | _ => []

end TwoFactorStage

/-- A call returns exactly when it has updated the user, and then the codes it drew. -/
def Returns (stage : TwoFactorStage) (outcome : Except ThrownError (List String)) : Prop :=
  ∀ codes, outcome = .ok codes ↔ ∃ request, stage = .returned request codes

theorem returns_error {stage : TwoFactorStage} {error : ThrownError}
    (h : ∀ request codes, stage ≠ .returned request codes) : Returns stage (.error error) := by
  intro codes
  constructor
  · intro hOk
    cases hOk
  · rintro ⟨request, hReturned⟩
    exact absurd hReturned (h request codes)

theorem returns_returned (request : TwoFactorRequest) (codes : List String) :
    Returns (.returned request codes) (.ok codes) := by
  intro other
  constructor
  · intro hOk
    exact ⟨request, by rw [Except.ok.inj hOk]⟩
  · rintro ⟨_, hReturned⟩
    cases hReturned
    rfl

section Calls

variable [Bcrypt]

/-- One hash for each code, in the same order. -/
def HashesOf (codes hashes : List String) : Prop :=
  List.Forall₂ (fun code hash => ∃ salt, hash = Bcrypt.hash code backupCodeHashRounds salt)
    codes hashes

/-- The update with which a call ends. -/
def TwoFactorStage.makes : TwoFactorStage → TwoFactorUpdate → Prop
  | .storing secret, update => update = { totpSecret := some (some secret) }
  | .enabling _ _ drawn, update => ∃ hashed, HashesOf drawn hashed ∧
      update = { totpEnabled := some true, totpBackupCodes := some hashed }
  | .disabling _, update => update =
      { totpSecret := some none, totpEnabled := some false, totpBackupCodes := some [] }
  | .regenerating drawn, update => ∃ hashed, HashesOf drawn hashed ∧
      update = { totpBackupCodes := some hashed }
  | .matched code codes, update => ∃ matchIndex,
      codes.findIdx? (Bcrypt.compare code) = some matchIndex ∧
      update = { totpBackupCodes := some (codes.eraseIdx matchIndex) }
  | _, _ => False

/-- The order of the calls that a request makes for the user. -/
def serves (userId : String) :
    Protocol TwoFactorCall TwoFactorCall.Answer ThrownError TwoFactorStage where
  allows stage call :=
    match stage, call with
    | .starting _, .userFindById id => id = userId
    | .enrolling, .generateSecret => True
    | .checking code secret, .verifySync token checked => token = code ∧ checked = secret
    | .enabling _ _ _, .randomBytes _ | .regenerating _, .randomBytes _ => True
    | stage, .userFindByIdAndUpdate id update => id = userId ∧ stage.makes update
    | _, _ => False
  next stage call response :=
    match stage, call, response with
    | .starting .setup, .userFindById _, .ok (some _) => .enrolling
    | .starting (.verify code), .userFindById _, .ok (some user) =>
        .checking code (user.totpSecret.getD "")
    | .starting (.disable password), .userFindById _, .ok (some _) => .disabling password
    | .starting .regenerate, .userFindById _, .ok (some _) => .regenerating []
    | .starting (.consume code), .userFindById _, .ok (some user) =>
        .matched code user.totpBackupCodes
    | .enrolling, .generateSecret, .ok secret => .storing secret
    | .checking code secret, .verifySync _ _, .ok true => .enabling code secret []
    | .enabling code secret drawn, .randomBytes size, .ok bytes =>
        .enabling code secret (if size = backupCodeBytes then drawn ++ [bytes] else drawn)
    | .regenerating drawn, .randomBytes size, .ok bytes =>
        .regenerating (if size = backupCodeBytes then drawn ++ [bytes] else drawn)
    | stage, .userFindByIdAndUpdate _ _, .ok _ => .returned stage.request stage.drawn
    | stage, _, _ => stage

/-- What a request does, and the backup codes it returns. -/
def TwoFactorRequest.perform [Otplib] (userId : String) :
    TwoFactorRequest → TwoFactorM (List String)
  | .setup => do
      let _ ← setup2fa userId
      return []
  | .verify code => verify2fa userId code
  | .disable password => do
      disable2fa userId password
      return []
  | .regenerate => regenerateBackupCodes userId
  | .consume code => do
      consumeBackupCode userId code
      return []

variable {userId : String}

/-- Backup codes are drawn one after the other; `stage` is where this happens. -/
theorem generateBackupCodes_serves (stage : List String → TwoFactorStage)
    (hAllows : ∀ drawn size, (serves userId).allows (stage drawn) (.randomBytes size))
    (hDraws : ∀ drawn size bytes, (serves userId).next (stage drawn) (.randomBytes size)
      (.ok bytes) = stage (if size = backupCodeBytes then drawn ++ [bytes] else drawn))
    (hKeeps : ∀ drawn size error, (serves userId).next (stage drawn) (.randomBytes size)
      (.error error) = stage drawn) (count : Nat) (drawn : List String) :
    (generateBackupCodes count).Follows (serves userId)
      (fun after outcome => (∃ later, after = stage later) ∧ ∀ codes, outcome = .ok codes →
        after = stage (drawn ++ codes.plain) ∧ HashesOf codes.plain codes.hashed)
      (stage drawn) := by
  induction count generalizing drawn with
  | zero =>
      refine ⟨⟨drawn, rfl⟩, fun codes hCodes => ?_⟩
      obtain rfl := Except.ok.inj hCodes
      exact ⟨by rw [List.append_nil], .nil⟩
  | succ count ih =>
      refine Program.follows_bind.mpr (Program.follows_await.mpr ⟨hAllows _ _, fun code => ?_⟩)
      cases code with
      | error error =>
          rw [hKeeps, Program.then_error]
          exact ⟨⟨drawn, rfl⟩, nofun⟩
      | ok code =>
          rw [hDraws, if_pos rfl, Program.then_ok]
          refine Program.follows_bind.mpr (Program.follows_await.mpr ⟨hAllows _ _, fun salt => ?_⟩)
          cases salt with
          | error error =>
              rw [hKeeps, Program.then_error]
              exact ⟨⟨_, rfl⟩, nofun⟩
          | ok salt =>
              have hSalt : ¬16 = backupCodeBytes := by decide
              rw [hDraws, if_neg hSalt, Program.then_ok]
              refine (ih (drawn ++ [code])).bind (fun after rest hRest => ?_)
                fun after error hRest => ⟨hRest.1, nofun⟩
              obtain ⟨hAfter, hHashes⟩ := hRest.2 rest rfl
              refine ⟨hRest.1, fun codes hCodes => ?_⟩
              obtain rfl := Except.ok.inj hCodes
              exact ⟨by rw [hAfter, List.append_assoc]; rfl, .cons ⟨salt, rfl⟩ hHashes⟩

section Parts

variable {α : Type} {Q : TwoFactorStage → Except ThrownError α → Prop}

/-- Every request starts by reading the user. -/
theorem read_serves {asked : TwoFactorRequest} {absent : ThrownError}
    {rest : TwoFactorUser → TwoFactorM α} (hError : ∀ error, Q (.starting asked) (.error error))
    (hRest : ∀ user, (rest user).Follows (serves userId) Q
      ((serves userId).next (.starting asked) (.userFindById userId) (.ok (some user)))) :
    (do let some user ← request (.userFindById userId) | throw absent
        rest user : TwoFactorM α).Follows (serves userId) Q (.starting asked) := by
  refine Program.follows_bind.mpr (Program.follows_await.mpr ⟨rfl, fun response => ?_⟩)
  rcases response with error | _ | user
  · cases asked <;> exact hError error
  · cases asked <;> exact hError absent
  · exact hRest user

end Parts

theorem next_update (stage : TwoFactorStage) (update : TwoFactorUpdate) :
    (serves userId).next stage (.userFindByIdAndUpdate userId update) (.ok ()) =
      .returned stage.request stage.drawn := by
  cases stage with
  | starting asked => cases asked <;> rfl
  | _ => rfl

/-- The one update of a request is the last thing it awaits. -/
theorem update_serves (stage : TwoFactorStage) {update : TwoFactorUpdate}
    {Q : TwoFactorStage → Except ThrownError Unit → Prop} (hMakes : stage.makes update)
    (hError : ∀ error, Q stage (.error error))
    (hReturned : Q (.returned stage.request stage.drawn) (.ok ())) :
    (request (.userFindByIdAndUpdate userId update)).Follows (serves userId) Q stage := by
  have hAllows : (serves userId).allows stage (.userFindByIdAndUpdate userId update) := by
    cases stage <;> exact ⟨rfl, hMakes⟩
  refine Program.follows_await.mpr ⟨hAllows, fun response => ?_⟩
  cases response with
  | error error =>
      have hNext : (serves userId).next stage (.userFindByIdAndUpdate userId update)
          (.error error) = stage := by
        cases stage with
        | starting asked => cases asked <;> rfl
        | _ => rfl
      rw [hNext]
      exact hError error
  | ok answer =>
      rw [next_update]
      exact hReturned

variable [Otplib]

theorem setup_serves :
    ((TwoFactorRequest.setup).perform userId).Follows (serves userId) Returns
      (.starting .setup) := by
  refine Program.follows_bind.mpr (read_serves (fun error => returns_error nofun) fun user => ?_)
  split
  · exact returns_error nofun
  · refine Program.follows_bind.mpr (Program.follows_await.mpr ⟨trivial, fun response => ?_⟩)
    cases response with
    | error error => exact returns_error nofun
    | ok secret =>
        exact Program.follows_bind.mpr (update_serves (.storing secret) rfl
          (fun error => returns_error nofun) (returns_returned _ _))

theorem verify_serves (code : String) :
    ((TwoFactorRequest.verify code).perform userId).Follows (serves userId) Returns
      (.starting (.verify code)) := by
  refine read_serves (fun error => returns_error nofun) fun user => ?_
  split
  · exact returns_error nofun
  · rename_i secret hSecret
    have hStage : (serves userId).next (.starting (.verify code)) (.userFindById userId)
        (.ok (some user)) = .checking code secret := by
      show TwoFactorStage.checking code (user.totpSecret.getD "") = .checking code secret
      rw [(Option.filter_eq_some_iff.mp hSecret).1, Option.getD_some]
    rw [hStage]
    split
    · exact returns_error nofun
    · refine Program.follows_bind.mpr (Program.follows_await.mpr ⟨⟨rfl, rfl⟩, fun response => ?_⟩)
      rcases response with error | _ | _
      · exact returns_error nofun
      · exact returns_error nofun
      · refine (generateBackupCodes_serves (.enabling code secret) (fun _ _ => trivial)
          (fun _ _ _ => rfl) (fun _ _ _ => rfl) backupCodeCount []).bind ?_ ?_
        · intro after codes hCodes
          obtain ⟨rfl, hHashes⟩ := hCodes.2 codes rfl
          exact Program.follows_bind.mpr (update_serves (.enabling code secret ([] ++ codes.plain))
            ⟨_, hHashes, rfl⟩ (fun error => returns_error nofun) (returns_returned _ _))
        · rintro after error ⟨⟨drawn, rfl⟩, -⟩
          exact returns_error nofun

theorem disable_serves (password : String) :
    ((TwoFactorRequest.disable password).perform userId).Follows (serves userId) Returns
      (.starting (.disable password)) := by
  refine Program.follows_bind.mpr (read_serves (fun error => returns_error nofun) fun user => ?_)
  split
  · exact returns_error nofun
  · split
    · exact update_serves (.disabling password) rfl (fun error => returns_error nofun)
        (returns_returned _ _)
    · exact returns_error nofun

theorem regenerate_serves :
    ((TwoFactorRequest.regenerate).perform userId).Follows (serves userId) Returns
      (.starting .regenerate) := by
  refine read_serves (fun error => returns_error nofun) fun user => ?_
  split
  · exact returns_error nofun
  · refine (generateBackupCodes_serves .regenerating (fun _ _ => trivial)
      (fun _ _ _ => rfl) (fun _ _ _ => rfl) backupCodeCount []).bind ?_ ?_
    · intro after codes hCodes
      obtain ⟨rfl, hHashes⟩ := hCodes.2 codes rfl
      exact Program.follows_bind.mpr (update_serves (.regenerating ([] ++ codes.plain))
        ⟨_, hHashes, rfl⟩ (fun error => returns_error nofun) (returns_returned _ _))
    · rintro after error ⟨⟨drawn, rfl⟩, -⟩
      exact returns_error nofun

theorem consume_serves (code : String) :
    ((TwoFactorRequest.consume code).perform userId).Follows (serves userId) Returns
      (.starting (.consume code)) := by
  refine Program.follows_bind.mpr (read_serves (fun error => returns_error nofun) fun user => ?_)
  split
  · exact returns_error nofun
  · rename_i matchIndex hMatch
    exact update_serves (.matched code user.totpBackupCodes) ⟨matchIndex, hMatch, rfl⟩
      (fun error => returns_error nofun) (returns_returned _ _)

/-- Every request keeps to the order. -/
theorem perform_serves (asked : TwoFactorRequest) :
    (asked.perform userId).Follows (serves userId) Returns (.starting asked) := by
  cases asked with
  | setup => exact setup_serves
  | verify code => exact verify_serves code
  | disable password => exact disable_serves password
  | regenerate => exact regenerate_serves
  | consume code => exact consume_serves code

end Calls

section Pools

variable {ι : Type}

/-- An update that takes effect. -/
def completes (event : TwoFactorEvent ι) : Bool :=
  match event with
  | ⟨_, .userFindByIdAndUpdate _ _, .ok _⟩ => true
  | _ => false

theorem completes_eq_true {event : TwoFactorEvent ι} (h : completes event = true) :
    ∃ i id update, event = ⟨i, .userFindByIdAndUpdate id update, .ok ()⟩ := by
  obtain ⟨i, call, response⟩ := event
  cases call with
  | userFindByIdAndUpdate id update =>
      cases response with
      | error error => cases h
      | ok answer => exact ⟨i, id, update, rfl⟩
  | _ => cases h

variable [Bcrypt]

/-- Calls for one user, with no other traffic. -/
def twoFactorPool [Otplib] (store : TwoFactorStore) (userId : String)
    (requests : ι → TwoFactorRequest) : Pool twoFactor ι (List String) :=
  ⟨store, fun i => (requests i).perform userId⟩

/-- The backup codes that a call has returned. -/
def codesOf [Otplib] (pool : Pool twoFactor ι (List String)) (i : ι) : List String :=
  match pool.thread i with
  | .done codes => codes
  | _ => []

variable [DecidableEq ι] {userId : String} {requests : ι → TwoFactorRequest}
  {history : List (TwoFactorEvent ι)} {i : ι} {call : TwoFactorCall}

abbrev stageAfter (userId : String) (requests : ι → TwoFactorRequest)
    (history : List (TwoFactorEvent ι)) : ι → TwoFactorStage :=
  (serves userId).after (fun i => .starting (requests i)) history

omit [DecidableEq ι] in
theorem request_next (stage : TwoFactorStage) (response : Except ThrownError call.Answer) :
    ((serves userId).next stage call response).request = stage.request := by
  simp only [serves]
  split <;> rfl

/-- A stage belongs to the request of its thread. -/
theorem stageAfter_request (userId : String) (requests : ι → TwoFactorRequest)
    (history : List (TwoFactorEvent ι)) (i : ι) :
    (stageAfter userId requests history i).request = requests i := by
  induction history with
  | nil => rfl
  | cons event earlier ih =>
      by_cases hi : i = event.thread
      · subst hi
        rw [stageAfter, Protocol.after_cons_self, request_next]
        exact ih
      · rwa [stageAfter, Protocol.after_cons_of_ne _ _ _ hi]

omit [DecidableEq ι] in
theorem completes_of_next {stage : TwoFactorStage} {asked : TwoFactorRequest} {codes : List String}
    {response : Except ThrownError call.Answer}
    (h : (serves userId).next stage call response = .returned asked codes) :
    stage = .returned asked codes ∨
      completes (⟨i, call, response⟩ : TwoFactorEvent ι) = true := by
  simp only [serves] at h
  split at h
  case h_10 => exact .inr rfl
  case h_11 => exact .inl h
  all_goals cases h

/-- A call reaches its last stage with an update. -/
theorem completes_of_returned {asked : TwoFactorRequest} {codes : List String}
    (h : stageAfter userId requests history i = .returned asked codes) :
    ∃ event ∈ history, event.thread = i ∧ completes event = true := by
  induction history with
  | nil => cases h
  | cons event earlier ih =>
      have hEarlier (hOld : stageAfter userId requests earlier i = .returned asked codes) :
          ∃ other ∈ event :: earlier, other.thread = i ∧ completes other = true := by
        obtain ⟨other, hOther, hBoth⟩ := ih hOld
        exact ⟨other, List.mem_cons_of_mem event hOther, hBoth⟩
      by_cases hi : i = event.thread
      · subst hi
        rw [stageAfter, Protocol.after_cons_self] at h
        rcases completes_of_next h with hOld | hCompletes
        · exact hEarlier hOld
        · exact ⟨event, List.mem_cons_self, rfl, hCompletes⟩
      · rw [stageAfter, Protocol.after_cons_of_ne _ _ _ hi] at h
        exact hEarlier h

/-- A call that has returned does nothing more. -/
theorem stageAfter_cons_of_returned {asked : TwoFactorRequest} {codes : List String} {j : ι}
    {response : Except ThrownError call.Answer}
    (hAllows : (serves userId).allows (stageAfter userId requests history i) call)
    (hReturned : stageAfter userId requests history j = .returned asked codes) :
    stageAfter userId requests (⟨i, call, response⟩ :: history) j = .returned asked codes := by
  have hOther : j ≠ i := by
    rintro rfl
    rw [hReturned] at hAllows
    cases call with
    | userFindByIdAndUpdate id update => exact hAllows.2
    | _ => exact hAllows
  rw [← hReturned]
  exact Protocol.after_cons_of_ne _ _ _ hOther

/-- The codes drawn by the call of a thread. -/
abbrev drawnBy (userId : String) (requests : ι → TwoFactorRequest)
    (history : List (TwoFactorEvent ι)) (i : ι) : List String :=
  (stageAfter userId requests history i).drawn

/-- A call that has made its update has returned. -/
def Completed (userId : String) (requests : ι → TwoFactorRequest)
    (history : List (TwoFactorEvent ι)) : Prop :=
  ∀ event ∈ history, completes event = true → ∃ codes,
    stageAfter userId requests history event.thread = .returned (requests event.thread) codes

/-- An update that takes effect is a call's last step. -/
theorem stageAfter_cons_of_completes {response : Except ThrownError call.Answer}
    (h : completes (⟨i, call, response⟩ : TwoFactorEvent ι) = true) :
    stageAfter userId requests (⟨i, call, response⟩ :: history) i =
      .returned (requests i) (drawnBy userId requests history i) := by
  obtain ⟨j, id, update, hEvent⟩ := completes_eq_true h
  obtain ⟨rfl, rfl, rfl⟩ := Event.mk.inj hEvent
  have hOwn := (serves userId).after_cons_self (fun i => .starting (requests i))
    (⟨i, .userFindByIdAndUpdate id update, .ok ()⟩ : TwoFactorEvent ι) history
  rw [← stageAfter_request userId requests history i]
  exact hOwn.trans (next_update _ _)

section Step

variable (h : Completed userId requests history)
  (hAllows : (serves userId).allows (stageAfter userId requests history i) call)
  (response : Except ThrownError call.Answer)

include h hAllows

theorem Completed.step : Completed userId requests (⟨i, call, response⟩ :: history) := by
  intro event hEvent hCompletes
  rcases List.mem_cons.mp hEvent with rfl | hOld
  · exact ⟨_, stageAfter_cons_of_completes hCompletes⟩
  · obtain ⟨codes, hReturned⟩ := h event hOld hCompletes
    exact ⟨codes, stageAfter_cons_of_returned hAllows hReturned⟩

/-- What a completed call has drawn stays. -/
theorem Completed.drawnBy_eq {event : TwoFactorEvent ι} (hEvent : event ∈ history)
    (hCompletes : completes event = true) : drawnBy userId requests history event.thread =
      drawnBy userId requests (⟨i, call, response⟩ :: history) event.thread := by
  obtain ⟨codes, hReturned⟩ := h event hEvent hCompletes
  rw [drawnBy, drawnBy, hReturned, stageAfter_cons_of_returned hAllows hReturned]

end Step

/-- Everything a step can do: the user is as before, or a call makes its update. -/
theorem step_cases [Otplib] (decision : TwoFactorDecision) (store : TwoFactorStore)
    (hAllows : (serves userId).allows (stageAfter userId requests history i) call) :
    (completes (⟨i, call, (performTwoFactor decision store call).2⟩ : TwoFactorEvent ι) = false ∧
      (performTwoFactor decision store call).1.find userId = store.find userId) ∨
    ∃ update, (stageAfter userId requests history i).makes update ∧
      call = .userFindByIdAndUpdate userId update ∧
      completes (⟨i, call, (performTwoFactor decision store call).2⟩ : TwoFactorEvent ι) = true ∧
      (performTwoFactor decision store call).1.find userId =
        (store.find userId).map update.apply := by
  cases call with
  | userFindByIdAndUpdate id update =>
      obtain ⟨rfl, hMakes⟩ : id = userId ∧ (stageAfter userId requests history i).makes update := by
        cases hStage : stageAfter userId requests history i <;> (rw [hStage] at hAllows; exact hAllows)
      rcases @update_cases _ decision store id update with ⟨hOk, hFind⟩ | ⟨error, hError, hFind⟩
      · exact .inr ⟨update, hMakes, rfl, by rw [hOk]; rfl, hFind⟩
      · exact .inl ⟨by rw [hError]; rfl, hFind⟩
  | _ => exact .inl ⟨rfl, find_of_reads rfl⟩

variable [Otplib] {store : TwoFactorStore} {guard : Guard twoFactor ι}
  {point : Point twoFactor ι (List String)}

/-- Every thread follows its request. -/
theorem follows_of_run (run : GuardedRun guard (twoFactorPool store userId requests) point)
    (i : ι) :
    (point.2.thread i).Follows (serves userId) Returns (stageAfter userId requests point.1 i) :=
  GuardedRun.follows (serves userId) (fun i => .starting (requests i)) run
    (fun i => perform_serves (requests i)) i

/-- The call has returned when its stage says so, and with these codes. -/
theorem done_iff (run : GuardedRun guard (twoFactorPool store userId requests) point)
    (i : ι) (codes : List String) : point.2.thread i = .done codes ↔
      stageAfter userId requests point.1 i = .returned (requests i) codes := by
  have hFollows := follows_of_run run i
  have hRequest := stageAfter_request userId requests point.1 i
  cases hThread : point.2.thread i with
  | done result =>
      rw [hThread] at hFollows
      rw [Program.done.injEq, ← Except.ok.injEq (ε := ThrownError), hFollows codes]
      constructor
      · rintro ⟨asked, hReturned⟩
        rw [hReturned] at hRequest ⊢
        exact congrArg (TwoFactorStage.returned · codes) hRequest
      · intro hReturned
        exact ⟨requests i, hReturned⟩
  | fail error =>
      rw [hThread] at hFollows
      constructor
      · intro hDone
        cases hDone
      · intro hReturned
        cases (hFollows codes).mpr ⟨requests i, hReturned⟩
  | call request next =>
      rw [hThread] at hFollows
      constructor
      · intro hDone
        cases hDone
      · intro hReturned
        rw [hReturned] at hFollows
        have hAllows := hFollows.1
        cases request with
        | userFindByIdAndUpdate id update => exact hAllows.2.elim
        | _ => exact hAllows.elim

/-- Where a call has returned, `codesOf` are the codes it drew. -/
theorem codesOf_eq (run : GuardedRun guard (twoFactorPool store userId requests) point)
    {asked : TwoFactorRequest} {codes : List String}
    (hReturned : stageAfter userId requests point.1 i = .returned asked codes) :
    codesOf point.2 i = codes := by
  have hRequest := stageAfter_request userId requests point.1 i
  rw [hReturned] at hRequest
  obtain rfl : asked = requests i := hRequest
  rw [codesOf, (done_iff run i codes).mpr hReturned]

end Pools

end Navin.TwoFactor
