import Navin.Chain.SigningProcess

/-! Process-wide signing safety. Sections that wait for their turn never overlap,
and nothing they submit is stale. A section that does not wait its turn overlaps
with any other. -/
namespace Navin

open Async

/-- A section submits on the sequence number it has loaded, and only once. The
state is the number it holds. -/
def signing : Protocol SigningCall SigningCall.Answer SigningError (Option Nat) where
  allows
    | held, .submitTransaction tx => ∃ sequence, held = some sequence ∧ tx.sequence = sequence + 1
    | _, _ => True
  next
    | _, .loadAccount, response => response.toOption
    | _, .submitTransaction _, _ => none
    | held, .simulateTransaction _, _ => held
    | held, .confirmTransaction _, _ => held

namespace SigningProcess

/-- No two sections are open at the same time. -/
def Exclusive (process : SigningProcess) : Prop :=
  ∀ first second, process.Open first → process.Open second → first = second

/-- A call was rejected for a bad sequence. -/
def refused (event : Event SigningCall SigningCall.Answer SigningError SectionName) : Bool :=
  match event.response with
  | .error error => isBadSequence error
  | .ok _ => false

theorem refused_iff {event : Event SigningCall SigningCall.Answer SigningError SectionName} :
    refused event ↔ ∃ error, event.response = .error error ∧ isBadSequence error := by
  unfold refused
  cases event.response <;> simp

/-- No submission has been rejected for a bad sequence. -/
def Unrefused (process : SigningProcess) : Prop :=
  ∀ event ∈ process.history, ¬refused event

/-- Sections do not overlap and, if nobody else signs, nothing is refused. -/
structure SigningSafe (process : SigningProcess) : Prop where
  exclusive : process.Exclusive
  unrefused : process.account.bumps = 0 → process.Unrefused

/-- Callers make these calls, in any number; everything else just happens. -/
def requesting (allowed : ChainRequest → Prop) : Action → Prop
  | .request call => allowed call
  | _ => True

variable [StellarSdk] {config : ChainConfig} {process after : SigningProcess}
  {permits : Action → Prop} {action : Action}

omit [StellarSdk] in
theorem submitOnce_signing {name hexValue : String} {held : Option Nat}
    {submit : SigningM SubmitReceipt → SigningM SubmitReceipt}
    (hSubmit : ∀ sequence tx, tx.sequence = sequence + 1 →
      (submit (onChain (.submitTransaction tx))).Follows signing (fun _ _ => True)
        (some sequence)) :
    (SimulatedAdapter.submitOnce name hexValue submit).Follows signing (fun _ _ => True) held := by
  rw [SimulatedAdapter.submitOnce, Program.follows_bind]
  refine Program.follows_await.mpr ⟨trivial, forall_except.mpr ⟨fun _ => trivial, ?_⟩⟩
  intro sequence
  rw [Program.then_ok, Program.follows_bind]
  rcases manageData_cases name hexValue with ⟨error, hEntry⟩ | hEntry
  · rw [hEntry]
    trivial
  · rw [hEntry]
    exact hSubmit sequence _ rfl

omit [StellarSdk] in
theorem attempt_signing (name hexValue : String) (retries : Nat) (held : Option Nat) :
    (SimulatedAdapter.attempt name hexValue retries).Follows signing (fun _ _ => True) held := by
  induction retries generalizing held with
  | zero =>
      refine submitOnce_signing fun sequence tx hNext => ?_
      exact Program.follows_await.mpr ⟨⟨sequence, rfl, hNext⟩, fun _ => trivial⟩
  | succ left ih =>
      refine submitOnce_signing fun sequence tx hNext => ?_
      rw [Program.follows_tryCatch]
      refine Program.follows_await.mpr ⟨⟨sequence, rfl, hNext⟩, forall_except.mpr ⟨?_, ?_⟩⟩
      · intro error
        rw [Program.caught_error]
        split
        · exact ih _
        · trivial
      · exact fun _ => trivial

/-- Along a key the serializer lets one task run at a time. -/
theorem Orderly.exclusive (orderly : process.Orderly config permits)
    (hSerial : ∀ call program, permits (.request call) → config.begin call ≠ .ok (.direct program)) :
    process.Exclusive := by
  have hRunning (name : SectionName) (hOpen : process.Open name) : ∃ i key, name = .queued i ∧
      process.serializer.Running i ∧ process.serializer.calls[i]? = some key ∧
        config.signer = some key := by
    obtain ⟨call, next, hCode⟩ := hOpen
    cases name with
    | queued i =>
        have hStarted := orderly.started i (Option.isSome_of_eq_some hCode)
        obtain ⟨key, hKey⟩ := orderly.serializer.call_of_started hStarted
        refine ⟨i, key, rfl, ⟨hStarted, fun outcome hFinished => ?_⟩, hKey,
          orderly.keys key (List.mem_of_getElem? hKey)⟩
        rw [orderly.finished i outcome hFinished] at hCode
        cases outcome <;> cases hCode
    | direct i =>
        have hBound := orderly.opened i (Option.isSome_of_eq_some hCode)
        obtain ⟨hPermitted, program, hBegin⟩ :=
          orderly.direct i _ (List.getElem?_eq_getElem hBound)
        exact absurd hBegin (hSerial _ program hPermitted)
  intro first second hFirst hSecond
  obtain ⟨i, key, rfl, hRunI, hKeyI, hSigner⟩ := hRunning first hFirst
  obtain ⟨j, other, rfl, hRunJ, hKeyJ, hOther⟩ := hRunning second hSecond
  obtain rfl := Option.some.inj (hSigner.symm.trans hOther)
  rw [orderly.serializer.exclusive hKeyI hKeyJ hRunI hRunJ]

/-- With nobody else signing, what an open section holds is current. -/
structure Current (process : SigningProcess) : Prop where
  held : ∀ name sequence, process.Open name →
    signing.after (fun _ => none) process.history name = some sequence →
      process.account.sequence = sequence
  unrefused : process.Unrefused

theorem bumps_of_step (h : process.step config action = some after)
    (hBumps : after.account.bumps = 0) : process.account.bumps = 0 := by
  cases step_cases h with
  | performed hCode =>
      rw [ChainAccount.perform_bumps] at hBumps
      exact Nat.eq_zero_of_add_eq_zero_right hBumps
  | _ => exact hBumps

omit [StellarSdk] in
/-- A section that is being opened holds nothing yet. -/
theorem Current.opened (current : process.Current)
    (following : process.Following permits signing none fun _ _ _ => True) {name : SectionName}
    {program : SigningM SubmitReceipt} (hNew : process.code name = none)
    (hCode : after.code = Function.update process.code name (some program))
    (hHistory : after.history = process.history) (hAccount : after.account = process.account) :
    after.Current := by
  refine ⟨fun other sequence hOpen hHeld => ?_, ?_⟩
  · rw [hHistory] at hHeld
    rw [hAccount]
    by_cases hSame : other = name
    · rw [hSame, following.unopened name hNew] at hHeld
      cases hHeld
    · obtain ⟨call, next, hOther⟩ := hOpen
      rw [hCode, Function.update_of_ne hSame] at hOther
      exact current.held other sequence ⟨call, next, hOther⟩ hHeld
  · unfold Unrefused
    rw [hHistory]
    exact current.unrefused

/-- The call of the one open section keeps what it holds current, and is not refused. -/
theorem Current.performed (current : process.Current)
    (following : process.Following permits signing none fun _ _ _ => True)
    (exclusive : process.Exclusive) {decision : NetworkDecision} {name : SectionName}
    {call : SigningCall} {next : Except SigningError call.Answer → SigningM SubmitReceipt}
    (hCode : process.code name = some (.call call next)) (hBumps : decision.bumps = 0)
    (hOpen : ∀ other, after.Open other → process.Open other)
    (hHistory : after.history =
      ⟨name, call, (process.account.perform decision call).2⟩ :: process.history)
    (hAccount : after.account = (process.account.perform decision call).1) : after.Current := by
  obtain ⟨_, -, -, hAllows, -⟩ := following.code name _ hCode
  have hName : process.Open name := ⟨call, next, hCode⟩
  constructor
  · intro other sequence hOther hHeld
    obtain rfl := exclusive other name (hOpen other hOther) hName
    rw [hHistory, signing.after_cons_self _ ⟨other, call, _⟩] at hHeld
    have hKeeps (hQuery : ∀ tx, call ≠ .submitTransaction tx) :
        after.account.sequence = process.account.sequence := by
      rw [hAccount, ChainAccount.perform_sequence hQuery, hBumps, Nat.add_zero]
    cases call with
    | loadAccount =>
        rw [hKeeps (by simp)]
        have hLoaded : (process.account.perform decision .loadAccount).2 = .ok sequence := by
          change Except.toOption (process.account.perform decision .loadAccount).2 = _ at hHeld
          cases hResponse : (process.account.perform decision .loadAccount).2 with
          | error error =>
              rw [hResponse] at hHeld
              cases hHeld
          | ok loaded =>
              rw [hResponse] at hHeld
              exact congrArg Except.ok (Option.some.inj hHeld)
        rw [ChainAccount.perform_loadAccount hLoaded, hBumps, Nat.add_zero]
    | submitTransaction tx => cases hHeld
    | simulateTransaction tx =>
        rw [hKeeps (by simp)]
        exact current.held other sequence hName hHeld
    | confirmTransaction hash =>
        rw [hKeeps (by simp)]
        exact current.held other sequence hName hHeld
  · unfold Unrefused
    rw [hHistory, List.forall_mem_cons]
    refine ⟨fun hRefused => ?_, current.unrefused⟩
    obtain ⟨error, hError, hBad⟩ := refused_iff.mp hRefused
    obtain ⟨tx, rfl, hWrong⟩ := ChainAccount.perform_refuses hError hBad
    obtain ⟨sequence, hHeld, hNext⟩ := hAllows
    rw [hNext, current.held name sequence hName hHeld, hBumps] at hWrong
    exact hWrong rfl

theorem Current.step (current : process.Current) (orderly : process.Orderly config permits)
    (following : process.Following permits signing none fun _ _ _ => True)
    (exclusive : process.Exclusive) (h : process.step config action = some after)
    (hBumps : after.account.bumps = 0) : after.Current := by
  cases step_cases h with
  | refused => exact current
  | queued hBegin => exact ⟨current.held, current.unrefused⟩
  | opened hBegin => exact current.opened following orderly.code_of_next rfl rfl rfl
  | started hDue hTask => exact current.opened following (orderly.code_of_due hDue) rfl rfl rfl
  | calledBack hDue hLog => exact ⟨current.held, current.unrefused⟩
  | @performed decision name call next hCode =>
      rw [ChainAccount.perform_bumps] at hBumps
      refine current.performed following exclusive hCode
        (Nat.eq_zero_of_add_eq_zero_left hBumps) (fun other hOther => ?_) rfl rfl
      by_cases hSame : other = name
      · exact hSame ▸ ⟨call, next, hCode⟩
      · simpa only [Open, Function.update_of_ne hSame] using hOther
  | settled hCode hFinish => exact ⟨current.held, current.unrefused⟩

/-- When every section waits its turn, signing is safe. -/
theorem Reachable.signingSafe (h : Reachable config permits process)
    (hSerial : ∀ call program, permits (.request call) → config.begin call ≠ .ok (.direct program)) :
    process.SigningSafe := by
  have hBegin (call : ChainRequest) (opened : Section) (permitted : permits (.request call))
      (hOpened : config.begin call = .ok opened) :
      opened.program.Follows signing (fun _ _ => True) none := by
    have hCases : Begun config call (config.begin call) := begin_cases
    rw [hOpened] at hCases
    cases hCases with
    | queued => exact attempt_signing _ _ _ _
    | direct => exact absurd hOpened (hSerial call _ permitted)
  refine ⟨h.orderly.exclusive hSerial, fun hBumps => ?_⟩
  have hCurrent : process.Current := by
    induction h with
    | initial =>
        refine ⟨fun name sequence hOpen hHeld => ?_, List.forall_mem_nil _⟩
        cases hHeld
    | step earlier permitted hStep ih =>
        exact (ih (bumps_of_step hStep hBumps)).step earlier.orderly (earlier.following hBegin)
          (earlier.orderly.exclusive hSerial) hStep hBumps
  exact hCurrent.unrefused

/-- A call that does not wait its turn overlaps with itself. -/
theorem not_exclusive_of_direct {call : ChainRequest}
    {next : Except SigningError Nat → SigningM SubmitReceipt}
    (permitted : permits (.request call))
    (hBegin : config.begin call = .ok (.direct (.call .loadAccount next))) :
    ∃ process, Reachable config permits process ∧ ¬process.Exclusive := by
  have hFirst : Reachable config permits (request config {} call) :=
    .step .initial permitted rfl
  refine ⟨request config (request config {} call) call, .step hFirst permitted rfl, fun h => ?_⟩
  have hSame := h (.direct 0) (.direct 1) ⟨.loadAccount, next, ?_⟩ ⟨.loadAccount, next, ?_⟩
  · cases hSame
  · simp [request, hBegin]
  · simp [request, hBegin]

/-- Signing is safe exactly when every call that comes to sign waits its turn. -/
theorem signing_safe_iff (config : ChainConfig) (allowed : ChainRequest → Prop) :
    (∀ process, Reachable config (requesting allowed) process → process.SigningSafe) ↔
      ∀ call, allowed call → config.signs call →
        config.chainAdapter = .simulated ∧ ¬call.isTokenization := by
  constructor
  · intro hSafe call hAllowed hSigns
    have hCases : Begun config call (config.begin call) := begin_cases
    generalize hBegin : config.begin call = begun at hCases
    cases hCases with
    | refused hRefused => exact absurd hSigns hRefused
    | queued _ hKind hCall => exact ⟨hKind, hCall⟩
    | direct =>
        have hPermitted : requesting allowed (.request call) := hAllowed
        obtain ⟨process, hReachable, hOverlap⟩ := not_exclusive_of_direct hPermitted hBegin
        exact absurd (hSafe process hReachable).exclusive hOverlap
  · intro hWaits process hReachable
    refine hReachable.signingSafe fun call program hAllowed hBegin => ?_
    have hCases : Begun config call (config.begin call) := begin_cases
    rw [hBegin] at hCases
    cases hCases with
    | direct hSigns hDirect =>
        obtain ⟨hKind, hCall⟩ := hWaits call hAllowed hSigns
        rcases hDirect with hSoroban | hTokenization
        · cases hSoroban.symm.trans hKind
        · exact hCall hTokenization

omit [StellarSdk] in
/-- An anchor and a tokenization under the simulated adapter: both load the
account, the tokenization submits, and the anchor is refused. -/
theorem tokenization_overtakes_anchor : ¬∀ (_ : StellarSdk) (config : ChainConfig)
    (process : SigningProcess),
    Reachable config (requesting fun _ => True) process → process.SigningSafe := by
  intro h
  let sdk : StellarSdk := ⟨fun tx => toString tx.sequence, fun _ => true⟩
  let config : ChainConfig := ⟨.simulated, some "GA", none⟩
  let actions : List Action :=
    [.request (.anchorEvent ⟨"ship_1", String.ofList (List.replicate 64 '0'), "GA"⟩),
      .request (.tokenizeShipment ⟨"NAV-1", "Lagos", "Accra", "ship_1"⟩),
      .callBack ⟨0, .result⟩, .perform {} (.queued 0), .perform {} (.direct 0),
      .perform {} (.direct 0), .perform {} (.queued 0)]
  have hRun : (actions.foldlM (SigningProcess.step config) {}).map
      (fun process => (process.account.bumps, process.history.any refused)) = some (0, true) := by
    decide +kernel
  obtain ⟨process, hSteps, hEnd⟩ := Option.map_eq_some_iff.mp hRun
  obtain ⟨hBumps, hAny⟩ := Prod.mk.inj hEnd
  obtain ⟨event, hEvent, hRefused⟩ := List.any_eq_true.mp hAny
  have hPermitted : ∀ action ∈ actions, requesting (fun _ => True) action := by
    intro action _
    cases action <;> trivial
  have hSafe := h sdk config process (Reachable.initial.trans hPermitted hSteps)
  exact hSafe.unrefused hBumps event hEvent hRefused

end SigningProcess

end Navin
