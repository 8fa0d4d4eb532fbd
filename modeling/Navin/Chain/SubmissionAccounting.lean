import Navin.Chain.SigningSafety

/-! Every call of the simulated adapter is accounted for: one accepted transaction
when it resolves, three refusals when it rejects, whoever else signs. -/
namespace Navin

open Async

/-- A submitted transaction and what became of it. -/
structure Submission where
  tx : Transaction
  response : Except SigningError SubmitReceipt

def Submission.refused (submission : Submission) : Bool :=
  match submission.response with
  | .error error => isBadSequence error
  | .ok _ => false

/-- What a section has submitted, latest first, and whether one of its calls has
failed for another reason than a stale sequence number. -/
structure Tally where
  submissions : List Submission := []
  faulted : Bool := false

def Tally.next (tally : Tally) : (call : SigningCall) → Except SigningError call.Answer → Tally
  | .submitTransaction tx, response =>
      ⟨⟨tx, response⟩ :: tally.submissions,
        tally.faulted || !response.isOk && !Submission.refused ⟨tx, response⟩⟩
  | .loadAccount, response => { tally with faulted := tally.faulted || !response.isOk }
  | .simulateTransaction _, response => { tally with faulted := tally.faulted || !response.isOk }
  | .confirmTransaction _, response => { tally with faulted := tally.faulted || !response.isOk }

/-- A section goes on only while it may submit again. -/
def accounting : Protocol SigningCall SigningCall.Answer SigningError Tally where
  allows tally _ := tally.submissions.length < 3
  next := Tally.next

/-- How the section of a call ends: with one acceptance, or with three refusals. -/
structure Settles (call : ChainRequest) (tally : Tally)
    (outcome : Except SigningError SubmitReceipt) : Prop where
  bounded : tally.submissions.length ≤ 3
  accepted : ∀ receipt, outcome = .ok receipt → tally.faulted = false → ∃ tx earlier,
    tally.submissions = ⟨tx, .ok receipt⟩ :: earlier ∧ tx.operations = call.operations ∧
      ∀ submission ∈ earlier, submission.refused
  refused : ∀ error, outcome = .error error → tally.faulted = false →
    tally.submissions.length = 3 ∧ ∀ submission ∈ tally.submissions, submission.refused

section Attempts

variable {call : ChainRequest} {tally : Tally} {name hexValue : String} {tx : Transaction}

theorem settles_ok {receipt : SubmitReceipt} (hRoom : tally.submissions.length < 3)
    (hRefused : ∀ submission ∈ tally.submissions, submission.refused)
    (hOperations : tx.operations = call.operations) :
    Settles call (tally.next (.submitTransaction tx) (.ok receipt)) (.ok receipt) where
  bounded := hRoom
  accepted := by
    rintro _ ⟨⟩ -
    exact ⟨tx, tally.submissions, rfl, hOperations, hRefused⟩
  refused := by rintro _ ⟨⟩

/-- An error of another kind accounts for nothing. -/
theorem settles_faulted {error : SigningError} (hBound : tally.submissions.length ≤ 3)
    (hFaulted : tally.faulted = true) : Settles call tally (.error error) where
  bounded := hBound
  accepted := by rintro _ ⟨⟩
  refused := by
    intro _ _ hSound
    rw [hFaulted] at hSound
    cases hSound

theorem faulted_of_not_badSequence {error : SigningError} (h : ¬isBadSequence error) :
    (tally.next (.submitTransaction tx) (.error error)).faulted = true := by
  simp [Tally.next, Submission.refused, h, Except.isOk, Except.toBool]

theorem settles_refused {error : SigningError} (hLast : tally.submissions.length = 2)
    (hRefused : ∀ submission ∈ tally.submissions, submission.refused)
    (hBad : isBadSequence error) :
    Settles call (tally.next (.submitTransaction tx) (.error error)) (.error error) where
  bounded := Nat.le_of_eq (congrArg Nat.succ hLast)
  accepted := by rintro _ ⟨⟩
  refused := by
    rintro _ - -
    exact ⟨congrArg Nat.succ hLast, List.forall_mem_cons.mpr ⟨hBad, hRefused⟩⟩

theorem submitOnce_accounting {submit : SigningM SubmitReceipt → SigningM SubmitReceipt}
    (hEntry : manageData name hexValue = return .manageData name hexValue)
    (hRoom : tally.submissions.length < 3)
    (hSubmit : ∀ tx, tx.operations = [.manageData name hexValue] →
      (submit (onChain (.submitTransaction tx))).Follows accounting (Settles call) tally) :
    (SimulatedAdapter.submitOnce name hexValue submit).Follows accounting (Settles call)
      tally := by
  rw [SimulatedAdapter.submitOnce, Program.follows_bind]
  refine Program.follows_await.mpr ⟨hRoom, forall_except.mpr ⟨fun _ => ?_, fun sequence => ?_⟩⟩
  · refine settles_faulted (Nat.le_of_lt hRoom) ?_
    simp [accounting, Tally.next, Except.isOk, Except.toBool]
  · have hSame : accounting.next tally .loadAccount (.ok sequence) = tally := by
      simp [accounting, Tally.next, Except.isOk, Except.toBool]
    rw [Program.then_ok, hSame, hEntry, pure_bind]
    exact hSubmit _ rfl

/-- With `left` retries left, all but two of three attempts have been refused. -/
theorem attempt_accounting (left : Nat)
    (hEntry : manageData name hexValue = return .manageData name hexValue)
    (hOperations : call.operations = [.manageData name hexValue])
    (hLeft : tally.submissions.length + left = 2)
    (hRefused : ∀ submission ∈ tally.submissions, submission.refused) :
    (SimulatedAdapter.attempt name hexValue left).Follows accounting (Settles call) tally := by
  induction left generalizing tally with
  | zero =>
      refine submitOnce_accounting hEntry (by omega) fun tx hTx => ?_
      have hRoom : tally.submissions.length < 3 := by omega
      refine Program.follows_await.mpr ⟨hRoom, forall_except.mpr ⟨fun error => ?_, fun _ => ?_⟩⟩
      · by_cases hBad : isBadSequence error
        · exact settles_refused hLeft hRefused hBad
        · exact settles_faulted hRoom (faulted_of_not_badSequence hBad)
      · exact settles_ok hRoom hRefused (hTx.trans hOperations.symm)
  | succ left ih =>
      refine submitOnce_accounting hEntry (by omega) fun tx hTx => ?_
      have hRoom : tally.submissions.length < 3 := by omega
      rw [Program.follows_tryCatch]
      refine Program.follows_await.mpr ⟨hRoom, forall_except.mpr ⟨fun error => ?_, fun _ => ?_⟩⟩
      · rw [Program.caught_error]
        split
        · rename_i hBad
          refine ih ?_ (List.forall_mem_cons.mpr ⟨hBad, hRefused⟩)
          change tally.submissions.length + 1 + left = 2
          omega
        · rename_i hOther
          exact settles_faulted hRoom (faulted_of_not_badSequence hOther)
      · exact settles_ok hRoom hRefused (hTx.trans hOperations.symm)

end Attempts

abbrev SigningEvent : Type :=
  Event SigningCall SigningCall.Answer SigningError SectionName

def submission? : SigningEvent → Option Submission
  | ⟨_, .submitTransaction tx, response⟩ => some ⟨tx, response⟩
  | _ => none

/-- What a section has submitted in a history. -/
def submissionsIn (history : List SigningEvent) (name : SectionName) : List Submission :=
  (history.filter fun event => event.thread = name).filterMap submission?

theorem submissions_next (tally : Tally) (event : SigningEvent) :
    (tally.next event.request event.response).submissions =
      (submission? event).toList ++ tally.submissions := by
  obtain ⟨thread, call, response⟩ := event
  cases call <;> rfl

theorem submissions_after (history : List SigningEvent) (name : SectionName) :
    (accounting.after (fun _ => {}) history name).submissions = submissionsIn history name := by
  induction history with
  | nil => rfl
  | cons event history ih =>
      by_cases hSame : name = event.thread
      · subst hSame
        have hNext := submissions_next (accounting.after (fun _ => {}) history event.thread) event
        rw [accounting.after_cons_self]
        refine hNext.trans ?_
        rw [ih, submissionsIn, submissionsIn, List.filter_cons_of_pos (by simp),
          List.filterMap_cons]
        cases submission? event <;> rfl
      · have hOther : event.thread ≠ name := fun h => hSame h.symm
        rw [accounting.after_cons_of_ne _ _ hSame, ih, submissionsIn, submissionsIn,
          List.filter_cons_of_neg (by simpa using hOther)]

variable [StellarSdk]

/-- An answer of a network on which nothing fails but stale sequence numbers. -/
def Answered (event : SigningEvent) : Prop :=
  ∃ account : ChainAccount, ∃ decision : NetworkDecision,
    event.response = (account.execute decision event.request).2

theorem Answered.sound {event : SigningEvent} (h : Answered event) (tally : Tally) :
    (tally.next event.request event.response).faulted = tally.faulted := by
  obtain ⟨account, decision, hResponse⟩ := h
  rw [hResponse]
  obtain ⟨thread, call, response⟩ := event
  cases call with
  | submitTransaction tx =>
      simp only [ChainAccount.execute]
      split <;> simp [Tally.next, Except.isOk, Except.toBool, Submission.refused, isBadSequence]
  | _ => simp [ChainAccount.execute, Tally.next, Except.isOk, Except.toBool]

theorem Answered.hash {event : SigningEvent} (h : Answered event) {tx : Transaction}
    {receipt : SubmitReceipt} (hAccepted : submission? event = some ⟨tx, .ok receipt⟩) :
    receipt.hash = StellarSdk.hash tx := by
  obtain ⟨account, decision, hResponse⟩ := h
  obtain ⟨thread, call, response⟩ := event
  cases call with
  | submitTransaction submitted =>
      cases hAccepted
      simp only [ChainAccount.execute] at hResponse
      split at hResponse
      · cases hResponse
        rfl
      · cases hResponse
  | _ => cases hAccepted

theorem sound_after {history : List SigningEvent} (h : ∀ event ∈ history, Answered event)
    (name : SectionName) : (accounting.after (fun _ => {}) history name).faulted = false := by
  induction history with
  | nil => rfl
  | cons event history ih =>
      rw [List.forall_mem_cons] at h
      by_cases hSame : name = event.thread
      · subst hSame
        rw [accounting.after_cons_self]
        exact (h.1.sound _).trans (ih h.2)
      · rw [accounting.after_cons_of_ne _ _ hSame]
        exact ih h.2

namespace SigningProcess

/-- Valid calls of an adapter, and a network that only ever refuses stale sequence
numbers. Others may sign for the account at any time. -/
def accountable : Action → Prop
  | .request call => call.Valid ∧ ¬call.isTokenization
  | .perform decision _ => decision.fault = none
  | _ => True

/-- The transactions of a call that were accepted. -/
def accepted (process : SigningProcess) (call : Nat) : List Transaction :=
  ((submissionsIn process.history (.queued call)).filter (·.response.isOk)).map (·.tx)

/-- How often a call was answered that its sequence number is bad. -/
def refusals (process : SigningProcess) (call : Nat) : Nat :=
  (submissionsIn process.history (.queued call)).countP (·.refused)

/-- Calls, as the caller sees them, and accepted transactions correspond. -/
structure Accounted (config : ChainConfig) (process : SigningProcess) : Prop where
  resolved : ∀ call answer, process.outcome config call = some (.ok answer) →
    ∃ request tx, process.request? (.queued call) = some request ∧ process.accepted call = [tx] ∧
      tx.operations = request.operations ∧ answer.txHash = StellarSdk.hash tx
  rejected : ∀ call error, process.outcome config call = some (.error error) →
    process.accepted call = [] ∧ process.refusals call = 3
  bounded : ∀ name, (submissionsIn process.history name).length ≤ 3
  unrefused : process.account.bumps = 0 → process.Unrefused

variable {config : ChainConfig} {process after : SigningProcess} {action : Action}

theorem Reachable.answered (h : Reachable config accountable process) :
    ∀ event ∈ process.history, Answered event := by
  induction h with
  | initial => exact List.forall_mem_nil _
  | @step before after action earlier permitted hStep ih =>
      cases step_cases hStep with
      | @performed decision name call next hCode =>
          have hPerform : before.account.perform decision call =
              (before.account.bump decision.bumps).execute decision call :=
            ChainAccount.perform_of_sound permitted
          exact List.forall_mem_cons.mpr ⟨⟨_, decision, congrArg Prod.snd hPerform⟩, ih⟩
      | _ => exact ih

theorem not_direct_of_accountable (hKind : config.chainAdapter = .simulated)
    {call : ChainRequest} (permitted : accountable (.request call))
    (program : SigningM SubmitReceipt) : config.begin call ≠ .ok (.direct program) := by
  intro hBegin
  have hCases : Begun config call (config.begin call) := begin_cases
  rw [hBegin] at hCases
  cases hCases with
  | direct _ hDirect =>
      rcases hDirect with hSoroban | hTokenization
      · cases hSoroban.symm.trans hKind
      · exact permitted.2 hTokenization

theorem Reachable.settles (h : Reachable config accountable process)
    (hKind : config.chainAdapter = .simulated) :
    process.Following accountable accounting {} Settles := by
  refine h.following fun call opened permitted hOpened => ?_
  have hCases : Begun config call (config.begin call) := begin_cases
  rw [hOpened] at hCases
  cases hCases with
  | queued _ _ hCall _ hOperations =>
      exact attempt_accounting _ (permitted.1.manageData_eq hCall hOperations) hOperations rfl
        (List.forall_mem_nil _)
  | direct => exact absurd hOpened (not_direct_of_accountable hKind permitted _)

/-- What a caller sees is how the section of its call has ended. -/
theorem Reachable.settled (h : Reachable config accountable process)
    (hKind : config.chainAdapter = .simulated) {call : Nat}
    {outcome : Except SigningError SubmitReceipt}
    (hReturned : process.serializer.promises.outcome ⟨call, .result⟩ = some outcome) :
    ∃ request, process.request? (.queued call) = some request ∧
      Settles request (accounting.after (fun _ => {}) process.history (.queued call)) outcome := by
  have hFinished := h.orderly.serializer.finished_of_returned hReturned
  have hCode := h.orderly.finished call outcome hFinished
  obtain ⟨request, hRequest, -, hFollows⟩ := (h.settles hKind).code _ _ hCode
  refine ⟨request, hRequest, ?_⟩
  cases outcome <;> exact hFollows

omit [StellarSdk] in
theorem not_isOk_of_refused {submission : Submission} (h : submission.refused) :
    submission.response.isOk = false := by
  unfold Submission.refused at h
  split at h
  · rename_i hResponse
    rw [hResponse]
    rfl
  · cases h

omit [StellarSdk] in
theorem acceptedIn_of_refused {submissions : List Submission}
    (h : ∀ submission ∈ submissions, submission.refused) :
    submissions.filter (·.response.isOk) = [] := by
  rw [List.filter_eq_nil_iff]
  intro submission hMem
  simp [not_isOk_of_refused (h submission hMem)]

/-- Every call is accounted for. -/
theorem submissions_accounted (hKind : config.chainAdapter = .simulated)
    (h : Reachable config accountable process) : process.Accounted config := by
  have hSound := sound_after h.answered
  have hAfter := submissions_after process.history
  refine ⟨fun call answer hOutcome => ?_, fun call error hOutcome => ?_, fun name => ?_, ?_⟩
  · obtain ⟨⟨request, task⟩, hTask, hRest⟩ := Option.bind_eq_some_iff.mp hOutcome
    obtain ⟨outcome, hReturned, hAnswer⟩ := Option.bind_eq_some_iff.mp hRest
    cases outcome with
    | error error => cases hAnswer
    | ok receipt =>
        obtain ⟨caller, hCaller, hSettles⟩ := h.settled hKind hReturned
        obtain ⟨tx, earlier, hSubmissions, hOperations, hRefused⟩ :=
          hSettles.accepted receipt rfl (hSound _)
        rw [hAfter] at hSubmissions
        refine ⟨caller, tx, hCaller, ?_, hOperations, ?_⟩
        · rw [accepted, hSubmissions, List.filter_cons_of_pos rfl, acceptedIn_of_refused hRefused]
          rfl
        · have hMem : ⟨tx, .ok receipt⟩ ∈ submissionsIn process.history (.queued call) := by
            rw [hSubmissions]
            exact List.mem_cons_self
          obtain ⟨event, hEvent, hAccepted⟩ := List.mem_filterMap.mp hMem
          cases hAnswer
          rw [ChainRequest.answer_txHash]
          exact (h.answered event (List.mem_of_mem_filter hEvent)).hash hAccepted
  · obtain ⟨⟨request, task⟩, hTask, hRest⟩ := Option.bind_eq_some_iff.mp hOutcome
    obtain ⟨outcome, hReturned, hAnswer⟩ := Option.bind_eq_some_iff.mp hRest
    cases outcome with
    | ok receipt => cases hAnswer
    | error error =>
        obtain ⟨caller, hCaller, hSettles⟩ := h.settled hKind hReturned
        obtain ⟨hThree, hRefused⟩ := hSettles.refused error rfl (hSound _)
        rw [hAfter] at hThree hRefused
        constructor
        · rw [accepted, acceptedIn_of_refused hRefused]
          rfl
        · rw [refusals, List.countP_eq_length.mpr hRefused]
          exact hThree
  · rw [← hAfter]
    cases hCode : process.code name with
    | none =>
        rw [(h.settles hKind).unopened name hCode]
        exact Nat.zero_le _
    | some program =>
        obtain ⟨request, -, -, hFollows⟩ := (h.settles hKind).code name program hCode
        cases program with
        | done receipt => exact hFollows.bounded
        | fail error => exact hFollows.bounded
        | call request next => exact Nat.le_of_lt hFollows.1
  · refine (h.signingSafe fun call program permitted hBegin => ?_).unrefused
    exact not_direct_of_accountable hKind permitted program hBegin

omit [StellarSdk] in
/-- Somebody else signs between load and submit, once: the anchor is refused,
tries again, and resolves. -/
theorem submissions_accounted_sample : ∃ (_ : StellarSdk) (config : ChainConfig)
    (process : SigningProcess), (process.outcome config 0).isSome ∧ process.refusals 0 = 1 ∧
      process.Accounted config := by
  let sdk : StellarSdk := ⟨fun tx => toString tx.sequence, fun _ => true⟩
  let address := "G" ++ String.ofList (List.replicate 55 'A')
  let config : ChainConfig := ⟨.simulated, some address, none⟩
  let input : AnchorArgs := ⟨"ship_1", String.ofList (List.replicate 64 '0'), address⟩
  let actions : List Action :=
    [.request (.anchorEvent input), .callBack ⟨0, .result⟩, .perform {} (.queued 0),
      .perform { bumps := 1 } (.queued 0), .perform {} (.queued 0), .perform {} (.queued 0),
      .settle 0, .callBack ⟨0, .result⟩]
  have hRun : (actions.foldlM (SigningProcess.step config) {}).map
      (fun process => ((process.outcome config 0).isSome, process.refusals 0)) =
        some (true, 1) := by
    decide +kernel
  obtain ⟨process, hSteps, hEnd⟩ := Option.map_eq_some_iff.mp hRun
  obtain ⟨hOutcome, hRefusals⟩ := Prod.mk.inj hEnd
  have hValid : isSymbol input.shipment_id ∧ isBytes32Hex input.data_hash ∧
      isAddress input.actor := by
    decide +kernel
  have hPermitted : ∀ action ∈ actions, accountable action := by
    simp [actions, accountable, ChainRequest.Valid, AnchorArgs.Valid, hValid,
      ChainRequest.isTokenization]
  exact ⟨sdk, config, process, hOutcome, hRefusals,
    submissions_accounted rfl (Reachable.initial.trans hPermitted hSteps)⟩

end SigningProcess

end Navin
