import Navin.Semantics.Restriction
import Navin.Workers.StellarWorker

/-! How many transactions the attempts at an anchor job leave on the chain. An attempt
submits whatever the attempts before it have done. -/
namespace Navin

open Async

/-- What a call means to the attempt that makes it. -/
inductive AnchorStep where
  | submits
  | recordsFailure
  | other
deriving DecidableEq

def anchorStep : BackendCall ⊕ TelemetryCall → AnchorStep
  | .inr (.anchorEvent _ _) => .submits
  | .inr (.telemetryFindByIdAndUpdate _ (.anchorFailed _)) => .recordsFailure
  | _ => .other

/-- Where an attempt is. It is broken when it fails although the chain has accepted its
transaction. -/
inductive Attempt where
  | waiting
  | accepted
  | refused
  | broken
  | failed
deriving DecidableEq

def Attempt.next : Attempt → AnchorStep → (answered : Bool) → Attempt
  | .failed, _, _ => .failed
  | _, .recordsFailure, _ => .failed
  | .waiting, .submits, true => .accepted
  | .waiting, .submits, false => .refused
  | .accepted, _, false => .broken
  | attempt, _, _ => attempt

/-- The calls that record a success. -/
def recordsAnchor (job : AnchorTelemetryJob) : BackendCall ⊕ TelemetryCall → Prop
  | .inl request => request.alwaysAnswers = true
  | .inr (.telemetryFindByIdAndUpdate id (.anchored _)) => id = job.telemetryId
  | .inr _ => False

def Attempt.allows (job : AnchorTelemetryJob) : Attempt → BackendCall ⊕ TelemetryCall → Prop
  | .waiting, request => anchorStep request = .submits
  | .accepted, request => recordsAnchor job request
  | .refused, request => anchorStep request = .recordsFailure
  | .broken, request => anchorStep request = .recordsFailure
  | .failed, _ => False

/-- An attempt submits once, and then records what has become of it. -/
def anchorsOnce (job : AnchorTelemetryJob) : Protocol (BackendCall ⊕ TelemetryCall)
    (Sum.elim BackendCall.Answer TelemetryCall.Answer) ThrownError Attempt where
  allows := Attempt.allows job
  next attempt request response := attempt.next (anchorStep request) response.isOk

/-- An attempt fails where it was refused or is broken. -/
def FailsOpenly (attempt : Attempt) (outcome : Except ThrownError String) : Prop :=
  ∀ error, outcome = .error error → attempt = .refused ∨ attempt = .broken

section Follows

variable {job : AnchorTelemetryJob}

theorem anchorStep_of_recordsAnchor {request : BackendCall ⊕ TelemetryCall}
    (h : recordsAnchor job request) : anchorStep request = .other := by
  cases request with
  | inl request => rfl
  | inr request =>
      cases request with
      | telemetryFindByIdAndUpdate id update =>
          cases update with
          | anchored stellarTxHash => rfl
          | _ => exact h.elim
      | _ => exact h.elim

/-- A call that records a success, and what follows it. -/
theorem follows_of_recordsAnchor {request : BackendCall ⊕ TelemetryCall}
    {f : Sum.elim BackendCall.Answer TelemetryCall.Answer request → TelemetryM String}
    (h : recordsAnchor job request)
    (hOk : ∀ answer, (f answer).Follows (anchorsOnce job) FailsOpenly .accepted) :
    (Program.await request >>= f).Follows (anchorsOnce job) FailsOpenly .accepted := by
  have hNext (response) : (anchorsOnce job).next .accepted request response =
      Attempt.next .accepted .other response.isOk :=
    congrArg (fun step => Attempt.next .accepted step response.isOk) (anchorStep_of_recordsAnchor h)
  apply Program.Follows.await_bind
  · exact h
  · intro error failure _
    rw [hNext]
    exact .inr rfl
  · intro answer
    rw [hNext]
    exact hOk answer

theorem updateTelemetryAnchor_follows (stellarTxHash : String) :
    (do let _ ← updateTelemetryAnchor job.telemetryId stellarTxHash
        return stellarTxHash : TelemetryM String).Follows (anchorsOnce job) FailsOpenly
      .accepted := by
  have hDone : (pure stellarTxHash : TelemetryM String).Follows (anchorsOnce job) FailsOpenly
      .accepted := fun error h => by cases h
  rw [updateTelemetryAnchor, bind_assoc]
  apply follows_of_recordsAnchor
  · rfl
  · intro updated
    split
    · have hNow : backendProgram currentDate = Program.await (Sum.inl BackendCall.now) :=
        Program.lift_await _
      have hAudit (entry : AuditEntry) :
          backendProgram (request (.auditLog entry)) =
            Program.await (Sum.inl (BackendCall.auditLog entry)) :=
        Program.lift_await _
      rw [bind_assoc, hNow]
      apply follows_of_recordsAnchor
      · rfl
      · intro now
        rw [bind_assoc, hAudit]
        apply follows_of_recordsAnchor
        · rfl
        · exact fun _ => hDone
    · exact hDone

theorem processStellarAnchor_follows [ErrorTexts] (job : AnchorTelemetryJob) :
    (processStellarAnchor job).Follows (anchorsOnce job) (fun _ _ => True) .waiting := by
  have hProtected : (do
      let stellarTxHash ← call (.anchorEvent job.shipmentId job.dataHash)
      let _ ← updateTelemetryAnchor job.telemetryId stellarTxHash
      return stellarTxHash : TelemetryM String).Follows (anchorsOnce job) FailsOpenly .waiting := by
    apply Program.Follows.await_bind
    · rfl
    · exact fun _ _ _ => .inl rfl
    · exact fun stellarTxHash => updateTelemetryAnchor_follows stellarTxHash
  apply hProtected.tryCatch
  · exact fun _ _ _ => trivial
  · intro attempt error hFails
    apply Program.Follows.await_bind
    · rcases hFails error rfl with rfl | rfl <;> rfl
    · exact fun _ => trivial
    · exact fun _ => trivial

end Follows

section Runs

variable {ι : Type} [DecidableEq ι]

/-- Whoever has submitted before has recorded its failure. -/
def retriesAfterFailure : Guard telemetryWorld ι := fun history _ _ request =>
  anchorStep request = .submits → ∀ event ∈ history, anchorStep event.request = .submits →
    ∃ failure ∈ history, failure.thread = event.thread ∧
      anchorStep failure.request = .recordsFailure

/-- No answer of the chain is lost, and the record can be updated once it is anchored. -/
def anchorsReliably (_ : TelemetryStore) (request : BackendCall ⊕ TelemetryCall)
    (decision : Decision × TelemetryDecision) : Prop :=
  match request with
  | .inr (.anchorEvent _ _) => ∀ error, decision.2.fault ≠ some (.lost error)
  | .inr (.telemetryFindByIdAndUpdate _ (.anchored _)) => decision.2.fault = none
  | _ => True

variable {job : AnchorTelemetryJob} {history : List (TelemetryEvent ι)}

def attempts (job : AnchorTelemetryJob) (history : List (TelemetryEvent ι)) : ι → Attempt :=
  (anchorsOnce job).after (fun _ => .waiting) history

theorem attempts_cons_self (event : TelemetryEvent ι) :
    attempts job (event :: history) event.thread =
      (attempts job history event.thread).next (anchorStep event.request) event.response.isOk :=
  (anchorsOnce job).after_cons_self _ event history

theorem attempts_cons_of_ne {event : TelemetryEvent ι} {i : ι} (h : i ≠ event.thread) :
    attempts job (event :: history) i = attempts job history i :=
  (anchorsOnce job).after_cons_of_ne _ history h

/-- Who has recorded a failure has failed. -/
theorem failed_of_recordsFailure {event : TelemetryEvent ι} (hMem : event ∈ history)
    (hStep : anchorStep event.request = .recordsFailure) :
    attempts job history event.thread = .failed := by
  induction history with
  | nil => cases hMem
  | cons latest earlier ih =>
      by_cases hThread : event.thread = latest.thread
      · rw [hThread, attempts_cons_self]
        rcases List.mem_cons.mp hMem with rfl | hOld
        · rw [hStep]
          cases attempts job earlier event.thread <;> rfl
        · rw [← hThread, ih hOld]
          rfl
      · rw [attempts_cons_of_ne hThread]
        rcases List.mem_cons.mp hMem with rfl | hOld
        · exact absurd rfl hThread
        · exact ih hOld

/-- Whose transaction was accepted has submitted it. -/
theorem submitted_of_accepted {i : ι} (h : attempts job history i = .accepted) :
    ∃ event ∈ history, event.thread = i ∧ anchorStep event.request = .submits := by
  induction history with
  | nil => cases h
  | cons event earlier ih =>
      have hOlder (hOld : attempts job earlier i = .accepted) :
          ∃ old ∈ event :: earlier, old.thread = i ∧ anchorStep old.request = .submits := by
        obtain ⟨old, hMem, hRest⟩ := ih hOld
        exact ⟨old, List.mem_cons_of_mem _ hMem, hRest⟩
      by_cases hThread : i = event.thread
      · subst hThread
        rw [attempts_cons_self] at h
        cases hStep : anchorStep event.request with
        | submits => exact ⟨event, List.mem_cons_self, rfl, hStep⟩
        | _ =>
            apply hOlder
            rw [hStep] at h
            cases hAttempt : attempts job earlier event.thread <;>
              cases hAnswered : event.response.isOk <;> rw [hAttempt, hAnswered] at h <;>
                first | rfl | cases h
      · rw [attempts_cons_of_ne hThread] at h
        exact hOlder h

omit [DecidableEq ι] in
theorem executeTelemetry_anchorTransactions {decision : TelemetryDecision} {store : TelemetryStore}
    {request : TelemetryCall} (h : anchorStep (.inr request) ≠ .submits) :
    (executeTelemetry decision store request).1.2.anchorTransactions =
      store.2.anchorTransactions := by
  cases request with
  | anchorEvent shipmentId dataHash => exact absurd rfl h
  | _ =>
      simp only [executeTelemetry, castingId]
      repeat' split
      all_goals rfl

/-- Only a submission adds a transaction. -/
theorem perform_anchorTransactions {env : Decision × TelemetryDecision} {store : TelemetryStore}
    {request : BackendCall ⊕ TelemetryCall} (h : anchorStep request ≠ .submits) :
    (telemetryWorld.perform env store request).1.2.anchorTransactions =
      store.2.anchorTransactions := by
  cases request with
  | inl request => rfl
  | inr request =>
      rcases performTelemetry_cases env.2 store request with hKept | hDone
      · exact congrArg (·.2.anchorTransactions) hKept
      · exact (congrArg (·.2.anchorTransactions) hDone).trans
          (executeTelemetry_anchorTransactions h)

/-- A submission whose answer is not lost is accepted or refused. -/
theorem perform_anchorEvent {decision : TelemetryDecision} {store : TelemetryStore}
    {shipmentId dataHash : String} (h : ∀ error, decision.fault ≠ some (.lost error)) :
    ∃ after response, performTelemetry decision store (.anchorEvent shipmentId dataHash) =
        (after, response) ∧
      (response.isOk = true ∧
          after.2.anchorTransactions.length = store.2.anchorTransactions.length + 1 ∨
        response.isOk = false ∧ after = store) := by
  cases hFault : decision.fault with
  | none =>
      rw [performTelemetry_of_fault_none hFault, executeTelemetry]
      split
      · exact ⟨_, _, rfl, .inl ⟨rfl, rfl⟩⟩
      · exact ⟨_, _, rfl, .inr ⟨rfl, rfl⟩⟩
  | some fault =>
      cases fault with
      | lost error => exact absurd hFault (h error)
      | rejected error =>
          exact ⟨_, _, performTelemetry_of_rejected rfl hFault, .inr ⟨rfl, rfl⟩⟩

/-- Recording a success is answered. -/
theorem perform_recordsAnchor {env : Decision × TelemetryDecision} {store : TelemetryStore}
    {request : BackendCall ⊕ TelemetryCall} (hJob : (ObjectId.cast? job.telemetryId).isSome)
    (hRecords : recordsAnchor job request) (hReliable : anchorsReliably store request env) :
    (telemetryWorld.perform env store request).2.isOk = true := by
  cases request with
  | inl request =>
      obtain ⟨answer, hAnswer⟩ : ∃ answer, (perform env.1 store.1 request).2 = .ok answer :=
        perform_ok_of_alwaysAnswers hRecords
      change (perform env.1 store.1 request).2.isOk = true
      rw [hAnswer]
      rfl
  | inr request =>
      cases request with
      | telemetryFindByIdAndUpdate id update =>
          cases update with
          | anchored stellarTxHash =>
              obtain rfl : id = job.telemetryId := hRecords
              obtain ⟨key, hKey⟩ := Option.isSome_iff_exists.mp hJob
              have hFault : env.2.fault = none := hReliable
              change (performTelemetry env.2 store
                (.telemetryFindByIdAndUpdate job.telemetryId (.anchored stellarTxHash))).2.isOk = true
              simp only [performTelemetry_of_fault_none hFault, executeTelemetry, castingId, hKey]
              split <;> rfl
          | _ => exact hRecords.elim
      | _ => exact hRecords.elim

/-- What the attempts have done and what the chain has. -/
structure AnchoredOnce (job : AnchorTelemetryJob) (first : Nat)
    (history : List (TelemetryEvent ι)) (store : TelemetryStore) : Prop where
  intact : ∀ i, attempts job history i ≠ .broken
  count : store.2.anchorTransactions.length = first ∨
    store.2.anchorTransactions.length = first + 1 ∧ ∃ i, attempts job history i = .accepted

variable {first : Nat} {store : TelemetryStore}

/-- A call that submits nothing leaves one accepted attempt, if it leaves it accepted. -/
theorem AnchoredOnce.keep (h : AnchoredOnce job first history store) {event : TelemetryEvent ι}
    {after : TelemetryStore}
    (hStore : after.2.anchorTransactions.length = store.2.anchorTransactions.length)
    (hIntact : attempts job (event :: history) event.thread ≠ .broken)
    (hAccepted : attempts job history event.thread = .accepted →
      attempts job (event :: history) event.thread = .accepted) :
    AnchoredOnce job first (event :: history) after := by
  constructor
  · intro i
    by_cases hThread : i = event.thread
    · rw [hThread]
      exact hIntact
    · rw [attempts_cons_of_ne hThread]
      exact h.intact i
  · rw [hStore]
    refine h.count.imp_right fun ⟨hLength, i, hOld⟩ => ⟨hLength, i, ?_⟩
    by_cases hThread : i = event.thread
    · rw [hThread] at hOld ⊢
      exact hAccepted hOld
    · rw [attempts_cons_of_ne hThread]
      exact hOld

/-- Who submits after failures finds no transaction accepted. -/
theorem AnchoredOnce.none_accepted (h : AnchoredOnce job first history store) {i : ι}
    {request : BackendCall ⊕ TelemetryCall} (hSubmits : anchorStep request = .submits)
    (hGuard : retriesAfterFailure history store i request) :
    store.2.anchorTransactions.length = first := by
  refine h.count.resolve_right fun ⟨_, j, hAccepted⟩ => ?_
  obtain ⟨event, hEvent, hThread, hStep⟩ := submitted_of_accepted hAccepted
  obtain ⟨failure, hFailure, hSame, hRecords⟩ := hGuard hSubmits event hEvent hStep
  have hFailed : attempts job history failure.thread = .failed :=
    failed_of_recordsFailure hFailure hRecords
  rw [hSame, hThread, hAccepted] at hFailed
  cases hFailed

omit [DecidableEq ι] in
theorem eq_anchorEvent {request : BackendCall ⊕ TelemetryCall} (h : anchorStep request = .submits) :
    ∃ shipmentId dataHash, request = .inr (.anchorEvent shipmentId dataHash) := by
  cases request with
  | inl request => cases h
  | inr request =>
      cases request with
      | anchorEvent shipmentId dataHash => exact ⟨shipmentId, dataHash, rfl⟩
      | telemetryFindByIdAndUpdate id update => cases update <;> cases h
      | _ => cases h

/-- A submission, of which there was no accepted one before. -/
theorem AnchoredOnce.submit (h : AnchoredOnce job first history store)
    (hCount : store.2.anchorTransactions.length = first) {event : TelemetryEvent ι}
    {after : TelemetryStore} (hWaiting : attempts job history event.thread = .waiting)
    (hStep : anchorStep event.request = .submits)
    (hDone : event.response.isOk = true ∧
        after.2.anchorTransactions.length = store.2.anchorTransactions.length + 1 ∨
      event.response.isOk = false ∧ after = store) :
    AnchoredOnce job first (event :: history) after := by
  have hNext : attempts job (event :: history) event.thread = _ := attempts_cons_self event
  rw [hWaiting, hStep] at hNext
  rcases hDone with ⟨hOk, hLength⟩ | ⟨hError, rfl⟩
  · rw [hOk] at hNext
    constructor
    · intro i
      by_cases hThread : i = event.thread
      · rw [hThread, hNext]
        exact Attempt.noConfusion
      · rw [attempts_cons_of_ne hThread]
        exact h.intact i
    · exact .inr ⟨hLength.trans (congrArg (· + 1) hCount), event.thread, hNext⟩
  · rw [hError] at hNext
    apply h.keep rfl
    · rw [hNext]
      exact Attempt.noConfusion
    · intro hAccepted
      rw [hWaiting] at hAccepted
      cases hAccepted

theorem AnchoredOnce.step (hJob : (ObjectId.cast? job.telemetryId).isSome)
    (h : AnchoredOnce job first history store) {env : Decision × TelemetryDecision} {i : ι}
    {request : BackendCall ⊕ TelemetryCall} (hAllows : (attempts job history i).allows job request)
    (hGuard : retriesAfterFailure history store i request)
    (hReliable : anchorsReliably store request env) :
    AnchoredOnce job first (⟨i, request, (telemetryWorld.perform env store request).2⟩ :: history)
      (telemetryWorld.perform env store request).1 := by
  have hNext : attempts job (⟨i, request, (telemetryWorld.perform env store request).2⟩ :: history)
      i = (attempts job history i).next (anchorStep request)
        (telemetryWorld.perform env store request).2.isOk :=
    attempts_cons_self ⟨i, request, _⟩
  cases hAttempt : attempts job history i with
  | waiting =>
      rw [hAttempt] at hAllows
      obtain ⟨shipmentId, dataHash, rfl⟩ := eq_anchorEvent hAllows
      obtain ⟨after, response, hPerform, hDone⟩ := perform_anchorEvent hReliable
      have hPerform' : telemetryWorld.perform env store (.inr (.anchorEvent shipmentId dataHash)) =
          (after, response) := hPerform
      rw [hPerform']
      exact h.submit (h.none_accepted rfl hGuard) hAttempt rfl hDone
  | accepted =>
      rw [hAttempt] at hAllows hNext
      rw [anchorStep_of_recordsAnchor hAllows, perform_recordsAnchor hJob hAllows hReliable] at hNext
      apply h.keep
      · rw [perform_anchorTransactions]
        rw [anchorStep_of_recordsAnchor hAllows]
        exact AnchorStep.noConfusion
      · rw [hNext]
        exact Attempt.noConfusion
      · exact fun _ => hNext
  | refused =>
      rw [hAttempt] at hAllows hNext
      have hStep : anchorStep request = .recordsFailure := hAllows
      rw [hStep] at hNext
      apply h.keep
      · rw [perform_anchorTransactions]
        rw [hStep]
        exact AnchorStep.noConfusion
      · rw [hNext]
        exact Attempt.noConfusion
      · intro hAccepted
        rw [hAttempt] at hAccepted
        cases hAccepted
  | broken => exact absurd hAttempt (h.intact i)
  | failed =>
      rw [hAttempt] at hAllows
      exact hAllows.elim

/-- The telemetry code where an accepted transaction is heard of and recorded. -/
abbrev anchorWorld : World (BackendCall ⊕ TelemetryCall)
    (Sum.elim BackendCall.Answer TelemetryCall.Answer) ThrownError :=
  telemetryWorld.restrict anchorsReliably

/-- Attempts that do not overlap, and do not fail once the chain has accepted their
transaction, leave at most one transaction on the chain. -/
theorem anchored_at_most_once [ErrorTexts] {point : Point anchorWorld ι String}
    (hJob : (ObjectId.cast? job.telemetryId).isSome)
    (run : GuardedRun (retriesAfterFailure.restrict anchorsReliably)
      ((anchorPool store job).restrict anchorsReliably) point) :
    point.2.store.2.anchorTransactions.length ≤ store.2.anchorTransactions.length + 1 := by
  have hOnce : AnchoredOnce job store.2.anchorTransactions.length point.1 point.2.store := by
    apply run.invariant (anchorsOnce job) (fun _ => .waiting)
      (fun _ => processStellarAnchor_follows job)
      (AnchoredOnce job store.2.anchorTransactions.length)
    · exact ⟨fun _ => Attempt.noConfusion, .inl rfl⟩
    · intro history store env i request h hAllows hGuard
      exact h.step hJob hAllows hGuard (env store request).2
  rcases hOnce.count with hNone | ⟨hOne, -⟩ <;> omega

end Runs

section Sample

instance (history : List (TelemetryEvent (Fin 2))) (store : TelemetryStore) (i : Fin 2)
    (request : BackendCall ⊕ TelemetryCall) :
    Decidable (retriesAfterFailure history store i request) :=
  inferInstanceAs (Decidable (_ → ∀ event ∈ history, _ → ∃ failure ∈ history, _ ∧ _))

/-- The environment decides so whatever it is asked. -/
private def always (decision : Decision × TelemetryDecision)
    (h : decision.2.fault = none) : anchorWorld.Env :=
  fun _ request => ⟨decision, by
    cases request with
    | inl request => trivial
    | inr request =>
        cases request with
        | anchorEvent shipmentId dataHash => exact fun error hLost => by rw [h] at hLost; cases hLost
        | telemetryFindByIdAndUpdate id update => cases update <;> first | exact h | trivial
        | _ => trivial⟩

theorem anchored_at_most_once_sample : ∃ point : Point anchorWorld (Fin 2) String,
    point.2.store.2.anchorTransactions = ["tx"] ∧
      point.2.store.2.anchorTransactions.length ≤ 0 + 1 := by
  obtain ⟨point, run, hTest⟩ := Pool.exists_run
    (retriesAfterFailure.restrict anchorsReliably) (sampleAnchorPool.restrict anchorsReliably)
    (fun point => point.2.store.2.anchorTransactions = ["tx"])
    [(always ({}, { txHash := "tx" }) rfl, 0), (always ({}, { txHash := "tx" }) rfl, 0)]
    (by decide +kernel)
  exact ⟨point, of_decide_eq_true hTest, @anchored_at_most_once (Fin 2) _ _ _ plainErrorTexts point
    (by decide) run⟩

/-- The chain's answer is lost, and the next attempt submits again. -/
theorem anchored_twice : ¬∀ (_ : ErrorTexts) (store : TelemetryStore) (job : AnchorTelemetryJob)
    (point : Point telemetryWorld (Fin 2) String), (ObjectId.cast? job.telemetryId).isSome →
    GuardedRun retriesAfterFailure (anchorPool store job) point →
      point.2.store.2.anchorTransactions.length ≤ store.2.anchorTransactions.length + 1 := by
  intro hClaim
  obtain ⟨point, run, hTest⟩ := Pool.exists_run retriesAfterFailure sampleAnchorPool
    (fun point => point.2.store.2.anchorTransactions.length = 2)
    [(({}, { txHash := "tx", fault := some (.lost .unavailable) }), 0), (({}, {}), 0),
      (({}, { txHash := "tx'" }), 1)] (by decide +kernel)
  have hOnce := hClaim plainErrorTexts _ sampleAnchorJob point (by decide) run
  rw [of_decide_eq_true hTest] at hOnce
  revert hOnce
  decide

end Sample

end Navin
