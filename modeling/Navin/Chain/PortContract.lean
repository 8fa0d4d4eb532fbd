import Navin.Chain.AnchorRoundTrip
import Navin.Semantics.Trace

/-! The contract of the chain port. A call resolves once its transaction is
confirmed, or rejects with an error of the chain's own; a stream rejects what
violates the specification. Horizon and the RPC server answer or fail in any way. -/
namespace Navin

open Async

/-- A request that fails. There is a result code when the server refuses the
transaction in its answer. -/
structure RequestFailure where
  message : String
  transactionCode : Option String

def RequestFailure.error (failure : RequestFailure) : SigningError :=
  .raised failure.message failure.transactionCode

/-- An error with a code of the chain's. -/
def IsChainError (error : SigningError) : Prop :=
  ∃ appError : AppError, error = .app appError ∧ "ERR_CHAIN_".isPrefixOf appError.code

theorem not_isChainError_raised (failure : RequestFailure) : ¬IsChainError failure.error := by
  rintro ⟨appError, hError, -⟩
  cases hError

theorem isPrefixOf_unknown : "ERR_CHAIN_".isPrefixOf "ERR_CHAIN_UNKNOWN" := by
  decide +kernel

theorem isChainError_wrap (error : SigningError) :
    IsChainError (.app (SimulatedAdapter.wrap error)) := by
  refine ⟨_, rfl, ?_⟩
  cases error with
  | app error =>
      rw [SimulatedAdapter.wrap]
      split
      · assumption
      · exact isPrefixOf_unknown
  | raised message transactionCode => exact isPrefixOf_unknown

/-- Whatever the contract's error is, it has a code of the chain's. -/
theorem isChainError_contract (contractCode : Nat) :
    IsChainError (.app (chainErrorToAppError contractCode)) := by
  refine ⟨_, rfl, ?_⟩
  have hCodes : ∀ entry ∈ chainErrorMap, "ERR_CHAIN_".isPrefixOf entry.2.2.1 := by
    decide +kernel
  unfold chainErrorToAppError
  split
  · exact isPrefixOf_unknown
  · rename_i name code status hFound
    obtain ⟨first, rest, hMap, -⟩ := List.lookup_eq_some_iff.mp hFound
    exact hCodes (contractCode, name, code, status) (by rw [hMap]; simp)

section Calls

abbrev answeringNetwork : World SigningCall SigningCall.Answer SigningError where
  Store := Unit
  Env := (call : SigningCall) → Except RequestFailure call.Answer
  perform answer _ call := ((), (answer call).mapError RequestFailure.error)

abbrev NetworkAnswers : Type :=
  Nat → (call : SigningCall) → Except RequestFailure call.Answer

def PortCall.request : PortCall → ChainRequest
  | .anchorEvent input => .anchorEvent input
  | .releaseEscrow input => .releaseEscrow input

/-- Horizon resolves a submission once the transaction is in a ledger. -/
def HorizonConfirms (receipt : SubmitReceipt) (step : Step answeringNetwork) : Prop :=
  ∃ answer tx, step = ⟨answer, (), .submitTransaction tx⟩ ∧
    answer (.submitTransaction tx) = .ok receipt

/-- The RPC server reports the transaction's success. -/
def RpcConfirms (receipt : SubmitReceipt) (step : Step answeringNetwork) : Prop :=
  ∃ answer, step = ⟨answer, (), .confirmTransaction receipt.hash⟩ ∧
    answer (.confirmTransaction receipt.hash) = .ok (.success receipt.ledger)

def ChainAdapterKind.Confirms : ChainAdapterKind → SubmitReceipt → Step answeringNetwork → Prop
  | .simulated => HorizonConfirms
  | .soroban => RpcConfirms

section Simulated

variable {name hexValue : String} {answers later : NetworkAnswers} {receipt : SubmitReceipt}

theorem answer_of_perform {answer : (call : SigningCall) → Except RequestFailure call.Answer}
    {call : SigningCall} {given : call.Answer} {store : Unit}
    (h : answeringNetwork.perform answer () call = (store, .ok given)) :
    answer call = .ok given := by
  have hMapped : (answer call).mapError RequestFailure.error = .ok given := (Prod.mk.inj h).2
  cases hAnswer : answer call with
  | error failure =>
      rw [hAnswer] at hMapped
      cases hMapped
  | ok own =>
      rw [hAnswer] at hMapped
      cases hMapped
      rfl

/-- A submission that resolves is one that Horizon has confirmed. -/
theorem submit_confirmed {tx : Transaction}
    (run : (onChain (.submitTransaction tx)).run answeringNetwork answers () =
      ((), .ok receipt, later)) :
    ∃ step ∈ (onChain (.submitTransaction tx)).steps answers (), HorizonConfirms receipt step := by
  obtain ⟨hPerform, -⟩ := Program.run_await_eq_ok.mp run
  have hAnswer := answer_of_perform hPerform
  exact ⟨⟨answers 0, (), .submitTransaction tx⟩,
    by rw [onChain, Program.steps_await]; exact List.mem_singleton_self _,
    answers 0, tx, rfl, hAnswer⟩

/-- What an attempt does after it has built its transaction. -/
theorem submitOnce_steps {submit : SigningM SubmitReceipt → SigningM SubmitReceipt}
    (run : (SimulatedAdapter.submitOnce name hexValue submit).run answeringNetwork answers () =
      ((), .ok receipt, later)) :
    ∃ tx, (submit (onChain (.submitTransaction tx))).run answeringNetwork
        (fun n => answers (n + 1)) () = ((), .ok receipt, later) ∧
      ∀ step ∈ (submit (onChain (.submitTransaction tx))).steps (W := answeringNetwork)
        (fun n => answers (n + 1)) (),
          step ∈ (SimulatedAdapter.submitOnce name hexValue submit).steps answers () := by
  obtain ⟨⟨⟩, sequence, env₁, hLoad, hRest⟩ := Program.run_bind_eq_ok.mp run
  have hSteps := Program.steps_bind_ok (f := fun sequence => do
    let operation ← manageData name hexValue
    submit (onChain (.submitTransaction ⟨sequence + 1, [operation], some hexValue⟩))) hLoad
  obtain ⟨-, rfl⟩ := Program.run_await_eq_ok.mp hLoad
  rcases manageData_cases name hexValue with ⟨error, hError⟩ | hBuilt
  · rw [hError] at hRest
    cases hRest
  · rw [hBuilt] at hRest hSteps
    refine ⟨_, hRest, fun step hStep => ?_⟩
    rw [SimulatedAdapter.submitOnce, hBuilt, hSteps]
    exact List.mem_append_right _ hStep

theorem attempt_confirmed (left : Nat)
    (run : (SimulatedAdapter.attempt name hexValue left).run answeringNetwork answers () =
      ((), .ok receipt, later)) :
    ∃ step ∈ (SimulatedAdapter.attempt name hexValue left).steps answers (),
      HorizonConfirms receipt step := by
  induction left generalizing answers with
  | zero =>
      obtain ⟨tx, hSubmit, hSteps⟩ := submitOnce_steps run
      obtain ⟨step, hStep, hConfirms⟩ := submit_confirmed hSubmit
      exact ⟨step, hSteps step hStep, hConfirms⟩
  | succ left ih =>
      obtain ⟨tx, hSubmit, hSteps⟩ := submitOnce_steps run
      rcases hFirst : (onChain (.submitTransaction tx)).run answeringNetwork
        (fun n => answers (n + 1)) () with ⟨⟨⟩, outcome, env₁⟩
      rw [Program.run_tryCatch, hFirst] at hSubmit
      cases outcome with
      | ok sent =>
          cases hSubmit
          obtain ⟨step, hStep, hConfirms⟩ := submit_confirmed hFirst
          exact ⟨step, hSteps step (by rwa [Program.steps_tryCatch_ok hFirst]), hConfirms⟩
      | error error =>
          dsimp only at hSubmit
          split at hSubmit
          · rename_i hBad
            obtain ⟨step, hStep, hConfirms⟩ := ih hSubmit
            refine ⟨step, hSteps step ?_, hConfirms⟩
            rw [Program.steps_tryCatch_error hFirst, if_pos hBad]
            exact List.mem_append_right _ hStep
          · cases hSubmit

end Simulated

/-- Of the requests that the pipeline makes after it has loaded the account, none
fails; a refused transaction is an answer. -/
def RpcAnswered (operation : ChainOperation) (answers : NetworkAnswers) : Prop :=
  ∀ sequence, answers 0 .loadAccount = .ok sequence →
    ∃ simulation, answers 1 (.simulateTransaction ⟨sequence + 1, [operation], none⟩) =
        .ok simulation ∧
      (simulation = none →
        match answers 2 (.submitTransaction ⟨sequence + 1, [operation], none⟩) with
        | .error failure => failure.transactionCode.isSome
        | .ok sent => ∃ status, answers 3 (.confirmTransaction sent.hash) = .ok status)

section Soroban

variable {operation : ChainOperation} {answers : NetworkAnswers}

/-- How the pipeline ends: with an error of the chain's, with the failure of a
request, or confirmed. -/
inductive PipelineEnd (operation : ChainOperation) (answers : NetworkAnswers) :
    Except SigningError SubmitReceipt → Prop
  | rejected {error : SigningError} (hError : IsChainError error)
      (hAnswered : RpcAnswered operation answers) : PipelineEnd operation answers (.error error)
  | failed (failure : RequestFailure) (hAnswered : ¬RpcAnswered operation answers) :
      PipelineEnd operation answers (.error failure.error)
  | confirmed {receipt : SubmitReceipt} (hAnswered : RpcAnswered operation answers)
      (hConfirms : ∃ step ∈ (SorobanAdapter.invokePipeline operation).steps answers (),
        RpcConfirms receipt step) : PipelineEnd operation answers (.ok receipt)

theorem rpcAnswered_of_loaded {sequence : Nat} (hLoad : answers 0 .loadAccount = .ok sequence) :
    RpcAnswered operation answers ↔
      ∃ simulation, answers 1 (.simulateTransaction ⟨sequence + 1, [operation], none⟩) =
          .ok simulation ∧
        (simulation = none →
          match answers 2 (.submitTransaction ⟨sequence + 1, [operation], none⟩) with
          | .error failure => failure.transactionCode.isSome
          | .ok sent => ∃ status, answers 3 (.confirmTransaction sent.hash) = .ok status) := by
  constructor
  · exact fun h => h sequence hLoad
  · intro h other hOther
    rw [hLoad] at hOther
    cases hOther
    exact h

/-- The outcome of the pipeline, one request after the other. -/
theorem invokePipeline_outcome (operation : ChainOperation) (answers : NetworkAnswers) :
    ((SorobanAdapter.invokePipeline operation).run answeringNetwork answers ()).2.1 =
      match answers 0 .loadAccount with
      | .error _ =>
          .error (.app ⟨502, "Failed to load account from Soroban RPC", "ERR_CHAIN_UNKNOWN", []⟩)
      | .ok sequence =>
          let tx : Transaction := ⟨sequence + 1, [operation], none⟩
          match answers 1 (.simulateTransaction tx) with
          | .error failure => .error failure.error
          | .ok (some (.contract contractCode)) => .error (.app (chainErrorToAppError contractCode))
          | .ok (some (.other text)) => .error (.app
              ⟨400, "Soroban simulation failed: " ++ text, "ERR_CHAIN_UNKNOWN", []⟩)
          | .ok none =>
              match answers 2 (.submitTransaction tx) with
              | .error ⟨_, some _⟩ => .error (.app
                  ⟨400, "Soroban sendTransaction failed", "ERR_CHAIN_UNKNOWN", []⟩)
              | .error ⟨message, none⟩ => .error (.raised message none)
              | .ok sent =>
                  match answers 3 (.confirmTransaction sent.hash) with
                  | .error failure => .error failure.error
                  | .ok (.success ledger) => .ok ⟨sent.hash, ledger⟩
                  | .ok .failed => .error (.app ⟨400,
                      "Soroban transaction execution failed on-chain", "ERR_CHAIN_UNKNOWN", []⟩)
                  | .ok .timedOut => .error (.app
                      ⟨504, "Soroban transaction polling timed out", "ERR_CHAIN_UNKNOWN", []⟩) := by
  rcases hLoad : answers 0 .loadAccount with failure | sequence
  · simp [SorobanAdapter.invokePipeline, Program.run_bind, onChain, Program.run_tryCatch_await,
      hLoad, Except.mapError]
  · rcases hSimulate : answers 1 (.simulateTransaction ⟨sequence + 1, [operation], none⟩) with
      failure | (_ | contractCode | text)
    · simp [SorobanAdapter.invokePipeline, Program.run_bind, onChain, Program.run_tryCatch_await,
        Program.run_await, hLoad, hSimulate, Except.mapError]
    · rcases hSend : answers 2 (.submitTransaction ⟨sequence + 1, [operation], none⟩) with
        ⟨message, _ | code⟩ | sent
      · simp [SorobanAdapter.invokePipeline, Program.run_bind, onChain, Program.run_tryCatch_await,
          Program.run_await, hLoad, hSimulate, hSend, Except.mapError, RequestFailure.error]
      · simp [SorobanAdapter.invokePipeline, Program.run_bind, onChain, Program.run_tryCatch_await,
          Program.run_await, hLoad, hSimulate, hSend, Except.mapError, RequestFailure.error]
      · rcases hConfirm : answers 3 (.confirmTransaction sent.hash) with
          failure | (ledger | _ | _) <;>
          simp [SorobanAdapter.invokePipeline, Program.run_bind, onChain,
            Program.run_tryCatch_await, Program.run_await, hLoad, hSimulate, hSend, hConfirm,
            Except.mapError]
    · simp [SorobanAdapter.invokePipeline, Program.run_bind, onChain, Program.run_tryCatch_await,
        Program.run_await, hLoad, hSimulate, Except.mapError]
    · simp [SorobanAdapter.invokePipeline, Program.run_bind, onChain, Program.run_tryCatch_await,
        Program.run_await, hLoad, hSimulate, Except.mapError]

/-- A pipeline that gets to the last request has made it. -/
theorem confirm_mem_steps {sequence : Nat} {sent : SubmitReceipt}
    (hLoad : answers 0 .loadAccount = .ok sequence)
    (hSimulate : answers 1 (.simulateTransaction ⟨sequence + 1, [operation], none⟩) = .ok none)
    (hSend : answers 2 (.submitTransaction ⟨sequence + 1, [operation], none⟩) = .ok sent) :
    (⟨answers 3, (), .confirmTransaction sent.hash⟩ : Step answeringNetwork) ∈
      (SorobanAdapter.invokePipeline operation).steps answers () := by
  simp [SorobanAdapter.invokePipeline, onChain, Program.await, Program.bind_def, Program.steps,
    tryCatch, tryCatchThe, MonadExceptOf.tryCatch, Program.tryCatch, hLoad, hSimulate, hSend,
    Except.mapError]

theorem invokePipeline_ends (operation : ChainOperation) (answers : NetworkAnswers) :
    PipelineEnd operation answers
      ((SorobanAdapter.invokePipeline operation).run answeringNetwork answers ()).2.1 := by
  rw [invokePipeline_outcome]
  rcases hLoad : answers 0 .loadAccount with failure | sequence
  · refine .rejected ⟨_, rfl, isPrefixOf_unknown⟩ fun sequence hSequence => ?_
    rw [hLoad] at hSequence
    cases hSequence
  · have hAnswered := @rpcAnswered_of_loaded operation answers sequence hLoad
    dsimp only
    rcases hSimulate : answers 1 (.simulateTransaction ⟨sequence + 1, [operation], none⟩) with
      failure | (_ | contractCode | text)
    · refine .failed failure fun h => ?_
      obtain ⟨simulation, hOk, -⟩ := hAnswered.mp h
      rw [hSimulate] at hOk
      cases hOk
    · rcases hSend : answers 2 (.submitTransaction ⟨sequence + 1, [operation], none⟩) with
        ⟨message, _ | code⟩ | sent
      · refine .failed ⟨message, none⟩ fun h => ?_
        obtain ⟨simulation, hOk, hRest⟩ := hAnswered.mp h
        rw [hSimulate] at hOk
        cases hOk
        have hCode := hRest rfl
        rw [hSend] at hCode
        cases hCode
      · refine .rejected ⟨_, rfl, isPrefixOf_unknown⟩ (hAnswered.mpr ⟨none, hSimulate, fun _ => ?_⟩)
        rw [hSend]
        rfl
      · dsimp only
        rcases hConfirm : answers 3 (.confirmTransaction sent.hash) with failure | status
        · refine .failed failure fun h => ?_
          obtain ⟨simulation, hOk, hRest⟩ := hAnswered.mp h
          rw [hSimulate] at hOk
          cases hOk
          have hStatus := hRest rfl
          rw [hSend] at hStatus
          obtain ⟨status, hStatus⟩ := hStatus
          rw [hConfirm] at hStatus
          cases hStatus
        · have hAll : RpcAnswered operation answers := by
            refine hAnswered.mpr ⟨none, hSimulate, fun _ => ?_⟩
            rw [hSend]
            exact ⟨status, hConfirm⟩
          cases status with
          | success ledger =>
              exact .confirmed hAll ⟨⟨answers 3, (), .confirmTransaction sent.hash⟩,
                confirm_mem_steps hLoad hSimulate hSend, answers 3, rfl, hConfirm⟩
          | failed => exact .rejected ⟨_, rfl, isPrefixOf_unknown⟩ hAll
          | timedOut => exact .rejected ⟨_, rfl, isPrefixOf_unknown⟩ hAll
    · exact .rejected (isChainError_contract contractCode)
        (hAnswered.mpr ⟨some (.contract contractCode), hSimulate, nofun⟩)
    · exact .rejected ⟨_, rfl, isPrefixOf_unknown⟩
        (hAnswered.mpr ⟨some (.other text), hSimulate, nofun⟩)

end Soroban

variable [StellarSdk]

/-- What the caller of the port awaits. -/
def ChainConfig.call (config : ChainConfig) (call : PortCall) : SigningM ChainAnswer :=
  match config.begin call.request with
  | .error error => throw error
  | .ok (.queued _ task) =>
      tryCatch (call.request.answer .simulated <$> task) fun error =>
        throw (.app (SimulatedAdapter.wrap error))
  | .ok (.direct program) => call.request.answer .soroban <$> program

/-- What the port promises of a call. -/
structure CallConforms (config : ChainConfig) (call : PortCall) (answers : NetworkAnswers) :
    Prop where
  rejects : ∀ error, ((config.call call).run answeringNetwork answers ()).2.1 = .error error →
    IsChainError error
  resolves : ∀ answer, ((config.call call).run answeringNetwork answers ()).2.1 = .ok answer →
    ∃ receipt, answer = call.request.answer config.chainAdapter receipt ∧
      ∃ step ∈ (config.call call).steps answers (), config.chainAdapter.Confirms receipt step

/-- The simulated adapter wraps everything. The Soroban adapter wraps neither a bad
address nor the requests after the first. -/
def CallUndisturbed (config : ChainConfig) (call : PortCall) (answers : NetworkAnswers) : Prop :=
  config.chainAdapter = .soroban → isBytes32Hex call.hexValue → config.escrowContractId.isSome →
    match call with
    | .anchorEvent input => StellarSdk.isAddress input.actor ∧ (config.signer.isSome → RpcAnswered
        (.contractCall "anchor" [input.shipment_id, input.data_hash, input.actor]) answers)
    | .releaseEscrow input => config.signer.isSome → RpcAnswered
        (.contractCall "release_escrow" [input.payment_id, input.proof_hash]) answers

variable {config : ChainConfig} {call : PortCall} {answers : NetworkAnswers}

omit [StellarSdk] in
theorem isChainError_begin {error : SigningError} (h : call.begin config = .error error) :
    IsChainError error := by
  have hHash : "ERR_CHAIN_".isPrefixOf "ERR_CHAIN_INVALID_HASH" := by decide +kernel
  have hProof : "ERR_CHAIN_".isPrefixOf "ERR_CHAIN_INVALID_PROOF" := by decide +kernel
  cases hSigner : config.signer <;> cases call <;>
    simp only [PortCall.begin, SimulatedAdapter.anchorEvent, SimulatedAdapter.releaseEscrow,
      assertBytes32, SimulatedAdapter.submitManageData, ChainConfig.requireSigner, hSigner] at h <;>
    split at h <;> cases h
  all_goals first
    | exact ⟨_, rfl, isPrefixOf_unknown⟩
    | exact ⟨_, rfl, hHash⟩
    | exact ⟨_, rfl, hProof⟩

/-- The simulated adapter keeps the promise whatever happens. -/
theorem simulated_conforms (hKind : config.chainAdapter = .simulated) :
    CallConforms config call answers := by
  have hBegin : config.begin call.request = call.begin config := by
    cases call <;> simp only [PortCall.request, ChainConfig.begin, hKind] <;> rfl
  cases hSection : call.begin config with
  | error error =>
      have hCall : config.call call = throw error := by
        rw [ChainConfig.call, hBegin, hSection]
      constructor
      · rw [hCall]
        rintro _ ⟨⟩
        exact isChainError_begin hSection
      · rw [hCall]
        rintro _ ⟨⟩
  | ok opened =>
      obtain ⟨-, publicKey, rfl⟩ := PortCall.begin_eq_ok hSection
      have hCall : config.call call = tryCatch (call.request.answer .simulated <$>
          SimulatedAdapter.attempt call.name call.hexValue SimulatedAdapter.maxBadSeqRetries)
            fun error => throw (.app (SimulatedAdapter.wrap error)) := by
        rw [ChainConfig.call, hBegin, hSection]
      rcases hRun : (SimulatedAdapter.attempt call.name call.hexValue
        SimulatedAdapter.maxBadSeqRetries).run answeringNetwork answers () with
          ⟨⟨⟩, outcome, later⟩
      have hMapped := Program.run_map (W := answeringNetwork) (call.request.answer .simulated)
        (SimulatedAdapter.attempt call.name call.hexValue SimulatedAdapter.maxBadSeqRetries)
        answers ()
      rw [hRun] at hMapped
      constructor
      · intro error hError
        rw [hCall, Program.run_tryCatch, hMapped] at hError
        cases outcome with
        | ok receipt => cases hError
        | error thrown =>
            cases hError
            exact isChainError_wrap thrown
      · intro answer hAnswer
        rw [hCall, Program.run_tryCatch, hMapped] at hAnswer
        cases outcome with
        | error thrown => cases hAnswer
        | ok receipt =>
            cases hAnswer
            obtain ⟨step, hStep, hConfirms⟩ := attempt_confirmed _ hRun
            refine ⟨receipt, by rw [hKind], step, ?_, by rw [hKind]; exact hConfirms⟩
            rw [hCall, Program.steps_tryCatch_ok hMapped, Program.steps_map]
            exact hStep

/-- How a call of the Soroban adapter begins: it is refused with an error of the
chain's, it throws for its address, or it runs the pipeline. -/
inductive SorobanBegun (config : ChainConfig) (call : PortCall) :
    Except SigningError Section → Prop
  | refused {error : SigningError} (hError : IsChainError error)
      (hUndisturbed : ∀ answers, CallUndisturbed config call answers) :
      SorobanBegun config call (.error error)
  | threw {error : SigningError} (hError : ¬IsChainError error)
      (hDisturbed : ∀ answers, ¬CallUndisturbed config call answers) :
      SorobanBegun config call (.error error)
  | opened (operation : ChainOperation)
      (hUndisturbed : ∀ answers, CallUndisturbed config call answers ↔
        RpcAnswered operation answers) :
      SorobanBegun config call (.ok (.direct (SorobanAdapter.invokePipeline operation)))

theorem soroban_begun (hKind : config.chainAdapter = .soroban) :
    SorobanBegun config call (config.begin call.request) := by
  have hHashCode : "ERR_CHAIN_".isPrefixOf "ERR_CHAIN_INVALID_HASH" := by decide +kernel
  have hProofCode : "ERR_CHAIN_".isPrefixOf "ERR_CHAIN_INVALID_PROOF" := by decide +kernel
  obtain ⟨kind, signer, contract⟩ := config
  obtain rfl : kind = .soroban := hKind
  cases call with
  | anchorEvent input =>
      by_cases hHash : isBytes32Hex input.data_hash
      · simp only [ChainConfig.begin, PortCall.request, SorobanAdapter.anchorEvent, assertBytes32,
          if_pos hHash]
        cases contract with
        | none =>
            refine .refused ⟨_, rfl, isPrefixOf_unknown⟩ fun answers _ _ hContract => ?_
            cases hContract
        | some contractId =>
            by_cases hActor : StellarSdk.isAddress input.actor
            · simp only [if_pos hActor]
              cases signer with
              | none =>
                  refine .refused ⟨_, rfl, isPrefixOf_unknown⟩ fun answers _ _ _ => ⟨hActor, ?_⟩
                  rintro ⟨⟩
              | some publicKey =>
                  refine .opened _ fun answers => ⟨fun h => (h rfl hHash rfl).2 rfl, fun h => ?_⟩
                  exact fun _ _ _ => ⟨hActor, fun _ => h⟩
            · simp only [if_neg hActor]
              exact .threw (not_isChainError_raised ⟨_, none⟩)
                fun answers h => hActor (h rfl hHash rfl).1
      · simp only [ChainConfig.begin, PortCall.request, SorobanAdapter.anchorEvent, assertBytes32,
          if_neg hHash]
        exact .refused ⟨_, rfl, hHashCode⟩ fun answers _ hValid => absurd hValid hHash
  | releaseEscrow input =>
      by_cases hHash : isBytes32Hex input.proof_hash
      · simp only [ChainConfig.begin, PortCall.request, SorobanAdapter.releaseEscrow, assertBytes32,
          if_pos hHash]
        cases contract with
        | none =>
            refine .refused ⟨_, rfl, isPrefixOf_unknown⟩ fun answers _ _ hContract => ?_
            cases hContract
        | some contractId =>
            cases signer with
            | none =>
                refine .refused ⟨_, rfl, isPrefixOf_unknown⟩ fun answers _ _ _ => ?_
                rintro ⟨⟩
            | some publicKey =>
                refine .opened _ fun answers => ⟨fun h => h rfl hHash rfl rfl, fun h => ?_⟩
                exact fun _ _ _ _ => h
      · simp only [ChainConfig.begin, PortCall.request, SorobanAdapter.releaseEscrow, assertBytes32,
          if_neg hHash]
        exact .refused ⟨_, rfl, hProofCode⟩ fun answers _ hValid => absurd hValid hHash

/-- A call that throws before it asks anything keeps the promise just when its error
is one of the chain's. -/
theorem callConforms_of_throws {error : SigningError}
    (hCall : config.call call = throw error) :
    CallConforms config call answers ↔ IsChainError error := by
  constructor
  · intro h
    exact h.rejects error (by rw [hCall]; rfl)
  · intro hError
    constructor
    · rw [hCall]
      rintro _ ⟨⟩
      exact hError
    · rw [hCall]
      rintro _ ⟨⟩

theorem soroban_conforms_iff (hKind : config.chainAdapter = .soroban) :
    CallConforms config call answers ↔ CallUndisturbed config call answers := by
  have hBegun : SorobanBegun config call (config.begin call.request) := soroban_begun hKind
  cases hSection : config.begin call.request with
  | error error =>
      have hCall : config.call call = throw error := by rw [ChainConfig.call, hSection]
      rw [callConforms_of_throws hCall]
      rw [hSection] at hBegun
      cases hBegun with
      | refused hError hUndisturbed => exact iff_of_true hError (hUndisturbed answers)
      | threw hError hDisturbed => exact iff_of_false hError (hDisturbed answers)
  | ok opened =>
      rw [hSection] at hBegun
      cases hBegun with
      | opened operation hUndisturbed =>
          rw [hUndisturbed]
          have hCall : config.call call = call.request.answer .soroban <$>
              SorobanAdapter.invokePipeline operation := by
            rw [ChainConfig.call, hSection]
          have hMapped := Program.run_map (W := answeringNetwork) (call.request.answer .soroban)
            (SorobanAdapter.invokePipeline operation) answers ()
          have hEnd := invokePipeline_ends operation answers
          generalize hOutcome : ((SorobanAdapter.invokePipeline operation).run answeringNetwork
            answers ()).2.1 = outcome at hEnd
          rw [hOutcome] at hMapped
          cases hEnd with
          | rejected hError hAnswered =>
              refine iff_of_true ⟨?_, ?_⟩ hAnswered
              · rw [hCall, hMapped]
                rintro _ ⟨⟩
                exact hError
              · rw [hCall, hMapped]
                rintro _ ⟨⟩
          | failed failure hAnswered =>
              refine iff_of_false (fun h => ?_) hAnswered
              refine not_isChainError_raised failure (h.rejects _ ?_)
              rw [hCall, hMapped]
              rfl
          | confirmed hAnswered hConfirms =>
              refine iff_of_true ⟨?_, ?_⟩ hAnswered
              · rw [hCall, hMapped]
                rintro _ ⟨⟩
              · rw [hCall, hMapped]
                rintro _ ⟨⟩
                obtain ⟨step, hStep, hConfirmed⟩ := hConfirms
                refine ⟨_, by rw [hKind], step, ?_, by rw [hKind]; exact hConfirmed⟩
                rw [Program.steps_map]
                exact hStep

theorem callConforms_iff : CallConforms config call answers ↔
    CallUndisturbed config call answers := by
  cases hKind : config.chainAdapter with
  | soroban => exact soroban_conforms_iff hKind
  | simulated =>
      refine iff_of_true (simulated_conforms hKind) fun hSoroban => ?_
      cases hKind.symm.trans hSoroban

end Calls

section Streams

variable [StellarXdr]

/-- Horizon and the RPC server behind a stream, answering or failing in any way. The
consumer takes what it gets. -/
abbrev answeringStream : World StreamCall StreamCall.Answer SigningError where
  Store := Unit
  Env := (call : StreamCall) → Except RequestFailure call.Answer
  perform answer _
    | .yieldEvent _ => ((), .ok ())
    | call => ((), (answer call).mapError RequestFailure.error)

abbrev StreamAnswers : Type :=
  Nat → (call : StreamCall) → Except RequestFailure call.Answer

def ChainConfig.streamEvents (config : ChainConfig) (cursor : Option String) (fuel : Nat) :
    StreamM Unit :=
  match config.chainAdapter with
  | .simulated => do
      let _ ← SimulatedAdapter.streamEvents config cursor fuel
  | .soroban => SorobanAdapter.streamEvents config cursor

/-- In the answer to a call there is an event that violates the specification. -/
def OffSpec : Step answeringStream → Prop
  | ⟨answer, _, .listTransactions publicKey cursor limit⟩ =>
      ∃ page, answer (.listTransactions publicKey cursor limit) = .ok page ∧
        ∃ record ∈ page, ∃ error, SimulatedAdapter.toAnchorEvent record = .error error
  | ⟨answer, _, .getEvents cursor contractId⟩ =>
      ∃ events, answer (.getEvents cursor contractId) = .ok events ∧
        ∃ raw ∈ events, ∃ error, parseRawEvent raw = .error error
  | ⟨_, _, .yieldEvent _⟩ => False

/-- What the port promises of a stream. -/
structure StreamConforms (config : ChainConfig) (cursor : Option String) (fuel : Nat)
    (answers : StreamAnswers) : Prop where
  rejects : ∀ error, ((config.streamEvents cursor fuel).run answeringStream answers ()).2.1 =
    .error error → IsChainError error
  drops : ∀ step ∈ (config.streamEvents cursor fuel).steps answers (), OffSpec step →
    ∃ error, ((config.streamEvents cursor fuel).run answeringStream answers ()).2.1 = .error error

/-- The Soroban adapter is answered with valid events only. -/
def StreamUndisturbed (config : ChainConfig) (cursor : Option String) (answers : StreamAnswers) :
    Prop :=
  config.chainAdapter = .soroban → ∀ contractId, config.escrowContractId = some contractId →
    ∀ events, answers 0 (.getEvents (truthy cursor) contractId) = .ok events →
      ∀ raw ∈ events, ∃ event, parseRawEvent raw = .ok event

variable {answers later : StreamAnswers}

/-- Handing out events asks nothing of the servers. -/
theorem not_offSpec_of_yields {α : Type} {p : StreamM α}
    (h : p.Uses fun call => ∃ event, call = .yieldEvent event) :
    ∀ step ∈ p.steps (W := answeringStream) answers (), ¬OffSpec step := by
  rintro ⟨answer, store, call⟩ hStep
  obtain ⟨event, hCall⟩ := h.steps _ hStep
  obtain rfl : call = .yieldEvent event := hCall
  exact id

theorem run_yieldEvent (event : ChainEvent) :
    (stream (.yieldEvent event)).run answeringStream answers () =
      ((), .ok (), fun n => answers (n + 1)) :=
  Program.run_await _ _ _

section Simulated

open SimulatedAdapter

theorem yieldEvents_uses (page : List HorizonTxRecord) :
    (yieldEvents page).Uses fun call => ∃ event, call = .yieldEvent event := by
  induction page with
  | nil => trivial
  | cons record rest ih =>
      rw [yieldEvents]
      split
      · trivial
      · exact ih
      · exact .bind (.await ⟨_, rfl⟩) fun _ => ih

theorem parseChainEvent_error {event : ChainEvent} {ledgerClosedAt : String} {error : SigningError}
    (h : parseChainEvent event ledgerClosedAt = .error error) : error = .app invalidEvent := by
  unfold parseChainEvent at h
  split at h
  · cases h
  · cases h
    rfl

theorem toAnchorEvent_error {record : HorizonTxRecord} {error : SigningError}
    (h : toAnchorEvent record = .error error) : error = .app invalidEvent := by
  unfold toAnchorEvent at h
  split at h
  · cases h
  · rename_i event _
    cases hParsed : parseChainEvent event record.created_at with
    | ok parsed =>
        rw [hParsed] at h
        cases h
    | error rejected =>
        rw [hParsed] at h
        cases h
        exact parseChainEvent_error hParsed

/-- A page is handed out, or rejected for an event that violates the specification. -/
theorem yieldEvents_outcome (page : List HorizonTxRecord) (answers : StreamAnswers) :
    (∃ later, (yieldEvents page).run answeringStream answers () = ((), .ok (), later) ∧
        ∀ record ∈ page, ∃ event, toAnchorEvent record = .ok event) ∨
      ∃ later, (yieldEvents page).run answeringStream answers () =
        ((), .error (.app invalidEvent), later) := by
  induction page generalizing answers with
  | nil => exact .inl ⟨answers, rfl, List.forall_mem_nil _⟩
  | cons record rest ih =>
      rw [yieldEvents]
      cases hEvent : toAnchorEvent record with
      | error error =>
          obtain rfl := toAnchorEvent_error hEvent
          exact .inr ⟨answers, rfl⟩
      | ok found =>
          cases found with
          | none =>
              rcases ih answers with ⟨later, hRun, hRest⟩ | hRejected
              · exact .inl ⟨later, hRun, List.forall_mem_cons.mpr ⟨⟨none, hEvent⟩, hRest⟩⟩
              · exact .inr hRejected
          | some event =>
              dsimp only
              rw [Program.run_bind_ok (run_yieldEvent event)]
              rcases ih fun n => answers (n + 1) with ⟨later, hRun, hRest⟩ | hRejected
              · exact .inl ⟨later, hRun, List.forall_mem_cons.mpr ⟨⟨some event, hEvent⟩, hRest⟩⟩
              · exact .inr hRejected

/-- A page is fetched in one step. -/
theorem listTransactions_steps (publicKey : String) (position : Option String) :
    (listTransactions publicKey position).steps (W := answeringStream) answers () =
      [⟨answers 0, (), .listTransactions publicKey (truthy position) pageSize⟩] := by
  rw [listTransactions, Program.steps_tryCatch_throw, stream, Program.steps_await]

/-- The loop rejects with errors of the chain's only, and so whenever a page has an
event that violates the specification. -/
theorem streamPages_conforms (publicKey : String) (fuel : Nat) (position : Option String)
    (answers : StreamAnswers) :
    (∀ error, ((streamPages publicKey fuel position).run answeringStream answers ()).2.1 =
      .error error → IsChainError error) ∧
    ∀ step ∈ (streamPages publicKey fuel position).steps answers (), OffSpec step →
      ∃ error, ((streamPages publicKey fuel position).run answeringStream answers ()).2.1 =
        .error error := by
  induction fuel generalizing position answers with
  | zero => constructor <;> rintro _ ⟨⟩
  | succ fuel ih =>
      have hFetch : (listTransactions publicKey position).run answeringStream answers () =
          match answers 0 (.listTransactions publicKey (truthy position) pageSize) with
          | .ok page => ((), .ok page, fun n => answers (n + 1))
          | .error failure =>
              ((), .error (.app (wrap failure.error)), fun n => answers (n + 1)) := by
        rw [listTransactions, stream, Program.run_tryCatch_await]
        cases hAnswer : answers 0 (.listTransactions publicKey (truthy position) pageSize) <;>
          simp [hAnswer, Except.mapError]
      cases hAnswer : answers 0 (.listTransactions publicKey (truthy position) pageSize) with
      | error failure =>
          rw [hAnswer] at hFetch
          rw [streamPages, Program.run_bind_error hFetch, Program.steps_bind_error hFetch]
          refine ⟨?_, fun _ _ _ => ⟨_, rfl⟩⟩
          rintro _ ⟨⟩
          exact isChainError_wrap _
      | ok page =>
          rw [hAnswer] at hFetch
          rw [streamPages, Program.run_bind_ok hFetch, Program.steps_bind_ok hFetch,
            listTransactions_steps]
          rcases yieldEvents_outcome page fun n => answers (n + 1) with
            ⟨later, hYield, hPage⟩ | ⟨later, hYield⟩
          · have hSpec : ¬OffSpec ⟨answers 0, (),
                .listTransactions publicKey (truthy position) pageSize⟩ := by
              rintro ⟨given, hGiven, record, hMem, error, hError⟩
              rw [hAnswer] at hGiven
              cases hGiven
              obtain ⟨event, hEvent⟩ := hPage record hMem
              cases hEvent.symm.trans hError
            have hYields := @not_offSpec_of_yields _ (fun n => answers (n + 1)) _ _
              (yieldEvents_uses page)
            rw [Program.run_bind_ok hYield, Program.steps_bind_ok hYield]
            split
            · refine ⟨by rintro _ ⟨⟩, fun step hStep hOff => ?_⟩
              rcases List.mem_append.mp hStep with hFirst | hRest
              · exact absurd (List.mem_singleton.mp hFirst ▸ hOff) hSpec
              · rw [Program.steps_pure, List.append_nil] at hRest
                exact absurd hOff (hYields step hRest)
            · obtain ⟨hRejects, hDrops⟩ :=
                ih (Cursor.resume HorizonTxRecord.paging_token position page) later
              refine ⟨hRejects, fun step hStep hOff => ?_⟩
              rcases List.mem_append.mp hStep with hFirst | hRest
              · exact absurd (List.mem_singleton.mp hFirst ▸ hOff) hSpec
              · rcases List.mem_append.mp hRest with hYielded | hLater
                · exact absurd hOff (hYields step hYielded)
                · exact hDrops step hLater hOff
          · rw [Program.run_bind_error hYield]
            refine ⟨?_, fun _ _ _ => ⟨_, rfl⟩⟩
            rintro _ ⟨⟩
            exact ⟨_, rfl, by decide +kernel⟩

end Simulated

section Soroban

open SorobanAdapter

theorem sorobanEvents_uses (events : List RawEvent) :
    (yieldEvents events).Uses fun call => ∃ event, call = .yieldEvent event := by
  induction events with
  | nil => trivial
  | cons raw rest ih =>
      rw [yieldEvents]
      split
      · exact ih
      · exact .bind (.await ⟨_, rfl⟩) fun _ => ih

/-- Whatever is in the answer, handing it out ends well. -/
theorem sorobanEvents_run (events : List RawEvent) (answers : StreamAnswers) :
    ∃ later, (yieldEvents events).run answeringStream answers () = ((), .ok (), later) := by
  induction events generalizing answers with
  | nil => exact ⟨answers, rfl⟩
  | cons raw rest ih =>
      rw [yieldEvents]
      split
      · exact ih answers
      · rw [Program.run_bind_ok (run_yieldEvent _)]
        exact ih fun n => answers (n + 1)

variable {config : ChainConfig} {cursor : Option String} {fuel : Nat} {contractId : String}

theorem sorobanStream_error (hKind : config.chainAdapter = .soroban)
    (hContract : config.escrowContractId = some contractId) {failure : RequestFailure}
    (hAnswer : answers 0 (.getEvents (truthy cursor) contractId) = .error failure) :
    StreamConforms config cursor fuel answers := by
  have hRun : ((config.streamEvents cursor fuel).run answeringStream answers ()).2.1 =
      .error (.app ⟨502, "Failed to fetch Soroban events", "ERR_CHAIN_UNKNOWN",
        [failure.message]⟩) := by
    simp [ChainConfig.streamEvents, hKind, streamEvents, hContract, Program.run_tryCatch,
      Program.run_bind, stream, Program.run_await, hAnswer, Except.mapError, RequestFailure.error]
  constructor
  · rw [hRun]
    rintro _ ⟨⟩
    exact ⟨_, rfl, isPrefixOf_unknown⟩
  · exact fun _ _ _ => ⟨_, hRun⟩

/-- What is not valid in an answer is dropped without a word. -/
theorem sorobanStream_ok (hKind : config.chainAdapter = .soroban)
    (hContract : config.escrowContractId = some contractId) {events : List RawEvent}
    (hAnswer : answers 0 (.getEvents (truthy cursor) contractId) = .ok events) :
    StreamConforms config cursor fuel answers ↔
      ∀ raw ∈ events, ∃ event, parseRawEvent raw = .ok event := by
  have hGet : (stream (.getEvents (truthy cursor) contractId)).run answeringStream answers () =
      ((), .ok events, fun n => answers (n + 1)) := by
    simp [stream, Program.run_await, hAnswer, Except.mapError]
  obtain ⟨later, hYield⟩ := sorobanEvents_run events fun n => answers (n + 1)
  have hInner := (Program.run_bind_ok (f := fun events => yieldEvents events) hGet).trans hYield
  have hStream : config.streamEvents cursor fuel = streamEvents config cursor := by
    rw [ChainConfig.streamEvents, hKind]
  have hRun : ((config.streamEvents cursor fuel).run answeringStream answers ()).2.1 = .ok () := by
    rw [hStream, streamEvents, hContract]
    dsimp only
    rw [Program.run_tryCatch, hInner]
  have hSteps : (config.streamEvents cursor fuel).steps answers () =
      ⟨answers 0, (), .getEvents (truthy cursor) contractId⟩ ::
        (yieldEvents events).steps (W := answeringStream) (fun n => answers (n + 1)) () := by
    rw [hStream, streamEvents, hContract]
    dsimp only
    rw [Program.steps_tryCatch_ok hInner, Program.steps_bind_ok hGet, stream, Program.steps_await]
    rfl
  constructor
  · intro h raw hMem
    cases hParsed : parseRawEvent raw with
    | ok event => exact ⟨event, rfl⟩
    | error error =>
        have hFirst : (⟨answers 0, (), .getEvents (truthy cursor) contractId⟩ :
            Step answeringStream) ∈ (config.streamEvents cursor fuel).steps answers () := by
          rw [hSteps]
          exact List.mem_cons_self
        obtain ⟨thrown, hThrown⟩ := h.drops ⟨answers 0, (), _⟩ hFirst
          ⟨events, hAnswer, raw, hMem, error, hParsed⟩
        cases hRun.symm.trans hThrown
  · intro hValid
    constructor
    · intro error hError
      cases hRun.symm.trans hError
    · intro step hStep hOff
      rw [hSteps] at hStep
      rcases List.mem_cons.mp hStep with rfl | hLater
      · obtain ⟨given, hGiven, raw, hMem, error, hParsed⟩ := hOff
        obtain rfl : events = given := Except.ok.inj (hAnswer.symm.trans hGiven)
        obtain ⟨event, hEvent⟩ := hValid raw hMem
        cases hEvent.symm.trans hParsed
      · exact absurd hOff (not_offSpec_of_yields (sorobanEvents_uses events) step hLater)

end Soroban

variable {config : ChainConfig} {cursor : Option String} {fuel : Nat}

theorem simulatedStream_conforms (hKind : config.chainAdapter = .simulated) :
    StreamConforms config cursor fuel answers := by
  have hStream : config.streamEvents cursor fuel =
      (fun _ => ()) <$> SimulatedAdapter.streamEvents config cursor fuel := by
    rw [ChainConfig.streamEvents, hKind, map_eq_pure_bind]
  cases hSigner : config.signer with
  | none =>
      have hThrows : SimulatedAdapter.streamEvents config cursor fuel = throw (.app
          ⟨500, "STELLAR_SECRET_KEY is not configured", "ERR_CHAIN_UNKNOWN", []⟩) := by
        rw [SimulatedAdapter.streamEvents, ChainConfig.requireSigner, hSigner]
        rfl
      constructor
      · rw [hStream, hThrows]
        rintro _ ⟨⟩
        exact ⟨_, rfl, isPrefixOf_unknown⟩
      · rw [hStream, hThrows]
        rintro _ ⟨⟩
  | some publicKey =>
      have hPages : SimulatedAdapter.streamEvents config cursor fuel =
          SimulatedAdapter.streamPages publicKey fuel cursor := by
        rw [SimulatedAdapter.streamEvents, ChainConfig.requireSigner, hSigner]
        rfl
      obtain ⟨hRejects, hDrops⟩ := streamPages_conforms publicKey fuel cursor answers
      have hMapped := Program.run_map (W := answeringStream) (fun _ => ())
        (SimulatedAdapter.streamPages publicKey fuel cursor) answers ()
      rcases hRun : (SimulatedAdapter.streamPages publicKey fuel cursor).run answeringStream
        answers () with ⟨⟨⟩, outcome, later⟩
      rw [hRun] at hMapped hRejects hDrops
      constructor
      · rw [hStream, hPages, hMapped]
        cases outcome with
        | ok ended => rintro _ ⟨⟩
        | error error =>
            rintro _ ⟨⟩
            exact hRejects error rfl
      · intro step hStep hOff
        rw [hStream, hPages, Program.steps_map] at hStep
        obtain ⟨error, hError⟩ := hDrops step hStep hOff
        obtain rfl : outcome = .error error := hError
        rw [hStream, hPages, hMapped]
        exact ⟨error, rfl⟩

theorem streamConforms_iff : StreamConforms config cursor fuel answers ↔
    StreamUndisturbed config cursor answers := by
  cases hKind : config.chainAdapter with
  | simulated =>
      refine iff_of_true (simulatedStream_conforms hKind) fun hSoroban => ?_
      cases hKind.symm.trans hSoroban
  | soroban =>
      cases hContract : config.escrowContractId with
      | none =>
          have hStream : config.streamEvents cursor fuel = return () := by
            rw [ChainConfig.streamEvents, hKind]
            simp only [SorobanAdapter.streamEvents, hContract]
          refine iff_of_true ⟨?_, ?_⟩ fun _ contractId hSome => ?_
          · rw [hStream]
            exact nofun
          · rw [hStream]
            exact nofun
          · cases hContract.symm.trans hSome
      | some contractId =>
          cases hAnswer : answers 0 (.getEvents (truthy cursor) contractId) with
          | error failure =>
              refine iff_of_true (sorobanStream_error hKind hContract hAnswer) ?_
              intro _ other hOther events hOk
              obtain rfl := Option.some.inj (hContract.symm.trans hOther)
              cases hAnswer.symm.trans hOk
          | ok events =>
              rw [sorobanStream_ok hKind hContract hAnswer]
              constructor
              · intro h _ other hOther given hGiven
                obtain rfl := Option.some.inj (hContract.symm.trans hOther)
                obtain rfl : events = given := Except.ok.inj (hAnswer.symm.trans hGiven)
                exact h
              · exact fun h => h hKind contractId hContract events hAnswer

end Streams

/-- Both adapters keep the contract of the port exactly when the Soroban adapter is
given a real address, none of its requests after the first fails, and it is answered
with valid events only. -/
theorem portContract_iff [StellarSdk] [StellarXdr] (config : ChainConfig) (call : PortCall)
    (answers : NetworkAnswers) (cursor : Option String) (fuel : Nat)
    (streamAnswers : StreamAnswers) :
    CallConforms config call answers ∧ StreamConforms config cursor fuel streamAnswers ↔
      CallUndisturbed config call answers ∧ StreamUndisturbed config cursor streamAnswers :=
  and_congr callConforms_iff streamConforms_iff

/-- An RPC server whose simulations cannot be reached. -/
def simulationUnreachable : NetworkAnswers := fun _ call =>
  match call with
  | .loadAccount => .ok 7
  | _ => .error ⟨"fetch failed", none⟩

/-- A Soroban adapter that has all it needs. -/
def sorobanConfig : ChainConfig :=
  ⟨.soroban, some "G", some "C"⟩

/-- An RPC server whose only event is none. -/
def strangeEvents : @StreamAnswers plainXdr := fun _ call =>
  match call with
  | .listTransactions _ _ _ => .ok []
  | .getEvents _ _ => .ok [⟨.other, .other, .other, .other, .other, .other, .other⟩]
  | .yieldEvent _ => .ok ()

/-- The failure of the simulation request reaches the caller as it is, and an event
that is none is dropped. -/
theorem soroban_breaks_contract :
    (¬∀ (_ : StellarSdk) (config : ChainConfig) (call : PortCall) (answers : NetworkAnswers),
      call.request.Valid → CallConforms config call answers) ∧
    ¬∀ (_ : StellarXdr) (config : ChainConfig) (cursor : Option String) (fuel : Nat)
      (answers : StreamAnswers), StreamConforms config cursor fuel answers := by
  constructor
  · intro h
    let sdk : StellarSdk := ⟨fun _ => "", fun _ => true⟩
    have hValid : (PortCall.releaseEscrow ⟨"pay_1", sampleDigest 'b'⟩).request.Valid := by
      exact ⟨by decide +kernel, by decide +kernel⟩
    have hDigest : isBytes32Hex (sampleDigest 'b') := by decide +kernel
    have hUndisturbed :=
      callConforms_iff.mp (h sdk sorobanConfig (.releaseEscrow ⟨"pay_1", sampleDigest 'b'⟩)
        simulationUnreachable hValid) rfl hDigest rfl
    obtain ⟨simulation, hOk, -⟩ := hUndisturbed rfl 7 rfl
    cases hOk
  · intro h
    let xdr : StellarXdr := plainXdr
    have hValid :=
      streamConforms_iff.mp (h xdr sorobanConfig none 1 strangeEvents) rfl "C" rfl _ rfl
    obtain ⟨event, hEvent⟩ := hValid _ (List.mem_singleton_self _)
    cases hEvent

end Navin
