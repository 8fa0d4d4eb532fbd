import Navin.Semantics.Protocol
import Navin.Shared.Chain

/-! The three ways in which the process signs with its one configured key: the
simulated adapter, the Soroban adapter, and tokenization. Each loads the account,
builds on its sequence number, and submits. Only the simulated adapter does so
behind the serializer. -/
namespace Navin

open Async

inductive ChainOperation where
  | manageData (name value : String)
  | contractCall (function : String) (arguments : List String)
deriving DecidableEq

structure Transaction where
  sequence : Nat
  operations : List ChainOperation
  memo : Option String
deriving DecidableEq

/-- What the SDK computes: the hash of a transaction, and whether a text is an
address, checksum included. -/
class StellarSdk where
  hash : Transaction → String
  isAddress : String → Bool

structure SubmitReceipt where
  hash : String
  ledger : Nat
deriving DecidableEq

instance : Inhabited SubmitReceipt := ⟨⟨"", 0⟩⟩

/-- What a signing call throws: an `AppError`, or an error of the SDK with the
result code of the network's response, if there was one. -/
inductive SigningError where
  | app (error : AppError)
  | raised (message : String) (transactionCode : Option String)
deriving DecidableEq

/-- Horizon rejects a stale sequence number with a result code of its own. -/
def isBadSequence : SigningError → Bool
  | .app _ => false
  | .raised _ transactionCode => transactionCode == some "tx_bad_seq"

inductive SimulationError where
  | contract (contractCode : Nat)
  | other (text : String)
deriving DecidableEq

/-- How polling for a transaction ends. -/
inductive Confirmation where
  | success (ledger : Nat)
  | failed
  | timedOut
deriving DecidableEq

/-- The network as seen from the signer. Polling is one call. -/
inductive SigningCall where
  | loadAccount
  | submitTransaction (tx : Transaction)
  | simulateTransaction (tx : Transaction)
  | confirmTransaction (hash : String)

@[reducible] def SigningCall.Answer : SigningCall → Type
  | .loadAccount => Nat
  | .submitTransaction _ => SubmitReceipt
  | .simulateTransaction _ => Option SimulationError
  | .confirmTransaction _ => Confirmation

abbrev SigningM : Type → Type :=
  Program SigningCall SigningCall.Answer SigningError

def onChain (call : SigningCall) : SigningM call.Answer :=
  Program.await call

/-- The account on the network. Whoever else signs for it bumps its sequence
number. -/
structure ChainAccount where
  sequence : Nat := 0
  ledger : Nat := 0
  bumps : Nat := 0
deriving DecidableEq

/-- A call that fails for another reason than its sequence number, perhaps after
it had its effect. -/
structure NetworkFault where
  lost : Bool
  message : String
  transactionCode : Option String
  unrelated : (transactionCode == some "tx_bad_seq") = false

/-- What the network decides at a call: how often others have signed before it,
whether it fails, and how a contract call fares. -/
structure NetworkDecision where
  bumps : Nat := 0
  fault : Option NetworkFault := none
  simulation : Option SimulationError := none
  confirmation : Confirmation := .success 0

namespace ChainAccount

variable [StellarSdk] (account : ChainAccount)

def bump (times : Nat) : ChainAccount :=
  { account with sequence := account.sequence + times, bumps := account.bumps + times }

/-- A transaction is accepted exactly when its sequence number is the next one. -/
def execute (decision : NetworkDecision) :
    (call : SigningCall) → ChainAccount × Except SigningError call.Answer
  | .loadAccount => (account, .ok account.sequence)
  | .submitTransaction tx =>
      if tx.sequence = account.sequence + 1 then
        ({ account with sequence := account.sequence + 1, ledger := account.ledger + 1 },
          .ok ⟨StellarSdk.hash tx, account.ledger + 1⟩)
      else
        (account, .error (.raised "Request failed with status code 400" (some "tx_bad_seq")))
  | .simulateTransaction _ => (account, .ok decision.simulation)
  | .confirmTransaction _ => (account, .ok decision.confirmation)

def perform (decision : NetworkDecision) (account : ChainAccount) (call : SigningCall) :
    ChainAccount × Except SigningError call.Answer :=
  let bumped := account.bump decision.bumps
  match decision.fault with
  | none => bumped.execute decision call
  | some fault =>
      (if fault.lost then (bumped.execute decision call).1 else bumped,
        .error (.raised fault.message fault.transactionCode))

section Perform

variable {account : ChainAccount} {decision : NetworkDecision} {call : SigningCall}

@[simp] theorem execute_bumps : (account.execute decision call).1.bumps = account.bumps := by
  cases call with
  | submitTransaction tx =>
      simp only [execute]
      split <;> rfl
  | _ => rfl

@[simp] theorem perform_bumps :
    (account.perform decision call).1.bumps = account.bumps + decision.bumps := by
  unfold perform
  split
  · rw [execute_bumps]
    rfl
  · split
    · rw [execute_bumps]
      rfl
    · rfl

/-- Only a submission changes the sequence number, and only by being accepted. -/
theorem perform_sequence (h : ∀ tx, call ≠ .submitTransaction tx) :
    (account.perform decision call).1.sequence = account.sequence + decision.bumps := by
  have hExecute : ((account.bump decision.bumps).execute decision call).1 =
      account.bump decision.bumps := by
    cases call with
    | submitTransaction tx => exact absurd rfl (h tx)
    | _ => rfl
  unfold perform
  split
  · rw [hExecute]
    rfl
  · simp only [hExecute, ite_self]
    rfl

theorem perform_loadAccount {sequence : Nat}
    (h : (account.perform decision .loadAccount).2 = .ok sequence) :
    sequence = account.sequence + decision.bumps := by
  unfold perform at h
  split at h
  · exact (Except.ok.inj h).symm
  · cases h

theorem perform_of_sound (h : decision.fault = none) :
    account.perform decision call = (account.bump decision.bumps).execute decision call := by
  rw [perform, h]

/-- What is refused for its sequence number is a submission with the wrong one. -/
theorem perform_refuses {error : SigningError}
    (h : (account.perform decision call).2 = .error error) (hBad : isBadSequence error) :
    ∃ tx, call = .submitTransaction tx ∧ tx.sequence ≠ account.sequence + decision.bumps + 1 := by
  unfold perform at h
  split at h
  · cases call with
    | submitTransaction tx =>
        refine ⟨tx, rfl, fun hNext => ?_⟩
        have hAccepted : tx.sequence = (account.bump decision.bumps).sequence + 1 := hNext
        simp only [execute, if_pos hAccepted] at h
        cases h
    | _ => cases h
  · rename_i fault _
    cases h
    simp [isBadSequence, fault.unrelated] at hBad

end Perform

end ChainAccount

/-- An entry's name and value are bounded by the SDK. -/
def manageData (name value : String) : SigningM ChainOperation :=
  if 64 < (utf16Units name).length then
    throw (.raised "name must be a string, up to 64 characters" none)
  else if 64 < utf8Length value then
    throw (.raised "value cannot be longer that 64 bytes" none)
  else return .manageData name value

theorem manageData_cases (name value : String) :
    (∃ error, manageData name value = throw error) ∨
      manageData name value = return .manageData name value := by
  unfold manageData
  split
  · exact .inl ⟨_, rfl⟩
  · split
    · exact .inl ⟨_, rfl⟩
    · exact .inr rfl

inductive ChainAdapterKind where
  | simulated
  | soroban
deriving DecidableEq

/-- The signer is the account of the configured secret key. -/
structure ChainConfig where
  chainAdapter : ChainAdapterKind
  signer : Option String
  escrowContractId : Option String

/-- The section in which a call loads the account, builds and submits, and
whether it takes its turn behind the other sections of the account. -/
inductive Section where
  | queued (publicKey : String) (task : SigningM SubmitReceipt)
  | direct (program : SigningM SubmitReceipt)

def Section.program : Section → SigningM SubmitReceipt
  | .queued _ task => task
  | .direct program => program

structure AnchorArgs where
  shipment_id : String
  data_hash : String
  actor : String

structure ReleaseEscrowArgs where
  payment_id : String
  proof_hash : String

structure TokenizeData where
  trackingNumber : String
  origin : String
  destination : String
  shipmentId : String

/-- The schemas of the port's inputs. -/
def AnchorArgs.Valid (input : AnchorArgs) : Prop :=
  isSymbol input.shipment_id ∧ isBytes32Hex input.data_hash ∧ isAddress input.actor

def ReleaseEscrowArgs.Valid (input : ReleaseEscrowArgs) : Prop :=
  isSymbol input.payment_id ∧ isBytes32Hex input.proof_hash

theorem manageData_eq {name value : String} (hName : (utf16Units name).length ≤ 64)
    (hValue : utf8Length value ≤ 64) : manageData name value = return .manageData name value := by
  rw [manageData, if_neg (Nat.not_lt.mpr hName), if_neg (Nat.not_lt.mpr hValue)]

def assertBytes32 (value field code : String) : Except SigningError Unit :=
  if isBytes32Hex value then return ()
  else throw (.app ⟨422, field ++ " must be 32 bytes of lowercase hex", code, []⟩)

namespace ChainConfig

variable (config : ChainConfig)

def requireSigner (code : String) : Except SigningError String :=
  match config.signer with
  | none => throw (.app ⟨500, "STELLAR_SECRET_KEY is not configured", code, []⟩)
  | some publicKey => return publicKey

def requireContract : Except SigningError String :=
  match config.escrowContractId with
  | none => throw (.app ⟨500, "ESCROW_CONTRACT_ID is not configured", "ERR_CHAIN_UNKNOWN", []⟩)
  | some contractId => return contractId

end ChainConfig

namespace SimulatedAdapter

variable (config : ChainConfig)

def anchorKeyPrefix : String := "telemetry:"

def releaseKeyPrefix : String := "release:"

def maxBadSeqRetries : Nat := 2

/-- Load, build and sign one manage-data transaction and submit it. -/
def submitOnce (name hexValue : String)
    (submit : SigningM SubmitReceipt → SigningM SubmitReceipt) : SigningM SubmitReceipt := do
  let sequence ← onChain .loadAccount
  let operation ← manageData name hexValue
  submit (onChain (.submitTransaction ⟨sequence + 1, [operation], some hexValue⟩))

/-- The task of the serializer: the loop over the attempts, by the retries left. -/
def attempt (name hexValue : String) : Nat → SigningM SubmitReceipt
  | 0 => submitOnce name hexValue id
  | left + 1 => submitOnce name hexValue fun submission =>
      tryCatch submission fun error =>
        if isBadSequence error then attempt name hexValue left else throw error

def submitManageData (name hexValue : String) : Except SigningError Section := do
  let publicKey ← config.requireSigner "ERR_CHAIN_UNKNOWN"
  return .queued publicKey (attempt name hexValue maxBadSeqRetries)

def anchorEvent (input : AnchorArgs) : Except SigningError Section := do
  assertBytes32 input.data_hash "data_hash" "ERR_CHAIN_INVALID_HASH"
  submitManageData config (anchorKeyPrefix ++ input.shipment_id) input.data_hash

def releaseEscrow (input : ReleaseEscrowArgs) : Except SigningError Section := do
  assertBytes32 input.proof_hash "proof_hash" "ERR_CHAIN_INVALID_PROOF"
  submitManageData config (releaseKeyPrefix ++ input.payment_id) input.proof_hash

/-- Every rejection becomes an `AppError` with a code of the chain's. -/
def wrap : SigningError → AppError
  | .app error =>
      if "ERR_CHAIN_".isPrefixOf error.code then error
      else ⟨502, "Simulated chain (Horizon) request failed", "ERR_CHAIN_UNKNOWN", [error.message]⟩
  | .raised message _ =>
      ⟨502, "Simulated chain (Horizon) request failed", "ERR_CHAIN_UNKNOWN", [message]⟩

end SimulatedAdapter

namespace SorobanAdapter

variable (config : ChainConfig)

/-- Simulate, assemble, sign, send and poll. The assembled transaction keeps the
sequence number it was built with. -/
def invokePipeline (operation : ChainOperation) : SigningM SubmitReceipt := do
  let sequence ← tryCatch (onChain .loadAccount) fun _ =>
    throw (.app ⟨502, "Failed to load account from Soroban RPC", "ERR_CHAIN_UNKNOWN", []⟩)
  let tx : Transaction := ⟨sequence + 1, [operation], none⟩
  let simulation ← onChain (.simulateTransaction tx)
  match (simulation : Option SimulationError) with
  | some (.contract contractCode) => throw (.app (chainErrorToAppError contractCode))
  | some (.other text) =>
      throw (.app ⟨400, "Soroban simulation failed: " ++ text, "ERR_CHAIN_UNKNOWN", []⟩)
  | none => do
      -- A refused transaction is an answer of its own kind, a failed request is not.
      let sent ← tryCatch (onChain (.submitTransaction tx)) fun error =>
        match error with
        | .raised _ (some _) =>
            throw (.app ⟨400, "Soroban sendTransaction failed", "ERR_CHAIN_UNKNOWN", []⟩)
        | _ => throw error
      let status ← onChain (.confirmTransaction sent.hash)
      match (status : Confirmation) with
      | .success ledger => return ⟨sent.hash, ledger⟩
      | .failed => throw (.app
          ⟨400, "Soroban transaction execution failed on-chain", "ERR_CHAIN_UNKNOWN", []⟩)
      | .timedOut => throw (.app
          ⟨504, "Soroban transaction polling timed out", "ERR_CHAIN_UNKNOWN", []⟩)

def anchorEvent [StellarSdk] (input : AnchorArgs) : Except SigningError Section := do
  assertBytes32 input.data_hash "data_hash" "ERR_CHAIN_INVALID_HASH"
  let _ ← config.requireContract
  unless StellarSdk.isAddress input.actor do
    throw (.raised ("Unsupported address type: " ++ input.actor) none)
  let _ ← config.requireSigner "ERR_CHAIN_UNKNOWN"
  return .direct (invokePipeline
    (.contractCall "anchor" [input.shipment_id, input.data_hash, input.actor]))

def releaseEscrow (input : ReleaseEscrowArgs) : Except SigningError Section := do
  assertBytes32 input.proof_hash "proof_hash" "ERR_CHAIN_INVALID_PROOF"
  let _ ← config.requireContract
  let _ ← config.requireSigner "ERR_CHAIN_UNKNOWN"
  return .direct (invokePipeline
    (.contractCall "release_escrow" [input.payment_id, input.proof_hash]))

end SorobanAdapter

/-- Tokenization signs with the same key, on its own. -/
def tokenizeShipment (config : ChainConfig) (shipmentData : TokenizeData) :
    Except SigningError Section := do
  let _ ← config.requireSigner "ERR_STELLAR_CONFIG"
  return .direct do
    let sequence ← onChain .loadAccount
    let tracking ←
      manageData ("tracking:" ++ shipmentData.shipmentId) shipmentData.trackingNumber
    let route ← manageData ("route:" ++ shipmentData.shipmentId)
      (shipmentData.origin ++ "->" ++ shipmentData.destination)
    onChain (.submitTransaction ⟨sequence + 1, [tracking, route], none⟩)

inductive ChainRequest where
  | anchorEvent (input : AnchorArgs)
  | releaseEscrow (input : ReleaseEscrowArgs)
  | tokenizeShipment (shipmentData : TokenizeData)

/-- What a call does before its first `await`: it throws, or opens its section. -/
def ChainConfig.begin [StellarSdk] (config : ChainConfig) :
    ChainRequest → Except SigningError Section
  | .anchorEvent input =>
      match config.chainAdapter with
      | .simulated => SimulatedAdapter.anchorEvent config input
      | .soroban => SorobanAdapter.anchorEvent config input
  | .releaseEscrow input =>
      match config.chainAdapter with
      | .simulated => SimulatedAdapter.releaseEscrow config input
      | .soroban => SorobanAdapter.releaseEscrow config input
  | .tokenizeShipment shipmentData => tokenizeShipment config shipmentData

/-- The entries a call writes to the account. -/
def ChainRequest.operations : ChainRequest → List ChainOperation
  | .anchorEvent input =>
      [.manageData (SimulatedAdapter.anchorKeyPrefix ++ input.shipment_id) input.data_hash]
  | .releaseEscrow input =>
      [.manageData (SimulatedAdapter.releaseKeyPrefix ++ input.payment_id) input.proof_hash]
  | .tokenizeShipment shipmentData =>
      [.manageData ("tracking:" ++ shipmentData.shipmentId) shipmentData.trackingNumber,
        .manageData ("route:" ++ shipmentData.shipmentId)
          (shipmentData.origin ++ "->" ++ shipmentData.destination)]

def ChainRequest.isTokenization : ChainRequest → Bool
  | .tokenizeShipment _ => true
  | _ => false

/-- A call's input is one the specification admits. -/
def ChainRequest.Valid : ChainRequest → Prop
  | .anchorEvent input => input.Valid
  | .releaseEscrow input => input.Valid
  | .tokenizeShipment _ => True

/-- The entry of a valid call is one the SDK builds. -/
theorem ChainRequest.Valid.manageData_eq {call : ChainRequest} (h : call.Valid)
    (hCall : ¬call.isTokenization) {name hexValue : String}
    (hOperations : call.operations = [.manageData name hexValue]) :
    manageData name hexValue = return .manageData name hexValue := by
  cases call with
  | anchorEvent input =>
      obtain ⟨hSymbol, hHash, -⟩ := h
      cases hOperations
      have hPlain : ∀ c ∈ SimulatedAdapter.anchorKeyPrefix.toList, c.toNat < 0x10000 :=
        List.all_iff_forall_prop.mp (by decide +kernel)
      have hName := length_utf16Units_append hPlain hSymbol
      exact Navin.manageData_eq (Nat.le_trans hName (by decide))
        (Nat.le_of_eq (utf8Length_of_isBytes32Hex hHash))
  | releaseEscrow input =>
      obtain ⟨hSymbol, hHash⟩ := h
      cases hOperations
      have hPlain : ∀ c ∈ SimulatedAdapter.releaseKeyPrefix.toList, c.toNat < 0x10000 :=
        List.all_iff_forall_prop.mp (by decide +kernel)
      have hName := length_utf16Units_append hPlain hSymbol
      exact Navin.manageData_eq (Nat.le_trans hName (by decide))
        (Nat.le_of_eq (utf8Length_of_isBytes32Hex hHash))
  | tokenizeShipment shipmentData => exact absurd rfl hCall

/-- A call gets as far as signing: its digest is one, and what it needs is configured. -/
def ChainConfig.signs [StellarSdk] (config : ChainConfig) : ChainRequest → Bool
  | .anchorEvent input =>
      config.signer.isSome && isBytes32Hex input.data_hash &&
        (config.chainAdapter = .simulated ||
          config.escrowContractId.isSome && StellarSdk.isAddress input.actor)
  | .releaseEscrow input =>
      config.signer.isSome && isBytes32Hex input.proof_hash &&
        (config.chainAdapter = .simulated || config.escrowContractId.isSome)
  | .tokenizeShipment _ => config.signer.isSome

section Begin

variable [StellarSdk]

/-- How a call begins: it is refused, its task is to wait its turn, or it loads
the account at once. -/
inductive Begun (config : ChainConfig) (call : ChainRequest) : Except SigningError Section → Prop
  | refused {error : SigningError} (hSigns : ¬config.signs call) : Begun config call (.error error)
  | queued {publicKey name hexValue : String} (hSigns : config.signs call)
      (hKind : config.chainAdapter = .simulated) (hCall : ¬call.isTokenization)
      (hSigner : config.signer = some publicKey)
      (hOperations : call.operations = [.manageData name hexValue]) :
      Begun config call (.ok (.queued publicKey
        (SimulatedAdapter.attempt name hexValue SimulatedAdapter.maxBadSeqRetries)))
  | direct {next : Except SigningError Nat → SigningM SubmitReceipt} (hSigns : config.signs call)
      (h : config.chainAdapter = .soroban ∨ call.isTokenization) :
      Begun config call (.ok (.direct (.call .loadAccount next)))

variable {config : ChainConfig} {call : ChainRequest}

theorem begin_cases : Begun config call (config.begin call) := by
  obtain ⟨kind, signer, contract⟩ := config
  cases call with
  | anchorEvent input =>
      by_cases hHash : isBytes32Hex input.data_hash
      · cases kind with
        | simulated =>
            simp only [ChainConfig.begin, SimulatedAdapter.anchorEvent, assertBytes32, if_pos hHash]
            cases signer with
            | none => exact .refused (by simp [ChainConfig.signs])
            | some publicKey =>
                exact .queued (by simp [ChainConfig.signs, hHash]) rfl Bool.false_ne_true rfl rfl
        | soroban =>
            simp only [ChainConfig.begin, SorobanAdapter.anchorEvent, assertBytes32, if_pos hHash]
            cases contract with
            | none => exact .refused (by simp [ChainConfig.signs])
            | some contractId =>
                by_cases hActor : StellarSdk.isAddress input.actor
                · simp only [if_pos hActor]
                  cases signer with
                  | none => exact .refused (by simp [ChainConfig.signs])
                  | some publicKey =>
                      exact .direct (by simp [ChainConfig.signs, hHash, hActor]) (.inl rfl)
                · simp only [if_neg hActor]
                  exact .refused (by simp [ChainConfig.signs, hActor])
      · have hSigns : ¬ChainConfig.signs ⟨kind, signer, contract⟩ (.anchorEvent input) := by
          simp [ChainConfig.signs, hHash]
        cases kind with
        | simulated =>
            simp only [ChainConfig.begin, SimulatedAdapter.anchorEvent, assertBytes32, if_neg hHash]
            exact .refused hSigns
        | soroban =>
            simp only [ChainConfig.begin, SorobanAdapter.anchorEvent, assertBytes32, if_neg hHash]
            exact .refused hSigns
  | releaseEscrow input =>
      by_cases hHash : isBytes32Hex input.proof_hash
      · cases kind with
        | simulated =>
            simp only [ChainConfig.begin, SimulatedAdapter.releaseEscrow, assertBytes32,
              if_pos hHash]
            cases signer with
            | none => exact .refused (by simp [ChainConfig.signs])
            | some publicKey =>
                exact .queued (by simp [ChainConfig.signs, hHash]) rfl Bool.false_ne_true rfl rfl
        | soroban =>
            simp only [ChainConfig.begin, SorobanAdapter.releaseEscrow, assertBytes32, if_pos hHash]
            cases contract with
            | none => exact .refused (by simp [ChainConfig.signs])
            | some contractId =>
                cases signer with
                | none => exact .refused (by simp [ChainConfig.signs])
                | some publicKey =>
                    exact .direct (by simp [ChainConfig.signs, hHash]) (.inl rfl)
      · have hSigns : ¬ChainConfig.signs ⟨kind, signer, contract⟩ (.releaseEscrow input) := by
          simp [ChainConfig.signs, hHash]
        cases kind with
        | simulated =>
            simp only [ChainConfig.begin, SimulatedAdapter.releaseEscrow, assertBytes32,
              if_neg hHash]
            exact .refused hSigns
        | soroban =>
            simp only [ChainConfig.begin, SorobanAdapter.releaseEscrow, assertBytes32, if_neg hHash]
            exact .refused hSigns
  | tokenizeShipment data =>
      cases signer with
      | none => exact .refused (by simp [ChainConfig.signs])
      | some publicKey => exact .direct (by simp [ChainConfig.signs]) (.inr rfl)

end Begin

structure ChainTxReceipt where
  txHash : String
  ledger : Nat
  simulated : Bool
deriving DecidableEq

inductive ChainAnswer where
  | anchored (result : ChainTxReceipt)
  | released (result : ChainTxReceipt) (paymentId : String)
  | tokenized (stellarTokenId stellarTxHash : String)
deriving DecidableEq

def ChainAnswer.txHash : ChainAnswer → String
  | .anchored result => result.txHash
  | .released result _ => result.txHash
  | .tokenized _ stellarTxHash => stellarTxHash

/-- What the caller gets for the receipt of its section. -/
def ChainRequest.answer (kind : ChainAdapterKind) (receipt : SubmitReceipt) :
    ChainRequest → ChainAnswer
  | .anchorEvent _ => .anchored ⟨receipt.hash, receipt.ledger, kind = .simulated⟩
  | .releaseEscrow input =>
      .released ⟨receipt.hash, receipt.ledger, kind = .simulated⟩ input.payment_id
  | .tokenizeShipment shipmentData =>
      .tokenized ("stellar:" ++ shipmentData.shipmentId ++ ":" ++
        String.ofList (receipt.hash.toList.take 8)) receipt.hash

@[simp] theorem ChainRequest.answer_txHash (kind : ChainAdapterKind) (receipt : SubmitReceipt)
    (call : ChainRequest) : (call.answer kind receipt).txHash = receipt.hash := by
  cases call <;> rfl

end Navin
