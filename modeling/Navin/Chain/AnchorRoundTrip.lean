import Navin.Chain.EventStreams
import Navin.Semantics.TwoRuns

/-! What the simulated adapter has anchored comes back in its event stream. The
calls that write are run against Horizon, which records what it accepts; others
may use the account as well. -/
namespace Navin

open Async SimulatedAdapter

variable [StellarSdk] [StellarXdr]

def ChainOperation.decoded : ChainOperation → DecodedOperation
  | .manageData name value => .manageData name (some value)
  | .contractCall _ _ => .other "invokeHostFunction"

/-- What the envelope of a built transaction decodes to. -/
def Transaction.envelope (tx : Transaction) : DecodedEnvelope :=
  .transaction ⟨tx.sequence, tx.memo, tx.operations.map ChainOperation.decoded⟩

/-- The account on Horizon: its sequence number and its successful transactions. -/
structure HorizonAccount where
  sequence : Nat := 0
  records : List HorizonTxRecord := []

/-- What happens at a call: transactions of others come first, some of them signed
by the account; the call may fail; an accepted transaction gets a place. -/
structure HorizonDecision where
  arrivals : List HorizonTxRecord := []
  bumps : Nat := 0
  fault : Option NetworkFault := none
  paging_token : String := ""
  ledger : Nat := 0
  created_at : String := ""

/-- No operation of the transaction is a telemetry entry. -/
def WritesNoTelemetry (record : HorizonTxRecord) : Prop :=
  ∀ decoded, StellarXdr.fromXDR record.envelope_xdr = some decoded →
    ∀ name value, .manageData name value ∈ decoded.tx.operations →
      textAfter anchorKeyPrefix name = none

namespace HorizonAccount

variable (account : HorizonAccount)

def arrive (decision : HorizonDecision) : HorizonAccount :=
  ⟨account.sequence + decision.bumps, account.records ++ decision.arrivals⟩

/-- The record of an accepted transaction. -/
def record (decision : HorizonDecision) (tx : Transaction) : HorizonTxRecord where
  paging_token := decision.paging_token
  hash := StellarSdk.hash tx
  ledger_attr := decision.ledger
  created_at := decision.created_at
  envelope_xdr := StellarXdr.toXDR tx.envelope
  successful := true

def execute (decision : HorizonDecision) :
    (call : SigningCall) → HorizonAccount × Except SigningError call.Answer
  | .loadAccount => (account, .ok account.sequence)
  | .submitTransaction tx =>
      if tx.sequence = account.sequence + 1 then
        (⟨account.sequence + 1, account.records ++ [record decision tx]⟩,
          .ok ⟨StellarSdk.hash tx, decision.ledger⟩)
      else
        (account, .error (.raised "Request failed with status code 400" (some "tx_bad_seq")))
  | .simulateTransaction _ | .confirmTransaction _ =>
      (account, .error (.raised "Request failed with status code 404" none))

def perform (decision : HorizonDecision) (account : HorizonAccount) (call : SigningCall) :
    HorizonAccount × Except SigningError call.Answer :=
  match decision.fault with
  | none => (account.arrive decision).execute decision call
  | some fault =>
      (if fault.lost then ((account.arrive decision).execute decision call).1
        else account.arrive decision,
        .error (.raised fault.message fault.transactionCode))

end HorizonAccount

abbrev horizonNetwork : World SigningCall SigningCall.Answer SigningError where
  Store := HorizonAccount
  Env := HorizonDecision
  perform := HorizonAccount.perform

/-- A call of the port that submits a transaction. -/
inductive PortCall where
  | anchorEvent (input : AnchorArgs)
  | releaseEscrow (input : ReleaseEscrowArgs)

def PortCall.begin (config : ChainConfig) : PortCall → Except SigningError Section
  | .anchorEvent input => SimulatedAdapter.anchorEvent config input
  | .releaseEscrow input => SimulatedAdapter.releaseEscrow config input

/-- The account after these calls have succeeded one after the other, while others
used it for transactions that write no telemetry. -/
inductive Succeeded (config : ChainConfig) : List PortCall → HorizonAccount → Prop
  | start : Succeeded config [] {}
  | others {calls : List PortCall} {account : HorizonAccount} (decision : HorizonDecision)
      (prior : Succeeded config calls account)
      (hOthers : ∀ record ∈ decision.arrivals, WritesNoTelemetry record) :
      Succeeded config calls (account.arrive decision)
  | call {calls : List PortCall} {account after : HorizonAccount} {call : PortCall}
      {opened : Section} (env : Nat → HorizonDecision) {env' : Nat → HorizonDecision}
      {receipt : SubmitReceipt} (prior : Succeeded config calls account)
      (hBegin : call.begin config = .ok opened)
      (hOthers : ∀ n, ∀ record ∈ (env n).arrivals, WritesNoTelemetry record)
      (run : opened.program.run horizonNetwork env account = (after, .ok receipt, env')) :
      Succeeded config (calls ++ [call]) after

/-- What a call anchors for the stream: a shipment of a valid name, and its digest. -/
def PortCall.anchors : PortCall → Option ChainEventBody
  | .anchorEvent input =>
      if isSymbol input.shipment_id then some (.anchor input.shipment_id input.data_hash) else none
  | .releaseEscrow _ => none

def PortCall.name : PortCall → String
  | .anchorEvent input => anchorKeyPrefix ++ input.shipment_id
  | .releaseEscrow input => releaseKeyPrefix ++ input.payment_id

def PortCall.hexValue : PortCall → String
  | .anchorEvent input => input.data_hash
  | .releaseEscrow input => input.proof_hash

section Writing

variable {account after : HorizonAccount} {decision : HorizonDecision} {tx : Transaction}
  {name hexValue : String} {env env' : Nat → HorizonDecision} {receipt : SubmitReceipt}

theorem perform_load {sequence : Nat}
    (h : HorizonAccount.perform decision account .loadAccount = (after, .ok sequence)) :
    after.records = account.records ++ decision.arrivals := by
  unfold HorizonAccount.perform at h
  split at h
  · cases h
    rfl
  · cases h

/-- An accepted transaction is listed after the ones that came before it. -/
theorem perform_submit
    (h : HorizonAccount.perform decision account (.submitTransaction tx) = (after, .ok receipt)) :
    after.records =
      account.records ++ decision.arrivals ++ [HorizonAccount.record decision tx] := by
  unfold HorizonAccount.perform at h
  split at h
  · simp only [HorizonAccount.execute] at h
    split at h
    · cases h
      rfl
    · cases h
  · cases h

/-- What is refused for its sequence number is not listed. -/
theorem perform_refused {error : SigningError}
    (h : HorizonAccount.perform decision account (.submitTransaction tx) = (after, .error error))
    (hBad : isBadSequence error) : after.records = account.records ++ decision.arrivals := by
  unfold HorizonAccount.perform at h
  split at h
  · simp only [HorizonAccount.execute] at h
    split at h
    · cases h
    · cases h
      rfl
  · rename_i fault _
    cases h
    simp [isBadSequence, fault.unrelated] at hBad

/-- The transactions of others that an account has seen, and then one of its own
with this entry. -/
def Wrote (name hexValue : String) (env : Nat → HorizonDecision)
    (account after : HorizonAccount) : Prop :=
  ∃ others decision, ∃ tx : Transaction, tx.operations = [.manageData name hexValue] ∧
    (∀ record ∈ others, ∃ n, record ∈ (env n).arrivals) ∧
    after.records = account.records ++ others ++ [HorizonAccount.record decision tx]

theorem Wrote.of_submit {decision : HorizonDecision} {loaded : HorizonAccount}
    (hLoaded : loaded.records = account.records ++ (env 0).arrivals)
    (hOperations : tx.operations = [.manageData name hexValue])
    (hDecision : ∃ n, decision = env n)
    (hSubmit : HorizonAccount.perform decision loaded (.submitTransaction tx) =
      (after, .ok receipt)) : Wrote name hexValue env account after := by
  obtain ⟨n, rfl⟩ := hDecision
  refine ⟨(env 0).arrivals ++ (env n).arrivals, env n, tx, hOperations, ?_, ?_⟩
  · intro record hMem
    rcases List.mem_append.mp hMem with hFirst | hSecond
    · exact ⟨0, hFirst⟩
    · exact ⟨n, hSecond⟩
  · rw [perform_submit hSubmit, hLoaded, List.append_assoc, List.append_assoc, List.append_assoc,
      List.append_assoc]

/-- What is left of an attempt once the account is loaded and the entry is built. -/
theorem submitOnce_run {submit : SigningM SubmitReceipt → SigningM SubmitReceipt}
    (run : (submitOnce name hexValue submit).run horizonNetwork env account =
      (after, .ok receipt, env')) :
    ∃ loaded sequence, loaded.records = account.records ++ (env 0).arrivals ∧
      (submit (onChain (.submitTransaction
        ⟨sequence + 1, [.manageData name hexValue], some hexValue⟩))).run horizonNetwork
          (fun n => env (n + 1)) loaded = (after, .ok receipt, env') := by
  obtain ⟨loaded, sequence, env₁, hLoad, hRest⟩ := Program.run_bind_eq_ok.mp run
  obtain ⟨hPerform, rfl⟩ := Program.run_await_eq_ok.mp hLoad
  rcases manageData_cases name hexValue with ⟨error, hError⟩ | hBuilt
  · rw [hError] at hRest
    cases hRest
  · rw [hBuilt] at hRest
    exact ⟨loaded, sequence, perform_load hPerform, hRest⟩

/-- After an attempt that was refused. -/
theorem Wrote.again {middle : HorizonAccount} {later : Nat → HorizonDecision}
    (hLater : later = fun n => env (n + 2)) {others : List HorizonTxRecord}
    (hOthers : ∀ record ∈ others, ∃ n, record ∈ (env n).arrivals)
    (hMiddle : middle.records = account.records ++ others)
    (h : Wrote name hexValue later middle after) : Wrote name hexValue env account after := by
  obtain ⟨more, decision, tx, hOperations, hMore, hAfter⟩ := h
  refine ⟨others ++ more, decision, tx, hOperations, ?_, ?_⟩
  · intro record hMem
    rcases List.mem_append.mp hMem with hFirst | hSecond
    · exact hOthers record hFirst
    · obtain ⟨n, hArrived⟩ := hMore record hSecond
      exact ⟨n + 2, by rwa [hLater] at hArrived⟩
  · rw [hAfter, hMiddle, List.append_assoc account.records]

/-- However often an attempt is refused, a call that succeeds writes its entry once. -/
theorem attempt_writes (left : Nat)
    (run : (attempt name hexValue left).run horizonNetwork env account =
      (after, .ok receipt, env')) : Wrote name hexValue env account after := by
  induction left generalizing account env with
  | zero =>
      obtain ⟨loaded, sequence, hLoaded, hSubmit⟩ := submitOnce_run run
      obtain ⟨hPerform, -⟩ := Program.run_await_eq_ok.mp hSubmit
      exact .of_submit hLoaded rfl ⟨1, rfl⟩ hPerform
  | succ left ih =>
      obtain ⟨loaded, sequence, hLoaded, hSubmit⟩ := submitOnce_run run
      rw [onChain, Program.run_tryCatch_await] at hSubmit
      split at hSubmit
      · rename_i hPerform
        cases hSubmit
        exact .of_submit hLoaded rfl ⟨1, rfl⟩ hPerform
      · rename_i refused error hPerform
        split at hSubmit
        · rename_i hBad
          have hRefused : refused.records =
              account.records ++ ((env 0).arrivals ++ (env 1).arrivals) := by
            rw [perform_refused hPerform hBad, hLoaded, List.append_assoc]
          refine (ih hSubmit).again rfl ?_ hRefused
          intro record hMem
          rcases List.mem_append.mp hMem with hFirst | hSecond
          · exact ⟨0, hFirst⟩
          · exact ⟨1, hSecond⟩
        · cases hSubmit

end Writing

section History

variable {config : ChainConfig} {calls : List PortCall} {call : PortCall}
  {account : HorizonAccount}

omit [StellarSdk] [StellarXdr] in
/-- A call that gets as far as its section tries to write its entry. -/
theorem PortCall.begin_eq_ok {opened : Section} (h : call.begin config = .ok opened) :
    isBytes32Hex call.hexValue ∧ ∃ publicKey, opened =
      .queued publicKey (attempt call.name call.hexValue maxBadSeqRetries) := by
  cases hSigner : config.signer with
  | none =>
      cases call <;> simp only [PortCall.begin, SimulatedAdapter.anchorEvent,
        SimulatedAdapter.releaseEscrow, assertBytes32, submitManageData, ChainConfig.requireSigner,
        hSigner] at h <;> split at h <;> cases h
  | some publicKey =>
      cases call <;> simp only [PortCall.begin, SimulatedAdapter.anchorEvent,
        SimulatedAdapter.releaseEscrow, assertBytes32, submitManageData, ChainConfig.requireSigner,
        hSigner] at h <;> split at h <;> cases h
      · rename_i hHash
        exact ⟨hHash, publicKey, rfl⟩
      · rename_i hHash
        exact ⟨hHash, publicKey, rfl⟩

omit [StellarSdk] [StellarXdr] in
theorem textAfter_append (start rest : String) : textAfter start (start ++ rest) = some rest := by
  simp [textAfter]

omit [StellarSdk] [StellarXdr] in
theorem textAfter_release (payment : String) :
    textAfter anchorKeyPrefix (releaseKeyPrefix ++ payment) = none := by
  simp [textAfter, anchorKeyPrefix, releaseKeyPrefix]

omit [StellarSdk] [StellarXdr] in
/-- The entry of a call is read back as what the call anchors. -/
theorem anchored_entry (hHash : isBytes32Hex call.hexValue) :
    (anchored (.manageData call.name (some call.hexValue))).map
      (fun (shipmentId, dataHash) => ChainEventBody.anchor shipmentId dataHash) = call.anchors := by
  cases call with
  | anchorEvent input =>
      have hDigest : isBytes32Hex input.data_hash := hHash
      by_cases hSymbol : isSymbol input.shipment_id
      · simp [PortCall.name, PortCall.hexValue, anchored, textAfter_append, PortCall.anchors,
          hSymbol, hDigest]
      · simp [PortCall.name, PortCall.hexValue, anchored, textAfter_append, PortCall.anchors,
          hSymbol]
  | releaseEscrow input =>
      simp only [PortCall.name, anchored, textAfter_release]
      rfl

omit [StellarSdk] in
/-- Transactions without a telemetry entry have no event. -/
theorem anchorEvent?_of_writesNoTelemetry {record : HorizonTxRecord}
    (h : WritesNoTelemetry record) : anchorEvent? record = none := by
  unfold anchorEvent?
  split
  · cases hDecoded : StellarXdr.fromXDR record.envelope_xdr with
    | none => rfl
    | some decoded =>
        have hNone : decoded.tx.operations.findSome? anchored = none := by
          rw [List.findSome?_eq_none_iff]
          intro operation hMem
          cases operation with
          | manageData name value =>
              rw [anchored, h decoded hDecoded name value hMem]
          | other type => rfl
        rw [Option.bind_some, hNone]
        rfl
  · rfl

variable (hXdr : ∀ decoded, StellarXdr.fromXDR (StellarXdr.toXDR decoded) = some decoded)
include hXdr

theorem body_of_record {decision : HorizonDecision} {tx : Transaction}
    (hHash : isBytes32Hex call.hexValue)
    (hOperations : tx.operations = [.manageData call.name call.hexValue]) :
    (anchorEvent? (HorizonAccount.record decision tx)).map (·.body) = call.anchors := by
  rw [← anchored_entry hHash, anchorEvent?, HorizonAccount.record, if_pos rfl, hXdr]
  simp only [Option.bind_some, Transaction.envelope, DecodedEnvelope.tx, hOperations,
    List.map_singleton, ChainOperation.decoded, List.findSome?_singleton, Option.map_map]
  rfl

/-- The events of the account's history are what the calls anchored, in order. -/
theorem Succeeded.events (h : Succeeded config calls account) :
    (account.records.filterMap anchorEvent?).map (·.body) =
      calls.filterMap PortCall.anchors := by
  induction h with
  | start => rfl
  | others decision prior hOthers ih =>
      have hNone : decision.arrivals.filterMap anchorEvent? = [] :=
        List.filterMap_eq_nil_iff.mpr fun record hMem =>
          anchorEvent?_of_writesNoTelemetry (hOthers record hMem)
      rw [HorizonAccount.arrive, List.filterMap_append, hNone, List.append_nil, ih]
  | call env prior hBegin hOthers run ih =>
      obtain ⟨hHash, publicKey, rfl⟩ := PortCall.begin_eq_ok hBegin
      obtain ⟨others, decision, tx, hOperations, hArrived, hRecords⟩ := attempt_writes _ run
      have hNone : others.filterMap anchorEvent? = [] := by
        refine List.filterMap_eq_nil_iff.mpr fun record hMem => ?_
        obtain ⟨n, hArrival⟩ := hArrived record hMem
        exact anchorEvent?_of_writesNoTelemetry (hOthers n record hArrival)
      have hBody := @body_of_record _ _ _ hXdr decision tx hHash hOperations
      rw [hRecords, List.filterMap_append, List.filterMap_append, hNone, List.append_nil,
        List.map_append, ih, List.filterMap_append]
      cases hEvent : anchorEvent? (HorizonAccount.record decision tx) with
      | none =>
          rw [hEvent] at hBody
          rw [List.filterMap_cons_none hEvent, List.filterMap_cons_none hBody.symm]
          rfl
      | some event =>
          rw [hEvent] at hBody
          rw [List.filterMap_cons_some hEvent, List.filterMap_cons_some hBody.symm]
          rfl

omit [StellarSdk] hXdr in
theorem id_of_anchorEvent? {record : HorizonTxRecord} {event : ChainEvent}
    (h : anchorEvent? record = some event) : event.id = record.paging_token := by
  unfold anchorEvent? at h
  split at h
  · obtain ⟨decoded, -, hEvent⟩ := Option.bind_eq_some_iff.mp h
    obtain ⟨found, -, rfl⟩ := Option.map_eq_some_iff.mp hEvent
    rfl
  · cases h

/-- Whatever was anchored comes back: the stream ends, whatever the number of
transactions, with one event for each anchoring under a valid name, in order; and
from the id of an event it yields exactly the later ones. -/
theorem anchors_round_trip {publicKey : String} (hSigner : config.signer = some publicKey)
    (h : Succeeded config calls account)
    (hRecords : ∀ record ∈ account.records, record.WellFormed)
    (hTokens : (account.records.map (·.paging_token)).Nodup) {fuel : Nat}
    (hFuel : account.records.length < fuel * pageSize) (env : Nat → Unit) :
    ∃ events : List ChainEvent,
      events.map (·.body) = calls.filterMap PortCall.anchors ∧
      (streamEvents config none fuel).run (horizonHistory account.records) env [] =
        (events, .ok true, env) ∧
      ∀ before event after, events = before ++ event :: after →
        (streamEvents config (some event.id) fuel).run (horizonHistory account.records) env [] =
          (after, .ok true, env) := by
  refine ⟨account.records.filterMap anchorEvent?, h.events hXdr, ?_, ?_⟩
  · exact streamEvents_run hSigner hRecords hTokens (List.nil_append _).symm hFuel
  · intro before event after hEvents
    obtain ⟨earlier, later, hSplit, -, hLater⟩ := List.filterMap_eq_append_iff.mp hEvents
    obtain ⟨silent, record, rest, rfl, -, hRecord, rfl⟩ := List.filterMap_eq_cons_iff.mp hLater
    have hPrefix : account.records = (earlier ++ silent ++ [record]) ++ rest := by
      rw [hSplit]
      simp
    have hPosition : Cursor.resume HorizonTxRecord.paging_token none
        (earlier ++ silent ++ [record]) = some event.id := by
      rw [Cursor.resume_concat, id_of_anchorEvent? hRecord]
    have hRest : rest.length < fuel * pageSize := by
      rw [hPrefix, List.length_append] at hFuel
      omega
    rw [← hPosition]
    exact streamEvents_run hSigner hRecords hTokens hPrefix hRest

end History

/-- Two digests. -/
def sampleDigest (c : Char) : String :=
  String.ofList (List.replicate 64 c)

/-- An encoding for which a decoded envelope is its own text. -/
@[reducible] def plainXdr : StellarXdr :=
  ⟨DecodedEnvelope, id, some, fun text => text == "2026-01-01T00:00:00Z"⟩

omit [StellarSdk] [StellarXdr] in
/-- One shipment is anchored and one payment released; the anchoring comes back. -/
theorem anchors_round_trip_sample : ∃ (_ : StellarSdk) (_ : StellarXdr) (config : ChainConfig)
    (account : HorizonAccount) (event : ChainEvent),
    Succeeded config [.anchorEvent ⟨"ship_1", sampleDigest 'a', "G"⟩,
      .releaseEscrow ⟨"pay_1", sampleDigest 'b'⟩] account ∧
    account.records.length = 2 ∧ event.body = .anchor "ship_1" (sampleDigest 'a') ∧
    (streamEvents config none 1).run (horizonHistory account.records) (fun _ => ()) [] =
      ([event], .ok true, fun _ => ()) := by
  let sdk : StellarSdk := ⟨fun _ => sampleDigest 'c', fun _ => true⟩
  let xdr : StellarXdr := plainXdr
  let config : ChainConfig := ⟨.simulated, some "G", none⟩
  let decision (paging_token : String) : HorizonDecision :=
    ⟨[], 0, none, paging_token, 7, "2026-01-01T00:00:00Z"⟩
  have hAnchored : Succeeded config [.anchorEvent ⟨"ship_1", sampleDigest 'a', "G"⟩] _ :=
    .call (fun _ => decision "1") .start rfl nofun rfl
  have hBoth : Succeeded config [.anchorEvent ⟨"ship_1", sampleDigest 'a', "G"⟩,
      .releaseEscrow ⟨"pay_1", sampleDigest 'b'⟩] _ :=
    .call (fun _ => decision "2") hAnchored rfl nofun rfl
  have hHash : isBytes32Hex (sampleDigest 'c') := by decide +kernel
  obtain ⟨events, hBodies, hStream, -⟩ :=
    @anchors_round_trip sdk xdr config _ _ (fun _ => rfl) "G" rfl hBoth (by
      intro record hMem
      rcases List.mem_pair.mp hMem with rfl | rfl <;> exact ⟨by decide, hHash, rfl, rfl, rfl⟩)
      (by decide) 1 (by decide) (fun _ => ())
  obtain ⟨event, rfl, hBody⟩ := List.map_eq_singleton_iff.mp hBodies
  exact ⟨sdk, xdr, config, _, event, hBoth, rfl, hBody, hStream⟩

end Navin
