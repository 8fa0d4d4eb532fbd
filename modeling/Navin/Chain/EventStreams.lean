import Navin.Chain.Events
import Navin.Chain.Signing
import Navin.Semantics.Cursors

/-! The event streams of the two adapters. The simulated one pages through the
transactions that Horizon lists for the account, and turns entries that anchored
something back into events. The Soroban one asks the RPC server for the events of
the contract. -/
namespace Navin

open Async

/-- An operation as the SDK decodes it. The value of an entry is read as text; an
entry is deleted by a missing one. -/
inductive DecodedOperation where
  | manageData (name : String) (value : Option String)
  | other (type : String)
deriving DecidableEq

structure DecodedTransaction where
  sequence : Nat
  memo : Option String
  operations : List DecodedOperation
deriving DecidableEq

inductive DecodedEnvelope where
  | transaction (decoded : DecodedTransaction)
  | feeBump (innerTransaction : DecodedTransaction)
deriving DecidableEq

/-- `'innerTransaction' in decoded ? decoded.innerTransaction : decoded`. -/
def DecodedEnvelope.tx : DecodedEnvelope → DecodedTransaction
  | .transaction decoded => decoded
  | .feeBump innerTransaction => innerTransaction

/-- The SDK's encoding of envelopes, and zod's check of a datetime. -/
class StellarXdr where
  Xdr : Type
  toXDR : DecodedEnvelope → Xdr
  fromXDR : Xdr → Option DecodedEnvelope
  isDatetime : String → Bool

/-- The fields of a Horizon transaction record that the adapter reads. -/
structure HorizonTxRecord [StellarXdr] where
  paging_token : String
  hash : String
  ledger_attr : Nat
  created_at : String
  envelope_xdr : StellarXdr.Xdr
  successful : Bool

variable [StellarXdr]

/-- A value in an untrusted event. A number is a natural one; whatever else there is
in JavaScript is no part of any valid event. -/
inductive RawValue where
  | string (text : String)
  | number (value : Nat)
  | array (items : List RawValue)
  | other

/-- An event as the RPC server's client hands it out. -/
structure RawEvent where
  id : RawValue
  contractId : RawValue
  txHash : RawValue
  ledger : RawValue
  ledgerClosedAt : RawValue
  topic : RawValue
  value : RawValue

/-- What the streams ask of Horizon and of the RPC server, and what they hand to
their consumer. -/
inductive StreamCall where
  | listTransactions (publicKey : String) (cursor : Option String) (limit : Nat)
  | getEvents (cursor : Option String) (contractId : String)
  | yieldEvent (event : ChainEvent)

@[reducible] def StreamCall.Answer : StreamCall → Type
  | .listTransactions _ _ _ => List HorizonTxRecord
  | .getEvents _ _ => List RawEvent
  | .yieldEvent _ => Unit

abbrev StreamM : Type → Type :=
  Program StreamCall StreamCall.Answer SigningError

def stream (call : StreamCall) : StreamM call.Answer :=
  Program.await call

def invalidEvent : AppError :=
  ⟨502, "Chain event does not match spec " ++ chainSpecVersion, "ERR_CHAIN_INVALID_EVENT", []⟩

/-- Validate a decoded event. -/
def parseChainEvent (event : ChainEvent) (ledgerClosedAt : String) :
    Except SigningError ChainEvent :=
  if event.isValid && StellarXdr.isDatetime ledgerClosedAt then return event
  else throw (.app invalidEvent)

/-- The topics and the data of an event, by the first topic. -/
def parseBody : RawValue → RawValue → Option ChainEventBody
  | .array [.string name, .string subject], .array data =>
      match name, data with
      | "anchor", [.string dataHash, .number ledger] =>
          if isU32 ledger then some (.anchor subject dataHash) else none
      | "esc_init", [.string shipmentId, .string payer, .string payee, .string token,
          .string amount] => some (.escrowInit subject shipmentId payer payee token amount)
      | "esc_rel", [.string proofHash, .string payee, .string amount] =>
          some (.escrowRelease subject proofHash payee amount)
      | _, _ => none
  | _, _ => none

/-- Validate an event of the RPC server, whose first topic is its name. -/
def parseRawEvent (raw : RawEvent) : Except SigningError ChainEvent :=
  match raw.id, raw.contractId, raw.txHash, raw.ledger, raw.ledgerClosedAt,
      parseBody raw.topic raw.value with
  | .string id, .string contractId, .string txHash, .number ledger, .string ledgerClosedAt,
      some body => parseChainEvent ⟨id, contractId, txHash, ledger, body⟩ ledgerClosedAt
  | _, _, _, _, _, _ => throw (.app invalidEvent)

namespace SimulatedAdapter

/-- The contract address of 32 zero bytes: no contract exists. -/
def simulatedContractId : String :=
  "CAAAAAAAAAAAAAAAAAAAAAAAAAAAAAAAAAAAAAAAAAAAAAAAAAAABSC4"

def pageSize : Nat := 200

/-- What follows the start of a text, if it starts so. -/
def textAfter (start text : String) : Option String :=
  if start.toList.isPrefixOf text.toList then
    some (String.ofList (text.toList.drop start.toList.length))
  else none

/-- The shipment and the digest that an operation anchored. -/
def anchored : DecodedOperation → Option (String × String)
  | .manageData name value =>
      match textAfter anchorKeyPrefix name with
      | none => none
      | some shipmentId =>
          let dataHash := value.getD ""
          if isSymbol shipmentId && isBytes32Hex dataHash then some (shipmentId, dataHash) else none
  | .other _ => none

/-- The event of the first operation that anchored something. -/
def anchorEvent? (record : HorizonTxRecord) : Option ChainEvent :=
  if record.successful then
    (StellarXdr.fromXDR record.envelope_xdr).bind fun decoded =>
      (decoded.tx.operations.findSome? anchored).map fun (shipmentId, dataHash) =>
        { id := record.paging_token, contractId := simulatedContractId, txHash := record.hash
          ledger := record.ledger_attr, body := .anchor shipmentId dataHash }
  else none

def toAnchorEvent (record : HorizonTxRecord) : Except SigningError (Option ChainEvent) :=
  match anchorEvent? record with
  | none => return none
  | some event => some <$> parseChainEvent event record.created_at

/-- A page of transactions. Every failure becomes an `AppError`. -/
def listTransactions (publicKey : String) (position : Option String) :
    StreamM (List HorizonTxRecord) :=
  tryCatch (stream (.listTransactions publicKey (truthy position) pageSize)) fun error =>
    throw (.app (wrap error))

/-- Hand the events of a page to the consumer. -/
def yieldEvents : List HorizonTxRecord → StreamM Unit
  | [] => return ()
  | record :: rest => do
      match toAnchorEvent record with
      | .error error => throw error
      | .ok none => yieldEvents rest
      | .ok (some event) => do
          stream (.yieldEvent event)
          yieldEvents rest

/-- The loop over the pages, cut after at most `fuel` of them. Tells whether the
stream has ended. -/
def streamPages (publicKey : String) : (fuel : Nat) → Option String → StreamM Bool
  | 0, _ => return false
  | fuel + 1, position => do
      let records ← listTransactions publicKey position
      yieldEvents records
      if records.length < pageSize then return true
      else
        streamPages publicKey fuel (Cursor.resume HorizonTxRecord.paging_token position records)

def streamEvents (config : ChainConfig) (cursor : Option String) (fuel : Nat) : StreamM Bool :=
  match config.requireSigner "ERR_CHAIN_UNKNOWN" with
  | .error error => throw error
  | .ok publicKey => streamPages publicKey fuel cursor

end SimulatedAdapter

namespace SorobanAdapter

/-- Hand the events that match the specification to the consumer. The others are
skipped. -/
def yieldEvents : List RawEvent → StreamM Unit
  | [] => return ()
  | raw :: rest => do
      match parseRawEvent raw with
      | .error _ => yieldEvents rest
      | .ok event => do
          stream (.yieldEvent event)
          yieldEvents rest

/-- One request for the events of the contract, if there is one. -/
def streamEvents (config : ChainConfig) (cursor : Option String) : StreamM Unit :=
  match config.escrowContractId with
  | none => return ()
  | some contractId =>
      tryCatch
        (do
          let events ← stream (.getEvents (truthy cursor) contractId)
          yieldEvents events)
        fun error => match error with
          | .app error => throw (.app error)
          | .raised message _ => throw (.app
              ⟨502, "Failed to fetch Soroban events", "ERR_CHAIN_UNKNOWN", [message]⟩)

end SorobanAdapter

/-- Horizon with a history of the account: in ascending order, strictly after the
cursor, at most `limit` at a time. The events the consumer gets are collected. -/
abbrev horizonHistory (records : List HorizonTxRecord) :
    World StreamCall StreamCall.Answer SigningError where
  Store := List ChainEvent
  Env := Unit
  perform _ yielded
    | .listTransactions _ cursor limit =>
        (yielded, .ok (Cursor.serve HorizonTxRecord.paging_token records limit cursor))
    | .getEvents _ _ => (yielded, .error (.raised "Request failed with status code 404" none))
    | .yieldEvent event => (yielded ++ [event], .ok ())

/-- A record as Horizon lists it. -/
structure HorizonTxRecord.WellFormed (record : HorizonTxRecord) : Prop where
  paging_token : record.paging_token ≠ ""
  hash : isBytes32Hex record.hash
  ledger_attr : isU32 record.ledger_attr
  created_at : StellarXdr.isDatetime record.created_at
  successful : record.successful

section Reading

open SimulatedAdapter

variable {records page : List HorizonTxRecord} {env : Nat → Unit} {yielded : List ChainEvent}
  {publicKey : String} {position : Option String}

theorem yieldEvents_run
    (hEvents : ∀ record ∈ page, toAnchorEvent record = .ok (anchorEvent? record)) :
    (yieldEvents page).run (horizonHistory records) env yielded =
      (yielded ++ page.filterMap anchorEvent?, .ok (), env) := by
  induction page generalizing yielded with
  | nil => simp [yieldEvents]
  | cons record rest ih =>
      obtain ⟨hFirst, hRest⟩ := List.forall_mem_cons.mp hEvents
      rw [yieldEvents, hFirst]
      cases hEvent : anchorEvent? record with
      | none => rw [List.filterMap_cons_none hEvent, ih hRest]
      | some event =>
          have hYield : (stream (.yieldEvent event)).run (horizonHistory records) env yielded =
              (yielded ++ [event], .ok (), env) :=
            Program.run_await _ _ _
          rw [List.filterMap_cons_some hEvent, Program.run_bind_ok hYield, ih hRest,
            List.append_assoc, List.singleton_append]

theorem listTransactions_run (hPosition : position ≠ some "") :
    (listTransactions publicKey position).run (horizonHistory records) env yielded =
      (yielded, .ok (Cursor.serve HorizonTxRecord.paging_token records pageSize position),
        env) := by
  have hTruthy : truthy position = position := by
    cases position with
    | none => rfl
    | some cursor => exact Option.filter_some_pos (by simpa using hPosition)
  rw [listTransactions, hTruthy]
  rfl

/-- The stream hands out the events of exactly the pages that a reader of the
history gets. -/
theorem streamPages_run (fuel : Nat) (hPosition : position ≠ some "")
    (hTokens : ∀ record ∈ records, record.paging_token ≠ "")
    (hEvents : ∀ record ∈ records, toAnchorEvent record = .ok (anchorEvent? record)) :
    (streamPages publicKey fuel position).run (horizonHistory records) env yielded =
      let read := Cursor.pages HorizonTxRecord.paging_token pageSize
        (Cursor.serve HorizonTxRecord.paging_token records pageSize) fuel position
      (yielded ++ read.1.filterMap anchorEvent?, .ok read.2, env) := by
  induction fuel generalizing position yielded with
  | zero => simp [streamPages, Cursor.pages]
  | succ fuel ih =>
      have hPage {record : HorizonTxRecord} : record ∈ Cursor.serve HorizonTxRecord.paging_token
          records pageSize position → record ∈ records := Cursor.mem_of_mem_serve _
      rw [streamPages, Program.run_bind_ok (listTransactions_run hPosition),
        Program.run_bind_ok (yieldEvents_run fun record hMem => hEvents record (hPage hMem))]
      simp only [Cursor.pages]
      split
      · rfl
      · have hNext : Cursor.resume HorizonTxRecord.paging_token position
            (Cursor.serve HorizonTxRecord.paging_token records pageSize position) ≠ some "" := by
          rcases List.eq_nil_or_concat (Cursor.serve HorizonTxRecord.paging_token records pageSize
            position) with hNil | ⟨init, last, hLast⟩
          · rw [hNil, Cursor.resume_nil]
            exact hPosition
          · have hMem : last ∈ records := by
              refine hPage ?_
              rw [hLast, List.concat_eq_append]
              exact List.mem_append_right _ List.mem_cons_self
            rw [hLast, List.concat_eq_append, Cursor.resume_concat]
            exact fun hToken => hTokens last hMem (Option.some.inj hToken)
        rw [ih hNext]
        simp only [List.filterMap_append, List.append_assoc]

omit [StellarXdr] in
theorem anchored_eq_some {operation : DecodedOperation} {shipmentId dataHash : String}
    (h : anchored operation = some (shipmentId, dataHash)) :
    isSymbol shipmentId ∧ isBytes32Hex dataHash := by
  unfold anchored at h
  split at h
  · split at h
    · cases h
    · dsimp only at h
      split at h
      · rename_i hSpec
        cases h
        exact Bool.and_eq_true _ _ ▸ hSpec
      · cases h
  · cases h

/-- Only what is off-spec in the record itself is rejected. -/
theorem toAnchorEvent_of_wellFormed {record : HorizonTxRecord} (h : record.WellFormed) :
    toAnchorEvent record = .ok (anchorEvent? record) := by
  unfold toAnchorEvent
  cases hEvent : anchorEvent? record with
  | none => rfl
  | some event =>
      rw [anchorEvent?, if_pos h.successful, Option.bind_eq_some_iff] at hEvent
      obtain ⟨decoded, -, hEvent⟩ := hEvent
      obtain ⟨⟨shipmentId, dataHash⟩, hAnchored, rfl⟩ := Option.map_eq_some_iff.mp hEvent
      obtain ⟨operation, -, hOperation⟩ := List.exists_of_findSome?_eq_some hAnchored
      obtain ⟨hSymbol, hHash⟩ := anchored_eq_some hOperation
      have hContract : isContractAddress simulatedContractId = true := by decide +kernel
      simp [parseChainEvent, ChainEvent.isValid, ChainEventBody.isValid, h.paging_token, hContract,
        h.hash, h.ledger_attr, h.created_at, hSymbol, hHash]
      rfl

/-- From the position of any reader of the history, the stream ends and hands out
the events of the rest. -/
theorem streamEvents_run {config : ChainConfig} (hSigner : config.signer = some publicKey)
    (hRecords : ∀ record ∈ records, record.WellFormed)
    (hTokens : (records.map (·.paging_token)).Nodup) {before after : List HorizonTxRecord}
    (hSplit : records = before ++ after) {fuel : Nat} (hFuel : after.length < fuel * pageSize) :
    (streamEvents config (Cursor.resume HorizonTxRecord.paging_token none before) fuel).run
      (horizonHistory records) env yielded =
        (yielded ++ after.filterMap anchorEvent?, .ok true, env) := by
  have hPosition : Cursor.resume HorizonTxRecord.paging_token none before ≠ some "" := by
    rcases List.eq_nil_or_concat before with rfl | ⟨init, last, rfl⟩
    · exact nofun
    · rw [List.concat_eq_append] at hSplit ⊢
      have hMem : last ∈ records := by simp [hSplit]
      rw [Cursor.resume_concat]
      exact fun hToken => (hRecords last hMem).paging_token (Option.some.inj hToken)
  have hRead := Cursor.pages_serve HorizonTxRecord.paging_token hTokens hSplit hFuel
  rw [streamEvents, ChainConfig.requireSigner, hSigner]
  refine (streamPages_run fuel hPosition (fun record hMem => (hRecords record hMem).paging_token)
    fun record hMem => toAnchorEvent_of_wellFormed (hRecords record hMem)).trans ?_
  rw [hRead]

end Reading

end Navin
