import Navin.Semantics.ReadThrough
import Navin.Webhooks.TelemetryEtas

/-! Is a cached arrival estimate ever older than the shipment it is about? Estimates
are cached under the text a caller gives as the id. Only a single status update and the
bulk ingest drop one, and only the one under the text they resolved; bulk updates,
patches, deletions and the webhook of the devices drop none. -/
namespace Navin

open Async

/-- The operations that ask for an estimate or change what it is computed from. -/
inductive EtaOperation where
  | eta (id : String)
  | updateStatus (id : String) (status : ShipmentStatus) (actor : Option String)
  | bulkUpdateStatus (shipmentIds : List String) (status : ShipmentStatus)
      (organizationId : String) (actor : Option String)
  | patch (id : String) (offChainMetadata : Option Value)
  | delete (id : String)
  | ingest (items : List BulkTelemetryItem)
  | webhook (header : Option String) (body : IotWebhookBody)

/-- The estimates that are computed and stored in the cache. -/
def writtenEstimates (steps : List (Step telemetryWorld)) : List (String × EtaPayload) :=
  steps.filterMap fun step =>
    match step.request with
    | .inl (.writeShipmentEtaCache id payload) => some (id, payload)
    | _ => none

theorem mem_writtenEstimates {steps : List (Step telemetryWorld)} {id : String}
    {payload : EtaPayload} {step : Step telemetryWorld} (hStep : step ∈ steps)
    (hRequest : step.request = .inl (.writeShipmentEtaCache id payload)) :
    (id, payload) ∈ writtenEstimates steps :=
  List.mem_filterMap.mpr ⟨step, hStep, by rw [hRequest]⟩

section Runs

variable [Sha256] [Bcrypt] [EtaArithmetic]

/-- The service behind an operation. Only an estimate is answered with a payload. -/
def EtaOperation.program : EtaOperation → TelemetryM (Option EtaPayload)
  | .eta id => some <$> backendProgram (getShipmentEtaService id)
  | .updateStatus id status actor =>
      (fun _ => none) <$> backendProgram (updateShipmentStatusService id status actor)
  | .bulkUpdateStatus shipmentIds status organizationId actor => (fun _ => none) <$>
      backendProgram (bulkUpdateShipmentStatusService shipmentIds status organizationId actor)
  | .patch id offChainMetadata =>
      (fun _ => none) <$> backendProgram (patchShipmentService id offChainMetadata)
  | .delete id => (fun _ => none) <$> backendProgram (deleteShipmentService id)
  | .ingest items => (fun _ => none) <$> bulkIngestTelemetry items
  | .webhook header body => (fun _ => none) <$> iotWebhook header body

omit [Sha256] [EtaArithmetic] in
/-- The operation may change the inputs of the shipment, and does not drop the estimate
under the text. -/
def EtaOperation.Disturbs (store : TelemetryStore) (text : String) (id : ObjectId) :
    EtaOperation → Prop
  | .eta _ => False
  | .updateStatus given status actor => CanMove store.1 status given ∧ Attributable actor ∧
      ObjectId.cast? given = some id ∧ given ≠ text
  | .bulkUpdateStatus shipmentIds status organizationId actor =>
      BulkMoves store.1 shipmentIds status organizationId actor id
  | .patch given offChainMetadata =>
      ObjectId.cast? given = some id ∧ PatchMoves store.1 offChainMetadata id
  | .delete given => ObjectId.cast? given = some id ∧ store.1.liveShipment id ≠ none
  | .ingest items => ∃ target ∈ ingestTargets store items, target.2 = id ∧ target.1 ≠ text
  | .webhook header body => (store.keyOfHeader header).isSome ∧ body.target store = some id

/-- One completed operation of a sequential run. -/
structure EtaTurn where
  operation : EtaOperation
  env : Nat → Decision × TelemetryDecision
  before : TelemetryStore

namespace EtaTurn

variable (turn : EtaTurn)

def after : TelemetryStore :=
  (turn.operation.program.run telemetryWorld turn.env turn.before).1

def outcome : Except ThrownError (Option EtaPayload) :=
  (turn.operation.program.run telemetryWorld turn.env turn.before).2.1

def steps : List (Step telemetryWorld) :=
  turn.operation.program.steps turn.env turn.before

/-- The service answers a request for the estimate with the payload. -/
def Serves (text : String) (payload : EtaPayload) : Prop :=
  turn.operation = .eta text ∧ turn.outcome = .ok (some payload)

/-- The payload is computed by the operation. -/
def Computes (text : String) (payload : EtaPayload) : Prop :=
  (text, payload) ∈ writtenEstimates turn.steps

/-- The operation changes status, destination, existence or telemetry of the shipment. -/
def Changes (id : ObjectId) : Prop :=
  turn.after.1.etaInputs id ≠ turn.before.1.etaInputs id

/-- The operation changes no shipment whose estimate it leaves in the cache, and the
answers of its changes are not lost. -/
structure Undisturbing : Prop where
  leaves : ∀ entry ∈ turn.before.1.etaCache, ∀ id, ObjectId.cast? entry.1 = some id →
    ¬turn.operation.Disturbs turn.before entry.1 id
  answered : ∀ step ∈ turn.steps, ChangeAnswered step

end EtaTurn

/-- A sequential run, the latest operation first. -/
inductive EtaRun (start : TelemetryStore) : List EtaTurn → TelemetryStore → Prop
  | start : EtaRun start [] start
  | turn {turns : List EtaTurn} {store : TelemetryStore} (prior : EtaRun start turns store)
      (operation : EtaOperation) (env : Nat → Decision × TelemetryDecision) :
      EtaRun start (⟨operation, env, store⟩ :: turns) (EtaTurn.after ⟨operation, env, store⟩)

/-- The payload is computed on the spot, or the shipment has not changed since. -/
def UpToDate (earlier : List EtaTurn) (serving : EtaTurn) (text : String)
    (payload : EtaPayload) : Prop :=
  serving.Computes text payload ∨ ∃ later computing older, earlier = later ++ computing :: older ∧
    computing.Computes text payload ∧
    ∀ turn ∈ later, ∀ id, ObjectId.cast? text = some id → ¬turn.Changes id

/-- No estimate that is served is older than the last change of its shipment. -/
def EtaCoherent (turns : List EtaTurn) : Prop :=
  ∀ later serving earlier, turns = later ++ serving :: earlier →
    ∀ text payload, serving.Serves text payload → UpToDate earlier serving text payload

end Runs

section Coherence

variable [Sha256] [Bcrypt] [EtaArithmetic] {store : TelemetryStore}

omit [Sha256] [Bcrypt] [EtaArithmetic] in
/-- A service of the backend that keeps the estimates in step, as an operation. -/
theorem backendOperation_etasKept {α : Type} {p : BackendM α}
    (h : p.wp StatusStep (fun _ after => EtasKept store.1 after) store.1) :
    ((fun _ => none : α → Option EtaPayload) <$> backendProgram p).wp EtaStep
      (fun _ after => EtasKept store.1 after.1) store := by
  rw [Program.wp_map]
  exact Program.wp.lift (W := backend) h fun _ _ hStep => hStep

/-- Every operation but the estimate keeps the estimates in step, if it disturbs none. -/
theorem EtaOperation.program_etasKept (operation : EtaOperation)
    (hEta : ∀ id, operation ≠ .eta id)
    (hLeaves : ∀ entry ∈ store.1.etaCache, ∀ id, ObjectId.cast? entry.1 = some id →
      ¬operation.Disturbs store entry.1 id) :
    operation.program.wp EtaStep (fun _ after => EtasKept store.1 after.1) store := by
  cases operation with
  | eta id => exact absurd rfl (hEta id)
  | updateStatus given status actor =>
      apply backendOperation_etasKept
      apply updateShipmentStatusService_etasKept
      intro hMove hActor entry hEntry hSame
      have ⟨id, _, hGiven, _⟩ := hMove
      by_contra hOther
      exact hLeaves entry hEntry id (hSame.symm.trans hGiven)
        ⟨hMove, hActor, hGiven, fun hEq => hOther hEq.symm⟩
  | bulkUpdateStatus shipmentIds status organizationId actor =>
      apply backendOperation_etasKept
      exact bulkUpdateShipmentStatusService_etasKept hLeaves
  | patch given offChainMetadata =>
      apply backendOperation_etasKept
      apply patchShipmentService_etasKept
      exact fun entry hEntry id hId hGiven hMoves => hLeaves entry hEntry id hId ⟨hGiven, hMoves⟩
  | delete given =>
      apply backendOperation_etasKept
      apply deleteShipmentService_etasKept
      intro entry hEntry id hId hGiven
      by_contra hLive
      exact hLeaves entry hEntry id hId ⟨hGiven, hLive⟩
  | ingest items =>
      refine (Program.wp_map _).mpr (bulkIngestTelemetry_etasKept items ?_ rfl (.refl _))
      intro target hTarget entry hEntry hId
      by_contra hOther
      exact hLeaves entry hEntry target.2 hId
        ⟨target, hTarget, rfl, fun hEq => hOther hEq.symm⟩
  | webhook header body =>
      refine (Program.wp_map _).mpr (iotWebhook_etasKept ?_)
      exact fun hKey id hBody entry hEntry hId => hLeaves entry hEntry id hId ⟨hKey, hBody⟩

namespace EtaTurn

variable {turn : EtaTurn} {text : String} {payload : EtaPayload}

/-- A step that writes an estimate is one of those that are computed. -/
theorem not_written (h : ¬turn.Computes text payload) {step : Step telemetryWorld}
    (hStep : step ∈ turn.steps) : step.request ≠ .inl (.writeShipmentEtaCache text payload) :=
  fun hRequest => h (mem_writtenEstimates hStep hRequest)

/-- A payload that is served without being computed was cached. -/
theorem cached_of_serves (hServes : turn.Serves text payload)
    (hNew : ¬turn.Computes text payload) : (text, payload) ∈ turn.before.1.etaCache := by
  obtain ⟨operation, env, before⟩ := turn
  obtain ⟨rfl, hOutcome⟩ := hServes
  have hService : (getShipmentEtaService text).wp
      (fun step : Step backend => step.request ≠ .writeShipmentEtaCache text payload)
      (fun outcome _ => outcome = .ok payload → (text, payload) ∈ before.1.etaCache) before.1 :=
    getShipmentEtaService_served
  have hWp : (EtaOperation.program (.eta text)).wp
      (fun step : Step telemetryWorld =>
        step.request ≠ .inl (.writeShipmentEtaCache text payload))
      (fun outcome _ => outcome = .ok (some payload) → (text, payload) ∈ before.1.etaCache)
      before := by
    refine (Program.wp_map _).mpr (Program.wp.lift (W := backend)
      (hService.mono ?_) ?_)
    · intro outcome after hServed hSame
      cases outcome with
      | error error => cases hSame
      | ok found => exact hServed (congrArg _ (Option.some.inj (Except.ok.inj hSame)))
    · exact fun step _ hStep hRequest => hStep (congrArg Sum.inl hRequest)
  exact hWp.run env (fun step hStep => not_written hNew hStep) hOutcome

/-- An entry that an estimate leaves without computing it was there, and its inputs are
what they were. -/
theorem kept_of_eta (hOperation : turn.operation = .eta text) {entry : String × EtaPayload}
    (hEntry : entry ∈ turn.after.1.etaCache) (hNew : ¬turn.Computes entry.1 entry.2) :
    entry ∈ turn.before.1.etaCache ∧ ∀ id, ¬turn.Changes id := by
  obtain ⟨operation, env, before⟩ := turn
  obtain rfl := hOperation
  have hWp : (EtaOperation.program (.eta text)).wp
      (fun step : Step telemetryWorld =>
        step.request ≠ .inl (.writeShipmentEtaCache entry.1 entry.2))
      (fun _ after => (entry ∈ after.1.etaCache → entry ∈ before.1.etaCache) ∧
        ∀ id, after.1.etaInputs id = before.1.etaInputs id) before := by
    refine (Program.wp_map _).mpr (Program.wp.lift (W := backend)
      ((etaCache_wp entry).and getShipmentEtaService_inputs) ?_)
    exact fun step _ hStep hRequest => hStep (congrArg Sum.inl hRequest)
  obtain ⟨hCache, hInputs⟩ := hWp.run env fun step hStep => not_written hNew hStep
  exact ⟨hCache hEntry, fun id hChanges => hChanges (hInputs id)⟩

/-- The operation, as a cache in front of a source sees it. -/
def toTurn (turn : EtaTurn) : ReadThrough.Turn String
    (Option (Option (ShipmentStatus × Option Coordinates) × List TelemetryRow)) EtaPayload where
  before text := (ObjectId.cast? text).map turn.before.1.etaInputs
  after text := (ObjectId.cast? text).map turn.after.1.etaInputs
  computed := turn.Computes
  served := turn.Serves
  holds text payload := (text, payload) ∈ turn.after.1.etaCache

theorem changes_toTurn : turn.toTurn.Changes text ↔
    ∃ id, ObjectId.cast? text = some id ∧ turn.Changes id := by
  unfold ReadThrough.Turn.Changes
  simp only [toTurn]
  cases hId : ObjectId.cast? text with
  | none => simp
  | some id => simp [Changes]

/-- An operation that leaves no estimate of what it changes is sound. -/
theorem Undisturbing.sound (h : turn.Undisturbing)
    (hRedis : ∀ step ∈ turn.steps, RedisAvailable step) :
    turn.toTurn.Sound fun text payload => (text, payload) ∈ turn.before.1.etaCache where
  served text payload hServes := by
    by_cases hNew : turn.Computes text payload
    · exact .inl hNew
    · exact .inr (cached_of_serves hServes hNew)
  kept text payload hEntry := by
    by_cases hNew : turn.Computes text payload
    · exact .inl hNew
    · right
      rw [changes_toTurn]
      by_cases hEta : ∃ id, turn.operation = .eta id
      · obtain ⟨id, hOperation⟩ := hEta
        obtain ⟨hOld, hSame⟩ := kept_of_eta hOperation hEntry hNew
        exact ⟨hOld, fun ⟨id, _, hChanges⟩ => hSame id hChanges⟩
      · have hKept : EtasKept turn.before.1 turn.after.1 :=
          (turn.operation.program_etasKept (fun id hEq => hEta ⟨id, hEq⟩) h.leaves).run turn.env
            fun step hStep => ⟨hRedis step hStep, h.answered step hStep⟩
        exact ⟨hKept.entries _ hEntry, fun ⟨id, hId, hChanges⟩ =>
          hChanges (hKept.inputs _ hEntry id hId)⟩

end EtaTurn

/-- What the cache holds after a run from an empty cache. -/
theorem EtaRun.held_iff {start : TelemetryStore} {turns : List EtaTurn}
    (run : EtaRun start turns store) (hEmpty : start.1.etaCache = []) (text : String)
    (payload : EtaPayload) :
    ReadThrough.held (turns.map EtaTurn.toTurn) text payload ↔
      (text, payload) ∈ store.1.etaCache := by
  cases run with
  | start => simp [ReadThrough.held, hEmpty]
  | turn prior operation env => rfl

/-- A run of undisturbing operations is a sound history of the cache. -/
theorem EtaRun.soundHistory {start : TelemetryStore} {turns : List EtaTurn}
    (run : EtaRun start turns store) (hEmpty : start.1.etaCache = [])
    (hRedis : ∀ turn ∈ turns, ∀ step ∈ turn.steps, RedisAvailable step)
    (hTurns : ∀ turn ∈ turns, turn.Undisturbing) :
    ReadThrough.SoundHistory (turns.map EtaTurn.toTurn) := by
  induction run with
  | start => trivial
  | turn prior operation env ih =>
      have hHeld := funext fun text => funext fun payload =>
        propext (prior.held_iff hEmpty text payload)
      constructor
      · rw [hHeld]
        exact (hTurns _ List.mem_cons_self).sound (hRedis _ List.mem_cons_self)
      · exact ih (fun turn hTurn => hRedis turn (List.mem_cons_of_mem _ hTurn))
          fun turn hTurn => hTurns turn (List.mem_cons_of_mem _ hTurn)

/-- While Redis is available and no operation leaves the estimate of a shipment that it
changes in the cache, no estimate is served that was computed before the last change. -/
theorem eta_coherent_of_undisturbed {start : TelemetryStore} {turns : List EtaTurn}
    (run : EtaRun start turns store) (hEmpty : start.1.etaCache = [])
    (hRedis : ∀ turn ∈ turns, ∀ step ∈ turn.steps, RedisAvailable step)
    (hTurns : ∀ turn ∈ turns, turn.Undisturbing) : EtaCoherent turns := by
  intro later serving earlier hSplit text payload hServes
  have hHistory := run.soundHistory hEmpty hRedis hTurns
  rw [hSplit, List.map_append, List.map_cons] at hHistory
  rcases hHistory.served hServes with hComputed | hCurrent
  · exact .inl hComputed
  · right
    obtain ⟨later', computing, older, hEarlier, hComputed, hSame⟩ := hCurrent
    obtain ⟨between, rest, rfl, hBetween, hRest⟩ := List.map_eq_append_iff.mp hEarlier
    obtain ⟨source, old, rfl, rfl, -⟩ := List.map_eq_cons_iff.mp hRest
    refine ⟨between, source, old, rfl, hComputed, fun turn hTurn id hId hChanges => ?_⟩
    apply hSame turn.toTurn
    · rw [← hBetween]
      exact List.mem_map_of_mem hTurn
    · exact EtaTurn.changes_toTurn.mpr ⟨id, hId, hChanges⟩

end Coherence

section Sample

/-- The samples compute no estimate of a shipment in transit. -/
@[reducible] def blankEta : EtaArithmetic :=
  ⟨fun _ _ _ _ => .unavailable ""⟩

/-- An operation while every service is up. -/
def quietTurn (operation : EtaOperation) (before : TelemetryStore) : EtaTurn :=
  ⟨operation, fun _ => ({}, {}), before⟩

theorem quietTurn_decision [Sha256] [Bcrypt] [EtaArithmetic] {operation : EtaOperation}
    {before : TelemetryStore} {step : Step telemetryWorld}
    (hStep : step ∈ (quietTurn operation before).steps) : step.decision = (({}, {}) : _ × _) := by
  obtain ⟨_, hDecision⟩ := Program.exists_decision_of_mem_steps hStep
  exact hDecision

theorem quietTurn_available [Sha256] [Bcrypt] [EtaArithmetic] {operation : EtaOperation}
    {before : TelemetryStore} {step : Step telemetryWorld}
    (hStep : step ∈ (quietTurn operation before).steps) : RedisAvailable step := by
  have hDecision := quietTurn_decision hStep
  unfold RedisAvailable
  split
  · unfold CacheAvailable
    rw [hDecision]
    split <;> trivial
  · trivial

theorem quietTurn_answered [Sha256] [Bcrypt] [EtaArithmetic] {operation : EtaOperation}
    {before : TelemetryStore} {step : Step telemetryWorld}
    (hStep : step ∈ (quietTurn operation before).steps) : ChangeAnswered step := by
  have hDecision := quietTurn_decision hStep
  unfold ChangeAnswered
  split
  · unfold SaveAnswered
    rw [hDecision]
    split
    · rintro ⟨error, hFault⟩
      cases hFault
    · trivial
  · rw [hDecision]
    rintro ⟨error, hFault⟩
    cases hFault
  · trivial

/-- The store after a sample operation. -/
abbrev sampleAfter (turn : EtaTurn) : TelemetryStore :=
  @EtaTurn.after blankSha256 plainBcrypt blankEta turn

/-- The estimate of a shipment that has not left yet. -/
def sampleEta : EtaTurn :=
  quietTurn (.eta sampleShipment.id.toString) (sampleBulkStore, {})

/-- The shipment leaves, by a single update. -/
def sampleDeparture : EtaTurn :=
  quietTurn (.updateStatus sampleShipment.id.toString .inTransit none) (sampleAfter sampleEta)

theorem eta_coherent_sample :
    @EtaCoherent blankSha256 plainBcrypt blankEta [sampleDeparture, sampleEta] := by
  let _ := blankSha256
  let _ := plainBcrypt
  let _ := blankEta
  refine @eta_coherent_of_undisturbed blankSha256 plainBcrypt blankEta _ (sampleBulkStore, {}) _
    (.turn (.turn .start _ _) _ _) rfl ?_ ?_
  · intro turn hTurn step hStep
    rcases List.mem_cons.mp hTurn with rfl | hFirst
    · exact @quietTurn_available blankSha256 plainBcrypt blankEta _ _ _ hStep
    · obtain rfl := List.mem_singleton.mp hFirst
      exact @quietTurn_available blankSha256 plainBcrypt blankEta _ _ _ hStep
  · intro turn hTurn
    rcases List.mem_cons.mp hTurn with rfl | hFirst
    · refine @EtaTurn.Undisturbing.mk blankSha256 plainBcrypt blankEta _ ?_ fun step hStep =>
        @quietTurn_answered blankSha256 plainBcrypt blankEta _ _ _ hStep
      rintro entry hEntry id - ⟨-, -, -, hOther⟩
      have hCached : ∀ entry ∈ (sampleAfter sampleEta).1.etaCache,
          entry.1 = sampleShipment.id.toString := by decide +kernel
      exact hOther (hCached entry hEntry).symm
    · obtain rfl := List.mem_singleton.mp hFirst
      exact @EtaTurn.Undisturbing.mk blankSha256 plainBcrypt blankEta _
        (fun _ _ _ _ hDisturbs => hDisturbs) fun step hStep =>
          @quietTurn_answered blankSha256 plainBcrypt blankEta _ _ _ hStep

/-- The shipment leaves, by a bulk update. -/
def sampleBulkDeparture : EtaTurn :=
  quietTurn (.bulkUpdateStatus [sampleShipment.id.toString] .inTransit
    sampleShipment.enterpriseId.toString none) (sampleAfter sampleEta)

/-- The estimate is asked for again. -/
def sampleStaleEta : EtaTurn :=
  quietTurn (.eta sampleShipment.id.toString) (sampleAfter sampleBulkDeparture)

def sampleUnavailable : EtaPayload :=
  .unavailable "ETA is available only for IN_TRANSIT shipments"

/-- A shipment that a bulk update has put in transit is still said not to be. -/
theorem stale_eta_is_served : ¬∀ (_ : Sha256) (_ : Bcrypt) (_ : EtaArithmetic)
    (start store : TelemetryStore) (turns : List EtaTurn), EtaRun start turns store →
    start.1.etaCache = [] → (∀ turn ∈ turns, ∀ step ∈ turn.steps, RedisAvailable step) →
    EtaCoherent turns := by
  intro hClaim
  let _ := blankSha256
  let _ := plainBcrypt
  let _ := blankEta
  have hCoherent := hClaim blankSha256 plainBcrypt blankEta (sampleBulkStore, {}) _
    [sampleStaleEta, sampleBulkDeparture, sampleEta] (.turn (.turn (.turn .start _ _) _ _) _ _) rfl
    (fun turn hTurn step hStep => ?_)
  · have hServed : @EtaTurn.Serves blankSha256 plainBcrypt blankEta sampleStaleEta
        sampleShipment.id.toString sampleUnavailable := ⟨rfl, by with_unfolding_all rfl⟩
    have hChanged : @EtaTurn.Changes blankSha256 plainBcrypt blankEta sampleBulkDeparture
        sampleShipment.id := by
      intro hSame
      have hStatus := congrArg (fun inputs => inputs.1.map (·.1)) hSame
      revert hStatus
      decide +kernel
    have hStale : writtenEstimates
        (@EtaTurn.steps blankSha256 plainBcrypt blankEta sampleStaleEta) = [] := by
      decide +kernel
    have hBulk : writtenEstimates
        (@EtaTurn.steps blankSha256 plainBcrypt blankEta sampleBulkDeparture) = [] := by
      decide +kernel
    rcases hCoherent [] _ _ rfl _ _ hServed with hComputed | hEarlier
    · unfold EtaTurn.Computes at hComputed
      rw [hStale] at hComputed
      cases hComputed
    · obtain ⟨later, computing, older, hSplit, hComputed, hSame⟩ := hEarlier
      cases later with
      | nil =>
          obtain ⟨rfl, -⟩ := List.cons.inj hSplit
          unfold EtaTurn.Computes at hComputed
          rw [hBulk] at hComputed
          cases hComputed
      | cons first rest =>
          obtain ⟨rfl, -⟩ := List.cons.inj hSplit
          exact hSame _ List.mem_cons_self _ (ObjectId.cast?_toString _) hChanged
  · rcases List.mem_cons.mp hTurn with rfl | hTurn
    · exact @quietTurn_available blankSha256 plainBcrypt blankEta _ _ _ hStep
    · rcases List.mem_cons.mp hTurn with rfl | hTurn
      · exact @quietTurn_available blankSha256 plainBcrypt blankEta _ _ _ hStep
      · obtain rfl := List.mem_singleton.mp hTurn
        exact @quietTurn_available blankSha256 plainBcrypt blankEta _ _ _ hStep

end Sample

end Navin
