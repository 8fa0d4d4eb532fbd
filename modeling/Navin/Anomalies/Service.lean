import Navin.Analytics.Summary
import Navin.Semantics.Expiring
import Navin.Semantics.OwnedDocuments
import Navin.Shared.Faults
import Navin.Telemetry.AnomalyDetection

/-! Stored anomalies. Telemetry raises them, managers resolve them, the deletion of their shipment
hides them, and maintenance removes them in the end. A dashboard counts them behind a cache. -/
namespace Navin.Anomalies

open Aggregation (Document matching group count facet run)
open Async Program

def STATS_CACHE_TTL : Nat := 300

def RETENTION_DAYS : Int := 90

/-- An anomaly with what the services write of it. -/
structure Anomaly extends AnomalyRow where
  resolvedAt : Option Date
  resolvedBy : Option String
  resolutionNote : Option String
  createdAt : Date
  updatedAt : Date
deriving DecidableEq

section Stats

/-- An anomaly as it is stored, in the fields that the pipeline reads. There is no field for an
organisation. -/
def Anomaly.stored (anomaly : Anomaly) : Document
  | "_id" => some (.scalar (.id anomaly.id.toString))
  | "type" => some (.string anomaly.type)
  | "severity" => some (.string anomaly.severity)
  | "resolved" => some (.bool anomaly.resolved)
  | "deletedAt" => some (storedDate anomaly.deletedAt)
  | _ => none

/-- No organisation and an empty one are not asked for. -/
def organizationConditions : Option String → List Aggregation.Condition
  | none => []
  | some organizationId =>
      if organizationId = "" then [] else [⟨"organizationId", .eq, .string organizationId⟩]

/-- `{ $match: { resolved } }`. -/
def resolvedStage (resolved : Bool) : Aggregation.Stage :=
  matching [⟨"resolved", .eq, .bool resolved⟩]

/-- `{ $group: { _id: field, count: { $sum: 1 } } }`. -/
def countedBy (field : String) : Aggregation.Stage :=
  group (.field field) [("count", .sum (.const (.number 1)))]

def statsPipeline (organizationId : Option String) : List Aggregation.Stage :=
  [softDeleteStage,
    matching (⟨"deletedAt", .eq, .null⟩ :: organizationConditions organizationId),
    facet [("totalActive", [resolvedStage false, count "count"]),
      ("totalAll", [count "count"]),
      ("resolved", [resolvedStage true, count "count"]),
      ("bySeverity", [resolvedStage false, countedBy "severity"]),
      ("byType", [resolvedStage false, countedBy "type"])]]

/-- A `Record<string, number>`, with its keys as they were first set. -/
abbrev Counts : Type :=
  List (String × ℚ)

/-- `counts[key] = value`. -/
def Counts.assign (counts : Counts) (key : String) (value : ℚ) : Counts :=
  if key ∈ counts.map Prod.fst then
    counts.map fun entry => if entry.1 = key then (key, value) else entry
  else counts ++ [(key, value)]

structure AnomalyStats where
  totalActive : ℚ
  bySeverity : Counts
  byType : Counts
  resolutionRate : ℚ

/-- What a branch that ends in `$count` has counted. -/
def branchCount (result : Document) (branch : String) : ℚ :=
  ((facetRows result branch).head?.map (numberField · "count")).getD 0

/-- `counts[entry._id] = entry.count`, for every entry of a branch. -/
def assignCounts (counts : Counts) (entries : List Document) : Counts :=
  entries.foldl (fun counts entry =>
    counts.assign (((entry "_id").bind Aggregation.Value.string?).getD "null")
      (numberField entry "count")) counts

/-- The stats that an answer of the pipeline comes to. -/
def statsOf (result : Document) : AnomalyStats :=
  let totalAll := branchCount result "totalAll"
  let resolvedCount := branchCount result "resolved"
  { totalActive := branchCount result "totalActive"
    bySeverity := assignCounts [("CRITICAL", 0), ("HIGH", 0), ("MEDIUM", 0), ("LOW", 0)]
      (facetRows result "bySeverity")
    byType := assignCounts [] (facetRows result "byType")
    resolutionRate := if 0 < totalAll then mathRound (resolvedCount / totalAll * 100) / 100 else 0 }

end Stats

section Zone

/-- The time zone of the server: how far local time is ahead at an instant, and how far ahead a
local time is taken to be. -/
class ServerZone where
  offsetAt : Int → Int
  offsetOf : Int → Int
  spread : Nat
  offset_bounded : ∀ instant localTime, |offsetAt instant - offsetOf localTime| ≤ spread

variable [ServerZone]

/-- `date.setDate(date.getDate() - days)`, which counts days of the local calendar. -/
def daysBefore (date : Date) (days : Int) : Date :=
  let localTime := date.ms + ServerZone.offsetAt date.ms - days * 86400000
  ⟨localTime - ServerZone.offsetOf localTime⟩

/-- Days of the local calendar are as long as any others, but for a change of the offset. -/
theorem daysBefore_le (date : Date) (days : Int) :
    (daysBefore date days).ms + days * 86400000 ≤ date.ms + ServerZone.spread := by
  have hOffset := ServerZone.offset_bounded date.ms
    (date.ms + ServerZone.offsetAt date.ms - days * 86400000)
  rw [abs_le] at hOffset
  simp only [daysBefore]
  omega

end Zone

/-- The update of `resolveAnomalyService`. No note is no change of the note. -/
structure Resolution where
  resolvedAt : Date
  resolvedBy : String
  resolutionNote : Option String
deriving DecidableEq

def Resolution.apply (update : Resolution) (now : Date) (anomaly : Anomaly) : Anomaly :=
  { anomaly with
    resolved := true
    resolvedAt := some update.resolvedAt
    resolvedBy := some update.resolvedBy
    resolutionNote := update.resolutionNote.or anomaly.resolutionNote
    updatedAt := now }

def Anomaly.delete (deletedAt now : Date) (anomaly : Anomaly) : Anomaly :=
  { anomaly with deletedAt := some deletedAt, updatedAt := now }

theorem apply_id (update : Resolution) (now : Date) (anomaly : Anomaly) :
    (update.apply now anomaly).id = anomaly.id := rfl

theorem delete_id (deletedAt now : Date) (anomaly : Anomaly) :
    (anomaly.delete deletedAt now).id = anomaly.id := rfl

/-- `{ resolved: true, updatedAt: { $lt: cutoffDate } }`. -/
def Anomaly.outdated (cutoffDate : Date) (anomaly : Anomaly) : Bool :=
  anomaly.resolved && anomaly.updatedAt.ms < cutoffDate.ms

structure AnomalyStore where
  clock : Int
  anomalies : Collection fun anomaly : Anomaly => anomaly.id
  values : String → Option (Expiring AnomalyStats) := fun _ => none

/-- A write takes the time its timestamps are set to, which is read before it is sent. -/
inductive AnomalyCall where
  | currentDate
  | resolveTelemetryThresholdsForShipment (shipmentId : String)
  | create (anomaly : EvaluatedAnomaly) (now : Date)
  | auditLog (entry : AuditEntry)
  | findByIdAndUpdate (id : String) (update : Resolution) (now : Date)
  | updateMany (shipmentId : String) (deletedAt now : Date)
  | deleteMany (cutoffDate : Date)
  | getRedisClient
  | get (key : String)
  | set (key : String) (stats : AnomalyStats) (seconds : Nat)
  | aggregate (organizationId : Option String)

@[reducible] def AnomalyCall.Answer : AnomalyCall → Type
  | .currentDate => Date
  | .resolveTelemetryThresholdsForShipment _ => TelemetryThresholds
  | .create _ _ => Anomaly
  | .auditLog _ | .updateMany _ _ _ | .getRedisClient | .set _ _ _ => Unit
  | .findByIdAndUpdate _ _ _ => Option Anomaly
  | .deleteMany _ => Nat
  | .get _ => Option AnomalyStats
  | .aggregate _ => Document

abbrev AnomalyM : Type → Type :=
  Program AnomalyCall AnomalyCall.Answer ThrownError

abbrev ask (call : AnomalyCall) : AnomalyM call.Answer :=
  Program.await call

section Services

structure TelemetryData where
  shipmentId : String
  temperature : JsNumber
  humidity : JsNumber
  batteryLevel : JsNumber
  timestamp : Option Date

/-- `data.timestamp ?? new Date()`. -/
def TelemetryData.time (data : TelemetryData) : AnomalyM Date :=
  match data.timestamp with
  | some timestamp => return timestamp
  | none => ask .currentDate

/-- Every document is tried, also after one that fails. -/
def saveAll : List EvaluatedAnomaly → AnomalyM (List (Except ThrownError Anomaly))
  | [] => return []
  | anomaly :: rest => do
      let now ← ask .currentDate
      let saved ← tryCatch (Except.ok <$> ask (.create anomaly now)) fun error =>
        return .error error
      let others ← saveAll rest
      return saved :: others

/-- `Anomaly.create`, which throws the first error. -/
def createAnomalies (evaluated : List EvaluatedAnomaly) : AnomalyM (List Anomaly) := do
  let saved ← saveAll evaluated
  match (saved.mapM id : Except ThrownError (List Anomaly)) with
  | .ok docs => return docs
  | .error error => throw error

def detectAnomaly (data : TelemetryData) : AnomalyM AnomalyResult := do
  let timestamp ← data.time
  let thresholds ← ask (.resolveTelemetryThresholdsForShipment data.shipmentId)
  let evaluated := evaluateTelemetry
    { shipmentId := data.shipmentId, timestamp, temperature := some data.temperature,
      humidity := some data.humidity, batteryLevel := some data.batteryLevel } thresholds
  if evaluated = [] then return { detected := false, anomalies := [] }
  else
    let docs ← createAnomalies evaluated
    docs.forM fun doc => ask (.auditLog doc.audit)
    return { detected := true, anomalies := docs.map (·.payload) }

def resolveAnomalyService (id resolvedBy : String) (note : Option String) : AnomalyM Anomaly := do
  let resolvedAt ← ask .currentDate
  let now ← ask .currentDate
  let anomaly ← ask (.findByIdAndUpdate id ⟨resolvedAt, resolvedBy, note⟩ now)
  match anomaly with
  | none => throw (appError 404 "Anomaly not found" "ERR_NOT_FOUND")
  | some anomaly => return anomaly

def statsCacheKey (organizationId : Option String) : String :=
  "anomaly:stats:" ++ organizationId.getD "global"

/-- Whether there is a client to write with, and what is cached. A client that could not read
may still write. -/
def readStatsCache (key : String) : AnomalyM (Bool × Option AnomalyStats) :=
  tryCatch
    (do ask .getRedisClient
        tryCatch (do return (true, ← ask (.get key))) fun _ => return (true, none))
    fun _ => return (false, none)

def writeStatsCache (client : Bool) (key : String) (stats : AnomalyStats) : AnomalyM Unit :=
  if client then tryCatch (ask (.set key stats STATS_CACHE_TTL)) fun _ => return ()
  else return ()

def getAnomalyStatsService (organizationId : Option String) : AnomalyM AnomalyStats := do
  let (client, cached) ← readStatsCache (statsCacheKey organizationId)
  match cached with
  | some cached => return cached
  | none =>
      let result ← ask (.aggregate organizationId)
      let stats := statsOf result
      writeStatsCache client (statsCacheKey organizationId) stats
      return stats

/-- What the deletion of a shipment does to its anomalies. -/
def deleteShipmentAnomalies (shipmentId : String) : AnomalyM Unit := do
  let deletedAt ← ask .currentDate
  let now ← ask .currentDate
  ask (.updateMany shipmentId deletedAt now)

structure MaintenanceJobData where
  jobType : String
  retentionDays : Option Int := none

def MaintenanceJobData.days (job : MaintenanceJobData) : Int :=
  job.retentionDays.getD RETENTION_DAYS

variable [ServerZone]

def cleanupResolvedAnomalies (retentionDays : Int) : AnomalyM Unit := do
  let now ← ask .currentDate
  let _ ← ask (.deleteMany (daysBefore now retentionDays))

def processMaintenance (job : MaintenanceJobData) : AnomalyM Unit :=
  if job.jobType = "cleanup_resolved_anomalies" then cleanupResolvedAnomalies job.days
  else throw .unavailable

end Services

/-- What the world decides at a call. -/
structure AnomalyDecision where
  freshId : ObjectId
  elapsed : Nat := 0
  thresholds : TelemetryThresholds := {}
  fault : Option Fault := none

/-- A process reads its clock without fail, and an audit entry is not waited for. -/
def AnomalyDecision.faultOf (decision : AnomalyDecision) : AnomalyCall → Option Fault
  | .currentDate | .auditLog _ => none
  | _ => decision.fault

def AnomalyStore.wait (store : AnomalyStore) (ms : Nat) : AnomalyStore :=
  { store with clock := store.clock + ms }

/-- The document that `Anomaly.create` saves. -/
def createdAnomaly (id shipmentId : ObjectId) (anomaly : EvaluatedAnomaly) (now : Date) : Anomaly where
  id := id
  shipmentId := shipmentId
  type := anomaly.type.name
  severity := anomaly.severity
  message := anomaly.message
  timestamp := anomaly.timestamp
  resolved := false
  deletedAt := none
  resolvedAt := none
  resolvedBy := none
  resolutionNote := none
  createdAt := now
  updatedAt := now

/-- The documents of a shipment, deleted or not: no hook covers `updateMany`. -/
def Anomaly.isOf (shipmentId : ObjectId) (anomaly : Anomaly) : Bool :=
  anomaly.shipmentId = shipmentId

/-- A call that goes through. The hook of the schema keeps `findByIdAndUpdate` from the deleted
documents, and `deleteMany` takes them as the others. -/
def execute (decision : AnomalyDecision) (store : AnomalyStore) :
    (call : AnomalyCall) → AnomalyStore × Except ThrownError call.Answer
  | .currentDate => (store, .ok ⟨store.clock⟩)
  | .resolveTelemetryThresholdsForShipment _ => (store, .ok decision.thresholds)
  | .create anomaly now =>
      castingId store anomaly.shipmentId fun shipmentId =>
        let doc := createdAnomaly decision.freshId shipmentId anomaly now
        if h : store.anomalies.get? doc.id = none then
          ({ store with anomalies := store.anomalies.insert doc h }, .ok doc)
        else (store, .error .duplicateKey)
  | .auditLog _ => (store, .ok ())
  | .findByIdAndUpdate id update now =>
      castingId store id fun id =>
        match (store.anomalies.get? id).filter (·.deletedAt.isNone) with
        | none => (store, .ok none)
        | some anomaly =>
            let anomalies := store.anomalies.modify id (update.apply now) (apply_id update now)
            ({ store with anomalies }, .ok (some (update.apply now anomaly)))
  | .updateMany shipmentId deletedAt now =>
      castingId store shipmentId fun shipmentId =>
        let anomalies := store.anomalies.modifyAll (Anomaly.isOf shipmentId)
          (Anomaly.delete deletedAt now) (delete_id deletedAt now)
        ({ store with anomalies }, .ok ())
  | .deleteMany cutoffDate =>
      let anomalies := store.anomalies.filter fun anomaly => !anomaly.outdated cutoffDate
      ({ store with anomalies }, .ok (store.anomalies.docs.countP (Anomaly.outdated cutoffDate)))
  | .getRedisClient => (store, .ok ())
  | .get key => (store, .ok (found store.clock (store.values key)))
  | .set key stats seconds =>
      let values :=
        Function.update store.values key (some ⟨stats, store.clock + (seconds * 1000 : Nat)⟩)
      ({ store with values }, .ok ())
  | .aggregate organizationId =>
      match run (statsPipeline organizationId) (store.anomalies.docs.map Anomaly.stored) with
      | some (result :: _) => (store, .ok result)
      | _ => (store, .error .unavailable)

abbrev anomalies : World AnomalyCall AnomalyCall.Answer ThrownError where
  Store := AnomalyStore
  Env := AnomalyDecision
  perform decision store call :=
    let store := store.wait decision.elapsed
    faultedBy (decision.faultOf call) store (execute decision store call)

/-- The requests and jobs that touch anomalies. -/
inductive AnomalyRequest where
  | detect (data : TelemetryData)
  | resolve (id resolvedBy : String) (note : Option String)
  | stats (organizationId : Option String)
  | deleteShipment (shipmentId : String)
  | maintenance (job : MaintenanceJobData)

inductive AnomalyReply where
  | detected (result : AnomalyResult)
  | resolved (anomaly : Anomaly)
  | stats (stats : AnomalyStats)
  | done

def AnomalyRequest.program [ServerZone] : AnomalyRequest → AnomalyM AnomalyReply
  | .detect data => .detected <$> detectAnomaly data
  | .resolve id resolvedBy note => .resolved <$> resolveAnomalyService id resolvedBy note
  | .stats organizationId => .stats <$> getAnomalyStatsService organizationId
  | .deleteShipment shipmentId => do
      deleteShipmentAnomalies shipmentId
      return .done
  | .maintenance job => do
      processMaintenance job
      return .done

/-- Any number of requests and jobs, none of which has begun. -/
def anomalyPool [ServerZone] {ι : Type} (store : AnomalyStore) (requests : ι → AnomalyRequest) :
    Pool anomalies ι AnomalyReply :=
  ⟨store, fun i => (requests i).program⟩

end Navin.Anomalies
