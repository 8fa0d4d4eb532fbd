import Navin.Backend.Effects
import Navin.Telemetry.Interface

/-! What the calls do to a stored telemetry record. -/
namespace Navin

open Async

/-- An update, on the record as a whole. -/
def TelemetryUpdate.apply (update : TelemetryUpdate) (telemetry : Telemetry) : Telemetry :=
  { update.applyRow telemetry.toTelemetryRow, update.applyReading telemetry.toReading with }

namespace TelemetryStore

variable {store : TelemetryStore} {id other : ObjectId}

theorem lookup_map_reading (f : Reading → Reading) (readings : List (ObjectId × Reading)) :
    (readings.map fun entry => if entry.1 = other then (entry.1, f entry.2) else entry).lookup id =
      (readings.lookup id).map fun reading => if id = other then f reading else reading := by
  induction readings with
  | nil => rfl
  | cons entry rest ih =>
      obtain ⟨key, reading⟩ := entry
      by_cases hKey : id = key
      · subst hKey
        by_cases hOther : id = other <;> simp [hOther]
      · have hSkip : (id == key) = false := by simpa using hKey
        by_cases hOther : key = other
        · simpa [hOther, List.lookup_cons, hOther ▸ hSkip] using ih
        · simpa [hOther, List.lookup_cons, hSkip] using ih

theorem find?_map_row (f : TelemetryRow → TelemetryRow) (hId : ∀ row, (f row).id = row.id)
    (rows : List TelemetryRow) :
    (rows.map fun row => if row.id = other then f row else row).find? (fun row => row.id = id) =
      (rows.find? fun row => row.id = id).map fun row => if id = other then f row else row := by
  induction rows with
  | nil => rfl
  | cons row rest ih =>
      have hSame : (if row.id = other then f row else row).id = row.id := by
        split_ifs
        · exact hId row
        · rfl
      by_cases hRow : row.id = id
      · rw [List.map_cons, List.find?_cons_of_pos (by simpa [hSame] using hRow),
          List.find?_cons_of_pos (by simpa using hRow), Option.map_some, hRow]
      · rw [List.map_cons, List.find?_cons_of_neg (by simpa [hSame] using hRow),
          List.find?_cons_of_neg (by simpa using hRow), ih]

/-- An update rewrites the record it names and no other. -/
theorem telemetryRecord_updateTelemetry (update : TelemetryUpdate) :
    (store.updateTelemetry other update).telemetryRecord id =
      (store.telemetryRecord id).map fun telemetry =>
        if id = other then update.apply telemetry else telemetry := by
  simp only [telemetryRecord, updateTelemetry, lookup_map_reading]
  rw [find?_map_row update.applyRow update.applyRow_id]
  cases store.1.telemetry.find? fun row => row.id = id with
  | none => rfl
  | some row =>
      cases store.2.readings.lookup id with
      | none => rfl
      | some reading => by_cases hOther : id = other <;> simp [hOther, TelemetryUpdate.apply]

/-- A record is read off the rows and the readings. -/
theorem telemetryRecord_congr {store' : TelemetryStore}
    (hRows : store'.1.telemetry = store.1.telemetry)
    (hReadings : store'.2.readings = store.2.readings) :
    store'.telemetryRecord id = store.telemetryRecord id := by
  rw [telemetryRecord, telemetryRecord, hRows, hReadings]

end TelemetryStore

/-- The calls that write telemetry rows. -/
def BackendCall.writesTelemetry : BackendCall → Bool
  | .telemetryDelete _ _ => true
  | _ => false

theorem execute_telemetry {decision : Decision} {store : Store} {call : BackendCall}
    (h : call.writesTelemetry = false) :
    (execute decision store call).1.telemetry = store.telemetry := by
  cases call <;> simp only [BackendCall.writesTelemetry, Bool.true_eq_false] at h <;>
    simp only [execute, castingId, Store.submit] <;> repeat' split
  all_goals rfl

theorem perform_telemetry {decision : Decision} {store : Store} {call : BackendCall}
    (h : call.writesTelemetry = false) :
    (perform decision store call).1.telemetry = store.telemetry := by
  rcases perform_store decision store call with hStore | hStore
  · rw [hStore]
  · rw [hStore, execute_telemetry h]

/-- The calls that write anomalies. -/
def BackendCall.writesAnomalies : BackendCall → Bool
  | .anomalyDelete _ _ => true
  | _ => false

theorem perform_anomalies {decision : Decision} {store : Store} {call : BackendCall}
    (h : call.writesAnomalies = false) :
    (perform decision store call).1.anomalies = store.anomalies := by
  rcases perform_store decision store call with hStore | hStore
  · rw [hStore]
  · rw [hStore]
    cases call <;> simp only [BackendCall.writesAnomalies, Bool.true_eq_false] at h <;>
      simp only [execute, castingId, Store.submit] <;> repeat' split
    all_goals rfl

/-- The telemetry calls leave the shipments alone. -/
theorem performTelemetry_shipments {decision : TelemetryDecision} {store : TelemetryStore}
    (request : TelemetryCall) :
    (performTelemetry decision store request).1.1.shipments = store.1.shipments := by
  rcases performTelemetry_cases decision store request with hKept | hDone
  · rw [hKept]
  · rw [hDone]
    cases request <;> simp only [executeTelemetry, castingId] <;> repeat' split
    all_goals rfl

end Navin
