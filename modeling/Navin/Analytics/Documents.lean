import Navin.Backend.Documents
import Navin.Shared.Pipelines

/-! The stored documents that the analytics aggregate, in the fields that they read, and
the time of delivery that both pipelines compute. -/
namespace Navin

open Aggregation (Document Expr)

/-- A shipment as it is stored: where nothing is expected, the field holds null or is not
there at all. -/
structure StoredShipment extends Shipment where
  expectsNull : Bool

namespace StoredShipment

def storedExpectedDelivery (shipment : StoredShipment) : Option Aggregation.Value :=
  match shipment.expectedDelivery with
  | some date => some (.date date.ms)
  | none => if shipment.expectsNull then some .null else none

end StoredShipment

/-- A milestone within its shipment. -/
def Milestone.stored (milestone : Milestone) : Aggregation.Value :=
  .document fun
    | "name" => some (.string milestone.name.name)
    | "timestamp" => some (.date milestone.timestamp.ms)
    | _ => none

/-- Disputes are only counted. -/
def Dispute.stored (_ : Dispute) : Aggregation.Value :=
  .document fun _ => none

def StoredShipment.stored (shipment : StoredShipment) : Document
  | "_id" => some (.scalar (.id shipment.id.toString))
  | "status" => some (.string shipment.status.name)
  | "logisticsId" => some (.scalar (.id shipment.logisticsId.toString))
  | "createdAt" => some (.date shipment.createdAt.ms)
  | "expectedDelivery" => shipment.storedExpectedDelivery
  | "milestones" => some (.array (shipment.milestones.map Milestone.stored))
  | "disputes" => some (.array (shipment.disputes.map Dispute.stored))
  | "deletedAt" => some (storedDate shipment.deletedAt)
  | _ => none

def AnomalyRow.stored (anomaly : AnomalyRow) : Document
  | "_id" => some (.scalar (.id anomaly.id.toString))
  | "timestamp" => some (.date anomaly.timestamp.ms)
  | "deletedAt" => some (storedDate anomaly.deletedAt)
  | _ => none

/-- The timestamp of the first milestone of that name. -/
def deliveredTimestampExpr : Expr :=
  .arrayElemAt
    (.map
      (.filter (.field "milestones") "milestone"
        (.compare .eq (.access (.variable "milestone") "name") (.const (.string "DELIVERED"))))
      "deliveredMilestone" (.access (.variable "deliveredMilestone") "timestamp"))
    0

/-- The first delivery that is recorded. -/
def Shipment.deliveredAt (shipment : Shipment) : Option Date :=
  (shipment.milestones.find? fun milestone => milestone.name = .delivered).map (·.timestamp)

/-- Different days are different keys. -/
theorem dayKey_injective : Function.Injective fun day : Int =>
    Aggregation.Scalar.date (day * 86400000) := by
  intro first second hSame
  have hMs := Aggregation.Scalar.date.inj hSame
  omega

section Delivery

theorem name_eq_delivered_iff (status : ShipmentStatus) :
    status.name = "DELIVERED" ↔ status = .delivered := by
  cases status <;> decide

theorem deliveredTimestampExpr_eval {document : Document} {milestones : List Milestone}
    (h : document "milestones" = some (.array (milestones.map Milestone.stored))) :
    deliveredTimestampExpr.of document =
      some (((milestones.find? fun milestone => milestone.name = .delivered).map
        (·.timestamp)).map fun date => .date date.ms) := by
  have hFilter : ∀ milestone ∈ milestones,
      (Expr.eval document (.compare .eq (.access (.variable "milestone") "name")
        (.const (.string "DELIVERED"))) (Aggregation.bindVariable (fun _ => none) "milestone"
          (Milestone.stored milestone))).map Aggregation.Value.truthy =
        some (decide (milestone.name = .delivered)) := by
    intro milestone _
    simp [Expr.eval, Aggregation.bindVariable, Milestone.stored, Aggregation.Value.document?,
      Aggregation.Value.comparable, Aggregation.Comparison.holds, Aggregation.Value.truthy,
      name_eq_delivered_iff]
  have hMap : ∀ milestone ∈ milestones.filter fun milestone => milestone.name = .delivered,
      (Expr.eval document (.access (.variable "deliveredMilestone") "timestamp")
        (Aggregation.bindVariable (fun _ => none) "deliveredMilestone"
          (Milestone.stored milestone))).map (Option.getD · .null) =
        some (.date milestone.timestamp.ms) := by
    intro milestone _
    simp [Expr.eval, Aggregation.bindVariable, Milestone.stored, Aggregation.Value.document?]
  have hMilestones : (Expr.field "milestones").eval document (fun _ => none) =
      some (some (.array (milestones.map Milestone.stored))) := congrArg some h
  have hFirst := Aggregation.eval_arrayElemAt
    (Aggregation.eval_map (Aggregation.eval_filter hMilestones hFilter) hMap) 0
  rw [List.getElem?_map, ← List.head?_eq_getElem?, List.head?_filter] at hFirst
  rw [Option.map_map]
  exact hFirst

end Delivery

end Navin
