import Navin.Backend.Documents
import Navin.Shared.Pagination

/-! Filters and sort orders over the shipments collection, as the driver sends
them. A path outside the schema is sent as it is, and no document has it. -/
namespace Navin

/-- The values that filters and sort orders compare. -/
inductive FieldValue where
  | null
  | string (value : String)
  | id (value : ObjectId)
  | date (value : Date)
deriving DecidableEq

namespace FieldValue

/-- Values of different types compare by type. -/
def rank : FieldValue → Nat
  | .null => 0
  | .string _ => 1
  | .id _ => 2
  | .date _ => 3

/-- The database's comparison order. -/
def before (first second : FieldValue) : Bool :=
  match first, second with
  | .string a, .string b => a < b
  | .id a, .id b => a.toString < b.toString
  | .date a, .date b => a.ms < b.ms
  | a, b => a.rank < b.rank

end FieldValue

/-- The stored value at a path of the shipment schema that is not an array or a
subdocument. -/
def Shipment.field? (shipment : Shipment) : (path : String) → Option FieldValue
  | "_id" => some (.id shipment.id)
  | "trackingNumber" => some (.string shipment.trackingNumber)
  | "origin" => some (.string shipment.origin)
  | "destination" => some (.string shipment.destination)
  | "enterpriseId" => some (.id shipment.enterpriseId)
  | "logisticsId" => some (.id shipment.logisticsId)
  | "status" => some (.string shipment.status.name)
  | "priority" => some (.string shipment.priority)
  | "expectedDelivery" => shipment.expectedDelivery.map .date
  | "stellarTokenId" => shipment.stellarTokenId.map .string
  | "stellarTxHash" => shipment.stellarTxHash.map .string
  | "deletedAt" => some (shipment.deletedAt.elim .null .date)
  | "createdAt" => some (.date shipment.createdAt)
  | "updatedAt" => some (.date shipment.updatedAt)
  | _ => none

inductive Condition where
  | equals (value : FieldValue)
  | oneOf (values : List FieldValue)
  | regex (accepts : String → Bool)
  | range (gte lte : Option Date)

/-- Equality with null also accepts a missing path. -/
def Condition.holds (condition : Condition) (field : Option FieldValue) : Bool :=
  match condition, field with
  | .equals value, field => field.getD .null = value
  | .oneOf values, field => values.contains (field.getD .null)
  | .regex accepts, some (.string text) => accepts text
  | .range gte lte, some (.date date) =>
      gte.all (fun bound => bound.ms ≤ date.ms) && lte.all fun bound => date.ms ≤ bound.ms
  | _, _ => false

/-- A conjunction of conditions on paths, with a text search over the fields of
the text index if there is one. -/
structure Query where
  conditions : List (String × Condition) := []
  text : Option (List String → Bool) := none

namespace Query

def add (query : Query) (path : String) (condition : Condition) : Query :=
  { query with conditions := query.conditions ++ [(path, condition)] }

def accepts (query : Query) (shipment : Shipment) : Bool :=
  query.conditions.all (fun (path, condition) => condition.holds (shipment.field? path)) &&
    query.text.all fun search =>
      search [shipment.trackingNumber, shipment.origin, shipment.destination]

/-- What the soft-delete hook makes of a query. -/
def live (query : Query) : Query :=
  query.add "deletedAt" (.equals .null)

theorem accepts_add (query : Query) (path : String) (condition : Condition)
    (shipment : Shipment) :
    (query.add path condition).accepts shipment =
      (condition.holds (shipment.field? path) && query.accepts shipment) := by
  simp only [accepts, Query.add, List.all_append, List.all_cons, List.all_nil, Bool.and_true]
  cases query.conditions.all _ <;> cases condition.holds _ <;> rfl

theorem accepts_live (query : Query) (shipment : Shipment) :
    query.live.accepts shipment = (shipment.deletedAt.isNone && query.accepts shipment) := by
  have hField : shipment.field? "deletedAt" = some (shipment.deletedAt.elim .null .date) := rfl
  rw [live, accepts_add, hField]
  cases shipment.deletedAt <;> rfl

/-- No document has a path outside the schema, so asking for a value there
accepts nothing. -/
theorem not_accepts_of_unknown {query : Query} {path : String} {value : FieldValue}
    (hMem : (path, .equals value) ∈ query.conditions) (hValue : value ≠ .null)
    {shipment : Shipment} (hPath : shipment.field? path = none) :
    query.accepts shipment = false := by
  have hFails : Condition.holds (.equals value) (shipment.field? path) = false := by
    simp [Condition.holds, hPath, hValue.symm]
  rw [accepts, Bool.and_eq_false_iff, List.all_eq_false]
  exact .inl ⟨_, hMem, by simp [hFails]⟩

end Query

inductive SortOrder where
  | ascending
  | descending
deriving DecidableEq

/-- Compare by the first key that differs; a missing path sorts as null. -/
def sortsBefore (sort : List (String × SortOrder)) (first second : Shipment) : Bool :=
  match sort with
  | [] => true
  | (path, order) :: rest =>
      let a := (first.field? path).getD .null
      let b := (second.field? path).getD .null
      if a = b then sortsBefore rest first second
      else match order with
        | .ascending => a.before b
        | .descending => b.before a

/-- The documents a query selects, in order. Where the sort keys leave a tie,
documents keep their natural order. -/
def Query.select (query : Query) (sort : List (String × SortOrder)) (shipments : List Shipment) :
    List Shipment :=
  (shipments.filter query.accepts).insertionSort fun first second => sortsBefore sort first second

theorem Query.mem_select_iff {query : Query} {sort : List (String × SortOrder)}
    {shipments : List Shipment} {shipment : Shipment} :
    shipment ∈ query.select sort shipments ↔ shipment ∈ shipments ∧ query.accepts shipment = true := by
  rw [Query.select, List.mem_insertionSort, List.mem_filter]

end Navin
