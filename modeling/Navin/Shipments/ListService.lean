import Navin.Shipments.RecordService

/-! Listing and exporting shipments: a filter is built from the request, and
the database evaluates it. -/
namespace Navin

open Async

/-- The database's regular expressions with the option `i`, and its text search
over the fields of the text index. -/
class TextMatching where
  regexMatches : (pattern text : String) → Bool
  textMatches : (search : String) → (fields : List String) → Bool

def regexSpecials : List Char :=
  ".*+?^$\x7b\x7d()|[]\\".toList

/-- `text.replace(/[.*+?^${}()|[\]\\]/g, '\\$&')`. -/
def escapeRegex (text : String) : String :=
  String.ofList (text.toList.flatMap fun c => if regexSpecials.contains c then ['\\', c] else [c])

/-- A filter given as a string or as an array. -/
inductive OneOrMany where
  | one (value : String)
  | many (values : List String)

/-- One value is compared directly, several with `$in`; the empty string is no
filter. -/
def OneOrMany.condition : OneOrMany → Option Condition
  | .one value => (truthy (some value)).map fun value => .equals (.string value)
  | .many [value] => some (.equals (.string value))
  | .many values => some (.oneOf (values.map .string))

def createdBetween (start stop : Option Date) : Option Condition :=
  if start.isSome || stop.isSome then some (.range start stop) else none

/-- The conditions of the filters that were given. -/
def givenConditions (filters : List (String × Option Condition)) : List (String × Condition) :=
  filters.filterMap fun (path, condition) => condition.map fun condition => (path, condition)

structure ShipmentFilters where
  organizationId : Option String := none

structure ListParams where
  status : Option OneOrMany := none
  priority : Option OneOrMany := none
  page : Nat
  limit : Nat
  origin : Option String := none
  destination : Option String := none
  trackingNumber : Option String := none
  q : Option String := none
  start : Option Date := none
  stop : Option Date := none
  sortBy : Option String := none
  sortOrder : Option SortOrder := none
  filters : ShipmentFilters

structure ShipmentListResult where
  data : List Shipment
  page : Nat
  limit : Nat
  total : Nat

/-- The filters of an export, its dates already parsed. -/
structure ExportParams where
  organizationId : Option String := none
  status : Option String := none
  origin : Option String := none
  destination : Option String := none
  startDate : Option Date := none
  endDate : Option Date := none

def organizationCondition (organizationId : Option String) : Option Condition :=
  (truthy organizationId).map fun organizationId => .equals (.string organizationId)

def ListParams.sort (params : ListParams) : List (String × SortOrder) :=
  let order := if params.sortOrder = some .ascending then .ascending else .descending
  match truthy params.sortBy with
  | some path => [(path, order), ("_id", order)]
  | none => [("createdAt", .descending), ("_id", order)]

variable [TextMatching]

def regexCondition (text : Option String) : Option Condition :=
  (truthy text).map fun text => .regex (TextMatching.regexMatches (escapeRegex text))

def ListParams.query (params : ListParams) : Query where
  conditions := givenConditions
    [("organizationId", organizationCondition params.filters.organizationId),
     ("status", params.status.bind (·.condition)),
     ("trackingNumber", regexCondition params.trackingNumber),
     ("origin", regexCondition params.origin),
     ("destination", regexCondition params.destination),
     ("createdAt", createdBetween params.start params.stop),
     ("priority", params.priority.bind (·.condition))]
  text := (truthy params.q).map TextMatching.textMatches

def findShipments (query : Query) (skip limit : Nat) (sort : List (String × SortOrder)) :
    BackendM (List Shipment) :=
  request (.shipmentFind query sort skip limit)

def getShipmentsService (params : ListParams) : BackendM ShipmentListResult := do
  let skip := offsetSkip params.page params.limit
  let (data, total) ← promiseAll (findShipments params.query skip params.limit params.sort)
    (request (.shipmentCount params.query))
  return { data, page := params.page, limit := params.limit, total }

def exportMaxRecords : Nat := 10000

def ExportParams.query (params : ExportParams) : Query where
  conditions := givenConditions
    [("organizationId", organizationCondition params.organizationId),
     ("status", (truthy params.status).map fun status => .equals (.string status)),
     ("origin", regexCondition params.origin),
     ("destination", regexCondition params.destination),
     ("createdAt", createdBetween params.startDate params.endDate)]

def exportTooLarge (count : Nat) : ThrownError :=
  appError 400 ("Export exceeds " ++ toString exportMaxRecords ++ " records (" ++ toString count ++
    " found). Please narrow your filters.") "EXPORT_TOO_LARGE"

def exportShipmentsService (params : ExportParams) : BackendM (List Shipment) := do
  let count ← request (.shipmentCount params.query)
  if exportMaxRecords < count then throw (exportTooLarge count)
  else findShipments params.query 0 exportMaxRecords [("createdAt", .descending)]

end Navin
