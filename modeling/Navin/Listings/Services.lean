import Navin.Listings.Collections
import Navin.Shared.NumberText

/-! The listings that are read by cursor: telemetry, anomalies, the audit log twice,
payments, ledger blocks, users and invitations. Each asks for one document more than
the page holds. -/
namespace Navin

open Async

structure CursorPage (D : Type) where
  data : List D
  nextCursor : Option String
  hasMore : Bool

/-- A page that also tells how many documents match. -/
structure CountedPage (D : Type) extends CursorPage D where
  total : Nat

/-- The page and the cursor of an over-fetched result. -/
def paginateCursor (kind : ListedCollection) (items : List kind.Document) (limit : Nat) :
    CursorPage kind.Document :=
  let hasMore := limit < items.length
  let data := if hasMore then items.take limit else items
  { data
    nextCursor := if hasMore then data.getLast?.map fun last => (kind.id last).toString else none
    hasMore }

section Orders

variable {κ : Type} [LinearOrder κ]

/-- `sort({ [key]: order, _id: order })`. -/
def sortsByKey (kind : ListedCollection) (key : kind.Document → κ) (order : SortOrder)
    (first second : kind.Document) : Bool :=
  match order with
  | .ascending => key first < key second ||
      key first = key second && (kind.id first).toString ≤ (kind.id second).toString
  | .descending => key second < key first ||
      key second = key first && (kind.id second).toString ≤ (kind.id first).toString

end Orders

def withinWindow (start stop : Option Date) (date : Date) : Bool :=
  start.all (fun bound => bound.ms ≤ date.ms) && stop.all fun bound => date.ms ≤ bound.ms

section Criteria

variable {kind : ListedCollection}

/-- The criteria of the filters that were given. -/
def givenCriteria (filters : List (Option (Criterion kind))) : List (Criterion kind) :=
  filters.filterMap id

def equalsCriterion {β : Type} [DecidableEq β] (field : kind.Document → β) (value : Option β) :
    Option (Criterion kind) :=
  value.map fun value => .test fun doc => field doc = value

/-- A filter that compares a string; the empty one is no filter. -/
def textCriterion (field : kind.Document → String) (text : Option String) :
    Option (Criterion kind) :=
  (truthy text).map fun text => .test fun doc => field doc = text

def idCriterion (field : kind.Document → ObjectId) (text : Option String) :
    Option (Criterion kind) :=
  (truthy text).map (.idIs field)

/-- `_id: { $lt: cursor }`. -/
def cursorCriterion (cursor : Option String) : Option (Criterion kind) :=
  (truthy cursor).map .idBelow

def windowCriterion (field : kind.Document → Date) (start stop : Option Date) :
    Option (Criterion kind) :=
  if start.isSome || stop.isSome then some (.test fun doc => withinWindow start stop (field doc))
  else none

end Criteria

section Telemetry

structure TelemetryParams where
  cursor : Option String := none
  page : Option Nat := none
  limit : Nat
  shipmentId : Option String := none
  organizationId : Option String := none
  start : Option Date := none
  stop : Option Date := none

def newestTelemetryFirst : TelemetryRow → TelemetryRow → Bool :=
  sortsByKey .telemetry (fun row => row.timestamp.ms) .descending

/-- A page number counts only without a cursor. -/
def telemetrySkip (params : TelemetryParams) : Nat :=
  match truthy params.cursor, params.page with
  | none, some page => offsetSkip page params.limit
  | _, _ => 0

/-- `Telemetry.find(query)` with the rest of the query, once its condition on the
shipment is known. -/
def findTelemetry (params : TelemetryParams) (shipment : Option (Criterion .telemetry)) :
    ListingM (CursorPage TelemetryRow) := do
  let query : List (Criterion .telemetry) := givenCriteria
    [shipment,
     windowCriterion (fun row => row.timestamp) params.start params.stop,
     cursorCriterion params.cursor]
  let telemetry ← list
    (.find .telemetry query newestTelemetryFirst (telemetrySkip params) (params.limit + 1))
  return paginateCursor .telemetry telemetry params.limit

/-- `Shipment.find({ organizationId })`; the schema has no such path. -/
def organizationShipments (organizationId : String) : ListingM (List Shipment) :=
  let query : Query := { conditions := [("organizationId", .equals (.string organizationId))] }
  list (.find .shipments [.test query.accepts] (fun _ _ => true) 0 0)

/-- The organisation's condition replaces the one on the shipment. -/
def getTelemetryService (params : TelemetryParams) : ListingM (CursorPage TelemetryRow) :=
  match truthy params.organizationId with
  | none => findTelemetry params (idCriterion (fun row => row.shipmentId) params.shipmentId)
  | some organizationId => do
      let shipments ← organizationShipments organizationId
      let shipmentIds := (shipments : List Shipment).map fun shipment => shipment.id
      if shipmentIds = [] then return { data := [], nextCursor := none, hasMore := false }
      else findTelemetry params (some (.test fun row => shipmentIds.contains row.shipmentId))

end Telemetry

structure AnomaliesParams where
  cursor : Option String := none
  limit : Nat
  shipmentId : Option String := none
  severity : Option String := none
  type : Option String := none
  resolved : Option Bool := none

def newestAnomalyFirst : AnomalyRow → AnomalyRow → Bool :=
  sortsByKey .anomalies (fun row => row.timestamp.ms) .descending

def getAnomaliesService (params : AnomaliesParams) : ListingM (CursorPage AnomalyRow) := do
  let query : List (Criterion .anomalies) := givenCriteria
    [idCriterion (fun row => row.shipmentId) params.shipmentId,
     textCriterion (fun row => row.severity) params.severity,
     textCriterion (fun row => row.type) params.type,
     equalsCriterion (fun row => row.resolved) params.resolved,
     cursorCriterion params.cursor]
  let anomalies ← list (.find .anomalies query newestAnomalyFirst 0 (params.limit + 1))
  return paginateCursor .anomalies anomalies params.limit

section AuditLogs

/-- What both listings of the audit log filter by. -/
structure AuditFilter where
  userId : Option String := none
  action : Option String := none
  resource : Option String := none

def AuditFilter.query (filter : AuditFilter) : List (Option (Criterion .auditLogs)) :=
  [idCriterion (fun entry => entry.userId) filter.userId,
   textCriterion (fun entry => entry.action) filter.action,
   textCriterion (fun entry => entry.resource) filter.resource]

def newestEntryFirst : AuditLog → AuditLog → Bool :=
  sortsByKey .auditLogs (fun entry => entry.timestamp.ms) .descending

structure GetActivityParams extends AuditFilter where
  before : Option String := none
  limit : Nat

structure GetActivityResult where
  data : List AuditLog
  total : Nat
  hasMore : Bool
  before : Option String

/-- `timestamp: { $lt: new Date(before) }`. -/
def olderCriterion (before : Option String) : Option (Criterion .auditLogs) :=
  (truthy before).map (.dateBelow fun entry => entry.timestamp)

def getActivityService (params : GetActivityParams) : ListingM GetActivityResult := do
  let baseQuery := params.query
  let (logs, total) ← promiseAll
    (list (.find .auditLogs (givenCriteria (baseQuery ++ [olderCriterion params.before]))
      newestEntryFirst 0 (params.limit + 1)))
    (list (.count .auditLogs (givenCriteria baseQuery)))
  let hasMore := params.limit < (logs : List AuditLog).length
  let data := if hasMore then logs.take params.limit else logs
  return {
    data, total, hasMore
    before := if hasMore then data.getLast?.map fun last => last.timestamp.toISOString else none }

structure GetAuditLogsParams extends AuditFilter where
  cursor : Option String := none
  limit : Nat
  start : Option Date := none
  stop : Option Date := none

def getAuditLogsService (params : GetAuditLogsParams) : ListingM (CountedPage AuditLog) := do
  let baseQuery := params.query ++
    [windowCriterion (fun (entry : AuditLog) => entry.timestamp) params.start params.stop]
  let (logs, total) ← promiseAll
    (list (.find .auditLogs (givenCriteria (baseQuery ++ [cursorCriterion params.cursor]))
      newestEntryFirst 0 (params.limit + 1)))
    (list (.count .auditLogs (givenCriteria baseQuery)))
  let hasMore := params.limit < (logs : List AuditLog).length
  let data := if hasMore then logs.take params.limit else logs
  return {
    data, total, hasMore
    nextCursor := if hasMore then data.getLast?.map fun last => last.id.toString else none }

end AuditLogs

/-- `new Types.ObjectId(text)`. -/
def newObjectId (text : String) : ListingM ObjectId :=
  match ObjectId.cast? text with
  | some id => pure id
  | none => throw (.castError text)

/-- The same for a filter that may be missing. -/
def newObjectId? (text : Option String) : ListingM (Option ObjectId) :=
  match truthy text with
  | some text => some <$> newObjectId text
  | none => pure none

/-- `_id: { $lt: id }` for an id that has been made already. -/
def belowCriterion (kind : ListedCollection) (id : ObjectId) : Criterion kind :=
  .test fun doc => (kind.id doc).toString < id.toString

section Payments

inductive PaymentsSortBy where
  | amount
  | status
  | createdAt
deriving DecidableEq

def sortsPayments (sortBy : PaymentsSortBy) (order : SortOrder) :
    ListedPayment → ListedPayment → Bool :=
  match sortBy with
  | .amount => sortsByKey .payments (fun payment => payment.amount.value) order
  | .status => sortsByKey .payments (fun payment => payment.status.name) order
  | .createdAt => sortsByKey .payments (fun payment => payment.createdAt.ms) order

structure PaymentsFilters where
  status : Option PaymentStatus := none
  shipmentId : Option String := none
  sortBy : Option PaymentsSortBy := none
  sortOrder : Option SortOrder := none
  limit : Option Nat := none
  cursor : Option String := none
  page : Option Nat := none

/-- The cursor compares the id with less-than, whatever the order. -/
def getPaymentsByOrganization (organizationId : String) (filters : PaymentsFilters) :
    ListingM (CountedPage ListedPayment) := do
  let limit := filters.limit.getD 20
  let organization ← newObjectId organizationId
  let shipment ← newObjectId? filters.shipmentId
  let query : List (Option (Criterion .payments)) :=
    [equalsCriterion (fun payment => payment.organizationId) (some organization),
     equalsCriterion (fun payment => payment.status) filters.status,
     equalsCriterion (fun payment => payment.shipmentId) shipment]
  let sort := sortsPayments (filters.sortBy.getD .createdAt)
    (if filters.sortOrder = some .ascending then .ascending else .descending)
  let total ← list (.count .payments (givenCriteria query))
  match filters.page with
  | some page =>
      let skip := offsetSkip page limit
      let data ← list (.find .payments (givenCriteria query) sort skip limit)
      return {
        data, total
        hasMore := skip + (data : List ListedPayment).length < total
        nextCursor := none }
  | none =>
      let cursor ← newObjectId? filters.cursor
      let data ← list (.find .payments
        (givenCriteria (query ++ [cursor.map (belowCriterion .payments)])) sort 0 (limit + 1))
      let hasMore := limit < (data : List ListedPayment).length
      let data := if hasMore then data.dropLast else data
      return {
        data, total, hasMore
        nextCursor := if hasMore then data.getLast?.map fun last => last.id.toString else none }

end Payments

section NewestFirst

structure LedgerFilters where
  shipmentId : Option String := none
  milestoneEvent : Option MilestoneEvent := none
  limit : Option Nat := none
  cursor : Option String := none

def getLedgerBlocks (filters : LedgerFilters) : ListingM (CountedPage LedgerBlock) := do
  let limit := filters.limit.getD 20
  let shipment ← newObjectId? filters.shipmentId
  let query : List (Option (Criterion .ledgerBlocks)) :=
    [equalsCriterion (fun block => block.shipmentId) shipment,
     equalsCriterion (fun block => block.milestoneEvent) filters.milestoneEvent]
  let cursor ← newObjectId? filters.cursor
  let (data, total) ← promiseAll
    (list (.find .ledgerBlocks
      (givenCriteria (query ++ [cursor.map (belowCriterion .ledgerBlocks)]))
      (sortsByKey .ledgerBlocks (fun block => block.createdAt.ms) .descending) 0 (limit + 1)))
    (list (.count .ledgerBlocks (givenCriteria query)))
  return { paginateCursor .ledgerBlocks data limit with total }

/-- `new RegExp(pattern, 'i')` and the texts it matches; a pattern may be invalid. -/
class RegExps where
  compile : (pattern : String) → Except ThrownError (String → Bool)

structure UsersFilters where
  limit : Option Nat := none
  cursor : Option String := none
  page : Option Nat := none
  search : Option String := none
  role : Option String := none

def compileSearch [RegExps] (search : Option String) : ListingM (Option (String → Bool)) :=
  match truthy search with
  | some search => some <$> Program.settle (RegExps.compile search)
  | none => pure none

/-- `$or: [{ name: search }, { email: search }]`. -/
def searchCriterion (search : Option (String → Bool)) : Option (Criterion .users) :=
  search.map fun found => .test fun user => found user.name || found user.email

/-- A page that a cursor leads to, or one of the numbered pages. -/
def findUsersByOrganizationId [RegExps] (organizationId : String) (filters : UsersFilters) :
    ListingM (CountedPage ListedUser ⊕ List ListedUser × Nat) := do
  let limit := filters.limit.getD 20
  let organization ← newObjectId organizationId
  let search ← compileSearch filters.search
  let baseQuery : List (Option (Criterion .users)) :=
    [equalsCriterion (fun user => user.organizationId) (some (some organization)),
     searchCriterion search,
     textCriterion (fun user => user.role.name) filters.role]
  let sort := sortsByKey .users (fun user => user.createdAt.ms) .descending
  match filters.page with
  | some page =>
      let answers ← promiseAll
        (list (.find .users (givenCriteria baseQuery) sort (offsetSkip page limit) limit))
        (list (.count .users (givenCriteria baseQuery)))
      return .inr answers
  | none =>
      let cursor ← newObjectId? filters.cursor
      let (rawData, total) ← promiseAll
        (list (.find .users (givenCriteria (baseQuery ++ [cursor.map (belowCriterion .users)]))
          sort 0 (limit + 1)))
        (list (.count .users (givenCriteria baseQuery)))
      return .inl { paginateCursor .users rawData limit with total }

structure InvitationsInput where
  organizationId : String
  limit : Option Nat := none
  cursor : Option String := none
  status : Option InvitationStatus := none

/-- The documents are counted with the condition on the cursor. -/
def listOrganizationInvitations (input : InvitationsInput) :
    ListingM (CountedPage ListedInvitation) := do
  let limit := input.limit.getD 20
  let query : List (Criterion .invitations) := givenCriteria
    [some (.idIs (fun invitation => invitation.organizationId) input.organizationId),
     cursorCriterion input.cursor,
     equalsCriterion (fun invitation => invitation.status) input.status]
  let (data, total) ← promiseAll
    (list (.find .invitations query
      (sortsByKey .invitations (fun invitation => invitation.createdAt.ms) .descending) 0
      (limit + 1)))
    (list (.count .invitations query))
  let hasMore := limit < (data : List ListedInvitation).length
  let data := if hasMore then data.dropLast else data
  return {
    data, total, hasMore
    nextCursor := if hasMore then data.getLast?.map fun last => last.id.toString else none }

end NewestFirst

end Navin
