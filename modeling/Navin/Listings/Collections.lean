import Mathlib.Data.String.Basic
import Navin.Backend.Interface
import Navin.Identity.Documents
import Navin.Semantics.Collection
import Navin.Shared.DateText

/-! The collections that are listed in pages, and how the database evaluates the
queries of the listings. Nothing here writes. -/
namespace Navin

open Async

/-- An entry of the audit log as it is stored. -/
structure AuditLog where
  id : ObjectId
  userId : ObjectId
  action : String
  resource : String
  resourceId : String
  timestamp : Date
  deletedAt : Option Date
deriving DecidableEq

structure ListedPayment extends Payment where
  createdAt : Date
deriving DecidableEq

/-- A user without the password hash, which is not selected. -/
structure ListedUser where
  id : ObjectId
  email : String
  name : String
  role : UserRole
  organizationId : Option ObjectId
  deletedAt : Option Date
  createdAt : Date
deriving DecidableEq

structure ListedInvitation extends Invitation where
  createdAt : Date
deriving DecidableEq

inductive ListedCollection where
  | shipments
  | telemetry
  | anomalies
  | auditLogs
  | payments
  | ledgerBlocks
  | users
  | invitations
deriving DecidableEq

namespace ListedCollection

@[reducible] def Document : ListedCollection → Type
  | .shipments => Shipment
  | .telemetry => TelemetryRow
  | .anomalies => AnomalyRow
  | .auditLogs => AuditLog
  | .payments => ListedPayment
  | .ledgerBlocks => LedgerBlock
  | .users => ListedUser
  | .invitations => ListedInvitation

def id : (kind : ListedCollection) → kind.Document → ObjectId
  | .shipments => fun shipment => shipment.id
  | .telemetry => fun row => row.id
  | .anomalies => fun row => row.id
  | .auditLogs => fun entry => entry.id
  | .payments => fun payment => payment.id
  | .ledgerBlocks => fun block => block.id
  | .users => fun user => user.id
  | .invitations => fun invitation => invitation.id

def deletedAt : (kind : ListedCollection) → kind.Document → Option Date
  | .shipments => fun shipment => shipment.deletedAt
  | .telemetry => fun row => row.deletedAt
  | .anomalies => fun row => row.deletedAt
  | .auditLogs => fun entry => entry.deletedAt
  | .payments => fun payment => payment.deletedAt
  | .ledgerBlocks => fun block => block.deletedAt
  | .users => fun user => user.deletedAt
  | .invitations => fun invitation => invitation.deletedAt

end ListedCollection

/-- One condition of a query. Texts that stand for ids are cast by the driver, and a text
for a date is made one before. -/
inductive Criterion (kind : ListedCollection) where
  | idIs (field : kind.Document → ObjectId) (text : String)
  | idBelow (text : String)
  | dateBelow (field : kind.Document → Date) (text : String)
  | test (accepts : kind.Document → Bool)

namespace Criterion

variable {kind : ListedCollection}

/-- The text that cannot be cast. -/
def refused? : Criterion kind → Option String
  | .idIs _ text | .idBelow text => if (ObjectId.cast? text).isNone then some text else none
  | .dateBelow _ text => if (Date.parse text).isNone then some text else none
  | .test _ => none

/-- Identifiers compare as their digits do. -/
def accepts : Criterion kind → kind.Document → Bool
  | .idIs field text, doc => ObjectId.cast? text = some (field doc)
  | .idBelow text, doc => (ObjectId.cast? text).any fun id => (kind.id doc).toString < id.toString
  | .dateBelow field text, doc => (Date.parse text).any fun date => (field doc).ms < date.ms
  | .test accepts, doc => accepts doc

end Criterion

/-- The documents of each collection. -/
structure ListingStore where
  shipments : Collection Shipment.id := .empty
  telemetry : Collection TelemetryRow.id := .empty
  anomalies : Collection AnomalyRow.id := .empty
  auditLogs : Collection AuditLog.id := .empty
  payments : Collection (fun payment : ListedPayment => payment.id) := .empty
  ledgerBlocks : Collection (fun block : LedgerBlock => block.id) := .empty
  users : Collection ListedUser.id := .empty
  invitations : Collection (fun invitation : ListedInvitation => invitation.id) := .empty

def ListingStore.docs (store : ListingStore) : (kind : ListedCollection) → List kind.Document
  | .shipments => store.shipments.docs
  | .telemetry => store.telemetry.docs
  | .anomalies => store.anomalies.docs
  | .auditLogs => store.auditLogs.docs
  | .payments => store.payments.docs
  | .ledgerBlocks => store.ledgerBlocks.docs
  | .users => store.users.docs
  | .invitations => store.invitations.docs

theorem ListingStore.ids_nodup (store : ListingStore) (kind : ListedCollection) :
    ((store.docs kind).map kind.id).Nodup := by
  cases kind with
  | shipments => exact store.shipments.unique
  | telemetry => exact store.telemetry.unique
  | anomalies => exact store.anomalies.unique
  | auditLogs => exact store.auditLogs.unique
  | payments => exact store.payments.unique
  | ledgerBlocks => exact store.ledgerBlocks.unique
  | users => exact store.users.unique
  | invitations => exact store.invitations.unique

inductive ListingCall where
  | find (kind : ListedCollection) (query : List (Criterion kind))
      (sort : kind.Document → kind.Document → Bool) (skip limit : Nat)
  | count (kind : ListedCollection) (query : List (Criterion kind))

@[reducible] def ListingCall.Answer : ListingCall → Type
  | .find kind _ _ _ _ => List kind.Document
  | .count _ _ => Nat

/-- Programs over the listing calls. -/
abbrev ListingM : Type → Type :=
  Program ListingCall ListingCall.Answer ThrownError

abbrev list (call : ListingCall) : ListingM call.Answer :=
  Program.await call

/-- The documents a query selects. The hook of every schema leaves out the deleted
ones. -/
def ListingStore.select (store : ListingStore) (kind : ListedCollection)
    (query : List (Criterion kind)) : List kind.Document :=
  (store.docs kind).filter fun doc =>
    (kind.deletedAt doc).isNone && query.all fun criterion => criterion.accepts doc

def executeListing (store : ListingStore) :
    (call : ListingCall) → Except ThrownError call.Answer
  | .find kind query sort skip limit =>
      match query.findSome? (·.refused?) with
      | some text => .error (.castError text)
      | none => .ok (window skip limit ((store.select kind query).insertionSort fun first second =>
          sort first second))
  | .count kind query =>
      match query.findSome? (·.refused?) with
      | some text => .error (.castError text)
      | none => .ok (store.select kind query).length

/-- The listing calls of a database that may be away. -/
abbrev listings : World ListingCall ListingCall.Answer ThrownError where
  Store := ListingStore
  Env := Option ThrownError
  perform fault store call := (store, match fault with
    | some error => .error error
    | none => executeListing store call)

/-- The database is there all the time. -/
def listed {α : Type} (p : ListingM α) (store : ListingStore) : Except ThrownError α :=
  (p.run listings (fun _ => none) store).2.1

end Navin
