import Mathlib.Algebra.Order.Field.Rat
import Navin.Backend.Interface
import Navin.Semantics.Collection

/-! The notifications of a user, filtered and in pages. Nothing here writes. -/
namespace Navin

open Async

inductive NotificationType where
  | shipments
  | settlements
  | system
deriving DecidableEq

structure Notification where
  id : ObjectId
  userId : ObjectId
  type : NotificationType
  title : String
  description : String
  timestamp : Date
  deletedAt : Option Date
deriving DecidableEq

abbrev NotificationStore : Type :=
  Collection Notification.id

/-- `{ $regex: pattern, $options: 'i' }` and the texts it matches. The database may refuse a
pattern. -/
class DatabaseRegex where
  compile : (pattern : String) → Except ThrownError (String → Bool)

/-- What the database makes of numbers to skip and to return that are not whole. -/
class FractionalWindow where
  window : (skip limit : ℚ) → List Notification → Except ThrownError (List Notification)

structure GetNotificationsQuery where
  page : ℚ := 1
  limit : ℚ := 20
  type : Option NotificationType := none
  q : Option String := none

structure NotificationsListResult where
  data : List Notification
  page : ℚ
  limit : ℚ
  total : Nat

/-- `{ userId, type, $or }` with the conditions that are given. -/
structure NotificationFilter where
  userId : String
  type : Option NotificationType
  titleOrDescription : Option String

inductive NotificationCall where
  | find (filter : NotificationFilter) (skip limit : ℚ)
  | countDocuments (filter : NotificationFilter)

@[reducible] def NotificationCall.Answer : NotificationCall → Type
  | .find _ _ _ => List Notification
  | .countDocuments _ => Nat

abbrev NotificationM : Type → Type :=
  Program NotificationCall NotificationCall.Answer ThrownError

section Database

variable [DatabaseRegex] [FractionalWindow]

/-- The condition on title and description. -/
def NotificationFilter.found (filter : NotificationFilter) :
    Except ThrownError (Notification → Bool) :=
  match filter.titleOrDescription with
  | none => .ok fun _ => true
  | some pattern => (DatabaseRegex.compile pattern).map fun found notification =>
      found notification.title || found notification.description

/-- The hook of the schema leaves out the deleted ones. -/
def selectNotifications (store : NotificationStore) (filter : NotificationFilter) :
    Except ThrownError (List Notification) :=
  match ObjectId.cast? filter.userId with
  | none => .error (.castError filter.userId)
  | some userId => filter.found.map fun found => store.docs.filter fun notification =>
      notification.deletedAt.isNone && (notification.userId = userId &&
        filter.type.all (notification.type = ·) && found notification)

/-- `sort({ timestamp: -1, _id: -1 })`. -/
def newerNotification (first second : Notification) : Bool :=
  second.timestamp.ms < first.timestamp.ms ||
    first.timestamp.ms = second.timestamp.ms && second.id.toString ≤ first.id.toString

def windowOf (skip limit : ℚ) (selected : List Notification) :
    Except ThrownError (List Notification) :=
  if skip.den = 1 ∧ limit.den = 1 then .ok (window skip.num.toNat limit.num.toNat selected)
  else FractionalWindow.window skip limit selected

def executeNotifications (store : NotificationStore) :
    (call : NotificationCall) → Except ThrownError call.Answer
  | .find filter skip limit => do
      let selected ← selectNotifications store filter
      windowOf skip limit (selected.insertionSort fun first second => newerNotification first second)
  | .countDocuments filter => (selectNotifications store filter).map List.length

/-- A database that may be away. -/
abbrev notifications : World NotificationCall NotificationCall.Answer ThrownError where
  Store := NotificationStore
  Env := Option ThrownError
  perform fault store call := (store, match fault with
    | some error => .error error
    | none => executeNotifications store call)

end Database

def getNotificationsService (userId : String) (query : GetNotificationsQuery) :
    NotificationM NotificationsListResult := do
  let filter : NotificationFilter :=
    { userId, type := query.type, titleOrDescription := truthy query.q }
  let skip := max 0 ((query.page - 1) * query.limit)
  let (data, total) ← promiseAll (Program.await (.find filter skip query.limit))
    (Program.await (.countDocuments filter))
  return { data, page := query.page, limit := query.limit, total }

end Navin
