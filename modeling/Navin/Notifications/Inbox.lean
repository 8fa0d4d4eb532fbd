import Navin.Notifications.Service
import Navin.Semantics.Extension
import Navin.Semantics.OwnedDocuments
import Navin.Shared.Faults

/-! The notifications of a user as a collection that changes, and the preferences of a user:
one setting for each event and channel. -/
namespace Navin.Inbox

open Async

/-- A notification with what the services write of it. -/
structure InboxEntry extends Notification where
  isRead : Bool
  updatedAt : Date
deriving DecidableEq

inductive NotificationEvent where
  | shipmentCreated
  | statusChanged
  | deliveryConfirmed
  | paymentReceived
  | disputeOpened
  | disputeResolved
deriving DecidableEq

inductive NotificationChannel where
  | email
  | sms
deriving DecidableEq

structure NotificationPreference where
  id : ObjectId
  userId : ObjectId
  event : NotificationEvent
  channel : NotificationChannel
  enabled : Bool
  createdAt : Date
  updatedAt : Date
deriving DecidableEq

abbrev Entries : Type :=
  Collection fun entry : InboxEntry => entry.id

/-- The entries as the listing reads them. -/
def Entries.notifications (entries : Entries) : NotificationStore where
  docs := entries.docs.map InboxEntry.toNotification
  unique := by
    rw [List.map_map]
    exact entries.unique

structure InboxStore where
  entries : Entries
  preferences : Collection NotificationPreference.id

/-- The second argument of `NotificationModel.findOneAndUpdate` at each call site. -/
inductive EntryUpdate where
  | isRead
  | deletedAt (date : Date)
deriving DecidableEq

def EntryUpdate.apply (update : EntryUpdate) (now : Date) (entry : InboxEntry) : InboxEntry :=
  match update with
  | .isRead => { entry with isRead := true, updatedAt := now }
  | .deletedAt date => { entry with deletedAt := some date, updatedAt := now }

@[simp] theorem EntryUpdate.apply_id (update : EntryUpdate) (now : Date) (entry : InboxEntry) :
    (update.apply now entry).id = entry.id := by
  cases update <;> rfl

@[simp] theorem EntryUpdate.apply_userId (update : EntryUpdate) (now : Date) (entry : InboxEntry) :
    (update.apply now entry).userId = entry.userId := by
  cases update <;> rfl

def NotificationPreference.set (enabled : Bool) (now : Date) (preference : NotificationPreference) :
    NotificationPreference :=
  { preference with enabled, updatedAt := now }

theorem set_id (enabled : Bool) (now : Date) (preference : NotificationPreference) :
    (preference.set enabled now).id = preference.id := rfl

/-- The calls besides those of the listing. Notifications come from outside of the services. -/
inductive InboxCall where
  | currentDate
  | findOneAndUpdate (id userId : String) (update : EntryUpdate)
  | updateManyRead (userId : String)
  | countUnread (userId : String)
  | preferenceFind (userId : String)
  | preferenceUpsert (userId : String) (event : NotificationEvent) (channel : NotificationChannel)
      (enabled : Bool)
  | deliver (entry : InboxEntry)
deriving DecidableEq

@[reducible] def InboxCall.Answer : InboxCall → Type
  | .currentDate => Date
  | .findOneAndUpdate _ _ _ => Option InboxEntry
  | .updateManyRead _ | .countUnread _ => Nat
  | .preferenceFind _ => List NotificationPreference
  | .preferenceUpsert _ _ _ _ => Option NotificationPreference
  | .deliver _ => Unit

abbrev InboxM : Type → Type :=
  Program (NotificationCall ⊕ InboxCall) (Sum.elim NotificationCall.Answer InboxCall.Answer)
    ThrownError

abbrev ask (call : InboxCall) : InboxM call.Answer :=
  Program.await (Sum.inr call : NotificationCall ⊕ InboxCall)

section Effects

/-- `{ userId }`, to which the hook of the schema adds `deletedAt: null`. -/
def InboxEntry.selected (userId : ObjectId) (entry : InboxEntry) : Bool :=
  entry.userId = userId && entry.deletedAt.isNone

/-- `{ userId, isRead: false }`. -/
def InboxEntry.unread (userId : ObjectId) (entry : InboxEntry) : Bool :=
  entry.userId = userId && !entry.isRead

def NotificationPreference.selected (userId : ObjectId) (event : NotificationEvent)
    (channel : NotificationChannel) (preference : NotificationPreference) : Bool :=
  preference.userId = userId && (preference.event = event && preference.channel = channel)

/-- A call that goes through, given the identifier and the time it takes. The hook covers
neither `updateMany` nor the preferences. -/
def execute (freshId : ObjectId) (now : Date) (store : InboxStore) :
    (call : InboxCall) → InboxStore × Except ThrownError call.Answer
  | .currentDate => (store, .ok now)
  | .findOneAndUpdate id userId update =>
      castingId store id fun id => castingId store userId fun userId =>
        match (store.entries.get? id).filter (·.selected userId) with
        | none => (store, .ok none)
        | some entry =>
            let entries := store.entries.modify id (update.apply now) (update.apply_id now)
            ({ store with entries }, .ok (some (update.apply now entry)))
  | .updateManyRead userId =>
      castingId store userId fun userId =>
        let entries := store.entries.modifyAll (·.unread userId) (EntryUpdate.isRead.apply now)
          (EntryUpdate.isRead.apply_id now)
        ({ store with entries }, .ok (store.entries.docs.countP (·.unread userId)))
  | .countUnread userId =>
      castingId store userId fun userId =>
        (store, .ok (store.entries.docs.countP fun entry =>
          entry.unread userId && entry.deletedAt.isNone))
  | .preferenceFind userId =>
      castingId store userId fun userId =>
        (store, .ok (store.preferences.docs.filter (·.userId = userId)))
  | .preferenceUpsert userId event channel enabled =>
      castingId store userId fun userId =>
        match store.preferences.docs.find? (·.selected userId event channel) with
        | some preference =>
            let preferences := store.preferences.modify preference.id (·.set enabled now)
              (set_id enabled now)
            ({ store with preferences }, .ok (some (preference.set enabled now)))
        | none =>
            let preference : NotificationPreference :=
              { id := freshId, userId, event, channel, enabled, createdAt := now, updatedAt := now }
            if h : store.preferences.get? preference.id = none then
              ({ store with preferences := store.preferences.insert preference h },
                .ok (some preference))
            else (store, .error .duplicateKey)
  | .deliver entry =>
      if h : store.entries.get? entry.id = none then
        ({ store with entries := store.entries.insert entry h }, .ok ())
      else (store, .error .duplicateKey)

/-- What the world decides at a call. -/
structure InboxDecision where
  freshId : ObjectId
  now : Date
  fault : Option Fault

variable [DatabaseRegex] [FractionalWindow]

abbrev inboxes :
    World (NotificationCall ⊕ InboxCall) (Sum.elim NotificationCall.Answer InboxCall.Answer)
      ThrownError where
  Store := InboxStore
  Env := InboxDecision
  perform decision store
    | .inl call => faultedBy decision.fault store
        (store, executeNotifications store.entries.notifications call)
    | .inr call => faultedBy decision.fault store (execute decision.freshId decision.now store call)

end Effects

section Services

def orNotFound : Option InboxEntry → InboxM InboxEntry
  | none => throw (appError 404 "Notification not found" "ERR_NOT_FOUND")
  | some entry => return entry

def markNotificationReadService (notificationId userId : String) : InboxM InboxEntry := do
  let notification ← ask (.findOneAndUpdate notificationId userId .isRead)
  orNotFound notification

def markAllNotificationsReadService (userId : String) : InboxM Nat :=
  ask (.updateManyRead userId)

def deleteNotificationService (notificationId userId : String) : InboxM InboxEntry := do
  let now ← ask .currentDate
  let notification ← ask (.findOneAndUpdate notificationId userId (.deletedAt now))
  orNotFound notification

def getUnreadCountService (userId : String) : InboxM Nat :=
  ask (.countUnread userId)

def getNotificationPreferencesService (userId : String) : InboxM (List NotificationPreference) :=
  ask (.preferenceFind userId)

def updateNotificationPreferenceService (userId : String) (event : NotificationEvent)
    (channel : NotificationChannel) (enabled : Bool) : InboxM NotificationPreference := do
  let preference ← ask (.preferenceUpsert userId event channel enabled)
  match preference with
  | none => throw (appError 500 "Failed to update notification preference"
      "ERR_INTERNAL_SERVER_ERROR")
  | some preference => return preference

end Services

inductive InboxReply where
  | listed (result : NotificationsListResult)
  | notification (message : String) (entry : InboxEntry)
  | count (message : String) (count : Nat)
  | preferences (preferences : List NotificationPreference)
  | preference (preference : NotificationPreference)
  | delivered

/-- The routes for an authenticated user, with validated parameters and bodies, and a
notification that comes from outside. -/
inductive InboxRequest where
  | getNotifications (userId : String) (query : GetNotificationsQuery)
  | markRead (userId id : String)
  | markAllRead (userId : String)
  | delete (userId id : String)
  | unreadCount (userId : String)
  | getPreferences (userId : String)
  | updatePreference (userId : String) (event : NotificationEvent) (channel : NotificationChannel)
      (enabled : Bool)
  | deliver (entry : InboxEntry)

/-- The controllers. -/
def InboxRequest.program : InboxRequest → InboxM InboxReply
  | .getNotifications userId query => do
      let result ← (getNotificationsService userId query).lift
      return .listed result
  | .markRead userId id => do
      let entry ← markNotificationReadService id userId
      return .notification "Notification marked as read" entry
  | .markAllRead userId => do
      let count ← markAllNotificationsReadService userId
      return .count (toString count ++ " notifications marked as read") count
  | .delete userId id => do
      let entry ← deleteNotificationService id userId
      return .notification "Notification deleted successfully" entry
  | .unreadCount userId => do
      let count ← getUnreadCountService userId
      return .count "Unread count retrieved successfully" count
  | .getPreferences userId => do
      let preferences ← getNotificationPreferencesService userId
      return .preferences preferences
  | .updatePreference userId event channel enabled => do
      let preference ← updateNotificationPreferenceService userId event channel enabled
      return .preference preference
  | .deliver entry => do
      ask (.deliver entry)
      return .delivered

/-- Any number of requests, none of which has begun. -/
def inboxPool [DatabaseRegex] [FractionalWindow] {ι : Type} (store : InboxStore)
    (requests : ι → InboxRequest) : Pool inboxes ι InboxReply :=
  ⟨store, fun i => (requests i).program⟩

end Navin.Inbox
