import Mathlib.Algebra.GroupWithZero.Nat
import Navin.Notifications.Inbox
import Navin.Semantics.Since

/-! Once all notifications of a user are marked as read, only those delivered since can be
unread. Each of them is counted once, by one marking or by the count of unread ones. -/
namespace Navin.Inbox

open Async

section Accounts

/-- The unread notifications of a user, those deleted among them. -/
def unreadOf (user : ObjectId) (store : InboxStore) : Nat :=
  store.entries.docs.countP (·.unread user)

abbrev InboxEvent (ι : Type) : Type :=
  Event (NotificationCall ⊕ InboxCall) (Sum.elim NotificationCall.Answer InboxCall.Answer)
    ThrownError ι

variable {ι : Type}

/-- A delivery to the user, whether or not it goes through. -/
def delivers (user : ObjectId) : NotificationCall ⊕ InboxCall → Bool
  | .inr (.deliver entry) => entry.userId = user
  | _ => false

/-- How many notifications of the user were marked, as the answer says. -/
def marked (user : ObjectId) : InboxEvent ι → Nat
  | ⟨_, .inr (.updateManyRead userId), .ok count⟩ =>
      if ObjectId.cast? userId = some user then count else 0
  | _ => 0

end Accounts

section Runs

variable {user : ObjectId} {freshId : ObjectId} {now : Date} {store : InboxStore}

/-- No update makes a notification unread. -/
theorem unread_apply {update : EntryUpdate} {entry : InboxEntry}
    (h : (update.apply now entry).unread user = true) : entry.unread user = true := by
  cases update with
  | isRead => simp [EntryUpdate.apply, InboxEntry.unread] at h
  | deletedAt date => exact h

theorem unread_apply_isRead (entry : InboxEntry) :
    (EntryUpdate.isRead.apply now entry).unread user = false := by
  simp [EntryUpdate.apply, InboxEntry.unread]

theorem unreadOf_update {f : InboxEntry → InboxEntry}
    (hUnread : ∀ entry, (f entry).unread user = true → entry.unread user = true)
    (entries : List InboxEntry) :
    (entries.map f).countP (·.unread user) ≤ entries.countP (·.unread user) := by
  rw [List.countP_map]
  exact List.countP_mono_left fun entry _ h => hUnread entry h

theorem unread_ite {c : InboxEntry → Prop} [DecidablePred c] {update : EntryUpdate}
    (entry : InboxEntry)
    (h : (if c entry then update.apply now entry else entry).unread user = true) :
    entry.unread user = true := by
  split at h
  · exact unread_apply h
  · exact h

/-- Marking all leaves nothing unread. -/
theorem unreadOf_modifyAll (entries : Entries) (preferences : Collection NotificationPreference.id) :
    unreadOf user ⟨entries.modifyAll (·.unread user) (EntryUpdate.isRead.apply now)
      (EntryUpdate.isRead.apply_id now), preferences⟩ = 0 := by
  rw [unreadOf, List.countP_eq_zero]
  intro entry hEntry
  obtain ⟨entry, -, rfl⟩ := List.mem_map.mp hEntry
  split
  · simp [unread_apply_isRead]
  · assumption

/-- A delivery adds at most one unread notification, and any other call adds none. -/
theorem unreadOf_execute (call : InboxCall) :
    unreadOf user (execute freshId now store call).1 ≤
      unreadOf user store +
        if delivers user (.inr call) then 1 else 0 := by
  cases call with
  | currentDate => exact Nat.le_add_right _ _
  | countUnread userId =>
      simp only [execute, castingId]
      split <;> exact Nat.le_add_right _ _
  | preferenceFind userId =>
      simp only [execute, castingId]
      split <;> exact Nat.le_add_right _ _
  | findOneAndUpdate id userId update =>
      simp only [execute, castingId]
      split
      · exact Nat.le_add_right _ _
      · split
        · exact Nat.le_add_right _ _
        · split
          · exact Nat.le_add_right _ _
          · exact unreadOf_update unread_ite store.entries.docs
  | updateManyRead userId =>
      simp only [execute, castingId]
      split
      · exact Nat.le_add_right _ _
      · exact unreadOf_update unread_ite store.entries.docs
  | preferenceUpsert userId event channel enabled =>
      simp only [execute, castingId]
      split
      · exact Nat.le_add_right _ _
      · split
        · exact Nat.le_add_right _ _
        · split <;> exact Nat.le_add_right _ _
  | deliver entry =>
      simp only [execute]
      split
      · change (store.entries.docs ++ [entry]).countP _ ≤ _
        rw [List.countP_append, List.countP_singleton]
        refine Nat.add_le_add_left ?_ _
        by_cases hUser : entry.userId = user
        · simp only [delivers, hUser]
          split <;> simp
        · simp [InboxEntry.unread, hUser]
      · exact Nat.le_add_right _ _

variable {ι : Type} {i : ι}

theorem marked_error {request : NotificationCall ⊕ InboxCall} (error : ThrownError) :
    marked user (⟨i, request, .error error⟩ : InboxEvent ι) = 0 := by
  rcases request with _ | call
  · rfl
  · cases call <;> rfl

/-- What a marking says to have marked is unread no longer. -/
theorem unreadOf_marked (userId : String) :
    unreadOf user (execute freshId now store (.updateManyRead userId)).1 +
        marked user (⟨i, .inr (.updateManyRead userId),
          (execute freshId now store (.updateManyRead userId)).2⟩ : InboxEvent ι) ≤
      unreadOf user store := by
  simp only [execute, castingId]
  cases hId : ObjectId.cast? userId with
  | none => exact Nat.le_refl _
  | some id =>
      by_cases hUser : id = user
      · subst hUser
        dsimp only [marked]
        rw [if_pos hId, unreadOf_modifyAll, Nat.zero_add]
        exact Nat.le_refl _
      · dsimp only [marked]
        rw [hId, if_neg fun h => hUser (Option.some.inj h)]
        exact unreadOf_update unread_ite store.entries.docs

variable [DatabaseRegex] [FractionalWindow]

/-- What one call does to the account of the unread notifications of a user. -/
theorem unreadOf_perform (user : ObjectId) (i : ι) (decision : InboxDecision) (store : InboxStore)
    (request : NotificationCall ⊕ InboxCall) :
    unreadOf user (inboxes.perform decision store request).1 +
        marked user (⟨i, request, (inboxes.perform decision store request).2⟩ : InboxEvent ι) ≤
      unreadOf user store + if delivers user request then 1 else 0 := by
  have hFailed {after : InboxStore} (error : ThrownError)
      (h : unreadOf user after ≤ unreadOf user store + if delivers user request then 1 else 0) :
      unreadOf user after + marked user (⟨i, request, .error error⟩ : InboxEvent ι) ≤
        unreadOf user store + if delivers user request then 1 else 0 := by
    rw [marked_error]
    exact h
  rcases request with call | call
  · rcases hFault : decision.fault with _ | error | error
    · simp [inboxes, faultedBy, hFault, marked]
    · simp only [inboxes, faultedBy, hFault]
      exact hFailed error (Nat.le_add_right _ _)
    · simp only [inboxes, faultedBy, hFault]
      exact hFailed error (Nat.le_add_right _ _)
  · rcases hFault : decision.fault with _ | error | error
    · simp only [inboxes, faultedBy, hFault]
      cases call with
      | updateManyRead userId => exact unreadOf_marked userId
      | _ => exact unreadOf_execute _
    · simp only [inboxes, faultedBy, hFault]
      exact hFailed error (Nat.le_add_right _ _)
    · simp only [inboxes, faultedBy, hFault]
      exact hFailed error (unreadOf_execute call)

/-- An acknowledged marking leaves nothing unread. -/
theorem unreadOf_acknowledged {decision : InboxDecision} {userId : String} {read : Nat}
    (hUser : ObjectId.cast? userId = some user)
    (h : (inboxes.perform decision store (.inr (.updateManyRead userId))).2 = .ok read) :
    unreadOf user (inboxes.perform decision store (.inr (.updateManyRead userId))).1 = 0 := by
  have hDone : inboxes.perform decision store (.inr (.updateManyRead userId)) =
      execute decision.freshId decision.now store (.updateManyRead userId) := faultedBy_ok h
  rw [hDone]
  simp only [execute, castingId, hUser]
  exact unreadOf_modifyAll _ _

/-- Deleted notifications are not counted. -/
theorem counted_le_unreadOf {decision : InboxDecision} {userId : String} {count : Nat}
    (hUser : ObjectId.cast? userId = some user)
    (h : (inboxes.perform decision store (.inr (.countUnread userId))).2 = .ok count) :
    count ≤ unreadOf user store := by
  have hDone : inboxes.perform decision store (.inr (.countUnread userId)) =
      execute decision.freshId decision.now store (.countUnread userId) := faultedBy_ok h
  rw [hDone] at h
  simp only [execute, castingId, hUser] at h
  cases h
  exact List.countP_mono_left fun entry _ hEntry => (Bool.and_eq_true_iff.mp hEntry).1

variable [DecidableEq ι] {requests : ι → InboxRequest} {point : Point inboxes ι InboxReply}

/-- Once a marking of all notifications is acknowledged, a count of the unread ones and the
markings acknowledged before it account for no more than was delivered since. -/
theorem marked_stays_read {later between earlier : List (InboxEvent ι)} {i j : ι}
    {userId countedId : String} {count read : Nat}
    (run : GuardedRun anyStep (inboxPool store requests) point)
    (hUser : ObjectId.cast? userId = some user) (hCounted : ObjectId.cast? countedId = some user)
    (hHistory : point.1 = later ++ ⟨j, .inr (.countUnread countedId), .ok count⟩ ::
      (between ++ ⟨i, .inr (.updateManyRead userId), .ok read⟩ :: earlier)) :
    count + (between.map (marked user)).sum ≤
      between.countP fun event => delivers user event.request := by
  obtain ⟨before, decision, j, request, next, prior, hBefore, -, hEvent⟩ := run.stepAt hHistory
  have hAccount : unreadOf user before.2.store + (between.map (marked user)).sum ≤
      between.countP fun event => delivers user event.request := by
    refine prior.since hBefore
      (fun events store => unreadOf user store + (events.map (marked user)).sum ≤
        events.countP fun event => delivers user event.request)
      (fun decision store hAnswer => ?_) fun events store decision i request ih => ?_
    · exact (unreadOf_acknowledged hUser hAnswer.symm).le
    · have hCall := unreadOf_perform user i decision store request
      rw [List.map_cons, List.sum_cons, List.countP_cons]
      change _ ≤ _ + if delivers user request then 1 else 0
      omega
  obtain ⟨rfl, rfl, hAnswer⟩ := Event.mk.inj hEvent
  have hCount := counted_le_unreadOf hCounted (eq_of_heq hAnswer).symm
  omega

end Runs

section Sample

private instance sampleRegex : DatabaseRegex where
  compile _ := .ok fun _ => false

private instance sampleWindow : FractionalWindow where
  window _ _ selected := .ok selected

private def sampleEntry (n : Fin 16) : InboxEntry where
  id := .repeated n
  userId := .repeated 11
  type := .system
  title := "Delayed"
  description := "The shipment is delayed."
  timestamp := ⟨0⟩
  deletedAt := none
  isRead := false
  updatedAt := ⟨0⟩

/-- Between a marking and a count a second notification is delivered. -/
private def sampleRequests (i : Fin 4) : InboxRequest :=
  if i = 0 then .deliver (sampleEntry 1)
  else if i = 1 then .markAllRead (ObjectId.repeated 11).toString
  else if i = 2 then .deliver (sampleEntry 2)
  else .unreadCount (ObjectId.repeated 11).toString

private def calm : InboxDecision :=
  ⟨.repeated 9, ⟨0⟩, none⟩

private def countedAfterMarking : List (InboxEvent (Fin 4)) → Bool
  | ⟨_, .inr (.countUnread countedId), .ok count⟩ :: _ ::
      ⟨_, .inr (.updateManyRead userId), .ok _⟩ :: _ =>
        decide (ObjectId.cast? countedId = some (.repeated 11)) &&
          decide (ObjectId.cast? userId = some (.repeated 11)) && Nat.beq count 1
  | _ => false

theorem marked_stays_read_sample :
    ∃ (point : Point inboxes (Fin 4) InboxReply) (between : List (InboxEvent (Fin 4))),
      GuardedRun anyStep (inboxPool ⟨.empty, .empty⟩ sampleRequests) point ∧
        1 + (between.map (marked (.repeated 11))).sum ≤
          between.countP fun event => delivers (.repeated 11) event.request := by
  obtain ⟨point, run, hTest⟩ := Pool.exists_run anyStep (inboxPool ⟨.empty, .empty⟩ sampleRequests)
    (fun point => countedAfterMarking point.1) [(calm, 0), (calm, 1), (calm, 2), (calm, 3)]
    (by decide +kernel)
  unfold countedAfterMarking at hTest
  split at hTest
  · rename_i j countedId count delivery i userId read earlier hHistory
    simp only [Bool.and_eq_true, decide_eq_true_eq] at hTest
    obtain ⟨⟨hCounted, hUser⟩, hCount⟩ := hTest
    cases Nat.eq_of_beq_eq_true hCount
    have hSplit : point.1 = [] ++ ⟨j, .inr (.countUnread countedId), .ok (1 : Nat)⟩ ::
        ([delivery] ++ ⟨i, .inr (.updateManyRead userId), .ok read⟩ :: earlier) := hHistory
    exact ⟨point, [delivery], run, marked_stays_read run hUser hCounted hSplit⟩
  · cases hTest

end Sample

end Navin.Inbox
