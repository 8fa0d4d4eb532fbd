import Navin.Notifications.Inbox
import Navin.Semantics.Noninterference

/-! Users do not notice each other. However requests of any users interleave and fail, what
the requests of one are answered, and the notifications and preferences the user is left with,
does not depend on the others being there. -/
namespace Navin.Inbox

open Async Program

/-- The user a request acts for, if it has a well-formed one. -/
abbrev Owner : Type :=
  Option ObjectId

/-- A call on behalf of a user. -/
def actsFor (user : Owner) : NotificationCall ⊕ InboxCall → Prop
  | .inl (.find filter _ _) | .inl (.countDocuments filter) => ObjectId.cast? filter.userId = user
  | .inr .currentDate => True
  | .inr (.findOneAndUpdate _ userId _) | .inr (.updateManyRead userId)
  | .inr (.countUnread userId) | .inr (.preferenceFind userId)
  | .inr (.preferenceUpsert userId _ _ _) => ObjectId.cast? userId = user
  | .inr (.deliver entry) => some entry.userId = user

/-- What is stored of one user. -/
def InboxStore.only (user : Owner) (store : InboxStore) : InboxStore where
  entries := store.entries.filter fun entry => some entry.userId = user
  preferences := store.preferences.filter fun preference => some preference.userId = user

variable {user other : Owner} {id : ObjectId}

section Calls

variable {freshId : ObjectId} {now : Date} {store : InboxStore}

theorem selected_owner {entry : InboxEntry} (h : entry.selected id = true) : entry.userId = id := by
  simp only [InboxEntry.selected, Bool.and_eq_true, decide_eq_true_eq] at h
  exact h.1

theorem unread_owner {entry : InboxEntry} (h : entry.unread id = true) : entry.userId = id := by
  simp only [InboxEntry.unread, Bool.and_eq_true, decide_eq_true_eq] at h
  exact h.1

theorem preference_owner {preference : NotificationPreference} {event : NotificationEvent}
    {channel : NotificationChannel} (h : preference.selected id event channel = true) :
    preference.userId = id := by
  simp only [NotificationPreference.selected, Bool.and_eq_true, decide_eq_true_eq] at h
  exact h.1

/-- A call for another user changes nothing of what the user has. -/
theorem execute_unnoticed {call : InboxCall} (hOther : other ≠ user) (hCall : actsFor other (.inr call)) :
    (execute freshId now store call).1.only user = store.only user := by
  have hForeign {id : ObjectId} {userId : String} (hId : ObjectId.cast? userId = some id)
      (hActs : ObjectId.cast? userId = other) : some id ≠ user :=
    fun h => hOther (hActs.symm.trans (hId.trans h))
  cases call with
  | currentDate => rfl
  | countUnread userId =>
      simp only [execute, castingId]
      split <;> rfl
  | preferenceFind userId =>
      simp only [execute, castingId]
      split <;> rfl
  | findOneAndUpdate id userId update =>
      simp only [execute, castingId]
      split
      · rfl
      · split
        · rfl
        · rename_i owner hOwner
          split
          · rfl
          · rename_i entry hFound
            obtain ⟨hThere, hSelected⟩ := Option.filter_eq_some_iff.mp hFound
            rw [InboxStore.only, Collection.filter_modify_unseen]
            · rfl
            · intro doc
              simp
            · intro doc hDoc
              cases hDoc.symm.trans hThere
              rw [selected_owner hSelected]
              exact decide_eq_false (hForeign hOwner hCall)
  | updateManyRead userId =>
      simp only [execute, castingId]
      split
      · rfl
      · rename_i owner hOwner
        rw [InboxStore.only, Collection.filter_modifyAll_unseen]
        · rfl
        · intro doc
          simp
        · intro doc hDoc
          rw [unread_owner hDoc]
          exact decide_eq_false (hForeign hOwner hCall)
  | preferenceUpsert userId event channel enabled =>
      simp only [execute, castingId]
      split
      · rfl
      · rename_i owner hOwner
        split
        · rename_i preference hFound
          rw [InboxStore.only, Collection.filter_modify_unseen]
          · rfl
          · intro doc
            rfl
          · intro doc hDoc
            rw [store.preferences.get?_of_mem (List.mem_of_find?_eq_some hFound)] at hDoc
            cases hDoc
            have hSelected := List.find?_some hFound
            rw [preference_owner hSelected]
            exact decide_eq_false (hForeign hOwner hCall)
        · split
          · rw [InboxStore.only, Collection.filter_insert_unseen]
            · rfl
            · exact decide_eq_false (hForeign hOwner hCall)
          · rfl
  | deliver entry =>
      simp only [execute]
      split
      · rw [InboxStore.only, Collection.filter_insert_unseen]
        · rfl
        · exact decide_eq_false fun h => hOther (hCall.symm.trans h)
      · rfl

theorem countP_filter {q p : InboxEntry → Bool} (h : ∀ entry, q entry = true → p entry = true)
    (entries : Entries) : (entries.filter p).docs.countP q = entries.docs.countP q := by
  rw [List.countP_eq_length_filter, List.countP_eq_length_filter,
    entries.filter_filter_of_imp h]

/-- A listing for the user reads only what is stored of the user. -/
theorem executeNotifications_only [DatabaseRegex] [FractionalWindow] {call : NotificationCall}
    (hCall : actsFor user (.inl call)) :
    executeNotifications (store.only user).entries.notifications call =
      executeNotifications store.entries.notifications call := by
  have hSelect (filter : NotificationFilter) (hUser : ObjectId.cast? filter.userId = user) :
      selectNotifications (store.only user).entries.notifications filter =
        selectNotifications store.entries.notifications filter := by
    unfold selectNotifications
    cases hId : ObjectId.cast? filter.userId with
    | none => rfl
    | some id =>
        cases hId.symm.trans hUser
        refine congrArg (fun select => filter.found.map select) (funext fun found => ?_)
        change ((store.entries.filter _).docs.map InboxEntry.toNotification).filter _ =
          (store.entries.docs.map InboxEntry.toNotification).filter _
        rw [List.filter_map, List.filter_map, Collection.filter_filter_of_imp]
        intro entry hEntry
        simp only [Function.comp_apply, Bool.and_eq_true, decide_eq_true_eq] at hEntry
        exact decide_eq_true (congrArg some hEntry.2.1.1)
  cases call with
  | find filter skip limit => simp only [executeNotifications, hSelect filter hCall]
  | countDocuments filter => simp only [executeNotifications, hSelect filter hCall]

/-- A call for the user is answered from what is stored of the user, except that an identifier
may be taken by a document of another. -/
theorem execute_answered {call : InboxCall} (hCall : actsFor user (.inr call)) :
    ((execute freshId now (store.only user) call).2 = (execute freshId now store call).2 ∧
      (execute freshId now (store.only user) call).1 =
        (execute freshId now store call).1.only user) ∨
      execute freshId now store call = (store, .error .duplicateKey) := by
  cases call with
  | currentDate => exact .inl ⟨rfl, rfl⟩
  | countUnread userId =>
      refine .inl ?_
      simp only [execute, castingId]
      split
      · exact ⟨rfl, rfl⟩
      · rename_i owner hOwner
        cases hOwner.symm.trans hCall
        refine ⟨congrArg Except.ok (countP_filter (fun entry h => ?_) _), rfl⟩
        exact decide_eq_true (congrArg some (unread_owner (Bool.and_eq_true_iff.mp h).1))
  | preferenceFind userId =>
      refine .inl ?_
      simp only [execute, castingId]
      split
      · exact ⟨rfl, rfl⟩
      · rename_i owner hOwner
        cases hOwner.symm.trans hCall
        refine ⟨congrArg Except.ok (Collection.filter_filter_of_imp _ fun preference h => ?_), rfl⟩
        exact decide_eq_true (congrArg some (of_decide_eq_true h))
  | findOneAndUpdate id userId update =>
      refine .inl ?_
      simp only [execute, castingId]
      split
      · exact ⟨rfl, rfl⟩
      · rename_i id _
        split
        · exact ⟨rfl, rfl⟩
        · rename_i owner hOwner
          cases hOwner.symm.trans hCall
          have hFind : ((store.only (some owner)).entries.get? id).filter (·.selected owner) =
              (store.entries.get? id).filter (·.selected owner) :=
            store.entries.get?_filter_filter
              (fun entry h => decide_eq_true (congrArg some (selected_owner h))) id
          rw [hFind]
          split
          · exact ⟨rfl, rfl⟩
          · refine ⟨rfl, congrArg (InboxStore.mk · _) (store.entries.filter_modify _ ?_).symm⟩
            intro entry
            simp
  | updateManyRead userId =>
      refine .inl ?_
      simp only [execute, castingId]
      split
      · exact ⟨rfl, rfl⟩
      · rename_i owner hOwner
        cases hOwner.symm.trans hCall
        refine ⟨congrArg Except.ok (countP_filter (fun entry h => ?_) _),
          congrArg (InboxStore.mk · _) (store.entries.filter_modifyAll _ ?_).symm⟩
        · exact decide_eq_true (congrArg some (unread_owner h))
        · intro entry
          simp
  | preferenceUpsert userId event channel enabled =>
      simp only [execute, castingId]
      split
      · exact .inl ⟨rfl, rfl⟩
      · rename_i owner hOwner
        cases hOwner.symm.trans hCall
        have hFind : (store.only (some owner)).preferences.docs.find?
            (·.selected owner event channel) =
              store.preferences.docs.find? (·.selected owner event channel) :=
          store.preferences.find?_filter_of_imp
            fun preference h => decide_eq_true (congrArg some (preference_owner h))
        rw [hFind]
        split
        · refine .inl ⟨rfl, congrArg (InboxStore.mk _) (store.preferences.filter_modify _ ?_).symm⟩
          intro preference
          rfl
        · by_cases hFree : store.preferences.get? freshId = none
          · have hPart := store.preferences.get?_filter_eq_none hFree
              fun preference => some preference.userId = some owner
            rw [dif_pos hFree, InboxStore.only, dif_pos hPart]
            exact .inl ⟨rfl, congrArg (InboxStore.mk _)
              (store.preferences.filter_insert hFree hPart (decide_eq_true rfl)).symm⟩
          · exact .inr (dif_neg hFree)
  | deliver entry =>
      subst hCall
      simp only [execute]
      by_cases hFree : store.entries.get? entry.id = none
      · have hPart := store.entries.get?_filter_eq_none hFree
          fun other => some other.userId = some entry.userId
        rw [dif_pos hFree, InboxStore.only, dif_pos hPart]
        exact .inl ⟨rfl, congrArg (InboxStore.mk · _)
          (store.entries.filter_insert hFree hPart (decide_eq_true rfl)).symm⟩
      · exact .inr (dif_neg hFree)

variable [DatabaseRegex] [FractionalWindow]

/-- The calls on behalf of users keep what is stored of them apart. -/
theorem separates :
    Separates inboxes actsFor fun user store part => part = InboxStore.only user store where
  unnoticed {user other call store part} hOther hCall hPart decision := by
    subst hPart
    cases call with
    | inl call =>
        exact (@faultedBy_view _ _ _ decision.fault store (store, _) (InboxStore.only user) rfl).symm
    | inr call => exact (faultedBy_view (InboxStore.only user) (execute_unnoticed hOther hCall)).symm
  answered {user call store part} hCall hPart decision := by
    subst hPart
    cases call with
    | inl call =>
        exact ⟨decision, faultedBy_related (R := fun store part => part = InboxStore.only user store)
          rfl (executeNotifications_only hCall) rfl⟩
    | inr call =>
        obtain ⟨fault, hRelated⟩ :=
          exists_fault_related (R := fun store part => part = InboxStore.only user store) rfl
            ((execute_answered hCall).imp id fun h => ⟨_, h⟩)
        exact ⟨{ decision with fault }, hRelated⟩

end Calls

section Requests

/-- The user a request acts for. -/
def InboxRequest.owner : InboxRequest → Owner
  | .getNotifications userId _ | .markRead userId _ | .markAllRead userId | .delete userId _
  | .unreadCount userId | .getPreferences userId | .updatePreference userId _ _ _ =>
      ObjectId.cast? userId
  | .deliver entry => some entry.userId

theorem uses_orNotFound {C : NotificationCall ⊕ InboxCall → Prop} (found : Option InboxEntry) :
    (orNotFound found).Uses C := by
  cases found with
  | none => exact .throw
  | some entry => exact .pure

/-- A request calls on behalf of its user only. -/
theorem uses_program (request : InboxRequest) : request.program.Uses (actsFor request.owner) := by
  have hAsk {owner : Owner} (call : InboxCall) (h : actsFor owner (.inr call)) :
      (ask call).Uses (actsFor owner) := .await h
  cases request with
  | getNotifications userId query =>
      refine (Uses.lift (Uses.bind (Uses.promiseAll ?_ ?_) fun _ => .pure)).bind fun _ => .pure
      · exact .await rfl
      · exact .await rfl
  | markRead userId id =>
      exact ((hAsk (.findOneAndUpdate id userId .isRead) rfl).bind uses_orNotFound).bind
        fun _ => .pure
  | markAllRead userId => exact (hAsk (.updateManyRead userId) rfl).bind fun _ => .pure
  | delete userId id =>
      have hDelete (now : Date) := hAsk (.findOneAndUpdate id userId (.deletedAt now)) rfl
      exact ((hAsk .currentDate trivial).bind fun now => (hDelete now).bind uses_orNotFound).bind
        fun _ => .pure
  | unreadCount userId => exact (hAsk (.countUnread userId) rfl).bind fun _ => .pure
  | getPreferences userId => exact (hAsk (.preferenceFind userId) rfl).bind fun _ => .pure
  | updatePreference userId event channel enabled =>
      refine ((hAsk (.preferenceUpsert userId event channel enabled) rfl).bind fun found => ?_).bind
        fun _ => .pure
      cases found with
      | none => exact .throw
      | some preference => exact .pure
  | deliver entry => exact (hAsk (.deliver entry) rfl).bind fun _ => .pure

end Requests

section Runs

variable [DatabaseRegex] [FractionalWindow] {ι : Type} [DecidableEq ι] {store : InboxStore}
  {requests : ι → InboxRequest} {point : Point inboxes ι InboxReply}

/-- Whatever is called on behalf of a user while others are served, and however it settles,
could be seen by the requests of the user alone on a database that holds nothing else, and
what the user is left with is the same. -/
theorem users_served_alone (run : GuardedRun anyStep (inboxPool store requests) point) (user : Owner) :
    ∃ alone, GuardedRun (actingFor (fun i => (requests i).owner) user)
        (inboxPool (store.only user) requests) alone ∧
      alone.1 = point.1.filter (fun event => (requests event.thread).owner = user) ∧
      alone.2.store = InboxStore.only user point.2.store ∧
      ∀ i, (requests i).owner = user → alone.2.thread i = point.2.thread i :=
  separates.alone (fun i => uses_program (requests i)) run rfl

end Runs

section Sample

private instance loneRegex : DatabaseRegex where
  compile _ := .ok fun _ => false

private instance loneWindow : FractionalWindow where
  window _ _ selected := .ok selected

private def delayed (user : Fin 16) : InboxEntry where
  id := .repeated user
  userId := .repeated user
  type := .system
  title := "Delayed"
  description := "The shipment is delayed."
  timestamp := ⟨0⟩
  deletedAt := none
  isRead := false
  updatedAt := ⟨0⟩

/-- Two users get a notification each, and one of them counts. -/
private def countingRequests (i : Fin 3) : InboxRequest :=
  if i = 0 then .deliver (delayed 11)
  else if i = 1 then .deliver (delayed 12)
  else .unreadCount (ObjectId.repeated 12).toString

private def undisturbed : InboxDecision :=
  ⟨.repeated 9, ⟨0⟩, none⟩

theorem users_served_alone_sample :
    ∃ point alone, GuardedRun anyStep (inboxPool ⟨.empty, .empty⟩ countingRequests) point ∧
      point.1.length = 3 ∧
      GuardedRun (actingFor (fun i => (countingRequests i).owner) (some (.repeated 12)))
        (inboxPool (InboxStore.only (some (.repeated 12)) ⟨.empty, .empty⟩) countingRequests) alone ∧
      alone.1 =
        point.1.filter (fun event => (countingRequests event.thread).owner = some (.repeated 12)) := by
  obtain ⟨point, run, hTest⟩ := Pool.exists_run anyStep
    (inboxPool ⟨.empty, .empty⟩ countingRequests) (fun point => point.1.length = 3)
    [(undisturbed, 0), (undisturbed, 1), (undisturbed, 2)] (by decide +kernel)
  obtain ⟨alone, runAlone, hHistory, -, -⟩ := users_served_alone run (some (.repeated 12))
  exact ⟨point, alone, run, of_decide_eq_true hTest, runAlone, hHistory⟩

end Sample

end Navin.Inbox
