import Navin.Realtime.SocketIo

/-! Who is in the rooms, and whom the events of a shipment reach. -/
namespace Navin.SocketIo

open Async Sse

section Registry

/-- The rooms hold connected sockets only, and the users are those of the connected
sockets. -/
structure SocketStore.Registered (store : SocketStore) : Prop where
  connected : ∀ socket room, (socket, room) ∈ store.rooms → socket ∈ store.sockets
  unique : ∀ first ∈ store.sockets, ∀ second ∈ store.sockets, first.id = second.id → first = second
  users : ∀ key userId, store.activeUsers key = some userId ↔
    ∃ socket ∈ store.sockets, socket.id = key ∧ truthy socket.user.userId = some userId

theorem SocketStore.registered_empty : SocketStore.Registered {} := by
  constructor
  · intro _ _ hMember
    cases hMember
  · intro _ hFirst
    cases hFirst
  · intro key userId
    simp

variable {store : SocketStore} {socket : Socket}

theorem SocketStore.Registered.connect (h : store.Registered)
    (hFresh : ∀ other ∈ store.sockets, other.id ≠ socket.id) :
    (store.connect socket).Registered := by
  constructor
  · intro member room hMember
    rcases List.mem_cons.mp hMember with hNew | hOld
    · rw [(Prod.mk.inj hNew).1]
      exact List.mem_cons_self
    · exact List.mem_cons_of_mem _ (h.connected member room hOld)
  · intro first hFirst second hSecond hId
    rcases List.mem_cons.mp hFirst with rfl | hOld
    · rcases List.mem_cons.mp hSecond with rfl | hOther
      · rfl
      · exact absurd hId.symm (hFresh second hOther)
    · rcases List.mem_cons.mp hSecond with rfl | hOther
      · exact absurd hId (hFresh first hOld)
      · exact h.unique first hOld second hOther hId
  · intro key userId
    have hOld := h.users key userId
    simp only [SocketStore.connect, List.exists_mem_cons_iff]
    cases hUser : truthy socket.user.userId with
    | none => simpa using hOld
    | some own =>
        by_cases hKey : key = socket.id
        · subst hKey
          have hNone : ¬∃ other ∈ store.sockets, other.id = socket.id ∧
              truthy other.user.userId = some userId := by
            rintro ⟨other, hOther, hId, -⟩
            exact hFresh other hOther hId
          simp [hNone]
        · simpa [hKey, Ne.symm hKey] using hOld

theorem SocketStore.Registered.disconnect (h : store.Registered) (hSocket : socket ∈ store.sockets) :
    (store.disconnect socket).Registered := by
  constructor
  · intro member room hMember
    simp only [SocketStore.disconnect, List.mem_filter, decide_eq_true_eq] at hMember ⊢
    exact ⟨h.connected member room hMember.1.1, hMember.2⟩
  · intro first hFirst second hSecond hId
    exact h.unique first (List.mem_filter.mp hFirst).1 second (List.mem_filter.mp hSecond).1 hId
  · intro key userId
    have hOld := h.users key userId
    simp only [SocketStore.disconnect, List.mem_filter, decide_eq_true_eq]
    by_cases hKey : key = socket.id
    · subst hKey
      simp only [Function.update_self, reduceCtorEq, false_iff]
      rintro ⟨other, ⟨hOther, hNe⟩, hId, -⟩
      exact hNe (h.unique other hOther socket hSocket hId)
    · rw [Function.update_of_ne hKey, hOld]
      constructor
      · rintro ⟨other, hOther, hId, hUser⟩
        refine ⟨other, ⟨hOther, ?_⟩, hId, hUser⟩
        rintro rfl
        exact hKey hId.symm
      · rintro ⟨other, ⟨hOther, -⟩, hId, hUser⟩
        exact ⟨other, hOther, hId, hUser⟩

variable [DateText] [QueryOperators]

/-- Whatever is asked of the server, its registry stays in order. -/
theorem SocketStore.Registered.serve (h : store.Registered) (request : SocketCall) :
    SocketStore.Registered (SocketIo.serve store request).1 := by
  cases request with
  | connection socket =>
      simp only [SocketIo.serve]
      split
      · exact h
      · rename_i hFresh
        exact h.connect (by simpa using hFresh)
  | disconnect socket =>
      simp only [SocketIo.serve]
      split_ifs with hSocket
      · exact h.disconnect hSocket
      · exact h
  | join socket room =>
      simp only [SocketIo.serve]
      split_ifs with hJoin
      · refine ⟨fun member entered hMember => ?_, h.unique, h.users⟩
        rcases List.mem_cons.mp hMember with hNew | hOld
        · rw [(Prod.mk.inj hNew).1]
          exact hJoin.1
        · exact h.connected member entered hOld
      · exact h
  | leave socket room =>
      exact ⟨fun member entered hMember => h.connected member entered (List.mem_filter.mp hMember).1,
        h.unique, h.users⟩
  | emit socket message =>
      simp only [SocketIo.serve]
      split_ifs
      · exact ⟨h.connected, h.unique, h.users⟩
      · exact h
  | findShipment shipmentId => exact h
  | emitToRoom room message => exact ⟨h.connected, h.unique, h.users⟩
  | database shipments outage => exact ⟨h.connected, h.unique, h.users⟩

/-- How a socket can be in a room after a call: it was, or it has just connected, or it
has joined. -/
theorem mem_rooms_of_serve {request : SocketCall} {room : String}
    (h : (socket, room) ∈ (serve store request).1.rooms) :
    (socket, room) ∈ store.rooms ∨ room = socket.id ∨ request = .join socket room := by
  cases request with
  | connection other =>
      simp only [serve] at h
      split at h
      · exact .inl h
      · rcases List.mem_cons.mp h with hNew | hOld
        · obtain ⟨rfl, rfl⟩ := Prod.mk.inj hNew
          exact .inr (.inl rfl)
        · exact .inl hOld
  | disconnect other =>
      simp only [serve] at h
      split_ifs at h
      · exact .inl (List.mem_filter.mp (List.mem_filter.mp h).1).1
      · exact .inl h
  | join other entered =>
      simp only [serve] at h
      split_ifs at h
      · rcases List.mem_cons.mp h with hNew | hOld
        · obtain ⟨rfl, rfl⟩ := Prod.mk.inj hNew
          exact .inr (.inr rfl)
        · exact .inl hOld
      · exact .inl h
  | leave other left => exact .inl (List.mem_filter.mp h).1
  | emit other message =>
      simp only [serve] at h
      split_ifs at h <;> exact .inl h
  | findShipment shipmentId => exact .inl h
  | emitToRoom entered message => exact .inl h
  | database shipments outage => exact .inl h

end Registry

section Handlers

variable [DateText]

/-- A thread with its activity, and what its lookup has found. -/
structure Handler where
  activity : Activity
  found : Option Shipment

/-- The room of a message, and the shipment that was found for it. -/
def Handler.Admits (handler : Handler) (socket : Socket) (room : String) : Prop :=
  ∃ shipmentId text shipment organizationId,
    handler.activity = .joinShipment socket shipmentId ∧ handler.found = some shipment ∧
      shipmentId.text? = some text ∧ room = shipmentRoomName text ∧
        truthy socket.user.organizationId = some organizationId ∧
          ownedBy shipment organizationId = true

/-- A handler looks up what its message names, joins only where it has found the
socket's organisation, and sends no shipment's event to a single socket or to another
room. -/
def admitsWhatItFound : Protocol SocketCall SocketCall.Answer SocketError Handler where
  allows handler
    | .findShipment shipmentId => ∃ socket, handler.activity = .joinShipment socket shipmentId
    | .join socket room => handler.Admits socket room
    | .emit _ message => ∀ emission, message ≠ .shipment emission
    | .emitToRoom room message => ∀ emission, message = .shipment emission →
        room = shipmentRoomName emission.shipmentId
    | _ => True
  next handler request response :=
    match request, response with
    | .findShipment _, .ok found => { handler with found }
    | _, _ => handler

variable {socket : Socket} {shipmentId : Value} {handler : Handler}

theorem joinShipmentRoom_follows (h : handler.activity = .joinShipment socket shipmentId) :
    (joinShipmentRoom socket shipmentId).Follows admitsWhatItFound (fun _ _ => True) handler := by
  have hRefuse (handler : Handler) : (call (.emit socket unauthorized)).Follows admitsWhatItFound
      (fun _ _ => True) handler :=
    Program.follows_await.mpr ⟨fun _ hMessage => (by cases hMessage), fun _ => trivial⟩
  rw [joinShipmentRoom, isAuthorizedForShipment]
  split
  · rename_i organizationId hTruthy hOrganization
    rw [bind_assoc]
    apply Program.Follows.await_bind
    · exact ⟨socket, h⟩
    · exact fun _ => trivial
    · intro found
      rw [pure_bind]
      split_ifs with hOwned
      · rw [Option.any_eq_true] at hOwned
        obtain ⟨shipment, hFound, hParty⟩ := hOwned
        rw [roomOfMessage]
        split
        · trivial
        · rename_i text hText
          rw [pure_bind]
          apply Program.Follows.await_bind
          · exact ⟨shipmentId, text, shipment, organizationId, h, hFound, hText, rfl,
              hOrganization, hParty⟩
          · exact fun _ => trivial
          · intro _
            exact Program.follows_await.mpr
              ⟨fun _ hMessage => (by cases hMessage), fun _ => trivial⟩
      · exact hRefuse _
  · rw [pure_bind]
    exact hRefuse _

theorem leaveShipmentRoom_follows : (leaveShipmentRoom socket shipmentId).Follows
    admitsWhatItFound (fun _ _ => True) handler := by
  rw [leaveShipmentRoom, roomOfMessage]
  split
  · trivial
  · rw [pure_bind]
    apply Program.Follows.await_bind
    · trivial
    · exact fun _ => trivial
    · intro _
      exact Program.follows_await.mpr ⟨fun _ hMessage => (by cases hMessage), fun _ => trivial⟩

theorem emitToShipmentRoom_follows (emission : SocketEmission) :
    (emitToShipmentRoom emission).Follows admitsWhatItFound (fun _ _ => True) handler := by
  refine Program.follows_await.mpr ⟨fun sent hSent => ?_, fun _ => trivial⟩
  rw [SocketMessage.shipment.inj hSent]

theorem Activity.program_follows (activity : Activity) :
    activity.program.Follows admitsWhatItFound (fun _ _ => True) ⟨activity, none⟩ := by
  cases activity with
  | joinShipment socket shipmentId => exact joinShipmentRoom_follows rfl
  | leaveShipment socket shipmentId => exact leaveShipmentRoom_follows
  | anomalyDetected shipmentId anomaly => exact emitToShipmentRoom_follows _
  | telemetryUpdate shipmentId telemetry => exact emitToShipmentRoom_follows _
  | statusUpdate shipmentId statusData => exact emitToShipmentRoom_follows _
  | paymentStatusChange shipmentId payment => exact emitToShipmentRoom_follows _
  | notificationNew recipientId notification =>
      exact Program.follows_await.mpr ⟨fun _ hMessage => (by cases hMessage), fun _ => trivial⟩
  | connection socket => exact Program.follows_await.mpr ⟨trivial, fun _ => trivial⟩
  | disconnect socket => exact Program.follows_await.mpr ⟨trivial, fun _ => trivial⟩
  | database shipments outage => exact Program.follows_await.mpr ⟨trivial, fun _ => trivial⟩

end Handlers

section Runs

variable [DateText] [QueryOperators] {ι : Type} [DecidableEq ι] (activities : ι → Activity)
  {history : List (SocketEvent ι)}

/-- What the handlers of a server have found, from the events so far. -/
def handlers (history : List (SocketEvent ι)) : ι → Handler :=
  admitsWhatItFound.after (fun i => ⟨activities i, none⟩) history

omit [QueryOperators] [DecidableEq ι] in
theorem next_activity (handler : Handler) (event : SocketEvent ι) :
    (admitsWhatItFound.next handler event.request event.response).activity = handler.activity := by
  obtain ⟨thread, request, response⟩ := event
  cases request with
  | findShipment shipmentId => cases response <;> rfl
  | _ => rfl

omit [QueryOperators] [DecidableEq ι] in
/-- A handler learns of a shipment from the answer to its lookup. -/
theorem next_found {handler : Handler} {event : SocketEvent ι} {shipment : Shipment}
    (h : (admitsWhatItFound.next handler event.request event.response).found = some shipment) :
    handler.found = some shipment ∨
      ∃ shipmentId, event = ⟨event.thread, .findShipment shipmentId, .ok (some shipment)⟩ := by
  obtain ⟨thread, request, response⟩ := event
  cases request with
  | findShipment shipmentId =>
      cases response with
      | error error => exact .inl h
      | ok found =>
          have hFound : found = some shipment := h
          subst hFound
          exact .inr ⟨shipmentId, rfl⟩
  | _ => exact .inl h

omit [QueryOperators] in
theorem handlers_activity (i : ι) : (handlers activities history i).activity = activities i := by
  induction history with
  | nil => rfl
  | cons event earlier ih =>
      by_cases hi : i = event.thread
      · subst hi
        rw [handlers, Protocol.after_cons_self, next_activity]
        exact ih
      · rw [handlers, Protocol.after_cons_of_ne _ _ _ hi]
        exact ih

omit [QueryOperators] in
/-- What a handler has found, it was answered. -/
theorem found_was_answered {i : ι} {shipment : Shipment}
    (h : (handlers activities history i).found = some shipment) :
    ∃ shipmentId, (⟨i, .findShipment shipmentId, .ok (some shipment)⟩ : SocketEvent ι) ∈ history := by
  induction history with
  | nil => cases h
  | cons event earlier ih =>
      have hOlder (hFound : (handlers activities earlier i).found = some shipment) :
          ∃ shipmentId, (⟨i, .findShipment shipmentId, .ok (some shipment)⟩ : SocketEvent ι) ∈
            event :: earlier := by
        obtain ⟨shipmentId, hMem⟩ := ih hFound
        exact ⟨shipmentId, List.mem_cons_of_mem _ hMem⟩
      by_cases hi : i = event.thread
      · subst hi
        rw [handlers, Protocol.after_cons_self] at h
        rcases next_found h with hBefore | ⟨shipmentId, hEvent⟩
        · exact hOlder hBefore
        · exact ⟨shipmentId, hEvent ▸ List.mem_cons_self⟩
      · rw [handlers, Protocol.after_cons_of_ne _ _ _ hi] at h
        exact hOlder h

/-- The lookup for a message has found a shipment of the socket's organisation, and the
room is the one the message names. -/
def Granted (history : List (SocketEvent ι)) (socket : Socket) (room : String) : Prop :=
  ∃ i shipmentId text shipment organizationId,
    activities i = .joinShipment socket shipmentId ∧
      (⟨i, .findShipment shipmentId, .ok (some shipment)⟩ : SocketEvent ι) ∈ history ∧
      shipmentId.text? = some text ∧ room = shipmentRoomName text ∧
        truthy socket.user.organizationId = some organizationId ∧
          ownedBy shipment organizationId = true

/-- The events of a run and the rooms they have led to. -/
structure Accounted (history : List (SocketEvent ι)) (store : SocketStore) : Prop where
  registered : store.Registered
  answered : ∀ i shipmentId shipment,
    (⟨i, .findShipment shipmentId, .ok (some shipment)⟩ : SocketEvent ι) ∈ history →
      (∃ socket, activities i = .joinShipment socket shipmentId) ∧
        ∃ accepts, idFilter shipmentId = some accepts ∧ accepts shipment.id = true
  entered : ∀ socket room, (socket, room) ∈ store.rooms →
    room = socket.id ∨ Granted activities history socket room

theorem findById_eq_some {store : SocketStore} {shipmentId : Value} {shipment : Shipment}
    (h : store.findById shipmentId = .ok (some shipment)) :
    shipment ∈ store.shipments.docs ∧
      ∃ accepts, idFilter shipmentId = some accepts ∧ accepts shipment.id = true := by
  unfold SocketStore.findById at h
  cases hFilter : idFilter shipmentId with
  | none =>
      rw [hFilter] at h
      cases h
  | some accepts =>
      simp only [hFilter] at h
      split at h
      · cases h
      · have hFound := Except.ok.inj h
        have hAccepted := List.find?_some hFound
        rw [Bool.and_eq_true] at hAccepted
        exact ⟨List.mem_of_find?_eq_some hFound, accepts, rfl, hAccepted.1⟩

theorem Accounted.step {store : SocketStore} {i : ι} {request : SocketCall}
    (h : Accounted activities history store)
    (hAllows : admitsWhatItFound.allows (handlers activities history i) request) :
    Accounted activities (⟨i, request, (serve store request).2⟩ :: history)
      (serve store request).1 := by
  have hGranted {socket : Socket} {room : String} (hOld : Granted activities history socket room) :
      Granted activities (⟨i, request, (serve store request).2⟩ :: history) socket room := by
    obtain ⟨j, shipmentId, text, shipment, organizationId, hActivity, hMem, hRest⟩ := hOld
    exact ⟨j, shipmentId, text, shipment, organizationId, hActivity,
      List.mem_cons_of_mem _ hMem, hRest⟩
  have hActivity : (handlers activities history i).activity = activities i :=
    handlers_activity activities i
  constructor
  · exact h.registered.serve request
  · intro j shipmentId shipment hMem
    rcases List.mem_cons.mp hMem with hNew | hOld
    · obtain rfl : SocketCall.findShipment shipmentId = request := congrArg Event.request hNew
      rw [Event.mk.injEq] at hNew
      obtain ⟨rfl, -, hResponse⟩ := hNew
      obtain ⟨socket, hJoin⟩ := hAllows
      exact ⟨⟨socket, hActivity.symm.trans hJoin⟩,
        (findById_eq_some (eq_of_heq hResponse).symm).2⟩
    · exact h.answered j shipmentId shipment hOld
  · intro socket room hMember
    rcases mem_rooms_of_serve hMember with hOld | hOwn | rfl
    · exact (h.entered socket room hOld).imp_right hGranted
    · exact .inl hOwn
    · obtain ⟨shipmentId, text, shipment, organizationId, hJoin, hFound, hRest⟩ := hAllows
      obtain ⟨asked, hMem⟩ := found_was_answered activities hFound
      have hAsked := (h.answered i asked shipment hMem).1
      obtain ⟨other, hOther⟩ := hAsked
      obtain ⟨-, rfl⟩ := Activity.joinShipment.inj ((hActivity.symm.trans hJoin).symm.trans hOther)
      exact .inr ⟨i, shipmentId, text, shipment, organizationId, hActivity.symm.trans hJoin,
        List.mem_cons_of_mem _ hMem, hRest⟩

variable {activities} {before after : Point socketWorld ι Unit}

theorem accounted_of_run (run : GuardedRun anyStep (server activities) before) :
    Accounted activities before.1 before.2.store := by
  apply run.invariant admitsWhatItFound (fun i => ⟨activities i, none⟩)
    (fun i => (activities i).program_follows) (Accounted activities)
  · constructor
    · exact SocketStore.registered_empty
    · intro _ _ _ hMem
      cases hMem
    · intro _ _ hMem
      cases hMem
  · intro history store _ i request hInv hAllows _
    exact hInv.step activities hAllows

/-- What a shipment's room holds, and whom the server knows to be there. -/
structure RoomLaw (activities : ι → Activity) (point : Point socketWorld ι Unit) : Prop where
  members : ∀ shipmentId id socket, ObjectId.cast? shipmentId = some id →
    (socket, shipmentRoomName shipmentId) ∈ point.2.store.rooms →
      socket ∈ point.2.store.sockets ∧ ∃ i message shipment organizationId,
        activities i = .joinShipment socket message ∧
          (⟨i, .findShipment message, .ok (some shipment)⟩ : SocketEvent ι) ∈ point.1 ∧
          shipment.id = id ∧ truthy socket.user.organizationId = some organizationId ∧
            ownedBy shipment organizationId = true
  activeUsers : ∀ key userId, point.2.store.activeUsers key = some userId ↔
    ∃ socket ∈ point.2.store.sockets, socket.id = key ∧ truthy socket.user.userId = some userId

/-- Between two states, the events of a shipment are sent to sockets in its room. -/
def DeliveryLaw (before after : SocketStore) : Prop :=
  ∃ sent, after.received = sent ++ before.received ∧
    ∀ socket emission, (socket, SocketMessage.shipment emission) ∈ sent →
      (socket, shipmentRoomName emission.shipmentId) ∈ before.rooms

omit [DateText] [QueryOperators] in
theorem shipmentRoomName_injective : Function.Injective shipmentRoomName := by
  intro first second h
  have hLists := congrArg String.toList h
  simp only [shipmentRoomName, String.toList_append, List.append_cancel_left_eq] at hLists
  exact String.toList_injective hLists

omit [DateText] [QueryOperators] in
/-- No socket has the name of a shipment's room for its id. -/
theorem shipmentRoomName_ne_id {shipmentId : String} {id : ObjectId}
    (h : ObjectId.cast? shipmentId = some id) (socket : Socket) :
    shipmentRoomName shipmentId ≠ socket.id := by
  intro hRoom
  have hLength := congrArg String.length hRoom
  rw [shipmentRoomName, String.length_append, ObjectId.length_of_cast? h, socket.idLength] at hLength
  revert hLength
  decide

theorem roomLaw_of_run (run : GuardedRun anyStep (server activities) before) :
    RoomLaw activities before := by
  have hAccounted := accounted_of_run run
  constructor
  · intro shipmentId id socket hId hMember
    refine ⟨hAccounted.registered.connected socket _ hMember, ?_⟩
    rcases hAccounted.entered socket _ hMember with hOwn | hGranted
    · exact absurd hOwn (shipmentRoomName_ne_id hId socket)
    · obtain ⟨i, message, text, shipment, organizationId, hJoin, hAnswer, hText, hRoom, hUser,
        hOwned⟩ := hGranted
      obtain rfl := shipmentRoomName_injective hRoom
      obtain ⟨-, accepts, hFilter, hAccepted⟩ := hAccounted.answered i message shipment hAnswer
      exact ⟨i, message, shipment, organizationId, hJoin, hAnswer,
        idFilter_of_text hText hId hFilter hAccepted, hUser, hOwned⟩
  · exact hAccounted.registered.users

/-- What one allowed call sends. -/
theorem deliveryLaw_of_serve {store : SocketStore} {handler : Handler} {request : SocketCall}
    (hAllows : admitsWhatItFound.allows handler request) :
    DeliveryLaw store (serve store request).1 := by
  have hNothing (after : SocketStore) (hSame : after.received = store.received) :
      DeliveryLaw store after :=
    ⟨[], hSame, fun _ _ h => by cases h⟩
  cases request with
  | connection socket =>
      simp only [serve]
      split <;> exact hNothing _ rfl
  | disconnect socket =>
      simp only [serve]
      split_ifs <;> exact hNothing _ rfl
  | join socket room =>
      simp only [serve]
      split_ifs <;> exact hNothing _ rfl
  | emit socket message =>
      simp only [serve]
      split_ifs
      · refine ⟨[(socket, message)], rfl, fun other emission hSent => ?_⟩
        exact absurd (Prod.mk.inj (List.mem_singleton.mp hSent)).2.symm (hAllows emission)
      · exact hNothing _ rfl
  | emitToRoom room message =>
      refine ⟨(store.members room).map fun socket => (socket, message), rfl,
        fun socket emission hSent => ?_⟩
      obtain ⟨member, hMember, hSame⟩ := List.mem_map.mp hSent
      obtain ⟨rfl, rfl⟩ := Prod.mk.inj hSame
      obtain ⟨⟨other, entered⟩, hEntered, rfl⟩ := List.mem_map.mp hMember
      rw [List.mem_filter, decide_eq_true_eq] at hEntered
      rw [← hAllows emission rfl, ← hEntered.2]
      exact hEntered.1
  | findShipment shipmentId => exact hNothing _ rfl
  | leave socket room => exact hNothing _ rfl
  | database shipments outage => exact hNothing _ rfl

/-- However connections, messages, disconnections, emits and other writes overlap:
whoever is in a shipment's room is connected and was found to be of one of its
organisations, the users are those of the connected sockets, and the events of a
shipment go to its room. -/
theorem socketRooms_law (run : GuardedRun anyStep (server activities) before) :
    RoomLaw activities before ∧ (GuardedStep anyStep before after →
      DeliveryLaw before.2.store after.2.store) := by
  refine ⟨roomLaw_of_run run, fun step => ?_⟩
  obtain ⟨_, i, request, next, hThread, -, -, hStore⟩ := step.cases
  rw [hStore]
  exact deliveryLaw_of_serve (run.allows admitsWhatItFound (fun i => ⟨activities i, none⟩)
    (fun i => (activities i).program_follows) hThread)

end Runs

section Notifications

/-- The socket's user or organisation is the recipient. -/
def Socket.AddressedBy (socket : Socket) (recipientId : String) : Prop :=
  socket.user.userId = some recipientId ∨ socket.user.organizationId = some recipientId

/-- Between two states, the notification is sent to the recipient's sockets and to no
other. -/
def NotifiesRecipient (recipientId : String) (notification : NotificationPayload)
    (before after : SocketStore) : Prop :=
  ∃ sent, after.received = sent ++ before.received ∧ ∀ socket,
    (socket, SocketMessage.notificationNew notification) ∈ sent ↔
      socket ∈ before.sockets ∧ socket.AddressedBy recipientId

/-- The name of a shipment's room is no identifier. -/
theorem cast?_shipmentRoomName (text : String) : ObjectId.cast? (shipmentRoomName text) = none := by
  cases h : ObjectId.cast? (shipmentRoomName text) with
  | none => rfl
  | some id =>
      rw [ObjectId.cast?] at h
      split at h
      · rename_i hPrinted
        have hFirst : 's' ∈ (shipmentRoomName text).toList := by
          simp [shipmentRoomName, String.toList_append]
        simp only [isPrintedId, Bool.and_eq_true, List.all_eq_true, List.contains_iff_mem]
          at hPrinted
        exact absurd (hPrinted.2 _ (List.mem_map_of_mem hFirst)) (by decide)
      · cases h

variable [DateText] [QueryOperators] {ι : Type} [DecidableEq ι] {activities : ι → Activity}
  {before after : Point socketWorld ι Unit} {i : ι} {recipientId : String}
  {notification : NotificationPayload}

/-- No socket is ever in a room named by an identifier. -/
theorem members_of_recipient (run : GuardedRun anyStep (server activities) before)
    (hRecipient : (ObjectId.cast? recipientId).isSome) :
    SocketStore.members before.2.store recipientId = [] := by
  obtain ⟨id, hId⟩ := Option.isSome_iff_exists.mp hRecipient
  rw [SocketStore.members, List.map_eq_nil_iff, List.filter_eq_nil_iff]
  intro entry hEntry
  rw [decide_eq_true_eq]
  rintro rfl
  rcases (accounted_of_run run).entered entry.1 entry.2 hEntry with hOwn | hGranted
  · have hLength := ObjectId.length_of_cast? hId
    rw [hOwn, entry.1.idLength] at hLength
    omega
  · obtain ⟨_, _, text, _, _, _, _, _, hRoom, _⟩ := hGranted
    rw [hRoom, cast?_shipmentRoomName] at hId
    cases hId

/-- So nobody receives what is emitted to a recipient. -/
theorem received_of_notification (run : GuardedRun anyStep (server activities) before)
    (hRecipient : (ObjectId.cast? recipientId).isSome) (step : GuardedStep anyStep before after)
    (hEmit : after.1 =
      ⟨i, .emitToRoom recipientId (.notificationNew notification), .ok ()⟩ :: before.1) :
    SocketStore.received after.2.store = SocketStore.received before.2.store := by
  obtain ⟨_, j, request, next, -, -, hHistory, hStore⟩ := step.cases
  have hEvent := List.head_eq_of_cons_eq (hEmit.symm.trans hHistory)
  obtain rfl : SocketCall.emitToRoom recipientId (.notificationNew notification) = request :=
    congrArg Event.request hEvent
  rw [hStore]
  simp [serve, members_of_recipient run hRecipient]

/-- An emitted notification reaches the sockets of its recipient, and no others, exactly
when the recipient has no connected socket. -/
theorem notification_delivered_iff (run : GuardedRun anyStep (server activities) before)
    (hRecipient : (ObjectId.cast? recipientId).isSome) (step : GuardedStep anyStep before after)
    (hEmit : after.1 =
      ⟨i, .emitToRoom recipientId (.notificationNew notification), .ok ()⟩ :: before.1) :
    NotifiesRecipient recipientId notification before.2.store after.2.store ↔
      ∀ socket ∈ SocketStore.sockets before.2.store, ¬socket.AddressedBy recipientId := by
  have hReceived := received_of_notification run hRecipient step hEmit
  constructor
  · intro ⟨sent, hSent, hExact⟩ socket hSocket hAddressed
    rw [hReceived, List.self_eq_append_left] at hSent
    have hMem := (hExact socket).mpr ⟨hSocket, hAddressed⟩
    rw [hSent] at hMem
    cases hMem
  · intro hNobody
    refine ⟨[], hReceived, fun socket => ?_⟩
    constructor
    · intro hMem
      cases hMem
    · intro ⟨hSocket, hAddressed⟩
      exact absurd hAddressed (hNobody socket hSocket)

end Notifications

section Sample

/-- Objects with query operators are refused. -/
@[reducible] def noOperators : QueryOperators :=
  ⟨fun _ => none⟩

/-- A socket of a user of the sample shipment's enterprise. -/
def sampleSocket : Socket where
  id := "socket-0000000000000"
  user :=
    { userId := some (ObjectId.repeated 1).toString
      organizationId := some sampleShipment.enterpriseId.toString }
  idLength := by decide

/-- The shipment is stored, the socket connects and joins, and a status is emitted. -/
def sampleActivities : Fin 4 → Activity
  | 0 => .database ⟨[sampleShipment], Collection.nodup_single _ _⟩ none
  | 1 => .connection sampleSocket
  | 2 => .joinShipment sampleSocket (.string sampleShipment.id.toString)
  | 3 => .statusUpdate sampleShipment.id.toString
      ⟨sampleShipment.id.toString, .inTransit, [], ⟨0⟩⟩

abbrev sampleServer : @Pool _ _ _ (@socketWorld isoDateText noOperators) (Fin 4) Unit :=
  @server isoDateText _ noOperators sampleActivities

theorem socketRooms_law_sample : ∃ before after, GuardedRun anyStep sampleServer before ∧
    GuardedStep anyStep before after ∧
      (sampleSocket, shipmentRoomName sampleShipment.id.toString) ∈ before.2.store.rooms ∧
        @RoomLaw isoDateText noOperators _ sampleActivities before ∧
          DeliveryLaw before.2.store after.2.store := by
  obtain ⟨before, run, hTest⟩ := Pool.exists_run anyStep sampleServer
    (fun point => (sampleSocket, shipmentRoomName sampleShipment.id.toString) ∈
      point.2.store.rooms && (Pool.runSchedule anyStep [((), 3)] point).isSome)
    [((), 0), ((), 1), ((), 2), ((), 2)] (by decide +kernel)
  rw [Bool.and_eq_true, decide_eq_true_eq, Option.isSome_iff_exists] at hTest
  obtain ⟨hMember, after, hAfter⟩ := hTest
  have step := Pool.runSchedule_step hAfter
  obtain ⟨hRooms, hDelivery⟩ :=
    @socketRooms_law isoDateText noOperators (Fin 4) _ sampleActivities before after run
  exact ⟨before, after, run, step, hMember, hRooms, hDelivery step⟩

def sampleNotification : NotificationPayload where
  notificationId := "n"
  recipientId := (ObjectId.repeated 1).toString
  type := "SYSTEM"
  title := ""
  body := ""
  referenceId := none
  referenceType := none
  timestamp := "1970-01-01T00:00:00.000Z"
  read := false

/-- The socket's user is notified. -/
abbrev sampleNotifier : @Pool _ _ _ (@socketWorld isoDateText noOperators) (Fin 2) Unit :=
  @server isoDateText _ noOperators fun
    | 0 => .connection sampleSocket
    | 1 => .notificationNew (ObjectId.repeated 1).toString sampleNotification

private theorem sample_recipient : (ObjectId.cast? (ObjectId.repeated 1).toString).isSome := by
  rw [ObjectId.cast?_toString]
  rfl

private theorem sample_notifier : ∃ before after, GuardedRun anyStep sampleNotifier before ∧
    GuardedStep anyStep before after ∧
      after.1 = ⟨1, .emitToRoom (ObjectId.repeated 1).toString
        (.notificationNew sampleNotification), .ok ()⟩ :: before.1 ∧
      SocketStore.sockets before.2.store = [sampleSocket] := by
  obtain ⟨before, after, hBefore, hAfter, hRest⟩ : ∃ before after,
      Pool.runSchedule anyStep [((), 0)] ([], sampleNotifier) = some before ∧
        Pool.runSchedule anyStep [((), (1 : Fin 2))] before = some after ∧
          after.1 = ⟨1, .emitToRoom (ObjectId.repeated 1).toString
            (.notificationNew sampleNotification), .ok ()⟩ :: before.1 ∧
          SocketStore.sockets before.2.store = [sampleSocket] := ⟨_, _, rfl, rfl, rfl, rfl⟩
  exact ⟨before, after, Pool.runSchedule_steps hBefore, Pool.runSchedule_step hAfter, hRest⟩

theorem notification_delivered_sample : ∃ before after : Point
    (@socketWorld isoDateText noOperators) (Fin 2) Unit,
    SocketStore.sockets before.2.store = [sampleSocket] ∧
      (NotifiesRecipient (ObjectId.repeated 1).toString sampleNotification before.2.store
        after.2.store ↔ ∀ socket ∈ SocketStore.sockets before.2.store,
          ¬socket.AddressedBy (ObjectId.repeated 1).toString) := by
  obtain ⟨before, after, run, step, hEmit, hSockets⟩ := sample_notifier
  exact ⟨before, after, hSockets, @notification_delivered_iff isoDateText noOperators (Fin 2) _ _
    before after _ _ _ run sample_recipient step hEmit⟩

/-- The connected user is not reached. -/
theorem notification_reaches_nobody : ¬∀ (_ : DateText) (_ : QueryOperators)
    (activities : Fin 2 → Activity) (before after : Point socketWorld (Fin 2) Unit) (i : Fin 2)
    (recipientId : String) (notification : NotificationPayload),
    GuardedRun anyStep (server activities) before → (ObjectId.cast? recipientId).isSome →
    GuardedStep anyStep before after →
    after.1 = ⟨i, .emitToRoom recipientId (.notificationNew notification), .ok ()⟩ :: before.1 →
      NotifiesRecipient recipientId notification before.2.store after.2.store := by
  intro hClaim
  obtain ⟨before, after, run, step, hEmit, hSockets⟩ := sample_notifier
  obtain ⟨sent, hSent, hExact⟩ := hClaim isoDateText noOperators _ before after _ _ _ run
    sample_recipient step hEmit
  rw [@received_of_notification isoDateText noOperators _ _ _ before after _ _ _ run
    sample_recipient step hEmit, List.self_eq_append_left] at hSent
  have hMem := (hExact sampleSocket).mpr ⟨hSockets ▸ List.mem_singleton_self _, .inl rfl⟩
  rw [hSent] at hMem
  cases hMem

end Sample

end Navin.SocketIo
