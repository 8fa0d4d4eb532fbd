import Navin.Realtime.SseHub
import Navin.Semantics.SetMap

/-! The streams that one instance keeps, with the timers and the close handlers that go
with them. Handlers run while others iterate: what a response emits during a `write` or
an `end` is handled before the loop goes on. Nothing is registered meanwhile, so a loop
over a `Set` comes to every element that is still in it when its turn comes. -/
namespace Navin.SseRegistry

open Sse

/-- A client object. No two of them share a timer. -/
structure SseClient where
  res : Nat
  heartbeatTimer : Nat
deriving DecidableEq

/-- What becomes of a response. -/
inductive ResponseEvent where
  | close (res : Nat)
  | finish (res : Nat)

/-- What the statements look back on. -/
inductive Occurrence where
  | registered (userId : String) (client : SseClient)
  | closed (res : Nat)
  | tornDown

/-- The clients of each user, the intervals that run, each with the response its callback
writes to, and the close handlers of all responses, each with what it remembers. -/
structure Hub where
  clientsByUser : SetMap String SseClient := []
  intervals : List (Nat × Nat) := []
  nextTimer : Nat := 0
  listeners : List (String × SseClient) := []
  writableEnded : Nat → Bool := fun _ => false
  closed : Nat → Bool := fun _ => false
  writes : List (SseClient × String) := []
  log : List Occurrence := []

namespace Hub

/-- `res.write(chunk)`, unless the stream has ended. -/
def write (hub : Hub) (client : SseClient) (chunk : String) : Hub :=
  if hub.writableEnded client.res then hub
  else { hub with writes := hub.writes ++ [(client, chunk)] }

def writeHeartbeat (hub : Hub) (client : SseClient) : Hub :=
  hub.write client ": heartbeat\n\n"

def clearInterval (hub : Hub) (timer : Nat) : Hub :=
  { hub with intervals := hub.intervals.filter fun interval => interval.1 ≠ timer }

def removeClient (hub : Hub) (userId : String) (client : SseClient) : Hub :=
  { hub.clearInterval client.heartbeatTimer with
    clientsByUser := hub.clientsByUser.discard userId client }

/-- The close handlers of a response run in the order they were attached. -/
def emitClose (hub : Hub) (res : Nat) : Hub :=
  (hub.listeners.filter fun listener => listener.2.res = res).foldl
    (fun hub listener => hub.removeClient listener.1 listener.2)
    { hub with closed := Function.update hub.closed res true, log := .closed res :: hub.log }

def finish (hub : Hub) (res : Nat) : Hub :=
  { hub with writableEnded := Function.update hub.writableEnded res true }

def handle (hub : Hub) : ResponseEvent → Hub
  | .close res => hub.emitClose res
  | .finish res => hub.finish res

def handleAll (hub : Hub) (events : List ResponseEvent) : Hub :=
  events.foldl handle hub

/-- `during` tells what happens while a client is written to. -/
def deliverTo (during : SseClient → List ResponseEvent) (userId : String)
    (event : RealtimeEvent) (hub : Hub) (client : SseClient) : Hub :=
  if client ∈ hub.clientsByUser.members userId ∧ hub.writableEnded client.res = false then
    (hub.write client (formatSseMessage event)).handleAll (during client)
  else hub

def deliverToLocalClients (hub : Hub) (userId : String) (event : RealtimeEvent)
    (during : SseClient → List ResponseEvent) : Hub :=
  (hub.clientsByUser.members userId).foldl (deliverTo during userId event) hub

def registerSseClient (hub : Hub) (userId : String) (res : Nat) : Hub :=
  let client : SseClient := ⟨res, hub.nextTimer⟩
  let hub := (hub.write client ": connected\n\n").writeHeartbeat client
  { hub with
    intervals := (client.heartbeatTimer, res) :: hub.intervals
    nextTimer := hub.nextTimer + 1
    clientsByUser := hub.clientsByUser.add userId client
    listeners := hub.listeners ++ [(userId, client)]
    log := .registered userId client :: hub.log }

/-- `during` tells what happens while the response of a client ends. -/
def tearDownClient (during : SseClient → List ResponseEvent) (userId : String) (hub : Hub)
    (client : SseClient) : Hub :=
  if client ∈ hub.clientsByUser.members userId then
    let hub := hub.clearInterval client.heartbeatTimer
    let hub := if hub.writableEnded client.res then hub
      else (hub.finish client.res).handleAll (during client)
    hub.removeClient userId client
  else hub

/-- Up to its `await`. What it then does to the Redis connections is not about clients. -/
def closeSseHub (hub : Hub) (during : SseClient → List ResponseEvent) : Hub :=
  let hub := hub.clientsByUser.foldl
    (fun hub entry => entry.2.foldl (tearDownClient during entry.1) hub) hub
  { hub with clientsByUser := [], log := .tornDown :: hub.log }

end Hub

/-- What happens to an instance. A response closes or ends at any time. -/
inductive Action where
  | register (userId : String) (res : Nat)
  | response (event : ResponseEvent)
  | heartbeat (client : SseClient)
  | deliver (userId : String) (event : RealtimeEvent) (during : SseClient → List ResponseEvent)
  | closeSseHub (during : SseClient → List ResponseEvent)

/-- A response is open when it is registered, and a callback runs while its interval does. -/
def Action.allowed (hub : Hub) : Action → Prop
  | .register _ res => hub.closed res = false ∧ hub.writableEnded res = false
  | .heartbeat client => (client.heartbeatTimer, client.res) ∈ hub.intervals
  | _ => True

def Hub.step (hub : Hub) : Action → Hub
  | .register userId res => hub.registerSseClient userId res
  | .response event => hub.handle event
  | .heartbeat client => hub.writeHeartbeat client
  | .deliver userId event during => hub.deliverToLocalClients userId event during
  | .closeSseHub during => hub.closeSseHub during

inductive Reachable : Hub → Prop where
  | start : Reachable {}
  | step {hub : Hub} {action : Action} (prior : Reachable hub) (h : action.allowed hub) :
      Reachable (hub.step action)

/-- The client has been registered for the user, and since then neither been closed nor
torn down. The latest occurrence comes first. -/
def Live (userId : String) (client : SseClient) : List Occurrence → Prop
  | [] => False
  | .registered user other :: earlier =>
      (userId = user ∧ client = other) ∨ Live userId client earlier
  | .closed res :: earlier => res ≠ client.res ∧ Live userId client earlier
  | .tornDown :: _ => False

/-- The sets hold the clients that are present, and the intervals are those of the clients
that tick. -/
structure Represents (hub : Hub) (present ticking : String → SseClient → Prop) : Prop where
  wellFormed : hub.clientsByUser.WellFormed
  members : ∀ userId client, client ∈ hub.clientsByUser.members userId ↔ present userId client
  intervals : ∀ timer res, (timer, res) ∈ hub.intervals ↔ ∃ userId, ticking userId ⟨res, timer⟩
  unique : ∀ first ∈ hub.listeners, ∀ second ∈ hub.listeners,
    first.2.heartbeatTimer = second.2.heartbeatTimer → first = second
  fresh : ∀ listener ∈ hub.listeners, listener.2.heartbeatTimer < hub.nextTimer
  present_known : ∀ userId client, present userId client → (userId, client) ∈ hub.listeners
  ticking_known : ∀ userId client, ticking userId client → (userId, client) ∈ hub.listeners

/-- Between two actions the clients that are present and tick are those that live. -/
abbrev Kept (hub : Hub) : Prop :=
  Represents hub (Live · · hub.log) (Live · · hub.log)

/-- The events close no response of the client. -/
def Survives (client : SseClient) (events : List ResponseEvent) : Prop :=
  ∀ res, .close res ∈ events → res ≠ client.res

section Steps

variable {hub : Hub} {present ticking : String → SseClient → Prop} {userId : String}
  {client : SseClient}

theorem Represents.congr {present' ticking' : String → SseClient → Prop}
    (h : Represents hub present ticking) (hPresent : ∀ userId client,
      present userId client ↔ present' userId client)
    (hTicking : ∀ userId client, ticking userId client ↔ ticking' userId client) :
    Represents hub present' ticking' := by
  obtain rfl : present = present' :=
    funext fun userId => funext fun client => propext (hPresent userId client)
  obtain rfl : ticking = ticking' :=
    funext fun userId => funext fun client => propext (hTicking userId client)
  exact h

theorem Represents.clearInterval (h : Represents hub present ticking)
    (hKnown : (userId, client) ∈ hub.listeners) :
    Represents (hub.clearInterval client.heartbeatTimer) present
      fun user other => ticking user other ∧ ¬(user = userId ∧ other = client) where
  wellFormed := h.wellFormed
  members := h.members
  intervals timer res := by
    rw [Hub.clearInterval, List.mem_filter, decide_eq_true_eq, h.intervals timer res]
    constructor
    · rintro ⟨⟨user, hTicking⟩, hTimer⟩
      exact ⟨user, hTicking, fun hSame => hTimer (congrArg SseClient.heartbeatTimer hSame.2)⟩
    · rintro ⟨user, hTicking, hOther⟩
      refine ⟨⟨user, hTicking⟩, fun hTimer => hOther ?_⟩
      exact Prod.mk.inj (h.unique _ (h.ticking_known _ _ hTicking) _ hKnown hTimer)
  unique := h.unique
  fresh := h.fresh
  present_known := h.present_known
  ticking_known user other hTicking := h.ticking_known user other hTicking.1

theorem Represents.removeClient (h : Represents hub present ticking)
    (hKnown : (userId, client) ∈ hub.listeners) :
    Represents (hub.removeClient userId client)
      (fun user other => present user other ∧ ¬(user = userId ∧ other = client))
      (fun user other => ticking user other ∧ ¬(user = userId ∧ other = client)) := by
  have hCleared := h.clearInterval hKnown
  refine { hCleared with
    wellFormed := h.wellFormed.discard userId client
    members := fun user other => ?_
    present_known := fun user other hPresent => h.present_known user other hPresent.1 }
  exact (h.wellFormed.mem_members_discard client).trans (and_congr_left' (h.members user other))

theorem Represents.removeAll (gone : List (String × SseClient))
    (h : Represents hub present ticking) (hKnown : ∀ listener ∈ gone, listener ∈ hub.listeners) :
    Represents (gone.foldl (fun hub listener => hub.removeClient listener.1 listener.2) hub)
      (fun user other => present user other ∧ (user, other) ∉ gone)
      (fun user other => ticking user other ∧ (user, other) ∉ gone) := by
  induction gone generalizing hub present ticking with
  | nil => exact h.congr (by simp) (by simp)
  | cons listener rest ih =>
      obtain ⟨hFirst, hRest⟩ := List.forall_mem_cons.mp hKnown
      refine (ih (h.removeClient hFirst) hRest).congr ?_ ?_ <;>
        simp [and_assoc, Prod.ext_iff]

theorem Represents.finish (h : Represents hub present ticking) (res : Nat) :
    Represents (hub.finish res) present ticking := { h with }

/-- What the events of a response leave of the clients. -/
theorem Represents.handle (h : Represents hub present ticking) (event : ResponseEvent) :
    Represents (hub.handle event) (fun user other => present user other ∧ Survives other [event])
      (fun user other => ticking user other ∧ Survives other [event]) := by
  cases event with
  | finish res => exact (h.finish res).congr (by simp [Survives]) (by simp [Survives])
  | close res =>
      have hClosed : Represents { hub with
          closed := Function.update hub.closed res true
          log := .closed res :: hub.log } present ticking := { h with }
      have hRemoved := hClosed.removeAll
        (hub.listeners.filter fun listener => listener.2.res = res) fun listener hListener =>
          (List.mem_filter.mp hListener).1
      have hGone : ∀ user other, (user, other) ∈ hub.listeners →
          ((user, other) ∉ hub.listeners.filter (fun listener => listener.2.res = res) ↔
            Survives other [.close res]) := by
        intro user other hListener
        simp [hListener, Survives, eq_comm]
      exact hRemoved.congr
        (fun user other => and_congr_right fun hPresent =>
          hGone user other (h.present_known user other hPresent))
        (fun user other => and_congr_right fun hTicking =>
          hGone user other (h.ticking_known user other hTicking))

theorem Represents.handleAll (h : Represents hub present ticking) (events : List ResponseEvent) :
    Represents (hub.handleAll events) (fun user other => present user other ∧ Survives other events)
      (fun user other => ticking user other ∧ Survives other events) := by
  induction events generalizing hub present ticking with
  | nil => exact h.congr (by simp [Survives]) (by simp [Survives])
  | cons event rest ih =>
      have hSplit : ∀ other, Survives other [event] ∧ Survives other rest ↔
          Survives other (event :: rest) := by
        simp [Survives, or_imp, forall_and]
      refine (ih (h.handle event)).congr ?_ ?_ <;> simp [and_assoc, hSplit]

@[simp] theorem removeAll_frame (gone : List (String × SseClient)) :
    (gone.foldl (fun hub listener => hub.removeClient listener.1 listener.2) hub).log =
      hub.log ∧
    (gone.foldl (fun hub listener => hub.removeClient listener.1 listener.2) hub).writes =
      hub.writes ∧
    (gone.foldl (fun hub listener => hub.removeClient listener.1 listener.2) hub).writableEnded =
      hub.writableEnded ∧
    (gone.foldl (fun hub listener => hub.removeClient listener.1 listener.2) hub).listeners =
      hub.listeners := by
  induction gone generalizing hub with
  | nil => exact ⟨rfl, rfl, rfl, rfl⟩
  | cons listener rest ih => exact @ih (hub.removeClient listener.1 listener.2)

theorem listeners_handleAll (events : List ResponseEvent) :
    (hub.handleAll events).listeners = hub.listeners := by
  induction events generalizing hub with
  | nil => rfl
  | cons event rest ih =>
      refine (@ih (hub.handle event)).trans ?_
      cases event with
      | finish res => rfl
      | close res => simp [Hub.handle, Hub.emitClose]

/-- Clients are only lost, streams only end, and nothing is written. -/
structure Fades (before after : Hub) : Prop where
  live : ∀ userId client, Live userId client after.log → Live userId client before.log
  ended : ∀ res, after.writableEnded res = false → before.writableEnded res = false
  writes : after.writes = before.writes

theorem Fades.trans {before middle after : Hub} (first : Fades before middle)
    (second : Fades middle after) : Fades before after where
  live userId client h := first.live userId client (second.live userId client h)
  ended res h := first.ended res (second.ended res h)
  writes := second.writes.trans first.writes

theorem live_handle (event : ResponseEvent) : Live userId client (hub.handle event).log ↔
    Live userId client hub.log ∧ Survives client [event] := by
  cases event with
  | finish res => simp [Hub.handle, Hub.finish, Survives]
  | close res => simp [Hub.handle, Hub.emitClose, Live, Survives, and_comm]

theorem live_handleAll (events : List ResponseEvent) :
    Live userId client (hub.handleAll events).log ↔
      Live userId client hub.log ∧ Survives client events := by
  induction events generalizing hub with
  | nil => simp [Hub.handleAll, Survives]
  | cons event rest ih =>
      refine (@ih (hub.handle event)).trans ?_
      rw [live_handle, and_assoc]
      simp [Survives, or_imp, forall_and]

theorem fades_handle (event : ResponseEvent) : Fades hub (hub.handle event) := by
  refine ⟨fun userId client h => (live_handle event |>.mp h).1, fun res h => ?_, ?_⟩
  · cases event with
    | finish ended =>
        by_cases hSame : res = ended
        · simp [Hub.handle, Hub.finish, hSame] at h
        · simpa [Hub.handle, Hub.finish, hSame] using h
    | close closed => simpa [Hub.handle, Hub.emitClose] using h
  · cases event with
    | finish ended => rfl
    | close closed => simp [Hub.handle, Hub.emitClose]

theorem fades_handleAll (events : List ResponseEvent) : Fades hub (hub.handleAll events) := by
  induction events generalizing hub with
  | nil => exact ⟨fun _ _ h => h, fun _ h => h, rfl⟩
  | cons event rest ih => exact (fades_handle event).trans (@ih (hub.handle event))

theorem Kept.handleAll (h : Kept hub) (events : List ResponseEvent) : Kept (hub.handleAll events) :=
  (Represents.handleAll h events).congr (fun _ _ => (live_handleAll events).symm)
    fun _ _ => (live_handleAll events).symm

theorem Represents.write (h : Represents hub present ticking) (client : SseClient)
    (chunk : String) : Represents (hub.write client chunk) present ticking := by
  unfold Hub.write
  split
  · exact h
  · exact { h with }

@[simp] theorem log_write (client : SseClient) (chunk : String) :
    (hub.write client chunk).log = hub.log ∧
      (hub.write client chunk).writableEnded = hub.writableEnded := by
  unfold Hub.write
  split <;> exact ⟨rfl, rfl⟩

theorem Kept.write (h : Kept hub) (client : SseClient) (chunk : String) :
    Kept (hub.write client chunk) :=
  (Represents.write h client chunk).congr (fun _ _ => by rw [(log_write client chunk).1])
    fun _ _ => by rw [(log_write client chunk).1]

end Steps

section Delivery

variable {hub : Hub} {during : SseClient → List ResponseEvent} {userId : String}
  {event : RealtimeEvent} {client : SseClient}

/-- One delivery of an event: it is written once to each client that was sent to, which
are open clients of the user, among them all that are still there and open afterwards. -/
structure DeliveredOnce (before after : Hub) (userId : String) (event : RealtimeEvent)
    (sent : List SseClient) : Prop where
  writes : after.writes =
    before.writes ++ sent.map fun client => (client, formatSseMessage event)
  once : sent.Nodup
  only : ∀ client ∈ sent, Live userId client before.log ∧
    before.writableEnded client.res = false
  every : ∀ client, Live userId client after.log → after.writableEnded client.res = false →
    client ∈ sent

/-- A round either writes to its client or finds it gone or ended. -/
theorem deliverTo_cases (h : Kept hub) :
    (Live userId client hub.log ∧ hub.writableEnded client.res = false ∧
      Kept (hub.deliverTo during userId event client) ∧
      (hub.deliverTo during userId event client).writes =
        hub.writes ++ [(client, formatSseMessage event)]) ∨
    (¬(Live userId client hub.log ∧ hub.writableEnded client.res = false) ∧
      hub.deliverTo during userId event client = hub) := by
  by_cases hTurn : client ∈ hub.clientsByUser.members userId ∧ hub.writableEnded client.res = false
  · refine .inl ⟨(h.members userId client).mp hTurn.1, hTurn.2, ?_⟩
    rw [Hub.deliverTo, if_pos hTurn]
    refine ⟨(h.write client _).handleAll _, (fades_handleAll _).writes.trans ?_⟩
    simp [Hub.write, hTurn.2]
  · refine .inr ⟨fun hOpen => hTurn ⟨(h.members userId client).mpr hOpen.1, hOpen.2⟩, ?_⟩
    rw [Hub.deliverTo, if_neg hTurn]

/-- Whatever happens during a round, clients are only lost and streams only end. -/
theorem deliverTo_fades : (∀ user other,
      Live user other (hub.deliverTo during userId event client).log → Live user other hub.log) ∧
    ∀ res, (hub.deliverTo during userId event client).writableEnded res = false →
      hub.writableEnded res = false := by
  unfold Hub.deliverTo
  split
  · have hFades := @fades_handleAll (hub.write client (formatSseMessage event)) (during client)
    have hWrite := @log_write hub client (formatSseMessage event)
    exact ⟨fun user other hLive => hWrite.1 ▸ hFades.live user other hLive,
      fun res hOpen => hWrite.2 ▸ hFades.ended res hOpen⟩
  · exact ⟨fun _ _ hLive => hLive, fun _ hOpen => hOpen⟩

/-- The rounds of a delivery, for clients that are each listed once. -/
theorem deliverAll {clients : List SseClient} (h : Kept hub) (hClients : clients.Nodup) :
    let after := clients.foldl (Hub.deliverTo during userId event) hub
    Kept after ∧ (∀ user other, Live user other after.log → Live user other hub.log) ∧
      (∀ res, after.writableEnded res = false → hub.writableEnded res = false) ∧
      ∃ sent : List SseClient, sent.Sublist clients ∧
        after.writes = hub.writes ++ sent.map (fun client => (client, formatSseMessage event)) ∧
        (∀ client ∈ sent, Live userId client hub.log ∧ hub.writableEnded client.res = false) ∧
        ∀ client ∈ clients, Live userId client after.log →
          after.writableEnded client.res = false → client ∈ sent := by
  induction clients generalizing hub with
  | nil =>
      exact ⟨h, fun _ _ hLive => hLive, fun _ hOpen => hOpen, [], .slnil, by simp, by simp, by simp⟩
  | cons client rest ih =>
      obtain ⟨-, hRest⟩ := List.nodup_cons.mp hClients
      obtain ⟨hLost, hEnded⟩ := @deliverTo_fades hub during userId event client
      rcases @deliverTo_cases hub during userId event client h with
        ⟨hLive, hOpen, hKept, hWritten⟩ | ⟨hClosed, hSame⟩
      · obtain ⟨hAfter, hLater, hLaterEnded, sent, hSublist, hWrites, hOnly, hEvery⟩ :=
          ih hKept hRest
        refine ⟨hAfter, fun user other hOther => hLost user other (hLater user other hOther),
          fun res hRes => hEnded res (hLaterEnded res hRes), client :: sent,
          hSublist.cons_cons client, ?_, ?_, ?_⟩
        · exact hWrites.trans (by rw [hWritten]; simp)
        · exact List.forall_mem_cons.mpr ⟨⟨hLive, hOpen⟩, fun other hOther =>
            ⟨hLost userId other (hOnly other hOther).1, hEnded _ (hOnly other hOther).2⟩⟩
        · exact List.forall_mem_cons.mpr ⟨fun _ _ => List.mem_cons_self, fun other hOther hOn hTo =>
            List.mem_cons_of_mem _ (hEvery other hOther hOn hTo)⟩
      · obtain ⟨hAfter, hLater, hLaterEnded, sent, hSublist, hWrites, hOnly, hEvery⟩ :=
          @ih hub h hRest
        rw [List.foldl_cons, hSame]
        refine ⟨hAfter, hLater, hLaterEnded, sent, hSublist.cons client, hWrites, hOnly, ?_⟩
        exact List.forall_mem_cons.mpr ⟨fun hOn hTo =>
          absurd ⟨hLater _ _ hOn, hLaterEnded _ hTo⟩ hClosed, hEvery⟩

theorem Kept.deliver (h : Kept hub) (userId : String) (event : RealtimeEvent)
    (during : SseClient → List ResponseEvent) :
    Kept (hub.deliverToLocalClients userId event during) :=
  (deliverAll h (h.wellFormed.members_nodup userId)).1

theorem Kept.deliveredOnce (h : Kept hub) (userId : String) (event : RealtimeEvent)
    (during : SseClient → List ResponseEvent) : ∃ sent,
    DeliveredOnce hub (hub.deliverToLocalClients userId event during) userId event sent := by
  have hClients := h.wellFormed.members_nodup userId
  obtain ⟨-, hLater, -, sent, hSublist, hWrites, hOnly, hEvery⟩ :=
    @deliverAll hub during userId event _ h hClients
  refine ⟨sent, hWrites, hClients.sublist hSublist, hOnly, fun client hLive hOpen => ?_⟩
  exact hEvery client ((h.members userId client).mpr (hLater userId client hLive)) hLive hOpen

/-- A delivery during which nothing happens changes nothing but what is written. -/
theorem deliver_quiet (hQuiet : ∀ client, during client = []) :
    (hub.deliverToLocalClients userId event during).log = hub.log ∧
      (hub.deliverToLocalClients userId event during).writableEnded = hub.writableEnded := by
  rw [Hub.deliverToLocalClients]
  generalize hub.clientsByUser.members userId = clients
  induction clients generalizing hub with
  | nil => exact ⟨rfl, rfl⟩
  | cons client rest ih =>
      have hRound : (hub.deliverTo during userId event client).log = hub.log ∧
          (hub.deliverTo during userId event client).writableEnded = hub.writableEnded := by
        unfold Hub.deliverTo
        split
        · rw [hQuiet]
          exact log_write client _
        · exact ⟨rfl, rfl⟩
      have hRest := @ih (hub.deliverTo during userId event client)
      exact ⟨hRest.1.trans hRound.1, hRest.2.trans hRound.2⟩

end Delivery

section Teardown

variable {hub : Hub} {present ticking : String → SseClient → Prop}
  {during : SseClient → List ResponseEvent} {userId : String} {client : SseClient}

/-- A round loses its client, if it was still there, with its interval. -/
theorem Represents.tearDown (h : Represents hub present ticking)
    (hTicks : ∀ userId client, ticking userId client → present userId client) :
    ∃ present' ticking', Represents (hub.tearDownClient during userId client) present' ticking' ∧
      (∀ user other, ticking' user other → present' user other) ∧
      ∀ user other, present' user other → present user other ∧ ¬(user = userId ∧ other = client) := by
  unfold Hub.tearDownClient
  by_cases hMember : client ∈ hub.clientsByUser.members userId
  · have hPresent := (h.members userId client).mp hMember
    have hKnown := h.present_known userId client hPresent
    have hCleared := h.clearInterval hKnown
    rw [if_pos hMember]
    dsimp only
    split
    · exact ⟨_, _, hCleared.removeClient hKnown, fun user other hTicking =>
        ⟨hTicks user other hTicking.1.1, hTicking.2⟩, fun user other hLeft => hLeft⟩
    · have hEnded := (hCleared.finish client.res).handleAll (during client)
      refine ⟨_, _, hEnded.removeClient (by rwa [listeners_handleAll]), ?_, ?_⟩
      · exact fun user other hTicking =>
          ⟨⟨hTicks user other hTicking.1.1.1, hTicking.1.2⟩, hTicking.2⟩
      · exact fun user other hLeft => ⟨hLeft.1.1, hLeft.2⟩
  · rw [if_neg hMember]
    refine ⟨present, ticking, h, hTicks, fun user other hLeft => ⟨hLeft, ?_⟩⟩
    rintro ⟨rfl, rfl⟩
    exact hMember ((h.members user other).mpr hLeft)

/-- The rounds of the teardown for the clients of one user. -/
theorem Represents.tearDownSet {clients : List SseClient} (h : Represents hub present ticking)
    (hTicks : ∀ userId client, ticking userId client → present userId client) :
    ∃ present' ticking',
      Represents (clients.foldl (Hub.tearDownClient during userId) hub) present' ticking' ∧
      (∀ user other, ticking' user other → present' user other) ∧
      ∀ user other, present' user other → present user other ∧ ¬(user = userId ∧ other ∈ clients) := by
  induction clients generalizing hub present ticking with
  | nil => exact ⟨present, ticking, h, hTicks, fun _ _ hLeft => ⟨hLeft, by simp⟩⟩
  | cons client rest ih =>
      obtain ⟨present', ticking', hRound, hTicks', hLeft⟩ :=
        @Represents.tearDown hub present ticking during userId client h hTicks
      obtain ⟨present'', ticking'', hRest, hTicks'', hLeft'⟩ := ih hRound hTicks'
      refine ⟨present'', ticking'', hRest, hTicks'', fun user other hPresent => ?_⟩
      obtain ⟨hBefore, hLater⟩ := hLeft' user other hPresent
      obtain ⟨hFirst, hOther⟩ := hLeft user other hBefore
      refine ⟨hFirst, fun hGone => ?_⟩
      rcases List.mem_cons.mp hGone.2 with hSame | hIn
      · exact hOther ⟨hGone.1, hSame⟩
      · exact hLater ⟨hGone.1, hIn⟩

theorem Represents.tearDownAll {entries : SetMap String SseClient}
    (h : Represents hub present ticking)
    (hTicks : ∀ userId client, ticking userId client → present userId client) :
    ∃ present' ticking',
      Represents (entries.foldl
        (fun hub entry => entry.2.foldl (Hub.tearDownClient during entry.1) hub) hub)
        present' ticking' ∧
      (∀ user other, ticking' user other → present' user other) ∧
      ∀ user other, present' user other →
        present user other ∧ ∀ clients, (user, clients) ∈ entries → other ∉ clients := by
  induction entries generalizing hub present ticking with
  | nil => exact ⟨present, ticking, h, hTicks, fun _ _ hLeft => ⟨hLeft, nofun⟩⟩
  | cons entry rest ih =>
      obtain ⟨userId, clients⟩ := entry
      obtain ⟨present', ticking', hSet, hTicks', hLeft⟩ :=
        @Represents.tearDownSet hub present ticking during userId clients h hTicks
      obtain ⟨present'', ticking'', hRest, hTicks'', hLeft'⟩ := ih hSet hTicks'
      refine ⟨present'', ticking'', hRest, hTicks'', fun user other hPresent => ?_⟩
      obtain ⟨hBefore, hLater⟩ := hLeft' user other hPresent
      obtain ⟨hFirst, hOther⟩ := hLeft user other hBefore
      refine ⟨hFirst, fun listed hListed hIn => ?_⟩
      rcases List.mem_cons.mp hListed with hSame | hIn'
      · cases hSame
        exact hOther ⟨rfl, hIn⟩
      · exact hLater listed hIn' hIn

/-- After the teardown nobody is left, and no interval runs. -/
theorem Kept.closeSseHub (h : Kept hub) (during : SseClient → List ResponseEvent) :
    Kept (hub.closeSseHub during) := by
  obtain ⟨present, ticking, hAfter, hTicks, hLeft⟩ :=
    @Represents.tearDownAll hub _ _ during hub.clientsByUser h fun _ _ hLive => hLive
  have hNobody : ∀ user other, ¬present user other := by
    intro user other hPresent
    obtain ⟨hLive, hGone⟩ := hLeft user other hPresent
    have hMember := (h.members user other).mpr hLive
    rw [SetMap.members] at hMember
    cases hLookup : hub.clientsByUser.lookup user with
    | none => simp [hLookup] at hMember
    | some clients =>
        rw [hLookup] at hMember
        exact hGone clients (SetMap.mem_of_lookup hLookup) hMember
  refine ⟨SetMap.wellFormed_nil, fun user other => ?_, fun timer res => ?_, hAfter.unique,
    hAfter.fresh, fun _ _ hLive => hLive.elim, fun _ _ hLive => hLive.elim⟩
  · exact iff_of_false List.not_mem_nil id
  · refine (hAfter.intervals timer res).trans (iff_of_false ?_ ?_)
    · rintro ⟨user, hTicking⟩
      exact hNobody _ _ (hTicks _ _ hTicking)
    · rintro ⟨user, hLive⟩
      exact hLive

end Teardown

section Registration

variable {hub : Hub}

/-- A new client has a timer that no other had, and is the only one to join. -/
theorem Kept.join (h : Kept hub) (userId : String) {client : SseClient}
    (hTimer : client.heartbeatTimer = hub.nextTimer) :
    Kept { hub with
      intervals := (client.heartbeatTimer, client.res) :: hub.intervals
      nextTimer := hub.nextTimer + 1
      clientsByUser := hub.clientsByUser.add userId client
      listeners := hub.listeners ++ [(userId, client)]
      log := .registered userId client :: hub.log } where
  wellFormed := h.wellFormed.add userId client
  members user other := by
    rw [SetMap.mem_members_add, h.members user other, Live, or_comm]
  intervals timer res := by
    simp only [List.mem_cons, Prod.mk.injEq, h.intervals timer res, Live, exists_or]
    refine or_congr_left ⟨fun hSame => ⟨userId, rfl, ?_⟩, fun hSame => ?_⟩
    · rw [hSame.1, hSame.2]
    · obtain ⟨user, -, rfl⟩ := hSame
      exact ⟨rfl, rfl⟩
  unique first hFirst second hSecond hSame := by
    rcases List.mem_append.mp hFirst with hOld | hNew <;>
      rcases List.mem_append.mp hSecond with hOld' | hNew'
    · exact h.unique first hOld second hOld' hSame
    · have hFresh := h.fresh first hOld
      rw [hSame, List.mem_singleton.mp hNew', hTimer] at hFresh
      exact absurd hFresh (Nat.lt_irrefl _)
    · have hFresh := h.fresh second hOld'
      rw [← hSame, List.mem_singleton.mp hNew, hTimer] at hFresh
      exact absurd hFresh (Nat.lt_irrefl _)
    · rw [List.mem_singleton.mp hNew, List.mem_singleton.mp hNew']
  fresh listener hListener := by
    rcases List.mem_append.mp hListener with hOld | hNew
    · exact Nat.lt_succ_of_lt (h.fresh listener hOld)
    · rw [List.mem_singleton.mp hNew, hTimer]
      exact Nat.lt_succ_self _
  present_known user other hLive := by
    rcases hLive with ⟨rfl, rfl⟩ | hOld
    · simp
    · exact List.mem_append_left _ (h.present_known user other hOld)
  ticking_known user other hLive := by
    rcases hLive with ⟨rfl, rfl⟩ | hOld
    · simp
    · exact List.mem_append_left _ (h.ticking_known user other hOld)

theorem nextTimer_write (client : SseClient) (chunk : String) :
    (hub.write client chunk).nextTimer = hub.nextTimer := by
  unfold Hub.write
  split <;> rfl

theorem Kept.register (h : Kept hub) (userId : String) (res : Nat) :
    Kept (hub.registerSseClient userId res) := by
  refine ((h.write ⟨res, hub.nextTimer⟩ _).write ⟨res, hub.nextTimer⟩ _).join userId ?_
  rw [nextTimer_write, nextTimer_write]

end Registration

section View

variable {hub : Hub} {userId : String}

/-- What the hub of several instances keeps of a registry. -/
def Hub.view (hub : Hub) : String → List SseClient :=
  hub.clientsByUser.members

/-- There, a client is appended to the list of its user. -/
theorem view_registerSseClient (h : Kept hub) (res : Nat) :
    (hub.registerSseClient userId res).view =
      Function.update hub.view userId (hub.view userId ++ [⟨res, hub.nextTimer⟩]) := by
  have hGreeted : ((hub.write ⟨res, hub.nextTimer⟩ ": connected\n\n").writeHeartbeat
      ⟨res, hub.nextTimer⟩).clientsByUser = hub.clientsByUser := by
    simp only [Hub.writeHeartbeat, Hub.write]
    split <;> rfl
  have hNew : (⟨res, hub.nextTimer⟩ : SseClient) ∉ hub.clientsByUser.members userId := fun hOld =>
    Nat.lt_irrefl _ (h.fresh _ (h.present_known _ _ ((h.members _ _).mp hOld)))
  rw [Hub.view, Hub.registerSseClient, hGreeted, SetMap.members_add, if_neg hNew]
  rfl

/-- There, a client is erased from the list of its user. -/
theorem view_removeClient (client : SseClient) : (hub.removeClient userId client).view =
    Function.update hub.view userId ((hub.view userId).erase client) :=
  SetMap.members_discard

end View

theorem Reachable.kept {hub : Hub} (h : Reachable hub) : Kept hub := by
  induction h with
  | start => exact ⟨SetMap.wellFormed_nil, by simp [SetMap.members, Live], by simp [Live], nofun,
      nofun, nofun, nofun⟩
  | @step hub action _ _ ih =>
      cases action with
      | register userId res => exact ih.register userId res
      | response event => exact ih.handleAll [event]
      | heartbeat client => exact ih.write client _
      | deliver userId event during => exact ih.deliver userId event during
      | closeSseHub during => exact ih.closeSseHub during

/-- The registry is that of the clients that live: their sets, none of them empty, and
their timers. -/
structure Registered (hub : Hub) : Prop where
  clients : ∀ userId client,
    client ∈ hub.clientsByUser.members userId ↔ Live userId client hub.log
  entries : (hub.clientsByUser.map Prod.fst).Nodup ∧ ∀ entry ∈ hub.clientsByUser, entry.2.Nodup
  filled : ∀ entry ∈ hub.clientsByUser, entry.2 ≠ []
  timers : ∀ timer res,
    (timer, res) ∈ hub.intervals ↔ ∃ userId, Live userId ⟨res, timer⟩ hub.log

/-- In every state the registry is that of the clients that live, and a delivery writes
its event once to each open one of the user and to nobody else; where clients go or end
while it runs, to those that are still open when their turn comes. -/
theorem registry_exact {hub : Hub} (h : Reachable hub) : Registered hub ∧
    ∀ userId event during, ∃ sent,
      DeliveredOnce hub (hub.deliverToLocalClients userId event during) userId event sent ∧
      ((∀ client, during client = []) → ∀ client,
        client ∈ sent ↔ Live userId client hub.log ∧ hub.writableEnded client.res = false) := by
  have hKept := h.kept
  refine ⟨⟨hKept.members, ⟨hKept.wellFormed.keys, hKept.wellFormed.values⟩,
    hKept.wellFormed.filled, hKept.intervals⟩, fun userId event during => ?_⟩
  obtain ⟨sent, hSent⟩ := hKept.deliveredOnce userId event during
  refine ⟨sent, hSent, fun hQuiet client => ⟨hSent.only client, fun hOpen => ?_⟩⟩
  obtain ⟨hLog, hEnded⟩ := @deliver_quiet hub during userId event hQuiet
  exact hSent.every client (hLog ▸ hOpen.1) (hEnded ▸ hOpen.2)

/-- One of two streams of a user has been closed. -/
def sampleHub : Hub :=
  ((Hub.step {} (.register "u1" 0)).step (.register "u1" 1)).step (.response (.close 0))

theorem reachable_sampleHub : Reachable sampleHub :=
  .step (.step (.step .start ⟨rfl, rfl⟩) ⟨rfl, rfl⟩) trivial

theorem registry_exact_sample : sampleHub.clientsByUser = [("u1", [⟨1, 1⟩])] ∧
    sampleHub.intervals = [(1, 1)] ∧ Registered sampleHub ∧ ∃ sent,
      DeliveredOnce sampleHub (sampleHub.deliverToLocalClients "u1" settled fun _ => []) "u1"
        settled sent := by
  obtain ⟨hRegistered, hDelivered⟩ := registry_exact reachable_sampleHub
  obtain ⟨sent, hSent, -⟩ := hDelivered "u1" settled fun _ => []
  exact ⟨by decide, by decide, hRegistered, sent, hSent⟩

end Navin.SseRegistry
