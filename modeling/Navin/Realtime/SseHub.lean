import Mathlib.Data.List.FinRange
import Mathlib.Logic.Function.Basic
import Navin.Shared.Json

/-! Server-sent events over several instances. Each instance writes to the streams of
its own clients and talks to the others through Redis. A published command reaches
Redis some time after the call, and a message reaches an instance some time after that.
The number of the call behind a write is recorded for the statements only. -/
namespace Navin.Sse

inductive RealtimeEventType where
  | shipmentStatus
  | shipmentMilestone
  | settlementStatus
  | notificationNew
  | anomalyDetected
  | locationUpdate
deriving DecidableEq

def RealtimeEventType.name : RealtimeEventType → String
  | .shipmentStatus => "shipment:status"
  | .shipmentMilestone => "shipment:milestone"
  | .settlementStatus => "settlement:status"
  | .notificationNew => "notification:new"
  | .anomalyDetected => "anomaly:detected"
  | .locationUpdate => "location:update"

/-- An event, with the properties that its type brings. -/
structure RealtimeEvent where
  type : RealtimeEventType
  properties : List (String × Option Value)

/-- `JSON.stringify(event)`. -/
def RealtimeEvent.text (event : RealtimeEvent) : String :=
  Json.stringify (.object (("type", some (.string event.type.name)) :: event.properties))

/-- `JSON.parse`, as far as it yields an event. -/
class EventParser where
  parse : String → Option RealtimeEvent

def userSseChannel (userId : String) : String :=
  "sse:user:" ++ userId

def initChannel : String :=
  "sse:user:__init__"

def formatSseMessage (event : RealtimeEvent) : String :=
  "event: " ++ event.type.name ++ "\ndata: " ++ event.text ++ "\n\n"

/-- A registered response, with the user its close handler remembers. -/
structure SseClient where
  res : Nat
  userId : String
deriving DecidableEq

/-- What an instance keeps. The listed channels are those its subscriber connection is
subscribed to, once there is one; the message handler is attached from the beginning. -/
structure SseHubState where
  clientsByUser : String → List SseClient
  publisher : Bool
  subscriber : Option (List String)
  redisPubSubReady : Bool

/-- A chunk written to a stream, and the call of `publishToUser` that it is due to. -/
structure Write where
  client : SseClient
  chunk : String
  call : Option Nat
deriving DecidableEq

/-- Where an instance is in `initSseHub`. -/
inductive Startup where
  | idle
  | subscribing
  | unsubscribing
deriving DecidableEq

/-- A `publish` command on its way to Redis. -/
structure Command (n : Nat) where
  origin : Fin n
  userId : String
  event : RealtimeEvent
  call : Nat

/-- A message on its way to a subscriber. -/
structure Delivery (n : Nat) where
  receiver : Fin n
  channel : String
  message : String
  call : Nat

structure World (n : Nat) where
  hub : Fin n → SseHubState
  startup : Fin n → Startup
  writableEnded : SseClient → Bool
  commands : List (Command n)
  inFlight : List (Delivery n)
  writes : List Write
  calls : Nat

namespace World

variable {n : Nat}

/-- Instances that have just been started. -/
def fresh (n : Nat) : World n where
  hub _ := ⟨fun _ => [], false, none, false⟩
  startup _ := .idle
  writableEnded _ := false
  commands := []
  inFlight := []
  writes := []
  calls := 0

def setHub (world : World n) (i : Fin n) (hub : SseHubState) : World n :=
  { world with hub := Function.update world.hub i hub }

def setStartup (world : World n) (i : Fin n) (startup : Startup) : World n :=
  { world with startup := Function.update world.startup i startup }

/-- `res.write(chunk)` on every listed stream that has not ended. -/
def writeAll (world : World n) (clients : List SseClient) (chunk : String)
    (call : Option Nat) : World n :=
  { world with
    writes := world.writes ++ (clients.filter fun client => !world.writableEnded client).map
      fun client => ⟨client, chunk, call⟩ }

def deliverToLocalClients (world : World n) (i : Fin n) (userId : String)
    (event : RealtimeEvent) (call : Nat) : World n :=
  world.writeAll ((world.hub i).clientsByUser userId) (formatSseMessage event) (some call)

def removeClient (world : World n) (i : Fin n) (client : SseClient) : World n :=
  let hub := world.hub i
  world.setHub i { hub with
    clientsByUser := Function.update hub.clientsByUser client.userId
      ((hub.clientsByUser client.userId).erase client) }

/-- A message whose text is no event is logged. -/
def handleRedisMessage [EventParser] (world : World n) (delivery : Delivery n) : World n :=
  let start := "sse:user:".toList
  if start.isPrefixOf delivery.channel.toList then
    let userId := String.ofList (delivery.channel.toList.drop start.length)
    match EventParser.parse delivery.message with
    | some event => world.deliverToLocalClients delivery.receiver userId event delivery.call
    | none => world
  else world

/-- `initSseHub` up to its first `await`. -/
def initSseHub (world : World n) (i : Fin n) : World n :=
  let hub := world.hub i
  if hub.redisPubSubReady then world
  else
    (world.setHub i { hub with publisher := true, subscriber := some [] }).setStartup i
      .subscribing

/-- The channel that was subscribed to is given up again. -/
def initSubscribed (world : World n) (i : Fin n) : World n :=
  let hub := world.hub i
  (world.setHub i { hub with subscriber := hub.subscriber.map (initChannel :: ·) }).setStartup i
    .unsubscribing

def initUnsubscribed (world : World n) (i : Fin n) : World n :=
  let hub := world.hub i
  (world.setHub i { hub with
    subscriber := hub.subscriber.map (·.erase initChannel)
    redisPubSubReady := true }).setStartup i .idle

/-- The call itself. What follows it is another step. -/
def publishToUser (world : World n) (i : Fin n) (userId : String) (event : RealtimeEvent) :
    World n :=
  let hub := world.hub i
  let next := { world with calls := world.calls + 1 }
  if hub.redisPubSubReady && hub.publisher then
    { next with commands := next.commands ++ [⟨i, userId, event, world.calls⟩] }
  else next.deliverToLocalClients i userId event world.calls

def registerSseClient (world : World n) (i : Fin n) (client : SseClient) : World n :=
  let greeted := (world.writeAll [client] ": connected\n\n" none).writeAll [client]
    ": heartbeat\n\n" none
  let hub := greeted.hub i
  greeted.setHub i { hub with
    clientsByUser := Function.update hub.clientsByUser client.userId
      (hub.clientsByUser client.userId ++ [client]) }

/-- Redis hands a message to each connection that is subscribed to its channel. -/
def published (world : World n) (before after : List (Command n)) (command : Command n) :
    World n :=
  let channel := userSseChannel command.userId
  let subscribed := (List.finRange n).filter fun i =>
    ((world.hub i).subscriber.getD []).contains channel
  { world with
    commands := before ++ after
    inFlight := world.inFlight ++ subscribed.map fun i =>
      ⟨i, channel, command.event.text, command.call⟩ }

end World

inductive Action (n : Nat) where
  | initSseHub (i : Fin n)
  | subscribed (i : Fin n)
  | unsubscribed (i : Fin n)
  | register (i : Fin n) (client : SseClient)
  | finish (client : SseClient)
  | close (i : Fin n) (client : SseClient)
  | heartbeat (i : Fin n) (client : SseClient)
  | publishToUser (i : Fin n) (userId : String) (event : RealtimeEvent)
  | published (command : Command n)
  | rejected (command : Command n)
  | received (delivery : Delivery n)

variable {n : Nat}

inductive Step [EventParser] : World n → Action n → World n → Prop where
  | initSseHub (world : World n) (i : Fin n) (hIdle : world.startup i = .idle) :
      Step world (.initSseHub i) (world.initSseHub i)
  | subscribed (world : World n) (i : Fin n) (hStage : world.startup i = .subscribing) :
      Step world (.subscribed i) (world.initSubscribed i)
  | unsubscribed (world : World n) (i : Fin n) (hStage : world.startup i = .unsubscribing) :
      Step world (.unsubscribed i) (world.initUnsubscribed i)
  | register (world : World n) (i : Fin n) (client : SseClient)
      (hNew : ∀ j, client ∉ (world.hub j).clientsByUser client.userId) :
      Step world (.register i client) (world.registerSseClient i client)
  /-- A response ends before its connection is closed. -/
  | finish (world : World n) (client : SseClient) :
      Step world (.finish client)
        { world with writableEnded := Function.update world.writableEnded client true }
  | close (world : World n) (i : Fin n) (client : SseClient) :
      Step world (.close i client) (world.removeClient i client)
  | heartbeat (world : World n) (i : Fin n) (client : SseClient)
      (hRegistered : client ∈ (world.hub i).clientsByUser client.userId) :
      Step world (.heartbeat i client) (world.writeAll [client] ": heartbeat\n\n" none)
  | publishToUser (world : World n) (i : Fin n) (userId : String) (event : RealtimeEvent) :
      Step world (.publishToUser i userId event) (world.publishToUser i userId event)
  | published (world : World n) (before after : List (Command n)) (command : Command n)
      (hCommands : world.commands = before ++ command :: after) :
      Step world (.published command) (world.published before after command)
  /-- A command that Redis fails is delivered to the clients of the instance itself. -/
  | rejected (world : World n) (before after : List (Command n)) (command : Command n)
      (hCommands : world.commands = before ++ command :: after) :
      Step world (.rejected command)
        ({ world with commands := before ++ after }.deliverToLocalClients command.origin
          command.userId command.event command.call)
  | received (world : World n) (before after : List (Delivery n)) (delivery : Delivery n)
      (hInFlight : world.inFlight = before ++ delivery :: after) :
      Step world (.received delivery)
        ({ world with inFlight := before ++ after }.handleRedisMessage delivery)

inductive Run [EventParser] : World n → List (Action n) → World n → Prop where
  | nil (world : World n) : Run world [] world
  | concat {first middle last : World n} {actions : List (Action n)} {action : Action n}
      (prior : Run first actions middle) (step : Step middle action last) :
      Run first (actions ++ [action]) last

section Delivery

/-- What call number `call` has written to a client. -/
def World.chunks (world : World n) (client : SseClient) (call : Nat) : List String :=
  (world.writes.filter fun write => write.client = client ∧ write.call = some call).map Write.chunk

/-- A client of the user whose stream is open, on any instance. -/
def World.Listens (world : World n) (userId : String) (client : SseClient) : Prop :=
  (∃ i, client ∈ (world.hub i).clientsByUser userId) ∧ world.writableEnded client = false

/-- Nothing that was published is still on its way. -/
def World.Settled (world : World n) : Prop :=
  world.commands = [] ∧ world.inFlight = []

/-- The instances on which `initSseHub` has succeeded are all. -/
def World.Initialised (world : World n) : Prop :=
  ∀ i, (world.hub i).redisPubSubReady = true

/-- The next call after `before` has written its event once to every client of the user
that has been listening all along, and nothing to clients of other users. -/
structure DeliveredOnce (before after : World n) (userId : String) (event : RealtimeEvent) :
    Prop where
  reached : ∀ client, before.Listens userId client → after.Listens userId client →
    after.chunks client before.calls = [formatSseMessage event]
  others : ∀ client, client.userId ≠ userId → after.chunks client before.calls = []

/-- The subscriber connection gives up the only channel it ever subscribes to before
the instance counts as ready. -/
def ConnectionInv (startup : Startup) (hub : SseHubState) : Prop :=
  match startup with
  | .idle =>
      hub.redisPubSubReady = true → hub.publisher = true ∧ hub.subscriber = some []
  | .subscribing =>
      hub.redisPubSubReady = false ∧ hub.publisher = true ∧ hub.subscriber = some []
  | .unsubscribing =>
      hub.redisPubSubReady = false ∧ hub.publisher = true ∧ hub.subscriber = some [initChannel]

structure HubInv (world : World n) : Prop where
  connection : ∀ i, ConnectionInv (world.startup i) (world.hub i)
  commands : ∀ command ∈ world.commands, command.call < world.calls
  inFlight : ∀ delivery ∈ world.inFlight, delivery.call < world.calls
  writes : ∀ write ∈ world.writes, ∀ call ∈ write.call, call < world.calls

theorem fresh_inv : HubInv (World.fresh n) :=
  ⟨fun _ h => absurd h Bool.false_ne_true, by nofun, by nofun, by nofun⟩

variable {world next : World n} {action : Action n}

theorem writeAll_inv {clients : List SseClient} {chunk : String} {call : Option Nat}
    (hInv : HubInv world) (hCall : ∀ k ∈ call, k < world.calls) :
    HubInv (world.writeAll clients chunk call) := by
  refine ⟨hInv.connection, hInv.commands, hInv.inFlight, fun write hWrite k hk => ?_⟩
  rcases List.mem_append.mp hWrite with hOld | hNew
  · exact hInv.writes write hOld k hk
  · obtain ⟨client, -, rfl⟩ := List.mem_map.mp hNew
    exact hCall k hk

/-- A hub may change what it knows of its clients. -/
theorem setHub_inv {i : Fin n} {hub : SseHubState} (hInv : HubInv world)
    (hHub : ConnectionInv (world.startup i) hub) : HubInv (world.setHub i hub) := by
  refine ⟨fun j => ?_, hInv.commands, hInv.inFlight, hInv.writes⟩
  by_cases hj : j = i
  · subst hj
    simpa [World.setHub] using hHub
  · simpa [World.setHub, hj] using hInv.connection j

theorem setHub_setStartup_inv {i : Fin n} {hub : SseHubState} {startup : Startup}
    (hInv : HubInv world) (hHub : ConnectionInv startup hub) :
    HubInv ((world.setHub i hub).setStartup i startup) := by
  refine ⟨fun j => ?_, hInv.commands, hInv.inFlight, hInv.writes⟩
  by_cases hj : j = i
  · subst hj
    simpa [World.setHub, World.setStartup] using hHub
  · simpa [World.setHub, World.setStartup, hj] using hInv.connection j

theorem handleRedisMessage_cases [EventParser] (world : World n) (delivery : Delivery n) :
    world.handleRedisMessage delivery = world ∨ ∃ userId event,
      world.handleRedisMessage delivery =
        world.deliverToLocalClients delivery.receiver userId event delivery.call := by
  simp only [World.handleRedisMessage]
  split_ifs
  · cases EventParser.parse delivery.message with
    | none => exact .inl rfl
    | some event => exact .inr ⟨_, event, rfl⟩
  · exact .inl rfl

theorem mem_of_mem_rest {α : Type} {item other : α} {before after : List α}
    (h : other ∈ before ++ after) : other ∈ before ++ item :: after := by
  rcases List.mem_append.mp h with hBefore | hAfter
  · exact List.mem_append_left _ hBefore
  · exact List.mem_append_right _ (List.mem_cons_of_mem _ hAfter)

theorem step_inv [EventParser] (hStep : Step world action next) (hInv : HubInv world) :
    HubInv next := by
  cases hStep with
  | initSseHub i hIdle =>
      simp only [World.initSseHub]
      split_ifs with hReady
      · exact hInv
      · exact setHub_setStartup_inv hInv ⟨by simpa using hReady, rfl, rfl⟩
  | subscribed i hStage =>
      have hConnection := hInv.connection i
      rw [hStage] at hConnection
      obtain ⟨hReady, hPublisher, hSubscriber⟩ := hConnection
      exact setHub_setStartup_inv hInv ⟨hReady, hPublisher, by simp [hSubscriber]⟩
  | unsubscribed i hStage =>
      have hConnection := hInv.connection i
      rw [hStage] at hConnection
      obtain ⟨hReady, hPublisher, hSubscriber⟩ := hConnection
      exact setHub_setStartup_inv hInv fun _ => ⟨hPublisher, by simp [hSubscriber]⟩
  | register i client =>
      have hGreeted : HubInv ((world.writeAll [client] ": connected\n\n" none).writeAll [client]
          ": heartbeat\n\n" none) :=
        writeAll_inv (writeAll_inv hInv (by nofun)) (by nofun)
      exact setHub_inv hGreeted (hGreeted.connection i)
  | finish client => exact ⟨hInv.connection, hInv.commands, hInv.inFlight, hInv.writes⟩
  | close i client => exact setHub_inv hInv (hInv.connection i)
  | heartbeat i client => exact writeAll_inv hInv (by nofun)
  | publishToUser i userId event =>
      have hNext : HubInv { world with calls := world.calls + 1 } :=
        ⟨hInv.connection, fun command h => Nat.lt_succ_of_lt (hInv.commands command h),
          fun delivery h => Nat.lt_succ_of_lt (hInv.inFlight delivery h),
          fun write h k hk => Nat.lt_succ_of_lt (hInv.writes write h k hk)⟩
      simp only [World.publishToUser]
      split_ifs
      · refine ⟨hNext.connection, fun command hCommand => ?_, hNext.inFlight, hNext.writes⟩
        rcases List.mem_append.mp hCommand with hOld | hNew
        · exact hNext.commands command hOld
        · rw [List.mem_singleton.mp hNew]
          exact Nat.lt_succ_self world.calls
      · refine writeAll_inv hNext fun k hk => ?_
        cases hk
        exact Nat.lt_succ_self world.calls
  | published before after command hCommands =>
      have hCall := hInv.commands command (hCommands ▸ List.mem_append_right _ List.mem_cons_self)
      refine ⟨hInv.connection, fun other hOther => ?_, fun delivery hDelivery => ?_, hInv.writes⟩
      · exact hInv.commands other (hCommands ▸ mem_of_mem_rest hOther)
      · rcases List.mem_append.mp hDelivery with hOld | hNew
        · exact hInv.inFlight delivery hOld
        · obtain ⟨i, -, rfl⟩ := List.mem_map.mp hNew
          exact hCall
  | rejected before after command hCommands =>
      have hCall := hInv.commands command (hCommands ▸ List.mem_append_right _ List.mem_cons_self)
      have hRest : HubInv { world with commands := before ++ after } :=
        ⟨hInv.connection, fun other hOther => hInv.commands other
          (hCommands ▸ mem_of_mem_rest hOther), hInv.inFlight, hInv.writes⟩
      refine writeAll_inv hRest fun k hk => ?_
      cases hk
      exact hCall
  | received before after delivery hInFlight =>
      have hCall := hInv.inFlight delivery (hInFlight ▸ List.mem_append_right _ List.mem_cons_self)
      have hRest : HubInv { world with inFlight := before ++ after } :=
        ⟨hInv.connection, hInv.commands, fun other hOther => hInv.inFlight other
          (hInFlight ▸ mem_of_mem_rest hOther), hInv.writes⟩
      rcases handleRedisMessage_cases { world with inFlight := before ++ after } delivery with
        hSame | ⟨userId, event, hSame⟩ <;> rw [hSame]
      · exact hRest
      · refine writeAll_inv hRest fun k hk => ?_
        cases hk
        exact hCall

theorem run_inv [EventParser] {actions : List (Action n)} (hRun : Run world actions next)
    (hInv : HubInv world) : HubInv next := by
  induction hRun with
  | nil => exact hInv
  | concat _ step ih => exact step_inv step ih

/-- Call number `call` has left no trace but its command, and will leave none. -/
structure Lost (call : Nat) (world : World n) : Prop where
  inv : HubInv world
  made : call < world.calls
  initialised : world.Initialised
  inFlight : ∀ delivery ∈ world.inFlight, delivery.call ≠ call
  writes : ∀ write ∈ world.writes, write.call ≠ some call

theorem Lost.subscriber {call : Nat} (hLost : Lost call world) (i : Fin n) :
    (world.hub i).publisher = true ∧ (world.hub i).subscriber = some [] := by
  have hConnection := hLost.inv.connection i
  have hReady := hLost.initialised i
  cases hStartup : world.startup i <;> rw [hStartup] at hConnection
  · exact hConnection hReady
  · exact absurd hReady (by simp [hConnection.1])
  · exact absurd hReady (by simp [hConnection.1])

theorem Lost.writeAll {call : Nat} {clients : List SseClient} {chunk : String}
    {other : Option Nat} (hLost : Lost call world) (hOther : other ≠ some call)
    (hMade : ∀ k ∈ other, k < world.calls) : Lost call (world.writeAll clients chunk other) := by
  refine ⟨writeAll_inv hLost.inv hMade, hLost.made, hLost.initialised, hLost.inFlight, ?_⟩
  intro write hWrite
  rcases List.mem_append.mp hWrite with hOld | hNew
  · exact hLost.writes write hOld
  · obtain ⟨client, -, rfl⟩ := List.mem_map.mp hNew
    exact hOther

/-- Writes that no call is behind. -/
theorem Lost.greet {call : Nat} {clients : List SseClient} {chunk : String}
    (hLost : Lost call world) : Lost call (world.writeAll clients chunk none) :=
  hLost.writeAll (by nofun) (by nofun)

theorem Lost.setHub {call : Nat} {i : Fin n} {clients : String → List SseClient}
    (hLost : Lost call world) :
    Lost call (world.setHub i { world.hub i with clientsByUser := clients }) := by
  refine ⟨setHub_inv hLost.inv (hLost.inv.connection i), hLost.made, fun j => ?_,
    hLost.inFlight, hLost.writes⟩
  by_cases hj : j = i
  · subst hj
    simpa [World.setHub] using hLost.initialised j
  · simpa [World.setHub, hj] using hLost.initialised j

/-- Without a failure of Redis the command ends at a channel nobody is subscribed to. -/
theorem Lost.step [EventParser] {call : Nat} (hStep : Step world action next)
    (hRedis : ∀ command, action ≠ .rejected command) (hLost : Lost call world) :
    Lost call next := by
  have hNext := step_inv hStep hLost.inv
  cases hStep with
  | initSseHub i hIdle =>
      rw [World.initSseHub, if_pos (hLost.initialised i)]
      exact hLost
  | subscribed i hStage =>
      have hConnection := hLost.inv.connection i
      rw [hStage] at hConnection
      exact absurd (hLost.initialised i) (by simp [hConnection.1])
  | unsubscribed i hStage =>
      have hConnection := hLost.inv.connection i
      rw [hStage] at hConnection
      exact absurd (hLost.initialised i) (by simp [hConnection.1])
  | register i client =>
      have hGreeted : Lost call ((world.writeAll [client] ": connected\n\n" none).writeAll
          [client] ": heartbeat\n\n" none) :=
        hLost.greet.greet
      exact hGreeted.setHub
  | finish client =>
      exact ⟨hNext, hLost.made, hLost.initialised, hLost.inFlight, hLost.writes⟩
  | close i client => exact hLost.setHub
  | heartbeat i client => exact hLost.greet
  | publishToUser i userId event =>
      have hConnected := (hLost.subscriber i).1
      simp only [World.publishToUser, hLost.initialised i, hConnected, Bool.and_self,
        if_true] at hNext ⊢
      exact ⟨hNext, Nat.lt_succ_of_lt hLost.made, hLost.initialised, hLost.inFlight, hLost.writes⟩
  | published before after command hCommands =>
      refine ⟨hNext, hLost.made, hLost.initialised, fun delivery hDelivery => ?_, hLost.writes⟩
      rcases List.mem_append.mp hDelivery with hOld | hNew
      · exact hLost.inFlight delivery hOld
      · obtain ⟨i, hSubscribed, -⟩ := List.mem_map.mp hNew
        rw [List.mem_filter, (hLost.subscriber i).2] at hSubscribed
        exact absurd hSubscribed.2 (by simp)
  | rejected before after command hCommands => exact absurd rfl (hRedis command)
  | received before after delivery hInFlight =>
      have hOther : delivery.call ≠ call := hLost.inFlight delivery
        (hInFlight ▸ List.mem_append_right _ List.mem_cons_self)
      have hMade : delivery.call < world.calls := hLost.inv.inFlight delivery
        (hInFlight ▸ List.mem_append_right _ List.mem_cons_self)
      have hRest : Lost call { world with inFlight := before ++ after } :=
        ⟨⟨hLost.inv.connection, hLost.inv.commands, fun other hOther =>
            hLost.inv.inFlight other (hInFlight ▸ mem_of_mem_rest hOther), hLost.inv.writes⟩,
          hLost.made, hLost.initialised, fun other hOther =>
            hLost.inFlight other (hInFlight ▸ mem_of_mem_rest hOther), hLost.writes⟩
      rcases handleRedisMessage_cases { world with inFlight := before ++ after } delivery with
        hSame | ⟨userId, event, hSame⟩ <;> rw [hSame]
      · exact hRest
      · refine hRest.writeAll (fun h => hOther (Option.some.inj h)) fun k hk => ?_
        cases hk
        exact hMade

theorem Lost.run [EventParser] {call : Nat} {actions : List (Action n)}
    (hRun : Run world actions next) (hRedis : ∀ command, .rejected command ∉ actions)
    (hLost : Lost call world) : Lost call next := by
  induction hRun with
  | nil => exact hLost
  | @concat middle last actions action _ step ih =>
      refine (ih fun command h => hRedis command (List.mem_append_left _ h)).step step ?_
      rintro command rfl
      exact hRedis command (List.mem_append_right _ List.mem_cons_self)

/-- A call on an instance that is ready only leaves a command. -/
theorem lost_of_publishToUser [EventParser] (hInv : HubInv world) (hReady : world.Initialised)
    (i : Fin n) (userId : String) (event : RealtimeEvent) :
    Lost world.calls (world.publishToUser i userId event) := by
  have hNext := step_inv (Step.publishToUser world i userId event) hInv
  have hPublisher : (world.hub i).publisher = true := by
    have hConnection := hInv.connection i
    cases hStartup : world.startup i <;> rw [hStartup] at hConnection
    · exact (hConnection (hReady i)).1
    · exact hConnection.2.1
    · exact hConnection.2.1
  simp only [World.publishToUser, hReady i, hPublisher, Bool.and_self, if_true] at hNext ⊢
  refine ⟨hNext, Nat.lt_succ_self _, hReady, fun delivery hDelivery => ?_, fun write hWrite => ?_⟩
  · exact Nat.ne_of_lt (hInv.inFlight delivery hDelivery)
  · intro hCall
    exact Nat.lt_irrefl _ (hInv.writes write hWrite _ hCall)

theorem Lost.chunks {call : Nat} (hLost : Lost call world) (client : SseClient) :
    world.chunks client call = [] := by
  rw [World.chunks, List.map_eq_nil_iff, List.filter_eq_nil_iff]
  intro write hWrite hSame
  exact hLost.writes write hWrite (of_decide_eq_true hSame).2

/-- In any run of any number of instances, an event published once all are initialised
is delivered as it should be exactly when nobody is listening for it: no instance is
subscribed to the channel of a user. -/
theorem deliveredOnce_iff [EventParser] {before after : World n} {earlier later : List (Action n)}
    {i : Fin n} {userId : String} {event : RealtimeEvent}
    (hEarlier : Run (World.fresh n) earlier before) (hReady : before.Initialised)
    (hLater : Run (before.publishToUser i userId event) later after)
    (hRedis : ∀ command, .rejected command ∉ later) :
    after.Settled → (DeliveredOnce before after userId event ↔
      ∀ client, before.Listens userId client → ¬ after.Listens userId client) := by
  have hLost : Lost before.calls after :=
    (lost_of_publishToUser (run_inv hEarlier fresh_inv) hReady i userId event).run hLater hRedis
  intro _
  constructor
  · intro hDelivered client hBefore hAfter
    have hChunks := hDelivered.reached client hBefore hAfter
    rw [hLost.chunks] at hChunks
    cases hChunks
  · intro hNobody
    exact ⟨fun client hBefore hAfter => absurd hAfter (hNobody client hBefore),
      fun client _ => hLost.chunks client⟩

section Sample

/-- A parser that knows one text. -/
@[reducible] def parserOf (event : RealtimeEvent) : EventParser :=
  ⟨fun text => if text = event.text then some event else none⟩

def settled : RealtimeEvent :=
  ⟨.settlementStatus, [("settlementId", some (.string "s1")),
    ("newStatus", some (.string "RELEASED"))]⟩

def listener : SseClient :=
  ⟨1, "u1"⟩

/-- Two instances are up, and a client of the second one is listening. -/
def twoInstances : World 2 :=
  let started (world : World 2) (i : Fin 2) :=
    ((world.initSseHub i).initSubscribed i).initUnsubscribed i
  (started (started (World.fresh 2) 0) 1).registerSseClient 1 listener

/-- The first instance has published an event for that client. -/
def afterPublishing : World 2 :=
  (twoInstances.publishToUser 0 "u1" settled).published [] [] ⟨0, "u1", settled, 0⟩

theorem run_twoInstances [EventParser] : Run (World.fresh 2)
    [.initSseHub 0, .subscribed 0, .unsubscribed 0, .initSseHub 1, .subscribed 1,
      .unsubscribed 1, .register 1 listener] twoInstances :=
  .concat (.concat (.concat (.concat (.concat (.concat (.concat (.nil _)
    (.initSseHub _ 0 rfl)) (.subscribed _ 0 rfl)) (.unsubscribed _ 0 rfl))
    (.initSseHub _ 1 rfl)) (.subscribed _ 1 rfl)) (.unsubscribed _ 1 rfl))
    (.register _ 1 listener (by decide))

theorem run_afterPublishing [EventParser] : Run (twoInstances.publishToUser 0 "u1" settled)
    [.published ⟨0, "u1", settled, 0⟩] afterPublishing :=
  .concat (.nil _) (.published _ [] [] _ rfl)

theorem twoInstances_initialised : twoInstances.Initialised := by
  unfold World.Initialised
  decide

theorem listener_listens :
    twoInstances.Listens "u1" listener ∧ afterPublishing.Listens "u1" listener :=
  ⟨⟨⟨1, by decide⟩, by decide⟩, ⟨⟨1, by decide⟩, by decide⟩⟩

theorem deliveredOnce_iff_sample : DeliveredOnce twoInstances afterPublishing "u1" settled ↔
    ∀ client, twoInstances.Listens "u1" client → ¬ afterPublishing.Listens "u1" client :=
  have : EventParser := parserOf settled
  deliveredOnce_iff run_twoInstances twoInstances_initialised run_afterPublishing (by simp)
    ⟨rfl, rfl⟩

/-- Redis takes the event, and the client never sees it. -/
theorem published_event_is_lost :
    ¬ ∀ (_ : EventParser) (n : Nat) (before after : World n) (earlier later : List (Action n))
      (i : Fin n) (userId : String) (event : RealtimeEvent),
      Run (World.fresh n) earlier before → before.Initialised →
      Run (before.publishToUser i userId event) later after →
      (∀ command, .rejected command ∉ later) → after.Settled →
      DeliveredOnce before after userId event := by
  intro hClaim
  have hDelivered := hClaim (parserOf settled) 2 twoInstances afterPublishing _ _ 0 "u1" settled
    (@run_twoInstances (parserOf settled)) twoInstances_initialised
    (@run_afterPublishing (parserOf settled)) (by simp) ⟨rfl, rfl⟩
  have hChunks := hDelivered.reached listener listener_listens.1 listener_listens.2
  exact absurd hChunks (by decide)

end Sample

end Delivery

end Navin.Sse
