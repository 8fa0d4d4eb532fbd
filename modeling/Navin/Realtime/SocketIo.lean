import Navin.Identity.Documents
import Navin.Realtime.Fanout
import Navin.Semantics.Protocol

/-! The socket server. Handlers of client messages look up shipments, join and leave
rooms and answer; what is emitted to a room reaches the sockets in it. A handler runs
from one `await` to the next without interruption, and so do the handlers of connections
and disconnections. -/
namespace Navin.SocketIo

open Async Sse

/-- A socket, with what the token of its handshake carried. -/
structure Socket where
  id : String
  user : Claims
  idLength : id.length = 20
deriving DecidableEq

structure NotificationPayload where
  notificationId : String
  recipientId : String
  type : String
  title : String
  body : String
  referenceId : Option String
  referenceType : Option String
  timestamp : String
  read : Bool
deriving DecidableEq

/-- What clients are sent. -/
inductive SocketMessage where
  | shipment (emission : SocketEmission)
  | notificationNew (notification : NotificationPayload)
  | roomJoined (shipmentId : Value) (room : String)
  | roomLeft (shipmentId : Value) (room : String)
  | error (code message : String)

inductive SocketError where
  | castError
  | typeError
  | duplicateId
  | database (error : ThrownError)

inductive SocketCall where
  | connection (socket : Socket)
  | disconnect (socket : Socket)
  | findShipment (shipmentId : Value)
  | join (socket : Socket) (room : String)
  | leave (socket : Socket) (room : String)
  | emit (socket : Socket) (message : SocketMessage)
  | emitToRoom (room : String) (message : SocketMessage)
  | database (shipments : Collection Shipment.id) (outage : Option ThrownError)

@[reducible] def SocketCall.Answer : SocketCall → Type
  | .findShipment _ => Option Shipment
  | _ => Unit

abbrev SocketM : Type → Type :=
  Program SocketCall SocketCall.Answer SocketError

abbrev SocketEvent (ι : Type) : Type :=
  Event SocketCall SocketCall.Answer SocketError ι

abbrev call (request : SocketCall) : SocketM request.Answer :=
  Program.await request

/-- The server's state, with all that its clients have received, latest first. -/
structure SocketStore where
  shipments : Collection Shipment.id := .empty
  outage : Option ThrownError := none
  sockets : List Socket := []
  rooms : List (Socket × String) := []
  activeUsers : String → Option String := fun _ => none
  received : List (Socket × SocketMessage) := []

def isShipmentRoom (room : String) : Bool :=
  "shipment_".toList.isPrefixOf room.toList

namespace SocketStore

variable (store : SocketStore)

/-- Every socket is in the room of its own id, and is registered under its user. -/
def connect (socket : Socket) : SocketStore :=
  { store with
    sockets := socket :: store.sockets
    rooms := (socket, socket.id) :: store.rooms
    activeUsers := match truthy socket.user.userId with
      | none => store.activeUsers
      | some userId => Function.update store.activeUsers socket.id (some userId) }

/-- `disconnecting` leaves the shipment rooms; then all rooms are left, and
`disconnect` forgets the user. -/
def disconnect (socket : Socket) : SocketStore :=
  let rooms := store.rooms.filter fun entry => ¬(entry.1 = socket ∧ isShipmentRoom entry.2)
  { store with
    sockets := store.sockets.filter fun other => other ≠ socket
    rooms := rooms.filter fun entry => entry.1 ≠ socket
    activeUsers := Function.update store.activeUsers socket.id none }

def members (room : String) : List Socket :=
  (store.rooms.filter fun entry => entry.2 = room).map Prod.fst

end SocketStore

section Server

variable [DateText] [QueryOperators]

/-- `Shipment.findById(value)`. -/
def SocketStore.findById (store : SocketStore) (shipmentId : Value) :
    Except SocketError (Option Shipment) :=
  match idFilter shipmentId with
  | none => .error .castError
  | some accepts =>
      match store.outage with
      | some error => .error (.database error)
      | none => .ok (store.shipments.docs.find? fun shipment =>
          accepts shipment.id && shipment.deletedAt.isNone)

def serve (store : SocketStore) :
    (request : SocketCall) → SocketStore × Except SocketError request.Answer
  | .connection socket =>
      if store.sockets.any fun other => other.id = socket.id then (store, .error .duplicateId)
      else (store.connect socket, .ok ())
  | .disconnect socket =>
      (if socket ∈ store.sockets then store.disconnect socket else store, .ok ())
  | .findShipment shipmentId => (store, store.findById shipmentId)
  | .join socket room =>
      (if socket ∈ store.sockets ∧ (socket, room) ∉ store.rooms then
        { store with rooms := (socket, room) :: store.rooms } else store, .ok ())
  | .leave socket room =>
      ({ store with rooms := store.rooms.filter fun entry => entry ≠ (socket, room) }, .ok ())
  | .emit socket message =>
      (if socket ∈ store.sockets then
        { store with received := (socket, message) :: store.received } else store, .ok ())
  | .emitToRoom room message =>
      ({ store with
        received := (store.members room).map (fun socket => (socket, message)) ++ store.received },
        .ok ())
  | .database shipments outage => ({ store with shipments, outage }, .ok ())

/-- Nothing is left for the world to decide: outages are in the store. -/
abbrev socketWorld : World SocketCall SocketCall.Answer SocketError where
  Store := SocketStore
  Env := Unit
  perform _ := serve

end Server

def shipmentRoomName (shipmentId : String) : String :=
  "shipment_" ++ shipmentId

/-- The template's text of what a client sent; there may be none. -/
def roomOfMessage [DateText] (shipmentId : Value) : SocketM String :=
  match shipmentId.text? with
  | none => throw .typeError
  | some text => return shipmentRoomName text

def isAuthorizedForShipment (shipmentId : Value) (organizationId : Option String) :
    SocketM Bool :=
  match shipmentId.truthy, truthy organizationId with
  | true, some organizationId => do
      let found ← call (.findShipment shipmentId)
      return (found : Option Shipment).any fun shipment => ownedBy shipment organizationId
  | _, _ => return false

def unauthorized : SocketMessage :=
  .error "UNAUTHORIZED" "Not allowed to view this shipment"

def joinShipmentRoom [DateText] (socket : Socket) (shipmentId : Value) : SocketM Unit := do
  let ok ← isAuthorizedForShipment shipmentId socket.user.organizationId
  if ok then do
    let room ← roomOfMessage shipmentId
    call (.join socket room)
    call (.emit socket (.roomJoined shipmentId room))
  else call (.emit socket unauthorized)

def leaveShipmentRoom [DateText] (socket : Socket) (shipmentId : Value) : SocketM Unit := do
  let room ← roomOfMessage shipmentId
  call (.leave socket room)
  call (.emit socket (.roomLeft shipmentId room))

def emitToShipmentRoom (emission : SocketEmission) : SocketM Unit :=
  call (.emitToRoom (shipmentRoomName emission.shipmentId) (.shipment emission))

def emitAnomalyDetected (shipmentId : String) (anomaly : AnomalyAlertPayload) : SocketM Unit :=
  emitToShipmentRoom (.anomalyDetected shipmentId anomaly)

def emitTelemetryUpdate (shipmentId : String) (telemetry : TelemetryUpdatePayload) :
    SocketM Unit :=
  emitToShipmentRoom (.locationUpdate shipmentId telemetry)

def emitStatusUpdate (shipmentId : String) (statusData : StatusUpdatePayload) : SocketM Unit :=
  emitToShipmentRoom (.shipmentStatus shipmentId statusData)

def emitPaymentStatusChange (shipmentId : String) (payment : SettlementStatusPayload) :
    SocketM Unit :=
  emitToShipmentRoom (.settlementStatus shipmentId payment)

def emitNotificationNew (recipientId : String) (notification : NotificationPayload) :
    SocketM Unit :=
  call (.emitToRoom recipientId (.notificationNew notification))

/-- What goes on at the server: connections come and go, clients send messages, the
services emit, and the rest of the program writes to the database. -/
inductive Activity where
  | connection (socket : Socket)
  | disconnect (socket : Socket)
  | joinShipment (socket : Socket) (shipmentId : Value)
  | leaveShipment (socket : Socket) (shipmentId : Value)
  | anomalyDetected (shipmentId : String) (anomaly : AnomalyAlertPayload)
  | telemetryUpdate (shipmentId : String) (telemetry : TelemetryUpdatePayload)
  | statusUpdate (shipmentId : String) (statusData : StatusUpdatePayload)
  | paymentStatusChange (shipmentId : String) (payment : SettlementStatusPayload)
  | notificationNew (recipientId : String) (notification : NotificationPayload)
  | database (shipments : Collection Shipment.id) (outage : Option ThrownError)

variable [DateText]

def Activity.program : Activity → SocketM Unit
  | .connection socket => call (.connection socket)
  | .disconnect socket => call (.disconnect socket)
  | .joinShipment socket shipmentId => joinShipmentRoom socket shipmentId
  | .leaveShipment socket shipmentId => leaveShipmentRoom socket shipmentId
  | .anomalyDetected shipmentId anomaly => emitAnomalyDetected shipmentId anomaly
  | .telemetryUpdate shipmentId telemetry => emitTelemetryUpdate shipmentId telemetry
  | .statusUpdate shipmentId statusData => emitStatusUpdate shipmentId statusData
  | .paymentStatusChange shipmentId payment => emitPaymentStatusChange shipmentId payment
  | .notificationNew recipientId notification => emitNotificationNew recipientId notification
  | .database shipments outage => call (.database shipments outage)

/-- A server that has just started, with all that is going to happen at it. -/
def server {ι : Type} [QueryOperators] (activities : ι → Activity) : Pool socketWorld ι Unit where
  store := {}
  thread i := (activities i).program

end Navin.SocketIo
