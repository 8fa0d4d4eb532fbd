import Navin.Realtime.SocketRooms

/-! Whether the handlers of `join_shipment` settle. Nobody catches what they throw. -/
namespace Navin.SocketIo

open Async Sse

/-- What the client of a `join_shipment` waits for. -/
def SocketMessage.answersJoin : SocketMessage → Bool
  | .roomJoined .. => true
  | .error .. => true
  | _ => false

section Handlers

variable [DateText]

def Socket.isParty (socket : Socket) (shipment : Shipment) : Bool :=
  (truthy socket.user.organizationId).any (ownedBy shipment)

/-- The handler of a `join_shipment`: the calls it has made, the answers it has sent, and
whether something on its way was refused or cannot be named. -/
structure Joining where
  socket : Socket
  shipmentId : Value
  calls : Nat := 0
  answers : Nat := 0
  broken : Bool := false

/-- What the handler looks up, joins and sends. -/
def Joining.Calls (joining : Joining) : SocketCall → Prop
  | .findShipment shipmentId => shipmentId = joining.shipmentId
  | .join socket _ => socket = joining.socket
  | .emit socket message => socket = joining.socket ∧ message.answersJoin = true
  | _ => False

/-- A call is refused, or the shipment it finds cannot be named in a room. -/
def Joining.breaks (joining : Joining) :
    (request : SocketCall) → Except SocketError request.Answer → Bool
  | .findShipment _, .ok found =>
      (found : Option Shipment).any joining.socket.isParty && joining.shipmentId.text?.isNone
  | _, .ok _ => false
  | _, .error _ => true

/-- Whether a call answers the socket. -/
def Socket.answeredBy (socket : Socket) : SocketCall → Bool
  | .emit recipient message => recipient = socket && message.answersJoin
  | _ => false

def Joining.next (joining : Joining) (request : SocketCall)
    (response : Except SocketError request.Answer) : Joining :=
  { joining with
    calls := joining.calls + 1
    answers := joining.answers + (joining.socket.answeredBy request).toNat
    broken := joining.broken || joining.breaks request response }

/-- A handler of `join_shipment` makes at most three calls, the last of which answers. -/
def answersOnce : Protocol SocketCall SocketCall.Answer SocketError (Option Joining) where
  allows
    | none, _ => True
    | some joining, request =>
        joining.calls < 3 ∧ joining.answers = 0 ∧ joining.Calls request
  next joining request response := joining.map fun joining => joining.next request response

/-- How such a handler ends. -/
def Ends : Option Joining → Except SocketError Unit → Prop
  | none, _ => True
  | some joining, outcome => joining.broken = true ∨ outcome = .ok () ∧ joining.answers = 1

theorem ends_emit {joining : Joining} {message : SocketMessage} (hAnswers : message.answersJoin = true)
    (hCalls : joining.calls < 3) (hNone : joining.answers = 0) :
    (call (.emit joining.socket message)).Follows answersOnce Ends (some joining) := by
  refine Program.follows_await.mpr ⟨⟨hCalls, hNone, rfl, hAnswers⟩, fun response => ?_⟩
  cases response with
  | error error => exact .inl (Bool.or_true _)
  | ok answer =>
      refine .inr ⟨rfl, ?_⟩
      simp [Joining.next, Socket.answeredBy, hNone, hAnswers]

theorem joinShipmentRoom_ends (socket : Socket) (shipmentId : Value) :
    (joinShipmentRoom socket shipmentId).Follows answersOnce Ends
      (some { socket, shipmentId }) := by
  rw [joinShipmentRoom, isAuthorizedForShipment]
  split
  · rename_i organizationId hTruthy hOrganization
    rw [bind_assoc]
    apply Program.Follows.await_bind
    · exact ⟨Nat.zero_lt_succ 2, rfl, rfl⟩
    · exact fun error => .inl rfl
    · intro found
      rw [pure_bind]
      split_ifs with hOwned
      · rw [roomOfMessage]
        split
        · rename_i hText
          rw [Option.any_eq_true] at hOwned
          obtain ⟨shipment, rfl, hParty⟩ := hOwned
          refine .inl ?_
          simp [Joining.next, Joining.breaks, Socket.isParty, hOrganization, hText, hParty]
        · rw [pure_bind]
          apply Program.Follows.await_bind
          · exact ⟨by simp [Joining.next], rfl, rfl⟩
          · exact fun error => .inl (Bool.or_true _)
          · intro _
            exact ends_emit rfl (by simp [Joining.next]) rfl
      · exact ends_emit rfl (by simp [Joining.next]) rfl
  · rw [pure_bind]
    exact ends_emit rfl (by simp) rfl

/-- The handler of a client's `join_shipment`. -/
def Activity.joining : Activity → Option Joining
  | .joinShipment socket shipmentId => some { socket, shipmentId }
  | _ => none

/-- Nothing is asked of the other handlers. -/
theorem ends_none (program : SocketM Unit) : program.Follows answersOnce Ends none := by
  induction program with
  | done _ => trivial
  | fail _ => trivial
  | call request next ih => exact ⟨trivial, fun response => ih response⟩

theorem Activity.program_ends (activity : Activity) :
    activity.program.Follows answersOnce Ends activity.joining := by
  cases activity with
  | joinShipment socket shipmentId => exact joinShipmentRoom_ends socket shipmentId
  | _ => exact ends_none _

end Handlers

section Runs

variable [DateText] [QueryOperators]

/-- The value can be made a filter, the database is there, and the value has a text if
its shipment is one of the socket's organisation. -/
def SocketStore.serves (store : SocketStore) (socket : Socket) (shipmentId : Value) : Bool :=
  (idFilter shipmentId).isSome && store.outage.isNone &&
    match store.findById shipmentId with
    | .ok (some shipment) => !socket.isParty shipment || shipmentId.text?.isSome
    | _ => true

def lookupServed (store : SocketStore) : Option Joining → SocketCall → Bool
  | some joining, .findShipment _ => store.serves joining.socket joining.shipmentId
  | _, _ => true

variable {ι : Type} [DecidableEq ι] (activities : ι → Activity)

/-- The lookups of the `join_shipment` handlers are served. -/
def lookupsServed : Guard socketWorld ι :=
  fun _ store i request => lookupServed store (activities i).joining request = true

instance (history : List (SocketEvent ι)) (store : SocketStore) (i : ι) (request : SocketCall) :
    Decidable (lookupsServed activities history store i request) :=
  inferInstanceAs (Decidable (_ = true))

def joinings (history : List (SocketEvent ι)) : ι → Option Joining :=
  answersOnce.after (fun i => (activities i).joining) history

/-- The calls of a handler. -/
def callsOf (history : List (SocketEvent ι)) (i : ι) : Nat :=
  history.countP fun event => event.thread = i

/-- The answers a handler has sent to a socket. -/
def answersOf (history : List (SocketEvent ι)) (i : ι) (socket : Socket) : Nat :=
  history.countP fun event => event.thread = i && socket.answeredBy event.request

variable {history : List (SocketEvent ι)} {i : ι} {joining : Joining}

theorem findById_of_filter {store : SocketStore} {shipmentId : Value}
    (hFilter : (idFilter shipmentId).isSome = true) (hOutage : store.outage.isNone = true) :
    ∃ found, store.findById shipmentId = .ok found := by
  obtain ⟨accepts, hAccepts⟩ := Option.isSome_iff_exists.mp hFilter
  rw [Option.isNone_iff_eq_none] at hOutage
  unfold SocketStore.findById
  rw [hAccepts, hOutage]
  exact ⟨_, rfl⟩

/-- A served call of a handler breaks nothing. -/
theorem not_breaks {store : SocketStore} {request : SocketCall} (hCalls : joining.Calls request)
    (hServed : lookupServed store (some joining) request = true) :
    joining.breaks request (serve store request).2 = false := by
  cases request with
  | findShipment shipmentId =>
      obtain rfl : shipmentId = joining.shipmentId := hCalls
      simp only [lookupServed, SocketStore.serves, Bool.and_eq_true] at hServed
      obtain ⟨⟨hFilter, hOutage⟩, hText⟩ := hServed
      obtain ⟨found, hFound⟩ := findById_of_filter hFilter hOutage
      change joining.breaks (.findShipment joining.shipmentId)
        (store.findById joining.shipmentId) = false
      rw [hFound] at hText ⊢
      cases found with
      | none => rfl
      | some shipment =>
          cases hParty : joining.socket.isParty shipment <;>
            simp_all [Joining.breaks]
  | join socket room => rfl
  | emit socket message => rfl
  | _ => exact hCalls.elim

variable {point : Point socketWorld ι Unit}

omit [QueryOperators] in
/-- The protocol counts what is in the history. -/
theorem next_counts (event : SocketEvent ι) {socket : Socket} {shipmentId : Value}
    (hBreaks : joining.breaks event.request event.response = false)
    (h : joining = ⟨socket, shipmentId, callsOf history event.thread,
      answersOf history event.thread socket, false⟩) :
    joining.next event.request event.response = ⟨socket, shipmentId,
      callsOf (event :: history) event.thread, answersOf (event :: history) event.thread socket,
      false⟩ := by
  rw [Joining.next, hBreaks, h]
  simp only [callsOf, answersOf, List.countP_cons, decide_true, Bool.true_and, if_true,
    Bool.or_false]
  cases socket.answeredBy event.request <;> rfl

/-- In a run that serves the lookups, no handler is broken. -/
theorem joinings_of_run (run : GuardedRun (lookupsServed activities) (server activities) point) :
    ∀ i socket shipmentId, activities i = .joinShipment socket shipmentId →
      joinings activities point.1 i =
        some ⟨socket, shipmentId, callsOf point.1 i, answersOf point.1 i socket, false⟩ := by
  apply run.invariant answersOnce (fun i => (activities i).joining)
    (fun i => (activities i).program_ends)
    (fun history _ => ∀ i socket shipmentId, activities i = .joinShipment socket shipmentId →
      joinings activities history i =
        some ⟨socket, shipmentId, callsOf history i, answersOf history i socket, false⟩)
  · intro i socket shipmentId hJoin
    rw [joinings, Protocol.after_nil, hJoin]
    rfl
  · intro history store _ j request hInv hAllows hServed i socket shipmentId hJoin
    have hBefore := hInv i socket shipmentId hJoin
    rw [joinings] at hBefore ⊢
    by_cases hi : i = j
    · subst hi
      rw [hBefore] at hAllows
      rw [lookupsServed, hJoin] at hServed
      rw [Protocol.after_cons_self answersOnce _ ⟨i, request, _⟩, hBefore]
      refine congrArg some (next_counts ⟨i, request, _⟩ ?_ rfl)
      refine not_breaks hAllows.2.2 ?_
      cases request <;> exact hServed
    · rw [Protocol.after_cons_of_ne _ _ _ hi]
      simpa [callsOf, answersOf, Ne.symm hi] using hBefore

/-- Where every lookup is served, each `join_shipment` settles within three calls without
throwing, and has then sent exactly one answer to its socket. -/
theorem joinHandlers_settle {socket : Socket} {shipmentId : Value}
    (run : GuardedRun (lookupsServed activities) (server activities) point)
    (hJoin : activities i = .joinShipment socket shipmentId) :
    (point.2.thread i).settled? = some (.ok ()) ∧ answersOf point.1 i socket = 1 ∨
      (point.2.thread i).settled? = none ∧ answersOf point.1 i socket = 0 ∧
        callsOf point.1 i < 3 := by
  have hFollows := GuardedRun.follows answersOnce (fun i => (activities i).joining) run
    (fun i => (activities i).program_ends) i
  have hJoining := joinings_of_run activities run i socket shipmentId hJoin
  rw [joinings] at hJoining
  rw [hJoining] at hFollows
  cases hThread : point.2.thread i with
  | done answer =>
      rw [hThread] at hFollows
      rcases hFollows with hBroken | ⟨-, hOnce⟩
      · cases hBroken
      · exact .inl ⟨rfl, hOnce⟩
  | fail error =>
      rw [hThread] at hFollows
      rcases hFollows with hBroken | ⟨hOk, -⟩
      · cases hBroken
      · cases hOk
  | call request next =>
      rw [hThread] at hFollows
      obtain ⟨hCalls, hNone, -⟩ := hFollows.1
      exact .inr ⟨rfl, hNone, hCalls⟩

end Runs

section Sample

theorem joinHandlers_settle_sample :
    ∃ point : Point (@socketWorld isoDateText noOperators) (Fin 4) Unit,
      point.2.store.received ≠ [] ∧ ((point.2.thread 2).settled? = some (.ok ()) ∧
          answersOf point.1 2 sampleSocket = 1 ∨
        (point.2.thread 2).settled? = none ∧ answersOf point.1 2 sampleSocket = 0 ∧
          callsOf point.1 2 < 3) := by
  obtain ⟨point, run, hTest⟩ := Pool.exists_run
    (@lookupsServed isoDateText noOperators _ sampleActivities) sampleServer
    (fun point => !point.2.store.received.isEmpty)
    [((), 0), ((), 1), ((), 2), ((), 2), ((), 2)] (by decide +kernel)
  rw [Bool.not_eq_true', List.isEmpty_eq_false_iff] at hTest
  exact ⟨point, hTest, @joinHandlers_settle isoDateText noOperators _ _ sampleActivities 2 point
    sampleSocket _ run rfl⟩

/-- A client sends what is no identifier. -/
abbrev sampleMisnomer : @Pool _ _ _ (@socketWorld isoDateText noOperators) (Fin 2) Unit :=
  @server isoDateText _ noOperators fun
    | 0 => .connection sampleSocket
    | 1 => .joinShipment sampleSocket (.string "not-an-id")

/-- The handler throws, and its client gets no answer. -/
theorem joinHandler_rejects : ¬∀ (_ : DateText) (_ : QueryOperators)
    (activities : Fin 2 → Activity) (point : Point socketWorld (Fin 2) Unit) (i : Fin 2)
    (socket : Socket) (shipmentId : Value), GuardedRun anyStep (server activities) point →
    activities i = .joinShipment socket shipmentId →
      (point.2.thread i).settled? = some (.ok ()) ∧ answersOf point.1 i socket = 1 ∨
        (point.2.thread i).settled? = none := by
  intro hClaim
  obtain ⟨point, hRun, hFailed⟩ : ∃ point,
      Pool.runSchedule anyStep [((), 0), ((), 1)] ([], sampleMisnomer) = some point ∧
        point.2.thread 1 = .fail .castError := ⟨_, rfl, rfl⟩
  rcases hClaim isoDateText noOperators _ point 1 _ _ (Pool.runSchedule_steps hRun) rfl with
    ⟨hSettled, -⟩ | hSettled <;>
  · rw [hFailed] at hSettled
    cases hSettled

end Sample

end Navin.SocketIo
