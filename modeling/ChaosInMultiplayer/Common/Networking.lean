import ChaosInMultiplayer.Program.Basic
import ChaosInMultiplayer.Program.History
import ChaosInMultiplayer.Common.ConnectionStatus
import ChaosInMultiplayer.Common.Packet

/-!
# The networking library as the endpoints see it

The library is not part of the repository.  It is a parameter: `ISteamNetworkingSockets`
gives its answers to the calls of the endpoints as functions of everything that has
happened before, a `Trace`.  A trace holds what the network did (messages that arrived,
status events that were queued), the calls made on the library with their answers, and
the invocations of the callbacks; its latest event comes first.

What a trace leaves behind at the library is computed from it: the poll group of a
connection (`groupOf`), the messages not yet handed out (`pending`), the status events not
yet dispatched (`queuedEvents`), and the sockets and poll groups that are held.  What the
endpoints rely on is stated in these terms, as conditions on the answers.
-/

namespace Chs

/-- A message of the networking library (`ISteamNetworkingMessage`). -/
structure Message where
  conn : HSteamNetConnection
  data : List UInt8
  cbSize : Int
  deriving DecidableEq

/-- The value of an `int` converted to `std::size_t`. -/
def toSizeT (n : Int) : Nat :=
  (n % UInt64.size).toNat

/-- The packet an endpoint makes of a message. -/
def Message.packet (m : Message) : Packet :=
  Packet.construct m.data (toSizeT m.cbSize)

inductive SendType where
  | unreliable
  | reliable
  deriving DecidableEq

inductive LogLevel where
  | info
  | error
  deriving DecidableEq

/-- Something that happened at an endpoint or at the networking library. -/
inductive Event where
  | arrived (message : Message)
  | queued (info : StatusInfo)
  | connectByIPAddress (connection : HSteamNetConnection)
  | acceptConnection (connection : HSteamNetConnection) (ok : Bool)
  | setConnectionPollGroup (connection : HSteamNetConnection) (group : HSteamNetPollGroup)
      (ok : Bool)
  | closeConnection (connection : HSteamNetConnection)
  | createListenSocketIP (socket : HSteamListenSocket)
  | closeListenSocket (socket : HSteamListenSocket)
  | createPollGroup (group : HSteamNetPollGroup)
  | destroyPollGroup (group : HSteamNetPollGroup)
  | receiveMessagesOnPollGroup (group : HSteamNetPollGroup) (numOfPackets : Int)
      (pendingPacket : Option Message)
  | receiveMessagesOnConnection (connection : HSteamNetConnection) (numOfPackets : Int)
      (incomingPacket : Option Message)
  | release (message : Message)
  | sendMessageToConnection (connection : HSteamNetConnection) (data : List UInt8)
      (size : UInt32) (sendType : SendType)
  | runCallbacks (infos : List StatusInfo)
  | packetCallback (connection : HSteamNetConnection) (packet : Packet)
  | packetCallbackReturned (connection : HSteamNetConnection)
  | statusCallback (change : ConnectionStatusChange)
  | registered (connection : HSteamNetConnection)
  | log (level : LogLevel) (text : String)
  deriving DecidableEq

/-- The event is the sending of a message. -/
def Event.sends : Event → Bool
  | .sendMessageToConnection _ _ _ _ => true
  | _ => false

/-- What has happened so far, the latest event first. -/
abbrev Trace := List Event

/-- The answers of the networking library, from what has happened so far.  A call that
receives messages answers with the number of messages it returns and with the pointer it
writes, `none` being the null pointer it was given. -/
structure ISteamNetworkingSockets where
  parseString : Trace → String → Bool
  createListenSocketIP : Trace → String → HSteamListenSocket
  createPollGroup : Trace → HSteamNetPollGroup
  acceptConnection : Trace → HSteamNetConnection → Bool
  setConnectionPollGroup : Trace → HSteamNetConnection → HSteamNetPollGroup → Bool
  receiveMessagesOnPollGroup : Trace → HSteamNetPollGroup → Int × Option Message
  connectByIPAddress : Trace → String → HSteamNetConnection
  receiveMessagesOnConnection : Trace → HSteamNetConnection → Int × Option Message
  getConnectionInfo : Trace → HSteamNetConnection → ESteamNetworkingConnectionState
  runCallbacks : Trace → List StatusInfo

/-! ### What a trace leaves behind -/

/-- The poll group a connection is in. -/
def groupOf (connection : HSteamNetConnection) : Trace → Option HSteamNetPollGroup
  | [] => none
  | .setConnectionPollGroup c g true :: t => if c = connection then some g else groupOf connection t
  | .closeConnection c :: t => if c = connection then none else groupOf connection t
  | .destroyPollGroup g :: t =>
      if groupOf connection t = some g then none else groupOf connection t
  | _ :: t => groupOf connection t

/-- The messages that have arrived and have neither been handed out nor been discarded with
their connection, in the order of their arrival. -/
def pending : Trace → List Message
  | [] => []
  | .arrived m :: t => pending t ++ [m]
  | .receiveMessagesOnPollGroup _ _ (some m) :: t => (pending t).erase m
  | .receiveMessagesOnConnection _ _ (some m) :: t => (pending t).erase m
  | .closeConnection c :: t => (pending t).filter fun m => m.conn ≠ c
  | _ :: t => pending t

/-- The pending messages of the connections of a poll group. -/
def pendingOn (group : HSteamNetPollGroup) (t : Trace) : List Message :=
  (pending t).filter fun m => groupOf m.conn t = some group

/-- The answer of a call that receives one of the given messages. -/
def handOut : List Message → Int × Option Message
  | [] => (0, none)
  | m :: _ => (1, some m)

/-- The status events that have been queued and not been dispatched. -/
def queuedEvents : Trace → List StatusInfo
  | [] => []
  | .queued info :: t => queuedEvents t ++ [info]
  | .runCallbacks _ :: _ => []
  | _ :: t => queuedEvents t

/-- All the status events that have been queued, the latest first. -/
def statusEvents (t : Trace) : List StatusInfo :=
  t.filterMap fun
    | .queued info => some info
    | _ => none

/-- The connection has been made by the endpoint and has not been closed. -/
def Opened (connection : HSteamNetConnection) (t : Trace) : Prop :=
  connection ≠ 0 ∧ .connectByIPAddress connection ∈ t ∧ .closeConnection connection ∉ t

instance (connection : HSteamNetConnection) (t : Trace) : Decidable (Opened connection t) :=
  inferInstanceAs (Decidable (_ ∧ _ ∧ _))

/-- The listening sockets that have been created and not been closed. -/
def heldListenSockets : Trace → List HSteamListenSocket
  | [] => []
  | .createListenSocketIP s :: t => if s = 0 then heldListenSockets t else s :: heldListenSockets t
  | .closeListenSocket s :: t => (heldListenSockets t).erase s
  | _ :: t => heldListenSockets t

/-- The poll groups that have been created and not been destroyed. -/
def heldPollGroups : Trace → List HSteamNetPollGroup
  | [] => []
  | .createPollGroup g :: t => if g = 0 then heldPollGroups t else g :: heldPollGroups t
  | .destroyPollGroup g :: t => (heldPollGroups t).erase g
  | _ :: t => heldPollGroups t

/-- The event neither queues status events nor takes them from the queue. -/
@[simp]
def Event.calm : Event → Bool
  | .queued _ => false
  | .runCallbacks _ => false
  | _ => true

/-- Calm events queue no status events. -/
theorem statusEvents_of_calm {es t : Trace} (h : ∀ e ∈ es, e.calm) :
  statusEvents (es ++ t) = statusEvents t
  := by
  apply History.unchanged_append _ h
  intro e t he
  cases e <;> first | rfl | cases he

/-- Calm events leave the queue of the status events as it is. -/
theorem queuedEvents_of_calm {es t : Trace} (h : ∀ e ∈ es, e.calm) :
  queuedEvents (es ++ t) = queuedEvents t
  := by
  apply History.unchanged_append _ h
  intro e t he
  cases e <;> first | rfl | cases he

/-- The status events that are still queued are among those that have ever been queued. -/
theorem queuedEvents_subset (t : Trace) :
  queuedEvents t ⊆ statusEvents t
  := by
  induction t with
  | nil => apply List.Subset.refl
  | cons e t ih =>
      cases e with
      | queued info =>
          intro i hi
          rcases List.mem_append.mp hi with hi | hi
          · apply List.mem_cons_of_mem _ (ih hi)
          · rw [List.mem_singleton.mp hi]
            apply List.mem_cons_self
      | runCallbacks infos => apply List.nil_subset
      | _ => apply ih

/-! ### What the endpoints rely on -/

namespace ISteamNetworkingSockets

/-- A handle passed to `CloseConnection` is invalid from then on: it can neither be
accepted nor be put in a poll group. -/
def RefusesClosed (net : ISteamNetworkingSockets) : Prop :=
  ∀ t c, .closeConnection c ∈ t →
    net.acceptConnection t c = false ∧ ∀ g, net.setConnectionPollGroup t c g = false

/-- A poll group that is held hands out one message, of a connection of that group, or
none. -/
def ReceivesFromMembers (net : ISteamNetworkingSockets) : Prop :=
  ∀ t g, g ∈ heldPollGroups t →
    net.receiveMessagesOnPollGroup t g = (0, none) ∨
      ∃ m, net.receiveMessagesOnPollGroup t g = (1, some m) ∧ groupOf m.conn t = some g

/-- A poll group that is held hands out the oldest pending message of its connections. -/
def ReceivesInOrder (net : ISteamNetworkingSockets) : Prop :=
  ∀ t g, g ∈ heldPollGroups t → net.receiveMessagesOnPollGroup t g = handOut (pendingOn g t)

/-- Receiving on the invalid poll group is an error that leaves the pointer null. -/
def RejectsInvalidPollGroup (net : ISteamNetworkingSockets) : Prop :=
  ∀ t, ∃ n < 0, net.receiveMessagesOnPollGroup t 0 = (n, none)

/-- A new connection has a handle that no connection with status events has had. -/
def ConnectsAnew (net : ISteamNetworkingSockets) : Prop :=
  ∀ t address, net.connectByIPAddress t address ≠ 0 →
    ∀ info ∈ statusEvents t, info.hConn ≠ net.connectByIPAddress t address

/-- Receiving on an opened connection returns one message or none, and receiving on any other
handle is an error that leaves the pointer null. -/
def ReceivesWhileOpened (net : ISteamNetworkingSockets) : Prop :=
  ∀ t c,
    (Opened c t → net.receiveMessagesOnConnection t c = (0, none) ∨
      ∃ m, net.receiveMessagesOnConnection t c = (1, some m)) ∧
    (¬ Opened c t → ∃ n < 0, net.receiveMessagesOnConnection t c = (n, none))

/-- Receiving on an opened connection returns its oldest pending message, or none. -/
def ReceivesOldest (net : ISteamNetworkingSockets) : Prop :=
  ∀ t c, Opened c t →
    net.receiveMessagesOnConnection t c = handOut ((pending t).filter fun m => m.conn = c)

/-- What a call that receives at most one message answers: none, one message, or an error that
leaves the pointer null. -/
def AtMostOne (answer : Int × Option Message) : Prop :=
  answer = (0, none) ∨ (∃ m, answer = (1, some m)) ∨ ∃ n < 0, answer = (n, none)

/-- An answer with a message has the number one. -/
theorem AtMostOne.of_some {n : Int} {m : Message} (h : AtMostOne (n, some m)) :
  n = 1
  := by
  rcases h with h | ⟨m', h⟩ | ⟨n', -, h⟩
  · cases h
  · cases h
    rfl
  · cases h

/-- The calls that receive messages return as many as they were asked for, at most. -/
def ReceivesOne (net : ISteamNetworkingSockets) : Prop :=
  (∀ t g, AtMostOne (net.receiveMessagesOnPollGroup t g)) ∧
    ∀ t c, AtMostOne (net.receiveMessagesOnConnection t c)

/-- `RunCallbacks` dispatches the events that are queued, in their order. -/
def DispatchesQueued (net : ISteamNetworkingSockets) : Prop :=
  ∀ t, net.runCallbacks t = queuedEvents t

/-- A message received in order is from a member of the poll group. -/
theorem ReceivesInOrder.fromMembers {net : ISteamNetworkingSockets} (h : net.ReceivesInOrder) :
  net.ReceivesFromMembers
  := by
  intro t g hg
  have ht := h t g hg
  cases hp : pendingOn g t with
  | nil =>
      rw [hp] at ht
      left
      apply ht
  | cons m ms =>
      rw [hp] at ht
      right
      use m, ht
      have hm : m ∈ pendingOn g t := by simp [hp]
      simpa using (List.mem_filter.mp hm).2

end ISteamNetworkingSockets

/-! ### The world of an endpoint -/

/-- The assertions of the endpoints, and those a callback makes. -/
inductive Assertion where
  /-- `connections.contains(pending_packet->m_conn)` -/
  | pendingPacketRegistered
  /-- "Connection should be closed when erase is called" -/
  | closedWhenErased
  /-- "Connection must be closed before object desctruction" -/
  | closedWhenDestroyed
  /-- "Client must be connected to the server" -/
  | connectedToServer
  | ofCallback (text : String)
  deriving DecidableEq

/-- What ends the program: the faults of the language, a failed assertion, an exception
or a call of `std::exit`. -/
inductive Fault where
  | nullDereference
  | signedOverflow
  | assertionFailed (assertion : Assertion)
  | outOfRange (map : String)
  | badFunctionCall
  | thrown
  | exit (code : Int)
  /-- A read that leaves the memory the program may read. -/
  | outOfBounds
  /-- The pointer to the current instance of a class is null. -/
  | nullInstance
  /-- The pointer to the current instance of a class points to a destroyed object. -/
  | destroyedInstance
  deriving DecidableEq

/-- The fault is an exception, which the owner of an endpoint can catch. -/
def Fault.catchable : Fault → Bool
  | .outOfRange _ => true
  | .badFunctionCall => true
  | .thrown => true
  | _ => false

/-- An endpoint together with what has happened so far. -/
structure World (E : Type) where
  self : E
  trace : Trace

/-- The programs of an endpoint. -/
abbrev EndpointM (E : Type) := EStateM Fault (World E)

section

variable {E : Type}

def emit (e : Event) : EndpointM E Unit :=
  modify fun w => { w with trace := e :: w.trace }

def logInfo (text : String) : EndpointM E Unit :=
  emit (.log .info text)

def logError (text : String) : EndpointM E Unit :=
  emit (.log .error text)

/-- `assert(condition)`, in a build that checks assertions. -/
def assertThat (condition : Bool) (assertion : Assertion) : EndpointM E Unit :=
  if condition then pure () else throw (.assertionFailed assertion)

/-- `Release` on the message a pointer points to. -/
def release : Option Message → EndpointM E Unit
  | none => throw .nullDereference
  | some message => emit (.release message)

/-- The status a state is mapped to; `unordered_map::at` throws if there is none. -/
def statusAt (mappings : List (ESteamNetworkingConnectionState × ConnectionStatus))
    (state : ESteamNetworkingConnectionState) : EndpointM E ConnectionStatus :=
  match mappings.lookup state with
  | some status => return status
  | none => throw (.outOfRange "CONNECTION_STATUS_MAPPINGS")

@[simp]
theorem run_emit (e : Event) (w : World E) :
  (emit e).run w = .ok () { w with trace := e :: w.trace }
  := rfl

@[simp]
theorem run_logInfo (text : String) (w : World E) :
  (logInfo text).run w = .ok () { w with trace := .log .info text :: w.trace }
  := rfl

@[simp]
theorem run_logError (text : String) (w : World E) :
  (logError text).run w = .ok () { w with trace := .log .error text :: w.trace }
  := rfl

@[simp]
theorem run_assertThat_true (assertion : Assertion) :
  (assertThat true assertion : EndpointM E Unit) = pure ()
  := rfl

@[simp]
theorem run_assertThat_false (assertion : Assertion) :
  (assertThat false assertion : EndpointM E Unit) = throw (.assertionFailed assertion)
  := rfl

/-! ### Going on -/

/-- The world has gone on by some events that satisfy `P`. -/
def GoesOnBy (P : Event → Prop) (w w' : World E) : Prop :=
  ∃ es, w'.trace = es ++ w.trace ∧ ∀ e ∈ es, P e

instance (P : Event → Prop) : Std.Refl (GoesOnBy (E := E) P) where
  refl _ := ⟨[], rfl, by simp⟩

instance (P : Event → Prop) : IsTrans (World E) (GoesOnBy P) where
  trans _ _ _ := by
    rintro ⟨es, h, hes⟩ ⟨es', h', hes'⟩
    use es' ++ es
    constructor
    · rw [h', h, List.append_assoc]
    · intro e he
      rcases List.mem_append.mp he with he | he
      · apply hes' e he
      · apply hes e he

/-- What goes on by events of one kind goes on by those of any wider kind. -/
theorem GoesOnBy.mono {P Q : Event → Prop} {w w' : World E} (h : GoesOnBy P w w')
    (hPQ : ∀ e, P e → Q e) :
  GoesOnBy Q w w'
  := by
  obtain ⟨es, hes, hall⟩ := h
  use es, hes
  intro e he
  apply hPQ e (hall e he)

theorem GoesOnBy.subset {P : Event → Prop} {w w' : World E} (h : GoesOnBy P w w') :
  w.trace ⊆ w'.trace
  := by
  obtain ⟨es, hes, -⟩ := h
  rw [hes]
  apply List.subset_append_right

theorem GoesOnBy.mem_iff {P : Event → Prop} {w w' : World E} (h : GoesOnBy P w w') {e : Event}
    (he : ¬ P e) :
  e ∈ w'.trace ↔ e ∈ w.trace
  := by
  obtain ⟨es, hes, hall⟩ := h
  have hnot : e ∉ es := fun hmem => he (hall e hmem)
  rw [hes, List.mem_append, or_iff_right hnot]

theorem goesOnBy_cons {P : Event → Prop} {e : Event} {w w' : World E}
    (h : w'.trace = e :: w.trace) (he : P e) :
  GoesOnBy P w w'
  := by
  use [e], h
  simpa using he

end

end Chs
