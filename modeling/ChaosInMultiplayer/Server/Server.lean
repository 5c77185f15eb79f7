import ChaosInMultiplayer.Program.Script
import ChaosInMultiplayer.Server.ClientConnection
import Mathlib.Data.List.AList

/-!
# The server and its registry

The state of a `Server`, the operations on its registry `connections` of client
connections, the sends, and opening and closing.  The registry is a finite map whose list
of entries stands for the iteration order of the `std::unordered_map`.

The calls a callback makes on the server are the constructors of `ServerCall`; a
callback is a script of such calls, chosen from its arguments and from everything that has
happened before, so a callback that keeps a state of its own is covered.
-/

namespace Chs

/-- The registry of client connections. -/
abbrev ClientConnections := AList fun _ : HSteamNetConnection => ClientConnection

/-- A call that a callback makes: on the server, on an entry of its registry, or to the
log, or an assertion, the raising of an exception or a read out of bounds.  A callback does not
change the limit of an update or the callbacks, and it neither opens nor updates the server. -/
inductive ServerCall where
  | createClientConnection (connection : HSteamNetConnection)
  | closeClientConnection (connection : HSteamNetConnection)
  | removeClientConnection (connection : HSteamNetConnection)
  | closeConnection
  | connectionExists (connection : HSteamNetConnection)
  | clientConnection (connection : HSteamNetConnection)
  | accept (connection : HSteamNetConnection)
  | setPollGroup (connection : HSteamNetConnection) (group : HSteamNetPollGroup)
  | setAlias (connection : HSteamNetConnection) (value : String)
  | close (connection : HSteamNetConnection)
  | pollGroup
  | sendPacket (packet : Packet) (client : ClientConnection) (sendType : SendType)
  | sendPacketToAllConnectedClients (packet : Packet) (sendType : SendType)
      (except : Option ClientConnection)
  | log (level : LogLevel) (text : String)
  | assertThat (condition : Bool) (text : String)
  | raise
  /-- A read beyond the end of an object, out of the memory the program may read. -/
  | readOutside

/-- What a call returns. -/
abbrev ServerCall.Answer : ServerCall → Type
  | .connectionExists _ => Bool
  | .clientConnection _ => ClientConnection
  | .accept _ => Bool
  | .setPollGroup _ _ => Bool
  | .pollGroup => HSteamNetPollGroup
  | _ => Unit

abbrev ServerScript := Script ServerCall ServerCall.Answer

/-- The script that makes one call. -/
def ServerScript.call (c : ServerCall) : ServerScript c.Answer :=
  Script.request c

abbrev PacketCallback := HSteamNetConnection → Packet → Trace → ServerScript Unit

abbrev ConnectionStatusChangeCallback := ConnectionStatusChange → Trace → ServerScript Unit

/-- A server.  `inputQueue` is the queue of its input controller. -/
structure Server where
  serverIp : String
  serverPort : UInt32
  listeningSocket : HSteamListenSocket
  pollGroup : HSteamNetPollGroup
  running : Bool
  quitRequested : Bool
  packetCallback : Option PacketCallback
  connectionStatusChangeCallback : Option ConnectionStatusChangeCallback
  connections : ClientConnections
  maxProcessedPackets : UInt32
  inputQueue : List String

abbrev ServerM := EndpointM Server

namespace Server

open Program

/-- A new server.  The constructor leaves the listening socket and the poll group
uninitialised, so their values are arguments here. -/
def construct (ip : String) (port : UInt32) (listeningSocket : HSteamListenSocket)
    (pollGroup : HSteamNetPollGroup) : Server where
  serverIp := ip
  serverPort := port
  listeningSocket := listeningSocket
  pollGroup := pollGroup
  running := false
  quitRequested := false
  packetCallback := none
  connectionStatusChangeCallback := none
  connections := ∅
  maxProcessedPackets := 5
  inputQueue := []

/-! ### The registry -/

def connectionExists (connection : HSteamNetConnection) : ServerM Bool := do
  let w ← get
  return decide (connection ∈ w.self.connections)

/-- The entry of a connection; `unordered_map::at` throws if there is none. -/
def clientConnection (connection : HSteamNetConnection) : ServerM ClientConnection := do
  let w ← get
  match w.self.connections.lookup connection with
  | some client => return client
  | none => throw (.outOfRange "connections")

/-- The world with `client` as the entry of `connection`, after `t` has happened. -/
def put (w : World Server) (connection : HSteamNetConnection) (client : ClientConnection)
    (t : Trace) : World Server where
  self := { w.self with connections := w.self.connections.insert connection client }
  trace := t

def createClientConnection (connection : HSteamNetConnection) : ServerM Unit := do
  let w ← get
  if connection ∈ w.self.connections then
    return ()
  else
    set (put w connection (.construct connection) (.registered connection :: w.trace))

/-- The operation `f` of a client connection on the entry of `connection`. -/
def onClientConnection {α : Type} (connection : HSteamNetConnection)
    (f : ClientConnection → Trace → α × ClientConnection × Trace) : ServerM α := do
  let client ← clientConnection connection
  let w ← get
  let (a, client', t) := f client w.trace
  set (put w connection client' t)
  return a

def accept (net : ISteamNetworkingSockets) (connection : HSteamNetConnection) : ServerM Bool :=
  onClientConnection connection fun client t => client.accept net t

def setPollGroup (net : ISteamNetworkingSockets) (connection : HSteamNetConnection)
    (group : HSteamNetPollGroup) : ServerM Bool :=
  onClientConnection connection fun client t => client.setPollGroup net group t

def setAlias (connection : HSteamNetConnection) (value : String) : ServerM Unit :=
  onClientConnection connection fun client t => ((), client.setAlias value, t)

def close (connection : HSteamNetConnection) : ServerM Unit :=
  onClientConnection connection fun client t => ((), client.close t)

/-- The destruction of a connection object. -/
def destroy (client : ClientConnection) : ServerM Unit :=
  assertThat client.destructible .closedWhenDestroyed

def removeClientConnection (connection : HSteamNetConnection) : ServerM Unit := do
  let client ← clientConnection connection
  assertThat client.closed .closedWhenErased
  destroy client
  modify fun w =>
    { w with self := { w.self with connections := w.self.connections.erase connection } }

def closeClientConnection (connection : HSteamNetConnection) : ServerM Unit := do
  close connection
  removeClientConnection connection

/-! ### Sends -/

def sendPacketToClientImpl (connection : HSteamNetConnection) (data : List UInt8)
    (size : UInt32) (sendType : SendType) : ServerM Unit :=
  emit (.sendMessageToConnection connection data size sendType)

/-- `sendReliablePacket` and `sendUnreliablePacket`, by the send type. -/
def sendPacket (packet : Packet) (client : ClientConnection) (sendType : SendType) :
    ServerM Unit :=
  sendPacketToClientImpl client.netConnection packet.data (.ofNat packet.size) sendType

def sendReliablePacket (packet : Packet) (client : ClientConnection) : ServerM Unit :=
  sendPacket packet client .reliable

def sendUnreliablePacket (packet : Packet) (client : ClientConnection) : ServerM Unit :=
  sendPacket packet client .unreliable

/-- The body of the loop over the registry that sends a packet to all connected clients. -/
def sendPacketToConnectedClient (packet : Packet) (sendType : SendType)
    (except : Option ClientConnection) (connection : HSteamNetConnection)
    (client : ClientConnection) : ServerM Unit :=
  if except.any fun e => e.netConnection = connection then
    return ()
  else if client.connected then
    sendPacketToClientImpl client.netConnection packet.data (.ofNat packet.size) sendType
  else
    return ()

def sendPacketToAllConnectedClientsImpl (packet : Packet) (sendType : SendType)
    (except : Option ClientConnection) : ServerM Unit := do
  let w ← get
  forM w.self.connections.entries fun entry =>
    sendPacketToConnectedClient packet sendType except entry.1 entry.2

def sendReliablePacketToAllConnectedClients (packet : Packet) : ServerM Unit :=
  sendPacketToAllConnectedClientsImpl packet .reliable none

def sendUnreliablePacketToAllConnectedClients (packet : Packet) : ServerM Unit :=
  sendPacketToAllConnectedClientsImpl packet .unreliable none

def sendReliablePacketToAllConnectedClientsExcept (packet : Packet) (except : ClientConnection) :
    ServerM Unit :=
  sendPacketToAllConnectedClientsImpl packet .reliable (some except)

def sendUnreliablePacketToAllConnectedClientsExcept (packet : Packet)
    (except : ClientConnection) : ServerM Unit :=
  sendPacketToAllConnectedClientsImpl packet .unreliable (some except)

/-! ### Opening and closing -/

/-- The address `ip:port` as a string. -/
def address (server : Server) : String :=
  server.serverIp ++ ":" ++ toString server.serverPort

def openConnection (net : ISteamNetworkingSockets) : ServerM Unit := do
  let w ← get
  if !net.parseString w.trace w.self.address then
    logError "Invalid server address format"
    modify fun w => { w with self := { w.self with running := false } }
  else
    let socket := net.createListenSocketIP w.trace w.self.address
    emit (.createListenSocketIP socket)
    modify fun w => { w with self := { w.self with listeningSocket := socket, running := true } }
    when (socket = 0) do
      logError ("Failed to listen on port " ++ toString w.self.serverPort)
      modify fun w => { w with self := { w.self with running := false } }
    let w ← get
    let group := net.createPollGroup w.trace
    emit (.createPollGroup group)
    modify fun w => { w with self := { w.self with pollGroup := group } }
    when (group = 0) do
      logError ("Failed to listen on port " ++ toString w.self.serverPort)
      modify fun w => { w with self := { w.self with running := false } }
    logInfo ("Server listening on port " ++ toString w.self.serverPort)

/-- The destruction of the registry with all its entries. -/
def clearConnections : ServerM Unit := do
  let w ← get
  forM w.self.connections.entries fun entry => destroy entry.2
  modify fun w => { w with self := { w.self with connections := ∅ } }

def closeConnection : ServerM Unit := do
  modify fun w => { w with self := { w.self with quitRequested := true, running := false } }
  logInfo "Closing connections..."
  let w ← get
  forM w.self.connections.keys close
  clearConnections
  let w ← get
  emit (.closeListenSocket w.self.listeningSocket)
  modify fun w => { w with self := { w.self with listeningSocket := 0 } }
  emit (.destroyPollGroup w.self.pollGroup)
  modify fun w => { w with self := { w.self with pollGroup := 0 } }

/-- The destructor: its body, and the destruction of the registry. -/
def destruct : ServerM Unit := do
  let w ← get
  when w.self.running closeConnection
  clearConnections

/-! ### Calls from callbacks -/

/-- Make a call on the server. -/
def perform (net : ISteamNetworkingSockets) : (call : ServerCall) → ServerM call.Answer
  | .createClientConnection c => createClientConnection c
  | .closeClientConnection c => closeClientConnection c
  | .removeClientConnection c => removeClientConnection c
  | .closeConnection => closeConnection
  | .connectionExists c => connectionExists c
  | .clientConnection c => clientConnection c
  | .accept c => accept net c
  | .setPollGroup c g => setPollGroup net c g
  | .setAlias c value => setAlias c value
  | .close c => close c
  | .pollGroup => do
      let w ← get
      pure (f := ServerM) w.self.pollGroup
  | .sendPacket packet client sendType => sendPacket packet client sendType
  | .sendPacketToAllConnectedClients packet sendType except =>
      sendPacketToAllConnectedClientsImpl packet sendType except
  | .log level text => emit (.log level text)
  | .assertThat condition text => Chs.assertThat condition (.ofCallback text)
  | .raise => throw .thrown
  | .readOutside => throw .outOfBounds

end Server

end Chs
