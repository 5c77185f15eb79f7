import ChaosInMultiplayer.Common.Networking
import ChaosInMultiplayer.Program.Loop
import ChaosInMultiplayer.Program.Script

/-!
# The client

The state of a `Client` and its operations.  A client has one connection, made by
`initializeConnection`, which also gives it the networking library; it is not used before.
The calls a callback makes on the client are the constructors of `ClientCall`, and a
callback is a script of such calls.
-/

namespace Chs

/-- A call that a callback makes: on the client or to the log, or an assertion or the raising
of an exception.  A callback does not change the limit of an update or the callbacks, and it does
not update the client. -/
inductive ClientCall where
  | initializeConnection (ip : String) (port : UInt32)
  | closeConnection
  | sendPacketToServer (packet : Packet) (sendType : SendType)
  | connected
  | log (level : LogLevel) (text : String)
  | assertThat (condition : Bool) (text : String)
  | raise

/-- What a call returns. -/
abbrev ClientCall.Answer : ClientCall → Type
  | .initializeConnection _ _ => Bool
  | .connected => Bool
  | _ => Unit

abbrev ClientScript := Script ClientCall ClientCall.Answer

/-- The script that makes one call. -/
def ClientScript.call (c : ClientCall) : ClientScript c.Answer :=
  Script.request c

namespace Client

abbrev PacketCallback := HSteamNetConnection → Packet → Trace → ClientScript Unit

abbrev ConnectionStatusChangeCallback := ConnectionStatusChange → Trace → ClientScript Unit

end Client

structure Client where
  serverConnection : HSteamNetConnection
  maxProcessedPackets : Int32
  packetCallback : Option Client.PacketCallback
  connectionStatusChangeCallback : Option Client.ConnectionStatusChangeCallback

abbrev ClientM := EndpointM Client

namespace Client

open Program

/-- A new client, whose connection is uninitialised. -/
def construct (serverConnection : HSteamNetConnection) : Client where
  serverConnection := serverConnection
  maxProcessedPackets := 5
  packetCallback := none
  connectionStatusChangeCallback := none

/-! ### The connection -/

/-- The address `ip:port` as a string. -/
def address (ip : String) (port : UInt32) : String :=
  ip ++ ":" ++ toString port

def initializeConnection (net : ISteamNetworkingSockets) (ip : String) (port : UInt32) :
    ClientM Bool := do
  let w ← get
  if !net.parseString w.trace (address ip port) then
    logError "Invalid server address format"
    return false
  else
    let connection := net.connectByIPAddress w.trace (address ip port)
    emit (.connectByIPAddress connection)
    modify fun w => { w with self := { w.self with serverConnection := connection } }
    if connection = 0 then
      logError "Failed to create connection"
      return false
    else
      return true

def closeConnection : ClientM Unit := do
  let w ← get
  emit (.closeConnection w.self.serverConnection)

def connected (net : ISteamNetworkingSockets) : ClientM Bool := do
  let w ← get
  return decide (net.getConnectionInfo w.trace w.self.serverConnection = .connected)

/-! ### Sends -/

def sendDataToServer (data : List UInt8) (size : UInt32) (sendType : SendType) :
    ClientM Unit := do
  let w ← get
  emit (.sendMessageToConnection w.self.serverConnection data size sendType)

/-- `sendReliablePacketToServer` and `sendUnreliablePacketToServer`, by the send type. -/
def sendPacketToServer (net : ISteamNetworkingSockets) (packet : Packet) (sendType : SendType) :
    ClientM Unit := do
  let isConnected ← connected net
  assertThat isConnected .connectedToServer
  sendDataToServer packet.data (.ofNat packet.size) sendType

def sendReliablePacketToServer (net : ISteamNetworkingSockets) (packet : Packet) : ClientM Unit :=
  sendPacketToServer net packet .reliable

def sendUnreliablePacketToServer (net : ISteamNetworkingSockets) (packet : Packet) :
    ClientM Unit :=
  sendPacketToServer net packet .unreliable

/-! ### Calls from callbacks -/

/-- Make a call on the client. -/
def perform (net : ISteamNetworkingSockets) : (call : ClientCall) → ClientM call.Answer
  | .initializeConnection ip port => initializeConnection net ip port
  | .closeConnection => closeConnection
  | .sendPacketToServer packet sendType => sendPacketToServer net packet sendType
  | .connected => connected net
  | .log level text => emit (.log level text)
  | .assertThat condition text => Chs.assertThat condition (.ofCallback text)
  | .raise => throw .thrown

/-! ### Packets -/

def processPendingPacket (net : ISteamNetworkingSockets) (incomingPacket : Option Message) :
    ClientM Unit := do
  let w ← get
  match w.self.packetCallback with
  | none => return ()
  | some callback =>
      match incomingPacket with
      | none => throw .nullDereference
      | some m =>
          emit (.packetCallback m.conn m.packet)
          let w ← get
          (callback m.conn m.packet w.trace).run (perform net)
          emit (.packetCallbackReturned m.conn)

/-- The body of the receive loop, which returns whether the loop goes on. -/
def receivePacket (net : ISteamNetworkingSockets) : ClientM Bool := do
  let w ← get
  let (numOfPackets, incomingPacket) :=
    net.receiveMessagesOnConnection w.trace w.self.serverConnection
  emit (.receiveMessagesOnConnection w.self.serverConnection numOfPackets incomingPacket)
  if numOfPackets = 0 then
    return false
  else
    when (numOfPackets < 0) (logError "Error checking for messages")
    processPendingPacket net incomingPacket
    release incomingPacket
    return true

/-- The index of the loop is an `int`, whose greatest value is 2147483647. -/
def processReceivedPackets (net : ISteamNetworkingSockets) : ClientM Unit :=
  countedLoop (fun w packetIndex => packetIndex < w.self.maxProcessedPackets.toInt)
    .signedOverflow (receivePacket net) 2147483648 0

/-! ### Status events -/

/-- `CONNECTION_STATUS_MAPPINGS` -/
def connectionStatusMappings : List (ESteamNetworkingConnectionState × ConnectionStatus) :=
  [(.none, .none),
    (.closedByPeer, .closedByPeer),
    (.problemDetectedLocally, .problemDetectedLocally),
    (.connecting, .connecting),
    (.connected, .connected)]

def connectionStatusAt (state : ESteamNetworkingConnectionState) : ClientM ConnectionStatus :=
  statusAt connectionStatusMappings state

def onSteamNetConnectionStatusChanged (net : ISteamNetworkingSockets) (info : StatusInfo) :
    ClientM Unit := do
  let w ← get
  match w.self.connectionStatusChangeCallback with
  | none =>
      logError "No callback for connection status change"
      throw (.exit 1)
  | some callback =>
      let oldStatus ← connectionStatusAt info.eOldState
      let currentStatus ← connectionStatusAt info.eState
      let change : ConnectionStatusChange := ⟨info.hConn, oldStatus, currentStatus⟩
      emit (.statusCallback change)
      let w ← get
      (callback change w.trace).run (perform net)

/-- `RunCallbacks` takes the queued events and dispatches each of them. -/
def processConnectionStateChanges (net : ISteamNetworkingSockets) : ClientM Unit := do
  let w ← get
  let infos := net.runCallbacks w.trace
  emit (.runCallbacks infos)
  forM infos (onSteamNetConnectionStatusChanged net)

def updateConnection (net : ISteamNetworkingSockets) : ClientM Unit := do
  processReceivedPackets net
  processConnectionStateChanges net

end Client

/-! ### Runs -/

/-- A step of the network (`arrive`, `queue`) or of the owner of the client. -/
inductive ClientStep where
  | arrive (message : Message)
  | queue (info : StatusInfo)
  | setMaxProcessedPackets (value : Int32)
  | setPacketCallback (callback : Option Client.PacketCallback)
  | setConnectionStatusChangeCallback (callback : Option Client.ConnectionStatusChangeCallback)
  | updateConnection
  | call (call : ClientCall)

namespace Client

def step (net : ISteamNetworkingSockets) : ClientStep → ClientM Unit
  | .arrive message => emit (.arrived message)
  | .queue info => emit (.queued info)
  | .setMaxProcessedPackets value =>
      modify fun w => { w with self := { w.self with maxProcessedPackets := value } }
  | .setPacketCallback callback =>
      modify fun w => { w with self := { w.self with packetCallback := callback } }
  | .setConnectionStatusChangeCallback callback =>
      modify fun w =>
        { w with self := { w.self with connectionStatusChangeCallback := callback } }
  | .updateConnection => updateConnection net
  | .call c => do
      let _ ← perform net c
      return ()

/-- A run of the steps in their order, up to the first fault. -/
def runSteps (net : ISteamNetworkingSockets) (steps : List ClientStep) : ClientM Unit :=
  forM steps (step net)

end Client

/-- A client that has just been constructed, before anything has happened. -/
def newClient (serverConnection : HSteamNetConnection) : World Client where
  self := .construct serverConnection
  trace := []

end Chs
