import ChaosInMultiplayer.Program.Loop
import ChaosInMultiplayer.Server.Server

/-!
# Updating the server

`updateConnection` receives packets, dispatches the status events and reads the console.
The receive loop counts packets with an `int`, so it is bounded by the values of that type.
A run of the server is a list of steps of its owner, of the network and of the console.
-/

namespace Chs

namespace Server

open Program

/-! ### Packets -/

/-- The call of the packet callback; calling an empty `std::function` throws. -/
def callPacketCallback (net : ISteamNetworkingSockets) (connection : HSteamNetConnection)
    (packet : Packet) : ServerM Unit := do
  let w ← get
  match w.self.packetCallback with
  | none => throw .badFunctionCall
  | some callback =>
      emit (.packetCallback connection packet)
      let w ← get
      (callback connection packet w.trace).run (perform net)
      emit (.packetCallbackReturned connection)

def processPendingPacket (net : ISteamNetworkingSockets) :
    Option Message → ServerM Unit
  | none => throw .nullDereference
  | some pendingPacket => do
      let registered ← connectionExists pendingPacket.conn
      assertThat registered .pendingPacketRegistered
      callPacketCallback net pendingPacket.conn pendingPacket.packet

/-- The body of the receive loop, which returns whether the loop goes on. -/
def receivePacket (net : ISteamNetworkingSockets) : ServerM Bool := do
  let w ← get
  let (numOfPackets, pendingPacket) := net.receiveMessagesOnPollGroup w.trace w.self.pollGroup
  emit (.receiveMessagesOnPollGroup w.self.pollGroup numOfPackets pendingPacket)
  if numOfPackets = 0 then
    return false
  else
    when (numOfPackets < 0) (logError "Error checking for messages")
    processPendingPacket net pendingPacket
    release pendingPacket
    return true

/-- The receive loop from `packetIndex` on, which can be increased `left` times before it
overflows. -/
def receiveLoop (net : ISteamNetworkingSockets) (left packetIndex : Nat) : ServerM Unit :=
  countedLoop (fun w packetIndex => packetIndex < w.self.maxProcessedPackets.toNat)
    .signedOverflow (receivePacket net) left packetIndex

/-- The index of the loop is an `int`, whose greatest value is 2147483647. -/
def processPendingPackets (net : ISteamNetworkingSockets) : ServerM Unit := do
  let w ← get
  if w.self.packetCallback.isNone then
    return ()
  else
    receiveLoop net 2147483648 0

/-! ### Status events -/

/-- `CONNECTION_STATUS_MAPPINGS` -/
def connectionStatusMappings : List (ESteamNetworkingConnectionState × ConnectionStatus) :=
  [(.none, .none),
    (.closedByPeer, .closedByPeer),
    (.problemDetectedLocally, .problemDetectedLocally),
    (.connecting, .connecting),
    (.connected, .connected)]

def connectionStatusAt (state : ESteamNetworkingConnectionState) : ServerM ConnectionStatus :=
  statusAt connectionStatusMappings state

def onSteamNetConnectionStatusChanged (net : ISteamNetworkingSockets) (info : StatusInfo) :
    ServerM Unit := do
  let w ← get
  match w.self.connectionStatusChangeCallback with
  | none =>
      logError "No callback for connection status change"
      throw (.exit 1)
  | some callback =>
      let oldStatus ← connectionStatusAt info.eOldState
      let currentStatus ← connectionStatusAt info.eState
      let change : ConnectionStatusChange := ⟨info.hConn, oldStatus, currentStatus⟩
      emit (.statusCallback change)
      let w ← get
      (callback change w.trace).run (perform net)

/-- `RunCallbacks` takes the queued events and dispatches each of them. -/
def processConnectionStateChanges (net : ISteamNetworkingSockets) : ServerM Unit := do
  let w ← get
  let infos := net.runCallbacks w.trace
  emit (.runCallbacks infos)
  forM infos (onSteamNetConnectionStatusChanged net)

/-! ### The console -/

/-- The loop of `processUserInput` over the lines in the input queue. -/
def processUserInputLines : List String → ServerM Unit
  | [] => return ()
  | input :: rest => do
      modify fun w => { w with self := { w.self with inputQueue := rest } }
      if input = "/quit" then
        modify fun w => { w with self := { w.self with quitRequested := true } }
        logInfo "Shutting down server"
      else
        logError "The server only knows one command: '/quit'"
        processUserInputLines rest

def processUserInput : ServerM Unit := do
  let w ← get
  processUserInputLines w.self.inputQueue

def updateConnection (net : ISteamNetworkingSockets) : ServerM Unit := do
  let w ← get
  if w.self.quitRequested || !w.self.running then
    return ()
  else
    processPendingPackets net
    processConnectionStateChanges net
    processUserInput

end Server

/-! ### Runs -/

/-- A step of the network (`arrive`, `queue`), of the console (`enter`) or of the owner of
the server. -/
inductive ServerStep where
  | arrive (message : Message)
  | queue (info : StatusInfo)
  | enter (line : String)
  | setMaxProcessedPackets (value : UInt32)
  | setPacketCallback (callback : Option PacketCallback)
  | setConnectionStatusChangeCallback (callback : Option ConnectionStatusChangeCallback)
  | openConnection
  | updateConnection
  | call (call : ServerCall)

namespace Server

def step (net : ISteamNetworkingSockets) : ServerStep → ServerM Unit
  | .arrive message => emit (.arrived message)
  | .queue info => emit (.queued info)
  | .enter line =>
      modify fun w => { w with self := { w.self with inputQueue := w.self.inputQueue ++ [line] } }
  | .setMaxProcessedPackets value =>
      modify fun w => { w with self := { w.self with maxProcessedPackets := value } }
  | .setPacketCallback callback =>
      modify fun w => { w with self := { w.self with packetCallback := callback } }
  | .setConnectionStatusChangeCallback callback =>
      modify fun w =>
        { w with self := { w.self with connectionStatusChangeCallback := callback } }
  | .openConnection => openConnection net
  | .updateConnection => updateConnection net
  | .call c => do
      let _ ← perform net c
      return ()

/-- A run of the steps in their order, up to the first fault. -/
def runSteps (net : ISteamNetworkingSockets) (steps : List ServerStep) : ServerM Unit :=
  forM steps (step net)

end Server

/-- A server that has just been constructed, before anything has happened. -/
def newServer (ip : String) (port : UInt32) (listeningSocket : HSteamListenSocket)
    (pollGroup : HSteamNetPollGroup) : World Server where
  self := .construct ip port listeningSocket pollGroup
  trace := []

end Chs
