import ChaosInMultiplayer.Client.Client
import ChaosInMultiplayer.Server.Update

/-!
# Servers and clients in one process

A process has any number of servers and clients.  They share the networking library, whose
`RunCallbacks` dispatches all the status events that are queued, whoever calls it: each through
the static function registered for its connection, which passes it to the current instance of
its class.  An update of an object makes it the current instance of its class.

What happens is recorded with the object that made it happen, so the owner of a connection, and
the object of a class that has polled latest, are computed from the record.
-/

namespace Chs

/-- An object of the process, numbered in its class by the order of construction. -/
inductive Object where
  | server (index : Nat)
  | client (index : Nat)
  deriving DecidableEq

def Object.isServer : Object → Bool
  | .server _ => true
  | .client _ => false

/-- Something that happened in the process: an event an object made happen, one of the network,
or the arrival of a connection at the listening socket of a server. -/
inductive Occurrence where
  | made (object : Object) (event : Event)
  | network (event : Event)
  | incoming (server : Nat) (connection : HSteamNetConnection)
  deriving DecidableEq

/-- What has happened in the process so far, the latest occurrence first. -/
abbrev Record := List Occurrence

/-- The events of a record. -/
def traceOf (record : Record) : Trace :=
  record.filterMap fun
    | .made _ event => some event
    | .network event => some event
    | .incoming _ _ => none

/-- The owner of a connection: the client that made it, or the server at whose listening socket
it arrived. -/
def owner (connection : HSteamNetConnection) : Record → Option Object
  | [] => none
  | .made (.client index) (.connectByIPAddress c) :: record =>
      if c = connection ∧ c ≠ 0 then some (.client index) else owner connection record
  | .incoming index c :: record =>
      if c = connection then some (.server index) else owner connection record
  | _ :: record => owner connection record

/-- The object of a class that has called `RunCallbacks` latest. -/
def lastPoller (isServer : Bool) : Record → Option Object
  | [] => none
  | .made object (.runCallbacks _) :: record =>
      if object.isServer = isServer then some object else lastPoller isServer record
  | _ :: record => lastPoller isServer record

/-- The objects of a process that have been constructed and not been destroyed, and the
pointers to the current instances of the two classes. -/
structure Process where
  servers : Nat → Option Server
  clients : Nat → Option Client
  constructedServers : Nat
  constructedClients : Nat
  serverInstance : Option Nat
  clientInstance : Option Nat
  record : Record

abbrev ProcessM := EStateM Fault Process

/-- The process before anything has happened. -/
def newProcess : Process where
  servers _ := none
  clients _ := none
  constructedServers := 0
  constructedClients := 0
  serverInstance := none
  clientInstance := none
  record := []

namespace Process

open Program

def trace (s : Process) : Trace :=
  traceOf s.record

/-- The object has been constructed and not been destroyed. -/
def alive (s : Process) : Object → Bool
  | .server i => (s.servers i).isSome
  | .client j => (s.clients j).isSome

/-! ### The operations of one object -/

/-- The events by which a trace goes on from an earlier one. -/
def newEvents (t t' : Trace) : Trace :=
  t'.take (t'.length - t.length)

/-- The process after an operation of a server. -/
def withServer (s : Process) (i : Nat) (w : World Server) : Process :=
  { s with
    servers := Function.update s.servers i (some w.self)
    record := (newEvents s.trace w.trace).map (.made (.server i)) ++ s.record }

/-- The process after an operation of a client. -/
def withClient (s : Process) (j : Nat) (w : World Client) : Process :=
  { s with
    clients := Function.update s.clients j (some w.self)
    record := (newEvents s.trace w.trace).map (.made (.client j)) ++ s.record }

/-- An operation of a server through a pointer to it. -/
def onServer (i : Nat) (p : ServerM Unit) : ProcessM Unit := do
  let s ← get
  match s.servers i with
  | none => throw .destroyedInstance
  | some server =>
      match p.run ⟨server, s.trace⟩ with
      | .ok _ w => set (s.withServer i w)
      | .error fault w => do
          set (s.withServer i w)
          throw fault

/-- An operation of a client through a pointer to it. -/
def onClient (j : Nat) (p : ClientM Unit) : ProcessM Unit := do
  let s ← get
  match s.clients j with
  | none => throw .destroyedInstance
  | some client =>
      match p.run ⟨client, s.trace⟩ with
      | .ok _ w => set (s.withClient j w)
      | .error fault w => do
          set (s.withClient j w)
          throw fault

/-- Add an occurrence to the record. -/
def note (occurrence : Occurrence) : ProcessM Unit :=
  modify fun s => { s with record := occurrence :: s.record }

/-! ### Status events -/

/-- `Server::steamNetConnectionStatusChangedCallback` -/
def serverStatusChangedCallback (net : ISteamNetworkingSockets) (info : StatusInfo) :
    ProcessM Unit := do
  let s ← get
  match s.serverInstance with
  | none => throw .nullInstance
  | some i => onServer i (Server.onSteamNetConnectionStatusChanged net info)

/-- `Client::steamNetConnectionStatusChangedCallback` -/
def clientStatusChangedCallback (net : ISteamNetworkingSockets) (info : StatusInfo) :
    ProcessM Unit := do
  let s ← get
  match s.clientInstance with
  | none => throw .nullInstance
  | some j => onClient j (Client.onSteamNetConnectionStatusChanged net info)

/-- The networking library dispatches an event through the static function that was registered
when the connection, or the listening socket it arrived at, was created. -/
def dispatch (net : ISteamNetworkingSockets) (info : StatusInfo) : ProcessM Unit := do
  let s ← get
  match owner info.hConn s.record with
  | none => return ()
  | some (.server _) => serverStatusChangedCallback net info
  | some (.client _) => clientStatusChangedCallback net info

/-- Make the object the current instance of its class. -/
def setInstance (object : Object) (s : Process) : Process :=
  match object with
  | .server i => { s with serverInstance := some i }
  | .client j => { s with clientInstance := some j }

/-- `processConnectionStateChanges` of an object. -/
def processConnectionStateChanges (net : ISteamNetworkingSockets) (object : Object) :
    ProcessM Unit := do
  modify (setInstance object)
  let s ← get
  let infos := net.runCallbacks s.trace
  note (.made object (.runCallbacks infos))
  forM infos (dispatch net)

/-- `Server::updateConnection` -/
def updateServer (net : ISteamNetworkingSockets) (i : Nat) (server : Server) : ProcessM Unit :=
  if server.quitRequested || !server.running then
    return ()
  else do
    onServer i (Server.processPendingPackets net)
    processConnectionStateChanges net (.server i)
    onServer i Server.processUserInput

/-- `Client::updateConnection` -/
def updateClient (net : ISteamNetworkingSockets) (j : Nat) : ProcessM Unit := do
  onClient j (Client.processReceivedPackets net)
  processConnectionStateChanges net (.client j)

end Process

/-! ### Runs -/

/-- A step of one of the objects, of the network for it, or of the owner of the objects. -/
inductive ProcessStep where
  | constructServer (ip : String) (port : UInt32) (listeningSocket : HSteamListenSocket)
      (pollGroup : HSteamNetPollGroup)
  | constructClient (serverConnection : HSteamNetConnection)
  | server (index : Nat) (step : ServerStep)
  | client (index : Nat) (step : ClientStep)
  | destroyServer (index : Nat)
  | destroyClient (index : Nat)

namespace Process

open Program

/-- An operation of a server by its owner, who makes none of an object that does not exist. -/
def ownServer (i : Nat) (p : Server → ProcessM Unit) : ProcessM Unit := do
  let s ← get
  match s.servers i with
  | none => return ()
  | some server => p server

/-- An operation of a client by its owner, who makes none of an object that does not exist. -/
def ownClient (j : Nat) (p : ProcessM Unit) : ProcessM Unit := do
  let s ← get
  match s.clients j with
  | none => return ()
  | some _ => p

/-- The status events of a server are those of the connections that arrive at its listening
socket. -/
def stepServer (net : ISteamNetworkingSockets) (i : Nat) : ServerStep → ProcessM Unit
  | .arrive message => note (.network (.arrived message))
  | .queue info => do
      note (.incoming i info.hConn)
      note (.network (.queued info))
  | .updateConnection => ownServer i (updateServer net i)
  | step => ownServer i fun _ => onServer i (Server.step net step)

def stepClient (net : ISteamNetworkingSockets) (j : Nat) : ClientStep → ProcessM Unit
  | .arrive message => note (.network (.arrived message))
  | .queue info => note (.network (.queued info))
  | .updateConnection => ownClient j (updateClient net j)
  | step => ownClient j (onClient j (Client.step net step))

def step (net : ISteamNetworkingSockets) : ProcessStep → ProcessM Unit
  | .constructServer ip port listeningSocket pollGroup =>
      modify fun s =>
        { s with
          servers := Function.update s.servers s.constructedServers
            (some (.construct ip port listeningSocket pollGroup))
          constructedServers := s.constructedServers + 1 }
  | .constructClient serverConnection =>
      modify fun s =>
        { s with
          clients := Function.update s.clients s.constructedClients
            (some (.construct serverConnection))
          constructedClients := s.constructedClients + 1 }
  | .server i step => stepServer net i step
  | .client j step => stepClient net j step
  | .destroyServer i => ownServer i fun _ => do
      onServer i Server.destruct
      modify fun s => { s with servers := Function.update s.servers i none }
  | .destroyClient j => ownClient j do
      modify fun s => { s with clients := Function.update s.clients j none }

/-- A run of the steps in their order, up to the first fault. -/
def runSteps (net : ISteamNetworkingSockets) (steps : List ProcessStep) : ProcessM Unit :=
  forM steps (step net)

end Process

end Chs
