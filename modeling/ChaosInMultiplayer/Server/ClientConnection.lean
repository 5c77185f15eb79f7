import ChaosInMultiplayer.Common.Networking

/-!
# Client connections

A `ClientConnection` wraps the handle of one connection of the server.  Its operations
call the networking library, so they take what has happened so far and return it extended
by the call, together with the changed connection.
-/

namespace Chs

/-- The server's view of one connection.  The constructor leaves the poll group
uninitialised, which is `none` here. -/
structure ClientConnection where
  netConnection : HSteamNetConnection
  pollGroup : Option HSteamNetPollGroup
  connectionAlias : String
  connectionState : ConnectionState
  deriving DecidableEq

namespace ClientConnection

/-- A connection object for a handle. -/
def construct (netConnection : HSteamNetConnection) : ClientConnection where
  netConnection := netConnection
  pollGroup := none
  connectionAlias := ""
  connectionState := .connecting

/-- The handle is not `k_HSteamNetConnection_Invalid`. -/
def valid (client : ClientConnection) : Bool :=
  client.netConnection ≠ 0

def connecting (client : ClientConnection) : Bool :=
  client.connectionState = .connecting

def connected (client : ClientConnection) : Bool :=
  client.connectionState = .connected

def closed (client : ClientConnection) : Bool :=
  client.connectionState = .closed

def setAlias (client : ClientConnection) (value : String) : ClientConnection :=
  { client with connectionAlias := value }

def accept (net : ISteamNetworkingSockets) (client : ClientConnection) (t : Trace) :
    Bool × ClientConnection × Trace :=
  if net.acceptConnection t client.netConnection then
    (true, { client with connectionState := .connected },
      .acceptConnection client.netConnection true :: t)
  else
    (false, client, .acceptConnection client.netConnection false :: t)

def setPollGroup (net : ISteamNetworkingSockets) (client : ClientConnection)
    (group : HSteamNetPollGroup) (t : Trace) : Bool × ClientConnection × Trace :=
  if net.setConnectionPollGroup t client.netConnection group then
    (true, { client with pollGroup := some group },
      .setConnectionPollGroup client.netConnection group true :: t)
  else
    (false, client, .setConnectionPollGroup client.netConnection group false :: t)

def close (client : ClientConnection) (t : Trace) : ClientConnection × Trace :=
  ({ client with connectionState := .closed }, .closeConnection client.netConnection :: t)

/-! ### Moves -/

def invalidate (client : ClientConnection) : ClientConnection :=
  { client with netConnection := 0 }

/-- What a move leaves behind; the alias of a string that has been moved is unspecified, so it is
an argument here. -/
def movedFrom (other : ClientConnection) (leftAlias : String) : ClientConnection :=
  { other with connectionAlias := leftAlias }.invalidate

/-- The move constructor leaves the poll group uninitialised. -/
def moveConstruct (other : ClientConnection) : ClientConnection where
  netConnection := other.netConnection
  pollGroup := none
  connectionAlias := other.connectionAlias
  connectionState := other.connectionState

/-- The move assignment from another object. -/
def moveAssign (client other : ClientConnection) : ClientConnection :=
  { client with
    netConnection := other.netConnection
    connectionAlias := other.connectionAlias
    connectionState := other.connectionState }

/-- A connection that has been moved from has the invalid handle. -/
@[simp]
theorem movedFrom_netConnection (other : ClientConnection) (leftAlias : String) :
  (other.movedFrom leftAlias).netConnection = 0
  := rfl

/-- Move construction carries the handle over. -/
@[simp]
theorem moveConstruct_netConnection (other : ClientConnection) :
  other.moveConstruct.netConnection = other.netConnection
  := rfl

/-- Move assignment carries the handle over. -/
@[simp]
theorem moveAssign_netConnection (client other : ClientConnection) :
  (client.moveAssign other).netConnection = other.netConnection
  := rfl

/-! ### Destruction -/

/-- What the destructor asserts. -/
def destructible (client : ClientConnection) : Bool :=
  !client.valid || client.connectionState = .closed || client.connectionState = .none

/-- A closed connection can be destroyed. -/
theorem destructible_of_closed {client : ClientConnection} (h : client.closed) :
  client.destructible
  := by
  simp only [closed, decide_eq_true_eq] at h
  simp [destructible, h]

end ClientConnection

end Chs
