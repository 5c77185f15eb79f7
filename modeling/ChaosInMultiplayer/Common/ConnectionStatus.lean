/-!
# Connection states and status changes

`ESteamNetworkingConnectionState` lists the public states of a connection of the
networking library, `ConnectionStatus` the states as the endpoints report them, and
`ConnectionState` the states an entry of the server's registry goes through.
-/

namespace Chs

/-- A handle of a connection; `0` is `k_HSteamNetConnection_Invalid`. -/
abbrev HSteamNetConnection := UInt32

/-- A handle of a listening socket; `0` is `k_HSteamListenSocket_Invalid`. -/
abbrev HSteamListenSocket := UInt32

/-- A handle of a poll group; `0` is `k_HSteamNetPollGroup_Invalid`. -/
abbrev HSteamNetPollGroup := UInt32

inductive ConnectionState where
  | none
  | connecting
  | connected
  | closed
  deriving DecidableEq

inductive ConnectionStatus where
  | none
  | connecting
  | findingRoute
  | connected
  | closedByPeer
  | problemDetectedLocally
  deriving DecidableEq

inductive ESteamNetworkingConnectionState where
  | none
  | connecting
  | findingRoute
  | connected
  | closedByPeer
  | problemDetectedLocally
  deriving DecidableEq

/-- What a status callback is told about a connection. -/
structure ConnectionStatusChange where
  connection : HSteamNetConnection
  oldStatus : ConnectionStatus
  currentStatus : ConnectionStatus
  deriving DecidableEq

/-- A status event of the networking library (`SteamNetConnectionStatusChangedCallback_t`). -/
structure StatusInfo where
  hConn : HSteamNetConnection
  eOldState : ESteamNetworkingConnectionState
  eState : ESteamNetworkingConnectionState
  deriving DecidableEq

/-- The states in which the peer or the network has ended a connection. -/
def ESteamNetworkingConnectionState.closing : ESteamNetworkingConnectionState → Bool
  | .closedByPeer => true
  | .problemDetectedLocally => true
  | _ => false

end Chs
