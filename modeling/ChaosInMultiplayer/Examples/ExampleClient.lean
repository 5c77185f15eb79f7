import ChaosInMultiplayer.Client.Client
import ChaosInMultiplayer.Program.Routine

/-!
# The example client

The status callback of the example client closes the connection when the peer or the network
has ended it.  The main function sets this callback, connects to the server, updates the client
until it is connected, and sends its messages, first all of them reliably and then all of them
unreliably.
-/

namespace Chs

namespace ExampleClient

open Program Client ClientScript

variable {net : ISteamNetworkingSockets}

/-- The status callback. -/
def connectionStatusChangeCallback : Client.ConnectionStatusChangeCallback :=
  fun change _ =>
    match change.currentStatus with
    | .closedByPeer => call .closeConnection
    | .problemDetectedLocally => call .closeConnection
    | _ => return ()

/-! ### The main function -/

/-- `NUM_OF_MESSAGES` -/
def numOfMessages : Nat :=
  10

/-- The packet of a message. -/
def message (messageIndex : Nat) : Packet :=
  Packet.ofString ("Message " ++ toString messageIndex)

/-- Where the main function has got. -/
inductive MainPoint where
  | constructed
  | configured
  | looping
  | updating
  | sendingReliably (messageIndex : Nat)
  | sendingUnreliably (messageIndex : Nat)
  deriving DecidableEq

/-- The second loop, which ends the main function. -/
def sendUnreliably (messageIndex : Nat) : Option (ClientStep × MainPoint) :=
  if messageIndex < numOfMessages then
    some (.call (.sendPacketToServer (message messageIndex) .unreliable),
      .sendingUnreliably (messageIndex + 1))
  else none

/-- The main function: `while (!client.connected()) client.updateConnection()` between the
connecting and the two loops that send the messages. -/
def main (net : ISteamNetworkingSockets) : Routine MainPoint ClientStep (World Client) :=
  fun w point =>
  match point with
  | .constructed =>
      some (.setConnectionStatusChangeCallback (some connectionStatusChangeCallback), .configured)
  | .configured => some (.call (.initializeConnection "127.0.0.1" 8080), .looping)
  | .looping =>
      some (.call .connected,
        if net.getConnectionInfo w.trace w.self.serverConnection = .connected then
          .sendingReliably 0
        else .updating)
  | .updating => some (.updateConnection, .looping)
  | .sendingReliably messageIndex =>
      if messageIndex < numOfMessages then
        some (.call (.sendPacketToServer (message messageIndex) .reliable),
          .sendingReliably (messageIndex + 1))
      else sendUnreliably 0
  | .sendingUnreliably messageIndex => sendUnreliably messageIndex

/-- What happens outside the main function. -/
def Outside (_ : World Client) : ClientStep → Prop
  | .arrive _ => True
  | .queue _ => True
  | _ => False

instance (w : World Client) (s : ClientStep) : Decidable (Outside w s) :=
  match s with
  | .arrive _ => .isTrue trivial
  | .queue _ => .isTrue trivial
  | .setMaxProcessedPackets _ => .isFalse id
  | .setPacketCallback _ => .isFalse id
  | .setConnectionStatusChangeCallback _ => .isFalse id
  | .updateConnection => .isFalse id
  | .call _ => .isFalse id

/-- The steps of the main function are its own. -/
theorem main_not_outside {point point' : MainPoint} {s : ClientStep} {w : World Client}
    (h : main net w point = some (s, point')) :
  ¬ Outside w s
  := by
  have hlast : ∀ {i}, sendUnreliably i = some (s, point') → ¬ Outside w s := by
    intro i hi
    rw [sendUnreliably] at hi
    split at hi
    · cases hi
      exact id
    · cases hi
  cases point with
  | sendingReliably i =>
      by_cases hi : i < numOfMessages
      · simp only [main, if_pos hi] at h
        cases h
        exact id
      · simp only [main, if_neg hi] at h
        apply hlast h
  | sendingUnreliably i => exact hlast h
  | _ =>
      cases h
      exact id

theorem run_outside {s : ClientStep} {w : World Client} (hs : Outside w s) :
  (step net s).run w = .ok () (exit (step net s) w)
  := by
  cases s <;> first | rfl | cases hs

/-! ### The script -/

/-- The messages that the main function sends, in their order. -/
def script : List (Packet × SendType) :=
  (List.range numOfMessages).map (fun messageIndex => (message messageIndex, .reliable)) ++
    (List.range numOfMessages).map fun messageIndex => (message messageIndex, .unreliable)

theorem script_reliable {messageIndex : Nat} (h : messageIndex < numOfMessages) :
  script[messageIndex]? = some (message messageIndex, .reliable)
  := by
  rw [script, List.getElem?_append_left (by simpa using h)]
  simp [h]

theorem script_unreliable {messageIndex : Nat} (h : messageIndex < numOfMessages) :
  script[numOfMessages + messageIndex]? = some (message messageIndex, .unreliable)
  := by
  rw [script, List.getElem?_append_right (by simp)]
  simp [h]

end ExampleClient

end Chs
