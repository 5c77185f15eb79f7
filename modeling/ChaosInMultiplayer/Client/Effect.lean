import ChaosInMultiplayer.Client.Client

/-!
# What the client's operations do

An operation of the client emits events and may change its connection.  A preorder `R` on
the worlds of the client that these changes follow (`Follows`) is followed by every call a
callback can make and by every update.  The faults of the operations are listed in the same
way: those of calls, of the receiving of packets and of the dispatching of status events.
-/

namespace Chs

/-- The event of a call on the client, except for the making of a connection. -/
@[simp]
def Event.ofClientCall : Event → Bool
  | .closeConnection _ => true
  | .sendMessageToConnection _ _ _ _ => true
  | .log _ _ => true
  | _ => false

/-- The event happens while the client receives packets. -/
@[simp]
def Event.ofClientPackets : Event → Bool
  | .receiveMessagesOnConnection _ _ _ => true
  | .release _ => true
  | .packetCallback _ _ => true
  | .packetCallbackReturned _ => true
  | _ => false

namespace Client

open Program

variable {net : ISteamNetworkingSockets}

/-- The world after a connection has been asked for. -/
def connecting (net : ISteamNetworkingSockets) (w : World Client) (address : String) :
    World Client where
  self := { w.self with serverConnection := net.connectByIPAddress w.trace address }
  trace := .connectByIPAddress (net.connectByIPAddress w.trace address) :: w.trace

/-- The relation `R` is followed by the events of calls, by the events satisfying `extra`, and by
the making of connections. -/
structure Follows (net : ISteamNetworkingSockets) (R : World Client → World Client → Prop)
    (extra : Event → Prop) : Prop where
  emit : ∀ e : Event, e.ofClientCall ∨ extra e → Moves R (emit e : ClientM Unit)
  connect : ∀ (w : World Client) (address : String), R w (connecting net w address)

/-- Going on by certain events follows those of them that calls and the making of connections
emit. -/
theorem goesOnBy_follows {P extra : Event → Prop} (hcall : ∀ e : Event, e.ofClientCall → P e)
    (hconnect : ∀ connection, P (.connectByIPAddress connection)) (hextra : ∀ e, extra e → P e) :
  Follows net (GoesOnBy P) extra
  := by
  constructor
  · intro e he w
    apply goesOnBy_cons rfl
    rcases he with he | he
    · apply hcall e he
    · apply hextra e he
  · exact fun w address => goesOnBy_cons rfl (hconnect _)

/-! ### Calls -/

/-- An address that cannot be parsed is refused before anything happens. -/
theorem run_initializeConnection_unparsed {w : World Client} {ip : String} {port : UInt32}
    (h : net.parseString w.trace (address ip port) = false) :
  (initializeConnection net ip port).run w
    = .ok false { w with trace := .log .error "Invalid server address format" :: w.trace }
  := by
  simp only [initializeConnection, EStateM.run_bind, EStateM.run_get, h]
  rfl

/-- A connection that cannot be made has the invalid handle. -/
theorem run_initializeConnection_invalid {w : World Client} {ip : String} {port : UInt32}
    (h : net.parseString w.trace (address ip port))
    (hc : net.connectByIPAddress w.trace (address ip port) = 0) :
  (initializeConnection net ip port).run w
    = .ok false
        { connecting net w (address ip port) with
          trace := .log .error "Failed to create connection" ::
            (connecting net w (address ip port)).trace }
  := by
  simp only [initializeConnection, EStateM.run_bind, EStateM.run_get, h, hc, connecting]
  rfl

/-- A connection that can be made becomes that of the client. -/
theorem run_initializeConnection_valid {w : World Client} {ip : String} {port : UInt32}
    (h : net.parseString w.trace (address ip port))
    (hc : net.connectByIPAddress w.trace (address ip port) ≠ 0) :
  (initializeConnection net ip port).run w = .ok true (connecting net w (address ip port))
  := by
  simp only [initializeConnection, EStateM.run_bind, EStateM.run_get, h, if_neg hc, connecting]
  rfl

theorem connectionStatusAt_moves {R : World Client → World Client → Prop} [Std.Refl R]
    (state : ESteamNetworkingConnectionState) :
  Moves R (connectionStatusAt state)
  := by
  cases state <;> exact fun w => Std.Refl.refl w

section Moves

variable {R : World Client → World Client → Prop} [Std.Refl R] [IsTrans (World Client) R]
  {extra : Event → Prop} (hR : Follows net R extra)

include hR

omit [Std.Refl R] in
/-- Connecting moves along what the events of connecting do. -/
theorem initializeConnection_moves (ip : String) (port : UInt32) :
  Moves R (initializeConnection net ip port)
  := by
  intro w
  cases h : net.parseString w.trace (address ip port) with
  | false =>
      rw [exit_ok (run_initializeConnection_unparsed h)]
      exact hR.emit (.log .error _) (.inl rfl) w
  | true =>
      by_cases hc : net.connectByIPAddress w.trace (address ip port) = 0
      · rw [exit_ok (run_initializeConnection_invalid h hc)]
        apply IsTrans.trans _ _ _ (hR.connect w _)
        exact hR.emit (.log .error _) (.inl rfl) _
      · rw [exit_ok (run_initializeConnection_valid h hc)]
        apply hR.connect

/-- Every call of a callback moves along what its events do. -/
theorem perform_moves (c : ClientCall) :
  Moves R (perform net c)
  := by
  cases c with
  | initializeConnection ip port => apply initializeConnection_moves hR
  | closeConnection =>
      apply Moves.get_bind
      intro w
      apply hR.emit _ (.inl rfl)
  | sendPacketToServer packet sendType =>
      apply Moves.bind
      · exact fun w => Std.Refl.refl w
      intro isConnected
      cases isConnected with
      | false => exact fun w => Std.Refl.refl w
      | true =>
          apply Moves.bind
          · apply Moves.pure
          intro _
          apply Moves.get_bind
          intro w
          apply hR.emit _ (.inl rfl)
  | connected => exact fun w => Std.Refl.refl w
  | log level text => exact hR.emit _ (.inl rfl)
  | assertThat condition text => cases condition <;> exact fun w => Std.Refl.refl w
  | raise => exact fun w => Std.Refl.refl w

/-- A script moves along what its calls do. -/
theorem script_moves (s : ClientScript Unit) :
  Moves R (s.run (perform net))
  := Script.moves (fun c _ => perform_moves hR c) s.only_true

/-! ### Packets -/

/-- Passing a packet moves along what the packet callback does. -/
theorem processPendingPacket_moves (hpackets : ∀ e : Event, e.ofClientPackets → extra e)
    (incomingPacket : Option Message) :
  Moves R (processPendingPacket net incomingPacket)
  := by
  apply Moves.get_bind
  intro w
  cases w.self.packetCallback with
  | none => apply Moves.pure
  | some callback =>
      cases incomingPacket with
      | none => apply Moves.throw
      | some m =>
          apply (hR.emit _ (.inr (hpackets _ rfl))).bind
          intro _
          apply Moves.get_bind
          intro w'
          apply (script_moves hR _).bind
          intro _
          apply hR.emit _ (.inr (hpackets _ rfl))

/-- Receiving a packet moves along what the packet callback does. -/
theorem receivePacket_moves (hpackets : ∀ e : Event, e.ofClientPackets → extra e) :
  Moves R (receivePacket net)
  := by
  unfold receivePacket
  apply Moves.get_bind
  intro w
  apply (hR.emit _ (.inr (hpackets _ rfl))).bind
  intro _
  apply Moves.ite
  · intro _
    apply Moves.pure
  intro _
  apply Moves.bind
  · apply Moves.when
    intro _
    apply hR.emit _ (.inl rfl)
  intro _
  apply (processPendingPacket_moves hR hpackets _).bind
  intro _
  apply Moves.bind
  · cases (net.receiveMessagesOnConnection w.trace w.self.serverConnection).2 with
    | none => apply Moves.throw
    | some m => apply hR.emit _ (.inr (hpackets _ rfl))
  · intro _
    apply Moves.pure

/-- The receive loop moves along what the packet callback does. -/
theorem processReceivedPackets_moves (hpackets : ∀ e : Event, e.ofClientPackets → extra e) :
  Moves R (processReceivedPackets net)
  := countedLoop_moves (receivePacket_moves hR hpackets) _ _

/-! ### Status events -/

/-- Dispatching a status event moves along what the status callback does. -/
theorem onSteamNetConnectionStatusChanged_moves {info : StatusInfo}
    (hstatus : ∀ change : ConnectionStatusChange, change.connection = info.hConn →
      extra (.statusCallback change)) :
  Moves R (onSteamNetConnectionStatusChanged net info)
  := by
  apply Moves.get_bind
  intro w
  cases w.self.connectionStatusChangeCallback with
  | none =>
      apply (hR.emit _ (.inl rfl)).bind
      intro _
      apply Moves.throw
  | some callback =>
      apply Moves.bind
      · apply connectionStatusAt_moves
      intro oldStatus
      apply Moves.bind
      · apply connectionStatusAt_moves
      intro currentStatus
      apply (hR.emit _ (.inr (hstatus _ rfl))).bind
      intro _
      apply Moves.get_bind
      intro w'
      apply script_moves hR

end Moves

/-! ### Faults -/

/-- The faults a call on the client can end with. -/
inductive CallFault : Fault → Prop where
  | unconnected : CallFault (.assertionFailed .connectedToServer)
  | ofCallback (text : String) : CallFault (.assertionFailed (.ofCallback text))
  | thrown : CallFault .thrown

theorem perform_raises (c : ClientCall) :
  Raises (fun _ => True) CallFault (perform net c)
  := by
  cases c with
  | initializeConnection ip port =>
      apply Raises.of_run_ok
      intro w _
      cases h : net.parseString w.trace (address ip port) with
      | false => exact ⟨_, _, run_initializeConnection_unparsed h⟩
      | true =>
          by_cases hc : net.connectByIPAddress w.trace (address ip port) = 0
          · exact ⟨_, _, run_initializeConnection_invalid h hc⟩
          · exact ⟨_, _, run_initializeConnection_valid h hc⟩
  | closeConnection => exact .of_run_ok fun w _ => ⟨_, _, rfl⟩
  | sendPacketToServer packet sendType =>
      apply Raises.bind_true
      · exact .of_run_ok fun w _ => ⟨_, _, rfl⟩
      intro isConnected
      apply Raises.bind_true
      · cases isConnected with
        | true => apply Raises.pure
        | false => exact Raises.throw (α := Unit) .unconnected
      intro _
      exact .of_run_ok fun w _ => ⟨_, _, rfl⟩
  | connected => exact .of_run_ok fun w _ => ⟨_, _, rfl⟩
  | log level text => exact .modify _
  | assertThat condition text =>
      cases condition with
      | true => exact .pure ()
      | false => exact .throw (.ofCallback text)
  | raise => exact .throw .thrown

/-- A call as a step of its own. -/
theorem call_raises (c : ClientCall) :
  Raises (fun _ => True) CallFault (step net (.call c))
  := by
  apply Raises.bind_true (perform_raises c)
  intro _
  apply Raises.pure

theorem script_raises (s : ClientScript Unit) :
  Raises (fun _ => True) CallFault (s.run (perform net))
  := Script.raises (fun _ _ => keeps_true _) (fun c _ => perform_raises c) s.only_true

/-- The packet of a message is processed by the calls of the packet callback. -/
theorem processPendingPacket_raises (m : Message) :
  Raises (fun _ => True) CallFault (processPendingPacket net (some m))
  := by
  apply Raises.get_bind
  intro w _
  cases w.self.packetCallback with
  | none => apply Raises.pure
  | some callback =>
      apply Raises.bind_true
      · apply Raises.modify
      intro _
      apply Raises.get_bind
      intro w' _
      apply Raises.bind_true (script_raises _)
      intro _
      apply Raises.modify

/-- The faults the receiving of packets can end with. -/
inductive PacketFault : Fault → Prop where
  | ofCall {fault : Fault} (h : CallFault fault) : PacketFault fault
  | nullDereference : PacketFault .nullDereference
  | signedOverflow : PacketFault .signedOverflow

/-- Receiving a packet raises only the faults of packets. -/
theorem receivePacket_raises :
  Raises (fun _ => True) PacketFault (receivePacket net)
  := by
  unfold receivePacket
  apply Raises.get_bind
  intro w _
  apply Raises.bind_true
  · apply Raises.modify
  intro _
  apply Raises.ite
  · intro _
    apply Raises.pure
  intro _
  apply Raises.bind_true
  · apply Raises.when
    intro _
    apply Raises.modify
  intro _
  apply Raises.bind_true
  · cases (net.receiveMessagesOnConnection w.trace w.self.serverConnection).2 with
    | none =>
        apply Raises.get_bind
        intro w' _
        cases w'.self.packetCallback with
        | none => apply Raises.pure
        | some callback => exact Raises.throw (α := Unit) .nullDereference
    | some m => exact (processPendingPacket_raises m).mono (fun _ h => h) fun _ => .ofCall
  intro _
  apply Raises.bind_true
  · cases (net.receiveMessagesOnConnection w.trace w.self.serverConnection).2 with
    | none => exact Raises.throw (α := Unit) .nullDereference
    | some m => apply Raises.modify
  intro _
  apply Raises.pure

/-- The receive loop raises only the faults of packets. -/
theorem processReceivedPackets_raises :
  Raises (fun _ => True) PacketFault (processReceivedPackets net)
  := countedLoop_raises (keeps_true _) receivePacket_raises .signedOverflow _ _

/-- The faults the dispatching of status events can end with. -/
inductive StatusFault : Fault → Prop where
  | ofCall {fault : Fault} (h : CallFault fault) : StatusFault fault
  | unmapped : StatusFault (.outOfRange "CONNECTION_STATUS_MAPPINGS")
  | noCallback : StatusFault (.exit 1)

theorem connectionStatusAt_raises (state : ESteamNetworkingConnectionState) :
  Raises (fun _ => True) StatusFault (connectionStatusAt state)
  := by
  cases state with
  | findingRoute => exact Raises.throw (α := ConnectionStatus) .unmapped
  | _ => exact Raises.pure _

/-- Dispatching a status event raises only the faults of status events. -/
theorem onSteamNetConnectionStatusChanged_raises (info : StatusInfo) :
  Raises (fun _ => True) StatusFault (onSteamNetConnectionStatusChanged net info)
  := by
  apply Raises.get_bind
  intro w _
  cases w.self.connectionStatusChangeCallback with
  | none =>
      apply Raises.bind_true
      · apply Raises.modify
      · intro _
        exact Raises.throw (α := Unit) .noCallback
  | some callback =>
      apply Raises.bind_true (connectionStatusAt_raises _)
      intro oldStatus
      apply Raises.bind_true (connectionStatusAt_raises _)
      intro currentStatus
      apply Raises.bind_true
      · apply Raises.modify
      intro _
      apply Raises.get_bind
      intro w' _
      exact (script_raises _).mono (fun _ h => h) fun _ => .ofCall

/-- Dispatching the status events raises what dispatching one does. -/
theorem processConnectionStateChanges_raises :
  Raises (fun _ => True) StatusFault (processConnectionStateChanges net)
  := by
  apply Raises.get_bind
  intro w _
  apply Raises.bind_true
  · apply Raises.modify
  intro _
  apply Raises.forM
  · intro info _
    apply keeps_true
  · intro info _
    apply onSteamNetConnectionStatusChanged_raises

end Client

end Chs
