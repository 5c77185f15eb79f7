import ChaosInMultiplayer.Server.Invariant

/-!
# What the server's operations raise

A call of a callback fails on a connection that is not registered, on the erasure of an
entry that is not closed, or by the doing of the caller (`CallFault`).  An update can also
fail at the packets it receives (`PacketFault`) and at the status events it dispatches
(`StatusFault`); reading the console never fails.
-/

namespace Chs

namespace Server

open Program

variable {net : ISteamNetworkingSockets}

/-! ### Calls -/

/-- The faults a call on the server can end with. -/
inductive CallFault : Fault → Prop where
  | unregistered : CallFault (.outOfRange "connections")
  | open : CallFault (.assertionFailed .closedWhenErased)
  | ofCallback (text : String) : CallFault (.assertionFailed (.ofCallback text))
  | thrown : CallFault .thrown
  | outOfBounds : CallFault .outOfBounds

/-- An operation on an entry raises only the faults of calls. -/
theorem onClientConnection_raises {α : Type} (k : HSteamNetConnection)
    (f : ClientConnection → Trace → α × ClientConnection × Trace) :
  Raises (fun _ => True) CallFault (onClientConnection k f)
  := by
  intro w e w' _ he
  cases h : w.self.connections.lookup k with
  | some client =>
      rw [run_onClientConnection_some h] at he
      cases he
  | none =>
      rw [run_onClientConnection_none h] at he
      cases he
      apply CallFault.unregistered

theorem removeClientConnection_raises (k : HSteamNetConnection) :
  Raises (fun _ => True) CallFault (removeClientConnection k)
  := by
  intro w e w' _ he
  cases h : w.self.connections.lookup k with
  | some client =>
      cases hc : client.closed with
      | true =>
          rw [run_removeClientConnection_closed h hc] at he
          cases he
      | false =>
          rw [run_removeClientConnection_not_closed h hc] at he
          cases he
          apply CallFault.open
  | none =>
      rw [run_removeClientConnection_none h] at he
      cases he
      apply CallFault.unregistered

theorem createClientConnection_raises (k : HSteamNetConnection) :
  Raises (fun _ => True) CallFault (createClientConnection k)
  := by
  apply Raises.of_run_ok
  intro w _
  by_cases h : k ∈ w.self.connections
  · exact ⟨_, _, run_createClientConnection_of_mem h⟩
  · exact ⟨_, _, run_createClientConnection_of_notMem h⟩

theorem clientConnection_raises (k : HSteamNetConnection) :
  Raises (fun _ => True) CallFault (clientConnection k)
  := by
  intro w e w' _ he
  cases h : w.self.connections.lookup k with
  | some client =>
      rw [run_clientConnection_some h] at he
      cases he
  | none =>
      rw [run_clientConnection_none h] at he
      cases he
      apply CallFault.unregistered

theorem closeClientConnection_raises (k : HSteamNetConnection) :
  Raises (fun _ => True) CallFault (closeClientConnection k)
  := by
  apply Raises.bind_true
  · apply onClientConnection_raises
  · intro _
    apply removeClientConnection_raises

/-- Sending to all connected clients never fails. -/
theorem sendPacketToAllConnectedClientsImpl_raises {E : Fault → Prop} (packet : Packet)
    (sendType : SendType) (except : Option ClientConnection) :
  Raises (fun _ => True) E (sendPacketToAllConnectedClientsImpl packet sendType except)
  := by
  apply Raises.get_bind
  intro w _
  apply Raises.forM
  · intro entry _
    apply keeps_true
  · intro entry _
    apply Raises.ite
    · intro _
      apply Raises.pure
    · intro _
      apply Raises.ite
      · intro _
        apply Raises.modify
      · intro _
        apply Raises.pure

/-- A call can only fail on a connection that is not registered, by erasing an entry that is
not closed, or by the doing of the caller. -/
theorem perform_raises (c : ServerCall) :
  Raises (fun _ => True) CallFault (perform net c)
  := by
  cases c with
  | createClientConnection k => exact createClientConnection_raises k
  | closeClientConnection k => exact closeClientConnection_raises k
  | removeClientConnection k => exact removeClientConnection_raises k
  | closeConnection => exact .of_run_ok fun w _ => ⟨_, _, run_closeConnection w⟩
  | connectionExists k => exact .of_run_ok fun w _ => ⟨_, _, rfl⟩
  | clientConnection k => exact clientConnection_raises k
  | accept k => exact onClientConnection_raises k fun client t => client.accept net t
  | setPollGroup k g =>
      exact onClientConnection_raises k fun client t => client.setPollGroup net g t
  | setAlias k value =>
      exact onClientConnection_raises k fun client t => ((), client.setAlias value, t)
  | close k => exact onClientConnection_raises k fun client t => ((), client.close t)
  | pollGroup => exact .of_run_ok fun w _ => ⟨_, _, rfl⟩
  | sendPacket packet client sendType => exact .of_run_ok fun w _ => ⟨_, _, rfl⟩
  | sendPacketToAllConnectedClients packet sendType except =>
      exact sendPacketToAllConnectedClientsImpl_raises packet sendType except
  | log level text => exact .modify _
  | assertThat condition text =>
      cases condition with
      | true => exact .pure ()
      | false => exact .throw (.ofCallback text)
  | raise => exact .throw .thrown
  | readOutside => exact .throw .outOfBounds

/-- A call as a step of its own. -/
theorem call_raises (c : ServerCall) :
  Raises (fun _ => True) CallFault (step net (.call c))
  := by
  apply Raises.bind_true (perform_raises c)
  intro _
  apply Raises.pure

/-- The opening of a server never fails. -/
theorem openConnection_raises {I : World Server → Prop} {E : Fault → Prop} :
  Raises I E (openConnection net)
  := by
  apply Raises.of_run_ok
  intro w _
  cases h : net.parseString w.trace w.self.address with
  | true => exact ⟨_, _, run_openConnection_parsed h⟩
  | false => exact ⟨_, _, run_openConnection_unparsed h⟩

theorem script_raises (s : ServerScript Unit) :
  Raises (fun _ => True) CallFault (s.run (perform net))
  := Script.raises (fun _ _ => keeps_true _) (fun c _ => perform_raises c) s.only_true

/-! ### Packets -/

/-- The faults the receiving of packets can end with. -/
inductive PacketFault : Fault → Prop where
  | ofCall {fault : Fault} (h : CallFault fault) : PacketFault fault
  | nullDereference : PacketFault .nullDereference
  | unregistered : PacketFault (.assertionFailed .pendingPacketRegistered)
  | badFunctionCall : PacketFault .badFunctionCall
  | signedOverflow : PacketFault .signedOverflow

/-- Calling the packet callback raises what a script does, or that there is no callback. -/
theorem callPacketCallback_raises {E : Fault → Prop} (hcall : ∀ fault, CallFault fault → E fault)
    (hbad : E .badFunctionCall) (k : HSteamNetConnection) (packet : Packet) :
  Raises (fun _ => True) E (callPacketCallback net k packet)
  := by
  apply Raises.get_bind
  intro w _
  cases w.self.packetCallback with
  | none => exact Raises.throw (α := Unit) hbad
  | some callback =>
      apply Raises.bind_true
      · apply Raises.modify
      intro _
      apply Raises.get_bind
      intro w' _
      apply Raises.bind_true
      · exact (script_raises _).mono (fun _ h => h) hcall
      · intro _
        apply Raises.modify

/-! #### Receiving with any packet callback -/

section Receiving

variable {I : World Server → Prop} {E : Fault → Prop}

/-- Processing a message raises what the packet callback does, or that the message is null or its
sender is not registered. -/
theorem processPendingPacket_raises_of (hnull : E .nullDereference)
    (hunregistered : E (.assertionFailed .pendingPacketRegistered))
    (hcall : ∀ k packet, Raises I E (callPacketCallback net k packet))
    (pendingPacket : Option Message) :
  Raises I E (processPendingPacket net pendingPacket)
  := by
  cases pendingPacket with
  | none => exact Raises.throw (α := Unit) hnull
  | some m =>
      apply Raises.bind
      · exact .of_run_ok fun w _ => ⟨_, _, rfl⟩
      · exact fun w hw => hw
      · intro registered
        apply Raises.bind
        · cases registered with
          | true => apply Raises.pure
          | false => exact Raises.throw (α := Unit) hunregistered
        · cases registered <;> exact fun w hw => hw
        · intro _
          apply hcall

/-- The body of the receive loop raises what the call of the packet callback raises, or fails
at the message it has been given. -/
theorem receivePacket_raises_of (hnull : E .nullDereference)
    (hunregistered : E (.assertionFailed .pendingPacketRegistered))
    (hemit : ∀ e : Event, e.ofCall || e.ofPackets → Keeps I (emit e : ServerM Unit))
    (hkeeps : ∀ k packet, Keeps I (callPacketCallback net k packet))
    (hcall : ∀ k packet, Raises I E (callPacketCallback net k packet)) :
  Raises I E (receivePacket net)
  := by
  apply Raises.get_bind
  intro w _
  apply Raises.bind
  · apply Raises.modify
  · exact hemit (.receiveMessagesOnPollGroup _ _ _) rfl
  intro _
  apply Raises.ite
  · intro _
    apply Raises.pure
  intro _
  apply Raises.bind
  · apply Raises.when
    intro _
    apply Raises.modify
  · apply Moves.when
    intro _
    exact hemit (.log .error _) rfl
  intro _
  apply Raises.bind
  · apply processPendingPacket_raises_of hnull hunregistered hcall
  · apply processPendingPacket_moves_of hkeeps
  intro _
  apply Raises.bind
  · cases (net.receiveMessagesOnPollGroup w.trace w.self.pollGroup).2 with
    | none => exact Raises.throw (α := Unit) hnull
    | some m => apply Raises.modify
  · cases (net.receiveMessagesOnPollGroup w.trace w.self.pollGroup).2 with
    | none => apply Moves.throw
    | some m => exact hemit (.release m) rfl
  intro _
  apply Raises.pure

/-- The receive loop raises what receiving a message does, or its index overflows. -/
theorem processPendingPackets_raises_of (hkeeps : Keeps I (receivePacket net))
    (hbody : Raises I E (receivePacket net)) (hover : E .signedOverflow) :
  Raises I E (processPendingPackets net)
  := by
  apply Raises.get_bind
  intro w _
  apply Raises.ite
  · intro _
    apply Raises.pure
  · intro _
    apply countedLoop_raises hkeeps hbody hover

end Receiving

/-- Receiving a message raises only the faults of packets. -/
theorem receivePacket_raises :
  Raises (fun _ => True) PacketFault (receivePacket net)
  := by
  apply receivePacket_raises_of (E := PacketFault) .nullDereference .unregistered
  · intro e _
    apply keeps_true
  · intro k packet
    apply keeps_true
  · exact callPacketCallback_raises (fun _ => .ofCall) .badFunctionCall

/-- The receive loop raises only the faults of packets. -/
theorem processPendingPackets_raises :
  Raises (fun _ => True) PacketFault (processPendingPackets net)
  := processPendingPackets_raises_of (keeps_true _) receivePacket_raises .signedOverflow

/-! ### Status events -/

/-- The faults the dispatching of status events can end with. -/
inductive StatusFault : Fault → Prop where
  | ofCall {fault : Fault} (h : CallFault fault) : StatusFault fault
  | unmapped : StatusFault (.outOfRange "CONNECTION_STATUS_MAPPINGS")
  | noCallback : StatusFault (.exit 1)

theorem connectionStatusAt_raises (state : ESteamNetworkingConnectionState) :
  Raises (fun _ => True) StatusFault (connectionStatusAt state)
  := by
  cases state with
  | findingRoute => exact Raises.throw (α := ConnectionStatus) .unmapped
  | _ => exact Raises.pure _

/-- Dispatching a status event raises only the faults of status events. -/
theorem onSteamNetConnectionStatusChanged_raises (info : StatusInfo) :
  Raises (fun _ => True) StatusFault (onSteamNetConnectionStatusChanged net info)
  := by
  apply Raises.get_bind
  intro w _
  cases w.self.connectionStatusChangeCallback with
  | none =>
      apply Raises.bind_true
      · apply Raises.modify
      · intro _
        exact Raises.throw (α := Unit) .noCallback
  | some callback =>
      apply Raises.bind_true
      · apply connectionStatusAt_raises
      intro oldStatus
      apply Raises.bind_true
      · apply connectionStatusAt_raises
      intro currentStatus
      apply Raises.bind_true
      · apply Raises.modify
      intro _
      apply Raises.get_bind
      intro w' _
      exact (script_raises _).mono (fun _ h => h) fun _ => .ofCall

/-- Dispatching the status events raises what dispatching one does. -/
theorem processConnectionStateChanges_raises :
  Raises (fun _ => True) StatusFault (processConnectionStateChanges net)
  := by
  apply Raises.get_bind
  intro w _
  apply Raises.bind_true
  · apply Raises.modify
  intro _
  apply Raises.forM
  · intro info _
    apply keeps_true
  · intro info _
    apply onSteamNetConnectionStatusChanged_raises

/-! ### Updates -/

/-- Reading the input raises nothing. -/
theorem processUserInputLines_raises (lines : List String) :
  Raises (fun _ => True) (fun _ => False) (processUserInputLines lines)
  := by
  induction lines with
  | nil => apply Raises.pure
  | cons input rest ih =>
      apply Raises.bind_true
      · apply Raises.modify
      intro _
      apply Raises.ite
      · intro _
        apply Raises.bind_true
        · apply Raises.modify
        · intro _
          apply Raises.modify
      · intro _
        apply Raises.bind_true
        · apply Raises.modify
        · intro _
          apply ih

/-- Reading the console never fails. -/
theorem processUserInput_raises {E : Fault → Prop} :
  Raises (fun _ => True) E processUserInput
  := by
  apply Raises.get_bind
  intro w _
  exact (processUserInputLines_raises _).mono (fun _ h => h) fun _ h => h.elim

/-- What an update does after the packets raises only the faults of status events. -/
theorem dispatch_raises {E : Fault → Prop} (hstatus : ∀ fault, StatusFault fault → E fault) :
  Raises (fun _ => True) E (do
    processConnectionStateChanges net
    processUserInput)
  := by
  apply Raises.bind_true
  · exact processConnectionStateChanges_raises.mono (fun _ h => h) hstatus
  · intro _
    apply processUserInput_raises

/-- An update of a server satisfying `I` raises what the receiving of its packets raises, or
fails at its status events. -/
theorem updateConnection_raises {I : World Server → Prop} {E : Fault → Prop}
    (hpackets : ∀ fault w w', I w → w.self.running →
      (processPendingPackets net).run w = .error fault w' → E fault)
    (hstatus : ∀ fault, StatusFault fault → E fault) :
  Raises I E (updateConnection net)
  := by
  intro w fault w' hw h
  by_cases hstop : Stopped w
  · rw [run_updateConnection_stopped hstop] at h
    cases h
  · rw [run_updateConnection_active hstop] at h
    rcases run_bind_eq_error h with h | ⟨_, w₁, _, h⟩
    · apply hpackets fault w w' hw _ h
      simpa using fun hrun => hstop (.inr hrun)
    · apply dispatch_raises hstatus _ _ _ trivial h

end Server

end Chs
