import ChaosInMultiplayer.Common.QueueNetworking
import ChaosInMultiplayer.Endpoints.BesidesMessages
import ChaosInMultiplayer.Program.Ensures

/-!
# From the sender of a packet to the receiver

A send hands the bytes of a packet to the networking library together with their number as a
`uint32_t`, and the receiver makes its packet of the bytes of a message and of the size of the
message, an `int`.  In every run of an endpoint, the packet callback gets the packets of the
messages the endpoint has received (`Faithful`).  So what arrives for a send is the packet that
was sent, except when the conversion of its size loses the higher bits.
-/

namespace Chs

open Program

/-! ### What the packet callback gets -/

/-- The message that has been received latest. -/
def lastReceived : Trace → Option Message
  | [] => none
  | .receiveMessagesOnPollGroup _ _ pendingPacket :: _ => pendingPacket
  | .receiveMessagesOnConnection _ _ incomingPacket :: _ => incomingPacket
  | _ :: t => lastReceived t

/-- The packets the packet callback has got, each with the message received before. -/
def receipts : Trace → List (Option Message × Packet)
  | [] => []
  | .packetCallback _ packet :: t => receipts t ++ [(lastReceived t, packet)]
  | _ :: t => receipts t

/-- The packet callback has got the packets of the messages received. -/
def Faithful (t : Trace) : Prop :=
  ∀ received packet, (received, packet) ∈ receipts t →
    ∃ m : Message, received = some m ∧ packet = m.packet

/-- The event is no call of the packet callback. -/
def Event.keepsReceipts : Event → Bool
  | .packetCallback _ _ => false
  | _ => true

/-- Events besides receipts add none. -/
theorem receipts_append {es : Trace} (hes : ∀ e ∈ es, e.keepsReceipts) (t : Trace) :
  receipts (es ++ t) = receipts t
  := by
  apply History.unchanged_append _ hes
  intro e t he
  cases e <;> first | rfl | cases he

/-- Events besides receipts keep the packets faithful. -/
theorem Faithful.goesOn {E : Type} {w w' : World E} (h : Faithful w.trace)
    (hgoes : GoesOnBy (fun e => e.keepsReceipts) w w') :
  Faithful w'.trace
  := by
  obtain ⟨es, hes, hall⟩ := hgoes
  rw [Faithful, hes, receipts_append hall]
  apply h

/-- A program during which the packet callback is not called. -/
theorem Faithful.kept {E α : Type} {p : EndpointM E α}
    (h : Moves (GoesOnBy fun e => e.keepsReceipts) p) :
  Keeps (fun w => Faithful w.trace) p
  := fun w hw => hw.goesOn (h w)

/-- What is besides messages is besides receipts. -/
theorem BesidesMessages.keepsReceipts {E α : Type} {p : EndpointM E α} (h : BesidesMessages p) :
  Moves (GoesOnBy fun e => e.keepsReceipts) p
  := by
  intro w
  apply (h w).mono
  intro e he
  cases e <;> first | rfl | cases he

section Handling

variable {E : Type} {m : Message}

/-- An endpoint that has just received the message, or none. -/
structure Received (received : Option Message) (w : World E) : Prop where
  faithful : Faithful w.trace
  last : lastReceived w.trace = received

/-- The call of the packet callback for the message received. -/
theorem handle_faithful {script : Trace → EndpointM E Unit}
    (hscript : ∀ t, Moves (GoesOnBy fun e => e.keepsReceipts) (script t)) :
  Ensures (Received (some m)) (do
      emit (.packetCallback m.conn m.packet)
      let w ← get
      script w.trace
      emit (.packetCallbackReturned m.conn) : EndpointM E Unit)
    (fun _ w => Faithful w.trace) fun _ w => Faithful w.trace
  := by
  apply Ensures.bind (R := fun _ w => Faithful w.trace)
  · apply Ensures.modify
    rintro w ⟨hfaithful, hlast⟩ received packet hmem
    rcases List.mem_append.mp hmem with hmem | hmem
    · apply hfaithful received packet hmem
    · rw [List.mem_singleton, Prod.mk.injEq, hlast] at hmem
      exact ⟨m, hmem⟩
  · intro _
    apply Ensures.of_keeps
    apply Faithful.kept
    apply Moves.get_bind
    intro w
    apply (hscript w.trace).bind
    intro _ w'
    exact goesOnBy_cons rfl rfl

/-- The body of a receive loop that has been given `n` messages, which are none or the one
received. -/
def receiveBody (event : Event) (n : Int) (received : Option Message)
    (process : EndpointM E Unit) : EndpointM E Bool := do
  emit event
  if n = 0 then
    return false
  else
    when (n < 0) (logError "Error checking for messages")
    process
    release received
    return true

/-- The body of a receive loop passes the packet of the message it has received, if its processing
does. -/
theorem receiveBody_faithful {event : Event} {received : Option Message} (n : Int)
    (hevent : event.keepsReceipts) (hlast : ∀ t, lastReceived (event :: t) = received)
    {process : EndpointM E Unit}
    (hprocess : Ensures (Received received) process (fun _ w => Faithful w.trace)
      fun _ w => Faithful w.trace) :
  Keeps (fun w => Faithful w.trace) (receiveBody event n received process)
  := by
  have hensures : Ensures (fun w : World E => Faithful w.trace)
      (receiveBody event n received process) (fun _ w => Faithful w.trace)
      fun _ w => Faithful w.trace := by
    apply Ensures.bind (R := fun _ => Received received)
    · apply Ensures.modify
      intro w hw
      exact ⟨hw.goesOn (goesOnBy_cons rfl hevent), hlast w.trace⟩
    intro _
    apply Ensures.ite
    · intro _
      exact Ensures.pure fun w hw => hw.faithful
    intro _
    apply Ensures.bind (R := fun _ => Received received)
    · apply Ensures.ite
      · intro _
        apply Ensures.modify
        intro w hw
        exact ⟨hw.faithful.goesOn (goesOnBy_cons rfl rfl), hw.last⟩
      · intro _
        exact Ensures.pure fun w hw => hw
    intro _
    apply hprocess.bind
    intro _
    apply Ensures.of_keeps
    apply Faithful.kept
    apply Moves.bind
    · cases received with
      | none => apply Moves.throw
      | some m => exact fun w => goesOnBy_cons rfl rfl
    · intro _
      apply Moves.pure
  intro w hw
  apply hensures.exit hw

end Handling

/-! ### Runs of a server -/

variable {net : ISteamNetworkingSockets}

namespace Server

/-- The packet that is passed is that of the message that has been received. -/
theorem processPendingPacket_faithful (received : Option Message) :
  Ensures (Received received) (processPendingPacket net received)
    (fun _ w => Faithful w.trace) fun _ w => Faithful w.trace
  := by
  cases received with
  | none => exact Ensures.throw fun w hw => hw.faithful
  | some m =>
      apply Ensures.bind (R := fun _ => Received (some m))
      · exact Ensures.of_run_ok fun w hw => ⟨_, w, rfl, hw⟩
      intro registered
      apply Ensures.bind (R := fun _ => Received (some m))
      · cases registered with
        | true => exact Ensures.pure fun w hw => hw
        | false => exact Ensures.throw fun w hw => hw.faithful
      intro _
      apply Ensures.get_bind
      intro w hw
      cases w.self.packetCallback with
      | none =>
          apply Ensures.throw
          rintro _ rfl
          apply hw.faithful
      | some callback =>
          apply (handle_faithful fun t => (script_besidesMessages _).keepsReceipts).of_pre
          rintro _ rfl
          apply hw

/-- The receive loop passes the packets of the messages it receives. -/
theorem processPendingPackets_faithful :
  Keeps (fun w => Faithful w.trace) (processPendingPackets net)
  := by
  apply processPendingPackets_moves_of
  apply Moves.get_bind
  intro w
  exact receiveBody_faithful _ rfl (fun _ => rfl) (processPendingPacket_faithful _)

/-- An update passes the packets of the messages it receives. -/
theorem updateConnection_faithful :
  Keeps (fun w => Faithful w.trace) (updateConnection net)
  := by
  apply Moves.get_bind
  intro w
  apply Moves.ite
  · intro _
    apply Moves.pure
  intro _
  apply processPendingPackets_faithful.bind
  intro _
  exact Faithful.kept dispatch_besidesMessages.keepsReceipts

/-- Every step keeps the packets faithful. -/
theorem step_faithful (s : ServerStep) :
  Keeps (fun w => Faithful w.trace) (step net s)
  := by
  have hother : s ≠ .updateConnection → Keeps (fun w => Faithful w.trace) (step net s) :=
    fun hs => Faithful.kept (step_besidesMessages s hs).keepsReceipts
  cases s with
  | updateConnection => apply updateConnection_faithful
  | _ => exact hother (by simp)

end Server

/-! ### Runs of a client -/

namespace Client

/-- The packet that is passed is that of the message that has been received. -/
theorem processPendingPacket_faithful (received : Option Message) :
  Ensures (Received received) (processPendingPacket net received)
    (fun _ w => Faithful w.trace) fun _ w => Faithful w.trace
  := by
  apply Ensures.get_bind
  intro w hw
  cases w.self.packetCallback with
  | none =>
      apply Ensures.pure
      rintro _ rfl
      apply hw.faithful
  | some callback =>
      cases received with
      | none =>
          apply Ensures.throw
          rintro _ rfl
          apply hw.faithful
      | some m =>
          apply Ensures.of_pre (R := Received (some m))
          · exact handle_faithful fun t => (script_besidesMessages _).keepsReceipts
          · rintro _ rfl
            apply hw

/-- An update passes the packets of the messages it receives. -/
theorem updateConnection_faithful :
  Keeps (fun w => Faithful w.trace) (updateConnection net)
  := by
  apply Moves.bind
  · apply countedLoop_moves
    apply Moves.get_bind
    intro w
    exact receiveBody_faithful _ rfl (fun _ => rfl) (processPendingPacket_faithful _)
  intro _
  exact Faithful.kept dispatch_besidesMessages.keepsReceipts

/-- Every step keeps the packets faithful. -/
theorem step_faithful (s : ClientStep) :
  Keeps (fun w => Faithful w.trace) (step net s)
  := by
  have hother : s ≠ .updateConnection → Keeps (fun w => Faithful w.trace) (step net s) :=
    fun hs => Faithful.kept (step_besidesMessages s hs).keepsReceipts
  cases s with
  | updateConnection => apply updateConnection_faithful
  | _ => exact hother (by simp)

end Client

/-- The trace is one of a run of an endpoint. -/
inductive OfRun : Trace → Prop where
  | server (net : ISteamNetworkingSockets) (ip : String) (port : UInt32)
      (socket : HSteamListenSocket) (group : HSteamNetPollGroup) (steps : List ServerStep) :
      OfRun (exit (Server.runSteps net steps) (newServer ip port socket group)).trace
  | client (net : ISteamNetworkingSockets) (serverConnection : HSteamNetConnection)
      (steps : List ClientStep) :
      OfRun (exit (Client.runSteps net steps) (newClient serverConnection)).trace

/-- In every run the packets are those of the messages. -/
theorem OfRun.faithful {t : Trace} (h : OfRun t) :
  Faithful t
  := by
  have hnil : Faithful [] := fun _ _ h => by cases h
  cases h with
  | server net ip port socket group steps =>
      have hkeeps : Keeps (fun w => Faithful w.trace) (Server.runSteps net steps) :=
        Moves.forM fun s _ => Server.step_faithful s
      apply hkeeps _ hnil
  | client net serverConnection steps =>
      have hkeeps : Keeps (fun w => Faithful w.trace) (Client.runSteps net steps) :=
        Moves.forM fun s _ => Client.step_faithful s
      apply hkeeps _ hnil

/-! ### Sends -/

/-- The send operations of the two endpoints. -/
inductive SendOperation where
  | sendReliablePacketToServer
  | sendUnreliablePacketToServer
  | sendReliablePacket (clientConnection : ClientConnection)
  | sendUnreliablePacket (clientConnection : ClientConnection)
  | sendReliablePacketToAllConnectedClients
  | sendUnreliablePacketToAllConnectedClients
  | sendReliablePacketToAllConnectedClientsExcept (except : ClientConnection)
  | sendUnreliablePacketToAllConnectedClientsExcept (except : ClientConnection)

/-- The program can make the event happen. -/
def CanEmit {E : Type} (p : EndpointM E Unit) (e : Event) : Prop :=
  ∃ w es, (exit p w).trace = es ++ w.trace ∧ e ∈ es

/-- The operation, applied to the packet, can make the event happen. -/
def SendOperation.Sends (packet : Packet) (e : Event) : SendOperation → Prop
  | .sendReliablePacketToServer =>
      ∃ net, CanEmit (Client.sendReliablePacketToServer net packet) e
  | .sendUnreliablePacketToServer =>
      ∃ net, CanEmit (Client.sendUnreliablePacketToServer net packet) e
  | .sendReliablePacket client => CanEmit (Server.sendReliablePacket packet client) e
  | .sendUnreliablePacket client => CanEmit (Server.sendUnreliablePacket packet client) e
  | .sendReliablePacketToAllConnectedClients =>
      CanEmit (Server.sendReliablePacketToAllConnectedClients packet) e
  | .sendUnreliablePacketToAllConnectedClients =>
      CanEmit (Server.sendUnreliablePacketToAllConnectedClients packet) e
  | .sendReliablePacketToAllConnectedClientsExcept except =>
      CanEmit (Server.sendReliablePacketToAllConnectedClientsExcept packet except) e
  | .sendUnreliablePacketToAllConnectedClientsExcept except =>
      CanEmit (Server.sendUnreliablePacketToAllConnectedClientsExcept packet except) e

/-- The event hands the whole packet to the networking library. -/
def SendsWhole (packet : Packet) (e : Event) : Prop :=
  ∃ connection sendType,
    e = .sendMessageToConnection connection packet.data (.ofNat packet.size) sendType

/-- A program makes only those events happen by which it goes on. -/
theorem CanEmit.of_moves {E : Type} {p : EndpointM E Unit} {e : Event} {P : Event → Prop}
    (h : CanEmit p e) (hp : Moves (GoesOnBy P) p) :
  P e
  := by
  obtain ⟨w, es, hes, he⟩ := h
  obtain ⟨es', hes', hall⟩ := hp w
  rw [hes, List.append_cancel_right_eq] at hes'
  rw [← hes'] at hall
  apply hall e he

theorem Client.sendPacketToServer_moves (net : ISteamNetworkingSockets) (packet : Packet)
    (sendType : SendType) :
  Moves (GoesOnBy (SendsWhole packet)) (Client.sendPacketToServer net packet sendType)
  := by
  apply Moves.bind
  · exact fun w => Std.Refl.refl w
  intro isConnected
  apply Moves.bind
  · cases isConnected with
    | true => apply Moves.pure
    | false => apply Moves.throw
  intro _
  apply Moves.get_bind
  exact fun w _ => goesOnBy_cons rfl ⟨_, _, rfl⟩

theorem Server.sendPacket_moves (packet : Packet) (client : ClientConnection)
    (sendType : SendType) :
  Moves (GoesOnBy (SendsWhole packet)) (Server.sendPacket packet client sendType)
  := fun _ => goesOnBy_cons rfl ⟨_, _, rfl⟩

theorem Server.sendPacketToAll_moves (packet : Packet) (sendType : SendType)
    (except : Option ClientConnection) :
  Moves (GoesOnBy (SendsWhole packet))
    (Server.sendPacketToAllConnectedClientsImpl packet sendType except)
  := by
  apply Moves.get_bind
  intro w
  apply Moves.forM
  intro entry _
  apply Moves.ite
  · intro _
    apply Moves.pure
  · intro _
    apply Moves.ite
    · exact fun _ w => goesOnBy_cons rfl ⟨_, _, rfl⟩
    · intro _
      apply Moves.pure

/-- All send operations hand over the bytes of the packet and its size as a `uint32_t`. -/
theorem SendOperation.sends_whole {op : SendOperation} {packet : Packet} {e : Event}
    (h : op.Sends packet e) :
  SendsWhole packet e
  := by
  cases op with
  | sendReliablePacketToServer =>
      obtain ⟨net, h⟩ := h
      exact h.of_moves (Client.sendPacketToServer_moves net packet _)
  | sendUnreliablePacketToServer =>
      obtain ⟨net, h⟩ := h
      exact h.of_moves (Client.sendPacketToServer_moves net packet _)
  | sendReliablePacket client => exact h.of_moves (Server.sendPacket_moves packet client _)
  | sendUnreliablePacket client => exact h.of_moves (Server.sendPacket_moves packet client _)
  | _ => exact h.of_moves (Server.sendPacketToAll_moves packet _ _)

/-- A server with one client, which is connected. -/
def serverOf (k : HSteamNetConnection) : World Server where
  self :=
    { Server.construct "127.0.0.1" 8080 0 0 with
      connections :=
        AList.insert k { ClientConnection.construct k with connectionState := .connected } ∅ }
  trace := []

/-- There is a server whose broadcast sends something. -/
theorem serverOf_sendsToAll {k : HSteamNetConnection} {except : ClientConnection}
    (h : except.netConnection ≠ k) (packet : Packet) (sendType : SendType) :
  ∃ e, CanEmit (Server.sendPacketToAllConnectedClientsImpl packet sendType (some except)) e
  := by
  have hsends : (Server.sendPacketToAllConnectedClientsImpl packet sendType (some except)).run
      (serverOf k) = (Server.sendPacketToConnectedClient packet sendType (some except) k
        { ClientConnection.construct k with connectionState := .connected } >>= fun _ =>
          pure ()).run (serverOf k) := rfl
  have hskip : ¬ (some except).any fun e => e.netConnection = k := by simpa using h
  refine ⟨.sendMessageToConnection k packet.data (.ofNat packet.size) sendType, serverOf k, [_],
    ?_, List.mem_cons_self⟩
  rw [exit, hsends, Server.sendPacketToConnectedClient, if_neg hskip]
  rfl

/-- A networking library all of whose connections are connected. -/
def allConnected : ISteamNetworkingSockets :=
  { queueNetworking with getConnectionInfo := fun _ _ => .connected }

/-- Each of the operations can send. -/
theorem SendOperation.sends_something (op : SendOperation) (packet : Packet) :
  ∃ e, op.Sends packet e
  := by
  have hall : ∀ except : ClientConnection, ∃ k, except.netConnection ≠ k := by
    intro except
    use except.netConnection + 1
    simp
  cases op with
  | sendReliablePacketToServer => exact ⟨_, allConnected, newClient 0, [_], rfl, List.mem_cons_self⟩
  | sendUnreliablePacketToServer =>
      exact ⟨_, allConnected, newClient 0, [_], rfl, List.mem_cons_self⟩
  | sendReliablePacket client => exact ⟨_, serverOf 1, [_], rfl, List.mem_cons_self⟩
  | sendUnreliablePacket client => exact ⟨_, serverOf 1, [_], rfl, List.mem_cons_self⟩
  | sendReliablePacketToAllConnectedClients => exact ⟨_, serverOf 1, [_], rfl, List.mem_cons_self⟩
  | sendUnreliablePacketToAllConnectedClients =>
      exact ⟨_, serverOf 1, [_], rfl, List.mem_cons_self⟩
  | sendReliablePacketToAllConnectedClientsExcept except =>
      obtain ⟨k, hk⟩ := hall except
      apply serverOf_sendsToAll hk
  | sendUnreliablePacketToAllConnectedClientsExcept except =>
      obtain ⟨k, hk⟩ := hall except
      apply serverOf_sendsToAll hk

/-! ### Round trips -/

/-- The networking library can deliver the message for the event: it reads as many bytes as the
send says, and their number is the size of the message, which is an `int`. -/
def Carries (e : Event) (m : Message) : Prop :=
  ∃ connection data sendType, ∃ size : UInt32,
    e = .sendMessageToConnection connection data size sendType ∧
    m.data = data.take size.toNat ∧ m.cbSize = size.toNat ∧ m.cbSize ≤ 2147483647

/-- Whatever packet a packet callback gets for a send of the packet is the packet. -/
def RoundTrips (op : SendOperation) (packet : Packet) : Prop :=
  ∀ e, op.Sends packet e → ∀ m, Carries e m →
    ∀ t, OfRun t → ∀ got, (some m, got) ∈ receipts t → got = packet

theorem toSizeT_natCast {n : Nat} (h : n ≤ 2147483647) :
  toSizeT n = n
  := by
  have hsize : ((UInt64.size : Nat) : Int) = 18446744073709551616 := rfl
  rw [toSizeT, hsize]
  omega

theorem toNat_ofNat_size (n : Nat) :
  (UInt32.ofNat n).toNat = n % UInt32.size
  := rfl

/-- The packet of a message that is delivered for a send of the packet. -/
theorem packet_of_carries {packet : Packet} {e : Event} {m : Message} (he : SendsWhole packet e)
    (hm : Carries e m) :
  packet.size % UInt32.size ≤ 2147483647 ∧
    m.packet = ⟨packet.data.take (packet.size % UInt32.size)⟩
  := by
  obtain ⟨connection, sendType, rfl⟩ := he
  obtain ⟨_, _, _, size, heq, hdata, hsize, hint⟩ := hm
  cases heq
  rw [toNat_ofNat_size] at hdata hsize
  have hle : packet.size % UInt32.size ≤ 2147483647 := by omega
  use hle
  rw [Message.packet, hsize, toSizeT_natCast hle, hdata, Packet.construct, Packet.copyData,
    List.take_take, Nat.min_self]

/-- The number of bytes a send says is the size of the packet, or one that no message has. -/
def FitsMessage (packet : Packet) : Prop :=
  packet.size < UInt32.size ∨ 2147483647 < packet.size % UInt32.size

/-- A packet that fits a message makes the round trip. -/
theorem roundTrips_of_fits {op : SendOperation} {packet : Packet} (h : FitsMessage packet) :
  RoundTrips op packet
  := by
  intro e he m hm t ht got hgot
  obtain ⟨m', heq, rfl⟩ := ht.faithful _ _ hgot
  cases heq
  obtain ⟨hle, hpacket⟩ := packet_of_carries (op.sends_whole he) hm
  rcases h with h | h
  · rw [hpacket, Nat.mod_eq_of_lt h, Packet.size, Packet.data, List.take_length]
  · omega

/-- A networking library that always hands out the message. -/
def handingOut (m : Message) : ISteamNetworkingSockets :=
  { queueNetworking with receiveMessagesOnConnection := fun _ _ => (1, some m) }

/-- A client that receives one message. -/
def receiving : List ClientStep :=
  [.setPacketCallback (some fun _ _ _ => pure ()), .setMaxProcessedPackets 1, .updateConnection]

/-- Every message can be received. -/
theorem received_by_client (m : Message) :
  ∃ t, OfRun t ∧ (some m, m.packet) ∈ receipts t
  := by
  refine ⟨_, .client (handingOut m) 0 receiving, ?_⟩
  have hrun : ∃ w, (Client.runSteps (handingOut m) receiving).run (newClient 0) = .ok () w ∧
      receipts w.trace = [(some m, m.packet)] := ⟨_, rfl, rfl⟩
  obtain ⟨w, hrun, hreceipts⟩ := hrun
  rw [exit_ok hrun, hreceipts]
  apply List.mem_singleton_self

/-- Sends of a packet whose size does not fit can arrive as another packet. -/
theorem not_roundTrips (op : SendOperation) {packet : Packet} (h : ¬ FitsMessage packet) :
  ¬ RoundTrips op packet
  := by
  intro hround
  rw [FitsMessage, not_or, Nat.not_lt, Nat.not_lt] at h
  obtain ⟨e, he⟩ := op.sends_something packet
  let m : Message :=
    { conn := 1
      data := packet.data.take (packet.size % UInt32.size)
      cbSize := (packet.size % UInt32.size : Nat) }
  have hm : Carries e m := by
    obtain ⟨connection, sendType, rfl⟩ := op.sends_whole he
    refine ⟨connection, packet.data, sendType, .ofNat packet.size, rfl, ?_, ?_, ?_⟩
    · rw [toNat_ofNat_size]
    · rw [toNat_ofNat_size]
    · exact Int.ofNat_le.mpr h.2
  obtain ⟨t, ht, hgot⟩ := received_by_client m
  have hsame := hround e he m hm t ht _ hgot
  rw [(packet_of_carries (op.sends_whole he) hm).2] at hsame
  have hsize : packet.size % UInt32.size = packet.size := by
    have hlength := congrArg Packet.size hsame
    rw [Packet.size, List.length_take] at hlength
    have hle := Nat.mod_le packet.size UInt32.size
    rw [Packet.data] at hlength
    rw [Packet.size] at hlength hle ⊢
    omega
  have hlt := Nat.mod_lt packet.size (show 0 < UInt32.size by decide)
  omega

/-- Whatever arrives for a send of a packet is the packet exactly if its size is a `uint32_t`, or
no message has the size that the conversion leaves of it. -/
theorem roundTrips_iff (op : SendOperation) (packet : Packet) :
  RoundTrips op packet ↔ FitsMessage packet
  := by
  constructor
  · intro h
    by_contra hfits
    apply not_roundTrips op hfits h
  · apply roundTrips_of_fits

/-- A packet of five bytes more than a `uint32_t` can count. -/
def longPacket : Packet :=
  ⟨List.replicate 4294967301 0⟩

/-- Of the long packet, a message with its first five bytes can arrive. -/
theorem longPacket_truncated :
  ¬ RoundTrips .sendReliablePacketToServer longPacket
  := by
  apply not_roundTrips
  have hsize : longPacket.size = 4294967301 := List.length_replicate
  rw [FitsMessage, hsize]
  decide

end Chs
