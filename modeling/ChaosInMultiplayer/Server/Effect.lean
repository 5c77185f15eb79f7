import ChaosInMultiplayer.Server.Operation
import Mathlib.Logic.Relation

/-!
# What the server's operations do

`Effect net allowed w w'` lists what one elementary action of the server does to the
registry, to the flags and to the trace.  Every call a callback can make and every update of
the connection is a sequence of effects (`perform_moves`, `updateConnection_moves`), so a
property preserved by each effect is preserved by all of them.
-/

namespace Chs

/-- The event of a call that a callback makes and that changes nothing about connections. -/
@[simp]
def Event.ofCall : Event → Bool
  | .sendMessageToConnection _ _ _ _ => true
  | .log _ _ => true
  | _ => false

/-- The event happens while packets are received. -/
@[simp]
def Event.ofPackets : Event → Bool
  | .receiveMessagesOnPollGroup _ _ _ => true
  | .release _ => true
  | .packetCallback _ _ => true
  | .packetCallbackReturned _ => true
  | _ => false

/-- The event happens while status events are dispatched. -/
@[simp]
def Event.ofStatus : Event → Bool
  | .runCallbacks _ => true
  | .statusCallback _ => true
  | _ => false

/-- The event happens when the server is opened. -/
@[simp]
def Event.opens : Event → Bool
  | .createListenSocketIP _ => true
  | .createPollGroup _ => true
  | .log _ _ => true
  | _ => false

/-- The event changes nothing about connections, listening sockets and poll groups. -/
@[simp]
def Event.plain : Event → Bool
  | .arrived _ => true
  | .queued _ => true
  | .receiveMessagesOnPollGroup _ _ _ => true
  | .release _ => true
  | .sendMessageToConnection _ _ _ _ => true
  | .runCallbacks _ => true
  | .packetCallback _ _ => true
  | .packetCallbackReturned _ => true
  | .statusCallback _ => true
  | .log _ _ => true
  | _ => false

namespace Server

open Program Relation

variable {net : ISteamNetworkingSockets}

/-- What is allowed among the effects: closing the server, disconnecting clients or changing
their poll groups, and the plain events beside those of calls. -/
structure Allowed where
  closing : Prop
  disconnecting : Prop
  extra : Event → Bool

/-- Everything is allowed but plain events that do not satisfy `extra`. -/
def Allowed.all (extra : Event → Bool) : Allowed :=
  ⟨True, True, extra⟩

/-- What one elementary action of the server does. -/
inductive Effect (net : ISteamNetworkingSockets) (allowed : Allowed) :
    World Server → World Server → Prop where
  | emit {w} (e : Event) (he : e.plain) (h : e.ofCall || allowed.extra e) :
      Effect net allowed w { w with trace := e :: w.trace }
  | input {w} (lines : List String) (quit : Bool) (h : w.self.quitRequested → quit) :
      Effect net allowed w
        { w with self := { w.self with inputQueue := lines, quitRequested := quit } }
  | register {w k} (h : k ∉ w.self.connections) :
      Effect net allowed w (put w k (.construct k) (.registered k :: w.trace))
  | accept {w k client} (h : w.self.connections.lookup k = some client) :
      Effect net allowed w
        (put w k (client.accept net w.trace).2.1 (client.accept net w.trace).2.2)
  | setPollGroup {w k client} (g : HSteamNetPollGroup) (hd : allowed.disconnecting)
      (h : w.self.connections.lookup k = some client) :
      Effect net allowed w
        (put w k (client.setPollGroup net g w.trace).2.1 (client.setPollGroup net g w.trace).2.2)
  | setAlias {w k client} (value : String) (h : w.self.connections.lookup k = some client) :
      Effect net allowed w (put w k (client.setAlias value) w.trace)
  | close {w k client} (hd : allowed.disconnecting)
      (h : w.self.connections.lookup k = some client) :
      Effect net allowed w (put w k (client.close w.trace).1 (client.close w.trace).2)
  | erase {w k client} (h : w.self.connections.lookup k = some client) (hc : client.closed) :
      Effect net allowed w (drop w k)
  | shutdown {w} (h : allowed.closing) : Effect net allowed w (shutdown w)

/-- A sequence of effects. -/
abbrev Effects (net : ISteamNetworkingSockets) (allowed : Allowed) :
    World Server → World Server → Prop :=
  ReflTransGen (Effect net allowed)

/-- Any effect. -/
abbrev AnyEffect (net : ISteamNetworkingSockets) : World Server → World Server → Prop :=
  Effect net (.all fun _ => true)

/-- Any sequence of effects. -/
abbrev AnyEffects (net : ISteamNetworkingSockets) : World Server → World Server → Prop :=
  Effects net (.all fun _ => true)

variable {allowed : Allowed}

/-- Every effect is one of any effects. -/
theorem Effect.any {w w' : World Server} (h : Effect net allowed w w') :
  AnyEffect net w w'
  := by
  cases h with
  | emit e he _ => exact .emit e he (Bool.or_true _)
  | input lines quit h => exact .input lines quit h
  | register h => exact .register h
  | accept h => exact .accept h
  | setPollGroup g _ h => exact .setPollGroup g trivial h
  | setAlias value h => exact .setAlias value h
  | close _ h => exact .close trivial h
  | erase h hcl => exact .erase h hcl
  | shutdown _ => exact .shutdown trivial

/-- A sequence of effects is one of any effects. -/
theorem Effects.any {w w' : World Server} (h : Effects net allowed w w') :
  AnyEffects net w w'
  := by
  induction h with
  | refl => rfl
  | tail _ hs ih => apply ih.tail hs.any

/-- What is allowed in `allowed` is allowed in `allowed'`. -/
structure Allowed.Within (allowed allowed' : Allowed) : Prop where
  closing : allowed.closing → allowed'.closing
  disconnecting : allowed.disconnecting → allowed'.disconnecting
  extra : ∀ e, allowed.extra e → allowed'.extra e

/-- An effect that is allowed is allowed where more is. -/
theorem Effect.mono {allowed' : Allowed} (hallowed : allowed.Within allowed') {w w' : World Server}
    (h : Effect net allowed w w') :
  Effect net allowed' w w'
  := by
  cases h with
  | emit e he h =>
      apply Effect.emit e he
      rw [Bool.or_eq_true] at h ⊢
      apply h.imp_right (hallowed.extra e)
  | input lines quit h => exact .input lines quit h
  | register h => exact .register h
  | accept h => exact .accept h
  | setPollGroup g hd h => exact .setPollGroup g (hallowed.disconnecting hd) h
  | setAlias value h => exact .setAlias value h
  | close hd h => exact .close (hallowed.disconnecting hd) h
  | erase h hcl => exact .erase h hcl
  | shutdown h => exact .shutdown (hallowed.closing h)

theorem Effects.mono {allowed' : Allowed} (hallowed : allowed.Within allowed')
    {w w' : World Server} (h : Effects net allowed w w') :
  Effects net allowed' w w'
  := ReflTransGen.mono (fun _ _ => Effect.mono hallowed) _ _ h

/-- A plain event that is allowed is an effect. -/
theorem emit_moves {e : Event} (he : e.plain) (h : e.ofCall || allowed.extra e) :
  Moves (Effects net allowed) (emit e : ServerM Unit)
  := fun _ => .single (.emit e he h)

theorem assertThat_moves (condition : Bool) (assertion : Assertion) :
  Moves (Effects net allowed) (assertThat condition assertion : ServerM Unit)
  := by
  cases condition with
  | true => apply Moves.pure
  | false => apply Moves.throw

theorem clientConnection_moves (k : HSteamNetConnection) :
  Moves (Effects net allowed) (clientConnection k)
  := by
  intro w
  cases h : w.self.connections.lookup k with
  | some client =>
      rw [exit_ok (run_clientConnection_some h)]
  | none =>
      rw [exit_error (run_clientConnection_none h)]

/-- Creating an entry has the effect of the registration at most. -/
theorem createClientConnection_moves (k : HSteamNetConnection) :
  Moves (Effects net allowed) (createClientConnection k)
  := by
  intro w
  by_cases h : k ∈ w.self.connections
  · rw [exit_ok (run_createClientConnection_of_mem h)]
  · rw [exit_ok (run_createClientConnection_of_notMem h)]
    apply ReflTransGen.single (.register h)

/-- An operation on the entries has the effect it has on a registered connection. -/
theorem onClientConnection_moves {α : Type} (k : HSteamNetConnection)
    (f : ClientConnection → Trace → α × ClientConnection × Trace)
    (hf : ∀ w client, w.self.connections.lookup k = some client →
      Effect net allowed w (put w k (f client w.trace).2.1 (f client w.trace).2.2)) :
  Moves (Effects net allowed) (onClientConnection k f)
  := by
  intro w
  cases h : w.self.connections.lookup k with
  | some client =>
      rw [exit_ok (run_onClientConnection_some h)]
      apply ReflTransGen.single (hf w client h)
  | none =>
      rw [exit_error (run_onClientConnection_none h)]

/-- Removing an entry has the effect of the removal at most. -/
theorem removeClientConnection_moves (k : HSteamNetConnection) :
  Moves (Effects net allowed) (removeClientConnection k)
  := by
  intro w
  cases h : w.self.connections.lookup k with
  | some client =>
      cases hc : client.closed with
      | true =>
          rw [exit_ok (run_removeClientConnection_closed h hc)]
          apply ReflTransGen.single (.erase h hc)
      | false =>
          rw [exit_error (run_removeClientConnection_not_closed h hc)]
  | none =>
      rw [exit_error (run_removeClientConnection_none h)]

/-- Closing the connection of an entry has an effect that disconnects. -/
theorem close_moves (hd : allowed.disconnecting) (k : HSteamNetConnection) :
  Moves (Effects net allowed) (close k)
  := onClientConnection_moves k _ fun _ _ h => .close hd h

/-- Closing and removing an entry has effects that disconnect. -/
theorem closeClientConnection_moves (hd : allowed.disconnecting) (k : HSteamNetConnection) :
  Moves (Effects net allowed) (closeClientConnection k)
  := by
  apply Moves.bind
  · apply close_moves hd
  · intro _
    apply removeClientConnection_moves

/-- A broadcast has only the effects of sends. -/
theorem sendPacketToAllConnectedClientsImpl_moves (packet : Packet) (sendType : SendType)
    (except : Option ClientConnection) :
  Moves (Effects net allowed) (sendPacketToAllConnectedClientsImpl packet sendType except)
  := by
  unfold sendPacketToAllConnectedClientsImpl
  apply Moves.get_bind
  intro w
  apply Moves.forM
  intro e _
  apply Moves.ite
  · intro _
    apply Moves.pure
  · intro _
    apply Moves.ite
    · intro _
      apply emit_moves rfl rfl
    · intro _
      apply Moves.pure

/-- Closing the server has the effects of a shutdown. -/
theorem closeConnection_moves (h : allowed.closing) :
  Moves (Effects net allowed) closeConnection
  := by
  intro w
  rw [exit_ok (run_closeConnection w)]
  apply ReflTransGen.single (.shutdown h)

/-- The call closes a connection or changes its poll group. -/
def disconnects : ServerCall → Bool
  | .closeClientConnection _ => true
  | .close _ => true
  | .setPollGroup _ _ => true
  | _ => false

/-- The effects of the call are allowed. -/
structure Allowed.Permits (allowed : Allowed) (c : ServerCall) : Prop where
  closing : c = .closeConnection → allowed.closing
  disconnecting : disconnects c → allowed.disconnecting

theorem permits_all (extra : Event → Bool) (c : ServerCall) :
  (Allowed.all extra).Permits c
  := ⟨fun _ => trivial, fun _ => trivial⟩

/-- Every call of a callback is a sequence of effects. -/
theorem perform_moves (c : ServerCall) (hc : allowed.Permits c) :
  Moves (Effects net allowed) (perform net c)
  := by
  cases c with
  | createClientConnection k => apply createClientConnection_moves
  | closeClientConnection k => apply closeClientConnection_moves (hc.disconnecting rfl)
  | removeClientConnection k => apply removeClientConnection_moves
  | closeConnection => apply closeConnection_moves (hc.closing rfl)
  | connectionExists k => exact fun w => .refl
  | clientConnection k => apply clientConnection_moves
  | accept k => exact onClientConnection_moves k _ fun _ _ h => .accept h
  | setPollGroup k g =>
      exact onClientConnection_moves k _ fun _ _ h => .setPollGroup g (hc.disconnecting rfl) h
  | setAlias k value =>
      exact onClientConnection_moves k (fun client t => ((), client.setAlias value, t))
        fun _ _ h => .setAlias value h
  | close k => apply close_moves (hc.disconnecting rfl)
  | pollGroup => exact fun w => .refl
  | sendPacket packet client sendType => exact emit_moves rfl rfl
  | sendPacketToAllConnectedClients packet sendType except =>
      apply sendPacketToAllConnectedClientsImpl_moves
  | log level text => exact emit_moves rfl rfl
  | assertThat condition text => apply assertThat_moves
  | raise => exact fun w => .refl
  | readOutside => exact fun w => .refl

/-- A script has the effects of the calls it is permitted. -/
theorem script_moves {s : ServerScript Unit} (hs : s.Only allowed.Permits) :
  Moves (Effects net allowed) (s.run (perform net))
  := Script.moves perform_moves hs

/-- A script has effects, where everything is allowed. -/
theorem script_moves_all (extra : Event → Bool) (s : ServerScript Unit) :
  Moves (Effects net (.all extra)) (s.run (perform net))
  := script_moves (s.only_true.mono fun c _ => permits_all extra c)

/-! ### What effects leave alone -/

/-- An opening that succeeds happens by the events of openings. -/
theorem opened_goesOnBy (w : World Server) :
  GoesOnBy (fun e => e.opens) w (opened net w)
  := by
  have hfailure : ∀ (c : Prop) [Decidable c], ∀ e ∈ (if c then [listenFailure w] else []),
      e.opens := by
    intro c _ e he
    split at he
    · rw [List.mem_singleton.mp he]
      rfl
    · cases he
  use (.log .info ("Server listening on port " ++ toString w.self.serverPort) ::
    (if newGroup net w = 0 then [listenFailure w] else []) ++ [.createPollGroup (newGroup net w)] ++
      (if newSocket net w = 0 then [listenFailure w] else []) ++
        [.createListenSocketIP (newSocket net w)])
  constructor
  · simp [opened, listenTrace]
  · intro e he
    simp only [List.mem_append, List.mem_cons, List.not_mem_nil, or_false] at he
    rcases he with (((rfl | he) | rfl) | he) | rfl
    · rfl
    · apply hfailure _ e he
    · rfl
    · apply hfailure _ e he
    · rfl

/-- An opening creates the listening socket and the poll group, and logs. -/
theorem openConnection_goesOnBy (w : World Server) :
  GoesOnBy (fun e => e.opens) w (exit (openConnection net) w)
  := by
  cases h : net.parseString w.trace w.self.address with
  | true =>
      rw [exit_ok (run_openConnection_parsed h)]
      apply opened_goesOnBy
  | false =>
      rw [exit_ok (run_openConnection_unparsed h)]
      exact goesOnBy_cons rfl rfl

/-- The events of allowed effects. -/
@[simp]
def Allowed.MayHappen (allowed : Allowed) : Event → Prop
  | .closeConnection _ => allowed.closing ∨ allowed.disconnecting
  | .setConnectionPollGroup _ _ _ => allowed.disconnecting
  | .closeListenSocket _ => allowed.closing
  | .destroyPollGroup _ => allowed.closing
  | .registered _ => True
  | .acceptConnection _ _ => True
  | e => e.plain ∧ (e.ofCall || allowed.extra e)

/-- A plain event that is allowed may happen. -/
theorem Allowed.mayHappen_of_plain {e : Event} (he : e.plain) (h : e.ofCall || allowed.extra e) :
  allowed.MayHappen e
  := by
  cases e <;> first | exact ⟨he, h⟩ | cases he

/-- An effect happens by events that may happen. -/
theorem Effect.goesOnBy {w w' : World Server} (h : Effect net allowed w w') :
  GoesOnBy allowed.MayHappen w w'
  := by
  cases h with
  | emit e he h => exact goesOnBy_cons rfl (Allowed.mayHappen_of_plain he h)
  | input lines quit h => exact ⟨[], rfl, by simp⟩
  | register h => exact goesOnBy_cons rfl trivial
  | @accept k client h =>
      obtain ⟨-, -, ok, ht⟩ := accept_entry net client w.trace
      exact goesOnBy_cons ht trivial
  | @setPollGroup k client g hd h =>
      obtain ⟨-, -, ht⟩ := setPollGroup_entry net client g w.trace
      exact goesOnBy_cons ht hd
  | setAlias value h => exact ⟨[], rfl, by simp⟩
  | close hd h => exact goesOnBy_cons rfl (.inr hd)
  | erase h hcl => exact ⟨[], rfl, by simp⟩
  | shutdown h =>
      use .destroyPollGroup w.self.pollGroup :: .closeListenSocket w.self.listeningSocket ::
        (closings w.self.connections.entries ++ [.log .info "Closing connections..."])
      constructor
      · simp [Server.shutdown]
      · intro e he
        simp only [List.mem_cons, List.mem_append, mem_closings, List.not_mem_nil, or_false] at he
        rcases he with rfl | rfl | ⟨entry, -, rfl⟩ | rfl
        · exact h
        · exact h
        · exact .inl h
        · exact ⟨rfl, rfl⟩

theorem Effects.goesOnBy {w w' : World Server} (h : Effects net allowed w w') :
  GoesOnBy allowed.MayHappen w w'
  := by
  induction h with
  | refl => exact Std.Refl.refl _
  | tail _ hs ih => exact IsTrans.trans _ _ _ ih hs.goesOnBy

/-- A server that has been asked to quit stays so. -/
theorem Effect.keeps_quitRequested {w w' : World Server} (h : Effect net allowed w w')
    (hw : w.self.quitRequested) :
  w'.self.quitRequested
  := by
  cases h with
  | input lines quit h => apply h hw
  | shutdown h => rfl
  | _ => apply hw

/-! ### The parts of an update -/

/-- An effect leaves the callbacks and the packet limit as they are. -/
theorem Effect.keeps_settings {w w' : World Server} (h : Effect net allowed w w') :
  w'.self.packetCallback = w.self.packetCallback ∧
    w'.self.connectionStatusChangeCallback = w.self.connectionStatusChangeCallback ∧
    w'.self.maxProcessedPackets = w.self.maxProcessedPackets
  := by
  cases h <;> exact ⟨rfl, rfl, rfl⟩

/-- No effect changes the callbacks or the limit. -/
theorem Effects.keeps_settings {w w' : World Server} (h : Effects net allowed w w') :
  w'.self.packetCallback = w.self.packetCallback ∧
    w'.self.connectionStatusChangeCallback = w.self.connectionStatusChangeCallback ∧
    w'.self.maxProcessedPackets = w.self.maxProcessedPackets
  := by
  induction h with
  | refl => exact ⟨rfl, rfl, rfl⟩
  | tail _ hs ih =>
      obtain ⟨hp, hc, hm⟩ := hs.keeps_settings
      rw [hp, hc, hm]
      apply ih

/-- The packet callback makes only calls that satisfy `P`. -/
def PacketCallbackOnly (P : ServerCall → Prop) (w : World Server) : Prop :=
  ∀ callback, w.self.packetCallback = some callback →
    ∀ k packet t, (callback k packet t).Only P

/-- What is allowed while packets are received. -/
def Allowed.packets (closing disconnecting : Prop) : Allowed :=
  ⟨closing, disconnecting, Event.ofPackets⟩

/-- The effects while packets are received, if the packet callback makes only calls whose
effects are allowed. -/
def PacketEffects (net : ISteamNetworkingSockets) (closing disconnecting : Prop)
    (w w' : World Server) : Prop :=
  PacketCallbackOnly (Allowed.packets closing disconnecting).Permits w →
    Effects net (.packets closing disconnecting) w w'

variable {closing disconnecting : Prop}

instance : Std.Refl (PacketEffects net closing disconnecting) where
  refl _ _ := .refl

instance : IsTrans (World Server) (PacketEffects net closing disconnecting) where
  trans w w' w'' h h' hw := by
    have hw' : PacketCallbackOnly (Allowed.packets closing disconnecting).Permits w' := by
      intro callback hcallback
      rw [(h hw).keeps_settings.1] at hcallback
      apply hw callback hcallback
    apply (h hw).trans (h' hw')

/-- What has the effects of packets has them in particular with a packet callback that makes only
the calls allowed. -/
theorem packetEffects_of_effects {α : Type} {p : ServerM α}
    (h : Moves (Effects net (.packets closing disconnecting)) p) :
  Moves (PacketEffects net closing disconnecting) p
  := fun w _ => h w

/-- Calling the packet callback has the effects of packets. -/
theorem callPacketCallback_moves (k : HSteamNetConnection) (packet : Packet) :
  Moves (PacketEffects net closing disconnecting) (callPacketCallback net k packet)
  := by
  intro w hw
  cases hcb : w.self.packetCallback with
  | none =>
      have hrun : (callPacketCallback net k packet).run w = .error .badFunctionCall w := by
        simp [callPacketCallback, hcb]
      rw [exit_error hrun]
  | some callback =>
      have hmoves : Moves (Effects net (.packets closing disconnecting)) (do
          emit (.packetCallback k packet)
          let w ← get
          (callback k packet w.trace).run (perform net)
          emit (.packetCallbackReturned k) : ServerM Unit) := by
        apply Moves.bind (emit_moves rfl rfl)
        intro _
        apply Moves.get_bind
        intro w
        apply Moves.bind (script_moves (hw callback hcb k packet _))
        intro _
        apply emit_moves rfl rfl
      have hexit := hmoves w
      simp only [exit, callPacketCallback, EStateM.run_bind, EStateM.run_get, hcb] at hexit ⊢
      apply hexit

/-! #### Receiving along any preorder -/

section Receiving

variable {R : World Server → World Server → Prop} [Std.Refl R] [IsTrans (World Server) R]

/-- Processing a message moves along what calling the packet callback does. -/
theorem processPendingPacket_moves_of
    (hcall : ∀ k packet, Moves R (callPacketCallback net k packet))
    (pendingPacket : Option Message) :
  Moves R (processPendingPacket net pendingPacket)
  := by
  cases pendingPacket with
  | none => apply Moves.throw
  | some m =>
      apply Moves.bind
      · exact fun w => Std.Refl.refl w
      · intro registered
        apply Moves.bind
        · cases registered with
          | true => apply Moves.pure
          | false => apply Moves.throw
        · intro _
          apply hcall

/-- The body of the receive loop moves along a preorder that its own events and the calls of
the packet callback follow. -/
theorem receivePacket_moves_along
    (hpackets : ∀ e : Event, e.ofPackets → Moves R (emit e : ServerM Unit))
    (hlog : ∀ level text, Moves R (emit (.log level text) : ServerM Unit))
    (hcall : ∀ k packet, Moves R (callPacketCallback net k packet)) :
  Moves R (receivePacket net)
  := by
  unfold receivePacket
  apply Moves.get_bind
  intro w
  apply Moves.bind
  · apply hpackets _ rfl
  intro _
  apply Moves.ite
  · intro _
    apply Moves.pure
  intro _
  apply Moves.bind
  · apply Moves.when
    intro _
    apply hlog
  intro _
  apply Moves.bind
  · apply processPendingPacket_moves_of hcall
  intro _
  apply Moves.bind
  · cases (net.receiveMessagesOnPollGroup w.trace w.self.pollGroup).2 with
    | none => apply Moves.throw
    | some m => apply hpackets _ rfl
  intro _
  apply Moves.pure

/-- Receiving a message moves along what its events and the packet callback do. -/
theorem receivePacket_moves_of
    (hemit : ∀ e : Event, e.ofCall || e.ofPackets → Moves R (emit e : ServerM Unit))
    (hcall : ∀ k packet, Moves R (callPacketCallback net k packet)) :
  Moves R (receivePacket net)
  := by
  apply receivePacket_moves_along
  · intro e he
    apply hemit e
    rw [he, Bool.or_true]
  · exact fun _ _ => hemit _ rfl
  · apply hcall

/-- The receive loop moves along what receiving a message does. -/
theorem processPendingPackets_moves_of (hbody : Moves R (receivePacket net)) :
  Moves R (processPendingPackets net)
  := by
  apply Moves.get_bind
  intro w
  apply Moves.ite
  · intro _
    apply Moves.pure
  · intro _
    apply countedLoop_moves hbody

end Receiving

/-- Receiving a message has the effects of packets. -/
theorem receivePacket_moves :
  Moves (PacketEffects net closing disconnecting) (receivePacket net)
  := by
  apply receivePacket_moves_of
  · intro e he
    apply packetEffects_of_effects
    apply emit_moves _ he
    cases e <;> first | rfl | cases he
  · intro k packet
    apply callPacketCallback_moves

/-- The receive loop has the effects of packets. -/
theorem processPendingPackets_moves :
  Moves (PacketEffects net closing disconnecting) (processPendingPackets net)
  := processPendingPackets_moves_of receivePacket_moves

theorem connectionStatusAt_moves (state : ESteamNetworkingConnectionState) :
  Moves (Effects net allowed) (connectionStatusAt state)
  := by
  cases state <;> exact fun w => .refl

/-- Dispatching a status event has the effects of the status callback. -/
theorem onSteamNetConnectionStatusChanged_moves (info : StatusInfo) :
  Moves (Effects net (.all Event.ofStatus)) (onSteamNetConnectionStatusChanged net info)
  := by
  apply Moves.get_bind
  intro w
  cases w.self.connectionStatusChangeCallback with
  | none =>
      apply Moves.bind (emit_moves rfl rfl)
      intro _
      apply Moves.throw
  | some callback =>
      apply Moves.bind (connectionStatusAt_moves _)
      intro oldStatus
      apply Moves.bind (connectionStatusAt_moves _)
      intro currentStatus
      apply Moves.bind (emit_moves rfl rfl)
      intro _
      apply Moves.get_bind
      intro w'
      apply script_moves_all

/-- Dispatching the status events has the effects of the status callback. -/
theorem processConnectionStateChanges_moves :
  Moves (Effects net (.all Event.ofStatus)) (processConnectionStateChanges net)
  := by
  apply Moves.get_bind
  intro w
  apply Moves.bind (emit_moves rfl rfl)
  intro _
  apply Moves.forM
  intro info _
  apply onSteamNetConnectionStatusChanged_moves

/-- Reading the console moves along a preorder that its log entries and the changes of the
input queue follow, the server being asked to quit or not. -/
theorem processUserInput_moves_of {R : World Server → World Server → Prop} [Std.Refl R]
    [IsTrans (World Server) R]
    (hlog : ∀ level text, Moves R (emit (.log level text) : ServerM Unit))
    (hinput : ∀ (w : World Server) lines (quit : Bool), (w.self.quitRequested → quit) →
      R w { w with self := { w.self with inputQueue := lines, quitRequested := quit } }) :
  Moves R processUserInput
  := by
  have hlines : ∀ lines, Moves R (processUserInputLines lines) := by
    intro lines
    induction lines with
    | nil => apply Moves.pure
    | cons input rest ih =>
        apply Moves.bind
        · exact Moves.modify fun w => hinput w rest w.self.quitRequested id
        intro _
        apply Moves.ite
        · intro _
          apply Moves.bind
          · exact Moves.modify fun w => hinput w w.self.inputQueue true fun _ => rfl
          · intro _
            apply hlog
        · intro _
          apply Moves.bind
          · apply hlog
          · intro _
            apply ih
  apply Moves.get_bind
  intro w
  apply hlines

/-- Reading the input has no effect but its logs. -/
theorem processUserInput_moves :
  Moves (Effects net allowed) processUserInput
  := by
  apply processUserInput_moves_of
  · intro level text
    apply emit_moves rfl rfl
  · intro w lines quit h
    exact .single (.input lines quit h)

/-- Whatever the packet callback does, the receiving of packets is a sequence of effects. -/
theorem PacketEffects.all {α : Type} {p : ServerM α} (h : Moves (PacketEffects net True True) p) :
  Moves (Effects net (.all Event.ofPackets)) p
  := by
  intro w
  apply h w
  intro callback _ k packet t
  apply (callback k packet t).only_true.mono
  intro c _
  apply permits_all

/-- After the packets, an update dispatches the status events and reads the console. -/
theorem dispatch_moves :
  Moves (Effects net (.all Event.ofStatus)) (do
    processConnectionStateChanges net
    processUserInput)
  := by
  apply Moves.bind processConnectionStateChanges_moves
  intro _
  apply processUserInput_moves

/-- An update is a sequence of effects. -/
theorem updateConnection_moves :
  Moves (AnyEffects net) (updateConnection net)
  := by
  apply Moves.get_bind
  intro w
  apply Moves.ite
  · intro _
    apply Moves.pure
  · intro _
    apply Moves.bind
    · exact (PacketEffects.all processPendingPackets_moves).mono fun _ _ h => h.any
    · intro _
      exact dispatch_moves.mono fun _ _ h => h.any

end Server

end Chs
