import ChaosInMultiplayer.Client.NullPacket
import ChaosInMultiplayer.Endpoints.StatusEvents
import ChaosInMultiplayer.Program.Simulation
import ChaosInMultiplayer.Server.InOrder

/-!
# The receive loops of the two endpoints

A client and a server with one client, to whom the same packets arrive, pass the same packets to
their callbacks and leave the same packets pending, as long as no update is made while a packet is
pending and no packet callback is set.  Without a callback the server does not receive packets at
all, but the client receives them and drops them.
-/

namespace Chs

open Program

/-! ### Callbacks for both endpoints -/

/-- The contents of the packets that have been passed to the packet callback. -/
def contentsPassed (t : Trace) : List (List UInt8) :=
  (passedPackets t).map Prod.snd

/-- A packet callback that does not call back.  It knows the contents of all the packets it has been
passed. -/
abbrev CommonCallback := List (List UInt8) → Packet → OutsideScript

/-- The callback, set at a server. -/
def CommonCallback.onServer (callback : CommonCallback) : PacketCallback :=
  fun _ packet t => OutsideScript.onServer (callback (contentsPassed t) packet)

/-- The callback, set at a client. -/
def CommonCallback.onClient (callback : CommonCallback) : Client.PacketCallback :=
  fun _ packet t => OutsideScript.onClient (callback (contentsPassed t) packet)

/-! ### Schedules -/

/-- What arrives: the data of a packet and its size. -/
structure Content where
  data : List UInt8
  cbSize : Int
  deriving DecidableEq

/-- The message with the content that arrives from a connection. -/
def Content.message (connection : HSteamNetConnection) (content : Content) : Message :=
  ⟨connection, content.data, content.cbSize⟩

/-- A step of a schedule for both endpoints. -/
inductive ScheduleStep where
  | arrive (content : Content)
  | setMaxProcessedPackets (limit : Nat) (h : limit ≤ 2147483647)
  | setPacketCallback (callback : Option CommonCallback)
  | updateConnection

/-- The step at a server, whose client has the given connection. -/
def ScheduleStep.onServer (connection : HSteamNetConnection) : ScheduleStep → ServerStep
  | .arrive content => .arrive (content.message connection)
  | .setMaxProcessedPackets limit _ => .setMaxProcessedPackets (.ofNat limit)
  | .setPacketCallback callback => .setPacketCallback (callback.map CommonCallback.onServer)
  | .updateConnection => .updateConnection

/-- The step at a client with the given connection. -/
def ScheduleStep.onClient (connection : HSteamNetConnection) : ScheduleStep → ClientStep
  | .arrive content => .arrive (content.message connection)
  | .setMaxProcessedPackets limit _ => .setMaxProcessedPackets (.ofNat limit)
  | .setPacketCallback callback => .setPacketCallback (callback.map CommonCallback.onClient)
  | .updateConnection => .updateConnection

namespace ReceiveLoops

/-- The contents of the pending packets. -/
def contentsPending (t : Trace) : List Content :=
  (pending t).map fun m => ⟨m.data, m.cbSize⟩

/-- The two endpoints have passed the same contents to their callbacks and have the same contents
pending. -/
def Agree (w : World Server) (w' : World Client) : Prop :=
  contentsPassed w.trace = contentsPassed w'.trace ∧
    contentsPending w.trace = contentsPending w'.trace

/-- A server, opened and not asked to quit, whose client has the connection `k`, and a client whose
connection `c` is open, with the same limit, callback, passed and pending packets, and with no
status events and no input to process. -/
structure Alike (k c : HSteamNetConnection) (callback : Option CommonCallback) (w : World Server)
    (w' : World Client) : Prop where
  active : ¬ Server.Stopped w
  held : w.self.pollGroup ∈ heldPollGroups w.trace
  group : groupOf k w.trace = some w.self.pollGroup
  registered : k ∈ w.self.connections
  noInput : w.self.inputQueue = []
  noEvents : queuedEvents w.trace = []
  connection : w'.self.serverConnection = c
  opened : Opened c w'.trace
  noEvents' : queuedEvents w'.trace = []
  limit : (w.self.maxProcessedPackets.toNat : Int) = w'.self.maxProcessedPackets.toInt
  serverCallback : w.self.packetCallback = callback.map CommonCallback.onServer
  clientCallback : w'.self.packetCallback = callback.map CommonCallback.onClient
  pending : ∃ contents : List Content, pending w.trace = contents.map (Content.message k) ∧
    pending w'.trace = contents.map (Content.message c)
  passed : contentsPassed w.trace = contentsPassed w'.trace

variable {k c : HSteamNetConnection} {callback : Option CommonCallback} {w : World Server}
  {w' : World Client}

theorem contentsPending_of_messages {t : Trace} {contents : List Content}
    (h : pending t = contents.map (Content.message k)) :
  contentsPending t = contents
  := by
  rw [contentsPending, h, List.map_map]
  apply List.map_id

theorem Alike.agree (h : Alike k c callback w w') :
  Agree w w'
  := by
  obtain ⟨contents, hpending, hpending'⟩ := h.pending
  use h.passed
  rw [contentsPending_of_messages hpending, contentsPending_of_messages hpending']

/-- The event concerns neither the messages nor the status events nor the connections. -/
@[simp]
def Neutral : Event → Bool
  | .log _ _ => true
  | .release _ => true
  | .packetCallbackReturned _ => true
  | .runCallbacks _ => true
  | .receiveMessagesOnPollGroup _ _ none => true
  | .receiveMessagesOnConnection _ _ none => true
  | _ => false

/-- A neutral event leaves what is pending alone. -/
theorem pending_neutral {e : Event} (he : Neutral e) (t : Trace) :
  pending (e :: t) = pending t
  := by
  cases e with
  | receiveMessagesOnPollGroup g n m => cases m <;> first | rfl | cases he
  | receiveMessagesOnConnection g n m => cases m <;> first | rfl | cases he
  | _ => first | rfl | cases he

/-- Neutral events leave alone whatever the endpoints are compared by. -/
theorem neutral_cons {e : Event} (he : Neutral e) (t : Trace) :
  contentsPassed (e :: t) = contentsPassed t ∧ heldPollGroups (e :: t) = heldPollGroups t ∧
    groupOf k (e :: t) = groupOf k t ∧ (queuedEvents t = [] → queuedEvents (e :: t) = []) ∧
    (Opened c t → Opened c (e :: t))
  := by
  refine ⟨?_, ?_, ?_, ?_, ?_⟩
  · cases e <;> first | rfl | cases he
  · cases e <;> first | rfl | cases he
  · cases e <;> first | rfl | cases he
  · cases e <;> first | exact id | exact fun _ => rfl | cases he
  · rintro ⟨hvalid, hconnect, hclose⟩
    refine ⟨hvalid, List.mem_cons_of_mem _ hconnect, ?_⟩
    rintro h
    rcases List.mem_cons.mp h with rfl | h
    · cases he
    · apply hclose h

theorem Alike.server_neutral (h : Alike k c callback w w') {e : Event} (he : Neutral e) :
  Alike k c callback { w with trace := e :: w.trace } w'
  := by
  obtain ⟨hpassed, hheld, hgroup, hevents, -⟩ := @neutral_cons k c e he w.trace
  exact
    { h with
      held := by
        rw [hheld]
        apply h.held
      group := hgroup.trans h.group
      noEvents := hevents h.noEvents
      pending := by
        rw [pending_neutral he]
        apply h.pending
      passed := hpassed.trans h.passed }

theorem Alike.client_neutral (h : Alike k c callback w w') {e : Event} (he : Neutral e) :
  Alike k c callback w { w' with trace := e :: w'.trace }
  := by
  obtain ⟨hpassed, -, -, hevents, hopened⟩ := @neutral_cons k c e he w'.trace
  exact
    { h with
      opened := hopened h.opened
      noEvents' := hevents h.noEvents'
      pending := by
        rw [pending_neutral he]
        apply h.pending
      passed := h.passed.trans hpassed.symm }

/-- Neutral events at both leave the endpoints alike. -/
theorem Alike.neutral (h : Alike k c callback w w') {e e' : Event} (he : Neutral e)
    (he' : Neutral e') :
  Alike k c callback { w with trace := e :: w.trace } { w' with trace := e' :: w'.trace }
  := (h.server_neutral he).client_neutral he'

/-! ### Receiving one packet -/

section

variable {net net' : ISteamNetworkingSockets} (horder : net.ReceivesInOrder)
  (holdest : net'.ReceivesOldest)

/-- The client after it has asked for a message. -/
def clientReceived (w : World Client) (answer : Int × Option Message) : World Client where
  self := w.self
  trace := .receiveMessagesOnConnection w.self.serverConnection answer.1 answer.2 :: w.trace

/-- The client when its packet callback is called. -/
def clientCalled (w : World Client) (m : Message) : World Client where
  self := w.self
  trace := .packetCallback m.conn m.packet :: w.trace

/-- The client after it has received a message and dropped it. -/
def clientDropped (w : World Client) (m : Message) : World Client where
  self := w.self
  trace := .release m :: (clientReceived w (1, some m)).trace

/-- A client that drops a message leaves its connection opened. -/
theorem opened_clientDropped {w : World Client} (h : Opened c w.trace) (m : Message) :
  Opened c (clientDropped w m).trace
  := by
  obtain ⟨hvalid, hconnect, hclose⟩ := h
  use hvalid
  simp [clientDropped, clientReceived, hconnect, hclose]

/-- A message that is dropped is not pending any more. -/
theorem pending_clientDropped (w : World Client) (m : Message) :
  pending (clientDropped w m).trace = (pending w.trace).erase m
  := rfl

/-- What is left to do with a message when the packet callback of the client has been called. -/
def clientInvoke (net : ISteamNetworkingSockets) (callback : Client.PacketCallback) (m : Message) :
    ClientM Bool := do
  let w ← get
  (callback m.conn m.packet w.trace).run (Client.perform net)
  emit (.packetCallbackReturned m.conn)
  release (some m)
  return true

theorem run_client_none {w : World Client}
    (h : net'.receiveMessagesOnConnection w.trace w.self.serverConnection = (0, none)) :
  (Client.receivePacket net').run w = .ok false (clientReceived w (0, none))
  := by
  simp only [Client.receivePacket, EStateM.run_bind, EStateM.run_get, h]
  rfl

theorem run_client_some {w : World Client} {m : Message}
    (h : net'.receiveMessagesOnConnection w.trace w.self.serverConnection = (1, some m)) :
  (Client.receivePacket net').run w = (do
      Client.processPendingPacket net' (some m)
      release (some m)
      return true : ClientM Bool).run (clientReceived w (1, some m))
  := Client.run_receivePacket_some h

/-- The client passes the message to its packet callback. -/
theorem run_client_called {w : World Client} {m : Message} {callback : Client.PacketCallback}
    (hcb : w.self.packetCallback = some callback) :
  (do
      Client.processPendingPacket net' (some m)
      release (some m)
      return true : ClientM Bool).run w = (clientInvoke net' callback m).run (clientCalled w m)
  := by
  simp only [clientInvoke, EStateM.run_bind, Client.processPendingPacket, EStateM.run_get, hcb,
    run_emit, clientCalled]
  cases ((callback m.conn m.packet (.packetCallback m.conn m.packet :: w.trace)).run
      (Client.perform net')).run { w with trace := .packetCallback m.conn m.packet :: w.trace } with
  | ok a w' => rfl
  | error fault w' => rfl

/-- Without a packet callback, the client drops the message. -/
theorem run_client_dropped {w : World Client} {m : Message}
    (h : net'.receiveMessagesOnConnection w.trace w.self.serverConnection = (1, some m))
    (hcb : w.self.packetCallback = none) :
  (Client.receivePacket net').run w = .ok true (clientDropped w m)
  := by
  have hcb' : (clientReceived w (1, some m)).self.packetCallback = none := hcb
  rw [run_client_some h]
  simp only [EStateM.run_bind, Client.processPendingPacket, EStateM.run_get, hcb']
  rfl

include horder in
/-- The server is handed out the first of the pending contents. -/
theorem Alike.server_answer (h : Alike k c callback w w') {contents : List Content}
    (hpending : Chs.pending w.trace = contents.map (Content.message k)) :
  net.receiveMessagesOnPollGroup w.trace w.self.pollGroup
    = handOut (contents.map (Content.message k))
  := by
  rw [horder w.trace w.self.pollGroup h.held, pendingOn, hpending, List.filter_eq_self.mpr]
  intro m hm
  obtain ⟨content, -, rfl⟩ := List.mem_map.mp hm
  exact decide_eq_true h.group

include holdest in
/-- The client is handed out the first of the pending contents. -/
theorem client_answer {w : World Client} {contents : List Content}
    (hconnection : w.self.serverConnection = c) (hopened : Opened c w.trace)
    (hpending : pending w.trace = contents.map (Content.message c)) :
  net'.receiveMessagesOnConnection w.trace w.self.serverConnection
    = handOut (contents.map (Content.message c))
  := by
  rw [hconnection, holdest w.trace c hopened, hpending, List.filter_eq_self.mpr]
  intro m hm
  obtain ⟨content, -, rfl⟩ := List.mem_map.mp hm
  simp [Content.message]

/-- The endpoints are alike when both have received the next packet and call their callbacks. -/
theorem Alike.called (h : Alike k c callback w w') {content : Content} {contents : List Content}
    (hpending : Chs.pending w.trace = (content :: contents).map (Content.message k))
    (hpending' : Chs.pending w'.trace = (content :: contents).map (Content.message c)) :
  Alike k c callback
    (Server.called (Server.received w (1, some (content.message k))) (content.message k))
    (clientCalled (clientReceived w' (1, some (content.message c))) (content.message c))
  := by
  obtain ⟨hvalid, hconnect, hclose⟩ := h.opened
  exact
    { h with
      opened := by
        refine ⟨hvalid, ?_, ?_⟩
        · simp [clientCalled, clientReceived, hconnect]
        · simp [clientCalled, clientReceived, hclose]
      pending := by
        use contents
        constructor
        · have herase : Chs.pending (Server.called (Server.received w (1, some (content.message k)))
              (content.message k)).trace = (Chs.pending w.trace).erase (content.message k) := rfl
          rw [herase, hpending, List.map_cons, List.erase_cons_head]
        · have herase : Chs.pending (clientCalled (clientReceived w'
              (1, some (content.message c))) (content.message c)).trace
              = (Chs.pending w'.trace).erase (content.message c) := rfl
          rw [herase, hpending', List.map_cons, List.erase_cons_head]
      passed := by
        have hpassed := h.passed
        simp only [contentsPassed, Server.called, Server.received, clientCalled, clientReceived,
          passedPackets, List.map_append] at hpassed ⊢
        rw [hpassed]
        rfl }

/-- Once the callback has been called, both endpoints go on alike. -/
theorem invoke_simulates (callback : CommonCallback) (content : Content) :
  Simulates (Alike k c (some callback))
    (Server.invoke net callback.onServer (content.message k))
    (clientInvoke net' callback.onClient (content.message c)) (Alike k c (some callback)) Agree
  := by
  apply Simulates.get_bind
  intro w w' h
  apply Simulates.bind (M := Alike k c (some callback))
  · have hscript := @OutsideScript.simulates net net' (Alike k c (some callback)) Agree
      (fun w w' level text (hw : Alike k c (some callback) w w') => hw.neutral rfl rfl)
      (fun w w' hw => hw.agree) (callback (contentsPassed w.trace) (content.message k).packet)
    have hpacket : (content.message c).packet = (content.message k).packet := rfl
    simp only [CommonCallback.onServer, CommonCallback.onClient, ← h.passed, hpacket]
    apply hscript.of_imp
    rintro _ _ ⟨rfl, rfl⟩
    exact h
  intro _
  apply Simulates.bind (M := Alike k c (some callback))
  · exact Simulates.modify fun _ _ hw => hw.neutral rfl rfl
  intro _
  apply Simulates.bind (M := Alike k c (some callback))
  · exact Simulates.modify fun _ _ hw => hw.neutral rfl rfl
  intro _
  exact Simulates.pure fun _ _ hw => hw

include horder holdest in
/-- Both receive loops do the same with the first of the pending contents. -/
theorem receivePacket_simulates (callback : CommonCallback) :
  Simulates (Alike k c (some callback)) (Server.receivePacket net) (Client.receivePacket net')
    (Alike k c (some callback)) Agree
  := by
  intro w w' h
  obtain ⟨contents, hpending, hpending'⟩ := h.pending
  have hanswer := h.server_answer horder hpending
  have hanswer' := client_answer holdest h.connection h.opened hpending'
  cases contents with
  | nil =>
      rw [Server.run_receivePacket_none hanswer, run_client_none hanswer']
      use rfl
      exact h.neutral rfl rfl
  | cons content contents =>
      have hregistered : (content.message k).conn
          ∈ (Server.received w (1, some (content.message k))).self.connections := h.registered
      have hserver : (Server.received w (1, some (content.message k))).self.packetCallback
          = some callback.onServer := h.serverCallback
      have hclient : (clientReceived w' (1, some (content.message c))).self.packetCallback
          = some callback.onClient := h.clientCallback
      rw [Server.run_receivePacket_some hanswer, Server.run_deliver_registered hregistered hserver,
        run_client_some hanswer', run_client_called hclient]
      apply invoke_simulates callback content _ _ (h.called hpending hpending')

/-! ### The loops -/

include horder holdest in
/-- With a packet callback, the two receive loops end alike. -/
theorem receive_simulates (callback : CommonCallback) :
  Simulates (Alike k c (some callback)) (Server.processPendingPackets net)
    (Client.processReceivedPackets net') (Alike k c (some callback)) Agree
  := by
  have hloop : Simulates (Alike k c (some callback)) (Server.receiveLoop net 2147483648 0)
      (Client.processReceivedPackets net') (Alike k c (some callback)) Agree := by
    apply Simulates.countedLoop
    · intro w w' index h
      have hlimit := h.limit
      rw [decide_eq_decide]
      omega
    · apply receivePacket_simulates horder holdest
    · intro w w' h
      apply h.agree
  intro w w' h
  rw [Server.run_processPendingPackets_some h.serverCallback]
  apply hloop w w' h

include holdest in
/-- Without a packet callback, the client takes the packets its limit allows.  The induction is on
the number of iterations left. -/
theorem client_drops {w : World Client} {contents : List Content} (left j : Nat)
    (hconnection : w.self.serverConnection = c) (hopened : Opened c w.trace)
    (hcb : w.self.packetCallback = none)
    (hpending : pending w.trace = contents.map (Content.message c))
    (hevents : queuedEvents w.trace = []) (hleft : left + j = 2147483648)
    (hj : j ≤ Client.loopLimit w) :
  ∃ w₁, (countedLoop (fun (w : World Client) packetIndex =>
        packetIndex < w.self.maxProcessedPackets.toInt)
      .signedOverflow (Client.receivePacket net') left j).run w = .ok () w₁ ∧
    pending w₁.trace = (contents.drop (Client.loopLimit w - j)).map (Content.message c) ∧
    queuedEvents w₁.trace = []
  := by
  have hlimit := Client.loopLimit_lt w
  induction left generalizing j w contents with
  | zero => omega
  | succ left ih =>
      by_cases hbelow : j < Client.loopLimit w
      · have hanswer := client_answer holdest hconnection hopened hpending
        rw [run_countedLoop_below _ _ _ ((Client.below_loopLimit_iff w j).mpr hbelow)]
        cases contents with
        | nil =>
            rw [run_bind_ok _ (run_client_none hanswer)]
            use clientReceived w (0, none), rfl
            rw [List.drop_nil]
            exact ⟨hpending, hevents⟩
        | cons content contents =>
            rw [run_bind_ok _ (run_client_dropped hanswer hcb), if_pos rfl]
            have hrest : Client.loopLimit w - j
                = Client.loopLimit (clientDropped w (content.message c)) - (j + 1) + 1 := by
              have hsame : Client.loopLimit (clientDropped w (content.message c))
                  = Client.loopLimit w := rfl
              omega
            rw [hrest, List.drop_succ_cons]
            apply @ih (clientDropped w (content.message c)) contents (j + 1) hconnection
              (opened_clientDropped hopened _) hcb _ hevents (by omega) hbelow hlimit
            rw [pending_clientDropped, hpending, List.map_cons, List.erase_cons_head]
      · have hindex := Bool.eq_false_iff.mpr (mt (Client.below_loopLimit_iff w j).mp hbelow)
        have hdone : Client.loopLimit w - j = 0 := by omega
        use w, run_countedLoop_above _ _ _ hindex
        rw [hdone]
        exact ⟨hpending, hevents⟩

/-- If the update is made without a packet callback, it finds nothing pending or its limit is
zero. -/
def NothingDropped (w : World Server) : ScheduleStep → Prop
  | .updateConnection => w.self.packetCallback = none →
      pending w.trace = [] ∨ w.self.maxProcessedPackets = 0
  | _ => True

include holdest in
/-- Without a packet callback, the two receive loops end alike if there is nothing to drop. -/
theorem receive_simulates_none :
  Simulates (fun w w' => NothingDropped w .updateConnection ∧ Alike k c none w w')
    (Server.processPendingPackets net) (Client.processReceivedPackets net') (Alike k c none) Agree
  := by
  rintro w w' ⟨hnothing, h⟩
  rw [Server.run_processPendingPackets_none h.serverCallback]
  have hlimit := h.limit
  cases hindex : decide (((0 : Nat) : Int) < w'.self.maxProcessedPackets.toInt) with
  | false =>
      rw [Client.processReceivedPackets, run_countedLoop_above _ _ _ hindex]
      exact ⟨rfl, h⟩
  | true =>
      obtain ⟨contents, hpending, hpending'⟩ := h.pending
      have hnil : contents = [] := by
        rcases hnothing h.serverCallback with hnil | hzero
        · rw [hpending] at hnil
          exact List.map_eq_nil_iff.mp hnil
        · rw [decide_eq_true_iff, ← hlimit, hzero] at hindex
          simp at hindex
      subst hnil
      have hanswer := client_answer holdest h.connection h.opened hpending'
      rw [Client.processReceivedPackets, run_countedLoop_below _ _ _ hindex,
        run_bind_ok _ (run_client_none hanswer)]
      exact ⟨rfl, h.client_neutral rfl⟩

/-! ### Updates -/

variable (hdispatch : net.DispatchesQueued) (hdispatch' : net'.DispatchesQueued)

include hdispatch in
/-- Without status events and input, the server has nothing else to process. -/
theorem run_server_dispatch {w : World Server} (hevents : queuedEvents w.trace = [])
    (hinput : w.self.inputQueue = []) :
  (do
      Server.processConnectionStateChanges net
      Server.processUserInput : ServerM Unit).run w
    = .ok () { w with trace := .runCallbacks [] :: w.trace }
  := by
  have hrun := Server.run_processConnectionStateChanges hdispatch w
  rw [hevents] at hrun
  rw [run_bind_ok _ hrun, Server.processUserInput, EStateM.run_bind, EStateM.run_get]
  dsimp only
  rw [hinput]
  rfl

include hdispatch' in
/-- Without status events in the queue the client dispatches none. -/
theorem run_client_dispatch {w : World Client} (hevents : queuedEvents w.trace = []) :
  (Client.processConnectionStateChanges net').run w
    = .ok () { w with trace := .runCallbacks [] :: w.trace }
  := by
  rw [Client.run_processConnectionStateChanges hdispatch', hevents]
  rfl

include hdispatch hdispatch' in
/-- After the packets both endpoints have nothing to do. -/
theorem dispatch_simulates :
  Simulates (Alike k c callback)
    (do
      Server.processConnectionStateChanges net
      Server.processUserInput)
    (Client.processConnectionStateChanges net') (Alike k c callback) Agree
  := by
  intro w w' h
  rw [run_server_dispatch hdispatch h.noEvents h.noInput,
    run_client_dispatch hdispatch' h.noEvents']
  use rfl
  exact h.neutral rfl rfl

include horder holdest hdispatch hdispatch' in
/-- Both updates do the same unless the client drops what the server keeps. -/
theorem update_simulates :
  Simulates (fun w w' => NothingDropped w .updateConnection ∧ Alike k c callback w w')
    (Server.updateConnection net) (Client.updateConnection net') (Alike k c callback) Agree
  := by
  have hreceive : Simulates
      (fun w w' => NothingDropped w .updateConnection ∧ Alike k c callback w w')
      (Server.processPendingPackets net) (Client.processReceivedPackets net')
      (Alike k c callback) Agree := by
    cases callback with
    | none => apply receive_simulates_none holdest
    | some callback =>
        apply (receive_simulates horder holdest callback).of_imp
        intro w w' h
        exact h.2
  have hupdate := hreceive.bind fun _ => dispatch_simulates hdispatch hdispatch'
  intro w w' h
  rw [Server.run_updateConnection_active h.2.active]
  apply hupdate w w' h

include holdest hdispatch' in
/-- Without a packet callback, an update of the client takes the packets its limit allows. -/
theorem run_client_update {w : World Client} {contents : List Content}
    (hconnection : w.self.serverConnection = c) (hopened : Opened c w.trace)
    (hcb : w.self.packetCallback = none)
    (hpending : pending w.trace = contents.map (Content.message c))
    (hevents : queuedEvents w.trace = []) :
  ∃ w', (Client.updateConnection net').run w = .ok () w' ∧
    pending w'.trace = (contents.drop (Client.loopLimit w)).map (Content.message c)
  := by
  obtain ⟨w₁, hrun, hleft, hevents₁⟩ := client_drops holdest 2147483648 0 hconnection hopened hcb
    hpending hevents rfl (Nat.zero_le _)
  have hreceive : (Client.processReceivedPackets net').run w = .ok () w₁ := hrun
  use { w₁ with trace := .runCallbacks [] :: w₁.trace }
  constructor
  · rw [Client.updateConnection, run_bind_ok _ hreceive, run_client_dispatch hdispatch' hevents₁]
  · exact hleft

include holdest hdispatch hdispatch' in
/-- An update without a packet callback that finds packets to drop leaves the endpoints with
different packets pending. -/
theorem update_drops (h : Alike k c callback w w')
    (hdropped : ¬ NothingDropped w .updateConnection) :
  ¬ Agree (exit (Server.updateConnection net) w) (exit (Client.updateConnection net') w')
  := by
  simp only [NothingDropped, Classical.not_imp, not_or] at hdropped
  obtain ⟨hnone, hsome, hzero⟩ := hdropped
  obtain ⟨contents, hpending, hpending'⟩ := h.pending
  have hclient : w'.self.packetCallback = none := by
    have hmap := h.serverCallback
    rw [hnone, eq_comm, Option.map_eq_none_iff] at hmap
    rw [h.clientCallback, hmap, Option.map_none]
  have hserver : (Server.updateConnection net).run w
      = .ok () { w with trace := .runCallbacks [] :: w.trace } := by
    rw [Server.run_updateConnection_active h.active,
      run_bind_ok _ (Server.run_processPendingPackets_none hnone),
      run_server_dispatch hdispatch h.noEvents h.noInput]
  obtain ⟨w₁, hupdate, hleft⟩ := run_client_update holdest hdispatch' h.connection h.opened
    hclient hpending' h.noEvents'
  rw [exit_ok hserver, exit_ok hupdate]
  rintro ⟨-, hagree⟩
  have hafter : contentsPending (.runCallbacks [] :: w.trace) = contents :=
    contentsPending_of_messages hpending
  rw [hafter, contentsPending_of_messages hleft] at hagree
  -- The client has received at least one of the packets that are pending at the server.
  have hlimit : 0 < Client.loopLimit w' := by
    have hpos : w.self.maxProcessedPackets.toNat ≠ 0 := by
      intro htoNat
      apply hzero (UInt32.toNat_inj.mp htoNat)
    have heq := h.limit
    rw [Client.loopLimit]
    omega
  have hnonempty : 0 < contents.length := by
    rw [List.length_pos_iff]
    rintro rfl
    apply hsome hpending
  have hlength := congrArg List.length hagree
  rw [List.length_drop] at hlength
  omega

/-! ### Schedules -/

/-- A step of a schedule at the server. -/
def serverStep (net : ISteamNetworkingSockets) (k : HSteamNetConnection) (s : ScheduleStep) :
    ServerM Unit :=
  Server.step net (s.onServer k)

/-- A step of a schedule at the client. -/
def clientStep (net : ISteamNetworkingSockets) (c : HSteamNetConnection) (s : ScheduleStep) :
    ClientM Unit :=
  Client.step net (s.onClient c)

/-- The same contents arrive at both. -/
theorem Alike.arrived (h : Alike k c callback w w') (content : Content) :
  Alike k c callback { w with trace := .arrived (content.message k) :: w.trace }
    { w' with trace := .arrived (content.message c) :: w'.trace }
  := by
  obtain ⟨hvalid, hconnect, hclose⟩ := h.opened
  obtain ⟨contents, hpending, hpending'⟩ := h.pending
  exact
    { h with
      opened := by
        refine ⟨hvalid, List.mem_cons_of_mem _ hconnect, ?_⟩
        simpa using hclose
      pending := by
        use contents ++ [content]
        rw [List.map_append, List.map_append, ← hpending, ← hpending']
        exact ⟨rfl, rfl⟩ }

include horder holdest hdispatch hdispatch' in
/-- A step ends alike at the two endpoints, unless it is an update that drops packets. -/
theorem step_simulates (s : ScheduleStep) :
  Simulates (fun w w' => NothingDropped w s ∧ ∃ callback, Alike k c callback w w')
    (serverStep net k s) (clientStep net' c s) (fun w w' => ∃ callback, Alike k c callback w w')
    Agree
  := by
  cases s with
  | arrive content =>
      apply Simulates.modify
      rintro w w' ⟨-, callback, h⟩
      use callback
      apply h.arrived
  | setMaxProcessedPackets limit hlimit =>
      apply Simulates.modify
      rintro w w' ⟨-, callback, h⟩
      use callback
      have hsize : limit < UInt32.size := by
        rw [UInt32.size]
        omega
      have heq : ((UInt32.ofNat limit).toNat : Int) = (Int32.ofNat limit).toInt := by
        rw [UInt32.toNat_ofNat_of_lt' hsize, Int32.toInt_ofNat_of_lt (by omega)]
      exact { h with limit := heq }
  | setPacketCallback new =>
      apply Simulates.modify
      rintro w w' ⟨-, callback, h⟩
      use new
      exact { h with serverCallback := rfl, clientCallback := rfl }
  | updateConnection =>
      rintro w w' ⟨hnothing, callback, h⟩
      have hupdate : Simulates _ _ _ (Alike k c callback) Agree :=
        update_simulates horder holdest hdispatch hdispatch'
      exact hupdate.mono (fun _ _ h => h) (fun _ _ h => ⟨callback, h⟩) (fun _ _ h => h) w w'
        ⟨hnothing, h⟩

include horder holdest hdispatch hdispatch' in
/-- From endpoints that are alike, a schedule passes the same packets and leaves the same packets
pending at every point exactly when no update drops packets at the client. -/
theorem schedule_agrees_iff (h : Alike k c callback w w') (steps : List ScheduleStep) :
  (∀ earlier, earlier <+: steps →
      Agree (exit (forM earlier (serverStep net k)) w) (exit (forM earlier (clientStep net' c)) w'))
    ↔ Along (serverStep net k) NothingDropped w steps
  := by
  apply Along.agree_iff (R := fun w w' => ∃ callback, Alike k c callback w w')
  · rintro w w' ⟨callback, h⟩
    exact h.agree
  · apply step_simulates horder holdest hdispatch hdispatch'
  · rintro s w w' ⟨callback, h⟩ hdropped
    cases s with
    | updateConnection => apply update_drops holdest hdispatch hdispatch' h hdropped
    | _ => exact absurd trivial hdropped
  · use callback

end

/-- A client that has connected to a server. -/
def connected : World Client :=
  exit (Client.perform queueNetworking (.initializeConnection "127.0.0.1" 8080)) (newClient 0)

/-- The server that one client has joined and the client that is connected are alike. -/
theorem joined_connected_alike :
  Alike 1 1 none Server.joined connected where
  active := by decide
  held := by decide
  group := rfl
  registered := by decide
  noInput := rfl
  noEvents := rfl
  connection := rfl
  opened := by decide
  noEvents' := rfl
  limit := rfl
  serverCallback := rfl
  clientCallback := rfl
  pending := ⟨[], rfl, rfl⟩
  passed := rfl

/-- A packet arrives after the packet callback has been set, another one before an update. -/
def listening : List ScheduleStep :=
  [.updateConnection, .setPacketCallback (some fun _ _ => .done ()), .arrive ⟨[65], 1⟩,
    .setMaxProcessedPackets 1 (by decide), .arrive ⟨[66], 1⟩, .updateConnection]

/-- Two packets, the second of which arrives just before an update with the limit of one packet. -/
theorem listening_agrees_iff :
  (∀ earlier, earlier <+: listening →
      Agree (exit (forM earlier (serverStep queueNetworking 1)) Server.joined)
        (exit (forM earlier (clientStep queueNetworking 1)) connected))
    ↔ Along (serverStep queueNetworking 1) NothingDropped Server.joined listening
  := schedule_agrees_iff queueNetworking_receivesInOrder queueNetworking_receivesOldest
    queueNetworking_dispatchesQueued queueNetworking_dispatchesQueued joined_connected_alike
    listening

/-- A packet arrives, and an update is made before a packet callback is set. -/
def early : List ScheduleStep :=
  [.arrive ⟨[65], 1⟩, .updateConnection]

/-- The early update receives and drops the packet at the client, but not at the server. -/
theorem early_drops :
  ¬ ∀ earlier, earlier <+: early →
      Agree (exit (forM earlier (serverStep queueNetworking 1)) Server.joined)
        (exit (forM earlier (clientStep queueNetworking 1)) connected)
  := by
  intro h
  have hpending := (h early List.prefix_rfl).2
  revert hpending
  decide

end ReceiveLoops

end Chs
