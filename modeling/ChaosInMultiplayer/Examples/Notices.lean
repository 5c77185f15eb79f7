import ChaosInMultiplayer.Endpoints.StatusEvents
import ChaosInMultiplayer.Examples.ExampleServer
import ChaosInMultiplayer.Server.Broadcast

/-!
# Join and leave notices

What the status callback of the example server sends over any sequence of status changes.  A client
that is accepted and put in the poll group gets a welcome, and every other client that is connected
then gets one join notice.  When a client that was connected leaves, every other client that is
connected then gets one leave notice, after the join notice if there was one.
-/

namespace Chs

theorem sentTo_eq_false_of_not_sends {e : Event} (h : e.sends = false) (j : HSteamNetConnection) :
  e.sentTo j = false
  := by
  cases e <;> first | rfl | cases h

namespace ExampleServer

open Program Server

/-- The sending of a text to a connection. -/
def notice (text : String) (connection : HSteamNetConnection) : Event :=
  .sendMessageToConnection connection (Packet.ofString text).data
    (.ofNat (Packet.ofString text).size) .reliable

/-- The events that send a message to a connection. -/
def messagesTo (connection : HSteamNetConnection) (es : List Event) : List Event :=
  es.filter (Event.sentTo connection)

theorem messagesTo_append (connection : HSteamNetConnection) (es es' : List Event) :
  messagesTo connection (es ++ es') = messagesTo connection es ++ messagesTo connection es'
  := List.filter_append es es'

theorem messagesTo_eq_nil {es : List Event} (h : ∀ e ∈ es, e.sends = false)
    (connection : HSteamNetConnection) :
  messagesTo connection es = []
  := by
  rw [messagesTo, List.filter_eq_nil_iff]
  intro e he
  rw [sentTo_eq_false_of_not_sends (h e he)]
  simp

/-- Among the events, a connection is accepted and put in a poll group. -/
def admits (connection : HSteamNetConnection) (es : List Event) : Bool :=
  decide (.acceptConnection connection true ∈ es) && es.any fun
    | .setConnectionPollGroup c _ true => c = connection
    | _ => false

variable {net : ISteamNetworkingSockets} {k : HSteamNetConnection} {w₀ : World Server}

/-! ### Calls of the status callback -/

/-- While the connection `k` is being handled, its entry is `entry`, the other entries are as before
and the events `es` have happened, in their order. -/
structure Midway (w₀ : World Server) (k : HSteamNetConnection) (entry : Option ClientConnection)
    (es : List Event) (w : World Server) : Prop where
  entry : w.self.connections.lookup k = entry
  elsewhere : ∀ j ≠ k, w.self.connections.lookup j = w₀.self.connections.lookup j
  events : w.trace = es.reverse ++ w₀.trace

variable {entry : Option ClientConnection} {client : ClientConnection} {es : List Event}

/-- A change of the entry that is handled is one step further. -/
theorem Midway.put {w : World Server} (h : Midway w₀ k entry es w) (client : ClientConnection)
    (es' : List Event) :
  Midway w₀ k (some client) (es ++ es') (put w k client (es'.reverse ++ w.trace))
  := by
  constructor
  · apply AList.lookup_insert
  · intro j hj
    rw [Server.put, AList.lookup_insert_ne hj]
    apply h.elsewhere j hj
  · rw [Server.put, h.events]
    simp

theorem Midway.holdsHandles {w : World Server} (h : Midway w₀ k entry es w)
    (hC : HoldsHandles w₀.self.connections)
    (hentry : ∀ client, entry = some client → client.netConnection = k) :
  HoldsHandles w.self.connections
  := by
  intro j c hj
  by_cases hjk : j = k
  · subst hjk
    rw [h.entry] at hj
    apply hentry c hj
  · rw [h.elsewhere j hjk] at hj
    apply hC j c hj

/-- An operation on the entry of `k`, by its answer. -/
theorem onClientConnection_midway {α : Type}
    (f : ClientConnection → Trace → α × ClientConnection × Trace) (next : α → ClientConnection)
    (happened : α → List Event)
    (hf : ∀ t, (f client t).2
      = (next (f client t).1, (happened (f client t).1).reverse ++ t)) :
  Ensures (Midway w₀ k (some client) es) (onClientConnection k f)
    (fun a => Midway w₀ k (some (next a)) (es ++ happened a)) fun _ _ => False
  := by
  apply Ensures.of_run_ok
  intro w hw
  refine ⟨_, _, run_onClientConnection_some hw.entry, ?_⟩
  rw [hf]
  apply hw.put

theorem setAlias_midway (value : String) :
  Ensures (Midway w₀ k (some client) es) (perform net (.setAlias k value))
    (fun _ => Midway w₀ k (some (client.setAlias value)) es) fun _ _ => False
  := by
  have hset := @onClientConnection_midway k w₀ client es Unit
    (fun client t => ((), client.setAlias value, t)) (fun _ => client.setAlias value)
    (fun _ => []) fun _ => rfl
  rw [List.append_nil] at hset
  exact hset

/-- The client after its connection has been accepted or not. -/
def accepted (client : ClientConnection) (ok : Bool) : ClientConnection :=
  if ok then { client with connectionState := .connected } else client

/-- An acceptance while an event is handled. -/
theorem accept_midway :
  Ensures (Midway w₀ k (some client) es) (perform net (.accept k))
    (fun ok => Midway w₀ k (some (accepted client ok))
      (es ++ [.acceptConnection client.netConnection ok])) fun _ _ => False
  := by
  apply onClientConnection_midway (fun client t => client.accept net t) (accepted client)
    fun ok => [.acceptConnection client.netConnection ok]
  intro t
  unfold ClientConnection.accept
  split <;> rfl

/-- The client after it has been put in a poll group or not. -/
def grouped (client : ClientConnection) (group : HSteamNetPollGroup) (ok : Bool) :
    ClientConnection :=
  if ok then { client with pollGroup := some group } else client

/-- A change of the poll group while an event is handled. -/
theorem setPollGroup_midway (group : HSteamNetPollGroup) :
  Ensures (Midway w₀ k (some client) es) (perform net (.setPollGroup k group))
    (fun ok => Midway w₀ k (some (grouped client group ok))
      (es ++ [.setConnectionPollGroup client.netConnection group ok])) fun _ _ => False
  := by
  apply onClientConnection_midway (fun client t => client.setPollGroup net group t)
    (grouped client group) fun ok => [.setConnectionPollGroup client.netConnection group ok]
  intro t
  unfold ClientConnection.setPollGroup
  split <;> rfl

/-- A removal while an event is handled. -/
theorem closeClientConnection_midway :
  Ensures (Midway w₀ k (some client) es) (perform net (.closeClientConnection k))
    (fun _ => Midway w₀ k none (es ++ [.closeConnection client.netConnection])) fun _ _ => False
  := by
  apply Ensures.of_run_ok
  intro w hw
  refine ⟨_, _, run_closeClientConnection_some hw.entry, ?_⟩
  have hput := hw.put (client.close w.trace).1 [.closeConnection client.netConnection]
  constructor
  · apply AList.lookup_erase
  · intro j hj
    rw [drop, AList.lookup_erase_ne hj]
    apply hput.elsewhere j hj
  · apply hput.events

theorem log_midway (level : LogLevel) (text : String) :
  Ensures (Midway w₀ k entry es) (perform net (.log level text))
    (fun _ => Midway w₀ k entry (es ++ [.log level text])) fun _ _ => False
  := by
  apply Ensures.modify
  intro w hw
  refine ⟨hw.entry, hw.elsewhere, ?_⟩
  simp [hw.events]

theorem sendPacket_midway (packet : Packet) (sendType : SendType) :
  Ensures (Midway w₀ k entry es) (perform net (.sendPacket packet client sendType))
    (fun _ => Midway w₀ k entry (es ++ [message packet sendType client])) fun _ _ => False
  := by
  apply Ensures.modify
  intro w hw
  refine ⟨hw.entry, hw.elsewhere, ?_⟩
  simp [hw.events, message]

theorem pollGroup_midway :
  Ensures (Midway w₀ k entry es) (perform net .pollGroup) (fun _ => Midway w₀ k entry es)
    fun _ _ => False
  := Ensures.of_run_ok fun _ hw => ⟨_, _, rfl, hw⟩

theorem clientConnection_midway :
  Ensures (Midway w₀ k (some client) es) (perform net (.clientConnection k))
    (fun found w => found = client ∧ Midway w₀ k (some client) es w) fun _ _ => False
  := Ensures.of_run_ok fun _ hw => ⟨_, _, run_clientConnection_some hw.entry, rfl, hw⟩

theorem connectionExists_midway :
  Ensures (Midway w₀ k entry es) (perform net (.connectionExists k))
    (fun registered w => registered = entry.isSome ∧ Midway w₀ k entry es w) fun _ _ => False
  := by
  apply Ensures.of_run_ok
  intro w hw
  refine ⟨_, w, rfl, ?_, hw⟩
  rw [← hw.entry, Bool.eq_iff_iff, decide_eq_true_iff, AList.lookup_isSome]

theorem assertThat_midway (text : String) :
  Ensures (Midway w₀ k entry es) (perform net (.assertThat true text))
    (fun _ => Midway w₀ k entry es) fun _ _ => False
  := Ensures.of_run_ok fun w hw => ⟨(), w, rfl, hw⟩

/-- A registration while an event is handled. -/
theorem createClientConnection_midway :
  Ensures (Midway w₀ k none es) (perform net (.createClientConnection k))
    (fun _ => Midway w₀ k (some (.construct k)) (es ++ [.registered k])) fun _ _ => False
  := by
  apply Ensures.of_run_ok
  intro w hw
  have hk : k ∉ w.self.connections := AList.lookup_eq_none.mp hw.entry
  refine ⟨(), _, run_createClientConnection_of_notMem hk, ?_⟩
  apply hw.put (.construct k) [.registered k]

/-- A text has been sent once to every connection but `k` that is connected, and to no other. -/
def Announced (C : ClientConnections) (k : HSteamNetConnection) (text : String)
    (sent : List Event) : Prop :=
  ∀ j, messagesTo j sent = if j ≠ k ∧ connectedAt C j then [notice text j] else []

/-- A broadcast while an event is handled goes to the others that are connected. -/
theorem announce_midway (hC : HoldsHandles w₀.self.connections) (hk : client.netConnection = k)
    (text : String) :
  Ensures (Midway w₀ k (some client) es)
    (perform net (.sendPacketToAllConnectedClients (Packet.ofString text) .reliable (some client)))
    (fun _ w => ∃ sent, Announced w₀.self.connections k text sent ∧
      Midway w₀ k (some client) (es ++ sent) w) fun _ _ => False
  := by
  apply Ensures.of_run_ok
  intro w hw
  refine ⟨(), _, run_broadcast .., (recipients (some client) w.self.connections.entries).map
    (message (Packet.ofString text) .reliable), ?_, ⟨hw.entry, hw.elsewhere, ?_⟩⟩
  · have hhandles : HoldsHandles w.self.connections := by
      apply hw.holdsHandles hC
      rintro _ ⟨rfl⟩
      exact hk
    intro j
    rw [messagesTo, broadcast_sentTo hhandles]
    by_cases hjk : j = k
    · simp [hjk, hk]
    · simp [hk, hjk, Ne.symm hjk, connectedAt, hw.elsewhere j hjk, notice]
  · simp [sentTo, hw.events]

/-! ### The status callback -/

/-- What happens to a new connection: either it is admitted and gets a welcome, and every other
connection that is connected gets a join notice, or it ends closed and without an entry, and
nothing is sent. -/
def Joins (C : ClientConnections) (k : HSteamNetConnection) (nick : String)
    (entry : Option ClientConnection) (es : List Event) : Prop :=
  if admits k es then
    (∃ client, entry = some client ∧ client.netConnection = k) ∧
      messagesTo k es = [notice ("Hello " ++ nick ++ "!") k] ∧
      ∀ j ≠ k, messagesTo j es
        = if connectedAt C j then [notice (nick ++ " joined the server!") j] else []
  else
    entry = none ∧ .closeConnection k ∈ es ∧ ∀ e ∈ es, e.sends = false

/-- The messages to a new connection and to the others. -/
theorem Joins.messages {C : ClientConnections} {nick : String} (h : Joins C k nick entry es) :
  messagesTo k es = (if admits k es then [notice ("Hello " ++ nick ++ "!") k] else []) ∧
    ∀ j ≠ k, messagesTo j es
      = if admits k es ∧ connectedAt C j then [notice (nick ++ " joined the server!") j] else []
  := by
  rw [Joins] at h
  split at h
  · rename_i hadmits
    rw [if_pos hadmits]
    use h.2.1
    intro j hj
    rw [h.2.2 j hj]
    simp [hadmits]
  · rename_i hadmits
    rw [if_neg hadmits]
    use messagesTo_eq_nil h.2.2 k
    intro j _
    rw [messagesTo_eq_nil h.2.2]
    simp [hadmits]

theorem Joins.handle {C : ClientConnections} {nick : String} (h : Joins C k nick entry es)
    (client : ClientConnection) (hentry : entry = some client) :
  client.netConnection = k
  := by
  rw [Joins] at h
  split at h
  · obtain ⟨⟨client', hclient', hk⟩, -⟩ := h
    rw [hentry, Option.some.injEq] at hclient'
    rw [hclient', hk]
  · rw [h.1] at hentry
    cases hentry

/-- A refusal closes the connection and sends nothing. -/
theorem refuse_midway (text : String) :
  Ensures (Midway w₀ k (some client) es)
    ((ServerScript.call (.closeClientConnection k) >>= fun _ =>
      ServerScript.call (.log .error text)).run (perform net))
    (fun _ => Midway w₀ k none
      (es ++ [.closeConnection client.netConnection] ++ [.log .error text]))
    fun _ _ => False
  := by
  apply call_bind_ensures closeClientConnection_midway
  intro _
  apply call_ensures (log_midway _ _)

/-- A welcome goes to the new client and its announcement to the others. -/
theorem welcome_midway (hC : HoldsHandles w₀.self.connections) (hk : client.netConnection = k)
    (nick : String) :
  Ensures (Midway w₀ k (some client) es) ((welcome k nick).run (perform net))
    (fun _ w => ∃ sent, Announced w₀.self.connections k (nick ++ " joined the server!") sent ∧
      Midway w₀ k (some client) (es ++ [notice ("Hello " ++ nick ++ "!") k] ++
        [.log .info (nick ++ " joined the server!")] ++ sent) w)
    fun _ _ => False
  := by
  apply call_bind_ensures clientConnection_midway
  intro found
  apply Ensures.of_fact
  rintro rfl
  apply call_bind_ensures (sendPacket_midway _ _)
  intro _
  apply call_bind_ensures (log_midway _ _)
  intro _
  have hwelcome : message (Packet.ofString ("Hello " ++ nick ++ "!")) .reliable found
      = notice ("Hello " ++ nick ++ "!") k := by
    rw [← hk]
    rfl
  rw [hwelcome]
  apply call_ensures (announce_midway hC hk _)

/-- A client that joins is welcomed and announced, or refused. -/
theorem join_joins (hC : HoldsHandles w₀.self.connections) (change : ConnectionStatusChange)
    (nick : String) :
  Ensures (Midway w₀ k (some (.construct k)) [.statusCallback change, .registered k])
    ((join k nick).run (perform net))
    (fun _ w => ∃ entry es, Joins w₀.self.connections k nick entry es ∧ Midway w₀ k entry es w)
    fun _ _ => False
  := by
  apply call_bind_ensures (setAlias_midway nick)
  intro _
  apply call_bind_ensures accept_midway
  intro ok
  cases ok with
  | false =>
      apply (refuse_midway _).imp
      intro _ w hw
      refine ⟨_, _, ?_, hw⟩
      simp [Joins, admits, ClientConnection.setAlias, ClientConnection.construct, accepted,
        Event.sends]
  | true =>
      apply call_bind_ensures pollGroup_midway
      intro group
      apply call_bind_ensures (setPollGroup_midway group)
      intro ok
      cases ok with
      | false =>
          apply (refuse_midway _).imp
          intro _ w hw
          refine ⟨_, _, ?_, hw⟩
          simp [Joins, admits, ClientConnection.setAlias, ClientConnection.construct, accepted,
            grouped, Event.sends]
      | true =>
          have hk : (grouped (accepted ((ClientConnection.construct k).setAlias nick) true) group
              true).netConnection = k := rfl
          apply (welcome_midway hC hk nick).imp
          rintro _ w ⟨sent, hsent, hw⟩
          refine ⟨_, _, ?_, hw⟩
          rw [Joins, if_pos (by simp [admits, ClientConnection.setAlias,
            ClientConnection.construct, accepted])]
          refine ⟨⟨_, rfl, hk⟩, ?_, ?_⟩
          · rw [messagesTo_append, hsent k]
            simp [messagesTo, Event.sentTo, notice]
          · intro j hj
            rw [messagesTo_append, hsent j]
            simp [messagesTo, Event.sentTo, notice, hj, Ne.symm hj]

/-- What happens to a connection that has ended: its entry is closed and removed, and if it was
connected before, every other connection that is connected gets a leave notice. -/
def Leaves (C : ClientConnections) (change : ConnectionStatusChange) (es : List Event) : Prop :=
  ∃ client, C.lookup change.connection = some client ∧
    .closeConnection change.connection ∈ es ∧
    messagesTo change.connection es = [] ∧
    ∀ j ≠ change.connection, messagesTo j es
      = if change.oldStatus = .connected ∧ connectedAt C j then
          [notice (client.connectionAlias ++ " has disconnected.") j]
        else []

/-- A farewell goes to the others, if the client was connected. -/
theorem farewell_midway (hC : HoldsHandles w₀.self.connections)
    {change : ConnectionStatusChange} (hk : client.netConnection = change.connection) :
  Ensures (Midway w₀ change.connection (some client) es)
    ((farewell change client).run (perform net))
    (fun _ w => ∃ sent, messagesTo change.connection sent = [] ∧
      (∀ j ≠ change.connection, messagesTo j sent
        = if change.oldStatus = .connected ∧ connectedAt w₀.self.connections j then
            [notice (client.connectionAlias ++ " has disconnected.") j]
          else []) ∧
      Midway w₀ change.connection (some client) (es ++ sent) w)
    fun _ _ => False
  := by
  unfold farewell
  split
  · rename_i hold
    apply call_bind_ensures (log_midway _ _)
    intro _
    apply call_ensures
    apply (announce_midway hC hk _).imp
    rintro _ w ⟨sent, hsent, hw⟩
    refine ⟨.log .info (client.connectionAlias ++ " has disconnected.") :: sent, ?_, ?_, ?_⟩
    · simpa [messagesTo, Event.sentTo] using hsent change.connection
    · intro j hj
      simpa [messagesTo, Event.sentTo, hj, hold] using hsent j
    · simpa using hw
  · rename_i hold
    apply Ensures.pure
    intro w hw
    refine ⟨[], rfl, ?_, ?_⟩
    · simp [messagesTo, hold]
    · simpa using hw

/-- The handling of a status change: the server tells its status callback. -/
def handle (net : ISteamNetworkingSockets) (rand : Trace → Nat) (change : ConnectionStatusChange) :
    ServerM Unit := do
  emit (.statusCallback change)
  let w ← get
  (connectionStatusChangeCallback rand change w.trace).run (perform net)

variable {rand : Trace → Nat} {change : ConnectionStatusChange}

/-- The server handles a status event as the change it reports. -/
theorem run_onSteamNetConnectionStatusChanged_eq {info : StatusInfo} (hinfo : info.Routed)
    {w : World Server} (hcallback : w.self.connectionStatusChangeCallback
      = some (connectionStatusChangeCallback rand)) :
  (onSteamNetConnectionStatusChanged net info).run w
    = (handle net rand (info.change statusOf)).run w
  := by
  rw [run_onSteamNetConnectionStatusChanged, hcallback, Option.map_some,
    run_passOn (mappings_lookup hinfo.1).1 (mappings_lookup hinfo.2).1]
  rfl

/-- The dispatching of status events in an update handles the changes they report. -/
theorem run_forM_onSteamNetConnectionStatusChanged {infos : List StatusInfo}
    (hinfos : ∀ info ∈ infos, info.Routed) {w : World Server}
    (hcallback : w.self.connectionStatusChangeCallback
      = some (connectionStatusChangeCallback rand)) :
  (forM infos (onSteamNetConnectionStatusChanged net) : ServerM Unit).run w
    = (forM (infos.map (StatusInfo.change statusOf)) (handle net rand) : ServerM Unit).run w
  := by
  induction infos generalizing w with
  | nil => rfl
  | cons info infos ih =>
      have hstep := @run_onSteamNetConnectionStatusChanged_eq net rand info
        (hinfos info List.mem_cons_self) w hcallback
      rw [List.map_cons, List.forM_cons, List.forM_cons, EStateM.run_bind, EStateM.run_bind, hstep]
      cases hrun : (handle net rand (info.change statusOf)).run w with
      | error fault w' => rfl
      | ok a w' =>
          apply ih fun i hi => hinfos i (List.mem_cons_of_mem info hi)
          have hsettings := (@onSteamNetConnectionStatusChanged_moves net info w).keeps_settings.2.1
          rw [exit_ok (hstep.trans hrun)] at hsettings
          rw [hsettings, hcallback]

/-- The connection has been ended by the peer or the network. -/
def Ended (change : ConnectionStatusChange) : Prop :=
  change.currentStatus = .closedByPeer ∨ change.currentStatus = .problemDetectedLocally

/-- The status callback starts. -/
theorem handle_ensures {Q : Unit → World Server → Prop} {E : Fault → World Server → Prop}
    (h : Ensures
      (Midway w₀ change.connection (w₀.self.connections.lookup change.connection)
        [.statusCallback change])
      ((connectionStatusChangeCallback rand change (.statusCallback change :: w₀.trace)).run
        (perform net)) Q E) :
  Ensures (· = w₀) (handle net rand change) Q E
  := by
  rintro w rfl
  exact h { w with trace := .statusCallback change :: w.trace } ⟨rfl, fun _ _ => rfl, rfl⟩

/-- The handling of a connecting event. -/
theorem handle_connecting (hC : HoldsHandles w₀.self.connections)
    (hconnecting : change.currentStatus = .connecting)
    (hk : change.connection ∉ w₀.self.connections) :
  Ensures (· = w₀) (handle net rand change)
    (fun _ w => ∃ entry es,
      Joins w₀.self.connections change.connection
        (nick rand (.statusCallback change :: w₀.trace)) entry es ∧
      Midway w₀ change.connection entry es w) fun _ _ => False
  := by
  apply handle_ensures
  rw [AList.lookup_eq_none.mpr hk]
  simp only [connectionStatusChangeCallback, hconnecting]
  apply call_bind_ensures connectionExists_midway
  intro registered
  apply Ensures.of_fact
  rintro rfl
  apply call_bind_ensures (assertThat_midway _)
  intro _
  apply call_bind_ensures createClientConnection_midway
  intro _
  apply join_joins hC change

/-- The handling of a closing event. -/
theorem handle_closing (hC : HoldsHandles w₀.self.connections) (hended : Ended change)
    (hk : change.connection ∈ w₀.self.connections) :
  Ensures (· = w₀) (handle net rand change)
    (fun _ w => ∃ es, Leaves w₀.self.connections change es ∧
      Midway w₀ change.connection none es w) fun _ _ => False
  := by
  obtain ⟨client, hclient⟩ := Option.isSome_iff_exists.mp (AList.lookup_isSome.mpr hk)
  have hhandle := hC change.connection client hclient
  have hscript : connectionStatusChangeCallback rand change (.statusCallback change :: w₀.trace)
      = onClosing change := by
    rcases hended with h | h <;> simp only [connectionStatusChangeCallback, h]
  apply handle_ensures
  rw [hscript, hclient]
  apply call_bind_ensures connectionExists_midway
  intro registered
  apply Ensures.of_fact
  rintro rfl
  apply call_bind_ensures (assertThat_midway _)
  intro _
  apply call_bind_ensures clientConnection_midway
  intro found
  apply Ensures.of_fact
  rintro rfl
  rw [Script.run_bind]
  apply (farewell_midway hC hhandle).bind
  intro _
  apply Ensures.of_exists
  intro sent
  apply Ensures.of_fact
  intro hown
  apply Ensures.of_fact
  intro hothers
  apply call_ensures
  apply closeClientConnection_midway.imp
  intro _ w hw
  refine ⟨_, ⟨found, hclient, ?_, ?_, ?_⟩, hw⟩
  · simp [hhandle]
  · rw [messagesTo_append, messagesTo_append, hown]
    simp [messagesTo, Event.sentTo]
  · intro j hj
    rw [messagesTo_append, messagesTo_append, hothers j hj]
    simp [messagesTo, Event.sentTo]

/-- Other changes are ignored. -/
theorem handle_other (hconnecting : change.currentStatus ≠ .connecting) (hended : ¬ Ended change) :
  Ensures (· = w₀) (handle net rand change)
    (fun _ => Midway w₀ change.connection (w₀.self.connections.lookup change.connection)
      [.statusCallback change]) fun _ _ => False
  := by
  have hscript : connectionStatusChangeCallback rand change (.statusCallback change :: w₀.trace)
      = pure () := by
    rw [Ended, not_or] at hended
    unfold connectionStatusChangeCallback
    cases h : change.currentStatus with
    | connecting => exact absurd h hconnecting
    | closedByPeer => exact absurd h hended.1
    | problemDetectedLocally => exact absurd h hended.2
    | _ => rfl
  apply handle_ensures
  rw [hscript]
  exact Ensures.pure fun _ hw => hw

/-! ### Sequences of changes -/

instance (change : ConnectionStatusChange) : Decidable (Ended change) :=
  inferInstanceAs (Decidable (_ ∨ _))

/-- The connecting change of a connection is its first one, and it ends at most once. -/
structure Ordered (changes : List ConnectionStatusChange) : Prop where
  connectingFirst : changes.Pairwise fun c c' =>
    c.connection = c'.connection → c'.currentStatus ≠ .connecting
  endedOnce : changes.Pairwise fun c c' => c.connection = c'.connection → Ended c → ¬ Ended c'

/-- A connection that has ended is registered. -/
def EndedRegistered (w : World Server) (change : ConnectionStatusChange) : Prop :=
  Ended change → change.connection ∈ w.self.connections

instance (w : World Server) (change : ConnectionStatusChange) :
    Decidable (EndedRegistered w change) :=
  inferInstanceAs (Decidable (_ → _))

/-- What has happened while a change was handled, in its order. -/
def handledEvents (net : ISteamNetworkingSockets) (rand : Trace → Nat) (w : World Server)
    (change : ConnectionStatusChange) : List Event :=
  let t := (exit (handle net rand change) w).trace
  (t.take (t.length - w.trace.length)).reverse

/-- What happens while the changes are handled one after another, each event with the change being
handled. -/
def log (net : ISteamNetworkingSockets) (rand : Trace → Nat) :
    World Server → List ConnectionStatusChange → List (ConnectionStatusChange × Event)
  | _, [] => []
  | w, change :: changes =>
      (handledEvents net rand w change).map (fun e => (change, e)) ++
        log net rand (exit (handle net rand change) w) changes

/-- The messages to a connection that were sent while a change with the given property was
handled. -/
def messagesAbout (p : ConnectionStatusChange → Bool)
    (entries : List (ConnectionStatusChange × Event)) (connection : HSteamNetConnection) :
    List Event :=
  messagesTo connection ((entries.filter fun entry => p entry.1).map Prod.snd)

/-- The connection `k` is connecting. -/
def joining (k : HSteamNetConnection) (change : ConnectionStatusChange) : Bool :=
  change.connection = k ∧ change.currentStatus = .connecting

/-- The connection `k` has ended. -/
def leaving (k : HSteamNetConnection) (change : ConnectionStatusChange) : Bool :=
  change.connection = k ∧ Ended change

/-- What the handling of a change does. -/
structure Handled (rand : Trace → Nat) (w : World Server) (change : ConnectionStatusChange)
    (entry : Option ClientConnection) (es : List Event) (w' : World Server) : Prop where
  midway : Midway w change.connection entry es w'
  holdsHandles : HoldsHandles w'.self.connections
  joins : change.currentStatus = .connecting → Joins w.self.connections change.connection
    (nick rand (.statusCallback change :: w.trace)) entry es
  leaves : Ended change → entry = none ∧ Leaves w.self.connections change es
  ignores : change.currentStatus ≠ .connecting → ¬ Ended change →
    entry = w.self.connections.lookup change.connection ∧ ∀ e ∈ es, e.sends = false

theorem handledEvents_eq {w w' : World Server} {es : List Event}
    (hrun : (handle net rand change).run w = .ok () w') (hes : w'.trace = es.reverse ++ w.trace) :
  handledEvents net rand w change = es
  := by
  rw [handledEvents, exit_ok hrun, hes]
  simp

/-- A new connection that connects, or a registered one that ends, is handled. -/
theorem handle_handled {w : World Server} (hC : HoldsHandles w.self.connections)
    (hnew : change.currentStatus = .connecting → change.connection ∉ w.self.connections)
    (hended : EndedRegistered w change) :
  ∃ w' entry, (handle net rand change).run w = .ok () w' ∧
    Handled rand w change entry (handledEvents net rand w change) w'
  := by
  have hhandled : Ensures (· = w) (handle net rand change)
      (fun _ w' => ∃ entry es, Handled rand w change entry es w') fun _ _ => False := by
    by_cases hconnecting : change.currentStatus = .connecting
    · apply (handle_connecting hC hconnecting (hnew hconnecting)).imp
      rintro _ w' ⟨entry, es, hjoins, hw'⟩
      refine ⟨entry, es, hw', hw'.holdsHandles hC hjoins.handle, fun _ => hjoins, ?_,
        fun h => absurd hconnecting h⟩
      rintro (h | h) <;> rw [hconnecting] at h <;> cases h
    · by_cases hend : Ended change
      · apply (handle_closing hC hend (hended hend)).imp
        rintro _ w' ⟨es, hleaves, hw'⟩
        exact ⟨none, es, hw', hw'.holdsHandles hC (by simp), fun h => absurd h hconnecting,
          fun _ => ⟨rfl, hleaves⟩, fun _ h => absurd hend h⟩
      · apply (handle_other hconnecting hend).imp
        intro _ w' hw'
        exact ⟨_, _, hw', hw'.holdsHandles hC (hC change.connection),
          fun h => absurd h hconnecting, fun h => absurd h hend,
          fun _ _ => ⟨rfl, by simp [Event.sends]⟩⟩
  have hw := hhandled w rfl
  cases hrun : (handle net rand change).run w with
  | error fault w' =>
      rw [hrun] at hw
      cases hw
  | ok a w' =>
      rw [hrun] at hw
      obtain ⟨entry, es, hhandled⟩ := hw
      rw [handledEvents_eq hrun hhandled.midway.events]
      exact ⟨w', entry, rfl, hhandled⟩

/-- The changes that are left to be handled are in order, no connection is registered before it
connects, and those that end are registered. -/
structure Tracked (net : ISteamNetworkingSockets) (rand : Trace → Nat)
    (changes : List ConnectionStatusChange) (w : World Server) : Prop where
  holdsHandles : HoldsHandles w.self.connections
  ordered : Ordered changes
  new : ∀ change ∈ changes, change.currentStatus = .connecting →
    change.connection ∉ w.self.connections
  endedRegistered : Along (handle net rand) EndedRegistered w changes

theorem mem_iff_of_lookup_eq {C C' : ClientConnections} {j : HSteamNetConnection}
    (h : C'.lookup j = C.lookup j) :
  j ∈ C' ↔ j ∈ C
  := by
  rw [← AList.lookup_isSome, ← AList.lookup_isSome, h]

/-- The next change is handled, and the others are still as they should be. -/
theorem Tracked.next {changes : List ConnectionStatusChange} {w : World Server}
    (h : Tracked net rand (change :: changes) w) :
  ∃ w' entry, (handle net rand change).run w = .ok () w' ∧
    Handled rand w change entry (handledEvents net rand w change) w' ∧
    Tracked net rand changes w'
  := by
  obtain ⟨hended, hrest⟩ := h.endedRegistered
  obtain ⟨w', entry, hrun, hhandled⟩ := handle_handled h.holdsHandles
    (h.new change List.mem_cons_self) hended
  obtain ⟨hfirst, hconnectingFirst⟩ := List.pairwise_cons.mp h.ordered.connectingFirst
  refine ⟨w', entry, hrun, hhandled, hhandled.holdsHandles,
    ⟨hconnectingFirst, (List.pairwise_cons.mp h.ordered.endedOnce).2⟩, ?_, hrest w' hrun⟩
  intro c hc hconnecting
  have hne : c.connection ≠ change.connection := by
    intro heq
    exact hfirst c hc heq.symm hconnecting
  rw [mem_iff_of_lookup_eq (hhandled.midway.elsewhere c.connection hne)]
  apply h.new c (List.mem_cons_of_mem _ hc) hconnecting

/-- The first changes are handled, and the others are tracked from there. -/
theorem Tracked.skip {earlier later : List ConnectionStatusChange} {w : World Server}
    (h : Tracked net rand (earlier ++ later) w) :
  ∃ w', (forM earlier (handle net rand) : ServerM Unit).run w = .ok () w' ∧
    Tracked net rand later w' ∧
    log net rand w (earlier ++ later) = log net rand w earlier ++ log net rand w' later
  := by
  induction earlier generalizing w with
  | nil => exact ⟨w, rfl, h, rfl⟩
  | cons change earlier ih =>
      obtain ⟨w₁, entry, hrun, -, hrest⟩ := h.next
      obtain ⟨w', hrun', hlater, hlog⟩ := ih hrest
      refine ⟨w', ?_, hlater, ?_⟩
      · rw [List.forM_cons, run_bind_ok _ hrun, hrun']
      · rw [List.cons_append, log, log, exit_ok hrun, hlog, List.append_assoc]

theorem Tracked.handled {earlier later : List ConnectionStatusChange} {w : World Server}
    (h : Tracked net rand (earlier ++ change :: later) w₀)
    (hw : exit (forM earlier (handle net rand) : ServerM Unit) w₀ = w) :
  ∃ w' entry, (handle net rand change).run w = .ok () w' ∧
    Handled rand w change entry (handledEvents net rand w change) w' ∧
    Tracked net rand later w'
  := by
  obtain ⟨w₁, hrun, hrest, -⟩ := h.skip
  rw [exit_ok hrun] at hw
  subst hw
  apply hrest.next

/-- What is logged happened while one of the changes was handled. -/
theorem mem_of_mem_log {changes : List ConnectionStatusChange} {w : World Server}
    {entry : ConnectionStatusChange × Event} (h : entry ∈ log net rand w changes) :
  entry.1 ∈ changes
  := by
  induction changes generalizing w with
  | nil => cases h
  | cons change changes ih =>
      rcases List.mem_append.mp h with h | h
      · obtain ⟨e, -, rfl⟩ := List.mem_map.mp h
        apply List.mem_cons_self
      · apply List.mem_cons_of_mem _ (ih h)

/-- Nothing is sent while a change is handled at which no connection connects or ends. -/
theorem Tracked.silent {changes : List ConnectionStatusChange} {w : World Server}
    (h : Tracked net rand changes w) :
  ∀ entry ∈ log net rand w changes,
    entry.1.currentStatus ≠ .connecting → ¬ Ended entry.1 → entry.2.sends = false
  := by
  induction changes generalizing w with
  | nil => simp [log]
  | cons change changes ih =>
      obtain ⟨w', entry, hrun, hhandled, hrest⟩ := h.next
      rw [log, exit_ok hrun]
      intro logged hlogged hconnecting hended
      rcases List.mem_append.mp hlogged with hlogged | hlogged
      · obtain ⟨e, he, rfl⟩ := List.mem_map.mp hlogged
        apply (hhandled.ignores hconnecting hended).2 e he
      · apply ih hrest logged hlogged hconnecting hended

theorem messagesAbout_append (p : ConnectionStatusChange → Bool)
    (entries entries' : List (ConnectionStatusChange × Event)) (j : HSteamNetConnection) :
  messagesAbout p (entries ++ entries') j = messagesAbout p entries j ++ messagesAbout p entries' j
  := by
  rw [messagesAbout, List.filter_append, List.map_append, messagesTo_append]
  rfl

/-- If no change has the property, no messages are about such a change. -/
theorem messagesAbout_log_eq_nil {p : ConnectionStatusChange → Bool}
    {changes : List ConnectionStatusChange} (hp : ∀ c ∈ changes, p c = false) (w : World Server)
    (j : HSteamNetConnection) :
  messagesAbout p (log net rand w changes) j = []
  := by
  have hnone : (log net rand w changes).filter (fun entry => p entry.1) = [] := by
    rw [List.filter_eq_nil_iff]
    intro entry hentry
    rw [hp _ (mem_of_mem_log hentry)]
    simp
  rw [messagesAbout, hnone]
  rfl

/-- The messages about the only change with a property are those sent while it was handled. -/
theorem messagesAbout_log {p : ConnectionStatusChange → Bool}
    {earlier later : List ConnectionStatusChange} {w₀ w : World Server}
    (h : Tracked net rand (earlier ++ change :: later) w₀)
    (hw : exit (forM earlier (handle net rand) : ServerM Unit) w₀ = w) (hp : p change = true)
    (hearlier : ∀ c ∈ earlier, p c = false) (hlater : ∀ c ∈ later, p c = false)
    (j : HSteamNetConnection) :
  messagesAbout p (log net rand w₀ (earlier ++ change :: later)) j
    = messagesTo j (handledEvents net rand w change)
  := by
  obtain ⟨w', hrun, -, hlog⟩ := h.skip
  rw [exit_ok hrun] at hw
  subst hw
  rw [hlog, log, messagesAbout_append, messagesAbout_append, messagesAbout_log_eq_nil hearlier,
    messagesAbout_log_eq_nil hlater, List.nil_append, List.append_nil, messagesAbout,
    List.filter_eq_self.mpr, List.map_map]
  · exact congrArg (messagesTo j) (List.map_id _)
  · intro entry hentry
    obtain ⟨e, -, rfl⟩ := List.mem_map.mp hentry
    exact hp

/-- A connection that is not registered stays out when a change is handled that does not connect
it, and nothing is sent about it. -/
theorem Handled.stays_out {w w' : World Server} {entry : Option ClientConnection}
    {es : List Event} (h : Handled rand w change entry es w') (hk : k ∉ w.self.connections)
    (hended : Ended change → change.connection ∈ w.self.connections)
    (hchange : change.connection = k → change.currentStatus ≠ .connecting) :
  k ∉ w'.self.connections ∧ (change.connection = k → ∀ e ∈ es, e.sends = false)
  := by
  by_cases hkc : change.connection = k
  · subst hkc
    obtain ⟨hentry, hsends⟩ := h.ignores (hchange rfl) fun hend => hk (hended hend)
    constructor
    · rw [mem_iff_of_lookup_eq (h.midway.entry.trans hentry)]
      exact hk
    · exact fun _ => hsends
  · constructor
    · rw [mem_iff_of_lookup_eq (h.midway.elsewhere k (Ne.symm hkc))]
      exact hk
    · exact fun heq => absurd heq hkc

/-- A connection without an entry that does not connect any more stays without an entry, and nothing
is sent while its changes are handled. -/
theorem Tracked.stays_out {changes : List ConnectionStatusChange} {w : World Server}
    (h : Tracked net rand changes w) (hk : k ∉ w.self.connections)
    (hchanges : ∀ c ∈ changes, c.connection = k → c.currentStatus ≠ .connecting) :
  k ∉ (exit (forM changes (handle net rand) : ServerM Unit) w).self.connections ∧
    ∀ entry ∈ log net rand w changes, entry.1.connection = k → entry.2.sends = false
  := by
  induction changes generalizing w with
  | nil =>
      use hk
      simp [log]
  | cons change changes ih =>
      obtain ⟨w', entry, hrun, hhandled, hrest⟩ := h.next
      have hstep := hhandled.stays_out hk h.endedRegistered.1 (hchanges change List.mem_cons_self)
      obtain ⟨hout, hsends⟩ := ih hrest hstep.1 fun c hc => hchanges c (List.mem_cons_of_mem _ hc)
      constructor
      · rw [List.forM_cons, exit_bind_ok _ hrun]
        exact hout
      · rw [log, exit_ok hrun]
        intro logged hlogged hlabel
        rcases List.mem_append.mp hlogged with hlogged | hlogged
        · obtain ⟨e, he, rfl⟩ := List.mem_map.mp hlogged
          apply hstep.2 hlabel e he
        · apply hsends logged hlogged hlabel

/-- Nothing happens at the connecting of a connection after its end. -/
theorem log_ordered {changes : List ConnectionStatusChange} (h : Ordered changes)
    (w : World Server) :
  (log net rand w changes).Pairwise fun entry entry' =>
    entry.1.connection = entry'.1.connection → Ended entry.1 → entry'.1.currentStatus ≠ .connecting
  := by
  induction changes generalizing w with
  | nil => exact List.Pairwise.nil
  | cons change changes ih =>
      obtain ⟨hfirst, hconnectingFirst⟩ := List.pairwise_cons.mp h.connectingFirst
      obtain ⟨-, hendedOnce⟩ := List.pairwise_cons.mp h.endedOnce
      rw [log, List.pairwise_append]
      refine ⟨?_, ih ⟨hconnectingFirst, hendedOnce⟩ _, ?_⟩
      · rw [List.pairwise_map]
        apply List.pairwise_of_forall
        intro _ _ _ hended hconnecting
        rcases hended with hended | hended <;> rw [hended] at hconnecting <;> cases hconnecting
      · intro entry hentry entry' hentry' heq _
        obtain ⟨e, -, rfl⟩ := List.mem_map.mp hentry
        apply hfirst _ (mem_of_mem_log hentry') heq

/-- In the sequence of changes from `w₀`, the change is handled at `w`. -/
def HandledAt (net : ISteamNetworkingSockets) (rand : Trace → Nat) (w₀ : World Server)
    (changes : List ConnectionStatusChange) (change : ConnectionStatusChange) (w : World Server) :
    Prop :=
  ∃ earlier later, changes = earlier ++ change :: later ∧
    exit (forM earlier (handle net rand) : ServerM Unit) w₀ = w

/-- The welcomes and the join and leave notices are all that is sent while the changes are handled:
at the connecting of a connection its welcome and its join notices, at its end its leave notices,
and nothing at any other change. -/
structure Notifies (net : ISteamNetworkingSockets) (rand : Trace → Nat) (w₀ : World Server)
    (changes : List ConnectionStatusChange) : Prop where
  returns : ∃ w, (forM changes (handle net rand) : ServerM Unit).run w₀ = .ok () w
  welcome : ∀ change w, HandledAt net rand w₀ changes change w →
    change.currentStatus = .connecting →
    messagesAbout (joining change.connection) (log net rand w₀ changes) change.connection
      = if admits change.connection (handledEvents net rand w change) then
          [notice ("Hello " ++ nick rand (.statusCallback change :: w.trace) ++ "!")
            change.connection]
        else []
  join : ∀ change w, HandledAt net rand w₀ changes change w →
    change.currentStatus = .connecting → ∀ j ≠ change.connection,
    messagesAbout (joining change.connection) (log net rand w₀ changes) j
      = if admits change.connection (handledEvents net rand w change) ∧
            connectedAt w.self.connections j then
          [notice (nick rand (.statusCallback change :: w.trace) ++ " joined the server!") j]
        else []
  refuse : ∀ change w, HandledAt net rand w₀ changes change w →
    change.currentStatus = .connecting →
    admits change.connection (handledEvents net rand w change) = false →
    .closeConnection change.connection ∈ handledEvents net rand w change ∧
      change.connection ∉
        (exit (forM changes (handle net rand) : ServerM Unit) w₀).self.connections ∧
      ∀ entry ∈ log net rand w₀ changes, entry.1.connection = change.connection →
        entry.2.sends = false
  leave : ∀ change w, HandledAt net rand w₀ changes change w → Ended change →
    messagesAbout (leaving change.connection) (log net rand w₀ changes) change.connection = [] ∧
      ∃ client, w.self.connections.lookup change.connection = some client ∧
        ∀ j ≠ change.connection,
          messagesAbout (leaving change.connection) (log net rand w₀ changes) j
            = if change.oldStatus = .connected ∧ connectedAt w.self.connections j then
                [notice (client.connectionAlias ++ " has disconnected.") j]
              else []
  leaveAfterJoin : (log net rand w₀ changes).Pairwise fun entry entry' =>
    entry.1.connection = entry'.1.connection → Ended entry.1 → entry'.1.currentStatus ≠ .connecting
  neverJoining : ∀ k, (∀ c ∈ changes, joining k c = false) →
    ∀ j, messagesAbout (joining k) (log net rand w₀ changes) j = []
  neverLeaving : ∀ k, (∀ c ∈ changes, leaving k c = false) →
    ∀ j, messagesAbout (leaving k) (log net rand w₀ changes) j = []
  silent : ∀ entry ∈ log net rand w₀ changes,
    entry.1.currentStatus ≠ .connecting → ¬ Ended entry.1 → entry.2.sends = false

/-- The messages about the connecting of a connection are those sent while it was handled. -/
theorem messagesAbout_joining {earlier later : List ConnectionStatusChange} {w : World Server}
    (h : Tracked net rand (earlier ++ change :: later) w₀)
    (hw : exit (forM earlier (handle net rand) : ServerM Unit) w₀ = w)
    (hconnecting : change.currentStatus = .connecting) (j : HSteamNetConnection) :
  messagesAbout (joining change.connection) (log net rand w₀ (earlier ++ change :: later)) j
    = messagesTo j (handledEvents net rand w change)
  := by
  obtain ⟨-, hlater, hcross⟩ := List.pairwise_append.mp h.ordered.connectingFirst
  apply messagesAbout_log h hw
  · simp [joining, hconnecting]
  · intro c hc
    rw [joining, decide_eq_false_iff_not]
    rintro ⟨heq, -⟩
    exact hcross c hc change List.mem_cons_self heq hconnecting
  · intro c hc
    rw [joining, decide_eq_false_iff_not]
    rintro ⟨heq, hc'⟩
    exact (List.pairwise_cons.mp hlater).1 c hc heq.symm hc'

/-- The messages about the end of a connection are those sent while it was handled. -/
theorem messagesAbout_leaving {earlier later : List ConnectionStatusChange} {w : World Server}
    (h : Tracked net rand (earlier ++ change :: later) w₀)
    (hw : exit (forM earlier (handle net rand) : ServerM Unit) w₀ = w) (hended : Ended change)
    (j : HSteamNetConnection) :
  messagesAbout (leaving change.connection) (log net rand w₀ (earlier ++ change :: later)) j
    = messagesTo j (handledEvents net rand w change)
  := by
  obtain ⟨-, hlater, hcross⟩ := List.pairwise_append.mp h.ordered.endedOnce
  apply messagesAbout_log h hw
  · simp [leaving, hended]
  · intro c hc
    rw [leaving, decide_eq_false_iff_not]
    rintro ⟨heq, hc'⟩
    exact hcross c hc change List.mem_cons_self heq hc' hended
  · intro c hc
    rw [leaving, decide_eq_false_iff_not]
    rintro ⟨heq, hc'⟩
    exact (List.pairwise_cons.mp hlater).1 c hc heq.symm hended hc'

/-- A connection that is not admitted ends without an entry, and nothing is sent about it. -/
theorem refused_stays_out {earlier later : List ConnectionStatusChange} {w : World Server}
    (h : Tracked net rand (earlier ++ change :: later) w₀)
    (hw : exit (forM earlier (handle net rand) : ServerM Unit) w₀ = w)
    (hconnecting : change.currentStatus = .connecting)
    (hrefused : admits change.connection (handledEvents net rand w change) = false) :
  .closeConnection change.connection ∈ handledEvents net rand w change ∧
    change.connection ∉ (exit (forM (earlier ++ change :: later) (handle net rand) : ServerM Unit)
      w₀).self.connections ∧
    ∀ entry ∈ log net rand w₀ (earlier ++ change :: later),
      entry.1.connection = change.connection → entry.2.sends = false
  := by
  obtain ⟨w', entry, hrun, hhandled, hrest⟩ := h.handled hw
  have hjoins := hhandled.joins hconnecting
  rw [Joins, if_neg (by simp [hrefused])] at hjoins
  obtain ⟨hentry, hclosed, hsends⟩ := hjoins
  obtain ⟨hlaterFirst, -⟩ := List.pairwise_cons.mp
    (List.pairwise_append.mp h.ordered.connectingFirst).2.1
  have hcross := (List.pairwise_append.mp h.ordered.connectingFirst).2.2
  have hk : change.connection ∉ w'.self.connections := by
    rw [← AList.lookup_eq_none, hhandled.midway.entry, hentry]
  obtain ⟨hout, hlater⟩ := hrest.stays_out hk fun c hc heq => hlaterFirst c hc heq.symm
  obtain ⟨w₁, hrun₁, -, hlog⟩ := h.skip
  rw [exit_ok hrun₁] at hw
  subst hw
  refine ⟨hclosed, ?_, ?_⟩
  · rw [List.forM_append, exit_bind_ok _ hrun₁, List.forM_cons, exit_bind_ok _ hrun]
    exact hout
  · rw [hlog, log, exit_ok hrun]
    intro logged hlogged heq
    rcases List.mem_append.mp hlogged with hlogged | hlogged
    · exact absurd hconnecting (hcross _ (mem_of_mem_log hlogged) change List.mem_cons_self heq)
    · rcases List.mem_append.mp hlogged with hlogged | hlogged
      · obtain ⟨e, he, rfl⟩ := List.mem_map.mp hlogged
        apply hsends e he
      · apply hlater logged hlogged heq

/-- The status callback of the example server sends the welcomes and the join and leave notices. -/
theorem notifies {changes : List ConnectionStatusChange}
    (hhandles : HoldsHandles w₀.self.connections)
    (hnew : ∀ change ∈ changes, change.currentStatus = .connecting →
      change.connection ∉ w₀.self.connections)
    (hordered : Ordered changes) (hended : Along (handle net rand) EndedRegistered w₀ changes) :
  Notifies net rand w₀ changes
  := by
  have htracked : Tracked net rand changes w₀ := ⟨hhandles, hordered, hnew, hended⟩
  constructor
  · have hall : Tracked net rand (changes ++ []) w₀ := by
      rw [List.append_nil]
      exact htracked
    obtain ⟨w, hrun, -⟩ := hall.skip
    exact ⟨w, hrun⟩
  · rintro change w ⟨earlier, later, rfl, hw⟩ hconnecting
    obtain ⟨w', entry, -, hhandled, -⟩ := htracked.handled hw
    rw [messagesAbout_joining htracked hw hconnecting, (hhandled.joins hconnecting).messages.1]
  · rintro change w ⟨earlier, later, rfl, hw⟩ hconnecting j hj
    obtain ⟨w', entry, -, hhandled, -⟩ := htracked.handled hw
    rw [messagesAbout_joining htracked hw hconnecting, (hhandled.joins hconnecting).messages.2 j hj]
  · rintro change w ⟨earlier, later, rfl, hw⟩
    apply refused_stays_out htracked hw
  · rintro change w ⟨earlier, later, rfl, hw⟩ hend
    obtain ⟨w', entry, -, hhandled, -⟩ := htracked.handled hw
    obtain ⟨-, client, hclient, -, hown, hothers⟩ := hhandled.leaves hend
    constructor
    · rw [messagesAbout_leaving htracked hw hend, hown]
    · use client, hclient
      intro j hj
      rw [messagesAbout_leaving htracked hw hend, hothers j hj]
  · apply log_ordered hordered
  · intro k hk
    apply messagesAbout_log_eq_nil hk
  · intro k hk
    apply messagesAbout_log_eq_nil hk
  · apply htracked.silent

/-- Two clients join, the second one leaves after it was connected. -/
def visiting : List ConnectionStatusChange :=
  [⟨1, .none, .connecting⟩, ⟨1, .connecting, .connected⟩, ⟨2, .none, .connecting⟩,
    ⟨2, .connecting, .connected⟩, ⟨2, .connected, .closedByPeer⟩]

/-- The example server, opened. -/
def openedServer : World Server :=
  exit (runSteps queueNetworking (opening (fun _ _ => some "") fun _ => 0))
    (newServer "127.0.0.1" 8080 0 0)

/-- Two clients join, and the second one leaves again. -/
theorem visiting_notifies :
  Notifies queueNetworking (fun _ => 0) openedServer visiting
  := by
  apply notifies
  · intro k c hk
    cases hk
  · intro change _ _ hmem
    cases hmem
  · constructor
    · decide
    · decide
  · decide +kernel

/-- Two clients join, the second one leaves while it is still connecting. -/
def leavingEarly : List ConnectionStatusChange :=
  [⟨1, .none, .connecting⟩, ⟨2, .none, .connecting⟩, ⟨2, .connecting, .closedByPeer⟩]

/-- The first client, which is connected, gets no leave notice. -/
theorem leavingEarly_silent :
  Ordered leavingEarly ∧
    Along (handle queueNetworking fun _ => 0) EndedRegistered openedServer leavingEarly ∧
    ∃ w, HandledAt queueNetworking (fun _ => 0) openedServer leavingEarly
        ⟨2, .connecting, .closedByPeer⟩ w ∧
      connectedAt w.self.connections 1 ∧
      messagesAbout (leaving 2) (log queueNetworking (fun _ => 0) openedServer leavingEarly) 1 = []
  := by
  refine ⟨⟨by decide, by decide⟩, by decide +kernel, _,
    ⟨[⟨1, .none, .connecting⟩, ⟨2, .none, .connecting⟩], [], rfl, rfl⟩, ?_, ?_⟩
  · decide +kernel
  · decide +kernel

end ExampleServer

end Chs
