import ChaosInMultiplayer.Program.Ensures
import ChaosInMultiplayer.Server.Receive

/-!
# The example server

The callbacks of the example server and its main function.  The status callback registers a
connection at its first event and removes it when the peer or the network ends it.  It
returns on a connecting event of a connection that is not registered, and on a closing event
of one that is, and in both cases it leaves the other entries of the registry alone.
-/

namespace Chs

namespace ExampleServer

open ServerScript

/-- What the log reads at the buffer of a packet, which it takes to end with a null: nothing where
the packet has no null and the log comes out of the memory the program may read. -/
abbrev BufferText := Packet → Trace → Option String

/-- The packet callback. -/
def packetCallback (text : BufferText) : PacketCallback := fun _ packet t =>
  match text packet t with
  | some text => call (.log .info ("Received: " ++ text))
  | none => call .readOutside

/-- The packet callback makes one call: it logs a message or reads out of bounds. -/
theorem packetCallback_cases {text : BufferText} {P : ServerScript Unit → Prop}
    (hlog : ∀ message, P (call (.log .info message))) (houtside : P (call .readOutside))
    (k : HSteamNetConnection) (packet : Packet) (t : Trace) :
  P (packetCallback text k packet t)
  := by
  unfold packetCallback
  split
  · apply hlog
  · exact houtside

/-- The name of a client; `rand` gives the random numbers. -/
def nick (rand : Trace → Nat) (t : Trace) : String :=
  "BraveWarrior" ++ toString (10000 + rand t % 100000)

/-- The message to the other clients when a client that was connected leaves. -/
def farewell (change : ConnectionStatusChange) (clientConnection : ClientConnection) :
    ServerScript Unit :=
  if change.oldStatus = .connected then do
    let disconnectMessage := clientConnection.connectionAlias ++ " has disconnected."
    let packet := Packet.ofString disconnectMessage
    call (.log .info disconnectMessage)
    call (.sendPacketToAllConnectedClients packet .reliable (some clientConnection))
  else
    return ()

/-- The status callback at a connection that the peer or the network has ended. -/
def onClosing (change : ConnectionStatusChange) : ServerScript Unit := do
  let registered ← call (.connectionExists change.connection)
  call (.assertThat registered "Connection should be registered before")
  let clientConnection ← call (.clientConnection change.connection)
  farewell change clientConnection
  call (.closeClientConnection change.connection)

/-- The messages at the arrival of a client that has been accepted. -/
def welcome (connection : HSteamNetConnection) (nick : String) : ServerScript Unit := do
  let clientConnection : ClientConnection ← call (.clientConnection connection)
  let welcomePacket := Packet.ofString ("Hello " ++ nick ++ "!")
  call (.sendPacket welcomePacket clientConnection .reliable)
  let connectionNotification := nick ++ " joined the server!"
  call (.log .info connectionNotification)
  let notificationPacket := Packet.ofString connectionNotification
  call
    (.sendPacketToAllConnectedClients notificationPacket .reliable (some clientConnection))

/-- What the status callback does with a connection it has registered. -/
def join (connection : HSteamNetConnection) (nick : String) : ServerScript Unit := do
  call (.setAlias connection nick)
  let accepted ← call (.accept connection)
  if !accepted then
    call (.closeClientConnection connection)
    call (.log .error "Can't accept connection. (It was already closed?)")
  else
    let group ← call .pollGroup
    let grouped ← call (.setPollGroup connection group)
    if !grouped then
      call (.closeClientConnection connection)
      call (.log .error "Failed to set poll group?")
    else
      welcome connection nick

/-- The status callback at a new connection. -/
def onConnecting (nick : String) (change : ConnectionStatusChange) : ServerScript Unit := do
  let registered ← call (.connectionExists change.connection)
  call
    (.assertThat (!registered) "!server.connectionExists(connection_status_change.connection)")
  call (.createClientConnection change.connection)
  join change.connection nick

/-- The status callback. -/
def connectionStatusChangeCallback (rand : Trace → Nat) : ConnectionStatusChangeCallback :=
  fun change t =>
    match change.currentStatus with
    | .closedByPeer => onClosing change
    | .problemDetectedLocally => onClosing change
    | .connecting => onConnecting (nick rand t) change
    | _ => return ()

/-- What the main function does before its loop. -/
def opening (text : BufferText) (rand : Trace → Nat) : List ServerStep :=
  [.setPacketCallback (some (packetCallback text)),
    .setConnectionStatusChangeCallback (some (connectionStatusChangeCallback rand)),
    .openConnection]

/-- The steps of the network, of the console and of the main function from its loop on. -/
def OfLoop : ServerStep → Prop
  | .arrive _ => True
  | .queue _ => True
  | .enter _ => True
  | .updateConnection => True
  | .call c => c = .closeConnection
  | _ => False

open Program Server

variable {net : ISteamNetworkingSockets} {k : HSteamNetConnection} {w₀ : World Server}

/-! ### Handling a connection -/

/-- No connection but `k` has been registered or removed. -/
structure Touches (k : HSteamNetConnection) (w w' : World Server) : Prop where
  elsewhere : ∀ j ≠ k, (j ∈ w'.self.connections ↔ j ∈ w.self.connections)
  goesOn : w.trace ⊆ w'.trace

instance : Std.Refl (Touches k) where
  refl _ := ⟨fun _ _ => Iff.rfl, List.Subset.refl _⟩

instance : IsTrans (World Server) (Touches k) where
  trans _ _ _ h h' :=
    ⟨fun j hj => (h'.elsewhere j hj).trans (h.elsewhere j hj), List.Subset.trans h.goesOn h'.goesOn⟩

/-- The connection `k` is being handled: it is registered. -/
structure Handling (k : HSteamNetConnection) (w w' : World Server) : Prop
    extends Touches k w w' where
  registered : k ∈ w'.self.connections

theorem Handling.put {w w' : World Server} (h : Touches k w w') (client : ClientConnection)
    {t : Trace} (ht : w'.trace ⊆ t) :
  Handling k w (put w' k client t)
  := by
  constructor
  · constructor
    · intro j hj
      rw [← h.elsewhere j hj, Server.put, AList.mem_insert]
      simp [hj]
    · apply List.Subset.trans h.goesOn ht
  · simp [Server.put]

/-- An operation on the entry of a connection that is being handled. -/
theorem onClientConnection_ensures {α : Type}
    {f : ClientConnection → Trace → α × ClientConnection × Trace}
    (hf : ∀ client t, t ⊆ (f client t).2.2) :
  Ensures (Handling k w₀) (onClientConnection k f) (fun _ => Handling k w₀) fun _ _ => False
  := by
  apply Ensures.of_run_ok
  intro w hw
  obtain ⟨client, hclient⟩ := Option.isSome_iff_exists.mp (AList.lookup_isSome.mpr hw.registered)
  refine ⟨_, _, run_onClientConnection_some hclient, ?_⟩
  apply Handling.put hw.toTouches _ (hf client w.trace)

/-- Closing and removing the connection that is handled touches no other entry. -/
theorem closeClientConnection_ensures :
  Ensures (Handling k w₀) (closeClientConnection k) (fun _ => Touches k w₀) fun _ _ => False
  := by
  apply Ensures.of_run_ok
  intro w hw
  obtain ⟨client, hclient⟩ := Option.isSome_iff_exists.mp (AList.lookup_isSome.mpr hw.registered)
  refine ⟨_, _, run_closeClientConnection_some hclient, ?_⟩
  have hput := Handling.put hw.toTouches (client.close w.trace).1
    (List.subset_cons_self (.closeConnection client.netConnection) w.trace)
  constructor
  · intro j hj
    rw [← hput.elsewhere j hj, drop, AList.mem_erase]
    exact and_iff_right hj
  · apply hput.goesOn

theorem Touches.idle {w w' : World Server} (h : Touches k w₀ w) (hsame : SameServer w w')
    (hsub : w.trace ⊆ w'.trace) :
  Touches k w₀ w'
  := by
  constructor
  · rw [hsame]
    apply h.elsewhere
  · apply List.Subset.trans h.goesOn hsub

theorem Handling.idle {w w' : World Server} (h : Handling k w₀ w) (hsame : SameServer w w')
    (hsub : w.trace ⊆ w'.trace) :
  Handling k w₀ w'
  := by
  use h.toTouches.idle hsame hsub
  rw [hsame]
  apply h.registered

/-- A call that is about no entry keeps what depends on the server and on what has happened
at least. -/
theorem idle_ensures {P : World Server → Prop}
    (hP : ∀ {w w'}, P w → SameServer w w' → w.trace ⊆ w'.trace → P w') {c : ServerCall}
    (ht : target c = none) (hc : c ≠ .closeConnection)
    (hraises : Raises (fun _ => True) (fun _ => False) (perform net c)) :
  Ensures P (perform net c) (fun _ => P) fun _ _ => False
  := by
  have hmoves : Moves (fun w w' => SameServer w w' ∧ w.trace ⊆ w'.trace) (perform net c) := by
    intro w
    use perform_idle c ht hc w
    have hmoves : Moves (AnyEffects net) (perform net c) := perform_moves c (permits_all _ c)
    apply (hmoves w).goesOnBy.subset
  apply Ensures.of_moves hmoves
  · exact hraises.mono (fun _ _ => trivial) fun _ h => h
  · rintro w w' _ hw ⟨hsame, hsub⟩
    apply hP hw hsame hsub
  · intro _ _ _ _ _ h
    apply h

section

variable {P : World Server → Prop}
  (hP : ∀ {w w'}, P w → SameServer w w' → w.trace ⊆ w'.trace → P w')

include hP

theorem log_ensures (level : LogLevel) (text : String) :
  Ensures P (perform net (.log level text)) (fun _ => P) fun _ _ => False
  := idle_ensures hP rfl (by simp) (.modify _)

theorem pollGroup_ensures :
  Ensures P (perform net .pollGroup) (fun _ => P) fun _ _ => False
  := idle_ensures hP rfl (by simp) (.of_run_ok fun w _ => ⟨_, _, rfl⟩)

theorem sendPacket_ensures (packet : Packet) (client : ClientConnection) (sendType : SendType) :
  Ensures P (perform net (.sendPacket packet client sendType)) (fun _ => P) fun _ _ => False
  := idle_ensures hP rfl (by simp) (.modify _)

theorem sendPacketToAll_ensures (packet : Packet) (sendType : SendType)
    (except : Option ClientConnection) :
  Ensures P (perform net (.sendPacketToAllConnectedClients packet sendType except)) (fun _ => P)
    fun _ _ => False
  := idle_ensures hP rfl (by simp) (sendPacketToAllConnectedClientsImpl_raises _ _ _)

end

theorem clientConnection_ensures :
  Ensures (Handling k w₀) (perform net (.clientConnection k)) (fun _ => Handling k w₀)
    fun _ _ => False
  := by
  apply Ensures.of_run_ok
  intro w hw
  obtain ⟨client, hclient⟩ := Option.isSome_iff_exists.mp (AList.lookup_isSome.mpr hw.registered)
  exact ⟨client, w, run_clientConnection_some hclient, hw⟩

theorem setAlias_ensures (value : String) :
  Ensures (Handling k w₀) (perform net (.setAlias k value)) (fun _ => Handling k w₀)
    fun _ _ => False
  := onClientConnection_ensures (f := fun client t => ((), client.setAlias value, t))
      fun _ _ => List.Subset.refl _

theorem accept_ensures :
  Ensures (Handling k w₀) (perform net (.accept k)) (fun _ => Handling k w₀) fun _ _ => False
  := by
  apply onClientConnection_ensures (f := fun client t => client.accept net t)
  intro client t
  obtain ⟨-, -, ok, ht⟩ := accept_entry net client t
  rw [ht]
  apply List.subset_cons_self

theorem setPollGroup_ensures (group : HSteamNetPollGroup) :
  Ensures (Handling k w₀) (perform net (.setPollGroup k group)) (fun _ => Handling k w₀)
    fun _ _ => False
  := by
  apply onClientConnection_ensures (f := fun client t => client.setPollGroup net group t)
  intro client t
  obtain ⟨-, -, ht⟩ := setPollGroup_entry net client group t
  rw [ht]
  apply List.subset_cons_self

/-- A call followed by more calls. -/
theorem call_bind_ensures {α : Type} {c : ServerCall} {f : c.Answer → ServerScript α}
    {P : World Server → Prop} {R : c.Answer → World Server → Prop} {Q : α → World Server → Prop}
    {E : Fault → World Server → Prop} (hc : Ensures P (perform net c) R E)
    (hf : ∀ a, Ensures (R a) ((f a).run (perform net)) Q E) :
  Ensures P ((call c >>= f).run (perform net)) Q E
  := by
  rw [Script.run_bind, call, Script.run_request]
  apply hc.bind hf

theorem call_ensures {c : ServerCall} {P : World Server → Prop}
    {Q : c.Answer → World Server → Prop} {E : Fault → World Server → Prop}
    (h : Ensures P (perform net c) Q E) :
  Ensures P ((call c).run (perform net)) Q E
  := by
  rw [call, Script.run_request]
  apply h

/-! ### The status callback -/

/-- The farewell touches no other entry and never fails. -/
theorem farewell_ensures (change : ConnectionStatusChange) (client : ClientConnection) :
  Ensures (Handling k w₀) ((farewell change client).run (perform net)) (fun _ => Handling k w₀)
    fun _ _ => False
  := by
  unfold farewell
  split
  · apply call_bind_ensures (log_ensures Handling.idle _ _)
    intro _
    apply call_ensures (sendPacketToAll_ensures Handling.idle _ _ _)
  · exact Ensures.pure fun _ hw => hw

/-- The welcome touches no other entry and never fails. -/
theorem welcome_ensures (nick : String) :
  Ensures (Handling k w₀) ((welcome k nick).run (perform net)) (fun _ => Handling k w₀)
    fun _ _ => False
  := by
  apply call_bind_ensures clientConnection_ensures
  intro client
  apply call_bind_ensures (sendPacket_ensures Handling.idle _ _ _)
  intro _
  apply call_bind_ensures (log_ensures Handling.idle _ _)
  intro _
  apply call_ensures (sendPacketToAll_ensures Handling.idle _ _ _)

/-- A refusal removes the entry and never fails. -/
theorem refuse_ensures (text : String) :
  Ensures (Handling k w₀)
    ((call (.closeClientConnection k) >>= fun _ => call (.log .error text)).run (perform net))
    (fun _ => Touches k w₀) fun _ _ => False
  := by
  apply call_bind_ensures closeClientConnection_ensures
  intro _
  apply call_ensures (log_ensures Touches.idle _ _)

/-- A connection that has just been registered is admitted or removed, and no call fails. -/
theorem join_ensures (nick : String) :
  Ensures (Handling k w₀) ((join k nick).run (perform net)) (fun _ => Touches k w₀)
    fun _ _ => False
  := by
  apply call_bind_ensures (setAlias_ensures nick)
  intro _
  apply call_bind_ensures accept_ensures
  intro accepted
  cases accepted with
  | false => apply refuse_ensures
  | true =>
      apply call_bind_ensures (pollGroup_ensures Handling.idle)
      intro group
      apply call_bind_ensures (setPollGroup_ensures group)
      intro grouped
      cases grouped with
      | false => apply refuse_ensures
      | true => exact (welcome_ensures nick).imp fun _ _ h => h.toTouches

theorem connectionExists_ensures :
  Ensures (· = w₀) (perform net (.connectionExists k))
    (fun registered w => registered = decide (k ∈ w₀.self.connections) ∧ w = w₀) fun _ _ => False
  := by
  apply Ensures.of_run_ok
  rintro w rfl
  exact ⟨_, w, rfl, rfl, rfl⟩

theorem assertThat_ensures {condition : Bool} (hc : condition = true) (text : String) :
  Ensures (· = w₀) (perform net (.assertThat condition text)) (fun _ w => w = w₀) fun _ _ => False
  := by
  subst hc
  apply Ensures.of_run_ok
  rintro w rfl
  exact ⟨_, w, rfl, rfl⟩

theorem createClientConnection_ensures (hk : k ∉ w₀.self.connections) :
  Ensures (· = w₀) (perform net (.createClientConnection k))
    (fun _ w => w = Server.put w₀ k (.construct k) (.registered k :: w₀.trace)) fun _ _ => False
  := by
  apply Ensures.of_run_ok
  rintro w rfl
  exact ⟨_, _, run_createClientConnection_of_notMem hk, rfl⟩

/-- The status callback registers a connection that is not registered. -/
theorem onConnecting_ensures (nick : String) {change : ConnectionStatusChange}
    (hk : change.connection ∉ w₀.self.connections) :
  Ensures (· = w₀) ((onConnecting nick change).run (perform net))
    (fun _ w => Touches change.connection w₀ w ∧ .registered change.connection ∈ w.trace)
    fun _ _ => False
  := by
  apply call_bind_ensures connectionExists_ensures
  intro registered
  apply Ensures.of_fact
  rintro rfl
  apply call_bind_ensures (assertThat_ensures (by simp [hk]) _)
  intro _
  apply call_bind_ensures (createClientConnection_ensures hk)
  intro _
  have hput := Handling.put (Std.Refl.refl (r := Touches change.connection) w₀)
    (.construct change.connection)
    (List.subset_cons_self (.registered change.connection) w₀.trace)
  apply (join_ensures nick).mono
  · rintro w rfl
    constructor
    · exact Std.Refl.refl _
    · apply hput.registered
  · intro _ w hw
    constructor
    · apply IsTrans.trans _ _ _ hput.toTouches hw
    · apply hw.goesOn List.mem_cons_self
  · intro _ _ h
    apply h

/-- The status callback closes and removes a connection that is registered. -/
theorem onClosing_ensures {change : ConnectionStatusChange}
    (hk : change.connection ∈ w₀.self.connections) :
  Ensures (· = w₀) ((onClosing change).run (perform net))
    (fun _ => Touches change.connection w₀) fun _ _ => False
  := by
  apply call_bind_ensures connectionExists_ensures
  intro registered
  apply Ensures.of_fact
  rintro rfl
  apply call_bind_ensures (assertThat_ensures (by simp [hk]) _)
  intro _
  apply Ensures.of_pre (R := Handling change.connection w₀)
  · apply call_bind_ensures clientConnection_ensures
    intro client
    rw [Script.run_bind]
    apply (farewell_ensures change client).bind
    intro _
    apply call_ensures closeClientConnection_ensures
  · rintro w rfl
    exact ⟨Std.Refl.refl _, hk⟩

end ExampleServer

end Chs
