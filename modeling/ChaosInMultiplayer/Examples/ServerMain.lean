import ChaosInMultiplayer.Endpoints.StatusEvents
import ChaosInMultiplayer.Examples.EventOrder
import ChaosInMultiplayer.Program.Routine
import ChaosInMultiplayer.Server.Callbacks
import ChaosInMultiplayer.Server.Membership

/-!
# The main function of the example server

The main function sets the callbacks, opens the server, updates it until it has been asked to quit,
and closes it.  Meanwhile messages arrive, status events are queued and lines are entered on the
console.  Neither its packet callback nor its status callback closes the server, so it serves as it
has been opened until it reads `/quit`; it can only fail at a status event or at a packet whose
buffer it cannot read as text, and when it returns nothing is left open.
-/

namespace Chs

namespace ExampleServer

open Program Server ServerScript

variable {net : ISteamNetworkingSockets} {text : BufferText} {rand : Trace → Nat}

/-- Where the main function has got. -/
inductive MainPoint where
  | constructed
  | receiving
  | configured
  | looping
  | closed
  deriving DecidableEq

/-- The main function: `while (!server.quitRequested()) server.updateConnection()` between the
opening of the server and its closing. -/
def main (text : BufferText) (rand : Trace → Nat) :
    Routine MainPoint ServerStep (World Server) := fun w point =>
  match point with
  | .constructed => some (.setPacketCallback (some (packetCallback text)), .receiving)
  | .receiving =>
      some (.setConnectionStatusChangeCallback (some (connectionStatusChangeCallback rand)),
        .configured)
  | .configured => some (.openConnection, .looping)
  | .looping =>
      if w.self.quitRequested then some (.call .closeConnection, .closed)
      else some (.updateConnection, .looping)
  | .closed => none

/-- What happens outside the main function. -/
def Outside (_ : World Server) : ServerStep → Prop
  | .arrive _ => True
  | .queue _ => True
  | .enter _ => True
  | _ => False

instance (w : World Server) (s : ServerStep) : Decidable (Outside w s) :=
  match s with
  | .arrive _ => .isTrue trivial
  | .queue _ => .isTrue trivial
  | .enter _ => .isTrue trivial
  | .setMaxProcessedPackets _ => .isFalse id
  | .setPacketCallback _ => .isFalse id
  | .setConnectionStatusChangeCallback _ => .isFalse id
  | .openConnection => .isFalse id
  | .updateConnection => .isFalse id
  | .call _ => .isFalse id

/-- The steps of the main function are its own. -/
theorem main_not_outside {point point' : MainPoint} {s : ServerStep} {w : World Server}
    (h : main text rand w point = some (s, point')) :
  ¬ Outside w s
  := by
  cases point with
  | looping =>
      cases hquit : w.self.quitRequested with
      | true =>
          simp only [main, hquit, if_true] at h
          cases h
          exact id
      | false =>
          simp only [main, hquit] at h
          cases h
          exact id
  | closed => cases h
  | _ =>
      cases h
      exact id

theorem run_outside {s : ServerStep} {w : World Server} (hs : Outside w s) :
  (step net s).run w = .ok () (exit (step net s) w)
  := by
  cases s <;> first | rfl | cases hs

/-! ### Callbacks that leave the server open -/

theorem call_only {P : ServerCall → Prop} {c : ServerCall} (hc : P c) :
  (call c).Only P
  := Script.only_request hc

theorem farewell_leavesOpen (change : ConnectionStatusChange) (client : ClientConnection) :
  (farewell change client).Only (· ≠ .closeConnection)
  := by
  unfold farewell
  split
  · apply (call_only (by simp)).bind
    intro _
    apply call_only (by simp)
  · trivial

/-- At a closing event the server is not closed. -/
theorem onClosing_leavesOpen (change : ConnectionStatusChange) :
  (onClosing change).Only (· ≠ .closeConnection)
  := by
  apply (call_only (by simp)).bind
  intro registered
  apply (call_only (by simp)).bind
  intro _
  apply (call_only (by simp)).bind
  intro client
  apply (farewell_leavesOpen change client).bind
  intro _
  apply call_only (by simp)

theorem welcome_leavesOpen (connection : HSteamNetConnection) (nick : String) :
  (welcome connection nick).Only (· ≠ .closeConnection)
  := by
  apply (call_only (by simp)).bind
  intro client
  apply (call_only (by simp)).bind
  intro _
  apply (call_only (by simp)).bind
  intro _
  apply call_only (by simp)

theorem refuse_leavesOpen (connection : HSteamNetConnection) (reason : String) :
  (call (.closeClientConnection connection) >>= fun _ => call (.log .error reason)).Only
    (· ≠ .closeConnection)
  := by
  apply (call_only (by simp)).bind
  intro _
  apply call_only (by simp)

theorem join_leavesOpen (connection : HSteamNetConnection) (nick : String) :
  (join connection nick).Only (· ≠ .closeConnection)
  := by
  apply (call_only (by simp)).bind
  intro _
  apply (call_only (by simp)).bind
  intro accepted
  cases accepted with
  | false => apply refuse_leavesOpen
  | true =>
      apply (call_only (by simp)).bind
      intro group
      apply (call_only (by simp)).bind
      intro grouped
      cases grouped with
      | false => apply refuse_leavesOpen
      | true => apply welcome_leavesOpen

/-- At a connecting event the server is not closed. -/
theorem onConnecting_leavesOpen (nick : String) (change : ConnectionStatusChange) :
  (onConnecting nick change).Only (· ≠ .closeConnection)
  := by
  apply (call_only (by simp)).bind
  intro registered
  apply (call_only (by simp)).bind
  intro _
  apply (call_only (by simp)).bind
  intro _
  apply join_leavesOpen

/-- The status callback never closes the server. -/
theorem connectionStatusChangeCallback_leavesOpen (rand : Trace → Nat)
    (change : ConnectionStatusChange) (t : Trace) :
  (connectionStatusChangeCallback rand change t).Only (· ≠ .closeConnection)
  := by
  unfold connectionStatusChangeCallback
  split
  · apply onClosing_leavesOpen
  · apply onClosing_leavesOpen
  · apply onConnecting_leavesOpen
  · trivial

/-! ### Updates of an open server -/

/-- Everything is allowed but the closing of the server. -/
def unclosing : Allowed :=
  ⟨False, True, fun _ => true⟩

/-- Scripts that do not close the server have effects that leave it open. -/
theorem script_unclosing {s : ServerScript Unit} (hs : s.Only (· ≠ .closeConnection)) :
  Moves (Effects net unclosing) (s.run (perform net))
  := script_moves (hs.mono fun _ hc => ⟨hc, fun _ => trivial⟩)

/-- The packet callback of the example server leaves the server open. -/
theorem Installed.leavesOpen {w : World Server} (h : Installed text rand w) :
  PacketCallbackLeavesOpen w
  := by
  intro callback hcallback k packet t
  rw [h.packetCallback, Option.some.injEq] at hcallback
  subst hcallback
  exact packetCallback_cases (fun _ => call_only (by simp)) (call_only (by simp)) k packet t

/-- The receive loop leaves the server open. -/
theorem processPendingPackets_unclosing {w : World Server} (hw : Installed text rand w) :
  Effects net unclosing w (exit (processPendingPackets net) w)
  := by
  have hmoves : Moves (PacketEffects net False True) (processPendingPackets net) :=
    processPendingPackets_moves
  apply (hmoves w hw.leavesOpen.permits).mono
  exact ⟨id, id, fun _ _ => rfl⟩

/-- The example server while it receives packets. -/
structure ReceivingText (text : BufferText) (rand : Trace → Nat) (w : World Server) : Prop
    extends Receiving w where
  installed : Installed text rand w
  limit : w.self.maxProcessedPackets.toNat ≤ 2147483647

/-- Receiving a packet keeps the members of the poll groups registered. -/
theorem receivePacket_keeps (hnet : net.RefusesClosed) :
  Keeps (ReceivingText text rand) (receivePacket net)
  := by
  intro w hw
  have heffects := receivePacket_effects net w
  refine ⟨receivePacket_keeps_receiving hnet w hw.toReceiving, hw.installed.effects heffects, ?_⟩
  rw [heffects.keeps_settings.2.2]
  apply hw.limit

/-- What goes wrong at a packet: the log reads out of bounds at the packet of the message that has
just been received. -/
structure FailsAtPacket (net : ISteamNetworkingSockets) (text : BufferText) (fault : Fault)
    (w : World Server) : Prop where
  fault : fault = .outOfBounds
  received : ∃ m group t, group ∈ heldPollGroups t ∧
    net.receiveMessagesOnPollGroup t group = (1, some m) ∧
    w.trace = .packetCallback m.conn m.packet ::
      .receiveMessagesOnPollGroup group 1 (some m) :: t ∧
    text m.packet w.trace = none

/-- A message the server receives is from a registered connection, and its packet is logged, or
cannot be read. -/
theorem receivePacket_ensures (hnet : net.RefusesClosed) (hmembers : net.ReceivesFromMembers) :
  Ensures (ReceivingText text rand) (receivePacket net) (fun _ => ReceivingText text rand)
    (FailsAtPacket net text)
  := by
  intro w hw
  have hkept := receivePacket_keeps hnet w hw
  rcases hmembers w.trace w.self.pollGroup hw.held with hnone | ⟨m, hsome, hgroup⟩
  · have hrun := run_receivePacket_none hnone
    rw [exit_ok hrun] at hkept
    rw [hrun]
    apply hkept
  · have hmem : m.conn ∈ (received w (1, some m)).self.connections := by
      apply hw.grouped.2.member
      rw [hgroup]
      simp
    have hcallback : (received w (1, some m)).self.packetCallback = some (packetCallback text) :=
      hw.installed.packetCallback
    have hrun : (receivePacket net).run w = (do
        callPacketCallback net m.conn m.packet
        release (some m)
        return true : ServerM Bool).run (received w (1, some m)) := by
      rw [run_receivePacket_some hsome, deliver, EStateM.run_bind,
        run_processPendingPacket_registered hmem, EStateM.run_bind]
    cases hread : text m.packet
        (.packetCallback m.conn m.packet :: (received w (1, some m)).trace) with
    | some message =>
        have hok := hrun.trans
          (run_bind_ok _ (run_callPacketCallback_read hcallback m.conn m.packet hread))
        rw [exit_ok hok] at hkept
        rw [hok]
        apply hkept
    | none =>
        have herror := @run_callPacketCallback_unread net text _ hcallback m.conn m.packet hread
        rw [hrun, EStateM.run_bind, herror]
        exact ⟨rfl, m, w.self.pollGroup, w.trace, hw.held, hsome, rfl, hread⟩

/-- The receive loop fails only at a packet that cannot be read. -/
theorem processPendingPackets_ensures (hnet : net.RefusesClosed)
    (hmembers : net.ReceivesFromMembers) :
  Ensures (ReceivingText text rand) (processPendingPackets net)
    (fun _ => ReceivingText text rand) (FailsAtPacket net text)
  := by
  apply Ensures.get_bind
  intro w hw
  have hI : ∀ w', w' = w → ReceivingText text rand w' := by
    rintro _ rfl
    apply hw
  apply Ensures.ite
  · intro _
    exact Ensures.pure hI
  · intro _
    apply Ensures.of_pre _ hI
    apply countedLoop_ensures_within receiveLoop_below (receivePacket_ensures hnet hmembers)
    intro w hw
    apply hw.limit

/-! ### Status events -/

/-- What goes wrong at a status event: the state is not mapped, or an assertion of the callback
fails. -/
inductive Failure (info : StatusInfo) (w : World Server) : Fault → Prop where
  | unmapped (h : info.eOldState = .findingRoute ∨ info.eState = .findingRoute) :
      Failure info w (.outOfRange "CONNECTION_STATUS_MAPPINGS")
  | unregistered (h : info.eState.closing) (hk : info.hConn ∉ w.self.connections) :
      Failure info w (.assertionFailed (.ofCallback "Connection should be registered before"))
  | registered (h : info.eState = .connecting) (hk : info.hConn ∈ w.self.connections) :
      Failure info w
        (.assertionFailed
          (.ofCallback "!server.connectionExists(connection_status_change.connection)"))

/-- At a closing event of a connection that is not registered an assertion fails. -/
theorem run_onClosing_unregistered {change : ConnectionStatusChange} {w : World Server}
    (hk : change.connection ∉ w.self.connections) :
  ((onClosing change).run (perform net)).run w
    = .error (.assertionFailed (.ofCallback "Connection should be registered before")) w
  := by
  simp [onClosing, call, perform, Script.run_bind, Script.run_request, hk]

/-- At a connecting event of a connection that is registered an assertion fails. -/
theorem run_onConnecting_registered {nick : String} {change : ConnectionStatusChange}
    {w : World Server} (hk : change.connection ∈ w.self.connections) :
  ((onConnecting nick change).run (perform net)).run w
    = .error (.assertionFailed
        (.ofCallback "!server.connectionExists(connection_status_change.connection)")) w
  := by
  simp [onConnecting, call, perform, Script.run_bind, Script.run_request, hk]

/-- The status callback leaves the server open, or fails at its assertion, which changes
nothing. -/
theorem callback_unclosing {info : StatusInfo} {oldStatus currentStatus : ConnectionStatus}
    (hstatus : connectionStatusMappings.lookup info.eState = some currentStatus) (t : Trace)
    (w : World Server) :
  Ensures (· = w)
    ((connectionStatusChangeCallback rand ⟨info.hConn, oldStatus, currentStatus⟩ t).run
      (perform net))
    (fun _ w' => Effects net unclosing w w') fun fault w' => w' = w ∧ Failure info w fault
  := by
  have hpassed : (info.eState = .connecting → info.hConn ∉ w.self.connections) →
      (info.eState.closing → info.hConn ∈ w.self.connections) →
      Ensures (· = w)
        ((connectionStatusChangeCallback rand ⟨info.hConn, oldStatus, currentStatus⟩ t).run
          (perform net))
        (fun _ w' => Effects net unclosing w w') fun fault w' => w' = w ∧ Failure info w fault := by
    intro hfresh halive
    have hcallback := @callback_ensures net rand info oldStatus currentStatus hstatus t w hfresh
      halive
    have hmoves : Moves (Effects net unclosing) ((connectionStatusChangeCallback rand
        ⟨info.hConn, oldStatus, currentStatus⟩ t).run (perform net)) :=
      script_unclosing (connectionStatusChangeCallback_leavesOpen rand _ t)
    exact (hcallback.along hmoves).mono (fun _ h => h) (fun _ _ h => h.2) fun _ _ h => h.elim
  by_cases hk : info.hConn ∈ w.self.connections
  · by_cases hconnecting : info.eState = .connecting
    · have hcurrent : currentStatus = .connecting := by
        rw [hconnecting] at hstatus
        cases hstatus
        rfl
      subst hcurrent
      rintro _ rfl
      rw [connectionStatusChangeCallback, run_onConnecting_registered hk]
      exact ⟨rfl, .registered hconnecting hk⟩
    · apply hpassed (fun h => absurd h hconnecting) fun _ => hk
  · by_cases hclosing : info.eState.closing
    · have hrun : ((connectionStatusChangeCallback rand ⟨info.hConn, oldStatus, currentStatus⟩
          t).run (perform net)).run w
          = .error (.assertionFailed (.ofCallback "Connection should be registered before")) w := by
        cases hstate : info.eState with
        | closedByPeer =>
            rw [hstate] at hstatus
            cases hstatus
            exact run_onClosing_unregistered hk
        | problemDetectedLocally =>
            rw [hstate] at hstatus
            cases hstatus
            exact run_onClosing_unregistered hk
        | _ =>
            rw [hstate] at hclosing
            cases hclosing
      rintro _ rfl
      rw [hrun]
      exact ⟨rfl, .unregistered hclosing hk⟩
    · apply hpassed (fun _ => hk) fun h => absurd h hclosing

theorem connectionStatusAt_unclosing {w : World Server} (state : ESteamNetworkingConnectionState) :
  Ensures (· = w) (connectionStatusAt state)
    (fun status w' => connectionStatusMappings.lookup state = some status ∧ w' = w)
    fun fault w' => w' = w ∧ state = .findingRoute ∧
      fault = .outOfRange "CONNECTION_STATUS_MAPPINGS"
  := by
  rintro w rfl
  cases state with
  | findingRoute => exact ⟨rfl, rfl, rfl⟩
  | _ => exact ⟨rfl, rfl⟩

/-- The dispatching of a status event leaves the server open, or fails at the event. -/
theorem onSteamNetConnectionStatusChanged_unclosing {w : World Server} (hw : Installed text rand w)
    (info : StatusInfo) :
  Ensures (· = w) (onSteamNetConnectionStatusChanged net info)
    (fun _ w' => Effects net unclosing w w')
    fun fault w' => Effects net unclosing w w' ∧ Failure info w' fault
  := by
  have hstatusAt : ∀ state, (state = info.eOldState ∨ state = info.eState) →
      Ensures (· = w) (connectionStatusAt state)
        (fun status w' => connectionStatusMappings.lookup state = some status ∧ w' = w)
        fun fault w' => Effects net unclosing w w' ∧ Failure info w' fault := by
    intro state hstate
    apply (connectionStatusAt_unclosing state).mono (fun _ h => h) (fun _ _ h => h)
    rintro _ w' ⟨rfl, hroute, rfl⟩
    subst hroute
    exact ⟨.refl, .unmapped (hstate.imp Eq.symm Eq.symm)⟩
  apply Ensures.get_bind
  rintro w rfl
  rw [hw.statusCallback]
  apply (hstatusAt _ (.inl rfl)).bind
  intro oldStatus
  apply Ensures.of_fact
  intro _
  apply (hstatusAt _ (.inr rfl)).bind
  intro currentStatus
  apply Ensures.of_fact
  intro hstatus
  apply Ensures.bind (R := fun _ w' => Effects net unclosing w w')
  · apply Ensures.modify
    rintro _ rfl
    exact .single (.emit _ rfl rfl)
  intro _
  apply Ensures.get_bind
  intro w₁ hw₁
  apply (callback_unclosing hstatus _ w₁).mono (fun _ h => h)
  · exact fun _ w' h => hw₁.trans h
  · rintro fault _ ⟨rfl, hfailure⟩
    exact ⟨hw₁, hfailure⟩

/-- What goes wrong at one of the status events so far. -/
def FailsAtEvent (fault : Fault) (w : World Server) : Prop :=
  ∃ info ∈ statusEvents w.trace, Failure info w fault

/-- The dispatch of the status events leaves the server open and fails only at an event. -/
theorem processConnectionStateChanges_unclosing (hdispatches : net.DispatchesQueued)
    {w : World Server} (hw : Installed text rand w) :
  Ensures (· = w) (processConnectionStateChanges net) (fun _ w' => Effects net unclosing w w')
    fun fault w' => Effects net unclosing w w' ∧ FailsAtEvent fault w'
  := by
  apply Ensures.get_bind
  rintro w rfl
  have hqueued : ∀ info ∈ net.runCallbacks w.trace, info ∈ statusEvents w.trace := by
    rw [hdispatches]
    apply queuedEvents_subset
  apply Ensures.bind (R := fun _ w' => Effects net unclosing w w')
  · apply Ensures.modify
    rintro _ rfl
    exact .single (.emit _ rfl rfl)
  intro _
  have hone : ∀ info infos, Ensures
      (fun w' => (∀ i ∈ info :: infos, i ∈ statusEvents w.trace) ∧ Effects net unclosing w w')
      (onSteamNetConnectionStatusChanged net info)
      (fun _ w' => (∀ i ∈ infos, i ∈ statusEvents w.trace) ∧ Effects net unclosing w w')
      fun fault w' => Effects net unclosing w w' ∧ FailsAtEvent fault w' := by
    rintro info infos w₁ ⟨hinfos, hw₁⟩
    apply (onSteamNetConnectionStatusChanged_unclosing (hw.effects hw₁) info).mono
      (fun _ h => h) _ _ w₁ rfl
    · intro _ w' heffects
      exact ⟨fun i h => hinfos i (List.mem_cons_of_mem _ h), hw₁.trans heffects⟩
    · rintro fault w' ⟨heffects, hfailure⟩
      use hw₁.trans heffects, info
      refine ⟨?_, hfailure⟩
      have hsubset := (Effects.goesOnBy (hw₁.trans heffects)).subset
      exact (List.filterMap_subset _ hsubset) (hinfos info List.mem_cons_self)
  have hloop := Ensures.forM
    (I := fun infos w' => (∀ i ∈ infos, i ∈ statusEvents w.trace) ∧ Effects net unclosing w w')
    hone (net.runCallbacks w.trace)
  exact hloop.mono (fun _ h => ⟨hqueued, h⟩) (fun _ _ h => h.2) fun _ _ h => h

/-- What goes wrong in an update: something at one of the status events so far, or at a packet. -/
def Fails (net : ISteamNetworkingSockets) (text : BufferText) (fault : Fault) (w : World Server) :
    Prop :=
  FailsAtEvent fault w ∨ FailsAtPacket net text fault w

/-! ### The loop -/

/-- The example server once it has been opened: it is running with the resources it holds, or it
ignores its updates. -/
structure Serving (text : BufferText) (rand : Trace → Nat) (w : World Server) : Prop where
  served : RegistryServed w
  installed : Installed text rand w
  limit : w.self.maxProcessedPackets.toNat ≤ 2147483647
  opened : w.self.running = true ∧ Accounted w ∨
    w.self.running = false ∧ w.self.quitRequested = false

/-- A server that is left open goes on serving. -/
theorem Serving.effects (hnet : net.RefusesClosed) {w w' : World Server}
    (h : Serving text rand w) (hrunning : w.self.running = true)
    (heffects : Effects net unclosing w w') :
  Serving text rand w'
  := by
  have hsame := heffects.sameResources not_false
  constructor
  · use heffects.keeps_grouped hnet h.served.1
    intro _
    rw [hsame.pollGroup, hsame.pollGroups]
    apply h.served.2 hrunning
  · apply h.installed.effects heffects
  · rw [heffects.keeps_settings.2.2]
    apply h.limit
  · left
    rw [hsame.running]
    rcases h.opened with ⟨-, haccounted⟩ | ⟨hstopped, -⟩
    · exact ⟨hrunning, hsame.accounted haccounted⟩
    · rw [hrunning] at hstopped
      cases hstopped

/-- An update leaves the server open and fails only at an event or a packet. -/
theorem updateConnection_unclosing (hnet : net.RefusesClosed) (hmembers : net.ReceivesFromMembers)
    (hdispatches : net.DispatchesQueued) {w : World Server} (hw : Serving text rand w)
    (hrunning : w.self.running = true) :
  Ensures (· = w) (updateConnection net) (fun _ w' => Effects net unclosing w w')
    fun fault w' => Effects net unclosing w w' ∧ Fails net text fault w'
  := by
  have hpackets : Ensures (· = w) (processPendingPackets net)
      (fun _ w' => Effects net unclosing w w')
      fun fault w' => Effects net unclosing w w' ∧ Fails net text fault w' := by
    rintro w rfl
    have hreceiving : ReceivingText text rand w :=
      ⟨⟨hw.served.1, hw.served.2 hrunning, hw.installed.leavesOpen⟩, hw.installed, hw.limit⟩
    have heffects : Effects net unclosing w (exit (processPendingPackets net) w) :=
      processPendingPackets_unclosing hw.installed
    have hensures := processPendingPackets_ensures hnet hmembers w hreceiving
    cases hrun : (processPendingPackets net).run w with
    | ok a w' =>
        rw [exit_ok hrun] at heffects
        exact heffects
    | error fault w' =>
        rw [exit_error hrun] at heffects
        rw [hrun] at hensures
        exact ⟨heffects, .inr hensures⟩
  by_cases hstopped : Stopped w
  · rintro w rfl
    rw [run_updateConnection_stopped hstopped]
  · have hupdate : Ensures (· = w) (do
        processPendingPackets net
        processConnectionStateChanges net
        processUserInput)
        (fun _ w' => Effects net unclosing w w')
        fun fault w' => Effects net unclosing w w' ∧ Fails net text fault w' := by
      apply hpackets.bind
      intro _
      apply Ensures.bind (R := fun _ w' => Effects net unclosing w w')
      · intro w₁ hw₁
        have hdispatch := processConnectionStateChanges_unclosing hdispatches
          (hw.installed.effects hw₁)
        apply hdispatch.mono (fun _ h => h) _ _ w₁ rfl
        · exact fun _ w' h => hw₁.trans h
        · exact fun _ w' h => ⟨hw₁.trans h.1, .inl h.2⟩
      · intro _
        apply Ensures.of_moves (R := Effects net unclosing) (X := fun _ => False)
        · apply processUserInput_moves
        · exact processUserInput_raises.mono (fun _ _ => trivial) fun _ h => h
        · exact fun _ _ _ h h' => h.trans h'
        · exact fun _ _ _ _ _ h => h.elim
    rintro w rfl
    rw [run_updateConnection_active hstopped]
    exact hupdate w rfl

/-- An update keeps the server serving, or fails. -/
theorem updateConnection_serving (hnet : net.RefusesClosed) (hmembers : net.ReceivesFromMembers)
    (hdispatches : net.DispatchesQueued) :
  Ensures (Serving text rand) (updateConnection net) (fun _ => Serving text rand)
    (Fails net text)
  := by
  intro w hw
  cases hrunning : w.self.running with
  | true =>
      exact (updateConnection_unclosing hnet hmembers hdispatches hw hrunning).mono
        (fun _ h => h) (fun _ _ h => hw.effects hnet hrunning h) (fun _ _ h => h.2) w rfl
  | false =>
      rw [run_updateConnection_stopped (.inr hrunning)]
      apply hw

/-! ### Runs of the main function -/

/-- The server before it is opened. -/
structure Unopened (w : World Server) : Prop where
  served : RegistryServed w
  stopped : w.self.running = false
  listening : w.self.quitRequested = false
  limit : w.self.maxProcessedPackets.toNat ≤ 2147483647
  released : Released w

/-- The server after it has been closed. -/
structure Finished (w : World Server) : Prop where
  coupled : RegistryCoupled w
  stopped : w.self.running = false
  empty : w.self.connections = ∅
  released : Released w

/-- What holds at the points of the main function. -/
def AtPoint (text : BufferText) (rand : Trace → Nat) : MainPoint → World Server → Prop
  | .constructed, w => Unopened w
  | .receiving, w => Unopened w ∧ w.self.packetCallback = some (packetCallback text)
  | .configured, w => Unopened w ∧ Installed text rand w
  | .looping, w => Serving text rand w
  | .closed, w => Finished w

theorem newServer_unopened (socket : HSteamListenSocket) (group : HSteamNetPollGroup) :
  Unopened (newServer "127.0.0.1" 8080 socket group)
  := by
  refine ⟨⟨newServer_grouped _ _ socket group, ?_⟩, rfl, rfl, ?_, rfl, rfl⟩
  · intro hrunning
    cases hrunning
  · simp [newServer, construct]

/-- The opening starts the server, or leaves it stopped. -/
theorem openConnection_serving (hnet : net.RefusesClosed) :
  Ensures (fun w => Unopened w ∧ Installed text rand w) (openConnection net)
    (fun _ => Serving text rand) fun _ _ => False
  := by
  apply Ensures.of_run_ok
  rintro w ⟨hw, hinstalled⟩
  have hserved := step_keeps_served hnet .openConnection w hw.served
  cases hparse : net.parseString w.trace w.self.address with
  | false =>
      have hrun := run_openConnection_unparsed hparse
      rw [step, exit_ok hrun] at hserved
      refine ⟨(), _, hrun, hserved, ?_, ?_, ?_⟩
      · exact ⟨hinstalled.packetCallback, hinstalled.statusCallback⟩
      · exact hw.limit
      · right
        exact ⟨rfl, hw.listening⟩
  | true =>
      have hrun := run_openConnection_parsed hparse
      rw [step, exit_ok hrun] at hserved
      refine ⟨(), _, hrun, hserved, ?_, ?_, ?_⟩
      · exact ⟨hinstalled.packetCallback, hinstalled.statusCallback⟩
      · exact hw.limit
      · by_cases hboth : newSocket net w ≠ 0 ∧ newGroup net w ≠ 0
        · left
          use decide_eq_true hboth
          apply (opened_accounted_iff (hw.released.accounted hw.stopped)).mpr
          exact ⟨hw.stopped, iff_of_false hboth.1 hboth.2⟩
        · right
          exact ⟨decide_eq_false hboth, hw.listening⟩

/-- The closing of a server that has been asked to quit releases what it holds. -/
theorem closeConnection_finishes :
  Ensures (fun w => Serving text rand w ∧ w.self.quitRequested = true)
    (step net (.call .closeConnection)) (fun _ => Finished) fun _ _ => False
  := by
  apply Ensures.of_run_ok
  rintro w ⟨hw, hquit⟩
  have hrun : (step net (.call .closeConnection)).run w = .ok () (shutdown w) :=
    (run_bind_ok _ (run_closeConnection w)).trans rfl
  have hdown : AnyEffect net w (shutdown w) := .shutdown trivial
  refine ⟨(), _, hrun, hdown.keeps_coupled hw.served.1.1, rfl, rfl, ?_⟩
  rcases hw.opened with ⟨-, haccounted⟩ | ⟨-, hlistening⟩
  · apply haccounted.shutdown_released
  · rw [hlistening] at hquit
    cases hquit

/-- Each step of the main function leads from what holds at its point to what holds at the next. -/
theorem main_carries (hnet : net.RefusesClosed) (hmembers : net.ReceivesFromMembers)
    (hdispatches : net.DispatchesQueued) :
  Routine.Carries (step net) (main text rand) (AtPoint text rand) (Fails net text)
  := by
  intro point s point'
  cases point with
  | constructed =>
      apply Ensures.of_run_ok
      rintro w ⟨hw, ⟨⟩⟩
      exact ⟨_, _, rfl, ⟨hw.served, hw.stopped, hw.listening, hw.limit, hw.released⟩, rfl⟩
  | receiving =>
      apply Ensures.of_run_ok
      rintro w ⟨⟨hw, hpacket⟩, ⟨⟩⟩
      exact ⟨_, _, rfl, ⟨hw.served, hw.stopped, hw.listening, hw.limit, hw.released⟩, hpacket, rfl⟩
  | configured =>
      rintro w ⟨hw, ⟨⟩⟩
      exact (openConnection_serving hnet).mono (fun _ h => h) (fun _ _ h => h)
        (fun _ _ h => h.elim) w hw
  | looping =>
      rintro w ⟨hw, hnext⟩
      cases hquit : w.self.quitRequested with
      | true =>
          simp only [main, hquit, if_true] at hnext
          cases hnext
          exact closeConnection_finishes.mono (fun _ h => h) (fun _ _ h => h)
            (fun _ _ h => h.elim) w ⟨hw, hquit⟩
      | false =>
          simp only [main, hquit] at hnext
          cases hnext
          exact updateConnection_serving hnet hmembers hdispatches w hw
  | closed =>
      rintro w ⟨_, ⟨⟩⟩

/-- What happens outside the main function leaves the server alone, but for its input queue. -/
theorem outside_run {s : ServerStep} {w w' : World Server} (hs : Outside w s)
    (hrun : (step net s).run w = .ok () w') :
  Effects net unclosing w w' ∧ w'.self.connections = w.self.connections ∧
    w'.self.quitRequested = w.self.quitRequested
  := by
  cases s with
  | arrive m =>
      cases hrun
      exact ⟨.single (.emit _ rfl rfl), rfl, rfl⟩
  | queue info =>
      cases hrun
      exact ⟨.single (.emit _ rfl rfl), rfl, rfl⟩
  | enter line =>
      cases hrun
      exact ⟨.single (.input _ _ id), rfl, rfl⟩
  | _ => cases hs

theorem Unopened.outside (hnet : net.RefusesClosed) {w w' : World Server} (h : Unopened w)
    (heffects : Effects net unclosing w w')
    (hquit : w'.self.quitRequested = w.self.quitRequested) :
  Unopened w'
  := by
  have hsame := heffects.sameResources not_false
  constructor
  · use heffects.keeps_grouped hnet h.served.1
    intro hrunning
    rw [hsame.running, h.stopped] at hrunning
    cases hrunning
  · rw [hsame.running, h.stopped]
  · rw [hquit, h.listening]
  · rw [heffects.keeps_settings.2.2]
    apply h.limit
  · rw [Released, hsame.listenSockets, hsame.pollGroups]
    apply h.released

theorem Serving.outside (hnet : net.RefusesClosed) {w w' : World Server} (h : Serving text rand w)
    (heffects : Effects net unclosing w w')
    (hquit : w'.self.quitRequested = w.self.quitRequested) :
  Serving text rand w'
  := by
  have hsame := heffects.sameResources not_false
  rcases h.opened with ⟨hrunning, -⟩ | ⟨hstopped, hlistening⟩
  · apply h.effects hnet hrunning heffects
  · constructor
    · use heffects.keeps_grouped hnet h.served.1
      intro hrunning
      rw [hsame.running, hstopped] at hrunning
      cases hrunning
    · apply h.installed.effects heffects
    · rw [heffects.keeps_settings.2.2]
      apply h.limit
    · right
      rw [hsame.running, hquit]
      exact ⟨hstopped, hlistening⟩

theorem Finished.outside {w w' : World Server} (h : Finished w)
    (heffects : Effects net unclosing w w')
    (hconnections : w'.self.connections = w.self.connections) :
  Finished w'
  := by
  have hsame := heffects.sameResources not_false
  constructor
  · apply effects_coupled heffects h.coupled
  · rw [hsame.running, h.stopped]
  · rw [hconnections, h.empty]
  · rw [Released, hsame.listenSockets, hsame.pollGroups]
    apply h.released

/-- Effects that leave the server open, its registry and its quit flag keep what holds at
a point. -/
theorem AtPoint.outside (hnet : net.RefusesClosed) {point : MainPoint} {w w' : World Server}
    (hw : AtPoint text rand point w) (heffects : Effects net unclosing w w')
    (hconnections : w'.self.connections = w.self.connections)
    (hquit : w'.self.quitRequested = w.self.quitRequested) :
  AtPoint text rand point w'
  := by
  cases point with
  | constructed => apply Unopened.outside hnet hw heffects hquit
  | receiving =>
      use hw.1.outside hnet heffects hquit
      rw [heffects.keeps_settings.1]
      apply hw.2
  | configured => exact ⟨hw.1.outside hnet heffects hquit, hw.2.effects heffects⟩
  | looping => apply Serving.outside hnet hw heffects hquit
  | closed => apply Finished.outside hw heffects hconnections

/-- What happens outside the main function keeps what holds at its points. -/
theorem main_stable (hnet : net.RefusesClosed) :
  Routine.Stable (step net) Outside (AtPoint text rand)
  := by
  intro point s w w' hw hs hrun
  obtain ⟨heffects, hconnections, hquit⟩ := outside_run hs hrun
  apply AtPoint.outside hnet hw heffects hconnections hquit

/-- What the callbacks and the call of the main function keep is kept in every run of it, whatever
happens outside it, if it is an invariant of the registry and of the events about it. -/
theorem main_keeping {J : ClientConnections → Trace → Prop}
    (hJ : ∀ C t e, e.neutral → J C t → J C (e :: t))
    (hmain : ∀ {point point' : MainPoint} {s : ServerStep} {w : World Server},
      main text rand w point = some (s, point') →
        StepKeeps net (fun w => J w.self.connections w.trace) s)
    {point : MainPoint} {progress : Progress MainPoint Fault} {w w' : World Server}
    (h : Routine.Reaches (step net) Outside (main text rand) point w progress w')
    (hw : Keeping net (fun w => J w.self.connections w.trace) w) :
  Keeping net (fun w => J w.self.connections w.trace) w'
  := by
  have hcarries : Routine.Carries (step net) (main text rand)
      (fun _ => Keeping net fun w => J w.self.connections w.trace)
      fun _ => Keeping net fun w => J w.self.connections w.trace := by
    rintro point s point' w ⟨hw, hnext⟩
    exact Ensures.of_keeps (step_keeps_of_callbacks hJ (hmain hnext)) w hw
  have hstable : Routine.Stable (step net) Outside
      fun (_ : MainPoint) => Keeping net fun w => J w.self.connections w.trace := by
    intro point s w w' hw hs hrun
    have hkeeps : StepKeeps net (fun w => J w.self.connections w.trace) s := by
      cases s <;> trivial
    have hexit := step_keeps_of_callbacks hJ hkeeps w hw
    rw [exit_ok hrun] at hexit
    apply hexit
  have hholds := h.holds hcarries hstable hw
  cases progress <;> exact hholds

/-- A run of the main function leads to how far it has got, and to the state of the server. -/
def MainReaches (net : ISteamNetworkingSockets) (text : BufferText) (rand : Trace → Nat)
    (environment : World Server → ServerStep → Prop) (progress : Progress MainPoint Fault)
    (w : World Server) : Prop :=
  ∃ socket group, Routine.Reaches (step net) environment (main text rand) .constructed
    (newServer "127.0.0.1" 8080 socket group) progress w

/-- What holds at the points of the main function holds in all its runs. -/
theorem MainReaches.holds (hnet : net.RefusesClosed) (hmembers : net.ReceivesFromMembers)
    (hdispatches : net.DispatchesQueued) {progress : Progress MainPoint Fault} {w : World Server}
    (h : MainReaches net text rand Outside progress w) :
  Routine.Holds (AtPoint text rand) (Fails net text) (progress, w)
  := by
  obtain ⟨socket, group, h⟩ := h
  apply h.holds (main_carries hnet hmembers hdispatches) (main_stable hnet)
  apply newServer_unopened

theorem MainReaches.of_follow {environment : World Server → ServerStep → Prop}
    [∀ w s, Decidable (environment w s)] {turns : List (Option ServerStep)}
    {progress : Progress MainPoint Fault}
    (h : (Routine.follow (step net) environment (main text rand) turns .constructed
      (newServer "127.0.0.1" 8080 0 0)).map Prod.fst = some progress) :
  ∃ w, MainReaches net text rand environment progress w
  := by
  obtain ⟨⟨_, w⟩, hfollow, rfl⟩ := Option.map_eq_some_iff.mp h
  exact ⟨w, 0, 0, Routine.Reaches.of_follow hfollow⟩

/-- Whatever happens outside it, when the main function returns nothing is left: its listening
socket and its poll group are released, every connection it has registered has been closed, and the
destruction of the server changes nothing more. -/
theorem main_returns (hnet : net.RefusesClosed) (hmembers : net.ReceivesFromMembers)
    (hdispatches : net.DispatchesQueued) {w : World Server}
    (h : MainReaches net text rand Outside (.reached .closed) w) :
  Released w ∧ (∀ k, .registered k ∈ w.trace → .closeConnection k ∈ w.trace) ∧
    destruct.run w = .ok () w
  := by
  have hw : Finished w := h.holds hnet hmembers hdispatches
  use hw.released
  constructor
  · intro k hk
    apply (hw.coupled.registered k hk).resolve_left
    rw [hw.empty]
    simp
  · have hdestructible : Destructible w := by
      right
      rw [hw.empty]
      simp
    rw [run_destruct hdestructible, hw.stopped]
    simp [← hw.empty]

/-- A client joins, and the server is asked to quit. -/
def quitting : List (Option ServerStep) :=
  [none, none, none, some (.queue ⟨1, .none, .connecting⟩), none, some (.enter "/quit"), none, none]

/-- The server is asked to quit while a client is connected. -/
theorem quitting_returns :
  ∃ w, MainReaches queueNetworking (fun _ _ => some "") (fun _ => 7) Outside (.reached .closed) w ∧
    Released w ∧ (∀ k, .registered k ∈ w.trace → .closeConnection k ∈ w.trace) ∧
    destruct.run w = .ok () w
  := by
  have hfollow : (Routine.follow (step queueNetworking) Outside
      (main (fun _ _ => some "") fun _ => 7) quitting .constructed
        (newServer "127.0.0.1" 8080 0 0)).map Prod.fst = some (.reached .closed) := by
    decide +kernel
  obtain ⟨w, hreaches⟩ := MainReaches.of_follow hfollow
  exact ⟨w, hreaches, main_returns queueNetworking_refusesClosed
    queueNetworking_receivesInOrder.fromMembers queueNetworking_dispatchesQueued hreaches⟩

/-! ### Events in a good order -/

/-- A message that arrives has a null in its packet. -/
def ArrivesTerminated : ServerStep → Prop
  | .arrive m => 0 ∈ m.packet.data
  | _ => True

instance (s : ServerStep) : Decidable (ArrivesTerminated s) :=
  match s with
  | .arrive m => inferInstanceAs (Decidable (0 ∈ m.packet.data))
  | .queue _ => .isTrue trivial
  | .enter _ => .isTrue trivial
  | .setMaxProcessedPackets _ => .isTrue trivial
  | .setPacketCallback _ => .isTrue trivial
  | .setConnectionStatusChangeCallback _ => .isTrue trivial
  | .openConnection => .isTrue trivial
  | .updateConnection => .isTrue trivial
  | .call _ => .isTrue trivial

/-- What happens outside the main function when status events are queued as the networking library
produces them, none ends a connection too early, all their states are mapped, and the packets that
arrive are terminated. -/
def InGoodOrder (w : World Server) (s : ServerStep) : Prop :=
  Outside w s ∧ WhenQueued Produces w s ∧ WhenQueued EndsAfterDispatch w s ∧
    WhenQueued (fun _ info => info.Routed) w s ∧ ArrivesTerminated s

instance (w : World Server) (s : ServerStep) : Decidable (InGoodOrder w s) :=
  have (info : StatusInfo) : Decidable info.Routed := inferInstanceAs (Decidable (_ ∧ _))
  inferInstanceAs (Decidable (_ ∧ _ ∧ _ ∧ _ ∧ _))

/-- The registry is ready for the queued events, until the server has been asked to quit. -/
def Prepared : MainPoint → World Server → Prop
  | .looping, w => w.self.quitRequested ∨ Ready (queuedEvents w.trace) w
  | .closed, _ => True
  | _, w => Ready (queuedEvents w.trace) w

/-- What happens outside the main function keeps the queue of status events in order. -/
theorem Ready.outside {s : ServerStep} {w w' : World Server} (h : Ready (queuedEvents w.trace) w)
    (hs : InGoodOrder w s) (hrun : (step net s).run w = .ok () w') :
  Ready (queuedEvents w'.trace) w'
  := by
  obtain ⟨houtside, hproduces, hends, -⟩ := hs
  cases s with
  | arrive m =>
      cases hrun
      exact h.goesOn (goesOnBy_cons rfl rfl) (h.coupled.cons_plain rfl) rfl
  | queue info =>
      cases hrun
      apply h.queue hproduces hends
  | enter line =>
      cases hrun
      exact h.goesOn ⟨[], rfl, by simp⟩ h.coupled rfl
  | _ => cases houtside

theorem Prepared.outside {point : MainPoint} {s : ServerStep} {w w' : World Server}
    (h : Prepared point w) (hs : InGoodOrder w s) (hrun : (step net s).run w = .ok () w') :
  Prepared point w'
  := by
  obtain ⟨-, -, hquit⟩ := outside_run hs.1 hrun
  cases point with
  | looping =>
      rw [Prepared, hquit]
      apply h.imp_right
      intro hready
      apply hready.outside hs hrun
  | closed => trivial
  | _ => exact Ready.outside h hs hrun

/-- The state of a status event that is queued is mapped, and a packet that arrives is
terminated. -/
def WellFormed : Event → Prop
  | .queued info => info.Routed
  | .arrived m => 0 ∈ m.packet.data
  | _ => True

/-- All the status events and all the packets so far are well formed. -/
def AllWellFormed (w : World Server) : Prop :=
  ∀ e ∈ w.trace, WellFormed e

/-- What goes on by well-formed events stays well formed. -/
theorem AllWellFormed.goesOn {w w' : World Server} (h : AllWellFormed w)
    (hgoesOn : GoesOnBy WellFormed w w') :
  AllWellFormed w'
  := by
  obtain ⟨es, hes, hwellFormed⟩ := hgoesOn
  intro e he
  rw [hes] at he
  rcases List.mem_append.mp he with he | he
  · apply hwellFormed e he
  · apply h e he

/-- What happens outside the main function adds only well-formed events and messages. -/
theorem AllWellFormed.outside {s : ServerStep} {w w' : World Server} (h : AllWellFormed w)
    (hs : InGoodOrder w s) (hrun : (step net s).run w = .ok () w') :
  AllWellFormed w'
  := by
  obtain ⟨houtside, -, -, hrouted, hterminated⟩ := hs
  cases s with
  | arrive m =>
      cases hrun
      exact h.goesOn (goesOnBy_cons rfl hterminated)
  | queue info =>
      cases hrun
      exact h.goesOn (goesOnBy_cons rfl hrouted)
  | enter line =>
      cases hrun
      apply h
  | _ => cases houtside

/-- A client joins and leaves after it has been accepted, and a message arrives from it. -/
def chatting : List (Option ServerStep) :=
  [none, none, none, some (.queue ⟨1, .none, .connecting⟩), none,
    some (.arrive ⟨1, [72, 105, 0], 3⟩), some (.queue ⟨1, .connecting, .connected⟩), none,
    some (.queue ⟨1, .connected, .closedByPeer⟩), none]

end ExampleServer

end Chs
