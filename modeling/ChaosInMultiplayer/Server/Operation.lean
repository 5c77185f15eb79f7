import ChaosInMultiplayer.Server.Update

/-!
# The runs of the server's operations

Each operation on the registry has an equation for its run from a given world, closing the
server has one (`run_closeConnection`), and so does the opening of the server.  The calls
that are about no entry leave the server as it is.
-/

namespace Chs

namespace Server

open Program

variable {net : ISteamNetworkingSockets}

/-! ### The runs of the registry operations -/

@[simp]
theorem run_connectionExists (k : HSteamNetConnection) (w : World Server) :
  (connectionExists k).run w = .ok (decide (k ∈ w.self.connections)) w
  := rfl

theorem run_clientConnection_some {k : HSteamNetConnection} {w : World Server}
    {client : ClientConnection} (h : w.self.connections.lookup k = some client) :
  (clientConnection k).run w = .ok client w
  := by
  simp [clientConnection, h]

theorem run_clientConnection_none {k : HSteamNetConnection} {w : World Server}
    (h : w.self.connections.lookup k = none) :
  (clientConnection k).run w = .error (.outOfRange "connections") w
  := by
  simp [clientConnection, h]
  rfl

/-- A creation leaves an entry as it is if there is one. -/
theorem run_createClientConnection_of_mem {k : HSteamNetConnection} {w : World Server}
    (h : k ∈ w.self.connections) :
  (createClientConnection k).run w = .ok () w
  := by
  simp [createClientConnection, h]

/-- A creation adds an entry if there is none. -/
theorem run_createClientConnection_of_notMem {k : HSteamNetConnection} {w : World Server}
    (h : k ∉ w.self.connections) :
  (createClientConnection k).run w
    = .ok () (put w k (.construct k) (.registered k :: w.trace))
  := by
  simp [createClientConnection, h]

/-- An operation on an entry changes this entry. -/
theorem run_onClientConnection_some {α : Type} {k : HSteamNetConnection}
    {f : ClientConnection → Trace → α × ClientConnection × Trace} {w : World Server}
    {client : ClientConnection} (h : w.self.connections.lookup k = some client) :
  (onClientConnection k f).run w
    = .ok (f client w.trace).1 (put w k (f client w.trace).2.1 (f client w.trace).2.2)
  := by
  rw [onClientConnection, run_bind_ok _ (run_clientConnection_some h)]
  rfl

theorem run_onClientConnection_none {α : Type} {k : HSteamNetConnection}
    {f : ClientConnection → Trace → α × ClientConnection × Trace} {w : World Server}
    (h : w.self.connections.lookup k = none) :
  (onClientConnection k f).run w = .error (.outOfRange "connections") w
  := by
  simp [onClientConnection, run_clientConnection_none h]

/-- Closing a connection closes it in its entry. -/
theorem run_close {k : HSteamNetConnection} {w : World Server} {client : ClientConnection}
    (h : w.self.connections.lookup k = some client) :
  (close k).run w = .ok () (put w k (client.close w.trace).1 (client.close w.trace).2)
  := run_onClientConnection_some h

/-- The world without the entry of a connection. -/
def drop (w : World Server) (k : HSteamNetConnection) : World Server :=
  { w with self := { w.self with connections := w.self.connections.erase k } }

/-- A removal drops an entry that is closed. -/
theorem run_removeClientConnection_closed {k : HSteamNetConnection} {w : World Server}
    {client : ClientConnection} (h : w.self.connections.lookup k = some client)
    (hc : client.closed) :
  (removeClientConnection k).run w = .ok () (drop w k)
  := by
  simp [removeClientConnection, run_clientConnection_some h, hc, destroy,
    ClientConnection.destructible_of_closed hc, drop]

/-- A removal asserts that the entry is closed. -/
theorem run_removeClientConnection_not_closed {k : HSteamNetConnection} {w : World Server}
    {client : ClientConnection} (h : w.self.connections.lookup k = some client)
    (hc : client.closed = false) :
  (removeClientConnection k).run w
    = .error (.assertionFailed .closedWhenErased) w
  := by
  simp [removeClientConnection, run_clientConnection_some h, hc]

theorem run_removeClientConnection_none {k : HSteamNetConnection} {w : World Server}
    (h : w.self.connections.lookup k = none) :
  (removeClientConnection k).run w = .error (.outOfRange "connections") w
  := by
  simp [removeClientConnection, run_clientConnection_none h]

/-- `closeClientConnection` on a registered connection closes it and erases its entry. -/
theorem run_closeClientConnection_some {k : HSteamNetConnection} {w : World Server}
    {client : ClientConnection} (h : w.self.connections.lookup k = some client) :
  (closeClientConnection k).run w
    = .ok () (drop (put w k (client.close w.trace).1 (client.close w.trace).2) k)
  := by
  rw [closeClientConnection, run_bind_ok _ (run_close h)]
  apply run_removeClientConnection_closed
  · apply AList.lookup_insert
  · simp [ClientConnection.close, ClientConnection.closed]

theorem run_closeClientConnection_none {k : HSteamNetConnection} {w : World Server}
    (h : w.self.connections.lookup k = none) :
  (closeClientConnection k).run w = .error (.outOfRange "connections") w
  := by
  simp [closeClientConnection, close, run_onClientConnection_none h]

/-! ### Calls that leave the server as it is -/

/-- The server itself is the same in the two worlds. -/
def SameServer (w w' : World Server) : Prop :=
  w'.self = w.self

instance : Std.Refl SameServer where
  refl _ := rfl

instance : IsTrans (World Server) SameServer where
  trans _ _ _ h h' := Eq.trans h' h

/-- The connection whose entry a call can change, remove or create. -/
def target : ServerCall → Option HSteamNetConnection
  | .createClientConnection k => some k
  | .closeClientConnection k => some k
  | .removeClientConnection k => some k
  | .accept k => some k
  | .setPollGroup k _ => some k
  | .setAlias k _ => some k
  | .close k => some k
  | _ => none

/-- A broadcast changes nothing in the server. -/
theorem sendPacketToAllConnectedClientsImpl_idle (packet : Packet) (sendType : SendType)
    (except : Option ClientConnection) :
  Moves SameServer (sendPacketToAllConnectedClientsImpl packet sendType except)
  := by
  apply Moves.get_bind
  intro w
  apply Moves.forM
  intro e _
  apply Moves.ite
  · intro _
    apply Moves.pure
  · intro _
    apply Moves.ite
    · intro _
      exact fun w => rfl
    · intro _
      apply Moves.pure

/-- A call that is about no entry leaves the server as it is, unless it closes the server. -/
theorem perform_idle (c : ServerCall) (ht : target c = none) (hc : c ≠ .closeConnection) :
  Moves SameServer (perform net c)
  := by
  cases c with
  | closeConnection => exact absurd rfl hc
  | clientConnection k =>
      intro w
      cases h : w.self.connections.lookup k with
      | some client =>
          have hrun : (perform net (.clientConnection k)).run w = .ok client w :=
            run_clientConnection_some h
          rw [exit_ok hrun]
          rfl
      | none =>
          have hrun : (perform net (.clientConnection k)).run w = .error _ w :=
            run_clientConnection_none h
          rw [exit_error hrun]
          rfl
  | sendPacketToAllConnectedClients packet sendType except =>
      apply sendPacketToAllConnectedClientsImpl_idle
  | assertThat condition text => cases condition <;> exact fun w => rfl
  | connectionExists k => exact fun w => rfl
  | pollGroup => exact fun w => rfl
  | sendPacket packet client sendType => exact fun w => rfl
  | log level text => exact fun w => rfl
  | raise => exact fun w => rfl
  | readOutside => exact fun w => rfl
  | _ => cases ht

/-! ### Closing the server -/

/-- The calls of `CloseConnection` made for the entries `es`, the last one first. -/
def closings (es : List (Sigma fun _ : HSteamNetConnection => ClientConnection)) : Trace :=
  (es.map fun e => Event.closeConnection e.2.netConnection).reverse

/-- Closing the connections of the entries `es` one after another closes the entries of the
registry that are not in `es` already. -/
theorem run_close_entries
    (es : List (Sigma fun _ : HSteamNetConnection => ClientConnection)) (hnd : es.NodupKeys)
    (w : World Server) (hes : ∀ e ∈ es, w.self.connections.lookup e.1 = some e.2)
    (hclosed : ∀ k c, w.self.connections.lookup k = some c → c.closed ∨ ⟨k, c⟩ ∈ es) :
  ∃ C : ClientConnections, (∀ k c, C.lookup k = some c → c.closed)
    ∧ (forM es.keys close).run w
      = .ok () { self := { w.self with connections := C }, trace := closings es ++ w.trace }
  := by
  induction es generalizing w with
  | nil =>
      use w.self.connections
      constructor
      · intro k c h
        simpa using hclosed k c h
      · rfl
  | cons e es ih =>
      obtain ⟨k, client⟩ := e
      obtain ⟨hk, hnd⟩ := List.nodupKeys_cons.mp hnd
      have hclose := run_close (hes _ List.mem_cons_self)
      obtain ⟨C, hC, hrun⟩ := ih hnd
        (put w k (client.close w.trace).1 (client.close w.trace).2)
        (by
          intro e he
          have hne : e.1 ≠ k := by
            intro h
            apply hk
            rw [← h]
            apply List.mem_keys_of_mem he
          rw [put, AList.lookup_insert_ne hne]
          apply hes e (List.mem_cons_of_mem _ he))
        (by
          intro j c hj
          by_cases hjk : j = k
          · subst hjk
            rw [put, AList.lookup_insert, Option.some.injEq] at hj
            subst hj
            left
            simp [ClientConnection.close, ClientConnection.closed]
          · rw [put, AList.lookup_insert_ne hjk] at hj
            rcases hclosed j c hj with h | h
            · left
              apply h
            · right
              simpa [hjk] using h)
      use C, hC
      rw [List.keys_cons, List.forM_cons, run_bind_ok _ hclose, hrun]
      simp [closings, put, ClientConnection.close]

/-- Destroying entries does nothing if all of them can be destroyed. -/
theorem run_destroy_entries
    (es : List (Sigma fun _ : HSteamNetConnection => ClientConnection)) (w : World Server)
    (h : ∀ e ∈ es, e.2.destructible) :
  (forM es fun e => destroy e.2).run w = .ok () w
  := by
  induction es with
  | nil => rfl
  | cons e es ih =>
      rw [List.forM_cons, destroy, h e List.mem_cons_self, run_assertThat_true]
      apply ih
      intro e he
      apply h e (List.mem_cons_of_mem _ he)

/-- Clearing a registry whose entries can be destroyed. -/
theorem run_clearConnections {w : World Server}
    (h : ∀ k c, w.self.connections.lookup k = some c → c.destructible) :
  clearConnections.run w = .ok () { w with self := { w.self with connections := ∅ } }
  := by
  have hd := run_destroy_entries w.self.connections.entries w
    (fun e he => h e.1 e.2 (AList.mem_lookup_iff.mpr he))
  simp [clearConnections, hd]

/-- The world after the server has been closed. -/
def shutdown (w : World Server) : World Server where
  self :=
    { w.self with
      quitRequested := true
      running := false
      connections := ∅
      listeningSocket := 0
      pollGroup := 0 }
  trace :=
    .destroyPollGroup w.self.pollGroup :: .closeListenSocket w.self.listeningSocket ::
      (closings w.self.connections.entries ++ .log .info "Closing connections..." :: w.trace)

/-- `closeConnection` never fails. -/
theorem run_closeConnection (w : World Server) :
  closeConnection.run w = .ok () (shutdown w)
  := by
  let w₁ : World Server :=
    { self := { w.self with quitRequested := true, running := false }
      trace := .log .info "Closing connections..." :: w.trace }
  obtain ⟨C, hC, hrun⟩ := run_close_entries w.self.connections.entries
    w.self.connections.nodupKeys w₁
    (fun e he => AList.mem_lookup_iff.mpr he)
    (fun k c h => .inr (AList.mem_lookup_iff.mp h))
  have hclear := run_clearConnections
    (w := { self := { w₁.self with connections := C },
            trace := closings w.self.connections.entries ++ w₁.trace })
    (fun k c h => ClientConnection.destructible_of_closed (hC k c h))
  have hkeys : w₁.self.connections.keys = w.self.connections.entries.keys := rfl
  simp only [closeConnection, EStateM.run_bind, EStateM.run_modify, run_logInfo,
    EStateM.run_get]
  simp only [hrun, hclear, hkeys, w₁]
  rfl

/-! ### Opening -/

/-- The listening socket an opening creates. -/
def newSocket (net : ISteamNetworkingSockets) (w : World Server) : HSteamListenSocket :=
  net.createListenSocketIP w.trace w.self.address

def listenFailure (w : World Server) : Event :=
  .log .error ("Failed to listen on port " ++ toString w.self.serverPort)

/-- What has happened when an opening has created its listening socket. -/
def listenTrace (net : ISteamNetworkingSockets) (w : World Server) : Trace :=
  (if newSocket net w = 0 then [listenFailure w] else []) ++
    .createListenSocketIP (newSocket net w) :: w.trace

/-- The poll group an opening creates. -/
def newGroup (net : ISteamNetworkingSockets) (w : World Server) : HSteamNetPollGroup :=
  net.createPollGroup (listenTrace net w)

/-- The world after an opening whose address could be parsed. -/
def opened (net : ISteamNetworkingSockets) (w : World Server) : World Server where
  self :=
    { w.self with
      listeningSocket := newSocket net w
      pollGroup := newGroup net w
      running := newSocket net w ≠ 0 ∧ newGroup net w ≠ 0 }
  trace :=
    .log .info ("Server listening on port " ++ toString w.self.serverPort) ::
      ((if newGroup net w = 0 then [listenFailure w] else []) ++
        .createPollGroup (newGroup net w) :: listenTrace net w)

/-- The world after an opening whose address could not be parsed. -/
def notOpened (w : World Server) : World Server where
  self := { w.self with running := false }
  trace := .log .error "Invalid server address format" :: w.trace

/-- An opening whose address cannot be parsed opens nothing. -/
theorem run_openConnection_unparsed {w : World Server}
    (h : net.parseString w.trace w.self.address = false) :
  (openConnection net).run w = .ok () (notOpened w)
  := by
  simp [openConnection, h, notOpened]

/-- An opening whose address can be parsed creates the listening socket and the poll group,
whether or not either of them is valid. -/
theorem run_openConnection_parsed {w : World Server}
    (h : net.parseString w.trace w.self.address) :
  (openConnection net).run w = .ok () (opened net w)
  := by
  by_cases hs : net.createListenSocketIP w.trace w.self.address = 0
  · by_cases hg : net.createPollGroup
        (.log .error ("Failed to listen on port " ++ toString w.self.serverPort) ::
          .createListenSocketIP 0 :: w.trace) = 0
    · simp [openConnection, when, h, opened, newSocket, listenTrace, newGroup, listenFailure, hs,
        hg]
    · simp [openConnection, when, h, opened, newSocket, listenTrace, newGroup, listenFailure, hs,
        hg]
  · by_cases hg : net.createPollGroup
        (.createListenSocketIP (net.createListenSocketIP w.trace w.self.address) :: w.trace) = 0
    · simp [openConnection, when, h, opened, newSocket, listenTrace, newGroup, listenFailure, hs,
        hg]
    · simp [openConnection, when, h, opened, newSocket, listenTrace, newGroup, hs, hg]

/-! ### Updating the server -/

/-- The server ignores updates: it has been asked to quit, or it is not running. -/
def Stopped (w : World Server) : Prop :=
  w.self.quitRequested = true ∨ w.self.running = false

instance (w : World Server) : Decidable (Stopped w) :=
  inferInstanceAs (Decidable (_ ∨ _))

/-- An update of a stopped server does nothing. -/
theorem run_updateConnection_stopped {w : World Server} (h : Stopped w) :
  (updateConnection net).run w = .ok () w
  := by
  rcases h with h | h
  · simp [updateConnection, h]
  · simp [updateConnection, h]

/-- The parts of an update of a server that does not ignore it. -/
theorem run_updateConnection_active {w : World Server} (h : ¬ Stopped w) :
  (updateConnection net).run w
    = (do
        processPendingPackets net
        processConnectionStateChanges net
        processUserInput : ServerM Unit).run w
  := by
  simp only [Stopped, not_or, Bool.not_eq_true, Bool.not_eq_false] at h
  simp [updateConnection, h]

/-- The closings of a registry are those of its entries. -/
theorem mem_closings {es : List (Sigma fun _ : HSteamNetConnection => ClientConnection)}
    {e : Event} :
  e ∈ closings es ↔ ∃ entry ∈ es, e = .closeConnection entry.2.netConnection
  := by
  simp [closings, eq_comm]

/-- `accept` keeps the handle, and leaves a connection closed only if it was. -/
theorem accept_entry (net : ISteamNetworkingSockets) (client : ClientConnection) (t : Trace) :
  (client.accept net t).2.1.netConnection = client.netConnection ∧
    ((client.accept net t).2.1.closed → client.closed) ∧
    ∃ ok, (client.accept net t).2.2 = .acceptConnection client.netConnection ok :: t
  := by
  unfold ClientConnection.accept
  split
  · simp [ClientConnection.closed]
  · simp

/-- `setPollGroup` keeps the handle and the state. -/
theorem setPollGroup_entry (net : ISteamNetworkingSockets) (client : ClientConnection)
    (g : HSteamNetPollGroup) (t : Trace) :
  (client.setPollGroup net g t).2.1.netConnection = client.netConnection ∧
    ((client.setPollGroup net g t).2.1.closed → client.closed) ∧
    (client.setPollGroup net g t).2.2
      = .setConnectionPollGroup client.netConnection g
          (net.setConnectionPollGroup t client.netConnection g) :: t
  := by
  unfold ClientConnection.setPollGroup
  split
  · rename_i h
    simp [ClientConnection.closed, h]
  · rename_i h
    simp [h]

end Server

end Chs
