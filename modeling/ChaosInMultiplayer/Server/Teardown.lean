import ChaosInMultiplayer.Common.QueueNetworking
import ChaosInMultiplayer.Server.Fault

/-!
# Destruction of the server

The destructor of a connection object asserts that the connection has been closed.  The
server's destructor returns early when the server is not running, and the registry is then
destroyed as it is.  So the assertion holds, and every connection that was ever registered
is closed in the end, when the server is running or has no open entry at its destruction.
-/

namespace Chs

namespace Server

open Program

variable {net : ISteamNetworkingSockets}

/-- The fault is not the failure of the assertion in the destructor of a connection. -/
def NotDestroyedOpen (fault : Fault) : Prop :=
  fault ≠ .assertionFailed .closedWhenDestroyed

theorem CallFault.notDestroyedOpen {fault : Fault} (h : CallFault fault) :
  NotDestroyedOpen fault
  := by
  cases h <;> simp [NotDestroyedOpen]

theorem PacketFault.notDestroyedOpen {fault : Fault} (h : PacketFault fault) :
  NotDestroyedOpen fault
  := by
  cases h with
  | ofCall h => apply h.notDestroyedOpen
  | _ => simp [NotDestroyedOpen]

theorem StatusFault.notDestroyedOpen {fault : Fault} (h : StatusFault fault) :
  NotDestroyedOpen fault
  := by
  cases h with
  | ofCall h => apply h.notDestroyedOpen
  | _ => simp [NotDestroyedOpen]

/-- No step of a run destroys an open connection. -/
theorem step_raises (s : ServerStep) :
  Raises (fun _ => True) NotDestroyedOpen (step net s)
  := by
  cases s with
  | openConnection =>
      apply Raises.of_run_ok
      intro w _
      cases h : net.parseString w.trace w.self.address with
      | true => exact ⟨_, _, run_openConnection_parsed h⟩
      | false => exact ⟨_, _, run_openConnection_unparsed h⟩
  | updateConnection =>
      apply updateConnection_raises
      · intro fault w w' _ _ h
        apply (processPendingPackets_raises w fault w' trivial h).notDestroyedOpen
      · intro fault h
        apply h.notDestroyedOpen
  | call c =>
      apply Raises.bind_true
      · exact (perform_raises c).mono (fun _ h => h) fun _ h => h.notDestroyedOpen
      · intro _
        apply Raises.pure
  | _ => exact .modify _

/-! ### The destructor -/

/-- The server can be destroyed: it is running, or all its entries are closed. -/
def Destructible (w : World Server) : Prop :=
  w.self.running ∨ ∀ k c, w.self.connections.lookup k = some c → c.closed

/-- The destructor of a running server closes it; otherwise it only clears the registry. -/
theorem run_destruct {w : World Server} (h : Destructible w) :
  destruct.run w = .ok () (if w.self.running then shutdown w
    else { w with self := { w.self with connections := ∅ } })
  := by
  by_cases hrun : w.self.running
  · have hclear : clearConnections.run (shutdown w) = .ok () (shutdown w) :=
      run_clearConnections (by simp [shutdown])
    simp [destruct, when, hrun, run_closeConnection, hclear]
  · have hclear := run_clearConnections (w := w) (fun k c hk =>
      ClientConnection.destructible_of_closed ((h.resolve_left hrun) k c hk))
    simp [destruct, when, hrun, hclear]

/-- The life of a server: a run, and its destruction. -/
def life (net : ISteamNetworkingSockets) (steps : List ServerStep) : ServerM Unit := do
  runSteps net steps
  destruct

/-- No connection is destroyed open, and after the destruction of the server every connection
that was ever registered has been closed. -/
def ClosesConnections (net : ISteamNetworkingSockets) (steps : List ServerStep)
    (w : World Server) : Prop :=
  (∀ fault w', (life net steps).run w = .error fault w' → NotDestroyedOpen fault) ∧
    ∀ w', (life net steps).run w = .ok () w' →
      ∀ k, .registered k ∈ w'.trace → .closeConnection k ∈ w'.trace

/-- Whatever the server has done, no connection is destroyed open and all of them are closed
in the end, if the server can be destroyed when its run ends. -/
theorem life_closes_connections (steps : List ServerStep) (ip : String) (port : UInt32)
    (socket : HSteamListenSocket) (group : HSteamNetPollGroup)
    (hcan : ∀ w, (runSteps net steps).run (newServer ip port socket group) = .ok () w →
      Destructible w) :
  ClosesConnections net steps (newServer ip port socket group)
  := by
  constructor
  · intro fault w h
    rcases run_bind_eq_error h with h | ⟨_, w₁, h₁, h⟩
    · have hraises : Raises (fun _ => True) NotDestroyedOpen (runSteps net steps) :=
        Raises.forM (fun _ _ => keeps_true _) fun s _ => step_raises s
      apply hraises _ _ _ trivial h
    · rw [run_destruct (hcan w₁ h₁)] at h
      cases h
  · intro w h k hk
    obtain ⟨_, w₁, h₁, h⟩ := run_bind_eq_ok h
    have hw₁ : RegistryCoupled w₁ := by
      rw [← exit_ok h₁]
      apply runSteps_coupled steps (newServer_coupled ip port socket group)
    rw [run_destruct (hcan w₁ h₁)] at h
    cases h
    by_cases hrun : w₁.self.running
    · rw [if_pos hrun] at hk ⊢
      have hdown : AnyEffect net w₁ (shutdown w₁) := .shutdown trivial
      rcases (hdown.keeps_coupled hw₁).registered k hk with hk | hk
      · simp [shutdown] at hk
      · apply hk
    · rw [if_neg hrun] at hk ⊢
      rcases hw₁.registered k hk with hk | hk
      · obtain ⟨client, hclient⟩ := Option.isSome_iff_exists.mp (AList.lookup_isSome.mpr hk)
        apply hw₁.closed k client hclient
        apply (hcan w₁ h₁).resolve_left hrun k client hclient
      · apply hk

/-- A status callback that closes the server on an event of connection `1` and registers every
other connection. -/
def closeOrRegister : ConnectionStatusChangeCallback := fun change _ =>
  if change.connection = 1 then Script.request ServerCall.closeConnection
  else Script.request (ServerCall.createClientConnection change.connection)

/-- A server that is running when it is destroyed, with one connection registered. -/
def earlyConnecting : List ServerStep :=
  [.setConnectionStatusChangeCallback (some closeOrRegister), .openConnection,
    .queue ⟨2, .none, .connecting⟩, .updateConnection]

/-- The server is running when it is destroyed, with one connection registered. -/
theorem earlyConnecting_closes_connections :
  ClosesConnections queueNetworking earlyConnecting (newServer "127.0.0.1" 8080 0 0)
  := by
  apply life_closes_connections
  intro w h
  rw [← exit_ok h]
  left
  rfl

/-- A server that is closed by its status callback while the event of another connection is
still to be dispatched. -/
def lateConnecting : List ServerStep :=
  [.setConnectionStatusChangeCallback (some closeOrRegister), .openConnection,
    .queue ⟨1, .none, .connecting⟩, .queue ⟨2, .none, .connecting⟩, .updateConnection]

/-- A connection that is registered after the server has been closed is destroyed open. -/
theorem lateConnecting_destroys_open :
  ¬ ClosesConnections queueNetworking lateConnecting (newServer "127.0.0.1" 8080 0 0)
  := by
  intro h
  have hfault : ∃ w, (life queueNetworking lateConnecting).run (newServer "127.0.0.1" 8080 0 0)
      = .error (.assertionFailed .closedWhenDestroyed) w := ⟨_, rfl⟩
  obtain ⟨w, hw⟩ := hfault
  apply h.1 _ w hw
  rfl

end Server

end Chs
