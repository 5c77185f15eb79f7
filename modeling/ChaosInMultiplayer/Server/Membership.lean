import ChaosInMultiplayer.Server.Receive

/-!
# Received packets and the registry

While the server is running, its poll group is held, so a message it receives belongs to a
connection of that group, and the connections of the group are registered.  The packet
callback may close, remove and erase connections meanwhile; it only must not close the
server, whose poll group is the one the receive loop keeps asking.
-/

namespace Chs

namespace Server

open Program

variable {net : ISteamNetworkingSockets}

/-! ### The receive loop -/

/-- The registry holds the connections in poll groups, and a running server its own poll
group. -/
def RegistryServed (w : World Server) : Prop :=
  RegistryGrouped w ∧ HoldsPollGroup w

/-- Every step keeps the connections in poll groups registered, and a running server its own poll
group. -/
theorem step_keeps_served (hnet : net.RefusesClosed) (s : ServerStep) :
  Keeps RegistryServed (step net s)
  := by
  intro w hw
  constructor
  · apply step_keeps_grouped hnet s w hw.1
  · have hkeeps : Keeps HoldsPollGroup (step net s) := by
      apply step_keeps
      · intro w w' h hw
        apply h.keeps_holdsPollGroup hw
      · intro w _
        apply opened_holdsPollGroup
      · intro w _ hrun
        cases hrun
      · intro w _ _ _ hw
        apply hw
    apply hkeeps w hw.2

/-- The packet callback never closes the server. -/
def PacketCallbackLeavesOpen (w : World Server) : Prop :=
  PacketCallbackOnly (· ≠ .closeConnection) w

/-- The state of the server during its receive loop. -/
structure Receiving (w : World Server) : Prop where
  grouped : RegistryGrouped w
  held : w.self.pollGroup ∈ heldPollGroups w.trace
  leavesOpen : PacketCallbackLeavesOpen w

/-- Effects keep the members of the poll groups registered. -/
theorem Effects.keeps_grouped (hnet : net.RefusesClosed) {allowed : Allowed} {w w' : World Server}
    (h : Effects net allowed w w') (hw : RegistryGrouped w) :
  RegistryGrouped w'
  := by
  induction h with
  | refl => apply hw
  | tail _ hs ih => apply hs.keeps_grouped hnet ih

/-- Effects that do not close the server leave it receiving. -/
theorem Effects.keeps_receiving (hnet : net.RefusesClosed) {allowed : Allowed}
    (hopen : ¬ allowed.closing) {w w' : World Server} (h : Effects net allowed w w')
    (hw : Receiving w) :
  Receiving w'
  := by
  have hsame := h.sameResources hopen
  constructor
  · apply h.keeps_grouped hnet hw.grouped
  · rw [hsame.pollGroup, hsame.pollGroups]
    apply hw.held
  · intro callback hcallback
    rw [h.keeps_settings.1] at hcallback
    apply hw.leavesOpen callback hcallback

/-- A packet callback that never closes the server has effects that leave it open. -/
theorem PacketCallbackLeavesOpen.permits {w : World Server} (h : PacketCallbackLeavesOpen w) :
  PacketCallbackOnly (Allowed.packets False True).Permits w
  := by
  intro callback hcallback k packet t
  apply (h callback hcallback k packet t).mono
  intro c hc
  exact ⟨hc, fun _ => trivial⟩

/-- The body of the receive loop keeps the server receiving. -/
theorem receivePacket_keeps_receiving (hnet : net.RefusesClosed) :
  Keeps Receiving (receivePacket net)
  := by
  intro w hw
  have hmoves : Moves (PacketEffects net False True) (receivePacket net) := receivePacket_moves
  apply (hmoves w hw.leavesOpen.permits).keeps_receiving hnet id hw

/-- The fault is neither a packet of a connection that is not registered nor the use of a
null message. -/
def NotStray (fault : Fault) : Prop :=
  fault ≠ .assertionFailed .pendingPacketRegistered ∧ fault ≠ .nullDereference

theorem CallFault.notStray {fault : Fault} (h : CallFault fault) :
  NotStray fault
  := by
  cases h <;> simp [NotStray]

theorem StatusFault.notStray {fault : Fault} (h : StatusFault fault) :
  NotStray fault
  := by
  cases h with
  | ofCall h => apply h.notStray
  | _ => simp [NotStray]

/-- A packet that is received belongs to a registered connection. -/
theorem receivePacket_raises_notStray (hmembers : net.ReceivesFromMembers) :
  Raises Receiving NotStray (receivePacket net)
  := by
  intro w fault w' hw h
  rcases hmembers w.trace w.self.pollGroup hw.held with hnone | ⟨m, hsome, hgroup⟩
  · rw [run_receivePacket_none hnone] at h
    cases h
  · have hmem : m.conn ∈ (received w (1, some m)).self.connections := by
      apply hw.grouped.2.member
      rw [hgroup]
      simp
    rw [run_receivePacket_some hsome] at h
    rcases run_bind_eq_error h with h | ⟨_, w₁, _, h⟩
    · rw [run_processPendingPacket_registered hmem] at h
      have hraises : Raises (fun _ => True) NotStray (callPacketCallback net m.conn m.packet) :=
        callPacketCallback_raises (fun _ => CallFault.notStray) (by simp [NotStray]) _ _
      apply hraises _ _ _ trivial h
    · cases h

/-- While the server receives, no message has a sender that is not registered. -/
theorem processPendingPackets_raises_notStray (hnet : net.RefusesClosed)
    (hmembers : net.ReceivesFromMembers) :
  Raises Receiving NotStray (processPendingPackets net)
  := by
  apply processPendingPackets_raises_of
  · apply receivePacket_keeps_receiving hnet
  · apply receivePacket_raises_notStray hmembers
  · simp [NotStray]

/-! ### Runs -/

/-- The step installs no packet callback that closes the server. -/
def LeavesOpen : ServerStep → Prop
  | .setPacketCallback (some callback) =>
      ∀ k packet t, (callback k packet t).Only (· ≠ .closeConnection)
  | _ => True

/-- Steps whose packet callbacks leave the server open keep it so. -/
theorem step_keeps_leavesOpen {s : ServerStep} (hs : LeavesOpen s) :
  Keeps PacketCallbackLeavesOpen (step net s)
  := by
  intro w hw callback hcallback
  rw [step_packetCallback] at hcallback
  cases s with
  | setPacketCallback new =>
      subst hcallback
      apply hs
  | _ => apply hw callback hcallback

/-- No step of a run processes a packet of a connection that is not registered. -/
theorem step_raises_notStray (hnet : net.RefusesClosed) (hmembers : net.ReceivesFromMembers)
    (s : ServerStep) :
  Raises (fun w => RegistryServed w ∧ PacketCallbackLeavesOpen w) NotStray (step net s)
  := by
  cases s with
  | openConnection => apply openConnection_raises
  | updateConnection =>
      apply updateConnection_raises
      · rintro fault w w' ⟨⟨hgrouped, hheld⟩, hopen⟩ hrun h
        apply processPendingPackets_raises_notStray hnet hmembers w fault w' _ h
        exact ⟨hgrouped, hheld hrun, hopen⟩
      · intro fault h
        apply h.notStray
  | call c =>
      intro w fault w' _ h
      apply (call_raises c w fault w' trivial h).notStray
  | _ => exact .modify _

/-- A run of the server from `w` processes packets of registered connections only. -/
def ProcessesRegistered (net : ISteamNetworkingSockets) (steps : List ServerStep)
    (w : World Server) : Prop :=
  ∀ fault w', (runSteps net steps).run w = .error fault w' → NotStray fault

/-- Every packet the server processes comes from a registered connection, in every run whose
packet callbacks do not close the server. -/
theorem run_processes_registered (hnet : net.RefusesClosed) (hmembers : net.ReceivesFromMembers)
    (steps : List ServerStep) (hsteps : ∀ s ∈ steps, LeavesOpen s) (ip : String) (port : UInt32)
    (socket : HSteamListenSocket) (group : HSteamNetPollGroup) :
  ProcessesRegistered net steps (newServer ip port socket group)
  := by
  have hraises : Raises (fun w => RegistryServed w ∧ PacketCallbackLeavesOpen w) NotStray
      (runSteps net steps) := by
    apply Raises.forM
    · intro s hs w hw
      exact ⟨step_keeps_served hnet s w hw.1, step_keeps_leavesOpen (hsteps s hs) w hw.2⟩
    · intro s _
      apply step_raises_notStray hnet hmembers
  intro fault w h
  apply hraises _ _ _ _ h
  constructor
  · use newServer_grouped ip port socket group
    intro hrun
    cases hrun
  · intro callback hcallback
    cases hcallback

/-- A status callback that registers and accepts every connection and puts it in the server's
poll group. -/
def registerInGroup : ConnectionStatusChangeCallback := fun change _ => do
  Script.request (ServerCall.createClientConnection change.connection)
  let _ ← Script.request (ServerCall.accept change.connection)
  let group ← Script.request ServerCall.pollGroup
  let _ ← Script.request (ServerCall.setPollGroup change.connection group)

/-- A packet callback that closes every client that sends something. -/
def closeSender : PacketCallback := fun k _ _ =>
  Script.request (ServerCall.closeClientConnection k)

/-- Two clients send, and each is closed by the packet callback. -/
def sendersClosed : List ServerStep :=
  [.setPacketCallback (some closeSender),
    .setConnectionStatusChangeCallback (some registerInGroup), .openConnection,
    .queue ⟨1, .none, .connecting⟩, .queue ⟨2, .none, .connecting⟩, .updateConnection,
    .arrive ⟨1, [65], 1⟩, .arrive ⟨2, [66], 1⟩, .arrive ⟨1, [67], 1⟩, .updateConnection]

/-- A packet callback that closes the sender of each packet, with two senders. -/
theorem sendersClosed_processes_registered :
  ProcessesRegistered queueNetworking sendersClosed (newServer "127.0.0.1" 8080 0 0) ∧
    .packetCallback 2 ⟨[66]⟩
      ∈ (exit (runSteps queueNetworking sendersClosed) (newServer "127.0.0.1" 8080 0 0)).trace
  := by
  constructor
  · apply run_processes_registered queueNetworking_refusesClosed
      queueNetworking_receivesInOrder.fromMembers
    simp [sendersClosed, LeavesOpen, closeSender, Script.request, Script.Only]
  · decide +kernel

end Server

end Chs
