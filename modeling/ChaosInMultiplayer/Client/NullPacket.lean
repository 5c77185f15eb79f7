import ChaosInMultiplayer.Client.Effect
import ChaosInMultiplayer.Common.QueueNetworking
import ChaosInMultiplayer.Examples.ExampleClient

/-!
# Receiving on a connection that is not opened

The receive loop of the client goes on after an error, with the null pointer it gave to the
networking library.  The pointer is used exactly if the loop asks for a message on a
connection that has been closed: by the time an update starts, or by the packet callback
at a packet that is not the last one the loop can receive.
-/

namespace Chs

namespace Client

open Program

variable {net : ISteamNetworkingSockets}

/-- The connection of the client is opened. -/
def ConnectionOpened (w : World Client) : Prop :=
  Opened w.self.serverConnection w.trace

/-- The number of packets an update can receive. -/
def loopLimit (w : World Client) : Nat :=
  w.self.maxProcessedPackets.toInt.toNat

theorem loopLimit_lt (w : World Client) :
  loopLimit w < 2147483648
  := by
  have hlt := w.self.maxProcessedPackets.toInt_lt
  rw [loopLimit]
  omega

/-- The comparison of the receive loop is one with its limit. -/
theorem below_loopLimit_iff (w : World Client) (index : Nat) :
  decide ((index : Int) < w.self.maxProcessedPackets.toInt) ↔ index < loopLimit w
  := by
  rw [decide_eq_true_iff, loopLimit]
  omega

/-- From `w`, the receive loop starts over with the given index in the given world. -/
abbrev Iterated (net : ISteamNetworkingSockets) (w : World Client) : Nat → World Client → Prop :=
  Program.Iterated (receivePacket net) (loopLimit w) w

/-- Whenever the receive loop starts or starts over with a connection that is not opened, it has
reached its limit. -/
def OpenedUntilLast (net : ISteamNetworkingSockets) (w : World Client) : Prop :=
  ∀ j w', Iterated net w j w' → ¬ ConnectionOpened w' → j = loopLimit w

/-- If the step is an update, it receives only while the connection is opened. -/
def UpdateOpenedUntilLast (net : ISteamNetworkingSockets) (w : World Client) :
    ClientStep → Prop
  | .updateConnection => OpenedUntilLast net w
  | _ => True

/-! ### The limit and the other faults -/

/-- The limit of the receive loop is the same in the two worlds. -/
def SameLimit (w w' : World Client) : Prop :=
  w'.self.maxProcessedPackets = w.self.maxProcessedPackets

instance : Std.Refl SameLimit where
  refl _ := rfl

instance : IsTrans (World Client) SameLimit where
  trans _ _ _ h h' := Eq.trans h' h

/-- No call of a callback changes the limit. -/
theorem sameLimit_follows :
  Follows net SameLimit fun _ => True
  := ⟨fun _ _ _ => rfl, fun _ _ => rfl⟩

theorem CallFault.ne_null {fault : Fault} (h : CallFault fault) :
  fault ≠ .nullDereference
  := by
  cases h <;> simp

theorem StatusFault.ne_null {fault : Fault} (h : StatusFault fault) :
  fault ≠ .nullDereference
  := by
  cases h with
  | ofCall h => apply h.ne_null
  | _ => simp

/-! ### Receiving one packet -/

/-- With a message the body of the receive loop passes its packet, releases it and goes on. -/
theorem run_receivePacket_some {w : World Client} {m : Message}
    (h : net.receiveMessagesOnConnection w.trace w.self.serverConnection = (1, some m)) :
  (receivePacket net).run w = (do
      processPendingPacket net (some m)
      release (some m)
      return true : ClientM Bool).run
        { w with
          trace := .receiveMessagesOnConnection w.self.serverConnection 1 (some m) :: w.trace }
  := by
  simp [receivePacket, h, when]

/-- What is left to do with a message that has been received raises what the packet callback
raises. -/
theorem deliver_raises (m : Message) :
  Raises (fun _ => True) CallFault (do
    processPendingPacket net (some m)
    release (some m)
    return true : ClientM Bool)
  := by
  apply Raises.bind_true (processPendingPacket_raises m)
  intro _
  apply Raises.bind_true
  · apply Raises.modify
  intro _
  apply Raises.pure

/-- The body of the receive loop uses a null pointer exactly if the connection is not opened. -/
theorem receivePacket_null_iff (hnet : net.ReceivesWhileOpened) (w : World Client) :
  (∃ w', (receivePacket net).run w = .error .nullDereference w') ↔ ¬ ConnectionOpened w
  := by
  obtain ⟨hopened, hnot⟩ := hnet w.trace w.self.serverConnection
  constructor
  · rintro ⟨w', h⟩ hw
    rcases hopened hw with hnone | ⟨m, hsome⟩
    · simp only [receivePacket, EStateM.run_bind, EStateM.run_get, hnone] at h
      cases h
    · rw [run_receivePacket_some hsome] at h
      exact (deliver_raises m _ _ w' trivial h).ne_null rfl
  · intro hw
    obtain ⟨n, hn, hnone⟩ := hnot hw
    have hne : n ≠ 0 := by omega
    use { w with
      trace := .log .error "Error checking for messages" ::
        .receiveMessagesOnConnection w.self.serverConnection n none :: w.trace }
    -- Without a packet callback, the null pointer is used by the release.
    cases hcb : w.self.packetCallback with
    | none =>
        simp only [receivePacket, EStateM.run_bind, EStateM.run_get, hnone, if_neg hne, when,
          if_pos hn, run_emit, run_logError, processPendingPacket, hcb]
        rfl
    | some callback => simp [receivePacket, hnone, hn, hne, when, processPendingPacket, hcb]

/-! ### Updates -/

/-- The exceptions of the receive loop are those of its body. -/
theorem processReceivedPackets_raised_iff {fault : Fault} (hne : fault ≠ .signedOverflow)
    (w : World Client) :
  (∃ w', (processReceivedPackets net).run w = .error fault w')
    ↔ ∃ j w₁, Iterated net w j w₁ ∧ j < loopLimit w ∧
        ∃ w', (receivePacket net).run w₁ = .error fault w'
  := by
  have hbound : ∀ w w', (receivePacket net).run w = .ok true w' → loopLimit w' = loopLimit w := by
    intro w w' h
    have hsame := receivePacket_moves (@sameLimit_follows net) (fun _ _ => trivial) w
    rw [exit_ok h] at hsame
    rw [loopLimit, loopLimit, hsame]
  have hmin : min (loopLimit w) 2147483648 = loopLimit w :=
    Nat.min_eq_left (Nat.le_of_lt (loopLimit_lt w))
  have hloop := countedLoop_error_iff below_loopLimit_iff hbound hne 2147483648 w
  rw [hmin] at hloop
  exact hloop

/-- The receive loop uses a null pointer exactly if it starts over without an opened connection
before its limit. -/
theorem processReceivedPackets_null_iff (hnet : net.ReceivesWhileOpened) (w : World Client) :
  (∃ w', (processReceivedPackets net).run w = .error .nullDereference w')
    ↔ ¬ OpenedUntilLast net w
  := by
  rw [processReceivedPackets_raised_iff (by simp)]
  constructor
  · rintro ⟨j, w₁, hiter, hj, hnull⟩ hlast
    have hclosed := (receivePacket_null_iff hnet w₁).mp hnull
    rw [hlast j w₁ hiter hclosed] at hj
    apply Nat.lt_irrefl _ hj
  · intro hnot
    simp only [OpenedUntilLast, not_forall] at hnot
    obtain ⟨j, w₁, hiter, hclosed, hj⟩ := hnot
    use j, w₁, hiter, Nat.lt_of_le_of_ne hiter.index_le hj
    apply (receivePacket_null_iff hnet w₁).mpr hclosed

/-- An update uses a null pointer exactly if its receive loop does. -/
theorem updateConnection_null_iff (hnet : net.ReceivesWhileOpened) (w : World Client) :
  (∃ w', (updateConnection net).run w = .error .nullDereference w') ↔ ¬ OpenedUntilLast net w
  := by
  rw [← processReceivedPackets_null_iff hnet]
  constructor
  · rintro ⟨w', h⟩
    rcases run_bind_eq_error h with h | ⟨_, w₁, _, h⟩
    · use w'
    · exact absurd rfl (processConnectionStateChanges_raises w₁ _ w' trivial h).ne_null
  · rintro ⟨w', h⟩
    use w'
    rw [updateConnection, EStateM.run_bind, h]

/-- Only an update uses a null pointer, and only as its receive loop does. -/
theorem step_null_iff (hnet : net.ReceivesWhileOpened) (w : World Client) (s : ClientStep) :
  (∃ w', (step net s).run w = .error .nullDereference w') ↔ ¬ UpdateOpenedUntilLast net w s
  := by
  cases s with
  | updateConnection => exact updateConnection_null_iff hnet w
  | call c =>
      have hraises : Raises (fun _ => True) CallFault (step net (.call c)) := by
        apply Raises.bind_true (perform_raises c)
        intro _
        apply Raises.pure
      simp only [UpdateOpenedUntilLast, not_true_eq_false, iff_false, not_exists]
      intro w' h
      exact absurd rfl (hraises w _ w' trivial h).ne_null
  | _ =>
      simp only [UpdateOpenedUntilLast, not_true_eq_false, iff_false, not_exists]
      intro w' h
      cases h

/-! ### Runs -/

/-- No run of the steps from `w` ends with the use of a null packet. -/
def NeverNull (net : ISteamNetworkingSockets) (steps : List ClientStep) (w : World Client) :
    Prop :=
  ∀ w', (runSteps net steps).run w ≠ .error .nullDereference w'

/-- In a run that starts by initialising the connection, no null packet is used exactly if every
update receives only while the connection is opened. -/
theorem run_neverNull_iff (hnet : net.ReceivesWhileOpened)
    (serverConnection : HSteamNetConnection) (ip : String) (port : UInt32)
    (steps : List ClientStep) :
  NeverNull net (.call (.initializeConnection ip port) :: steps) (newClient serverConnection)
    ↔ Along (step net) (UpdateOpenedUntilLast net) (newClient serverConnection)
        (.call (.initializeConnection ip port) :: steps)
  := by
  have hiff := Along.error_iff (step_null_iff hnet)
    (.call (.initializeConnection ip port) :: steps) (newClient serverConnection)
  rw [← not_iff_not, ← hiff, NeverNull]
  simp only [not_forall, ne_eq, not_not]
  rfl

/-- The example client, whose server refuses it. -/
def refused : List ClientStep :=
  [.setConnectionStatusChangeCallback (some ExampleClient.connectionStatusChangeCallback),
    .updateConnection, .queue ⟨1, .connecting, .closedByPeer⟩, .updateConnection,
    .updateConnection]

/-- A client that is refused while it has packets pending. -/
theorem refused_neverNull_iff :
  NeverNull queueNetworking (.call (.initializeConnection "127.0.0.1" 8080) :: refused)
      (newClient 0)
    ↔ Along (step queueNetworking) (UpdateOpenedUntilLast queueNetworking) (newClient 0)
        (.call (.initializeConnection "127.0.0.1" 8080) :: refused)
  := run_neverNull_iff queueNetworking_receivesWhileOpened 0 "127.0.0.1" 8080 refused

/-- When the server refuses the example client, its callback closes the connection, and the next
update uses a null packet. -/
theorem refused_null :
  ¬ NeverNull queueNetworking (.call (.initializeConnection "127.0.0.1" 8080) :: refused)
      (newClient 0)
  := by
  intro h
  have hfault : ∃ w, (runSteps queueNetworking
      (.call (.initializeConnection "127.0.0.1" 8080) :: refused)).run (newClient 0)
      = .error .nullDereference w := ⟨_, rfl⟩
  obtain ⟨w, hw⟩ := hfault
  apply h w hw

end Client

end Chs
