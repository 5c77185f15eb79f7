import ChaosInMultiplayer.Server.Resources

/-!
# The receive loop

The body of the receive loop asks the poll group for a message, hands it to the packet
callback and releases it.  `Iterated` describes the states in which the loop starts over,
with the number of messages handed over so far; `loopLimit` bounds that number.
-/

namespace Chs

namespace Server

open Program

variable {net : ISteamNetworkingSockets}

/-! ### Receiving one packet -/

/-- The world after the poll group has been asked for a message. -/
def received (w : World Server) (answer : Int × Option Message) : World Server where
  self := w.self
  trace := .receiveMessagesOnPollGroup w.self.pollGroup answer.1 answer.2 :: w.trace

/-- The processing and the release of a received message. -/
def deliver (net : ISteamNetworkingSockets) (m : Message) : ServerM Bool := do
  processPendingPacket net (some m)
  release (some m)
  return true

/-- The body of the receive loop processes what the poll group has answered. -/
theorem run_receivePacket_answer {w : World Server} {answer : Int × Option Message}
    (h : net.receiveMessagesOnPollGroup w.trace w.self.pollGroup = answer) :
  (receivePacket net).run w
    = (if answer.1 = 0 then return false else do
        when (answer.1 < 0) (logError "Error checking for messages")
        processPendingPacket net answer.2
        release answer.2
        return true : ServerM Bool).run (received w answer)
  := by
  subst h
  rfl

/-- Without a message the receive loop ends. -/
theorem run_receivePacket_none {w : World Server}
    (h : net.receiveMessagesOnPollGroup w.trace w.self.pollGroup = (0, none)) :
  (receivePacket net).run w = .ok false (received w (0, none))
  := run_receivePacket_answer h

/-- A message that has been received is delivered. -/
theorem run_receivePacket_some {w : World Server} {m : Message}
    (h : net.receiveMessagesOnPollGroup w.trace w.self.pollGroup = (1, some m)) :
  (receivePacket net).run w = (deliver net m).run (received w (1, some m))
  := run_receivePacket_answer h

/-- The message of a registered connection is handed to the packet callback. -/
theorem run_processPendingPacket_registered {w : World Server} {m : Message}
    (h : m.conn ∈ w.self.connections) :
  (processPendingPacket net (some m)).run w = (callPacketCallback net m.conn m.packet).run w
  := by
  simp [processPendingPacket, h]

/-- The sender of a message is asserted to be registered. -/
theorem run_processPendingPacket_unregistered {w : World Server} {m : Message}
    (h : m.conn ∉ w.self.connections) :
  (processPendingPacket net (some m)).run w
    = .error (.assertionFailed .pendingPacketRegistered) w
  := by
  simp [processPendingPacket, h]

/-- The world in which the packet callback is called. -/
def called (w : World Server) (m : Message) : World Server where
  self := w.self
  trace := .packetCallback m.conn m.packet :: w.trace

/-- What is left to do with a message when the packet callback has been called. -/
def invoke (net : ISteamNetworkingSockets) (callback : PacketCallback) (m : Message) :
    ServerM Bool := do
  let w ← get
  (callback m.conn m.packet w.trace).run (perform net)
  emit (.packetCallbackReturned m.conn)
  release (some m)
  return true

/-- The events after the call of the packet callback. -/
def Event.answers : Event → Bool
  | .packetCallbackReturned _ => true
  | .release _ => true
  | _ => false

/-- After the call of the packet callback there are only the effects of its calls, its return
and the release of the message. -/
theorem invoke_moves {closing disconnecting : Prop} {callback : PacketCallback} (m : Message)
    (hcalls : ∀ k packet t,
      (callback k packet t).Only (Allowed.mk closing disconnecting Event.answers).Permits) :
  Moves (Effects net ⟨closing, disconnecting, Event.answers⟩) (invoke net callback m)
  := by
  apply Moves.get_bind
  intro w
  apply Moves.bind (script_moves (hcalls _ _ _))
  intro _
  apply Moves.bind (emit_moves rfl rfl)
  intro _
  apply Moves.bind
  · exact emit_moves rfl rfl
  · intro _
    apply Moves.pure

/-- The message of a registered client is passed to the packet callback. -/
theorem run_deliver_registered {w : World Server} {m : Message} {callback : PacketCallback}
    (h : m.conn ∈ w.self.connections) (hcb : w.self.packetCallback = some callback) :
  (deliver net m).run w = (invoke net callback m).run (called w m)
  := by
  simp only [deliver, invoke, EStateM.run_bind, run_processPendingPacket_registered h,
    callPacketCallback, EStateM.run_get, hcb, run_emit, called]
  cases ((callback m.conn m.packet (.packetCallback m.conn m.packet :: w.trace)).run
      (perform net)).run { w with trace := .packetCallback m.conn m.packet :: w.trace } with
  | ok a w' => rfl
  | error fault w' => rfl

/-! ### The poll group of a running server -/

/-- A running server holds its poll group. -/
def HoldsPollGroup (w : World Server) : Prop :=
  w.self.running → w.self.pollGroup ∈ heldPollGroups w.trace

/-- Every effect keeps a running server its poll group. -/
theorem Effect.keeps_holdsPollGroup {allowed : Allowed}
    {w w' : World Server} (h : Effect net allowed w w') (hw : HoldsPollGroup w) :
  HoldsPollGroup w'
  := by
  intro hrun
  rcases h.resources with hsame | ⟨-, rfl⟩
  · rw [hsame.pollGroup, hsame.pollGroups]
    apply hw
    rw [← hsame.running]
    apply hrun
  · cases hrun

/-- A server that has just been opened holds its poll group if it runs. -/
theorem opened_holdsPollGroup (w : World Server) :
  HoldsPollGroup (opened net w)
  := by
  intro hrun
  have hgroup : newGroup net w ≠ 0 := by
    simp only [opened, decide_eq_true_eq] at hrun
    apply hrun.2
  rw [(opened_held w).2, if_neg hgroup]
  apply List.mem_cons_self

/-! ### Iterations -/

/-- The number of packets an update can receive before the loop ends or its index
overflows. -/
def loopLimit (w : World Server) : Nat :=
  min w.self.maxProcessedPackets.toNat 2147483648

/-- From `w`, the receive loop starts over with the given index in the given world. -/
abbrev Iterated (net : ISteamNetworkingSockets) (w : World Server) : Nat → World Server → Prop :=
  Program.Iterated (receivePacket net) (loopLimit w) w

/-- Receiving a message has effects, where everything is allowed to the callback. -/
theorem receivePacket_effects (net : ISteamNetworkingSockets) :
  Moves (Effects net (.all Event.ofPackets)) (receivePacket net)
  := PacketEffects.all receivePacket_moves

/-- Iterations of the receive loop have effects. -/
theorem Iterated.effects {w w' : World Server} {j : Nat} (h : Iterated net w j w') :
  Effects net (.all Event.ofPackets) w w'
  := h.moves (receivePacket_effects net)

/-- The comparison of the receive loop is one with its limit. -/
theorem receiveLoop_below (w : World Server) (packetIndex : Nat) :
  decide (packetIndex < w.self.maxProcessedPackets.toNat)
    ↔ packetIndex < w.self.maxProcessedPackets.toNat
  := decide_eq_true_iff

/-- No iteration of the receive loop changes its limit. -/
theorem receivePacket_keeps_limit (net : ISteamNetworkingSockets) (w w' : World Server)
    (h : (receivePacket net).run w = .ok true w') :
  w'.self.maxProcessedPackets.toNat = w.self.maxProcessedPackets.toNat
  := by
  have heffects := receivePacket_effects net w
  rw [exit_ok h] at heffects
  rw [heffects.keeps_settings.2.2]

/-- Below its limit the loop receives a message and goes on if there was one. -/
theorem run_receiveLoop_body (net : ISteamNetworkingSockets) {w : World Server} (left : Nat)
    {j : Nat} (h : j < w.self.maxProcessedPackets.toNat) :
  (receiveLoop net (left + 1) j).run w
    = (do
        let goesOn ← receivePacket net
        if goesOn then receiveLoop net left (j + 1) else return () : ServerM Unit).run w
  := run_countedLoop_below _ _ _ (decide_eq_true h)

/-- At its limit the loop ends. -/
theorem run_receiveLoop_done (net : ISteamNetworkingSockets) {w : World Server} (left : Nat)
    {j : Nat} (h : ¬ j < w.self.maxProcessedPackets.toNat) :
  (receiveLoop net (left + 1) j).run w = .ok () w
  := run_countedLoop_above _ _ _ (decide_eq_false h)

/-- At the limit, the loop ends or its index overflows. -/
theorem run_receiveLoop_limit (net : ISteamNetworkingSockets) {w : World Server} {left j : Nat}
    (hleft : left + j = 2147483648) (hj : loopLimit w ≤ j) :
  (receiveLoop net left j).run w = .ok () w ∨
    (receiveLoop net left j).run w = .error .signedOverflow w
  := run_countedLoop_limit receiveLoop_below hleft hj

/-- What is left of the receive loop when it has started over. -/
theorem Iterated.run_receiveLoop {w w' : World Server} {j : Nat} (h : Iterated net w j w') :
  (receiveLoop net 2147483648 0).run w = (receiveLoop net (2147483648 - j) j).run w'
  := Program.Iterated.run_countedLoop receiveLoop_below (receivePacket_keeps_limit net) h

/-- Without a packet callback nothing is received. -/
theorem run_processPendingPackets_none {w : World Server} (hcb : w.self.packetCallback = none) :
  (processPendingPackets net).run w = .ok () w
  := by
  simp [processPendingPackets, hcb]

/-- With a packet callback messages are received in a loop. -/
theorem run_processPendingPackets_some {w : World Server} {callback : PacketCallback}
    (hcb : w.self.packetCallback = some callback) :
  (processPendingPackets net).run w = (receiveLoop net 2147483648 0).run w
  := by
  simp [processPendingPackets, hcb]

/-! ### Settings -/

theorem run_step_call (c : ServerCall) (w : World Server) :
  exit (step net (.call c)) w = exit (perform net c) w
  := by
  simp only [step, exit, EStateM.run_bind]
  cases (perform net c).run w with
  | ok a w' => rfl
  | error fault w' => rfl

/-- Only the setting of the packet callback changes it. -/
theorem step_packetCallback (s : ServerStep) (w : World Server) :
  (exit (step net s) w).self.packetCallback
    = match s with
      | .setPacketCallback callback => callback
      | _ => w.self.packetCallback
  := by
  cases s with
  | openConnection =>
      cases h : net.parseString w.trace w.self.address with
      | true => rw [step, exit_ok (run_openConnection_parsed h)]; rfl
      | false => rw [step, exit_ok (run_openConnection_unparsed h)]; rfl
  | updateConnection => exact (updateConnection_moves w).keeps_settings.1
  | call c =>
      rw [run_step_call]
      have hmoves : Moves (AnyEffects net) (perform net c) := perform_moves c (permits_all _ c)
      apply (hmoves w).keeps_settings.1
  | _ => rfl

end Server

end Chs
