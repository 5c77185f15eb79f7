import ChaosInMultiplayer.Endpoints.Consumption
import ChaosInMultiplayer.Server.Callbacks

/-!
# The sends of every run

Whatever the callbacks of an endpoint do, every message it hands to the networking library is the
whole data of some packet with its size as a `uint32_t`.  So it is the whole packet if that has
fewer than 2^32 bytes.
-/

namespace Chs

open Program

/-- If the event is a send, its size is that of its data as a `uint32_t`. -/
def Event.Whole : Event → Prop
  | .sendMessageToConnection _ data size _ => size = .ofNat data.length
  | _ => True

theorem Event.whole_of_sendsWhole {packet : Packet} {e : Event} (h : SendsWhole packet e) :
  e.Whole
  := by
  obtain ⟨connection, sendType, rfl⟩ := h
  rfl

/-- All sends so far have been whole. -/
def SendsAreWhole {E : Type} (w : World E) : Prop :=
  ∀ e ∈ w.trace, e.Whole

theorem SendsAreWhole.goesOn {E : Type} {w w' : World E} (h : SendsAreWhole w)
    (hgoes : GoesOnBy Event.Whole w w') :
  SendsAreWhole w'
  := by
  obtain ⟨es, hes, hall⟩ := hgoes
  intro e he
  rw [hes, List.mem_append] at he
  rcases he with he | he
  · apply hall e he
  · apply h e he

theorem SendsAreWhole.cons {E : Type} {w : World E} (h : SendsAreWhole w) {e : Event}
    (he : e.Whole) :
  SendsAreWhole { w with trace := e :: w.trace }
  := h.goesOn (goesOnBy_cons rfl he)

/-- A program that makes only whole sends keeps all sends whole. -/
theorem SendsAreWhole.kept {E α : Type} {p : EndpointM E α} (h : Moves (GoesOnBy Event.Whole) p) :
  Keeps SendsAreWhole p
  := fun w hw => hw.goesOn (h w)

variable {net : ISteamNetworkingSockets}

/-! ### At a server -/

namespace Server

/-- An operation on an entry makes only the sends of the operation. -/
theorem onClientConnection_sendsWhole {α : Type} (k : HSteamNetConnection)
    {f : ClientConnection → Trace → α × ClientConnection × Trace}
    (hf : ∀ client t, ∃ es : List Event, (f client t).2.2 = es ++ t ∧ ∀ e ∈ es, e.Whole) :
  Moves (GoesOnBy Event.Whole) (onClientConnection k f)
  := by
  intro w
  cases h : w.self.connections.lookup k with
  | some client =>
      rw [exit_ok (run_onClientConnection_some h)]
      exact hf client w.trace
  | none =>
      rw [exit_error (run_onClientConnection_none h)]
      exact Std.Refl.refl w

theorem clientConnection_sendsWhole (k : HSteamNetConnection) :
  Moves (GoesOnBy Event.Whole) (clientConnection k)
  := by
  apply Moves.get_bind
  intro w
  cases w.self.connections.lookup k with
  | some client => apply Moves.pure
  | none => apply Moves.throw

theorem assertThat_sendsWhole {E : Type} (condition : Bool) (assertion : Assertion) :
  Moves (GoesOnBy Event.Whole) (assertThat condition assertion : EndpointM E Unit)
  := by
  cases condition with
  | true => apply Moves.pure
  | false => apply Moves.throw

theorem close_sendsWhole (k : HSteamNetConnection) :
  Moves (GoesOnBy Event.Whole) (close k)
  := by
  apply onClientConnection_sendsWhole
  exact fun client t => ⟨[.closeConnection client.netConnection], rfl, by simp [Event.Whole]⟩

theorem removeClientConnection_sendsWhole (k : HSteamNetConnection) :
  Moves (GoesOnBy Event.Whole) (removeClientConnection k)
  := by
  apply (clientConnection_sendsWhole k).bind
  intro client
  apply (assertThat_sendsWhole _ _).bind
  intro _
  apply (assertThat_sendsWhole _ _).bind
  intro _
  exact fun w => ⟨[], rfl, by simp⟩

theorem closeConnection_sendsWhole :
  Moves (GoesOnBy Event.Whole) closeConnection
  := by
  intro w
  rw [exit_ok (run_closeConnection w)]
  use .destroyPollGroup w.self.pollGroup :: .closeListenSocket w.self.listeningSocket ::
    (closings w.self.connections.entries ++ [.log .info "Closing connections..."])
  constructor
  · simp [shutdown]
  · intro e he
    simp only [List.mem_cons, List.mem_append, mem_closings, List.not_mem_nil, or_false] at he
    rcases he with rfl | rfl | ⟨entry, -, rfl⟩ | rfl <;> exact trivial

/-- Every call of a server makes whole sends. -/
theorem perform_sendsWhole (c : ServerCall) :
  Moves (GoesOnBy Event.Whole) (perform net c)
  := by
  cases c with
  | createClientConnection k =>
      intro w
      by_cases h : k ∈ w.self.connections
      · rw [perform, exit_ok (run_createClientConnection_of_mem h)]
        exact Std.Refl.refl w
      · rw [perform, exit_ok (run_createClientConnection_of_notMem h)]
        exact goesOnBy_cons rfl trivial
  | closeClientConnection k =>
      apply (close_sendsWhole k).bind
      intro _
      apply removeClientConnection_sendsWhole
  | removeClientConnection k => apply removeClientConnection_sendsWhole
  | closeConnection => apply closeConnection_sendsWhole
  | clientConnection k => apply clientConnection_sendsWhole
  | accept k =>
      apply onClientConnection_sendsWhole k (f := fun client t => client.accept net t)
      intro client t
      obtain ⟨-, -, ok, ht⟩ := accept_entry net client t
      exact ⟨[_], ht, by simp [Event.Whole]⟩
  | setPollGroup k g =>
      apply onClientConnection_sendsWhole k (f := fun client t => client.setPollGroup net g t)
      intro client t
      obtain ⟨-, -, ht⟩ := setPollGroup_entry net client g t
      exact ⟨[_], ht, by simp [Event.Whole]⟩
  | setAlias k value =>
      apply onClientConnection_sendsWhole k (f := fun client t => ((), client.setAlias value, t))
      exact fun _ _ => ⟨[], rfl, by simp⟩
  | close k => apply close_sendsWhole
  | sendPacket packet client sendType =>
      exact (sendPacket_moves packet client sendType).mono fun _ _ h =>
        h.mono fun _ => Event.whole_of_sendsWhole
  | sendPacketToAllConnectedClients packet sendType except =>
      exact (sendPacketToAll_moves packet sendType except).mono fun _ _ h =>
        h.mono fun _ => Event.whole_of_sendsWhole
  | log level text => exact fun _ => goesOnBy_cons rfl trivial
  | assertThat condition text => apply assertThat_sendsWhole
  | _ => exact fun w => Std.Refl.refl w

/-- A script of a server makes whole sends. -/
theorem script_sendsWhole (script : ServerScript Unit) :
  Keeps SendsAreWhole (script.run (perform net))
  := SendsAreWhole.kept (Script.moves (fun c _ => perform_sendsWhole c) script.only_true)

/-- All sends of a server are whole. -/
theorem step_sendsWhole (s : ServerStep) :
  Keeps SendsAreWhole (step net s)
  := by
  have hstep : StepKeeps net SendsAreWhole s := by
    cases s with
    | setPacketCallback callback => exact fun _ _ _ _ _ => script_sendsWhole _
    | setConnectionStatusChangeCallback callback => exact fun _ _ _ _ => script_sendsWhole _
    | call c => exact SendsAreWhole.kept (perform_sendsWhole c)
    | _ => trivial
  have hneutral : ∀ (C : ClientConnections) (t : Trace) (e : Event), e.neutral →
      (∀ e ∈ t, e.Whole) → ∀ e' ∈ e :: t, e'.Whole := by
    intro C t e he ht e' he'
    rcases List.mem_cons.mp he' with rfl | he'
    · cases e' <;> trivial
    · apply ht e' he'
  intro w hw
  have hcallbacks : CallbacksKeep net SendsAreWhole w :=
    ⟨fun _ _ _ _ _ => script_sendsWhole _, fun _ _ _ _ => script_sendsWhole _⟩
  exact (step_keeps_of_callbacks hneutral hstep w ⟨hcallbacks, hw⟩).2

end Server

/-! ### At a client -/

namespace Client

/-- Every call of a client makes whole sends. -/
theorem perform_sendsWhole (c : ClientCall) :
  Moves (GoesOnBy Event.Whole) (perform net c)
  := by
  cases c with
  | initializeConnection ip port =>
      intro w
      cases h : net.parseString w.trace (address ip port) with
      | false =>
          rw [perform, exit_ok (run_initializeConnection_unparsed h)]
          exact goesOnBy_cons rfl trivial
      | true =>
          by_cases hc : net.connectByIPAddress w.trace (address ip port) = 0
          · rw [perform, exit_ok (run_initializeConnection_invalid h hc)]
            exact ⟨[_, _], rfl, by simp [Event.Whole]⟩
          · rw [perform, exit_ok (run_initializeConnection_valid h hc)]
            exact goesOnBy_cons rfl trivial
  | closeConnection => exact fun w => goesOnBy_cons rfl trivial
  | sendPacketToServer packet sendType =>
      exact (sendPacketToServer_moves net packet sendType).mono fun _ _ h =>
        h.mono fun _ => Event.whole_of_sendsWhole
  | log level text => exact fun _ => goesOnBy_cons rfl trivial
  | assertThat condition text => cases condition <;> exact fun w => Std.Refl.refl w
  | _ => exact fun w => Std.Refl.refl w

/-- A script of a client makes whole sends. -/
theorem script_sendsWhole (script : ClientScript Unit) :
  Keeps SendsAreWhole (script.run (perform net))
  := SendsAreWhole.kept (Script.moves (fun c _ => perform_sendsWhole c) script.only_true)

/-- Processing a packet makes only the sends of the packet callback. -/
theorem processPendingPacket_sendsWhole (received : Option Message) :
  Keeps SendsAreWhole (processPendingPacket net received)
  := by
  apply Moves.get_bind
  intro w
  cases w.self.packetCallback with
  | none => apply Moves.pure
  | some callback =>
      cases received with
      | none => apply Moves.throw
      | some m =>
          apply Moves.bind
          · exact fun w hw => hw.cons trivial
          intro _
          apply Moves.get_bind
          intro w'
          apply (script_sendsWhole _).bind
          intro _ w hw
          exact hw.cons trivial

/-- Receiving a packet makes only the sends of the packet callback. -/
theorem receivePacket_sendsWhole :
  Keeps SendsAreWhole (receivePacket net)
  := by
  have hbody : Ensures SendsAreWhole (receivePacket net) (fun _ => SendsAreWhole)
      fun _ => SendsAreWhole := by
    apply Ensures.get_bind
    intro w hw
    apply receiveBody_ensures (J := SendsAreWhole)
    · exact hw.cons trivial
    · exact fun _ _ h => h
    · exact fun w hw => hw.cons trivial
    · exact Ensures.of_keeps (processPendingPacket_sendsWhole _)
    · exact fun w m hw => hw.cons trivial
  intro w hw
  apply hbody.exit hw

/-- Dispatching a status event makes only the sends of the status callback. -/
theorem onSteamNetConnectionStatusChanged_sendsWhole (info : StatusInfo) :
  Keeps SendsAreWhole (onSteamNetConnectionStatusChanged net info)
  := by
  have hstatus : ∀ state, Keeps SendsAreWhole (connectionStatusAt state) := by
    intro state
    cases state <;> exact fun w hw => hw
  apply Moves.get_bind
  intro w
  cases w.self.connectionStatusChangeCallback with
  | none =>
      apply Moves.bind
      · exact fun w hw => hw.cons trivial
      intro _
      apply Moves.throw
  | some callback =>
      apply (hstatus _).bind
      intro oldStatus
      apply (hstatus _).bind
      intro currentStatus
      apply Moves.bind
      · exact fun w hw => hw.cons trivial
      intro _
      apply Moves.get_bind
      intro w'
      apply script_sendsWhole

/-- An update makes only the sends of the callbacks. -/
theorem updateConnection_sendsWhole :
  Keeps SendsAreWhole (updateConnection net)
  := by
  apply Moves.bind
  · exact countedLoop_moves receivePacket_sendsWhole _ _
  intro _
  apply Moves.get_bind
  intro w
  apply Moves.bind
  · exact fun w hw => hw.cons trivial
  intro _
  apply Moves.forM
  intro info _
  apply onSteamNetConnectionStatusChanged_sendsWhole

/-- All sends of a client are whole. -/
theorem step_sendsWhole (s : ClientStep) :
  Keeps SendsAreWhole (step net s)
  := by
  cases s with
  | arrive m => exact fun w hw => hw.cons trivial
  | queue info => exact fun w hw => hw.cons trivial
  | updateConnection => apply updateConnection_sendsWhole
  | call c =>
      apply Moves.bind (SendsAreWhole.kept (perform_sendsWhole c))
      intro _
      apply Moves.pure
  | _ => exact fun w hw => hw

end Client

end Chs
