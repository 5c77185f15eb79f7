import ChaosInMultiplayer.Endpoints.ReceiveLoops
import ChaosInMultiplayer.Endpoints.RoundTrip

/-!
# The release of messages

An endpoint holds a message from the moment the networking library hands it out until it
releases it, and the packet callback is called and returns while the message is held
(`heldMessages`).  The receive loops release a message after its callback has returned, but
not if the callback throws.  So when the owner of an endpoint catches the exceptions, no message
is held between its steps exactly if no call of the packet callback throws.
-/

namespace Chs

open Program

/-! ### Held messages -/

/-- The messages that have been obtained and not been released.  There are none to speak of if
a message has been released that was not held, or if the packet callback has been called or has
returned without its message being held. -/
def heldMessages : Trace → Option (List Message)
  | [] => some []
  | .receiveMessagesOnPollGroup _ _ (some m) :: t => (heldMessages t).map (m :: ·)
  | .receiveMessagesOnConnection _ _ (some m) :: t => (heldMessages t).map (m :: ·)
  | .packetCallback c packet :: t =>
      (heldMessages t).filter fun ms => ms.any fun m => m.conn = c && m.packet = packet
  | .packetCallbackReturned c :: t =>
      (heldMessages t).filter fun ms => ms.any fun m => m.conn = c
  | .release m :: t => (heldMessages t).bind fun ms => if m ∈ ms then some (ms.erase m) else none
  | _ :: t => heldMessages t

/-- The messages that have been obtained, the latest first. -/
def obtainedMessages (t : Trace) : List Message :=
  t.filterMap fun
    | .receiveMessagesOnPollGroup _ _ pendingPacket => pendingPacket
    | .receiveMessagesOnConnection _ _ incomingPacket => incomingPacket
    | _ => none

/-- The messages that have been released, the latest first. -/
def releasedMessages (t : Trace) : List Message :=
  t.filterMap fun
    | .release m => some m
    | _ => none

/-- Every message obtained has been released, after its callback has finished, and none has been
released that was not held. -/
def AllReleased (t : Trace) : Prop :=
  heldMessages t = some []

/-- Every message obtained is held or has been released, once. -/
theorem obtainedMessages_perm {t : Trace} {ms : List Message} (h : heldMessages t = some ms) :
  (obtainedMessages t).Perm (ms ++ releasedMessages t)
  := by
  induction t generalizing ms with
  | nil =>
      cases h
      rfl
  | cons e t ih =>
      cases e with
      | receiveMessagesOnPollGroup g n received =>
          cases received with
          | none => apply ih h
          | some m =>
              obtain ⟨ms', hms', rfl⟩ := Option.map_eq_some_iff.mp h
              exact (ih hms').cons m
      | receiveMessagesOnConnection c n received =>
          cases received with
          | none => apply ih h
          | some m =>
              obtain ⟨ms', hms', rfl⟩ := Option.map_eq_some_iff.mp h
              exact (ih hms').cons m
      | packetCallback c packet => apply ih (Option.filter_eq_some_iff.mp h).1
      | packetCallbackReturned c => apply ih (Option.filter_eq_some_iff.mp h).1
      | release m =>
          obtain ⟨ms', hms', h⟩ := Option.bind_eq_some_iff.mp h
          split at h
          · rename_i hm
            cases h
            apply (ih hms').trans
            apply ((List.perm_cons_erase hm).append_right _).trans
            exact List.perm_middle.symm
          · cases h
      | _ => apply ih h

/-- A message has been released as often as it has been obtained. -/
theorem AllReleased.perm {t : Trace} (h : AllReleased t) :
  (obtainedMessages t).Perm (releasedMessages t)
  := obtainedMessages_perm h

/-- Events besides messages hold and release none. -/
theorem heldMessages_append {es : List Event} (hes : ∀ e ∈ es, e.besidesMessages) (t : Trace) :
  heldMessages (es ++ t) = heldMessages t
  := by
  apply History.unchanged_append _ hes
  intro e t he
  cases e <;> first | rfl | cases he

section Handling

variable {E : Type}

/-- The endpoint holds these messages. -/
def Holding (ms : List Message) (w : World E) : Prop :=
  heldMessages w.trace = some ms

/-- What goes on without messages leaves those held as they are. -/
theorem Holding.kept {α : Type} {ms : List Message} {p : EndpointM E α}
    (h : BesidesMessages p) :
  Keeps (Holding ms) p
  := by
  intro w hw
  obtain ⟨es, hes, hall⟩ := h w
  rw [Holding, hes, heldMessages_append hall]
  exact hw

/-- The call of the packet callback, which runs the given script, for a message. -/
def passMessage (script : Trace → EndpointM E Unit) (m : Message) : EndpointM E Unit := do
  emit (.packetCallback m.conn m.packet)
  let w ← get
  script w.trace
  emit (.packetCallbackReturned m.conn)

/-- The world in which the script runs. -/
def passing (w : World E) (m : Message) : World E where
  self := w.self
  trace := .packetCallback m.conn m.packet :: w.trace

/-- The message stays held, even if the callback throws. -/
theorem passMessage_holds {script : Trace → EndpointM E Unit} (m : Message)
    (hscript : ∀ t, BesidesMessages (script t)) :
  Keeps (Holding [m]) (passMessage script m)
  := by
  apply Moves.bind
  · intro w hw
    have htrace : exit (emit (.packetCallback m.conn m.packet)) w = passing w m := rfl
    rw [htrace, Holding, passing, heldMessages, hw]
    simp
  intro _
  apply Moves.get_bind
  intro w
  apply Moves.bind
  · apply Holding.kept (hscript w.trace)
  intro _ w' hw'
  have htrace : (exit (emit (.packetCallbackReturned m.conn)) w').trace
      = .packetCallbackReturned m.conn :: w'.trace := rfl
  rw [Holding, htrace, heldMessages, hw']
  simp

/-- Passing a message fails exactly if the callback does. -/
theorem passMessage_error_iff {script : Trace → EndpointM E Unit} {m : Message} {w : World E}
    {fault : Fault} :
  (∃ w', (passMessage script m).run w = .error fault w')
    ↔ ∃ w', (script (passing w m).trace).run (passing w m) = .error fault w'
  := by
  have hrun : (passMessage script m).run w = (do
      script (passing w m).trace
      emit (.packetCallbackReturned m.conn) : EndpointM E Unit).run (passing w m) := rfl
  rw [hrun]
  constructor
  · rintro ⟨w', h⟩
    rcases run_bind_eq_error h with h | ⟨_, w₁, _, h⟩
    · use w'
    · cases h
  · rintro ⟨w', h⟩
    use w'
    rw [EStateM.run_bind, h]

end Handling

/-! ### Receiving one message -/

section Body

variable {E : Type} {event : Event} {n : Int} {received : Option Message}
  {process : EndpointM E Unit}

/-- With a message the body of a receive loop processes it and releases it. -/
theorem run_receiveBody_some (m : Message) (w : World E) :
  (receiveBody event 1 (some m) process).run w = (do
      process
      emit (.release m)
      return true : EndpointM E Bool).run { w with trace := event :: w.trace }
  := rfl

/-- The null pointer is used at the latest when it is released. -/
theorem receiveBody_null (hn : n ≠ 0)
    (hnull : Raises (fun _ => True) (fun fault => ¬ fault.catchable) process) :
  Ensures (fun _ => True) (receiveBody event n none process) (fun _ _ => False)
    fun fault _ => ¬ fault.catchable
  := by
  apply Ensures.bind (R := fun _ _ => True)
  · exact Ensures.modify fun _ _ => trivial
  intro _
  rw [if_neg hn]
  apply Ensures.bind (R := fun _ _ => True)
  · apply Ensures.ite
    · intro _
      exact Ensures.modify fun _ _ => trivial
    · intro _
      exact Ensures.pure fun _ _ => trivial
  intro _
  apply Ensures.bind (R := fun _ _ => True)
  · exact Ensures.of_moves (keeps_true process) hnull (fun _ _ _ _ _ => trivial)
      fun _ _ _ _ _ hfault => hfault
  intro _
  apply Ensures.bind (R := fun _ _ => False)
  · apply Ensures.throw
    intro _ _ hcatchable
    cases hcatchable
  intro _ _ hfalse
  exact hfalse.elim

variable (hanswer : ISteamNetworkingSockets.AtMostOne (n, received))
  (hnone : received = none → Raises (fun _ => True) (fun fault => ¬ fault.catchable) process)

include hanswer hnone

/-- The body of a receive loop releases the message it obtains, or leaves it held when an
exception escapes from its processing. -/
theorem receiveBody_releases
    (hevent : ∀ w : World E, Holding [] w →
      Holding received.toList { w with trace := event :: w.trace })
    (hsome : ∀ m ∈ received, Keeps (Holding [m]) process) :
  Ensures (Holding []) (receiveBody event n received process) (fun _ => Holding [])
    fun fault w => fault.catchable → ∃ m, Holding [m] w
  := by
  rcases hanswer with h | ⟨m, h⟩ | ⟨k, hk, h⟩
  · cases h
    apply Ensures.bind (R := fun _ => Holding [])
    · exact Ensures.modify hevent
    intro _
    exact Ensures.pure fun w hw => hw
  · cases h
    have hprocess : Ensures (Holding [m]) (do
        process
        emit (.release m)
        return true : EndpointM E Bool) (fun _ => Holding [])
        fun fault w => fault.catchable → ∃ m, Holding [m] w := by
      apply Ensures.bind (R := fun _ => Holding [m])
      · apply (Ensures.of_keeps (hsome m rfl)).mono (fun _ hw => hw) (fun _ _ hw => hw)
        intro _ w hw _
        use m, hw
      intro _
      apply Ensures.bind (R := fun _ => Holding [])
      · apply Ensures.modify
        intro w hw
        rw [Holding, heldMessages, hw]
        simp
      intro _
      exact Ensures.pure fun w hw => hw
    intro w hw
    rw [run_receiveBody_some]
    apply hprocess _ (hevent w hw)
  · cases h
    apply (receiveBody_null (by omega) (hnone rfl)).mono
    · exact fun _ _ => trivial
    · exact fun _ _ hfalse => hfalse.elim
    · exact fun fault _ hfault hcatchable => absurd hcatchable hfault

/-- The exceptions of the body are those of the processing of a message. -/
theorem receiveBody_error_iff {fault : Fault} (hfault : fault.catchable) {w : World E} :
  (∃ w', (receiveBody event n received process).run w = .error fault w')
    ↔ received.isSome ∧
      ∃ w', process.run { w with trace := event :: w.trace } = .error fault w'
  := by
  cases received with
  | none =>
      apply iff_of_false
      · rintro ⟨w', h⟩
        by_cases hn : n = 0
        · subst hn
          cases h
        · exact (receiveBody_null hn (hnone rfl)).raises w fault w' trivial h hfault
      · rintro ⟨h, -⟩
        cases h
  | some m =>
      have hn : n = 1 := hanswer.of_some
      subst hn
      rw [run_receiveBody_some, Option.isSome_some, eq_self, true_and]
      constructor
      · rintro ⟨w', h⟩
        rcases run_bind_eq_error h with h | ⟨_, w₁, _, h⟩
        · use w'
        · cases h
      · rintro ⟨w', h⟩
        use w'
        rw [EStateM.run_bind, h]

end Body

/-! ### Updates -/

/-- The step, whose exceptions the owner of the endpoint catches. -/
def caught {E S : Type} (step : S → EndpointM E Unit) (s : S) : EndpointM E Unit :=
  catching Fault.catchable (step s)

section Update

variable {E : Type} {packets dispatch : EndpointM E Unit}

/-- If the owner catches the exceptions of an update, nothing is held after it exactly if no
exception escapes while the packets are processed. -/
theorem update_releases_iff
    (hpackets : Ensures (Holding []) packets (fun _ => Holding [])
      fun fault w => fault.catchable → ∃ m, Holding [m] w)
    (hdispatch : Keeps (Holding []) dispatch) {w : World E} (hw : Holding [] w) :
  (∀ w', (catching Fault.catchable (packets >>= fun _ => dispatch)).run w = .ok () w' →
      AllReleased w'.trace)
    ↔ ∀ fault, (∃ w', packets.run w = .error fault w') → ¬ fault.catchable
  := by
  have hrun := hpackets w hw
  constructor
  · rintro h fault ⟨w', herror⟩ hfault
    rw [herror] at hrun
    obtain ⟨m, hm⟩ := hrun hfault
    have hupdate : (packets >>= fun _ => dispatch).run w = .error fault w' := by
      rw [EStateM.run_bind, herror]
    have hreleased : Holding [] w' := by
      apply h w'
      rw [run_catching_error hupdate, if_pos hfault]
    rw [Holding, hm] at hreleased
    cases hreleased
  · intro h w' hcaught
    cases hp : packets.run w with
    | error fault w₁ =>
        have hupdate : (packets >>= fun _ => dispatch).run w = .error fault w₁ := by
          rw [EStateM.run_bind, hp]
        rw [run_catching_error hupdate, if_neg (h fault ⟨w₁, hp⟩)] at hcaught
        cases hcaught
    | ok a w₁ =>
        rw [hp] at hrun
        have hend := hdispatch w₁ hrun
        rw [← exit_bind_ok (fun _ => dispatch) hp, exit_of_run_catching hcaught] at hend
        apply hend

/-- An operation that leaves the messages held as they are. -/
theorem catching_keeps_released {p : EndpointM E Unit} (hp : Keeps (Holding []) p) {w w' : World E}
    (hw : Holding [] w) (h : (catching Fault.catchable p).run w = .ok () w') :
  AllReleased w'.trace
  := by
  have hend := hp w hw
  rw [exit_of_run_catching h] at hend
  apply hend

end Update

variable {net : ISteamNetworkingSockets}

/-! ### Receiving packets at a server -/

namespace Server

/-- The receive loop hands a message to the packet callback, which raises the fault. -/
def CallbackThrows (net : ISteamNetworkingSockets) (fault : Fault) (w : World Server) : Prop :=
  ∃ m callback w', net.receiveMessagesOnPollGroup w.trace w.self.pollGroup = (1, some m) ∧
    m.conn ∈ w.self.connections ∧ w.self.packetCallback = some callback ∧
    ((callback m.conn m.packet (passing (received w (1, some m)) m).trace).run
      (perform net)).run (passing (received w (1, some m)) m) = .error fault w'

/-- If the step is an update that the server does not ignore, no exception escapes from the calls
of the packet callback. -/
def CallbacksReturn (net : ISteamNetworkingSockets) (w : World Server) : ServerStep → Prop
  | .updateConnection => ¬ Stopped w → ∀ j w', Iterated net w j w' → j < loopLimit w →
      ∀ fault, CallbackThrows net fault w' → ¬ fault.catchable
  | _ => True

/-- Processing a message does not release it. -/
theorem processPendingPacket_holds (m : Message) :
  Keeps (Holding [m]) (processPendingPacket net (some m))
  := by
  apply Moves.bind
  · exact fun w hw => hw
  intro registered
  apply Moves.bind
  · cases registered with
    | true => exact fun w hw => hw
    | false => exact fun w hw => hw
  intro _
  apply Moves.get_bind
  intro w
  cases w.self.packetCallback with
  | none => exact fun w hw => hw
  | some callback => exact passMessage_holds m fun t => script_besidesMessages _

/-- Without a message, the pointer is null. -/
theorem processPendingPacket_none_raises :
  Raises (fun _ => True) (fun fault => ¬ fault.catchable) (processPendingPacket net none)
  := Raises.throw (by simp [Fault.catchable])

/-- The body of the receive loop, with what the networking library answers. -/
theorem run_receivePacket (net : ISteamNetworkingSockets) (w : World Server) :
  (receivePacket net).run w
    = (receiveBody
        (.receiveMessagesOnPollGroup w.self.pollGroup
          (net.receiveMessagesOnPollGroup w.trace w.self.pollGroup).1
          (net.receiveMessagesOnPollGroup w.trace w.self.pollGroup).2)
        (net.receiveMessagesOnPollGroup w.trace w.self.pollGroup).1
        (net.receiveMessagesOnPollGroup w.trace w.self.pollGroup).2
        (processPendingPacket net
          (net.receiveMessagesOnPollGroup w.trace w.self.pollGroup).2)).run w
  := rfl

/-- Receiving a message releases it, unless it ends with an exception that can be caught. -/
theorem receivePacket_releases (hnet : net.ReceivesOne) :
  Ensures (Holding []) (receivePacket net) (fun _ => Holding [])
    fun fault w => fault.catchable → ∃ m, Holding [m] w
  := by
  intro w hw
  have hanswer := hnet.1 w.trace w.self.pollGroup
  rw [run_receivePacket]
  generalize net.receiveMessagesOnPollGroup w.trace w.self.pollGroup = answer at hanswer ⊢
  obtain ⟨n, pendingPacket⟩ := answer
  apply receiveBody_releases hanswer _ _ _ w hw
  · rintro rfl
    apply processPendingPacket_none_raises
  · intro w' hw'
    cases pendingPacket with
    | none => exact hw'
    | some m =>
        rw [Holding, heldMessages, hw']
        rfl
  · rintro m rfl
    apply processPendingPacket_holds

/-- With a packet callback, the processing of a message throws what the callback throws. -/
theorem processPendingPacket_error_iff {fault : Fault} (hfault : fault.catchable) {w : World Server}
    {callback : PacketCallback} (hcb : w.self.packetCallback = some callback) (m : Message) :
  (∃ w', (processPendingPacket net (some m)).run w = .error fault w')
    ↔ m.conn ∈ w.self.connections ∧
      ∃ w', ((callback m.conn m.packet (passing w m).trace).run (perform net)).run (passing w m)
        = .error fault w'
  := by
  by_cases hm : m.conn ∈ w.self.connections
  · have hpass : (processPendingPacket net (some m)).run w
        = (passMessage (fun t => (callback m.conn m.packet t).run (perform net)) m).run w := by
      rw [run_processPendingPacket_registered hm]
      simp only [callPacketCallback, EStateM.run_bind, EStateM.run_get, hcb]
      rfl
    rw [hpass, and_iff_right hm]
    apply passMessage_error_iff
  · apply iff_of_false
    · rintro ⟨w', h⟩
      rw [run_processPendingPacket_unregistered hm] at h
      cases h
      cases hfault
    · rintro ⟨h, -⟩
      exact hm h

/-- Receiving a message fails with an exception that can be caught exactly if the packet callback
does. -/
theorem receivePacket_error_iff (hnet : net.ReceivesOne) {fault : Fault} (hfault : fault.catchable)
    {w : World Server} {callback : PacketCallback} (hcb : w.self.packetCallback = some callback) :
  (∃ w', (receivePacket net).run w = .error fault w') ↔ CallbackThrows net fault w
  := by
  have hanswer := hnet.1 w.trace w.self.pollGroup
  rw [run_receivePacket, CallbackThrows]
  generalize net.receiveMessagesOnPollGroup w.trace w.self.pollGroup = answer at hanswer ⊢
  obtain ⟨n, pendingPacket⟩ := answer
  have hnone : pendingPacket = none → Raises (fun _ => True) (fun fault => ¬ fault.catchable)
      (processPendingPacket net pendingPacket) := by
    rintro rfl
    apply processPendingPacket_none_raises
  rw [receiveBody_error_iff hanswer hnone hfault]
  cases pendingPacket with
  | none => simp
  | some m =>
      have hn : n = 1 := hanswer.of_some
      subst hn
      rw [Option.isSome_some, eq_self, true_and]
      have hcb' : (received w (1, some m)).self.packetCallback = some callback := hcb
      refine (processPendingPacket_error_iff hfault hcb' m).trans ?_
      constructor
      · rintro ⟨hm, w', herror⟩
        exact ⟨m, callback, w', rfl, hm, hcb, herror⟩
      · rintro ⟨m', callback', w', ⟨⟩, hm, hcb'', herror⟩
        rw [hcb, Option.some.injEq] at hcb''
        subst hcb''
        exact ⟨hm, w', herror⟩

/-! ### Runs of a server -/

/-- The receive loop releases what it receives, unless it ends with an exception that can be caught.
-/
theorem processPendingPackets_releases (hnet : net.ReceivesOne) :
  Ensures (Holding []) (processPendingPackets net) (fun _ => Holding [])
    fun fault w => fault.catchable → ∃ m, Holding [m] w
  := by
  apply Ensures.get_bind
  intro w hw
  apply Ensures.of_pre (R := Holding [])
  · apply Ensures.ite
    · intro _
      exact Ensures.pure fun _ hw => hw
    · intro _
      apply countedLoop_ensures (receivePacket_releases hnet)
      intro _ _ hcatchable
      cases hcatchable
  · rintro _ rfl
    apply hw

/-- The exceptions of the processing of packets are those of the packet callback. -/
theorem processPendingPackets_error_iff (hnet : net.ReceivesOne) {fault : Fault}
    (hfault : fault.catchable) (w : World Server) :
  (∃ w', (processPendingPackets net).run w = .error fault w')
    ↔ ∃ j w', Iterated net w j w' ∧ j < loopLimit w ∧ CallbackThrows net fault w'
  := by
  have hkeeps : ∀ {j w'}, Iterated net w j w' → w'.self.packetCallback = w.self.packetCallback :=
    fun hiter => hiter.effects.keeps_settings.1
  cases hcb : w.self.packetCallback with
  | none =>
      rw [run_processPendingPackets_none hcb]
      apply iff_of_false
      · rintro ⟨w', h⟩
        cases h
      · rintro ⟨j, w', hiter, -, m, callback, _, -, -, hcb', -⟩
        rw [hkeeps hiter, hcb] at hcb'
        cases hcb'
  | some callback =>
      have hne : fault ≠ .signedOverflow := by
        rintro rfl
        cases hfault
      rw [run_processPendingPackets_some hcb, receiveLoop,
        countedLoop_error_iff receiveLoop_below (receivePacket_keeps_limit net) hne]
      apply exists₂_congr
      intro j w'
      apply and_congr_right
      intro hiter
      apply and_congr_right
      intro _
      apply receivePacket_error_iff hnet hfault
      rw [hkeeps hiter, hcb]

/-- An update whose exceptions are caught releases all messages exactly if its callbacks return. -/
theorem caughtUpdate_releases_iff (hnet : net.ReceivesOne) {w : World Server}
    (hw : AllReleased w.trace) :
  (∀ w', (caught (step net) .updateConnection).run w = .ok () w' → AllReleased w'.trace)
    ↔ CallbacksReturn net w .updateConnection
  := by
  by_cases hstopped : Stopped w
  · apply iff_of_true
    · intro w' hrun
      rw [caught, step, run_catching_ok _ (run_updateConnection_stopped hstopped)] at hrun
      cases hrun
      apply hw
    · intro hactive
      exact absurd hstopped hactive
  · rw [caught, step, run_catching_congr _ (run_updateConnection_active hstopped),
      update_releases_iff (processPendingPackets_releases hnet)
        (Holding.kept dispatch_besidesMessages) hw]
    constructor
    · rintro h - j w' hiter hj fault hthrows hfault
      apply h fault _ hfault
      exact (processPendingPackets_error_iff hnet hfault w).mpr ⟨j, w', hiter, hj, hthrows⟩
    · rintro h fault herror hfault
      obtain ⟨j, w', hiter, hj, hthrows⟩ :=
        (processPendingPackets_error_iff hnet hfault w).mp herror
      exact h hstopped j w' hiter hj fault hthrows hfault

/-- A step whose exceptions are caught releases all messages exactly if its callbacks return. -/
theorem caughtStep_releases_iff (hnet : net.ReceivesOne) {w : World Server}
    (hw : AllReleased w.trace) (s : ServerStep) :
  (∀ w', (caught (step net) s).run w = .ok () w' → AllReleased w'.trace)
    ↔ CallbacksReturn net w s
  := by
  have hother : s ≠ .updateConnection →
      ∀ w', (caught (step net) s).run w = .ok () w' → AllReleased w'.trace :=
    fun hs _ => catching_keeps_released (Holding.kept (step_besidesMessages s hs)) hw
  cases s with
  | updateConnection => exact caughtUpdate_releases_iff hnet hw
  | _ => exact iff_of_true (hother (by simp)) trivial

end Server

/-! ### Receiving packets at a client -/

namespace Client

/-- The receive loop hands a message to the packet callback, which raises the fault. -/
def CallbackThrows (net : ISteamNetworkingSockets) (fault : Fault) (w : World Client) : Prop :=
  ∃ m callback w', net.receiveMessagesOnConnection w.trace w.self.serverConnection = (1, some m) ∧
    w.self.packetCallback = some callback ∧
    ((callback m.conn m.packet (passing (ReceiveLoops.clientReceived w (1, some m)) m).trace).run
      (perform net)).run (passing (ReceiveLoops.clientReceived w (1, some m)) m)
      = .error fault w'

/-- If the step is an update, no exception escapes from the calls of the packet callback. -/
def CallbacksReturn (net : ISteamNetworkingSockets) (w : World Client) : ClientStep → Prop
  | .updateConnection => ∀ j w', Iterated net w j w' → j < loopLimit w →
      ∀ fault, CallbackThrows net fault w' → ¬ fault.catchable
  | _ => True

/-- Processing a message does not release it. -/
theorem processPendingPacket_holds (m : Message) :
  Keeps (Holding [m]) (processPendingPacket net (some m))
  := by
  apply Moves.get_bind
  intro w
  cases w.self.packetCallback with
  | none => exact fun w hw => hw
  | some callback => exact passMessage_holds m fun t => script_besidesMessages _

/-- Without a message, the pointer is null, if it is used. -/
theorem processPendingPacket_none_raises :
  Raises (fun _ => True) (fun fault => ¬ fault.catchable) (processPendingPacket net none)
  := by
  apply Raises.get_bind
  intro w _
  cases w.self.packetCallback with
  | none => apply Raises.pure
  | some callback => exact Raises.throw (α := Unit) (by simp [Fault.catchable])

/-- The body of the receive loop, with what the networking library answers. -/
theorem run_receivePacket (net : ISteamNetworkingSockets) (w : World Client) :
  (receivePacket net).run w
    = (receiveBody
        (.receiveMessagesOnConnection w.self.serverConnection
          (net.receiveMessagesOnConnection w.trace w.self.serverConnection).1
          (net.receiveMessagesOnConnection w.trace w.self.serverConnection).2)
        (net.receiveMessagesOnConnection w.trace w.self.serverConnection).1
        (net.receiveMessagesOnConnection w.trace w.self.serverConnection).2
        (processPendingPacket net
          (net.receiveMessagesOnConnection w.trace w.self.serverConnection).2)).run w
  := rfl

/-- Receiving a message releases it, unless it ends with an exception that can be caught. -/
theorem receivePacket_releases (hnet : net.ReceivesOne) :
  Ensures (Holding []) (receivePacket net) (fun _ => Holding [])
    fun fault w => fault.catchable → ∃ m, Holding [m] w
  := by
  intro w hw
  have hanswer := hnet.2 w.trace w.self.serverConnection
  rw [run_receivePacket]
  generalize net.receiveMessagesOnConnection w.trace w.self.serverConnection = answer at hanswer ⊢
  obtain ⟨n, incomingPacket⟩ := answer
  apply receiveBody_releases hanswer _ _ _ w hw
  · rintro rfl
    apply processPendingPacket_none_raises
  · intro w' hw'
    cases incomingPacket with
    | none => exact hw'
    | some m =>
        rw [Holding, heldMessages, hw']
        rfl
  · rintro m rfl
    apply processPendingPacket_holds

/-- The processing of a message throws what the packet callback throws, if there is one. -/
theorem processPendingPacket_error_iff {fault : Fault} {w : World Client} (m : Message) :
  (∃ w', (processPendingPacket net (some m)).run w = .error fault w')
    ↔ ∃ callback, w.self.packetCallback = some callback ∧
      ∃ w', ((callback m.conn m.packet (passing w m).trace).run (perform net)).run (passing w m)
        = .error fault w'
  := by
  cases hcb : w.self.packetCallback with
  | none =>
      apply iff_of_false
      · rintro ⟨w', h⟩
        simp only [processPendingPacket, EStateM.run_bind, EStateM.run_get, hcb] at h
        cases h
      · rintro ⟨callback, h, -⟩
        cases h
  | some callback =>
      have hpass : (processPendingPacket net (some m)).run w
          = (passMessage (fun t => (callback m.conn m.packet t).run (perform net)) m).run w := by
        simp only [processPendingPacket, EStateM.run_bind, EStateM.run_get, hcb]
        rfl
      rw [hpass, passMessage_error_iff]
      simp

/-- Receiving a message fails with an exception that can be caught exactly if the packet callback
does. -/
theorem receivePacket_error_iff (hnet : net.ReceivesOne) {fault : Fault} (hfault : fault.catchable)
    {w : World Client} :
  (∃ w', (receivePacket net).run w = .error fault w') ↔ CallbackThrows net fault w
  := by
  have hanswer := hnet.2 w.trace w.self.serverConnection
  rw [run_receivePacket, CallbackThrows]
  generalize net.receiveMessagesOnConnection w.trace w.self.serverConnection = answer at hanswer ⊢
  obtain ⟨n, incomingPacket⟩ := answer
  have hnone : incomingPacket = none → Raises (fun _ => True) (fun fault => ¬ fault.catchable)
      (processPendingPacket net incomingPacket) := by
    rintro rfl
    apply processPendingPacket_none_raises
  rw [receiveBody_error_iff hanswer hnone hfault]
  cases incomingPacket with
  | none => simp
  | some m =>
      have hn : n = 1 := hanswer.of_some
      subst hn
      rw [Option.isSome_some, eq_self, true_and, processPendingPacket_error_iff m]
      constructor
      · rintro ⟨callback, hcb, w', herror⟩
        exact ⟨m, callback, w', rfl, hcb, herror⟩
      · rintro ⟨m', callback, w', ⟨⟩, hcb, herror⟩
        exact ⟨callback, hcb, w', herror⟩

/-! ### Runs of a client -/

/-- The receive loop releases what it receives, unless it ends with an exception that can be caught.
-/
theorem processReceivedPackets_releases (hnet : net.ReceivesOne) :
  Ensures (Holding []) (processReceivedPackets net) (fun _ => Holding [])
    fun fault w => fault.catchable → ∃ m, Holding [m] w
  := by
  apply countedLoop_ensures (receivePacket_releases hnet)
  intro _ _ hcatchable
  cases hcatchable

/-- The exceptions of the processing of packets are those of the packet callback. -/
theorem processReceivedPackets_error_iff (hnet : net.ReceivesOne) {fault : Fault}
    (hfault : fault.catchable) (w : World Client) :
  (∃ w', (processReceivedPackets net).run w = .error fault w')
    ↔ ∃ j w', Iterated net w j w' ∧ j < loopLimit w ∧ CallbackThrows net fault w'
  := by
  have hne : fault ≠ .signedOverflow := by
    rintro rfl
    cases hfault
  rw [processReceivedPackets_raised_iff hne]
  apply exists₂_congr
  intro j w'
  rw [receivePacket_error_iff hnet hfault]

/-- An update whose exceptions are caught releases all messages exactly if its callbacks return. -/
theorem caughtUpdate_releases_iff (hnet : net.ReceivesOne) {w : World Client}
    (hw : AllReleased w.trace) :
  (∀ w', (caught (step net) .updateConnection).run w = .ok () w' → AllReleased w'.trace)
    ↔ CallbacksReturn net w .updateConnection
  := by
  rw [caught, step, updateConnection,
    update_releases_iff (processReceivedPackets_releases hnet)
      (Holding.kept dispatch_besidesMessages) hw]
  constructor
  · rintro h j w' hiter hj fault hthrows hfault
    apply h fault _ hfault
    exact (processReceivedPackets_error_iff hnet hfault w).mpr ⟨j, w', hiter, hj, hthrows⟩
  · rintro h fault herror hfault
    obtain ⟨j, w', hiter, hj, hthrows⟩ :=
      (processReceivedPackets_error_iff hnet hfault w).mp herror
    exact h j w' hiter hj fault hthrows hfault

/-- A step whose exceptions are caught releases all messages exactly if its callbacks return. -/
theorem caughtStep_releases_iff (hnet : net.ReceivesOne) {w : World Client}
    (hw : AllReleased w.trace) (s : ClientStep) :
  (∀ w', (caught (step net) s).run w = .ok () w' → AllReleased w'.trace)
    ↔ CallbacksReturn net w s
  := by
  have hother : s ≠ .updateConnection →
      ∀ w', (caught (step net) s).run w = .ok () w' → AllReleased w'.trace :=
    fun hs _ => catching_keeps_released (Holding.kept (step_besidesMessages s hs)) hw
  cases s with
  | updateConnection => exact caughtUpdate_releases_iff hnet hw
  | _ => exact iff_of_true (hother (by simp)) trivial

end Client

/-! ### Runs of the endpoints -/

/-- In a run of the steps whose exceptions are caught, every message obtained is released, once and
after its callback has finished. -/
def ReleasesAll {E S : Type} (step : S → EndpointM E Unit) (steps : List S) (w : World E) : Prop :=
  ∀ earlier, earlier <+: steps → ∀ w', (forM earlier (caught step)).run w = .ok () w' →
    AllReleased w'.trace

/-- A run of an endpoint releases every message exactly if no call of the packet callback ends with
an exception. -/
theorem releasesAll_iff (hnet : net.ReceivesOne) :
  (∀ ip port socket group steps,
    ReleasesAll (Server.step net) steps (newServer ip port socket group)
      ↔ Along (caught (Server.step net)) (Server.CallbacksReturn net)
          (newServer ip port socket group) steps) ∧
    ∀ serverConnection steps,
      ReleasesAll (Client.step net) steps (newClient serverConnection)
        ↔ Along (caught (Client.step net)) (Client.CallbacksReturn net)
            (newClient serverConnection) steps
  := by
  constructor
  · intro ip port socket group steps
    apply Along.returns_iff _ steps
    · rfl
    intro w s hw
    exact Server.caughtStep_releases_iff hnet hw s
  · intro serverConnection steps
    apply Along.returns_iff _ steps
    · rfl
    intro w s hw
    exact Client.caughtStep_releases_iff hnet hw s

/-- The networking library that keeps messages in queues returns as many as it is asked for. -/
theorem releasesAll_iff_queueNetworking :
  (∀ ip port socket group steps,
    ReleasesAll (Server.step queueNetworking) steps (newServer ip port socket group)
      ↔ Along (caught (Server.step queueNetworking)) (Server.CallbacksReturn queueNetworking)
          (newServer ip port socket group) steps) ∧
    ∀ serverConnection steps,
      ReleasesAll (Client.step queueNetworking) steps (newClient serverConnection)
        ↔ Along (caught (Client.step queueNetworking)) (Client.CallbacksReturn queueNetworking)
            (newClient serverConnection) steps
  := releasesAll_iff queueNetworking_receivesOne

/-- A server whose packet callback throws at the first packet of a client. -/
def throwingServer : List ServerStep :=
  [.setPacketCallback (some fun _ _ _ => ServerScript.call .raise), .openConnection,
    .call (.createClientConnection 1), .call (.setPollGroup 1 2), .arrive ⟨1, [65], 1⟩,
    .updateConnection]

/-- A client whose packet callback throws at the first packet of the server. -/
def throwingClient : List ClientStep :=
  [.setPacketCallback (some fun _ _ _ => ClientScript.call .raise),
    .call (.initializeConnection "127.0.0.1" 8080), .arrive ⟨1, [65], 1⟩, .updateConnection]

/-- A message whose callback throws is not released. -/
theorem throwing_not_releasesAll :
  ¬ ReleasesAll (Server.step queueNetworking) throwingServer (newServer "127.0.0.1" 8080 0 0) ∧
    ¬ ReleasesAll (Client.step queueNetworking) throwingClient (newClient 0)
  := by
  constructor
  · intro h
    have hrun : ∃ w, (forM throwingServer (caught (Server.step queueNetworking))).run
        (newServer "127.0.0.1" 8080 0 0) = .ok () w ∧
          heldMessages w.trace = some [⟨1, [65], 1⟩] := ⟨_, rfl, by decide⟩
    obtain ⟨w, hw, hheld⟩ := hrun
    have hreleased : heldMessages w.trace = some [] := h _ (List.prefix_refl _) w hw
    rw [hheld] at hreleased
    cases hreleased
  · intro h
    have hrun : ∃ w, (forM throwingClient (caught (Client.step queueNetworking))).run
        (newClient 0) = .ok () w ∧ heldMessages w.trace = some [⟨1, [65], 1⟩] :=
      ⟨_, rfl, by decide⟩
    obtain ⟨w, hw, hheld⟩ := hrun
    have hreleased : heldMessages w.trace = some [] := h _ (List.prefix_refl _) w hw
    rw [hheld] at hreleased
    cases hreleased

end Chs
