import ChaosInMultiplayer.Server.Membership

/-!
# Closing the server from the packet callback

When the packet callback closes the server, the receive loop goes on asking the poll group,
which is invalid by then, and uses the null pointer it gets.  Nothing of this happens
exactly when the callback closes the server at the last packet the loop can receive, or does
not return.  Later updates are ignored in any case, because the server has been asked to
quit.
-/

namespace Chs

/-- The event asks for messages or calls the packet callback. -/
@[simp]
def Event.asks : Event → Bool
  | .receiveMessagesOnPollGroup _ _ _ => true
  | .packetCallback _ _ => true
  | _ => false

/-- Once a poll group has been released, no messages are asked for and the packet callback is
not called. -/
def Quiet : Trace → Prop
  | [] => True
  | e :: t => (e.asks → ∀ g, .destroyPollGroup g ∉ t) ∧ Quiet t

/-- A quiet trace stays so while nothing is asked for. -/
theorem Quiet.append {es t : Trace} (h : Quiet t) (hes : ∀ e ∈ es, e.asks = false) :
  Quiet (es ++ t)
  := by
  induction es with
  | nil => apply h
  | cons e es ih =>
      constructor
      · intro he
        rw [hes e List.mem_cons_self] at he
        cases he
      · apply ih
        intro e' he'
        apply hes e' (List.mem_cons_of_mem e he')

theorem Quiet.of_append {es t : Trace} (h : Quiet (es ++ t)) :
  Quiet t
  := by
  induction es with
  | nil => apply h
  | cons e es ih => apply ih h.2

/-- A trace in which no poll group has been released is quiet. -/
theorem quiet_of_unreleased {t : Trace} (h : ∀ g, .destroyPollGroup g ∉ t) :
  Quiet t
  := by
  induction t with
  | nil => trivial
  | cons e t ih =>
      have ht : ∀ g, .destroyPollGroup g ∉ t := fun g hg => h g (List.mem_cons_of_mem e hg)
      exact ⟨fun _ => ht, ih ht⟩

/-- Events that ask for nothing keep the trace quiet. -/
theorem GoesOnBy.quiet {E : Type} {P : Event → Prop} {w w' : World E} (h : GoesOnBy P w w')
    (hP : ∀ e, P e → e.asks = false) (hw : Quiet w.trace) :
  Quiet w'.trace
  := by
  obtain ⟨es, hes, hall⟩ := h
  rw [hes]
  apply hw.append
  intro e he
  apply hP e (hall e he)

namespace Server

open Program

variable {net : ISteamNetworkingSockets} {allowed : Allowed}

/-! ### Open and closed servers -/

/-- The server has released a poll group. -/
def ReleasedPollGroup (w : World Server) : Prop :=
  ∃ g, .destroyPollGroup g ∈ w.trace

/-- The server has been closed and not been opened since. -/
structure Closed (w : World Server) : Prop where
  running : w.self.running = false
  pollGroup : w.self.pollGroup = 0
  released : ReleasedPollGroup w

/-- A server that has been shut down is closed. -/
theorem shutdown_closed (w : World Server) :
  Closed (shutdown w)
  := ⟨rfl, rfl, w.self.pollGroup, List.mem_cons_self⟩

/-- The events of allowed effects ask for nothing if the extra ones do not. -/
theorem Allowed.not_asks (hextra : ∀ e, allowed.extra e → e.asks = false) (e : Event)
    (he : allowed.MayHappen e) :
  e.asks = false
  := by
  cases e with
  | receiveMessagesOnPollGroup g n m => exact hextra _ he.2
  | packetCallback k packet => exact hextra _ he.2
  | _ => rfl

/-- A poll group that has been released stays so. -/
theorem GoesOnBy.released {P : Event → Prop} {w w' : World Server} (h : GoesOnBy P w w')
    (hw : ReleasedPollGroup w) :
  ReleasedPollGroup w'
  := by
  obtain ⟨es, hes, -⟩ := h
  obtain ⟨g, hg⟩ := hw
  use g
  rw [hes]
  apply List.mem_append_right es hg

/-- Effects leave the resources alone, or the server is closed after them. -/
theorem Effects.resources {w w' : World Server} (h : Effects net allowed w w') :
  SameResources w w' ∨ Closed w'
  := by
  induction h with
  | refl =>
      left
      exact Std.Refl.refl _
  | @tail w₁ w₂ _ hs ih =>
      rcases hs.resources with hsame | ⟨-, rfl⟩
      · rcases ih with ih | ih
        · left
          exact IsTrans.trans _ _ _ ih hsame
        · right
          constructor
          · rw [hsame.running, ih.running]
          · rw [hsame.pollGroup, ih.pollGroup]
          · apply GoesOnBy.released hs.goesOnBy ih.released
      · right
        apply shutdown_closed

/-! ### The body of the receive loop -/

/-- A server in its receive loop that has not been closed. -/
structure ReceivingOpen (callback : PacketCallback) (w : World Server) : Prop where
  running : w.self.running
  held : w.self.pollGroup ∈ heldPollGroups w.trace
  unreleased : ¬ ReleasedPollGroup w
  callback : w.self.packetCallback = some callback

/-- What effects make of a server that is receiving: it still is, or it has been closed. -/
theorem Effects.receivingOpen {callback : PacketCallback} {w w' : World Server}
    (h : Effects net allowed w w') (hw : ReceivingOpen callback w) :
  ReceivingOpen callback w' ∨ Closed w'
  := by
  rcases h.resources with hsame | hclosed
  · left
    constructor
    · rw [hsame.running, hw.running]
    · rw [hsame.pollGroup, hsame.pollGroups]
      apply hw.held
    · rintro ⟨g, hg⟩
      apply hw.unreleased ⟨g, hsame.released g hg⟩
    · rw [h.keeps_settings.1, hw.callback]
  · right
    apply hclosed

/-- Calling the packet callback raises only the faults of calls. -/
theorem invoke_raises (callback : PacketCallback) (m : Message) :
  Raises (fun _ => True) CallFault (invoke net callback m)
  := by
  apply Raises.get_bind
  intro w _
  apply Raises.bind_true (script_raises _)
  intro _
  apply Raises.bind_true
  · apply Raises.modify
  intro _
  apply Raises.bind_true
  · exact Raises.modify _
  · intro _
    apply Raises.pure

theorem CallFault.ne_nullDereference {fault : Fault} (h : CallFault fault) :
  fault ≠ .nullDereference
  := by
  cases h <;> simp

/-- The program leaves a quiet trace and does not use a null pointer. -/
def EndsQuietly {α : Type} (p : ServerM α) (w : World Server) : Prop :=
  Quiet (exit p w).trace ∧ ∀ fault w', p.run w = .error fault w' → fault ≠ .nullDereference

/-- While the server is open, the body of the receive loop ends quietly, even if the packet
callback closes the server. -/
theorem receivePacket_endsQuietly (hmembers : net.ReceivesFromMembers) {callback : PacketCallback}
    {w : World Server} (hw : ReceivingOpen callback w) :
  EndsQuietly (receivePacket net) w
  := by
  have hunreleased : ∀ answer g, .destroyPollGroup g ∉ (received w answer).trace := by
    intro answer g hg
    apply hw.unreleased ⟨g, _⟩
    simpa [received] using hg
  rcases hmembers w.trace w.self.pollGroup hw.held with hnone | ⟨m, hsome, -⟩
  · have hrun := run_receivePacket_none hnone
    rw [EndsQuietly, exit_ok hrun, hrun]
    constructor
    · apply quiet_of_unreleased (hunreleased _)
    · intro fault w' h
      cases h
  · rw [EndsQuietly, exit, run_receivePacket_some hsome]
    by_cases hmem : m.conn ∈ (received w (1, some m)).self.connections
    · rw [run_deliver_registered hmem hw.callback, ← exit]
      constructor
      · have hmoves : Moves (Effects net (.all Event.answers)) (invoke net callback m) := by
          apply invoke_moves
          intro k packet t
          apply (callback k packet t).only_true.mono
          intro c _
          apply permits_all
        apply (hmoves _).goesOnBy.quiet
        · apply Allowed.not_asks
          intro e he
          cases e <;> first | rfl | cases he
        · exact ⟨fun _ => hunreleased _, quiet_of_unreleased (hunreleased _)⟩
      · intro fault w' h
        apply (invoke_raises callback m _ fault w' trivial h).ne_nullDereference
    · have hrun : (deliver net m).run (received w (1, some m))
          = .error (.assertionFailed .pendingPacketRegistered) (received w (1, some m)) := by
        rw [deliver, EStateM.run_bind, run_processPendingPacket_unregistered hmem]
      rw [← exit, exit_error hrun, hrun]
      constructor
      · apply quiet_of_unreleased (hunreleased _)
      · intro fault w' h
        cases h
        simp

/-- The body of the receive loop of a closed server uses a null pointer. -/
theorem receivePacket_closed (hinvalid : net.RejectsInvalidPollGroup) {w : World Server}
    (hw : Closed w) :
  ∃ n, (receivePacket net).run w
    = .error .nullDereference
        { w with trace := .log .error "Error checking for messages" ::
          .receiveMessagesOnPollGroup 0 n none :: w.trace }
  := by
  obtain ⟨n, hn, hanswer⟩ := hinvalid w.trace
  use n
  have hne : n ≠ 0 := by omega
  simp [receivePacket, hw.pollGroup, hanswer, hn, hne, when, processPendingPacket]

/-! ### The receive loop -/

/-- When the receive loop starts over after the server has been closed, it has reached its
limit: the packet callback closes the server only at the last packet of an update. -/
def ClosesAtLast (net : ISteamNetworkingSockets) (w : World Server) : Prop :=
  ∀ j w', Iterated net w j w' → w'.self.running = false → j = loopLimit w

/-- Iterations of the receive loop leave its limit alone. -/
theorem loopLimit_iterated {w w' : World Server} {j : Nat} (h : Iterated net w j w') :
  loopLimit w' = loopLimit w
  := by
  rw [loopLimit, loopLimit, h.effects.keeps_settings.2.2]

/-- A program that returns with a quiet trace ends quietly. -/
theorem endsQuietly_of_ok {α : Type} {p : ServerM α} {w w' : World Server} {a : α}
    (hrun : p.run w = .ok a w') (hquiet : Quiet w'.trace) :
  EndsQuietly p w
  := by
  rw [EndsQuietly, exit_ok hrun, hrun]
  use hquiet
  intro fault w' h
  cases h

/-- A program that fails with a quiet trace ends quietly, unless it has used a null pointer. -/
theorem endsQuietly_of_error {α : Type} {p : ServerM α} {w w' : World Server} {fault : Fault}
    (hrun : p.run w = .error fault w') (hquiet : Quiet w'.trace)
    (hfault : fault ≠ .nullDereference) :
  EndsQuietly p w
  := by
  rw [EndsQuietly, exit_error hrun, hrun]
  use hquiet
  intro fault' w' h
  cases h
  apply hfault

/-- The receive loop of an open server ends quietly if the server is closed only at the last
packet.  The induction is on the number of iterations left. -/
theorem receiveLoop_endsQuietly (hmembers : net.ReceivesFromMembers) {callback : PacketCallback}
    {w : World Server} (hlast : ClosesAtLast net w) {left j : Nat} (hleft : left + j = 2147483648)
    {w₁ : World Server} (hiter : Iterated net w j w₁) (hw₁ : ReceivingOpen callback w₁) :
  EndsQuietly (receiveLoop net left j) w₁
  := by
  have hquiet : Quiet w₁.trace := quiet_of_unreleased fun g hg => hw₁.unreleased ⟨g, hg⟩
  induction left generalizing j w₁ with
  | zero => exact endsQuietly_of_error rfl hquiet (by simp)
  | succ left ih =>
      by_cases hj : j < w₁.self.maxProcessedPackets.toNat
      · obtain ⟨hbody, hfault⟩ := receivePacket_endsQuietly hmembers hw₁
        have hloop := run_receiveLoop_body net left hj
        cases hrun : (receivePacket net).run w₁ with
        | error fault w₂ =>
            rw [exit_error hrun] at hbody
            rw [EStateM.run_bind, hrun] at hloop
            apply endsQuietly_of_error hloop hbody (hfault fault w₂ hrun)
        | ok goesOn w₂ =>
            rw [exit_ok hrun] at hbody
            rw [run_bind_ok _ hrun] at hloop
            cases goesOn with
            | false => exact endsQuietly_of_ok hloop hbody
            | true =>
                have hlim : j < loopLimit w := by
                  rw [← loopLimit_iterated hiter, loopLimit]
                  omega
                have hnext := hiter.next hlim hrun
                have heffects := receivePacket_effects net w₁
                rw [exit_ok hrun] at heffects
                rw [EndsQuietly, exit, hloop, if_pos rfl, ← exit]
                rcases heffects.receivingOpen hw₁ with hopen | hclosed
                · apply ih (by omega) hnext hopen hbody
                · have hend : loopLimit w₂ ≤ j + 1 := by
                    rw [loopLimit_iterated hnext, hlast _ _ hnext hclosed.running]
                  have hleft' : left + (j + 1) = 2147483648 := by omega
                  rcases run_receiveLoop_limit net hleft' hend with hdone | hdone
                  · exact endsQuietly_of_ok hdone hbody
                  · exact endsQuietly_of_error hdone hbody (by simp)
      · have hdone : (receiveLoop net (left + 1) j).run w₁ = .ok () w₁ :=
          run_receiveLoop_done net left hj
        exact endsQuietly_of_ok hdone hquiet

/-- If the server is closed at an earlier packet, the loop asks a poll group that has been
released. -/
theorem receiveLoop_not_quiet (hinvalid : net.RejectsInvalidPollGroup) {w w' : World Server}
    {j : Nat} (hiter : Iterated net w j w') (hclosed : Closed w') (hj : j ≠ loopLimit w) :
  ¬ Quiet (exit (receiveLoop net 2147483648 0) w).trace
  := by
  have hlt : j < loopLimit w' := by
    rw [loopLimit_iterated hiter]
    apply lt_of_le_of_ne hiter.index_le hj
  rw [loopLimit, Nat.lt_min] at hlt
  obtain ⟨n, hbody⟩ := receivePacket_closed hinvalid hclosed
  obtain ⟨g, hg⟩ := hclosed.released
  have hleft : 2147483648 - j = (2147483648 - (j + 1)) + 1 := by omega
  rw [exit, hiter.run_receiveLoop, hleft, run_receiveLoop_body net _ hlt.1, EStateM.run_bind, hbody]
  rintro ⟨-, hasks, -⟩
  apply hasks rfl g hg

/-! ### Updates -/

/-- What holds of every server: it holds its poll group while it runs, and it has been asked
to quit if it has ever released one. -/
structure QuitWhenReleased (w : World Server) : Prop where
  held : HoldsPollGroup w
  quit : ReleasedPollGroup w → w.self.quitRequested

/-- Whenever an effect releases the poll group, the server is asked to quit. -/
theorem Effect.keeps_quitWhenReleased {w w' : World Server} (h : Effect net allowed w w')
    (hw : QuitWhenReleased w) :
  QuitWhenReleased w'
  := by
  use h.keeps_holdsPollGroup hw.held
  rintro ⟨g, hg⟩
  rcases h.resources with hsame | ⟨-, rfl⟩
  · apply h.keeps_quitRequested
    apply hw.quit
    exact ⟨g, hsame.released g hg⟩
  · rfl

/-- An opening releases no poll group. -/
theorem opened_released {w : World Server} (h : ReleasedPollGroup (opened net w)) :
  ReleasedPollGroup w
  := by
  obtain ⟨g, hg⟩ := h
  use g
  apply ((opened_goesOnBy w).mem_iff (by simp)).mp hg

/-- In every step that releases the poll group the server is asked to quit. -/
theorem step_keeps_quitWhenReleased (s : ServerStep) :
  Keeps QuitWhenReleased (step net s)
  := by
  apply step_keeps
  · intro w w' h hw
    apply h.keeps_quitWhenReleased hw
  · intro w hw
    use opened_holdsPollGroup w
    intro h
    apply hw.quit (opened_released h)
  · intro w hw
    constructor
    · intro hrun
      cases hrun
    · rintro ⟨g, hg⟩
      apply hw.quit
      use g
      simpa [notOpened] using hg
  · intro w _ _ _ hw
    exact ⟨hw.held, hw.quit⟩

/-- A sequence ends quietly if both of its parts do. -/
theorem EndsQuietly.bind {α β : Type} {p : ServerM α} {f : α → ServerM β} {w : World Server}
    (hp : EndsQuietly p w) (hf : ∀ a w', Quiet w'.trace → EndsQuietly (f a) w') :
  EndsQuietly (p >>= f) w
  := by
  obtain ⟨hquiet, hfault⟩ := hp
  cases h : p.run w with
  | ok a w' =>
      rw [exit_ok h] at hquiet
      have hrun := run_bind_ok f h
      rw [EndsQuietly, exit, hrun, ← exit]
      apply hf a w' hquiet
  | error fault w' =>
      rw [exit_error h] at hquiet
      have hrun : (p >>= f).run w = .error fault w' := by rw [EStateM.run_bind, h]
      exact endsQuietly_of_error hrun hquiet (hfault fault w' h)

theorem StatusFault.ne_nullDereference {fault : Fault} (h : StatusFault fault) :
  fault ≠ .nullDereference
  := by
  cases h with
  | ofCall h => apply h.ne_nullDereference
  | _ => simp

/-- What an update does after the packets asks for no messages. -/
theorem dispatch_endsQuietly {w : World Server} (hw : Quiet w.trace) :
  EndsQuietly (do
    processConnectionStateChanges net
    processUserInput) w
  := by
  constructor
  · have hmoves : Moves (Effects net (.all Event.ofStatus)) (do
        processConnectionStateChanges net
        processUserInput) := dispatch_moves
    apply (hmoves w).goesOnBy.quiet _ hw
    apply Allowed.not_asks
    intro e he
    cases e <;> first | rfl | cases he
  · intro fault w' h
    apply dispatch_raises (fun _ => StatusFault.ne_nullDereference) w fault w' trivial h

/-- A server that is not stopped has not released its poll group. -/
theorem QuitWhenReleased.unreleased {w : World Server} (hw : QuitWhenReleased w)
    (hstop : ¬ Stopped w) :
  ¬ ReleasedPollGroup w
  := by
  intro h
  apply hstop
  left
  apply hw.quit h

/-- An update that does not ignore its packets starts with an open server. -/
theorem QuitWhenReleased.receivingOpen {w : World Server} (hw : QuitWhenReleased w)
    (hstop : ¬ Stopped w) {callback : PacketCallback}
    (hcb : w.self.packetCallback = some callback) :
  ReceivingOpen callback w
  := by
  have hrun : w.self.running := by
    by_contra hrun
    apply hstop
    right
    simpa using hrun
  exact ⟨hrun, hw.held hrun, hw.unreleased hstop, hcb⟩

/-- The receiving of packets ends quietly if the packet callback closes the server only at
the last packet. -/
theorem processPendingPackets_endsQuietly (hmembers : net.ReceivesFromMembers)
    {w : World Server} (hw : QuitWhenReleased w) (hstop : ¬ Stopped w)
    (hlast : w.self.packetCallback.isSome → ClosesAtLast net w) :
  EndsQuietly (processPendingPackets net) w
  := by
  cases hcb : w.self.packetCallback with
  | none =>
      apply endsQuietly_of_ok (run_processPendingPackets_none hcb)
      exact quiet_of_unreleased fun g hg => hw.unreleased hstop ⟨g, hg⟩
  | some callback =>
      have hlast : ClosesAtLast net w := by
        apply hlast
        rw [hcb]
        rfl
      rw [EndsQuietly, exit, run_processPendingPackets_some hcb, ← exit]
      exact receiveLoop_endsQuietly hmembers hlast (Nat.add_zero _) .start
        (hw.receivingOpen hstop hcb)

/-- If the receiving of packets leaves a quiet trace, the packet callback closes the server
only at the last packet. -/
theorem closesAtLast_of_quiet (hinvalid : net.RejectsInvalidPollGroup) {w : World Server}
    (hw : QuitWhenReleased w) (hstop : ¬ Stopped w) (hcb : w.self.packetCallback.isSome)
    (h : Quiet (exit (processPendingPackets net) w).trace) :
  ClosesAtLast net w
  := by
  obtain ⟨callback, hcb⟩ := Option.isSome_iff_exists.mp hcb
  rw [exit, run_processPendingPackets_some hcb, ← exit] at h
  intro j w' hiter hclosed
  by_contra hj
  apply receiveLoop_not_quiet hinvalid hiter _ hj h
  apply (hiter.effects.receivingOpen (hw.receivingOpen hstop hcb)).resolve_left
  intro hopen
  rw [hopen.running] at hclosed
  cases hclosed

/-- If the step is an update that receives packets, the packet callback closes the server only
at the last packet the update can receive. -/
def UpdateClosesAtLast (net : ISteamNetworkingSockets) (w : World Server) : ServerStep → Prop
  | .updateConnection => ¬ Stopped w → w.self.packetCallback.isSome → ClosesAtLast net w
  | _ => True

/-- An update ends quietly if its receive loop does. -/
theorem updateConnection_endsQuietly {w : World Server} (hw : Quiet w.trace)
    (h : ¬ Stopped w → EndsQuietly (processPendingPackets net) w) :
  EndsQuietly (updateConnection net) w
  := by
  by_cases hstop : Stopped w
  · exact endsQuietly_of_ok (run_updateConnection_stopped hstop) hw
  · rw [EndsQuietly, exit, run_updateConnection_active hstop, ← exit]
    apply (h hstop).bind
    intro _ w' hw'
    apply dispatch_endsQuietly hw'

/-- The trace of an update contains that of its receiving of packets. -/
theorem processPendingPackets_quiet {w : World Server} (hstop : ¬ Stopped w)
    (h : Quiet (exit (updateConnection net) w).trace) :
  Quiet (exit (processPendingPackets net) w).trace
  := by
  rw [exit, run_updateConnection_active hstop, ← exit] at h
  cases hrun : (processPendingPackets net).run w with
  | error fault w' =>
      rw [exit_bind_error _ hrun] at h
      rw [exit_error hrun]
      apply h
  | ok a w' =>
      have hmoves : Moves (Effects net (.all Event.ofStatus)) (do
          processConnectionStateChanges net
          processUserInput) := dispatch_moves
      obtain ⟨es, hes, -⟩ := (hmoves w').goesOnBy
      rw [exit_bind_ok _ hrun, hes] at h
      rw [exit_ok hrun]
      apply h.of_append

/-! ### Runs -/

/-- What holds of a server as long as its callbacks close it only at last packets. -/
structure QuietSoFar (w : World Server) : Prop where
  sound : QuitWhenReleased w
  quiet : Quiet w.trace

/-- An opening asks for no messages. -/
theorem openConnection_quiet {w : World Server} (hw : Quiet w.trace) :
  Quiet (exit (openConnection net) w).trace
  := by
  apply (openConnection_goesOnBy w).quiet _ hw
  intro e he
  cases e <;> first | rfl | cases he

/-- A step other than an update ends quietly. -/
theorem step_endsQuietly {w : World Server} (hw : Quiet w.trace) (s : ServerStep)
    (hs : s = .updateConnection → EndsQuietly (updateConnection net) w) :
  EndsQuietly (step net s) w
  := by
  cases s with
  | updateConnection => exact hs rfl
  | openConnection =>
      use openConnection_quiet hw
      intro fault w' h
      cases hp : net.parseString w.trace w.self.address with
      | true =>
          rw [step, run_openConnection_parsed hp] at h
          cases h
      | false =>
          rw [step, run_openConnection_unparsed hp] at h
          cases h
  | call c =>
      apply EndsQuietly.bind
      · constructor
        · have hmoves : Moves (Effects net (.all fun _ => false)) (perform net c) :=
            perform_moves c (permits_all _ c)
          apply (hmoves w).goesOnBy.quiet _ hw
          apply Allowed.not_asks
          intro e he
          cases he
        · intro fault w' h
          apply (perform_raises c w fault w' trivial h).ne_nullDereference
      · intro _ w' hw'
        exact endsQuietly_of_ok rfl hw'
  | arrive m => exact endsQuietly_of_ok rfl ⟨by simp, hw⟩
  | queue info => exact endsQuietly_of_ok rfl ⟨by simp, hw⟩
  | _ => exact endsQuietly_of_ok rfl hw

/-- A step stays quiet exactly if it is no update that closes the server before its last packet. -/
theorem step_quiet_iff (hinvalid : net.RejectsInvalidPollGroup)
    (hmembers : net.ReceivesFromMembers) (w : World Server) (s : ServerStep)
    (hw : QuietSoFar w) :
  QuietSoFar (exit (step net s) w) ↔ UpdateClosesAtLast net w s
  := by
  constructor
  · rintro ⟨-, h⟩
    cases s with
    | updateConnection =>
        intro hstop hcb
        apply closesAtLast_of_quiet hinvalid hw.sound hstop hcb
        apply processPendingPackets_quiet hstop h
    | _ => trivial
  · intro h
    use step_keeps_quitWhenReleased s w hw.sound
    apply (step_endsQuietly hw.quiet s _).1
    rintro rfl
    apply updateConnection_endsQuietly hw.quiet
    intro hstop
    apply processPendingPackets_endsQuietly hmembers hw.sound hstop (h hstop)

/-- Every initial part of a run from `w` ends quietly. -/
def StaysQuiet (net : ISteamNetworkingSockets) (steps : List ServerStep) (w : World Server) :
    Prop :=
  ∀ js, js <+: steps → EndsQuietly (runSteps net js) w

/-- A new server is quiet. -/
theorem newServer_quietSoFar (ip : String) (port : UInt32) (socket : HSteamListenSocket)
    (group : HSteamNetPollGroup) :
  QuietSoFar (newServer ip port socket group)
  := by
  constructor
  · constructor
    · intro h
      cases h
    · rintro ⟨g, hg⟩
      cases hg
  · trivial

/-- In a run, no messages are asked for, the packet callback is not called and no null pointer
is used after the server has been closed, exactly when in every update the packet callback
closes the server only at the last packet the update can receive. -/
theorem staysQuiet_iff (hinvalid : net.RejectsInvalidPollGroup)
    (hmembers : net.ReceivesFromMembers) (steps : List ServerStep) (ip : String) (port : UInt32)
    (socket : HSteamListenSocket) (group : HSteamNetPollGroup) :
  StaysQuiet net steps (newServer ip port socket group)
    ↔ Along (step net) (UpdateClosesAtLast net) (newServer ip port socket group) steps
  := by
  have hnew := newServer_quietSoFar ip port socket group
  have hiff := Along.iff_keeps (step_quiet_iff hinvalid hmembers) steps _ hnew
  constructor
  · intro h
    apply hiff.mp
    intro js hjs
    constructor
    · have hkeeps : Keeps QuitWhenReleased (runSteps net js) :=
        Moves.forM fun s _ => step_keeps_quitWhenReleased s
      apply hkeeps _ hnew.sound
    · apply (h js hjs).1
  · rintro h js ⟨ks, rfl⟩
    constructor
    · apply (hiff.mpr h js (List.prefix_append js ks)).quiet
    · have hraises : ∀ w s fault w', UpdateClosesAtLast net w s → QuietSoFar w →
          (step net s).run w = .error fault w' → fault ≠ .nullDereference := by
        intro w s fault w' hc hw hrun
        apply (step_endsQuietly hw.quiet s _).2 fault w' hrun
        rintro rfl
        apply updateConnection_endsQuietly hw.quiet
        intro hstop
        apply processPendingPackets_endsQuietly hmembers hw.sound hstop (hc hstop)
      exact Along.raises (fun w s hc hw => (step_quiet_iff hinvalid hmembers w s hw).mpr hc)
        hraises js _ h.of_append hnew

/-- A packet callback that closes the server. -/
def closeServer : PacketCallback := fun _ _ _ =>
  Script.request ServerCall.closeConnection

/-- A client is registered and sends one packet, and the packet callback closes the server,
whose limit is five packets. -/
def closedByPacket : List ServerStep :=
  [.setPacketCallback (some closeServer),
    .setConnectionStatusChangeCallback (some registerInGroup), .openConnection,
    .queue ⟨1, .none, .connecting⟩, .updateConnection, .arrive ⟨1, [65], 1⟩, .updateConnection]

/-- A packet callback that closes the server before its limit is reached. -/
theorem closedByPacket_staysQuiet_iff :
  StaysQuiet queueNetworking closedByPacket (newServer "127.0.0.1" 8080 0 0)
    ↔ Along (step queueNetworking) (UpdateClosesAtLast queueNetworking)
        (newServer "127.0.0.1" 8080 0 0) closedByPacket
  := by
  apply staysQuiet_iff queueNetworking_rejectsInvalidPollGroup
  apply queueNetworking_receivesInOrder.fromMembers

/-- The packet callback closes the server at the first of five packets, and the loop goes on
with a poll group that is invalid. -/
theorem closedByPacket_not_staysQuiet :
  ¬ StaysQuiet queueNetworking closedByPacket (newServer "127.0.0.1" 8080 0 0)
  := by
  intro h
  have hfault : ∃ w, (runSteps queueNetworking closedByPacket).run (newServer "127.0.0.1" 8080 0 0)
      = .error .nullDereference w := ⟨_, rfl⟩
  obtain ⟨w, hw⟩ := hfault
  apply (h closedByPacket List.prefix_rfl).2 _ w hw
  rfl

end Server

end Chs
