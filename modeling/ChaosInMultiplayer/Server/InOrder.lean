import ChaosInMultiplayer.Endpoints.OutsideCalls
import ChaosInMultiplayer.Server.Delivery

/-!
# Delivery in order

An update passes the packets that are pending when it runs to the packet callback, oldest first
and as many as the limit allows, and leaves the others pending.  So the packets passed in a whole
run are the first ones that have arrived, and the others are those still pending, for any
interleaving of arrivals, updates and changes of the limit.
-/

namespace Chs

/-- The bytes of a message, whose number is `m_cbSize`. -/
def Message.bytes (m : Message) : List UInt8 :=
  m.data.take m.cbSize.toNat

/-- The size of the message is a number of bytes that an `int` can hold. -/
def Message.Sized (m : Message) : Prop :=
  0 ≤ m.cbSize ∧ m.cbSize ≤ 2147483647

/-- A message of the size it states is passed with all its bytes. -/
theorem Message.packet_data {m : Message} (h : m.Sized) :
  m.packet.data = m.bytes
  := by
  obtain ⟨hpos, hle⟩ := h
  have hsize : toSizeT m.cbSize = m.cbSize.toNat := by
    have hlt : m.cbSize < (UInt64.size : Int) := by
      have hsize : (UInt64.size : Int) = 18446744073709551616 := rfl
      omega
    rw [toSizeT, Int.emod_eq_of_lt hpos hlt]
  rw [packet, Packet.construct, hsize]
  rfl

/-- What the delivery of a message passes to the packet callback. -/
def Message.delivery (m : Message) : HSteamNetConnection × List UInt8 :=
  (m.conn, m.bytes)

/-- The messages that have arrived, in the order of their arrival. -/
def arrivals : Trace → List Message
  | [] => []
  | .arrived m :: t => arrivals t ++ [m]
  | _ :: t => arrivals t

/-- The connections and bytes that have been passed to the packet callback, in this order. -/
def passedPackets : Trace → List (HSteamNetConnection × List UInt8)
  | [] => []
  | .packetCallback c p :: t => passedPackets t ++ [(c, p.data)]
  | _ :: t => passedPackets t

theorem arrivals_append {es : List Event} (hes : ∀ e ∈ es, e.ofMessages = false) (t : Trace) :
  arrivals (es ++ t) = arrivals t
  := by
  apply History.unchanged_append _ hes
  intro e t he
  cases e <;> first | rfl | cases he

theorem passedPackets_append {es : List Event} (hes : ∀ e ∈ es, e.ofMessages = false)
    (t : Trace) :
  passedPackets (es ++ t) = passedPackets t
  := by
  apply History.unchanged_append _ hes
  intro e t he
  cases e <;> first | rfl | cases he

/-- Only the closing of their connections discards pending messages. -/
theorem pending_append {es t : Trace} (hes : ∀ e ∈ es, e.ofMessages = false)
    (hopen : ∀ m ∈ pending t, .closeConnection m.conn ∉ es) :
  pending (es ++ t) = pending t
  := by
  induction es with
  | nil => rfl
  | cons e es ih =>
      have hrest := ih (fun e' he' => hes e' (List.mem_cons_of_mem e he'))
        (fun m hm hmem => hopen m hm (List.mem_cons_of_mem e hmem))
      have he := hes e List.mem_cons_self
      cases e with
      | closeConnection c =>
          rw [List.cons_append, pending, hrest, List.filter_eq_self]
          intro m hm
          have hne : m.conn ≠ c := by
            rintro rfl
            apply hopen m hm List.mem_cons_self
          simpa using hne
      | _ => first | exact hrest | cases he

namespace Server

open Program

variable {net : ISteamNetworkingSockets}

/-! ### Passing packets -/

/-- The first `k` pending messages of the poll group have been passed to the packet callback. -/
structure Passed (k : Nat) (w w' : World Server) : Prop where
  self : w'.self = w.self
  delivered : passedPackets w'.trace
    = passedPackets w.trace ++ ((pendingOn w.self.pollGroup w.trace).take k).map Message.delivery
  rest : pendingOn w'.self.pollGroup w'.trace = (pendingOn w.self.pollGroup w.trace).drop k
  arrived : arrivals w'.trace = arrivals w.trace
  grouped : ∀ c, groupOf c w'.trace = groupOf c w.trace
  pending_subset : pending w'.trace ⊆ pending w.trace

theorem Passed.zero (w : World Server) :
  Passed 0 w w
  where
  self := rfl
  delivered := by simp
  rest := rfl
  arrived := rfl
  grouped _ := rfl
  pending_subset := List.Subset.refl _

/-- Packets that are passed one after another are the first ones together. -/
theorem Passed.add {k l : Nat} {w w₁ w₂ : World Server} (h : Passed k w w₁)
    (h' : Passed l w₁ w₂) :
  Passed (k + l) w w₂
  where
  self := h'.self.trans h.self
  delivered := by
    rw [h'.delivered, h.delivered, h.rest, List.append_assoc, ← List.map_append, List.take_add]
  rest := by
    rw [h'.rest, h.rest, List.drop_drop]
  arrived := h'.arrived.trans h.arrived
  grouped c := (h'.grouped c).trans (h.grouped c)
  pending_subset := List.Subset.trans h'.pending_subset h.pending_subset

/-- Between two packets nothing is passed. -/
theorem Passed.calm {k : Nat} {w w₁ w₂ : World Server} (h : Passed k w w₁)
    (hself : w₂.self = w₁.self) (hcalm : GoesOnBy Calm w₁ w₂) :
  Passed k w w₂
  := by
  obtain ⟨es, hes, hcalm⟩ := hcalm
  have hquiet : ∀ e ∈ es, e.ofMessages = false := fun e he => (hcalm e he).not_ofMessages
  constructor
  · exact hself.trans h.self
  · rw [hes, passedPackets_append hquiet]
    exact h.delivered
  · rw [hself, hes, pendingOn_append_calm hcalm]
    exact h.rest
  · rw [hes, arrivals_append hquiet]
    exact h.arrived
  · intro c
    rw [hes, groupOf_append_calm hcalm]
    apply h.grouped
  · rw [hes, pending_append_calm hcalm]
    exact h.pending_subset

/-- Calling the packet callback at the oldest pending message passes its packet. -/
theorem passed_called {w : World Server} {m : Message} {ms : List Message}
    (hp : pendingOn w.self.pollGroup w.trace = m :: ms) (hm : m.Sized) :
  Passed 1 w (called (received w (1, some m)) m)
  where
  self := rfl
  delivered := by
    rw [hp]
    simp only [called, received, passedPackets, List.take_succ_cons, List.take_zero, List.map_cons,
      List.map_nil, Message.packet_data hm]
    rfl
  rest := by
    rw [hp]
    exact pendingOn_handedOver hp
  arrived := rfl
  grouped _ := rfl
  pending_subset := List.erase_subset

/-- The server receives packets for a packet callback that does not call back. -/
structure Serving (callback : PacketCallback) (w : World Server) : Prop where
  receiving : Receiving w
  installed : w.self.packetCallback = some callback
  outside : ∀ k packet t, (callback k packet t).Only ServerCall.Outside
  sized : ∀ m ∈ pendingOn w.self.pollGroup w.trace, m.Sized

theorem calm_of_logged {e : Event} (h : e.Logged) :
  Calm e
  := by
  obtain ⟨level, text, rfl⟩ := h
  exact ⟨rfl, rfl⟩

theorem calm_of_logs {w w' : World Server} (h : Logs w w') :
  GoesOnBy Calm w w'
  := by
  obtain ⟨-, es, hes, hlogged⟩ := h
  exact ⟨es, hes, fun e he => calm_of_logged (hlogged e he)⟩

/-- Once the packet callback has been called, it returns, or it raises an exception. -/
theorem invoke_ensures {callback : PacketCallback}
    (houtside : ∀ k packet t, (callback k packet t).Only ServerCall.Outside) (m : Message)
    (w : World Server) :
  Ensures (· = w) (invoke net callback m)
    (fun goesOn w' => goesOn = true ∧ w'.self = w.self ∧ GoesOnBy Calm w w')
    fun fault w' => CallbackFault fault ∧ w'.self = w.self ∧ GoesOnBy Calm w w'
  := by
  apply Ensures.get_bind
  rintro w rfl
  apply Ensures.bind (R := fun _ w' => Logs w w')
  · apply (outside_ensures (houtside m.conn m.packet w.trace) w).mono (fun _ h => h)
      (fun _ _ h => h)
    rintro fault w' ⟨hfault, hlogs⟩
    exact ⟨hfault, hlogs.1, calm_of_logs hlogs⟩
  · intro _
    apply Ensures.of_run_ok
    intro w₁ hlogs
    use true, { w₁ with trace := .release m :: .packetCallbackReturned m.conn :: w₁.trace }
    refine ⟨rfl, rfl, hlogs.1, ?_⟩
    apply IsTrans.trans _ _ _ (calm_of_logs hlogs)
    use [.release m, .packetCallbackReturned m.conn], rfl
    intro e he
    simp only [List.mem_cons, List.not_mem_nil, or_false] at he
    rcases he with rfl | rfl <;> exact ⟨rfl, rfl⟩

/-- If nothing is pending, any number of packets has been passed by doing nothing. -/
theorem passed_nothing {w : World Server} (hp : pendingOn w.self.pollGroup w.trace = [])
    (k : Nat) :
  Passed k w (received w (0, none))
  where
  self := rfl
  delivered := by
    rw [hp]
    simp [received, passedPackets]
  rest := by
    rw [hp, List.drop_nil]
    exact hp
  arrived := rfl
  grouped _ := rfl
  pending_subset := List.Subset.refl _

/-- The body of the receive loop ends the loop when nothing is pending, and otherwise passes one
packet. -/
theorem receivePacket_ensures (horder : net.ReceivesInOrder) {callback : PacketCallback}
    {w : World Server} (hw : Serving callback w) :
  Ensures (· = w) (receivePacket net)
    (fun goesOn w' =>
      (goesOn = false ∧ ∀ k, Passed k w w') ∨
        (goesOn = true ∧ pendingOn w.self.pollGroup w.trace ≠ [] ∧ Passed 1 w w'))
    fun fault w' => CallbackFault fault ∧ ∃ k, Passed k w w'
  := by
  rintro w rfl
  have hanswer := horder w.trace w.self.pollGroup hw.receiving.held
  cases hp : pendingOn w.self.pollGroup w.trace with
  | nil =>
      rw [hp] at hanswer
      rw [run_receivePacket_none hanswer]
      left
      exact ⟨rfl, passed_nothing hp⟩
  | cons m ms =>
      rw [hp] at hanswer
      have hmem : m ∈ pendingOn w.self.pollGroup w.trace := by simp [hp]
      have hgroup : groupOf m.conn w.trace = some w.self.pollGroup := by
        simpa using (List.mem_filter.mp hmem).2
      have hregistered : m.conn ∈ (received w (1, some m)).self.connections := by
        apply hw.receiving.grouped.2.member
        rw [hgroup]
        simp
      have hpassed := passed_called hp (hw.sized m hmem)
      rw [run_receivePacket_some hanswer, run_deliver_registered hregistered hw.installed]
      have hinvoke := @invoke_ensures net callback hw.outside m (called (received w (1, some m)) m)
      refine (hinvoke.mono (fun _ h => h) ?_ ?_) _ rfl
      · rintro goesOn w' ⟨hgoesOn, hself, hcalm⟩
        right
        exact ⟨hgoesOn, List.cons_ne_nil m ms, hpassed.calm hself hcalm⟩
      · rintro fault w' ⟨hfault, hself, hcalm⟩
        exact ⟨hfault, 1, hpassed.calm hself hcalm⟩

/-- A server goes on serving when it has received a message. -/
theorem Serving.next (hnet : net.RefusesClosed) {callback : PacketCallback} {w w' : World Server}
    (hw : Serving callback w) {goesOn : Bool} {k : Nat}
    (hrun : (receivePacket net).run w = .ok goesOn w') (hpassed : Passed k w w') :
  Serving callback w'
  where
  receiving := by
    rw [← exit_ok hrun]
    apply receivePacket_keeps_receiving hnet w hw.receiving
  installed := by
    rw [hpassed.self]
    apply hw.installed
  outside := hw.outside
  sized m hm := by
    rw [hpassed.rest] at hm
    apply hw.sized m (List.mem_of_mem_drop hm)

/-- The receive loop passes as many packets as its limit allows, unless the packet callback raises
an exception.  The induction is on the number of iterations left. -/
theorem receiveLoop_ensures (hnet : net.RefusesClosed) (horder : net.ReceivesInOrder)
    {callback : PacketCallback} (left j : Nat) {w : World Server} (hw : Serving callback w)
    (hleft : left + j = 2147483648)
    (hfew : (pendingOn w.self.pollGroup w.trace).length + j < 2147483648) :
  Ensures (· = w) (receiveLoop net left j)
    (fun _ w' => Passed (w.self.maxProcessedPackets.toNat - j) w w')
    fun fault w' => CallbackFault fault ∧ ∃ k, Passed k w w'
  := by
  induction left generalizing j w with
  | zero => omega
  | succ left ih =>
      rintro w rfl
      by_cases hj : j < w.self.maxProcessedPackets.toNat
      · rw [run_receiveLoop_body net left hj, EStateM.run_bind]
        have hbody := receivePacket_ensures horder hw w rfl
        cases hrun : (receivePacket net).run w with
        | error fault w' =>
            rw [hrun] at hbody
            exact hbody
        | ok goesOn w₁ =>
            rw [hrun] at hbody
            rcases hbody with ⟨rfl, hnone⟩ | ⟨rfl, hsome, hpassed⟩
            · apply hnone
            · have hlength : (pendingOn w₁.self.pollGroup w₁.trace).length + 1
                  = (pendingOn w.self.pollGroup w.trace).length := by
                rw [hpassed.rest, List.length_drop]
                have hpos := List.length_pos_iff.mpr hsome
                omega
              have hrest := ih (j := j + 1) (hw.next hnet hrun hpassed) (by omega) (by omega)
                w₁ rfl
              simp only [if_true]
              cases hrun' : (receiveLoop net left (j + 1)).run w₁ with
              | error fault w' =>
                  rw [hrun'] at hrest
                  obtain ⟨hfault, k, hk⟩ := hrest
                  exact ⟨hfault, 1 + k, hpassed.add hk⟩
              | ok a w' =>
                  rw [hrun'] at hrest
                  have hn : w.self.maxProcessedPackets.toNat - j
                      = 1 + (w₁.self.maxProcessedPackets.toNat - (j + 1)) := by
                    rw [hpassed.self]
                    omega
                  rw [hn]
                  apply hpassed.add hrest
      · have hn : w.self.maxProcessedPackets.toNat - j = 0 := by omega
        rw [run_receiveLoop_done net left hj, hn]
        apply Passed.zero

/-! ### Clients -/

/-- The message is from a connection of the server's poll group. -/
def FromClient (w : World Server) (m : Message) : Prop :=
  groupOf m.conn w.trace = some w.self.pollGroup ∧ m.Sized

/-- The connections of the server's poll group stay there: none of them is closed. -/
def KeepsClients (w w' : World Server) : Prop :=
  ∀ k, groupOf k w.trace = some w.self.pollGroup → groupOf k w'.trace = some w'.self.pollGroup

/-- All pending messages are from clients. -/
def PendingFromClients (w : World Server) : Prop :=
  ∀ m ∈ pending w.trace, FromClient w m

/-- Everything that is pending is pending on the poll group of the server. -/
theorem PendingFromClients.pendingOn_eq {w : World Server} (h : PendingFromClients w) :
  pendingOn w.self.pollGroup w.trace = pending w.trace
  := by
  rw [pendingOn, List.filter_eq_self]
  intro m hm
  simpa using (h m hm).1

/-- What is left pending is still from clients. -/
theorem PendingFromClients.passed {k : Nat} {w w' : World Server} (h : PendingFromClients w)
    (hpassed : Passed k w w') :
  PendingFromClients w'
  := by
  intro m hm
  obtain ⟨hgroup, hsized⟩ := h m (hpassed.pending_subset hm)
  rw [FromClient, hpassed.grouped, hpassed.self]
  exact ⟨hgroup, hsized⟩

/-- While the clients stay, only the receiving of packets takes pending messages. -/
theorem pending_of_keepsClients {w w' : World Server}
    (hgoes : GoesOnBy (fun e => e.ofMessages = false) w w') (hw : PendingFromClients w)
    (hkeeps : KeepsClients w w') (hgrouped : RegistryGrouped w') :
  pending w'.trace = pending w.trace
  := by
  obtain ⟨es, hes, hquiet⟩ := hgoes
  rw [hes]
  apply pending_append hquiet
  intro m hm hclosed
  apply not_closed_of_group hgrouped (hkeeps m.conn (hw m hm).1)
  rw [hes]
  apply List.mem_append_left _ hclosed

/-! ### Conservation -/

/-- From `w` to `w'`, the packets passed to the packet callback are the oldest of those that were
pending or have arrived, and the others are pending. -/
def Conserves (w w' : World Server) : Prop :=
  ∃ passed new : List Message,
    passedPackets w'.trace = passedPackets w.trace ++ passed.map Message.delivery ∧
      arrivals w'.trace = arrivals w.trace ++ new ∧
      pending w.trace ++ new = passed ++ pending w'.trace

instance : Std.Refl Conserves where
  refl w := ⟨[], [], by simp, by simp, by simp⟩

instance : IsTrans (World Server) Conserves where
  trans w w₁ w₂ := by
    rintro ⟨passed, new, hpassed, hnew, hpending⟩
      ⟨passed', new', hpassed', hnew', hpending'⟩
    use passed ++ passed', new ++ new'
    constructor
    · rw [hpassed', hpassed, List.map_append, List.append_assoc]
    constructor
    · rw [hnew', hnew, List.append_assoc]
    · rw [← List.append_assoc, hpending, List.append_assoc, hpending', List.append_assoc]

/-- Nothing is lost while nothing happens about messages. -/
theorem conserves_of_same {w w' : World Server}
    (hgoes : GoesOnBy (fun e => e.ofMessages = false) w w')
    (hpending : pending w'.trace = pending w.trace) :
  Conserves w w'
  := by
  obtain ⟨es, hes, hquiet⟩ := hgoes
  use [], []
  rw [hpending, hes, passedPackets_append hquiet, arrivals_append hquiet]
  simp

/-- Nothing is lost by passing packets, and what is left pending follows on what has been passed. -/
theorem Passed.conserves {k : Nat} {w w' : World Server} (h : Passed k w w')
    (hw : PendingFromClients w) :
  Conserves w w' ∧ pending w.trace = (pending w.trace).take k ++ pending w'.trace
  := by
  have hrest := h.rest
  rw [(hw.passed h).pendingOn_eq, hw.pendingOn_eq] at hrest
  have hsplit : pending w.trace = (pending w.trace).take k ++ pending w'.trace := by
    rw [hrest, List.take_append_drop]
  refine ⟨?_, hsplit⟩
  use (pending w.trace).take k, []
  rw [h.delivered, h.arrived, hw.pendingOn_eq, ← hsplit]
  simp

/-! ### Updates -/

/-- The number of packets an update passes. -/
def passable (w : World Server) : Nat :=
  if w.self.packetCallback.isSome then
    min w.self.maxProcessedPackets.toNat (pending w.trace).length
  else
    0

/-- The packet callback raises an exception while the packets are received. -/
def CallbackRaises (net : ISteamNetworkingSockets) (w : World Server) : Prop :=
  ∃ fault w', (processPendingPackets net).run w = .error fault w' ∧ CallbackFault fault

/-- If the step is an update, it passes the oldest pending packets, as many as the limit allows
unless the packet callback raises an exception, and leaves the others pending. -/
def PassesLimit (net : ISteamNetworkingSockets) (w : World Server) : ServerStep → Prop
  | .updateConnection =>
      ∃ passed : List Message,
        passedPackets (exit (updateConnection net) w).trace
          = passedPackets w.trace ++ passed.map Message.delivery ∧
        pending w.trace = passed ++ pending (exit (updateConnection net) w).trace ∧
        (passed.length = passable w ∨ CallbackRaises net w)
  | _ => True

/-- The packet callback that is set returns whenever it is called. -/
def PacketCallbackReturns (net : ISteamNetworkingSockets) (w : World Server) : Prop :=
  ∀ callback, w.self.packetCallback = some callback → ∀ k packet t w₁,
    ∃ w₂, ((callback k packet t).run (perform net)).run w₁ = .ok () w₂

/-- The server has the packet callback it has at `w`. -/
def SamePacketCallback (w w' : World Server) : Prop :=
  w'.self.packetCallback = w.self.packetCallback

/-- No effect changes the packet callback. -/
theorem samePacketCallback_keeps {α : Type} {p : ServerM α} {allowed : Allowed}
    (hp : Moves (Effects net allowed) p) (w : World Server) :
  Keeps (SamePacketCallback w) p
  := hp.keeps fun _ _ heffects hw' => heffects.keeps_settings.1.trans hw'

/-- The call of a packet callback that returns raises no exception of a callback. -/
theorem PacketCallbackReturns.call {w : World Server} (h : PacketCallbackReturns net w)
    (k : HSteamNetConnection) (packet : Packet) :
  Raises (SamePacketCallback w) (fun fault => ¬ CallbackFault fault)
    (callPacketCallback net k packet)
  := by
  intro w₁ fault w' hw₁ hrun
  rw [callPacketCallback, EStateM.run_bind, EStateM.run_get] at hrun
  dsimp only at hrun
  cases hcallback : w₁.self.packetCallback with
  | none =>
      rw [hcallback] at hrun
      cases hrun
      intro hfault
      cases hfault
  | some callback =>
      rw [hcallback] at hrun
      obtain ⟨w₂, hreturns⟩ := h callback (hw₁.symm.trans hcallback) k packet
        (.packetCallback k packet :: w₁.trace)
        { w₁ with trace := .packetCallback k packet :: w₁.trace }
      dsimp only at hrun
      rw [run_bind_ok _ (run_emit _ w₁), EStateM.run_bind, EStateM.run_get] at hrun
      dsimp only at hrun
      rw [run_bind_ok _ hreturns] at hrun
      cases hrun

/-- A packet callback that returns whenever it is called raises no exception. -/
theorem PacketCallbackReturns.not_raises {w : World Server} (h : PacketCallbackReturns net w) :
  ¬ CallbackRaises net w
  := by
  have hbody : Raises (SamePacketCallback w) (fun fault => ¬ CallbackFault fault)
      (receivePacket net) := by
    refine receivePacket_raises_of ?_ ?_ ?_ ?_ h.call
    · intro hfault
      cases hfault
    · intro hfault
      cases hfault
    · exact fun e _ w' hw' => hw'
    · exact fun k packet =>
        samePacketCallback_keeps (PacketEffects.all (callPacketCallback_moves k packet)) w
  have hraises : Raises (SamePacketCallback w) (fun fault => ¬ CallbackFault fault)
      (processPendingPackets net) := by
    apply processPendingPackets_raises_of (samePacketCallback_keeps (receivePacket_effects net) w)
      hbody
    intro hfault
    cases hfault
  rintro ⟨fault, w', hrun, hfault⟩
  exact hraises w fault w' rfl hrun hfault

/-- An update with a packet callback that returns whenever it is called passes exactly as many
packets as the limit allows. -/
theorem PassesLimit.exact {w : World Server} (h : PassesLimit net w .updateConnection)
    (hreturns : PacketCallbackReturns net w) :
  ∃ passed : List Message,
    passedPackets (exit (updateConnection net) w).trace
      = passedPackets w.trace ++ passed.map Message.delivery ∧
    pending w.trace = passed ++ pending (exit (updateConnection net) w).trace ∧
    passed.length = passable w
  := by
  obtain ⟨passed, hpassed, hpending, hlength⟩ := h
  exact ⟨passed, hpassed, hpending, hlength.resolve_right hreturns.not_raises⟩

/-- The clients stay during the step, messages arrive from clients only, packet callbacks do not
call back, and an update is made by a server that has not been asked to quit and has fewer than
2147483648 pending messages. -/
def Undisturbed (net : ISteamNetworkingSockets) (w : World Server) (s : ServerStep) : Prop :=
  KeepsClients w (exit (step net s) w) ∧
    match s with
    | .arrive m => FromClient w m
    | .setPacketCallback (some callback) =>
        ∀ k packet t, (callback k packet t).Only ServerCall.Outside
    | .updateConnection => ¬ Stopped w ∧ (pending w.trace).length < 2147483648
    | _ => True

/-- What holds of a server between the steps of an undisturbed run. -/
structure InOrder (w : World Server) : Prop where
  served : RegistryServed w
  outside : PacketCallbackOnly ServerCall.Outside w
  clients : PendingFromClients w

/-- The receive loop passes the oldest pending packets, as many as it can unless the packet callback
raises an exception. -/
theorem processPendingPackets_passes (hnet : net.RefusesClosed) (horder : net.ReceivesInOrder)
    {w : World Server} (hw : InOrder w) (hrun : w.self.running)
    (hfew : (pending w.trace).length < 2147483648) :
  ∃ k, Passed k w (exit (processPendingPackets net) w) ∧
    (((pending w.trace).take k).length = passable w ∨ CallbackRaises net w)
  := by
  cases hcb : w.self.packetCallback with
  | none =>
      rw [exit_ok (run_processPendingPackets_none hcb)]
      use 0, Passed.zero w
      left
      simp [passable, hcb]
  | some callback =>
      have hserving : Serving callback w := by
        constructor
        · use hw.served.1, hw.served.2 hrun
          intro callback' hcallback' k packet t
          apply (hw.outside callback' hcallback' k packet t).mono
          rintro c hc rfl
          exact hc
        · exact hcb
        · exact hw.outside callback hcb
        · intro m hm
          rw [hw.clients.pendingOn_eq] at hm
          exact (hw.clients m hm).2
      have hloop := receiveLoop_ensures hnet horder 2147483648 0 hserving rfl
        (by rw [hw.clients.pendingOn_eq]; omega) w rfl
      rw [← run_processPendingPackets_some hcb] at hloop
      cases hreceive : (processPendingPackets net).run w with
      | ok a w' =>
          rw [hreceive] at hloop
          rw [exit_ok hreceive]
          use w.self.maxProcessedPackets.toNat, hloop
          left
          simp [passable, hcb]
      | error fault w' =>
          rw [hreceive] at hloop
          rw [exit_error hreceive]
          obtain ⟨hfault, k, hk⟩ := hloop
          use k, hk
          right
          exact ⟨fault, w', hreceive, hfault⟩

/-- What an update does after the packets is not about messages. -/
theorem dispatch_quiet (w : World Server) :
  GoesOnBy (fun e => e.ofMessages = false) w (exit (do
    processConnectionStateChanges net
    processUserInput) w)
  := by
  apply (Effects.goesOnBy (@dispatch_moves net w)).mono
  intro e he
  apply mayHappen_not_ofMessages ofStatus_not_ofMessages he

/-- After the packets, an update goes on without messages. -/
theorem updateConnection_quiet {w : World Server} (hw : ¬ Stopped w) :
  GoesOnBy (fun e => e.ofMessages = false) (exit (processPendingPackets net) w)
    (exit (updateConnection net) w)
  := by
  rw [exit, exit, run_updateConnection_active hw, ← exit, ← exit]
  cases hrun : (processPendingPackets net).run w with
  | ok a w₁ =>
      rw [exit_bind_ok _ hrun, exit_ok hrun]
      apply dispatch_quiet
  | error fault w₁ =>
      rw [exit_bind_error _ hrun, exit_error hrun]
      apply Std.Refl.refl

/-- Messages are received in updates only. -/
theorem step_quiet {s : ServerStep} (harrive : ∀ m, s ≠ .arrive m)
    (hupdate : s ≠ .updateConnection) (w : World Server) :
  GoesOnBy (fun e => e.ofMessages = false) w (exit (step net s) w)
  := by
  cases s with
  | arrive m => exact absurd rfl (harrive m)
  | updateConnection => exact absurd rfl hupdate
  | queue info => exact goesOnBy_cons rfl rfl
  | openConnection => exact (openConnection_goesOnBy w).mono opens_not_ofMessages
  | call c =>
      have hmoves : Moves (Effects net (.all fun _ => false)) (perform net c) :=
        perform_moves c (permits_all _ c)
      rw [run_step_call]
      apply (hmoves w).goesOnBy.mono
      intro e he
      apply mayHappen_not_ofMessages _ he
      intro e he
      cases he
  | _ => exact ⟨[], rfl, by simp⟩

/-! ### Runs -/

/-- What goes on without messages leaves what is pending as it is. -/
theorem quiet_conserves {w₁ w₂ : World Server} (hw₁ : PendingFromClients w₁)
    (hkeeps : KeepsClients w₁ w₂) (hgrouped : RegistryGrouped w₂)
    (hgoes : GoesOnBy (fun e => e.ofMessages = false) w₁ w₂) :
  PendingFromClients w₂ ∧ Conserves w₁ w₂ ∧ pending w₂.trace = pending w₁.trace
  := by
  have hpending := pending_of_keepsClients hgoes hw₁ hkeeps hgrouped
  refine ⟨?_, conserves_of_same hgoes hpending, hpending⟩
  intro m hm
  rw [hpending] at hm
  obtain ⟨hgroup, hsized⟩ := hw₁ m hm
  exact ⟨hkeeps m.conn hgroup, hsized⟩

/-- What an undisturbed update conserves and passes. -/
theorem update_conserves (hnet : net.RefusesClosed) (horder : net.ReceivesInOrder)
    {w : World Server} (hs : Undisturbed net w .updateConnection) (hw : InOrder w) :
  PendingFromClients (exit (updateConnection net) w) ∧
    Conserves w (exit (updateConnection net) w) ∧ PassesLimit net w .updateConnection
  := by
  obtain ⟨hkeeps, hactive, hfew⟩ := hs
  obtain ⟨k, hpassed, hk⟩ := processPendingPackets_passes hnet horder hw
    (running_of_not_stopped hactive) hfew
  have hkeeps₁ : KeepsClients (exit (processPendingPackets net) w)
      (exit (updateConnection net) w) := by
    intro c hc
    rw [hpassed.grouped, hpassed.self] at hc
    apply hkeeps c hc
  have hgrouped := (step_keeps_served hnet .updateConnection w hw.served).1
  have hgoes := @updateConnection_quiet net w hactive
  obtain ⟨hclients, hconserves, hpending⟩ :=
    quiet_conserves (hw.clients.passed hpassed) hkeeps₁ hgrouped hgoes
  obtain ⟨hconserves₁, hsplit⟩ := hpassed.conserves hw.clients
  refine ⟨hclients, IsTrans.trans _ _ _ hconserves₁ hconserves, ?_⟩
  use (pending w.trace).take k
  obtain ⟨es, hes, hmessages⟩ := hgoes
  refine ⟨?_, ?_, hk⟩
  · rw [hes, passedPackets_append hmessages, hpassed.delivered, hw.clients.pendingOn_eq]
  · rw [hpending]
    exact hsplit

/-- What an undisturbed step conserves and passes. -/
theorem step_conserves (hnet : net.RefusesClosed) (horder : net.ReceivesInOrder)
    {w : World Server} {s : ServerStep} (hs : Undisturbed net w s) (hw : InOrder w) :
  PendingFromClients (exit (step net s) w) ∧ Conserves w (exit (step net s) w) ∧
    PassesLimit net w s
  := by
  by_cases harrive : ∃ m, s = .arrive m
  · obtain ⟨m, rfl⟩ := harrive
    refine ⟨?_, ⟨[], [m], (List.append_nil _).symm, rfl, rfl⟩, trivial⟩
    intro m' hm'
    rcases List.mem_append.mp hm' with hm' | hm'
    · apply hw.clients m' hm'
    · rw [List.mem_singleton.mp hm']
      exact hs.2
  by_cases hupdate : s = .updateConnection
  · subst hupdate
    apply update_conserves hnet horder hs hw
  · have hgrouped := (step_keeps_served hnet s w hw.served).1
    obtain ⟨hclients, hconserves, -⟩ := quiet_conserves hw.clients hs.1 hgrouped
      (@step_quiet net s (fun m hm => harrive ⟨m, hm⟩) hupdate w)
    refine ⟨hclients, hconserves, ?_⟩
    cases s with
    | updateConnection => exact absurd rfl hupdate
    | _ => trivial

/-- Every step that disturbs no connection keeps what the order of the packets rests on. -/
theorem step_keeps_inOrder (hnet : net.RefusesClosed) (horder : net.ReceivesInOrder)
    {w : World Server} {s : ServerStep} (hs : Undisturbed net w s) (hw : InOrder w) :
  InOrder (exit (step net s) w)
  := by
  constructor
  · apply step_keeps_served hnet s w hw.served
  · intro callback hcallback
    rw [step_packetCallback] at hcallback
    cases s with
    | setPacketCallback new =>
        subst hcallback
        exact hs.2
    | _ => apply hw.outside callback hcallback
  · apply (step_conserves hnet horder hs hw).1

/-- From an opened server on, every run in which the clients stay conserves the packets in their
order, and every update passes as many as its limit allows. -/
theorem run_in_order (hnet : net.RefusesClosed) (horder : net.ReceivesInOrder)
    {before steps : List ServerStep} {ip : String} {port : UInt32} {socket : HSteamListenSocket}
    {group : HSteamNetPollGroup} {w : World Server}
    (hbefore : (runSteps net before).run (newServer ip port socket group) = .ok () w)
    (houtside : PacketCallbackOnly ServerCall.Outside w) (hclients : PendingFromClients w)
    (hsteps : Along (step net) (Undisturbed net) w steps) :
  (∀ earlier, earlier <+: steps → Conserves w (exit (runSteps net earlier) w)) ∧
    Along (step net) (PassesLimit net) w steps
  := by
  have hserved : Keeps RegistryServed (runSteps net before) := by
    apply Moves.forM
    intro s _
    apply step_keeps_served hnet
  have hw : InOrder w := by
    refine ⟨?_, houtside, hclients⟩
    rw [← exit_ok hbefore]
    apply hserved
    use newServer_grouped ip port socket group
    intro hrun
    cases hrun
  constructor
  · rintro earlier ⟨later, rfl⟩
    apply (Along.keeps (I := fun w' => InOrder w' ∧ Conserves w w') _ earlier w hsteps.of_append
      ⟨hw, Std.Refl.refl w⟩).2
    rintro w' s hs ⟨hw', hconserves⟩
    use step_keeps_inOrder hnet horder hs hw'
    apply IsTrans.trans _ _ _ hconserves (step_conserves hnet horder hs hw').2.1
  · apply Along.imp (I := InOrder) _ _ steps w hsteps hw
    · intro w' s hs hw'
      apply (step_conserves hnet horder hs hw').2.2
    · intro w' s hs hw'
      apply step_keeps_inOrder hnet horder hs hw'

/-- A client is registered by a new server. -/
def joining : List ServerStep :=
  [.setConnectionStatusChangeCallback (some registerInGroup), .openConnection,
    .queue ⟨1, .none, .connecting⟩, .updateConnection]

/-- The server with the client. -/
def joined : World Server :=
  exit (runSteps queueNetworking joining) (newServer "127.0.0.1" 8080 0 0)

/-- The steps by which a client joins are made without an exception. -/
theorem run_joining :
  (runSteps queueNetworking joining).run (newServer "127.0.0.1" 8080 0 0) = .ok () joined
  := rfl

/-- Two packets of the client arrive, the first before a packet callback is set. -/
def arriving : List ServerStep :=
  [.arrive ⟨1, [65], 1⟩, .updateConnection, .setPacketCallback (some ignorePacket),
    .setMaxProcessedPackets 1, .arrive ⟨1, [66], 1⟩, .updateConnection]

/-- Two packets of a client, of which the first arrives before a packet callback is set. -/
theorem arriving_in_order :
  (∀ earlier, earlier <+: arriving →
      Conserves joined (exit (runSteps queueNetworking earlier) joined)) ∧
    Along (step queueNetworking) (PassesLimit queueNetworking) joined arriving
  := by
  apply run_in_order queueNetworking_refusesClosed queueNetworking_receivesInOrder run_joining
  · intro callback hcallback
    cases hcallback
  · intro m hm
    cases hm
  · apply Along.cons ⟨fun k hk => hk, rfl, by decide, by decide⟩
    apply Along.cons ⟨fun k hk => hk, by decide, by decide⟩
    apply Along.cons ⟨fun k hk => hk, fun _ _ _ => trivial⟩
    apply Along.cons ⟨fun k hk => hk, trivial⟩
    apply Along.cons ⟨fun k hk => hk, rfl, by decide, by decide⟩
    apply Along.cons ⟨fun k hk => hk, by decide, by decide⟩
    trivial

end Server

end Chs
