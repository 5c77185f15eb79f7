import ChaosInMultiplayer.Server.Membership

/-!
# Delivery of packets

As long as a connection is open, the packets that arrived from it are those handed to the
packet callback followed by those still pending (`Conserved`).  An update hands over the
oldest pending packets of the poll group, as many as its limit allows, before it dispatches
the status events.  So a connection that is closed by the status callback has lost only the
packets beyond the limit.
-/

namespace Chs

/-! ### The messages of a connection -/

/-- The messages that have arrived from a connection, in the order of their arrival. -/
def arrivedFrom (k : HSteamNetConnection) : Trace → List Message
  | [] => []
  | .arrived m :: t => if m.conn = k then arrivedFrom k t ++ [m] else arrivedFrom k t
  | _ :: t => arrivedFrom k t

/-- The packets of a connection that have been handed to the packet callback, in this order. -/
def deliveredFrom (k : HSteamNetConnection) : Trace → List Packet
  | [] => []
  | .packetCallback c p :: t => if c = k then deliveredFrom k t ++ [p] else deliveredFrom k t
  | _ :: t => deliveredFrom k t

/-- The pending messages of a connection. -/
def pendingFrom (k : HSteamNetConnection) (t : Trace) : List Message :=
  (pending t).filter fun m => m.conn = k

/-- The event adds, hands out or delivers a message. -/
@[simp]
def Event.ofMessages : Event → Bool
  | .arrived _ => true
  | .receiveMessagesOnPollGroup _ _ _ => true
  | .receiveMessagesOnConnection _ _ _ => true
  | .packetCallback _ _ => true
  | _ => false

theorem arrivedFrom_append {es : List Event} (hes : ∀ e ∈ es, e.ofMessages = false)
    (k : HSteamNetConnection) (t : Trace) :
  arrivedFrom k (es ++ t) = arrivedFrom k t
  := by
  apply History.unchanged_append _ hes
  intro e t he
  cases e <;> first | rfl | cases he

theorem deliveredFrom_append {es : List Event} (hes : ∀ e ∈ es, e.ofMessages = false)
    (k : HSteamNetConnection) (t : Trace) :
  deliveredFrom k (es ++ t) = deliveredFrom k t
  := by
  apply History.unchanged_append _ hes
  intro e t he
  cases e <;> first | rfl | cases he

/-- Only closing a connection discards its pending messages. -/
theorem pendingFrom_append {es : List Event} (hes : ∀ e ∈ es, e.ofMessages = false)
    {k : HSteamNetConnection} (hk : .closeConnection k ∉ es) (t : Trace) :
  pendingFrom k (es ++ t) = pendingFrom k t
  := by
  have hopen : ∀ e ∈ es, e.ofMessages = false ∧ e ≠ .closeConnection k := by
    intro e he
    use hes e he
    rintro rfl
    apply hk he
  apply History.unchanged_append _ hopen
  rintro e t ⟨he, hne⟩
  cases e with
  | closeConnection c =>
      have hc : c ≠ k := by
        rintro rfl
        apply hne rfl
      rw [pendingFrom, pendingFrom, pending, List.filter_filter]
      apply List.filter_congr
      intro m _
      by_cases hm : m.conn = k
      · simp [hm, Ne.symm hc]
      · simp [hm]
  | _ => first | rfl | cases he

/-- The packets that arrived from an open connection are those delivered and those pending. -/
def Conserved (k : HSteamNetConnection) (t : Trace) : Prop :=
  .closeConnection k ∉ t →
    (arrivedFrom k t).map Message.packet
      = deliveredFrom k t ++ (pendingFrom k t).map Message.packet

/-- Events that are not about messages conserve the packets. -/
theorem Conserved.append {k : HSteamNetConnection} {es t : Trace} (h : Conserved k t)
    (hes : ∀ e ∈ es, e.ofMessages = false) :
  Conserved k (es ++ t)
  := by
  intro hk
  rw [List.mem_append, not_or] at hk
  rw [arrivedFrom_append hes, deliveredFrom_append hes, pendingFrom_append hes hk.1]
  apply h hk.2

/-- A message that arrives is pending, so the packets are conserved. -/
theorem Conserved.arrived {k : HSteamNetConnection} {t : Trace} (h : Conserved k t)
    (m : Message) :
  Conserved k (.arrived m :: t)
  := by
  intro hk
  have ht := h fun hmem => hk (List.mem_cons_of_mem _ hmem)
  simp only [arrivedFrom, deliveredFrom, pendingFrom, pending, List.filter_append]
  by_cases hm : m.conn = k
  · simp [hm, ht, pendingFrom]
  · simp [hm, ht, pendingFrom]

/-! ### One packet -/

/-- The trace after a message has been handed out by a poll group and given to the packet
callback. -/
def handedOver (g : HSteamNetPollGroup) (m : Message) (t : Trace) : Trace :=
  .packetCallback m.conn m.packet :: .receiveMessagesOnPollGroup g 1 (some m) :: t

/-- Handing a message over passes its packet from its connection. -/
theorem deliveredFrom_handedOver (k : HSteamNetConnection) (g : HSteamNetPollGroup) (m : Message)
    (t : Trace) :
  deliveredFrom k (handedOver g m t)
    = deliveredFrom k t ++ (if m.conn = k then [m.packet] else [])
  := by
  rw [handedOver, deliveredFrom]
  split
  · rfl
  · symm
    apply List.append_nil

/-- Handing the first pending message over leaves the others pending. -/
theorem pendingOn_handedOver {g : HSteamNetPollGroup} {m : Message} {ms : List Message}
    {t : Trace} (h : pendingOn g t = m :: ms) :
  pendingOn g (handedOver g m t) = ms
  := by
  have hgroup : ∀ c, groupOf c (handedOver g m t) = groupOf c t := fun _ => rfl
  have herase : pending (handedOver g m t) = (pending t).erase m := rfl
  simp only [pendingOn, hgroup, herase, ← List.erase_filter]
  rw [pendingOn] at h
  rw [h, List.erase_cons_head]

/-- The pending messages of a connection in a poll group are among those of the group. -/
theorem pendingFrom_of_group {k : HSteamNetConnection} {g : HSteamNetPollGroup} {t : Trace}
    (h : groupOf k t = some g) :
  pendingFrom k t = (pendingOn g t).filter fun m => m.conn = k
  := by
  rw [pendingFrom, pendingOn, List.filter_filter]
  apply List.filter_congr
  intro m _
  by_cases hm : m.conn = k
  · simp [hm, h]
  · simp [hm]

/-- Handing over the oldest message of a poll group keeps the messages conserved. -/
theorem Conserved.handedOver {k : HSteamNetConnection} {t : Trace} (h : Conserved k t)
    {g : HSteamNetPollGroup} {m : Message} {ms : List Message} (hm : pendingOn g t = m :: ms) :
  Conserved k (handedOver g m t)
  := by
  intro hk
  have ht := h fun hmem => hk (List.mem_cons_of_mem _ (List.mem_cons_of_mem _ hmem))
  have harrived : arrivedFrom k (Chs.handedOver g m t) = arrivedFrom k t := rfl
  have hpending : pendingFrom k (Chs.handedOver g m t) = (pendingFrom k t).erase m :=
    List.erase_filter.symm
  rw [harrived, deliveredFrom_handedOver, hpending, ht]
  by_cases hmk : m.conn = k
  · have hgroup : groupOf k t = some g := by
      have hmem : m ∈ pendingOn g t := by simp [hm]
      rw [← hmk]
      simpa using (List.mem_filter.mp hmem).2
    rw [pendingFrom_of_group hgroup, hm]
    simp [hmk]
  · have hnot : m ∉ pendingFrom k t := by
      intro hmem
      apply hmk
      simpa using (List.mem_filter.mp hmem).2
    rw [List.erase_of_not_mem hnot, if_neg hmk, List.append_nil]

namespace Server

open Program

variable {net : ISteamNetworkingSockets}

/-- The packet callback neither closes a connection nor changes its poll group. -/
def LeavesConnections (c : ServerCall) : Prop :=
  c ≠ .closeConnection ∧ disconnects c = false

/-- A call that leaves the connections alone neither closes a connection nor moves one. -/
theorem LeavesConnections.permits {c : ServerCall} (h : LeavesConnections c)
    (extra : Event → Bool) :
  (Allowed.mk False False extra).Permits c
  := by
  constructor
  · apply h.1
  · intro hd
    rw [h.2] at hd
    cases hd

/-- The state of the server during its receive loop, when the packet callback leaves the
connections alone. -/
structure Delivering (callback : PacketCallback) (w : World Server) : Prop where
  held : w.self.pollGroup ∈ heldPollGroups w.trace
  installed : w.self.packetCallback = some callback
  calls : ∀ k packet t, (callback k packet t).Only LeavesConnections

/-- While packets are delivered, the packet callback leaves the connections alone. -/
theorem Delivering.permits {callback : PacketCallback} {w : World Server}
    (h : Delivering callback w) :
  PacketCallbackOnly (Allowed.packets False False).Permits w
  := by
  intro callback' hcallback k packet t
  rw [h.installed, Option.some.injEq] at hcallback
  rw [← hcallback]
  apply (h.calls k packet t).mono
  intro c hc
  apply hc.permits

/-- Packets go on being delivered while the connections are left alone. -/
theorem Delivering.of_effects {callback : PacketCallback} {w w' : World Server}
    (h : Delivering callback w) (heffects : Effects net (.packets False False) w w') :
  Delivering callback w' ∧ w'.self.pollGroup = w.self.pollGroup ∧
    w'.self.maxProcessedPackets = w.self.maxProcessedPackets
  := by
  have hsame := heffects.sameResources id
  have hsettings := heffects.keeps_settings
  constructor
  · constructor
    · rw [hsame.pollGroup, hsame.pollGroups]
      apply h.held
    · rw [hsettings.1, h.installed]
    · apply h.calls
  · exact ⟨hsame.pollGroup, hsettings.2.2⟩

/-- Between two packets, the trace goes on by events that leave messages and poll groups
alone. -/
def Calm (e : Event) : Prop :=
  (Allowed.mk False False Event.answers).MayHappen e

theorem Calm.not_ofMessages {e : Event} (h : Calm e) :
  e.ofMessages = false
  := by
  cases e with
  | arrived m => simp [Calm, Event.answers] at h
  | receiveMessagesOnPollGroup g n m => simp [Calm, Event.answers] at h
  | receiveMessagesOnConnection c n m => simp [Calm] at h
  | packetCallback c p => simp [Calm, Event.answers] at h
  | _ => rfl

theorem groupOf_append_calm {es : List Event} (hes : ∀ e ∈ es, Calm e) (k : HSteamNetConnection)
    (t : Trace) :
  groupOf k (es ++ t) = groupOf k t
  := by
  apply History.unchanged_append _ hes
  intro e t he
  cases e with
  | closeConnection c => simp [Calm] at he
  | setConnectionPollGroup c g ok => simp [Calm] at he
  | destroyPollGroup g => simp [Calm] at he
  | _ => rfl

/-- Calm events leave what is pending alone. -/
theorem pending_append_calm {es : List Event} (hes : ∀ e ∈ es, Calm e) (t : Trace) :
  pending (es ++ t) = pending t
  := by
  apply History.unchanged_append _ hes
  intro e t he
  cases e with
  | closeConnection c => simp [Calm] at he
  | arrived m => simp [Calm, Event.answers] at he
  | receiveMessagesOnPollGroup g n m => simp [Calm, Event.answers] at he
  | receiveMessagesOnConnection c n m => simp [Calm] at he
  | _ => rfl

theorem pendingOn_append_calm {es : List Event} (hes : ∀ e ∈ es, Calm e) (g : HSteamNetPollGroup)
    (t : Trace) :
  pendingOn g (es ++ t) = pendingOn g t
  := by
  simp only [pendingOn, pending_append_calm hes, groupOf_append_calm hes]

/-- Packets go on being delivered when one has been received, with the same poll group and limit. -/
theorem Delivering.next {callback : PacketCallback} {w w' : World Server}
    (hw : Delivering callback w) {a : Bool} (h : (receivePacket net).run w = .ok a w') :
  Delivering callback w' ∧ w'.self.pollGroup = w.self.pollGroup ∧
    w'.self.maxProcessedPackets = w.self.maxProcessedPackets
  := by
  have hmoves : Moves (PacketEffects net False False) (receivePacket net) := receivePacket_moves
  have heffects := hmoves w hw.permits
  rw [exit_ok h] at heffects
  apply hw.of_effects heffects

/-- What a receive loop that returns has done in `n` iterations at most: it has handed over the
first `n` pending messages of the poll group. -/
structure HandsOver (n : Nat) (w w' : World Server) : Prop where
  arrived : ∀ k, arrivedFrom k w'.trace = arrivedFrom k w.trace
  delivered : ∀ k, deliveredFrom k w'.trace = deliveredFrom k w.trace ++
    (((pendingOn w.self.pollGroup w.trace).take n).filter fun m => m.conn = k).map Message.packet
  conserved : ∀ k, Conserved k w.trace → Conserved k w'.trace

theorem HandsOver.zero (w : World Server) :
  HandsOver 0 w w
  := by
  constructor
  · intro k
    rfl
  · intro k
    simp
  · intro k hk
    apply hk

/-- An iteration that hands over the oldest message, before the others. -/
theorem HandsOver.next {w w₁ w' : World Server} {m : Message} {ms : List Message}
    {es : List Event} {n : Nat}
    (h : HandsOver n w₁ w') (hsome : pendingOn w.self.pollGroup w.trace = m :: ms)
    (htrace : w₁.trace = es ++ handedOver w.self.pollGroup m w.trace)
    (hcalm : ∀ e ∈ es, Calm e) (hgroup : w₁.self.pollGroup = w.self.pollGroup) :
  HandsOver (n + 1) w w'
  := by
  have hes : ∀ e ∈ es, e.ofMessages = false := fun e he => (hcalm e he).not_ofMessages
  have hpending : pendingOn w₁.self.pollGroup w₁.trace = ms := by
    rw [hgroup, htrace, pendingOn_append_calm hcalm, pendingOn_handedOver hsome]
  constructor
  · intro k
    rw [h.arrived, htrace, arrivedFrom_append hes]
    rfl
  · intro k
    rw [h.delivered, hpending, htrace, deliveredFrom_append hes, deliveredFrom_handedOver, hsome,
      List.take_succ_cons, List.filter_cons]
    by_cases hk : m.conn = k
    · simp [hk]
    · simp [hk]
  · intro k hk
    apply h.conserved
    rw [htrace]
    apply Conserved.append _ hes
    apply hk.handedOver hsome

/-- What may happen besides messages is not about messages. -/
theorem mayHappen_not_ofMessages {extra : Event → Bool}
    (hextra : ∀ e, extra e → e.ofMessages = false) {e : Event}
    (h : (Allowed.all extra).MayHappen e) :
  e.ofMessages = false
  := by
  cases e with
  | arrived m => exact hextra _ (by simpa [Allowed.all] using h)
  | receiveMessagesOnPollGroup g n m => exact hextra _ (by simpa [Allowed.all] using h)
  | receiveMessagesOnConnection c n m => simp [Allowed.all] at h
  | packetCallback c p => exact hextra _ (by simpa [Allowed.all] using h)
  | _ => rfl

theorem ofStatus_not_ofMessages (e : Event) (h : e.ofStatus) :
  e.ofMessages = false
  := by
  cases e <;> first | rfl | cases h

/-- Packets stay conserved while nothing happens about messages. -/
theorem GoesOnBy.conserved {P : Event → Prop} {w w' : World Server} (h : GoesOnBy P w w')
    (hP : ∀ e, P e → e.ofMessages = false) {k : HSteamNetConnection}
    (hk : Conserved k w.trace) :
  Conserved k w'.trace
  := by
  obtain ⟨es, hes, hall⟩ := h
  rw [hes]
  apply hk.append
  intro e he
  apply hP e (hall e he)

/-- A server that is not stopped is running. -/
theorem running_of_not_stopped {w : World Server} (h : ¬ Stopped w) :
  w.self.running
  := by
  by_contra hrun
  apply h
  right
  simpa using hrun

theorem opens_not_ofMessages (e : Event) (h : e.opens) :
  e.ofMessages = false
  := by
  cases e <;> first | rfl | cases h

/-- A connection in a poll group has not been closed. -/
theorem not_closed_of_group {w : World Server} (hw : RegistryGrouped w)
    {k : HSteamNetConnection} {g : HSteamNetPollGroup} (hk : groupOf k w.trace = some g) :
  .closeConnection k ∉ w.trace
  := by
  intro h
  rw [hw.2.refused k h] at hk
  cases hk

/-- A packet callback that makes no calls. -/
def ignorePacket : PacketCallback := fun _ _ _ => pure ()

end Server

end Chs
