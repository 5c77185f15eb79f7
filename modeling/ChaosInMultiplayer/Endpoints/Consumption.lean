import ChaosInMultiplayer.Endpoints.RoundTrip
import ChaosInMultiplayer.Server.Delivery

/-!
# The order of packets in every run

Whatever the callbacks of an endpoint do, its receive loop is given the oldest pending message of
a connection that is open (`Orderly`), and what it has been given goes to the packet callback
(`Accounts`).  So the packets passed from a connection are the packets of the first messages that
have arrived from it, in their order and once each.  At a client this needs a packet callback to be
set whenever it is updated; otherwise the client skips some of the packets.
-/

namespace Chs

open Program

/-! ### Messages handed out -/

/-- The messages of a connection that have been handed out, in this order. -/
def handedOutFrom (k : HSteamNetConnection) : Trace → List Message
  | [] => []
  | .receiveMessagesOnPollGroup _ _ (some m) :: t =>
      if m.conn = k then handedOutFrom k t ++ [m] else handedOutFrom k t
  | .receiveMessagesOnConnection _ _ (some m) :: t =>
      if m.conn = k then handedOutFrom k t ++ [m] else handedOutFrom k t
  | _ :: t => handedOutFrom k t

/-- The message is the oldest pending one of its connection, which has not been closed. -/
def Oldest (m : Message) (t : Trace) : Prop :=
  .closeConnection m.conn ∉ t ∧ ∃ ms, pendingFrom m.conn t = m :: ms

/-- Every message handed out was the oldest pending one of its connection. -/
def Orderly : Trace → Prop
  | [] => True
  | .receiveMessagesOnPollGroup _ _ (some m) :: t => Oldest m t ∧ Orderly t
  | .receiveMessagesOnConnection _ _ (some m) :: t => Oldest m t ∧ Orderly t
  | _ :: t => Orderly t

/-- The messages of a connection have been handed out in the order of their arrival, and the others
are pending unless it has been closed. -/
structure Sequential (k : HSteamNetConnection) (t : Trace) : Prop where
  order : handedOutFrom k t <+: arrivedFrom k t
  rest : .closeConnection k ∉ t → arrivedFrom k t = handedOutFrom k t ++ pendingFrom k t

/-- Messages may arrive while others are handed out in their order. -/
theorem Sequential.arrived {k : HSteamNetConnection} {t : Trace} (h : Sequential k t)
    (m : Message) :
  Sequential k (.arrived m :: t)
  := by
  have hout : handedOutFrom k (.arrived m :: t) = handedOutFrom k t := rfl
  have harrived : arrivedFrom k (.arrived m :: t)
      = arrivedFrom k t ++ [m].filter fun m => m.conn = k := by
    by_cases hm : m.conn = k
    · simp [arrivedFrom, hm]
    · simp [arrivedFrom, hm]
  have hpending : pendingFrom k (.arrived m :: t)
      = pendingFrom k t ++ [m].filter fun m => m.conn = k := by
    rw [pendingFrom, pending, List.filter_append]
    rfl
  constructor
  · rw [harrived, hout]
    apply h.order.trans (List.prefix_append _ _)
  · intro hk
    have hrest := h.rest fun hmem => hk (List.mem_cons_of_mem _ hmem)
    rw [harrived, hout, hpending, hrest, List.append_assoc]

/-- The event hands out the message. -/
def Event.HandsOut (m : Message) (e : Event) : Prop :=
  (∃ g n, e = .receiveMessagesOnPollGroup g n (some m)) ∨
    ∃ c n, e = .receiveMessagesOnConnection c n (some m)

/-- What the handing out of the oldest message of a connection does to the messages. -/
theorem Sequential.handedOut {k : HSteamNetConnection} {t : Trace} (h : Sequential k t)
    {m : Message} (hm : Oldest m t) {e : Event} (he : e.HandsOut m) :
  Sequential k (e :: t)
  := by
  have harrived : arrivedFrom k (e :: t) = arrivedFrom k t := by
    rcases he with ⟨g, n, rfl⟩ | ⟨c, n, rfl⟩ <;> rfl
  have hout : handedOutFrom k (e :: t)
      = if m.conn = k then handedOutFrom k t ++ [m] else handedOutFrom k t := by
    rcases he with ⟨g, n, rfl⟩ | ⟨c, n, rfl⟩ <;> rfl
  have hpending : pendingFrom k (e :: t) = (pendingFrom k t).erase m := by
    rcases he with ⟨g, n, rfl⟩ | ⟨c, n, rfl⟩
    · exact List.erase_filter.symm
    · exact List.erase_filter.symm
  have hclosed : .closeConnection k ∈ e :: t ↔ .closeConnection k ∈ t := by
    rcases he with ⟨g, n, rfl⟩ | ⟨c, n, rfl⟩ <;> simp
  obtain ⟨hopen, ms, hms⟩ := hm
  by_cases hmk : m.conn = k
  · subst hmk
    have hrest := h.rest hopen
    constructor
    · rw [harrived, hout, if_pos rfl, hrest, hms]
      exact ⟨ms, by simp⟩
    · intro _
      rw [harrived, hout, if_pos rfl, hrest, hpending, hms, List.erase_cons_head]
      simp
  · constructor
    · rw [harrived, hout, if_neg hmk]
      apply h.order
    · intro hk
      have hnot : m ∉ pendingFrom k t := by
        intro hmem
        apply hmk
        simpa using (List.mem_filter.mp hmem).2
      rw [harrived, hout, if_neg hmk, hpending, List.erase_of_not_mem hnot]
      apply h.rest
      rwa [hclosed] at hk

/-- An event that hands out no message. -/
def Event.handsOutNone : Event → Bool
  | .receiveMessagesOnPollGroup _ _ (some _) => false
  | .receiveMessagesOnConnection _ _ (some _) => false
  | _ => true

/-- An event that hands out nothing leaves the messages in their order. -/
theorem Sequential.other {k : HSteamNetConnection} {t : Trace} (h : Sequential k t) {e : Event}
    (he : e.handsOutNone) (harrived : ∀ m, e ≠ .arrived m) :
  Sequential k (e :: t)
  := by
  have hquiet : arrivedFrom k (e :: t) = arrivedFrom k t ∧
      handedOutFrom k (e :: t) = handedOutFrom k t := by
    cases e with
    | arrived m => exact absurd rfl (harrived m)
    | receiveMessagesOnPollGroup g n m => cases m <;> first | exact ⟨rfl, rfl⟩ | cases he
    | receiveMessagesOnConnection c n m => cases m <;> first | exact ⟨rfl, rfl⟩ | cases he
    | _ => exact ⟨rfl, rfl⟩
  constructor
  · rw [hquiet.1, hquiet.2]
    apply h.order
  · intro hk
    have hrest := h.rest fun hmem => hk (List.mem_cons_of_mem _ hmem)
    have hpending : pendingFrom k (e :: t) = pendingFrom k t := by
      cases e with
      | arrived m => exact absurd rfl (harrived m)
      | receiveMessagesOnPollGroup g n m => cases m <;> first | rfl | cases he
      | receiveMessagesOnConnection c n m => cases m <;> first | rfl | cases he
      | closeConnection c =>
          have hck : c ≠ k := by
            rintro rfl
            apply hk List.mem_cons_self
          rw [pendingFrom, pendingFrom, pending, List.filter_filter]
          apply List.filter_congr
          intro m _
          by_cases hm : m.conn = k
          · simp [hm, Ne.symm hck]
          · simp [hm]
      | _ => rfl
    rw [hquiet.1, hquiet.2, hpending]
    apply hrest

theorem orderly_cons_of_handsOutNone {e : Event} (he : e.handsOutNone) (t : Trace) :
  Orderly (e :: t) = Orderly t
  := by
  cases e with
  | receiveMessagesOnPollGroup g n m => cases m <;> first | rfl | cases he
  | receiveMessagesOnConnection c n m => cases m <;> first | rfl | cases he
  | _ => rfl

/-- If the oldest message is handed out each time, the messages of each connection are handed out
in the order of their arrival. -/
theorem Orderly.sequential {t : Trace} (h : Orderly t) (k : HSteamNetConnection) :
  Sequential k t
  := by
  induction t with
  | nil => exact ⟨List.prefix_rfl, fun _ => rfl⟩
  | cons e t ih =>
      by_cases he : e.handsOutNone
      · rw [orderly_cons_of_handsOutNone he] at h
        by_cases harrived : ∃ m, e = .arrived m
        · obtain ⟨m, rfl⟩ := harrived
          apply (ih h).arrived
        · apply (ih h).other he
          intro m hm
          apply harrived ⟨m, hm⟩
      · cases e with
        | receiveMessagesOnPollGroup g n m =>
            cases m with
            | none => exact absurd rfl he
            | some m => exact (ih h.2).handedOut h.1 (.inl ⟨g, n, rfl⟩)
        | receiveMessagesOnConnection c n m =>
            cases m with
            | none => exact absurd rfl he
            | some m => exact (ih h.2).handedOut h.1 (.inr ⟨c, n, rfl⟩)
        | _ => exact absurd rfl he

/-! ### Messages in hand -/

/-- The packets of the messages that are from a connection. -/
def packetsFrom (k : HSteamNetConnection) (ms : List Message) : List Packet :=
  (ms.filter fun m => m.conn = k).map Message.packet

/-- How the packets passed and those of the messages handed out can be compared. -/
structure Comparison (R : List Packet → List Packet → Prop) : Prop where
  nil : R [] []
  append : ∀ {ds cs} (es), R ds cs → R (ds ++ es) (cs ++ es)

theorem comparison_eq :
  Comparison Eq
  where
  nil := rfl
  append es h := by rw [h]

/-- Being some of the others is a comparison of packets. -/
theorem comparison_sublist :
  Comparison List.Sublist
  where
  nil := .refl _
  append es h := h.append_right es

/-- The comparison allows a packet not to be passed. -/
def Skips (R : List Packet → List Packet → Prop) : Prop :=
  ∀ ds es cs, R (ds ++ es) cs → R ds cs

/-- Packets may be skipped where some of them are enough. -/
theorem skips_sublist :
  Skips List.Sublist
  := fun ds es _ h => (List.sublist_append_left ds es).trans h

/-- The packets passed to the packet callback, with that of the message in hand, compare by `R` to
those of the messages handed out. -/
def Accounts (R : List Packet → List Packet → Prop) (inHand : Option Message) (t : Trace) : Prop :=
  ∀ k, R (deliveredFrom k t ++ packetsFrom k inHand.toList)
    ((handedOutFrom k t).map Message.packet)

/-- The event neither hands out a message nor passes a packet. -/
def Event.quiet (e : Event) : Bool :=
  e.handsOutNone && e.keepsReceipts

theorem Event.quiet_of_besidesMessages {e : Event} (he : e.besidesMessages) :
  e.quiet
  := by
  cases e <;> first | rfl | cases he

section Accounts

variable {R : List Packet → List Packet → Prop} {inHand : Option Message} {t : Trace}

/-- Quiet events keep the accounts. -/
theorem Accounts.quiet (h : Accounts R inHand t) {es : List Event} (hes : ∀ e ∈ es, e.quiet) :
  Accounts R inHand (es ++ t)
  := by
  intro k
  have hdelivered : deliveredFrom k (es ++ t) = deliveredFrom k t := by
    apply History.unchanged_append _ hes
    intro e t he
    cases e <;> first | rfl | cases he
  have hout : handedOutFrom k (es ++ t) = handedOutFrom k t := by
    apply History.unchanged_append _ hes
    intro e t he
    cases e with
    | receiveMessagesOnPollGroup g n m => cases m <;> first | rfl | cases he
    | receiveMessagesOnConnection c n m => cases m <;> first | rfl | cases he
    | _ => rfl
  rw [hdelivered, hout]
  apply h

/-- Handing out a message puts it in hand. -/
theorem Accounts.handOut (hR : Comparison R) (h : Accounts R none t) {m : Message} {e : Event}
    (he : e.HandsOut m) :
  Accounts R (some m) (e :: t)
  := by
  intro k
  have hdelivered : deliveredFrom k (e :: t) = deliveredFrom k t := by
    rcases he with ⟨g, n, rfl⟩ | ⟨c, n, rfl⟩ <;> rfl
  have hout : (handedOutFrom k (e :: t)).map Message.packet
      = (handedOutFrom k t).map Message.packet ++ packetsFrom k [m] := by
    have hone : handedOutFrom k (e :: t)
        = if m.conn = k then handedOutFrom k t ++ [m] else handedOutFrom k t := by
      rcases he with ⟨g, n, rfl⟩ | ⟨c, n, rfl⟩ <;> rfl
    by_cases hm : m.conn = k
    · simp [hone, hm, packetsFrom]
    · simp [hone, hm, packetsFrom]
  rw [hdelivered, hout]
  apply hR.append
  have hk := h k
  rwa [Option.toList_none, packetsFrom, List.filter_nil, List.map_nil, List.append_nil] at hk

/-- Passing the packet of the message in hand settles it. -/
theorem Accounts.pass {m : Message} (h : Accounts R (some m) t) :
  Accounts R none (.packetCallback m.conn m.packet :: t)
  := by
  intro k
  have hdelivered : deliveredFrom k (.packetCallback m.conn m.packet :: t) ++ packetsFrom k []
      = deliveredFrom k t ++ packetsFrom k [m] := by
    by_cases hm : m.conn = k
    · simp [deliveredFrom, hm, packetsFrom]
    · simp [deliveredFrom, hm, packetsFrom]
  rw [Option.toList_none, hdelivered]
  apply h k

/-- A message in hand may be skipped where skipping is allowed. -/
theorem Accounts.skip (hR : Skips R) (h : Accounts R inHand t) :
  Accounts R none t
  := by
  intro k
  rw [Option.toList_none, packetsFrom, List.filter_nil, List.map_nil, List.append_nil]
  apply hR _ _ _ (h k)

end Accounts

/-! ### Endpoints that attend to their messages -/

/-- The endpoint has been given the oldest message each time, and accounts for the messages it has
been given. -/
structure Attended {E : Type} (R : List Packet → List Packet → Prop) (inHand : Option Message)
    (w : World E) : Prop where
  orderly : Orderly w.trace
  accounts : Accounts R inHand w.trace

section Attended

variable {E : Type} {R : List Packet → List Packet → Prop} {inHand : Option Message}
  {w w' : World E}

/-- Quiet events keep the packets accounted for. -/
theorem Attended.goesOn (h : Attended R inHand w) (hgoes : GoesOnBy (fun e => e.quiet) w w') :
  Attended R inHand w'
  := by
  obtain ⟨es, hes, hquiet⟩ := hgoes
  have horderly : Orderly (es ++ w.trace) = Orderly w.trace := by
    apply History.unchanged_append _ hquiet
    intro e t he
    rw [Event.quiet, Bool.and_eq_true] at he
    apply orderly_cons_of_handsOutNone he.1
  constructor
  · rw [hes, horderly]
    apply h.orderly
  · rw [hes]
    apply h.accounts.quiet hquiet

/-- A program during which no message is handed out and no packet is passed. -/
theorem Attended.kept {α : Type} {p : EndpointM E α} (h : BesidesMessages p) :
  Keeps (Attended R inHand) p
  := by
  intro w hw
  apply hw.goesOn
  apply (h w).mono
  intro e he
  apply Event.quiet_of_besidesMessages he

/-- Where packets are passed in the order of their arrival. -/
theorem Attended.passes (h : Attended Eq none w) (k : HSteamNetConnection) :
  deliveredFrom k w.trace <+: (arrivedFrom k w.trace).map Message.packet
  := by
  have hk := h.accounts k
  rw [Option.toList_none, packetsFrom, List.filter_nil, List.map_nil, List.append_nil] at hk
  rw [hk]
  apply (h.orderly.sequential k).order.map

/-- The packets passed from a connection are some of those that have arrived from it, in their
order. -/
theorem Attended.passes_some (h : Attended List.Sublist none w) (k : HSteamNetConnection) :
  (deliveredFrom k w.trace).Sublist ((arrivedFrom k w.trace).map Message.packet)
  := by
  have hk := h.accounts k
  rw [Option.toList_none, packetsFrom, List.filter_nil, List.map_nil, List.append_nil] at hk
  apply hk.trans
  apply (h.orderly.sequential k).order.sublist.map

end Attended

/-- A call of the packet callback that passes the message in hand. -/
theorem handle_ensures {E : Type} {I J : World E → Prop} {m : Message}
    {s : Trace → EndpointM E Unit}
    (hcall : ∀ w, J w → I { w with trace := .packetCallback m.conn m.packet :: w.trace })
    (hscript : ∀ t, Keeps I (s t))
    (hreturn : ∀ w, I w → I { w with trace := .packetCallbackReturned m.conn :: w.trace }) :
  Ensures J (do
      emit (.packetCallback m.conn m.packet)
      let w ← get
      s w.trace
      emit (.packetCallbackReturned m.conn) : EndpointM E Unit)
    (fun _ => I) fun _ => I
  := by
  apply Ensures.bind (R := fun _ => I)
  · apply Ensures.modify
    apply hcall
  · intro _
    apply Ensures.of_keeps
    apply Moves.get_bind
    intro w
    apply (hscript w.trace).bind
    intro _ w'
    apply hreturn

/-- The body of a receive loop from a world in which it has just been given a message, or none. -/
theorem receiveBody_ensures {E : Type} {I J : World E → Prop} {event : Event} {n : Int}
    {received : Option Message} {process : EndpointM E Unit} {w : World E}
    (hreceived : J { w with trace := event :: w.trace }) (hnone : n = 0 → ∀ w, J w → I w)
    (hlog : ∀ w, J w → J { w with trace := .log .error "Error checking for messages" :: w.trace })
    (hprocess : Ensures J process (fun _ => I) fun _ => I)
    (hrelease : ∀ w m, I w → I { w with trace := .release m :: w.trace }) :
  Ensures (· = w) (receiveBody event n received process) (fun _ => I) fun _ => I
  := by
  apply Ensures.bind (R := fun _ => J)
  · apply Ensures.modify
    rintro _ rfl
    apply hreceived
  intro _
  apply Ensures.ite
  · intro hn
    exact Ensures.pure (hnone hn)
  intro _
  apply Ensures.bind (R := fun _ => J)
  · apply Ensures.ite
    · intro _
      exact Ensures.modify hlog
    · intro _
      exact Ensures.pure fun _ h => h
  intro _
  apply hprocess.bind
  intro _
  apply Ensures.of_keeps
  apply Moves.bind
  · cases received with
    | none => apply Moves.throw
    | some m => exact fun w => hrelease w m
  · intro _
    apply Moves.pure

/-! ### Runs of a server -/

variable {net : ISteamNetworkingSockets}

namespace Server

/-- A server that is receiving packets, with the message it has in hand.  The packet callback may
have closed it. -/
structure Consuming (inHand : Option Message) (w : World Server) : Prop
    extends Attended Eq inHand w where
  grouped : RegistryGrouped w
  group : w.self.pollGroup ∈ heldPollGroups w.trace ∨ w.self.pollGroup = 0
  installed : w.self.packetCallback.isSome
  registered : ∀ m ∈ inHand, m.conn ∈ w.self.connections

section Consuming

variable {inHand inHand' : Option Message} {w w' : World Server}

/-- An event that leaves connections and poll groups alone. -/
theorem Consuming.plain (hnet : net.RefusesClosed) (h : Consuming inHand w) {e : Event}
    (he : e.plain) (hattended : Attended Eq inHand' { w with trace := e :: w.trace })
    (hregistered : ∀ m ∈ inHand', m.conn ∈ w.self.connections) :
  Consuming inHand' { w with trace := e :: w.trace }
  where
  toAttended := hattended
  grouped := by
    have heffect : AnyEffect net w { w with trace := e :: w.trace } := .emit e he (Bool.or_true _)
    apply heffect.keeps_grouped hnet h.grouped
  group := by
    rw [(held_cons_of_plain he w.trace).2]
    apply h.group
  installed := h.installed
  registered := hregistered

theorem Consuming.quiet (hnet : net.RefusesClosed) (h : Consuming none w) {e : Event}
    (he : e.plain) (hquiet : e.quiet) :
  Consuming none { w with trace := e :: w.trace }
  := by
  apply h.plain hnet he
  · apply h.toAttended.goesOn (goesOnBy_cons rfl hquiet)
  · apply h.registered

/-- A server that holds its poll group goes on holding it, or is closed. -/
theorem Effects.keeps_group {allowed : Allowed} (h : Effects net allowed w w')
    (hw : w.self.pollGroup ∈ heldPollGroups w.trace ∨ w.self.pollGroup = 0) :
  w'.self.pollGroup ∈ heldPollGroups w'.trace ∨ w'.self.pollGroup = 0
  := by
  induction h with
  | refl => apply hw
  | tail _ hs ih =>
      rcases hs.resources with hsame | ⟨-, rfl⟩
      · rw [hsame.pollGroup, hsame.pollGroups]
        apply ih
      · right
        rfl

/-- What the calls of the packet callback do to a server that is receiving packets. -/
theorem Consuming.of_effects (hnet : net.RefusesClosed) (h : Consuming none w)
    (heffects : Effects net (.all fun _ => false) w w') :
  Consuming none w'
  where
  toAttended := by
    apply h.toAttended.goesOn
    apply (besidesMessages_of_effects (fun _ he => by cases he) heffects).mono
    intro e he
    apply Event.quiet_of_besidesMessages he
  grouped := heffects.keeps_grouped hnet h.grouped
  group := heffects.keeps_group h.group
  installed := by
    rw [heffects.keeps_settings.1]
    apply h.installed
  registered m hm := by cases hm

end Consuming

/-- The processing of a message of a registered connection passes its packet. -/
theorem processPendingPacket_consumes (hnet : net.RefusesClosed) (m : Message) :
  Ensures (Consuming (some m)) (processPendingPacket net (some m)) (fun _ => Consuming none)
    fun _ => Consuming none
  := by
  have hcall : Ensures (Consuming (some m)) (callPacketCallback net m.conn m.packet)
      (fun _ => Consuming none) fun _ => Consuming none := by
    apply Ensures.get_bind
    intro w hw
    obtain ⟨callback, hcallback⟩ := Option.isSome_iff_exists.mp hw.installed
    rw [hcallback]
    apply Ensures.of_pre (R := Consuming (some m))
    · apply handle_ensures (s := fun t => (callback m.conn m.packet t).run (perform net))
      · intro w hw
        apply hw.plain hnet rfl
        · constructor
          · apply hw.orderly
          · exact hw.accounts.pass
        · intro m' hm'
          cases hm'
      · intro t w hw
        exact hw.of_effects hnet (script_moves_all _ _ w)
      · intro w hw
        exact hw.quiet hnet rfl rfl
    · rintro _ rfl
      apply hw
  intro w hw
  rw [run_processPendingPacket_registered (hw.registered m rfl)]
  apply hcall w hw

/-- The body of the receive loop passes what it is given, whatever the packet callback does. -/
theorem receivePacket_consumes (hnet : net.RefusesClosed) (horder : net.ReceivesInOrder)
    (hinvalid : net.RejectsInvalidPollGroup) :
  Keeps (Consuming none) (receivePacket net)
  := by
  have hbody : Ensures (Consuming none) (receivePacket net) (fun _ => Consuming none)
      fun _ => Consuming none := by
    apply Ensures.get_bind
    intro w hw
    generalize hanswer : net.receiveMessagesOnPollGroup w.trace w.self.pollGroup = answer
    obtain ⟨n, received⟩ := answer
    change Ensures (· = w) (receiveBody (.receiveMessagesOnPollGroup w.self.pollGroup n received) n
      received (processPendingPacket net received)) _ _
    cases received with
    | none =>
        apply receiveBody_ensures (J := Consuming none)
        · exact hw.quiet hnet rfl rfl
        · exact fun _ _ h => h
        · exact fun w hw => hw.quiet hnet rfl rfl
        · exact Ensures.throw fun _ h => h
        · exact fun w m hw => hw.quiet hnet rfl rfl
    | some m =>
        -- The message is the oldest one of the poll group, which is not the invalid one.
        have hheld : w.self.pollGroup ∈ heldPollGroups w.trace := by
          apply hw.group.resolve_right
          intro hzero
          obtain ⟨_, _, hnone⟩ := hinvalid w.trace
          rw [hzero, hnone] at hanswer
          cases hanswer
        have hpending : ∃ ms, pendingOn w.self.pollGroup w.trace = m :: ms ∧ n = 1 := by
          rw [horder w.trace _ hheld] at hanswer
          cases hp : pendingOn w.self.pollGroup w.trace with
          | nil =>
              rw [hp] at hanswer
              cases hanswer
          | cons m' ms =>
              rw [hp] at hanswer
              cases hanswer
              exact ⟨ms, rfl, rfl⟩
        obtain ⟨ms, hms, rfl⟩ := hpending
        have hgroup : groupOf m.conn w.trace = some w.self.pollGroup := by
          have hmem : m ∈ pendingOn w.self.pollGroup w.trace := by simp [hms]
          simpa using (List.mem_filter.mp hmem).2
        have holdest : Oldest m w.trace := by
          constructor
          · intro hclosed
            rw [hw.grouped.2.refused m.conn hclosed] at hgroup
            cases hgroup
          · rw [pendingFrom_of_group hgroup, hms]
            simp
        apply receiveBody_ensures (J := Consuming (some m))
        · apply hw.plain hnet rfl
          · constructor
            · exact ⟨holdest, hw.orderly⟩
            · exact hw.accounts.handOut comparison_eq (.inl ⟨_, _, rfl⟩)
          · rintro _ ⟨⟩
            apply hw.grouped.2.member
            rw [hgroup]
            simp
        · intro hone
          cases hone
        · intro w' hw'
          apply hw'.plain hnet rfl
          · apply hw'.toAttended.goesOn (goesOnBy_cons rfl rfl)
          · apply hw'.registered
        · apply processPendingPacket_consumes hnet
        · exact fun w m hw => hw.quiet hnet rfl rfl
  intro w hw
  apply hbody.exit hw

/-- What holds of a server between the steps of its runs. -/
structure Serves (w : World Server) : Prop extends Attended Eq none w where
  served : RegistryServed w

/-- An update accounts for all the packets it receives, whether it returns or fails. -/
theorem updateConnection_attends (hnet : net.RefusesClosed) (horder : net.ReceivesInOrder)
    (hinvalid : net.RejectsInvalidPollGroup) {w : World Server} (hw : Serves w) :
  Attended Eq none (exit (updateConnection net) w)
  := by
  by_cases hstopped : Stopped w
  · rw [exit_ok (run_updateConnection_stopped hstopped)]
    apply hw.toAttended
  · have hpackets : Attended Eq none (exit (processPendingPackets net) w) := by
      cases hcb : w.self.packetCallback with
      | none =>
          rw [exit_ok (run_processPendingPackets_none hcb)]
          apply hw.toAttended
      | some callback =>
          have hkeeps : Keeps (Consuming none) (processPendingPackets net) :=
            processPendingPackets_moves_of (receivePacket_consumes hnet horder hinvalid)
          have hrunning : w.self.running = true := by
            simpa [Stopped] using (not_or.mp hstopped).2
          have hgroup : w.self.pollGroup ∈ heldPollGroups w.trace := hw.served.2 hrunning
          apply (hkeeps w ⟨hw.toAttended, hw.served.1, .inl hgroup, ?_, ?_⟩).toAttended
          · rw [hcb]
            rfl
          · intro m hm
            cases hm
    rw [exit, run_updateConnection_active hstopped, ← exit]
    cases hrun : (processPendingPackets net).run w with
    | ok a w₁ =>
        rw [exit_ok hrun] at hpackets
        rw [exit_bind_ok _ hrun]
        apply Attended.kept dispatch_besidesMessages _ hpackets
    | error fault w₁ =>
        rw [exit_error hrun] at hpackets
        rw [exit_bind_error _ hrun]
        apply hpackets

/-- Every step of a server accounts for its packets. -/
theorem step_serves (hnet : net.RefusesClosed) (horder : net.ReceivesInOrder)
    (hinvalid : net.RejectsInvalidPollGroup) (s : ServerStep) :
  Keeps Serves (step net s)
  := by
  intro w hw
  refine ⟨?_, step_keeps_served hnet s w hw.served⟩
  by_cases hs : s = .updateConnection
  · subst hs
    apply updateConnection_attends hnet horder hinvalid hw
  · apply Attended.kept (step_besidesMessages s hs) w hw.toAttended

/-- A new server has no packets to account for. -/
theorem newServer_serves (ip : String) (port : UInt32) (socket : HSteamListenSocket)
    (group : HSteamNetPollGroup) :
  Serves (newServer ip port socket group)
  := by
  refine ⟨⟨trivial, fun _ => rfl⟩, newServer_grouped ip port socket group, ?_⟩
  intro hrun
  cases hrun

/-- In every run of a server, whichever calls of `ServerCall` its callbacks make, the packets passed
from each connection are those of the first messages that have arrived from it, in their order and
once each. -/
theorem run_passes_first (hnet : net.RefusesClosed) (horder : net.ReceivesInOrder)
    (hinvalid : net.RejectsInvalidPollGroup) (steps : List ServerStep) (ip : String)
    (port : UInt32) (socket : HSteamListenSocket) (group : HSteamNetPollGroup)
    (k : HSteamNetConnection) :
  deliveredFrom k (exit (runSteps net steps) (newServer ip port socket group)).trace
    <+: (arrivedFrom k (exit (runSteps net steps) (newServer ip port socket group)).trace).map
        Message.packet
  := by
  have hkeeps : Keeps Serves (runSteps net steps) :=
    Moves.forM fun s _ => step_serves hnet horder hinvalid s
  apply (hkeeps _ (newServer_serves ip port socket group)).toAttended.passes

/-- Two senders, each of which is closed at its first packet. -/
theorem sendersClosed_passes_first :
  deliveredFrom 1 (exit (runSteps queueNetworking sendersClosed)
      (newServer "127.0.0.1" 8080 0 0)).trace
    <+: (arrivedFrom 1 (exit (runSteps queueNetworking sendersClosed)
        (newServer "127.0.0.1" 8080 0 0)).trace).map Message.packet
  := run_passes_first queueNetworking_refusesClosed queueNetworking_receivesInOrder
      queueNetworking_rejectsInvalidPollGroup sendersClosed "127.0.0.1" 8080 0 0 1

end Server

/-! ### Runs of a client -/

namespace Client

/-- The packet callback is the same in the two worlds. -/
def SameCallback (w w' : World Client) : Prop :=
  w'.self.packetCallback = w.self.packetCallback

instance : Std.Refl SameCallback where
  refl _ := rfl

instance : IsTrans (World Client) SameCallback where
  trans _ _ _ h h' := Eq.trans h' h

/-- No call of a callback changes the packet callback. -/
theorem sameCallback_follows :
  Follows net SameCallback fun _ => True
  := ⟨fun _ _ _ => rfl, fun _ _ => rfl⟩

/-- A client that is receiving packets, with the message it has in hand.  It may skip packets if it
has no packet callback. -/
structure Consuming (R : List Packet → List Packet → Prop) (inHand : Option Message)
    (w : World Client) : Prop extends Attended R inHand w where
  installed : w.self.packetCallback.isSome ∨ Skips R

section Consuming

variable {R : List Packet → List Packet → Prop} {inHand : Option Message} {w : World Client}

theorem Consuming.quiet (h : Consuming R inHand w) {e : Event} (hquiet : e.quiet) :
  Consuming R inHand { w with trace := e :: w.trace }
  where
  toAttended := h.toAttended.goesOn (goesOnBy_cons rfl hquiet)
  installed := h.installed

/-- A script consumes nothing. -/
theorem script_consumes (script : ClientScript Unit) :
  Keeps (Consuming R inHand) (script.run (perform net))
  := by
  intro w hw
  constructor
  · apply Attended.kept (script_besidesMessages script) w hw.toAttended
  · have hsame : Moves SameCallback (script.run (perform net)) :=
      script_moves sameCallback_follows script
    rw [hsame w]
    apply hw.installed

/-- Processing a message settles it, whether the packet callback returns or fails. -/
theorem processPendingPacket_consumes (received : Option Message) :
  Ensures (Consuming R received) (processPendingPacket net received)
    (fun _ => Consuming R none) fun _ => Consuming R none
  := by
  apply Ensures.get_bind
  intro w hw
  cases hcb : w.self.packetCallback with
  | none =>
      -- The message in hand is skipped.
      have hskips : Skips R := by
        apply hw.installed.resolve_left
        simp [hcb]
      apply Ensures.pure
      rintro _ rfl
      exact ⟨⟨hw.orderly, hw.accounts.skip hskips⟩, hw.installed⟩
  | some callback =>
      cases received with
      | none =>
          apply Ensures.throw
          rintro _ rfl
          apply hw
      | some m =>
          apply Ensures.of_pre (R := Consuming R (some m))
          · apply handle_ensures (s := fun t => (callback m.conn m.packet t).run (perform net))
            · exact fun w hw => ⟨⟨hw.orderly, hw.accounts.pass⟩, hw.installed⟩
            · exact fun t => script_consumes _
            · exact fun w hw => hw.quiet rfl
          · rintro _ rfl
            apply hw

end Consuming

/-- The body of the receive loop passes the packet of the message it is given, or skips it. -/
theorem receivePacket_consumes (hnet : net.ReceivesWhileOpened) (holdest : net.ReceivesOldest)
    {R : List Packet → List Packet → Prop} (hR : Comparison R) :
  Keeps (Consuming R none) (receivePacket net)
  := by
  have hbody : Ensures (Consuming R none) (receivePacket net) (fun _ => Consuming R none)
      fun _ => Consuming R none := by
    apply Ensures.get_bind
    intro w hw
    generalize hanswer : net.receiveMessagesOnConnection w.trace w.self.serverConnection = answer
    obtain ⟨n, received⟩ := answer
    change Ensures (· = w) (receiveBody
      (.receiveMessagesOnConnection w.self.serverConnection n received) n received
      (processPendingPacket net received)) _ _
    cases received with
    | none =>
        apply receiveBody_ensures (J := Consuming R none)
        · exact hw.quiet rfl
        · exact fun _ _ h => h
        · exact fun w hw => hw.quiet rfl
        · apply processPendingPacket_consumes
        · exact fun w m hw => hw.quiet rfl
    | some m =>
        -- The message is the oldest one of the connection, which is open.
        have hopened : Opened w.self.serverConnection w.trace := by
          by_contra hnot
          obtain ⟨_, _, hnone⟩ := (hnet w.trace w.self.serverConnection).2 hnot
          rw [hnone] at hanswer
          cases hanswer
        have hpending : ∃ ms, pendingFrom w.self.serverConnection w.trace = m :: ms ∧ n = 1 := by
          rw [holdest w.trace _ hopened] at hanswer
          cases hp : (pending w.trace).filter fun m => m.conn = w.self.serverConnection with
          | nil =>
              rw [hp] at hanswer
              cases hanswer
          | cons m' ms =>
              rw [hp] at hanswer
              cases hanswer
              exact ⟨ms, hp, rfl⟩
        obtain ⟨ms, hms, rfl⟩ := hpending
        have hconn : m.conn = w.self.serverConnection := by
          have hmem : m ∈ pendingFrom w.self.serverConnection w.trace := by simp [hms]
          simpa using (List.mem_filter.mp hmem).2
        have holdest : Oldest m w.trace := by
          rw [Oldest, hconn]
          exact ⟨hopened.2.2, ms, hms⟩
        apply receiveBody_ensures (J := Consuming R (some m))
        · refine ⟨⟨⟨holdest, hw.orderly⟩, ?_⟩, hw.installed⟩
          exact hw.accounts.handOut hR (.inr ⟨_, _, rfl⟩)
        · intro hone
          cases hone
        · exact fun w hw => hw.quiet rfl
        · apply processPendingPacket_consumes
        · exact fun w m hw => hw.quiet rfl
  intro w hw
  apply hbody.exit hw

/-- If the step is an update, a packet callback is set, or packets may be skipped. -/
def UpdatesWithCallback (w : World Client) (s : ClientStep) : Prop :=
  s = .updateConnection → w.self.packetCallback.isSome

/-- Every step of a client accounts for its packets; an update without a callback only where
skipping is allowed. -/
theorem step_attends (hnet : net.ReceivesWhileOpened) (holdest : net.ReceivesOldest)
    {R : List Packet → List Packet → Prop} (hR : Comparison R) {s : ClientStep} {w : World Client}
    (hs : UpdatesWithCallback w s ∨ Skips R) (hw : Attended R none w) :
  Attended R none (exit (step net s) w)
  := by
  by_cases hupdate : s = .updateConnection
  · subst hupdate
    have hkeeps : Keeps (Consuming R none) (processReceivedPackets net) :=
      countedLoop_moves (receivePacket_consumes hnet holdest hR) _ _
    have hpackets := hkeeps w ⟨hw, hs.imp_left fun h => h rfl⟩
    rw [step, updateConnection]
    cases hrun : (processReceivedPackets net).run w with
    | ok a w₁ =>
        rw [exit_ok hrun] at hpackets
        rw [exit_bind_ok _ hrun]
        apply Attended.kept dispatch_besidesMessages _ hpackets.toAttended
    | error fault w₁ =>
        rw [exit_error hrun] at hpackets
        rw [exit_bind_error _ hrun]
        apply hpackets.toAttended
  · apply Attended.kept (step_besidesMessages s hupdate) w hw

/-- A new client has no packets to account for. -/
theorem newClient_attended {R : List Packet → List Packet → Prop} (hR : Comparison R)
    (serverConnection : HSteamNetConnection) :
  Attended R none (newClient serverConnection)
  := ⟨trivial, fun _ => hR.nil⟩

/-- In every run of a client, whichever calls of `ClientCall` its callbacks make, the packets passed
from each connection are some of those that have arrived from it, in their order and once each.  If
every update is made with a packet callback set, they are the first ones. -/
theorem run_passes_some (hnet : net.ReceivesWhileOpened) (holdest : net.ReceivesOldest)
    (serverConnection : HSteamNetConnection) (steps : List ClientStep) (k : HSteamNetConnection) :
  (deliveredFrom k (exit (runSteps net steps) (newClient serverConnection)).trace).Sublist
      ((arrivedFrom k (exit (runSteps net steps) (newClient serverConnection)).trace).map
        Message.packet) ∧
    (Along (step net) UpdatesWithCallback (newClient serverConnection) steps →
      deliveredFrom k (exit (runSteps net steps) (newClient serverConnection)).trace
        <+: (arrivedFrom k (exit (runSteps net steps) (newClient serverConnection)).trace).map
            Message.packet)
  := by
  constructor
  · have hkeeps : Keeps (Attended List.Sublist none) (runSteps net steps) := by
      apply Moves.forM
      intro s _ w hw
      apply step_attends hnet holdest comparison_sublist (.inr skips_sublist) hw
    apply (hkeeps _ (newClient_attended comparison_sublist serverConnection)).passes_some
  · intro hsteps
    apply Attended.passes
    apply Along.keeps _ steps _ hsteps (newClient_attended comparison_eq serverConnection)
    intro w s hs hw
    apply step_attends hnet holdest comparison_eq (.inl hs) hw

/-- A client to which packets arrive before and after its packet callback is set. -/
def listeningLate : List ClientStep :=
  [.call (.initializeConnection "127.0.0.1" 8080), .arrive ⟨1, [65], 1⟩, .updateConnection,
    .setPacketCallback (some fun _ _ _ => pure ()), .arrive ⟨1, [66], 1⟩, .updateConnection]

/-- The late listener skips the first packet. -/
theorem listeningLate_passes_some :
  ((deliveredFrom 1 (exit (runSteps queueNetworking listeningLate) (newClient 0)).trace).Sublist
      ((arrivedFrom 1 (exit (runSteps queueNetworking listeningLate) (newClient 0)).trace).map
        Message.packet) ∧
    (Along (step queueNetworking) UpdatesWithCallback (newClient 0) listeningLate →
      deliveredFrom 1 (exit (runSteps queueNetworking listeningLate) (newClient 0)).trace
        <+: (arrivedFrom 1 (exit (runSteps queueNetworking listeningLate) (newClient 0)).trace).map
            Message.packet)) ∧
    deliveredFrom 1 (exit (runSteps queueNetworking listeningLate) (newClient 0)).trace = [⟨[66]⟩]
  := by
  constructor
  · exact run_passes_some queueNetworking_receivesWhileOpened queueNetworking_receivesOldest 0
      listeningLate 1
  · decide +kernel

end Client

end Chs
