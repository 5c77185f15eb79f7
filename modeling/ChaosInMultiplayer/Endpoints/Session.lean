import ChaosInMultiplayer.Endpoints.Sends
import ChaosInMultiplayer.Program.Channel
import Mathlib.Logic.Function.Basic

/-!
# Sessions

A session is one server with any number of clients, each with its own networking library, and
the network between them.  Each end of a connection has a handle of its own: the server's, and that
of the client at the other end.  The network carries what has been sent on one handle to the other
as an honest channel does: reliable messages in the order of their sends and once each, unreliable
ones as it likes.  A step of a session is a step of the server, a step of a client, or the carrying
of one message; an endpoint whose step is left by an exception may go on, as if it had caught it.

In every session, the packets that the server passes from a connection are those of an honest
channel from the client at its other end.  So are the packets a client passes if it is always
updated with a packet callback; otherwise it skips some of them.
-/

namespace Chs

open Program

/-! ### Sends -/

/-- What the networking library is given by a send. -/
structure Sent where
  data : List UInt8
  size : UInt32
  sendType : SendType
  deriving DecidableEq

namespace Sent

def reliable (s : Sent) : Bool :=
  s.sendType = .reliable

/-- The message that arrives at the other end of the connection, which has the given handle. -/
def message (connection : HSteamNetConnection) (s : Sent) : Message where
  conn := connection
  data := s.data.take s.size.toNat
  cbSize := s.size.toNat

/-- The packet of the message. -/
def packet (s : Sent) : Packet :=
  ⟨s.data.take s.size.toNat⟩

/-- The number of bytes is one that a message can have. -/
def Fits (s : Sent) : Prop :=
  s.size.toNat ≤ 2147483647

instance (s : Sent) : Decidable s.Fits :=
  inferInstanceAs (Decidable (_ ≤ _))

/-- The size is that of the data as a `uint32_t`. -/
def Whole (s : Sent) : Prop :=
  s.size = .ofNat s.data.length

/-- A whole send of less than 2^32 bytes makes a packet with its data. -/
theorem Whole.packet {s : Sent} (h : s.Whole) (hlength : s.data.length < UInt32.size) :
  s.packet = ⟨s.data⟩
  := by
  rw [Sent.packet, h, UInt32.toNat_ofNat_of_lt' hlength, List.take_length]

/-- The packet of a message is that of its send. -/
theorem message_packet {s : Sent} (h : s.Fits) (connection : HSteamNetConnection) :
  (s.message connection).packet = s.packet
  := by
  rw [Message.packet, message, toSizeT_natCast h, Packet.construct, Packet.copyData,
    List.take_take, Nat.min_self, packet]

end Sent

/-- Which sends on which connection the networking library accepts.  The endpoints are not told,
as they discard what `SendMessageToConnection` returns. -/
abbrev Accepts := Trace → HSteamNetConnection → Sent → Bool

/-- The accepted sends on a connection, in their order. -/
def sentOn (accepts : Accepts) (k : HSteamNetConnection) : Trace → List Sent
  | [] => []
  | .sendMessageToConnection c data size sendType :: t =>
      if c = k ∧ accepts t k ⟨data, size, sendType⟩ then
        sentOn accepts k t ++ [⟨data, size, sendType⟩]
      else
        sentOn accepts k t
  | _ :: t => sentOn accepts k t

theorem sentOn_prefix (accepts : Accepts) (k : HSteamNetConnection) (es t : Trace) :
  sentOn accepts k t <+: sentOn accepts k (es ++ t)
  := by
  induction es with
  | nil => apply List.prefix_rfl
  | cons e es ih =>
      cases e with
      | sendMessageToConnection c data size sendType =>
          rw [List.cons_append, sentOn]
          split
          · apply ih.trans (List.prefix_append _ _)
          · apply ih
      | _ => apply ih

/-- What a send gives to the networking library. -/
def Event.sent? : Event → Option Sent
  | .sendMessageToConnection _ data size sendType => some ⟨data, size, sendType⟩
  | _ => none

/-- The accepted sends on a connection are some of all the sends, in their order. -/
theorem sentOn_sublist (accepts : Accepts) (k : HSteamNetConnection) (t : Trace) :
  (sentOn accepts k t).Sublist ((t.filter Event.sends).reverse.filterMap Event.sent?)
  := by
  induction t with
  | nil => apply List.Sublist.refl
  | cons e t ih =>
      cases e with
      | sendMessageToConnection c data size sendType =>
          rw [List.filter_cons_of_pos rfl, List.reverse_cons, List.filterMap_append, sentOn]
          split
          · apply ih.append (List.Sublist.refl _)
          · apply ih.trans (List.sublist_append_left _ _)
      | _ => exact ih

/-- Accepted sends are whole if all sends are. -/
theorem whole_of_mem_sentOn {t : Trace} (h : ∀ e ∈ t, e.Whole) {accepts : Accepts}
    {k : HSteamNetConnection} {s : Sent} (hs : s ∈ sentOn accepts k t) :
  s.Whole
  := by
  induction t with
  | nil => cases hs
  | cons e t ih =>
      have hrest := ih fun e he => h e (List.mem_cons_of_mem _ he)
      cases e with
      | sendMessageToConnection c data size sendType =>
          rw [sentOn] at hs
          split at hs
          · rcases List.mem_append.mp hs with hs | hs
            · apply hrest hs
            · rw [List.mem_singleton.mp hs]
              exact h _ List.mem_cons_self
          · apply hrest hs
      | _ => apply hrest hs

/-! ### Arrivals -/

/-- The event is not the arrival of a message. -/
def Event.ofEndpoint : Event → Bool
  | .arrived _ => false
  | _ => true

/-- Nothing arrives while an endpoint goes on. -/
theorem arrivedFrom_goesOn {E : Type} {w w' : World E} (h : GoesOnBy (fun e => e.ofEndpoint) w w')
    (k : HSteamNetConnection) :
  arrivedFrom k w'.trace = arrivedFrom k w.trace
  := by
  obtain ⟨es, hes, hall⟩ := h
  rw [hes]
  apply History.unchanged_append _ hall
  intro e t he
  cases e <;> first | rfl | cases he

theorem sentOn_goesOn {E : Type} {w w' : World E} {P : Event → Prop} (h : GoesOnBy P w w')
    (accepts : Accepts) (k : HSteamNetConnection) :
  sentOn accepts k w.trace <+: sentOn accepts k w'.trace
  := by
  obtain ⟨es, hes, -⟩ := h
  rw [hes]
  apply sentOn_prefix

section

variable {net : ISteamNetworkingSockets}

/-- No message arrives by the effects of a server. -/
theorem Server.ofEndpoint_of_effects {extra : Event → Bool}
    (hextra : ∀ e, extra e → e.ofEndpoint) {w w' : World Server}
    (h : Effects net (.all extra) w w') :
  GoesOnBy (fun e => e.ofEndpoint) w w'
  := by
  apply h.goesOnBy.mono
  intro e hmay
  cases e with
  | arrived m => exact hextra _ hmay.2
  | _ => rfl

/-- Messages do not arrive by steps of the server itself. -/
theorem Server.step_ofEndpoint {s : ServerStep} (hs : ∀ m, s ≠ .arrive m) :
  Moves (GoesOnBy fun e => e.ofEndpoint) (step net s)
  := by
  cases s with
  | arrive m => exact absurd rfl (hs m)
  | queue info => exact fun w => goesOnBy_cons rfl rfl
  | openConnection =>
      intro w
      apply (openConnection_goesOnBy w).mono
      intro e hopens
      cases e <;> first | rfl | cases hopens
  | updateConnection =>
      apply Moves.get_bind
      intro w
      apply Moves.ite
      · intro _
        apply Moves.pure
      intro _
      apply Moves.bind
      · intro w
        apply ofEndpoint_of_effects _ (PacketEffects.all processPendingPackets_moves w)
        intro e he
        cases e <;> first | rfl | cases he
      · intro _ w
        apply ofEndpoint_of_effects _ (dispatch_moves w)
        intro e he
        cases e <;> first | rfl | cases he
  | call c =>
      apply Moves.bind
      · exact fun w => ofEndpoint_of_effects (fun _ h => by cases h)
          (perform_moves c (permits_all (fun _ => false) c) w)
      intro _
      apply Moves.pure
  | _ => exact fun w => ⟨[], rfl, by simp⟩

/-- No message arrives by what the callbacks of a client do. -/
theorem Client.ofEndpoint_follows :
  Follows net (GoesOnBy fun e => e.ofEndpoint) fun e => e.ofEndpoint
  := by
  apply goesOnBy_follows _ (fun _ => rfl) fun _ h => h
  intro e he
  cases e <;> first | rfl | cases he

/-- Messages do not arrive by steps of the client itself. -/
theorem Client.step_ofEndpoint {s : ClientStep} (hs : ∀ m, s ≠ .arrive m) :
  Moves (GoesOnBy fun e => e.ofEndpoint) (step net s)
  := by
  cases s with
  | arrive m => exact absurd rfl (hs m)
  | queue info => exact fun w => goesOnBy_cons rfl rfl
  | updateConnection =>
      apply Moves.bind
      · apply processReceivedPackets_moves ofEndpoint_follows
        intro e he
        cases e <;> first | rfl | cases he
      intro _
      apply Moves.get_bind
      intro w
      apply Moves.bind
      · exact fun w => goesOnBy_cons rfl rfl
      intro _
      apply Moves.forM
      intro info _
      exact onSteamNetConnectionStatusChanged_moves ofEndpoint_follows fun _ _ => rfl
  | call c =>
      apply Moves.bind (perform_moves ofEndpoint_follows c)
      intro _
      apply Moves.pure
  | _ => exact fun w => ⟨[], rfl, by simp⟩

end

/-! ### Sessions and their steps -/

/-- The connections between the server and its clients: the client at the other end of
a connection of the server, and its handle there.  No two connections have the same other end. -/
structure Links (ι : Type) where
  peer : HSteamNetConnection → Option (ι × HSteamNetConnection)
  unique : ∀ k k' other, peer k = some other → peer k' = some other → k = k'

/-- The networking libraries of the server and of its clients, with the sends they accept. -/
structure Networks (ι : Type) where
  server : ISteamNetworkingSockets
  client : ι → ISteamNetworkingSockets
  serverAccepts : Accepts
  clientAccepts : ι → Accepts

/-- What the endpoints of a session rely on. -/
structure Networks.Reliable {ι : Type} (nets : Networks ι) : Prop where
  refusesClosed : nets.server.RefusesClosed
  receivesInOrder : nets.server.ReceivesInOrder
  rejectsInvalidPollGroup : nets.server.RejectsInvalidPollGroup
  receivesWhileOpened : ∀ i, (nets.client i).ReceivesWhileOpened
  receivesOldest : ∀ i, (nets.client i).ReceivesOldest

/-- A server and its clients, with the sends that have been carried to the server and from it on
each of its connections. -/
structure Session (ι : Type) where
  server : World Server
  client : ι → World Client
  toServer : HSteamNetConnection → List Sent
  toClient : HSteamNetConnection → List Sent

namespace Session

variable {ι : Type} [DecidableEq ι]

/-- A session that has just begun. -/
def start (ip : String) (port : UInt32) (socket : HSteamListenSocket) (group : HSteamNetPollGroup)
    (serverConnection : ι → HSteamNetConnection) : Session ι where
  server := newServer ip port socket group
  client i := newClient (serverConnection i)
  toServer _ := []
  toClient _ := []

/-- The sends of a client on a connection of its. -/
def sentByClient (nets : Networks ι) (σ : Session ι) (i : ι) (c : HSteamNetConnection) :
    List Sent :=
  sentOn (nets.clientAccepts i) c (σ.client i).trace

/-- The sends of the server on a connection of its. -/
def sentByServer (nets : Networks ι) (σ : Session ι) (k : HSteamNetConnection) : List Sent :=
  sentOn nets.serverAccepts k σ.server.trace

/-- The server makes a step. -/
def serverStep (nets : Networks ι) (s : ServerStep) (σ : Session ι) : Session ι where
  server := exit (Server.step nets.server s) σ.server
  client := σ.client
  toServer := σ.toServer
  toClient := σ.toClient

/-- A client makes a step. -/
def clientStep (nets : Networks ι) (i : ι) (s : ClientStep) (σ : Session ι) : Session ι where
  server := σ.server
  client := Function.update σ.client i (exit (Client.step (nets.client i) s) (σ.client i))
  toServer := σ.toServer
  toClient := σ.toClient

/-- A send on the other end of a connection of the server arrives at the server. -/
def carryToServer (k : HSteamNetConnection) (s : Sent) (σ : Session ι) : Session ι where
  server := { σ.server with trace := .arrived (s.message k) :: σ.server.trace }
  client := σ.client
  toServer := Function.update σ.toServer k (σ.toServer k ++ [s])
  toClient := σ.toClient

/-- A send on a connection of the server arrives at the client at its other end. -/
def carryToClient (k : HSteamNetConnection) (i : ι) (c : HSteamNetConnection) (s : Sent)
    (σ : Session ι) : Session ι where
  server := σ.server
  client :=
    Function.update σ.client i
      { σ.client i with trace := .arrived (s.message c) :: (σ.client i).trace }
  toServer := σ.toServer
  toClient := Function.update σ.toClient k (σ.toClient k ++ [s])

/-- The steps of a session.  The messages that arrive are those the network carries, and the
attentive clients are updated only with a packet callback. -/
inductive Step (nets : Networks ι) (links : Links ι) (attentive : ι → Prop) :
    Session ι → Session ι → Prop where
  | server {σ} (s : ServerStep) (hs : ∀ m, s ≠ .arrive m) :
      Step nets links attentive σ (serverStep nets s σ)
  | client {σ} (i : ι) (s : ClientStep) (hs : ∀ m, s ≠ .arrive m)
      (hi : attentive i → Client.UpdatesWithCallback (σ.client i) s) :
      Step nets links attentive σ (clientStep nets i s σ)
  | toServer {σ k i c} (hk : links.peer k = some (i, c)) (s : Sent) (hs : s.Fits)
      (hcarry : Channel.MayCarry Sent.reliable (sentByClient nets σ i c) (σ.toServer k) s) :
      Step nets links attentive σ (carryToServer k s σ)
  | toClient {σ k i c} (hk : links.peer k = some (i, c)) (s : Sent) (hs : s.Fits)
      (hcarry : Channel.MayCarry Sent.reliable (sentByServer nets σ k) (σ.toClient k) s) :
      Step nets links attentive σ (carryToClient k i c s σ)

/-- The session can be reached from one that has just begun. -/
def Reachable (nets : Networks ι) (links : Links ι) (attentive : ι → Prop) (σ : Session ι) :
    Prop :=
  ∃ ip port socket group serverConnection,
    Relation.ReflTransGen (Step nets links attentive)
      (start ip port socket group serverConnection) σ

/-! ### One direction of a connection -/

/-- What has arrived from the connection is what has been carried on it, by an honest channel. -/
structure Carried (k : HSteamNetConnection) (sent carried : List Sent) (t : Trace) : Prop where
  arrived : arrivedFrom k t = carried.map (Sent.message k)
  honest : Channel.Honest Sent.reliable sent carried
  fits : ∀ s ∈ carried, s.Fits

section Carried

variable {k : HSteamNetConnection} {sent sent' carried : List Sent} {t : Trace}

/-- The packet of a message that has been carried is that of its send. -/
theorem Carried.packet (h : Carried k sent carried t) {s : Sent} (hs : s ∈ carried) :
  (Message.packet ∘ Sent.message k) s = s.packet
  := Sent.message_packet (h.fits s hs) k

theorem carried_nil (k : HSteamNetConnection) (sent : List Sent) :
  Carried k sent [] []
  := ⟨rfl, Channel.honest_nil sent, by simp⟩

/-- Further sends leave what has been carried as it is. -/
theorem Carried.send (h : Carried k sent carried t) (hsent : sent <+: sent') :
  Carried k sent' carried t
  := { h with honest := h.honest.send hsent }

/-- What has been carried is left as it is while the endpoint goes on. -/
theorem Carried.goesOn {E : Type} {w w' : World E} (h : Carried k sent carried w.trace)
    (hgoes : GoesOnBy (fun e => e.ofEndpoint) w w') :
  Carried k sent carried w'.trace
  := { h with arrived := (arrivedFrom_goesOn hgoes k).trans h.arrived }

/-- A message that may be carried arrives. -/
theorem Carried.carry (h : Carried k sent carried t) {s : Sent} (hs : s.Fits)
    (hcarry : Channel.MayCarry Sent.reliable sent carried s) :
  Carried k sent (carried ++ [s]) (.arrived (s.message k) :: t)
  where
  arrived := by
    have harrived : arrivedFrom k (.arrived (s.message k) :: t)
        = arrivedFrom k t ++ [s.message k] := if_pos rfl
    rw [harrived, h.arrived, List.map_append]
    rfl
  honest := h.honest.carry hcarry
  fits a ha := by
    rcases List.mem_append.mp ha with ha | ha
    · apply h.fits a ha
    · rw [List.mem_singleton.mp ha]
      apply hs

/-- The arrival of a message on another connection. -/
theorem Carried.other (h : Carried k sent carried t) {m : Message} (hm : m.conn ≠ k) :
  Carried k sent carried (.arrived m :: t)
  := by
  have harrived : arrivedFrom k (.arrived m :: t) = arrivedFrom k t := if_neg hm
  exact { h with arrived := harrived.trans h.arrived }

/-- Whoever passes the first packets that have arrived passes those of an honest channel. -/
theorem Carried.passes (h : Carried k sent carried t) {ps : List Packet}
    (hps : ps <+: (arrivedFrom k t).map Message.packet) :
  ∃ got, got <+: carried ∧ ps = got.map Sent.packet ∧ Channel.Honest Sent.reliable sent got
  := by
  rw [h.arrived, List.map_map, List.map_congr_left fun _ => h.packet] at hps
  obtain ⟨got, hgot, rfl⟩ := List.prefix_map_iff.mp hps
  exact ⟨got, hgot, rfl, h.honest.of_prefix hgot⟩

/-- Whoever passes some of the packets that have arrived passes a part of those of an honest
channel. -/
theorem Carried.passes_some (h : Carried k sent carried t) {ps : List Packet}
    (hps : ps.Sublist ((arrivedFrom k t).map Message.packet)) :
  ∃ got, got.Sublist carried ∧ ps = got.map Sent.packet ∧
    Channel.Skipping Sent.reliable sent got
  := by
  rw [h.arrived, List.map_map, List.map_congr_left fun _ => h.packet] at hps
  obtain ⟨got, hgot, rfl⟩ := List.sublist_map_iff.mp hps
  exact ⟨got, hgot, rfl, h.honest.of_sublist hgot⟩

end Carried

/-! ### What holds in every session -/

/-- The connection `k` of the server, with the client `i` and its handle `c` at the other end. -/
structure Linked (nets : Networks ι) (k : HSteamNetConnection) (i : ι) (c : HSteamNetConnection)
    (σ : Session ι) : Prop where
  atServer : Carried k (sentByClient nets σ i c) (σ.toServer k) σ.server.trace
  atClient : Carried c (sentByServer nets σ k) (σ.toClient k) (σ.client i).trace

/-- A client that accounts for its packets: for all of them if it is attentive. -/
def Heeding (attentive : Prop) (w : World Client) : Prop :=
  Attended List.Sublist none w ∧ (attentive → Attended Eq none w)

/-- What holds in every state of a session. -/
structure Sound (nets : Networks ι) (links : Links ι) (attentive : ι → Prop) (σ : Session ι) :
    Prop where
  server : Server.Serves σ.server
  client : ∀ i, Heeding (attentive i) (σ.client i)
  serverSends : SendsAreWhole σ.server
  clientSends : ∀ i, SendsAreWhole (σ.client i)
  linked : ∀ k i c, links.peer k = some (i, c) → Linked nets k i c σ

variable {nets : Networks ι} {links : Links ι} {attentive : ι → Prop} {σ σ' : Session ι}

omit [DecidableEq ι] in
/-- A session that has just begun is sound. -/
theorem start_sound (ip : String) (port : UInt32) (socket : HSteamListenSocket)
    (group : HSteamNetPollGroup) (serverConnection : ι → HSteamNetConnection) :
  Sound nets links attentive (start ip port socket group serverConnection)
  where
  server := Server.newServer_serves ip port socket group
  client i := ⟨Client.newClient_attended comparison_sublist (serverConnection i),
    fun _ => Client.newClient_attended comparison_eq (serverConnection i)⟩
  serverSends := by simp [SendsAreWhole, start, newServer]
  clientSends i := by simp [SendsAreWhole, start, newClient]
  linked k i c _ := ⟨carried_nil k _, carried_nil c _⟩

omit [DecidableEq ι] in
/-- A step of the server leaves what has arrived as it is, and may add to its sends. -/
theorem Sound.serverStep (hnets : nets.Reliable) (h : Sound nets links attentive σ)
    {s : ServerStep} (hs : ∀ m, s ≠ .arrive m) :
  Sound nets links attentive (σ.serverStep nets s)
  := by
  have hgoes : GoesOnBy (fun e => e.ofEndpoint) σ.server (σ.serverStep nets s).server :=
    Server.step_ofEndpoint hs σ.server
  refine ⟨?_, h.client, ?_, h.clientSends, ?_⟩
  · exact Server.step_serves hnets.refusesClosed hnets.receivesInOrder
      hnets.rejectsInvalidPollGroup s σ.server h.server
  · exact Server.step_sendsWhole s σ.server h.serverSends
  · intro k i c hk
    constructor
    · exact (h.linked k i c hk).atServer.goesOn hgoes
    · exact (h.linked k i c hk).atClient.send (sentOn_goesOn hgoes _ k)

/-- A step of a client leaves what has arrived as it is, and may add to its sends. -/
theorem Sound.clientStep (hnets : nets.Reliable) (h : Sound nets links attentive σ) {i : ι}
    {s : ClientStep} (hs : ∀ m, s ≠ .arrive m)
    (hi : attentive i → Client.UpdatesWithCallback (σ.client i) s) :
  Sound nets links attentive (σ.clientStep nets i s)
  := by
  have hgoes : ∀ j, GoesOnBy (fun e => e.ofEndpoint) (σ.client j)
      ((σ.clientStep nets i s).client j) := by
    apply (Function.forall_update_iff σ.client fun j w =>
      GoesOnBy (fun e => e.ofEndpoint) (σ.client j) w).mpr
    constructor
    · exact Client.step_ofEndpoint hs (σ.client i)
    · intro j _
      exact ⟨[], rfl, by simp⟩
  refine ⟨h.server, ?_, h.serverSends, ?_, ?_⟩
  · apply (Function.forall_update_iff σ.client fun j w => Heeding (attentive j) w).mpr
    constructor
    · constructor
      · exact Client.step_attends (hnets.receivesWhileOpened i) (hnets.receivesOldest i)
          comparison_sublist (.inr skips_sublist) (h.client i).1
      · intro hattentive
        exact Client.step_attends (hnets.receivesWhileOpened i) (hnets.receivesOldest i)
          comparison_eq (.inl (hi hattentive)) ((h.client i).2 hattentive)
    · intro j _
      apply h.client
  · apply (Function.forall_update_iff σ.client fun _ w => SendsAreWhole w).mpr
    constructor
    · exact Client.step_sendsWhole s (σ.client i) (h.clientSends i)
    · intro j _
      apply h.clientSends
  · intro k j c hk
    constructor
    · exact (h.linked k j c hk).atServer.send (sentOn_goesOn (hgoes j) _ c)
    · exact (h.linked k j c hk).atClient.goesOn (hgoes j)

omit [DecidableEq ι] in
/-- What arrives at the server arrives on its connection only. -/
theorem Sound.carryToServer (hnets : nets.Reliable) (h : Sound nets links attentive σ)
    {k : HSteamNetConnection} {i : ι} {c : HSteamNetConnection} (hk : links.peer k = some (i, c))
    {s : Sent} (hs : s.Fits)
    (hcarry : Channel.MayCarry Sent.reliable (sentByClient nets σ i c) (σ.toServer k) s) :
  Sound nets links attentive (σ.carryToServer k s)
  := by
  refine ⟨?_, h.client, h.serverSends.cons trivial, h.clientSends, ?_⟩
  · exact Server.step_serves hnets.refusesClosed hnets.receivesInOrder
      hnets.rejectsInvalidPollGroup (.arrive (s.message k)) σ.server h.server
  · intro k' j c' hk'
    have hlinked := h.linked k' j c' hk'
    refine ⟨?_, hlinked.atClient⟩
    by_cases hkk : k' = k
    · subst hkk
      obtain ⟨rfl, rfl⟩ : i = j ∧ c = c' := by simpa using hk.symm.trans hk'
      have hcarried : (σ.carryToServer k' s).toServer k' = σ.toServer k' ++ [s] :=
        Function.update_self ..
      rw [hcarried]
      exact hlinked.atServer.carry hs hcarry
    · have hcarried : (σ.carryToServer k s).toServer k' = σ.toServer k' :=
        Function.update_of_ne hkk ..
      rw [hcarried]
      exact hlinked.atServer.other (Ne.symm hkk)

/-- What arrives at a client arrives on its connection only. -/
theorem Sound.carryToClient (h : Sound nets links attentive σ)
    {k : HSteamNetConnection} {i : ι} {c : HSteamNetConnection} (hk : links.peer k = some (i, c))
    {s : Sent} (hs : s.Fits)
    (hcarry : Channel.MayCarry Sent.reliable (sentByServer nets σ k) (σ.toClient k) s) :
  Sound nets links attentive (σ.carryToClient k i c s)
  := by
  have hclient : ∀ j, j ≠ i → (σ.carryToClient k i c s).client j = σ.client j :=
    fun j hj => Function.update_of_ne hj ..
  have hself : (σ.carryToClient k i c s).client i
      = { σ.client i with trace := .arrived (s.message c) :: (σ.client i).trace } :=
    Function.update_self ..
  refine ⟨h.server, ?_, h.serverSends, ?_, ?_⟩
  · apply (Function.forall_update_iff σ.client fun j w => Heeding (attentive j) w).mpr
    constructor
    · constructor
      · exact (h.client i).1.goesOn (goesOnBy_cons rfl rfl)
      · exact fun hattentive => ((h.client i).2 hattentive).goesOn (goesOnBy_cons rfl rfl)
    · intro j _
      apply h.client
  · apply (Function.forall_update_iff σ.client fun _ w => SendsAreWhole w).mpr
    constructor
    · exact (h.clientSends i).cons trivial
    · intro j _
      apply h.clientSends
  · intro k' j c' hk'
    have hlinked := h.linked k' j c' hk'
    constructor
    · -- The arrival is not a send.
      by_cases hji : j = i
      · subst hji
        rw [sentByClient, hself]
        exact hlinked.atServer
      · rw [sentByClient, hclient j hji]
        exact hlinked.atServer
    · by_cases hkk : k' = k
      · subst hkk
        obtain ⟨rfl, rfl⟩ : i = j ∧ c = c' := by simpa using hk.symm.trans hk'
        have hcarried : (σ.carryToClient k' i c s).toClient k' = σ.toClient k' ++ [s] :=
          Function.update_self ..
        rw [hcarried, hself]
        exact hlinked.atClient.carry hs hcarry
      · have hcarried : (σ.carryToClient k i c s).toClient k' = σ.toClient k' :=
          Function.update_of_ne hkk ..
        rw [hcarried]
        by_cases hji : j = i
        · subst hji
          rw [hself]
          apply hlinked.atClient.other
          -- Another connection of the same client has another handle there.
          rintro rfl
          exact hkk (links.unique _ _ _ hk' hk)
        · rw [hclient j hji]
          exact hlinked.atClient

/-- Every step of a session keeps it sound. -/
theorem Step.keeps_sound (hnets : nets.Reliable) (h : Step nets links attentive σ σ')
    (hσ : Sound nets links attentive σ) :
  Sound nets links attentive σ'
  := by
  cases h with
  | server s hs => exact hσ.serverStep hnets hs
  | client i s hs hi => exact hσ.clientStep hnets hs hi
  | toServer hk s hs hcarry => exact hσ.carryToServer hnets hk hs hcarry
  | toClient hk s hs hcarry => exact hσ.carryToClient hk hs hcarry

/-- Every state of a session is sound. -/
theorem Reachable.sound (hnets : nets.Reliable) (h : Reachable nets links attentive σ) :
  Sound nets links attentive σ
  := by
  obtain ⟨ip, port, socket, group, serverConnection, hsteps⟩ := h
  induction hsteps with
  | refl => apply start_sound
  | tail _ hstep ih => exact hstep.keeps_sound hnets ih

/-! ### What is passed from end to end -/

/-- The packets, if they are shorter than 2^32 bytes, are the data of the sends. -/
def Intact (sends : List Sent) : Prop :=
  ∀ s ∈ sends, s.data.length < UInt32.size → s.packet = ⟨s.data⟩

/-- Accepted sends are intact. -/
theorem intact_of_mem_sentOn {E : Type} {w : World E} (h : SendsAreWhole w) {accepts : Accepts}
    {k : HSteamNetConnection} {sends : List Sent}
    (hsends : ∀ s ∈ sends, s ∈ sentOn accepts k w.trace) :
  Intact sends
  := fun s hs hlength => (whole_of_mem_sentOn h (hsends s hs)).packet hlength

omit [DecidableEq ι] in
/-- What the server has passed from a connection is the first part of what has been carried to it.
-/
theorem Sound.server_passes (hσ : Sound nets links attentive σ) {k : HSteamNetConnection} {i : ι}
    {c : HSteamNetConnection} (hk : links.peer k = some (i, c)) :
  ∃ got, got <+: σ.toServer k ∧ deliveredFrom k σ.server.trace = got.map Sent.packet ∧
    Intact got ∧ Channel.Honest Sent.reliable (sentByClient nets σ i c) got
  := by
  obtain ⟨got, hcarried, hgot, hhonest⟩ :=
    (hσ.linked k i c hk).atServer.passes (hσ.server.toAttended.passes k)
  exact ⟨got, hcarried, hgot, intact_of_mem_sentOn (hσ.clientSends i) hhonest.mem, hhonest⟩

/-- In every state of a session, the packets the server has passed from a connection are the first
of those carried to it, and these are those of an honest channel from the client at its other end:
each was sent there, and the reliable ones are the first of those sent reliably, once each and in
their order.  A packet shorter than 2^32 bytes has the data of its send. -/
theorem reachable_server_passes (hnets : nets.Reliable) (hσ : Reachable nets links attentive σ)
    {k : HSteamNetConnection} {i : ι} {c : HSteamNetConnection} (hk : links.peer k = some (i, c)) :
  ∃ got, got <+: σ.toServer k ∧ deliveredFrom k σ.server.trace = got.map Sent.packet ∧
    Intact got ∧ Channel.Honest Sent.reliable (sentByClient nets σ i c) got
  := (hσ.sound hnets).server_passes hk

omit [DecidableEq ι] in
/-- What a client has passed from a connection is some of what has been carried to it, and the first
part if it is attentive. -/
theorem Sound.client_passes (hσ : Sound nets links attentive σ) {k : HSteamNetConnection} {i : ι}
    {c : HSteamNetConnection} (hk : links.peer k = some (i, c)) :
  ∃ got, got.Sublist (σ.toClient k) ∧ deliveredFrom c (σ.client i).trace = got.map Sent.packet ∧
    Intact got ∧ Channel.Skipping Sent.reliable (sentByServer nets σ k) got ∧
    (attentive i → got <+: σ.toClient k ∧
      Channel.Honest Sent.reliable (sentByServer nets σ k) got)
  := by
  have hcarried := (hσ.linked k i c hk).atClient
  by_cases hi : attentive i
  · obtain ⟨got, hfirst, hgot, hhonest⟩ := hcarried.passes (((hσ.client i).2 hi).passes c)
    exact ⟨got, hfirst.sublist, hgot, intact_of_mem_sentOn hσ.serverSends hhonest.mem,
      hhonest.of_sublist (List.Sublist.refl _), fun _ => ⟨hfirst, hhonest⟩⟩
  · obtain ⟨got, hsome, hgot, hskipping⟩ := hcarried.passes_some ((hσ.client i).1.passes_some c)
    exact ⟨got, hsome, hgot, intact_of_mem_sentOn hσ.serverSends hskipping.mem, hskipping,
      fun hattentive => absurd hattentive hi⟩

/-- In every state of a session, the packets a client has passed from a connection are some of those
carried to it by an honest channel from the server: each was sent there, and the reliable ones are
some of those sent reliably, once each and in their order.  If the client is attentive, they are the
first. -/
theorem reachable_client_passes (hnets : nets.Reliable) (hσ : Reachable nets links attentive σ)
    {k : HSteamNetConnection} {i : ι} {c : HSteamNetConnection} (hk : links.peer k = some (i, c)) :
  ∃ got, got.Sublist (σ.toClient k) ∧ deliveredFrom c (σ.client i).trace = got.map Sent.packet ∧
    Intact got ∧ Channel.Skipping Sent.reliable (sentByServer nets σ k) got ∧
    (attentive i → got <+: σ.toClient k ∧
      Channel.Honest Sent.reliable (sentByServer nets σ k) got)
  := (hσ.sound hnets).client_passes hk

/-! ### A session of one client -/

/-- The server and its client make steps, one after another. -/
def serverSteps (nets : Networks ι) (steps : List ServerStep) (σ : Session ι) : Session ι :=
  steps.foldl (fun σ s => σ.serverStep nets s) σ

def clientSteps (nets : Networks ι) (i : ι) (steps : List ClientStep) (σ : Session ι) :
    Session ι :=
  steps.foldl (fun σ s => σ.clientStep nets i s) σ

/-- The server may make steps one after another. -/
theorem reaches_serverSteps (steps : List ServerStep) (hsteps : ∀ s ∈ steps, ∀ m, s ≠ .arrive m)
    (σ : Session ι) :
  Relation.ReflTransGen (Step nets links attentive) σ (σ.serverSteps nets steps)
  := by
  induction steps generalizing σ with
  | nil => exact .refl
  | cons s steps ih =>
      apply Relation.ReflTransGen.head (.server s (hsteps s List.mem_cons_self))
      exact ih (fun s hs => hsteps s (List.mem_cons_of_mem _ hs)) _

/-- Steps of a client none of which is an update. -/
theorem reaches_clientSteps {i : ι} (steps : List ClientStep)
    (hsteps : ∀ s ∈ steps, s ≠ .updateConnection ∧ ∀ m, s ≠ .arrive m) (σ : Session ι) :
  Relation.ReflTransGen (Step nets links attentive) σ (σ.clientSteps nets i steps)
  := by
  induction steps generalizing σ with
  | nil => exact .refl
  | cons s steps ih =>
      obtain ⟨hupdate, harrive⟩ := hsteps s List.mem_cons_self
      apply Relation.ReflTransGen.head
        (.client i s harrive fun _ hs => absurd hs hupdate)
      exact ih (fun s hs => hsteps s (List.mem_cons_of_mem _ hs)) _

/-- One client, whose connection has the handle 1 at both ends. -/
def oneLink : Links Unit where
  peer k := if k = 1 then some ((), 1) else none
  unique k k' other hk hk' := by
    split at hk
    · rename_i hone
      split at hk'
      · rename_i hone'
        rw [hone, hone']
      · cases hk'
    · cases hk

def queueNetworks : Networks Unit where
  server := queueNetworking
  client _ := queueNetworking
  serverAccepts _ _ _ := true
  clientAccepts _ _ _ _ := true

/-- The networks of the session do what the endpoints rely on. -/
theorem queueNetworks_reliable :
  queueNetworks.Reliable
  where
  refusesClosed := queueNetworking_refusesClosed
  receivesInOrder := queueNetworking_receivesInOrder
  rejectsInvalidPollGroup := queueNetworking_rejectsInvalidPollGroup
  receivesWhileOpened _ := queueNetworking_receivesWhileOpened
  receivesOldest _ := queueNetworking_receivesOldest

/-- The server admits a client and greets it. -/
def admitting : List ServerStep :=
  [.setPacketCallback (some fun _ _ _ => pure ()), .openConnection,
    .call (.createClientConnection 1), .call (.accept 1), .call (.setPollGroup 1 2),
    .call (.sendPacketToAllConnectedClients ⟨[67]⟩ .reliable none)]

/-- The client connects and sends two packets. -/
def connecting : List ClientStep :=
  [.setPacketCallback (some fun _ _ _ => pure ()), .call (.initializeConnection "127.0.0.1" 8080),
    .queue ⟨1, .connecting, .connected⟩, .call (.sendPacketToServer ⟨[65]⟩ .reliable),
    .call (.sendPacketToServer ⟨[66]⟩ .unreliable)]

/-- The session in which they do, and nothing has been carried. -/
def connected : Session Unit :=
  ((start "127.0.0.1" 8080 0 0 fun _ => 0).serverSteps queueNetworks admitting).clientSteps
    queueNetworks () connecting

theorem connected_reached :
  Relation.ReflTransGen (Step queueNetworks oneLink fun _ => True)
    (start "127.0.0.1" 8080 0 0 fun _ => 0) connected
  := by
  apply (reaches_serverSteps admitting (by simp [admitting]) _).trans
  exact reaches_clientSteps connecting (by simp [connecting]) _

/-- The unreliable packet of the client has overtaken the reliable one. -/
def overtaken : Session Unit :=
  ((connected.carryToServer 1 ⟨[66], 1, .unreliable⟩).carryToServer 1 ⟨[65], 1, .reliable⟩
    ).serverStep queueNetworks .updateConnection

/-- An unreliable packet can overtake a reliable one. -/
theorem overtaken_reachable :
  Reachable queueNetworks oneLink (fun _ => True) overtaken
  := by
  refine ⟨"127.0.0.1", 8080, 0, 0, fun _ => 0, ?_⟩
  apply Relation.ReflTransGen.tail _ (.server .updateConnection (by simp))
  apply (connected_reached.tail _).tail _
  · exact connected.carryToServer 1 ⟨[66], 1, .unreliable⟩
  · apply Step.toServer (i := ()) (c := 1) rfl _ (by decide)
    decide +kernel
  · apply Step.toServer (i := ()) (c := 1) rfl _ (by decide)
    decide +kernel

/-- The server passes both packets, the unreliable one first. -/
theorem overtaken_server_passes :
  (∃ got, got <+: overtaken.toServer 1 ∧
      deliveredFrom 1 overtaken.server.trace = got.map Sent.packet ∧ Intact got ∧
      Channel.Honest Sent.reliable (sentByClient queueNetworks overtaken () 1) got) ∧
    deliveredFrom 1 overtaken.server.trace = [⟨[66]⟩, ⟨[65]⟩]
  := by
  constructor
  · exact reachable_server_passes (i := ()) (c := 1) queueNetworks_reliable overtaken_reachable rfl
  · decide +kernel

/-- The greeting has been passed by the client. -/
def greeted : Session Unit :=
  (connected.carryToClient 1 () 1 ⟨[67], 1, .reliable⟩).clientStep queueNetworks ()
    .updateConnection

/-- The greeting of the server can be carried to the client. -/
theorem greeted_reachable :
  Reachable queueNetworks oneLink (fun _ => True) greeted
  := by
  refine ⟨"127.0.0.1", 8080, 0, 0, fun _ => 0, ?_⟩
  apply (connected_reached.tail _).tail _
  · exact connected.carryToClient 1 () 1 ⟨[67], 1, .reliable⟩
  · apply Step.toClient (i := ()) (c := 1) rfl _ (by decide)
    decide +kernel
  · exact .client () .updateConnection (by simp) fun _ _ => rfl

/-- The client passes the greeting. -/
theorem greeted_client_passes :
  (∃ got, got.Sublist (greeted.toClient 1) ∧
      deliveredFrom 1 (greeted.client ()).trace = got.map Sent.packet ∧ Intact got ∧
      Channel.Skipping Sent.reliable (sentByServer queueNetworks greeted 1) got ∧
      (True → got <+: greeted.toClient 1 ∧
        Channel.Honest Sent.reliable (sentByServer queueNetworks greeted 1) got)) ∧
    deliveredFrom 1 (greeted.client ()).trace = [⟨[67]⟩]
  := by
  constructor
  · exact reachable_client_passes (i := ()) (c := 1) queueNetworks_reliable greeted_reachable rfl
  · decide +kernel

end Session

end Chs
