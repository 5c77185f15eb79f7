import ChaosInMultiplayer.Common.QueueNetworking
import ChaosInMultiplayer.Server.Invariant

/-!
# Broadcasts

A broadcast goes over the registry, passes over the excepted connection by the key of its entry, and
sends to the handle that the entry holds.  In every reachable registry the key is the handle, so
a broadcast sends one message to every connected client but the excepted one, in whatever order the
registry is gone over.
-/

namespace Chs

/-- The event is the sending of a message to the connection. -/
def Event.sentTo (connection : HSteamNetConnection) : Event → Bool
  | .sendMessageToConnection c _ _ _ => c = connection
  | _ => false

namespace Server

open Program

variable {net : ISteamNetworkingSockets}

/-- What the networking library is handed when a packet is sent to a client. -/
def message (packet : Packet) (sendType : SendType) (client : ClientConnection) : Event :=
  .sendMessageToConnection client.netConnection packet.data (.ofNat packet.size) sendType

/-- The world after a packet has been sent to the clients, one after another. -/
def sentTo (packet : Packet) (sendType : SendType) (clients : List ClientConnection)
    (w : World Server) : World Server where
  self := w.self
  trace := (clients.map (message packet sendType)).reverse ++ w.trace

theorem sentTo_append (packet : Packet) (sendType : SendType)
    (clients others : List ClientConnection) (w : World Server) :
  sentTo packet sendType (clients ++ others) w
    = sentTo packet sendType others (sentTo packet sendType clients w)
  := by
  simp [sentTo]

/-- Sending a packet to some clients, one after another. -/
theorem run_forM_sendPacket (packet : Packet) (sendType : SendType)
    (clients : List ClientConnection) (w : World Server) :
  (forM clients fun client => sendPacket packet client sendType : ServerM Unit).run w
    = .ok () (sentTo packet sendType clients w)
  := by
  induction clients generalizing w with
  | nil => rfl
  | cons client clients ih =>
      have hsend : (sendPacket packet client sendType).run w
          = .ok () (sentTo packet sendType [client] w) := rfl
      rw [List.forM_cons, run_bind_ok _ hsend, ih, ← sentTo_append]
      rfl

/-- The clients among the entries that the loop of a broadcast sends to. -/
def recipients (except : Option ClientConnection)
    (entries : List (Sigma fun _ : HSteamNetConnection => ClientConnection)) :
    List ClientConnection :=
  (entries.filter fun entry =>
    !(except.any fun e => e.netConnection = entry.1) && entry.2.connected).map Sigma.snd

theorem recipients_cons (except : Option ClientConnection)
    (entry : Sigma fun _ : HSteamNetConnection => ClientConnection)
    (entries : List (Sigma fun _ : HSteamNetConnection => ClientConnection)) :
  recipients except (entry :: entries) = recipients except [entry] ++ recipients except entries
  := by
  rw [recipients, recipients, recipients, ← List.map_append, ← List.filter_append]
  rfl

/-- The body of the loop sends to the client of the entry if it is one of those to send to. -/
theorem run_sendPacketToConnectedClient (packet : Packet) (sendType : SendType)
    (except : Option ClientConnection)
    (entry : Sigma fun _ : HSteamNetConnection => ClientConnection) (w : World Server) :
  (sendPacketToConnectedClient packet sendType except entry.1 entry.2).run w
    = .ok () (sentTo packet sendType (recipients except [entry]) w)
  := by
  cases hexcept : except.any fun e => e.netConnection = entry.1 with
  | true => simp [sendPacketToConnectedClient, recipients, sentTo, hexcept]
  | false =>
      cases hconnected : entry.2.connected with
      | true =>
          simp [sendPacketToConnectedClient, sendPacketToClientImpl, recipients, sentTo, message,
            hexcept, hconnected]
      | false => simp [sendPacketToConnectedClient, recipients, sentTo, hexcept, hconnected]

/-- A broadcast sends to the clients of the entries, in the order of the registry. -/
theorem run_broadcast (packet : Packet) (sendType : SendType) (except : Option ClientConnection)
    (w : World Server) :
  (sendPacketToAllConnectedClientsImpl packet sendType except).run w
    = .ok () (sentTo packet sendType (recipients except w.self.connections.entries) w)
  := by
  have hloop : ∀ entries (w : World Server),
      (forM entries fun entry => sendPacketToConnectedClient packet sendType except entry.1 entry.2
        : ServerM Unit).run w = .ok () (sentTo packet sendType (recipients except entries) w) := by
    intro entries
    induction entries with
    | nil => exact fun _ => rfl
    | cons entry entries ih =>
        intro w
        rw [List.forM_cons, run_bind_ok _ (run_sendPacketToConnectedClient ..), ih,
          ← sentTo_append, ← recipients_cons]
  apply hloop

/-- The client is registered under its handle, connected and not excepted. -/
structure Recipient (C : ClientConnections) (except : Option ClientConnection)
    (client : ClientConnection) : Prop where
  registered : C.lookup client.netConnection = some client
  connected : client.connected
  notExcepted : ∀ e ∈ except, e.netConnection ≠ client.netConnection

/-- A connection is not excepted exactly if no exception has its handle. -/
theorem not_excepted_iff {except : Option ClientConnection} {connection : HSteamNetConnection} :
  (except.any fun e => e.netConnection = connection) = false
    ↔ ∀ e ∈ except, e.netConnection ≠ connection
  := by
  cases except <;> simp

/-- The entries hold the handles they are registered under. -/
def HoldsHandles (C : ClientConnections) : Prop :=
  ∀ k c, C.lookup k = some c → c.netConnection = k

/-- The recipients are the connected clients of the registry that are not excepted. -/
theorem mem_recipients {C : ClientConnections} (hC : HoldsHandles C)
    {except : Option ClientConnection} {client : ClientConnection} :
  client ∈ recipients except C.entries ↔ Recipient C except client
  := by
  simp only [recipients, List.mem_map, List.mem_filter, Bool.and_eq_true, Bool.not_eq_true',
    Option.any_eq_false]
  constructor
  · rintro ⟨⟨k, c⟩, ⟨hmem, hexcept, hconnected⟩, rfl⟩
    have hk := AList.mem_lookup_iff.mpr hmem
    have hhandle := hC k c hk
    dsimp only at hexcept hconnected ⊢
    subst hhandle
    refine ⟨hk, hconnected, ?_⟩
    simpa using hexcept
  · rintro ⟨hregistered, hconnected, hexcept⟩
    refine ⟨⟨client.netConnection, client⟩, ⟨AList.mem_lookup_iff.mp hregistered, ?_, hconnected⟩,
      rfl⟩
    simpa using hexcept

/-- No two of the clients have the same handle. -/
theorem recipients_nodup {C : ClientConnections} (hC : HoldsHandles C)
    (except : Option ClientConnection) :
  ((recipients except C.entries).map ClientConnection.netConnection).Nodup
  := by
  have hkeys : (recipients except C.entries).map ClientConnection.netConnection
      = (C.entries.filter fun entry =>
          !(except.any fun e => e.netConnection = entry.1) && entry.2.connected).keys := by
    rw [recipients, List.map_map]
    apply List.map_congr_left
    intro entry hentry
    apply hC entry.1 entry.2 (AList.mem_lookup_iff.mpr (List.mem_filter.mp hentry).1)
  rw [hkeys]
  exact (List.filter_sublist.map Sigma.fst).nodup C.nodupKeys

/-- The connection is registered and connected. -/
def connectedAt (C : ClientConnections) (connection : HSteamNetConnection) : Bool :=
  (C.lookup connection).any ClientConnection.connected

/-- Among elements with different values, one is found by its value. -/
theorem filter_eq_of_nodup_map {α β : Type} [DecidableEq β] {f : α → β} {xs : List α}
    (h : (xs.map f).Nodup) {x : α} (hx : x ∈ xs) :
  (xs.filter fun y => f y = f x) = [x]
  := by
  induction xs with
  | nil => cases hx
  | cons y xs ih =>
      rw [List.map_cons, List.nodup_cons] at h
      rcases List.mem_cons.mp hx with rfl | hx
      · have hnone : (xs.filter fun y => f y = f x) = [] := by
          rw [List.filter_eq_nil_iff]
          intro y hy heq
          apply h.1
          rw [← of_decide_eq_true heq]
          apply List.mem_map_of_mem hy
        simp [hnone]
      · have hne : f y ≠ f x := by
          intro heq
          apply h.1
          rw [heq]
          apply List.mem_map_of_mem hx
        simp [hne, ih h.2 hx]

/-- A broadcast sends one message to a connection that is connected and not excepted, and none to
any other. -/
theorem broadcast_sentTo {C : ClientConnections} (hC : HoldsHandles C) (packet : Packet)
    (sendType : SendType) (except : Option ClientConnection) (connection : HSteamNetConnection) :
  ((recipients except C.entries).map (message packet sendType)).filter (Event.sentTo connection)
    = if connectedAt C connection && !(except.any fun e => e.netConnection = connection) then
        [.sendMessageToConnection connection packet.data (.ofNat packet.size) sendType]
      else []
  := by
  have hnodup := recipients_nodup hC except
  have hfilter : ((recipients except C.entries).map (message packet sendType)).filter
      (Event.sentTo connection) = ((recipients except C.entries).filter fun client =>
        client.netConnection = connection).map (message packet sendType) := by
    rw [List.filter_map]
    rfl
  rw [hfilter]
  split
  · rename_i hdue
    rw [Bool.and_eq_true, Bool.not_eq_true', connectedAt, Option.any_eq_true] at hdue
    obtain ⟨⟨client, hclient, hconnected⟩, hexcept⟩ := hdue
    have hhandle := hC connection client hclient
    subst hhandle
    have hrecipient : Recipient C except client :=
      ⟨hclient, hconnected, not_excepted_iff.mp hexcept⟩
    rw [filter_eq_of_nodup_map hnodup ((mem_recipients hC).mpr hrecipient)]
    rfl
  · rename_i hdue
    rw [List.map_eq_nil_iff, List.filter_eq_nil_iff]
    intro client hclient heq
    have hrecipient := (mem_recipients hC).mp hclient
    rw [decide_eq_true_eq] at heq
    subst heq
    apply hdue
    simp [connectedAt, hrecipient.registered, hrecipient.connected,
      not_excepted_iff.mpr hrecipient.notExcepted]

/-- The server, its registry gone over in another order. -/
def reordered (w : World Server) (C : ClientConnections) : World Server :=
  { w with self := { w.self with connections := C } }

/-- A broadcast from `w` sends one message to each connected client of the registry `C` but the
excepted one, just as if the packet had been sent to each of them. -/
def BroadcastsExactly (C : ClientConnections) (w : World Server) (packet : Packet)
    (sendType : SendType) (except : Option ClientConnection) : Prop :=
  ∃ clients : List ClientConnection,
    (sendPacketToAllConnectedClientsImpl packet sendType except).run w
        = .ok () (sentTo packet sendType clients w) ∧
      (clients.map ClientConnection.netConnection).Nodup ∧
      (∀ client, client ∈ clients ↔ Recipient C except client) ∧
      ∀ others : List ClientConnection, others.Nodup →
        (∀ client, client ∈ others ↔ Recipient C except client) →
        (forM others fun client => sendPacket packet client sendType : ServerM Unit).run w
            = .ok () (sentTo packet sendType others w) ∧
          (others.map (message packet sendType)).Perm (clients.map (message packet sendType))

/-- In every reachable registry, gone over in any order, broadcasts are exact. -/
theorem broadcast_exact (steps : List ServerStep) (ip : String) (port : UInt32)
    (socket : HSteamListenSocket) (group : HSteamNetPollGroup) {w : World Server}
    (hw : exit (runSteps net steps) (newServer ip port socket group) = w)
    {C : ClientConnections} (hC : C.entries.Perm w.self.connections.entries) (packet : Packet)
    (sendType : SendType) (except : Option ClientConnection) :
  BroadcastsExactly w.self.connections (reordered w C) packet sendType except
  := by
  have hlookup : ∀ k, C.lookup k = w.self.connections.lookup k := fun k => AList.perm_lookup hC
  have hhandles : HoldsHandles C := by
    intro k c hk
    have hcoupled : RegistryCoupled w := by
      rw [← hw]
      exact runSteps_coupled steps (newServer_coupled ip port socket group)
    rw [hlookup] at hk
    apply hcoupled.handle k c hk
  have hmem : ∀ client, client ∈ recipients except C.entries
      ↔ Recipient w.self.connections except client := by
    intro client
    rw [mem_recipients hhandles]
    constructor
    · rintro ⟨hregistered, hconnected, hexcept⟩
      rw [hlookup] at hregistered
      exact ⟨hregistered, hconnected, hexcept⟩
    · rintro ⟨hregistered, hconnected, hexcept⟩
      rw [← hlookup] at hregistered
      exact ⟨hregistered, hconnected, hexcept⟩
  have hnodup := recipients_nodup hhandles except
  refine ⟨recipients except C.entries, run_broadcast .., hnodup, hmem, ?_⟩
  intro others hothers hmemOthers
  use run_forM_sendPacket ..
  apply List.Perm.map
  rw [List.perm_ext_iff_of_nodup hothers (List.Nodup.of_map _ hnodup)]
  intro client
  rw [hmem, hmemOthers]

/-- Two clients are accepted, a third one is only registered. -/
def inviting : List ServerStep :=
  [.call (.createClientConnection 1), .call (.accept 1), .call (.createClientConnection 2),
    .call (.accept 2), .call (.createClientConnection 3)]

/-- The server with the three clients. -/
def invited : World Server :=
  exit (runSteps queueNetworking inviting) (newServer "127.0.0.1" 8080 0 0)

/-- The registry, gone over in the opposite order. -/
def reversed (C : ClientConnections) : ClientConnections :=
  ⟨C.entries.reverse, (List.perm_nodupKeys (List.reverse_perm _)).mpr C.nodupKeys⟩

/-- A broadcast with an exception, in another order of the registry. -/
theorem invited_broadcast_exact :
  BroadcastsExactly invited.self.connections
    (reordered invited (reversed invited.self.connections)) ⟨[65]⟩ .reliable (some (.construct 2))
  := broadcast_exact inviting "127.0.0.1" 8080 0 0 rfl (List.reverse_perm _) ⟨[65]⟩ .reliable
    (some (.construct 2))

end Server

end Chs
