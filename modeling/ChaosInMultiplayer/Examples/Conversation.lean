import ChaosInMultiplayer.Endpoints.Session
import ChaosInMultiplayer.Examples.ClientMain
import ChaosInMultiplayer.Examples.ServerMain

/-!
# Conversations

A conversation is a session in which the server runs the main function of the example server and
every client that of the example client, each in a process of its own, while the network carries
their messages.  So what holds of the runs of either main function, and what holds in sessions,
holds in every state of a conversation.
-/

namespace Chs

open Program

/-- A session, and how far the main functions of the server and of the clients have got. -/
structure Conversation (ι : Type) where
  session : Session ι
  server : Progress ExampleServer.MainPoint Fault
  client : ι → Progress ExampleClient.MainPoint Fault

namespace Conversation

variable {ι : Type} [DecidableEq ι]

/-- A conversation that has just begun. -/
def start (socket : HSteamListenSocket) (group : HSteamNetPollGroup)
    (serverConnection : ι → HSteamNetConnection) : Conversation ι where
  session := .start "127.0.0.1" 8080 socket group serverConnection
  server := .reached .constructed
  client _ := .reached .constructed

/-- The steps of a conversation: the next steps of the main functions, status events and lines for
their endpoints, and the messages the network carries, as long as the main functions have not
failed. -/
inductive Step (nets : Networks ι) (links : Links ι) (text : ExampleServer.BufferText)
    (rand : Trace → Nat) : Conversation ι → Conversation ι → Prop where
  | server {π point point' s} (hpoint : π.server = .reached point)
      (hnext : ExampleServer.main text rand π.session.server point = some (s, point')) :
      Step nets links text rand π
        { π with
          session := π.session.serverStep nets s
          server := Routine.after point' ((Server.step nets.server s).run π.session.server) }
  | aroundServer {π point} (hpoint : π.server = .reached point) (s : ServerStep)
      (hs : ExampleServer.Outside π.session.server s) (harrive : ∀ m, s ≠ .arrive m) :
      Step nets links text rand π { π with session := π.session.serverStep nets s }
  | client {π i point point' s} (hpoint : π.client i = .reached point)
      (hnext : ExampleClient.main (nets.client i) (π.session.client i) point = some (s, point')) :
      Step nets links text rand π
        { π with
          session := π.session.clientStep nets i s
          client := Function.update π.client i
            (Routine.after point' ((Client.step (nets.client i) s).run (π.session.client i))) }
  | aroundClient {π i point} (hpoint : π.client i = .reached point) (s : ClientStep)
      (hs : ExampleClient.Outside (π.session.client i) s) (harrive : ∀ m, s ≠ .arrive m) :
      Step nets links text rand π { π with session := π.session.clientStep nets i s }
  | toServer {π point k i c} (hpoint : π.server = .reached point) (hk : links.peer k = some (i, c))
      (s : Sent) (hs : s.Fits)
      (hcarry : Channel.MayCarry Sent.reliable (Session.sentByClient nets π.session i c)
        (π.session.toServer k) s) :
      Step nets links text rand π { π with session := π.session.carryToServer k s }
  | toClient {π point k i c} (hpoint : π.client i = .reached point)
      (hk : links.peer k = some (i, c)) (s : Sent) (hs : s.Fits)
      (hcarry : Channel.MayCarry Sent.reliable (Session.sentByServer nets π.session k)
        (π.session.toClient k) s) :
      Step nets links text rand π { π with session := π.session.carryToClient k i c s }

/-- The conversation can be reached from one that has just begun. -/
def Reachable (nets : Networks ι) (links : Links ι) (text : ExampleServer.BufferText)
    (rand : Trace → Nat) (π : Conversation ι) : Prop :=
  ∃ socket group serverConnection,
    Relation.ReflTransGen (Step nets links text rand) (start socket group serverConnection) π

variable {nets : Networks ι} {links : Links ι} {text : ExampleServer.BufferText}
  {rand : Trace → Nat} {π π' : Conversation ι}

/-! ### A conversation as a session and as runs of the main functions -/

/-- A step of a conversation is a step of a session whose clients need not be attentive. -/
theorem Step.session (h : Step nets links text rand π π') :
  Session.Step nets links (fun _ => False) π.session π'.session
  := by
  cases h with
  | server hpoint hnext =>
      refine .server _ fun m heq => ExampleServer.main_not_outside hnext ?_
      rw [heq]
      trivial
  | aroundServer hpoint s hs harrive => exact .server s harrive
  | client hpoint hnext =>
      refine .client _ _ (fun m heq => ExampleClient.main_not_outside hnext ?_) fun h => h.elim
      rw [heq]
      trivial
  | aroundClient hpoint s hs harrive => exact .client _ s harrive fun h => h.elim
  | toServer hpoint hk s hs hcarry => exact .toServer hk s hs hcarry
  | toClient hpoint hk s hs hcarry => exact .toClient hk s hs hcarry

/-- Every state of a conversation is one of a session. -/
theorem Reachable.session (h : Reachable nets links text rand π) :
  Session.Reachable nets links (fun _ => False) π.session
  := by
  obtain ⟨socket, group, serverConnection, h⟩ := h
  refine ⟨"127.0.0.1", 8080, socket, group, serverConnection, ?_⟩
  exact h.lift Conversation.session fun _ _ => Step.session

/-- A step of a conversation is one of the main function of the server, one outside it, or none. -/
theorem Step.atServer (h : Step nets links text rand π π') :
  Relation.ReflGen (Routine.Step (Server.step nets.server) ExampleServer.Outside
      (ExampleServer.main text rand))
    (π.server, π.session.server) (π'.server, π'.session.server)
  := by
  cases h with
  | server hpoint hnext =>
      rw [hpoint]
      exact .single (.next hnext)
  | aroundServer hpoint s hs harrive =>
      rw [hpoint]
      exact .single (.other hs (ExampleServer.run_outside hs))
  | client hpoint hnext => exact .refl
  | aroundClient hpoint s hs harrive => exact .refl
  | @toServer _ k _ _ hpoint hk s hs hcarry =>
      rw [hpoint]
      have harrive : ExampleServer.Outside π.session.server (.arrive (s.message k)) := trivial
      exact .single (.other harrive rfl)
  | toClient hpoint hk s hs hcarry => exact .refl

/-- A step of a conversation is one of the main function of a client, one outside it, or none. -/
theorem Step.atClient (h : Step nets links text rand π π') (j : ι) :
  Relation.ReflGen (Routine.Step (Client.step (nets.client j)) ExampleClient.Outside
      (ExampleClient.main (nets.client j)))
    (π.client j, π.session.client j) (π'.client j, π'.session.client j)
  := by
  cases h with
  | server hpoint hnext => exact .refl
  | aroundServer hpoint s hs harrive => exact .refl
  | @client i _ _ _ hpoint hnext =>
      by_cases hji : j = i
      · subst hji
        simp only [Session.clientStep, Function.update_self]
        rw [hpoint]
        exact .single (.next hnext)
      · simp only [Session.clientStep, Function.update_of_ne hji]
        exact .refl
  | @aroundClient i _ hpoint s hs harrive =>
      by_cases hji : j = i
      · subst hji
        simp only [Session.clientStep, Function.update_self]
        rw [hpoint]
        exact .single (.other hs (ExampleClient.run_outside hs))
      · simp only [Session.clientStep, Function.update_of_ne hji]
        exact .refl
  | toServer hpoint hk s hs hcarry => exact .refl
  | @toClient _ k i c hpoint hk s hs hcarry =>
      by_cases hji : j = i
      · subst hji
        simp only [Session.carryToClient, Function.update_self]
        rw [hpoint]
        have harrive : ExampleClient.Outside (π.session.client j) (.arrive (s.message c)) := trivial
        exact .single (.other harrive rfl)
      · simp only [Session.carryToClient, Function.update_of_ne hji]
        exact .refl

/-- In every state of a conversation, the server is in a state of a run of its main function. -/
theorem Reachable.atServer (h : Reachable nets links text rand π) :
  ExampleServer.MainReaches nets.server text rand ExampleServer.Outside π.server π.session.server
  := by
  obtain ⟨socket, group, serverConnection, h⟩ := h
  use socket, group
  induction h with
  | refl => exact .refl
  | tail _ hstep ih => exact ih.trans hstep.atServer.to_reflTransGen

/-- In every state of a conversation, each client is in a state of a run of its main function. -/
theorem Reachable.atClient (h : Reachable nets links text rand π) (i : ι) :
  ExampleClient.MainReaches (nets.client i) ExampleClient.Outside (π.client i)
    (π.session.client i)
  := by
  obtain ⟨socket, group, serverConnection, h⟩ := h
  use serverConnection i
  induction h with
  | refl => exact .refl
  | tail _ hstep ih => exact ih.trans (hstep.atClient i).to_reflTransGen

/-! ### What the server gets -/

/-- What the sending of a message of the script gives to the networking library. -/
def sentFor (entry : Packet × SendType) : Sent :=
  ⟨entry.1.data, .ofNat entry.1.size, entry.2⟩

/-- The message that has been sent. -/
def entryOf (s : Sent) : Packet × SendType :=
  (s.packet, s.sendType)

theorem entryOf_sentFor :
  ∀ entry ∈ ExampleClient.script, entryOf (sentFor entry) = entry
  := by decide +kernel

/-- The accepted sends of a client are some of the messages of its script, in their order. -/
theorem sentOn_sublist_script {net : ISteamNetworkingSockets} {n : Nat} {w : World Client}
    (h : ExampleClient.Sends net n w) (accepts : Accepts) (c : HSteamNetConnection) :
  (sentOn accepts c w.trace).Sublist (ExampleClient.script.map sentFor)
  := by
  apply (sentOn_sublist accepts c w.trace).trans
  rw [h.sent, List.filterMap_map]
  have hsent : Event.sent? ∘ ExampleClient.sendEvent w.self.serverConnection = some ∘ sentFor := rfl
  rw [hsent, List.filterMap_eq_map]
  apply (List.take_sublist n _).map

/-- The message was sent reliably. -/
def reliably (entry : Packet × SendType) : Bool :=
  entry.2 = .reliable

/-- In every state of a conversation, the packets that the server has passed from a client are the
first of those that the network has carried to it.  Each is one of the messages of the script of
the client, and those sent reliably are passed at most once each and in the order of the script. -/
theorem reachable_server_gets (hnets : nets.Reliable)
    (hdispatches : ∀ i, (nets.client i).DispatchesQueued) (hπ : Reachable nets links text rand π)
    {k : HSteamNetConnection} {i : ι} {c : HSteamNetConnection} (hk : links.peer k = some (i, c)) :
  ∃ got, got <+: π.session.toServer k ∧
    deliveredFrom k π.session.server.trace = got.map Sent.packet ∧
    (∀ s ∈ got, entryOf s ∈ ExampleClient.script) ∧
    ((got.filter Sent.reliable).map entryOf).Sublist (ExampleClient.script.filter reliably)
  := by
  obtain ⟨got, hcarried, hdelivered, -, hhonest⟩ := (hπ.session.sound hnets).server_passes hk
  obtain ⟨n, hsends⟩ := (hπ.atClient i).sends (hnets.receivesWhileOpened i) (hdispatches i)
  have hscript := sentOn_sublist_script hsends (nets.clientAccepts i) c
  refine ⟨got, hcarried, hdelivered, ?_, ?_⟩
  · intro s hs
    obtain ⟨sent, hsent, rfl⟩ := List.mem_map.mp (hscript.subset (hhonest.mem s hs))
    rw [entryOf_sentFor sent hsent]
    apply hsent
  · have hsent : ((ExampleClient.script.map sentFor).filter Sent.reliable).map entryOf
        = ExampleClient.script.filter reliably := by
      rw [List.filter_map, List.map_map]
      apply (List.map_congr_left _).trans (List.map_id _)
      intro entry hentry
      apply entryOf_sentFor entry (List.mem_of_mem_filter hentry)
    rw [← hsent]
    apply (hhonest.order.sublist.trans (hscript.filter Sent.reliable)).map

/-! ### A conversation with one client -/

/-- What happens next in a conversation. -/
inductive Turn (ι : Type) where
  | server
  | queueAtServer (info : StatusInfo)
  | client (i : ι)
  | queueAtClient (i : ι) (info : StatusInfo)
  | toServer (k : HSteamNetConnection) (s : Sent)

/-- The conversation after that, unless it cannot happen. -/
def turn (nets : Networks ι) (links : Links ι) (text : ExampleServer.BufferText)
    (rand : Trace → Nat) (π : Conversation ι) : Turn ι → Option (Conversation ι)
  | .server =>
      match π.server with
      | .failed _ => none
      | .reached point =>
          match ExampleServer.main text rand π.session.server point with
          | none => none
          | some (s, point') =>
              some { π with
                session := π.session.serverStep nets s
                server := Routine.after point' ((Server.step nets.server s).run π.session.server) }
  | .queueAtServer info =>
      match π.server with
      | .failed _ => none
      | .reached _ => some { π with session := π.session.serverStep nets (.queue info) }
  | .client i =>
      match π.client i with
      | .failed _ => none
      | .reached point =>
          match ExampleClient.main (nets.client i) (π.session.client i) point with
          | none => none
          | some (s, point') =>
              some { π with
                session := π.session.clientStep nets i s
                client := Function.update π.client i (Routine.after point'
                  ((Client.step (nets.client i) s).run (π.session.client i))) }
  | .queueAtClient i info =>
      match π.client i with
      | .failed _ => none
      | .reached _ => some { π with session := π.session.clientStep nets i (.queue info) }
  | .toServer k s =>
      match π.server, links.peer k with
      | .reached _, some (i, c) =>
          if s.Fits ∧ Channel.MayCarry Sent.reliable (Session.sentByClient nets π.session i c)
              (π.session.toServer k) s then
            some { π with session := π.session.carryToServer k s }
          else none
      | _, _ => none

/-- A turn that can happen is a step. -/
theorem turn_step {t : Turn ι} (h : turn nets links text rand π t = some π') :
  Step nets links text rand π π'
  := by
  cases t with
  | server =>
      simp only [turn] at h
      split at h
      · cases h
      · next point hpoint =>
          split at h
          · cases h
          · next s point' hnext =>
              cases h
              exact .server hpoint hnext
  | queueAtServer info =>
      simp only [turn] at h
      split at h
      · cases h
      · next point hpoint =>
          cases h
          exact .aroundServer hpoint (.queue info) trivial (by simp)
  | client i =>
      simp only [turn] at h
      split at h
      · cases h
      · next point hpoint =>
          split at h
          · cases h
          · next s point' hnext =>
              cases h
              exact .client hpoint hnext
  | queueAtClient i info =>
      simp only [turn] at h
      split at h
      · cases h
      · next point hpoint =>
          cases h
          exact .aroundClient hpoint (.queue info) trivial (by simp)
  | toServer k s =>
      simp only [turn] at h
      split at h
      · next point i c hpoint hk =>
          split at h
          · next hcarry =>
              cases h
              exact .toServer hpoint hk s hcarry.1 hcarry.2
          · cases h
      · cases h

/-- What is reached by turns is reached by steps. -/
theorem reachable_of_turns {turns : List (Turn ι)} {socket : HSteamListenSocket}
    {group : HSteamNetPollGroup} {serverConnection : ι → HSteamNetConnection}
    (h : turns.foldlM (turn nets links text rand) (start socket group serverConnection)
      = some π) :
  Reachable nets links text rand π
  := by
  have hsteps : ∀ {turns : List (Turn ι)} {π₀ : Conversation ι},
      turns.foldlM (turn nets links text rand) π₀ = some π →
      Relation.ReflTransGen (Step nets links text rand) π₀ π := by
    intro turns
    induction turns with
    | nil =>
        intro π₀ h
        cases h
        exact .refl
    | cons t turns ih =>
        intro π₀ h
        rw [List.foldlM_cons] at h
        obtain ⟨π₁, hturn, hrest⟩ := Option.bind_eq_some_iff.mp h
        exact .head (turn_step hturn) (ih hrest)
  exact ⟨socket, group, serverConnection, hsteps h⟩

/-- A client is admitted, and the first two of its messages are carried to the server. -/
def chat : List (Turn Unit) :=
  [.server, .server, .server, .client (), .client (), .queueAtServer ⟨1, .none, .connecting⟩,
    .server, .queueAtClient () ⟨1, .connecting, .connected⟩, .client (), .client (), .client (),
    .toServer 1 (sentFor (ExampleClient.message 0, .reliable)),
    .toServer 1 (sentFor (ExampleClient.message 1, .reliable)), .server]

/-- The server has passed the first two messages of the client. -/
theorem chat_server_gets :
  ∃ π : Conversation Unit,
    Reachable Session.queueNetworks Session.oneLink (fun _ _ => some "") (fun _ => 7) π ∧
    deliveredFrom 1 π.session.server.trace
      = [ExampleClient.message 0, ExampleClient.message 1] ∧
    ∃ got, got <+: π.session.toServer 1 ∧
      deliveredFrom 1 π.session.server.trace = got.map Sent.packet ∧
      (∀ s ∈ got, entryOf s ∈ ExampleClient.script) ∧
      ((got.filter Sent.reliable).map entryOf).Sublist (ExampleClient.script.filter reliably)
  := by
  have hturns : (chat.foldlM
      (turn Session.queueNetworks Session.oneLink (fun _ _ => some "") fun _ => 7)
        (start 0 0 fun _ => 0)).map (fun π => deliveredFrom 1 π.session.server.trace)
      = some [ExampleClient.message 0, ExampleClient.message 1] := by
    decide +kernel
  obtain ⟨π, hturns, hdelivered⟩ := Option.map_eq_some_iff.mp hturns
  have hreachable := reachable_of_turns hturns
  exact ⟨π, hreachable, hdelivered, reachable_server_gets (i := ()) (c := 1)
    Session.queueNetworks_reliable (fun _ => queueNetworking_dispatchesQueued) hreachable rfl⟩

end Conversation

end Chs
