import ChaosInMultiplayer.Endpoints.Agreement

/-!
# The common order of broadcasts

In a session, what the server sends to two clients that are connected is the same for both, as long
as it treats them alike.  An honest network keeps the order of reliable messages, so both clients
pass the reliable packets that they get from there on in one common order, and neither passes any
of them twice (`reachable_clients_agree`).
-/

namespace Chs

open Program

/-- The accepted sends on a connection are some of the sends to it, in their order. -/
theorem sentOn_sublist_sendsTo (accepts : Accepts) (k : HSteamNetConnection) (t : Trace) :
  (sentOn accepts k t).Sublist (sendsTo k t)
  := by
  induction t with
  | nil => apply List.Sublist.refl
  | cons e t ih =>
      have happend : sendsTo k (e :: t) = sendsTo k t ++ sendsTo k [e] := sendsTo_append k [e] t
      rw [happend]
      cases e with
      | sendMessageToConnection c data size sendType =>
          rw [sentOn]
          split
          · next haccepted =>
              have hone : sendsTo k [.sendMessageToConnection c data size sendType]
                  = [⟨data, size, sendType⟩] := by
                simp [sendsTo, Event.sentTo, Event.sent?, haccepted.1]
              rw [hone]
              apply ih.append (List.Sublist.refl _)
          · apply ih.trans (List.sublist_append_left _ _)
      | _ => exact ih.trans (List.sublist_append_left _ _)

namespace Session

variable {ι : Type} [DecidableEq ι] {nets : Networks ι} {links : Links ι} {attentive : ι → Prop}
  {parting : HSteamNetConnection → Trace → Prop} {σ σ' : Session ι} {a b : HSteamNetConnection}

/-- The packets that the client `i` has passed from its connection `c` are those of `got`, some of
what has been carried to it from the connection `k` of the server. -/
def Gets (σ : Session ι) (k : HSteamNetConnection) (i : ι) (c : HSteamNetConnection)
    (got : List Sent) : Prop :=
  got.Sublist (σ.toClient k) ∧ deliveredFrom c (σ.client i).trace = got.map Sent.packet

/-- Since the server had the trace `t`, it has sent the same to both connections.  The client at the
other end of either has got sends that were made to it before or since, the reliable ones in the
order of these sends and once each. -/
def PassInCommonOrder (a b : HSteamNetConnection) (t : Trace) (σ : Session ι) (i j : ι)
    (c d : HSteamNetConnection) : Prop :=
  ∃ es gotA gotB, σ.server.trace = es ++ t ∧ sendsTo a es = sendsTo b es ∧
    Gets σ a i c gotA ∧ Gets σ b j d gotB ∧
    Channel.Skipping Sent.reliable (sendsTo a t ++ sendsTo a es) gotA ∧
    Channel.Skipping Sent.reliable (sendsTo b t ++ sendsTo b es) gotB

/-- The server has stayed as it was, or it has made a step in which its callbacks and its owner
treat the two connections alike. -/
def FairTo (nets : Networks ι) (a b : HSteamNetConnection) (σ σ' : Session ι) : Prop :=
  σ'.server = σ.server ∨
    ∃ s, Server.StepOnly (Server.Fair a b) s ∧
      σ'.server = exit (Server.step nets.server s) σ.server

/-- A step of a session in which the server treats the two connections alike. -/
def FairStep (nets : Networks ι) (links : Links ι) (attentive : ι → Prop)
    (a b : HSteamNetConnection) (σ σ' : Session ι) : Prop :=
  Step nets links attentive σ σ' ∧ FairTo nets a b σ σ'

omit [DecidableEq ι] in
/-- A step in which the server treats two connections alike keeps their agreement. -/
theorem FairTo.keeps (hparting : Server.MayPartAlike parting a b) (h : FairTo nets a b σ σ')
    {t₀ : Trace} (hσ : Server.Keeping nets.server (Server.Agreeing parting a b t₀) σ.server) :
  Server.Keeping nets.server (Server.Agreeing parting a b t₀) σ'.server
  := by
  rcases h with hserver | ⟨s, hs, hserver⟩
  · rw [hserver]
    apply hσ
  · rw [hserver]
    apply Server.step_keeps_of_callbacks (J := Server.Agreement parting a b t₀)
      (fun _ _ _ he h => h.neutral hparting he) (hs.keeps (Server.perform_agreement hparting)) _ hσ

/-- What the steps of the server keep holds in every state that fair steps lead to. -/
theorem reachable_agreeing (hparting : Server.MayPartAlike parting a b)
    (hσ : Reachable nets links attentive σ) {t₀ : Trace}
    (hkeeping : Server.Keeping nets.server (Server.Agreeing parting a b t₀) σ.server)
    (hsteps : Relation.ReflTransGen (FairStep nets links attentive a b) σ σ') :
  Reachable nets links attentive σ' ∧
    Server.Keeping nets.server (Server.Agreeing parting a b t₀) σ'.server
  := by
  induction hsteps with
  | refl => exact ⟨hσ, hkeeping⟩
  | tail _ hstep ih =>
      refine ⟨?_, hstep.2.keeps hparting ih.2⟩
      obtain ⟨ip, port, socket, group, serverConnection, hstart⟩ := ih.1
      exact ⟨ip, port, socket, group, serverConnection, hstart.tail hstep.1⟩

omit [DecidableEq ι] in
/-- What two clients pass is in a common order, if both have been told the same and neither has been
closed. -/
theorem Sound.passInCommonOrder (hσ : Sound nets links attentive σ) {i j : ι}
    {c d : HSteamNetConnection} (ha : links.peer a = some (i, c)) (hb : links.peer b = some (j, d))
    {t : Trace} (htold : ToldTheSame a b t σ.server.trace)
    (hopen : .closeConnection a ∉ σ.server.trace ∧ .closeConnection b ∉ σ.server.trace) :
  PassInCommonOrder a b t σ i j c d
  := by
  obtain ⟨es, hes, ⟨-, hsame⟩ | ⟨k, before, hfirst, -⟩⟩ := htold
  · obtain ⟨gotA, hcarriedA, hgotA, -, hskippingA, -⟩ := hσ.client_passes ha
    obtain ⟨gotB, hcarriedB, hgotB, -, hskippingB, -⟩ := hσ.client_passes hb
    refine ⟨es, gotA, gotB, hes, hsame, ⟨hcarriedA, hgotA⟩, ⟨hcarriedB, hgotB⟩, ?_, ?_⟩
    · rw [← sendsTo_append, ← hes]
      exact hskippingA.of_sublist (sentOn_sublist_sendsTo _ a _)
    · rw [← sendsTo_append, ← hes]
      exact hskippingB.of_sublist (sentOn_sublist_sendsTo _ b _)
  · -- Neither has been closed, so there is no first closing.
    have hclosed : .closeConnection k ∈ σ.server.trace := by
      rw [hes]
      apply List.mem_append_left
      apply hfirst.closing.subset List.mem_cons_self
    rcases hfirst.one with rfl | rfl
    · exact absurd hclosed hopen.1
    · exact absurd hclosed hopen.2

/-- From any state in which two clients are connected, until one of them is closed: if the server
sends only by broadcasts that except neither, then it sends one common sequence to both, and the
reliable packets that the two clients get from it are passed in its order and once each. -/
theorem reachable_clients_agree (hnets : nets.Reliable) (hσ : Reachable nets links attentive σ)
    {i j : ι} {c d : HSteamNetConnection} (ha : links.peer a = some (i, c))
    (hb : links.peer b = some (j, d)) (hfirst : Server.connectedAt σ.server.self.connections a)
    (hsecond : Server.connectedAt σ.server.self.connections b)
    (hcallbacks : Server.CallbacksOnly (Server.Fair a b) σ.server)
    (hsteps : Relation.ReflTransGen (FairStep nets links attentive a b) σ σ')
    (hopen : .closeConnection a ∉ σ'.server.trace ∧ .closeConnection b ∉ σ'.server.trace) :
  PassInCommonOrder a b σ.server.trace σ' i j c d
  := by
  have hcoupled := (hσ.sound hnets).server.served.1.1
  have hkeeping : Server.Keeping nets.server (Server.Agreeing _ a b σ.server.trace) σ.server :=
    ⟨hcallbacks.keep Server.mayPartAlike_same, .start hcoupled hfirst hsecond⟩
  obtain ⟨hσ', -, hagreeing⟩ :=
    reachable_agreeing Server.mayPartAlike_same hσ hkeeping hsteps
  exact (hσ'.sound hnets).passInCommonOrder ha hb hagreeing.toldUntil hopen

/-! ### A session of two clients -/

/-- Two clients, whose connections have the handles 1 and 2 at the server and 1 at the clients. -/
def twoLinks : Links Bool where
  peer k := if k = 1 then some (false, 1) else if k = 2 then some (true, 1) else none
  unique k k' other hk hk' := by
    split at hk
    · rename_i hone
      cases hk
      split at hk'
      · rename_i hone'
        rw [hone, hone']
      · split at hk' <;> cases hk'
    · split at hk
      · rename_i htwo
        cases hk
        split at hk'
        · cases hk'
        · split at hk'
          · rename_i htwo'
            rw [htwo, htwo']
          · cases hk'
      · cases hk

def twoNetworks : Networks Bool where
  server := queueNetworking
  client _ := queueNetworking
  serverAccepts _ _ _ := true
  clientAccepts _ _ _ _ := true

/-- The networks of the session do what the endpoints rely on. -/
theorem twoNetworks_reliable :
  twoNetworks.Reliable
  where
  refusesClosed := queueNetworking_refusesClosed
  receivesInOrder := queueNetworking_receivesInOrder
  rejectsInvalidPollGroup := queueNetworking_rejectsInvalidPollGroup
  receivesWhileOpened _ := queueNetworking_receivesWhileOpened
  receivesOldest _ := queueNetworking_receivesOldest

/-- The server accepts both clients, and greets the first one before the second one is there. -/
def acceptingBoth : List ServerStep :=
  [.openConnection, .call (.createClientConnection 1), .call (.accept 1),
    .call (.sendPacketToAllConnectedClients ⟨[67]⟩ .reliable none),
    .call (.createClientConnection 2), .call (.accept 2)]

/-- Both clients have connected, and the server has accepted both. -/
def bothConnected : Session Bool :=
  (((start "127.0.0.1" 8080 0 0 fun _ => 0).serverSteps twoNetworks acceptingBoth).clientSteps
    twoNetworks false connecting).clientSteps twoNetworks true connecting

/-- Both clients can connect. -/
theorem bothConnected_reachable :
  Reachable twoNetworks twoLinks (fun _ => True) bothConnected
  := by
  refine ⟨"127.0.0.1", 8080, 0, 0, fun _ => 0, ?_⟩
  apply (reaches_serverSteps acceptingBoth (by simp [acceptingBoth]) _).trans
  apply (reaches_clientSteps (i := false) connecting (by simp [connecting]) _).trans
  exact reaches_clientSteps (i := true) connecting (by simp [connecting]) _

/-- The server tells both clients two things. -/
def bothTold : Session Bool :=
  (bothConnected.serverStep twoNetworks
      (.call (.sendPacketToAllConnectedClients ⟨[68]⟩ .reliable none))).serverStep twoNetworks
    (.call (.sendPacketToAllConnectedClients ⟨[69]⟩ .reliable none))

/-- The first client has got all three messages, and the second one only the first one of those sent
to it. -/
def bothHeard : Session Bool :=
  ((((((bothTold.carryToClient 1 false 1 ⟨[67], 1, .reliable⟩).carryToClient 1 false 1
    ⟨[68], 1, .reliable⟩).carryToClient 2 true 1 ⟨[68], 1, .reliable⟩).carryToClient 1 false 1
    ⟨[69], 1, .reliable⟩).clientStep twoNetworks false .updateConnection).clientStep twoNetworks
    true .updateConnection)

/-- A step of the server that treats both clients alike is fair. -/
theorem fair_server (σ : Session Bool) (s : ServerStep) (hs : ∀ m, s ≠ .arrive m)
    (hfair : Server.StepOnly (Server.Fair 1 2) s) :
  FairStep twoNetworks twoLinks (fun _ => True) 1 2 σ (σ.serverStep twoNetworks s)
  := ⟨.server s hs, .inr ⟨s, hfair, rfl⟩⟩

/-- Carrying a message to a client is fair. -/
theorem fair_toClient (σ : Session Bool) {k : HSteamNetConnection} {i : Bool}
    {c : HSteamNetConnection} (hk : twoLinks.peer k = some (i, c)) (s : Sent) (hs : s.Fits)
    (hcarry : Channel.MayCarry Sent.reliable (sentByServer twoNetworks σ k) (σ.toClient k) s) :
  FairStep twoNetworks twoLinks (fun _ => True) 1 2 σ (σ.carryToClient k i c s)
  := ⟨.toClient hk s hs hcarry, .inl rfl⟩

/-- The two broadcasts, and all that is carried of them, are made in fair steps. -/
theorem bothHeard_fair :
  Relation.ReflTransGen (FairStep twoNetworks twoLinks (fun _ => True) 1 2) bothConnected bothHeard
  := by
  have htell : ∀ packet, Server.StepOnly (Server.Fair 1 2)
      (.call (.sendPacketToAllConnectedClients packet .reliable none)) := by
    intro packet e he
    cases he
  have hupdate : ∀ (σ : Session Bool) i, (σ.client i).self.packetCallback.isSome →
      FairStep twoNetworks twoLinks (fun _ => True) 1 2 σ
        (σ.clientStep twoNetworks i .updateConnection) :=
    fun σ i hi => ⟨.client i .updateConnection (by simp) fun _ _ => hi, .inl rfl⟩
  apply Relation.ReflTransGen.head (fair_server _ _ (by simp) (htell ⟨[68]⟩))
  apply Relation.ReflTransGen.head (fair_server _ _ (by simp) (htell ⟨[69]⟩))
  apply Relation.ReflTransGen.head
    (fair_toClient bothTold (k := 1) rfl ⟨[67], 1, .reliable⟩ (by decide) (by decide +kernel))
  apply Relation.ReflTransGen.head
    (fair_toClient _ (k := 1) rfl ⟨[68], 1, .reliable⟩ (by decide) (by decide +kernel))
  apply Relation.ReflTransGen.head
    (fair_toClient _ (k := 2) rfl ⟨[68], 1, .reliable⟩ (by decide) (by decide +kernel))
  apply Relation.ReflTransGen.head
    (fair_toClient _ (k := 1) rfl ⟨[69], 1, .reliable⟩ (by decide) (by decide +kernel))
  apply Relation.ReflTransGen.head (hupdate _ false (by decide +kernel))
  exact Relation.ReflTransGen.single (hupdate _ true (by decide +kernel))

/-- The second client, which has got one of the two broadcasts, passes them in the order of the
first. -/
theorem bothHeard_agree :
  PassInCommonOrder 1 2 bothConnected.server.trace bothHeard false true 1 1 ∧
    deliveredFrom 1 (bothHeard.client false).trace = [⟨[67]⟩, ⟨[68]⟩, ⟨[69]⟩] ∧
    deliveredFrom 1 (bothHeard.client true).trace = [⟨[68]⟩]
  := by
  refine ⟨?_, by decide +kernel, by decide +kernel⟩
  have hcallbacks : Server.CallbacksOnly (Server.Fair 1 2) bothConnected.server := by
    have hnone : bothConnected.server.self.packetCallback = none ∧
        bothConnected.server.self.connectionStatusChangeCallback = none := ⟨rfl, rfl⟩
    constructor
    · intro f hf
      rw [hnone.1] at hf
      cases hf
    · intro f hf
      rw [hnone.2] at hf
      cases hf
  exact reachable_clients_agree (a := 1) (b := 2) twoNetworks_reliable bothConnected_reachable rfl
    rfl (by decide +kernel) (by decide +kernel) hcallbacks bothHeard_fair (by decide +kernel)

end Session

end Chs
