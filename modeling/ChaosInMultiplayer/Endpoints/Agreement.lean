import ChaosInMultiplayer.Endpoints.Session
import ChaosInMultiplayer.Server.Admission

/-!
# Agreement of clients

A server that sends only by broadcasts sends the same messages in the same order to any two clients
that it does not except: from any state in which both are connected, up to the first closing of one
of them (`run_agrees`).
-/

namespace Chs

/-- The sends to a connection, in their order. -/
def sendsTo (connection : HSteamNetConnection) (t : Trace) : List Sent :=
  (t.filter (Event.sentTo connection)).reverse.filterMap Event.sent?

/-- Later sends follow on earlier ones. -/
theorem sendsTo_append (k : HSteamNetConnection) (es t : Trace) :
  sendsTo k (es ++ t) = sendsTo k t ++ sendsTo k es
  := by
  simp [sendsTo]

/-- Events that send nothing send nothing to anyone. -/
theorem sendsTo_eq_nil {es : Trace} (hes : ∀ e ∈ es, e.sends = false) (k : HSteamNetConnection) :
  sendsTo k es = []
  := by
  have hnone : es.filter (Event.sentTo k) = [] := by
    rw [List.filter_eq_nil_iff]
    intro e he hsent
    cases e with
    | sendMessageToConnection c data size sendType => cases hes _ he
    | _ => cases hsent
  rw [sendsTo, hnone]
  rfl

/-- Neither of the two connections is closed. -/
def BothOpen (a b : HSteamNetConnection) (es : Trace) : Prop :=
  .closeConnection a ∉ es ∧ .closeConnection b ∉ es

/-- Two connections that are not closed in either part are not closed in the whole. -/
theorem BothOpen.append {a b : HSteamNetConnection} {es es' : Trace} (h : BothOpen a b es)
    (h' : BothOpen a b es') :
  BothOpen a b (es ++ es')
  := by
  simp only [BothOpen, List.mem_append, not_or] at *
  exact ⟨⟨h.1, h'.1⟩, h.2, h'.2⟩

/-- The first closing of one of the two connections is that of `c`, and `before` comes before it. -/
structure FirstClosing (a b c : HSteamNetConnection) (before es : Trace) : Prop where
  one : c = a ∨ c = b
  closing : (.closeConnection c :: before) <:+ es
  bothOpen : BothOpen a b before

/-- If one of two connections is closed, then there is a first closing. -/
theorem exists_firstClosing {a b : HSteamNetConnection} {es : Trace} (h : ¬ BothOpen a b es) :
  ∃ c before, FirstClosing a b c before es
  := by
  induction es with
  | nil => exact absurd ⟨List.not_mem_nil, List.not_mem_nil⟩ h
  | cons e es ih =>
      by_cases hes : BothOpen a b es
      · have hone : e = .closeConnection a ∨ e = .closeConnection b := by
          by_contra hneither
          rw [not_or] at hneither
          apply h
          simp only [BothOpen, List.mem_cons, not_or]
          exact ⟨⟨Ne.symm hneither.1, hes.1⟩, Ne.symm hneither.2, hes.2⟩
        rcases hone with rfl | rfl
        · exact ⟨a, es, .inl rfl, List.suffix_rfl, hes⟩
        · exact ⟨b, es, .inr rfl, List.suffix_rfl, hes⟩
      · obtain ⟨c, before, hfirst⟩ := ih hes
        exact ⟨c, before, hfirst.one, hfirst.closing.trans (List.suffix_cons e es),
          hfirst.bothOpen⟩

/-- As long as neither connection is closed since, both have been sent the same.  When the first of
them is, what happened before was as `parting` says. -/
def ToldUntil (parting : HSteamNetConnection → Trace → Prop) (a b : HSteamNetConnection)
    (t t' : Trace) : Prop :=
  ∃ es, t' = es ++ t ∧
    (BothOpen a b es ∧ sendsTo a es = sendsTo b es ∨
      ∃ c before, FirstClosing a b c before es ∧ parting c before)

/-- Both connections have been sent the same since, up to the first closing of one of them. -/
def ToldTheSame (a b : HSteamNetConnection) (t t' : Trace) : Prop :=
  ToldUntil (fun _ before => sendsTo a before = sendsTo b before) a b t t'

namespace Server

open Program

variable {net : ISteamNetworkingSockets} {parting : HSteamNetConnection → Trace → Prop}
  {a b : HSteamNetConnection} {t₀ : Trace}

/-- One of the two connections has been closed since, and they parted as they should. -/
def Parted (parting : HSteamNetConnection → Trace → Prop) (a b : HSteamNetConnection)
    (t₀ t : Trace) : Prop :=
  ∃ es c before, t = es ++ t₀ ∧ FirstClosing a b c before es ∧ parting c before

/-- Both connections are connected, and have been sent the same since and not been closed. -/
structure InStep (a b : HSteamNetConnection) (t₀ : Trace) (C : ClientConnections) (t : Trace) :
    Prop where
  first : connectedAt C a
  second : connectedAt C b
  sends : ∃ es, t = es ++ t₀ ∧ BothOpen a b es ∧ sendsTo a es = sendsTo b es

/-- The two connections have been in step since, until one of them was closed. -/
def Agreement (parting : HSteamNetConnection → Trace → Prop) (a b : HSteamNetConnection)
    (t₀ : Trace) (C : ClientConnections) (t : Trace) : Prop :=
  Coupled C t ∧ (Parted parting a b t₀ t ∨ InStep a b t₀ C t)

/-- Two connections that have been sent the same may part. -/
def MayPartAlike (parting : HSteamNetConnection → Trace → Prop) (a b : HSteamNetConnection) :
    Prop :=
  ∀ c before, sendsTo a before = sendsTo b before → parting c before

/-- Connections may part in particular if nothing else is asked than that they have been sent the
same. -/
theorem mayPartAlike_same :
  MayPartAlike (fun _ before => sendsTo a before = sendsTo b before) a b
  := fun _ _ hsame => hsame

section

variable {C C' : ClientConnections} {t : Trace}

/-- Two connections that are connected are in agreement at once. -/
theorem Agreement.start (hC : Coupled C t₀) (ha : connectedAt C a) (hb : connectedAt C b) :
  Agreement parting a b t₀ C t₀
  := ⟨hC, .inr ⟨ha, hb, [], rfl, ⟨List.not_mem_nil, List.not_mem_nil⟩, rfl⟩⟩

/-- Connections in agreement have been told the same up to their parting. -/
theorem Agreement.toldUntil (h : Agreement parting a b t₀ C t) :
  ToldUntil parting a b t₀ t
  := by
  rcases h.2 with ⟨es, c, before, hes, hfirst, hparting⟩ | ⟨-, -, es, hes, hopen, hsends⟩
  · exact ⟨es, hes, .inr ⟨c, before, hfirst, hparting⟩⟩
  · exact ⟨es, hes, .inl ⟨hopen, hsends⟩⟩

/-- Two connections that have parted stay so. -/
theorem Parted.append (h : Parted parting a b t₀ t) (es : Trace) :
  Parted parting a b t₀ (es ++ t)
  := by
  obtain ⟨es₀, c, before, rfl, hfirst, hparting⟩ := h
  refine ⟨es ++ es₀, c, before, (List.append_assoc _ _ _).symm, ?_, hparting⟩
  exact ⟨hfirst.one, hfirst.closing.trans (List.suffix_append es es₀), hfirst.bothOpen⟩

/-- Neither is closed, and the same is sent to both. -/
theorem InStep.told (h : InStep a b t₀ C t) (es : Trace) (hopen : BothOpen a b es)
    (hsends : sendsTo a es = sendsTo b es) (hC : ∀ k, connectedAt C k → connectedAt C' k) :
  InStep a b t₀ C' (es ++ t)
  := by
  obtain ⟨ha, hb, es₀, rfl, hopen₀, hsame⟩ := h
  refine ⟨hC a ha, hC b hb, es ++ es₀, (List.append_assoc _ _ _).symm, hopen.append hopen₀, ?_⟩
  rw [sendsTo_append, sendsTo_append, hsame, hsends]

/-- The first closing is that of `c`, and what happens before it is as it should. -/
theorem InStep.part (h : InStep a b t₀ C t) {es before : Trace} {c : HSteamNetConnection}
    (hfirst : FirstClosing a b c before es)
    (hparting : ∀ es₀, sendsTo a es₀ = sendsTo b es₀ → parting c (before ++ es₀)) :
  Parted parting a b t₀ (es ++ t)
  := by
  obtain ⟨-, -, es₀, rfl, hopen₀, hsame⟩ := h
  refine ⟨es ++ es₀, c, before ++ es₀, (List.append_assoc _ _ _).symm, ?_, hparting es₀ hsame⟩
  obtain ⟨later, hlater⟩ := hfirst.closing
  refine ⟨hfirst.one, ⟨later, ?_⟩, hfirst.bothOpen.append hopen₀⟩
  rw [← hlater, List.append_assoc, List.cons_append]

/-- Nothing is sent, and the clients whose connections are not closed stay connected. -/
theorem InStep.silent (h : InStep a b t₀ C t) (hparting : MayPartAlike parting a b) (es : Trace)
    (hes : ∀ e ∈ es, e.sends = false)
    (hC : ∀ k, .closeConnection k ∉ es → connectedAt C k → connectedAt C' k) :
  Parted parting a b t₀ (es ++ t) ∨ InStep a b t₀ C' (es ++ t)
  := by
  by_cases hopen : BothOpen a b es
  · right
    obtain ⟨ha, hb, es₀, rfl, hopen₀, hsame⟩ := h
    refine ⟨hC a hopen.1 ha, hC b hopen.2 hb, es ++ es₀, (List.append_assoc _ _ _).symm,
      hopen.append hopen₀, ?_⟩
    rw [sendsTo_append, sendsTo_append, hsame, sendsTo_eq_nil hes, sendsTo_eq_nil hes]
  · left
    obtain ⟨c, before, hfirst⟩ := exists_firstClosing hopen
    have hbefore : ∀ e ∈ before, e.sends = false :=
      fun e he => hes e (hfirst.closing.subset (List.mem_cons_of_mem _ he))
    apply h.part hfirst
    intro es₀ hsame
    apply hparting
    rw [sendsTo_append, sendsTo_append, hsame, sendsTo_eq_nil hbefore, sendsTo_eq_nil hbefore]

/-- After an insertion the new entry tells whether its connection is connected. -/
theorem connectedAt_insert (C : ClientConnections) (k : HSteamNetConnection)
    (client : ClientConnection) (j : HSteamNetConnection) :
  connectedAt (C.insert k client) j = if j = k then client.connected else connectedAt C j
  := by
  unfold connectedAt
  split
  · rename_i hjk
    rw [hjk, AList.lookup_insert]
    rfl
  · rename_i hjk
    rw [AList.lookup_insert_ne hjk]

/-- A connection is connected exactly if its entry is. -/
theorem connectedAt_of_lookup {k : HSteamNetConnection} {client : ClientConnection}
    (h : C.lookup k = some client) :
  connectedAt C k = client.connected
  := by
  rw [connectedAt, h]
  rfl

/-- A connection that is connected is registered. -/
theorem mem_of_connectedAt {k : HSteamNetConnection} (h : connectedAt C k) :
  k ∈ C
  := by
  rw [connectedAt, Option.any_eq_true] at h
  obtain ⟨client, hclient, -⟩ := h
  rw [← AList.lookup_isSome, hclient]
  rfl

/-- An entry is set to one that is connected if the old one was and has not been closed. -/
theorem InStep.insert (h : InStep a b t₀ C t) (hparting : MayPartAlike parting a b)
    (es : Trace) (hes : ∀ e ∈ es, e.sends = false)
    {k : HSteamNetConnection} {client : ClientConnection}
    (hclient : .closeConnection k ∉ es → connectedAt C k → client.connected) :
  Parted parting a b t₀ (es ++ t) ∨ InStep a b t₀ (C.insert k client) (es ++ t)
  := by
  apply h.silent hparting es hes
  intro j hj hconnected
  rw [connectedAt_insert]
  split
  · rename_i hjk
    subst hjk
    apply hclient hj hconnected
  · apply hconnected

end

/-! ### Calls -/

/-- The call treats the two connections alike: it sends to neither of them alone, and it excepts
neither from a broadcast. -/
def Fair (a b : HSteamNetConnection) : ServerCall → Prop
  | .sendPacket _ client _ => client.netConnection ≠ a ∧ client.netConnection ≠ b
  | .sendPacketToAllConnectedClients _ _ except =>
      ∀ e ∈ except, e.netConnection ≠ a ∧ e.netConnection ≠ b
  | _ => True

/-- The server has an agreement of the two connections. -/
def Agreeing (parting : HSteamNetConnection → Trace → Prop) (a b : HSteamNetConnection)
    (t₀ : Trace) (w : World Server) : Prop :=
  Agreement parting a b t₀ w.self.connections w.trace

/-- The two connections have parted, in a server with the registry of what has happened. -/
def AreParted (parting : HSteamNetConnection → Trace → Prop) (a b : HSteamNetConnection)
    (t₀ : Trace) (w : World Server) : Prop :=
  RegistryCoupled w ∧ Parted parting a b t₀ w.trace

/-- Connections that have parted are in agreement. -/
theorem AreParted.agreeing {w : World Server} (h : AreParted parting a b t₀ w) :
  Agreeing parting a b t₀ w
  := ⟨h.1, .inl h.2⟩

/-- Connections that have parted stay so, whatever is called. -/
theorem perform_parted (c : ServerCall) :
  Keeps (AreParted parting a b t₀) (perform net c)
  := by
  intro w hw
  have hcoupled := @step_keeps_coupled net (.call c) w hw.1
  rw [run_step_call] at hcoupled
  use hcoupled
  have heffects : AnyEffects net w (exit (perform net c) w) :=
    perform_moves c (permits_all (fun _ => true) c) w
  obtain ⟨es, hes, -⟩ := heffects.goesOnBy
  rw [hes]
  apply hw.2.append

/-- An operation on the entry of a connection that sends nothing, and leaves it connected if it was
unless it closes it. -/
theorem onClientConnection_inStep {α : Type} {k : HSteamNetConnection}
    {f : ClientConnection → Trace → α × ClientConnection × Trace}
    (hf : ∀ client t, ∃ es, (f client t).2.2 = es ++ t ∧ (∀ e ∈ es, e.sends = false) ∧
      (.closeConnection client.netConnection ∉ es → client.connected → (f client t).2.1.connected))
    (hparting : MayPartAlike parting a b) {w : World Server} (hcoupled : RegistryCoupled w)
    (hw : InStep a b t₀ w.self.connections w.trace) :
  Parted parting a b t₀ (exit (onClientConnection k f) w).trace ∨
    InStep a b t₀ (exit (onClientConnection k f) w).self.connections
      (exit (onClientConnection k f) w).trace
  := by
  cases hlookup : w.self.connections.lookup k with
  | none =>
      rw [exit_error (run_onClientConnection_none hlookup)]
      right
      apply hw
  | some client =>
      rw [exit_ok (run_onClientConnection_some hlookup)]
      obtain ⟨es, hes, hsilent, hconnected⟩ := hf client w.trace
      dsimp only [put]
      rw [hes]
      apply hw.insert hparting es hsilent
      intro hopen hbefore
      apply hconnected
      · rw [hcoupled.handle k client hlookup]
        apply hopen
      · rw [← connectedAt_of_lookup hlookup]
        apply hbefore

/-- A removal concerns a closed entry only, so connections in step stay so. -/
theorem removeClientConnection_inStep (k : HSteamNetConnection) {w : World Server}
    (hw : InStep a b t₀ w.self.connections w.trace) :
  InStep a b t₀ (exit (removeClientConnection k) w).self.connections
    (exit (removeClientConnection k) w).trace
  := by
  cases hlookup : w.self.connections.lookup k with
  | none =>
      rw [exit_error (run_removeClientConnection_none hlookup)]
      apply hw
  | some client =>
      cases hclosed : client.closed with
      | false =>
          rw [exit_error (run_removeClientConnection_not_closed hlookup hclosed)]
          apply hw
      | true =>
          rw [exit_ok (run_removeClientConnection_closed hlookup hclosed)]
          have hstays : ∀ j, connectedAt w.self.connections j →
              connectedAt (w.self.connections.erase k) j := by
            intro j hj
            by_cases hjk : j = k
            · subst hjk
              rw [connectedAt_of_lookup hlookup, ClientConnection.connected,
                of_decide_eq_true hclosed] at hj
              cases hj
            · rw [connectedAt, AList.lookup_erase_ne hjk]
              apply hj
          exact ⟨hstays a hw.first, hstays b hw.second, hw.sends⟩

/-- A broadcast sends one message to each connection that is connected and not excepted. -/
theorem sendsTo_broadcast {C : ClientConnections} (hC : HoldsHandles C) (packet : Packet)
    (sendType : SendType) (except : Option ClientConnection) (k : HSteamNetConnection) :
  sendsTo k ((recipients except C.entries).map (message packet sendType)).reverse
    = if connectedAt C k && !(except.any fun e => e.netConnection = k) then
        [⟨packet.data, .ofNat packet.size, sendType⟩]
      else []
  := by
  rw [sendsTo, List.filter_reverse, List.reverse_reverse, broadcast_sentTo hC]
  split <;> rfl

/-- A broadcast sends one message to a connection that is connected and not excepted. -/
theorem sendsTo_broadcast_of_not_excepted {C : ClientConnections} (hC : HoldsHandles C)
    (packet : Packet) (sendType : SendType) {except : Option ClientConnection}
    {k : HSteamNetConnection} (hk : connectedAt C k)
    (hexcept : ∀ e ∈ except, e.netConnection ≠ k) :
  sendsTo k ((recipients except C.entries).map (message packet sendType)).reverse
    = [⟨packet.data, .ofNat packet.size, sendType⟩]
  := by
  rw [sendsTo_broadcast hC, hk, not_excepted_iff.mpr hexcept]
  rfl

/-- A call that treats two connections alike keeps them in step, or closes one of them. -/
theorem perform_inStep (hparting : MayPartAlike parting a b) {c : ServerCall} (hc : Fair a b c)
    {w : World Server} (hcoupled : RegistryCoupled w)
    (hw : InStep a b t₀ w.self.connections w.trace) :
  Parted parting a b t₀ (exit (perform net c) w).trace ∨
    InStep a b t₀ (exit (perform net c) w).self.connections (exit (perform net c) w).trace
  := by
  cases c with
  | createClientConnection k =>
      by_cases hk : k ∈ w.self.connections
      · rw [perform, exit_ok (run_createClientConnection_of_mem hk)]
        right
        apply hw
      · rw [perform, exit_ok (run_createClientConnection_of_notMem hk)]
        apply hw.insert hparting [.registered k]
        · simp [Event.sends]
        · intro _ hconnected
          exact absurd (mem_of_connectedAt hconnected) hk
  | closeClientConnection k =>
      cases hlookup : w.self.connections.lookup k with
      | none =>
          rw [perform, exit_error (run_closeClientConnection_none hlookup)]
          right
          apply hw
      | some client =>
          rw [perform, exit_ok (run_closeClientConnection_some hlookup)]
          apply hw.silent hparting [.closeConnection client.netConnection]
          · simp [Event.sends]
          · intro j hopen hj
            have hjk : j ≠ k := by
              rintro rfl
              apply hopen
              rw [hcoupled.handle j client hlookup]
              apply List.mem_singleton_self
            rw [drop, connectedAt, AList.lookup_erase_ne hjk, put, AList.lookup_insert_ne hjk]
            apply hj
  | removeClientConnection k =>
      right
      apply removeClientConnection_inStep k hw
  | closeConnection =>
      rw [perform, exit_ok (run_closeConnection w)]
      have htrace : (shutdown w).trace = (.destroyPollGroup w.self.pollGroup ::
          .closeListenSocket w.self.listeningSocket :: (closings w.self.connections.entries ++
            [.log .info "Closing connections..."])) ++ w.trace := by
        simp [shutdown]
      rw [htrace]
      apply hw.silent hparting
      · intro e he
        simp only [List.mem_cons, List.mem_append, mem_closings, List.not_mem_nil, or_false]
          at he
        rcases he with rfl | rfl | ⟨entry, -, rfl⟩ | rfl <;> rfl
      · intro k hopen hk
        exfalso
        apply hopen
        rw [connectedAt, Option.any_eq_true] at hk
        obtain ⟨client, hclient, -⟩ := hk
        have hclosing : .closeConnection k ∈ closings w.self.connections.entries := by
          rw [mem_closings]
          use ⟨k, client⟩, AList.mem_lookup_iff.mp hclient
          rw [hcoupled.handle k client hclient]
        simp [hclosing]
  | connectionExists k => exact .inr hw
  | clientConnection k =>
      right
      cases hlookup : w.self.connections.lookup k with
      | none =>
          rw [perform, exit_error (run_clientConnection_none hlookup)]
          apply hw
      | some client =>
          rw [perform, exit_ok (run_clientConnection_some hlookup)]
          apply hw
  | accept k =>
      apply onClientConnection_inStep (f := fun client t => client.accept net t) _ hparting
        hcoupled hw
      intro client t
      obtain ⟨-, -, ok, ht⟩ := accept_entry net client t
      refine ⟨[_], ht, by simp [Event.sends], ?_⟩
      intro _ hconnected
      unfold ClientConnection.accept
      split
      · rfl
      · apply hconnected
  | setPollGroup k g =>
      apply onClientConnection_inStep (f := fun client t => client.setPollGroup net g t) _
        hparting hcoupled hw
      intro client t
      obtain ⟨-, -, ht⟩ := setPollGroup_entry net client g t
      refine ⟨[_], ht, by simp [Event.sends], ?_⟩
      intro _ hconnected
      unfold ClientConnection.setPollGroup
      split <;> exact hconnected
  | setAlias k value =>
      apply onClientConnection_inStep (f := fun client t => ((), client.setAlias value, t)) _
        hparting hcoupled hw
      exact fun client t => ⟨[], rfl, by simp, fun _ hconnected => hconnected⟩
  | close k =>
      apply onClientConnection_inStep
        (f := fun client t => ((), (client.close t).1, (client.close t).2)) _ hparting
        hcoupled hw
      intro client t
      refine ⟨[.closeConnection client.netConnection], rfl, by simp [Event.sends], ?_⟩
      intro hopen
      exact absurd (List.mem_singleton_self _) hopen
  | pollGroup => exact .inr hw
  | sendPacket packet client sendType =>
      right
      apply hw.told [message packet sendType client]
      · simp [BothOpen, message]
      · have hnone : ∀ k, client.netConnection ≠ k →
            sendsTo k [message packet sendType client] = [] := by
          intro k hk
          simp [sendsTo, message, Event.sentTo, hk]
        rw [hnone a hc.1, hnone b hc.2]
      · exact fun _ hj => hj
  | sendPacketToAllConnectedClients packet sendType except =>
      rw [perform, exit_ok (run_broadcast packet sendType except w)]
      right
      apply hw.told ((recipients except w.self.connections.entries).map
        (message packet sendType)).reverse
      · simp [BothOpen, message]
      · rw [sendsTo_broadcast_of_not_excepted hcoupled.handle packet sendType hw.first
            fun e he => (hc e he).1,
          sendsTo_broadcast_of_not_excepted hcoupled.handle packet sendType hw.second
            fun e he => (hc e he).2]
      · exact fun _ hj => hj
  | log level text =>
      right
      apply hw.told [.log level text] (by simp [BothOpen]) rfl
      exact fun _ hj => hj
  | assertThat condition text =>
      right
      cases condition <;> exact hw
  | raise => exact .inr hw
  | readOutside => exact .inr hw

/-- A call that treats two connections alike keeps their agreement. -/
theorem perform_agreement (hparting : MayPartAlike parting a b) (c : ServerCall)
    (hc : Fair a b c) :
  Keeps (Agreeing parting a b t₀) (perform net c)
  := by
  intro w hw
  rcases hw with ⟨hcoupled, hparted | hinStep⟩
  · exact (perform_parted c w ⟨hcoupled, hparted⟩).agreeing
  · have hnext := @step_keeps_coupled net (.call c) w hcoupled
    rw [run_step_call] at hnext
    exact ⟨hnext, perform_inStep hparting hc hcoupled hinStep⟩

/-! ### Runs -/

/-- Neutral events keep an agreement. -/
theorem Agreement.neutral (hparting : MayPartAlike parting a b) {C : ClientConnections} {t : Trace}
    {e : Event} (he : e.neutral) (h : Agreement parting a b t₀ C t) :
  Agreement parting a b t₀ C (e :: t)
  := by
  constructor
  · constructor
    · apply h.1.handle
    · exact fun k client hk hclosed => List.mem_cons_of_mem _ (h.1.closed k client hk hclosed)
    · intro k hk
      rcases List.mem_cons.mp hk with rfl | hk
      · cases he
      · exact (h.1.registered k hk).imp_right (List.mem_cons_of_mem _)
  · rcases h.2 with hparted | hinStep
    · left
      apply hparted.append [e]
    · apply hinStep.silent hparting [e]
      · intro e' he'
        rw [List.mem_singleton.mp he']
        cases e <;> first | rfl | cases he
      · exact fun _ _ hj => hj

/-- The callbacks of the server make only calls that satisfy `P`. -/
structure CallbacksOnly (P : ServerCall → Prop) (w : World Server) : Prop where
  packet : ∀ callback, w.self.packetCallback = some callback →
    ∀ k packet t, (callback k packet t).Only P
  status : ∀ callback, w.self.connectionStatusChangeCallback = some callback →
    ∀ change t, (callback change t).Only P

/-- Callbacks that treat two connections alike keep their agreement. -/
theorem CallbacksOnly.keep (hparting : MayPartAlike parting a b) {w : World Server}
    (h : CallbacksOnly (Fair a b) w) :
  CallbacksKeep net (Agreeing parting a b t₀) w
  := by
  constructor
  · intro f hf k packet t
    exact Script.moves (perform_agreement hparting) (h.packet f hf k packet t)
  · intro f hf change t
    exact Script.moves (perform_agreement hparting) (h.status f hf change t)

/-- In every run of a server from any state in which two connections are connected, both are sent
the same messages in the same order up to the first closing of one of them, if the callbacks and
the owner send only by broadcasts that except neither. -/
theorem run_agrees (earlier : List ServerStep) (ip : String) (port : UInt32)
    (socket : HSteamListenSocket) (group : HSteamNetPollGroup) {w : World Server}
    (hw : exit (runSteps net earlier) (newServer ip port socket group) = w)
    (ha : connectedAt w.self.connections a) (hb : connectedAt w.self.connections b)
    (hcallbacks : CallbacksOnly (Fair a b) w) {later : List ServerStep}
    (hlater : ∀ s ∈ later, StepOnly (Fair a b) s) :
  ToldTheSame a b w.trace (exit (runSteps net later) w).trace
  := by
  have hcoupled : RegistryCoupled w := by
    rw [← hw]
    exact runSteps_coupled earlier (newServer_coupled ip port socket group)
  have hkeeping : Keeping net (Agreeing _ a b w.trace) w :=
    ⟨hcallbacks.keep mayPartAlike_same, .start hcoupled ha hb⟩
  have hkeeps : Keeps (Keeping net (Agreeing _ a b w.trace)) (runSteps net later) :=
    Moves.forM fun s hs =>
      step_keeps_of_callbacks (J := Agreement _ a b w.trace)
        (fun _ _ _ he h => h.neutral mayPartAlike_same he)
        ((hlater s hs).keeps (perform_agreement mayPartAlike_same))
  exact (hkeeps w hkeeping).2.toldUntil

/-- The callback that announces connections treats all of them alike. -/
theorem announceConnections_fair (change : ConnectionStatusChange) (t : Trace) :
  (announceConnections change t).Only (Fair a b)
  := by
  have hannounce : Fair a b
      (.sendPacketToAllConnectedClients (Packet.ofString "changed") .reliable none) := nofun
  unfold announceConnections
  split
  · exact ⟨trivial, fun _ => ⟨trivial, fun _ => ⟨hannounce, fun _ => trivial⟩⟩⟩
  · split
    · exact ⟨trivial, fun _ => ⟨hannounce, fun _ => trivial⟩⟩
    · exact ⟨hannounce, fun _ => trivial⟩

/-- Two clients join. -/
def twoJoin : List ServerStep :=
  [.setConnectionStatusChangeCallback (some announceConnections), .openConnection,
    .queue ⟨1, .none, .connecting⟩, .queue ⟨2, .none, .connecting⟩, .updateConnection]

/-- Another client comes and leaves again. -/
def anotherVisits : List ServerStep :=
  [.queue ⟨3, .none, .connecting⟩, .updateConnection, .queue ⟨3, .connected, .closedByPeer⟩,
    .updateConnection]

/-- The server when the two clients have joined. -/
def joinedByTwo : World Server :=
  exit (runSteps queueNetworking twoJoin) (newServer "127.0.0.1" 8080 0 0)

/-- While a third client comes and goes, the first two are told the same. -/
theorem anotherVisits_agrees :
  ToldTheSame 1 2 joinedByTwo.trace
      (exit (runSteps queueNetworking anotherVisits) joinedByTwo).trace ∧
    (sendsTo 1 joinedByTwo.trace).length = 2 ∧
      (sendsTo 1 (exit (runSteps queueNetworking anotherVisits) joinedByTwo).trace).length = 4
  := by
  refine ⟨?_, by decide +kernel, by decide +kernel⟩
  have hcallbacks : CallbacksOnly (Fair 1 2) joinedByTwo := by
    constructor
    · intro callback hcallback
      have hnone : joinedByTwo.self.packetCallback = none := rfl
      rw [hnone] at hcallback
      cases hcallback
    · intro callback hcallback change t
      have hannounce :
          joinedByTwo.self.connectionStatusChangeCallback = some announceConnections := rfl
      rw [hannounce, Option.some.injEq] at hcallback
      rw [← hcallback]
      apply announceConnections_fair
  apply run_agrees twoJoin "127.0.0.1" 8080 0 0 rfl (by decide +kernel) (by decide +kernel)
    hcallbacks
  simp [anotherVisits, StepOnly]

end Server

end Chs
