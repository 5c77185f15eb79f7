import ChaosInMultiplayer.Server.Broadcast
import ChaosInMultiplayer.Server.Callbacks

/-!
# Sends to admitted connections

A connection is admitted once it has been accepted and until it is closed.  The entry of the
registry is connected only for such a connection, so a server that sends only by broadcasts sends
nothing to a connection that has not been accepted, or that has been closed.
-/

namespace Chs

/-- The connection has been accepted and has not been closed. -/
def Admitted (connection : HSteamNetConnection) (t : Trace) : Prop :=
  .acceptConnection connection true ∈ t ∧ .closeConnection connection ∉ t

/-- The event sends only to a connection that is admitted at its time. -/
def SendsAdmitted (e : Event) (t : Trace) : Prop :=
  ∀ connection, e.sentTo connection → Admitted connection t

/-- A connection stays admitted until it is closed. -/
theorem Admitted.cons {k : HSteamNetConnection} {t : Trace} (h : Admitted k t) {e : Event}
    (he : e ≠ .closeConnection k) :
  Admitted k (e :: t)
  := by
  use List.mem_cons_of_mem e h.1
  rw [List.mem_cons, not_or]
  exact ⟨he.symm, h.2⟩

theorem sendsAdmitted_of_not_sent {e : Event} (h : ∀ k, e.sentTo k = false) (t : Trace) :
  SendsAdmitted e t
  := by
  intro k hsent
  rw [h k] at hsent
  cases hsent

namespace Server

open Program

variable {net : ISteamNetworkingSockets}

/-- The entries of the registry hold their handles, those that are connected belong to admitted
connections, and each send was to an admitted connection. -/
structure Admission (C : ClientConnections) (t : Trace) : Prop where
  handles : HoldsHandles C
  connected : ∀ k client, C.lookup k = some client → client.connected → Admitted k t
  sends : History.Each SendsAdmitted t

namespace Admission

variable {C : ClientConnections} {t : Trace} {k : HSteamNetConnection} {client : ClientConnection}

theorem empty :
  Admission ∅ []
  where
  handles k client h := by cases h
  connected k client h := by cases h
  sends := trivial

/-- An event that closes nothing and sends only to an admitted connection. -/
theorem cons (h : Admission C t) {e : Event} (hcloses : ∀ k, e ≠ .closeConnection k)
    (hsends : SendsAdmitted e t) :
  Admission C (e :: t)
  where
  handles := h.handles
  connected j c hj hc := (h.connected j c hj hc).cons (hcloses j)
  sends := ⟨hsends, h.sends⟩

/-- Events about other things leave the admission alone. -/
theorem neutral (h : Admission C t) {e : Event} (he : e.neutral) :
  Admission C (e :: t)
  := by
  apply h.cons
  · rintro k rfl
    cases he
  · apply sendsAdmitted_of_not_sent
    intro k
    cases e <;> first | rfl | cases he

/-- The entry of a connection is set, to a connected one only if the connection is admitted. -/
theorem insert (h : Admission C t) (client : ClientConnection)
    (hhandle : client.netConnection = k) (hconnected : client.connected → Admitted k t) :
  Admission (C.insert k client) t
  where
  handles j c hj := by
    by_cases hjk : j = k
    · subst hjk
      rw [AList.lookup_insert, Option.some.injEq] at hj
      subst hj
      apply hhandle
    · rw [AList.lookup_insert_ne hjk] at hj
      apply h.handles j c hj
  connected j c hj hc := by
    by_cases hjk : j = k
    · subst hjk
      rw [AList.lookup_insert, Option.some.injEq] at hj
      subst hj
      apply hconnected hc
    · rw [AList.lookup_insert_ne hjk] at hj
      apply h.connected j c hj hc
  sends := h.sends

theorem erase (h : Admission C t) (k : HSteamNetConnection) :
  Admission (C.erase k) t
  where
  handles j c hj := by
    by_cases hjk : j = k
    · subst hjk
      rw [AList.lookup_erase] at hj
      cases hj
    · rw [AList.lookup_erase_ne hjk] at hj
      apply h.handles j c hj
  connected j c hj hc := by
    by_cases hjk : j = k
    · subst hjk
      rw [AList.lookup_erase] at hj
      cases hj
    · rw [AList.lookup_erase_ne hjk] at hj
      apply h.connected j c hj hc
  sends := h.sends

/-- The connection is closed, and its entry with it. -/
theorem close (h : Admission C t) (hk : C.lookup k = some client) :
  Admission (C.insert k (client.close t).1) (client.close t).2
  := by
  have hhandle := h.handles k client hk
  constructor
  · apply (h.insert (client.close t).1 hhandle _).handles
    intro hc
    cases hc
  · intro j c hj hc
    by_cases hjk : j = k
    · subst hjk
      rw [AList.lookup_insert, Option.some.injEq] at hj
      subst hj
      cases hc
    · rw [AList.lookup_insert_ne hjk] at hj
      apply (h.connected j c hj hc).cons
      rw [hhandle]
      simp [Ne.symm hjk]
  · exact ⟨sendsAdmitted_of_not_sent (fun _ => rfl) t, h.sends⟩

/-- Events that send nothing may happen once the registry is empty. -/
theorem shutdown {w : World Server} (h : Admission w.self.connections w.trace) :
  Admission (shutdown w).self.connections (shutdown w).trace
  where
  handles k client hk := by cases hk
  connected k client hk := by cases hk
  sends := by
    have hlog : History.Each SendsAdmitted (.log .info "Closing connections..." :: w.trace) :=
      ⟨sendsAdmitted_of_not_sent (fun _ => rfl) _, h.sends⟩
    refine ⟨sendsAdmitted_of_not_sent (fun _ => rfl) _,
      sendsAdmitted_of_not_sent (fun _ => rfl) _, ?_⟩
    apply History.Each.append _ hlog
    intro e he
    obtain ⟨entry, -, rfl⟩ := mem_closings.mp he
    exact sendsAdmitted_of_not_sent fun _ => rfl

/-- A packet is sent to admitted connections, one after another. -/
theorem sentTo {w : World Server} (h : Admission w.self.connections w.trace) (packet : Packet)
    (sendType : SendType) {clients : List ClientConnection}
    (hclients : ∀ client ∈ clients, Admitted client.netConnection w.trace) :
  Admission w.self.connections (sentTo packet sendType clients w).trace
  := by
  induction clients generalizing w with
  | nil => apply h
  | cons client clients ih =>
      have hsent : SendsAdmitted (message packet sendType client) w.trace := by
        intro k hk
        rw [message, Event.sentTo, decide_eq_true_iff] at hk
        rw [← hk]
        apply hclients client List.mem_cons_self
      rw [← List.singleton_append, sentTo_append]
      apply ih (w := Server.sentTo packet sendType [client] w)
      · exact h.cons (by simp [message]) hsent
      · intro other hother
        apply (hclients other (List.mem_cons_of_mem _ hother)).cons
        simp [message]

end Admission

/-! ### Calls -/

/-- An operation on an entry keeps the admission if it keeps that of the entry. -/
theorem onClientConnection_admission {α : Type} (k : HSteamNetConnection)
    (f : ClientConnection → Trace → α × ClientConnection × Trace)
    (hf : ∀ {C : ClientConnections} {client t}, Admission C t → C.lookup k = some client →
      Admission (C.insert k (f client t).2.1) (f client t).2.2) :
  Keeps (fun w => Admission w.self.connections w.trace) (onClientConnection k f)
  := by
  intro w hw
  cases hlookup : w.self.connections.lookup k with
  | none =>
      rw [exit_error (run_onClientConnection_none hlookup)]
      apply hw
  | some client =>
      rw [exit_ok (run_onClientConnection_some hlookup)]
      apply hf hw hlookup

/-- The networking library refuses to accept a connection that has been closed, so a connection it
accepts is admitted. -/
theorem accept_admits (hnet : net.RefusesClosed) {client : ClientConnection} {t : Trace}
    (h : (client.accept net t).1 = true) :
  Admitted client.netConnection (client.accept net t).2.2
  := by
  unfold ClientConnection.accept at h ⊢
  split at h
  · rename_i haccept
    rw [if_pos haccept]
    use List.mem_cons_self
    rw [List.mem_cons, not_or]
    refine ⟨by simp, ?_⟩
    intro hclosed
    rw [(hnet t _ hclosed).1] at haccept
    cases haccept
  · cases h

/-- An accepted connection is not closed, so its entry may be connected. -/
theorem accept_admission (hnet : net.RefusesClosed) (k : HSteamNetConnection) :
  Keeps (fun w => Admission w.self.connections w.trace) (accept net k)
  := by
  apply onClientConnection_admission k (fun client t => client.accept net t)
  intro C client t h hk
  have hhandle := h.handles k client hk
  obtain ⟨hsame, -, ok, ht⟩ := accept_entry net client t
  have hnext : Admission C (client.accept net t).2.2 := by
    rw [ht]
    exact h.cons (by simp) (sendsAdmitted_of_not_sent (fun _ => rfl) t)
  apply hnext.insert _ (hsame.trans hhandle)
  intro hconnected
  cases haccept : (client.accept net t).1 with
  | true =>
      rw [← hhandle]
      apply accept_admits hnet haccept
  | false =>
      have hclient : (client.accept net t).2.1 = client := by
        unfold ClientConnection.accept at haccept ⊢
        split at haccept
        · cases haccept
        · rename_i hrefused
          rw [if_neg hrefused]
      rw [hclient] at hconnected
      apply hnext.connected k client hk hconnected

/-- Every call but the sending to a client keeps sends to admitted connections. -/
theorem perform_admission (hnet : net.RefusesClosed) (c : ServerCall)
    (hc : ∀ packet client sendType, c ≠ .sendPacket packet client sendType) :
  Keeps (fun w => Admission w.self.connections w.trace) (perform net c)
  := by
  cases c with
  | sendPacket packet client sendType => exact absurd rfl (hc packet client sendType)
  | createClientConnection k =>
      intro w hw
      by_cases hk : k ∈ w.self.connections
      · rw [perform, exit_ok (run_createClientConnection_of_mem hk)]
        apply hw
      · rw [perform, exit_ok (run_createClientConnection_of_notMem hk)]
        have hnext := hw.cons (e := .registered k) (by simp)
          (sendsAdmitted_of_not_sent (fun _ => rfl) _)
        apply hnext.insert (.construct k) rfl
        intro hconnected
        cases hconnected
  | closeClientConnection k =>
      intro w hw
      cases hlookup : w.self.connections.lookup k with
      | none =>
          rw [perform, exit_error (run_closeClientConnection_none hlookup)]
          apply hw
      | some client =>
          rw [perform, exit_ok (run_closeClientConnection_some hlookup)]
          apply (hw.close hlookup).erase k
  | removeClientConnection k =>
      intro w hw
      cases hlookup : w.self.connections.lookup k with
      | none =>
          rw [perform, exit_error (run_removeClientConnection_none hlookup)]
          apply hw
      | some client =>
          cases hclosed : client.closed with
          | true =>
              rw [perform, exit_ok (run_removeClientConnection_closed hlookup hclosed)]
              apply hw.erase k
          | false =>
              rw [perform, exit_error (run_removeClientConnection_not_closed hlookup hclosed)]
              apply hw
  | closeConnection =>
      intro w hw
      rw [perform, exit_ok (run_closeConnection w)]
      apply hw.shutdown
  | connectionExists k => exact fun _ hw => hw
  | clientConnection k =>
      intro w hw
      cases hlookup : w.self.connections.lookup k with
      | none =>
          rw [perform, exit_error (run_clientConnection_none hlookup)]
          apply hw
      | some client =>
          rw [perform, exit_ok (run_clientConnection_some hlookup)]
          apply hw
  | accept k => apply accept_admission hnet
  | setPollGroup k g =>
      apply onClientConnection_admission k (fun client t => client.setPollGroup net g t)
      intro C client t h hk
      obtain ⟨hsame, -, ht⟩ := setPollGroup_entry net client g t
      have hnext : Admission C (client.setPollGroup net g t).2.2 := by
        rw [ht]
        exact h.cons (by simp) (sendsAdmitted_of_not_sent (fun _ => rfl) t)
      apply hnext.insert _ (hsame.trans (h.handles k client hk))
      intro hconnected
      apply hnext.connected k client hk
      revert hconnected
      unfold ClientConnection.setPollGroup
      split <;> exact id
  | setAlias k value =>
      apply onClientConnection_admission k (fun client t => ((), client.setAlias value, t))
      intro C client t h hk
      exact h.insert _ (h.handles k client hk) fun hconnected => h.connected k client hk hconnected
  | close k =>
      apply onClientConnection_admission k
        (fun client t => ((), (client.close t).1, (client.close t).2))
      intro C client t h hk
      apply h.close hk
  | pollGroup => exact fun _ hw => hw
  | sendPacketToAllConnectedClients packet sendType except =>
      intro w hw
      rw [perform, exit_ok (run_broadcast packet sendType except w)]
      apply hw.sentTo
      intro client hclient
      have hrecipient := (mem_recipients hw.handles).mp hclient
      apply hw.connected _ client hrecipient.registered hrecipient.connected
  | log level text =>
      exact fun _ hw => hw.cons (by simp) (sendsAdmitted_of_not_sent (fun _ => rfl) _)
  | assertThat condition text => cases condition <;> exact fun _ hw => hw
  | raise => exact fun _ hw => hw
  | readOutside => exact fun _ hw => hw

/-! ### Runs -/

/-- The call does not send to a single client. -/
def Broadcasts (c : ServerCall) : Prop :=
  ∀ packet client sendType, c ≠ .sendPacket packet client sendType

/-- In every run of a server whose callbacks and owner send only by broadcasts, each message is sent
to a connection that has been accepted and has not been closed at that time. -/
theorem run_sends_admitted (hnet : net.RefusesClosed) {steps : List ServerStep}
    (hsteps : ∀ s ∈ steps, StepOnly Broadcasts s) (ip : String) (port : UInt32)
    (socket : HSteamListenSocket) (group : HSteamNetPollGroup) :
  History.Each SendsAdmitted
    (exit (runSteps net steps) (newServer ip port socket group)).trace
  := (runSteps_keeps_of_calls (J := Admission) (fun _ _ _ he h => h.neutral he)
      (perform_admission hnet) hsteps ip port socket group .empty).sends

/-- A status callback that accepts every connection when it begins to connect and removes it when it
has ended, and that tells the others each time. -/
def announceConnections : ConnectionStatusChangeCallback := fun change _ => do
  if change.currentStatus = .connecting then
    Script.request (ServerCall.createClientConnection change.connection)
    let _ ← Script.request (ServerCall.accept change.connection)
  else if change.currentStatus = .closedByPeer then
    Script.request (ServerCall.closeClientConnection change.connection)
  Script.request
    (ServerCall.sendPacketToAllConnectedClients (Packet.ofString "changed") .reliable none)

/-- The callback that announces connections sends only broadcasts. -/
theorem announceConnections_broadcasts (change : ConnectionStatusChange) (t : Trace) :
  (announceConnections change t).Only Broadcasts
  := by
  unfold announceConnections
  split
  · exact ⟨nofun, fun _ => ⟨nofun, fun _ => ⟨nofun, fun _ => trivial⟩⟩⟩
  · split
    · exact ⟨nofun, fun _ => ⟨nofun, fun _ => trivial⟩⟩
    · exact ⟨nofun, fun _ => trivial⟩

/-- A client joins, another one leaves before it has been accepted, and the first one leaves. -/
def announcedConnections : List ServerStep :=
  [.setConnectionStatusChangeCallback (some announceConnections), .openConnection,
    .queue ⟨1, .none, .connecting⟩, .updateConnection, .queue ⟨2, .none, .connecting⟩,
    .queue ⟨2, .connecting, .closedByPeer⟩, .updateConnection,
    .queue ⟨1, .connected, .closedByPeer⟩, .updateConnection]

/-- Three broadcasts to a client, all while it is admitted. -/
theorem announcedConnections_admitted :
  History.Each SendsAdmitted (exit (runSteps queueNetworking announcedConnections)
      (newServer "127.0.0.1" 8080 0 0)).trace ∧
    (exit (runSteps queueNetworking announcedConnections)
      (newServer "127.0.0.1" 8080 0 0)).trace.countP (Event.sentTo 1) = 3
  := by
  constructor
  · apply run_sends_admitted queueNetworking_refusesClosed
    simp [announcedConnections, StepOnly, announceConnections_broadcasts]
  · decide +kernel

end Server

end Chs
