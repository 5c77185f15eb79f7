import ChaosInMultiplayer.Examples.ServerMain
import ChaosInMultiplayer.Server.Admission

/-!
# Sends of the example server

Besides its broadcasts, the example server sends a welcome to each new client, which it has just
accepted.  So its main function never sends to a connection that it has not accepted, or that it has
closed.
-/

namespace Chs

namespace ExampleServer

open Program Server ServerScript

variable {net : ISteamNetworkingSockets} {text : BufferText} {rand : Trace → Nat}
  {k : HSteamNetConnection}

/-- The connected clients of the server and the receivers of its messages are admitted. -/
def Admitting (w : World Server) : Prop :=
  Admission w.self.connections w.trace

/-- The server is admitting, and the connection is admitted. -/
def Welcoming (k : HSteamNetConnection) (w : World Server) : Prop :=
  Admitting w ∧ Admitted k w.trace

/-! ### Calls of the status callback -/

/-- A call that does not send to a single client. -/
theorem call_admitting (hnet : net.RefusesClosed) {c : ServerCall} (hc : Broadcasts c) :
  Ensures Admitting (perform net c) (fun _ => Admitting) fun _ => Admitting
  := Ensures.of_keeps (perform_admission hnet c hc)

/-- A connection that has been accepted is admitted. -/
theorem accept_welcoming (hnet : net.RefusesClosed) :
  Ensures Admitting (perform net (.accept k))
    (fun accepted w => Admitting w ∧ (accepted = true → Admitted k w.trace)) fun _ => Admitting
  := by
  intro w hw
  have hkeeps := call_admitting hnet (c := .accept k) nofun w hw
  cases hlookup : w.self.connections.lookup k with
  | none =>
      have hrun : (perform net (.accept k)).run w = .error (.outOfRange "connections") w :=
        run_onClientConnection_none (f := fun client t => client.accept net t) hlookup
      rw [hrun]
      apply hw
  | some client =>
      have hrun : (perform net (.accept k)).run w = .ok (client.accept net w.trace).1
          (put w k (client.accept net w.trace).2.1 (client.accept net w.trace).2.2) :=
        run_onClientConnection_some (f := fun client t => client.accept net t) hlookup
      rw [hrun] at hkeeps ⊢
      use hkeeps
      intro haccepted
      rw [← hw.handles k client hlookup]
      apply accept_admits hnet haccepted

/-- A connection stays admitted at a call that closes nothing. -/
theorem setPollGroup_welcoming (hnet : net.RefusesClosed) (group : HSteamNetPollGroup) :
  Ensures (Welcoming k) (perform net (.setPollGroup k group)) (fun _ => Welcoming k)
    fun _ => Admitting
  := by
  intro w hw
  have hkeeps := call_admitting hnet (c := .setPollGroup k group) nofun w hw.1
  cases hlookup : w.self.connections.lookup k with
  | none =>
      have hrun : (perform net (.setPollGroup k group)).run w
          = .error (.outOfRange "connections") w :=
        run_onClientConnection_none (f := fun client t => client.setPollGroup net group t) hlookup
      rw [hrun]
      apply hw.1
  | some client =>
      have hrun : (perform net (.setPollGroup k group)).run w
          = .ok (client.setPollGroup net group w.trace).1
            (put w k (client.setPollGroup net group w.trace).2.1
              (client.setPollGroup net group w.trace).2.2) :=
        run_onClientConnection_some (f := fun client t => client.setPollGroup net group t) hlookup
      rw [hrun] at hkeeps ⊢
      use hkeeps
      obtain ⟨-, -, ht⟩ := setPollGroup_entry net client group w.trace
      show Admitted k (client.setPollGroup net group w.trace).2.2
      rw [ht]
      apply hw.2.cons
      simp

theorem clientConnection_welcoming :
  Ensures (Welcoming k) (perform net (.clientConnection k))
    (fun client w => client.netConnection = k ∧ Welcoming k w) fun _ => Admitting
  := by
  intro w hw
  cases hlookup : w.self.connections.lookup k with
  | none =>
      rw [perform, run_clientConnection_none hlookup]
      apply hw.1
  | some client =>
      rw [perform, run_clientConnection_some hlookup]
      exact ⟨hw.1.handles k client hlookup, hw⟩

/-- A packet is sent to a client whose connection is admitted. -/
theorem sendPacket_admitting {client : ClientConnection} (hk : client.netConnection = k)
    (packet : Packet) (sendType : SendType) :
  Ensures (Welcoming k) (perform net (.sendPacket packet client sendType)) (fun _ => Admitting)
    fun _ => Admitting
  := by
  apply Ensures.modify
  intro w hw
  apply hw.1.cons
  · simp
  · intro j hsent
    rw [Event.sentTo, decide_eq_true_iff] at hsent
    rw [← hsent, hk]
    apply hw.2

/-! ### The callbacks -/

/-- The welcome and its announcement go to clients that are admitted. -/
theorem welcome_admitting (hnet : net.RefusesClosed) (nick : String) :
  Ensures (Welcoming k) ((welcome k nick).run (perform net)) (fun _ => Admitting) fun _ => Admitting
  := by
  apply call_bind_ensures clientConnection_welcoming
  intro client
  apply Ensures.of_fact
  intro hk
  apply call_bind_ensures (sendPacket_admitting hk _ _)
  intro _
  apply call_bind_ensures (call_admitting hnet (by simp [Broadcasts]))
  intro _
  apply call_ensures (call_admitting hnet (by simp [Broadcasts]))

/-- A refusal sends nothing. -/
theorem refuse_admitting (hnet : net.RefusesClosed) (reason : String) :
  Ensures Admitting
    ((call (.closeClientConnection k) >>= fun _ => call (.log .error reason)).run (perform net))
    (fun _ => Admitting) fun _ => Admitting
  := by
  apply call_bind_ensures (call_admitting hnet (by simp [Broadcasts]))
  intro _
  apply call_ensures (call_admitting hnet (by simp [Broadcasts]))

/-- The client is welcomed only once its connection has been accepted. -/
theorem join_admitting (hnet : net.RefusesClosed) (nick : String) :
  Ensures Admitting ((join k nick).run (perform net)) (fun _ => Admitting) fun _ => Admitting
  := by
  apply call_bind_ensures (call_admitting hnet (by simp [Broadcasts]))
  intro _
  apply call_bind_ensures (accept_welcoming hnet)
  intro accepted
  cases accepted with
  | false => exact (refuse_admitting hnet _).of_pre fun _ hw => hw.1
  | true =>
      have hpollGroup : Ensures (fun w => Admitting w ∧ (true = true → Admitted k w.trace))
          (perform net .pollGroup) (fun _ => Welcoming k) fun _ => Admitting :=
        Ensures.of_run_ok fun w hw => ⟨_, w, rfl, hw.1, hw.2 rfl⟩
      apply call_bind_ensures hpollGroup
      intro group
      apply call_bind_ensures (setPollGroup_welcoming hnet group)
      intro grouped
      cases grouped with
      | false => exact (refuse_admitting hnet _).of_pre fun _ hw => hw.1
      | true => apply welcome_admitting hnet

/-- At a connecting event all messages go to clients that are admitted. -/
theorem onConnecting_admitting (hnet : net.RefusesClosed) (nick : String)
    (change : ConnectionStatusChange) :
  Ensures Admitting ((onConnecting nick change).run (perform net)) (fun _ => Admitting)
    fun _ => Admitting
  := by
  apply call_bind_ensures (call_admitting hnet (by simp [Broadcasts]))
  intro registered
  apply call_bind_ensures (call_admitting hnet (by simp [Broadcasts]))
  intro _
  apply call_bind_ensures (call_admitting hnet (by simp [Broadcasts]))
  intro _
  apply join_admitting hnet

/-- At a closing event all messages go to clients that are admitted. -/
theorem onClosing_admitting (hnet : net.RefusesClosed) (change : ConnectionStatusChange) :
  Ensures Admitting ((onClosing change).run (perform net)) (fun _ => Admitting) fun _ => Admitting
  := by
  apply call_bind_ensures (call_admitting hnet (by simp [Broadcasts]))
  intro registered
  apply call_bind_ensures (call_admitting hnet (by simp [Broadcasts]))
  intro _
  apply call_bind_ensures (call_admitting hnet (by simp [Broadcasts]))
  intro client
  rw [Script.run_bind]
  have hfarewell : Ensures Admitting ((farewell change client).run (perform net))
      (fun _ => Admitting) fun _ => Admitting := by
    unfold farewell
    split
    · apply call_bind_ensures (call_admitting hnet (by simp [Broadcasts]))
      intro _
      apply call_ensures (call_admitting hnet (by simp [Broadcasts]))
    · exact Ensures.pure fun _ hw => hw
  apply hfarewell.bind
  intro _
  apply call_ensures (call_admitting hnet (by simp [Broadcasts]))

/-- The status callback sends only to clients that are admitted. -/
theorem connectionStatusChangeCallback_admitting (hnet : net.RefusesClosed)
    (change : ConnectionStatusChange) (t : Trace) :
  Ensures Admitting ((connectionStatusChangeCallback rand change t).run (perform net))
    (fun _ => Admitting) fun _ => Admitting
  := by
  unfold connectionStatusChangeCallback
  split
  · apply onClosing_admitting hnet
  · apply onClosing_admitting hnet
  · apply onConnecting_admitting hnet
  · exact Ensures.pure fun _ hw => hw

/-! ### The main function -/

/-- The steps of the main function set callbacks that keep the server admitting. -/
theorem main_keeps_admitting (hnet : net.RefusesClosed) {point point' : MainPoint} {s : ServerStep}
    {w : World Server} (h : main text rand w point = some (s, point')) :
  StepKeeps net Admitting s
  := by
  cases point with
  | constructed =>
      cases h
      intro callback hcallback k packet t
      cases hcallback
      have hlog : Ensures Admitting ((packetCallback text k packet t).run (perform net))
          (fun _ => Admitting) fun _ => Admitting := by
        apply packetCallback_cases (P := fun s =>
          Ensures Admitting (s.run (perform net)) (fun _ => Admitting) fun _ => Admitting)
        · exact fun _ => call_ensures (call_admitting hnet (by simp [Broadcasts]))
        · exact call_ensures (call_admitting hnet (by simp [Broadcasts]))
      exact fun w hw => hlog.exit hw
  | receiving =>
      cases h
      intro callback hcallback change t
      cases hcallback
      exact fun w hw => (connectionStatusChangeCallback_admitting hnet change t).exit hw
  | configured =>
      cases h
      trivial
  | looping =>
      cases hquit : w.self.quitRequested with
      | true =>
          simp only [main, hquit, if_true] at h
          cases h
          exact perform_admission hnet _ (by simp)
      | false =>
          simp only [main, hquit] at h
          cases h
          trivial
  | closed => cases h

/-- The main function sends each message to a connection that it has accepted and has not closed,
whatever happens outside it, up to its return or its failure. -/
theorem main_sends_admitted (hnet : net.RefusesClosed) {progress : Progress MainPoint Fault}
    {w : World Server} (h : MainReaches net text rand Outside progress w) :
  History.Each SendsAdmitted w.trace
  := by
  obtain ⟨socket, group, h⟩ := h
  have hnew : Keeping net Admitting (newServer "127.0.0.1" 8080 socket group) :=
    ⟨⟨fun _ hcallback => (by cases hcallback), fun _ hcallback => (by cases hcallback)⟩, .empty⟩
  exact (main_keeping (J := Admission) (fun _ _ _ he hC => hC.neutral he)
    (main_keeps_admitting hnet) h hnew).2.sends

/-- A client joins and leaves. -/
theorem chatting_sends_admitted :
  ∃ progress w, MainReaches queueNetworking (fun _ _ => some "") (fun _ => 7) Outside progress w ∧
    History.Each SendsAdmitted w.trace
  := by
  have hfollow : (Routine.follow (step queueNetworking) Outside
      (main (fun _ _ => some "") fun _ => 7) chatting .constructed
        (newServer "127.0.0.1" 8080 0 0)).map Prod.fst = some (.reached .looping) := by
    decide +kernel
  obtain ⟨w, hreaches⟩ := MainReaches.of_follow hfollow
  exact ⟨_, w, hreaches, main_sends_admitted queueNetworking_refusesClosed hreaches⟩

end ExampleServer

end Chs
