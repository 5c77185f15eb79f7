import ChaosInMultiplayer.Endpoints.Agreement
import ChaosInMultiplayer.Examples.ServerMain

/-!
# Agreement of the clients of the example server

The example server sends a welcome only to a client that has just been registered, and excepts from
a broadcast only this client, or one that it closes next.  So any two clients that are connected are
told the same by its main function, in the same order, up to the first closing of one of them: all
that the other one is told more by then is that the first one leaves.
-/

namespace Chs

namespace ExampleServer

open Program Server ServerScript

variable {net : ISteamNetworkingSockets} {text : BufferText} {rand : Trace → Nat}
  {a b k : HSteamNetConnection} {t₀ : Trace}

/-- The notice that a client leaves. -/
def leaveNotice (name : String) : Sent where
  data := (Packet.ofString (name ++ " has disconnected.")).data
  size := .ofNat (Packet.ofString (name ++ " has disconnected.")).size
  sendType := .reliable

/-- When the connection `c` of the two is closed, both have been sent the same before, or all that
the other one has been sent more is the notice that a client leaves, as the last thing. -/
def ButFarewell (a b c : HSteamNetConnection) (before : Trace) : Prop :=
  sendsTo a before = sendsTo b before ∨
    ∃ name, ∀ k, k = a ∨ k = b → k ≠ c →
      sendsTo k before = sendsTo c before ++ [leaveNotice name]

theorem mayPartAlike_butFarewell :
  MayPartAlike (ButFarewell a b) a b
  := fun _ _ hsame => .inl hsame

/-- Up to the first closing of one of the two connections, both have been sent the same since, but
for the notice that this one leaves. -/
def ToldTheSameButFarewell (a b : HSteamNetConnection) (t t' : Trace) : Prop :=
  ToldUntil (ButFarewell a b) a b t t'

/-- The two connections have been in step since, until they parted as they do here. -/
abbrev Agreed (a b : HSteamNetConnection) (t₀ : Trace) : World Server → Prop :=
  Agreeing (ButFarewell a b) a b t₀

/-! ### Handling another client -/

/-- A call that treats the two connections alike keeps their agreement. -/
theorem call_agreeing {c : ServerCall} (hc : Fair a b c) :
  Ensures (Agreed a b t₀) (perform net c) (fun _ => Agreed a b t₀) fun _ => Agreed a b t₀
  := Ensures.of_keeps (perform_agreement mayPartAlike_butFarewell c hc)

theorem clientConnection_agreeing :
  Ensures (Agreed a b t₀) (perform net (.clientConnection k))
    (fun client w => client.netConnection = k ∧ Agreed a b t₀ w) fun _ => Agreed a b t₀
  := by
  intro w hw
  cases hlookup : w.self.connections.lookup k with
  | none =>
      rw [perform, run_clientConnection_none hlookup]
      apply hw
  | some client =>
      rw [perform, run_clientConnection_some hlookup]
      exact ⟨hw.1.handle k client hlookup, hw⟩

section Another

variable (hk : k ≠ a ∧ k ≠ b)

include hk

/-- A broadcast that excepts another client. -/
theorem except_fair {client : ClientConnection} (hclient : client.netConnection = k)
    (packet : Packet) :
  Fair a b (.sendPacketToAllConnectedClients packet .reliable (some client))
  := by
  intro e he
  rw [Option.mem_some_iff.mp he] at hclient
  rw [hclient]
  apply hk

/-- The welcome of another client keeps the agreement. -/
theorem welcome_agreeing (nick : String) :
  Ensures (Agreed a b t₀) ((welcome k nick).run (perform net)) (fun _ => Agreed a b t₀)
    fun _ => Agreed a b t₀
  := by
  apply call_bind_ensures clientConnection_agreeing
  intro client
  apply Ensures.of_fact
  intro hclient
  have hfair : ∀ packet, Fair a b (.sendPacket packet client .reliable) := by
    intro packet
    rw [Fair, hclient]
    apply hk
  apply call_bind_ensures (call_agreeing (hfair _))
  intro _
  apply call_bind_ensures (call_agreeing (by trivial))
  intro _
  apply call_ensures (call_agreeing (except_fair hk hclient _))

/-- The joining of another client keeps the agreement, whether it is accepted or refused. -/
theorem join_agreeing (nick : String) :
  Ensures (Agreed a b t₀) ((join k nick).run (perform net)) (fun _ => Agreed a b t₀)
    fun _ => Agreed a b t₀
  := by
  have hrefuse : ∀ reason, Ensures (Agreed a b t₀)
      ((call (.closeClientConnection k) >>= fun _ => call (.log .error reason)).run (perform net))
      (fun _ => Agreed a b t₀) fun _ => Agreed a b t₀ := by
    intro reason
    apply call_bind_ensures (call_agreeing (by trivial))
    intro _
    apply call_ensures (call_agreeing (by trivial))
  apply call_bind_ensures (call_agreeing (by trivial))
  intro _
  apply call_bind_ensures (call_agreeing (by trivial))
  intro accepted
  cases accepted with
  | false => apply hrefuse
  | true =>
      apply call_bind_ensures (call_agreeing (by trivial))
      intro group
      apply call_bind_ensures (call_agreeing (by trivial))
      intro grouped
      cases grouped with
      | false => apply hrefuse
      | true => apply welcome_agreeing hk

/-- The connecting event of another client keeps the agreement. -/
theorem onConnecting_another {change : ConnectionStatusChange} (hchange : change.connection = k)
    (nick : String) :
  Ensures (Agreed a b t₀) ((onConnecting nick change).run (perform net))
    (fun _ => Agreed a b t₀) fun _ => Agreed a b t₀
  := by
  subst hchange
  apply call_bind_ensures (call_agreeing (by trivial))
  intro registered
  apply call_bind_ensures (call_agreeing (by trivial))
  intro _
  apply call_bind_ensures (call_agreeing (by trivial))
  intro _
  apply join_agreeing hk

/-- The closing event of another client keeps the agreement. -/
theorem onClosing_another {change : ConnectionStatusChange} (hchange : change.connection = k) :
  Ensures (Agreed a b t₀) ((onClosing change).run (perform net)) (fun _ => Agreed a b t₀)
    fun _ => Agreed a b t₀
  := by
  subst hchange
  apply call_bind_ensures (call_agreeing (by trivial))
  intro registered
  apply call_bind_ensures (call_agreeing (by trivial))
  intro _
  apply call_bind_ensures clientConnection_agreeing
  intro client
  apply Ensures.of_fact
  intro hclient
  rw [Script.run_bind]
  have hfarewell : Ensures (Agreed a b t₀) ((farewell change client).run (perform net))
      (fun _ => Agreed a b t₀) fun _ => Agreed a b t₀ := by
    unfold farewell
    split
    · apply call_bind_ensures (call_agreeing (by trivial))
      intro _
      apply call_ensures (call_agreeing (except_fair hk hclient _))
    · exact Ensures.pure fun _ hw => hw
  apply hfarewell.bind
  intro _
  apply call_ensures (call_agreeing (by trivial))

end Another

/-! ### Handling one of the two -/

/-- Connections that have parted stay so, whatever a script calls. -/
theorem script_parted (s : ServerScript Unit) :
  Keeps (AreParted (ButFarewell a b) a b t₀) (s.run (perform net))
  := Script.moves (fun c _ => perform_parted c) s.only_true

theorem script_coupled (s : ServerScript Unit) :
  Keeps RegistryCoupled (s.run (perform net))
  := by
  have hcall : ∀ c : ServerCall, True → Keeps RegistryCoupled (perform net c) := by
    intro c _ w hw
    have hcoupled := @step_keeps_coupled net (.call c) w hw
    rw [run_step_call] at hcoupled
    apply hcoupled
  exact Script.moves hcall s.only_true

/-- The farewell leaves the two open.  It sends nothing, or one notice to those that are connected
but for the client that leaves. -/
theorem run_farewell (change : ConnectionStatusChange) (client : ClientConnection)
    {w : World Server} (hw : HoldsHandles w.self.connections) :
  ∃ es, ((farewell change client).run (perform net)).run w
      = .ok () { w with trace := es ++ w.trace } ∧ BothOpen a b es ∧
    (es = [] ∨ ∃ name, ∀ k, connectedAt w.self.connections k →
      sendsTo k es = if client.netConnection = k then [] else [leaveNotice name])
  := by
  unfold farewell
  split
  · have hbroadcast := run_broadcast
      (Packet.ofString (client.connectionAlias ++ " has disconnected.")) .reliable (some client)
      { w with trace := .log .info (client.connectionAlias ++ " has disconnected.") :: w.trace }
    rw [sentTo, List.append_cons] at hbroadcast
    simp only [call, Script.run_bind, Script.run_request, perform]
    refine ⟨_, hbroadcast, ?_, .inr ⟨client.connectionAlias, ?_⟩⟩
    · simp [BothOpen, message]
    · intro k hk
      have hlog :
          sendsTo k [.log .info (client.connectionAlias ++ " has disconnected.")] = [] := rfl
      rw [sendsTo_append, hlog, List.nil_append, sendsTo_broadcast hw, hk]
      by_cases hclient : client.netConnection = k
      · simp [hclient]
      · simp [hclient, leaveNotice]
  · exact ⟨[], rfl, ⟨List.not_mem_nil, List.not_mem_nil⟩, .inl rfl⟩

/-- At a closing event, a registered connection is closed after the farewell. -/
theorem onClosing_closes {change : ConnectionStatusChange} {w : World Server}
    (hcoupled : RegistryCoupled w) (hk : change.connection ∈ w.self.connections) :
  ∃ es, (exit ((onClosing change).run (perform net)) w).trace
      = .closeConnection change.connection :: (es ++ w.trace) ∧ BothOpen a b es ∧
    (es = [] ∨ ∃ name, ∀ k, connectedAt w.self.connections k →
      sendsTo k es = if change.connection = k then [] else [leaveNotice name])
  := by
  obtain ⟨client, hlookup⟩ := Option.isSome_iff_exists.mp (AList.lookup_isSome.mpr hk)
  have hhandle := hcoupled.handle _ client hlookup
  obtain ⟨es, hfarewell, hopen, hsends⟩ :=
    @run_farewell net a b change client w hcoupled.handle
  have hrun : ((onClosing change).run (perform net)).run w = .ok ()
      (drop (put { w with trace := es ++ w.trace } change.connection
        (client.close (es ++ w.trace)).1 (client.close (es ++ w.trace)).2) change.connection) := by
    have hclose := @run_closeClientConnection_some change.connection
      { w with trace := es ++ w.trace } client hlookup
    simp [onClosing, call, perform, Script.run_bind, Script.run_request, hk,
      run_clientConnection_some hlookup, hfarewell, hclose]
  refine ⟨es, ?_, hopen, ?_⟩
  · rw [exit_ok hrun, drop, put, ClientConnection.close, hhandle]
  · rw [← hhandle]
    exact hsends

/-- The closing of one of two connections that are in step. -/
theorem onClosing_parts {change : ConnectionStatusChange} {w : World Server}
    (hcoupled : RegistryCoupled w) (hw : InStep a b t₀ w.self.connections w.trace)
    (hone : change.connection = a ∨ change.connection = b) :
  Parted (ButFarewell a b) a b t₀ (exit ((onClosing change).run (perform net)) w).trace
  := by
  have hconnected : ∀ k, k = a ∨ k = b → connectedAt w.self.connections k := by
    rintro k (rfl | rfl)
    · apply hw.first
    · apply hw.second
  obtain ⟨es, hes, hopen, hsends⟩ := @onClosing_closes net a b change w hcoupled
    (mem_of_connectedAt (hconnected _ hone))
  rw [hes, ← List.cons_append]
  apply hw.part ⟨hone, List.suffix_rfl, hopen⟩
  intro es₀ hsame
  rcases hsends with rfl | ⟨name, hsends⟩
  · left
    apply hsame
  · right
    use name
    intro k hk hother
    have hsame₀ : sendsTo k es₀ = sendsTo change.connection es₀ := by
      rcases hk with rfl | rfl <;> rcases hone with hone | hone <;> rw [hone] <;>
        first | rfl | exact hsame | exact hsame.symm
    rw [sendsTo_append, sendsTo_append, hsends k (hconnected k hk), if_neg (Ne.symm hother),
      hsends _ (hconnected _ hone), if_pos rfl, List.append_nil, hsame₀]

/-! ### The callbacks -/

/-- At a connecting event the agreement is kept, as the connection is a new one. -/
theorem onConnecting_agreeing (nick : String) (change : ConnectionStatusChange) :
  Keeps (Agreed a b t₀) ((onConnecting nick change).run (perform net))
  := by
  rintro w ⟨hcoupled, hparted | hinStep⟩
  · exact (script_parted _ w ⟨hcoupled, hparted⟩).agreeing
  · by_cases hk : change.connection ∈ w.self.connections
    · rw [exit_error (run_onConnecting_registered hk)]
      exact ⟨hcoupled, .inr hinStep⟩
    · have hanother : change.connection ≠ a ∧ change.connection ≠ b := by
        constructor
        · rintro rfl
          exact hk (mem_of_connectedAt hinStep.first)
        · rintro rfl
          exact hk (mem_of_connectedAt hinStep.second)
      exact (onConnecting_another hanother rfl nick).exit ⟨hcoupled, .inr hinStep⟩

/-- At a closing event the two connections stay in agreement or part. -/
theorem onClosing_agreeing (change : ConnectionStatusChange) :
  Keeps (Agreed a b t₀) ((onClosing change).run (perform net))
  := by
  rintro w ⟨hcoupled, hparted | hinStep⟩
  · exact (script_parted _ w ⟨hcoupled, hparted⟩).agreeing
  · by_cases hk : change.connection ≠ a ∧ change.connection ≠ b
    · exact (onClosing_another hk rfl).exit ⟨hcoupled, .inr hinStep⟩
    · have hone : change.connection = a ∨ change.connection = b := by
        rw [not_and_or, not_not, not_not] at hk
        apply hk
      exact ⟨script_coupled _ w hcoupled, .inl (onClosing_parts hcoupled hinStep hone)⟩

/-- The status callback keeps the agreement. -/
theorem connectionStatusChangeCallback_agreeing (change : ConnectionStatusChange) (t : Trace) :
  Keeps (Agreed a b t₀) ((connectionStatusChangeCallback rand change t).run (perform net))
  := by
  unfold connectionStatusChangeCallback
  split
  · apply onClosing_agreeing
  · apply onClosing_agreeing
  · apply onConnecting_agreeing
  · exact fun _ hw => hw

/-- The packet callback keeps the agreement. -/
theorem packetCallback_agreeing (c : HSteamNetConnection) (packet : Packet) (t : Trace) :
  Keeps (Agreed a b t₀) ((packetCallback text c packet t).run (perform net))
  := by
  have hlog : Ensures (Agreed a b t₀) ((packetCallback text c packet t).run (perform net))
      (fun _ => Agreed a b t₀) fun _ => Agreed a b t₀ := by
    apply packetCallback_cases (P := fun s =>
      Ensures (Agreed a b t₀) (s.run (perform net)) (fun _ => Agreed a b t₀)
        fun _ => Agreed a b t₀)
    · exact fun _ => call_ensures (call_agreeing trivial)
    · exact call_ensures (call_agreeing trivial)
  exact fun w hw => hlog.exit hw

/-! ### The main function -/

/-- The callbacks that are set are those of the example server. -/
structure OwnCallbacks (text : BufferText) (rand : Trace → Nat) (w : World Server) : Prop where
  packet : ∀ f, w.self.packetCallback = some f → f = packetCallback text
  status : ∀ f, w.self.connectionStatusChangeCallback = some f →
    f = connectionStatusChangeCallback rand

theorem OwnCallbacks.keep {w : World Server} (h : OwnCallbacks text rand w) :
  CallbacksKeep net (Agreed a b t₀) w
  := by
  constructor
  · intro f hf c packet t
    rw [h.packet f hf]
    apply packetCallback_agreeing
  · intro f hf change t
    rw [h.status f hf]
    apply connectionStatusChangeCallback_agreeing

/-- The steps of the main function set the callbacks of the example server, and its call keeps an
agreement. -/
theorem main_keeps_agreeing {point point' : MainPoint} {s : ServerStep} {w : World Server}
    (h : main text rand w point = some (s, point')) :
  StepKeeps net (Agreed a b t₀) s
  := by
  cases point with
  | constructed =>
      cases h
      intro f hf c packet t
      cases hf
      apply packetCallback_agreeing
  | receiving =>
      cases h
      intro f hf change t
      cases hf
      apply connectionStatusChangeCallback_agreeing
  | configured =>
      cases h
      trivial
  | looping =>
      cases hquit : w.self.quitRequested with
      | true =>
          simp only [main, hquit, if_true] at h
          cases h
          exact perform_agreement mayPartAlike_butFarewell _ (by trivial)
      | false =>
          simp only [main, hquit] at h
          cases h
          trivial
  | closed => cases h

/-- The registry is that of what has happened, and the callbacks are those of the example server. -/
def Standing (text : BufferText) (rand : Trace → Nat) (w : World Server) : Prop :=
  RegistryCoupled w ∧ OwnCallbacks text rand w

/-- The steps of the main function set no callbacks but its own. -/
theorem main_keeps_standing {point point' : MainPoint} {s : ServerStep} {w : World Server}
    (h : main text rand w point = some (s, point')) (hw : Standing text rand w) :
  Standing text rand (exit (step net s) w)
  := by
  use step_keeps_coupled s w hw.1
  have hsame : (∀ f, s ≠ .setPacketCallback f) →
      (∀ f, s ≠ .setConnectionStatusChangeCallback f) →
      OwnCallbacks text rand (exit (step net s) w) := by
    intro hpacket hstatus
    obtain ⟨hp, hs⟩ := @step_sameCallbacks net s hpacket hstatus w
    constructor
    · rw [hp]
      apply hw.2.packet
    · rw [hs]
      apply hw.2.status
  cases point with
  | constructed =>
      cases h
      refine ⟨?_, hw.2.status⟩
      intro f hf
      cases hf
      rfl
  | receiving =>
      cases h
      refine ⟨hw.2.packet, ?_⟩
      intro f hf
      cases hf
      rfl
  | configured =>
      cases h
      apply hsame (by simp) (by simp)
  | looping =>
      cases hquit : w.self.quitRequested with
      | true =>
          simp only [main, hquit, if_true] at h
          cases h
          apply hsame (by simp) (by simp)
      | false =>
          simp only [main, hquit] at h
          cases h
          apply hsame (by simp) (by simp)
  | closed => cases h

theorem MainReaches.standing {progress : Progress MainPoint Fault} {w : World Server}
    (h : MainReaches net text rand Outside progress w) :
  Standing text rand w
  := by
  have hcarries : Routine.Carries (step net) (main text rand) (fun _ => Standing text rand)
      fun _ => Standing text rand := by
    rintro point s point' w ⟨hw, hnext⟩
    have hexit := @main_keeps_standing net text rand point point' s w hnext hw
    cases hrun : (step net s).run w with
    | ok a w' =>
        rw [exit_ok hrun] at hexit
        apply hexit
    | error fault w' =>
        rw [exit_error hrun] at hexit
        apply hexit
  have hstable : Routine.Stable (step net) Outside
      fun (_ : MainPoint) => Standing text rand := by
    intro point s w w' hw hs hrun
    have hcoupled := @step_keeps_coupled net s w hw.1
    rw [exit_ok hrun] at hcoupled
    use hcoupled
    obtain ⟨heffects, -, -⟩ := outside_run hs hrun
    obtain ⟨hp, hstatus, -⟩ := heffects.keeps_settings
    constructor
    · rw [hp]
      apply hw.2.packet
    · rw [hstatus]
      apply hw.2.status
  obtain ⟨socket, group, h⟩ := h
  have hnew : Standing text rand (newServer "127.0.0.1" 8080 socket group) :=
    ⟨newServer_coupled _ _ socket group, ⟨nofun, nofun⟩⟩
  have hholds := h.holds hcarries hstable hnew
  cases progress <;> exact hholds

/-- From any point of its run on, whatever happens outside it, the main function sends the same
messages in the same order to any two clients that are connected there, up to the first closing of
one of them, and but for the notice that this one leaves, which the other one may be sent last. -/
theorem main_agrees {point : MainPoint} {progress : Progress MainPoint Fault} {w w' : World Server}
    (hw : MainReaches net text rand Outside (.reached point) w)
    (ha : connectedAt w.self.connections a) (hb : connectedAt w.self.connections b)
    (h : Routine.Reaches (step net) Outside (main text rand) point w progress w') :
  ToldTheSameButFarewell a b w.trace w'.trace
  := by
  have hstanding := hw.standing
  exact (main_keeping (J := Agreement (ButFarewell a b) a b w.trace)
    (fun _ _ _ he hC => hC.neutral mayPartAlike_butFarewell he) main_keeps_agreeing h
    ⟨hstanding.2.keep, .start hstanding.1 ha hb⟩).2.toldUntil

/-- Two clients join. -/
def pairing : List (Option ServerStep) :=
  [none, none, none, some (.queue ⟨1, .none, .connecting⟩), some (.queue ⟨2, .none, .connecting⟩),
    none]

/-- A third client joins and leaves. -/
def thirdComes : List (Option ServerStep) :=
  [some (.queue ⟨3, .none, .connecting⟩), none, some (.queue ⟨3, .connected, .closedByPeer⟩), none]

/-- While a third client comes and goes, the first two are told the same. -/
theorem thirdComes_agrees :
  ∃ w w' : World Server,
    MainReaches queueNetworking (fun _ _ => some "") (fun _ => 7) Outside (.reached .looping) w ∧
      ToldTheSameButFarewell 1 2 w.trace w'.trace ∧
      (sendsTo 1 w'.trace).length = (sendsTo 1 w.trace).length + 2
  := by
  have hfollow : ((Routine.follow (step queueNetworking) Outside
      (main (fun _ _ => some "") fun _ => 7) pairing .constructed
        (newServer "127.0.0.1" 8080 0 0)).any fun r =>
        decide (r.1 = .reached .looping) && (connectedAt r.2.self.connections 1 &&
          (connectedAt r.2.self.connections 2 &&
            (Routine.follow (step queueNetworking) Outside
              (main (fun _ _ => some "") fun _ => 7) thirdComes .looping r.2).any fun r' =>
                decide ((sendsTo 1 r'.2.trace).length = (sendsTo 1 r.2.trace).length + 2)))) := by
    decide +kernel
  obtain ⟨⟨progress, w⟩, hpairing, hfacts⟩ := (Option.any_eq_true _ _).mp hfollow
  simp only [Bool.and_eq_true, decide_eq_true_eq] at hfacts
  obtain ⟨rfl, h1, h2, hcomes⟩ := hfacts
  obtain ⟨⟨progress', w'⟩, hvisits, hlength⟩ := (Option.any_eq_true _ _).mp hcomes
  have hreaches : MainReaches queueNetworking (fun _ _ => some "") (fun _ => 7) Outside
      (.reached .looping) w := ⟨0, 0, .of_follow hpairing⟩
  exact ⟨w, w', hreaches, main_agrees hreaches h1 h2 (.of_follow hvisits),
    of_decide_eq_true hlength⟩

end ExampleServer

end Chs
