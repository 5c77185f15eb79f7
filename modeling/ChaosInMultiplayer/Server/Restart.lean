import ChaosInMultiplayer.Common.QueueNetworking
import ChaosInMultiplayer.Server.Receive

/-!
# Opening a server again

The flags of a server along its runs.  It is running exactly if its latest opening has succeeded and
it has not been closed since, and it has been asked to quit exactly if it has been closed or has
read `/quit` before: `openConnection` leaves `quit_requested` as it is.
-/

namespace Chs

/-- The number of times a server has been closed.  Only its closing releases the listening
socket. -/
def timesClosed : Trace → Nat
  | [] => 0
  | .closeListenSocket _ :: t => timesClosed t + 1
  | _ :: t => timesClosed t

/-- Only the closing of a listening socket is counted. -/
theorem timesClosed_append {es : List Event}
    (hes : ∀ e ∈ es, ∀ socket, e ≠ .closeListenSocket socket) (t : Trace) :
  timesClosed (es ++ t) = timesClosed t
  := by
  induction es with
  | nil => rfl
  | cons e es ih =>
      have hrest := ih fun e' he' => hes e' (List.mem_cons_of_mem e he')
      cases e with
      | closeListenSocket socket => exact absurd rfl (hes _ List.mem_cons_self socket)
      | _ => exact hrest

namespace Server

open Program

variable {net : ISteamNetworkingSockets}

theorem timesClosed_shutdown (w : World Server) :
  timesClosed (shutdown w).trace = timesClosed w.trace + 1
  := by
  have hclosings : timesClosed (closings w.self.connections.entries ++
      .log .info "Closing connections..." :: w.trace) = timesClosed w.trace := by
    apply timesClosed_append
    rintro e he socket rfl
    obtain ⟨entry, -, h⟩ := mem_closings.mp he
    cases h
  exact congrArg (· + 1) hclosings

/-! ### Calls -/

/-- While the input is not read, a server keeps its flags and its poll group, unless it is closed;
then it has been asked to quit. -/
structure KeepsFlags (w w' : World Server) : Prop where
  le : timesClosed w.trace ≤ timesClosed w'.trace
  same : timesClosed w'.trace = timesClosed w.trace →
    w'.self.running = w.self.running ∧ w'.self.quitRequested = w.self.quitRequested
  quit : timesClosed w.trace < timesClosed w'.trace → w'.self.quitRequested = true
  group : timesClosed w'.trace = timesClosed w.trace → w'.self.pollGroup = w.self.pollGroup
  input : w'.self.inputQueue = w.self.inputQueue

instance : Std.Refl KeepsFlags where
  refl _ :=
    ⟨Nat.le_refl _, fun _ => ⟨rfl, rfl⟩, fun h => absurd h (Nat.lt_irrefl _), fun _ => rfl, rfl⟩

instance : IsTrans (World Server) KeepsFlags where
  trans w w' w'' h h' := by
    have hle := h.le
    have hle' := h'.le
    constructor
    · omega
    · intro heq
      obtain ⟨hrunning, hquit⟩ := h.same (by omega)
      obtain ⟨hrunning', hquit'⟩ := h'.same (by omega)
      exact ⟨hrunning'.trans hrunning, hquit'.trans hquit⟩
    · intro hlt
      by_cases hlater : timesClosed w'.trace < timesClosed w''.trace
      · apply h'.quit hlater
      · obtain ⟨-, hquit'⟩ := h'.same (by omega)
        rw [hquit']
        apply h.quit (by omega)
    · intro heq
      exact (h'.group (by omega)).trans (h.group (by omega))
    · exact h'.input.trans h.input

/-- A server that keeps its flags is asked to quit exactly by being closed. -/
theorem KeepsFlags.quit_iff {w w' : World Server} (h : KeepsFlags w w') :
  w'.self.quitRequested = true
    ↔ w.self.quitRequested = true ∨ timesClosed w.trace < timesClosed w'.trace
  := by
  rcases Nat.lt_or_eq_of_le h.le with hlt | heq
  · simp [h.quit hlt, hlt]
  · rw [(h.same heq.symm).2]
    simp [heq]

/-- Nothing that the flags depend on has changed. -/
theorem keepsFlags_of_same {w w' : World Server}
    (htrace : timesClosed w'.trace = timesClosed w.trace)
    (hrunning : w'.self.running = w.self.running)
    (hquit : w'.self.quitRequested = w.self.quitRequested)
    (hgroup : w'.self.pollGroup = w.self.pollGroup)
    (hinput : w'.self.inputQueue = w.self.inputQueue) :
  KeepsFlags w w'
  := by
  refine ⟨?_, fun _ => ⟨hrunning, hquit⟩, ?_, fun _ => hgroup, hinput⟩
  · rw [htrace]
  · intro hlt
    omega

theorem emit_keepsFlags {e : Event} (he : ∀ socket, e ≠ .closeListenSocket socket) :
  Moves KeepsFlags (emit e : ServerM Unit)
  := by
  intro w
  have htrace : timesClosed ([e] ++ w.trace) = timesClosed w.trace := by
    apply timesClosed_append
    simpa using he
  exact keepsFlags_of_same htrace rfl rfl rfl rfl

/-- The two worlds differ in the registry and the trace only. -/
def SameButRegistry (w w' : World Server) : Prop :=
  ∃ C, w'.self = { w.self with connections := C }

instance : Std.Refl SameButRegistry where
  refl w := ⟨w.self.connections, rfl⟩

instance : IsTrans (World Server) SameButRegistry where
  trans _ _ _ := by
    rintro ⟨C, h⟩ ⟨C', h'⟩
    use C'
    rw [h', h]

/-- An operation on an entry changes the registry only. -/
theorem onClientConnection_sameButRegistry {α : Type} (k : HSteamNetConnection)
    (f : ClientConnection → Trace → α × ClientConnection × Trace) :
  Moves SameButRegistry (onClientConnection k f)
  := by
  intro w
  cases h : w.self.connections.lookup k with
  | some client =>
      rw [exit_ok (run_onClientConnection_some h)]
      exact ⟨_, rfl⟩
  | none =>
      rw [exit_error (run_onClientConnection_none h)]
      apply Std.Refl.refl

/-- A removal changes the registry only. -/
theorem removeClientConnection_sameButRegistry (k : HSteamNetConnection) :
  Moves SameButRegistry (removeClientConnection k)
  := by
  intro w
  cases h : w.self.connections.lookup k with
  | some client =>
      cases hc : client.closed with
      | true =>
          rw [exit_ok (run_removeClientConnection_closed h hc)]
          exact ⟨_, rfl⟩
      | false =>
          rw [exit_error (run_removeClientConnection_not_closed h hc)]
          apply Std.Refl.refl
  | none =>
      rw [exit_error (run_removeClientConnection_none h)]
      apply Std.Refl.refl

/-- A call that does not close the server changes nothing but its registry. -/
theorem perform_sameButRegistry (c : ServerCall) (hc : c ≠ .closeConnection) :
  Moves SameButRegistry (perform net c)
  := by
  have hidle : ∀ w w', SameServer w w' → SameButRegistry w w' :=
    fun w w' h => ⟨w.self.connections, h⟩
  cases c with
  | createClientConnection k =>
      intro w
      by_cases h : k ∈ w.self.connections
      · rw [perform, exit_ok (run_createClientConnection_of_mem h)]
        apply Std.Refl.refl
      · rw [perform, exit_ok (run_createClientConnection_of_notMem h)]
        exact ⟨_, rfl⟩
  | removeClientConnection k => exact removeClientConnection_sameButRegistry k
  | closeClientConnection k =>
      apply Moves.bind
      · exact onClientConnection_sameButRegistry k fun client t => ((), client.close t)
      · intro _
        apply removeClientConnection_sameButRegistry
  | accept k => exact onClientConnection_sameButRegistry k fun client t => client.accept net t
  | setPollGroup k group =>
      exact onClientConnection_sameButRegistry k fun client t => client.setPollGroup net group t
  | setAlias k value =>
      exact onClientConnection_sameButRegistry k fun client t => ((), client.setAlias value, t)
  | close k => exact onClientConnection_sameButRegistry k fun client t => ((), client.close t)
  | _ => exact (perform_idle _ rfl hc).mono hidle

/-- Whatever a callback calls, the server keeps its flags, or is closed. -/
theorem perform_keepsFlags (c : ServerCall) :
  Moves KeepsFlags (perform net c)
  := by
  intro w
  by_cases hc : c = .closeConnection
  · subst hc
    rw [perform, exit_ok (run_closeConnection w)]
    have htrace := timesClosed_shutdown w
    constructor
    · omega
    · intro heq
      omega
    · intro _
      rfl
    · intro heq
      omega
    · rfl
  · have heffects : Effects net ⟨False, True, fun _ => false⟩ w (exit (perform net c) w) :=
      perform_moves c ⟨fun h => absurd h hc, fun _ => trivial⟩ w
    obtain ⟨es, hes, hmay⟩ := heffects.goesOnBy
    obtain ⟨C, hself⟩ := perform_sameButRegistry c hc w
    have htrace : timesClosed (exit (perform net c) w).trace = timesClosed w.trace := by
      rw [hes]
      apply timesClosed_append
      rintro e he socket rfl
      apply hmay _ he
    apply keepsFlags_of_same htrace <;> rw [hself]

/-- A script keeps the flags unless it closes the server. -/
theorem script_keepsFlags (s : ServerScript Unit) :
  Moves KeepsFlags (s.run (perform net))
  := Script.moves (fun c _ => perform_keepsFlags c) s.only_true

/-! ### Updates -/

/-- The packet callback keeps the flags unless it closes the server. -/
theorem callPacketCallback_keepsFlags (k : HSteamNetConnection) (packet : Packet) :
  Moves KeepsFlags (callPacketCallback net k packet)
  := by
  apply Moves.get_bind
  intro w
  cases w.self.packetCallback with
  | none => apply Moves.throw
  | some callback =>
      apply Moves.bind (emit_keepsFlags (by simp))
      intro _
      apply Moves.get_bind
      intro w'
      apply Moves.bind (script_keepsFlags _)
      intro _
      apply emit_keepsFlags (by simp)

/-- Receiving a message keeps the flags unless the callback closes the server. -/
theorem receivePacket_keepsFlags :
  Moves KeepsFlags (receivePacket net)
  := by
  apply receivePacket_moves_of
  · intro e he
    apply emit_keepsFlags
    rintro socket rfl
    cases he
  · apply callPacketCallback_keepsFlags

/-- The receive loop keeps the flags unless the callback closes the server. -/
theorem processPendingPackets_keepsFlags :
  Moves KeepsFlags (processPendingPackets net)
  := processPendingPackets_moves_of receivePacket_keepsFlags

/-- Dispatching a status event keeps the flags unless the callback closes the server. -/
theorem onSteamNetConnectionStatusChanged_keepsFlags (info : StatusInfo) :
  Moves KeepsFlags (onSteamNetConnectionStatusChanged net info)
  := by
  have hstatus : ∀ state, Moves KeepsFlags (connectionStatusAt state) := by
    intro state
    cases state <;> exact fun w => Std.Refl.refl w
  apply Moves.get_bind
  intro w
  cases w.self.connectionStatusChangeCallback with
  | none =>
      apply Moves.bind (emit_keepsFlags (by simp))
      intro _
      apply Moves.throw
  | some callback =>
      apply Moves.bind (hstatus _)
      intro oldStatus
      apply Moves.bind (hstatus _)
      intro currentStatus
      apply Moves.bind (emit_keepsFlags (by simp))
      intro _
      apply Moves.get_bind
      intro w'
      apply script_keepsFlags

/-- Dispatching the status events keeps the flags unless the callback closes the server. -/
theorem processConnectionStateChanges_keepsFlags :
  Moves KeepsFlags (processConnectionStateChanges net)
  := by
  apply Moves.get_bind
  intro w
  apply Moves.bind (emit_keepsFlags (by simp))
  intro _
  apply Moves.forM
  intro info _
  apply onSteamNetConnectionStatusChanged_keepsFlags

/-- Reading the lines asks the server to quit exactly if one of them is `/quit`. -/
theorem run_processUserInputLines (lines : List String) (w : World Server) :
  ∃ w', (processUserInputLines lines).run w = .ok () w' ∧
    timesClosed w'.trace = timesClosed w.trace ∧ w'.self.running = w.self.running ∧
    (w'.self.quitRequested = true ↔ w.self.quitRequested = true ∨ "/quit" ∈ lines)
  := by
  induction lines generalizing w with
  | nil =>
      use w, rfl, rfl, rfl
      simp
  | cons input rest ih =>
      by_cases hquit : input = "/quit"
      · subst hquit
        refine ⟨_, rfl, rfl, rfl, ?_⟩
        simp
      · obtain ⟨w', hrun, htrace, hrunning, hiff⟩ := ih
          { self := { w.self with inputQueue := rest }
            trace := .log .error "The server only knows one command: '/quit'" :: w.trace }
        use w'
        refine ⟨?_, htrace, hrunning, ?_⟩
        · rw [← hrun]
          simp [processUserInputLines, hquit]
        · rw [hiff, List.mem_cons, or_iff_right (Ne.symm hquit)]

/-- Reading the input asks the server to quit exactly if there is a `/quit`. -/
theorem run_processUserInput (w : World Server) :
  ∃ w', processUserInput.run w = .ok () w' ∧
    timesClosed w'.trace = timesClosed w.trace ∧ w'.self.running = w.self.running ∧
    (w'.self.quitRequested = true ↔ w.self.quitRequested = true ∨ "/quit" ∈ w.self.inputQueue)
  := run_processUserInputLines w.self.inputQueue w

/-- The part of an update of a server that does not ignore it. -/
def processAll (net : ISteamNetworkingSockets) : ServerM Unit := do
  processPendingPackets net
  processConnectionStateChanges net
  processUserInput

/-- An update that returns asks the server to quit exactly if it closes it or reads `/quit`. -/
theorem processAll_flags {w w' : World Server} (hrun : (processAll net).run w = .ok () w') :
  timesClosed w.trace ≤ timesClosed w'.trace ∧
    (timesClosed w'.trace = timesClosed w.trace → w'.self.running = w.self.running) ∧
    (w'.self.quitRequested = true ↔ w.self.quitRequested = true ∨
      timesClosed w.trace < timesClosed w'.trace ∨ "/quit" ∈ w.self.inputQueue)
  := by
  obtain ⟨_, w₁, hpackets, hrun⟩ := run_bind_eq_ok hrun
  obtain ⟨_, w₂, hstatus, hinput⟩ := run_bind_eq_ok hrun
  have h₁ := @processPendingPackets_keepsFlags net w
  have h₂ := @processConnectionStateChanges_keepsFlags net w₁
  rw [exit_ok hpackets] at h₁
  rw [exit_ok hstatus] at h₂
  have hflags : KeepsFlags w w₂ := IsTrans.trans _ _ _ h₁ h₂
  obtain ⟨w₃, hlines, htrace, hrunning, hquit⟩ := run_processUserInput w₂
  rw [← exit_ok hinput, exit_ok hlines, htrace, hrunning, hquit, hflags.input]
  refine ⟨hflags.le, fun h => (hflags.same h).1, ?_⟩
  rw [hflags.quit_iff, or_assoc]

/-! ### Steps -/

/-- The opening parses the address and gets a listening socket and a poll group. -/
def OpeningSucceeds (net : ISteamNetworkingSockets) (w : World Server) : Prop :=
  net.parseString w.trace w.self.address = true ∧ newSocket net w ≠ 0 ∧ newGroup net w ≠ 0

instance (w : World Server) : Decidable (OpeningSucceeds net w) :=
  inferInstanceAs (Decidable (_ ∧ _ ∧ _))

/-- The update reads `/quit`, unless it is left by an exception. -/
def ReadsQuit (w : World Server) : ServerStep → Prop
  | .updateConnection => ¬ Stopped w ∧ "/quit" ∈ w.self.inputQueue
  | _ => False

/-- The step neither closes the server nor reads `/quit`. -/
def Continues (net : ISteamNetworkingSockets) (w : World Server) (s : ServerStep) : Prop :=
  timesClosed (exit (step net s) w).trace = timesClosed w.trace ∧ ¬ ReadsQuit w s

/-- An opening sets the running flag exactly if it succeeds, and no other. -/
theorem run_openConnection_flags (w : World Server) :
  ∃ w', (openConnection net).run w = .ok () w' ∧
    timesClosed w'.trace = timesClosed w.trace ∧
    w'.self.quitRequested = w.self.quitRequested ∧
    w'.self.running = decide (OpeningSucceeds net w)
  := by
  have htrace : timesClosed (exit (openConnection net) w).trace = timesClosed w.trace := by
    obtain ⟨es, hes, hopens⟩ := @openConnection_goesOnBy net w
    rw [hes]
    apply timesClosed_append
    rintro e he socket rfl
    cases hopens _ he
  cases hparse : net.parseString w.trace w.self.address with
  | true =>
      have hrun := run_openConnection_parsed hparse
      rw [exit_ok hrun] at htrace
      refine ⟨_, hrun, htrace, rfl, ?_⟩
      simp [OpeningSucceeds, hparse, opened]
  | false =>
      have hrun := run_openConnection_unparsed hparse
      rw [exit_ok hrun] at htrace
      refine ⟨_, hrun, htrace, rfl, ?_⟩
      simp [OpeningSucceeds, hparse, notOpened]

/-- Whether the latest opening has succeeded, after one more step. -/
def latestOpening (net : ISteamNetworkingSockets) (w : World Server) (succeeded : Bool) :
    ServerStep → Bool
  | .openConnection => decide (OpeningSucceeds net w)
  | _ => succeeded

/-- What a step that returns does to the flags. -/
theorem step_flags {s : ServerStep} {w w' : World Server} (hrun : (step net s).run w = .ok () w') :
  timesClosed w.trace ≤ timesClosed w'.trace ∧
    (timesClosed w'.trace = timesClosed w.trace →
      w'.self.running = latestOpening net w w.self.running s) ∧
    (w'.self.quitRequested = true ↔ w.self.quitRequested = true ∨
      timesClosed w.trace < timesClosed w'.trace ∨ ReadsQuit w s)
  := by
  cases s with
  | updateConnection =>
      by_cases hstopped : Stopped w
      · have hsame : (updateConnection net).run w = .ok () w :=
          run_updateConnection_stopped hstopped
        rw [← exit_ok hrun, step, exit_ok hsame]
        simp [latestOpening, ReadsQuit, hstopped]
      · have hall : (processAll net).run w = .ok () w' :=
          (run_updateConnection_active hstopped).symm.trans hrun
        obtain ⟨hle, hrunning, hquit⟩ := processAll_flags hall
        refine ⟨hle, hrunning, ?_⟩
        simpa [ReadsQuit, hstopped] using hquit
  | openConnection =>
      obtain ⟨w₁, hopening, htrace, hquit, hrunning⟩ := @run_openConnection_flags net w
      rw [← exit_ok hrun, step, exit_ok hopening, htrace, hquit, hrunning]
      simp [latestOpening, ReadsQuit]
  | call c =>
      have hflags := @perform_keepsFlags net c w
      rw [← exit_ok hrun, run_step_call]
      refine ⟨hflags.le, fun h => (hflags.same h).1, ?_⟩
      simpa [ReadsQuit] using hflags.quit_iff
  | _ =>
      cases hrun
      simp [latestOpening, ReadsQuit, timesClosed]

/-! ### Runs -/

/-- In a run that returns, the server has been asked to quit exactly if it had been before, or if
not all the steps continue. -/
theorem run_quitRequested (steps : List ServerStep) {w w' : World Server}
    (hrun : (runSteps net steps).run w = .ok () w') :
  w'.self.quitRequested = true
    ↔ w.self.quitRequested = true ∨ ¬ Along (step net) (Continues net) w steps
  := by
  induction steps generalizing w with
  | nil =>
      cases hrun
      simp [Along]
  | cons s steps ih =>
      rw [runSteps, List.forM_cons] at hrun
      obtain ⟨_, w₁, hs, hrun⟩ := run_bind_eq_ok hrun
      obtain ⟨hle, -, hquit⟩ := step_flags hs
      have hcontinues : ¬ Continues net w s
          ↔ timesClosed w.trace < timesClosed w₁.trace ∨ ReadsQuit w s := by
        rw [Continues, exit_ok hs]
        constructor
        · intro h
          by_contra hnot
          rw [not_or] at hnot
          exact h ⟨by omega, hnot.2⟩
        · rintro (hlt | hreads) ⟨heq, hnot⟩
          · omega
          · exact hnot hreads
      have hrest : (∀ w₂, (step net s).run w = .ok ⟨⟩ w₂ →
            Along (step net) (Continues net) w₂ steps)
          ↔ Along (step net) (Continues net) w₁ steps := by
        rw [hs]
        simp
      rw [ih hrun, hquit, Along, hrest, not_and_or, hcontinues, or_assoc]

/-- The latest opening succeeds: the last one among the steps of the run from `w`, or, if there is
none, the one before them, which is known to have succeeded or not. -/
def LatestOpeningSucceeds (net : ISteamNetworkingSockets) : Bool → World Server →
    List ServerStep → Prop
  | succeeded, _, [] => succeeded
  | succeeded, w, s :: steps => ∀ w', (step net s).run w = .ok ⟨⟩ w' →
      LatestOpeningSucceeds net (latestOpening net w succeeded s) w' steps

/-- While all steps continue, the server is running exactly if its latest opening has succeeded. -/
theorem run_running (steps : List ServerStep) {w w' : World Server}
    (hsteps : Along (step net) (Continues net) w steps)
    (hrun : (runSteps net steps).run w = .ok () w') :
  w'.self.running = true ↔ LatestOpeningSucceeds net w.self.running w steps
  := by
  induction steps generalizing w with
  | nil =>
      cases hrun
      rfl
  | cons s steps ih =>
      rw [runSteps, List.forM_cons] at hrun
      obtain ⟨_, w₁, hs, hrun⟩ := run_bind_eq_ok hrun
      obtain ⟨⟨htrace, -⟩, hrest⟩ := hsteps
      rw [exit_ok hs] at htrace
      obtain ⟨-, hrunning, -⟩ := step_flags hs
      rw [ih (hrest w₁ hs) hrun, hrunning htrace, LatestOpeningSucceeds, hs]
      simp

/-- A new server. -/
def fresh : World Server :=
  newServer "127.0.0.1" 8080 0 0

/-- The server once it has been opened. -/
def listening : World Server :=
  exit (step queueNetworking .openConnection) fresh

end Server

end Chs
