import ChaosInMultiplayer.Server.Restart

/-!
# The quit command

An update reads the console only if the server is running, and a failed opening leaves it neither
running nor asked to quit.  So `/quit` is obeyed exactly if the latest opening has succeeded, or if
the server has been closed or has read `/quit` before.  The loop of the example server, which
updates the server until it has been asked to quit, is left from the console exactly if the server
is running.
-/

namespace Chs

namespace Server

open Program

variable {net : ISteamNetworkingSockets}

/-- An update that returns has asked the server to quit. -/
def ObeysQuit (net : ISteamNetworkingSockets) (w : World Server) : Prop :=
  ∀ w', (updateConnection net).run w = .ok () w' → w'.self.quitRequested = true

/-- With `/quit` in the queue, an update asks the server to quit exactly if the server is running or
has been asked to quit before. -/
theorem obeysQuit_iff {w : World Server} (hqueue : "/quit" ∈ w.self.inputQueue) :
  ObeysQuit net w ↔ w.self.running = true ∨ w.self.quitRequested = true
  := by
  constructor
  · intro h
    by_contra hnot
    rw [not_or, Bool.not_eq_true, Bool.not_eq_true] at hnot
    have hquit := h w (run_updateConnection_stopped (.inr hnot.1))
    rw [hnot.2] at hquit
    cases hquit
  · intro h w' hrun
    by_cases hstopped : Stopped w
    · rw [run_updateConnection_stopped hstopped] at hrun
      cases hrun
      rcases hstopped with hquit | hrunning
      · exact hquit
      · apply h.resolve_left
        simp [hrunning]
    · have hall : (processAll net).run w = .ok () w' :=
        (run_updateConnection_active hstopped).symm.trans hrun
      apply (processAll_flags hall).2.2.mpr
      right
      right
      exact hqueue

/-- In every state a server can reach with `/quit` in the queue, an update asks it to quit exactly
if the latest opening has succeeded, or if the server has been closed or has read `/quit` before. -/
theorem run_obeysQuit_iff {before : List ServerStep} {ip : String} {port : UInt32}
    {socket : HSteamListenSocket} {group : HSteamNetPollGroup} {w : World Server}
    (hbefore : (runSteps net before).run (newServer ip port socket group) = .ok () w)
    (hqueue : "/quit" ∈ w.self.inputQueue) :
  ObeysQuit net w
    ↔ LatestOpeningSucceeds net false (newServer ip port socket group) before ∨
      ¬ Along (step net) (Continues net) (newServer ip port socket group) before
  := by
  have hquit := run_quitRequested before hbefore
  simp only [newServer, construct, Bool.false_eq_true, false_or] at hquit
  rw [obeysQuit_iff hqueue, hquit]
  by_cases hcontinues : Along (step net) (Continues net) (newServer ip port socket group) before
  · rw [run_running before hcontinues hbefore]
    rfl
  · exact iff_of_true (.inr hcontinues) (.inr hcontinues)

/-- An opened server with `/quit` in its queue. -/
theorem listening_obeysQuit_iff :
  ObeysQuit queueNetworking (exit (step queueNetworking (.enter "/quit")) listening)
    ↔ LatestOpeningSucceeds queueNetworking false fresh [.openConnection, .enter "/quit"] ∨
      ¬ Along (step queueNetworking) (Continues queueNetworking) fresh
        [.openConnection, .enter "/quit"]
  := @run_obeysQuit_iff queueNetworking [.openConnection, .enter "/quit"] "127.0.0.1" 8080 0 0
      (exit (step queueNetworking (.enter "/quit")) listening) rfl (by decide)

/-- A networking library that parses no address. -/
def unparsing : ISteamNetworkingSockets :=
  { queueNetworking with parseString := fun _ _ => false }

/-- The server whose opening has failed, when `/quit` has been entered. -/
def unopened : World Server :=
  exit (runSteps unparsing [.openConnection, .enter "/quit"]) fresh

/-- A server whose opening has failed does not read `/quit`. -/
theorem unopened_not_obeysQuit :
  (runSteps unparsing [.openConnection, .enter "/quit"]).run fresh = .ok () unopened ∧
    "/quit" ∈ unopened.self.inputQueue ∧ ¬ ObeysQuit unparsing unopened
  := by
  refine ⟨rfl, by decide, ?_⟩
  intro h
  have hquit := h unopened rfl
  revert hquit
  decide

/-! ### The loop of the example server -/

/-- The loop `while (!server.quitRequested()) server.updateConnection()`, for as many iterations as
there are lists of lines, which are entered before their updates.  It returns whether the loop has
been left. -/
def mainLoop (net : ISteamNetworkingSockets) : List (List String) → ServerM Bool
  | [] => do
      let w ← get
      return w.self.quitRequested
  | lines :: rest => do
      let w ← get
      if w.self.quitRequested then
        return true
      else
        forM lines fun line => step net (.enter line)
        updateConnection net
        mainLoop net rest

/-- The world after the lines have been entered. -/
def entered (lines : List String) (w : World Server) : World Server :=
  { w with self := { w.self with inputQueue := w.self.inputQueue ++ lines } }

theorem entered_append (before after : List String) (w : World Server) :
  entered (before ++ after) w = entered after (entered before w)
  := by
  simp only [entered, List.append_assoc]

/-- Entering lines puts them at the end of the input queue. -/
theorem run_enter_lines (lines : List String) (w : World Server) :
  (forM lines fun line => step net (.enter line)).run w = .ok ⟨⟩ (entered lines w)
  := by
  induction lines generalizing w with
  | nil =>
      rw [entered, List.append_nil]
      rfl
  | cons line lines ih =>
      have hone : (step net (.enter line)).run w = .ok ⟨⟩ (entered [line] w) := rfl
      rw [List.forM_cons, run_bind_ok _ hone, ih, ← entered_append]
      rfl

/-- Without further iterations the loop returns whether the server has been asked to quit. -/
theorem run_mainLoop_nil (w : World Server) :
  (mainLoop net []).run w = .ok w.self.quitRequested w
  := rfl

/-- Before the server has been asked to quit, the loop enters the lines, updates the server and goes
on. -/
theorem run_mainLoop_cons (lines : List String) (rest : List (List String)) {w : World Server}
    (hquit : w.self.quitRequested = false) :
  (mainLoop net (lines :: rest)).run w = (do
      updateConnection net
      mainLoop net rest : ServerM Bool).run (entered lines w)
  := by
  rw [mainLoop, run_bind_ok _ (EStateM.run_get w), hquit, if_neg Bool.false_ne_true,
    run_bind_ok _ (run_enter_lines lines w)]

/-- The loop is left as soon as the server has been asked to quit. -/
theorem run_mainLoop_quit (typed : List (List String)) {w : World Server}
    (hquit : w.self.quitRequested = true) :
  (mainLoop net typed).run w = .ok true w
  := by
  cases typed with
  | nil => rw [run_mainLoop_nil, hquit]
  | cons lines rest => simp [mainLoop, hquit]

/-- The loop is never left if the server is not running. -/
theorem run_mainLoop_stuck (typed : List (List String)) {w : World Server}
    (hquit : w.self.quitRequested = false) (hrunning : w.self.running = false) :
  (mainLoop net typed).run w = .ok false (entered typed.flatten w)
  := by
  induction typed generalizing w with
  | nil =>
      rw [run_mainLoop_nil, hquit, List.flatten_nil, entered, List.append_nil]
  | cons lines rest ih =>
      have hupdate : (updateConnection net).run (entered lines w) = .ok () (entered lines w) :=
        run_updateConnection_stopped (.inr hrunning)
      have hrest : (mainLoop net rest).run (entered lines w)
          = .ok false (entered rest.flatten (entered lines w)) := ih hquit hrunning
      rw [run_mainLoop_cons lines rest hquit, run_bind_ok _ hupdate, hrest, List.flatten_cons,
        entered_append]

/-- If `/quit` is entered, and no update is left by an exception, then the loop is left exactly if
the server is running. -/
theorem run_mainLoop_iff (typed : List (List String)) {w w' : World Server} {left : Bool}
    (hquit : w.self.quitRequested = false) (hentered : "/quit" ∈ typed.flatten)
    (hrun : (mainLoop net typed).run w = .ok left w') :
  left = true ↔ w.self.running = true
  := by
  cases hrunning : w.self.running with
  | false =>
      rw [run_mainLoop_stuck typed hquit hrunning] at hrun
      cases hrun
      rfl
  | true =>
      simp only [iff_true]
      induction typed generalizing w with
      | nil => cases hentered
      | cons lines rest ih =>
          rw [run_mainLoop_cons lines rest hquit] at hrun
          obtain ⟨_, w₁, hupdate, hrun⟩ := run_bind_eq_ok hrun
          have hactive : ¬ Stopped (entered lines w) := by
            simp [Stopped, entered, hquit, hrunning]
          rw [run_updateConnection_active hactive] at hupdate
          obtain ⟨hle, hsame, hiff⟩ := processAll_flags hupdate
          cases hquit₁ : w₁.self.quitRequested with
          | true =>
              rw [run_mainLoop_quit rest hquit₁] at hrun
              cases hrun
              rfl
          | false =>
              -- The update has neither closed the server nor read `/quit`.
              rw [hquit₁, Bool.false_eq_true, false_iff, not_or, not_or] at hiff
              obtain ⟨-, hopen, hnone⟩ := hiff
              apply ih hquit₁ _ hrun
              · rw [hsame (by omega)]
                exact hrunning
              · rw [List.flatten_cons] at hentered
                apply (List.mem_append.mp hentered).resolve_left
                intro hlines
                apply hnone (List.mem_append_right _ hlines)

end Server

end Chs
