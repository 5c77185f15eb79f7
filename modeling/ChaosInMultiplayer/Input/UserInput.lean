import ChaosInMultiplayer.Input.InputController
import ChaosInMultiplayer.Server.Quitting

/-!
# Reading the console while lines are added

The loop of `processUserInput` checks whether there is a line and reads it in two steps, between
which the poll thread may add lines.  No other thread reads, so a line that is there when the loop
checks is there when it reads.  The loop removes the lines in their order, up to the first `/quit`
or until it finds the queue empty (`runSteps_consumes`), and it does the same as without
interruption, if the lines that were added before its last check are in the queue at its start
(`runSteps_linearizes`).
-/

namespace Chs

/-- Where the main thread is in `processUserInput`. -/
inductive UserInputPoint where
  /-- At `inputAvailable`. -/
  | checking
  /-- At `readInput`. -/
  | reading
  /-- At the comparison of the input with `/quit`. -/
  | answering (input : String)
  | returned
  deriving DecidableEq

/-- A call of `processUserInput` on the way: the input controller, where the main thread is, and the
flag and the log of the server. -/
structure UserInput where
  controller : InputController
  point : UserInputPoint
  quitRequested : Bool
  trace : Trace

abbrev UserInputM := EStateM InputFault UserInput

/-- A step of the main thread in `processUserInput`, or a call of `addInput` by the poll thread. -/
inductive UserInputStep where
  | processUserInput
  | addInput (input : String)
  deriving DecidableEq

namespace UserInput

open Program

/-- A call on the input controller, which happens under its mutex. -/
def onController {α : Type} (p : InputM α) : UserInputM α :=
  fun s =>
    match p.run s.controller with
    | .ok a controller => .ok a { s with controller := controller }
    | .error fault controller => .error fault { s with controller := controller }

def goTo (point : UserInputPoint) : UserInputM Unit :=
  modify fun s => { s with point := point }

def log (level : LogLevel) (text : String) : UserInputM Unit :=
  modify fun s => { s with trace := .log level text :: s.trace }

/-- A step of the main thread in `processUserInput`. -/
def processUserInput : UserInputM Unit := do
  let s ← get
  match s.point with
  | .checking => do
      let available ← onController InputController.inputAvailable
      if available then goTo .reading else goTo .returned
  | .reading => do
      let input ← onController InputController.readInput
      goTo (.answering input)
  | .answering input =>
      if input = "/quit" then
        modify fun s => { s with quitRequested := true }
        log .info "Shutting down server"
        goTo .returned
      else
        log .error "The server only knows one command: '/quit'"
        goTo .checking
  | .returned => return ()

def step : UserInputStep → UserInputM Unit
  | .processUserInput => processUserInput
  | .addInput input => onController (InputController.addInput input)

/-- A run of the steps in their order, up to the first fault. -/
def runSteps (steps : List UserInputStep) : UserInputM Unit :=
  forM steps step

/-- The call when it starts. -/
def start (controller : InputController) (trace : Trace) : UserInput where
  controller := controller
  point := .checking
  quitRequested := false
  trace := trace

/-- The lines that are added in the steps. -/
def added (steps : List UserInputStep) : List String :=
  steps.filterMap fun
    | .addInput input => some input
    | .processUserInput => none

/-- The number of steps of the main thread. -/
def calls (steps : List UserInputStep) : Nat :=
  steps.count .processUserInput

/-! ### Steps -/

section Steps

variable {s : UserInput}

theorem run_onController {α : Type} {p : InputM α} {a : α} {controller : InputController}
    (h : p.run s.controller = .ok a controller) :
  (onController p).run s = .ok a { s with controller := controller }
  := by
  rw [EStateM.run, onController, h]

/-- The loop ends when it finds the queue empty. -/
theorem run_checking_nil (hpoint : s.point = .checking) (hqueue : s.controller.inputQueue = []) :
  processUserInput.run s = .ok () { s with point := .returned }
  := by
  have havailable : InputController.inputAvailable.run s.controller = .ok false s.controller := by
    rw [InputController.run_inputAvailable, hqueue]
    rfl
  rw [processUserInput, run_bind_ok _ (EStateM.run_get s), hpoint,
    run_bind_ok _ (run_onController havailable)]
  rfl

theorem run_checking_cons {input : String} {rest : List String} (hpoint : s.point = .checking)
    (hqueue : s.controller.inputQueue = input :: rest) :
  processUserInput.run s = .ok () { s with point := .reading }
  := by
  have havailable : InputController.inputAvailable.run s.controller = .ok true s.controller := by
    rw [InputController.run_inputAvailable, hqueue]
    rfl
  rw [processUserInput, run_bind_ok _ (EStateM.run_get s), hpoint,
    run_bind_ok _ (run_onController havailable)]
  rfl

theorem run_reading {input : String} {rest : List String} (hpoint : s.point = .reading)
    (hqueue : s.controller.inputQueue = input :: rest) :
  processUserInput.run s = .ok ()
    { s with
      controller := { s.controller with
        inputQueue := rest
        read := s.controller.read ++ [input] }
      point := .answering input }
  := by
  rw [processUserInput, run_bind_ok _ (EStateM.run_get s), hpoint,
    run_bind_ok _ (run_onController (InputController.run_readInput_cons hqueue))]
  rfl

theorem run_answering_quit (hpoint : s.point = .answering "/quit") :
  processUserInput.run s = .ok ()
    { s with
      point := .returned
      quitRequested := true
      trace := .log .info "Shutting down server" :: s.trace }
  := by
  rw [processUserInput, run_bind_ok _ (EStateM.run_get s), hpoint]
  rfl

theorem run_answering_other {input : String} (hpoint : s.point = .answering input)
    (hinput : input ≠ "/quit") :
  processUserInput.run s = .ok ()
    { s with
      point := .checking
      trace := .log .error "The server only knows one command: '/quit'" :: s.trace }
  := by
  rw [processUserInput, run_bind_ok _ (EStateM.run_get s), hpoint]
  simp only [if_neg hinput]
  rfl

theorem run_returned (hpoint : s.point = .returned) :
  processUserInput.run s = .ok () s
  := by
  rw [processUserInput, run_bind_ok _ (EStateM.run_get s), hpoint]
  rfl

/-- The state after a call of `addInput`. -/
def afterAddInput (s : UserInput) (input : String) : UserInput :=
  { s with
    controller := { s.controller with
      inputQueue := s.controller.inputQueue ++ [input]
      entered := s.controller.entered ++ [input] } }

theorem run_addInput (input : String) :
  (step (.addInput input)).run s = .ok () (s.afterAddInput input)
  := rfl

end Steps

/-! ### What the loop has removed -/

/-- How far the loop is: where the main thread is, the flag of the server, the number of its steps,
the lines it has removed and those that are left in the queue. -/
inductive Progress : UserInputPoint → Bool → Nat → List String → List String → Prop
  | checking {removed queue : List String} (h : "/quit" ∉ removed) :
      Progress .checking false (3 * removed.length) removed queue
  | reading {removed rest : List String} (input : String) (h : "/quit" ∉ removed) :
      Progress .reading false (3 * removed.length + 1) removed (input :: rest)
  | answering {removed queue : List String} (input : String) (h : "/quit" ∉ removed) :
      Progress (.answering input) false (3 * removed.length + 2) (removed ++ [input]) queue
  | quit {calls : Nat} {removed queue : List String} (h : "/quit" ∉ removed) :
      Progress .returned true calls (removed ++ ["/quit"]) queue
  | none {calls : Nat} {removed queue : List String} (h : "/quit" ∉ removed) :
      Progress .returned false calls removed queue

/-- Another line in the queue changes nothing. -/
theorem Progress.added {point : UserInputPoint} {quit : Bool} {calls : Nat}
    {removed queue : List String} (h : Progress point quit calls removed queue) (input : String) :
  Progress point quit calls removed (queue ++ [input])
  := by
  cases h with
  | checking h => exact .checking h
  | reading first h => exact .reading first h
  | answering input h => exact .answering input h
  | quit h => exact .quit h
  | none h => exact .none h

section Progress

variable {point : UserInputPoint} {quit : Bool} {calls : Nat} {removed queue : List String}

/-- Nothing is removed after the first `/quit`. -/
theorem Progress.dropLast (h : Progress point quit calls removed queue) :
  "/quit" ∉ removed.dropLast
  := by
  cases h with
  | checking h => exact fun hmem => h (List.dropLast_subset _ hmem)
  | reading input h => exact fun hmem => h (List.dropLast_subset _ hmem)
  | answering input h =>
      rw [List.dropLast_concat]
      exact h
  | quit h =>
      rw [List.dropLast_concat]
      exact h
  | none h => exact fun hmem => h (List.dropLast_subset _ hmem)

theorem Progress.mem_of_quit (h : Progress point quit calls removed queue) (hquit : quit = true) :
  "/quit" ∈ removed
  := by
  cases h with
  | quit h => apply List.mem_concat_self
  | _ => cases hquit

/-- When the loop has ended, the server has been asked to quit exactly if `/quit` was removed. -/
theorem Progress.mem_iff (h : Progress point quit calls removed queue)
    (hpoint : point = .returned) :
  "/quit" ∈ removed ↔ quit = true
  := by
  cases h with
  | quit h => simp
  | none h => simp [h]
  | _ => cases hpoint

/-- Each line takes three steps, so the loop ends. -/
theorem Progress.returned (h : Progress point quit calls removed queue)
    (hcalls : 3 * (removed.length + queue.length) < calls) :
  point = .returned
  := by
  cases h with
  | checking h => omega
  | reading input h =>
      rw [List.length_cons] at hcalls
      omega
  | answering input h =>
      rw [List.length_append, List.length_singleton] at hcalls
      omega
  | quit h => rfl
  | none h => rfl

end Progress

/-- The main thread has found the queue empty and has left the loop. -/
def FoundEmpty (controller : InputController) (trace : Trace) (steps : List UserInputStep) : Prop :=
  ∃ earlier later s, steps = earlier ++ .processUserInput :: later ∧
    (runSteps earlier).run (start controller trace) = .ok () s ∧
    s.point = .checking ∧ s.controller.inputQueue = []

theorem FoundEmpty.append {controller : InputController} {trace : Trace}
    {steps : List UserInputStep} (h : FoundEmpty controller trace steps)
    (others : List UserInputStep) :
  FoundEmpty controller trace (steps ++ others)
  := by
  obtain ⟨earlier, later, s, rfl, hrun, hpoint, hqueue⟩ := h
  exact ⟨earlier, later ++ others, s, by simp, hrun, hpoint, hqueue⟩

/-- What holds when the steps have been made: the lines removed and the lines left are those there
were and those added. -/
structure Consumes (controller : InputController) (trace : Trace) (steps : List UserInputStep)
    (removed : List String) (s : UserInput) : Prop where
  read : s.controller.read = controller.read ++ removed
  order : removed ++ s.controller.inputQueue = controller.inputQueue ++ added steps
  progress : Progress s.point s.quitRequested (calls steps) removed s.controller.inputQueue
  foundEmpty : s.point = .returned → s.quitRequested = false → FoundEmpty controller trace steps

section Run

variable {controller : InputController} {trace : Trace} {steps : List UserInputStep}
  {removed : List String} {s : UserInput}

theorem added_call :
  added (steps ++ [.processUserInput]) = added steps
  := by
  simp [added]

theorem added_addInput (input : String) :
  added (steps ++ [.addInput input]) = added steps ++ [input]
  := by
  simp [added]

theorem calls_call :
  calls (steps ++ [.processUserInput]) = calls steps + 1
  := by
  simp [calls]

theorem calls_addInput (input : String) :
  calls (steps ++ [.addInput input]) = calls steps
  := by
  simp [calls]

/-- Another line is added behind those that have been consumed. -/
theorem Consumes.addInput (h : Consumes controller trace steps removed s) (input : String) :
  Consumes controller trace (steps ++ [.addInput input]) removed (s.afterAddInput input)
  where
  read := h.read
  order := by
    rw [added_addInput, ← List.append_assoc, ← h.order, List.append_assoc]
    rfl
  progress := by
    rw [calls_addInput]
    exact h.progress.added input
  foundEmpty hpoint hquit := (h.foundEmpty hpoint hquit).append _

/-- A step of the main thread: it does not read from the empty queue. -/
theorem Consumes.processUserInput (h : Consumes controller trace steps removed s)
    (hrun : (runSteps steps).run (start controller trace) = .ok () s) :
  ∃ s' removed', UserInput.processUserInput.run s = .ok () s' ∧
    Consumes controller trace (steps ++ [.processUserInput]) removed' s'
  := by
  obtain ⟨hread, horder, hprogress, hfound⟩ := h
  obtain ⟨current, point, quit, log⟩ := s
  dsimp only at hread horder hprogress hfound
  rw [← @added_call steps] at horder
  generalize hqueue : current.inputQueue = queue at hprogress
  generalize hcalls : calls steps = n at hprogress
  have hcalls' : calls (steps ++ [.processUserInput]) = n + 1 := by rw [calls_call, hcalls]
  cases hprogress with
  | checking hnot =>
      cases queue with
      | nil =>
          refine ⟨_, removed, run_checking_nil rfl hqueue, hread, horder, .none hnot, ?_⟩
          intro _ _
          exact ⟨steps, [], _, rfl, hrun, rfl, hqueue⟩
      | cons input rest =>
          refine ⟨_, removed, run_checking_cons rfl hqueue, hread, horder, ?_, nofun⟩
          rw [hcalls', hqueue]
          exact .reading input hnot
  | @reading _ rest input hnot =>
      refine ⟨_, removed ++ [input], run_reading rfl hqueue, ?_, ?_, ?_, nofun⟩
      · dsimp only
        rw [hread, List.append_assoc]
      · rw [← horder, hqueue, List.append_assoc]
        rfl
      · rw [hcalls']
        exact .answering input hnot
  | @answering before _ input hnot =>
      by_cases hinput : input = "/quit"
      · subst hinput
        exact ⟨_, before ++ ["/quit"], run_answering_quit rfl, hread, horder, .quit hnot, nofun⟩
      · refine ⟨_, before ++ [input], run_answering_other rfl hinput, hread, horder, ?_, nofun⟩
        have hremoved : "/quit" ∉ before ++ [input] := by
          simp [hnot, Ne.symm hinput]
        have hlength : 3 * before.length + 2 + 1 = 3 * (before ++ [input]).length := by
          rw [List.length_append, List.length_singleton]
          omega
        rw [hcalls', hlength]
        exact .checking hremoved
  | @quit _ before _ hnot =>
      exact ⟨_, before ++ ["/quit"], run_returned rfl, hread, horder, .quit hnot, nofun⟩
  | none hnot =>
      refine ⟨_, removed, run_returned rfl, hread, horder, .none hnot, ?_⟩
      intro _ _
      exact (hfound rfl rfl).append _

/-- At the start of the call nothing has been consumed. -/
theorem start_consumes (controller : InputController) (trace : Trace) :
  Consumes controller trace [] [] (start controller trace)
  where
  read := (List.append_nil _).symm
  order := (List.append_nil _).symm
  progress := .checking List.not_mem_nil
  foundEmpty := nofun

theorem run_append (steps : List UserInputStep) (i : UserInputStep) {s₀ s s' : UserInput}
    (hrun : (runSteps steps).run s₀ = .ok () s) (hstep : (step i).run s = .ok () s') :
  (runSteps (steps ++ [i])).run s₀ = .ok () s'
  := by
  rw [runSteps, List.forM_append, ← runSteps, run_bind_ok _ hrun, List.forM_cons,
    run_bind_ok _ hstep]
  rfl

/-- Whatever is added meanwhile, the steps of the main thread succeed and consume the lines. -/
theorem run_consumes (controller : InputController) (trace : Trace) (steps : List UserInputStep) :
  ∃ s removed, (runSteps steps).run (start controller trace) = .ok () s ∧
    Consumes controller trace steps removed s
  := by
  induction steps using List.reverseRecOn with
  | nil => exact ⟨start controller trace, [], rfl, start_consumes controller trace⟩
  | append_singleton steps i ih =>
      obtain ⟨s, removed, hrun, hconsumes⟩ := ih
      cases i with
      | processUserInput =>
          obtain ⟨s', removed', hstep, hconsumes'⟩ := hconsumes.processUserInput hrun
          exact ⟨s', removed', run_append steps _ hrun hstep, hconsumes'⟩
      | addInput input =>
          exact ⟨s.afterAddInput input, removed, run_append steps _ hrun (run_addInput input),
            hconsumes.addInput input⟩

end Run

/-- Whatever is added meanwhile, `processUserInput` does not read from the empty queue, and it ends.
The lines it removes and those it leaves are those there were and those added, in their order.  It
removes nothing after the first `/quit`, and asks the server to quit exactly if it removes `/quit`;
otherwise it has found the queue empty. -/
theorem runSteps_consumes (controller : InputController) (trace : Trace)
    (steps : List UserInputStep) :
  ∃ s removed, (runSteps steps).run (start controller trace) = .ok () s ∧
    s.controller.read = controller.read ++ removed ∧
    removed ++ s.controller.inputQueue = controller.inputQueue ++ added steps ∧
    "/quit" ∉ removed.dropLast ∧
    (s.quitRequested = true → "/quit" ∈ removed) ∧
    (s.point = .returned →
      (s.quitRequested = true ↔ "/quit" ∈ removed) ∧
        ("/quit" ∉ removed → FoundEmpty controller trace steps)) ∧
    (3 * (controller.inputQueue.length + (added steps).length) < calls steps →
      s.point = .returned)
  := by
  obtain ⟨s, removed, hrun, h⟩ := run_consumes controller trace steps
  have hlength : removed.length + s.controller.inputQueue.length
      = controller.inputQueue.length + (added steps).length := by
    rw [← List.length_append, h.order, List.length_append]
  refine ⟨s, removed, hrun, h.read, h.order, h.progress.dropLast, h.progress.mem_of_quit, ?_, ?_⟩
  · intro hpoint
    have hiff := h.progress.mem_iff hpoint
    use hiff.symm
    intro hnot
    rw [hiff, Bool.not_eq_true] at hnot
    exact h.foundEmpty hpoint hnot
  · intro hcalls
    apply h.progress.returned
    rw [hlength]
    exact hcalls

/-! ### The loop without interruption -/

/-- The server when the call is on the way. -/
def world (w : World Server) (s : UserInput) : World Server where
  self := { w.self with
    inputQueue := s.controller.inputQueue
    quitRequested := s.quitRequested }
  trace := s.trace

/-- What is left to do without interruption. -/
def remaining : UserInputPoint → ServerM Unit
  | .checking => Server.processUserInput
  | .reading => Server.processUserInput
  | .answering input =>
      if input = "/quit" then do
        modify fun w => { w with self := { w.self with quitRequested := true } }
        logInfo "Shutting down server"
      else do
        logError "The server only knows one command: '/quit'"
        Server.processUserInput
  | .returned => return ()

/-- There is a line to read when the main thread reads. -/
def CanRead (s : UserInput) : Prop :=
  s.point = .reading → s.controller.inputQueue ≠ []

section Linearizes

variable {w : World Server} {s s' : UserInput}

theorem canRead_of_ne (h : s.point ≠ .reading) :
  CanRead s
  := fun hpoint => absurd hpoint h

theorem world_afterAddInput (input : String) :
  world w (s.afterAddInput input) = Server.entered [input] (world w s)
  := rfl

/-- Unless the loop finds the queue empty, a step of the main thread does the next thing that is
left to do, also if more lines are in the queue. -/
theorem run_remaining (hread : CanRead s)
    (hempty : s.point = .checking → s.controller.inputQueue ≠ []) (more : List String)
    (hrun : processUserInput.run s = .ok () s') :
  CanRead s' ∧ (remaining s.point).run (Server.entered more (world w s))
    = (remaining s'.point).run (Server.entered more (world w s'))
  := by
  cases hpoint : s.point with
  | checking =>
      obtain ⟨input, rest, hqueue⟩ := List.exists_cons_of_ne_nil (hempty hpoint)
      rw [run_checking_cons hpoint hqueue] at hrun
      cases hrun
      exact ⟨fun _ => hempty hpoint, rfl⟩
  | reading =>
      obtain ⟨input, rest, hqueue⟩ := List.exists_cons_of_ne_nil (hread hpoint)
      rw [run_reading hpoint hqueue] at hrun
      cases hrun
      use canRead_of_ne (by simp)
      have hlines : Server.entered more (world w s) = { world w s with
          self := { (world w s).self with inputQueue := input :: (rest ++ more) } } := by
        simp only [Server.entered, world, hqueue, List.cons_append]
      rw [hlines]
      by_cases hinput : input = "/quit"
      · simp only [remaining, if_pos hinput]
        simp [Server.processUserInput, Server.processUserInputLines, hinput, Server.entered, world]
      · simp only [remaining, if_neg hinput]
        simp [Server.processUserInput, Server.processUserInputLines, hinput, Server.entered, world]
  | answering input =>
      by_cases hinput : input = "/quit"
      · subst hinput
        rw [run_answering_quit hpoint] at hrun
        cases hrun
        exact ⟨canRead_of_ne (by simp), rfl⟩
      · rw [run_answering_other hpoint hinput] at hrun
        cases hrun
        use canRead_of_ne (by simp)
        simp only [remaining, if_neg hinput]
        rfl
  | returned =>
      rw [run_returned hpoint] at hrun
      cases hrun
      rw [hpoint]
      exact ⟨hread, rfl⟩

/-- When the loop has ended, lines are only added. -/
theorem run_returned_steps (hpoint : s.point = .returned) {steps : List UserInputStep}
    (hrun : (runSteps steps).run s = .ok () s') :
  world w s' = Server.entered (added steps) (world w s)
  := by
  induction steps generalizing s with
  | nil =>
      cases hrun
      simp [added, Server.entered]
  | cons i steps ih =>
      rw [runSteps, List.forM_cons] at hrun
      obtain ⟨_, s₁, hstep, hrest⟩ := run_bind_eq_ok hrun
      cases i with
      | processUserInput =>
          rw [step, run_returned hpoint] at hstep
          cases hstep
          exact ih hpoint hrest
      | addInput input =>
          rw [run_addInput] at hstep
          cases hstep
          have hpoint₁ : (s.afterAddInput input).point = .returned := hpoint
          have hadded : added (.addInput input :: steps) = [input] ++ added steps := rfl
          rw [ih hpoint₁ hrest, world_afterAddInput, hadded, Server.entered_append]

/-- From any point of the call, its run is one of the rest of the call without interruption. -/
theorem run_linearizes (hread : CanRead s) {steps : List UserInputStep}
    (hrun : (runSteps steps).run s = .ok () s') (hreturned : s'.point = .returned) :
  ∃ before after w', added steps = before ++ after ∧
    (remaining s.point).run (Server.entered before (world w s)) = .ok () w' ∧
    world w s' = Server.entered after w'
  := by
  induction steps generalizing s with
  | nil =>
      cases hrun
      rw [hreturned]
      exact ⟨[], [], _, rfl, rfl, by simp [Server.entered]⟩
  | cons i steps ih =>
      rw [runSteps, List.forM_cons] at hrun
      obtain ⟨_, s₁, hstep, hrest⟩ := run_bind_eq_ok hrun
      cases i with
      | addInput input =>
          rw [run_addInput] at hstep
          cases hstep
          have hread₁ : CanRead (s.afterAddInput input) := by
            intro _
            simp [afterAddInput]
          obtain ⟨before, after, w', hadded, hremaining, hworld⟩ := ih hread₁ hrest
          refine ⟨input :: before, after, w', ?_, ?_, hworld⟩
          · rw [List.cons_append, ← hadded]
            rfl
          · rw [← hremaining, world_afterAddInput, ← Server.entered_append]
            rfl
      | processUserInput =>
          by_cases hempty : s.point = .checking ∧ s.controller.inputQueue = []
          · -- The last check: what is added from here on is left in the queue.
            obtain ⟨hpoint, hqueue⟩ := hempty
            rw [step, run_checking_nil hpoint hqueue] at hstep
            cases hstep
            refine ⟨[], added steps, world w s, rfl, ?_, ?_⟩
            · rw [hpoint]
              simp [remaining, Server.processUserInput, Server.entered, world, hqueue,
                Server.processUserInputLines]
            · exact @run_returned_steps w { s with point := .returned } s' rfl steps hrest
          · rw [not_and] at hempty
            obtain ⟨hread₁, -⟩ := @run_remaining w s s₁ hread hempty [] hstep
            obtain ⟨before, after, w', hadded, hremaining, hworld⟩ := ih hread₁ hrest
            obtain ⟨-, hsame⟩ := @run_remaining w s s₁ hread hempty before hstep
            exact ⟨before, after, w', hadded, hsame.trans hremaining, hworld⟩

/-- The main thread can read whenever it is about to, so no step of it fails. -/
theorem step_canRead (hread : CanRead s) (i : UserInputStep) :
  ∃ s', (step i).run s = .ok () s' ∧ CanRead s'
  := by
  cases i with
  | addInput input => exact ⟨_, run_addInput input, fun _ => by simp [afterAddInput]⟩
  | processUserInput =>
      cases hpoint : s.point with
      | checking =>
          cases hqueue : s.controller.inputQueue with
          | nil => exact ⟨_, run_checking_nil hpoint hqueue, canRead_of_ne (by simp)⟩
          | cons input rest =>
              refine ⟨_, run_checking_cons hpoint hqueue, ?_⟩
              intro _
              simp [hqueue]
      | reading =>
          obtain ⟨input, rest, hqueue⟩ := List.exists_cons_of_ne_nil (hread hpoint)
          exact ⟨_, run_reading hpoint hqueue, canRead_of_ne (by simp)⟩
      | answering input =>
          by_cases hinput : input = "/quit"
          · subst hinput
            exact ⟨_, run_answering_quit hpoint, canRead_of_ne (by simp)⟩
          · exact ⟨_, run_answering_other hpoint hinput, canRead_of_ne (by simp)⟩
      | returned => exact ⟨_, run_returned hpoint, hread⟩

/-- No interleaving makes the call fail. -/
theorem runSteps_canRead (hread : CanRead s) (steps : List UserInputStep) :
  ∃ s', (runSteps steps).run s = .ok () s'
  := by
  induction steps generalizing s with
  | nil => exact ⟨s, rfl⟩
  | cons i steps ih =>
      obtain ⟨s₁, hstep, hread₁⟩ := step_canRead hread i
      obtain ⟨s', hrest⟩ := ih hread₁
      use s'
      rw [runSteps, List.forM_cons, run_bind_ok _ hstep]
      apply hrest

/-- Whatever is added meanwhile, a call does not fail, and once it has returned it has done what it
does without interruption, if some of the lines added are in the queue when it starts and the others
are added when it has returned. -/
theorem runSteps_linearizes (w : World Server) {s : UserInput} (hpoint : s.point = .checking)
    (steps : List UserInputStep) :
  ∃ s', (runSteps steps).run s = .ok () s' ∧
    (s'.point = .returned → ∃ before after w', added steps = before ++ after ∧
      Server.processUserInput.run (Server.entered before (world w s)) = .ok () w' ∧
      world w s' = Server.entered after w')
  := by
  have hread : CanRead s := canRead_of_ne (by simp [hpoint])
  obtain ⟨s', hrun⟩ := runSteps_canRead hread steps
  use s', hrun
  intro hreturned
  have hlinear := @run_linearizes w s s' hread steps hrun hreturned
  rw [hpoint] at hlinear
  exact hlinear

end Linearizes

/-- A call with a line to read, which is at the condition of its loop. -/
def interrupted : UserInput :=
  start { newInputController with inputQueue := ["hello"] } []

/-- The lines `/quit` and `late` are added while the call is on the way, and after it. -/
def interruptions : List UserInputStep :=
  [.processUserInput, .addInput "/quit", .processUserInput, .processUserInput, .processUserInput,
    .processUserInput, .processUserInput, .addInput "late"]

/-- Lines are added before the call, within it and after it. -/
theorem interrupted_linearizes :
  ∃ s', (runSteps interruptions).run interrupted = .ok () s' ∧ s'.point = .returned ∧
    ∃ before after w', added interruptions = before ++ after ∧
      Server.processUserInput.run
          (Server.entered before (world (newServer "127.0.0.1" 8080 0 0) interrupted))
        = .ok () w' ∧
      world (newServer "127.0.0.1" 8080 0 0) s' = Server.entered after w'
  := by
  obtain ⟨s', hrun, hlinearizes⟩ :=
    runSteps_linearizes (newServer "127.0.0.1" 8080 0 0) (s := interrupted) rfl interruptions
  have hreturned : s'.point = .returned := by
    cases hrun
    rfl
  exact ⟨s', hrun, hreturned, hlinearizes hreturned⟩

end UserInput

end Chs
