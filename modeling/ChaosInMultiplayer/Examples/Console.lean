import ChaosInMultiplayer.Examples.ServerMain
import ChaosInMultiplayer.Input.Pipeline
import ChaosInMultiplayer.Server.Restart

/-!
# The example server at its console

The example server with its input controller: the readers and the poll thread take the lines that
are typed on the console and put them into the queue that the updates read.  An update reads the
queue without interruption, as it does in effect whatever the poll thread enters meanwhile.  Only
the first line reaches the queue, or an empty one if the input ends before it, so the server reads
nothing else, and only the first line can make its main function leave the loop.
-/

namespace Chs

namespace ExampleServer

open Program Server

/-- The server and its input controller, whose queue is the input queue of the server. -/
structure Terminal where
  server : World Server
  controller : InputController

/-- A step of the server, or of the console, the readers and the poll thread. -/
inductive TerminalStep where
  | server (s : ServerStep)
  | input (i : InputStep)

inductive TerminalFault where
  | ofServer (fault : Fault)
  | ofInput (fault : InputFault)
  deriving DecidableEq

namespace Terminal

variable {net : ISteamNetworkingSockets} {text : BufferText} {rand : Trace → Nat}

/-- The server with the queue of its input controller. -/
def world (t : Terminal) : World Server :=
  { t.server with self := { t.server.self with inputQueue := t.controller.inputQueue } }

/-- The server has gone on, and the main thread has read the lines that are not in its queue any
more. -/
def withWorld (t : Terminal) (w : World Server) : Terminal where
  server := w
  controller :=
    { t.controller with
      inputQueue := w.self.inputQueue
      read := t.controller.read ++
        t.controller.inputQueue.take (t.controller.inputQueue.length - w.self.inputQueue.length) }

def onServer (p : ServerM Unit) : EStateM TerminalFault Terminal Unit :=
  fun t =>
    match p.run t.world with
    | .ok _ w => .ok () (t.withWorld w)
    | .error fault w => .error (.ofServer fault) (t.withWorld w)

def onController (p : InputM Unit) : EStateM TerminalFault Terminal Unit :=
  fun t =>
    match p.run t.controller with
    | .ok _ controller => .ok () { t with controller := controller }
    | .error fault controller => .error (.ofInput fault) { t with controller := controller }

def step (net : ISteamNetworkingSockets) : TerminalStep → EStateM TerminalFault Terminal Unit
  | .server s => onServer (Server.step net s)
  | .input i => onController (InputController.step i)

section Run

variable {t t' : Terminal}

theorem run_onServer_ok {p : ServerM Unit} {w : World Server} (h : p.run t.world = .ok () w) :
  (onServer p).run t = .ok () (t.withWorld w)
  := by
  rw [EStateM.run, onServer, h]

theorem run_onServer_error {p : ServerM Unit} {fault : Fault} {w : World Server}
    (h : p.run t.world = .error fault w) :
  (onServer p).run t = .error (.ofServer fault) (t.withWorld w)
  := by
  rw [EStateM.run, onServer, h]

theorem run_onServer_eq_ok {p : ServerM Unit} (h : (onServer p).run t = .ok () t') :
  ∃ w, p.run t.world = .ok () w ∧ t' = t.withWorld w
  := by
  cases hrun : p.run t.world with
  | ok a w =>
      rw [run_onServer_ok hrun] at h
      cases h
      exact ⟨w, rfl, rfl⟩
  | error fault w =>
      rw [run_onServer_error hrun] at h
      cases h

theorem run_onController_eq_ok {p : InputM Unit} (h : (onController p).run t = .ok () t') :
  t' = { t with controller := exit p t.controller }
  := by
  rw [EStateM.run, onController] at h
  cases hrun : p.run t.controller with
  | ok a controller =>
      rw [hrun] at h
      cases h
      rw [exit_ok hrun]
  | error fault controller =>
      rw [hrun] at h
      cases h

end Run

/-- The main function of the example server. -/
def main (text : BufferText) (rand : Trace → Nat) : Routine MainPoint TerminalStep Terminal :=
  fun t point =>
    (ExampleServer.main text rand t.world point).map fun next => (.server next.1, next.2)

/-- What happens outside the main function. -/
def Outside (_ : Terminal) : TerminalStep → Prop
  | .server (.arrive _) => True
  | .server (.queue _) => True
  | .input (.type _) => True
  | .input .endInput => True
  | .input (.waitForInput _) => True
  | .input .pollInput => True
  | _ => False

instance (t : Terminal) (s : TerminalStep) : Decidable (Outside t s) :=
  match s with
  | .server (.arrive _) => .isTrue trivial
  | .server (.queue _) => .isTrue trivial
  | .server (.enter _) => .isFalse id
  | .server (.setMaxProcessedPackets _) => .isFalse id
  | .server (.setPacketCallback _) => .isFalse id
  | .server (.setConnectionStatusChangeCallback _) => .isFalse id
  | .server .openConnection => .isFalse id
  | .server .updateConnection => .isFalse id
  | .server (.call _) => .isFalse id
  | .input (.type _) => .isTrue trivial
  | .input .endInput => .isTrue trivial
  | .input (.waitForInput _) => .isTrue trivial
  | .input .pollInput => .isTrue trivial
  | .input .inputAvailable => .isFalse id
  | .input .readInput => .isFalse id
  | .input .requestExit => .isFalse id

/-- How far the main function can get, from a new server with a new input controller. -/
def MainReaches (net : ISteamNetworkingSockets) (text : BufferText) (rand : Trace → Nat)
    (progress : Progress MainPoint TerminalFault) (t : Terminal) : Prop :=
  ∃ socket group, Routine.Reaches (step net) Outside (main text rand) .constructed
    ⟨newServer "127.0.0.1" 8080 socket group, newInputController⟩ progress t

/-! ### Reading the queue -/

/-- What is left of the input queue is what was at its end. -/
def ReadsOn (w w' : World Server) : Prop :=
  w'.self.inputQueue <:+ w.self.inputQueue

theorem readsOn_of_keepsFlags {w w' : World Server} (h : KeepsFlags w w') :
  ReadsOn w w'
  := ⟨[], h.input⟩

theorem processUserInputLines_readsOn (lines : List String) {w : World Server}
    (hw : w.self.inputQueue = lines) :
  (exit (processUserInputLines lines) w).self.inputQueue <:+ lines
  := by
  induction lines generalizing w with
  | nil => exact ⟨[], hw⟩
  | cons input rest ih =>
      by_cases hquit : input = "/quit"
      · have hend : (exit (processUserInputLines (input :: rest)) w).self.inputQueue = rest := by
          simp only [processUserInputLines, if_pos hquit]
          rfl
        rw [hend]
        apply List.suffix_cons
      · have hend : exit (processUserInputLines (input :: rest)) w
            = exit (processUserInputLines rest)
              { self := { w.self with inputQueue := rest }
                trace := .log .error "The server only knows one command: '/quit'" :: w.trace } := by
          simp only [processUserInputLines, if_neg hquit]
          rfl
        rw [hend]
        exact (ih rfl).trans (List.suffix_cons input rest)

instance : Std.Refl ReadsOn where
  refl _ := List.suffix_refl _

instance : IsTrans (World Server) ReadsOn where
  trans _ _ _ h h' := List.IsSuffix.trans h' h

/-- Every step but the entering of a line reads the queue at most. -/
theorem step_readsOn {s : ServerStep} (hs : ∀ line, s ≠ .enter line) :
  Moves ReadsOn (Server.step net s)
  := by
  cases s with
  | enter line => exact absurd rfl (hs line)
  | updateConnection =>
      apply Moves.get_bind
      intro w
      apply Moves.ite
      · intro _
        apply Moves.pure
      intro _
      apply Moves.bind (processPendingPackets_keepsFlags.mono fun _ _ h => readsOn_of_keepsFlags h)
      intro _
      apply Moves.bind
        (processConnectionStateChanges_keepsFlags.mono fun _ _ h => readsOn_of_keepsFlags h)
      intro _ w
      apply processUserInputLines_readsOn w.self.inputQueue rfl
  | openConnection =>
      intro w
      cases hparse : net.parseString w.trace w.self.address with
      | true =>
          rw [Server.step, exit_ok (run_openConnection_parsed hparse)]
          exact List.suffix_refl _
      | false =>
          rw [Server.step, exit_ok (run_openConnection_unparsed hparse)]
          exact List.suffix_refl _
  | call c =>
      intro w
      rw [run_step_call]
      exact readsOn_of_keepsFlags (perform_keepsFlags c w)
  | _ => exact fun w => List.suffix_refl _

/-! ### The poll thread -/

/-- The inputs that have been had begin with the first. -/
theorem head_of_consumes {typed inputs console : List ConsoleInput} {input : ConsoleInput}
    (h : InputController.Consumes typed (input :: inputs) console) :
  [input.text] <+: (typed.take 1).map ConsoleInput.text
  := by
  cases h with
  | line text h => exact List.prefix_refl _
  | ended h => exact List.prefix_refl _

/-- Only the first line that is typed reaches the queue, or the empty line if the input ends
first. -/
theorem entered_first {s : InputController} (h : s.Staged) :
  s.entered <+: (s.typed.take 1).map ConsoleInput.text
  := by
  obtain ⟨console, readers, point, future, exitRequested, queue, typed, completed, entered, read,
    discarded⟩ := s
  obtain ⟨hstage, htyped, -, -, -⟩ := h
  dsimp only at hstage htyped ⊢
  cases hstage with
  | restarting input => exact head_of_consumes htyped
  | joining input r => exact head_of_consumes htyped
  | checkingAgain input lost => exact head_of_consumes htyped
  | testingAgain input lost => exact head_of_consumes htyped
  | leavingAgain input lost => exact head_of_consumes htyped
  | leftAgain input lost => exact head_of_consumes htyped
  | _ => exact List.nil_prefix

/-- A line that has entered the queue has done so for good. -/
theorem pollInput_entered (line : String) :
  Keeps (fun s => line ∈ s.entered) InputController.pollInput
  := by
  have hdestroy : ∀ reader point, Keeps (fun s => line ∈ s.entered)
      (InputController.destroyFuture reader point) := by
    intro reader point
    apply Moves.modify
    intro s h
    split <;> exact h
  apply Moves.get_bind
  intro s
  cases s.pollPoint with
  | starting => exact fun s h => h
  | checking => apply Moves.ite <;> exact fun _ s h => h
  | testing =>
      cases s.inputFuture with
      | none => apply Moves.throw
      | some reader => apply Moves.ite <;> exact fun _ s h => h
  | collecting =>
      cases s.inputFuture with
      | none => apply Moves.throw
      | some reader =>
          dsimp only
          cases s.ready reader <;> exact fun s h => h
  | adding input => exact fun s h => List.mem_append_left [input] h
  | restarting => exact fun s h => h
  | joining reader => apply hdestroy
  | leaving =>
      cases s.inputFuture with
      | none => exact fun s h => h
      | some reader => apply hdestroy
  | left => apply Moves.pure

/-- What happens outside the main function leaves the lines that have been entered. -/
theorem outside_entered (line : String) {i : InputStep} {t : Terminal} (hi : Outside t (.input i)) :
  Keeps (fun s => line ∈ s.entered) (InputController.step i)
  := by
  cases i with
  | type typed => exact fun s h => h
  | endInput => exact fun s h => h
  | waitForInput reader =>
      apply Moves.modify
      intro s h
      split <;> exact h
  | pollInput => exact pollInput_entered line
  | _ => cases hi

/-- The main thread reads lines that were in the queue. -/
theorem withWorld_staged {t : Terminal} (h : t.controller.Staged) {w : World Server}
    (hw : w.self.inputQueue <:+ t.controller.inputQueue) :
  (t.withWorld w).controller.Staged
  where
  stage := h.stage
  typed := h.typed
  completed := h.completed
  entered := by
    obtain ⟨consumed, hconsumed⟩ := hw
    simp only [withWorld]
    rw [h.entered, ← hconsumed, List.length_append, Nat.add_sub_cancel, List.take_left',
      List.append_assoc]
    rfl
  exit := h.exit

/-! ### Runs of the main function -/

/-- Effects that leave the server open do not close it. -/
theorem timesClosed_unclosing {w w' : World Server} (h : Effects net unclosing w w') :
  timesClosed w'.trace = timesClosed w.trace
  := by
  obtain ⟨es, hes, hmay⟩ := h.goesOnBy
  rw [hes]
  apply timesClosed_append
  rintro e he socket rfl
  apply hmay _ he

/-- A step of the main function asks the server to quit only if it reads `/quit`. -/
theorem main_quit (hnet : net.RefusesClosed) (hmembers : net.ReceivesFromMembers)
    (hdispatches : net.DispatchesQueued) {point point' : MainPoint} {s : ServerStep}
    {w w' : World Server} (hw : ExampleServer.AtPoint text rand point w)
    (hnext : ExampleServer.main text rand w point = some (s, point'))
    (hrun : (Server.step net s).run w = .ok () w') (hquit : w'.self.quitRequested = true) :
  w.self.quitRequested = true ∨ "/quit" ∈ w.self.inputQueue
  := by
  cases point with
  | constructed =>
      cases hnext
      cases hrun
      left
      apply hquit
  | receiving =>
      cases hnext
      cases hrun
      left
      apply hquit
  | configured =>
      cases hnext
      obtain ⟨w₁, hopening, -, hsame, -⟩ := @run_openConnection_flags net w
      rw [← exit_ok hrun, Server.step, exit_ok hopening, hsame] at hquit
      left
      apply hquit
  | looping =>
      cases hbefore : w.self.quitRequested with
      | true =>
          left
          rfl
      | false =>
          simp only [ExampleServer.main, hbefore] at hnext
          cases hnext
          right
          cases hrunning : w.self.running with
          | false =>
              rw [Server.step, run_updateConnection_stopped (.inr hrunning)] at hrun
              cases hrun
              rw [hbefore] at hquit
              cases hquit
          | true =>
              have hupdate := updateConnection_unclosing hnet hmembers hdispatches hw hrunning w rfl
              rw [Server.step] at hrun
              rw [hrun] at hupdate
              have hopen := timesClosed_unclosing hupdate
              have hflags := (step_flags (s := .updateConnection) hrun).2.2.mp hquit
              rw [hbefore, hopen] at hflags
              simp only [Bool.false_eq_true, false_or, Nat.lt_irrefl] at hflags
              apply hflags.2
  | closed => cases hnext

/-- The step to the end of the main function closes the server. -/
theorem main_closes {point : MainPoint} {s : ServerStep} {w w' : World Server}
    (hnext : ExampleServer.main text rand w point = some (s, .closed))
    (hrun : (Server.step net s).run w = .ok () w') :
  w'.self.quitRequested = true
  := by
  cases point with
  | looping =>
      cases hquit : w.self.quitRequested with
      | true =>
          simp only [ExampleServer.main, hquit, if_true] at hnext
          cases hnext
          rw [← exit_ok hrun, run_step_call, perform, exit_ok (run_closeConnection w)]
          rfl
      | false =>
          simp only [ExampleServer.main, hquit] at hnext
          cases hnext
  | _ => cases hnext

/-- What holds at the points of the main function: the poll thread is in its stages, and the server
has been asked to quit only if `/quit` has been entered into the queue. -/
structure AtPoint (text : BufferText) (rand : Trace → Nat) (point : MainPoint)
    (t : Terminal) : Prop where
  server : ExampleServer.AtPoint text rand point t.world
  staged : t.controller.Staged
  quit : t.server.self.quitRequested = true → "/quit" ∈ t.controller.entered
  closed : point = .closed → t.server.self.quitRequested = true

/-- The steps of the main function carry what holds at its points. -/
theorem main_carries (hnet : net.RefusesClosed) (hmembers : net.ReceivesFromMembers)
    (hdispatches : net.DispatchesQueued) :
  Routine.Carries (step net) (main text rand) (AtPoint text rand) fun _ t => t.controller.Staged
  := by
  rintro point i point' t ⟨ht, hnext⟩
  obtain ⟨⟨s, _⟩, hmain, hnext⟩ := Option.map_eq_some_iff.mp hnext
  cases hnext
  have hserver := ExampleServer.main_carries hnet hmembers hdispatches point s _ t.world
    ⟨ht.server, hmain⟩
  have hreads := @step_readsOn net s
    (fun line heq => main_not_outside hmain (by rw [heq]; trivial)) t.world
  cases hrun : (Server.step net s).run t.world with
  | error fault w =>
      rw [exit_error hrun] at hreads
      rw [step, run_onServer_error hrun]
      exact withWorld_staged ht.staged hreads
  | ok a w =>
      rw [hrun] at hserver
      rw [exit_ok hrun] at hreads
      rw [step, run_onServer_ok hrun]
      refine ⟨hserver, withWorld_staged ht.staged hreads, ?_, ?_⟩
      · intro hquit
        rcases main_quit hnet hmembers hdispatches ht.server hmain hrun hquit with hquit | hqueue
        · apply ht.quit hquit
        · show "/quit" ∈ t.controller.entered
          rw [ht.staged.entered]
          apply List.mem_append_right _ hqueue
      · rintro rfl
        apply main_closes hmain hrun

/-- What happens outside the main function keeps what holds at its points. -/
theorem main_stable (hnet : net.RefusesClosed) :
  Routine.Stable (step net) Outside (AtPoint text rand)
  := by
  intro point i t t' ht hi hrun
  cases i with
  | server s =>
      obtain ⟨w, hserver, rfl⟩ := run_onServer_eq_ok hrun
      have hs : ExampleServer.Outside t.world s := by cases s <;> trivial
      have hreads := @step_readsOn net s (by rintro line rfl; cases hi) t.world
      rw [exit_ok hserver] at hreads
      obtain ⟨heffects, hconnections, hquit⟩ := outside_run hs hserver
      constructor
      · exact ExampleServer.AtPoint.outside hnet ht.server heffects hconnections hquit
      · exact withWorld_staged ht.staged hreads
      · intro h
        apply ht.quit (hquit ▸ h)
      · intro h
        exact hquit.trans (ht.closed h)
  | input i =>
      rw [run_onController_eq_ok hrun]
      constructor
      · have heffects : Effects net unclosing t.world (world { t with
            controller := exit (InputController.step i) t.controller }) :=
          .single (.input _ t.server.self.quitRequested id)
        exact ExampleServer.AtPoint.outside hnet ht.server heffects rfl rfl
      · exact InputController.step_staged i t.controller ht.staged
      · intro h
        apply outside_entered "/quit" hi t.controller (ht.quit h)
      · apply ht.closed

/-- The main function reads nothing from the console but the first line that is typed, or an empty
line if the input ends before one is, and if it returns, that line is `/quit`. -/
theorem main_reads_first_line (hnet : net.RefusesClosed) (hmembers : net.ReceivesFromMembers)
    (hdispatches : net.DispatchesQueued) {progress : Progress MainPoint TerminalFault}
    {t : Terminal} (h : MainReaches net text rand progress t) :
  t.controller.read <+: (t.controller.typed.take 1).map ConsoleInput.text ∧
    (progress = .reached .closed → t.controller.typed.head? = some (.line "/quit"))
  := by
  obtain ⟨socket, group, h⟩ := h
  have hnew : AtPoint text rand .constructed
      ⟨newServer "127.0.0.1" 8080 socket group, newInputController⟩ :=
    ⟨newServer_unopened socket group, InputController.newInputController_staged, nofun, nofun⟩
  have hholds := h.holds (main_carries hnet hmembers hdispatches) (main_stable hnet) hnew
  have hread : ∀ {s : InputController}, s.Staged →
      s.read <+: (s.typed.take 1).map ConsoleInput.text := by
    intro s hs
    apply List.IsPrefix.trans _ (entered_first hs)
    rw [hs.entered]
    apply List.prefix_append
  cases progress with
  | failed fault => exact ⟨hread hholds, nofun⟩
  | reached point =>
      use hread hholds.staged
      rintro ⟨⟩
      have hquit := hholds.quit (hholds.closed rfl)
      have htyped := (entered_first hholds.staged).subset hquit
      cases hinputs : t.controller.typed with
      | nil =>
          rw [hinputs] at htyped
          cases htyped
      | cons input inputs =>
          rw [hinputs] at htyped
          have htext : "/quit" = input.text := by simpa using htyped
          cases input with
          | line line =>
              rw [htext]
              rfl
          | ended => simp at htext

/-- `/quit` is typed first, and another line after it, and the input ends. -/
def quittingFirst : List (Option TerminalStep) :=
  [none, none, none, some (.input (.type "/quit")), some (.input (.type "hello")),
    some (.input .endInput), some (.input .pollInput), some (.input .pollInput),
    some (.input (.waitForInput 0)), some (.input (.waitForInput 0)), none,
    some (.input .pollInput), some (.input .pollInput), some (.input .pollInput), none, none]

/-- Two lines are typed, of which the first is `/quit`. -/
theorem quittingFirst_reads_first_line :
  ∃ progress t, MainReaches queueNetworking (fun _ _ => some "") (fun _ => 7) progress t ∧
    t.controller.read <+: (t.controller.typed.take 1).map ConsoleInput.text ∧
      (progress = .reached .closed → t.controller.typed.head? = some (.line "/quit"))
  := by
  have hfollow : (Routine.follow (step queueNetworking) Outside
      (main (fun _ _ => some "") fun _ => 7) quittingFirst .constructed
      ⟨newServer "127.0.0.1" 8080 0 0, newInputController⟩).map Prod.fst
      = some (.reached .closed) := by
    decide +kernel
  obtain ⟨⟨_, t⟩, hfollow, rfl⟩ := Option.map_eq_some_iff.mp hfollow
  have hreaches : MainReaches queueNetworking (fun _ _ => some "") (fun _ => 7)
      (.reached .closed) t :=
    ⟨0, 0, Routine.Reaches.of_follow hfollow⟩
  exact ⟨_, t, hreaches, main_reads_first_line queueNetworking_refusesClosed
    queueNetworking_receivesInOrder.fromMembers queueNetworking_dispatchesQueued hreaches⟩

end Terminal

end ExampleServer

end Chs
