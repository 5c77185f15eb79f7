import ChaosInMultiplayer.Input.InputController
import ChaosInMultiplayer.Program.Ensures

/-!
# The console pipeline

`pollInput` collects the reader it starts first.  The future it starts in the body of its loop
is a variable of its own: its destructor waits for the second reader and drops its line, and
`input_future` has no shared state any more when the loop comes to it again.  So the first line
reaches the queue, the second is lost, and the thread then waits on a future with no shared
state.  At the end of the input readers return at once, so the thread then comes to that without
a second line, and an empty line that nobody has typed may reach the queue.
-/

namespace Chs

namespace InputController

open Program

/-! ### What comes from the console -/

/-- The readers have had the inputs from what has been typed, one after another, and the rest is on
the console.  The end of the input is had again and again. -/
inductive Consumes : List ConsoleInput → List ConsoleInput → List ConsoleInput → Prop
  | nil (console : List ConsoleInput) : Consumes console [] console
  | line {typed inputs console : List ConsoleInput} (text : String)
      (h : Consumes typed inputs console) :
      Consumes (.line text :: typed) (.line text :: inputs) console
  | ended {typed inputs console : List ConsoleInput}
      (h : Consumes (.ended :: typed) inputs console) :
      Consumes (.ended :: typed) (.ended :: inputs) console

section Consumes

variable {typed inputs console : List ConsoleInput}

/-- A reader takes the next line from the console. -/
theorem Consumes.takes {text : String} (h : Consumes typed inputs (.line text :: console)) :
  Consumes typed (inputs ++ [.line text]) console
  := by
  generalize hrest : .line text :: console = rest at h
  induction h with
  | nil rest =>
      subst hrest
      exact .line text (.nil console)
  | line other _ ih => exact .line other (ih hrest)
  | ended _ ih => exact .ended (ih hrest)

/-- A reader finds the end of the input, which stays on the console. -/
theorem Consumes.ends (h : Consumes typed inputs (.ended :: console)) :
  Consumes typed (inputs ++ [.ended]) (.ended :: console)
  := by
  generalize hrest : .ended :: console = rest at h
  induction h with
  | nil rest =>
      subst hrest
      exact .ended (.nil _)
  | line other _ ih => exact .line other (ih hrest)
  | ended _ ih => exact .ended (ih hrest)

/-- More is typed. -/
theorem Consumes.comes (h : Consumes typed inputs console) (input : ConsoleInput) :
  Consumes (typed ++ [input]) inputs (console ++ [input])
  := by
  induction h with
  | nil console => exact .nil _
  | line text _ ih => exact .line text ih
  | ended _ ih => exact .ended ih

/-- The first input is the first that has been typed. -/
theorem Consumes.head {input : ConsoleInput} (h : Consumes typed (input :: inputs) console) :
  typed.head? = some input
  := by
  cases h <;> rfl

/-- Two inputs are had only if two have been typed or the input has ended. -/
theorem Consumes.two {first second : ConsoleInput} (h : Consumes typed [first, second] console) :
  2 ≤ typed.length ∨ .ended ∈ typed
  := by
  cases h with
  | line text h =>
      left
      cases h <;> simp
  | ended h =>
      right
      apply List.mem_cons_self

end Consumes

/-! ### The stages of the poll thread -/

/-- The states the poll thread goes through: where it is, its readers, the reader of
`input_future`, the lines it has entered into the queue and those it has discarded. -/
inductive Stage :
    PollPoint → List Reader → Option Nat → List String → List String → Prop
  | starting : Stage .starting [] none [] []
  | checking (r : Reader) : Stage .checking [r] (some 0) [] []
  | testing (r : Reader) : Stage .testing [r] (some 0) [] []
  | collecting (input : ConsoleInput) : Stage .collecting [.finished input] (some 0) [] []
  | adding (input : ConsoleInput) : Stage (.adding input.text) [.finished input] none [] []
  | restarting (input : ConsoleInput) :
      Stage .restarting [.finished input] none [input.text] []
  | joining (input : ConsoleInput) (r : Reader) :
      Stage (.joining 1) [.finished input, r] none [input.text] []
  | checkingAgain (input lost : ConsoleInput) :
      Stage .checking [.finished input, .finished lost] none [input.text] lost.taken.toList
  | testingAgain (input lost : ConsoleInput) :
      Stage .testing [.finished input, .finished lost] none [input.text] lost.taken.toList
  | leaving (r : Reader) : Stage .leaving [r] (some 0) [] []
  | leavingAgain (input lost : ConsoleInput) :
      Stage .leaving [.finished input, .finished lost] none [input.text] lost.taken.toList
  | left (input : ConsoleInput) : Stage .left [.finished input] (some 0) [] input.taken.toList
  | leftAgain (input lost : ConsoleInput) :
      Stage .left [.finished input, .finished lost] none [input.text] lost.taken.toList

/-- What holds in every state of every run. -/
structure Staged (s : InputController) : Prop where
  stage : Stage s.pollPoint s.readers s.inputFuture s.entered s.discarded
  typed : Consumes s.typed (s.readers.filterMap Reader.input) s.console
  completed : s.completed = s.readers.filterMap Reader.taken
  entered : s.entered = s.read ++ s.inputQueue
  exit : s.pollPoint = .leaving ∨ s.pollPoint = .left → s.exitRequested

theorem newInputController_staged :
  Staged newInputController
  where
  stage := .starting
  typed := .nil []
  completed := rfl
  entered := rfl
  exit := by simp [newInputController]

/-- Each step of the poll thread leads from stage to stage. -/
theorem pollInput_staged :
  Keeps Staged pollInput
  := by
  rintro ⟨console, readers, point, future, exitRequested, queue, typed, completed, entered, read,
    discarded⟩ ⟨hstage, htyped, hcompleted, hentered, hexit⟩
  dsimp only at hstage htyped hcompleted hentered hexit
  cases hstage with
  | starting => exact ⟨.checking _, htyped, hcompleted, hentered, nofun⟩
  | checking r =>
      cases exitRequested with
      | true => exact ⟨.leaving r, htyped, hcompleted, hentered, fun _ => rfl⟩
      | false => exact ⟨.testing r, htyped, hcompleted, hentered, nofun⟩
  | testing r =>
      cases r with
      | finished input => exact ⟨.collecting input, htyped, hcompleted, hentered, nofun⟩
      | waiting => exact ⟨.checking _, htyped, hcompleted, hentered, nofun⟩
      | returning input => exact ⟨.checking _, htyped, hcompleted, hentered, nofun⟩
  | collecting input => exact ⟨.adding input, htyped, hcompleted, hentered, nofun⟩
  | adding input =>
      have hadded : [input.text] = read ++ (queue ++ [input.text]) := by
        rw [← List.append_assoc, ← hentered, List.nil_append]
      exact ⟨.restarting input, htyped, hcompleted, hadded, nofun⟩
  | restarting input => exact ⟨.joining input _, htyped, hcompleted, hentered, nofun⟩
  | joining input r =>
      cases r with
      | finished lost => exact ⟨.checkingAgain input lost, htyped, hcompleted, hentered, nofun⟩
      | waiting => exact ⟨.joining input _, htyped, hcompleted, hentered, nofun⟩
      | returning lost => exact ⟨.joining input _, htyped, hcompleted, hentered, nofun⟩
  | checkingAgain input lost =>
      cases exitRequested with
      | true => exact ⟨.leavingAgain input lost, htyped, hcompleted, hentered, fun _ => rfl⟩
      | false => exact ⟨.testingAgain input lost, htyped, hcompleted, hentered, nofun⟩
  | testingAgain input lost => exact ⟨.testingAgain input lost, htyped, hcompleted, hentered, nofun⟩
  | leaving r =>
      cases r with
      | finished input =>
          exact ⟨.left input, htyped, hcompleted, hentered, fun _ => hexit (.inl rfl)⟩
      | waiting => exact ⟨.leaving _, htyped, hcompleted, hentered, hexit⟩
      | returning input => exact ⟨.leaving _, htyped, hcompleted, hentered, hexit⟩
  | leavingAgain input lost =>
      exact ⟨.leftAgain input lost, htyped, hcompleted, hentered, fun _ => hexit (.inl rfl)⟩
  | left input => exact ⟨.left input, htyped, hcompleted, hentered, hexit⟩
  | leftAgain input lost => exact ⟨.leftAgain input lost, htyped, hcompleted, hentered, hexit⟩

/-- Only the latest reader has not finished, and the stage does not depend on how far it is. -/
theorem Stage.unfinished {point : PollPoint} {readers : List Reader} {future : Option Nat}
    {entered discarded : List String} (h : Stage point readers future entered discarded)
    {i : Nat} {r : Reader} (hr : readers[i]? = some r) (hresult : r.result = none) :
  ∃ init, readers = init ++ [r] ∧ i = init.length ∧
    ∀ r', Stage point (init ++ [r']) future entered discarded
  := by
  have hone : ∀ x : Reader, [x][i]? = some r → i = 0 ∧ x = r := by
    intro x hx
    cases i with
    | zero => exact ⟨rfl, by simpa using hx⟩
    | succ i => simp at hx
  have htwo : ∀ line x, [.finished line, x][i]? = some r → i = 1 ∧ x = r := by
    intro line x hx
    cases i with
    | zero =>
        have hfinished : .finished line = r := by simpa using hx
        rw [← hfinished] at hresult
        cases hresult
    | succ i =>
        cases i with
        | zero => exact ⟨rfl, by simpa using hx⟩
        | succ i => simp at hx
  cases h with
  | starting => simp at hr
  | checking x =>
      obtain ⟨rfl, rfl⟩ := hone x hr
      exact ⟨[], rfl, rfl, .checking⟩
  | testing x =>
      obtain ⟨rfl, rfl⟩ := hone x hr
      exact ⟨[], rfl, rfl, .testing⟩
  | leaving x =>
      obtain ⟨rfl, rfl⟩ := hone x hr
      exact ⟨[], rfl, rfl, .leaving⟩
  | joining line x =>
      obtain ⟨rfl, rfl⟩ := htwo line x hr
      exact ⟨[.finished line], rfl, rfl, .joining line⟩
  | collecting line => cases (hone _ hr).2; cases hresult
  | adding line => cases (hone _ hr).2; cases hresult
  | restarting line => cases (hone _ hr).2; cases hresult
  | left line => cases (hone _ hr).2; cases hresult
  | checkingAgain line lost => cases (htwo line _ hr).2; cases hresult
  | testingAgain line lost => cases (htwo line _ hr).2; cases hresult
  | leavingAgain line lost => cases (htwo line _ hr).2; cases hresult
  | leftAgain line lost => cases (htwo line _ hr).2; cases hresult

/-- The reader that goes on is the last, so what it has had comes last too. -/
theorem filterMap_append_singleton {β : Type} (f : Reader → Option β) (init : List Reader)
    (r : Reader) :
  (init ++ [r]).filterMap f = init.filterMap f ++ (f r).toList
  := by
  rw [List.filterMap_append]
  cases h : f r <;> simp [h]

/-- A reader that has not finished goes on, having what comes from the console. -/
theorem Staged.advance {s : InputController} (h : Staged s) {i : Nat} {r : Reader}
    (hr : s.readers[i]? = some r) (hresult : r.result = none) (r' : Reader)
    {console : List ConsoleInput} {completed : List String}
    (hconsumes : ∀ {inputs}, Consumes s.typed (inputs ++ r.input.toList) s.console →
      Consumes s.typed (inputs ++ r'.input.toList) console)
    (hcompleted : completed = s.completed ++ r'.taken.toList) :
  Staged
    { s with console := console, readers := s.readers.set i r', completed := completed }
  := by
  obtain ⟨init, hinit, rfl, hstage⟩ := h.stage.unfinished hr hresult
  have hset : s.readers.set init.length r' = init ++ [r'] := by
    rw [hinit, List.set_append_right _ _ (Nat.le_refl _), Nat.sub_self, List.set_cons_zero]
  have htaken : r.taken = none := by
    cases r <;> first | rfl | cases hresult
  have htyped := h.typed
  rw [hinit, filterMap_append_singleton] at htyped
  constructor
  · rw [hset]
    apply hstage
  · rw [hset, filterMap_append_singleton]
    apply hconsumes htyped
  · rw [hset, hcompleted, h.completed, hinit, filterMap_append_singleton,
      filterMap_append_singleton, htaken, Option.toList_none, List.append_nil]
  · apply h.entered
  · apply h.exit

/-- A reader takes a line, finds the end of the input, or finishes. -/
theorem waitForInput_staged (reader : Nat) :
  Keeps Staged (waitForInput reader)
  := by
  apply Moves.modify
  intro s h
  split
  · rename_i text rest hreader hconsole
    apply h.advance hreader rfl (.returning (.line text)) _ (List.append_nil _).symm
    intro inputs hinputs
    rw [hconsole, Reader.input, Option.toList_none, List.append_nil] at hinputs
    apply hinputs.takes
  · rename_i rest hreader hconsole
    apply h.advance hreader rfl (.returning .ended) _ (List.append_nil _).symm
    intro inputs hinputs
    rw [hconsole, Reader.input, Option.toList_none, List.append_nil] at hinputs
    rw [hconsole]
    apply hinputs.ends
  · rename_i input hreader
    exact h.advance hreader rfl (.finished input) id rfl
  · apply h

/-- What comes to the console is had by no reader yet. -/
theorem comes_staged (input : ConsoleInput) :
  Keeps Staged (comes input)
  := by
  apply Moves.modify
  intro s h
  exact ⟨h.stage, h.typed.comes input, h.completed, h.entered, h.exit⟩

/-- Every step keeps the poll thread in its stages. -/
theorem step_staged (i : InputStep) :
  Keeps Staged (step i)
  := by
  cases i with
  | type line => exact comes_staged (.line line)
  | endInput => exact comes_staged .ended
  | waitForInput reader => apply waitForInput_staged
  | pollInput => apply pollInput_staged
  | inputAvailable => exact fun s h => h
  | readInput =>
      intro s h
      cases hqueue : s.inputQueue with
      | nil =>
          rw [step, exit_bind_error _ (run_readInput_nil hqueue)]
          apply h
      | cons input rest =>
          rw [step, exit_bind_ok _ (run_readInput_cons hqueue)]
          have hentered : s.entered = (s.read ++ [input]) ++ rest := by
            rw [h.entered, hqueue, List.append_assoc, List.singleton_append]
          exact ⟨h.stage, h.typed, h.completed, hentered, h.exit⟩
  | requestExit =>
      apply Moves.modify
      intro s h
      exact ⟨h.stage, h.typed, h.completed, h.entered, fun _ => rfl⟩

/-! ### What a run owes -/

/-- The lines entered into the queue are those of the readers that have finished, in order and
once each, up to the one line of a reader that has not been collected; no line has been
discarded; and the main thread reads the lines in the order in which they were entered. -/
structure Flows (s : InputController) : Prop where
  entered : s.entered <+: s.completed
  uncollected : s.completed.length ≤ s.entered.length + 1
  discarded : s.discarded = []
  queue : s.entered = s.read ++ s.inputQueue

/-- A run whose state is right as long as no exit is requested, and that does not wait on a future
with no shared state. -/
structure Pipes (steps : List InputStep) : Prop where
  flows : (exit (runSteps steps) newInputController).exitRequested = false →
    Flows (exit (runSteps steps) newInputController)
  waits : ∀ s, (runSteps steps).run newInputController = .error .noState s →
    s.exitRequested

/-- What comes to the console in a run of the steps. -/
def consoleInputs (steps : List InputStep) : List ConsoleInput :=
  steps.filterMap fun
    | .type line => some (.line line)
    | .endInput => some .ended
    | _ => none

/-- At most one line has come to the console, and the input has not ended. -/
structure OneLine (inputs : List ConsoleInput) : Prop where
  few : inputs.length ≤ 1
  going : .ended ∉ inputs

theorem OneLine.of_prefix {inputs inputs' : List ConsoleInput} (h : OneLine inputs)
    (hfirst : inputs' <+: inputs) :
  OneLine inputs'
  := by
  constructor
  · apply Nat.le_trans hfirst.length_le h.few
  · intro hended
    apply h.going (hfirst.subset hended)

/-- The one input that has been had is a line. -/
theorem OneLine.line {typed inputs console : List ConsoleInput} {input : ConsoleInput}
    (h : OneLine typed) (hinputs : Consumes typed (input :: inputs) console) :
  ∃ text, input = .line text
  := by
  cases input with
  | line text => exact ⟨text, rfl⟩
  | ended => exact absurd (List.mem_of_mem_head? hinputs.head) h.going

/-- No second input has been had. -/
theorem OneLine.not_two {typed console : List ConsoleInput} {first second : ConsoleInput}
    (h : OneLine typed) :
  ¬ Consumes typed [first, second] console
  := by
  intro hinputs
  rcases hinputs.two with hmany | hended
  · have hfew := h.few
    omega
  · apply h.going hended

/-- While one line has been typed, the poll thread has not come to its loop again. -/
theorem Staged.flows {s : InputController} (h : Staged s) (hone : OneLine s.typed)
    (hrunning : s.exitRequested = false) :
  Flows s
  := by
  obtain ⟨console, readers, point, future, exitRequested, queue, typed, completed, entered, read,
    discarded⟩ := s
  obtain ⟨hstage, htyped, hcompleted, hentered, hexit⟩ := h
  dsimp only at hstage htyped hcompleted hentered hexit hone hrunning
  subst hcompleted hrunning
  have hlength := List.length_filterMap_le Reader.taken readers
  cases hstage with
  | starting => exact ⟨List.nil_prefix, by simp, rfl, hentered⟩
  | checking r => exact ⟨List.nil_prefix, hlength, rfl, hentered⟩
  | testing r => exact ⟨List.nil_prefix, hlength, rfl, hentered⟩
  | collecting input => exact ⟨List.nil_prefix, hlength, rfl, hentered⟩
  | adding input => exact ⟨List.nil_prefix, hlength, rfl, hentered⟩
  | restarting input =>
      obtain ⟨text, rfl⟩ := hone.line htyped
      exact ⟨⟨_, rfl⟩, by simp, rfl, hentered⟩
  | joining input r =>
      obtain ⟨text, rfl⟩ := hone.line htyped
      exact ⟨⟨_, rfl⟩, hlength, rfl, hentered⟩
  | checkingAgain input lost => exact absurd htyped hone.not_two
  | testingAgain input lost => exact absurd htyped hone.not_two
  | leaving r => cases hexit (.inl rfl)
  | leavingAgain input lost => cases hexit (.inl rfl)
  | left input => cases hexit (.inr rfl)
  | leftAgain input lost => cases hexit (.inr rfl)

/-- Only the poll thread waits on a future, and it has one with no shared state only after two
readers have returned. -/
theorem Staged.noState {s s' : InputController} (h : Staged s) {i : InputStep}
    (hrun : (step i).run s = .error .noState s') :
  ¬ OneLine s'.typed
  := by
  intro hone
  cases i with
  | pollInput =>
      obtain ⟨console, readers, point, future, exitRequested, queue, typed, completed, entered,
        read, discarded⟩ := s
      obtain ⟨hstage, htyped, -, -, -⟩ := h
      dsimp only at hstage htyped
      cases hstage with
      | testingAgain input lost =>
          cases hrun
          apply hone.not_two htyped
      | checking r => cases exitRequested <;> cases hrun
      | checkingAgain input lost => cases exitRequested <;> cases hrun
      | testing r => cases r <;> cases hrun
      | _ => cases hrun
  | readInput =>
      cases hqueue : s.inputQueue with
      | nil =>
          rw [step, EStateM.run_bind, run_readInput_nil hqueue] at hrun
          cases hrun
      | cons input rest =>
          rw [step, EStateM.run_bind, run_readInput_cons hqueue] at hrun
          cases hrun
  | _ => cases hrun

section Typed

variable (inputs : List ConsoleInput)

theorem destroyFuture_typed (reader : Nat) (point : PollPoint) :
  Keeps (fun s => s.typed = inputs) (destroyFuture reader point)
  := by
  apply Moves.modify
  intro s h
  split <;> exact h

/-- The poll thread types nothing. -/
theorem pollInput_typed :
  Keeps (fun s => s.typed = inputs) pollInput
  := by
  apply Moves.get_bind
  intro s
  cases s.pollPoint with
  | starting => exact fun s h => h
  | checking => apply Moves.ite <;> exact fun _ s h => h
  | testing =>
      cases s.inputFuture with
      | none => apply Moves.throw
      | some reader => apply Moves.ite <;> exact fun _ s h => h
  | collecting =>
      cases s.inputFuture with
      | none => apply Moves.throw
      | some reader =>
          dsimp only
          cases s.ready reader <;> exact fun s h => h
  | adding input => exact fun s h => h
  | restarting => exact fun s h => h
  | joining reader => apply destroyFuture_typed
  | leaving =>
      cases s.inputFuture with
      | none => exact fun s h => h
      | some reader => apply destroyFuture_typed
  | left => apply Moves.pure

/-- A reader types nothing. -/
theorem waitForInput_typed (reader : Nat) :
  Keeps (fun s => s.typed = inputs) (waitForInput reader)
  := by
  apply Moves.modify
  intro s h
  split <;> exact h

theorem readInput_typed :
  Keeps (fun s => s.typed = inputs) readInput
  := by
  intro s h
  cases hqueue : s.inputQueue with
  | nil => rwa [exit_error (run_readInput_nil hqueue)]
  | cons input rest => rwa [exit_ok (run_readInput_cons hqueue)]

end Typed

/-- What has come to the console so far is what comes in the steps. -/
theorem step_typed (i : InputStep) (s : InputController) :
  (exit (step i) s).typed = s.typed ++ consoleInputs [i]
  := by
  cases i with
  | type line => rfl
  | endInput => rfl
  | waitForInput reader => exact (waitForInput_typed _ reader s rfl).trans (List.append_nil _).symm
  | pollInput => exact (pollInput_typed _ s rfl).trans (List.append_nil _).symm
  | inputAvailable => exact (List.append_nil _).symm
  | readInput =>
      have hread : Keeps (fun s' => s'.typed = s.typed) (step .readInput) :=
        (readInput_typed _).bind fun _ => Moves.pure _
      exact (hread s rfl).trans (List.append_nil _).symm
  | requestExit => exact (List.append_nil _).symm

/-! ### Runs -/

/-- What holds before the steps that are left. -/
def GoesRight (steps : List InputStep) (s : InputController) : Prop :=
  Staged s ∧ OneLine (s.typed ++ consoleInputs steps)

/-- What holds where a run ends with a fault. -/
def StoppedRight (fault : InputFault) (s : InputController) : Prop :=
  fault ≠ .noState ∧ Staged s ∧ OneLine s.typed

/-- As long as one line is typed, no step waits on a future with no shared state. -/
theorem step_ensures (i : InputStep) (steps : List InputStep) :
  Ensures (GoesRight (i :: steps)) (step i) (fun _ => GoesRight steps) StoppedRight
  := by
  rintro s ⟨hstaged, hone⟩
  have hstaged' := step_staged i s hstaged
  have htyped := step_typed i s
  have hinputs : consoleInputs (i :: steps) = consoleInputs [i] ++ consoleInputs steps := by
    rw [consoleInputs, consoleInputs, consoleInputs, ← List.filterMap_append,
      List.singleton_append]
  rw [hinputs, ← List.append_assoc, ← htyped] at hone
  cases hrun : (step i).run s with
  | ok a s' =>
      rw [exit_ok hrun] at hstaged' hone
      exact ⟨hstaged', hone⟩
  | error fault s' =>
      rw [exit_error hrun] at hstaged' hone
      have hone' : OneLine s'.typed := hone.of_prefix (List.prefix_append _ _)
      refine ⟨?_, hstaged', hone'⟩
      rintro rfl
      apply hstaged.noState hrun hone'

/-- A run in which at most one line is typed and the input does not end. -/
theorem pipes_of_oneLine {steps : List InputStep} (hsteps : OneLine (consoleInputs steps)) :
  Pipes steps
  := by
  have hrun : Ensures (GoesRight steps) (runSteps steps) (fun _ => GoesRight []) StoppedRight :=
    Ensures.forM step_ensures steps
  have hnew : GoesRight steps newInputController := ⟨newInputController_staged, hsteps⟩
  constructor
  · intro hrunning
    have hend : Ensures (GoesRight steps) (runSteps steps)
        (fun _ s => Staged s ∧ OneLine s.typed) fun _ s => Staged s ∧ OneLine s.typed := by
      apply hrun.mono (fun _ h => h)
      · rintro _ s ⟨hstaged, hone⟩
        exact ⟨hstaged, hone.of_prefix (List.prefix_append _ _)⟩
      · rintro fault s ⟨-, h⟩
        apply h
    obtain ⟨hstaged, hone⟩ := hend.exit hnew
    apply hstaged.flows hone hrunning
  · intro s hfault
    have hstopped := hrun _ hnew
    rw [hfault] at hstopped
    exact absurd rfl hstopped.1

/-- The step in which something comes to the console. -/
def comesStep : ConsoleInput → InputStep
  | .line text => .type text
  | .ended => .endInput

/-- The poll thread enters what it has from the first reader into the queue and starts a second
reader, whose line is dropped with the future, and comes to its loop again. -/
def twoReaders (inputs : List ConsoleInput) : List InputStep :=
  inputs.map comesStep ++
    [.pollInput, .pollInput, .waitForInput 0, .waitForInput 0, .pollInput, .pollInput, .pollInput,
      .pollInput, .waitForInput 1, .waitForInput 1, .pollInput, .pollInput, .pollInput]

/-- The poll thread waits on a future with no shared state. -/
structure WaitsInVain (steps : List InputStep) (s : InputController) : Prop where
  run : (runSteps steps).run newInputController = .error .noState s
  running : s.exitRequested = false

/-- A run that waits on a future without state does not pipe its input. -/
theorem WaitsInVain.not_pipes {steps : List InputStep} {s : InputController}
    (h : WaitsInVain steps s) :
  ¬ Pipes steps
  := by
  intro hpipes
  have hexit := hpipes.waits s h.run
  rw [h.running] at hexit
  cases hexit

/-- The second reader has the second line, or finds the end of the input. -/
theorem twoReaders_line (first : String) (second : ConsoleInput) :
  ∃ s, WaitsInVain (twoReaders [.line first, second]) s ∧ s.discarded = second.taken.toList
  := by
  cases second with
  | line text => exact ⟨_, ⟨rfl, rfl⟩, rfl⟩
  | ended => exact ⟨_, ⟨rfl, rfl⟩, rfl⟩

/-- Both readers find the end of the input. -/
theorem twoReaders_ended :
  ∃ s, WaitsInVain (twoReaders [.ended]) s ∧ s.entered = [""]
  := ⟨_, ⟨rfl, rfl⟩, rfl⟩

/-- What comes to the console in those runs. -/
theorem consoleInputs_twoReaders (inputs : List ConsoleInput) :
  consoleInputs (twoReaders inputs) = inputs
  := by
  have hmap : consoleInputs (inputs.map comesStep) = inputs := by
    induction inputs with
    | nil => rfl
    | cons input inputs ih => cases input <;> exact congrArg _ ih
  rw [twoReaders, consoleInputs, List.filterMap_append]
  exact (congrArg (· ++ []) hmap).trans (List.append_nil inputs)

/-- Every interleaving pipes what comes to the console exactly if that is at most one line and the
input does not end. -/
theorem pipes_iff (inputs : List ConsoleInput) :
  (∀ steps, consoleInputs steps <+: inputs → Pipes steps) ↔
    inputs.length ≤ 1 ∧ .ended ∉ inputs
  := by
  constructor
  · intro h
    have hpipes : ∀ first, first <+: inputs → Pipes (twoReaders first) := by
      intro first hfirst
      apply h
      rwa [consoleInputs_twoReaders]
    rcases inputs with _ | ⟨_ | _, _ | ⟨second, rest⟩⟩
    · simp
    · simp
    · rename_i first
      obtain ⟨s, hwaits, -⟩ := twoReaders_line first second
      exact absurd (hpipes [.line first, second] ⟨rest, rfl⟩) hwaits.not_pipes
    · obtain ⟨s, hwaits, -⟩ := twoReaders_ended
      exact absurd (hpipes [.ended] ⟨_, rfl⟩) hwaits.not_pipes
    · obtain ⟨s, hwaits, -⟩ := twoReaders_ended
      exact absurd (hpipes [.ended] ⟨_, rfl⟩) hwaits.not_pipes
  · rintro ⟨hfew, hgoing⟩ steps hsteps
    have hone : OneLine inputs := ⟨hfew, hgoing⟩
    apply pipes_of_oneLine (hone.of_prefix hsteps)

/-- When `/quit` is the second line, it is lost. -/
theorem quit_lost :
  ¬ Pipes (twoReaders [.line "hello", .line "/quit"]) ∧
    (exit (runSteps (twoReaders [.line "hello", .line "/quit"])) newInputController).discarded
      = ["/quit"]
  := by
  obtain ⟨s, hwaits, hdiscarded⟩ := twoReaders_line "hello" (.line "/quit")
  constructor
  · apply hwaits.not_pipes
  · rw [exit_error hwaits.run, hdiscarded]
    rfl

end InputController

end Chs
