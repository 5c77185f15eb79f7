import ChaosInMultiplayer.Program.Basic

/-!
# The input controller

The poll thread of an input controller starts asynchronous readers (`waitForInput`), which
take lines from the console, and puts the lines of the readers it collects into a queue, from
which the main thread reads.  Where the input ends, `std::getline` takes nothing and returns at
once, and the line of the reader stays empty; so does that of every later reader.  A step of a run
is the typing of a line, the end of the input, a step of one thread, or a call of the main thread;
a thread that has to wait does nothing in its step.
-/

namespace Chs

/-- What comes from the console: a line, or the end of the input. -/
inductive ConsoleInput where
  | line (text : String)
  | ended
  deriving DecidableEq

/-- What a reader returns: the line, which is empty at the end of the input. -/
@[simp]
def ConsoleInput.text : ConsoleInput → String
  | .line text => text
  | .ended => ""

/-- The line that is taken from the console; none is at the end of the input. -/
@[simp]
def ConsoleInput.taken : ConsoleInput → Option String
  | .line text => some text
  | .ended => none

/-- A reader started by `std::async(waitForInput)`: it waits for a line, it returns with what has
come from the console, or it has finished and the shared state of its future is ready. -/
inductive Reader where
  | waiting
  | returning (input : ConsoleInput)
  | finished (input : ConsoleInput)
  deriving DecidableEq

/-- What has come from the console to a reader. -/
@[simp]
def Reader.input : Reader → Option ConsoleInput
  | .waiting => none
  | .returning input => some input
  | .finished input => some input

/-- What a reader that has finished has had from the console. -/
@[simp]
def Reader.result : Reader → Option ConsoleInput
  | .finished input => some input
  | _ => none

/-- The line that a reader that has finished has taken from the console. -/
@[simp]
def Reader.taken : Reader → Option String
  | .finished input => input.taken
  | _ => none

/-- Where the poll thread is in `pollInput`. -/
inductive PollPoint where
  /-- Before the first call of `std::async`. -/
  | starting
  /-- At the condition of the loop. -/
  | checking
  /-- At `wait_for` on `input_future`. -/
  | testing
  /-- At `get` on `input_future`. -/
  | collecting
  /-- At `addInput`. -/
  | adding (input : String)
  /-- At the definition of the future in the body of the loop. -/
  | restarting
  /-- At the destructor of the future in the body of the loop, that of the given reader. -/
  | joining (reader : Nat)
  /-- At the destructor of `input_future`. -/
  | leaving
  | left
  deriving DecidableEq

/-- An input controller with the console, its threads, and what has been typed, with the end of the
input, and the lines taken by readers that have finished, entered into the queue, read by the main
thread and discarded so far.  An end of the input stays on the console. -/
structure InputController where
  console : List ConsoleInput
  readers : List Reader
  pollPoint : PollPoint
  /-- The reader whose shared state `input_future` refers to, if it has a shared state. -/
  inputFuture : Option Nat
  exitRequested : Bool
  inputQueue : List String
  typed : List ConsoleInput
  completed : List String
  entered : List String
  read : List String
  discarded : List String

/-- What ends a run of the input controller. -/
inductive InputFault where
  /-- A call on a future that has no shared state. -/
  | noState
  /-- A call of `front` on the empty queue. -/
  | emptyQueue
  deriving DecidableEq

abbrev InputM := EStateM InputFault InputController

/-- An input controller that has just been constructed. -/
def newInputController : InputController where
  console := []
  readers := []
  pollPoint := .starting
  inputFuture := none
  exitRequested := false
  inputQueue := []
  typed := []
  completed := []
  entered := []
  read := []
  discarded := []

namespace InputController

/-- What a reader whose shared state is ready has had from the console. -/
def ready (s : InputController) (reader : Nat) : Option ConsoleInput :=
  s.readers[reader]?.bind Reader.result

/-- A step of a reader in `waitForInput`, which waits at `std::getline` for a line or for the end of
the input. -/
def waitForInput (reader : Nat) : InputM Unit :=
  modify fun s =>
    match s.readers[reader]?, s.console with
    | some .waiting, .line text :: rest =>
        { s with console := rest, readers := s.readers.set reader (.returning (.line text)) }
    | some .waiting, .ended :: _ =>
        { s with readers := s.readers.set reader (.returning .ended) }
    | some (.returning input), _ =>
        { s with
          readers := s.readers.set reader (.finished input)
          completed := s.completed ++ input.taken.toList }
    | _, _ => s

/-- `std::async(waitForInput)` -/
def async : InputM Nat :=
  modifyGet fun s => (s.readers.length, { s with readers := s.readers ++ [.waiting] })

def addInput (input : String) : InputM Unit :=
  modify fun s =>
    { s with inputQueue := s.inputQueue ++ [input], entered := s.entered ++ [input] }

def goTo (point : PollPoint) : InputM Unit :=
  modify fun s => { s with pollPoint := point }

/-- The destructor of a future returned by `std::async` waits for the reader, and drops the line it
has taken if nobody has got it. -/
def destroyFuture (reader : Nat) (point : PollPoint) : InputM Unit :=
  modify fun s =>
    match s.ready reader with
    | none => s
    | some input =>
        { s with discarded := s.discarded ++ input.taken.toList, pollPoint := point }

/-- A step of the poll thread in `pollInput`.  The future started in the body of the loop is
a variable of its own, which goes out of scope at the end of the body. -/
def pollInput : InputM Unit := do
  let s ← get
  match s.pollPoint with
  | .starting => do
      let reader ← async
      modify fun s => { s with inputFuture := some reader }
      goTo .checking
  | .checking => if s.exitRequested then goTo .leaving else goTo .testing
  | .testing =>
      match s.inputFuture with
      | none => throw .noState
      | some reader => if (s.ready reader).isSome then goTo .collecting else goTo .checking
  | .collecting =>
      match s.inputFuture with
      | none => throw .noState
      | some reader =>
          match s.ready reader with
          | none => return ()
          | some input => do
              modify fun s => { s with inputFuture := none }
              goTo (.adding input.text)
  | .adding input => do
      addInput input
      goTo .restarting
  | .restarting => do
      let reader ← async
      goTo (.joining reader)
  | .joining reader => destroyFuture reader .checking
  | .leaving =>
      match s.inputFuture with
      | none => goTo .left
      | some reader => destroyFuture reader .left
  | .left => return ()

def inputAvailable : InputM Bool := do
  let s ← get
  return !s.inputQueue.isEmpty

def readInput : InputM String := do
  let s ← get
  match s.inputQueue with
  | [] => throw .emptyQueue
  | input :: rest => do
      set { s with inputQueue := rest, read := s.read ++ [input] }
      return input

end InputController

/-- A step of a run: the typing of a line, the end of the input, a step of a reader or of the poll
thread, a call of the main thread, or the assignment in the destructor. -/
inductive InputStep where
  | type (line : String)
  | endInput
  | waitForInput (reader : Nat)
  | pollInput
  | inputAvailable
  | readInput
  | requestExit

namespace InputController

/-- Something comes to the console. -/
def comes (input : ConsoleInput) : InputM Unit :=
  modify fun s => { s with console := s.console ++ [input], typed := s.typed ++ [input] }

def step : InputStep → InputM Unit
  | .type line => comes (.line line)
  | .endInput => comes .ended
  | .waitForInput reader => waitForInput reader
  | .pollInput => pollInput
  | .inputAvailable => do
      let _ ← inputAvailable
      return ()
  | .readInput => do
      let _ ← readInput
      return ()
  | .requestExit => modify fun s => { s with exitRequested := true }

/-- A run of the steps in their order, up to the first fault. -/
def runSteps (steps : List InputStep) : InputM Unit :=
  forM steps step

open Program

theorem run_inputAvailable (s : InputController) :
  inputAvailable.run s = .ok (!s.inputQueue.isEmpty) s
  := rfl

theorem run_readInput_nil {s : InputController} (h : s.inputQueue = []) :
  readInput.run s = .error .emptyQueue s
  := by
  simp only [readInput, EStateM.run_bind, EStateM.run_get, h]
  rfl

theorem run_readInput_cons {s : InputController} {input : String} {rest : List String}
    (h : s.inputQueue = input :: rest) :
  readInput.run s = .ok input { s with inputQueue := rest, read := s.read ++ [input] }
  := by
  simp only [readInput, EStateM.run_bind, EStateM.run_get, h]
  rfl

end InputController

end Chs
