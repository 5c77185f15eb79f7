import ChaosInMultiplayer.Examples.ServerMain
import ChaosInMultiplayer.Server.Quitting

/-!
# The answer to the quit command

Once `/quit` is in the queue, the main function of the example server makes at most one more update
before it closes the server and returns, however its steps are interleaved with what happens outside
it, unless the update fails.  If the server is neither running nor has been asked to quit, then its
updates do nothing, and the main function never returns (`main_answers_quit_iff`).
-/

namespace Chs

namespace ExampleServer

open Program Server

variable {net : ISteamNetworkingSockets} {text : BufferText} {rand : Trace → Nat}

/-- What holds after some steps of the main function: before the first one there is a `/quit` to
read or the server has been asked to quit, after it the server has been asked to quit or closed, and
after the second one it is closed. -/
def Answers : Nat → MainPoint → World Server → Prop
  | 0, point, w => point = .looping ∧ "/quit" ∈ w.self.inputQueue ∧
      (w.self.running = true ∨ w.self.quitRequested = true)
  | 1, point, w => point = .looping ∧ w.self.quitRequested = true ∨ point = .closed
  | _ + 2, point, _ => point = .closed

/-- A server that is asked to quit is closed next. -/
theorem main_closes {point' : MainPoint} {s : ServerStep} {w : World Server}
    (hquit : w.self.quitRequested = true) (h : main text rand w .looping = some (s, point')) :
  s = .call .closeConnection ∧ point' = .closed
  := by
  simp only [main, hquit, if_true] at h
  cases h
  exact ⟨rfl, rfl⟩

theorem closeConnection_ensures {Q : World Server → Prop} (hQ : ∀ w, Q (shutdown w))
    {P : World Server → Prop} {E : Fault → World Server → Prop} :
  Ensures P (step net (.call .closeConnection)) (fun _ => Q) E
  := by
  apply Ensures.of_run_ok
  intro w _
  refine ⟨⟨⟩, shutdown w, ?_, hQ w⟩
  have hclose : (perform net .closeConnection).run w = .ok () (shutdown w) := run_closeConnection w
  rw [step, run_bind_ok _ hclose]
  rfl

/-- Each step of the main function leads one step further to its return. -/
theorem main_answers (n : Nat) (point : MainPoint) (s : ServerStep) (point' : MainPoint) :
  Ensures (fun w => Answers n point w ∧ main text rand w point = some (s, point')) (step net s)
    (fun _ => Answers (n + 1) point') fun _ _ => True
  := by
  rintro w ⟨hw, hnext⟩
  match n, hw with
  | 0, ⟨hpoint, hqueue, hobeys⟩ =>
      subst hpoint
      cases hquit : w.self.quitRequested with
      | true =>
          obtain ⟨rfl, rfl⟩ := main_closes hquit hnext
          exact closeConnection_ensures (P := (· = w)) (fun _ => .inr rfl) w rfl
      | false =>
          simp only [main, hquit] at hnext
          cases hnext
          cases hrun : (updateConnection net).run w with
          | ok a w' =>
              rw [step, hrun]
              exact .inl ⟨rfl, (obeysQuit_iff hqueue).mpr hobeys w' hrun⟩
          | error fault w' =>
              rw [step, hrun]
              trivial
  | 1, .inl ⟨hpoint, hquit⟩ =>
      subst hpoint
      obtain ⟨rfl, rfl⟩ := main_closes hquit hnext
      exact closeConnection_ensures (P := (· = w)) (fun _ => rfl) w rfl
  | 1, .inr hpoint =>
      subst hpoint
      cases hnext
  | _ + 2, hpoint =>
      subst hpoint
      cases hnext

/-- What happens outside the main function does not delay its return. -/
theorem answers_stable (n : Nat) :
  Routine.Stable (step net) Outside (Answers n)
  := by
  intro point s w w' hw hs hrun
  have hkept : w'.self.running = w.self.running ∧
      w'.self.quitRequested = w.self.quitRequested ∧
      ∀ line ∈ w.self.inputQueue, line ∈ w'.self.inputQueue := by
    cases s with
    | enter line =>
        cases hrun
        exact ⟨rfl, rfl, fun line hline => List.mem_append_left _ hline⟩
    | arrive m =>
        cases hrun
        exact ⟨rfl, rfl, fun _ hline => hline⟩
    | queue info =>
        cases hrun
        exact ⟨rfl, rfl, fun _ hline => hline⟩
    | _ => cases hs
  obtain ⟨hrunning, hquit, hqueue⟩ := hkept
  match n, hw with
  | 0, ⟨hpoint, hline, hobeys⟩ =>
      rw [← hrunning, ← hquit] at hobeys
      exact ⟨hpoint, hqueue _ hline, hobeys⟩
  | 1, hw =>
      rw [Answers, hquit]
      exact hw
  | _ + 2, hpoint => exact hpoint

/-- The main function is in its loop, with a server that is neither running nor asked to quit. -/
def Stuck (point : MainPoint) (w : World Server) : Prop :=
  point = .looping ∧ w.self.running = false ∧ w.self.quitRequested = false

/-- The main function of a server that is not opened makes no progress. -/
theorem main_stuck (point : MainPoint) (s : ServerStep) (point' : MainPoint) :
  Ensures (fun w => Stuck point w ∧ main text rand w point = some (s, point')) (step net s)
    (fun _ => Stuck point') fun _ _ => False
  := by
  rintro w ⟨⟨hpoint, hrunning, hquit⟩, hnext⟩
  subst hpoint
  simp only [main, hquit] at hnext
  cases hnext
  rw [step, run_updateConnection_stopped (.inr hrunning)]
  exact ⟨rfl, hrunning, hquit⟩

/-- What happens outside the main function does not help it either. -/
theorem stuck_stable :
  Routine.Stable (step net) Outside Stuck
  := by
  intro point s w w' hw hs hrun
  cases s with
  | enter line =>
      cases hrun
      exact hw
  | arrive m =>
      cases hrun
      exact hw
  | queue info =>
      cases hrun
      exact hw
  | _ => cases hs

/-- From a point of the loop with `/quit` in the queue, two steps of the main function lead to its
return or to its failure exactly if the server is running or has been asked to quit, whatever
happens before, between and after them. -/
theorem main_answers_quit_iff {w w' : World Server} (hqueue : "/quit" ∈ w.self.inputQueue)
    {turns : List (Option ServerStep)} (hturns : 2 ≤ turns.countP Option.isNone)
    {progress : Progress MainPoint Fault}
    (h : Routine.follow (step net) Outside (main text rand) turns .looping w
      = some (progress, w')) :
  (progress = .reached .closed ∨ ∃ fault, progress = .failed fault)
    ↔ w.self.running = true ∨ w.self.quitRequested = true
  := by
  constructor
  · intro hends
    by_contra hnot
    rw [not_or, Bool.not_eq_true, Bool.not_eq_true] at hnot
    have hstuck := Routine.follow_holds (I := fun _ => Stuck) (n := 0) (fun _ => main_stuck)
      (fun _ => stuck_stable) h ⟨rfl, hnot⟩
    rcases hends with rfl | ⟨fault, rfl⟩
    · cases hstuck.1
    · exact hstuck
  · intro hobeys
    have hanswers := Routine.follow_holds (I := Answers) (n := 0) main_answers answers_stable h
      ⟨rfl, hqueue, hobeys⟩
    cases progress with
    | failed fault => exact .inr ⟨fault, rfl⟩
    | reached point =>
        left
        obtain ⟨n, hn⟩ := Nat.exists_eq_add_of_le' hturns
        rw [Nat.zero_add, hn] at hanswers
        rw [show point = .closed from hanswers]

/-- `/quit` has been entered at a server that is running. -/
def quitEntered : World Server :=
  exit (runSteps queueNetworking [.openConnection, .enter "/quit"])
    (newServer "127.0.0.1" 8080 0 0)

/-- Another line is entered and a message arrives while the server quits. -/
def quittingMeanwhile : List (Option ServerStep) :=
  [some (.enter "late"), none, some (.arrive ⟨1, [72, 105], 2⟩), none]

/-- Another line and a message come in while the server quits. -/
theorem quittingMeanwhile_answers_quit_iff :
  ∃ progress w', Routine.follow (step queueNetworking) Outside
      (main (fun _ _ => some "") fun _ => 7) quittingMeanwhile .looping quitEntered
        = some (progress, w') ∧
    ((progress = .reached .closed ∨ ∃ fault, progress = .failed fault)
      ↔ quitEntered.self.running = true ∨ quitEntered.self.quitRequested = true)
  := by
  have hfollow : (Routine.follow (step queueNetworking) Outside
      (main (fun _ _ => some "") fun _ => 7) quittingMeanwhile .looping quitEntered).map Prod.fst
      = some (.reached .closed) := by
    decide +kernel
  obtain ⟨⟨progress, w'⟩, hturns, -⟩ := Option.map_eq_some_iff.mp hfollow
  exact ⟨progress, w', hturns, main_answers_quit_iff (by decide +kernel) (by decide) hturns⟩

end ExampleServer

end Chs
