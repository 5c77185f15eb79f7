import ChaosInMultiplayer.Input.InputController
import ChaosInMultiplayer.Program.Ensures

/-!
# The lifetime of an input controller

The members of an input controller are initialised in the order of their declaration and
destroyed in the reverse order.  The first of them is the thread of `pollInput`, which uses
the other members from the moment it is started, and which nothing joins or detaches.  So the
thread can use a member before it is initialised or after it is destroyed; and as it is still
joinable when the owner comes to its destruction, which ends the program, no lifetime of an input
controller that comes to its end is right.
-/

namespace Chs

namespace InputController

/-- The members of an input controller. -/
inductive Member where
  | pollInputThread
  | exitRequested
  | inputQueueMutex
  | inputQueue
  deriving DecidableEq

/-- The members in the order of their declaration. -/
def Member.declared : List Member :=
  [.pollInputThread, .exitRequested, .inputQueueMutex, .inputQueue]

end InputController

/-- An input controller with the members that have not been initialised yet, those that are alive,
the latest first, and whether the body of the destructor has run, the thread is joinable and
the thread holds the lock of `addInput`. -/
structure InputLifetime where
  controller : InputController
  uninitialised : List InputController.Member
  alive : List InputController.Member
  destructed : Bool
  joinable : Bool
  lockHeld : Bool

/-- What ends a run of an input controller and its owner. -/
inductive LifetimeFault where
  | ofInput (fault : InputFault)
  /-- The use of a member that is not alive. -/
  | outsideLifetime (member : InputController.Member)
  /-- The destruction of a joinable thread. -/
  | terminate
  deriving DecidableEq

abbrev LifetimeM := EStateM LifetimeFault InputLifetime

/-- An input controller none of whose members has been initialised. -/
def newInputLifetime : InputLifetime where
  controller := newInputController
  uninitialised := InputController.Member.declared
  alive := []
  destructed := false
  joinable := false
  lockHeld := false

/-- A step of the owner, of the poll thread, of a reader or of the console. -/
inductive LifetimeStep where
  | initialise
  | inputAvailable
  | readInput
  | destruct
  | destroy
  | pollInput
  | waitForInput (reader : Nat)
  | type (line : String)
  | endInput

/-- The steps of the owner. -/
def LifetimeStep.ofOwner : LifetimeStep → Bool
  | .initialise | .inputAvailable | .readInput | .destruct | .destroy => true
  | .pollInput | .waitForInput _ | .type _ | .endInput => false

/-- The calls of the owner between the construction and the destruction. -/
def LifetimeStep.isCall : LifetimeStep → Bool
  | .inputAvailable | .readInput => true
  | _ => false

namespace InputLifetime

open Program InputController

/-- A step of the input controller. -/
def onController (step : InputStep) : LifetimeM Unit := do
  let s ← get
  match (InputController.step step).run s.controller with
  | .ok _ controller => set { s with controller := controller }
  | .error fault controller => do
      set { s with controller := controller }
      throw (.ofInput fault)

/-- The use of a member. -/
def access (member : Member) : LifetimeM Unit := do
  let s ← get
  if member ∈ s.alive then return () else throw (.outsideLifetime member)

/-! ### The owner -/

/-- The initialisation of a member; that of the thread starts it. -/
def construct (s : InputLifetime) : Member → InputLifetime
  | .pollInputThread => { s with joinable := true }
  | .exitRequested => { s with controller := { s.controller with exitRequested := false } }
  | .inputQueueMutex => { s with lockHeld := false }
  | .inputQueue => { s with controller := { s.controller with inputQueue := [] } }

/-- The initialisation of the next member. -/
def initialise : LifetimeM Unit := do
  let s ← get
  match s.uninitialised with
  | [] => return ()
  | member :: rest =>
      set { s.construct member with uninitialised := rest, alive := member :: s.alive }

/-- A call on the input controller, which waits for the lock. -/
def use (step : InputStep) : LifetimeM Unit := do
  let s ← get
  when (s.uninitialised = [] ∧ s.destructed = false ∧ s.lockHeld = false) (onController step)

/-- The body of the destructor. -/
def destruct : LifetimeM Unit := do
  let s ← get
  when (s.uninitialised = [] ∧ s.destructed = false) do
    onController .requestExit
    modify fun s => { s with destructed := true }

/-- The destruction of the latest member. -/
def destroy : LifetimeM Unit := do
  let s ← get
  match s.destructed, s.alive with
  | true, .pollInputThread :: rest =>
      if s.joinable then throw .terminate else set { s with alive := rest }
  | true, _ :: rest => set { s with alive := rest }
  | _, _ => return ()

/-! ### The poll thread -/

/-- The member the poll thread uses in its next step.  In `addInput`, it takes the lock, enters
the line into the queue and releases the lock. -/
def accessed (s : InputLifetime) : Option Member :=
  match s.controller.pollPoint, s.lockHeld with
  | .checking, _ => some .exitRequested
  | .adding _, false => some .inputQueueMutex
  | .adding _, true => some .inputQueue
  | .restarting, true => some .inputQueueMutex
  | _, _ => none

/-- What the poll thread does with the member it uses. -/
def pollAccessed (s : InputLifetime) : LifetimeM Unit :=
  match s.controller.pollPoint, s.lockHeld with
  | .adding _, false => modify fun s => { s with lockHeld := true }
  | .restarting, true => modify fun s => { s with lockHeld := false }
  | _, _ => onController .pollInput

/-- A step of the poll thread, once it has been started. -/
def pollInput : LifetimeM Unit := do
  let s ← get
  when s.joinable do
    forM s.accessed.toList access
    pollAccessed s

def step : LifetimeStep → LifetimeM Unit
  | .initialise => initialise
  | .inputAvailable => use .inputAvailable
  | .readInput => use .readInput
  | .destruct => destruct
  | .destroy => destroy
  | .pollInput => pollInput
  | .waitForInput reader => onController (.waitForInput reader)
  | .type line => onController (.type line)
  | .endInput => onController .endInput

/-- A run of the steps in their order, up to the first fault. -/
def runSteps (steps : List LifetimeStep) : LifetimeM Unit :=
  forM steps step

/-! ### Runs within the lifetime -/

/-- The fault is of the lifetime of the members. -/
def OfLifetime : LifetimeFault → Prop
  | .ofInput _ => False
  | _ => True

/-- No run of the steps uses a member that is not alive or destroys the thread while it is
joinable. -/
def WithinLifetime (steps : List LifetimeStep) : Prop :=
  ∀ fault s, (runSteps steps).run newInputLifetime = .error fault s → ¬ OfLifetime fault

/-- What the owner does in a lifetime: it initialises the members, makes its calls, runs the body
of the destructor and destroys the members. -/
def ownersSteps (calls : List LifetimeStep) : List LifetimeStep :=
  Member.declared.map (fun _ => .initialise) ++ calls ++
    .destruct :: Member.declared.map fun _ => .destroy

/-- The steps, in any interleaving, of a lifetime that comes to its end: no fault of another kind
ends the program before. -/
structure Complete (steps : List LifetimeStep) : Prop where
  owner : ∃ calls, (∀ i ∈ calls, i.isCall) ∧
    steps.filter LifetimeStep.ofOwner = ownersSteps calls
  goesOn : ∀ fault s, (runSteps steps).run newInputLifetime ≠ .error (.ofInput fault) s

/-! ### What the owner has ahead -/

/-- What the owner has still to do, with the given members not initialised yet and alive. -/
inductive Ahead : List Member → List Member → Bool → List LifetimeStep → Prop
  | initialise {member : Member} {uninitialised alive : List Member} {steps : List LifetimeStep}
      (h : Ahead uninitialised (member :: alive) false steps) :
      Ahead (member :: uninitialised) alive false (.initialise :: steps)
  | call {alive : List Member} {i : LifetimeStep} {steps : List LifetimeStep} (hi : i.isCall)
      (h : Ahead [] alive false steps) :
      Ahead [] alive false (i :: steps)
  | destruct {alive : List Member} {steps : List LifetimeStep} (h : Ahead [] alive true steps) :
      Ahead [] alive false (.destruct :: steps)
  | destroy {member : Member} {alive : List Member} {steps : List LifetimeStep}
      (hmember : member ≠ .pollInputThread) (h : Ahead [] alive true steps) :
      Ahead [] (member :: alive) true (.destroy :: steps)
  | last : Ahead [] [.pollInputThread] true [.destroy]

/-- After a call the owner has the rest ahead. -/
theorem Ahead.of_call {uninitialised alive : List Member} {destructed : Bool} {i : LifetimeStep}
    {steps : List LifetimeStep} (h : Ahead uninitialised alive destructed (i :: steps))
    (hi : i.isCall) :
  Ahead uninitialised alive destructed steps
  := by
  cases h with
  | call _ h => exact h
  | _ => cases hi

/-- What holds before the steps that are left of a lifetime. -/
structure Owned (steps : List LifetimeStep) (s : InputLifetime) : Prop where
  ahead : Ahead s.uninitialised s.alive s.destructed (steps.filter LifetimeStep.ofOwner)
  started : .pollInputThread ∈ s.alive → s.joinable

/-- At the beginning the owner has its whole lifetime ahead. -/
theorem Ahead.whole {calls : List LifetimeStep} (hcalls : ∀ i ∈ calls, i.isCall) :
  Ahead Member.declared [] false (ownersSteps calls)
  := by
  have hdestroys : Ahead [] Member.declared.reverse true (Member.declared.map fun _ => .destroy) :=
    .destroy nofun (.destroy nofun (.destroy nofun .last))
  have hcalled : Ahead [] Member.declared.reverse false
      (calls ++ .destruct :: Member.declared.map fun _ => .destroy) := by
    induction calls with
    | nil => exact .destruct hdestroys
    | cons i calls ih =>
        have hrest := ih fun j hj => hcalls j (List.mem_cons_of_mem i hj)
        exact .call (hcalls i List.mem_cons_self) hrest
  exact .initialise (.initialise (.initialise (.initialise hcalled)))

/-- A lifetime does not end before the destruction of the thread. -/
theorem Ahead.ne_nil {uninitialised alive : List Member} {destructed : Bool}
    {steps : List LifetimeStep} (h : Ahead uninitialised alive destructed steps) :
  steps ≠ []
  := by
  cases h <;> simp

/-- Before a complete lifetime all its steps are ahead of the owner. -/
theorem newInputLifetime_owned {steps : List LifetimeStep} (h : Complete steps) :
  Owned steps newInputLifetime
  := by
  obtain ⟨calls, hcalls, howner⟩ := h.owner
  constructor
  · rw [howner]
    apply Ahead.whole hcalls
  · simp [newInputLifetime]

/-- The worlds agree on the members that are alive. -/
structure SameMembers (s s' : InputLifetime) : Prop where
  uninitialised : s'.uninitialised = s.uninitialised
  alive : s'.alive = s.alive
  destructed : s'.destructed = s.destructed
  joinable : s'.joinable = s.joinable

instance : Std.Refl SameMembers where
  refl _ := ⟨rfl, rfl, rfl, rfl⟩

instance : IsTrans InputLifetime SameMembers where
  trans _ _ _ h h' :=
    ⟨h'.uninitialised.trans h.uninitialised, h'.alive.trans h.alive,
      h'.destructed.trans h.destructed, h'.joinable.trans h.joinable⟩

/-- Where the members are as they were, the owner has the same ahead. -/
theorem SameMembers.owned {steps : List LifetimeStep} {s s' : InputLifetime}
    (h : SameMembers s s') (hs : Owned steps s) :
  Owned steps s'
  := by
  constructor
  · rw [h.uninitialised, h.alive, h.destructed]
    apply hs.ahead
  · rw [h.alive, h.joinable]
    apply hs.started

/-! ### What the steps do to the members -/

/-- A step of the input controller changes nothing else, and its faults are no faults of the
lifetime. -/
theorem run_onController (step : InputStep) (s : InputLifetime) :
  ∃ controller, (onController step).run s = .ok () { s with controller := controller } ∨
    ∃ fault, (onController step).run s
      = .error (.ofInput fault) { s with controller := controller }
  := by
  rw [onController, EStateM.run_bind, EStateM.run_get]
  dsimp only
  cases (InputController.step step).run s.controller with
  | ok _ controller =>
      use controller
      left
      rfl
  | error fault controller =>
      use controller
      right
      use fault
      rfl

theorem onController_moves (step : InputStep) :
  Moves SameMembers (onController step)
  := by
  intro s
  obtain ⟨controller, h | ⟨fault, h⟩⟩ := run_onController step s
  · rw [exit_ok h]
    exact ⟨rfl, rfl, rfl, rfl⟩
  · rw [exit_error h]
    exact ⟨rfl, rfl, rfl, rfl⟩

theorem use_moves (step : InputStep) :
  Moves SameMembers (use step)
  := by
  apply Moves.get_bind
  intro s
  apply Moves.when
  intro _
  apply onController_moves

theorem access_moves (member : Member) :
  Moves SameMembers (access member)
  := by
  apply Moves.get_bind
  intro s
  apply Moves.ite
  · intro _
    apply Moves.pure
  · intro _
    apply Moves.throw

theorem pollAccessed_moves (s : InputLifetime) :
  Moves SameMembers (pollAccessed s)
  := by
  unfold pollAccessed
  split
  · exact Moves.modify fun _ => ⟨rfl, rfl, rfl, rfl⟩
  · exact Moves.modify fun _ => ⟨rfl, rfl, rfl, rfl⟩
  · apply onController_moves

theorem pollInput_moves :
  Moves SameMembers pollInput
  := by
  apply Moves.get_bind
  intro s
  apply Moves.when
  intro _
  apply Moves.bind
  · apply Moves.forM
    intro member _
    apply access_moves
  · intro _
    apply pollAccessed_moves s

/-- The owner goes on with the next member. -/
theorem run_initialise {s : InputLifetime} {member : Member} {rest : List Member}
    (h : s.uninitialised = member :: rest) :
  initialise.run s
    = .ok () { s.construct member with uninitialised := rest, alive := member :: s.alive }
  := by
  rw [initialise, EStateM.run_bind, EStateM.run_get]
  dsimp only
  rw [h]
  rfl

/-- The thread is joinable from its initialisation on. -/
theorem construct_joinable (s : InputLifetime) (member : Member) :
  (s.construct member).joinable = (s.joinable || member = .pollInputThread)
  := by
  cases member <;> simp [construct]

/-- The initialisation of a member touches neither the other members nor the destructor. -/
theorem construct_destructed (s : InputLifetime) (member : Member) :
  (s.construct member).destructed = s.destructed
  := by
  cases member <;> rfl

/-- The body of the destructor only requests the exit. -/
theorem run_destruct {s : InputLifetime} (h : s.uninitialised = [] ∧ s.destructed = false) :
  destruct.run s = .ok () { s with
    controller := { s.controller with exitRequested := true }
    destructed := true }
  := by
  simp only [destruct, EStateM.run_bind, EStateM.run_get, when, if_pos h]
  rfl

/-- A member other than the thread is just destroyed. -/
theorem run_destroy {s : InputLifetime} {member : Member} {rest : List Member}
    (hmember : member ≠ .pollInputThread) (hdestructed : s.destructed = true)
    (halive : s.alive = member :: rest) :
  destroy.run s = .ok () { s with alive := rest }
  := by
  rw [destroy, EStateM.run_bind, EStateM.run_get]
  dsimp only
  rw [hdestructed, halive]
  cases member with
  | pollInputThread => exact absurd rfl hmember
  | _ => rfl

/-- The destruction of a joinable thread ends the program. -/
theorem run_destroy_thread {s : InputLifetime} {rest : List Member}
    (hjoinable : s.joinable = true) (hdestructed : s.destructed = true)
    (halive : s.alive = .pollInputThread :: rest) :
  destroy.run s = .error .terminate s
  := by
  rw [destroy, EStateM.run_bind, EStateM.run_get]
  dsimp only
  rw [hdestructed, halive]
  dsimp only
  rw [if_pos hjoinable]
  rfl

/-! ### Runs -/

section Owner

variable {steps : List LifetimeStep}

/-- A step of the console, of a reader or of the poll thread leaves the owner where it is. -/
theorem ensures_of_moves {i : LifetimeStep} (hi : i.ofOwner = false)
    (hmoves : Moves SameMembers (step i)) :
  Ensures (Owned (i :: steps)) (step i) (fun _ => Owned steps) fun _ _ => True
  := by
  intro s hs
  have hmoved := hmoves s
  have hrest : Owned steps s := by
    have hahead := hs.ahead
    rw [List.filter_cons_of_neg (by simp [hi])] at hahead
    exact ⟨hahead, hs.started⟩
  cases hrun : (step i).run s with
  | ok _ s' =>
      rw [exit_ok hrun] at hmoved
      apply hmoved.owned hrest
  | error fault s' => trivial

/-- A call leaves the members as they are. -/
theorem ensures_call {i : LifetimeStep} (hi : i.isCall) (hmoves : Moves SameMembers (step i)) :
  Ensures (Owned (i :: steps)) (step i) (fun _ => Owned steps) fun _ _ => True
  := by
  intro s hs
  have hmoved := hmoves s
  have hrest : Owned steps s := by
    have howner : i.ofOwner := by
      cases i <;> first | rfl | cases hi
    have hahead := hs.ahead
    rw [List.filter_cons_of_pos howner] at hahead
    exact ⟨hahead.of_call hi, hs.started⟩
  cases hrun : (step i).run s with
  | ok _ s' =>
      rw [exit_ok hrun] at hmoved
      apply hmoved.owned hrest
  | error fault s' => trivial

/-- The initialisation of a member leaves the owner one step further. -/
theorem ensures_initialise :
  Ensures (Owned (.initialise :: steps)) (step .initialise) (fun _ => Owned steps) fun _ _ => True
  := by
  rintro s ⟨hahead, hstarted⟩
  rw [List.filter_cons_of_pos rfl] at hahead
  generalize huninitialised : s.uninitialised = uninitialised at hahead
  generalize halive : s.alive = alive at hahead
  generalize hdestructed : s.destructed = destructed at hahead
  generalize hsteps : steps.filter LifetimeStep.ofOwner = rest at hahead
  cases hahead with
  | initialise h =>
      rename_i member rest
      rw [step, run_initialise huninitialised]
      constructor
      · dsimp only
        rw [construct_destructed, hdestructed, halive, hsteps]
        apply h
      · intro hthread
        rw [construct_joinable]
        rcases List.mem_cons.mp hthread with rfl | hthread
        · simp
        · simp [hstarted hthread]
  | call hi => cases hi

/-- The body of the destructor leaves the owner one step further. -/
theorem ensures_destruct :
  Ensures (Owned (.destruct :: steps)) (step .destruct) (fun _ => Owned steps) fun _ _ => True
  := by
  rintro s ⟨hahead, hstarted⟩
  rw [List.filter_cons_of_pos rfl] at hahead
  generalize huninitialised : s.uninitialised = uninitialised at hahead
  generalize halive : s.alive = alive at hahead
  generalize hdestructed : s.destructed = destructed at hahead
  generalize hsteps : steps.filter LifetimeStep.ofOwner = rest at hahead
  cases hahead with
  | call hi => cases hi
  | destruct h =>
      rw [step, run_destruct ⟨huninitialised, hdestructed⟩]
      constructor
      · dsimp only
        rw [huninitialised, halive, hsteps]
        apply h
      · apply hstarted

/-- The members go one after another, and the thread does not go. -/
theorem ensures_destroy :
  Ensures (Owned (.destroy :: steps)) (step .destroy) (fun _ => Owned steps) fun _ _ => True
  := by
  rintro s ⟨hahead, hstarted⟩
  rw [List.filter_cons_of_pos rfl] at hahead
  generalize huninitialised : s.uninitialised = uninitialised at hahead
  generalize halive : s.alive = alive at hahead hstarted
  generalize hdestructed : s.destructed = destructed at hahead
  generalize hsteps : steps.filter LifetimeStep.ofOwner = rest at hahead
  cases hahead with
  | call hi => cases hi
  | destroy hmember h =>
      rw [step, run_destroy hmember hdestructed halive]
      constructor
      · dsimp only
        rw [huninitialised, hdestructed, hsteps]
        apply h
      · intro hthread
        apply hstarted (List.mem_cons_of_mem _ hthread)
  | last =>
      have hjoinable := hstarted List.mem_cons_self
      rw [step, run_destroy_thread hjoinable hdestructed halive]
      trivial

/-- Where a step of a lifetime goes through, the owner has the rest ahead. -/
theorem step_ensures (i : LifetimeStep) (steps : List LifetimeStep) :
  Ensures (Owned (i :: steps)) (step i) (fun _ => Owned steps) fun _ _ => True
  := by
  cases i with
  | initialise => apply ensures_initialise
  | inputAvailable => exact ensures_call rfl (use_moves _)
  | readInput => exact ensures_call rfl (use_moves _)
  | destruct => apply ensures_destruct
  | destroy => apply ensures_destroy
  | pollInput => exact ensures_of_moves rfl pollInput_moves
  | waitForInput reader => exact ensures_of_moves rfl (onController_moves (.waitForInput reader))
  | type line => exact ensures_of_moves rfl (onController_moves (.type line))
  | endInput => exact ensures_of_moves rfl (onController_moves .endInput)

end Owner

/-- In no interleaving of a lifetime that comes to its end are all members used within their
lifetimes and is the thread not joinable when it is destroyed. -/
theorem complete_never_within {steps : List LifetimeStep} (h : Complete steps) :
  ¬ WithinLifetime steps
  := by
  intro hwithin
  have hrun : Ensures (Owned steps) (runSteps steps) (fun _ => Owned []) fun _ _ => True :=
    Ensures.forM step_ensures steps
  have hend := hrun _ (newInputLifetime_owned h)
  cases hresult : (runSteps steps).run newInputLifetime with
  | ok _ s =>
      rw [hresult] at hend
      exact hend.ahead.ne_nil rfl
  | error fault s =>
      cases fault with
      | ofInput fault => apply h.goesOn fault s hresult
      | outsideLifetime member => apply hwithin _ s hresult trivial
      | terminate => apply hwithin _ s hresult trivial

/-- The fault a run has ended with. -/
def faultOf : EStateM.Result LifetimeFault InputLifetime Unit → Option LifetimeFault
  | .ok _ _ => none
  | .error fault _ => some fault

theorem exists_of_faultOf {r : EStateM.Result LifetimeFault InputLifetime Unit}
    {fault : LifetimeFault} (h : faultOf r = some fault) :
  ∃ s, r = .error fault s
  := by
  cases r with
  | ok _ s => cases h
  | error fault' s =>
      cases h
      use s

/-- The poll thread is started and tests `exit_requested` before the owner goes on. -/
def earlyPoll : List LifetimeStep :=
  [.initialise, .pollInput, .pollInput, .initialise, .initialise, .initialise, .destruct, .destroy,
    .destroy, .destroy, .destroy]

/-- The input controller is constructed, asked for input and destroyed. -/
def shortLife : List LifetimeStep :=
  [.initialise, .initialise, .initialise, .initialise, .pollInput, .inputAvailable, .destruct,
    .pollInput, .destroy, .destroy, .destroy, .destroy]

theorem faultOf_earlyPoll :
  faultOf ((runSteps earlyPoll).run newInputLifetime) = some (.outsideLifetime .exitRequested)
  := by decide +kernel

theorem faultOf_shortLife :
  faultOf ((runSteps shortLife).run newInputLifetime) = some .terminate
  := by decide +kernel

/-- The poll thread reads a member that is not initialised, and a thread that has not been joined
is destroyed. -/
theorem not_withinLifetime :
  ¬ WithinLifetime earlyPoll ∧ ¬ WithinLifetime shortLife
  := by
  constructor
  · intro h
    obtain ⟨s, hs⟩ := exists_of_faultOf faultOf_earlyPoll
    apply h _ s hs trivial
  · intro h
    obtain ⟨s, hs⟩ := exists_of_faultOf faultOf_shortLife
    apply h _ s hs trivial

/-- The object is asked for input once and destroyed. -/
theorem shortLife_never_within :
  Complete shortLife ∧ ¬ WithinLifetime shortLife
  := by
  have hcomplete : Complete shortLife := by
    constructor
    · exact ⟨[.inputAvailable], by simp [LifetimeStep.isCall], rfl⟩
    · intro fault s hrun
      have hfault := faultOf_shortLife
      rw [hrun] at hfault
      cases hfault
  exact ⟨hcomplete, complete_never_within hcomplete⟩

end InputLifetime

end Chs
