import ChaosInMultiplayer.Server.Teardown

/-!
# Listening sockets and poll groups

`Accounted` says that the listening sockets and the poll groups the server has created and
not released are its own two when it is running, and none otherwise.  Every operation but
`openConnection` keeps this.  An opening keeps it only when the server is not running and
it does not acquire one of the two without the other.
-/

namespace Chs

namespace Server

open Program

variable {net : ISteamNetworkingSockets}

/-! ### What the effects do to the resources -/

theorem held_cons_of_plain {e : Event} (he : e.plain) (t : Trace) :
  heldListenSockets (e :: t) = heldListenSockets t ∧ heldPollGroups (e :: t) = heldPollGroups t
  := by
  cases e <;> simp_all [Event.plain, heldListenSockets, heldPollGroups]

theorem held_closings (es : List (Sigma fun _ : HSteamNetConnection => ClientConnection))
    (t : Trace) :
  heldListenSockets (closings es ++ t) = heldListenSockets t ∧
    heldPollGroups (closings es ++ t) = heldPollGroups t
  := by
  induction es using List.reverseRecOn with
  | nil => exact ⟨rfl, rfl⟩
  | append_singleton es entry ih =>
      have hc : closings (es ++ [entry])
          = .closeConnection entry.2.netConnection :: closings es := by
        simp [closings]
      rw [hc]
      apply ih

/-- The two worlds agree on the sockets, the poll groups and whether the server is running. -/
structure SameResources (w w' : World Server) : Prop where
  running : w'.self.running = w.self.running
  listeningSocket : w'.self.listeningSocket = w.self.listeningSocket
  pollGroup : w'.self.pollGroup = w.self.pollGroup
  listenSockets : heldListenSockets w'.trace = heldListenSockets w.trace
  pollGroups : heldPollGroups w'.trace = heldPollGroups w.trace
  released : ∀ g, .destroyPollGroup g ∈ w'.trace → .destroyPollGroup g ∈ w.trace

instance : Std.Refl SameResources where
  refl _ := ⟨rfl, rfl, rfl, rfl, rfl, fun _ hg => hg⟩

instance : IsTrans (World Server) SameResources where
  trans _ _ _ h h' :=
    ⟨h'.running.trans h.running, h'.listeningSocket.trans h.listeningSocket,
      h'.pollGroup.trans h.pollGroup, h'.listenSockets.trans h.listenSockets,
      h'.pollGroups.trans h.pollGroups, fun g hg => h.released g (h'.released g hg)⟩

theorem released_of_mem_cons_plain {e : Event} (he : e.plain) {g : HSteamNetPollGroup} {t : Trace}
    (h : .destroyPollGroup g ∈ e :: t) :
  .destroyPollGroup g ∈ t
  := by
  rcases List.mem_cons.mp h with rfl | h
  · cases he
  · apply h

/-- An effect leaves the resources alone, or closes the server. -/
theorem Effect.resources {allowed : Allowed} {w w' : World Server}
    (h : Effect net allowed w w') :
  SameResources w w' ∨ allowed.closing ∧ w' = Server.shutdown w
  := by
  cases h with
  | emit e he h =>
      left
      obtain ⟨hs, hg⟩ := held_cons_of_plain he w.trace
      exact ⟨rfl, rfl, rfl, hs, hg, fun _ => released_of_mem_cons_plain he⟩
  | @accept k client hk =>
      left
      obtain ⟨-, -, ok, ht⟩ := accept_entry net client w.trace
      rw [put, ht]
      exact ⟨rfl, rfl, rfl, rfl, rfl, by simp⟩
  | @setPollGroup k client g _ hk =>
      left
      obtain ⟨-, -, ht⟩ := setPollGroup_entry net client g w.trace
      rw [put, ht]
      exact ⟨rfl, rfl, rfl, rfl, rfl, by simp⟩
  | shutdown hc =>
      right
      exact ⟨hc, rfl⟩
  | register hk =>
      left
      exact ⟨rfl, rfl, rfl, rfl, rfl, by simp [put]⟩
  | close _ hk =>
      left
      exact ⟨rfl, rfl, rfl, rfl, rfl, by simp [put, ClientConnection.close]⟩
  | _ =>
      left
      exact ⟨rfl, rfl, rfl, rfl, rfl, fun _ hg => hg⟩

/-- Effects that do not close the server leave the resources alone. -/
theorem Effects.sameResources {allowed : Allowed} (hopen : ¬ allowed.closing)
    {w w' : World Server} (h : Effects net allowed w w') :
  SameResources w w'
  := by
  induction h with
  | refl => exact Std.Refl.refl _
  | tail _ hs ih => exact IsTrans.trans _ _ _ ih (hs.resources.resolve_right fun hc => hopen hc.1)

/-- A shutdown releases the listening socket and the poll group of the server. -/
theorem shutdown_held (w : World Server) :
  heldListenSockets (shutdown w).trace
      = (heldListenSockets w.trace).erase w.self.listeningSocket ∧
    heldPollGroups (shutdown w).trace = (heldPollGroups w.trace).erase w.self.pollGroup
  := by
  obtain ⟨hs, hg⟩ := held_closings w.self.connections.entries
    (.log .info "Closing connections..." :: w.trace)
  simp [shutdown, heldListenSockets, heldPollGroups, hs, hg]

/-- An opening acquires what it creates. -/
theorem opened_held (w : World Server) :
  heldListenSockets (opened net w).trace
      = (if newSocket net w = 0 then heldListenSockets w.trace
          else newSocket net w :: heldListenSockets w.trace) ∧
    heldPollGroups (opened net w).trace
      = (if newGroup net w = 0 then heldPollGroups w.trace
          else newGroup net w :: heldPollGroups w.trace)
  := by
  by_cases hs : newSocket net w = 0
  · by_cases hg : newGroup net w = 0
    · simp [opened, listenTrace, listenFailure, hs, hg, heldListenSockets, heldPollGroups]
    · simp [opened, listenTrace, listenFailure, hs, hg, heldListenSockets, heldPollGroups]
  · by_cases hg : newGroup net w = 0
    · simp [opened, listenTrace, listenFailure, hs, hg, heldListenSockets, heldPollGroups]
    · simp [opened, listenTrace, hs, hg, heldListenSockets, heldPollGroups]

/-! ### Accounting -/

/-- The resources held are the server's own when it is running, and none otherwise. -/
structure Accounted (w : World Server) : Prop where
  listenSockets : heldListenSockets w.trace
    = if w.self.running then [w.self.listeningSocket] else []
  pollGroups : heldPollGroups w.trace = if w.self.running then [w.self.pollGroup] else []

/-- Nothing is held. -/
def Released (w : World Server) : Prop :=
  heldListenSockets w.trace = [] ∧ heldPollGroups w.trace = []

/-- A server with the same resources accounts for them as before. -/
theorem SameResources.accounted {w w' : World Server} (h : SameResources w w')
    (hw : Accounted w) :
  Accounted w'
  := by
  constructor
  · rw [h.listenSockets, h.running, h.listeningSocket]
    apply hw.listenSockets
  · rw [h.pollGroups, h.running, h.pollGroup]
    apply hw.pollGroups

/-- Closing the server releases what it holds. -/
theorem Accounted.shutdown_released {w : World Server} (hw : Accounted w) :
  Released (shutdown w)
  := by
  obtain ⟨hs, hg⟩ := shutdown_held w
  rw [Released, hs, hg, hw.listenSockets, hw.pollGroups]
  by_cases hrun : w.self.running
  · simp [hrun]
  · simp [hrun]

/-- A server that is not running and holds nothing accounts for its resources. -/
theorem Released.accounted {w : World Server} (h : Released w) (hrun : w.self.running = false) :
  Accounted w
  := by
  constructor
  · rw [h.1, hrun]
    rfl
  · rw [h.2, hrun]
    rfl

/-- Every effect keeps the resources accounted for. -/
theorem Effect.keeps_accounted {allowed : Allowed} {w w' : World Server}
    (h : Effect net allowed w w')
    (hw : Accounted w) :
  Accounted w'
  := by
  rcases h.resources with hsame | ⟨-, rfl⟩
  · apply hsame.accounted hw
  · apply hw.shutdown_released.accounted rfl

/-- Effects keep the resources accounted for. -/
theorem Effects.keeps_accounted {allowed : Allowed} {w w' : World Server}
    (h : Effects net allowed w w') (hw : Accounted w) :
  Accounted w'
  := by
  induction h with
  | refl => apply hw
  | tail _ hs ih => apply hs.keeps_accounted ih

/-- An opening acquires the listening socket and the poll group together, or neither. -/
def AcquiresBoth (net : ISteamNetworkingSockets) (w : World Server) : Prop :=
  net.parseString w.trace w.self.address → (newSocket net w = 0 ↔ newGroup net w = 0)

/-- If the step is an opening, the server is not running and acquires its resources
together. -/
def OpensCleanly (net : ISteamNetworkingSockets) (w : World Server) : ServerStep → Prop
  | .openConnection => w.self.running = false ∧ AcquiresBoth net w
  | _ => True

/-- An address that cannot be parsed opens nothing: only a server that is running leaks. -/
theorem notOpened_accounted_iff {w : World Server} (hw : Accounted w) :
  Accounted (notOpened w) ↔ w.self.running = false
  := by
  obtain ⟨hs, hg⟩ := hw
  constructor
  · intro h
    have hnone := h.listenSockets
    simp only [notOpened, heldListenSockets, hs] at hnone
    by_contra hrun
    simp [hrun] at hnone
  · intro hrun
    constructor
    · simp [notOpened, heldListenSockets, hs, hrun]
    · simp [notOpened, heldPollGroups, hg, hrun]

/-- An opening leaks nothing if the server was not running and gets both its resources or none. -/
theorem opened_accounted_iff {w : World Server} (hw : Accounted w) :
  Accounted (opened net w)
    ↔ w.self.running = false ∧ (newSocket net w = 0 ↔ newGroup net w = 0)
  := by
  obtain ⟨hs, hg⟩ := hw
  obtain ⟨hs', hg'⟩ := @opened_held net w
  have hrun' : (opened net w).self.running
      = decide (newSocket net w ≠ 0 ∧ newGroup net w ≠ 0) := rfl
  have hsocket : (opened net w).self.listeningSocket = newSocket net w := rfl
  have hgroup : (opened net w).self.pollGroup = newGroup net w := rfl
  constructor
  · rintro ⟨h₁, h₂⟩
    rw [hs', hs, hrun', hsocket] at h₁
    rw [hg', hg, hrun', hgroup] at h₂
    by_cases hrun : w.self.running
    · by_cases h₀ : newSocket net w = 0
      · simp [hrun, h₀] at h₁
      · by_cases h₀' : newGroup net w = 0
        · simp [hrun, h₀'] at h₂
        · simp [hrun, h₀, h₀'] at h₁
    · constructor
      · simpa using hrun
      · by_cases h₀ : newSocket net w = 0
        · simpa [hrun, h₀] using h₂
        · simpa [hrun, h₀] using h₁
  · rintro ⟨hrun, hboth⟩
    constructor
    · rw [hs', hs, hrun', hsocket]
      by_cases h₀ : newSocket net w = 0
      · simp [hrun, h₀]
      · simp [hrun, h₀, mt hboth.mpr h₀]
    · rw [hg', hg, hrun', hgroup]
      by_cases h₀ : newSocket net w = 0
      · simp [hrun, h₀, hboth.mp h₀]
      · simp [hrun, h₀, mt hboth.mpr h₀]

/-- An opening keeps the resources accounted for exactly when it is clean. -/
theorem openConnection_accounted_iff {w : World Server} (hw : Accounted w) :
  Accounted (exit (openConnection net) w) ↔ OpensCleanly net w .openConnection
  := by
  cases hp : net.parseString w.trace w.self.address with
  | false =>
      rw [exit_ok (run_openConnection_unparsed hp), notOpened_accounted_iff hw]
      constructor
      · intro hrun
        use hrun
        simp [AcquiresBoth, hp]
      · exact fun h => h.1
  | true =>
      rw [exit_ok (run_openConnection_parsed hp), opened_accounted_iff hw]
      constructor
      · rintro ⟨hrun, hboth⟩
        exact ⟨hrun, fun _ => hboth⟩
      · rintro ⟨hrun, hboth⟩
        exact ⟨hrun, hboth hp⟩

/-- A step keeps the resources accounted for exactly when it is no unclean opening. -/
theorem step_accounted_iff (w : World Server) (s : ServerStep) (hw : Accounted w) :
  Accounted (exit (step net s) w) ↔ OpensCleanly net w s
  := by
  have heffects : ∀ {s : ServerStep}, Moves (AnyEffects net) (step net s) →
      Accounted (exit (step net s) w) := by
    intro s hs
    apply (hs w).keeps_accounted hw
  cases s with
  | openConnection => exact openConnection_accounted_iff hw
  | arrive m => exact iff_of_true (heffects (emit_moves rfl rfl)) trivial
  | queue info => exact iff_of_true (heffects (emit_moves rfl rfl)) trivial
  | updateConnection => exact iff_of_true (heffects updateConnection_moves) trivial
  | call c =>
      apply iff_of_true _ trivial
      apply heffects
      apply Moves.bind (perform_moves c (permits_all _ c))
      intro _
      apply Moves.pure
  | _ => exact iff_of_true ⟨hw.listenSockets, hw.pollGroups⟩ trivial

/-- A new server holds nothing. -/
theorem newServer_accounted (ip : String) (port : UInt32) (socket : HSteamListenSocket)
    (group : HSteamNetPollGroup) :
  Accounted (newServer ip port socket group)
  := ⟨rfl, rfl⟩

/-- Clearing the registry leaves the resources alone. -/
theorem clearConnections_resources :
  Moves SameResources clearConnections
  := by
  apply Moves.get_bind
  intro w
  apply Moves.bind
  · apply Moves.forM
    intro e _
    unfold destroy
    cases e.2.destructible with
    | true => apply Moves.pure
    | false => apply Moves.throw
  · intro _
    exact Moves.modify fun w => ⟨rfl, rfl, rfl, rfl, rfl, fun _ hg => hg⟩

/-- The destructor releases what the server holds, whether or not it fails. -/
theorem Accounted.destruct_released {w : World Server} (hw : Accounted w) :
  Released (exit destruct w)
  := by
  have hclear : ∀ w, Released w → Released (exit clearConnections w) := by
    intro w h
    have hsame := clearConnections_resources w
    rw [Released, hsame.listenSockets, hsame.pollGroups]
    apply h
  by_cases hrun : w.self.running
  · have hdestruct : exit destruct w = exit clearConnections (shutdown w) := by
      simp [destruct, exit, when, hrun, run_closeConnection]
    rw [hdestruct]
    apply hclear _ hw.shutdown_released
  · have hdestruct : exit destruct w = exit clearConnections w := by
      simp [destruct, exit, when, hrun]
    rw [hdestruct]
    apply hclear
    simpa [Released, hrun] using And.intro hw.listenSockets hw.pollGroups

/-- In a run from `w`, the resources are accounted for after every step, and the destructor
leaves nothing held. -/
def AccountsForResources (net : ISteamNetworkingSockets) (steps : List ServerStep)
    (w : World Server) : Prop :=
  (∀ pre, pre <+: steps → Accounted (exit (runSteps net pre) w)) ∧
    ∀ w', (runSteps net steps).run w = .ok () w' → Released (exit destruct w')

/-- The resources are accounted for throughout a run exactly when all its openings are
clean. -/
theorem accountsForResources_iff (steps : List ServerStep) (ip : String) (port : UInt32)
    (socket : HSteamListenSocket) (group : HSteamNetPollGroup) :
  AccountsForResources net steps (newServer ip port socket group)
    ↔ Along (step net) (OpensCleanly net) (newServer ip port socket group) steps
  := by
  have hiff := Along.iff_keeps (@step_accounted_iff net) steps _
    (newServer_accounted ip port socket group)
  constructor
  · rintro ⟨h, -⟩
    apply hiff.mp h
  · intro h
    use hiff.mpr h
    intro w' hrun
    apply Accounted.destruct_released
    rw [← exit_ok hrun]
    apply hiff.mpr h steps List.prefix_rfl

/-- A networking library that can create no listening socket. -/
def withoutListenSockets : ISteamNetworkingSockets :=
  { queueNetworking with createListenSocketIP := fun _ _ => 0 }

/-- An opening that creates a poll group but no listening socket leaves the poll group held
by a server that is not running. -/
theorem openConnection_leaks_pollGroup :
  ¬ AccountsForResources withoutListenSockets [.openConnection]
    (newServer "127.0.0.1" 8080 0 0)
  := by
  rintro ⟨h, -⟩
  have hopen := h [.openConnection] List.prefix_rfl
  apply absurd hopen.pollGroups
  decide

end Server

end Chs
