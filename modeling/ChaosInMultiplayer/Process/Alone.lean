import ChaosInMultiplayer.Process.Routing
import ChaosInMultiplayer.Program.Simulation
import ChaosInMultiplayer.Server.Admission

/-!
# A server alone in its process

A process in which one server has been constructed, and nothing else, runs as that server does on
its own: its current instance is the server whenever events are dispatched, and all events are
those of connections that arrive at its listening socket.
-/

namespace Chs

namespace Process

open Program

/-- The server has gone on without queueing a status event. -/
def Grows (w w' : World Server) : Prop :=
  GoesOnBy (fun e => ∀ info, e ≠ .queued info) w w'

/-- What an object may do by itself queues no status event. -/
theorem grows_of_steady {w w' : World Server} (h : Steady w w') :
  Grows w w'
  := by
  obtain ⟨es, hes, hall⟩ := h
  use es, hes
  rintro e he info rfl
  apply hall _ he

/-- Dispatching a status event queues none. -/
theorem onSteamNetConnectionStatusChanged_grows {net : ISteamNetworkingSockets}
    (info : StatusInfo) :
  Moves Grows (Server.onSteamNetConnectionStatusChanged net info)
  := by
  intro w
  apply (@Server.onSteamNetConnectionStatusChanged_moves net info w).goesOnBy.mono
  rintro e hmay info rfl
  cases hmay.2

/-- No status event comes into the queue. -/
theorem queuedEvents_grows {w w' : World Server} (h : Grows w w') :
  queuedEvents w'.trace ⊆ queuedEvents w.trace
  := by
  obtain ⟨es, hes, hall⟩ := h
  rw [hes]
  clear hes
  induction es with
  | nil => apply List.Subset.refl
  | cons e es ih =>
      have hrest := ih fun e' he' => hall e' (List.mem_cons_of_mem e he')
      cases e with
      | queued info => cases hall _ List.mem_cons_self info rfl
      | runCallbacks infos => apply List.nil_subset
      | _ => apply hrest

/-- The events of a server leave all owners alone. -/
theorem owner_madeBy_server (i : Nat) (es : Trace) (record : Record)
    (connection : HSteamNetConnection) :
  owner connection (madeBy (.server i) es ++ record) = owner connection record
  := by
  induction es with
  | nil => rfl
  | cons e es ih =>
      rw [← ih]
      rfl

/-! ### Hosting a server -/

/-- The process has the server of the world, and the same has happened in both. -/
structure Agrees (i : Nat) (s : Process) (w : World Server) : Prop where
  server : s.servers i = some w.self
  trace : s.trace = w.trace

/-- The process hosts the server of the world: the status events of `infos`, and those that are
queued, are events of connections of the server. -/
structure Hosts (i : Nat) (infos : List StatusInfo) (s : Process) (w : World Server) : Prop where
  agrees : Agrees i s w
  owned : ∀ info, info ∈ infos ∨ info ∈ queuedEvents w.trace →
    owner info.hConn s.record = some (.server i)

/-- The process hosts the server, which is the current instance of its class. -/
def Dispatches (i : Nat) (infos : List StatusInfo) (s : Process) (w : World Server) : Prop :=
  Hosts i infos s w ∧ s.serverInstance = some i

/-- When the server goes on, the process agrees with it, and has recorded what has happened. -/
theorem Agrees.withServer {i : Nat} {s : Process} {w w' : World Server} (h : Agrees i s w)
    (hgrows : Grows w w') :
  Agrees i (s.withServer i w') w' ∧
    ∃ es, (s.withServer i w').record = madeBy (.server i) es ++ s.record
  := by
  have hmade := withServer_made h.server w'
  obtain ⟨es, hes, -⟩ := hgrows
  have hrecord : (s.withServer i w').record = madeBy (.server i) es ++ s.record := by
    rw [hmade.record, hes, h.trace, newEvents_append]
  constructor
  · constructor
    · apply Function.update_self
    · rw [Process.trace, hrecord, traceOf_madeBy, hes, ← h.trace, Process.trace]
  · use es

/-- When the server goes on, the process still hosts it. -/
theorem Hosts.withServer {i : Nat} {infos : List StatusInfo} {s : Process} {w w' : World Server}
    (h : Hosts i infos s w) (hgrows : Grows w w') :
  Hosts i infos (s.withServer i w') w'
  := by
  obtain ⟨hagrees, es, hrecord⟩ := h.agrees.withServer hgrows
  use hagrees
  intro info hinfo
  rw [hrecord, owner_madeBy_server]
  apply h.owned info
  apply hinfo.imp_right
  intro hqueued
  apply queuedEvents_grows hgrows hqueued

/-- An operation through the pointer to the server is the operation of the server. -/
theorem onServer_simulates {i : Nat} {R : Process → World Server → Prop} {p : ServerM Unit}
    (hagrees : ∀ s w, R s w → Agrees i s w)
    (hkeeps : ∀ s w w', R s w → Grows w w' → R (s.withServer i w') w') (hp : Moves Grows p) :
  Simulates R (onServer i p) p R (Agrees i)
  := by
  intro s w h
  have hgrows := hkeeps s w _ h (hp w)
  have hworld : (⟨w.self, s.trace⟩ : World Server) = w := by rw [(hagrees s w h).trace]
  rw [onServer, EStateM.run_bind, EStateM.run_get]
  dsimp only
  rw [(hagrees s w h).server]
  dsimp only
  rw [hworld]
  cases hrun : p.run w with
  | ok a w' =>
      rw [exit_ok hrun] at hgrows
      exact ⟨rfl, hgrows⟩
  | error fault w' =>
      rw [exit_error hrun] at hgrows
      exact ⟨rfl, hagrees _ _ hgrows⟩

/-- A process that hosts a server runs its programs as the server does on its own. -/
theorem onServer_hosted {i : Nat} {p : ServerM Unit} (hp : Moves Grows p) :
  Simulates (Hosts i []) (onServer i p) p (Hosts i []) (Agrees i)
  := by
  apply onServer_simulates _ _ hp
  · intro s w h
    apply h.agrees
  · intro s w w' h hgrows
    apply h.withServer hgrows

/-- The same holds between the status events that are dispatched. -/
theorem onServer_dispatches {i : Nat} (infos : List StatusInfo) {p : ServerM Unit}
    (hp : Moves Grows p) :
  Simulates (Dispatches i infos) (onServer i p) p (Dispatches i infos) (Agrees i)
  := by
  apply onServer_simulates _ _ hp
  · intro s w h
    apply h.1.agrees
  · intro s w w' h hgrows
    exact ⟨h.1.withServer hgrows, h.2⟩

/-! ### Updates -/

variable {net : ISteamNetworkingSockets}

/-- An event of a connection of the server is passed to the server. -/
theorem dispatch_simulates (i : Nat) (info : StatusInfo) (infos : List StatusInfo) :
  Simulates (Dispatches i (info :: infos)) (dispatch net info)
    (Server.onSteamNetConnectionStatusChanged net info) (Dispatches i infos) (Agrees i)
  := by
  apply Simulates.get_bind_left
  rintro s w ⟨hhosts, hinstance⟩
  rw [hhosts.owned info (.inl List.mem_cons_self)]
  apply Simulates.get_bind_left
  rintro _ _ ⟨rfl, rfl⟩
  rw [hinstance]
  apply (onServer_dispatches infos (onSteamNetConnectionStatusChanged_grows info)).of_imp
  rintro _ _ ⟨rfl, rfl⟩
  constructor
  · use hhosts.agrees
    intro info' hinfo'
    apply hhosts.owned info'
    apply hinfo'.imp_left
    apply List.mem_cons_of_mem
  · apply hinstance

/-- The events that are dispatched are those of the server. -/
theorem Hosts.polled {i : Nat} {s : Process} {w : World Server} (h : Hosts i [] s w) :
  Dispatches i (queuedEvents w.trace) (polled (.server i) s)
    { w with trace := .runCallbacks (queuedEvents w.trace) :: w.trace }
  := by
  constructor
  · constructor
    · constructor
      · apply h.agrees.server
      · rw [← h.agrees.trace]
        rfl
    · intro info hinfo
      rw [polled_owner]
      apply h.owned info
      right
      rcases hinfo with hinfo | hinfo
      · apply hinfo
      · cases hinfo
  · rfl

/-- A process dispatches the status events to its server as the server does on its own. -/
theorem processConnectionStateChanges_simulates (hnet : net.DispatchesQueued) (i : Nat) :
  Simulates (Hosts i []) (processConnectionStateChanges net (.server i))
    (Server.processConnectionStateChanges net) (Hosts i []) (Agrees i)
  := by
  intro s w h
  have hrun : (Server.processConnectionStateChanges net).run w
      = (forM (queuedEvents w.trace) (Server.onSteamNetConnectionStatusChanged net)).run
          { w with trace := .runCallbacks (queuedEvents w.trace) :: w.trace } := by
    rw [← hnet w.trace]
    rfl
  rw [run_processConnectionStateChanges hnet, hrun, h.agrees.trace]
  have hforM := Simulates.forM (@dispatch_simulates net i) (queuedEvents w.trace)
  have hsim := hforM.mono (fun _ _ h => h) (fun _ _ h => h.1) fun _ _ h => h
  apply hsim _ _ h.polled

/-- A process updates its server as the server does on its own. -/
theorem updateServer_simulates (hnet : net.DispatchesQueued) (i : Nat) :
  Simulates (Hosts i []) (ownServer i (updateServer net i)) (Server.updateConnection net)
    (Hosts i []) (Agrees i)
  := by
  apply Simulates.get_bind
  intro s w h
  rw [h.agrees.server]
  dsimp only
  rw [updateServer]
  split
  · apply Simulates.pure
    rintro _ _ ⟨rfl, rfl⟩
    apply h
  · have hpackets : Moves Grows (Server.processPendingPackets net) :=
      Server.processPendingPackets_steady.mono fun _ _ => grows_of_steady
    have hinput : Moves Grows Server.processUserInput :=
      Server.processUserInput_steady.mono fun _ _ => grows_of_steady
    have hupdate : Simulates (Hosts i []) (do
        onServer i (Server.processPendingPackets net)
        processConnectionStateChanges net (.server i)
        onServer i Server.processUserInput) (do
        Server.processPendingPackets net
        Server.processConnectionStateChanges net
        Server.processUserInput) (Hosts i []) (Agrees i) := by
      apply (onServer_hosted hpackets).bind
      intro _
      apply (processConnectionStateChanges_simulates hnet i).bind
      intro _
      apply onServer_hosted hinput
    apply hupdate.of_imp
    rintro _ _ ⟨rfl, rfl⟩
    apply h

/-! ### Runs -/

/-- An event of the network is noted on both sides. -/
theorem Hosts.noted {i : Nat} {s : Process} {w : World Server} (h : Hosts i [] s w)
    {event : Event} (hevent : ∀ info, event ≠ .queued info) :
  Hosts i [] { s with record := .network event :: s.record }
    { w with trace := event :: w.trace }
  := by
  constructor
  · constructor
    · apply h.agrees.server
    · rw [← h.agrees.trace]
      rfl
  · intro info hinfo
    apply h.owned info
    apply hinfo.imp_right
    have hgrows : Grows w { w with trace := event :: w.trace } := goesOnBy_cons rfl hevent
    intro hqueued
    apply queuedEvents_grows hgrows hqueued

/-- A status event of a connection of the server is queued on both sides. -/
theorem Hosts.queued {i : Nat} {s : Process} {w : World Server} (h : Hosts i [] s w)
    (info : StatusInfo) :
  Hosts i [] { s with record := .network (.queued info) :: .incoming i info.hConn :: s.record }
    { w with trace := .queued info :: w.trace }
  := by
  constructor
  · constructor
    · apply h.agrees.server
    · rw [← h.agrees.trace]
      rfl
  · rintro info' (hinfo' | hinfo')
    · cases hinfo'
    · rw [owner, owner]
      · split
        · rfl
        · rename_i hne
          rcases List.mem_append.mp hinfo' with hinfo' | hinfo'
          · apply h.owned info' (.inr hinfo')
          · exfalso
            apply hne
            rw [List.mem_singleton.mp hinfo']
      all_goals simp

/-- The owner's calls are run as on the server on its own. -/
theorem ownServer_hosted {i : Nat} {p : ServerM Unit} (hp : Moves Grows p) :
  Simulates (Hosts i []) (ownServer i fun _ => onServer i p) p (Hosts i []) (Agrees i)
  := by
  apply Simulates.get_bind_left
  intro s w h
  rw [h.agrees.server]
  apply (onServer_hosted hp).of_imp
  rintro _ _ ⟨rfl, rfl⟩
  apply h

/-- A step of the hosted server, or of the network for it, is that step of the server. -/
theorem stepServer_simulates (hnet : net.DispatchesQueued) (i : Nat) (step : ServerStep) :
  Simulates (Hosts i []) (stepServer net i step) (Server.step net step) (Hosts i []) (Agrees i)
  := by
  have hown : Server.OfOwner step → Moves Grows (Server.step net step) := fun hstep =>
    (Server.step_steady hstep).mono fun _ _ => grows_of_steady
  cases step with
  | arrive message =>
      apply Simulates.modify
      intro s w h
      apply h.noted
      intro info hinfo
      cases hinfo
  | queue info =>
      intro s w h
      exact ⟨rfl, h.queued info⟩
  | updateConnection => apply updateServer_simulates hnet
  | _ => exact ownServer_hosted (hown trivial)

/-- A process runs the steps of its server as the server does on its own. -/
theorem runSteps_simulates (hnet : net.DispatchesQueued) (i : Nat) (steps : List ServerStep) :
  Simulates (Hosts i []) (runSteps net (steps.map (.server i))) (Server.runSteps net steps)
    (Hosts i []) (Agrees i)
  := by
  rw [runSteps, List.forM_map]
  apply Simulates.forM (I := fun _ => Hosts i [])
  intro step _
  apply stepServer_simulates hnet

/-- A process that has constructed a server hosts it. -/
theorem constructed_hosts (ip : String) (port : UInt32) (socket : HSteamListenSocket)
    (group : HSteamNetPollGroup) :
  Hosts 0 [] (exit (step net (.constructServer ip port socket group)) newProcess)
    (newServer ip port socket group)
  := by
  constructor
  · constructor
    · rfl
    · rfl
  · rintro info (hinfo | hinfo)
    · cases hinfo
    · cases hinfo

/-- A process that constructs one server and nothing else runs as that server does. -/
theorem runSteps_alone (hnet : net.DispatchesQueued) (ip : String) (port : UInt32)
    (socket : HSteamListenSocket) (group : HSteamNetPollGroup) (steps : List ServerStep) :
  Simulates (fun s w => s = newProcess ∧ w = newServer ip port socket group)
    (runSteps net (.constructServer ip port socket group :: steps.map (.server 0)))
    (Server.runSteps net steps) (Hosts 0 []) (Agrees 0)
  := by
  rintro _ _ ⟨rfl, rfl⟩
  apply runSteps_simulates hnet 0 steps
  apply @constructed_hosts net

/-- In its process, a server tells its clients of changes. -/
theorem announced_alone :
  Simulates (fun s w => s = newProcess ∧ w = newServer "127.0.0.1" 8080 0 0)
    (runSteps queueNetworking
      (.constructServer "127.0.0.1" 8080 0 0 :: Server.announcedConnections.map (.server 0)))
    (Server.runSteps queueNetworking Server.announcedConnections) (Hosts 0 []) (Agrees 0)
  := runSteps_alone queueNetworking_dispatchesQueued "127.0.0.1" 8080 0 0
    Server.announcedConnections

end Process

end Chs
