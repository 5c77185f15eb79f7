import ChaosInMultiplayer.Client.Effect
import ChaosInMultiplayer.Common.QueueNetworking
import ChaosInMultiplayer.Program.Ensures
import ChaosInMultiplayer.Server.Fault

/-!
# The dispatching of status events

Both endpoints translate the states of a status event by a table of their own and pass the
resulting change to the status callback.  An update of either endpoint tells its callback all the
queued events, once each and in their order, exactly if none of their states is `FindingRoute`,
for which neither table has an entry: the first such event ends the dispatching with an exception.
-/

namespace Chs

/-- The changes the status callback has been told, in their order. -/
def toldChanges : Trace → List ConnectionStatusChange
  | [] => []
  | .statusCallback change :: t => toldChanges t ++ [change]
  | _ :: t => toldChanges t

/-- Events of other kinds tell the status callback nothing. -/
theorem toldChanges_append {es : Trace} (hes : ∀ e ∈ es, ∀ change, e ≠ .statusCallback change)
    (t : Trace) :
  toldChanges (es ++ t) = toldChanges t
  := by
  apply History.unchanged_append _ hes
  intro e t he
  cases e with
  | statusCallback change => exact absurd rfl (he change)
  | _ => rfl

/-- The change an event is reported as, when its states are reported by `status`. -/
def StatusInfo.change (status : ESteamNetworkingConnectionState → ConnectionStatus)
    (info : StatusInfo) : ConnectionStatusChange :=
  ⟨info.hConn, status info.eOldState, status info.eState⟩

/-- No state of the event is `FindingRoute`. -/
def StatusInfo.Routed (info : StatusInfo) : Prop :=
  info.eOldState ≠ .findingRoute ∧ info.eState ≠ .findingRoute

/-- From the world, the program returns and has told the status callback all the queued events,
once each and in their order. -/
def TellsQueued {E : Type} (status : ESteamNetworkingConnectionState → ConnectionStatus)
    (p : EndpointM E Unit) (w : World E) : Prop :=
  ∃ w', p.run w = .ok () w' ∧
    toldChanges w'.trace
      = toldChanges w.trace ++ (queuedEvents w.trace).map (StatusInfo.change status)

open Program

/-- The program returns from every world. -/
def Returns {E : Type} (p : EndpointM E Unit) : Prop :=
  ∀ w, ∃ w', p.run w = .ok () w'

/-! ### Dispatching on any endpoint -/

/-- The status with the name of a state. -/
def statusOf : ESteamNetworkingConnectionState → ConnectionStatus
  | .none => .none
  | .connecting => .connecting
  | .findingRoute => .findingRoute
  | .connected => .connected
  | .closedByPeer => .closedByPeer
  | .problemDetectedLocally => .problemDetectedLocally

/-- Different states are mapped to different statuses. -/
theorem statusOf_injective :
  Function.Injective statusOf
  := by
  intro state state' h
  cases state <;> cases state' <;> first | rfl | cases h

section Dispatching

variable {E : Type} {mappings : List (ESteamNetworkingConnectionState × ConnectionStatus)}

theorem run_statusAt_some {state : ESteamNetworkingConnectionState} {status : ConnectionStatus}
    (h : mappings.lookup state = some status) (w : World E) :
  (statusAt mappings state).run w = .ok status w
  := by
  rw [statusAt, h]
  rfl

theorem run_statusAt_none {state : ESteamNetworkingConnectionState}
    (h : mappings.lookup state = none) (w : World E) :
  (statusAt mappings state).run w = .error (.outOfRange "CONNECTION_STATUS_MAPPINGS") w
  := by
  rw [statusAt, h]
  rfl

/-- The passing on of an event to a status callback, if there is one. -/
def passOn (mappings : List (ESteamNetworkingConnectionState × ConnectionStatus))
    (info : StatusInfo) :
    Option (ConnectionStatusChange → Trace → EndpointM E Unit) → EndpointM E Unit
  | none => do
      logError "No callback for connection status change"
      throw (.exit 1)
  | some callback => do
      let oldStatus ← statusAt mappings info.eOldState
      let currentStatus ← statusAt mappings info.eState
      let change : ConnectionStatusChange := ⟨info.hConn, oldStatus, currentStatus⟩
      emit (.statusCallback change)
      let w ← get
      callback change w.trace

/-- An event whose states are mapped is passed on to the callback. -/
theorem run_passOn {callback : ConnectionStatusChange → Trace → EndpointM E Unit}
    {info : StatusInfo} {oldStatus currentStatus : ConnectionStatus}
    (hold : mappings.lookup info.eOldState = some oldStatus)
    (hcurrent : mappings.lookup info.eState = some currentStatus) (w : World E) :
  (passOn mappings info (some callback)).run w
    = (callback ⟨info.hConn, oldStatus, currentStatus⟩
          (.statusCallback ⟨info.hConn, oldStatus, currentStatus⟩ :: w.trace)).run
        { w with trace := .statusCallback ⟨info.hConn, oldStatus, currentStatus⟩ :: w.trace }
  := by
  rw [passOn, run_bind_ok _ (run_statusAt_some hold w),
    run_bind_ok _ (run_statusAt_some hcurrent w)]
  rfl

/-- An event is passed on only if its states have entries in the table. -/
theorem passOn_routed (hnone : mappings.lookup .findingRoute = none) {info : StatusInfo}
    {callback : Option (ConnectionStatusChange → Trace → EndpointM E Unit)} {w w' : World E}
    (h : (passOn mappings info callback).run w = .ok () w') :
  info.Routed
  := by
  cases callback with
  | none => cases h
  | some callback =>
      obtain ⟨oldStatus, w₁, hold, h⟩ := run_bind_eq_ok h
      obtain ⟨currentStatus, w₂, hcurrent, -⟩ := run_bind_eq_ok h
      constructor
      · intro hstate
        rw [hstate, run_statusAt_none hnone] at hold
        cases hold
      · intro hstate
        rw [hstate, run_statusAt_none hnone] at hcurrent
        cases hcurrent

/-- A callback that is told nothing by its own calls is told the event that is passed on. -/
theorem passOn_told {callback : ConnectionStatusChange → Trace → EndpointM E Unit}
    {info : StatusInfo}
    (hold : mappings.lookup info.eOldState = some (statusOf info.eOldState))
    (hcurrent : mappings.lookup info.eState = some (statusOf info.eState))
    {R : World E → World E → Prop}
    (hR : ∀ {w w'}, R w w' → toldChanges w'.trace = toldChanges w.trace)
    (hmoves : ∀ change t, Moves R (callback change t))
    (hreturns : ∀ change t, Returns (callback change t)) (w : World E) :
  ∃ w', (passOn mappings info (some callback)).run w = .ok () w' ∧
    R { w with trace := .statusCallback (info.change statusOf) :: w.trace } w' ∧
    toldChanges w'.trace = toldChanges w.trace ++ [info.change statusOf]
  := by
  rw [run_passOn hold hcurrent]
  obtain ⟨w', hrun⟩ := hreturns (info.change statusOf)
    (.statusCallback (info.change statusOf) :: w.trace)
    { w with trace := .statusCallback (info.change statusOf) :: w.trace }
  have hmove := hmoves (info.change statusOf)
    (.statusCallback (info.change statusOf) :: w.trace)
    { w with trace := .statusCallback (info.change statusOf) :: w.trace }
  rw [exit_ok hrun] at hmove
  exact ⟨w', hrun, hmove, hR hmove⟩

/-- If the callback is told each event when it is passed on, it is told a whole list of events. -/
theorem forM_told {I : World E → Prop} {onChanged : StatusInfo → EndpointM E Unit}
    {infos : List StatusInfo}
    (h : ∀ info ∈ infos, ∀ w, I w → ∃ w', (onChanged info).run w = .ok () w' ∧ I w' ∧
      toldChanges w'.trace = toldChanges w.trace ++ [info.change statusOf]) {w : World E}
    (hw : I w) :
  ∃ w', (forM infos onChanged : EndpointM E Unit).run w = .ok () w' ∧
    toldChanges w'.trace = toldChanges w.trace ++ infos.map (StatusInfo.change statusOf)
  := by
  induction infos generalizing w with
  | nil => exact ⟨w, rfl, (List.append_nil _).symm⟩
  | cons info infos ih =>
      obtain ⟨w₁, hrun, hw₁, htold⟩ := h info List.mem_cons_self w hw
      obtain ⟨w', hrun', htold'⟩ := ih (fun i hi => h i (List.mem_cons_of_mem info hi)) hw₁
      use w'
      constructor
      · rw [List.forM_cons, run_bind_ok _ hrun, hrun']
      · rw [htold', htold, List.append_assoc, List.map_cons, List.singleton_append]

end Dispatching

/-! ### The two endpoints -/

/-- Both tables have the status with the name of a state, for all states but `FindingRoute`. -/
theorem mappings_lookup {state : ESteamNetworkingConnectionState} (h : state ≠ .findingRoute) :
  Server.connectionStatusMappings.lookup state = some (statusOf state) ∧
    Client.connectionStatusMappings.lookup state = some (statusOf state)
  := by
  cases state with
  | findingRoute => exact absurd rfl h
  | _ => exact ⟨rfl, rfl⟩

variable {net : ISteamNetworkingSockets}

namespace Server

/-- The status callback of the server is installed and returns whenever it is called. -/
def StatusCallbackReturns (net : ISteamNetworkingSockets) (w : World Server) : Prop :=
  ∃ callback, w.self.connectionStatusChangeCallback = some callback ∧
    ∀ change t, Returns ((callback change t).run (perform net))

/-- A status event is passed on to the status callback of the server. -/
theorem run_onSteamNetConnectionStatusChanged (info : StatusInfo) (w : World Server) :
  (onSteamNetConnectionStatusChanged net info).run w
    = (passOn connectionStatusMappings info
        (w.self.connectionStatusChangeCallback.map fun callback change t =>
          (callback change t).run (perform net))).run w
  := by
  rw [onSteamNetConnectionStatusChanged, EStateM.run_bind, EStateM.run_get]
  dsimp only
  cases w.self.connectionStatusChangeCallback <;> rfl

/-- The calls of a callback tell the status callback nothing and leave it installed. -/
def Untold (w w' : World Server) : Prop :=
  toldChanges w'.trace = toldChanges w.trace ∧
    w'.self.connectionStatusChangeCallback = w.self.connectionStatusChangeCallback

/-- A script tells the status callback nothing. -/
theorem script_untold (s : ServerScript Unit) :
  Moves Untold (s.run (perform net))
  := by
  intro w
  have heffects := @script_moves_all net (fun _ => false) s w
  constructor
  · obtain ⟨es, hes, hmay⟩ := heffects.goesOnBy
    rw [hes]
    apply toldChanges_append
    rintro e he change rfl
    cases (hmay _ he).2
  · apply heffects.keeps_settings.2.1

/-- A status event with mapped states is told to a status callback that returns. -/
theorem onSteamNetConnectionStatusChanged_told {info : StatusInfo} (hinfo : info.Routed)
    (w : World Server) (hw : StatusCallbackReturns net w) :
  ∃ w', (onSteamNetConnectionStatusChanged net info).run w = .ok () w' ∧
    StatusCallbackReturns net w' ∧
    toldChanges w'.trace = toldChanges w.trace ++ [info.change statusOf]
  := by
  obtain ⟨callback, hcallback, hreturns⟩ := hw
  obtain ⟨w', hrun, ⟨-, hsame⟩, htold⟩ := passOn_told (mappings_lookup hinfo.1).1
    (mappings_lookup hinfo.2).1 (fun h => h.1)
    (fun change t => script_untold (callback change t)) hreturns w
  use w'
  constructor
  · rw [run_onSteamNetConnectionStatusChanged, hcallback]
    apply hrun
  · exact ⟨⟨callback, hsame.trans hcallback, hreturns⟩, htold⟩

/-- The status events in the queue are dispatched one after another. -/
theorem run_processConnectionStateChanges (hnet : net.DispatchesQueued) (w : World Server) :
  (processConnectionStateChanges net).run w
    = (forM (queuedEvents w.trace) (onSteamNetConnectionStatusChanged net)).run
        { w with trace := .runCallbacks (queuedEvents w.trace) :: w.trace }
  := by
  rw [← hnet w.trace]
  rfl

/-- A status callback that returns is told the whole queue if all its states are mapped. -/
theorem processConnectionStateChanges_tells (hnet : net.DispatchesQueued) {w : World Server}
    (hw : StatusCallbackReturns net w) (hrouted : ∀ info ∈ queuedEvents w.trace, info.Routed) :
  TellsQueued statusOf (processConnectionStateChanges net) w
  := by
  rw [TellsQueued, run_processConnectionStateChanges hnet]
  apply forM_told (I := StatusCallbackReturns net)
  · intro info hinfo
    apply onSteamNetConnectionStatusChanged_told (hrouted info hinfo)
  · apply hw

/-- If the dispatch returns, the states of all events in the queue are mapped. -/
theorem processConnectionStateChanges_routed (hnet : net.DispatchesQueued) {w w' : World Server}
    (h : (processConnectionStateChanges net).run w = .ok () w') :
  ∀ info ∈ queuedEvents w.trace, info.Routed
  := by
  rw [run_processConnectionStateChanges hnet] at h
  apply all_of_run_forM (P := StatusInfo.Routed) _ h
  intro info w₁ w₂ hrun
  rw [run_onSteamNetConnectionStatusChanged] at hrun
  apply passOn_routed rfl hrun

end Server

namespace Client

/-- The status callback of the client is installed and returns whenever it is called. -/
def StatusCallbackReturns (net : ISteamNetworkingSockets) (w : World Client) : Prop :=
  ∃ callback, w.self.connectionStatusChangeCallback = some callback ∧
    ∀ change t, Returns ((callback change t).run (perform net))

/-- A status event is passed on to the status callback of the client. -/
theorem run_onSteamNetConnectionStatusChanged (info : StatusInfo) (w : World Client) :
  (onSteamNetConnectionStatusChanged net info).run w
    = (passOn connectionStatusMappings info
        (w.self.connectionStatusChangeCallback.map fun callback change t =>
          (callback change t).run (perform net))).run w
  := by
  rw [onSteamNetConnectionStatusChanged, EStateM.run_bind, EStateM.run_get]
  dsimp only
  cases w.self.connectionStatusChangeCallback <;> rfl

/-- The calls of a callback tell the status callback nothing and leave it installed. -/
def Untold (w w' : World Client) : Prop :=
  toldChanges w'.trace = toldChanges w.trace ∧
    w'.self.connectionStatusChangeCallback = w.self.connectionStatusChangeCallback

instance : Std.Refl Untold where
  refl _ := ⟨rfl, rfl⟩

instance : IsTrans (World Client) Untold where
  trans _ _ _ h h' := ⟨h'.1.trans h.1, h'.2.trans h.2⟩

/-- The calls of a callback tell the status callback nothing. -/
theorem untold_follows :
  Follows net Untold fun _ => False
  := by
  constructor
  · intro e he w
    constructor
    · cases e <;> first | rfl | simp at he
    · rfl
  · exact fun w address => ⟨rfl, rfl⟩

/-- A status event with mapped states is told to a status callback that returns. -/
theorem onSteamNetConnectionStatusChanged_told {info : StatusInfo} (hinfo : info.Routed)
    (w : World Client) (hw : StatusCallbackReturns net w) :
  ∃ w', (onSteamNetConnectionStatusChanged net info).run w = .ok () w' ∧
    StatusCallbackReturns net w' ∧
    toldChanges w'.trace = toldChanges w.trace ++ [info.change statusOf]
  := by
  obtain ⟨callback, hcallback, hreturns⟩ := hw
  obtain ⟨w', hrun, ⟨-, hsame⟩, htold⟩ := passOn_told (mappings_lookup hinfo.1).2
    (mappings_lookup hinfo.2).2 (fun h => h.1)
    (fun change t => script_moves untold_follows (callback change t)) hreturns w
  use w'
  constructor
  · rw [run_onSteamNetConnectionStatusChanged, hcallback]
    apply hrun
  · exact ⟨⟨callback, hsame.trans hcallback, hreturns⟩, htold⟩

/-- The status events in the queue are dispatched one after another. -/
theorem run_processConnectionStateChanges (hnet : net.DispatchesQueued) (w : World Client) :
  (processConnectionStateChanges net).run w
    = (forM (queuedEvents w.trace) (onSteamNetConnectionStatusChanged net)).run
        { w with trace := .runCallbacks (queuedEvents w.trace) :: w.trace }
  := by
  rw [← hnet w.trace]
  rfl

/-- A status callback that returns is told the whole queue if all its states are mapped. -/
theorem processConnectionStateChanges_tells (hnet : net.DispatchesQueued) {w : World Client}
    (hw : StatusCallbackReturns net w) (hrouted : ∀ info ∈ queuedEvents w.trace, info.Routed) :
  TellsQueued statusOf (processConnectionStateChanges net) w
  := by
  rw [TellsQueued, run_processConnectionStateChanges hnet]
  apply forM_told (I := StatusCallbackReturns net)
  · intro info hinfo
    apply onSteamNetConnectionStatusChanged_told (hrouted info hinfo)
  · apply hw

end Client

/-! ### All events -/

/-- A server and a client whose networking libraries have queued the same events tell their
status callbacks all of them, as the same changes, and report distinct states as distinct
statuses. -/
def LosesNoEvent (net net' : ISteamNetworkingSockets) (w : World Server) (w' : World Client) :
    Prop :=
  ∃ status, Function.Injective status ∧
    TellsQueued status (Server.processConnectionStateChanges net) w ∧
    TellsQueued status (Client.processConnectionStateChanges net') w'

/-- No event is lost exactly if none has a state `FindingRoute`. -/
theorem losesNoEvent_iff {net net' : ISteamNetworkingSockets} (hnet : net.DispatchesQueued)
    (hnet' : net'.DispatchesQueued) {w : World Server} {w' : World Client}
    (hqueue : queuedEvents w'.trace = queuedEvents w.trace)
    (hw : Server.StatusCallbackReturns net w) (hw' : Client.StatusCallbackReturns net' w') :
  LosesNoEvent net net' w w' ↔ ∀ info ∈ queuedEvents w.trace, info.Routed
  := by
  constructor
  · rintro ⟨status, -, ⟨w₁, hrun, -⟩, -⟩
    apply Server.processConnectionStateChanges_routed hnet hrun
  · intro hrouted
    use statusOf, statusOf_injective
    constructor
    · apply Server.processConnectionStateChanges_tells hnet hw hrouted
    · rw [← hqueue] at hrouted
      apply Client.processConnectionStateChanges_tells hnet' hw' hrouted

/-- A server whose status callback makes no calls, with the given events in its queue. -/
def waitingServer (infos : List StatusInfo) : World Server where
  self :=
    { Server.construct "127.0.0.1" 8080 0 0 with
      connectionStatusChangeCallback := some fun _ _ => pure () }
  trace := (infos.map .queued).reverse

/-- A client whose status callback makes no calls, with the given events in its queue. -/
def waitingClient (infos : List StatusInfo) : World Client where
  self := { Client.construct 0 with connectionStatusChangeCallback := some fun _ _ => pure () }
  trace := (infos.map .queued).reverse

/-- Two connecting events in the queue of both endpoints. -/
theorem twoConnecting_losesNoEvent :
  LosesNoEvent queueNetworking queueNetworking
    (waitingServer [⟨1, .none, .connecting⟩, ⟨2, .none, .connecting⟩])
    (waitingClient [⟨1, .none, .connecting⟩, ⟨2, .none, .connecting⟩])
  := by
  apply (losesNoEvent_iff queueNetworking_dispatchesQueued queueNetworking_dispatchesQueued rfl
    ⟨_, rfl, fun _ _ w => ⟨w, rfl⟩⟩ ⟨_, rfl, fun _ _ w => ⟨w, rfl⟩⟩).mpr
  have hqueue : queuedEvents
      (waitingServer [⟨1, .none, .connecting⟩, ⟨2, .none, .connecting⟩]).trace
      = [⟨1, .none, .connecting⟩, ⟨2, .none, .connecting⟩] := rfl
  rw [hqueue]
  simp [StatusInfo.Routed]

/-- An event of a connection that is finding its route takes the event behind it with it. -/
theorem findingRoute_losesEvents :
  ¬ LosesNoEvent queueNetworking queueNetworking
      (waitingServer [⟨1, .connecting, .findingRoute⟩, ⟨2, .none, .connecting⟩])
      (waitingClient [⟨1, .connecting, .findingRoute⟩, ⟨2, .none, .connecting⟩])
  := by
  rintro ⟨status, -, ⟨w, hrun, -⟩, -⟩
  have hrouted := Server.processConnectionStateChanges_routed queueNetworking_dispatchesQueued hrun
  apply (hrouted ⟨1, .connecting, .findingRoute⟩ List.mem_cons_self).2 rfl

end Chs
