import ChaosInMultiplayer.Client.NullPacket
import ChaosInMultiplayer.Endpoints.StatusEvents

/-!
# Status events of earlier connections

The status callback of the example client closes the connection the client has now, whatever
connection the event is of.  So an event of an earlier connection closes the current one exactly
if it is the first event of the queue that reports the end of a connection, and the current
connection is opened when the queue is dispatched.
-/

namespace Chs

open Program

instance (info : StatusInfo) : Decidable info.Routed :=
  inferInstanceAs (Decidable (_ ∧ _))

/-- The first of the events that reports the end of a connection, before any event that cannot be
passed on. -/
def firstClosing (infos : List StatusInfo) : Option StatusInfo :=
  (infos.takeWhile fun info => info.Routed).find? fun info => info.eState.closing

namespace ExampleClient

open Client

variable {net : ISteamNetworkingSockets}

/-- The client uses the status callback of the example. -/
def Installed (w : World Client) : Prop :=
  w.self.connectionStatusChangeCallback = some connectionStatusChangeCallback

/-- The event belongs to a connection that the client had earlier. -/
def OfEarlier (w : World Client) (info : StatusInfo) : Prop :=
  info.hConn ≠ 0 ∧ .connectByIPAddress info.hConn ∈ w.trace ∧
    info.hConn ≠ w.self.serverConnection

/-- If an event of an earlier connection is dispatched while the connection is opened, the
connection stays open. -/
def SparesCurrent (net : ISteamNetworkingSockets) (w : World Client) (info : StatusInfo) : Prop :=
  OfEarlier w info → ConnectionOpened w →
    ConnectionOpened (exit (onSteamNetConnectionStatusChanged net info) w)

/-- None of the events closes the connection when it is dispatched after those before it, unless
it belongs to the connection. -/
def AllSpareCurrent (net : ISteamNetworkingSockets) (w : World Client) (infos : List StatusInfo) :
    Prop :=
  ∀ before info after w₁, infos = before ++ info :: after →
    (forM before (onSteamNetConnectionStatusChanged net)).run w = .ok () w₁ →
    SparesCurrent net w₁ info

/-- The end that the queue reports first while the connection is opened is not the end of an
earlier connection. -/
def FirstClosingCurrent (w : World Client) (infos : List StatusInfo) : Prop :=
  ConnectionOpened w → ∀ info, firstClosing infos = some info → ¬ OfEarlier w info

instance (w : World Client) : Decidable (ConnectionOpened w) :=
  inferInstanceAs (Decidable (Opened _ _))

instance (w : World Client) (info : StatusInfo) : Decidable (OfEarlier w info) :=
  inferInstanceAs (Decidable (_ ∧ _ ∧ _))

/-! ### Dispatching one event -/

/-- The world after an event has been reported. -/
def reported (w : World Client) (info : StatusInfo) : World Client :=
  { w with trace := .statusCallback (info.change statusOf) :: w.trace }

/-- The world after the connection has been closed. -/
def closed (w : World Client) : World Client :=
  { w with trace := .closeConnection w.self.serverConnection :: w.trace }

/-- An event that reports the end of a connection closes the current one. -/
theorem run_dispatch_closing {w : World Client} (hw : Installed w) {info : StatusInfo}
    (hinfo : info.Routed) (hclosing : info.eState.closing) :
  (onSteamNetConnectionStatusChanged net info).run w = .ok () (closed (reported w info))
  := by
  rw [run_onSteamNetConnectionStatusChanged, hw, Option.map_some,
    run_passOn (mappings_lookup hinfo.1).2 (mappings_lookup hinfo.2).2]
  cases hstate : info.eState <;> rw [hstate] at hclosing <;> try cases hclosing
  all_goals
    simp only [connectionStatusChangeCallback, statusOf, ClientScript.call, Script.run_request]
    rw [closed, reported, StatusInfo.change, hstate]
    rfl

/-- Another event closes nothing. -/
theorem run_dispatch_open {w : World Client} (hw : Installed w) {info : StatusInfo}
    (hinfo : info.Routed) (hopen : info.eState.closing = false) :
  (onSteamNetConnectionStatusChanged net info).run w = .ok () (reported w info)
  := by
  rw [run_onSteamNetConnectionStatusChanged, hw, Option.map_some,
    run_passOn (mappings_lookup hinfo.1).2 (mappings_lookup hinfo.2).2]
  cases hstate : info.eState <;> rw [hstate] at hopen <;> try cases hopen
  all_goals
    simp only [connectionStatusChangeCallback, statusOf, Script.run_pure]
    rw [reported, StatusInfo.change, hstate]
    rfl

/-- An event that cannot be passed on raises an exception and changes nothing. -/
theorem run_dispatch_unrouted {w : World Client} (hw : Installed w) {info : StatusInfo}
    (hinfo : ¬ info.Routed) :
  (onSteamNetConnectionStatusChanged net info).run w
    = .error (.outOfRange "CONNECTION_STATUS_MAPPINGS") w
  := by
  rw [run_onSteamNetConnectionStatusChanged, hw, Option.map_some, passOn]
  by_cases hold : info.eOldState = .findingRoute
  · rw [hold, EStateM.run_bind, run_statusAt_none rfl]
  · have hstate : info.eState = .findingRoute := by
      by_contra hstate
      apply hinfo ⟨hold, hstate⟩
    rw [run_bind_ok _ (run_statusAt_some (mappings_lookup hold).2 w), hstate, EStateM.run_bind,
      run_statusAt_none rfl]

/-- What the dispatching of an event that returns has done. -/
theorem dispatch_cases {w w' : World Client} (hw : Installed w) {info : StatusInfo}
    (hrun : (onSteamNetConnectionStatusChanged net info).run w = .ok () w') :
  info.Routed ∧ ((info.eState.closing ∧ w' = closed (reported w info)) ∨
    (info.eState.closing = false ∧ w' = reported w info))
  := by
  by_cases hinfo : info.Routed
  · use hinfo
    cases hclosing : info.eState.closing with
    | true =>
        rw [run_dispatch_closing hw hinfo hclosing] at hrun
        cases hrun
        left
        exact ⟨rfl, rfl⟩
    | false =>
        rw [run_dispatch_open hw hinfo hclosing] at hrun
        cases hrun
        right
        exact ⟨rfl, rfl⟩
  · rw [run_dispatch_unrouted hw hinfo] at hrun
    cases hrun

theorem opened_reported (w : World Client) (info : StatusInfo) :
  ConnectionOpened (reported w info) ↔ ConnectionOpened w
  := by
  simp [ConnectionOpened, Opened, reported]

theorem not_opened_closed (w : World Client) :
  ¬ ConnectionOpened (closed w)
  := by
  rintro ⟨-, -, hnot⟩
  apply hnot List.mem_cons_self

theorem ofEarlier_reported (w : World Client) (info info' : StatusInfo) :
  OfEarlier (reported w info') info ↔ OfEarlier w info
  := by
  simp [OfEarlier, reported]

theorem installed_dispatch {w w' : World Client} (hw : Installed w) {info : StatusInfo}
    (hrun : (onSteamNetConnectionStatusChanged net info).run w = .ok () w') :
  Installed w'
  := by
  obtain ⟨-, ⟨-, rfl⟩ | ⟨-, rfl⟩⟩ := dispatch_cases hw hrun <;> exact hw

/-- An event that is not reported as the end of a connection closes nothing. -/
theorem sparesCurrent_of_open {w : World Client} (hw : Installed w) {info : StatusInfo}
    (h : info.Routed → info.eState.closing = false) :
  SparesCurrent net w info
  := by
  intro _ hopened
  by_cases hinfo : info.Routed
  · rw [exit_ok (run_dispatch_open hw hinfo (h hinfo)), opened_reported]
    apply hopened
  · rw [exit_error (run_dispatch_unrouted hw hinfo)]
    apply hopened

/-- An event that is reported as the end of a connection closes the connection. -/
theorem sparesCurrent_iff_of_closing {w : World Client} (hw : Installed w) {info : StatusInfo}
    (hinfo : info.Routed) (hclosing : info.eState.closing) :
  SparesCurrent net w info ↔ (ConnectionOpened w → ¬ OfEarlier w info)
  := by
  rw [SparesCurrent, exit_ok (run_dispatch_closing hw hinfo hclosing)]
  have hnot := not_opened_closed (reported w info)
  tauto

/-! ### Dispatching the queue -/

/-- The events are dispatched one by one. -/
theorem allSpareCurrent_cons {w : World Client} {info : StatusInfo} {infos : List StatusInfo} :
  AllSpareCurrent net w (info :: infos) ↔
    SparesCurrent net w info ∧
      ∀ w₁, (onSteamNetConnectionStatusChanged net info).run w = .ok () w₁ →
        AllSpareCurrent net w₁ infos
  := by
  constructor
  · intro h
    constructor
    · apply h [] info infos w rfl rfl
    · rintro w₁ hrun before info' after w₂ rfl hrun'
      apply h (info :: before) info' after w₂ rfl
      rw [List.forM_cons, run_bind_ok _ hrun, hrun']
  · rintro ⟨hfirst, hrest⟩ before info' after w₂ heq hrun
    cases before with
    | nil =>
        cases heq
        cases hrun
        apply hfirst
    | cons info₁ before =>
        cases heq
        rw [List.forM_cons] at hrun
        obtain ⟨_, w₁, hrun₁, hrun⟩ := run_bind_eq_ok hrun
        apply hrest w₁ hrun₁ before info' after w₂ rfl hrun

/-- Nothing closes a connection that is not opened. -/
theorem allSpareCurrent_of_not_opened {w : World Client} (hw : Installed w)
    (hclosed : ¬ ConnectionOpened w) (infos : List StatusInfo) :
  AllSpareCurrent net w infos
  := by
  induction infos generalizing w with
  | nil =>
      intro before info after w₁ heq
      simp at heq
  | cons info infos ih =>
      rw [allSpareCurrent_cons]
      constructor
      · intro _ hopened
        exact absurd hopened hclosed
      · intro w₁ hrun
        apply ih (installed_dispatch hw hrun)
        obtain ⟨-, ⟨-, rfl⟩ | ⟨-, rfl⟩⟩ := dispatch_cases hw hrun
        · apply not_opened_closed
        · rw [opened_reported]
          apply hclosed

/-- All events spare the current connection exactly if the first that reports an end does. -/
theorem allSpareCurrent_iff {w : World Client} (hw : Installed w) (infos : List StatusInfo) :
  AllSpareCurrent net w infos ↔ FirstClosingCurrent w infos
  := by
  induction infos generalizing w with
  | nil =>
      apply iff_of_true
      · intro before info after w₁ heq
        simp at heq
      · intro _ info h
        cases h
  | cons info infos ih =>
      rw [allSpareCurrent_cons, FirstClosingCurrent]
      by_cases hinfo : info.Routed
      · cases hclosing : info.eState.closing with
        | true =>
            have hfirst : firstClosing (info :: infos) = some info := by
              simp [firstClosing, List.takeWhile, hinfo, hclosing]
            rw [sparesCurrent_iff_of_closing hw hinfo hclosing, hfirst, and_iff_left]
            · simp
            · intro w₁ hrun
              apply allSpareCurrent_of_not_opened (installed_dispatch hw hrun)
              rw [run_dispatch_closing hw hinfo hclosing] at hrun
              cases hrun
              apply not_opened_closed
        | false =>
            have hfirst : firstClosing (info :: infos) = firstClosing infos := by
              simp [firstClosing, List.takeWhile, hinfo, hclosing]
            rw [and_iff_right (sparesCurrent_of_open hw fun _ => hclosing), hfirst,
              run_dispatch_open hw hinfo hclosing]
            have hrest := ih (w := reported w info) hw
            simp only [FirstClosingCurrent, opened_reported, ofEarlier_reported] at hrest
            rw [← hrest]
            constructor
            · intro h
              apply h _ rfl
            · rintro h w₁ ⟨⟩
              apply h
      · apply iff_of_true
        · use sparesCurrent_of_open hw fun h => absurd h hinfo
          intro w₁ hrun
          rw [run_dispatch_unrouted hw hinfo] at hrun
          cases hrun
        · intro _ info' h
          simp [firstClosing, List.takeWhile, hinfo] at h

/-! ### Runs -/

/-- The world in which the dispatching of the events starts. -/
def dispatching (w : World Client) (infos : List StatusInfo) : World Client :=
  { w with trace := .runCallbacks infos :: w.trace }

/-- If the step is an update, no event of an earlier connection that it dispatches closes the
connection. -/
def UpdateSparesCurrent (net : ISteamNetworkingSockets) (w : World Client) : ClientStep → Prop
  | .updateConnection => ∀ w₁, (processReceivedPackets net).run w = .ok () w₁ →
      AllSpareCurrent net (dispatching w₁ (net.runCallbacks w₁.trace)) (net.runCallbacks w₁.trace)
  | _ => True

/-- If the step is an update that dispatches its events while the connection is opened, the end
that is reported first is not the end of an earlier connection. -/
def UpdateFirstClosingCurrent (net : ISteamNetworkingSockets) (w : World Client) :
    ClientStep → Prop
  | .updateConnection => ∀ w₁, (processReceivedPackets net).run w = .ok () w₁ →
      FirstClosingCurrent w₁ (queuedEvents w₁.trace)
  | _ => True

/-- The step does not install another status callback. -/
def KeepsInstalled : ClientStep → Prop
  | .setConnectionStatusChangeCallback callback => callback = some connectionStatusChangeCallback
  | _ => True

/-- The status callback is the same in the two worlds. -/
def SameStatusCallback (w w' : World Client) : Prop :=
  w'.self.connectionStatusChangeCallback = w.self.connectionStatusChangeCallback

instance : Std.Refl SameStatusCallback where
  refl _ := rfl

instance : IsTrans (World Client) SameStatusCallback where
  trans _ _ _ h h' := Eq.trans h' h

theorem sameStatusCallback_follows :
  Follows net SameStatusCallback fun _ => True
  := ⟨fun _ _ _ => rfl, fun _ _ => rfl⟩

/-- The receive loop leaves the status callback alone. -/
theorem processReceivedPackets_keeps_installed :
  Keeps Installed (processReceivedPackets net)
  := by
  intro w hw
  apply (processReceivedPackets_moves sameStatusCallback_follows (fun _ _ => trivial) w).trans hw

/-- A step that sets no other status callback leaves it alone. -/
theorem step_keeps_installed {s : ClientStep} (hs : KeepsInstalled s) :
  Keeps Installed (step net s)
  := by
  have hfollows := @sameStatusCallback_follows net
  cases s with
  | setConnectionStatusChangeCallback callback => exact fun w _ => hs
  | updateConnection =>
      apply processReceivedPackets_keeps_installed.bind
      intro _
      apply Moves.get_bind
      intro w
      apply Moves.bind
      · apply Moves.modify
        exact fun w hw => hw
      intro _
      apply Moves.forM
      intro info _ w hw
      apply (onSteamNetConnectionStatusChanged_moves hfollows (fun _ _ => trivial) w).trans hw
  | call c =>
      apply Moves.bind
      · intro w hw
        apply (perform_moves hfollows c w).trans hw
      · intro _
        apply Moves.pure
  | _ => exact fun w hw => hw

/-- An update spares the current connection exactly if the first end in its queue does. -/
theorem updateSparesCurrent_iff (hnet : net.DispatchesQueued) {w : World Client}
    (hw : Installed w) (s : ClientStep) :
  UpdateSparesCurrent net w s ↔ UpdateFirstClosingCurrent net w s
  := by
  cases s with
  | updateConnection =>
      apply forall₂_congr
      intro w₁ hrun
      have hw₁ : Installed (dispatching w₁ (queuedEvents w₁.trace)) := by
        rw [Installed, dispatching, ← exit_ok hrun]
        apply processReceivedPackets_keeps_installed w hw
      rw [hnet w₁.trace, allSpareCurrent_iff hw₁]
      simp [FirstClosingCurrent, ConnectionOpened, Opened, OfEarlier, dispatching]
  | _ => exact Iff.rfl

/-- In a run with the status callback of the example client, no event of an earlier connection
closes the current one if and only if, whenever events are dispatched while the connection is
opened, the end that is reported first is not the end of an earlier connection. -/
theorem run_sparesCurrent_iff (hnet : net.DispatchesQueued) {w : World Client}
    (hw : Installed w) {steps : List ClientStep} (hsteps : ∀ s ∈ steps, KeepsInstalled s) :
  Along (step net) (UpdateSparesCurrent net) w steps ↔
    Along (step net) (UpdateFirstClosingCurrent net) w steps
  := by
  apply Along.congr (I := Installed)
  · intro s _ w hw
    apply updateSparesCurrent_iff hnet hw
  · intro s hs
    apply step_keeps_installed (hsteps s hs)
  · apply hw

/-- A new client with the status callback of the example. -/
def exampleClient : World Client where
  self :=
    { Client.construct 0 with
      connectionStatusChangeCallback := some connectionStatusChangeCallback }
  trace := []

/-- The server ends the connection, and the client closes it and connects again. -/
def reconnecting : List ClientStep :=
  [.call (.initializeConnection "127.0.0.1" 8080), .queue ⟨1, .connected, .closedByPeer⟩,
    .call .closeConnection, .call (.initializeConnection "127.0.0.1" 8080), .updateConnection]

/-- A client that connects again while the end of its first connection is in the queue. -/
theorem reconnecting_sparesCurrent_iff :
  Along (step queueNetworking) (UpdateSparesCurrent queueNetworking) exampleClient reconnecting ↔
    Along (step queueNetworking) (UpdateFirstClosingCurrent queueNetworking) exampleClient
      reconnecting
  := by
  have hw : Installed exampleClient := rfl
  apply run_sparesCurrent_iff queueNetworking_dispatchesQueued hw
  simp [reconnecting, KeepsInstalled]

/-- The client after it has connected again. -/
def reconnected : World Client where
  self := { exampleClient.self with serverConnection := 2 }
  trace := [.receiveMessagesOnConnection 2 0 none, .connectByIPAddress 2, .closeConnection 1,
    .queued ⟨1, .connected, .closedByPeer⟩, .connectByIPAddress 1]

/-- The event of the connection that has been closed closes the new connection. -/
theorem reconnecting_closesCurrent :
  ¬ Along (step queueNetworking) (UpdateSparesCurrent queueNetworking) exampleClient reconnecting
  := by
  rintro ⟨-, h⟩
  obtain ⟨-, h⟩ := h _ rfl
  obtain ⟨-, h⟩ := h _ rfl
  obtain ⟨-, h⟩ := h _ rfl
  obtain ⟨h, -⟩ := h _ rfl
  have hspares := h reconnected rfl [] ⟨1, .connected, .closedByPeer⟩ [] _ rfl rfl
  have hw : Installed (dispatching reconnected [⟨1, .connected, .closedByPeer⟩]) := rfl
  have hopened : ConnectionOpened (dispatching reconnected [⟨1, .connected, .closedByPeer⟩]) :=
    by decide
  apply (sparesCurrent_iff_of_closing hw (by decide) rfl).mp hspares hopened
  decide

end ExampleClient

end Chs
