import ChaosInMultiplayer.Common.QueueNetworking
import ChaosInMultiplayer.Examples.ExampleServer

/-!
# The order of status events

The status callback of the example server relies on the order in which status events are
queued and dispatched: a connecting event must find its connection unregistered, a closing
event must find it registered.  `Ready` is the invariant about the events that are waiting
to be dispatched.  It is kept as long as a closing event is queued only after the connecting
event of its connection has been dispatched; a client that leaves earlier is refused, removed,
and then not found.
-/

namespace Chs

/-- The event starts a connection or ends it. -/
def StatusInfo.decisive (info : StatusInfo) : Bool :=
  info.eState = .connecting || info.eState.closing

/-- The networking library can queue the event: the events of a connection start with its
only connecting event, and none ends a connection that has been closed. -/
def Produces (t : Trace) (info : StatusInfo) : Prop :=
  (info.eState = .connecting → ∀ earlier ∈ statusEvents t, earlier.hConn ≠ info.hConn) ∧
    (info.eState ≠ .connecting →
      ∃ first ∈ statusEvents t, first.hConn = info.hConn ∧ first.eState = .connecting) ∧
    (info.eState.closing → .closeConnection info.hConn ∉ t)

/-- If the event ends a connection, no event that starts or ends it is still queued. -/
def EndsAfterDispatch (t : Trace) (info : StatusInfo) : Prop :=
  info.eState.closing →
    ∀ earlier ∈ queuedEvents t, earlier.hConn = info.hConn → earlier.decisive = false

/-- If the step queues an event, `P` holds of what has happened before and of the event. -/
def WhenQueued (P : Trace → StatusInfo → Prop) (w : World Server) : ServerStep → Prop
  | .queue info => P w.trace info
  | _ => True

instance (t : Trace) (info : StatusInfo) : Decidable (Produces t info) :=
  inferInstanceAs (Decidable (_ ∧ _ ∧ _))

instance (t : Trace) (info : StatusInfo) : Decidable (EndsAfterDispatch t info) :=
  inferInstanceAs (Decidable (_ → _))

instance (P : Trace → StatusInfo → Prop) [∀ t info, Decidable (P t info)] (w : World Server)
    (s : ServerStep) : Decidable (WhenQueued P w s) := by
  cases s with
  | queue info => exact inferInstanceAs (Decidable (P w.trace info))
  | _ => exact .isTrue trivial

namespace ExampleServer

open Program Server

variable {net : ISteamNetworkingSockets}

/-- The registry is ready for the events `q`, which wait to be dispatched. -/
structure Ready (q : List StatusInfo) (w : World Server) : Prop where
  coupled : RegistryCoupled w
  queued : ∀ info ∈ q, info ∈ statusEvents w.trace
  known : ∀ k ∈ w.self.connections, ∃ info ∈ statusEvents w.trace, info.hConn = k
  dispatched : ∀ info ∈ statusEvents w.trace, info.eState = .connecting →
    info ∈ q ∨ .registered info.hConn ∈ w.trace
  fresh : ∀ info ∈ q, info.eState = .connecting → info.hConn ∉ w.self.connections
  alive : ∀ info ∈ q, info.eState.closing → info.hConn ∈ w.self.connections
  once : ((q.filter StatusInfo.decisive).map StatusInfo.hConn).Nodup

/-- What happens without changing the registry keeps it ready. -/
theorem Ready.goesOn {q : List StatusInfo} {w w' : World Server} (h : Ready q w)
    (hgoesOn : GoesOnBy (fun e => e.calm) w w') (hcoupled : RegistryCoupled w')
    (hsame : w'.self.connections = w.self.connections) :
  Ready q w'
  := by
  obtain ⟨es, hes, hcalm⟩ := hgoesOn
  have hevents : statusEvents w'.trace = statusEvents w.trace := by
    rw [hes, statusEvents_of_calm hcalm]
  constructor
  · apply hcoupled
  · rw [hevents]
    apply h.queued
  · rw [hevents, hsame]
    apply h.known
  · intro info hinfo hstate
    rw [hevents] at hinfo
    apply (h.dispatched info hinfo hstate).imp_right
    rw [hes]
    apply List.mem_append_right
  · rw [hsame]
    apply h.fresh
  · rw [hsame]
    apply h.alive
  · apply h.once

/-- After an event has been handled, the registry is ready for the other events. -/
theorem Ready.handled {q : List StatusInfo} {info : StatusInfo} {w w' : World Server}
    (h : Ready (info :: q) w) (hgoesOn : GoesOnBy (fun e => e.calm) w w')
    (hcoupled : RegistryCoupled w') (htouches : Touches info.hConn w w')
    (hdecisive : info.decisive ∨ w'.self.connections = w.self.connections)
    (hstart : info.eState = .connecting → .registered info.hConn ∈ w'.trace) :
  Ready q w'
  := by
  have hevents : statusEvents w'.trace = statusEvents w.trace := by
    obtain ⟨es, hes, hcalm⟩ := hgoesOn
    rw [hes, statusEvents_of_calm hcalm]
  have hother : ∀ other ∈ q, other.decisive →
      (other.hConn ∈ w'.self.connections ↔ other.hConn ∈ w.self.connections) := by
    intro other hq hother
    rcases hdecisive with hd | hsame
    · apply htouches.elsewhere
      have hnd := h.once
      rw [List.filter_cons_of_pos hd, List.map_cons, List.nodup_cons] at hnd
      intro heq
      apply hnd.1
      rw [← heq]
      exact List.mem_map_of_mem (List.mem_filter.mpr ⟨hq, hother⟩)
    · rw [hsame]
  have htail : ∀ other ∈ q, other ∈ info :: q := fun other => List.mem_cons_of_mem info
  constructor
  · apply hcoupled
  · intro other hq
    rw [hevents]
    apply h.queued other (htail other hq)
  · intro k hk
    rw [hevents]
    by_cases hki : k = info.hConn
    · use info, h.queued info List.mem_cons_self, hki.symm
    · apply h.known k ((htouches.elsewhere k hki).mp hk)
  · intro other hother hstate
    rw [hevents] at hother
    rcases h.dispatched other hother hstate with hq | hreg
    · rcases List.mem_cons.mp hq with rfl | hq
      · right
        apply hstart hstate
      · left
        apply hq
    · right
      apply htouches.goesOn hreg
  · intro other hq hstate
    rw [hother other hq (by simp [StatusInfo.decisive, hstate])]
    apply h.fresh other (htail other hq) hstate
  · intro other hq hstate
    rw [hother other hq (by simp [StatusInfo.decisive, hstate])]
    apply h.alive other (htail other hq) hstate
  · have hsub := (List.sublist_cons_self info q).filter StatusInfo.decisive
    apply h.once.sublist (hsub.map _)

section Queue

variable {w : World Server} {info : StatusInfo}

/-- A decisive event that the networking library can queue, and that ends no connection too
early, is the only one of its connection in the queue. -/
theorem Ready.alone (h : Ready (queuedEvents w.trace) w) (hproduces : Produces w.trace info)
    (hends : EndsAfterDispatch w.trace info) (hd : info.decisive) :
  ∀ other ∈ queuedEvents w.trace, other.decisive → other.hConn ≠ info.hConn
  := by
  intro other hq hother
  rw [StatusInfo.decisive, Bool.or_eq_true, decide_eq_true_eq] at hd
  rcases hd with hd | hd
  · apply hproduces.1 hd other (h.queued other hq)
  · intro heq
    rw [hends hd other hq heq] at hother
    cases hother

theorem Ready.queue_once (h : Ready (queuedEvents w.trace) w) (hproduces : Produces w.trace info)
    (hends : EndsAfterDispatch w.trace info) :
  (((queuedEvents w.trace ++ [info]).filter StatusInfo.decisive).map StatusInfo.hConn).Nodup
  := by
  rw [List.filter_append, List.map_append, List.nodup_append]
  use h.once
  cases hd : info.decisive with
  | true =>
      have hone : [info].filter StatusInfo.decisive = [info] := by simp [hd]
      rw [hone]
      constructor
      · simp
      · simp only [List.mem_map, List.mem_filter, List.mem_singleton, List.map_cons, List.map_nil]
        rintro k ⟨other, ⟨hq, hother⟩, rfl⟩ k' rfl
        apply h.alone hproduces hends hd other hq hother
  | false => simp [hd]

/-- The connection that the event ends has been registered, and it still is. -/
theorem Ready.ends_registered (h : Ready (queuedEvents w.trace) w)
    (hproduces : Produces w.trace info) (hends : EndsAfterDispatch w.trace info)
    (hstate : info.eState.closing) :
  info.hConn ∈ w.self.connections
  := by
  obtain ⟨-, hstarts, hopen⟩ := hproduces
  have hne : info.eState ≠ .connecting := by
    intro heq
    rw [heq] at hstate
    cases hstate
  obtain ⟨first, hmem, hconn, hfirst⟩ := hstarts hne
  rcases h.dispatched first hmem hfirst with hqueued | hreg
  · have hquiet := hends hstate first hqueued hconn
    simp [StatusInfo.decisive, hfirst] at hquiet
  · rw [hconn] at hreg
    exact (h.coupled.registered info.hConn hreg).resolve_right (hopen hstate)

/-- An event that the networking library can queue, and that ends no connection too early,
keeps the registry ready. -/
theorem Ready.queue (h : Ready (queuedEvents w.trace) w) (hproduces : Produces w.trace info)
    (hends : EndsAfterDispatch w.trace info) :
  Ready (queuedEvents w.trace ++ [info]) { w with trace := .queued info :: w.trace }
  := by
  have hevents : statusEvents (.queued info :: w.trace) = info :: statusEvents w.trace := rfl
  constructor
  · apply h.coupled.cons_plain rfl
  · intro other hq
    rw [hevents]
    rcases List.mem_append.mp hq with hq | hq
    · apply List.mem_cons_of_mem _ (h.queued other hq)
    · rw [List.mem_singleton.mp hq]
      apply List.mem_cons_self
  · intro k hk
    obtain ⟨other, hother, hk⟩ := h.known k hk
    rw [hevents]
    use other, List.mem_cons_of_mem _ hother
  · intro other hother hstate
    rw [hevents] at hother
    rcases List.mem_cons.mp hother with rfl | hother
    · left
      simp
    · rcases h.dispatched other hother hstate with hq | hreg
      · left
        apply List.mem_append_left _ hq
      · right
        apply List.mem_cons_of_mem _ hreg
  · intro other hq hstate hmem
    rcases List.mem_append.mp hq with hq | hq
    · apply h.fresh other hq hstate hmem
    · rw [List.mem_singleton.mp hq] at hstate hmem
      obtain ⟨earlier, hearlier, hk⟩ := h.known info.hConn hmem
      apply hproduces.1 hstate earlier hearlier hk
  · intro other hq hstate
    rcases List.mem_append.mp hq with hq | hq
    · apply h.alive other hq hstate
    · rw [List.mem_singleton.mp hq] at hstate ⊢
      apply h.ends_registered hproduces hends hstate
  · apply h.queue_once hproduces hends

end Queue

/-! ### Dispatching the events -/

/-- The fault of a use of a connection that is not registered, or of an assertion of the
callback. -/
def Misuse (fault : Fault) : Prop :=
  fault = .outOfRange "connections" ∨ ∃ text, fault = .assertionFailed (.ofCallback text)

/-- The callbacks of the example server are set. -/
structure Installed (text : BufferText) (rand : Trace → Nat) (w : World Server) : Prop where
  packetCallback : w.self.packetCallback = some (packetCallback text)
  statusCallback :
    w.self.connectionStatusChangeCallback = some (connectionStatusChangeCallback rand)

variable {text : BufferText} {rand : Trace → Nat}

theorem Installed.effects {allowed : Allowed} {w w' : World Server} (h : Installed text rand w)
    (heffects : Effects net allowed w w') :
  Installed text rand w'
  := by
  obtain ⟨hp, hs, -⟩ := heffects.keeps_settings
  constructor
  · rw [hp, h.packetCallback]
  · rw [hs, h.statusCallback]

/-- Effects without the events of the network and of the dispatching are calm. -/
theorem calm_of_effects {w w' : World Server} (h : Effects net (.all fun _ => false) w w') :
  GoesOnBy (fun e => e.calm) w w'
  := by
  apply h.goesOnBy.mono
  intro e hmay
  cases e <;> first | rfl | simp [Allowed.all] at hmay

theorem effects_coupled {allowed : Allowed} {w w' : World Server}
    (h : Effects net allowed w w') (hw : RegistryCoupled w) :
  RegistryCoupled w'
  := by
  induction h with
  | refl => apply hw
  | tail _ hs ih => apply hs.keeps_coupled ih

/-- What the status callback does with an event the registry is ready for. -/
theorem callback_ensures {info : StatusInfo} {oldStatus currentStatus : ConnectionStatus}
    (hstatus : connectionStatusMappings.lookup info.eState = some currentStatus) {t : Trace}
    {w : World Server} (hfresh : info.eState = .connecting → info.hConn ∉ w.self.connections)
    (halive : info.eState.closing → info.hConn ∈ w.self.connections) :
  Ensures (· = w)
    ((connectionStatusChangeCallback rand ⟨info.hConn, oldStatus, currentStatus⟩ t).run
      (perform net))
    (fun _ w' => Touches info.hConn w w' ∧
      (info.decisive ∨ w'.self.connections = w.self.connections) ∧
      (info.eState = .connecting → .registered info.hConn ∈ w'.trace))
    fun _ _ => False
  := by
  obtain ⟨k, eOldState, eState⟩ := info
  have hignored : Ensures (· = w) ((return () : ServerScript Unit).run (perform net))
      (fun _ w' => Touches k w w' ∧ w' = w) fun _ _ => False := by
    apply Ensures.pure
    rintro w' rfl
    exact ⟨Std.Refl.refl _, rfl⟩
  cases eState with
  | connecting =>
      cases hstatus
      apply (onConnecting_ensures _ (hfresh rfl)).imp _
      rintro _ w' ⟨htouches, hreg⟩
      exact ⟨htouches, .inl rfl, fun _ => hreg⟩
  | closedByPeer =>
      cases hstatus
      apply (onClosing_ensures (halive rfl)).imp _
      intro _ w' htouches
      exact ⟨htouches, .inl rfl, fun h => by cases h⟩
  | problemDetectedLocally =>
      cases hstatus
      apply (onClosing_ensures (halive rfl)).imp _
      intro _ w' htouches
      exact ⟨htouches, .inl rfl, fun h => by cases h⟩
  | none =>
      cases hstatus
      apply hignored.imp _
      rintro _ w' ⟨htouches, rfl⟩
      exact ⟨htouches, .inr rfl, fun h => by cases h⟩
  | connected =>
      cases hstatus
      apply hignored.imp _
      rintro _ w' ⟨htouches, rfl⟩
      exact ⟨htouches, .inr rfl, fun h => by cases h⟩
  | findingRoute => cases hstatus

/-- The registry is ready for the events `q`, the queue is empty, and the callbacks are set. -/
structure Dispatching (text : BufferText) (rand : Trace → Nat) (q : List StatusInfo)
    (w : World Server) : Prop where
  installed : Installed text rand w
  ready : Ready q w
  drained : queuedEvents w.trace = []

theorem connectionStatusAt_ensures {P : World Server → Prop}
    (state : ESteamNetworkingConnectionState) :
  Ensures P (connectionStatusAt state)
    (fun status w => connectionStatusMappings.lookup state = some status ∧ P w)
    fun fault _ => ¬ Misuse fault
  := by
  intro w hw
  cases state with
  | findingRoute =>
      show ¬ Misuse _
      simp [Misuse]
  | _ => exact ⟨rfl, hw⟩

/-- Calm effects that leave the registry alone keep the server dispatching. -/
theorem Dispatching.emit {q : List StatusInfo} {w : World Server} (h : Dispatching text rand q w)
    {e : Event} (hplain : e.plain) (hcalm : e.calm) :
  Dispatching text rand q { w with trace := e :: w.trace }
  := by
  have hgoesOn : GoesOnBy (fun e => e.calm) w { w with trace := e :: w.trace } :=
    goesOnBy_cons rfl hcalm
  constructor
  · exact ⟨h.installed.packetCallback, h.installed.statusCallback⟩
  · exact h.ready.goesOn hgoesOn (h.ready.coupled.cons_plain hplain) rfl
  · rw [← h.drained]
    have hone : ∀ e' ∈ [e], e'.calm := by simpa using hcalm
    exact queuedEvents_of_calm hone

/-- The status callback leaves the registry ready for the events after the one it handles. -/
theorem callback_dispatches {info : StatusInfo} {q : List StatusInfo}
    {oldStatus currentStatus : ConnectionStatus}
    (hstatus : connectionStatusMappings.lookup info.eState = some currentStatus) (t : Trace)
    {w : World Server} (hw : Dispatching text rand (info :: q) w) :
  Ensures (· = w)
    ((connectionStatusChangeCallback rand ⟨info.hConn, oldStatus, currentStatus⟩ t).run
      (perform net))
    (fun _ => Dispatching text rand q) fun _ _ => False
  := by
  have hcallback := @callback_ensures net rand info oldStatus currentStatus hstatus t w
    (hw.ready.fresh info List.mem_cons_self) (hw.ready.alive info List.mem_cons_self)
  apply (hcallback.along (script_moves_all (fun _ => false) _)).imp _
  rintro _ w' ⟨⟨htouches, hdecisive, hstart⟩, heffects⟩
  have hcalm := calm_of_effects heffects
  constructor
  · apply hw.installed.effects heffects
  · apply hw.ready.handled hcalm (effects_coupled heffects hw.ready.coupled) htouches hdecisive
      hstart
  · obtain ⟨es, hes, hall⟩ := hcalm
    rw [hes, queuedEvents_of_calm hall, hw.drained]

/-- The dispatching of an event the registry is ready for. -/
theorem onSteamNetConnectionStatusChanged_ensures (info : StatusInfo) (q : List StatusInfo) :
  Ensures (Dispatching text rand (info :: q)) (onSteamNetConnectionStatusChanged net info)
    (fun _ => Dispatching text rand q) fun fault _ => ¬ Misuse fault
  := by
  apply Ensures.get_bind
  intro w hw
  rw [hw.installed.statusCallback]
  apply (connectionStatusAt_ensures _).bind
  intro oldStatus
  apply Ensures.of_fact
  intro _
  apply (connectionStatusAt_ensures _).bind
  intro currentStatus
  apply Ensures.of_fact
  intro hstatus
  apply Ensures.bind (R := fun _ => Dispatching text rand (info :: q))
  · apply Ensures.modify
    rintro w' rfl
    exact hw.emit rfl rfl
  intro _
  apply Ensures.get_bind
  intro w' hw'
  exact (callback_dispatches hstatus _ hw').mono (fun _ h => h) (fun _ _ h => h)
    fun _ _ h => h.elim

/-- The state of the server between the steps of its loop: it has been asked to quit, or its
registry is ready for the queued events. -/
structure Looping (text : BufferText) (rand : Trace → Nat) (w : World Server) : Prop where
  installed : Installed text rand w
  ready : w.self.quitRequested ∨ Ready (queuedEvents w.trace) w

/-- Dispatching the status events keeps what the callbacks of the example need. -/
theorem processConnectionStateChanges_ensures (hdispatches : net.DispatchesQueued) :
  Ensures (fun w => Installed text rand w ∧ Ready (queuedEvents w.trace) w)
    (processConnectionStateChanges net)
    (fun _ w => Installed text rand w ∧ Ready (queuedEvents w.trace) w)
    fun fault _ => ¬ Misuse fault
  := by
  apply Ensures.get_bind
  rintro w ⟨hinstalled, hready⟩
  apply Ensures.bind (R := fun _ => Dispatching text rand (net.runCallbacks w.trace))
  · apply Ensures.modify
    rintro w' rfl
    rw [hdispatches w'.trace]
    constructor
    · exact ⟨hinstalled.packetCallback, hinstalled.statusCallback⟩
    · constructor
      · apply hready.coupled.cons_plain rfl
      · apply hready.queued
      · apply hready.known
      · intro info hinfo hstate
        apply (hready.dispatched info hinfo hstate).imp_right
        apply List.mem_cons_of_mem
      · apply hready.fresh
      · apply hready.alive
      · apply hready.once
    · rfl
  · intro _
    apply (Ensures.forM onSteamNetConnectionStatusChanged_ensures _).imp _
    intro _ w' hw'
    use hw'.installed
    rw [hw'.drained]
    apply hw'.ready

/-! ### Updates -/

/-- The server with its callbacks goes on calmly and its registry stays the same. -/
def Rests (text : BufferText) (w w' : World Server) : Prop :=
  w.self.packetCallback = some (packetCallback text) →
    GoesOnBy (fun e => e.calm) w w' ∧
    w'.self.connections = w.self.connections ∧
    w'.self.packetCallback = w.self.packetCallback ∧
    w'.self.connectionStatusChangeCallback = w.self.connectionStatusChangeCallback ∧
    (w.self.quitRequested → w'.self.quitRequested)

instance : Std.Refl (Rests text) where
  refl w _ := ⟨Std.Refl.refl w, rfl, rfl, rfl, id⟩

instance : IsTrans (World Server) (Rests text) where
  trans w w' w'' h h' hw := by
    obtain ⟨hgoesOn, hconnections, hpacket, hstatus, hquit⟩ := h hw
    have hw' : w'.self.packetCallback = some (packetCallback text) := by rw [hpacket, hw]
    obtain ⟨hgoesOn', hconnections', hpacket', hstatus', hquit'⟩ := h' hw'
    exact ⟨IsTrans.trans _ _ _ hgoesOn hgoesOn', hconnections'.trans hconnections,
      hpacket'.trans hpacket, hstatus'.trans hstatus, fun h => hquit' (hquit h)⟩

theorem emit_rests {e : Event} (he : e.calm) :
  Moves (Rests text) (emit e : ServerM Unit)
  := fun _ _ => ⟨goesOnBy_cons rfl he, rfl, rfl, rfl, id⟩

section Packet

variable {w : World Server} (hw : w.self.packetCallback = some (packetCallback text))
  (k : HSteamNetConnection) (packet : Packet)

include hw

/-- The packet callback of the example server logs what it reads. -/
theorem run_callPacketCallback_read {message : String}
    (hread : text packet (.packetCallback k packet :: w.trace) = some message) :
  (callPacketCallback net k packet).run w
    = .ok ()
        { w with
          trace :=
            .packetCallbackReturned k :: (.log .info ("Received: " ++ message)) ::
              .packetCallback k packet :: w.trace }
  := by
  simp only [callPacketCallback, EStateM.run_bind, EStateM.run_get, hw, run_emit, packetCallback,
    hread]
  rfl

/-- The packet callback of the example server fails where it reads out of bounds. -/
theorem run_callPacketCallback_unread
    (hread : text packet (.packetCallback k packet :: w.trace) = none) :
  (callPacketCallback net k packet).run w
    = .error .outOfBounds { w with trace := .packetCallback k packet :: w.trace }
  := by
  simp only [callPacketCallback, EStateM.run_bind, EStateM.run_get, hw, run_emit, packetCallback,
    hread]
  rfl

/-- The packet callback of the example server does nothing but log. -/
theorem exit_callPacketCallback :
  ∃ es, exit (callPacketCallback net k packet) w = { w with trace := es ++ w.trace } ∧
    ∀ e ∈ es, e.calm
  := by
  cases hread : text packet (.packetCallback k packet :: w.trace) with
  | some message =>
      rw [exit_ok (run_callPacketCallback_read hw k packet hread)]
      exact ⟨[_, _, _], rfl, by simp⟩
  | none =>
      rw [exit_error (run_callPacketCallback_unread hw k packet hread)]
      exact ⟨[_], rfl, by simp⟩

end Packet

/-- The packet callback of the example server fails at most by reading out of bounds. -/
theorem callPacketCallback_raises_outOfBounds (k : HSteamNetConnection) (packet : Packet) :
  Raises (fun w => w.self.packetCallback = some (packetCallback text)) (· = .outOfBounds)
    (callPacketCallback net k packet)
  := by
  intro w fault w' hw hrun
  cases hread : text packet (.packetCallback k packet :: w.trace) with
  | some message =>
      rw [run_callPacketCallback_read hw k packet hread] at hrun
      cases hrun
  | none =>
      rw [run_callPacketCallback_unread hw k packet hread] at hrun
      cases hrun
      rfl

/-- Receiving a packet only logs. -/
theorem receivePacket_rests :
  Moves (Rests text) (receivePacket net)
  := by
  apply receivePacket_moves_of
  · intro e he
    apply emit_rests
    cases e <;> first | rfl | cases he
  · intro k packet w hw
    obtain ⟨es, hexit, hcalm⟩ := @exit_callPacketCallback net text w hw k packet
    rw [hexit]
    use ⟨es, rfl, hcalm⟩, rfl, rfl, rfl, id

/-- Receiving a packet does not misuse the registry. -/
theorem receivePacket_raises_noMisuse :
  Raises (fun w => w.self.packetCallback = some (packetCallback text))
    (fun fault => ¬ Misuse fault) (receivePacket net)
  := by
  apply receivePacket_raises_of
  · simp [Misuse]
  · simp [Misuse]
  · intro e _
    exact fun w hw => hw
  · intro k packet w hw
    obtain ⟨es, hexit, -⟩ := @exit_callPacketCallback net text w hw k packet
    rw [hexit]
    apply hw
  · intro k packet
    have hraises := @callPacketCallback_raises_outOfBounds net text k packet
    refine hraises.mono (fun _ h => h) ?_
    rintro fault rfl
    simp [Misuse]

/-- The receive loop does not misuse the registry. -/
theorem processPendingPackets_raises_noMisuse :
  Raises (fun w => w.self.packetCallback = some (packetCallback text))
    (fun fault => ¬ Misuse fault) (processPendingPackets net)
  := by
  apply processPendingPackets_raises_of
  · have hrests : Moves (Rests text) (receivePacket net) := receivePacket_rests
    refine hrests.keeps ?_
    intro w w' h hw
    obtain ⟨-, -, hpacket, -⟩ := h hw
    rw [hpacket, hw]
  · apply receivePacket_raises_noMisuse
  · simp [Misuse]

/-- Reading the input only logs. -/
theorem processUserInput_rests :
  Moves (Rests text) processUserInput
  := by
  apply processUserInput_moves_of
  · intro level message
    apply emit_rests rfl
  · intro w lines quit hquit _
    exact ⟨⟨[], rfl, by simp⟩, rfl, rfl, rfl, hquit⟩

theorem processUserInput_raises_nothing {I : World Server → Prop} {E : Fault → Prop} :
  Raises I E processUserInput
  := processUserInput_raises.mono (fun _ _ => trivial) fun _ h => h

/-- What rests keeps the registry ready. -/
theorem Rests.ready {w w' : World Server} (h : Rests text w w') (hinstalled : Installed text rand w)
    (hcoupled : RegistryCoupled w') (hready : Ready (queuedEvents w.trace) w) :
  Installed text rand w' ∧ Ready (queuedEvents w'.trace) w'
  := by
  obtain ⟨hcalm, hconnections, hpacket, hstatus, -⟩ := h hinstalled.packetCallback
  constructor
  · constructor
    · rw [hpacket, hinstalled.packetCallback]
    · rw [hstatus, hinstalled.statusCallback]
  · have hqueue : queuedEvents w'.trace = queuedEvents w.trace := by
      obtain ⟨es, hes, hall⟩ := hcalm
      rw [hes, queuedEvents_of_calm hall]
    rw [hqueue]
    apply hready.goesOn hcalm hcoupled hconnections

/-- A program that rests and keeps the registry coupled keeps the server ready. -/
theorem ready_ensures {p : ServerM Unit} (hrests : Moves (Rests text) p)
    (hcoupled : Keeps RegistryCoupled p)
    (hraises : Raises (fun w => w.self.packetCallback = some (packetCallback text))
      (fun fault => ¬ Misuse fault) p) :
  Ensures (fun w => Installed text rand w ∧ Ready (queuedEvents w.trace) w) p
    (fun _ w => Installed text rand w ∧ Ready (queuedEvents w.trace) w)
    fun fault _ => ¬ Misuse fault
  := by
  have hmoves : Moves (fun w w' => Rests text w w' ∧ Preserving RegistryCoupled w w') p :=
    fun w => ⟨hrests w, hcoupled w⟩
  apply Ensures.of_moves hmoves
  · exact hraises.mono (fun w hw => hw.1.packetCallback) fun _ h => h
  · rintro w w' _ ⟨hinstalled, hready⟩ ⟨hrests, hcoupled⟩
    apply hrests.ready hinstalled (hcoupled hready.coupled) hready
  · intro _ _ _ _ _ h
    apply h

/-- An update keeps what the loop of the main function needs. -/
theorem updateConnection_ensures (hdispatches : net.DispatchesQueued) :
  Ensures (Looping text rand) (updateConnection net) (fun _ => Looping text rand)
    fun fault _ => ¬ Misuse fault
  := by
  intro w hw
  by_cases hstop : Stopped w
  · rw [run_updateConnection_stopped hstop]
    apply hw
  · rw [run_updateConnection_active hstop]
    have hready : Ready (queuedEvents w.trace) w := by
      apply hw.ready.resolve_left
      intro hquit
      apply hstop
      left
      apply hquit
    have hupdate : Ensures (fun w => Installed text rand w ∧ Ready (queuedEvents w.trace) w) (do
        processPendingPackets net
        processConnectionStateChanges net
        processUserInput)
        (fun _ w => Installed text rand w ∧ Ready (queuedEvents w.trace) w)
        fun fault _ => ¬ Misuse fault := by
      apply Ensures.bind
      · apply ready_ensures
        · apply processPendingPackets_moves_of receivePacket_rests
        · exact (PacketEffects.all processPendingPackets_moves).keeps fun _ _ => effects_coupled
        · apply processPendingPackets_raises_noMisuse
      intro _
      apply (processConnectionStateChanges_ensures hdispatches).bind
      intro _
      apply ready_ensures
      · apply processUserInput_rests
      · have hmoves : Moves (AnyEffects net) processUserInput := processUserInput_moves
        exact hmoves.keeps fun _ _ => effects_coupled
      · apply processUserInput_raises_nothing
    apply hupdate.imp _ w ⟨hw.installed, hready⟩
    rintro _ w' ⟨hinstalled, hready⟩
    use hinstalled
    right
    apply hready

/-! ### Runs -/

/-- A step from the loop on keeps the registry ready, or ends with another fault. -/
theorem step_ensures (hdispatches : net.DispatchesQueued) (s : ServerStep) :
  Ensures (fun w => (OfLoop s ∧ WhenQueued Produces w s ∧ WhenQueued EndsAfterDispatch w s) ∧
      Looping text rand w)
    (step net s) (fun _ => Looping text rand) fun fault _ => ¬ Misuse fault
  := by
  cases s with
  | arrive m =>
      apply Ensures.modify
      rintro w ⟨-, hw⟩
      use ⟨hw.installed.packetCallback, hw.installed.statusCallback⟩
      apply hw.ready.imp_right
      intro hready
      exact hready.goesOn (goesOnBy_cons rfl rfl) (hready.coupled.cons_plain rfl) rfl
  | queue info =>
      apply Ensures.modify
      rintro w ⟨⟨-, hproduces, hends⟩, hw⟩
      use ⟨hw.installed.packetCallback, hw.installed.statusCallback⟩
      apply hw.ready.imp_right
      intro hready
      apply hready.queue hproduces hends
  | enter line =>
      apply Ensures.modify
      rintro w ⟨-, hw⟩
      use ⟨hw.installed.packetCallback, hw.installed.statusCallback⟩
      apply hw.ready.imp_right
      intro hready
      exact hready.goesOn ⟨[], rfl, by simp⟩ hready.coupled rfl
  | updateConnection =>
      apply (updateConnection_ensures hdispatches).of_pre
      intro w hw
      apply hw.2
  | call c =>
      apply Ensures.of_run_ok
      rintro w ⟨⟨rfl, -⟩, hw⟩
      refine ⟨(), shutdown w, ?_, ?_⟩
      · exact (run_bind_ok _ (run_closeConnection w)).trans rfl
      · use ⟨hw.installed.packetCallback, hw.installed.statusCallback⟩
        left
        rfl
  | _ =>
      rintro w ⟨⟨hs, -⟩, -⟩
      cases hs

/-- The example server before it is opened. -/
def configured (text : BufferText) (rand : Trace → Nat) (socket : HSteamListenSocket)
    (group : HSteamNetPollGroup) : World Server where
  self :=
    { Server.construct "127.0.0.1" 8080 socket group with
      packetCallback := some (packetCallback text)
      connectionStatusChangeCallback := some (connectionStatusChangeCallback rand) }
  trace := []

/-- The example server when its loop starts. -/
def started (net : ISteamNetworkingSockets) (text : BufferText) (rand : Trace → Nat)
    (socket : HSteamListenSocket) (group : HSteamNetPollGroup) : World Server :=
  exit (runSteps net (opening text rand)) (newServer "127.0.0.1" 8080 socket group)

end ExampleServer

end Chs
