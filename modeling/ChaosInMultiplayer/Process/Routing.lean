import ChaosInMultiplayer.Common.QueueNetworking
import ChaosInMultiplayer.Examples.ExampleClient
import ChaosInMultiplayer.Examples.ExampleServer
import ChaosInMultiplayer.Process.Frame

/-!
# The delivery of status events

A status event is dispatched to the current instance of the class of the connection's owner,
that is, to the object of the class that has polled latest, whether it owns the connection or not
and whether it still exists or not.  So the events reach the owners of their connections when
an object polls only while each queued event belongs to that object, or to an existing object
of the other class that is the latest of its class to have polled.
-/

namespace Chs

/-- The deliveries so far, the latest first: the object whose status callback has been called,
with the connection the callback was told about. -/
def deliveries (record : Record) : List (Object × HSteamNetConnection) :=
  record.filterMap fun
    | .made object (.statusCallback change) => some (object, change.connection)
    | _ => none

/-- The delivery due for an event: to the owner of its connection. -/
def dueFor (record : Record) (info : StatusInfo) : Option (Object × HSteamNetConnection) :=
  (owner info.hConn record).map (·, info.hConn)

/-- The deliveries due for all the events that have been dispatched, the latest first. -/
def due : Record → List (Object × HSteamNetConnection)
  | [] => []
  | .made _ (.runCallbacks infos) :: record =>
      (infos.filterMap (dueFor record)).reverse ++ due record
  | _ :: record => due record

section Record

variable {object : Object} {es : Trace} {record : Record}
  (hes : ∀ e ∈ es, MayMake (traceOf record) e)

include hes

/-- What an object makes happen makes no event due. -/
theorem due_madeBy :
  due (madeBy object es ++ record) = due record
  := by
  apply History.unchanged (f := fun es => due (madeBy object es ++ record)) _ hes
  intro e es he
  cases e <;> first | rfl | cases he

/-- What an object makes happen delivers no event. -/
theorem deliveries_madeBy :
  deliveries (madeBy object es ++ record) = deliveries record
  := by
  apply History.unchanged (f := fun es => deliveries (madeBy object es ++ record)) _ hes
  intro e es he
  cases e <;> first | rfl | cases he

end Record

namespace Process

open Program

/-- The current instance of a class. -/
def instanceOf (s : Process) : Bool → Option Object
  | true => s.serverInstance.map .server
  | false => s.clientInstance.map .client

/-! ### Frames -/

/-- The process has gone on by an operation of one of its objects, with the deliveries `told`. -/
structure Frame (told : List (Object × HSteamNetConnection)) (s s' : Process) : Prop where
  instanceOf : s'.instanceOf = s.instanceOf
  alive : s'.alive = s.alive
  statusEvents : statusEvents s'.trace = statusEvents s.trace
  queuedEvents : queuedEvents s'.trace = queuedEvents s.trace
  owner : ∀ info ∈ Chs.statusEvents s.trace,
    owner info.hConn s'.record = owner info.hConn s.record
  lastPoller : ∀ isServer, lastPoller isServer s'.record = lastPoller isServer s.record
  due : due s'.record = due s.record
  deliveries : deliveries s'.record = told ++ deliveries s.record

/-- What is told in one part and in the other is told in the whole. -/
theorem Frame.trans {told told' : List (Object × HSteamNetConnection)} {s s' s'' : Process}
    (h : Frame told s s') (h' : Frame told' s' s'') :
  Frame (told' ++ told) s s''
  := by
  constructor
  · rw [h'.instanceOf, h.instanceOf]
  · rw [h'.alive, h.alive]
  · rw [h'.statusEvents, h.statusEvents]
  · rw [h'.queuedEvents, h.queuedEvents]
  · intro info hinfo
    rw [h'.owner info (by rwa [h.statusEvents]), h.owner info hinfo]
  · intro isServer
    rw [h'.lastPoller, h.lastPoller]
  · rw [h'.due, h.due]
  · rw [h'.deliveries, h.deliveries, List.append_assoc]

section Frame

variable {s s' : Process} {object : Object} {es : Trace}

/-- An object that goes on by itself is told nothing. -/
theorem frame_madeBy (hinstance : s'.instanceOf = s.instanceOf) (halive : s'.alive = s.alive)
    (hrecord : s'.record = madeBy object es ++ s.record)
    (hes : ∀ e ∈ es, MayMake s.trace e) :
  Frame [] s s'
  := by
  have htrace : s'.trace = es ++ s.trace := by rw [trace, hrecord, traceOf_madeBy, trace]
  have hcalm : ∀ e ∈ es, e.calm := fun e he => (hes e he).calm
  constructor
  · apply hinstance
  · apply halive
  · rw [htrace, statusEvents_of_calm hcalm]
  · rw [htrace, queuedEvents_of_calm hcalm]
  · intro info hinfo
    rw [hrecord, owner_madeBy hes hinfo]
  · intro isServer
    rw [hrecord, lastPoller_madeBy hes]
  · rw [hrecord, due_madeBy hes]
  · rw [hrecord, deliveries_madeBy hes, List.nil_append]

/-- A call of the status callback is a delivery. -/
theorem frame_statusCallback (s : Process) (object : Object) (change : ConnectionStatusChange) :
  Frame [(object, change.connection)] s
    { s with record := .made object (.statusCallback change) :: s.record }
  := by
  constructor <;> cases object <;> intros <;> rfl

/-- An object that is passed an event is told about its connection. -/
theorem frame_told {change : ConnectionStatusChange} (hinstance : s'.instanceOf = s.instanceOf)
    (halive : s'.alive = s.alive)
    (hrecord : s'.record = madeBy object (es ++ [.statusCallback change]) ++ s.record)
    (hes : ∀ e ∈ es, MayMake s.trace e) :
  Frame [(object, change.connection)] s s'
  := by
  have htold := frame_statusCallback s object change
  rw [madeBy, List.map_append, List.append_assoc] at hrecord
  apply htold.trans (frame_madeBy hinstance halive hrecord _)
  intro e he
  apply (hes e he).of_statusEvents
  rfl

end Frame

/-! ### Operations of one object -/

theorem newEvents_append (es t : Trace) :
  newEvents t (es ++ t) = es
  := by
  simp [newEvents]

/-- An object has gone on to the trace `t`, and nothing else of the process has changed. -/
structure Made (object : Object) (t : Trace) (s s' : Process) : Prop where
  instanceOf : s'.instanceOf = s.instanceOf
  alive : s'.alive = s.alive
  record : s'.record = madeBy object (newEvents s.trace t) ++ s.record

/-- Going on with a server records what it has made happen. -/
theorem withServer_made {s : Process} {i : Nat} {server : Server}
    (h : s.servers i = some server) (w : World Server) :
  Made (.server i) w.trace s (s.withServer i w)
  := by
  constructor
  · funext isServer
    cases isServer <;> rfl
  · funext object
    cases object with
    | server k =>
        by_cases hk : k = i
        · simp [alive, withServer, hk, h]
        · simp [alive, withServer, hk]
    | client k => rfl
  · rfl

/-- Going on with a client records what it has made happen. -/
theorem withClient_made {s : Process} {j : Nat} {client : Client}
    (h : s.clients j = some client) (w : World Client) :
  Made (.client j) w.trace s (s.withClient j w)
  := by
  constructor
  · funext isServer
    cases isServer <;> rfl
  · funext object
    cases object with
    | server k => rfl
    | client k =>
        by_cases hk : k = j
        · simp [alive, withClient, hk, h]
        · simp [alive, withClient, hk]
  · rfl

section Made

variable {E : Type} {object : Object} {s s' : Process} {w w' : World E}

/-- If the object went on by itself, nobody has been told anything. -/
theorem Made.steady (h : Made object w'.trace s s') (hw : w.trace = s.trace)
    (hsteady : Steady w w') :
  Frame [] s s'
  := by
  obtain ⟨es, hes, hall⟩ := hsteady
  rw [hw] at hes hall
  apply frame_madeBy h.instanceOf h.alive _ hall
  · exact object
  · rw [h.record, hes, newEvents_append]

/-- If the object has been told about a connection, this has been recorded. -/
theorem Made.told {connection : HSteamNetConnection} (h : Made object w'.trace s s')
    (hw : w.trace = s.trace) (htold : Told connection w w') :
  Frame [(object, connection)] s s'
  := by
  obtain ⟨es, change, rfl, hes, hall⟩ := htold
  rw [hw, List.append_cons] at hes
  rw [hw] at hall
  apply frame_told h.instanceOf h.alive _ hall
  rw [h.record, hes, newEvents_append]

end Made

/-- What an operation of an object may have done when it ends with a fault. -/
def Cut (told : List (Object × HSteamNetConnection)) (s : Process) (fault : Fault)
    (s' : Process) : Prop :=
  ¬ InstanceFault fault ∧ (Frame [] s s' ∨ Frame told s s')

/-- The program of the process performs the operation `p` of the object. -/
def Performs {E : Type} (object : Object) (e : E) (s : Process) (p : EndpointM E Unit)
    (q : ProcessM Unit) : Prop :=
  ∀ Q X, Ensures (· = ⟨e, s.trace⟩) p (fun _ => Q) X →
    Ensures (· = s) q (fun _ s' => ∃ w, Q w ∧ Made object w.trace s s')
      fun fault s' => ∃ w, X fault w ∧ Made object w.trace s s'

/-- A program of a server is performed by it in the process. -/
theorem onServer_performs {s : Process} {i : Nat} {server : Server}
    (h : s.servers i = some server) (p : ServerM Unit) :
  Performs (.server i) server s p (onServer i p)
  := by
  intro Q X hp
  apply Ensures.get_bind
  rintro _ rfl s rfl
  have hrun := hp _ rfl
  rw [h]
  dsimp only
  cases hw : p.run ⟨server, s.trace⟩ with
  | ok a w =>
      rw [hw] at hrun
      exact ⟨w, hrun, withServer_made h w⟩
  | error fault w =>
      rw [hw] at hrun
      exact ⟨w, hrun, withServer_made h w⟩

/-- A program of a client is performed by it in the process. -/
theorem onClient_performs {s : Process} {j : Nat} {client : Client}
    (h : s.clients j = some client) (p : ClientM Unit) :
  Performs (.client j) client s p (onClient j p)
  := by
  intro Q X hp
  apply Ensures.get_bind
  rintro _ rfl s rfl
  have hrun := hp _ rfl
  rw [h]
  dsimp only
  cases hw : p.run ⟨client, s.trace⟩ with
  | ok a w =>
      rw [hw] at hrun
      exact ⟨w, hrun, withClient_made h w⟩
  | error fault w =>
      rw [hw] at hrun
      exact ⟨w, hrun, withClient_made h w⟩

section Performs

variable {E : Type} {object : Object} {e : E} {s : Process} {p : EndpointM E Unit}
  {q : ProcessM Unit} (h : Performs object e s p q)

include h

/-- A program that goes on by itself tells nobody anything. -/
theorem Performs.steady (hp : Moves Steady p) (hraises : UsesNoInstance p) :
  Ensures (· = s) q (fun _ => Frame [] s) (Cut [] s)
  := by
  apply (h (Steady ⟨e, s.trace⟩) (fun fault w => ¬ InstanceFault fault ∧ Steady ⟨e, s.trace⟩ w)
    _).mono (fun _ hs => hs)
  · rintro _ s' ⟨w, hw, hmade⟩
    apply hmade.steady rfl hw
  · rintro fault s' ⟨w, ⟨hfault, hw⟩, hmade⟩
    exact ⟨hfault, .inl (hmade.steady rfl hw)⟩
  · apply Ensures.of_moves hp (fun w fault w' _ => hraises w fault w' trivial)
    · rintro _ w' _ rfl hw
      apply hw
    · rintro _ w' fault rfl hw hfault
      exact ⟨hfault, hw⟩

/-- A program that is told about a connection tells its object. -/
theorem Performs.tells {connection : HSteamNetConnection} (hp : Tells connection p) :
  Ensures (· = s) q (fun _ => Frame [(object, connection)] s) (Cut [(object, connection)] s)
  := by
  apply (h _ _ (hp ⟨e, s.trace⟩)).mono (fun _ hs => hs)
  · rintro _ s' ⟨w, hw, hmade⟩
    apply hmade.told rfl hw
  · rintro fault s' ⟨w, ⟨hfault, hw⟩, hmade⟩
    rcases hw with hw | hw
    · exact ⟨hfault, .inl (hmade.steady rfl hw)⟩
    · exact ⟨hfault, .inr (hmade.told rfl hw)⟩

/-- Performing a program of one object leaves the others alive. -/
theorem Performs.keeps_alive {other : Object} (hs : s.alive other) :
  (exit q s).alive other
  := by
  have hmade : ∀ s', (∃ w : World E, True ∧ Made object w.trace s s') → s'.alive other := by
    rintro s' ⟨w, -, hmade⟩
    rw [hmade.alive, hs]
  have htrue : Ensures (· = ⟨e, s.trace⟩) p (fun _ _ => True) fun _ _ => True :=
    .of_moves (keeps_true p) (fun _ _ _ _ _ => trivial) (fun _ _ _ _ _ => trivial)
      fun _ _ _ _ _ _ => trivial
  apply ((h _ _ htrue).mono (fun _ hs => hs) (fun _ => hmade) fun _ => hmade).exit rfl

end Performs

/-! ### Dispatching -/

/-- The current instances are the latest pollers, and each event would reach the owner of its
connection. -/
structure Reaching (infos : List StatusInfo) (s : Process) : Prop where
  lastPoller : ∀ isServer, lastPoller isServer s.record = s.instanceOf isServer
  known : ∀ info ∈ infos, info ∈ statusEvents s.trace
  reaches : ∀ info ∈ infos, ∀ object ∈ owner info.hConn s.record,
    s.instanceOf object.isServer = some object ∧ s.alive object

/-- All that is due but the events of `infos` has been delivered, and these would reach the owners
of their connections. -/
def Routed (infos : List StatusInfo) (s : Process) : Prop :=
  Reaching infos s ∧
    due s.record = (infos.filterMap (dueFor s.record)).reverse ++ deliveries s.record

/-- The deliveries are those that are due, up to the latest ones, and the fault is no use of
a current instance that does not exist. -/
def Interrupted (fault : Fault) (s : Process) : Prop :=
  ¬ InstanceFault fault ∧ deliveries s.record <:+ due s.record

section Routed

variable {info : StatusInfo} {infos : List StatusInfo} {s s' : Process}
  {told : List (Object × HSteamNetConnection)}

/-- The objects that events are to reach are still there after anything that is told. -/
theorem Reaching.frame (h : Reaching infos s) (hframe : Frame told s s') :
  Reaching infos s'
  := by
  constructor
  · intro isServer
    rw [hframe.lastPoller, hframe.instanceOf, h.lastPoller]
  · intro info hinfo
    rw [hframe.statusEvents]
    apply h.known info hinfo
  · intro info hinfo object hobject
    rw [hframe.owner info (h.known info hinfo)] at hobject
    rw [hframe.instanceOf, hframe.alive]
    apply h.reaches info hinfo object hobject

/-- If all of the events reach their objects, so do those after the first. -/
theorem Reaching.tail (h : Reaching (info :: infos) s) :
  Reaching infos s
  where
  lastPoller := h.lastPoller
  known info' hinfo := h.known info' (List.mem_cons_of_mem info hinfo)
  reaches info' hinfo := h.reaches info' (List.mem_cons_of_mem info hinfo)

/-- For whom events are due is the same after anything that is told. -/
theorem Reaching.dueFor_frame (h : Reaching infos s) (hframe : Frame told s s') :
  infos.filterMap (dueFor s'.record) = infos.filterMap (dueFor s.record)
  := by
  apply List.filterMap_congr
  intro info hinfo
  rw [dueFor, dueFor, hframe.owner info (h.known info hinfo)]

/-- What has been delivered is the first part of what is due. -/
theorem Routed.suffix (h : Routed infos s) :
  deliveries s.record <:+ due s.record
  := ⟨_, h.2.symm⟩

/-- Where nobody is told anything, the events stay routed. -/
theorem Routed.frame (h : Routed infos s) (hframe : Frame [] s s') :
  Routed infos s'
  := by
  use h.1.frame hframe
  rw [hframe.due, hframe.deliveries, h.1.dueFor_frame hframe, h.2, List.nil_append]

/-- An event that nobody owns is dropped. -/
theorem Routed.drop (h : Routed (info :: infos) s) (howner : owner info.hConn s.record = none) :
  Routed infos s
  := by
  use h.1.tail
  rw [h.2, List.filterMap_cons_none]
  rw [dueFor, howner, Option.map_none]

/-- The delivery of the next event to the owner of its connection. -/
theorem Routed.deliver {object : Object} (h : Routed (info :: infos) s)
    (howner : owner info.hConn s.record = some object)
    (hframe : Frame [(object, info.hConn)] s s') :
  Routed infos s'
  := by
  have hdue : dueFor s.record info = some (object, info.hConn) := by
    rw [dueFor, howner, Option.map_some]
  use h.1.tail.frame hframe
  rw [hframe.due, hframe.deliveries, h.1.tail.dueFor_frame hframe, h.2,
    List.filterMap_cons_some hdue, List.reverse_cons, List.append_assoc]

/-- A program that is cut off before it tells anything leaves the deliveries a first part of what is
due. -/
theorem Interrupted.of_cut {fault : Fault} (h : Routed infos s) (hcut : Cut [] s fault s') :
  Interrupted fault s'
  := by
  use hcut.1
  rcases hcut.2 with hframe | hframe <;> apply (h.frame hframe).suffix

/-- A delivery that is cut off leaves the deliveries a first part of what is due. -/
theorem Interrupted.of_deliver {object : Object} {fault : Fault} (h : Routed (info :: infos) s)
    (howner : owner info.hConn s.record = some object)
    (hcut : Cut [(object, info.hConn)] s fault s') :
  Interrupted fault s'
  := by
  use hcut.1
  rcases hcut.2 with hframe | hframe
  · apply (h.frame hframe).suffix
  · apply (h.deliver howner hframe).suffix

end Routed

section Dispatch

variable {net : ISteamNetworkingSockets}

/-- An event is delivered to the current instance, if that exists. -/
theorem serverStatusChangedCallback_tells {s : Process} {i : Nat} {info : StatusInfo}
    (hinstance : s.instanceOf true = some (.server i)) (halive : s.alive (.server i)) :
  Ensures (· = s) (serverStatusChangedCallback net info)
    (fun _ => Frame [(.server i, info.hConn)] s) (Cut [(.server i, info.hConn)] s)
  := by
  obtain ⟨server, hserver⟩ := Option.isSome_iff_exists.mp halive
  have hpointer : s.serverInstance = some i := by simpa [instanceOf] using hinstance
  apply Ensures.get_bind
  rintro s rfl
  rw [hpointer]
  apply (onServer_performs hserver _).tells (Server.onSteamNetConnectionStatusChanged_tells info)

/-- The callback of the clients tells the current instance of the class. -/
theorem clientStatusChangedCallback_tells (hnet : net.ConnectsAnew) {s : Process} {j : Nat}
    {info : StatusInfo} (hinstance : s.instanceOf false = some (.client j))
    (halive : s.alive (.client j)) :
  Ensures (· = s) (clientStatusChangedCallback net info)
    (fun _ => Frame [(.client j, info.hConn)] s) (Cut [(.client j, info.hConn)] s)
  := by
  obtain ⟨client, hclient⟩ := Option.isSome_iff_exists.mp halive
  have hpointer : s.clientInstance = some j := by simpa [instanceOf] using hinstance
  apply Ensures.get_bind
  rintro s rfl
  rw [hpointer]
  apply (onClient_performs hclient _).tells
    (Client.onSteamNetConnectionStatusChanged_tells hnet info)

/-- The next event is delivered to the owner of its connection, if there is one. -/
theorem dispatch_ensures (hnet : net.ConnectsAnew) (info : StatusInfo) (infos : List StatusInfo) :
  Ensures (Routed (info :: infos)) (dispatch net info) (fun _ => Routed infos) Interrupted
  := by
  apply Ensures.get_bind
  intro s h
  cases howner : owner info.hConn s.record with
  | none =>
      apply Ensures.pure
      rintro _ rfl
      apply h.drop howner
  | some object =>
      obtain ⟨hinstance, halive⟩ := h.1.reaches info List.mem_cons_self object howner
      cases object with
      | server i =>
          exact (serverStatusChangedCallback_tells hinstance halive).mono (fun _ hs => hs)
            (fun _ _ hframe => h.deliver howner hframe)
            fun _ _ hcut => .of_deliver h howner hcut
      | client j =>
          exact (clientStatusChangedCallback_tells hnet hinstance halive).mono (fun _ hs => hs)
            (fun _ _ hframe => h.deliver howner hframe)
            fun _ _ hcut => .of_deliver h howner hcut

/-! ### Polling -/

/-- When the object polls, the queued event reaches the owner of its connection: that is the
object itself, or an existing object of the other class that is the latest of its class to have
polled. -/
def PollReaches (s : Process) (poller : Object) (info : StatusInfo) : Prop :=
  ∀ object ∈ owner info.hConn s.record,
    object = poller ∨ object.isServer ≠ poller.isServer ∧
      lastPoller object.isServer s.record = some object ∧ s.alive object

instance (s : Process) (poller : Object) (info : StatusInfo) :
    Decidable (PollReaches s poller info) :=
  inferInstanceAs (Decidable (∀ object ∈ owner info.hConn s.record,
    object = poller ∨ object.isServer ≠ poller.isServer ∧
      lastPoller object.isServer s.record = some object ∧ s.alive object))

/-- All the queued events reach the owners of their connections when the object polls. -/
def PollsOwners (s : Process) (poller : Object) : Prop :=
  ∀ info ∈ queuedEvents s.trace, PollReaches s poller info

instance (s : Process) (poller : Object) : Decidable (PollsOwners s poller) :=
  inferInstanceAs (Decidable (∀ info ∈ queuedEvents s.trace, PollReaches s poller info))

/-- A poller that owns the connections of the queue still does where nobody is told anything. -/
theorem PollsOwners.frame {s s' : Process} {poller : Object} (h : PollsOwners s poller)
    (hframe : Frame [] s s') :
  PollsOwners s' poller
  := by
  intro info hinfo object hobject
  rw [hframe.queuedEvents] at hinfo
  rw [hframe.owner info (queuedEvents_subset _ hinfo)] at hobject
  rw [hframe.lastPoller, hframe.alive]
  apply h info hinfo object hobject

/-- The process when the object has started to dispatch the queued events. -/
def polled (poller : Object) (s : Process) : Process :=
  { setInstance poller s with
    record := .made poller (.runCallbacks (queuedEvents s.trace)) :: s.record }

/-- An update makes its object the current instance of the class. -/
theorem polled_instanceOf (poller : Object) (s : Process) (isServer : Bool) :
  (polled poller s).instanceOf isServer
    = if poller.isServer = isServer then some poller else s.instanceOf isServer
  := by
  cases poller <;> cases isServer <;> rfl

theorem polled_alive (poller : Object) (s : Process) :
  (polled poller s).alive = s.alive
  := by
  funext object
  cases poller <;> cases object <;> rfl

/-- An update makes its object the latest poller of the class. -/
theorem polled_lastPoller (poller : Object) (s : Process) (isServer : Bool) :
  lastPoller isServer (polled poller s).record
    = if poller.isServer = isServer then some poller else lastPoller isServer s.record
  := by
  rw [polled, lastPoller]

theorem polled_owner (poller : Object) (s : Process) (connection : HSteamNetConnection) :
  owner connection (polled poller s).record = owner connection s.record
  := by
  cases poller <;> rfl

/-- When a poller that owns the connections of the queue dispatches it, all its events reach their
objects. -/
theorem polled_routed {s : Process} {poller : Object} (h : Routed [] s) (halive : s.alive poller)
    (hpolls : PollsOwners s poller) :
  Routed (queuedEvents s.trace) (polled poller s)
  := by
  constructor
  · constructor
    · intro isServer
      rw [polled_lastPoller, polled_instanceOf, h.1.lastPoller]
    · apply queuedEvents_subset
    · intro info hinfo object hobject
      rw [polled_owner] at hobject
      rw [polled_instanceOf, polled_alive]
      rcases hpolls info hinfo object hobject with rfl | ⟨hclass, hlast, halive'⟩
      · exact ⟨if_pos rfl, halive⟩
      · rw [if_neg (Ne.symm hclass), ← h.1.lastPoller]
        exact ⟨hlast, halive'⟩
  · have hsettled : due s.record = deliveries s.record := h.2
    rw [polled, due, hsettled]
    cases poller <;> rfl

/-- The status events in the queue are dispatched one after another. -/
theorem run_processConnectionStateChanges (hnet : net.DispatchesQueued) (poller : Object)
    (s : Process) :
  (processConnectionStateChanges net poller).run s
    = (forM (queuedEvents s.trace) (dispatch net)).run (polled poller s)
  := by
  rw [polled, ← hnet s.trace]
  cases poller <;> rfl

/-- A poller that owns the connections of the queue delivers its events to their objects. -/
theorem processConnectionStateChanges_ensures (h₁ : net.DispatchesQueued) (h₂ : net.ConnectsAnew)
    (poller : Object) :
  Ensures (fun s => Routed [] s ∧ s.alive poller ∧ PollsOwners s poller)
    (processConnectionStateChanges net poller) (fun _ => Routed []) Interrupted
  := by
  rintro s ⟨h, halive, hpolls⟩
  rw [run_processConnectionStateChanges h₁]
  exact Ensures.forM (dispatch_ensures h₂) _ _ (polled_routed h halive hpolls)

/-! ### Updates -/

theorem onServer_keeps_alive (object : Object) (i : Nat) (p : ServerM Unit) :
  Keeps (fun s => s.alive object) (onServer i p)
  := by
  intro s hs
  cases hserver : s.servers i with
  | none =>
      have hthrow : exit (onServer i p) s = s := by
        apply exit_error (e := .destroyedInstance)
        simp only [onServer, EStateM.run_bind, EStateM.run_get, hserver, EStateM.run_throw]
      rw [hthrow]
      apply hs
  | some server => apply (onServer_performs hserver p).keeps_alive hs

theorem onClient_keeps_alive (object : Object) (j : Nat) (p : ClientM Unit) :
  Keeps (fun s => s.alive object) (onClient j p)
  := by
  intro s hs
  cases hclient : s.clients j with
  | none =>
      have hthrow : exit (onClient j p) s = s := by
        apply exit_error (e := .destroyedInstance)
        simp only [onClient, EStateM.run_bind, EStateM.run_get, hclient, EStateM.run_throw]
      rw [hthrow]
      apply hs
  | some client => apply (onClient_performs hclient p).keeps_alive hs

/-- The dispatch of the status events leaves all objects alive. -/
theorem processConnectionStateChanges_keeps_alive (object poller : Object) :
  Keeps (fun s => s.alive object) (processConnectionStateChanges net poller)
  := by
  apply Moves.bind
  · apply Moves.modify
    intro s hs
    cases poller <;> cases object <;> apply hs
  intro _
  apply Moves.get_bind
  intro s
  apply Moves.bind
  · apply Moves.modify
    intro s hs
    cases object <;> apply hs
  intro _
  apply Moves.forM
  intro info _
  apply Moves.get_bind
  intro s'
  cases owner info.hConn s'.record with
  | none => apply Moves.pure
  | some owner =>
      cases owner with
      | server i =>
          apply Moves.get_bind
          intro s''
          cases s''.serverInstance with
          | none => apply Moves.throw
          | some k => apply onServer_keeps_alive
      | client j =>
          apply Moves.get_bind
          intro s''
          cases s''.clientInstance with
          | none => apply Moves.throw
          | some k => apply onClient_keeps_alive

/-- An update of a server that owns the connections of the queue delivers its events. -/
theorem updateServer_ensures (h₁ : net.DispatchesQueued) (h₂ : net.ConnectsAnew) {s : Process}
    {i : Nat} {server : Server} (hserver : s.servers i = some server) (h : Routed [] s)
    (hpolls : server.quitRequested = false → server.running → PollsOwners s (.server i)) :
  Ensures (· = s) (updateServer net i server) (fun _ => Routed []) Interrupted
  := by
  apply Ensures.ite
  · intro _
    apply Ensures.pure
    rintro _ rfl
    apply h
  · intro hruns
    simp only [Bool.or_eq_true, Bool.not_eq_true', not_or, Bool.not_eq_true,
      Bool.not_eq_false] at hruns
    have hpending := (onServer_performs hserver (Server.processPendingPackets net)).steady
      Server.processPendingPackets_steady Server.processPendingPackets_usesNoInstance
    apply Ensures.bind (hpending.mono (fun _ hs => hs) (fun _ _ hframe => hframe)
      fun _ _ hcut => .of_cut h hcut)
    intro _
    apply Ensures.bind (R := fun _ s' => Routed [] s' ∧ s'.alive (.server i))
    · intro s' hframe
      have halive : s'.alive (.server i) := by
        rw [hframe.alive, alive, hserver, Option.isSome_some]
      have hpolls' : PollsOwners s' (.server i) := (hpolls hruns.1 hruns.2).frame hframe
      have hchanges := (processConnectionStateChanges_ensures h₁ h₂ (.server i)).of_pre
        (P := (· = s')) (by
          rintro _ rfl
          exact ⟨h.frame hframe, halive, hpolls'⟩)
      have hkeeps : Keeps (fun s => s.alive (.server i))
          (processConnectionStateChanges net (.server i)) :=
        processConnectionStateChanges_keeps_alive (.server i) (.server i)
      apply ((hchanges.along hkeeps).imp _) s' rfl
      rintro _ s'' ⟨hrouted, hkeeps⟩
      exact ⟨hrouted, hkeeps halive⟩
    · rintro _ s' ⟨hrouted, halive⟩
      obtain ⟨server', hserver'⟩ := Option.isSome_iff_exists.mp halive
      have hinput := (onServer_performs hserver' Server.processUserInput).steady
        Server.processUserInput_steady Server.processUserInput_raises
      apply (hinput.mono (fun _ hs => hs) (fun _ _ hframe => hrouted.frame hframe)
        fun _ _ hcut => .of_cut hrouted hcut) s' rfl

/-- An update of a client that owns the connections of the queue delivers its events. -/
theorem updateClient_ensures (h₁ : net.DispatchesQueued) (h₂ : net.ConnectsAnew) {s : Process}
    {j : Nat} {client : Client} (hclient : s.clients j = some client) (h : Routed [] s)
    (hpolls : PollsOwners s (.client j)) :
  Ensures (· = s) (updateClient net j) (fun _ => Routed []) Interrupted
  := by
  have hreceived := (onClient_performs hclient (Client.processReceivedPackets net)).steady
    (Client.processReceivedPackets_steady h₂) Client.processReceivedPackets_usesNoInstance
  apply Ensures.bind (hreceived.mono (fun _ hs => hs) (fun _ _ hframe => hframe)
    fun _ _ hcut => .of_cut h hcut)
  intro _ s' hframe
  apply processConnectionStateChanges_ensures h₁ h₂ (.client j)
  use h.frame hframe
  constructor
  · rw [hframe.alive, alive, hclient, Option.isSome_some]
  · apply hpolls.frame hframe

/-! ### Steps -/

/-- Routing between two steps depends on what has been delivered, on what is due and on
the latest pollers only. -/
theorem Routed.of_record {s s' : Process} (h : Routed [] s)
    (hinstance : s'.instanceOf = s.instanceOf)
    (hpoller : ∀ isServer, lastPoller isServer s'.record = lastPoller isServer s.record)
    (hdue : due s'.record = due s.record)
    (hdeliveries : deliveries s'.record = deliveries s.record) :
  Routed [] s'
  := by
  constructor
  · constructor
    · intro isServer
      rw [hpoller, hinstance, h.1.lastPoller]
    · simp
    · simp
  · rw [hdue, hdeliveries]
    apply h.2

/-- The object that polls in a step. -/
def polls (s : Process) : ProcessStep → Option Object
  | .server i .updateConnection =>
      match s.servers i with
      | none => none
      | some server =>
          if server.quitRequested || !server.running then none else some (.server i)
  | .client j .updateConnection => (s.clients j).map fun _ => .client j
  | _ => none

/-- All the queued events reach the owners of their connections when an object polls in
the step. -/
def StepPollsOwners (s : Process) (step : ProcessStep) : Prop :=
  ∀ poller ∈ polls s step, PollsOwners s poller

instance (s : Process) (step : ProcessStep) : Decidable (StepPollsOwners s step) :=
  inferInstanceAs (Decidable (∀ poller ∈ polls s step, PollsOwners s poller))

/-- A program of a server that goes on by itself leaves the events routed. -/
theorem onServer_routed {s : Process} {i : Nat} {server : Server}
    (hserver : s.servers i = some server) (h : Routed [] s) {p : ServerM Unit}
    (hp : Moves Steady p) (hraises : UsesNoInstance p) :
  Ensures (· = s) (onServer i p) (fun _ => Routed []) Interrupted
  := ((onServer_performs hserver p).steady hp hraises).mono (fun _ hs => hs)
    (fun _ _ hframe => h.frame hframe) fun _ _ hcut => .of_cut h hcut

/-- A program of a client that goes on by itself leaves the events routed. -/
theorem onClient_routed {s : Process} {j : Nat} {client : Client}
    (hclient : s.clients j = some client) (h : Routed [] s) {p : ClientM Unit}
    (hp : Moves Steady p) (hraises : UsesNoInstance p) :
  Ensures (· = s) (onClient j p) (fun _ => Routed []) Interrupted
  := ((onClient_performs hclient p).steady hp hraises).mono (fun _ hs => hs)
    (fun _ _ hframe => h.frame hframe) fun _ _ hcut => .of_cut h hcut

/-- The rule for the operations of a server by its owner. -/
theorem ownServer_ensures {s : Process} {i : Nat} {p : Server → ProcessM Unit} (h : Routed [] s)
    (hp : ∀ server, s.servers i = some server →
      Ensures (· = s) (p server) (fun _ => Routed []) Interrupted) :
  Ensures (· = s) (ownServer i p) (fun _ => Routed []) Interrupted
  := by
  apply Ensures.get_bind
  rintro s rfl
  cases hserver : s.servers i with
  | none =>
      apply Ensures.pure
      rintro _ rfl
      apply h
  | some server => apply hp server hserver

/-- The rule for the operations of a client by its owner. -/
theorem ownClient_ensures {s : Process} {j : Nat} {p : ProcessM Unit} (h : Routed [] s)
    (hp : ∀ client, s.clients j = some client →
      Ensures (· = s) p (fun _ => Routed []) Interrupted) :
  Ensures (· = s) (ownClient j p) (fun _ => Routed []) Interrupted
  := by
  apply Ensures.get_bind
  rintro s rfl
  cases hclient : s.clients j with
  | none =>
      apply Ensures.pure
      rintro _ rfl
      apply h
  | some client => apply hp client hclient

/-- A step of a server by its owner, other than an update. -/
theorem ownServer_step_ensures {s : Process} (h : Routed [] s) (i : Nat) {step : ServerStep}
    (hstep : Server.OfOwner step) :
  Ensures (· = s) (ownServer i fun _ => onServer i (Server.step net step)) (fun _ => Routed [])
    Interrupted
  := by
  apply ownServer_ensures h
  intro server hserver
  apply onServer_routed hserver h (Server.step_steady hstep) (Server.step_usesNoInstance hstep)

/-- A step of a client by its owner, other than an update. -/
theorem ownClient_step_ensures (hnet : net.ConnectsAnew) {s : Process} (h : Routed [] s) (j : Nat)
    {step : ClientStep} (hstep : Client.OfOwner step) :
  Ensures (· = s) (ownClient j (onClient j (Client.step net step))) (fun _ => Routed [])
    Interrupted
  := by
  apply ownClient_ensures h
  intro client hclient
  apply onClient_routed hclient h (Client.step_steady hnet hstep)
    (Client.step_usesNoInstance hstep)

/-- A step in which all the queued events reach the owners of their connections. -/
theorem step_ensures (h₁ : net.DispatchesQueued) (h₂ : net.ConnectsAnew) (step : ProcessStep) :
  Ensures (fun s => StepPollsOwners s step ∧ Routed [] s) (Process.step net step)
    (fun _ => Routed []) Interrupted
  := by
  rintro s ⟨hpolls, h⟩
  cases step with
  | constructServer ip port listeningSocket pollGroup =>
      exact h.of_record rfl (fun _ => rfl) rfl rfl
  | constructClient serverConnection => exact h.of_record rfl (fun _ => rfl) rfl rfl
  | server i step =>
      cases step with
      | arrive message => exact h.of_record rfl (fun _ => rfl) rfl rfl
      | queue info => exact h.of_record rfl (fun _ => rfl) rfl rfl
      | updateConnection =>
          apply ownServer_ensures h _ s rfl
          intro server hserver
          apply updateServer_ensures h₁ h₂ hserver h
          intro hquit hrunning
          apply hpolls
          simp [polls, hserver, hquit, hrunning]
      | _ =>
          apply ownServer_step_ensures h i _ s rfl
          trivial
  | client j step =>
      cases step with
      | arrive message => exact h.of_record rfl (fun _ => rfl) rfl rfl
      | queue info => exact h.of_record rfl (fun _ => rfl) rfl rfl
      | updateConnection =>
          apply ownClient_ensures h _ s rfl
          intro client hclient
          apply updateClient_ensures h₁ h₂ hclient h
          apply hpolls
          simp [polls, hclient]
      | _ =>
          apply ownClient_step_ensures h₂ h j _ s rfl
          trivial
  | destroyServer i =>
      apply ownServer_ensures h _ s rfl
      intro server hserver
      apply (onServer_routed hserver h (Server.destruct_steady net)
        Server.destruct_usesNoInstance).bind
      intro _
      apply Ensures.modify
      intro s' h'
      exact h'.of_record rfl (fun _ => rfl) rfl rfl
  | destroyClient j =>
      apply ownClient_ensures h _ s rfl
      intro client hclient
      apply Ensures.modify
      rintro s' rfl
      exact h.of_record rfl (fun _ => rfl) rfl rfl

/-! ### Runs -/

/-- In a new process no event is due. -/
theorem newProcess_routed :
  Routed [] newProcess
  := by
  constructor
  · constructor
    · intro isServer
      cases isServer <;> rfl
    · simp
    · simp
  · rfl

/-- What a run delivers is what is due: each event to the owner of its connection, once, in
the order of dispatch, and to nobody else.  When the run ends with a fault, the latest of
the deliveries may be missing, and the fault is no use of a current instance that does not
exist. -/
structure DeliversToOwners (net : ISteamNetworkingSockets) (steps : List ProcessStep) : Prop where
  returned : ∀ s, (runSteps net steps).run newProcess = .ok () s →
    deliveries s.record = due s.record
  ended : ∀ fault s, (runSteps net steps).run newProcess = .error fault s →
    ¬ InstanceFault fault ∧ deliveries s.record <:+ due s.record

/-- A run that returns delivers to the owners exactly if its deliveries are those that are due. -/
theorem deliversToOwners_iff_of_ok {net : ISteamNetworkingSockets} {steps : List ProcessStep}
    {s : Process} (h : (runSteps net steps).run newProcess = .ok () s) :
  DeliversToOwners net steps ↔ deliveries s.record = due s.record
  := by
  constructor
  · intro hdelivers
    apply hdelivers.returned s h
  · intro hdue
    constructor
    · intro s' hs'
      rw [h] at hs'
      cases hs'
      apply hdue
    · intro fault s' hs'
      rw [h] at hs'
      cases hs'

/-- A run that fails delivers to the owners exactly if its deliveries are the first of those that
are due, and no missing instance was used. -/
theorem deliversToOwners_iff_of_error {net : ISteamNetworkingSockets} {steps : List ProcessStep}
    {fault : Fault} {s : Process} (h : (runSteps net steps).run newProcess = .error fault s) :
  DeliversToOwners net steps ↔ ¬ InstanceFault fault ∧ deliveries s.record <:+ due s.record
  := by
  constructor
  · intro hdelivers
    apply hdelivers.ended fault s h
  · intro hended
    constructor
    · intro s' hs'
      rw [h] at hs'
      cases hs'
    · intro fault' s' hs'
      rw [h] at hs'
      cases hs'
      apply hended

instance (net : ISteamNetworkingSockets) (steps : List ProcessStep) :
    Decidable (DeliversToOwners net steps) :=
  match h : (runSteps net steps).run newProcess with
  | .ok _ _ => decidable_of_iff' _ (deliversToOwners_iff_of_ok h)
  | .error _ _ => decidable_of_iff' _ (deliversToOwners_iff_of_error h)

/-- A run delivers the events to the owners of their connections if an object polls only when all
the queued events reach their owners. -/
theorem run_deliversToOwners (h₁ : net.DispatchesQueued) (h₂ : net.ConnectsAnew)
    (steps : List ProcessStep) (hsteps : Along (step net) StepPollsOwners newProcess steps) :
  DeliversToOwners net steps
  := by
  have hrun := Along.ensures (step_ensures h₁ h₂) steps newProcess ⟨hsteps, newProcess_routed⟩
  constructor
  · intro s hend
    rw [runSteps] at hend
    rw [hend] at hrun
    exact hrun.2.symm
  · intro fault s hend
    rw [runSteps] at hend
    rw [hend] at hrun
    apply hrun

end Dispatch

/-! ### A server and clients in one process -/

/-- A client that connects, as the first or the second object of its class. -/
def connectClient (j : Nat) : List ProcessStep :=
  [.constructClient 0,
    .client j (.setConnectionStatusChangeCallback
      (some ExampleClient.connectionStatusChangeCallback)),
    .client j (.call (.initializeConnection "127.0.0.1" 8080))]

/-- A server that opens. -/
def openServer : List ProcessStep :=
  [.constructServer "127.0.0.1" 8080 0 0,
    .server 0 (.setConnectionStatusChangeCallback
      (some (ExampleServer.connectionStatusChangeCallback fun _ => 0))),
    .server 0 .openConnection]

/-- A server and a client that connects to it, which poll in turns. -/
def serverAndClient : List ProcessStep :=
  openServer ++ [.server 0 .updateConnection] ++ connectClient 0 ++
    [.client 0 .updateConnection, .server 0 (.queue ⟨7, .none, .connecting⟩),
      .client 0 (.queue ⟨1, .none, .connecting⟩), .server 0 .updateConnection,
      .client 0 (.queue ⟨1, .connecting, .connected⟩),
      .server 0 (.queue ⟨7, .connecting, .connected⟩), .client 0 .updateConnection]

/-- A server and a client in one process, each with a connection. -/
theorem serverAndClient_deliversToOwners :
  DeliversToOwners queueNetworking serverAndClient
  := by
  apply run_deliversToOwners queueNetworking_dispatchesQueued queueNetworking_connectsAnew
  decide +kernel

/-- Of two clients the second polls when the connection of the first has an event. -/
def otherClientPolls : List ProcessStep :=
  connectClient 0 ++ connectClient 1 ++
    [.client 0 (.queue ⟨1, .none, .connecting⟩), .client 1 .updateConnection]

/-- A server polls when the connection of a client that has never polled has an event. -/
def serverPollsFirst : List ProcessStep :=
  openServer ++ connectClient 0 ++
    [.client 0 (.queue ⟨1, .none, .connecting⟩), .server 0 .updateConnection]

/-- A server polls after the client that has polled latest has been destroyed. -/
def latestPollerDestroyed : List ProcessStep :=
  openServer ++ connectClient 0 ++ connectClient 1 ++
    [.client 1 .updateConnection, .destroyClient 1, .client 0 (.queue ⟨1, .none, .connecting⟩),
      .server 0 .updateConnection]

/-- An event can be delivered to another client, and it can be dispatched through a null pointer
or a pointer to a destroyed client. -/
theorem not_deliversToOwners :
  queueNetworking.DispatchesQueued ∧ queueNetworking.ConnectsAnew ∧
    ¬ DeliversToOwners queueNetworking otherClientPolls ∧
    ¬ DeliversToOwners queueNetworking serverPollsFirst ∧
    ¬ DeliversToOwners queueNetworking latestPollerDestroyed
  := by
  use queueNetworking_dispatchesQueued, queueNetworking_connectsAnew
  decide +kernel

end Process

end Chs
