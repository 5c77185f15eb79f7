import ChaosInMultiplayer.Client.Effect
import ChaosInMultiplayer.Process.Process
import ChaosInMultiplayer.Program.Ensures
import ChaosInMultiplayer.Server.Fault

/-!
# What the operations of an object leave alone

An operation of an object neither queues status events nor dispatches them, calls no status
callback, and a connection it makes is not one of those that have had status events (`MayMake`).
Only the operation that passes an event on calls the status callback, once (`Told`).
-/

namespace Chs

/-- An object may make the event happen when `t` has happened, outside the passing on of status
events: events are queued, dispatched and passed on elsewhere, and a new connection is none of
those that have had status events. -/
def MayMake (t : Trace) : Event → Prop
  | .queued _ => False
  | .runCallbacks _ => False
  | .statusCallback _ => False
  | .connectByIPAddress c => c ≠ 0 → ∀ info ∈ statusEvents t, info.hConn ≠ c
  | _ => True

/-- What an object may make happen is about no status events. -/
theorem MayMake.calm {t : Trace} {e : Event} (h : MayMake t e) :
  e.calm
  := by
  cases e <;> first | rfl | cases h

/-- The world of an object has gone on by events the object may make happen. -/
def Steady {E : Type} (w w' : World E) : Prop :=
  GoesOnBy (MayMake w.trace) w w'

/-- An object that goes on by itself leaves the status events as they are. -/
theorem Steady.statusEvents {E : Type} {w w' : World E} (h : Steady w w') :
  Chs.statusEvents w'.trace = Chs.statusEvents w.trace
  := by
  obtain ⟨es, hes, hall⟩ := h
  rw [hes]
  apply statusEvents_of_calm
  intro e he
  apply (hall e he).calm

/-- What an object may make happen depends on the status events only. -/
theorem MayMake.of_statusEvents {t t' : Trace} (ht : statusEvents t' = statusEvents t) {e : Event}
    (h : MayMake t' e) :
  MayMake t e
  := by
  cases e with
  | connectByIPAddress c =>
      rw [MayMake, ht] at h
      apply h
  | _ => apply h

instance {E : Type} : Std.Refl (Steady (E := E)) where
  refl _ := ⟨[], rfl, by simp⟩

instance {E : Type} : IsTrans (World E) Steady where
  trans _ _ _ h h' := by
    have hsame := h.statusEvents
    obtain ⟨es, hes, hall⟩ := h
    obtain ⟨es', hes', hall'⟩ := h'
    use es' ++ es
    constructor
    · rw [hes', hes, List.append_assoc]
    · intro e he
      rcases List.mem_append.mp he with he | he
      · apply (hall' e he).of_statusEvents hsame
      · apply hall e he

/-- An operation that only changes the object. -/
theorem modify_steady {E : Type} {f : World E → World E} (hf : ∀ w, (f w).trace = w.trace) :
  Program.Moves Steady (modify f : EndpointM E PUnit)
  := fun w => ⟨[], hf w, by simp⟩

/-! ### The operations of a server -/

namespace Server

open Program

variable {net : ISteamNetworkingSockets}

/-- A server goes on by itself by its effects. -/
theorem steady_of_effects {extra : Event → Bool} (hextra : ∀ t e, extra e → MayMake t e)
    {w w' : World Server} (h : Effects net (.all extra) w w') :
  Steady w w'
  := by
  obtain ⟨es, hes, hall⟩ := h.goesOnBy
  use es, hes
  intro e he
  have hmay := hall e he
  cases e with
  | queued info => exact hextra _ _ hmay.2
  | runCallbacks infos => exact hextra _ _ hmay.2
  | statusCallback change => exact hextra _ _ hmay.2
  | connectByIPAddress c => cases hmay.1
  | _ => trivial

/-- A receive loop goes on by itself. -/
theorem processPendingPackets_steady :
  Moves Steady (processPendingPackets net)
  := by
  intro w
  apply steady_of_effects _ (PacketEffects.all processPendingPackets_moves w)
  intro t e he
  cases e <;> trivial

/-- A script goes on by itself. -/
theorem script_steady (s : ServerScript Unit) :
  Moves Steady (s.run (perform net))
  := fun w => steady_of_effects (fun _ _ h => by cases h) (script_moves_all (fun _ => false) s w)

theorem processUserInput_steady :
  Moves Steady processUserInput
  := by
  apply processUserInput_moves_of
  · exact fun level text w => goesOnBy_cons rfl trivial
  · exact fun w lines quit _ => ⟨[], rfl, by simp⟩

theorem openConnection_steady :
  Moves Steady (openConnection net)
  := by
  intro w
  obtain ⟨es, hes, hopens⟩ := @openConnection_goesOnBy net w
  use es, hes
  intro e he
  have ho := hopens e he
  cases e <;> trivial

/-- The step is one of the owner of the server, other than an update. -/
def OfOwner : ServerStep → Prop
  | .arrive _ => False
  | .queue _ => False
  | .updateConnection => False
  | _ => True

/-- A step of the owner goes on by itself. -/
theorem step_steady {s : ServerStep} (hs : OfOwner s) :
  Moves Steady (step net s)
  := by
  cases s with
  | arrive message => cases hs
  | queue info => cases hs
  | updateConnection => cases hs
  | openConnection => apply openConnection_steady
  | call c =>
      have hmoves : Moves (Effects net (.all fun _ => false)) (perform net c) :=
        perform_moves c (permits_all _ c)
      apply Moves.bind
      · exact fun w => steady_of_effects (fun _ _ h => by cases h) (hmoves w)
      · intro _
        apply Moves.pure
  | _ => exact modify_steady fun _ => rfl

theorem destruct_steady (net : ISteamNetworkingSockets) :
  Moves Steady destruct
  := by
  apply Moves.get_bind
  intro w
  apply Moves.bind
  · apply Moves.when
    intro _ w'
    have hmoves : Moves (Effects net (.all fun _ => false)) closeConnection :=
      closeConnection_moves trivial
    apply steady_of_effects (fun _ _ h => by cases h) (hmoves w')
  intro _
  apply Moves.get_bind
  intro w'
  apply Moves.bind
  · apply Moves.forM
    intro entry _
    cases h : entry.2.destructible with
    | true =>
        rw [destroy, h]
        apply Moves.pure
    | false =>
        rw [destroy, h]
        apply Moves.throw
  · intro _
    apply modify_steady
    exact fun _ => rfl

end Server

/-! ### The operations of a client -/

namespace Client

open Program

variable {net : ISteamNetworkingSockets}

/-- A client's calls and the events satisfying `extra` keep it steady, if new connections have new
handles. -/
theorem steady_follows (hnet : net.ConnectsAnew) {extra : Event → Prop}
    (hextra : ∀ t e, extra e → MayMake t e) :
  Follows net Steady extra
  := by
  constructor
  · intro e he w
    apply goesOnBy_cons rfl
    rcases he with he | he
    · cases e <;> trivial
    · apply hextra _ _ he
  · intro w address
    apply goesOnBy_cons rfl
    apply hnet w.trace address

/-- The receive loop of a client goes on by itself. -/
theorem processReceivedPackets_steady (hnet : net.ConnectsAnew) :
  Moves Steady (processReceivedPackets net)
  := by
  have hfollows : Follows net Steady fun e => e.ofClientPackets := by
    apply steady_follows hnet
    intro t e he
    cases e <;> trivial
  apply processReceivedPackets_moves hfollows
  intro e he
  apply he

/-- A client's calls alone keep it steady. -/
theorem calls_follow (hnet : net.ConnectsAnew) :
  Follows net Steady fun _ => False
  := steady_follows hnet fun _ _ h => h.elim

theorem script_steady (hnet : net.ConnectsAnew) (s : ClientScript Unit) :
  Moves Steady (s.run (perform net))
  := script_moves (calls_follow hnet) s

/-- The step is one of the owner of the client, other than an update. -/
def OfOwner : ClientStep → Prop
  | .arrive _ => False
  | .queue _ => False
  | .updateConnection => False
  | _ => True

theorem step_steady (hnet : net.ConnectsAnew) {s : ClientStep} (hs : OfOwner s) :
  Moves Steady (step net s)
  := by
  cases s with
  | arrive message => cases hs
  | queue info => cases hs
  | updateConnection => cases hs
  | call c =>
      apply Moves.bind (perform_moves (calls_follow hnet) c)
      intro _
      apply Moves.pure
  | _ => exact modify_steady fun _ => rfl

end Client

/-! ### Faults -/

/-- The use of a current instance that does not exist. -/
def InstanceFault (fault : Fault) : Prop :=
  fault = .nullInstance ∨ fault = .destroyedInstance

instance (fault : Fault) : Decidable (InstanceFault fault) :=
  inferInstanceAs (Decidable (_ ∨ _))

/-- The program never uses a current instance that does not exist. -/
abbrev UsesNoInstance {E α : Type} (p : EndpointM E α) : Prop :=
  Program.Raises (fun _ => True) (fun fault => ¬ InstanceFault fault) p

open Program

theorem Server.CallFault.not_instance {fault : Fault} (h : Server.CallFault fault) :
  ¬ InstanceFault fault
  := by
  cases h <;> simp [InstanceFault]

theorem Server.PacketFault.not_instance {fault : Fault} (h : Server.PacketFault fault) :
  ¬ InstanceFault fault
  := by
  cases h with
  | ofCall h => apply h.not_instance
  | _ => simp [InstanceFault]

theorem Client.CallFault.not_instance {fault : Fault} (h : Client.CallFault fault) :
  ¬ InstanceFault fault
  := by
  cases h <;> simp [InstanceFault]

theorem Client.PacketFault.not_instance {fault : Fault} (h : Client.PacketFault fault) :
  ¬ InstanceFault fault
  := by
  cases h with
  | ofCall h => apply h.not_instance
  | _ => simp [InstanceFault]

section UsesNoInstance

variable {net : ISteamNetworkingSockets}

/-- The receive loop of a server uses no current instance. -/
theorem Server.processPendingPackets_usesNoInstance :
  UsesNoInstance (Server.processPendingPackets net)
  := fun w fault w' hw hrun => (processPendingPackets_raises w fault w' hw hrun).not_instance

/-- A step of the owner of a server uses no current instance. -/
theorem Server.step_usesNoInstance {s : ServerStep} (hs : OfOwner s) :
  UsesNoInstance (Server.step net s)
  := by
  cases s with
  | updateConnection => cases hs
  | openConnection => apply openConnection_raises
  | call c => exact fun w fault w' hw hrun => (call_raises c w fault w' hw hrun).not_instance
  | _ => exact .modify _

/-- The receive loop of a client uses no current instance. -/
theorem Client.processReceivedPackets_usesNoInstance :
  UsesNoInstance (Client.processReceivedPackets net)
  := fun w fault w' hw hrun => (processReceivedPackets_raises w fault w' hw hrun).not_instance

/-- A step of the owner of a client uses no current instance. -/
theorem Client.step_usesNoInstance {s : ClientStep} (hs : OfOwner s) :
  UsesNoInstance (Client.step net s)
  := by
  cases s with
  | updateConnection => cases hs
  | call c => exact fun w fault w' hw hrun => (call_raises c w fault w' hw hrun).not_instance
  | _ => exact .modify _

end UsesNoInstance

theorem Server.destruct_usesNoInstance :
  UsesNoInstance Server.destruct
  := by
  apply Raises.get_bind
  intro w _
  apply Raises.bind_true
  · apply Raises.when
    intro _
    exact .of_run_ok fun w _ => ⟨_, _, run_closeConnection w⟩
  intro _
  apply Raises.get_bind
  intro w' _
  apply Raises.bind_true
  · apply Raises.forM
    · intro entry _
      apply keeps_true
    intro entry _
    cases h : entry.2.destructible with
    | true =>
        rw [destroy, h]
        apply Raises.pure
    | false =>
        rw [destroy, h]
        exact Raises.throw (α := Unit) (by simp [InstanceFault])
  · intro _
    apply Raises.modify

/-! ### The passing on of a status event -/

/-- The status callback has been told about a connection, and the world has gone on from there by
events the object may make happen. -/
def Told {E : Type} (connection : HSteamNetConnection) (w w' : World E) : Prop :=
  ∃ es change, change.connection = connection ∧
    w'.trace = es ++ .statusCallback change :: w.trace ∧ ∀ e ∈ es, MayMake w.trace e

/-- The object has been told about the connection if it returns.  If it ends with a fault, it may
have been told before, and the fault is no use of a current instance that does not exist. -/
def Tells {E : Type} (connection : HSteamNetConnection) (p : EndpointM E Unit) : Prop :=
  ∀ w, Ensures (· = w) p (fun _ => Told connection w)
    fun fault w' => ¬ InstanceFault fault ∧ (Steady w w' ∨ Told connection w w')

section Tells

variable {E : Type} {mappings : List (ESteamNetworkingConnectionState × ConnectionStatus)}

/-- Looking a state up changes nothing and uses no current instance. -/
theorem statusAt_ensures (state : ESteamNetworkingConnectionState) (w : World E) :
  Ensures (· = w) (statusAt mappings state) (fun _ w' => w' = w)
    fun fault w' => ¬ InstanceFault fault ∧ w' = w
  := by
  rw [statusAt]
  cases mappings.lookup state with
  | none =>
      apply Ensures.throw
      intro w' hw'
      exact ⟨by simp [InstanceFault], hw'⟩
  | some status => exact Ensures.pure fun _ hw' => hw'

theorem emit_ensures (e : Event) (w : World E) {X : Fault → World E → Prop} :
  Ensures (· = w) (emit e) (fun _ w' => w' = { w with trace := e :: w.trace }) X
  := by
  apply Ensures.modify
  rintro _ rfl
  rfl

/-- A status callback that is called has been told. -/
theorem callback_tells {info : StatusInfo}
    (script : ConnectionStatusChange → Trace → EndpointM E Unit)
    (hsteady : ∀ change t, Moves Steady (script change t))
    (hraises : ∀ change t, UsesNoInstance (script change t)) :
  Tells info.hConn (do
    let oldStatus ← statusAt mappings info.eOldState
    let currentStatus ← statusAt mappings info.eState
    let change : ConnectionStatusChange := ⟨info.hConn, oldStatus, currentStatus⟩
    emit (.statusCallback change)
    let w ← get
    script change w.trace)
  := by
  intro w
  have hquiet : ∀ fault w', ¬ InstanceFault fault ∧ w' = w →
      ¬ InstanceFault fault ∧ (Steady w w' ∨ Told info.hConn w w') := by
    rintro fault w' ⟨hfault, rfl⟩
    exact ⟨hfault, .inl (Std.Refl.refl w')⟩
  apply Ensures.bind ((statusAt_ensures _ w).mono (fun _ h => h) (fun _ _ h => h) hquiet)
  intro oldStatus
  apply Ensures.bind ((statusAt_ensures _ w).mono (fun _ h => h) (fun _ _ h => h) hquiet)
  intro currentStatus
  apply (emit_ensures _ w).bind
  intro _
  apply Ensures.get_bind
  rintro w₁ rfl
  apply Ensures.of_moves (hsteady _ _) (fun w fault w' _ => hraises _ _ w fault w' trivial)
  · rintro _ w' _ rfl ⟨es, hes, hall⟩
    exact ⟨es, _, rfl, hes, hall⟩
  · rintro _ w' fault rfl ⟨es, hes, hall⟩ hfault
    exact ⟨hfault, .inr ⟨es, _, rfl, hes, hall⟩⟩

/-- Without a callback the process ends before anything is told. -/
theorem noCallback_tells {connection : HSteamNetConnection} {text : String} :
  Tells connection (logError text >>= fun _ => throw (.exit 1) : EndpointM E Unit)
  := by
  intro w
  apply (emit_ensures (.log .error text) w).bind
  intro _
  apply Ensures.throw
  rintro _ rfl
  exact ⟨by simp [InstanceFault], .inl (goesOnBy_cons rfl trivial)⟩

end Tells

variable {net : ISteamNetworkingSockets}

/-- A server is told about the connection of the event that is passed on to it. -/
theorem Server.onSteamNetConnectionStatusChanged_tells (info : StatusInfo) :
  Tells info.hConn (Server.onSteamNetConnectionStatusChanged net info)
  := by
  intro w
  apply Ensures.get_bind
  rintro w rfl
  cases w.self.connectionStatusChangeCallback with
  | none => apply noCallback_tells
  | some callback =>
      refine callback_tells (fun change t => (callback change t).run (Server.perform net)) ?_ ?_ w
      · intro change t
        apply Server.script_steady
      · intro change t w' fault w'' _ hrun
        apply (Server.script_raises _ w' fault w'' trivial hrun).not_instance

/-- A client is told about the connection of the event that is passed on to it. -/
theorem Client.onSteamNetConnectionStatusChanged_tells (hnet : net.ConnectsAnew)
    (info : StatusInfo) :
  Tells info.hConn (Client.onSteamNetConnectionStatusChanged net info)
  := by
  intro w
  apply Ensures.get_bind
  rintro w rfl
  cases w.self.connectionStatusChangeCallback with
  | none => apply noCallback_tells
  | some callback =>
      refine callback_tells (fun change t => (callback change t).run (Client.perform net)) ?_ ?_ w
      · intro change t
        apply Client.script_steady hnet
      · intro change t w' fault w'' _ hrun
        apply (Client.script_raises _ w' fault w'' trivial hrun).not_instance

/-! ### Records -/

/-- The records of one object's events. -/
def madeBy (object : Object) (es : Trace) : Record :=
  es.map (.made object)

/-- The events of a record are those of its latest object and the earlier ones. -/
theorem traceOf_madeBy (object : Object) (es : Trace) (record : Record) :
  traceOf (madeBy object es ++ record) = es ++ traceOf record
  := by
  induction es with
  | nil => rfl
  | cons e es ih =>
      rw [List.cons_append, ← ih]
      rfl

section Record

variable {object : Object} {es : Trace} {record : Record}
  (hes : ∀ e ∈ es, MayMake (traceOf record) e)

include hes

/-- Events that an object may make happen leave the latest poller as it is. -/
theorem lastPoller_madeBy (isServer : Bool) :
  lastPoller isServer (madeBy object es ++ record) = lastPoller isServer record
  := by
  apply History.unchanged (f := fun es => lastPoller isServer (madeBy object es ++ record)) _ hes
  intro e es he
  cases e <;> first | rfl | cases he

/-- The events of an object leave the owners of the connections with status events alone. -/
theorem owner_madeBy {info : StatusInfo} (hinfo : info ∈ statusEvents (traceOf record)) :
  owner info.hConn (madeBy object es ++ record) = owner info.hConn record
  := by
  apply History.unchanged (f := fun es => owner info.hConn (madeBy object es ++ record)) _ hes
  intro e es he
  cases e with
  | connectByIPAddress c =>
      cases object with
      | server i => rfl
      | client j =>
          have hne : ¬ (c = info.hConn ∧ c ≠ 0) := by
            rintro ⟨rfl, hc⟩
            apply he hc info hinfo rfl
          apply if_neg hne
  | _ => cases object <;> rfl

end Record

end Chs
