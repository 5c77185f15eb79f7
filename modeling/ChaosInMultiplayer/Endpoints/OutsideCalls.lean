import ChaosInMultiplayer.Client.Client
import ChaosInMultiplayer.Program.Ensures
import ChaosInMultiplayer.Program.Simulation
import ChaosInMultiplayer.Server.Update

/-!
# Callbacks that leave their endpoint alone

A callback that does not call back into its endpoint can only write to the log, make assertions
and raise exceptions.  Whatever it does, the endpoint stays as it is, and what has happened goes
on by entries of the log.
-/

namespace Chs

/-- The event is an entry of the log. -/
def Event.Logged (e : Event) : Prop :=
  ∃ level text, e = .log level text

/-- The faults of a callback that does not call back. -/
inductive CallbackFault : Fault → Prop where
  | thrown : CallbackFault .thrown
  | ofCallback (text : String) : CallbackFault (.assertionFailed (.ofCallback text))

/-- The endpoint is the same, and only the log has been written to. -/
def Logs {E : Type} (w w' : World E) : Prop :=
  w'.self = w.self ∧ GoesOnBy Event.Logged w w'

instance {E : Type} : Std.Refl (Logs (E := E)) where
  refl w := ⟨rfl, Std.Refl.refl w⟩

instance {E : Type} : IsTrans (World E) Logs where
  trans _ _ _ h h' := ⟨h'.1.trans h.1, IsTrans.trans _ _ _ h.2 h'.2⟩

open Program

section

variable {E : Type}

theorem log_moves (level : LogLevel) (text : String) :
  Moves Logs (emit (.log level text) : EndpointM E Unit)
  := fun _ => ⟨rfl, goesOnBy_cons rfl ⟨level, text, rfl⟩⟩

theorem assertThat_moves (condition : Bool) (assertion : Assertion) :
  Moves Logs (assertThat condition assertion : EndpointM E Unit)
  := by
  cases condition with
  | true => apply Moves.pure
  | false => apply Moves.throw

theorem assertThat_raises (condition : Bool) (text : String) :
  Raises (fun _ => True) CallbackFault
    (assertThat condition (.ofCallback text) : EndpointM E Unit)
  := by
  cases condition with
  | true => exact Raises.pure ()
  | false => exact Raises.throw (.ofCallback text)

end

/-! ### The two endpoints -/

/-- The call does not call back into the server. -/
def ServerCall.Outside : ServerCall → Prop
  | .log _ _ => True
  | .assertThat _ _ => True
  | .raise => True
  | _ => False

variable {net : ISteamNetworkingSockets}

/-- A call outside of the endpoint only logs. -/
theorem Server.outside_moves {c : ServerCall} (hc : c.Outside) :
  Moves Logs (Server.perform net c)
  := by
  cases c with
  | log level text => exact log_moves level text
  | assertThat condition text => exact assertThat_moves condition (.ofCallback text)
  | raise => exact fun w => Std.Refl.refl w
  | _ => cases hc

/-- A call outside of the endpoint raises only the faults of callbacks. -/
theorem Server.outside_raises {c : ServerCall} (hc : c.Outside) :
  Raises (fun _ => True) CallbackFault (Server.perform net c)
  := by
  cases c with
  | log level text => exact .modify _
  | assertThat condition text => exact assertThat_raises condition text
  | raise => exact .throw .thrown
  | _ => cases hc

/-- What a script without calls of the server ensures. -/
theorem Server.outside_ensures {s : ServerScript Unit} (hs : s.Only ServerCall.Outside)
    (w : World Server) :
  Ensures (· = w) (s.run (Server.perform net)) (fun _ w' => Logs w w')
    fun fault w' => CallbackFault fault ∧ Logs w w'
  := by
  apply Ensures.of_moves (R := Logs) (X := CallbackFault)
  · exact Script.moves (fun c hc => Server.outside_moves hc) hs
  · apply Raises.mono (I := fun _ => True) (E := CallbackFault) _ (fun _ _ => trivial)
      fun _ h => h
    exact Script.raises (fun _ _ => keeps_true _) (fun c hc => Server.outside_raises hc) hs
  · rintro _ w' _ rfl h
    exact h
  · rintro _ w' fault rfl h hfault
    exact ⟨hfault, h⟩

/-! ### One callback for both endpoints -/

/-- A call of a callback that does not call back into its endpoint. -/
inductive OutsideCall where
  | log (level : LogLevel) (text : String)
  | assertThat (condition : Bool) (text : String)
  | raise

/-- The call, made at a server. -/
def OutsideCall.onServer : OutsideCall → ServerScript Unit
  | .log level text => ServerScript.call (.log level text)
  | .assertThat condition text => ServerScript.call (.assertThat condition text)
  | .raise => ServerScript.call .raise

/-- The call, made at a client. -/
def OutsideCall.onClient : OutsideCall → ClientScript Unit
  | .log level text => ClientScript.call (.log level text)
  | .assertThat condition text => ClientScript.call (.assertThat condition text)
  | .raise => ClientScript.call .raise

/-- A script of such calls. -/
abbrev OutsideScript := Script OutsideCall (fun _ => Unit) Unit

namespace OutsideScript

/-- The script, run at a server. -/
def onServer : OutsideScript → ServerScript Unit
  | .done _ => pure ()
  | .call c next => do
      c.onServer
      onServer (next ())

/-- The script, run at a client. -/
def onClient : OutsideScript → ClientScript Unit
  | .done _ => pure ()
  | .call c next => do
      c.onClient
      onClient (next ())

variable {net' : ISteamNetworkingSockets} {R E : World Server → World Client → Prop}

/-- At related endpoints, a script ends alike if entries of the log keep them related. -/
theorem simulates
    (hlog : ∀ w w' level text, R w w' →
      R { w with trace := .log level text :: w.trace }
        { w' with trace := .log level text :: w'.trace })
    (hE : ∀ w w', R w w' → E w w') (s : OutsideScript) :
  Simulates R ((onServer s).run (Server.perform net)) ((onClient s).run (Client.perform net')) R E
  := by
  induction s with
  | done _ => exact Simulates.pure fun _ _ h => h
  | call c next ih =>
      rw [onServer, onClient, Script.run_bind, Script.run_bind]
      apply Simulates.bind (M := R)
      · cases c with
        | log level text =>
            exact Simulates.modify fun w w' h => hlog w w' level text h
        | assertThat condition text =>
            cases condition with
            | true => exact Simulates.pure fun _ _ h => h
            | false => exact Simulates.throw hE
        | raise => exact Simulates.throw hE
      · intro _
        apply ih

end OutsideScript

end Chs
