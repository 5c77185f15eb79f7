import ChaosInMultiplayer.Server.Receive

/-!
# Servers whose callbacks keep an invariant

What a server does of its own accord changes its registry only when it is closed.  So an invariant
about the registry and about what has happened, which concerns only the registering, accepting and
closing of connections and the sends, is kept by every step of the server as long as its callbacks
and the calls of its owner keep it (`step_keeps_of_callbacks`), as they do if they make only calls
that keep it (`runSteps_keeps_of_calls`).
-/

namespace Chs

/-- The event registers, accepts and closes no connection and sends nothing. -/
def Event.neutral : Event → Bool
  | .registered _ => false
  | .acceptConnection _ _ => false
  | .closeConnection _ => false
  | .sendMessageToConnection _ _ _ _ => false
  | _ => true

namespace Server

open Program

variable {net : ISteamNetworkingSockets}

/-- The callbacks keep `I`, whatever they are called with. -/
structure CallbacksKeep (net : ISteamNetworkingSockets) (I : World Server → Prop)
    (w : World Server) : Prop where
  packet : ∀ callback, w.self.packetCallback = some callback →
    ∀ k packet t, Keeps I ((callback k packet t).run (perform net))
  status : ∀ callback, w.self.connectionStatusChangeCallback = some callback →
    ∀ change t, Keeps I ((callback change t).run (perform net))

/-- The callback that the step sets, or the call that it makes, keeps `I`. -/
def StepKeeps (net : ISteamNetworkingSockets) (I : World Server → Prop) : ServerStep → Prop
  | .setPacketCallback callback =>
      ∀ f, callback = some f → ∀ k packet t, Keeps I ((f k packet t).run (perform net))
  | .setConnectionStatusChangeCallback callback =>
      ∀ f, callback = some f → ∀ change t, Keeps I ((f change t).run (perform net))
  | .call c => Keeps I (perform net c)
  | _ => True

/-- The callbacks of a server that keeps `I` keep it as well. -/
def Keeping (net : ISteamNetworkingSockets) (I : World Server → Prop) (w : World Server) : Prop :=
  CallbacksKeep net I w ∧ I w

/-- Whether the callbacks keep an invariant depends on the callbacks only. -/
theorem CallbacksKeep.same {I : World Server → Prop} {w w' : World Server}
    (h : CallbacksKeep net I w) (hpacket : w'.self.packetCallback = w.self.packetCallback)
    (hstatus : w'.self.connectionStatusChangeCallback = w.self.connectionStatusChangeCallback) :
  CallbacksKeep net I w'
  := by
  constructor
  · rw [hpacket]
    apply h.packet
  · rw [hstatus]
    apply h.status

/-- A call and a script of calls leave the callbacks as they are. -/
theorem keeping_of_effects {α : Type} {I : World Server → Prop} {p : ServerM α}
    (heffects : Moves (AnyEffects net) p) (hkeeps : Keeps I p) :
  Keeps (Keeping net I) p
  := by
  intro w hw
  obtain ⟨hpacket, hstatus, -⟩ := (heffects w).keeps_settings
  exact ⟨hw.1.same hpacket hstatus, hkeeps w hw.2⟩

/-- A script that keeps an invariant leaves the callbacks alone. -/
theorem script_keeping {I : World Server → Prop} {s : ServerScript Unit}
    (hs : Keeps I (s.run (perform net))) :
  Keeps (Keeping net I) (s.run (perform net))
  := keeping_of_effects (script_moves_all _ s) hs

section Neutral

variable {J : ClientConnections → Trace → Prop}
  (hJ : ∀ C t e, e.neutral → J C t → J C (e :: t))

include hJ

/-- A neutral event keeps what is kept. -/
theorem emit_keeping {e : Event} (he : e.neutral) :
  Keeps (Keeping net fun w => J w.self.connections w.trace) (emit e)
  := fun _ hw => ⟨hw.1.same rfl rfl, hJ _ _ e he hw.2⟩

/-- The packet callback keeps what the callbacks keep. -/
theorem callPacketCallback_keeping (k : HSteamNetConnection) (packet : Packet) :
  Keeps (Keeping net fun w => J w.self.connections w.trace) (callPacketCallback net k packet)
  := by
  intro w hw
  cases hcallback : w.self.packetCallback with
  | none =>
      have hrun : (callPacketCallback net k packet).run w = .error .badFunctionCall w := by
        simp [callPacketCallback, hcallback]
      rw [exit_error hrun]
      apply hw
  | some callback =>
      have hkeeps : Keeps (Keeping net fun w => J w.self.connections w.trace) (do
          emit (.packetCallback k packet)
          let w ← get
          (callback k packet w.trace).run (perform net)
          emit (.packetCallbackReturned k) : ServerM Unit) := by
        apply (emit_keeping hJ rfl).bind
        intro _
        apply Moves.get_bind
        intro w'
        apply (script_keeping (hw.1.packet callback hcallback k packet w'.trace)).bind
        intro _
        apply emit_keeping hJ rfl
      have hexit := hkeeps w hw
      simp only [exit, callPacketCallback, EStateM.run_bind, EStateM.run_get, hcallback] at hexit ⊢
      apply hexit

/-- Dispatching a status event keeps what the callbacks keep. -/
theorem onSteamNetConnectionStatusChanged_keeping (info : StatusInfo) :
  Keeps (Keeping net fun w => J w.self.connections w.trace)
    (onSteamNetConnectionStatusChanged net info)
  := by
  intro w hw
  have hstatusAt : ∀ state, Keeps (Keeping net fun w => J w.self.connections w.trace)
      (connectionStatusAt state) := by
    intro state
    cases state <;> exact fun _ hw => hw
  cases hcallback : w.self.connectionStatusChangeCallback with
  | none =>
      have hkeeps : Keeps (Keeping net fun w => J w.self.connections w.trace) (do
          logError "No callback for connection status change"
          throw (.exit 1) : ServerM Unit) := by
        apply (emit_keeping hJ rfl).bind
        intro _
        apply Moves.throw
      have hexit := hkeeps w hw
      simp only [exit, onSteamNetConnectionStatusChanged, EStateM.run_bind, EStateM.run_get,
        hcallback] at hexit ⊢
      apply hexit
  | some callback =>
      have hkeeps : Keeps (Keeping net fun w => J w.self.connections w.trace) (do
          let oldStatus ← connectionStatusAt info.eOldState
          let currentStatus ← connectionStatusAt info.eState
          let change : ConnectionStatusChange := ⟨info.hConn, oldStatus, currentStatus⟩
          emit (.statusCallback change)
          let w ← get
          (callback change w.trace).run (perform net) : ServerM Unit) := by
        apply (hstatusAt _).bind
        intro oldStatus
        apply (hstatusAt _).bind
        intro currentStatus
        apply (emit_keeping hJ rfl).bind
        intro _
        apply Moves.get_bind
        intro w'
        apply script_keeping (hw.1.status callback hcallback _ w'.trace)
      have hexit := hkeeps w hw
      simp only [exit, onSteamNetConnectionStatusChanged, EStateM.run_bind, EStateM.run_get,
        hcallback] at hexit ⊢
      apply hexit

/-- An update keeps what the callbacks keep. -/
theorem updateConnection_keeping :
  Keeps (Keeping net fun w => J w.self.connections w.trace) (updateConnection net)
  := by
  apply Moves.get_bind
  intro w
  apply Moves.ite
  · intro _
    apply Moves.pure
  intro _
  apply Moves.bind
  · apply processPendingPackets_moves_of
    apply receivePacket_moves_along
    · intro e he
      apply emit_keeping hJ
      cases e <;> first | rfl | cases he
    · exact fun _ _ => emit_keeping hJ rfl
    · apply callPacketCallback_keeping hJ
  intro _
  apply Moves.bind
  · apply Moves.get_bind
    intro w
    apply (emit_keeping hJ rfl).bind
    intro _
    apply Moves.forM
    intro info _
    apply onSteamNetConnectionStatusChanged_keeping hJ
  intro _
  apply processUserInput_moves_of
  · exact fun _ _ => emit_keeping hJ rfl
  · exact fun w lines quit _ hw => ⟨hw.1.same rfl rfl, hw.2⟩

/-- An opening keeps what neutral events keep. -/
theorem openConnection_keeping :
  Keeps (Keeping net fun w => J w.self.connections w.trace) (openConnection net)
  := by
  intro w hw
  have hneutral : ∀ C t (es : List Event), (∀ e ∈ es, e.opens) → J C t → J C (es ++ t) := by
    intro C t es hes ht
    induction es with
    | nil => apply ht
    | cons e es ih =>
        have he := hes e List.mem_cons_self
        apply hJ C _ e
        · cases e <;> first | rfl | cases he
        · apply ih fun e' he' => hes e' (List.mem_cons_of_mem _ he')
  obtain ⟨es, hes, hopens⟩ := @openConnection_goesOnBy net w
  have hafter : ∀ w', (openConnection net).run w = .ok () w' →
      w'.self.connections = w.self.connections →
      w'.self.packetCallback = w.self.packetCallback →
      w'.self.connectionStatusChangeCallback = w.self.connectionStatusChangeCallback →
      Keeping net (fun w => J w.self.connections w.trace) w' := by
    intro w' hrun hconnections hpacket hstatus
    rw [exit_ok hrun] at hes
    use hw.1.same hpacket hstatus
    show J w'.self.connections w'.trace
    rw [hconnections, hes]
    apply hneutral _ _ es hopens hw.2
  cases hparse : net.parseString w.trace w.self.address with
  | true =>
      have hrun := run_openConnection_parsed hparse
      rw [exit_ok hrun]
      exact hafter _ hrun rfl rfl rfl
  | false =>
      have hrun := run_openConnection_unparsed hparse
      rw [exit_ok hrun]
      exact hafter _ hrun rfl rfl rfl

/-- What the callbacks of a server keep, every step of the server keeps. -/
theorem step_keeps_of_callbacks {s : ServerStep}
    (hs : StepKeeps net (fun w => J w.self.connections w.trace) s) :
  Keeps (Keeping net fun w => J w.self.connections w.trace) (step net s)
  := by
  cases s with
  | arrive m => exact emit_keeping hJ rfl
  | queue info => exact emit_keeping hJ rfl
  | setPacketCallback callback => exact fun w hw => ⟨⟨hs, hw.1.status⟩, hw.2⟩
  | setConnectionStatusChangeCallback callback => exact fun w hw => ⟨⟨hw.1.packet, hs⟩, hw.2⟩
  | openConnection => exact openConnection_keeping hJ
  | updateConnection => exact updateConnection_keeping hJ
  | call c =>
      intro w hw
      rw [run_step_call]
      exact keeping_of_effects (perform_moves c (permits_all _ c)) hs w hw
  | _ => exact fun w hw => ⟨hw.1.same rfl rfl, hw.2⟩

end Neutral

/-- A step that sets no callback leaves both as they are. -/
theorem step_sameCallbacks {s : ServerStep} (hpacket : ∀ f, s ≠ .setPacketCallback f)
    (hstatus : ∀ f, s ≠ .setConnectionStatusChangeCallback f) (w : World Server) :
  (exit (step net s) w).self.packetCallback = w.self.packetCallback ∧
    (exit (step net s) w).self.connectionStatusChangeCallback
      = w.self.connectionStatusChangeCallback
  := by
  cases s with
  | setPacketCallback f => exact absurd rfl (hpacket f)
  | setConnectionStatusChangeCallback f => exact absurd rfl (hstatus f)
  | openConnection =>
      cases h : net.parseString w.trace w.self.address with
      | true => rw [step, exit_ok (run_openConnection_parsed h)]; exact ⟨rfl, rfl⟩
      | false => rw [step, exit_ok (run_openConnection_unparsed h)]; exact ⟨rfl, rfl⟩
  | updateConnection =>
      obtain ⟨hp, hs, -⟩ := (@updateConnection_moves net w).keeps_settings
      exact ⟨hp, hs⟩
  | call c =>
      rw [run_step_call]
      have hmoves : Moves (AnyEffects net) (perform net c) := perform_moves c (permits_all _ c)
      obtain ⟨hp, hs, -⟩ := (hmoves w).keeps_settings
      exact ⟨hp, hs⟩
  | _ => exact ⟨rfl, rfl⟩

/-! ### Callbacks that make certain calls -/

/-- The callback that the step sets makes only calls that satisfy `P`, and so does the owner. -/
def StepOnly (P : ServerCall → Prop) : ServerStep → Prop
  | .setPacketCallback callback => ∀ f, callback = some f → ∀ k packet t, (f k packet t).Only P
  | .setConnectionStatusChangeCallback callback =>
      ∀ f, callback = some f → ∀ change t, (f change t).Only P
  | .call c => P c
  | _ => True

/-- A step of calls that keep an invariant keeps it. -/
theorem StepOnly.keeps {P : ServerCall → Prop} {I : World Server → Prop}
    (hcalls : ∀ c, P c → Keeps I (perform net c)) {s : ServerStep} (hs : StepOnly P s) :
  StepKeeps net I s
  := by
  cases s with
  | setPacketCallback callback =>
      exact fun f hf k packet t => Script.moves hcalls (hs f hf k packet t)
  | setConnectionStatusChangeCallback callback =>
      exact fun f hf change t => Script.moves hcalls (hs f hf change t)
  | call c => exact hcalls c hs
  | _ => trivial

/-- What the calls satisfying `P` keep, every run keeps in which only such calls are made. -/
theorem runSteps_keeps_of_calls {J : ClientConnections → Trace → Prop}
    (hJ : ∀ C t e, e.neutral → J C t → J C (e :: t)) {P : ServerCall → Prop}
    (hcalls : ∀ c, P c → Keeps (fun w => J w.self.connections w.trace) (perform net c))
    {steps : List ServerStep} (hsteps : ∀ s ∈ steps, StepOnly P s) (ip : String) (port : UInt32)
    (socket : HSteamListenSocket) (group : HSteamNetPollGroup) (hnew : J ∅ []) :
  J (exit (runSteps net steps) (newServer ip port socket group)).self.connections
    (exit (runSteps net steps) (newServer ip port socket group)).trace
  := by
  have hkeeps : Keeps (Keeping net fun w => J w.self.connections w.trace) (runSteps net steps) :=
    Moves.forM fun s hs => step_keeps_of_callbacks hJ ((hsteps s hs).keeps hcalls)
  have hcallbacks : CallbacksKeep net (fun w => J w.self.connections w.trace)
      (newServer ip port socket group) := ⟨fun _ h => (by cases h), fun _ h => (by cases h)⟩
  exact (hkeeps _ ⟨hcallbacks, hnew⟩).2

end Server

end Chs
