import ChaosInMultiplayer.Common.QueueNetworking
import ChaosInMultiplayer.Server.Callbacks
import Mathlib.Data.List.Count

/-!
# Registrations and closings

A connection that is closed by `closeClientConnection`, or with the server, is closed once and
leaves the registry.  So if nothing closes an entry and leaves it in the registry, every
registration of a connection is matched by one closing of it, but for the one that is in the
registry.
-/

namespace Chs

namespace Server

open Program

variable {net : ISteamNetworkingSockets}

/-- The entries of the registry are open, and each connection has been registered as often as it
has been closed, and once more if it is in the registry. -/
structure Matched (C : ClientConnections) (t : Trace) : Prop where
  opened : ∀ k client, C.lookup k = some client → client.netConnection = k ∧ client.closed = false
  count : ∀ k,
    t.count (.registered k) = t.count (.closeConnection k) + if k ∈ C then 1 else 0

namespace Matched

variable {C : ClientConnections} {t : Trace} {k : HSteamNetConnection} {client : ClientConnection}

theorem empty :
  Matched ∅ []
  where
  opened := by simp
  count := by simp

/-- An event that registers and closes no connection. -/
theorem cons (h : Matched C t) {e : Event} (hregisters : ∀ k, e ≠ .registered k)
    (hcloses : ∀ k, e ≠ .closeConnection k) :
  Matched C (e :: t)
  where
  opened := h.opened
  count k := by
    rw [List.count_cons_of_ne (hregisters k), List.count_cons_of_ne (hcloses k), h.count k]

/-- A neutral event leaves the count alone. -/
theorem neutral (h : Matched C t) {e : Event} (he : e.neutral) :
  Matched C (e :: t)
  := by
  apply h.cons
  · rintro k rfl
    cases he
  · rintro k rfl
    cases he

/-- An open entry is changed into another one. -/
theorem insert (h : Matched C t) (hk : k ∈ C) (hhandle : client.netConnection = k)
    (hopened : client.closed = false) :
  Matched (C.insert k client) t
  where
  opened j c hj := by
    by_cases hjk : j = k
    · subst hjk
      rw [AList.lookup_insert, Option.some.injEq] at hj
      subst hj
      exact ⟨hhandle, hopened⟩
    · rw [AList.lookup_insert_ne hjk] at hj
      apply h.opened j c hj
  count j := by
    rw [h.count j]
    by_cases hjk : j = k
    · simp [hjk, hk]
    · simp [hjk]

/-- A registration is counted once and adds an entry. -/
theorem register (h : Matched C t) (hk : k ∉ C) :
  Matched (C.insert k (.construct k)) (.registered k :: t)
  where
  opened j c hj := by
    by_cases hjk : j = k
    · subst hjk
      rw [AList.lookup_insert, Option.some.injEq] at hj
      subst hj
      exact ⟨rfl, rfl⟩
    · rw [AList.lookup_insert_ne hjk] at hj
      apply h.opened j c hj
  count j := by
    have hcount := h.count j
    by_cases hjk : j = k
    · subst hjk
      rw [if_neg hk] at hcount
      simp [hcount]
    · have hne : (Event.registered k) ≠ .registered j := by simpa using Ne.symm hjk
      simp [List.count_cons_of_ne hne, hcount, hjk]

/-- A connection is closed and its entry, which has been changed before, leaves the registry. -/
theorem remove (h : Matched C t) (hk : k ∈ C) (client : ClientConnection) :
  Matched ((C.insert k client).erase k) (.closeConnection k :: t)
  where
  opened j c hj := by
    by_cases hjk : j = k
    · subst hjk
      rw [AList.lookup_erase] at hj
      cases hj
    · rw [AList.lookup_erase_ne hjk, AList.lookup_insert_ne hjk] at hj
      apply h.opened j c hj
  count j := by
    have hcount := h.count j
    by_cases hjk : j = k
    · subst hjk
      rw [if_pos hk] at hcount
      simp [hcount]
    · have hne : (Event.closeConnection k) ≠ .closeConnection j := by simpa using Ne.symm hjk
      simp [List.count_cons_of_ne hne, hcount, hjk]

/-- The closing of all the entries closes each connection of the registry once. -/
theorem count_closings (h : Matched C t) (k : HSteamNetConnection) :
  (closings C.entries).count (.closeConnection k) = if k ∈ C then 1 else 0
  := by
  have hkeys : C.entries.map (fun entry => Event.closeConnection entry.2.netConnection)
      = C.keys.map Event.closeConnection := by
    rw [AList.keys, List.keys, List.map_map]
    apply List.map_congr_left
    intro entry hentry
    have hlookup := AList.mem_lookup_iff.mpr hentry
    exact congrArg Event.closeConnection (h.opened entry.1 entry.2 hlookup).1
  have hinjective : Function.Injective Event.closeConnection := by
    intro k k' heq
    cases heq
    rfl
  rw [closings, List.count_reverse, hkeys,
    List.count_map_of_injective _ Event.closeConnection hinjective, C.keys_nodup.count]
  simp only [AList.mem_keys]

/-- A shutdown closes every entry once and removes it. -/
theorem shutdown {w : World Server} (h : Matched w.self.connections w.trace) :
  Matched (shutdown w).self.connections (shutdown w).trace
  where
  opened := by simp [Server.shutdown]
  count k := by
    have hregistered : (closings w.self.connections.entries).count (.registered k) = 0 := by
      rw [List.count_eq_zero]
      simp [mem_closings]
    simp only [Server.shutdown, AList.notMem_empty, if_false, List.count_append, ne_eq,
      reduceCtorEq, not_false_eq_true, List.count_cons_of_ne, h.count k, hregistered,
      h.count_closings k]
    omega

end Matched

/-! ### Calls -/

/-- An operation on an entry keeps the count if it closes nothing in the entry. -/
theorem onClientConnection_matched {α : Type} (k : HSteamNetConnection)
    (f : ClientConnection → Trace → α × ClientConnection × Trace)
    (hf : ∀ client t, (f client t).2.1.netConnection = client.netConnection ∧
      ((f client t).2.1.closed → client.closed) ∧
      ∀ {C}, Matched C t → Matched C (f client t).2.2) :
  Keeps (fun w => Matched w.self.connections w.trace) (onClientConnection k f)
  := by
  intro w hw
  cases hlookup : w.self.connections.lookup k with
  | none =>
      rw [exit_error (run_onClientConnection_none hlookup)]
      apply hw
  | some client =>
      rw [exit_ok (run_onClientConnection_some hlookup)]
      obtain ⟨hhandle, hclosed, hevents⟩ := hf client w.trace
      obtain ⟨hk, hopened⟩ := hw.opened k client hlookup
      have hmem : k ∈ w.self.connections := AList.lookup_isSome.mp (by rw [hlookup]; rfl)
      apply Matched.insert (hevents hw) hmem
      · rw [hhandle, hk]
      · rw [← Bool.not_eq_true]
        intro h
        rw [hclosed h] at hopened
        cases hopened

/-- An event that neither registers nor closes keeps the count. -/
theorem emit_matched {e : Event} (hregisters : ∀ k, e ≠ .registered k)
    (hcloses : ∀ k, e ≠ .closeConnection k) :
  Keeps (fun w => Matched w.self.connections w.trace) (emit e : ServerM Unit)
  := fun _ hw => hw.cons hregisters hcloses

/-- Every call keeps registrations and closings matched, but for the closing of an entry that stays
in the registry. -/
theorem perform_matched (c : ServerCall) (hc : ∀ k, c ≠ .close k) :
  Keeps (fun w => Matched w.self.connections w.trace) (perform net c)
  := by
  cases c with
  | close k => exact absurd rfl (hc k)
  | createClientConnection k =>
      intro w hw
      by_cases hk : k ∈ w.self.connections
      · rw [perform, exit_ok (run_createClientConnection_of_mem hk)]
        apply hw
      · rw [perform, exit_ok (run_createClientConnection_of_notMem hk)]
        apply hw.register hk
  | closeClientConnection k =>
      intro w hw
      cases hlookup : w.self.connections.lookup k with
      | none =>
          rw [perform, exit_error (run_closeClientConnection_none hlookup)]
          apply hw
      | some client =>
          rw [perform, exit_ok (run_closeClientConnection_some hlookup)]
          have hmem : k ∈ w.self.connections := AList.lookup_isSome.mp (by rw [hlookup]; rfl)
          have hremove := hw.remove hmem (client.close w.trace).1
          rw [← (hw.opened k client hlookup).1] at hremove ⊢
          exact hremove
  | removeClientConnection k =>
      intro w hw
      cases hlookup : w.self.connections.lookup k with
      | none =>
          rw [perform, exit_error (run_removeClientConnection_none hlookup)]
          apply hw
      | some client =>
          have hopened := (hw.opened k client hlookup).2
          rw [perform, exit_error (run_removeClientConnection_not_closed hlookup hopened)]
          apply hw
  | closeConnection =>
      intro w hw
      rw [perform, exit_ok (run_closeConnection w)]
      apply hw.shutdown
  | connectionExists k => exact fun _ hw => hw
  | clientConnection k =>
      intro w hw
      cases hlookup : w.self.connections.lookup k with
      | none =>
          rw [perform, exit_error (run_clientConnection_none hlookup)]
          apply hw
      | some client =>
          rw [perform, exit_ok (run_clientConnection_some hlookup)]
          apply hw
  | accept k =>
      apply onClientConnection_matched k (fun client t => client.accept net t)
      intro client t
      obtain ⟨hhandle, hclosed, ok, ht⟩ := accept_entry net client t
      refine ⟨hhandle, hclosed, fun h => ?_⟩
      rw [ht]
      exact h.cons (by simp) (by simp)
  | setPollGroup k g =>
      apply onClientConnection_matched k (fun client t => client.setPollGroup net g t)
      intro client t
      obtain ⟨hhandle, hclosed, ht⟩ := setPollGroup_entry net client g t
      refine ⟨hhandle, hclosed, fun h => ?_⟩
      rw [ht]
      exact h.cons (by simp) (by simp)
  | setAlias k value =>
      exact onClientConnection_matched k (fun client t => ((), client.setAlias value, t))
        fun _ _ => ⟨rfl, id, id⟩
  | pollGroup => exact fun _ hw => hw
  | sendPacket packet client sendType => exact emit_matched (by simp) (by simp)
  | sendPacketToAllConnectedClients packet sendType except =>
      apply Moves.get_bind
      intro w
      apply Moves.forM
      intro entry _
      apply Moves.ite
      · intro _
        apply Moves.pure
      intro _
      apply Moves.ite
      · intro _
        exact emit_matched (by simp) (by simp)
      · intro _
        apply Moves.pure
  | log level text => exact emit_matched (by simp) (by simp)
  | assertThat condition text => cases condition <;> exact fun _ hw => hw
  | raise => exact fun _ hw => hw
  | readOutside => exact fun _ hw => hw

/-! ### Runs -/

/-- In every run of a server whose callbacks and owner do not close an entry and leave it in the
registry, each connection has been registered as often as it has been closed, and once more if it is
in the registry. -/
theorem run_closes_once {steps : List ServerStep}
    (hsteps : ∀ s ∈ steps, StepOnly (fun c => ∀ k, c ≠ .close k) s) (ip : String) (port : UInt32)
    (socket : HSteamListenSocket) (group : HSteamNetPollGroup) (k : HSteamNetConnection) :
  (exit (runSteps net steps) (newServer ip port socket group)).trace.count (.registered k)
    = (exit (runSteps net steps) (newServer ip port socket group)).trace.count (.closeConnection k)
      + if k ∈ (exit (runSteps net steps) (newServer ip port socket group)).self.connections then 1
        else 0
  := (runSteps_keeps_of_calls (fun _ _ _ he h => h.neutral he) perform_matched hsteps ip port socket
      group .empty).count k

/-- A connection is registered, closed and registered again before the server is closed. -/
def registeredAgain : List ServerStep :=
  [.openConnection, .call (.createClientConnection 1), .call (.accept 1),
    .call (.closeClientConnection 1), .call (.createClientConnection 1),
    .call (.createClientConnection 2), .call (.createClientConnection 1), .call .closeConnection,
    .call (.createClientConnection 3)]

/-- A connection that is registered again after its removal. -/
theorem registeredAgain_closes_once :
  (exit (runSteps queueNetworking registeredAgain)
      (newServer "127.0.0.1" 8080 0 0)).trace.count (.registered 1)
    = (exit (runSteps queueNetworking registeredAgain)
        (newServer "127.0.0.1" 8080 0 0)).trace.count (.closeConnection 1)
      + if 1 ∈ (exit (runSteps queueNetworking registeredAgain)
          (newServer "127.0.0.1" 8080 0 0)).self.connections then 1 else 0
  := by
  apply run_closes_once
  simp [registeredAgain, StepOnly]

end Server

end Chs
