import ChaosInMultiplayer.Common.QueueNetworking
import ChaosInMultiplayer.Program.History
import ChaosInMultiplayer.Server.Effect

/-!
# The registry as a map of the history

A history lists the calls made on the server with their answers, the latest first.  The
registry refines the map that a history determines: a connection is registered when it has
been created and not been removed since, and its entry is made of the values set latest
since its creation.
-/

namespace Chs

/-- A call on the server together with its answer. -/
abbrev AnsweredCall := Σ c : ServerCall, c.Answer

/-- The calls made on the server, the latest first. -/
abbrev CallHistory := List AnsweredCall

namespace Server

open Program

variable {net : ISteamNetworkingSockets}

/-! ### What calls do to an entry -/

/-- The state a call sets in the entry of `k`. -/
def stateSet (k : HSteamNetConnection) : AnsweredCall → Option ConnectionState
  | ⟨.accept j, ok⟩ => if j = k ∧ ok = true then some .connected else none
  | ⟨.close j, _⟩ => if j = k then some .closed else none
  | _ => none

/-- The alias a call sets in the entry of `k`. -/
def aliasSet (k : HSteamNetConnection) : AnsweredCall → Option String
  | ⟨.setAlias j value, _⟩ => if j = k then some value else none
  | _ => none

/-- The poll group a call sets in the entry of `k`. -/
def pollGroupSet (k : HSteamNetConnection) : AnsweredCall → Option (Option HSteamNetPollGroup)
  | ⟨.setPollGroup j g, ok⟩ => if j = k ∧ ok = true then some (some g) else none
  | _ => none

/-- What calls do to the entry of `k`. -/
def entryKind (k : HSteamNetConnection) : History.Kind AnsweredCall ClientConnection where
  creates e := match e.1 with
    | .createClientConnection j => j = k
    | _ => false
  removes e := match e.1 with
    | .closeClientConnection j => j = k
    | .removeClientConnection j => j = k
    | .closeConnection => true
    | _ => false
  init := .construct k
  change e client :=
    { client with
      connectionState := (stateSet k e).getD client.connectionState
      connectionAlias := (aliasSet k e).getD client.connectionAlias
      pollGroup := (pollGroupSet k e).getD client.pollGroup }

/-- The map a history determines. -/
def historyRegistry (h : CallHistory) (k : HSteamNetConnection) : Option ClientConnection :=
  (History.since (entryKind k) h).map fun es =>
    { netConnection := k
      pollGroup := History.latest (pollGroupSet k) none es
      connectionAlias := History.latest (aliasSet k) "" es
      connectionState := History.latest (stateSet k) .connecting es }

/-- The entry after some calls has the latest value of each field. -/
theorem foldr_change (k : HSteamNetConnection) (es : CallHistory) :
  es.foldr (entryKind k).change (entryKind k).init
    = { netConnection := k
        pollGroup := History.latest (pollGroupSet k) none es
        connectionAlias := History.latest (aliasSet k) "" es
        connectionState := History.latest (stateSet k) .connecting es }
  := by
  induction es with
  | nil => rfl
  | cons e es ih =>
      rw [List.foldr_cons, ih]
      simp only [History.latest_cons, entryKind]

/-- The entry that is computed call by call is the one that the history determines. -/
theorem entry_eq_historyRegistry (k : HSteamNetConnection) (h : CallHistory) :
  History.entry (entryKind k) h = historyRegistry h k
  := by
  rw [History.entry_eq, historyRegistry]
  congr 1
  funext es
  apply foldr_change

/-- A call that is not about `k` does nothing to the entry of `k`. -/
theorem after_other {k : HSteamNetConnection} {e : AnsweredCall} (ht : target e.1 ≠ some k)
    (hc : e.1 ≠ .closeConnection) (o : Option ClientConnection) :
  History.after (entryKind k) e o = o
  := by
  obtain ⟨c, a⟩ := e
  apply History.after_idle
  · cases c <;> simp_all [entryKind, target]
  · cases c <;> simp_all [entryKind, target]
  · intro client
    cases c <;> simp_all [entryKind, target, stateSet, aliasSet, pollGroupSet]

/-! ### What calls do to the registry -/

/-- The entries of `w'` are those of `w` after the call `e`. -/
def Follows (w w' : World Server) (e : AnsweredCall) : Prop :=
  ∀ k, w'.self.connections.lookup k
    = History.after (entryKind k) e (w.self.connections.lookup k)

/-- A call that is about no entry and leaves the registry alone. -/
theorem follows_of_same {w w' : World Server} {e : AnsweredCall} (ht : target e.1 = none)
    (hc : e.1 ≠ .closeConnection) (h : w'.self.connections = w.self.connections) :
  Follows w w' e
  := by
  intro k
  rw [h, after_other _ hc]
  simp [ht]

/-- A call that writes the entry of one connection. -/
theorem follows_of_put {w : World Server} {e : AnsweredCall} {k : HSteamNetConnection}
    {client : ClientConnection} {t : Trace} (ht : target e.1 = some k)
    (hc : e.1 ≠ .closeConnection)
    (h : some client = History.after (entryKind k) e (w.self.connections.lookup k)) :
  Follows w (put w k client t) e
  := by
  intro j
  by_cases hjk : j = k
  · subst hjk
    rw [← h]
    apply AList.lookup_insert
  · rw [after_other _ hc]
    · apply AList.lookup_insert_ne hjk
    · simpa [ht] using Ne.symm hjk

/-- A call that removes the entry of one connection. -/
theorem follows_of_drop {w w' : World Server} {e : AnsweredCall} {k : HSteamNetConnection}
    (ht : target e.1 = some k) (hc : e.1 ≠ .closeConnection)
    (hr : (entryKind k).removes e) (hother : ∀ j, j ≠ k →
      w'.self.connections.lookup j = w.self.connections.lookup j) :
  Follows w (drop w' k) e
  := by
  intro j
  by_cases hjk : j = k
  · subst hjk
    have hnone : (drop w' j).self.connections.lookup j = none := AList.lookup_erase _ _
    rw [hnone]
    cases w.self.connections.lookup j <;> simp [History.after, hr]
  · rw [after_other _ hc]
    · rw [← hother j hjk]
      apply AList.lookup_erase_ne hjk
    · simpa [ht] using Ne.symm hjk

/-- An operation on an entry that returns works on the registered entry. -/
theorem run_onClientConnection_ok {α : Type} {k : HSteamNetConnection}
    {f : ClientConnection → Trace → α × ClientConnection × Trace} {w w' : World Server} {a : α}
    (h : (onClientConnection k f).run w = .ok a w') :
  ∃ client, w.self.connections.lookup k = some client ∧ a = (f client w.trace).1 ∧
    w' = put w k (f client w.trace).2.1 (f client w.trace).2.2
  := by
  cases hk : w.self.connections.lookup k with
  | none =>
      rw [run_onClientConnection_none hk] at h
      cases h
  | some client =>
      rw [run_onClientConnection_some hk] at h
      cases h
      exact ⟨client, rfl, rfl, rfl⟩

/-- A creation follows the history of calls. -/
theorem createClientConnection_follows {k : HSteamNetConnection} {w w' : World Server}
    (h : (createClientConnection k).run w = .ok () w') :
  Follows w w' ⟨.createClientConnection k, ()⟩
  := by
  by_cases hk : k ∈ w.self.connections
  · rw [run_createClientConnection_of_mem hk] at h
    cases h
    intro j
    cases hj : w.self.connections.lookup j with
    | some client => simp [History.after, entryKind, stateSet, aliasSet, pollGroupSet]
    | none =>
        have hjk : ¬ k = j := by
          rintro rfl
          rw [AList.lookup_eq_none] at hj
          apply hj hk
        simp [History.after, entryKind, hjk]
  · rw [run_createClientConnection_of_notMem hk] at h
    cases h
    apply follows_of_put rfl (by simp)
    rw [AList.lookup_eq_none.mpr hk]
    simp [History.after, entryKind]

/-- Closing and removing an entry follows the history of calls. -/
theorem closeClientConnection_follows {k : HSteamNetConnection} {w w' : World Server}
    (h : (closeClientConnection k).run w = .ok () w') :
  Follows w w' ⟨.closeClientConnection k, ()⟩
  := by
  cases hk : w.self.connections.lookup k with
  | none =>
      rw [run_closeClientConnection_none hk] at h
      cases h
  | some client =>
      rw [run_closeClientConnection_some hk] at h
      cases h
      apply follows_of_drop rfl (by simp) (by simp [entryKind])
      intro j hjk
      apply AList.lookup_insert_ne hjk

/-- A removal follows the history of calls. -/
theorem removeClientConnection_follows {k : HSteamNetConnection} {w w' : World Server}
    (h : (removeClientConnection k).run w = .ok () w') :
  Follows w w' ⟨.removeClientConnection k, ()⟩
  := by
  cases hk : w.self.connections.lookup k with
  | none =>
      rw [run_removeClientConnection_none hk] at h
      cases h
  | some client =>
      cases hc : client.closed with
      | false =>
          rw [run_removeClientConnection_not_closed hk hc] at h
          cases h
      | true =>
          rw [run_removeClientConnection_closed hk hc] at h
          cases h
          apply follows_of_drop rfl (by simp) (by simp [entryKind])
          intro j _
          rfl

/-- The closing of the server follows the history of calls. -/
theorem closeConnection_follows {w w' : World Server} (h : closeConnection.run w = .ok () w') :
  Follows w w' ⟨.closeConnection, ()⟩
  := by
  rw [run_closeConnection] at h
  cases h
  intro k
  have hnone : (shutdown w).self.connections.lookup k = none := AList.lookup_empty k
  rw [hnone]
  cases w.self.connections.lookup k <;> simp [History.after, entryKind]

/-- An acceptance follows the history of calls, with its answer. -/
theorem accept_follows {k : HSteamNetConnection} {w w' : World Server} {ok : Bool}
    (h : (accept net k).run w = .ok ok w') :
  Follows w w' ⟨.accept k, ok⟩
  := by
  obtain ⟨client, hk, rfl, rfl⟩ := run_onClientConnection_ok h
  apply follows_of_put rfl (by simp)
  rw [hk]
  cases hok : net.acceptConnection w.trace client.netConnection <;>
    simp [History.after, entryKind, stateSet, aliasSet, pollGroupSet, ClientConnection.accept, hok]

/-- A change of the poll group follows the history of calls, with its answer. -/
theorem setPollGroup_follows {k : HSteamNetConnection} {g : HSteamNetPollGroup}
    {w w' : World Server} {ok : Bool} (h : (setPollGroup net k g).run w = .ok ok w') :
  Follows w w' ⟨.setPollGroup k g, ok⟩
  := by
  obtain ⟨client, hk, rfl, rfl⟩ := run_onClientConnection_ok h
  apply follows_of_put rfl (by simp)
  rw [hk]
  cases hok : net.setConnectionPollGroup w.trace client.netConnection g <;>
    simp [History.after, entryKind, stateSet, aliasSet, pollGroupSet,
      ClientConnection.setPollGroup, hok]

/-- A change of the alias follows the history of calls. -/
theorem setAlias_follows {k : HSteamNetConnection} {value : String} {w w' : World Server}
    (h : (setAlias k value).run w = .ok () w') :
  Follows w w' ⟨.setAlias k value, ()⟩
  := by
  obtain ⟨client, hk, -, rfl⟩ := run_onClientConnection_ok h
  apply follows_of_put rfl (by simp)
  rw [hk]
  simp [History.after, entryKind, stateSet, aliasSet, pollGroupSet, ClientConnection.setAlias]

/-- The closing of a connection follows the history of calls. -/
theorem close_follows {k : HSteamNetConnection} {w w' : World Server}
    (h : (close k).run w = .ok () w') :
  Follows w w' ⟨.close k, ()⟩
  := by
  obtain ⟨client, hk, -, rfl⟩ := run_onClientConnection_ok h
  apply follows_of_put rfl (by simp)
  rw [hk]
  simp [History.after, entryKind, stateSet, aliasSet, pollGroupSet, ClientConnection.close]

/-- Every call that returns changes the registry as it changes the map of the history. -/
theorem perform_follows {c : ServerCall} {w w' : World Server} {a : c.Answer}
    (h : (perform net c).run w = .ok a w') :
  Follows w w' ⟨c, a⟩
  := by
  cases c with
  | createClientConnection k => exact createClientConnection_follows h
  | closeClientConnection k => exact closeClientConnection_follows h
  | removeClientConnection k => exact removeClientConnection_follows h
  | closeConnection => exact closeConnection_follows h
  | accept k => exact accept_follows h
  | setPollGroup k g => exact setPollGroup_follows h
  | setAlias k value => exact setAlias_follows h
  | close k => exact close_follows h
  | _ =>
      apply follows_of_same rfl (by simp)
      rw [← exit_ok h]
      apply congrArg Server.connections (perform_idle _ rfl (by simp) w)

/-! ### Runs -/

/-- From `w₀`, the calls of the history lead to the given world. -/
inductive Led (net : ISteamNetworkingSockets) (w₀ : World Server) :
    CallHistory → World Server → Prop
  where
  | start : Led net w₀ [] w₀
  | call {h : CallHistory} {w w' : World Server} {c : ServerCall} {a : c.Answer}
      (hw : Led net w₀ h w) (hrun : (perform net c).run w = .ok a w') : Led net w₀ (⟨c, a⟩ :: h) w'

/-- The registry is the map that the history determines. -/
theorem lookup_eq_historyRegistry {w₀ w : World Server} {h : CallHistory} (hw : Led net w₀ h w)
    (hempty : w₀.self.connections = ∅) (k : HSteamNetConnection) :
  w.self.connections.lookup k = historyRegistry h k
  := by
  rw [← entry_eq_historyRegistry]
  induction hw with
  | start =>
      rw [hempty]
      apply AList.lookup_empty
  | call _ hrun ih => rw [perform_follows hrun k, ih, History.entry_cons]

/-! ### Entries and their histories -/

/-- A successful accept of `k`. -/
def Accepts (k : HSteamNetConnection) (e : AnsweredCall) : Prop :=
  stateSet k e = some .connected

/-- A close of `k`. -/
def Closes (k : HSteamNetConnection) (e : AnsweredCall) : Prop :=
  stateSet k e = some .closed

/-- A call that sets the state of an entry accepts it or closes it. -/
theorem stateSet_cases (k : HSteamNetConnection) (e : AnsweredCall) :
  stateSet k e = none ∨ Accepts k e ∨ Closes k e
  := by
  unfold Accepts Closes stateSet
  split
  · split <;> simp
  · split <;> simp
  · simp

/-- A call leaves the state of an entry exactly if it neither accepts nor closes it. -/
theorem stateSet_eq_none_iff (k : HSteamNetConnection) (e : AnsweredCall) :
  stateSet k e = none ↔ ¬ Accepts k e ∧ ¬ Closes k e
  := by
  constructor
  · intro h
    simp [Accepts, Closes, h]
  · rintro ⟨ha, hc⟩
    rcases stateSet_cases k e with h | h | h
    · apply h
    · apply absurd h ha
    · apply absurd h hc

/-- An event of `es` satisfies `P`, and none of the later ones satisfies `Q`. -/
def LatelyWithout (P Q : AnsweredCall → Prop) (es : CallHistory) : Prop :=
  ∃ later e earlier, es = later ++ e :: earlier ∧ P e ∧ ∀ e' ∈ later, ¬ Q e'

/-- The state is the connected one exactly if an acceptance came later than all closings. -/
theorem latest_state_connected_iff (k : HSteamNetConnection) (es : CallHistory) :
  History.latest (stateSet k) .connecting es = .connected
    ↔ LatelyWithout (Accepts k) (Closes k) es
  := by
  have hiff : ∀ e, (stateSet k e = none ∨ stateSet k e = some .connected) ↔ ¬ Closes k e := by
    intro e
    rw [Closes]
    rcases stateSet_cases k e with h | h | h <;> simp_all [Accepts, Closes]
  simp only [History.latest_eq_iff (stateSet k) (show ConnectionState.connecting ≠ .connected by
    simp), hiff]
  rfl

/-- The state is the closed one exactly if a closing came later than all acceptances. -/
theorem latest_state_closed_iff (k : HSteamNetConnection) (es : CallHistory) :
  History.latest (stateSet k) .connecting es = .closed
    ↔ LatelyWithout (Closes k) (Accepts k) es
  := by
  have hiff : ∀ e, (stateSet k e = none ∨ stateSet k e = some .closed) ↔ ¬ Accepts k e := by
    intro e
    rw [Accepts]
    rcases stateSet_cases k e with h | h | h <;> simp_all [Accepts, Closes]
  simp only [History.latest_eq_iff (stateSet k) (show ConnectionState.connecting ≠ .closed by
    simp), hiff]
  rfl

/-- The state is that of a new entry exactly if it was neither accepted nor closed. -/
theorem latest_state_connecting_iff (k : HSteamNetConnection) (es : CallHistory) :
  History.latest (stateSet k) .connecting es = .connecting
    ↔ ∀ e ∈ es, ¬ Accepts k e ∧ ¬ Closes k e
  := by
  have hsets : ∀ e, stateSet k e ≠ some .connecting := by
    intro e
    rcases stateSet_cases k e with h | h | h <;> simp_all [Accepts, Closes]
  simp only [History.latest_eq_init_iff (stateSet k) es hsets, stateSet_eq_none_iff]

/-- No accept of `k` succeeds after a close. -/
def NeverRevived (k : HSteamNetConnection) (es : CallHistory) : Prop :=
  ∀ later e earlier, es = later ++ e :: earlier → Closes k e → ∀ e' ∈ later, ¬ Accepts k e'

/-- If no accept succeeds after a close, the latest close is the latest change of state. -/
theorem NeverRevived.closed_iff {k : HSteamNetConnection} {es : CallHistory}
    (h : NeverRevived k es) :
  LatelyWithout (Closes k) (Accepts k) es ↔ ∃ e ∈ es, Closes k e
  := by
  constructor
  · rintro ⟨later, e, earlier, rfl, he, -⟩
    exact ⟨e, by simp, he⟩
  · rintro ⟨e, hmem, he⟩
    obtain ⟨later, earlier, rfl⟩ := List.append_of_mem hmem
    exact ⟨later, e, earlier, rfl, he, h later e earlier rfl he⟩

/-- Where no closed entry is accepted, an entry is connected exactly if it has been accepted and
never closed. -/
theorem NeverRevived.connected_iff {k : HSteamNetConnection} {es : CallHistory}
    (h : NeverRevived k es) :
  LatelyWithout (Accepts k) (Closes k) es
    ↔ (∃ e ∈ es, Accepts k e) ∧ ∀ e ∈ es, ¬ Closes k e
  := by
  constructor
  · rintro ⟨later, e, earlier, rfl, he, hlater⟩
    use ⟨e, by simp, he⟩
    intro e' he' hcl
    rcases List.mem_append.mp he' with he' | he'
    · apply hlater e' he' hcl
    · rcases List.mem_cons.mp he' with rfl | he'
      · rw [Accepts, hcl] at he
        cases he
      · obtain ⟨l, r, rfl⟩ := List.append_of_mem he'
        apply h (later ++ e :: l) e' r (by simp) hcl e (by simp) he
  · rintro ⟨⟨e, hmem, he⟩, hno⟩
    obtain ⟨later, earlier, rfl⟩ := List.append_of_mem hmem
    use later, e, earlier, rfl, he
    intro e' he'
    apply hno e'
    simp [he']

/-- The entry `client` of `k` agrees with the calls `es` since its creation, the latest
first. -/
structure AgreesWith (k : HSteamNetConnection) (client : ClientConnection) (es : CallHistory) :
    Prop where
  connection : client.netConnection = k
  connectionAlias : client.connectionAlias = History.latest (aliasSet k) "" es
  pollGroup : client.pollGroup = History.latest (pollGroupSet k) none es
  connected : client.connected ↔ LatelyWithout (Accepts k) (Closes k) es
  closed : client.closed ↔ LatelyWithout (Closes k) (Accepts k) es
  connecting : client.connecting ↔ ∀ e ∈ es, ¬ Accepts k e ∧ ¬ Closes k e
  neverRevived : NeverRevived k es →
    (client.connected ↔ (∃ e ∈ es, Accepts k e) ∧ ∀ e ∈ es, ¬ Closes k e) ∧
    (client.closed ↔ ∃ e ∈ es, Closes k e)

/-- The connection has been created and not been removed or cleared since. -/
def Created (k : HSteamNetConnection) (h : CallHistory) : Prop :=
  ∃ es e h', h = es ++ e :: h' ∧ (entryKind k).creates e ∧
    ∀ e' ∈ e :: es, (entryKind k).removes e' = false

/-- The entry with the latest value of each field agrees with the calls. -/
theorem agreesWith_latest (k : HSteamNetConnection) (es : CallHistory) :
  AgreesWith k
    { netConnection := k
      pollGroup := History.latest (pollGroupSet k) none es
      connectionAlias := History.latest (aliasSet k) "" es
      connectionState := History.latest (stateSet k) .connecting es } es
  := by
  have hconnected := latest_state_connected_iff k es
  have hclosed := latest_state_closed_iff k es
  have hconnecting := latest_state_connecting_iff k es
  constructor
  · rfl
  · rfl
  · rfl
  · simpa [ClientConnection.connected] using hconnected
  · simpa [ClientConnection.closed] using hclosed
  · simpa [ClientConnection.connecting] using hconnecting
  · intro h
    rw [h.connected_iff] at hconnected
    rw [h.closed_iff] at hclosed
    constructor
    · simpa [ClientConnection.connected] using hconnected
    · simpa [ClientConnection.closed] using hclosed

/-- The registry agrees with the history: it holds the connections that have been created and
not been removed since, with entries that agree with the calls since their creation. -/
structure RegistryAgrees (w : World Server) (h : CallHistory) : Prop where
  registered : ∀ k, k ∈ w.self.connections ↔ Created k h
  entries : ∀ k client, w.self.connections.lookup k = some client →
    ∃ es, History.since (entryKind k) h = some es ∧ AgreesWith k client es

/-- Creating a registered connection changes nothing, and a call about one connection changes
no other entry. -/
structure CallsAreLocal (net : ISteamNetworkingSockets) (w : World Server) : Prop where
  create : ∀ k w', k ∈ w.self.connections →
    (perform net (.createClientConnection k)).run w = .ok () w' → w' = w
  frame : ∀ (c : ServerCall) (a : c.Answer) w' k, (perform net c).run w = .ok a w' →
    c ≠ .closeConnection → target c ≠ some k →
      w'.self.connections.lookup k = w.self.connections.lookup k

/-- At every point of a run of calls from an empty registry, the registry agrees with the
history of the calls. -/
theorem registry_agrees {w₀ w : World Server} {h : CallHistory} (hempty : w₀.self.connections = ∅)
    (hw : Led net w₀ h w) :
  RegistryAgrees w h ∧ CallsAreLocal net w
  := by
  have hlookup := lookup_eq_historyRegistry hw hempty
  constructor
  · constructor
    · intro k
      rw [Created, ← History.since_isSome_iff, ← AList.lookup_isSome, hlookup, historyRegistry,
        Option.isSome_map]
    · intro k client hk
      rw [hlookup, historyRegistry, Option.map_eq_some_iff] at hk
      obtain ⟨es, hes, rfl⟩ := hk
      exact ⟨es, hes, agreesWith_latest k es⟩
  · constructor
    · intro k w' hk hrun
      have hsame : (perform net (.createClientConnection k)).run w = .ok () w :=
        run_createClientConnection_of_mem hk
      rw [hsame] at hrun
      cases hrun
      rfl
    · intro c a w' k hrun hc ht
      rw [perform_follows hrun k, after_other ht hc]

/-- A networking library that accepts every connection, closed or not. -/
def acceptsAll : ISteamNetworkingSockets :=
  { queueNetworking with acceptConnection := fun _ _ => true }

/-- A connection that is closed and then accepted. -/
def acceptedAfterClose : CallHistory :=
  [⟨.accept 1, true⟩, ⟨.close 1, ()⟩, ⟨.createClientConnection 1, ()⟩]

/-- An entry that is accepted after its closing is not closed. -/
theorem led_acceptedAfterClose :
  ∃ w, Led acceptsAll (newServer "127.0.0.1" 8080 0 0) acceptedAfterClose w
    ∧ (w.self.connections.lookup 1).map ClientConnection.closed = some false
  := by
  use exit (do
    createClientConnection 1
    close 1
    let _ ← accept acceptsAll 1) (newServer "127.0.0.1" 8080 0 0)
  constructor
  · apply Led.call (.call (.call .start rfl) rfl) rfl
  · rfl

/-- The registry agrees with the calls also after that. -/
theorem acceptedAfterClose_agrees :
  ∃ w, RegistryAgrees w acceptedAfterClose ∧ CallsAreLocal acceptsAll w
  := by
  obtain ⟨w, hw, -⟩ := led_acceptedAfterClose
  use w
  apply registry_agrees _ hw
  rfl

/-- An entry can be closed no longer although its connection has been closed since its
creation: an accept that succeeds after the close revives it. -/
theorem closed_entry_revived :
  ¬ ∀ (net : ISteamNetworkingSockets) (w₀ w : World Server) (h : CallHistory),
      w₀.self.connections = ∅ → Led net w₀ h w →
        ∀ k client es, w.self.connections.lookup k = some client →
          History.since (entryKind k) h = some es → (client.closed ↔ ∃ e ∈ es, Closes k e)
  := by
  intro hall
  obtain ⟨w, hw, hclosed⟩ := led_acceptedAfterClose
  obtain ⟨client, hk, hcl⟩ := Option.map_eq_some_iff.mp hclosed
  have hiff := hall acceptsAll _ w acceptedAfterClose rfl hw 1 client
    [⟨.accept 1, true⟩, ⟨.close 1, ()⟩] hk rfl
  rw [hcl] at hiff
  apply absurd (hiff.mpr ⟨⟨.close 1, ()⟩, by simp, rfl⟩)
  simp

end Server

end Chs
