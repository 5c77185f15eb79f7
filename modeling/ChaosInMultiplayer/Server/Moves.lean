import ChaosInMultiplayer.Common.QueueNetworking
import ChaosInMultiplayer.Server.Ownership

/-!
# Chains of moves

A connection object that has been used is moved along a chain of objects of a pool: each move
constructs its destination if there is no such object, and assigns to it otherwise.  A move carries
the handle, the alias and the state, but not the poll group, and it takes from the moved object
nothing but its handle.  So a chain is faithful exactly if it goes nowhere, or if the connection has
been closed, and its last object had the poll group already.
-/

namespace Chs

/-! ### Connections in use -/

/-- A call on a connection object, or something that happens elsewhere. -/
inductive ConnectionStep where
  | accept
  | setPollGroup (group : HSteamNetPollGroup)
  | setAlias (value : String)
  | close
  | elsewhere (event : Event)

namespace ClientConnection

/-- What a step does to the object, and what has happened after it. -/
def step (net : ISteamNetworkingSockets) :
    ConnectionStep → ClientConnection × Trace → ClientConnection × Trace
  | .accept, (client, t) => (client.accept net t).2
  | .setPollGroup group, (client, t) => (client.setPollGroup net group t).2
  | .setAlias value, (client, t) => (client.setAlias value, t)
  | .close, (client, t) => client.close t
  | .elsewhere event, (client, t) => (client, event :: t)

def runSteps (net : ISteamNetworkingSockets) :
    List ConnectionStep → ClientConnection × Trace → ClientConnection × Trace
  | [], s => s
  | i :: steps, s => runSteps net steps (step net i s)

/-- The step is a successful call of `setPollGroup`. -/
def setsPollGroup (net : ISteamNetworkingSockets) :
    ConnectionStep → ClientConnection × Trace → Bool
  | .setPollGroup group, (client, t) => (client.setPollGroup net group t).1
  | _, _ => false

/-- A step of the run is a successful call of `setPollGroup`. -/
def everSetsPollGroup (net : ISteamNetworkingSockets) :
    List ConnectionStep → ClientConnection × Trace → Bool
  | [], _ => false
  | i :: steps, s => setsPollGroup net i s || everSetsPollGroup net steps (step net i s)

/-- A run from the construction of the object, at least one of whose calls of `setPollGroup` is
successful, ends with the given object. -/
def Used (net : ISteamNetworkingSockets) (original : ClientConnection) : Prop :=
  ∃ netConnection t steps, everSetsPollGroup net steps (construct netConnection, t) ∧
    (runSteps net steps (construct netConnection, t)).1 = original

variable {net : ISteamNetworkingSockets}

/-- No step leaves an object without a state, or takes its poll group. -/
theorem step_keeps (i : ConnectionStep) {s : ClientConnection × Trace}
    (hs : s.1.connectionState ≠ .none) :
  (step net i s).1.connectionState ≠ .none ∧
    (setsPollGroup net i s ∨ s.1.pollGroup.isSome → (step net i s).1.pollGroup.isSome)
  := by
  obtain ⟨client, t⟩ := s
  cases i with
  | accept =>
      simp only [step, accept, setsPollGroup]
      split
      · simp
      · simp [hs]
  | setPollGroup group =>
      simp only [step, setPollGroup, setsPollGroup]
      split
      · simp [hs]
      · simp [hs]
  | close => simp [step, close, setsPollGroup]
  | _ => exact ⟨hs, fun h => h.resolve_left (by simp [setsPollGroup])⟩

/-- A connection that has been constructed stays so, and stays in a poll group once it has been put
into one. -/
theorem runSteps_keeps (steps : List ConnectionStep) {s : ClientConnection × Trace}
    (hs : s.1.connectionState ≠ .none) :
  (runSteps net steps s).1.connectionState ≠ .none ∧
    (everSetsPollGroup net steps s ∨ s.1.pollGroup.isSome →
      (runSteps net steps s).1.pollGroup.isSome)
  := by
  induction steps generalizing s with
  | nil => exact ⟨hs, fun h => h.resolve_left (by simp [everSetsPollGroup])⟩
  | cons i steps ih =>
      obtain ⟨hstate, hgroup⟩ := @step_keeps net i s hs
      obtain ⟨hstates, hgroups⟩ := ih hstate
      use hstates
      intro h
      apply hgroups
      rw [everSetsPollGroup, Bool.or_eq_true, or_right_comm] at h
      rcases h with h | h
      · right
        apply hgroup h
      · left
        apply h

theorem Used.state {original : ClientConnection} (h : Used net original) :
  original.connectionState ≠ .none
  := by
  obtain ⟨netConnection, t, steps, -, rfl⟩ := h
  apply (runSteps_keeps steps _).1
  simp [construct]

theorem Used.pollGroup {original : ClientConnection} (h : Used net original) :
  original.pollGroup.isSome
  := by
  obtain ⟨netConnection, t, steps, hever, rfl⟩ := h
  apply (runSteps_keeps steps _).2 (.inl hever)
  simp [construct]

/-! ### What is expected of moves -/

/-- The two objects report the same. -/
structure ReportsAs (client original : ClientConnection) : Prop where
  connection : client.netConnection = original.netConnection
  connectionAlias : client.connectionAlias = original.connectionAlias
  pollGroup : client.pollGroup = original.pollGroup
  connecting : client.connecting = original.connecting
  connected : client.connected = original.connected
  closed : client.closed = original.closed

/-- Nothing can be done with the object. -/
structure Inert (client : ClientConnection) : Prop where
  valid : client.valid = false
  connecting : client.connecting = false
  connected : client.connected = false

end ClientConnection

/-- A move of a chain: the object it goes to, and the alias it leaves behind. -/
structure ChainMove where
  destination : Nat
  leftAlias : String

namespace Pool

/-- The move from `j`: a move assignment, or a move construction if there is no object yet. -/
def moveTo (m : ChainMove) (j : Nat) (s : Pool) : Pool :=
  match s.objects m.destination with
  | none => s.moveConstruct m.destination j m.leftAlias
  | some _ => s.moveAssign m.destination j m.leftAlias

/-- A chain of moves, each from where the one before it went. -/
def moveAlong : List ChainMove → Nat → Pool → Pool
  | [], _, s => s
  | m :: moves, j, s => moveAlong moves m.destination (s.moveTo m j)

end Pool

/-- Where a chain of moves that starts at `j` ends. -/
def finalDestination : List ChainMove → Nat → Nat
  | [], j => j
  | m :: moves, _ => finalDestination moves m.destination

/-- Where a chain of moves passes. -/
def destinations (moves : List ChainMove) (start : Nat) : List Nat :=
  start :: moves.map ChainMove.destination

namespace Pool

/-- After the moves, the final destination reports what the original object reported, and the other
objects of the chain are inert; a self move-assignment changes nothing. -/
structure MovesFaithfully (original : ClientConnection) (moves : List ChainMove) (start : Nat)
    (s : Pool) : Prop where
  arrives : ∃ client, (s.moveAlong moves start).objects (finalDestination moves start) = some client
    ∧ client.ReportsAs original
  inert : ∀ i ∈ destinations moves start, i ≠ finalDestination moves start →
    ∃ client, (s.moveAlong moves start).objects i = some client ∧ client.Inert
  self : ∀ i leftAlias,
    (s.moveAlong moves start).moveAssign i i leftAlias = s.moveAlong moves start

/-! ### What a chain carries -/

/-- A pool in which the connection of the original object has been carried to `j`, past other
objects, which keep its state.  No object has changed its poll group. -/
structure Carries (original : ClientConnection) (pollGroups : Nat → Option HSteamNetPollGroup)
    (passed : List Nat) (j : Nat) (s : Pool) : Prop where
  arrived : ∃ client, s.objects j = some client ∧
    client.netConnection = original.netConnection ∧
    client.connectionAlias = original.connectionAlias ∧
    client.connectionState = original.connectionState
  left : ∀ i ∈ passed, i ≠ j → ∃ client, s.objects i = some client ∧
    client.netConnection = 0 ∧ client.connectionState = original.connectionState
  pollGroups : ∀ i, (s.objects i).bind ClientConnection.pollGroup = pollGroups i

variable {original : ClientConnection} {pollGroups : Nat → Option HSteamNetPollGroup}
  {passed : List Nat} {j : Nat} {s : Pool}

section Objects

variable {i : Nat} {client other : ClientConnection}

theorem move_source :
  (s.move i j client other).objects j = some other
  := Function.update_self _ _ _

theorem move_destination (hij : i ≠ j) :
  (s.move i j client other).objects i = some client
  := (Function.update_of_ne hij _ _).trans (Function.update_self _ _ _)

theorem move_of_ne {k : Nat} (hki : k ≠ i) (hkj : k ≠ j) :
  (s.move i j client other).objects k = s.objects k
  := (Function.update_of_ne hkj _ _).trans (Function.update_of_ne hki _ _)

end Objects

/-- A move to the object itself does nothing; a move to another one carries everything but the poll
group. -/
theorem moveTo_cases {other : ClientConnection} (hj : s.objects j = some other) (m : ChainMove) :
  (m.destination = j ∧ s.moveTo m j = s) ∨
    (m.destination ≠ j ∧ ∃ client,
      s.moveTo m j = s.move m.destination j client (other.movedFrom m.leftAlias) ∧
      client.netConnection = other.netConnection ∧
      client.connectionAlias = other.connectionAlias ∧
      client.connectionState = other.connectionState ∧
      client.pollGroup = (s.objects m.destination).bind ClientConnection.pollGroup)
  := by
  cases hd : s.objects m.destination with
  | none =>
      right
      constructor
      · intro h
        rw [h, hj] at hd
        cases hd
      · use other.moveConstruct
        refine ⟨?_, rfl, rfl, rfl, rfl⟩
        simp only [moveTo, moveConstruct, hd, hj]
  | some client =>
      by_cases hself : m.destination = j
      · left
        use hself
        simp [moveTo, moveAssign, hself, hj]
      · right
        use hself, client.moveAssign other
        refine ⟨?_, rfl, rfl, rfl, rfl⟩
        simp only [moveTo, moveAssign, hd, hj, if_neg hself]

/-- A further move carries the connection one place further. -/
theorem Carries.moveTo (h : Carries original pollGroups passed j s) (m : ChainMove) :
  Carries original pollGroups (passed ++ [m.destination]) m.destination (s.moveTo m j)
  := by
  obtain ⟨other, hj, hconnection, halias, hstate⟩ := h.arrived
  rcases moveTo_cases hj m with ⟨hself, hsame⟩ | ⟨hne, client, hmove, hconnection', halias',
    hstate', hgroup'⟩
  · rw [hsame, hself]
    refine ⟨h.arrived, ?_, h.pollGroups⟩
    intro i hi hij
    rcases List.mem_append.mp hi with hi | hi
    · exact h.left i hi hij
    · exact absurd (List.mem_singleton.mp hi) hij
  · rw [hmove]
    constructor
    · use client, move_destination hne
      exact ⟨hconnection'.trans hconnection, halias'.trans halias, hstate'.trans hstate⟩
    · intro i hi hid
      by_cases hij : i = j
      · subst hij
        use other.movedFrom m.leftAlias, move_source, rfl
        exact hstate
      · rw [move_of_ne hid hij]
        rcases List.mem_append.mp hi with hi | hi
        · apply h.left i hi hij
        · exact absurd (List.mem_singleton.mp hi) hid
    · intro i
      rw [← h.pollGroups i]
      by_cases hij : i = j
      · subst hij
        rw [move_source, hj]
        rfl
      · by_cases hid : i = m.destination
        · subst hid
          rw [move_destination hne, ← hgroup']
          rfl
        · rw [move_of_ne hid hij]

/-- A chain of moves carries the connection to its final destination. -/
theorem Carries.moveAlong (h : Carries original pollGroups passed j s) (moves : List ChainMove) :
  Carries original pollGroups (passed ++ moves.map ChainMove.destination)
    (finalDestination moves j) (s.moveAlong moves j)
  := by
  induction moves generalizing passed j s with
  | nil =>
      rw [List.map_nil, List.append_nil]
      apply h
  | cons m moves ih =>
      have hrest := ih (h.moveTo m)
      rw [List.append_assoc] at hrest
      apply hrest

/-- Before any move the connection is at its place. -/
theorem carries_start (hj : s.objects j = some original) :
  Carries original (fun i => (s.objects i).bind ClientConnection.pollGroup) [j] j s
  := by
  refine ⟨⟨original, hj, rfl, rfl, rfl⟩, ?_, fun _ => rfl⟩
  intro i hi hij
  exact absurd (List.mem_singleton.mp hi) hij

/-! ### Faithful chains -/

/-- The last object reports what the original object reported exactly if it has its poll group. -/
theorem Carries.reportsAs_iff (h : Carries original pollGroups passed j s) :
  (∃ client, s.objects j = some client ∧ client.ReportsAs original)
    ↔ pollGroups j = original.pollGroup
  := by
  rw [← h.pollGroups]
  constructor
  · rintro ⟨client, hj, hreports⟩
    rw [hj]
    exact hreports.pollGroup
  · intro hgroup
    obtain ⟨client, hj, hconnection, halias, hstate⟩ := h.arrived
    rw [hj] at hgroup
    use client, hj
    refine ⟨hconnection, halias, hgroup, ?_, ?_, ?_⟩
    · rw [ClientConnection.connecting, ClientConnection.connecting, hstate]
    · rw [ClientConnection.connected, ClientConnection.connected, hstate]
    · rw [ClientConnection.closed, ClientConnection.closed, hstate]

/-- An object without a connection, in the state of a used one, is inert exactly if that one is
closed. -/
theorem inert_iff_closed {net : ISteamNetworkingSockets} (hused : original.Used net)
    {client : ClientConnection} (hconnection : client.netConnection = 0)
    (hstate : client.connectionState = original.connectionState) :
  client.Inert ↔ original.closed
  := by
  rw [ClientConnection.closed, decide_eq_true_eq]
  constructor
  · rintro ⟨-, hconnecting, hconnected⟩
    rw [ClientConnection.connecting, hstate, decide_eq_false_iff_not] at hconnecting
    rw [ClientConnection.connected, hstate, decide_eq_false_iff_not] at hconnected
    have hnone := hused.state
    cases horiginal : original.connectionState with
    | closed => rfl
    | none => exact absurd horiginal hnone
    | connecting => exact absurd horiginal hconnecting
    | connected => exact absurd horiginal hconnected
  · intro hclosed
    refine ⟨?_, ?_, ?_⟩
    · simp [ClientConnection.valid, hconnection]
    · simp [ClientConnection.connecting, hstate, hclosed]
    · simp [ClientConnection.connected, hstate, hclosed]

/-- The objects a chain has left are inert exactly if there are none, or if the original object is
closed. -/
theorem Carries.inert_iff {net : ISteamNetworkingSockets} (hused : original.Used net)
    (h : Carries original pollGroups passed j s) :
  (∀ i ∈ passed, i ≠ j → ∃ client, s.objects i = some client ∧ client.Inert)
    ↔ (∀ i ∈ passed, i = j) ∨ original.closed
  := by
  constructor
  · intro hinert
    by_cases hall : ∀ i ∈ passed, i = j
    · left
      exact hall
    right
    push Not at hall
    obtain ⟨i, hi, hij⟩ := hall
    obtain ⟨client, hclient, hinert⟩ := hinert i hi hij
    obtain ⟨client', hclient', hconnection, hstate⟩ := h.left i hi hij
    rw [hclient, Option.some.injEq] at hclient'
    subst hclient'
    exact (inert_iff_closed hused hconnection hstate).mp hinert
  · rintro (hall | hclosed) i hi hij
    · exact absurd (hall i hi) hij
    · obtain ⟨client, hclient, hconnection, hstate⟩ := h.left i hi hij
      exact ⟨client, hclient, (inert_iff_closed hused hconnection hstate).mpr hclosed⟩

theorem finalDestination_mem (moves : List ChainMove) (j : Nat) :
  finalDestination moves j ∈ destinations moves j
  := by
  induction moves generalizing j with
  | nil => apply List.mem_singleton_self
  | cons m moves ih => apply List.mem_cons_of_mem j (ih m.destination)

/-- A chain passes only its end exactly if all its moves go to where it starts. -/
theorem destinations_eq_iff (moves : List ChainMove) (start : Nat) :
  (∀ i ∈ destinations moves start, i = finalDestination moves start)
    ↔ ∀ m ∈ moves, m.destination = start
  := by
  constructor
  · intro h m hm
    rw [h start List.mem_cons_self]
    apply h
    apply List.mem_cons_of_mem start (List.mem_map_of_mem hm)
  · intro h
    have hstart : ∀ i ∈ destinations moves start, i = start := by
      intro i hi
      rcases List.mem_cons.mp hi with rfl | hi
      · rfl
      · obtain ⟨m, hm, rfl⟩ := List.mem_map.mp hi
        apply h m hm
    intro i hi
    rw [hstart i hi, hstart _ (finalDestination_mem moves start)]

theorem moveAssign_self (i : Nat) (leftAlias : String) (s : Pool) :
  s.moveAssign i i leftAlias = s
  := by
  rw [moveAssign]
  split
  · rw [if_pos rfl]
  · rfl

/-- The moves of a chain are faithful exactly if all of them are self moves, or if the original
object is closed and the final destination was an object with the same poll group. -/
theorem movesFaithfully_iff {net : ISteamNetworkingSockets} (hused : original.Used net)
    {start : Nat} (hstart : s.objects start = some original) (moves : List ChainMove) :
  s.MovesFaithfully original moves start ↔
    (∀ m ∈ moves, m.destination = start) ∨ (original.closed ∧
      ∃ client, s.objects (finalDestination moves start) = some client ∧
        client.pollGroup = original.pollGroup)
  := by
  have hcarries := (carries_start hstart).moveAlong moves
  have harrives := hcarries.reportsAs_iff
  have hinert := hcarries.inert_iff hused
  have hpassed : [start] ++ moves.map ChainMove.destination = destinations moves start := rfl
  rw [hpassed, destinations_eq_iff] at hinert
  -- The original object has a poll group, so an object that has the same exists.
  have hgroup : (s.objects (finalDestination moves start)).bind ClientConnection.pollGroup
        = original.pollGroup
      ↔ ∃ client, s.objects (finalDestination moves start) = some client ∧
          client.pollGroup = original.pollGroup := by
    obtain ⟨group, hsome⟩ := Option.isSome_iff_exists.mp hused.pollGroup
    rw [hsome, Option.bind_eq_some_iff]
  rw [hgroup] at harrives
  constructor
  · intro h
    rcases hinert.mp h.inert with hall | hclosed
    · left
      exact hall
    · right
      exact ⟨hclosed, harrives.mp h.arrives⟩
  · rintro (hall | ⟨hclosed, hsame⟩)
    · have hend := (destinations_eq_iff moves start).mpr hall start List.mem_cons_self
      have hsame := harrives.mpr ⟨original, by rw [← hend, hstart], rfl⟩
      exact ⟨hsame, hinert.mpr (.inl hall), fun i leftAlias => moveAssign_self i leftAlias _⟩
    · exact ⟨harrives.mpr hsame, hinert.mpr (.inr hclosed),
        fun i leftAlias => moveAssign_self i leftAlias _⟩

/-- A connection that has been put in a poll group and been accepted. -/
def accepted : ClientConnection :=
  (ClientConnection.runSteps queueNetworking
    [.elsewhere (.createPollGroup 1), .setPollGroup 1, .setAlias "client", .accept]
    (.construct 5, [])).1

/-- An accepted connection in a poll group is one in use. -/
theorem accepted_used :
  accepted.Used queueNetworking
  := ⟨5, [], [.elsewhere (.createPollGroup 1), .setPollGroup 1, .setAlias "client", .accept],
    by decide, rfl⟩

/-- A pool whose only object is the accepted connection. -/
def acceptedPool : Pool :=
  { newPool with objects := Function.update newPool.objects 0 (some accepted) }

/-- A connection in use that is moved once. -/
theorem accepted_movesFaithfully_iff :
  acceptedPool.MovesFaithfully accepted [⟨1, ""⟩] 0 ↔
    (∀ m ∈ [(⟨1, ""⟩ : ChainMove)], m.destination = 0) ∨ (accepted.closed ∧
      ∃ client, acceptedPool.objects (finalDestination [⟨1, ""⟩] 0) = some client ∧
        client.pollGroup = accepted.pollGroup)
  := movesFaithfully_iff accepted_used rfl [⟨1, ""⟩]

/-- A single move construction loses the poll group of the accepted connection, and leaves behind an
object that is connected. -/
theorem accepted_not_movesFaithfully :
  ¬ ∀ (net : ISteamNetworkingSockets) (original : ClientConnection), original.Used net →
    ∀ (s : Pool) (start : Nat), s.objects start = some original →
      ∀ moves, s.MovesFaithfully original moves start
  := by
  intro h
  have hfaithful := h queueNetworking accepted accepted_used acceptedPool 0 rfl [⟨1, ""⟩]
  obtain ⟨client, hleft, hinert⟩ := hfaithful.inert 0 (by decide) (by decide)
  cases hleft
  have hconnected : (accepted.movedFrom "").connected = true := by decide
  rw [hinert.connected] at hconnected
  cases hconnected

end Pool

end Chs
