import ChaosInMultiplayer.Server.ClientConnection
import Mathlib.Logic.Function.Basic

/-!
# The owners of open connections

A pool of `ClientConnection` objects, which are constructed from new handles, moved, closed and
destroyed.  Every open handle has exactly one owner as long as no move assignment overwrites
the handle of a connection that is still open: nothing closes that connection any more.
-/

namespace Chs

/-- The objects that are alive, the handles wrapped and what has happened so far. -/
structure Pool where
  objects : Nat → Option ClientConnection
  wrapped : List HSteamNetConnection
  trace : Trace

/-- A step of the owner of the pool. -/
inductive PoolStep where
  | construct (object : Nat) (netConnection : HSteamNetConnection)
  | moveConstruct (object other : Nat) (leftAlias : String)
  | moveAssign (object other : Nat) (leftAlias : String)
  | close (object : Nat)
  | destroy (object : Nat)

def newPool : Pool where
  objects _ := none
  wrapped := []
  trace := []

namespace Pool

open Program

/-- The construction of an object from a new handle. -/
def construct (i : Nat) (netConnection : HSteamNetConnection) (s : Pool) : Pool :=
  if s.objects i = none ∧ netConnection ≠ 0 ∧ netConnection ∉ s.wrapped then
    { s with
      objects := Function.update s.objects i (some (.construct netConnection))
      wrapped := netConnection :: s.wrapped }
  else
    s

/-- The objects after a move from `j` to `i`. -/
def move (i j : Nat) (client other : ClientConnection) (s : Pool) : Pool :=
  { s with objects := Function.update (Function.update s.objects i (some client)) j (some other) }

def moveConstruct (i j : Nat) (leftAlias : String) (s : Pool) : Pool :=
  match s.objects i, s.objects j with
  | none, some other => s.move i j other.moveConstruct (other.movedFrom leftAlias)
  | _, _ => s

/-- A move assignment of an object to itself does nothing. -/
def moveAssign (i j : Nat) (leftAlias : String) (s : Pool) : Pool :=
  match s.objects i, s.objects j with
  | some client, some other =>
      if i = j then s else s.move i j (client.moveAssign other) (other.movedFrom leftAlias)
  | _, _ => s

def close (i : Nat) (s : Pool) : Pool :=
  match s.objects i with
  | none => s
  | some client =>
      { s with
        objects := Function.update s.objects i (some (client.close s.trace).1)
        trace := (client.close s.trace).2 }

/-- The destructor, with its assertion. -/
def destroy (i : Nat) : EStateM Fault Pool Unit := do
  let s ← get
  match s.objects i with
  | none => return ()
  | some client =>
      if client.destructible then
        set { s with objects := Function.update s.objects i none }
      else
        throw (.assertionFailed .closedWhenDestroyed)

/-- A step that cannot be made, because an object is not alive or is alive already or the handle
is not new, does nothing. -/
def step : PoolStep → EStateM Fault Pool Unit
  | .construct i netConnection => modify (construct i netConnection)
  | .moveConstruct i j leftAlias => modify (moveConstruct i j leftAlias)
  | .moveAssign i j leftAlias => modify (moveAssign i j leftAlias)
  | .close i => modify (close i)
  | .destroy i => destroy i

/-- A run of the steps in their order, up to the first assertion that fails. -/
def runSteps (steps : List PoolStep) : EStateM Fault Pool Unit :=
  forM steps step

/-- The object `i` is alive and holds the handle. -/
def Holds (s : Pool) (i : Nat) (netConnection : HSteamNetConnection) : Prop :=
  ∃ client, s.objects i = some client ∧ client.netConnection = netConnection

/-- The handle has been wrapped and not been passed to `CloseConnection`. -/
def Open (s : Pool) (netConnection : HSteamNetConnection) : Prop :=
  netConnection ∈ s.wrapped ∧ .closeConnection netConnection ∉ s.trace

/-- Every open handle is held by exactly one object. -/
def Owned (s : Pool) : Prop :=
  ∀ netConnection, s.Open netConnection → ∃! i, s.Holds i netConnection

/-- If the step is a move assignment to another object, the handle of that object is not open. -/
def KeepsHandles (s : Pool) : PoolStep → Prop
  | .moveAssign i j _ => i ≠ j → (s.objects j).isSome →
      ∀ netConnection, s.Open netConnection → ¬ s.Holds i netConnection
  | _ => True

/-! ### What holds in every pool -/

/-- The handles of the objects have been wrapped, each is held by one object, and it has been
closed if the object can be destroyed. -/
structure Tidy (s : Pool) : Prop where
  valid : 0 ∉ s.wrapped
  wrapped : ∀ i client, s.objects i = some client → client.netConnection ≠ 0 →
    client.netConnection ∈ s.wrapped
  closed : ∀ i client, s.objects i = some client → client.netConnection ≠ 0 →
    client.destructible → .closeConnection client.netConnection ∈ s.trace
  alone : ∀ i j netConnection, netConnection ≠ 0 → s.Holds i netConnection →
    s.Holds j netConnection → i = j

/-- No open connection has the invalid handle. -/
theorem Tidy.ne_zero {s : Pool} (hs : Tidy s) {netConnection : HSteamNetConnection}
    (h : s.Open netConnection) :
  netConnection ≠ 0
  := by
  rintro rfl
  apply hs.valid h.1

/-- In a tidy pool, an open handle is owned if it is held at all. -/
theorem Tidy.owned_iff {s : Pool} (hs : Tidy s) :
  s.Owned ↔ ∀ netConnection, s.Open netConnection → ∃ i, s.Holds i netConnection
  := by
  constructor
  · intro h netConnection hopen
    apply (h netConnection hopen).exists
  · intro h netConnection hopen
    obtain ⟨i, hi⟩ := h netConnection hopen
    use i, hi
    intro j hj
    apply hs.alone j i netConnection (hs.ne_zero hopen) hj hi

/-! ### What the steps do to the holders -/

/-- Replacing one object changes the holders of its old and its new handle. -/
theorem holds_update {s s' : Pool} {i : Nat} {o : Option ClientConnection}
    (h : s'.objects = Function.update s.objects i o) (x : Nat)
    (netConnection : HSteamNetConnection) :
  s'.Holds x netConnection ↔
    (x = i ∧ ∃ client, o = some client ∧ client.netConnection = netConnection) ∨
      (x ≠ i ∧ s.Holds x netConnection)
  := by
  rw [Holds, h]
  by_cases hx : x = i
  · subst hx
    simp
  · simp [hx, Holds]

/-- An object holds the handle it has and no other. -/
theorem holds_iff {s : Pool} {i : Nat} {client : ClientConnection} (h : s.objects i = some client)
    (netConnection : HSteamNetConnection) :
  s.Holds i netConnection ↔ client.netConnection = netConnection
  := by
  simp [Holds, h]

theorem not_holds {s : Pool} {i : Nat} (h : s.objects i = none)
    (netConnection : HSteamNetConnection) :
  ¬ s.Holds i netConnection
  := by
  simp [Holds, h]

/-- A pool stays tidy when an object is replaced by one whose handle no other object holds. -/
theorem Tidy.of_update {s s' : Pool} {i : Nat} {o : Option ClientConnection} (hs : Tidy s)
    (h : s'.objects = Function.update s.objects i o) (hvalid : 0 ∉ s'.wrapped)
    (hwrapped : s.wrapped ⊆ s'.wrapped) (htrace : s.trace ⊆ s'.trace)
    (ho : ∀ client, o = some client → client.netConnection ≠ 0 →
      client.netConnection ∈ s'.wrapped ∧
        (client.destructible → .closeConnection client.netConnection ∈ s'.trace) ∧
        ∀ x ≠ i, ¬ s.Holds x client.netConnection) :
  Tidy s'
  := by
  have hobject : ∀ x client, s'.objects x = some client →
      (x = i ∧ o = some client) ∨ s.objects x = some client := by
    intro x client hx
    rw [h] at hx
    by_cases hxi : x = i
    · subst hxi
      rw [Function.update_self] at hx
      left
      exact ⟨rfl, hx⟩
    · rw [Function.update_of_ne hxi] at hx
      right
      exact hx
  constructor
  · exact hvalid
  · intro x client hx hne
    rcases hobject x client hx with ⟨-, hx⟩ | hx
    · apply (ho client hx hne).1
    · apply hwrapped (hs.wrapped x client hx hne)
  · intro x client hx hne hdestructible
    rcases hobject x client hx with ⟨-, hx⟩ | hx
    · apply (ho client hx hne).2.1 hdestructible
    · apply htrace (hs.closed x client hx hne hdestructible)
  · intro x y netConnection hne hx hy
    rw [holds_update h] at hx hy
    rcases hx with ⟨rfl, client, hx, rfl⟩ | ⟨hxi, hx⟩
    · rcases hy with ⟨rfl, -⟩ | ⟨hyi, hy⟩
      · rfl
      · exact absurd hy ((ho client hx hne).2.2 y hyi)
    · rcases hy with ⟨rfl, client, hy, rfl⟩ | ⟨-, hy⟩
      · exact absurd hx ((ho client hy hne).2.2 x hxi)
      · apply hs.alone x y netConnection hne hx hy

/-! ### Constructing, closing and destroying -/

/-- A construction keeps the pool tidy and its open connections owned. -/
theorem construct_keeps {s : Pool} (i : Nat) (netConnection : HSteamNetConnection)
    (hs : Tidy s) :
  Tidy (s.construct i netConnection) ∧ (s.Owned → (s.construct i netConnection).Owned)
  := by
  rw [construct]
  split
  case isFalse => exact ⟨hs, fun howned => howned⟩
  case isTrue h =>
      obtain ⟨hi, hne, hnew⟩ := h
      have htidy : Tidy { s with
          objects := Function.update s.objects i (some (.construct netConnection))
          wrapped := netConnection :: s.wrapped } := by
        apply hs.of_update rfl
        · simp [hs.valid, Ne.symm hne]
        · apply List.subset_cons_self
        · apply List.Subset.refl
        · rintro client ⟨⟩ -
          refine ⟨List.mem_cons_self, ?_, ?_⟩
          · simp [ClientConnection.destructible, ClientConnection.valid,
              ClientConnection.construct, hne]
          · rintro x - ⟨client, hx, rfl⟩
            apply hnew (hs.wrapped x client hx hne)
      use htidy
      intro howned
      rw [htidy.owned_iff]
      rintro k ⟨hk, hopen⟩
      rcases List.mem_cons.mp hk with rfl | hk
      · use i
        rw [holds_update rfl]
        left
        exact ⟨rfl, _, rfl, rfl⟩
      · obtain ⟨x, hx⟩ := hs.owned_iff.mp howned k ⟨hk, hopen⟩
        use x
        rw [holds_update rfl]
        right
        refine ⟨?_, hx⟩
        rintro rfl
        apply not_holds hi k hx

/-- A closing keeps the pool tidy and its open connections owned. -/
theorem close_keeps {s : Pool} (i : Nat) (hs : Tidy s) :
  Tidy (s.close i) ∧ (s.Owned → (s.close i).Owned)
  := by
  rw [close]
  cases hi : s.objects i with
  | none => exact ⟨hs, fun howned => howned⟩
  | some client =>
      have htidy : Tidy { s with
            objects := Function.update s.objects i (some (client.close s.trace).1)
            trace := (client.close s.trace).2 } := by
        apply hs.of_update rfl
        · apply hs.valid
        · apply List.Subset.refl
        · apply List.subset_cons_self
        · rintro client' ⟨⟩ hne
          refine ⟨hs.wrapped i client hi hne, fun _ => List.mem_cons_self, ?_⟩
          intro x hxi hx
          apply hxi (hs.alone x i _ hne hx ⟨client, hi, rfl⟩)
      use htidy
      intro howned
      rw [htidy.owned_iff]
      rintro k ⟨hk, hopen⟩
      obtain ⟨x, hx⟩ := hs.owned_iff.mp howned k
        ⟨hk, fun hmem => hopen (List.mem_cons_of_mem _ hmem)⟩
      use x
      rw [holds_update rfl]
      by_cases hxi : x = i
      · subst hxi
        left
        exact ⟨rfl, _, rfl, (holds_iff hi k).mp hx⟩
      · right
        exact ⟨hxi, hx⟩

/-- An object that can be destroyed holds no open handle. -/
theorem destroy_keeps {s : Pool} (i : Nat) (hs : Tidy s) :
  Tidy (exit (destroy i) s) ∧ (s.Owned → (exit (destroy i) s).Owned)
  := by
  rw [destroy, exit_bind_ok _ (EStateM.run_get s)]
  split
  case h_1 => exact ⟨hs, fun howned => howned⟩
  case h_2 client hi =>
      split
      case isFalse => exact ⟨hs, fun howned => howned⟩
      case isTrue hdestructible =>
          have htidy : Tidy { s with objects := Function.update s.objects i none } := by
            apply hs.of_update rfl
            · apply hs.valid
            · apply List.Subset.refl
            · apply List.Subset.refl
            · rintro client' ⟨⟩
          use htidy
          intro howned
          apply htidy.owned_iff.mpr
          intro k hopen
          obtain ⟨x, hx⟩ := hs.owned_iff.mp howned k hopen
          use x
          rw [holds_update rfl]
          right
          refine ⟨?_, hx⟩
          rintro rfl
          rw [holds_iff hi] at hx
          subst hx
          apply hopen.2
          apply hs.closed x client hi (hs.ne_zero hopen) hdestructible

/-! ### Moving -/

section Move

variable {s : Pool} {i j : Nat} {other client' other' : ClientConnection} (hij : i ≠ j)
  (hj : s.objects j = some other) (hclient : client'.netConnection = other.netConnection)
  (hother : other'.netConnection = 0)

include hij hj hclient hother

/-- After a move, the target holds what the moved object held, and that object holds nothing. -/
theorem holds_move (x : Nat) {netConnection : HSteamNetConnection} (hvalid : netConnection ≠ 0) :
  (s.move i j client' other').Holds x netConnection ↔
    (x = i ∧ s.Holds j netConnection) ∨ (x ≠ i ∧ x ≠ j ∧ s.Holds x netConnection)
  := by
  rw [Holds, move, holds_iff hj]
  by_cases hxj : x = j
  · subst hxj
    have hne : ¬ (0 : HSteamNetConnection) = netConnection := fun h => hvalid h.symm
    simp [Ne.symm hij, hother, hne]
  · by_cases hxi : x = i
    · subst hxi
      simp [hij, hclient]
    · simp [hxi, hxj, Holds]

/-- A move that carries the state over keeps the pool tidy. -/
theorem move_tidy (hs : Tidy s) (hstate : client'.connectionState = other.connectionState) :
  Tidy (s.move i j client' other')
  := by
  -- The moved object gives up its handle before the target takes it.
  have hgiven : Tidy { s with objects := Function.update s.objects j (some other') } := by
    apply hs.of_update rfl
    · apply hs.valid
    · apply List.Subset.refl
    · apply List.Subset.refl
    · rintro client ⟨⟩ hne
      exact absurd hother hne
  have hobjects : (s.move i j client' other').objects
      = Function.update (Function.update s.objects j (some other')) i (some client') := by
    rw [move, Function.update_comm hij]
  apply hgiven.of_update hobjects
  · apply hs.valid
  · apply List.Subset.refl
  · apply List.Subset.refl
  · rintro client ⟨⟩ hne
    rw [hclient] at hne ⊢
    refine ⟨hs.wrapped j other hj hne, ?_, ?_⟩
    · intro hdestructible
      apply hs.closed j other hj hne
      simpa [ClientConnection.destructible, ClientConnection.valid, hclient, hstate] using
        hdestructible
    · intro x hxi hx
      rw [holds_update rfl] at hx
      rcases hx with ⟨rfl, _, ⟨⟩, hx⟩ | ⟨hxj, hx⟩
      · rw [hother] at hx
        apply hne hx.symm
      · apply hxj (hs.alone x j _ hne hx ⟨other, hj, rfl⟩)

/-- A move loses exactly the open handle of its target. -/
theorem move_owned_iff (hs : Tidy s) (howned : s.Owned)
    (hstate : client'.connectionState = other.connectionState) :
  (s.move i j client' other').Owned ↔
    ∀ netConnection, s.Open netConnection → ¬ s.Holds i netConnection
  := by
  rw [(move_tidy hij hj hclient hother hs hstate).owned_iff]
  constructor
  · intro h netConnection hopen hi
    have hvalid := hs.ne_zero hopen
    obtain ⟨x, hx⟩ := h netConnection hopen
    rw [holds_move hij hj hclient hother x hvalid] at hx
    rcases hx with ⟨-, hx⟩ | ⟨hxi, -, hx⟩
    · exact hij (hs.alone i j netConnection hvalid hi hx)
    · exact hxi (hs.alone x i netConnection hvalid hx hi)
  · intro h netConnection hopen
    have hvalid := hs.ne_zero hopen
    obtain ⟨x, hx⟩ := hs.owned_iff.mp howned netConnection hopen
    by_cases hxj : x = j
    · subst hxj
      use i
      rw [holds_move hij hj hclient hother i hvalid]
      left
      exact ⟨rfl, hx⟩
    · use x
      rw [holds_move hij hj hclient hother x hvalid]
      right
      have hxi : x ≠ i := by
        rintro rfl
        apply h netConnection hopen hx
      exact ⟨hxi, hxj, hx⟩

end Move

/-! ### Runs -/

/-- Every step keeps a pool tidy, and exactly the steps that keep the open handles keep every open
handle owned. -/
theorem step_keeps {s : Pool} (i : PoolStep) (hs : Tidy s) :
  Tidy (exit (step i) s) ∧ (s.Owned → ((exit (step i) s).Owned ↔ s.KeepsHandles i))
  := by
  cases i with
  | construct i netConnection =>
      obtain ⟨htidy, hkeeps⟩ := construct_keeps i netConnection hs
      exact ⟨htidy, fun howned => iff_of_true (hkeeps howned) trivial⟩
  | close i =>
      obtain ⟨htidy, hkeeps⟩ := close_keeps i hs
      exact ⟨htidy, fun howned => iff_of_true (hkeeps howned) trivial⟩
  | destroy i =>
      obtain ⟨htidy, hkeeps⟩ := destroy_keeps i hs
      exact ⟨htidy, fun howned => iff_of_true (hkeeps howned) trivial⟩
  | moveConstruct i j leftAlias =>
      rw [step, exit_modify, moveConstruct]
      split
      case h_1 other hi hj =>
          have hij : i ≠ j := by
            rintro rfl
            rw [hi] at hj
            cases hj
          have hleft := other.movedFrom_netConnection leftAlias
          use move_tidy hij hj other.moveConstruct_netConnection hleft hs rfl
          intro howned
          rw [move_owned_iff hij hj other.moveConstruct_netConnection hleft hs howned rfl]
          exact iff_of_true (fun k _ => not_holds hi k) trivial
      case h_2 => exact ⟨hs, fun howned => iff_of_true howned trivial⟩
  | moveAssign i j leftAlias =>
      rw [step, exit_modify, moveAssign]
      split
      case h_1 client other hi hj =>
          split
          case isTrue hij =>
              exact ⟨hs, fun howned => iff_of_true howned fun hne => absurd hij hne⟩
          case isFalse hij =>
              have hleft := other.movedFrom_netConnection leftAlias
              have hclient := client.moveAssign_netConnection other
              use move_tidy hij hj hclient hleft hs rfl
              intro howned
              rw [move_owned_iff hij hj hclient hleft hs howned rfl]
              simp [KeepsHandles, hij, hj]
      case h_2 hnot =>
          use hs
          intro howned
          apply iff_of_true howned
          intro _ hj k _ hi
          obtain ⟨client, hi, -⟩ := hi
          obtain ⟨other, hj⟩ := Option.isSome_iff_exists.mp hj
          apply hnot client other hi hj

theorem newPool_tidy :
  Tidy newPool
  := by
  constructor <;> simp [newPool, Holds]

theorem newPool_owned :
  newPool.Owned
  := by
  intro k hopen
  exact absurd hopen.1 List.not_mem_nil

/-- In every run, every handle is held by at most one object at every point. -/
theorem runSteps_tidy (steps : List PoolStep) :
  Tidy (exit (runSteps steps) newPool)
  := by
  have hkeeps : Keeps Tidy (runSteps steps) := by
    apply Moves.forM
    intro i _ s hs
    apply (step_keeps i hs).1
  apply hkeeps _ newPool_tidy

/-- In a run from the empty pool, every open handle has exactly one owner at every point if and
only if no move assignment overwrites the handle of a connection that is open. -/
theorem runSteps_owned_iff (steps : List PoolStep) :
  (∀ before, before <+: steps → (exit (runSteps before) newPool).Owned) ↔
    Along step KeepsHandles newPool steps
  := by
  have hstep : ∀ s i, Tidy s ∧ s.Owned →
      (Tidy (exit (step i) s) ∧ (exit (step i) s).Owned ↔ s.KeepsHandles i) := by
    rintro s i ⟨hs, howned⟩
    obtain ⟨htidy, hiff⟩ := step_keeps i hs
    rw [and_iff_right htidy, hiff howned]
  rw [← Along.iff_keeps hstep steps newPool ⟨newPool_tidy, newPool_owned⟩]
  apply forall₂_congr
  intro before _
  rw [← runSteps, and_iff_right (runSteps_tidy before)]

/-- A pool of two connections, of which one is assigned to the other. -/
def assignedOver : List PoolStep :=
  [.construct 0 1, .construct 1 2, .moveAssign 0 1 ""]

/-- The handle of the connection that is assigned to is lost. -/
theorem assignedOver_loses :
  ¬ ∀ steps before, before <+: steps → (exit (runSteps before) newPool).Owned
  := by
  intro h
  have howned := h assignedOver assignedOver (List.prefix_refl _)
  have hopen : (exit (runSteps assignedOver) newPool).Open 1 := by
    constructor <;> decide
  obtain ⟨i, ⟨client, hi, hclient⟩, -⟩ := howned 1 hopen
  match i, hi with
  | 0, hi =>
      cases hi
      revert hclient
      decide
  | 1, hi =>
      cases hi
      revert hclient
      decide
  | i + 2, hi => cases hi

end Pool

end Chs
