import ChaosInMultiplayer.Common.Networking

/-!
# A networking library with one queue

`queueNetworking` computes its answers from what has happened: it hands out handles in
sequence, refuses connections that have been closed, and hands out the pending messages in
the order of their arrival.  It satisfies every condition the endpoints rely on, so these
conditions are consistent, and the runs of the endpoints can be evaluated with it.
-/

namespace Chs

/-- The number of listening sockets and poll groups created so far, valid or not. -/
def createdHandles : Trace → Nat
  | [] => 0
  | .createListenSocketIP _ :: t => createdHandles t + 1
  | .createPollGroup _ :: t => createdHandles t + 1
  | _ :: t => createdHandles t

/-- The connection an event is about, as a number. -/
def usedHandle : Event → Nat
  | .connectByIPAddress c => c.toNat
  | .queued info => info.hConn.toNat
  | _ => 0

/-- The greatest handle of a connection so far. -/
def lastHandle (t : Trace) : Nat :=
  (t.map usedHandle).foldr max 0

/-- The next handle, or the invalid one if there is none. -/
def newHandle (t : Trace) : HSteamNetConnection :=
  if lastHandle t + 1 < UInt32.size then .ofNat (lastHandle t + 1) else 0

/-- The peer or the network has ended the connection. -/
def endedByPeer (connection : HSteamNetConnection) (t : Trace) : Bool :=
  t.any fun
    | .queued info => info.hConn = connection && info.eState.closing
    | _ => false

/-- The state of a connection: that of its latest status event, unless it has been closed. -/
def stateOf (connection : HSteamNetConnection) : Trace → ESteamNetworkingConnectionState
  | [] => .none
  | .queued info :: t => if info.hConn = connection then info.eState else stateOf connection t
  | .closeConnection c :: t => if c = connection then .none else stateOf connection t
  | _ :: t => stateOf connection t

/-- The networking library that answers from what has happened. -/
def queueNetworking : ISteamNetworkingSockets where
  parseString _ _ := true
  createListenSocketIP t _ := .ofNat (createdHandles t + 1)
  createPollGroup t := .ofNat (createdHandles t + 1)
  acceptConnection t c := .closeConnection c ∉ t && !endedByPeer c t
  setConnectionPollGroup t c g := .closeConnection c ∉ t && g ∈ heldPollGroups t
  receiveMessagesOnPollGroup t g :=
    if g ∈ heldPollGroups t then handOut (pendingOn g t) else (-1, none)
  connectByIPAddress t _ := newHandle t
  receiveMessagesOnConnection t c :=
    if Opened c t then handOut ((pending t).filter fun m => m.conn = c) else (-1, none)
  getConnectionInfo t c := stateOf c t
  runCallbacks := queuedEvents

/-- A closed connection is neither accepted nor put into a poll group. -/
theorem queueNetworking_refusesClosed :
  queueNetworking.RefusesClosed
  := by
  intro t c h
  constructor
  · simp [queueNetworking, h]
  · intro g
    simp [queueNetworking, h]

/-- A poll group hands out the oldest pending message of its members. -/
theorem queueNetworking_receivesInOrder :
  queueNetworking.ReceivesInOrder
  := by
  intro t g hg
  simp only [queueNetworking, if_pos hg]

/-- No poll group that is held has the invalid handle. -/
theorem zero_notMem_heldPollGroups (t : Trace) :
  0 ∉ heldPollGroups t
  := by
  induction t with
  | nil => simp [heldPollGroups]
  | cons e t ih =>
      cases e with
      | createPollGroup g =>
          rw [heldPollGroups]
          split
          · apply ih
          · rename_i hg
            simp [ih, Ne.symm hg]
      | destroyPollGroup g =>
          intro h
          apply ih (List.mem_of_mem_erase h)
      | _ => apply ih

/-- Nothing is received from the invalid poll group. -/
theorem queueNetworking_rejectsInvalidPollGroup :
  queueNetworking.RejectsInvalidPollGroup
  := by
  intro t
  use -1
  simp [queueNetworking, zero_notMem_heldPollGroups]

/-- All status events in the queue are dispatched, and nothing else. -/
theorem queueNetworking_dispatchesQueued :
  queueNetworking.DispatchesQueued
  := fun _ => rfl

/-- A connection is received from exactly while it is opened. -/
theorem queueNetworking_receivesWhileOpened :
  queueNetworking.ReceivesWhileOpened
  := by
  intro t c
  constructor
  · intro h
    simp only [queueNetworking, if_pos h]
    cases (pending t).filter fun m => m.conn = c with
    | nil =>
        left
        rfl
    | cons m ms =>
        right
        use m
        rfl
  · intro h
    use -1
    simp [queueNetworking, if_neg h]

/-- A connection hands out its oldest pending message. -/
theorem queueNetworking_receivesOldest :
  queueNetworking.ReceivesOldest
  := by
  intro t c h
  simp only [queueNetworking, if_pos h]

theorem handOut_atMostOne (ms : List Message) :
  ISteamNetworkingSockets.AtMostOne (handOut ms)
  := by
  cases ms with
  | nil =>
      left
      rfl
  | cons m ms =>
      right
      left
      use m
      rfl

/-- Both ways to receive hand out at most one message. -/
theorem queueNetworking_receivesOne :
  queueNetworking.ReceivesOne
  := by
  constructor
  · intro t g
    simp only [queueNetworking]
    split
    · apply handOut_atMostOne
    · right
      right
      use -1
      simp
  · intro t c
    simp only [queueNetworking]
    split
    · apply handOut_atMostOne
    · right
      right
      use -1
      simp

theorem le_foldr_max {n : Nat} {ns : List Nat} (h : n ∈ ns) :
  n ≤ ns.foldr max 0
  := by
  induction ns with
  | nil => cases h
  | cons m ns ih =>
      rw [List.foldr_cons]
      rcases List.mem_cons.mp h with rfl | h
      · apply Nat.le_max_left
      · apply Nat.le_trans (ih h) (Nat.le_max_right _ _)

/-- A new connection has a handle that has not been used before. -/
theorem queueNetworking_connectsAnew :
  queueNetworking.ConnectsAnew
  := by
  intro t address hvalid info hinfo heq
  have hqueued : .queued info ∈ t := by
    obtain ⟨e, he, hei⟩ := List.mem_filterMap.mp hinfo
    cases e <;> cases hei
    apply he
  have hle : info.hConn.toNat ≤ lastHandle t :=
    le_foldr_max (List.mem_map_of_mem (f := usedHandle) hqueued)
  simp only [queueNetworking, newHandle] at hvalid heq
  split at heq
  · rename_i hlt
    rw [heq, UInt32.toNat_ofNat_of_lt' hlt] at hle
    omega
  · rename_i hlt
    rw [if_neg hlt] at hvalid
    apply hvalid rfl

end Chs
