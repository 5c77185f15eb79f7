import ChaosInMultiplayer.Client.NullPacket
import ChaosInMultiplayer.Endpoints.Consumption

/-!
# The index of the receive loops

The receive loops count packets with an `int`.  The limit of a client is an `int` as well, so its
index never overflows.  That of a server is an `unsigned int`, and its index can only overflow if
2147483648 messages are handed out in one update, so in no run in which fewer messages arrive.
-/

namespace Chs

open Program

/-- The fault is not the overflow of an index. -/
def NoOverflow (fault : Fault) : Prop :=
  fault ≠ .signedOverflow

/-! ### Counting messages -/

/-- The number of messages that have arrived. -/
def arrivedCount : Trace → Nat
  | [] => 0
  | .arrived _ :: t => arrivedCount t + 1
  | _ :: t => arrivedCount t

/-- The number of messages that have been handed out. -/
def handedOutCount : Trace → Nat
  | [] => 0
  | .receiveMessagesOnPollGroup _ _ (some _) :: t => handedOutCount t + 1
  | .receiveMessagesOnConnection _ _ (some _) :: t => handedOutCount t + 1
  | _ :: t => handedOutCount t

theorem Oldest.mem {m : Message} {t : Trace} (h : Oldest m t) :
  m ∈ pending t
  := by
  obtain ⟨-, ms, hms⟩ := h
  have hmem : m ∈ pendingFrom m.conn t := by simp [hms]
  apply List.mem_of_mem_filter hmem

/-- The messages handed out and the pending ones have arrived. -/
theorem Orderly.handedOutCount_le {t : Trace} (h : Orderly t) :
  handedOutCount t + (pending t).length ≤ arrivedCount t
  := by
  have hout : ∀ {m : Message} {t : Trace}, Oldest m t →
      ((pending t).erase m).length + 1 = (pending t).length := by
    intro m t hm
    rw [List.length_erase_of_mem hm.mem]
    have hpos := List.length_pos_of_mem hm.mem
    omega
  induction t with
  | nil => apply Nat.le_refl
  | cons e t ih =>
      cases e with
      | arrived m =>
          have hrest := ih h
          rw [handedOutCount, arrivedCount, pending, List.length_append, List.length_singleton]
          · omega
          · simp
          · simp
      | receiveMessagesOnPollGroup g n m =>
          cases m with
          | none => exact ih h
          | some m =>
              have hrest := ih h.2
              have herase := hout h.1
              rw [handedOutCount, arrivedCount, pending]
              · omega
              · simp
      | receiveMessagesOnConnection c n m =>
          cases m with
          | none => exact ih h
          | some m =>
              have hrest := ih h.2
              have herase := hout h.1
              rw [handedOutCount, arrivedCount, pending]
              · omega
              · simp
      | closeConnection c =>
          have hrest := ih h
          have hfilter := List.length_filter_le (fun m => decide (m.conn ≠ c)) (pending t)
          rw [handedOutCount, arrivedCount, pending]
          · omega
          all_goals simp
      | _ => exact ih h

/-- More messages have been handed out, or as many. -/
def HandsOutMore {E : Type} (w w' : World E) : Prop :=
  handedOutCount w.trace ≤ handedOutCount w'.trace

instance (E : Type) : Std.Refl (@HandsOutMore E) where
  refl _ := Nat.le_refl _

instance (E : Type) : IsTrans (World E) HandsOutMore where
  trans _ _ _ h h' := Nat.le_trans h h'

/-- No event takes back what has been handed out. -/
theorem handedOutCount_le_cons (e : Event) (t : Trace) :
  handedOutCount t ≤ handedOutCount (e :: t)
  := by
  cases e with
  | receiveMessagesOnPollGroup g n m => cases m <;> simp [handedOutCount]
  | receiveMessagesOnConnection c n m => cases m <;> simp [handedOutCount]
  | _ => apply Nat.le_refl

theorem emit_handsOutMore {E : Type} (e : Event) :
  Moves HandsOutMore (emit e : EndpointM E Unit)
  := fun w => handedOutCount_le_cons e w.trace

/-- Whatever happens, what has been handed out stays so. -/
theorem GoesOnBy.handsOutMore {E : Type} {P : Event → Prop} {w w' : World E}
    (h : GoesOnBy P w w') :
  HandsOutMore w w'
  := by
  obtain ⟨es, hes, -⟩ := h
  rw [HandsOutMore, hes]
  clear hes
  induction es with
  | nil => apply Nat.le_refl
  | cons e es ih => exact Nat.le_trans ih (handedOutCount_le_cons e _)

/-- The body of a receive loop that goes on has been given a message. -/
theorem receiveBody_handsOut {E : Type} {event : Event} {n : Int} {received : Option Message}
    {process : EndpointM E Unit}
    (hevent : ∀ m t, received = some m → handedOutCount (event :: t) = handedOutCount t + 1)
    (hprocess : Moves HandsOutMore process) {w w' : World E}
    (hrun : (receiveBody event n received process).run w = .ok true w') :
  handedOutCount w.trace + 1 ≤ handedOutCount w'.trace
  := by
  have hemit : (emit event : EndpointM E Unit).run w
      = .ok () { w with trace := event :: w.trace } := rfl
  rw [receiveBody, run_bind_ok _ hemit] at hrun
  by_cases hn : n = 0
  · rw [if_pos hn] at hrun
    cases hrun
  · rw [if_neg hn] at hrun
    obtain ⟨_, w₁, hlog, hrun⟩ := run_bind_eq_ok hrun
    obtain ⟨_, w₂, hprocessed, hrun⟩ := run_bind_eq_ok hrun
    obtain ⟨_, w₃, hreleased, hrun⟩ := run_bind_eq_ok hrun
    cases hrun
    cases received with
    | none => cases hreleased
    | some m =>
        cases hreleased
        have hlogs : Moves HandsOutMore (when (n < 0) (logError "Error checking for messages") :
            EndpointM E Unit) := Moves.when fun _ => emit_handsOutMore _
        have h₁ := hlogs { w with trace := event :: w.trace }
        have h₂ := hprocess w₁
        rw [exit_ok hlog] at h₁
        rw [exit_ok hprocessed] at h₂
        calc handedOutCount w.trace + 1
          _ = handedOutCount (event :: w.trace) := (hevent m w.trace rfl).symm
          _ ≤ handedOutCount w₁.trace := h₁
          _ ≤ handedOutCount w₂.trace := h₂

/-- The body of a receive loop raises what the processing of the message raises, or has been given
none. -/
theorem receiveBody_raises {E : Type} {X : Fault → Prop} (hnull : X .nullDereference)
    (event : Event) (n : Int) (received : Option Message) (process : EndpointM E Unit)
    (hprocess : Raises (fun _ => True) X process) :
  Raises (fun _ => True) X (receiveBody event n received process)
  := by
  apply Raises.bind_true
  · apply Raises.modify
  intro _
  apply Raises.ite
  · intro _
    apply Raises.pure
  intro _
  apply Raises.bind_true
  · apply Raises.when
    intro _
    apply Raises.modify
  intro _
  apply Raises.bind_true hprocess
  intro _
  apply Raises.bind_true
  · cases received with
    | none => exact Raises.throw (α := Unit) hnull
    | some m => apply Raises.modify
  intro _
  apply Raises.pure

/-! ### Runs of a server -/

variable {net : ISteamNetworkingSockets}

namespace Server

theorem CallFault.noOverflow {fault : Fault} (h : CallFault fault) :
  NoOverflow fault
  := by
  rintro rfl
  cases h

/-- At an overflow, the messages of a whole range of the index have been handed out. -/
def OverflowsLate (fault : Fault) (w : World Server) : Prop :=
  fault = .signedOverflow → 2147483648 ≤ handedOutCount w.trace

theorem processPendingPacket_handsOutMore (received : Option Message) :
  Moves HandsOutMore (processPendingPacket net received)
  := by
  have hmoves : Moves (PacketEffects net True True) (processPendingPacket net received) :=
    processPendingPacket_moves_of callPacketCallback_moves received
  exact (PacketEffects.all hmoves).mono fun _ _ h => (Effects.goesOnBy h).handsOutMore

/-- Each iteration of the receive loop that goes on has been handed out a message. -/
theorem receivePacket_handsOut {w w' : World Server}
    (hrun : (receivePacket net).run w = .ok true w') :
  handedOutCount w.trace + 1 ≤ handedOutCount w'.trace
  := by
  generalize hanswer : net.receiveMessagesOnPollGroup w.trace w.self.pollGroup = answer
  obtain ⟨n, received⟩ := answer
  have hbody : (receivePacket net).run w = (receiveBody
      (.receiveMessagesOnPollGroup w.self.pollGroup n received) n received
      (processPendingPacket net received)).run w := by
    rw [receivePacket, run_bind_ok _ (EStateM.run_get w), hanswer]
    rfl
  rw [hbody] at hrun
  apply receiveBody_handsOut _ (processPendingPacket_handsOutMore received) hrun
  rintro m t rfl
  rfl

/-- The body of the receive loop does not overflow. -/
theorem receivePacket_not_overflow (w w' : World Server) :
  (receivePacket net).run w ≠ .error .signedOverflow w'
  := by
  have hraises : Raises (fun _ => True) NoOverflow (receivePacket net) := by
    apply receivePacket_raises_of (E := NoOverflow) (by simp [NoOverflow]) (by simp [NoOverflow])
    · intro e _
      apply keeps_true
    · intro k packet
      apply keeps_true
    · exact callPacketCallback_raises (fun _ h => h.noOverflow) (by simp [NoOverflow])
  intro hrun
  exact hraises w _ w' trivial hrun rfl

/-- The receive loop overflows only after as many messages as its index has values. -/
theorem processPendingPackets_overflow :
  Ensures (fun _ => True) (processPendingPackets net) (fun _ _ => True) OverflowsLate
  := by
  apply Ensures.get_bind
  intro w _
  apply Ensures.ite
  · intro _
    exact Ensures.pure fun _ _ => trivial
  · intro _ w _
    cases hrun : (receiveLoop net 2147483648 0).run w with
    | ok a w' => trivial
    | error fault w' =>
        rintro rfl
        have hle := countedLoop_overflow_le (f := fun w => handedOutCount w.trace) receiveLoop_below
          (receivePacket_keeps_limit net) (fun _ _ => receivePacket_handsOut)
          receivePacket_not_overflow hrun
        omega

/-- A step overflows only after as many messages as the index has values. -/
theorem step_overflow (s : ServerStep) :
  Ensures (fun _ => True) (step net s) (fun _ _ => True) OverflowsLate
  := by
  have hraised : ∀ {α : Type} {p : ServerM α}, Raises (fun _ => True) NoOverflow p →
      Ensures (fun _ => True) p (fun _ _ => True) OverflowsLate := by
    intro α p h
    apply (Ensures.of_raised h).mono (fun _ h => h) fun _ _ h => h
    exact fun fault w hne heq => absurd heq hne
  cases s with
  | updateConnection =>
      intro w _
      by_cases hstopped : Stopped w
      · rw [step, run_updateConnection_stopped hstopped]
        trivial
      · rw [step, run_updateConnection_active hstopped]
        apply processPendingPackets_overflow.bind _ w trivial
        intro _
        apply hraised
        apply dispatch_raises
        intro fault h
        cases h with
        | ofCall h => apply h.noOverflow
        | _ => simp [NoOverflow]
  | openConnection => exact hraised openConnection_raises
  | call c => exact hraised ((call_raises c).mono (fun _ h => h) fun _ h => h.noOverflow)
  | _ => exact fun _ _ => trivial

/-- In a run of a server in which fewer than 2147483648 messages arrive, the index of its receive
loop does not overflow, whatever its limits are set to between the updates and whichever calls of
`ServerCall` its callbacks make. -/
theorem run_never_overflows (hnet : net.RefusesClosed) (horder : net.ReceivesInOrder)
    (hinvalid : net.RejectsInvalidPollGroup) (steps : List ServerStep) (ip : String)
    (port : UInt32) (socket : HSteamListenSocket) (group : HSteamNetPollGroup)
    (hfew : arrivedCount (exit (runSteps net steps) (newServer ip port socket group)).trace
      < 2147483648) :
  ¬ ∃ w, (runSteps net steps).run (newServer ip port socket group) = .error .signedOverflow w
  := by
  rintro ⟨w, hrun⟩
  have hkeeps : Keeps Serves (runSteps net steps) :=
    Moves.forM fun s _ => step_serves hnet horder hinvalid s
  have horderly := (hkeeps _ (newServer_serves ip port socket group)).orderly
  rw [exit_error hrun] at horderly hfew
  have hmany : Ensures (fun _ => True) (runSteps net steps) (fun _ _ => True) OverflowsLate :=
    Ensures.forM (I := fun _ _ => True) (fun s _ => step_overflow s) steps
  have hlate := hmany (newServer ip port socket group) trivial
  rw [hrun] at hlate
  have hle := horderly.handedOutCount_le
  have := hlate rfl
  omega

/-- Three messages with the default limit. -/
theorem sendersClosed_never_overflows :
  ¬ ∃ w, (runSteps queueNetworking sendersClosed).run (newServer "127.0.0.1" 8080 0 0)
    = .error .signedOverflow w
  := by
  apply run_never_overflows queueNetworking_refusesClosed queueNetworking_receivesInOrder
    queueNetworking_rejectsInvalidPollGroup
  decide +kernel

end Server

/-! ### Runs of a client -/

namespace Client

theorem CallFault.noOverflow {fault : Fault} (h : CallFault fault) :
  NoOverflow fault
  := by
  rintro rfl
  cases h

/-- The body of the receive loop does not overflow. -/
theorem receivePacket_not_overflow :
  Raises (fun _ => True) NoOverflow (receivePacket net)
  := by
  apply Raises.get_bind
  intro w _
  generalize hanswer : net.receiveMessagesOnConnection w.trace w.self.serverConnection = answer
  obtain ⟨n, received⟩ := answer
  apply receiveBody_raises (X := NoOverflow) (by simp [NoOverflow])
    (.receiveMessagesOnConnection w.self.serverConnection n received) n received
    (processPendingPacket net received)
  cases received with
  | none =>
      apply Raises.get_bind
      intro w' _
      cases w'.self.packetCallback with
      | none => apply Raises.pure
      | some callback => exact Raises.throw (α := Unit) (by simp [NoOverflow])
  | some m =>
      exact (processPendingPacket_raises m).mono (fun _ h => h) fun _ h => h.noOverflow

/-- The limit of a client is a value of the type of its index, which so does not reach its end. -/
theorem updateConnection_not_overflow :
  Raises (fun _ => True) NoOverflow (updateConnection net)
  := by
  apply Raises.bind_true
  · apply Ensures.raises
    apply countedLoop_ensures_within below_loopLimit_iff
      (Ensures.of_raised receivePacket_not_overflow)
    intro w _
    have hlt := loopLimit_lt w
    omega
  · intro _
    have hstatus : ∀ fault, StatusFault fault → NoOverflow fault := by
      intro fault h
      cases h with
      | ofCall h => apply h.noOverflow
      | _ => simp [NoOverflow]
    exact processConnectionStateChanges_raises.mono (fun _ h => h) hstatus

/-- In no run of a client the index of its receive loop overflows. -/
theorem runSteps_noOverflow (steps : List ClientStep) (w w' : World Client) :
  (runSteps net steps).run w ≠ .error .signedOverflow w'
  := by
  have hstep : ∀ s, Raises (fun _ => True) NoOverflow (step net s) := by
    intro s
    cases s with
    | updateConnection => exact updateConnection_not_overflow
    | call c => exact (call_raises c).mono (fun _ h => h) fun _ h => h.noOverflow
    | _ => apply Raises.modify
  have hraises : Raises (fun _ => True) NoOverflow (runSteps net steps) :=
    Raises.forM (fun _ _ => keeps_true _) fun s _ => hstep s
  intro hrun
  exact hraises w _ w' trivial hrun rfl

end Client

end Chs
