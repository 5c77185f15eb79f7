import ChaosInMultiplayer.Endpoints.StatusEvents
import ChaosInMultiplayer.Server.Restart

/-!
# What an update processes

An update that processes anything receives messages from the poll group and passes their packets
to the packet callback, until its limit is reached or there is no message; then it dispatches the
status events to the status callback, and then it reads the lines of the input queue up to the first
`/quit`.  An opened server does so in every update until it is closed or reads `/quit`, provided
it has never been closed and never read `/quit` before: a server that is opened again listens but
ignores its updates.
-/

namespace Chs

/-- What the networking library has answered to the calls that receive messages from a poll group,
in their order. -/
def receiveAnswers : Trace → List (Int × Option Message)
  | [] => []
  | .receiveMessagesOnPollGroup _ n m :: t => receiveAnswers t ++ [(n, m)]
  | _ :: t => receiveAnswers t

/-- The connections and packets that have been passed to the packet callback, in their order. -/
def handedPackets : Trace → List (HSteamNetConnection × Packet)
  | [] => []
  | .packetCallback connection packet :: t => handedPackets t ++ [(connection, packet)]
  | _ :: t => handedPackets t

/-- The event is one by which an update processes packets or status events. -/
def Event.ofProcessing : Event → Bool
  | .receiveMessagesOnPollGroup _ _ _ => true
  | .packetCallback _ _ => true
  | .statusCallback _ => true
  | _ => false

/-- Events of other kinds pass no packets. -/
theorem handedPackets_append {es : Trace} (hes : ∀ e ∈ es, e.ofProcessing = false) (t : Trace) :
  handedPackets (es ++ t) = handedPackets t
  := by
  apply History.unchanged_append _ hes
  intro e t he
  cases e <;> first | rfl | cases he

/-- Events of other kinds tell the status callback nothing. -/
theorem toldChanges_append_ofProcessing {es : Trace} (hes : ∀ e ∈ es, e.ofProcessing = false)
    (t : Trace) :
  toldChanges (es ++ t) = toldChanges t
  := by
  apply toldChanges_append
  rintro e he change rfl
  cases hes _ he

namespace Server

open Program

variable {net : ISteamNetworkingSockets}

/-! ### What there is to process -/

/-- The messages `handed` have been received and their packets passed to the packet callback, up to
the limit or to an answer without a message. -/
structure PassesPackets (net : ISteamNetworkingSockets) (w w' : World Server) : Prop where
  goesOn : w.trace <:+ w'.trace
  input : w'.self.inputQueue = w.self.inputQueue
  /-- The answers are those of the networking library, for the poll group of the server until it is
  closed. -/
  answered : ∀ group n m t, .receiveMessagesOnPollGroup group n m :: t <:+ w'.trace →
    w.trace <:+ t → net.receiveMessagesOnPollGroup t group = (n, m) ∧
      (timesClosed t = timesClosed w.trace → group = w.self.pollGroup)
  passes : w.self.packetCallback.isSome →
    ∃ (handed : List (Int × Message)) (rest : List (Int × Option Message)),
      receiveAnswers w'.trace
        = receiveAnswers w.trace ++ (handed.map (fun a => (a.1, some a.2)) ++ rest) ∧
      handedPackets w'.trace
        = handedPackets w.trace ++ handed.map (fun a => (a.2.conn, a.2.packet)) ∧
      (handed.length = w.self.maxProcessedPackets.toNat ∧ rest = [] ∨
        handed.length < w.self.maxProcessedPackets.toNat ∧ ∃ m, rest = [(0, m)])

/-- The status events that the networking library has are dispatched to the status callback, in
their order. -/
structure DispatchesEvents (net : ISteamNetworkingSockets) (w w' : World Server) : Prop where
  goesOn : .runCallbacks (net.runCallbacks w.trace) :: w.trace <:+ w'.trace
  input : w'.self.inputQueue = w.self.inputQueue
  told : toldChanges w'.trace
    = toldChanges w.trace ++ (net.runCallbacks w.trace).map (StatusInfo.change statusOf)

/-- What the server answers to a line. -/
def reply (line : String) : Event :=
  if line = "/quit" then .log .info "Shutting down server"
  else .log .error "The server only knows one command: '/quit'"

/-- The lines of the input queue are read and answered, all of them or up to the first `/quit`,
which asks the server to quit. -/
def ReadsInput (w w' : World Server) : Prop :=
  ∃ read, w.self.inputQueue = read ++ w'.self.inputQueue ∧
    w'.trace = (read.map reply).reverse ++ w.trace ∧
    ("/quit" ∉ read ∧ w'.self.inputQueue = [] ∧ w'.self.quitRequested = w.self.quitRequested ∨
      (∃ ignored, read = ignored ++ ["/quit"] ∧ "/quit" ∉ ignored) ∧
        w'.self.quitRequested = true)

/-- Packets, status events and input have been processed, one after another. -/
def Processed (net : ISteamNetworkingSockets) (w w' : World Server) : Prop :=
  ∃ w₁ w₂, PassesPackets net w w₁ ∧ DispatchesEvents net w₁ w₂ ∧ ReadsInput w₂ w'

/-- An update that returns has processed packets, status events and input. -/
def Processes (net : ISteamNetworkingSockets) (w : World Server) : Prop :=
  ∀ w', (updateConnection net).run w = .ok () w' → Processed net w w'

/-! ### Packets -/

/-- The calls of a callback process nothing themselves. -/
theorem script_goesOn (s : ServerScript Unit) :
  Moves (GoesOnBy fun e => e.ofProcessing = false) (s.run (perform net))
  := by
  intro w
  apply GoesOnBy.mono (Effects.goesOnBy (script_moves_all (fun _ => false) s w))
  intro e hmay
  cases e with
  | receiveMessagesOnPollGroup group n m => cases hmay.2
  | packetCallback k packet => cases hmay.2
  | statusCallback change => cases hmay.2
  | _ => rfl

/-- What a call of the packet callback that returns hands over. -/
theorem callPacketCallback_hands {k : HSteamNetConnection} {packet : Packet} {w w' : World Server}
    (hrun : (callPacketCallback net k packet).run w = .ok () w') :
  ∃ es, w'.trace = es ++ .packetCallback k packet :: w.trace ∧ ∀ e ∈ es, e.ofProcessing = false
  := by
  obtain ⟨_, _, ⟨⟩, hrun⟩ := run_bind_eq_ok hrun
  cases hcallback : w.self.packetCallback with
  | none =>
      simp only [hcallback] at hrun
      cases hrun
  | some callback =>
      simp only [hcallback] at hrun
      obtain ⟨_, w₁, ⟨⟩, hrun⟩ := run_bind_eq_ok hrun
      obtain ⟨_, w₁, ⟨⟩, hrun⟩ := run_bind_eq_ok hrun
      obtain ⟨_, w₂, hscript, ⟨⟩⟩ := run_bind_eq_ok hrun
      obtain ⟨es, hes, hquiet⟩ := script_goesOn _ _
      rw [exit_ok hscript] at hes
      refine ⟨.packetCallbackReturned k :: es, congrArg _ hes, ?_⟩
      intro e he
      rcases List.mem_cons.mp he with rfl | he
      · rfl
      · apply hquiet e he

/-- What an iteration of the receive loop that returns has done: the networking library has
answered, and where there is a message, its packet has been handed over. -/
structure Receipt (net : ISteamNetworkingSockets) (w : World Server) (goesOn : Bool)
    (w' : World Server) : Prop where
  trace : ∃ es, w'.trace = es ++ .receiveMessagesOnPollGroup w.self.pollGroup
      (net.receiveMessagesOnPollGroup w.trace w.self.pollGroup).1
      (net.receiveMessagesOnPollGroup w.trace w.self.pollGroup).2 :: w.trace ∧
    ∀ e ∈ es, ∀ group n m, e ≠ .receiveMessagesOnPollGroup group n m
  ended : goesOn = false → (net.receiveMessagesOnPollGroup w.trace w.self.pollGroup).1 = 0 ∧
    handedPackets w'.trace = handedPackets w.trace
  handed : goesOn = true → ∃ m,
    (net.receiveMessagesOnPollGroup w.trace w.self.pollGroup).2 = some m ∧
    handedPackets w'.trace = handedPackets w.trace ++ [(m.conn, m.packet)]

/-- The processing of a message that is there hands its packet over. -/
theorem processPendingPacket_hands {pendingPacket : Option Message} {w w' : World Server}
    (hrun : (processPendingPacket net pendingPacket).run w = .ok () w') :
  ∃ m, pendingPacket = some m ∧ ∃ es, w'.trace = es ++ .packetCallback m.conn m.packet :: w.trace ∧
    ∀ e ∈ es, e.ofProcessing = false
  := by
  cases pendingPacket with
  | none => cases hrun
  | some m =>
      by_cases hmem : m.conn ∈ w.self.connections
      · rw [run_processPendingPacket_registered hmem] at hrun
        exact ⟨m, rfl, callPacketCallback_hands hrun⟩
      · rw [run_processPendingPacket_unregistered hmem] at hrun
        cases hrun

/-- An iteration of the receive loop that returns. -/
theorem receivePacket_receipt {w w' : World Server} {goesOn : Bool}
    (hrun : (receivePacket net).run w = .ok goesOn w') :
  Receipt net w goesOn w'
  := by
  rcases hanswer : net.receiveMessagesOnPollGroup w.trace w.self.pollGroup with ⟨n, pendingPacket⟩
  rw [run_receivePacket_answer hanswer] at hrun
  by_cases hn : n = 0
  · rw [if_pos hn] at hrun
    cases hrun
    constructor
    · rw [hanswer]
      exact ⟨[], rfl, by simp⟩
    · intro _
      rw [hanswer]
      exact ⟨hn, rfl⟩
    · intro hgoesOn
      cases hgoesOn
  · rw [if_neg hn] at hrun
    obtain ⟨_, w₂, hlog, hrun⟩ := run_bind_eq_ok hrun
    obtain ⟨_, w₃, hprocess, hrun⟩ := run_bind_eq_ok hrun
    obtain ⟨m, rfl, es, hes, hquiet⟩ := processPendingPacket_hands hprocess
    obtain ⟨_, w₄, ⟨⟩, ⟨⟩⟩ := run_bind_eq_ok hrun
    have hlogged : ∃ logs, w₂.trace
          = logs ++ .receiveMessagesOnPollGroup w.self.pollGroup n (some m) :: w.trace ∧
        ∀ e ∈ logs, e.ofProcessing = false := by
      by_cases hneg : n < 0
      · rw [when, if_pos hneg] at hlog
        cases hlog
        exact ⟨[_], rfl, by simp [Event.ofProcessing]⟩
      · rw [when, if_neg hneg] at hlog
        cases hlog
        exact ⟨[], rfl, by simp⟩
    obtain ⟨logs, hlogs, hquiet'⟩ := hlogged
    have htrace : .release m :: w₃.trace = (.release m :: es) ++
        .packetCallback m.conn m.packet :: logs ++
        .receiveMessagesOnPollGroup w.self.pollGroup n (some m) :: w.trace := by
      rw [hes, hlogs]
      simp
    have hquiet'' : ∀ e ∈ Event.release m :: es, e.ofProcessing = false := by
      intro e he
      rcases List.mem_cons.mp he with rfl | he
      · rfl
      · apply hquiet e he
    constructor
    · rw [hanswer]
      refine ⟨(.release m :: es) ++ .packetCallback m.conn m.packet :: logs, htrace, ?_⟩
      rintro e he group n' m' rfl
      rcases List.mem_append.mp he with he | he
      · cases hquiet'' _ he
      · rcases List.mem_cons.mp he with he | he
        · cases he
        · cases hquiet' _ he
    · intro hstops
      cases hstops
    · intro _
      rw [hanswer]
      use m, rfl
      dsimp only
      rw [htrace, List.append_assoc, handedPackets_append hquiet'', List.cons_append, handedPackets,
        handedPackets_append hquiet']
      rfl

/-- Among events without answers there is only the one answer before them. -/
theorem answer_eq_of_suffix {group : HSteamNetPollGroup} {n : Int} {m : Option Message} {x : Event}
    {es t r : Trace} (hes : ∀ e ∈ es, ∀ group n m, e ≠ .receiveMessagesOnPollGroup group n m)
    (h : .receiveMessagesOnPollGroup group n m :: t <:+ es ++ x :: r) (ht : r <:+ t) :
  .receiveMessagesOnPollGroup group n m = x ∧ t = r
  := by
  induction es with
  | nil =>
      rcases List.suffix_cons_iff.mp h with heq | h
      · exact List.cons_eq_cons.mp heq
      · have hlength := h.length_le
        have hle := ht.length_le
        rw [List.length_cons] at hlength
        omega
  | cons e es ih =>
      rw [List.cons_append] at h
      rcases List.suffix_cons_iff.mp h with heq | h
      · exact absurd (List.cons_eq_cons.mp heq).1.symm (hes e List.mem_cons_self group n m)
      · exact ih (fun e' he' => hes e' (List.mem_cons_of_mem e he')) h

/-- What an iteration goes on by, and its answer. -/
theorem Receipt.answers {w w' : World Server} {goesOn : Bool} (h : Receipt net w goesOn w') :
  w.trace <:+ w'.trace ∧
    receiveAnswers w'.trace
      = receiveAnswers w.trace ++ [net.receiveMessagesOnPollGroup w.trace w.self.pollGroup]
  := by
  obtain ⟨es, hes, hno⟩ := h.trace
  constructor
  · rw [hes]
    exact (List.suffix_cons _ _).trans (List.suffix_append _ _)
  · have happend : ∀ es : Trace,
        (∀ e ∈ es, ∀ group n m, e ≠ .receiveMessagesOnPollGroup group n m) →
        ∀ t, receiveAnswers (es ++ t) = receiveAnswers t := by
      intro es hes t
      apply History.unchanged_append _ hes
      intro e t he
      cases e with
      | receiveMessagesOnPollGroup group n m => exact absurd rfl (he group n m)
      | _ => rfl
    rw [hes, happend es hno, receiveAnswers]

/-- The first `j` messages have been received and their packets passed on. -/
structure Passing (net : ISteamNetworkingSockets) (w : World Server) (j : Nat)
    (w' : World Server) : Prop where
  goesOn : w.trace <:+ w'.trace
  flags : KeepsFlags w w'
  limit : w'.self.maxProcessedPackets = w.self.maxProcessedPackets
  le : j ≤ w.self.maxProcessedPackets.toNat
  answered : ∀ group n m t, .receiveMessagesOnPollGroup group n m :: t <:+ w'.trace →
    w.trace <:+ t → net.receiveMessagesOnPollGroup t group = (n, m) ∧
      (timesClosed t = timesClosed w.trace → group = w.self.pollGroup)
  handed : ∃ handed : List (Int × Message), handed.length = j ∧
    receiveAnswers w'.trace = receiveAnswers w.trace ++ handed.map (fun a => (a.1, some a.2)) ∧
    handedPackets w'.trace
      = handedPackets w.trace ++ handed.map fun a => (a.2.conn, a.2.packet)

/-- Before the first iteration. -/
theorem Passing.start (w : World Server) :
  Passing net w 0 w
  where
  goesOn := List.suffix_refl _
  flags := Std.Refl.refl w
  limit := rfl
  le := Nat.zero_le _
  answered group n m t h ht := by
    have hlength := (h.trans ht).length_le
    rw [List.length_cons] at hlength
    omega
  handed := ⟨[], rfl, by simp, by simp⟩

section Passing

variable {w w₁ w₂ : World Server} {j : Nat} {goesOn : Bool}

/-- The answers after one more iteration. -/
theorem Passing.answered_next (h : Passing net w j w₁) (hreceipt : Receipt net w₁ goesOn w₂)
    {group : HSteamNetPollGroup} {n : Int} {m : Option Message} {t : Trace}
    (hsuffix : .receiveMessagesOnPollGroup group n m :: t <:+ w₂.trace) (ht : w.trace <:+ t) :
  net.receiveMessagesOnPollGroup t group = (n, m) ∧
    (timesClosed t = timesClosed w.trace → group = w.self.pollGroup)
  := by
  rcases List.suffix_or_suffix_of_suffix hsuffix hreceipt.answers.1 with hbefore | hafter
  · exact h.answered group n m t hbefore ht
  rcases List.suffix_cons_iff.mp hafter with heq | hafter
  · exact h.answered group n m t (heq ▸ List.suffix_refl _) ht
  obtain ⟨es, hes, hno⟩ := hreceipt.trace
  rw [hes] at hsuffix
  obtain ⟨heq, rfl⟩ := answer_eq_of_suffix hno hsuffix hafter
  cases heq
  exact ⟨rfl, h.flags.group⟩

/-- One more iteration that goes on. -/
theorem Passing.next (h : Passing net w j w₁) (hreceipt : Receipt net w₁ true w₂)
    (hflags : KeepsFlags w₁ w₂)
    (hlimit : w₂.self.maxProcessedPackets = w₁.self.maxProcessedPackets)
    (hj : j < w.self.maxProcessedPackets.toNat) :
  Passing net w (j + 1) w₂
  := by
  obtain ⟨handed, hlength, hanswers, hpackets⟩ := h.handed
  obtain ⟨hgoesOn, hanswers'⟩ := hreceipt.answers
  obtain ⟨m, hm, hpackets'⟩ := hreceipt.handed rfl
  generalize hanswer : net.receiveMessagesOnPollGroup w₁.trace w₁.self.pollGroup = answer
    at hanswers' hm
  obtain ⟨n, pendingPacket⟩ := answer
  cases hm
  constructor
  · exact h.goesOn.trans hgoesOn
  · exact IsTrans.trans _ _ _ h.flags hflags
  · rw [hlimit, h.limit]
  · apply hj
  · exact fun _ _ _ _ hsuffix ht => h.answered_next hreceipt hsuffix ht
  · refine ⟨handed ++ [(n, m)], ?_, ?_, ?_⟩
    · simp [hlength]
    · rw [hanswers', hanswers]
      simp
    · rw [hpackets', hpackets]
      simp

/-- The loop ends where there is no message. -/
theorem Passing.ended (h : Passing net w j w₁) (hreceipt : Receipt net w₁ false w₂)
    (hflags : KeepsFlags w₁ w₂) (hj : j < w.self.maxProcessedPackets.toNat) :
  PassesPackets net w w₂
  := by
  obtain ⟨handed, hlength, hanswers, hpackets⟩ := h.handed
  obtain ⟨hgoesOn, hanswers'⟩ := hreceipt.answers
  obtain ⟨hzero, hpackets'⟩ := hreceipt.ended rfl
  generalize hanswer : net.receiveMessagesOnPollGroup w₁.trace w₁.self.pollGroup = answer
    at hanswers' hzero
  obtain ⟨n, pendingPacket⟩ := answer
  dsimp only at hzero
  subst hzero
  constructor
  · exact h.goesOn.trans hgoesOn
  · rw [hflags.input, h.flags.input]
  · exact fun _ _ _ _ hsuffix ht => h.answered_next hreceipt hsuffix ht
  · intro _
    refine ⟨handed, [(0, pendingPacket)], ?_, ?_, .inr ⟨?_, pendingPacket, rfl⟩⟩
    · rw [hanswers', hanswers, List.append_assoc]
    · rw [hpackets', hpackets]
    · omega

/-- The loop ends at the limit. -/
theorem Passing.full (h : Passing net w j w₁) (hj : w.self.maxProcessedPackets.toNat ≤ j) :
  PassesPackets net w w₁
  := by
  obtain ⟨handed, hlength, hanswers, hpackets⟩ := h.handed
  have hle := h.le
  constructor
  · apply h.goesOn
  · apply h.flags.input
  · apply h.answered
  · intro _
    refine ⟨handed, [], ?_, hpackets, .inl ⟨?_, rfl⟩⟩
    · rw [List.append_nil, hanswers]
    · omega

end Passing

/-- The receive loop, where it returns, has passed packets up to its limit or until there was no
message.  The induction is on the number of iterations left. -/
theorem receiveLoop_hands (left : Nat) {w w₁ w' : World Server} {j : Nat}
    (h : Passing net w j w₁) (hrun : (receiveLoop net left j).run w₁ = .ok () w') :
  PassesPackets net w w'
  := by
  induction left generalizing w₁ j with
  | zero => cases hrun
  | succ left ih =>
      by_cases hj : j < w.self.maxProcessedPackets.toNat
      · have hbelow : j < w₁.self.maxProcessedPackets.toNat := by rwa [h.limit]
        rw [run_receiveLoop_body net left hbelow] at hrun
        obtain ⟨goesOn, w₂, hreceive, hrun⟩ := run_bind_eq_ok hrun
        have hreceipt := receivePacket_receipt hreceive
        have hflags := @receivePacket_keepsFlags net w₁
        have heffects := receivePacket_effects net w₁
        rw [exit_ok hreceive] at hflags heffects
        cases goesOn with
        | true => exact ih (h.next hreceipt hflags heffects.keeps_settings.2.2 hj) hrun
        | false =>
            cases hrun
            exact h.ended hreceipt hflags hj
      · have habove : ¬ j < w₁.self.maxProcessedPackets.toNat := by rwa [h.limit]
        rw [receiveLoop, run_countedLoop_above _ _ _ (by simpa using habove)] at hrun
        cases hrun
        exact h.full (Nat.le_of_not_lt hj)

/-- The processing of pending packets, where it returns. -/
theorem processPendingPackets_hands {w w' : World Server}
    (hrun : (processPendingPackets net).run w = .ok () w') :
  PassesPackets net w w'
  := by
  cases hcallback : w.self.packetCallback with
  | none =>
      rw [run_processPendingPackets_none hcallback] at hrun
      cases hrun
      have hstart := @Passing.start net w
      refine ⟨hstart.goesOn, rfl, hstart.answered, fun h => ?_⟩
      rw [hcallback] at h
      cases h
  | some callback =>
      rw [run_processPendingPackets_some hcallback] at hrun
      apply receiveLoop_hands _ (.start w) hrun

/-! ### Status events -/

/-- A status event that is dispatched without an exception has been told to the status callback. -/
theorem onSteamNetConnectionStatusChanged_reports {info : StatusInfo} {w w' : World Server}
    (hrun : (onSteamNetConnectionStatusChanged net info).run w = .ok () w') :
  w.trace <:+ w'.trace ∧
    toldChanges w'.trace = toldChanges w.trace ++ [info.change statusOf]
  := by
  rw [run_onSteamNetConnectionStatusChanged] at hrun
  have hrouted := passOn_routed rfl hrun
  cases hcallback : w.self.connectionStatusChangeCallback with
  | none =>
      rw [hcallback] at hrun
      cases hrun
  | some callback =>
      rw [hcallback, Option.map_some, run_passOn (mappings_lookup hrouted.1).1
        (mappings_lookup hrouted.2).1] at hrun
      have hexit : exit ((callback (info.change statusOf)
            (.statusCallback (info.change statusOf) :: w.trace)).run (perform net))
          { w with trace := .statusCallback (info.change statusOf) :: w.trace } = w' :=
        exit_ok hrun
      have hgoes := @script_goesOn net (callback (info.change statusOf)
        (.statusCallback (info.change statusOf) :: w.trace))
        { w with trace := .statusCallback (info.change statusOf) :: w.trace }
      rw [hexit] at hgoes
      obtain ⟨es, hes, hquiet⟩ := hgoes
      rw [hes]
      constructor
      · exact (List.suffix_cons _ _).trans (List.suffix_append _ _)
      · rw [toldChanges_append_ofProcessing hquiet]
        rfl

/-- The status events that are dispatched without an exception have all been told. -/
theorem forM_onSteamNetConnectionStatusChanged_reports {infos : List StatusInfo}
    {w w' : World Server}
    (hrun : (forM infos (onSteamNetConnectionStatusChanged net) : ServerM Unit).run w
      = .ok () w') :
  w.trace <:+ w'.trace ∧
    toldChanges w'.trace = toldChanges w.trace ++ infos.map (StatusInfo.change statusOf)
  := by
  induction infos generalizing w with
  | nil =>
      cases hrun
      exact ⟨List.suffix_refl _, (List.append_nil _).symm⟩
  | cons info infos ih =>
      rw [List.forM_cons] at hrun
      obtain ⟨_, w₁, hone, hrun⟩ := run_bind_eq_ok hrun
      obtain ⟨hgoesOn, htold⟩ := onSteamNetConnectionStatusChanged_reports hone
      obtain ⟨hgoesOn', htold'⟩ := ih hrun
      use hgoesOn.trans hgoesOn'
      rw [htold', htold, List.append_assoc, List.map_cons, List.singleton_append]

/-- The dispatching of the status events, where it returns. -/
theorem processConnectionStateChanges_dispatches {w w' : World Server}
    (hrun : (processConnectionStateChanges net).run w = .ok () w') :
  DispatchesEvents net w w'
  := by
  have hflags := @processConnectionStateChanges_keepsFlags net w
  rw [exit_ok hrun] at hflags
  obtain ⟨hgoesOn, htold⟩ := forM_onSteamNetConnectionStatusChanged_reports
    (w := { w with trace := .runCallbacks (net.runCallbacks w.trace) :: w.trace }) hrun
  exact ⟨hgoesOn, hflags.input, htold⟩

/-! ### The console -/

/-- The reading of the given lines. -/
theorem processUserInputLines_reads (lines : List String) {w w' : World Server}
    (hlines : w.self.inputQueue = lines)
    (hrun : (processUserInputLines lines).run w = .ok () w') :
  ReadsInput w w'
  := by
  induction lines generalizing w with
  | nil =>
      cases hrun
      exact ⟨[], rfl, rfl, .inl ⟨by simp, hlines, rfl⟩⟩
  | cons input rest ih =>
      by_cases hquit : input = "/quit"
      · subst hquit
        cases hrun
        exact ⟨["/quit"], hlines, rfl, .inr ⟨⟨[], rfl, by simp⟩, rfl⟩⟩
      · have hrest : (processUserInputLines rest).run
            { self := { w.self with inputQueue := rest }
              trace := .log .error "The server only knows one command: '/quit'" :: w.trace }
            = .ok () w' := by
          rw [← hrun]
          simp [processUserInputLines, hquit]
        obtain ⟨read, hread, htrace, hend⟩ := ih rfl hrest
        refine ⟨input :: read, ?_, ?_, ?_⟩
        · rw [hlines, List.cons_append, ← hread]
        · rw [htrace, List.map_cons, List.reverse_cons, List.append_assoc, reply, if_neg hquit]
          rfl
        · rcases hend with ⟨hnot, hempty, hsame⟩ | ⟨⟨ignored, rfl, hnot⟩, hquits⟩
          · left
            refine ⟨?_, hempty, hsame⟩
            simpa [Ne.symm hquit] using hnot
          · right
            refine ⟨⟨input :: ignored, rfl, ?_⟩, hquits⟩
            simpa [Ne.symm hquit] using hnot

/-! ### Updates -/

/-- An update that is not ignored and returns has processed everything. -/
theorem processAll_processed {w w' : World Server} (hrun : (processAll net).run w = .ok () w') :
  Processed net w w'
  := by
  obtain ⟨_, w₁, hpackets, hrun⟩ := run_bind_eq_ok hrun
  obtain ⟨_, w₂, hevents, hinput⟩ := run_bind_eq_ok hrun
  exact ⟨w₁, w₂, processPendingPackets_hands hpackets,
    processConnectionStateChanges_dispatches hevents, processUserInputLines_reads _ rfl hinput⟩

/-- Nothing is processed without asking the networking library for its status events. -/
theorem Processed.trace_lt {w w' : World Server} (h : Processed net w w') :
  w.trace.length < w'.trace.length
  := by
  obtain ⟨w₁, w₂, hpackets, hevents, read, -, htrace, -⟩ := h
  have h₁ := hpackets.goesOn.length_le
  have h₂ := hevents.goesOn.length_le
  rw [List.length_cons] at h₂
  rw [htrace, List.length_append]
  omega

/-- An update processes everything unless it is ignored. -/
theorem processes_iff (w : World Server) :
  Processes net w ↔ ¬ Stopped w
  := by
  constructor
  · intro h hstopped
    have hlt := (h w (run_updateConnection_stopped hstopped)).trace_lt
    omega
  · intro hstopped w' hrun
    rw [run_updateConnection_active hstopped] at hrun
    apply processAll_processed hrun

/-! ### Runs -/

/-- After an opening that succeeds and steps that all continue, the server has not been asked to
quit and the next update processes everything, exactly if the server had never been closed and never
read `/quit` before the opening, and no later opening has failed since. -/
theorem restart_iff {before steps : List ServerStep} {ip : String} {port : UInt32}
    {socket : HSteamListenSocket} {group : HSteamNetPollGroup} {w w₁ w₂ : World Server}
    (hbefore : (runSteps net before).run (newServer ip port socket group) = .ok () w)
    (hsucceeds : OpeningSucceeds net w) (hopening : (step net .openConnection).run w = .ok () w₁)
    (hsteps : Along (step net) (Continues net) w₁ steps)
    (hrun : (runSteps net steps).run w₁ = .ok () w₂) :
  (w₂.self.quitRequested = false ∧ Processes net w₂)
    ↔ Along (step net) (Continues net) (newServer ip port socket group) before ∧
      LatestOpeningSucceeds net true w₁ steps
  := by
  obtain ⟨w', hrun', htrace, hquit, hrunning⟩ := @run_openConnection_flags net w
  have heq : w' = w₁ := (exit_ok hrun').symm.trans (exit_ok hopening)
  subst heq
  have hrunning₁ : w'.self.running = true := hrunning.trans (decide_eq_true hsucceeds)
  have hbeforeQuit := run_quitRequested before hbefore
  have hstepsQuit := run_quitRequested steps hrun
  have hstepsRunning := run_running steps hsteps hrun
  simp only [newServer, construct, Bool.false_eq_true, false_or] at hbeforeQuit
  rw [hquit, hbeforeQuit, or_iff_left (not_not_intro hsteps)] at hstepsQuit
  rw [hrunning₁] at hstepsRunning
  rw [processes_iff, Stopped, not_or, Bool.not_eq_true, Bool.not_eq_false, hstepsRunning,
    ← Bool.not_eq_true, hstepsQuit, not_not, ← and_assoc, and_self]
  rfl

/-- The server once it has been opened and has read `/quit`. -/
def quitOnce : World Server :=
  exit (runSteps queueNetworking [.openConnection, .enter "/quit", .updateConnection]) fresh

/-- The server once it has been opened again. -/
def reopened : World Server :=
  exit (step queueNetworking .openConnection) quitOnce

/-- The server once a line has been entered after that. -/
def addressed : World Server :=
  exit (runSteps queueNetworking [.enter "/help", .updateConnection]) reopened

/-- A server that has read `/quit` and has been opened again. -/
theorem quitOnce_restart_iff :
  (addressed.self.quitRequested = false ∧ Processes queueNetworking addressed)
    ↔ Along (step queueNetworking) (Continues queueNetworking) fresh
        [.openConnection, .enter "/quit", .updateConnection] ∧
      LatestOpeningSucceeds queueNetworking true reopened [.enter "/help", .updateConnection]
  := by
  apply @restart_iff queueNetworking [.openConnection, .enter "/quit", .updateConnection]
    [.enter "/help", .updateConnection] "127.0.0.1" 8080 0 0 quitOnce reopened addressed rfl
    (by decide) rfl _ rfl
  apply Along.cons ⟨rfl, id⟩
  apply Along.cons ⟨rfl, fun h => h.1 (.inl rfl)⟩
  trivial

/-- The server once it has been closed. -/
def closedOnce : World Server :=
  exit (runSteps queueNetworking [.openConnection, .call .closeConnection]) fresh

/-- A server that is opened again ignores its updates. -/
theorem closedOnce_ignores :
  (runSteps queueNetworking [.openConnection, .call .closeConnection]).run fresh
      = .ok () closedOnce ∧
    OpeningSucceeds queueNetworking closedOnce ∧
    ∃ w, (step queueNetworking .openConnection).run closedOnce = .ok () w ∧
      w.self.quitRequested = true ∧ ¬ Processes queueNetworking w
  := by
  refine ⟨rfl, by decide, _, rfl, rfl, ?_⟩
  rw [processes_iff, not_not]
  exact .inl rfl

end Server

end Chs
