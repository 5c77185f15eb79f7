import ChaosInMultiplayer.Examples.StaleEvents

/-!
# Runs of the main function of the example client

The main function does not ask whether the connection could be made, never closes it, and sends
without another update.  So what it sends at any point is the first part of its script, and it
fails when the server refuses it or goes away.
-/

namespace Chs

namespace ExampleClient

open Program Client

variable {net : ISteamNetworkingSockets}

/-! ### Sends -/

/-- The event of the sending of a message. -/
def sendEvent (connection : HSteamNetConnection) (entry : Packet × SendType) : Event :=
  .sendMessageToConnection connection entry.1.data (.ofNat entry.1.size) entry.2

/-- The client has sent the first `n` messages of the script, each on its connection while that was
connected, and nothing else. -/
structure Sends (net : ISteamNetworkingSockets) (n : Nat) (w : World Client) : Prop where
  sent : (w.trace.filter Event.sends).reverse
    = (script.take n).map (sendEvent w.self.serverConnection)
  connected : History.Each
    (fun e t => e.sends → net.getConnectionInfo t w.self.serverConnection = .connected) w.trace

/-- What happens without sends leaves them alone. -/
theorem Sends.goesOn {n : Nat} {w w' : World Client} (h : Sends net n w)
    (hsame : w'.self = w.self) (hgoesOn : GoesOnBy (fun e => e.sends = false) w w') :
  Sends net n w'
  := by
  obtain ⟨es, hes, hall⟩ := hgoesOn
  constructor
  · have hnone : es.filter Event.sends = [] := by
      rw [List.filter_eq_nil_iff]
      intro e he
      simp [hall e he]
    rw [hsame, hes, List.filter_append, hnone, List.nil_append, h.sent]
  · rw [hsame, hes]
    apply History.Each.append _ h.connected
    intro e he t hsends
    rw [hall e he] at hsends
    cases hsends

/-- The sending of the next message of the script. -/
theorem Sends.next {n : Nat} {w : World Client} (h : Sends net n w) {entry : Packet × SendType}
    (hentry : script[n]? = some entry)
    (hconnected : net.getConnectionInfo w.trace w.self.serverConnection = .connected) :
  Sends net (n + 1) { w with trace := sendEvent w.self.serverConnection entry :: w.trace }
  := by
  constructor
  · rw [List.filter_cons_of_pos rfl, List.reverse_cons, h.sent, List.take_add_one, hentry,
      List.map_append]
    rfl
  · exact ⟨fun _ => hconnected, h.connected⟩

/-! ### Updates -/

/-- The event is no send, makes no connection and queues no status event. -/
def idle : Event → Bool
  | .sendMessageToConnection _ _ _ _ => false
  | .connectByIPAddress _ => false
  | .queued _ => false
  | _ => true

/-- The client stays the same while idle events happen. -/
structure Idles (w w' : World Client) : Prop where
  same : w'.self = w.self
  goesOn : GoesOnBy (fun e => idle e) w w'

instance : Std.Refl Idles where
  refl w := ⟨rfl, Std.Refl.refl w⟩

instance : IsTrans (World Client) Idles where
  trans _ _ _ h h' := ⟨h'.same.trans h.same, IsTrans.trans _ _ _ h.goesOn h'.goesOn⟩

theorem Idles.of_append {w : World Client} {es : List Event} (hes : ∀ e ∈ es, idle e) :
  Idles w { w with trace := es ++ w.trace }
  := ⟨rfl, es, rfl, hes⟩

theorem Idles.of_cons {w : World Client} {e : Event} (he : idle e) :
  Idles w { w with trace := e :: w.trace }
  := ⟨rfl, goesOnBy_cons rfl he⟩

/-- Without a packet callback, the client receives a packet or none while its connection is opened,
and uses a null pointer otherwise. -/
theorem receivePacket_silent (hnet : net.ReceivesWhileOpened) {w : World Client}
    (hw : w.self.packetCallback = none) :
  Ensures (· = w) (receivePacket net)
    (fun _ w' => Idles w w' ∧ ConnectionOpened w ∧ ConnectionOpened w')
    fun _ w' => Idles w w' ∧ ¬ ConnectionOpened w
  := by
  rintro w rfl
  obtain ⟨hopened, hnot⟩ := hnet w.trace w.self.serverConnection
  by_cases hconnection : ConnectionOpened w
  · rcases hopened hconnection with hnone | ⟨m, hsome⟩
    · have hrun : (receivePacket net).run w = .ok false
          { w with
            trace :=
              [.receiveMessagesOnConnection w.self.serverConnection 0 none] ++ w.trace } := by
        simp only [receivePacket, EStateM.run_bind, EStateM.run_get, hnone]
        rfl
      rw [hrun]
      refine ⟨Idles.of_append (by simp [idle]), hconnection, ?_⟩
      simpa [ConnectionOpened, Opened] using hconnection
    · have hrun : (receivePacket net).run w = .ok true
          { w with
            trace := [.release m,
              .receiveMessagesOnConnection w.self.serverConnection 1 (some m)] ++ w.trace } := by
        rw [run_receivePacket_some hsome]
        simp only [processPendingPacket, EStateM.run_bind, EStateM.run_get, hw]
        rfl
      rw [hrun]
      refine ⟨Idles.of_append (by simp [idle]), hconnection, ?_⟩
      simpa [ConnectionOpened, Opened] using hconnection
  · obtain ⟨n, hn, hnone⟩ := hnot hconnection
    have hne : n ≠ 0 := by omega
    have hrun : (receivePacket net).run w = .error .nullDereference
        { w with
          trace := [.log .error "Error checking for messages",
            .receiveMessagesOnConnection w.self.serverConnection n none] ++ w.trace } := by
      simp only [receivePacket, EStateM.run_bind, EStateM.run_get, hnone, if_neg hne, when,
        if_pos hn, run_emit, run_logError, processPendingPacket, hw]
      rfl
    rw [hrun]
    exact ⟨Idles.of_append (by simp [idle]), hconnection⟩

/-- An update without a packet callback receives packets while the connection is opened, and uses
a null pointer otherwise. -/
theorem processReceivedPackets_silent (hnet : net.ReceivesWhileOpened) {w : World Client}
    (hw : w.self.packetCallback = none) (hlimit : 0 < loopLimit w) :
  Ensures (· = w) (processReceivedPackets net) (fun _ w' => Idles w w' ∧ ConnectionOpened w')
    fun fault w' => fault = .nullDereference ∧ Idles w w' ∧ ¬ ConnectionOpened w
  := by
  have hbody : Ensures (Idles w) (receivePacket net) (fun _ => Idles w) fun _ => Idles w := by
    intro w₁ hw₁
    have hsilent : w₁.self.packetCallback = none := by rw [hw₁.same, hw]
    exact (receivePacket_silent hnet hsilent).mono (fun _ h => h)
      (fun _ _ h => IsTrans.trans _ _ _ hw₁ h.1) (fun _ _ h => IsTrans.trans _ _ _ hw₁ h.1) w₁ rfl
  have hidles : Ensures (Idles w) (processReceivedPackets net) (fun _ => Idles w)
      fun _ => Idles w := countedLoop_ensures hbody (fun _ h => h) _ _
  by_cases hconnection : ConnectionOpened w
  · have hopened : Ensures (fun w' => Idles w w' ∧ ConnectionOpened w') (receivePacket net)
        (fun _ w' => Idles w w' ∧ ConnectionOpened w') fun _ _ => False := by
      rintro w₁ ⟨hw₁, hconnection₁⟩
      have hsilent : w₁.self.packetCallback = none := by rw [hw₁.same, hw]
      exact (receivePacket_silent hnet hsilent).mono (fun _ h => h)
        (fun _ _ h => ⟨IsTrans.trans _ _ _ hw₁ h.1, h.2.2⟩) (fun _ _ h => h.2 hconnection₁) w₁ rfl
    have hloop : Ensures (fun w' => Idles w w' ∧ ConnectionOpened w') (processReceivedPackets net)
        (fun _ w' => Idles w w' ∧ ConnectionOpened w') fun _ _ => False := by
      apply countedLoop_ensures_within below_loopLimit_iff hopened
      intro w₁ _
      have hlt := loopLimit_lt w₁
      omega
    exact hloop.mono (by rintro _ rfl; exact ⟨Std.Refl.refl _, hconnection⟩) (fun _ _ h => h)
      fun _ _ h => h.elim
  · rintro w rfl
    have hnull : ∃ w', (processReceivedPackets net).run w = .error .nullDereference w' := by
      rw [processReceivedPackets_null_iff hnet]
      intro huntil
      have hzero := huntil 0 w .start hconnection
      omega
    obtain ⟨w', hrun⟩ := hnull
    have hw' := hidles w (Std.Refl.refl w)
    rw [hrun] at hw' ⊢
    exact ⟨rfl, hw', hconnection⟩

/-- No connection has been made. -/
def NeverConnected (w : World Client) : Prop :=
  ∀ c, .connectByIPAddress c ∈ w.trace → c = 0

/-- A status event has reported the end of a connection. -/
def Ended (w : World Client) : Prop :=
  ∃ info ∈ statusEvents w.trace, info.eState.closing

/-- If the connection of the client is not opened, it could not be made or it has been ended. -/
def Explained (w : World Client) : Prop :=
  ConnectionOpened w ∨ NeverConnected w ∨ Ended w

/-- A client that has never been connected is so still when it has idled. -/
theorem NeverConnected.idles {w w' : World Client} (h : NeverConnected w) (hidles : Idles w w') :
  NeverConnected w'
  := by
  intro c hc
  apply h c
  rwa [hidles.goesOn.mem_iff (by simp [idle])] at hc

theorem Ended.mono {w w' : World Client} (h : Ended w) (hsubset : w.trace ⊆ w'.trace) :
  Ended w'
  := by
  obtain ⟨info, hinfo, hclosing⟩ := h
  exact ⟨info, List.filterMap_subset _ hsubset hinfo, hclosing⟩

/-- What explains a failure explains it still when the client has idled. -/
theorem Explained.idles {w w' : World Client} (h : Explained w) (hidles : Idles w w')
    (hopened : ConnectionOpened w → ConnectionOpened w') :
  Explained w'
  := by
  apply h.imp hopened
  apply Or.imp
  · intro hnever
    apply hnever.idles hidles
  · intro hended
    apply hended.mono hidles.goesOn.subset

/-- What goes wrong in the main function: the connection could not be made, it has been ended,
a status event cannot be passed on, or the connection is not connected any more. -/
inductive Failure (net : ISteamNetworkingSockets) (w : World Client) : Fault → Prop where
  | refused (h : NeverConnected w) : Failure net w .nullDereference
  | ended (h : Ended w) : Failure net w .nullDereference
  | unmapped (info : StatusInfo) (hinfo : info ∈ statusEvents w.trace) (h : ¬ info.Routed) :
      Failure net w (.outOfRange "CONNECTION_STATUS_MAPPINGS")
  | disconnected (t : Trace) (ht : t <:+ w.trace)
      (hbefore : net.getConnectionInfo t w.self.serverConnection = .connected)
      (hnow : net.getConnectionInfo w.trace w.self.serverConnection ≠ .connected) :
      Failure net w (.assertionFailed .connectedToServer)

/-- The client as the main function sets it up: without a packet callback, and with the status
callback and a limit that lets it receive packets. -/
structure Configured (w : World Client) : Prop where
  silent : w.self.packetCallback = none
  installed : Installed w
  limit : 0 < loopLimit w

theorem Configured.same {w w' : World Client} (h : Configured w) (hsame : w'.self = w.self) :
  Configured w'
  := by
  constructor
  · rw [hsame, h.silent]
  · rw [Installed, hsame, h.installed]
  · rw [loopLimit, hsame]
    apply h.limit

/-- Dispatching a status event keeps the explanation. -/
theorem onSteamNetConnectionStatusChanged_explained {w : World Client} (hw : Installed w)
    {info : StatusInfo} (hinfo : info ∈ statusEvents w.trace) (hexplained : Explained w) :
  Ensures (· = w) (onSteamNetConnectionStatusChanged net info)
    (fun _ w' => Idles w w' ∧ Explained w') fun fault w' => Idles w w' ∧ Failure net w' fault
  := by
  rintro w rfl
  have hreported : Idles w (reported w info) := Idles.of_cons rfl
  by_cases hrouted : info.Routed
  · cases hclosing : info.eState.closing with
    | true =>
        rw [run_dispatch_closing hw hrouted hclosing]
        have hclosed : Idles (reported w info) (closed (reported w info)) := Idles.of_cons rfl
        have hidles := IsTrans.trans _ _ _ hreported hclosed
        have hended : Ended w := ⟨info, hinfo, hclosing⟩
        exact ⟨hidles, .inr (.inr (hended.mono hidles.goesOn.subset))⟩
    | false =>
        rw [run_dispatch_open hw hrouted hclosing]
        exact ⟨hreported, hexplained.idles hreported (opened_reported w info).mpr⟩
  · rw [run_dispatch_unrouted hw hrouted]
    exact ⟨Std.Refl.refl w, .unmapped info hinfo hrouted⟩

/-- Dispatching the status events keeps the explanation, and its failures are explained. -/
theorem processConnectionStateChanges_explained (hdispatches : net.DispatchesQueued)
    {w : World Client} (hw : Installed w) (hexplained : Explained w) :
  Ensures (· = w) (processConnectionStateChanges net)
    (fun _ w' => Idles w w' ∧ Explained w') fun fault w' => Idles w w' ∧ Failure net w' fault
  := by
  apply Ensures.get_bind
  rintro w rfl
  have hqueued : ∀ info ∈ net.runCallbacks w.trace, info ∈ statusEvents w.trace := by
    rw [hdispatches]
    apply queuedEvents_subset
  apply Ensures.bind (R := fun _ w' => Idles w w' ∧ Explained w')
  · apply Ensures.modify
    rintro w rfl
    have hidles : Idles w { w with trace := .runCallbacks (net.runCallbacks w.trace) :: w.trace } :=
      Idles.of_cons rfl
    use hidles
    apply hexplained.idles hidles
    simp [ConnectionOpened, Opened]
  intro _
  have hone : ∀ info infos, Ensures
      (fun w' => (∀ i ∈ info :: infos, i ∈ statusEvents w.trace) ∧ Idles w w' ∧ Explained w')
      (onSteamNetConnectionStatusChanged net info)
      (fun _ w' => (∀ i ∈ infos, i ∈ statusEvents w.trace) ∧ Idles w w' ∧ Explained w')
      fun fault w' => Idles w w' ∧ Failure net w' fault := by
    rintro info infos w₁ ⟨hinfos, hw₁, hexplained₁⟩
    have hinstalled : Installed w₁ := by rw [Installed, hw₁.same, hw]
    have hinfo : info ∈ statusEvents w₁.trace :=
      List.filterMap_subset _ hw₁.goesOn.subset (hinfos info List.mem_cons_self)
    apply (onSteamNetConnectionStatusChanged_explained hinstalled hinfo hexplained₁).mono
      (fun _ h => h) _ _ w₁ rfl
    · rintro _ w' ⟨hidles, hexplained'⟩
      exact ⟨fun i h => hinfos i (List.mem_cons_of_mem _ h), IsTrans.trans _ _ _ hw₁ hidles,
        hexplained'⟩
    · rintro fault w' ⟨hidles, hfailure⟩
      exact ⟨IsTrans.trans _ _ _ hw₁ hidles, hfailure⟩
  have hloop := Ensures.forM
    (I := fun infos w' => (∀ i ∈ infos, i ∈ statusEvents w.trace) ∧ Idles w w' ∧ Explained w')
    hone (net.runCallbacks w.trace)
  exact hloop.mono (fun _ h => ⟨hqueued, h⟩) (fun _ _ h => h.2) fun _ _ h => h

/-- An update leaves the connection opened, or what has become of it is explained. -/
theorem updateConnection_explained (hnet : net.ReceivesWhileOpened)
    (hdispatches : net.DispatchesQueued) {w : World Client} (hw : Configured w)
    (hexplained : Explained w) :
  Ensures (· = w) (updateConnection net)
    (fun _ w' => Idles w w' ∧ Explained w') fun fault w' => Idles w w' ∧ Failure net w' fault
  := by
  apply Ensures.bind (R := fun _ w' => Idles w w' ∧ ConnectionOpened w')
  · apply (processReceivedPackets_silent hnet hw.silent hw.limit).mono (fun _ h => h)
      (fun _ _ h => h)
    rintro _ w' ⟨rfl, hidles, hnot⟩
    use hidles
    rcases hexplained.resolve_left hnot with hnever | hended
    · exact .refused (hnever.idles hidles)
    · exact .ended (hended.mono hidles.goesOn.subset)
  · rintro _ w₁ ⟨hidles, hopened⟩
    have hinstalled : Installed w₁ := by rw [Installed, hidles.same, hw.installed]
    apply (processConnectionStateChanges_explained hdispatches hinstalled (.inl hopened)).mono
      (fun _ h => h) _ _ w₁ rfl
    · exact fun _ w' h => ⟨IsTrans.trans _ _ _ hidles h.1, h.2⟩
    · exact fun _ w' h => ⟨IsTrans.trans _ _ _ hidles h.1, h.2⟩

/-! ### Runs of the main function -/

/-- Nothing has happened but outside the main function. -/
def Blank (w : World Client) : Prop :=
  ∀ e ∈ w.trace, (∃ m, e = .arrived m) ∨ ∃ info, e = .queued info

theorem Blank.not_mem {w : World Client} (h : Blank w) {e : Event}
    (he : ∀ m info, e ≠ .arrived m ∧ e ≠ .queued info) :
  e ∉ w.trace
  := by
  intro hmem
  rcases h e hmem with ⟨m, rfl⟩ | ⟨info, rfl⟩
  · exact (he m ⟨0, .none, .none⟩).1 rfl
  · exact (he ⟨0, [], 0⟩ info).2 rfl

theorem sends_zero {w : World Client} (h : ∀ e ∈ w.trace, e.sends = false) :
  Sends net 0 w
  := by
  obtain ⟨self, t⟩ := w
  have hnil : Sends net 0 ⟨self, []⟩ := ⟨rfl, trivial⟩
  exact hnil.goesOn rfl ⟨t, (List.append_nil t).symm, h⟩

theorem Blank.sends_eq_false {w : World Client} (h : Blank w) :
  ∀ e ∈ w.trace, e.sends = false
  := by
  intro e he
  rcases h e he with ⟨m, rfl⟩ | ⟨info, rfl⟩
  · rfl
  · rfl

/-- The connection of the client has been connected. -/
def WasConnected (net : ISteamNetworkingSockets) (w : World Client) : Prop :=
  ∃ t, t <:+ w.trace ∧ net.getConnectionInfo t w.self.serverConnection = .connected

theorem WasConnected.goesOn {w w' : World Client} (h : WasConnected net w)
    (hsame : w'.self = w.self) (htrace : w.trace <:+ w'.trace) :
  WasConnected net w'
  := by
  obtain ⟨t, ht, hconnected⟩ := h
  use t, ht.trans htrace
  rw [hsame, hconnected]

/-- The number of messages the main function has sent. -/
def sentAt : MainPoint → Nat
  | .sendingReliably messageIndex => messageIndex
  | .sendingUnreliably messageIndex => numOfMessages + messageIndex
  | _ => 0

/-- What holds at the points of the main function. -/
def AtPoint (net : ISteamNetworkingSockets) : MainPoint → World Client → Prop
  | .constructed, w => (w.self.packetCallback = none ∧ 0 < loopLimit w) ∧ Blank w
  | .configured, w => Configured w ∧ Blank w
  | .looping, w => Configured w ∧ Sends net 0 w ∧ Explained w
  | .updating, w => Configured w ∧ Sends net 0 w ∧ Explained w
  | .sendingReliably messageIndex, w =>
      messageIndex ≤ numOfMessages ∧ Sends net messageIndex w ∧ WasConnected net w
  | .sendingUnreliably messageIndex, w =>
      messageIndex ≤ numOfMessages ∧ Sends net (numOfMessages + messageIndex) w ∧
        WasConnected net w

/-- At each point of the main function the first messages of the script have been sent. -/
theorem AtPoint.sends {point : MainPoint} {w : World Client} (h : AtPoint net point w) :
  Sends net (sentAt point) w
  := by
  cases point with
  | constructed => exact sends_zero h.2.sends_eq_false
  | configured => exact sends_zero h.2.sends_eq_false
  | looping => exact h.2.1
  | updating => exact h.2.1
  | sendingReliably messageIndex => exact h.2.1
  | sendingUnreliably messageIndex => exact h.2.1

/-- What holds when the main function has failed. -/
def AtFailure (net : ISteamNetworkingSockets) (fault : Fault) (w : World Client) : Prop :=
  Failure net w fault ∧ ∃ n, Sends net n w

/-- The connecting leaves the connection opened, or it could not be made. -/
theorem initializeConnection_explained :
  Ensures (fun w => Configured w ∧ Blank w)
    (step net (.call (.initializeConnection "127.0.0.1" 8080)))
    (fun _ w => Configured w ∧ Sends net 0 w ∧ Explained w) fun _ _ => False
  := by
  apply Ensures.of_run_ok
  rintro w ⟨hw, hblank⟩
  have hsends := hblank.sends_eq_false
  have hnone : ∀ c, .connectByIPAddress c ∉ w.trace := fun c => hblank.not_mem (by simp)
  cases hparse : net.parseString w.trace (address "127.0.0.1" 8080) with
  | false =>
      have hrun := run_initializeConnection_unparsed hparse
      refine ⟨(), _, (run_bind_ok _ hrun).trans rfl, hw.same rfl, sends_zero ?_, .inr (.inl ?_)⟩
      · simpa [Event.sends] using hsends
      · simpa [NeverConnected] using fun c hc => absurd hc (hnone c)
  | true =>
      by_cases hc : net.connectByIPAddress w.trace (address "127.0.0.1" 8080) = 0
      · have hrun := run_initializeConnection_invalid hparse hc
        refine ⟨(), _, (run_bind_ok _ hrun).trans rfl, ?_, sends_zero ?_, .inr (.inl ?_)⟩
        · exact ⟨hw.silent, hw.installed, hw.limit⟩
        · simpa [Event.sends, connecting] using hsends
        · intro c hmem
          rcases List.mem_cons.mp hmem with heq | hmem
          · cases heq
          · rcases List.mem_cons.mp hmem with heq | hmem
            · cases heq
              apply hc
            · exact absurd hmem (hnone c)
      · have hrun := run_initializeConnection_valid hparse hc
        refine ⟨(), _, (run_bind_ok _ hrun).trans rfl, ?_, sends_zero ?_, .inl ?_⟩
        · exact ⟨hw.silent, hw.installed, hw.limit⟩
        · simpa [Event.sends, connecting] using hsends
        · use hc, List.mem_cons_self
          rw [connecting, List.mem_cons]
          rintro (heq | hmem)
          · cases heq
          · exact hblank.not_mem (by simp) hmem

/-- A message is sent if the client is connected; otherwise the assertion fails. -/
theorem sendPacketToServer_sends {n : Nat} {entry : Packet × SendType}
    (hentry : script[n]? = some entry) :
  Ensures (fun w => Sends net n w ∧ WasConnected net w)
    (step net (.call (.sendPacketToServer entry.1 entry.2)))
    (fun _ w => Sends net (n + 1) w ∧ WasConnected net w) (AtFailure net)
  := by
  rintro w ⟨hw, hbefore⟩
  by_cases hconnected : net.getConnectionInfo w.trace w.self.serverConnection = .connected
  · have hrun : (step net (.call (.sendPacketToServer entry.1 entry.2))).run w
        = .ok () { w with trace := sendEvent w.self.serverConnection entry :: w.trace } := by
      simp only [step, perform, sendPacketToServer, connected, EStateM.run_bind, EStateM.run_get,
        EStateM.run_pure, hconnected]
      rfl
    rw [hrun]
    exact ⟨hw.next hentry hconnected, hbefore.goesOn rfl (List.suffix_cons _ _)⟩
  · have hrun : (step net (.call (.sendPacketToServer entry.1 entry.2))).run w
        = .error (.assertionFailed .connectedToServer) w := by
      simp [step, perform, sendPacketToServer, connected, hconnected]
    rw [hrun]
    obtain ⟨t, ht, hthen⟩ := hbefore
    exact ⟨.disconnected t ht hthen hconnected, n, hw⟩

/-- The first message of the second loop, or the next one. -/
theorem sendUnreliably_sends {messageIndex : Nat} {s : ClientStep} {point : MainPoint} :
  Ensures
    (fun w => (Sends net (numOfMessages + messageIndex) w ∧ WasConnected net w) ∧
      sendUnreliably messageIndex = some (s, point))
    (step net s) (fun _ => AtPoint net point) (AtFailure net)
  := by
  rintro w ⟨hw, hnext⟩
  by_cases hindex : messageIndex < numOfMessages
  · rw [sendUnreliably, if_pos hindex] at hnext
    cases hnext
    exact (sendPacketToServer_sends (script_unreliable hindex)).imp
      (fun _ w' h => ⟨hindex, h⟩) w hw
  · rw [sendUnreliably, if_neg hindex] at hnext
    cases hnext

/-- Each step of the main function leads from what holds at its point to what holds at the next. -/
theorem main_carries (hnet : net.ReceivesWhileOpened) (hdispatches : net.DispatchesQueued) :
  Routine.Carries (step net) (main net) (AtPoint net) (AtFailure net)
  := by
  intro point s point'
  cases point with
  | constructed =>
      apply Ensures.of_run_ok
      rintro w ⟨⟨⟨hsilent, hlimit⟩, hblank⟩, ⟨⟩⟩
      exact ⟨_, _, rfl, ⟨hsilent, rfl, hlimit⟩, hblank⟩
  | configured =>
      rintro w ⟨hw, ⟨⟩⟩
      exact initializeConnection_explained.mono (fun _ h => h) (fun _ _ h => h)
        (fun _ _ h => h.elim) w hw
  | looping =>
      apply Ensures.of_run_ok
      rintro w ⟨hw, hnext⟩
      by_cases hconnected : net.getConnectionInfo w.trace w.self.serverConnection = .connected
      · simp only [main, if_pos hconnected] at hnext
        cases hnext
        exact ⟨_, w, rfl, Nat.zero_le _, hw.2.1, w.trace, List.suffix_rfl, hconnected⟩
      · simp only [main, if_neg hconnected] at hnext
        cases hnext
        exact ⟨_, w, rfl, hw⟩
  | updating =>
      rintro w ⟨⟨hw, hsends, hexplained⟩, ⟨⟩⟩
      have hkept : ∀ w', Idles w w' → Sends net 0 w' := by
        intro w' hidles
        apply hsends.goesOn hidles.same
        apply hidles.goesOn.mono
        intro e he
        cases e <;> first | rfl | cases he
      apply (updateConnection_explained hnet hdispatches hw hexplained).mono (fun _ h => h) _ _ w
        rfl
      · exact fun _ w' h => ⟨hw.same h.1.same, hkept w' h.1, h.2⟩
      · exact fun _ w' h => ⟨h.2, 0, hkept w' h.1⟩
  | sendingReliably messageIndex =>
      rintro w ⟨⟨hle, hw⟩, hnext⟩
      by_cases hindex : messageIndex < numOfMessages
      · simp only [main, if_pos hindex] at hnext
        cases hnext
        exact (sendPacketToServer_sends (script_reliable hindex)).imp
          (fun _ w' h => ⟨hindex, h⟩) w hw
      · have hlast : messageIndex = numOfMessages := by omega
        subst hlast
        simp only [main, if_neg hindex] at hnext
        have hfirst := @sendUnreliably_sends net 0 s point'
        exact hfirst w ⟨hw, hnext⟩
  | sendingUnreliably messageIndex =>
      rintro w ⟨⟨-, hw⟩, hnext⟩
      exact sendUnreliably_sends w ⟨hw, hnext⟩

/-- What happens outside the main function leaves the client alone. -/
theorem outside_run {s : ClientStep} {w w' : World Client} (hs : Outside w s)
    (hrun : (step net s).run w = .ok () w') :
  ∃ e, w' = { w with trace := e :: w.trace } ∧ ((∃ m, e = .arrived m) ∨ ∃ info, e = .queued info)
  := by
  cases s with
  | arrive m =>
      cases hrun
      exact ⟨_, rfl, .inl ⟨m, rfl⟩⟩
  | queue info =>
      cases hrun
      exact ⟨_, rfl, .inr ⟨info, rfl⟩⟩
  | _ => cases hs

/-- What holds at a point of the main function is left alone by what happens outside it. -/
theorem main_stable :
  Routine.Stable (step net) Outside (AtPoint net)
  := by
  intro point s w w' hw hs hrun
  obtain ⟨e, rfl, he⟩ := outside_run hs hrun
  have hblank : Blank w → Blank { w with trace := e :: w.trace } := by
    intro hblank e' he'
    rcases List.mem_cons.mp he' with rfl | he'
    · apply he
    · apply hblank e' he'
  have hsends : ∀ {n}, Sends net n w → Sends net n { w with trace := e :: w.trace } := by
    intro n hsends
    refine hsends.goesOn rfl (goesOnBy_cons rfl ?_)
    rcases he with ⟨m, rfl⟩ | ⟨info, rfl⟩
    · rfl
    · rfl
  have hconnected : WasConnected net w → WasConnected net { w with trace := e :: w.trace } :=
    fun h => h.goesOn rfl (List.suffix_cons _ _)
  have hexplained : Explained w → Explained { w with trace := e :: w.trace } := by
    apply Or.imp
    · rcases he with ⟨m, rfl⟩ | ⟨info, rfl⟩ <;> simp [ConnectionOpened, Opened]
    · apply Or.imp
      · rcases he with ⟨m, rfl⟩ | ⟨info, rfl⟩ <;> simp [NeverConnected]
      · exact fun h => h.mono (List.subset_cons_self _ _)
  cases point with
  | constructed => exact ⟨hw.1, hblank hw.2⟩
  | configured => exact ⟨hw.1.same rfl, hblank hw.2⟩
  | looping => exact ⟨hw.1.same rfl, hsends hw.2.1, hexplained hw.2.2⟩
  | updating => exact ⟨hw.1.same rfl, hsends hw.2.1, hexplained hw.2.2⟩
  | sendingReliably i => exact ⟨hw.1, hsends hw.2.1, hconnected hw.2.2⟩
  | sendingUnreliably i => exact ⟨hw.1, hsends hw.2.1, hconnected hw.2.2⟩

/-- A run of the main function leads to how far it has got, and to the state of the client. -/
def MainReaches (net : ISteamNetworkingSockets) (environment : World Client → ClientStep → Prop)
    (progress : Progress MainPoint Fault) (w : World Client) : Prop :=
  ∃ serverConnection, Routine.Reaches (step net) environment (main net) .constructed
    (newClient serverConnection) progress w

/-- What holds at the points of the main function holds in all its runs. -/
theorem MainReaches.holds (hnet : net.ReceivesWhileOpened) (hdispatches : net.DispatchesQueued)
    {progress : Progress MainPoint Fault} {w : World Client}
    (h : MainReaches net Outside progress w) :
  Routine.Holds (AtPoint net) (AtFailure net) (progress, w)
  := by
  obtain ⟨serverConnection, h⟩ := h
  apply h.holds (main_carries hnet hdispatches) main_stable
  refine ⟨⟨rfl, ?_⟩, ?_⟩
  · simp [newClient, construct, loopLimit]
  · simp [Blank, newClient]

theorem MainReaches.sends (hnet : net.ReceivesWhileOpened) (hdispatches : net.DispatchesQueued)
    {progress : Progress MainPoint Fault} {w : World Client}
    (h : MainReaches net Outside progress w) :
  ∃ n, Sends net n w
  := by
  have hholds := h.holds hnet hdispatches
  cases progress with
  | reached point => exact ⟨_, hholds.sends⟩
  | failed fault => exact hholds.2

theorem MainReaches.of_follow {environment : World Client → ClientStep → Prop}
    [∀ w s, Decidable (environment w s)] {turns : List (Option ClientStep)}
    {progress : Progress MainPoint Fault}
    (h : (Routine.follow (step net) environment (main net) turns .constructed (newClient 0)).map
      Prod.fst = some progress) :
  ∃ w, MainReaches net environment progress w
  := by
  obtain ⟨⟨_, w⟩, hfollow, rfl⟩ := Option.map_eq_some_iff.mp h
  exact ⟨w, 0, Routine.Reaches.of_follow hfollow⟩

/-- The main function has returned. -/
def Returned (net : ISteamNetworkingSockets) (w : World Client) : Progress MainPoint Fault → Prop
  | .reached point => main net w point = none
  | .failed _ => False

/-- A main function that has returned has sent the whole script. -/
theorem returned_length {point : MainPoint} {w : World Client} (hw : AtPoint net point w)
    (h : main net w point = none) :
  sentAt point = script.length
  := by
  have hlast : ∀ {i}, sendUnreliably i = none → numOfMessages ≤ i := by
    intro i hi
    rw [sendUnreliably] at hi
    split at hi
    · cases hi
    · omega
  cases point with
  | sendingReliably i =>
      have hi : ¬ i < numOfMessages := by
        intro hi
        simp only [main, if_pos hi] at h
        cases h
      simp only [main, if_neg hi] at h
      have hzero := hlast h
      rw [numOfMessages] at hzero
      omega
  | sendingUnreliably i =>
      have heq : i = numOfMessages := le_antisymm hw.1 (hlast h)
      rw [heq]
      rfl
  | _ => cases h

/-- Whatever happens outside it, the main function sends the first messages of its script in their
order and once each, all on one connection and each while that is connected, and nothing else.  When
it returns it has sent them all. -/
theorem main_sends (hnet : net.ReceivesWhileOpened) (hdispatches : net.DispatchesQueued)
    {progress : Progress MainPoint Fault} {w : World Client}
    (h : MainReaches net Outside progress w) :
  ∃ n, Sends net n w ∧ (Returned net w progress → n = script.length)
  := by
  have hholds := h.holds hnet hdispatches
  cases progress with
  | reached point => exact ⟨sentAt point, hholds.sends, returned_length hholds⟩
  | failed fault =>
      obtain ⟨-, n, hsends⟩ := hholds
      exact ⟨n, hsends, fun h => h.elim⟩

/-- The client connects, is connected by the second update, and sends its messages. -/
def greeting : List (Option ClientStep) :=
  [none, none, some (.queue ⟨1, .none, .connecting⟩), none, none,
    some (.queue ⟨1, .connecting, .connected⟩), none] ++ List.replicate 20 none

/-- A client that is connected sends all its messages. -/
theorem greeting_sends :
  ∃ w, MainReaches queueNetworking Outside (.reached (.sendingUnreliably 10)) w ∧
    ∃ n, Sends queueNetworking n w ∧
      (Returned queueNetworking w (.reached (.sendingUnreliably 10)) → n = script.length)
  := by
  have hfollow : (Routine.follow (step queueNetworking) Outside (main queueNetworking) greeting
      .constructed (newClient 0)).map Prod.fst = some (.reached (.sendingUnreliably 10)) := by
    decide +kernel
  obtain ⟨w, hreaches⟩ := MainReaches.of_follow hfollow
  exact ⟨w, hreaches, main_sends queueNetworking_receivesWhileOpened
    queueNetworking_dispatchesQueued hreaches⟩

/-- Whatever happens outside it, the main function can fail only as follows: it uses a null pointer
because its connection could not be made or has been ended, it gets a status event in a state that
is not mapped, or its connection is not connected any more when it sends. -/
theorem main_fails (hnet : net.ReceivesWhileOpened) (hdispatches : net.DispatchesQueued)
    {fault : Fault} {w : World Client} (h : MainReaches net Outside (.failed fault) w) :
  Failure net w fault
  := (h.holds hnet hdispatches).1

/-- The server refuses the client, which goes on updating its connection. -/
def refused : List (Option ClientStep) :=
  [none, none, none, some (.queue ⟨1, .connecting, .closedByPeer⟩), none, none, none]

/-- A client that cannot be connected fails. -/
theorem refused_fails :
  ∃ w, MainReaches queueNetworking Outside (.failed .nullDereference) w ∧
    Failure queueNetworking w .nullDereference
  := by
  have hfollow : (Routine.follow (step queueNetworking) Outside (main queueNetworking) refused
      .constructed (newClient 0)).map Prod.fst = some (.failed .nullDereference) := by
    decide +kernel
  obtain ⟨w, hreaches⟩ := MainReaches.of_follow hfollow
  exact ⟨w, hreaches, main_fails queueNetworking_receivesWhileOpened
    queueNetworking_dispatchesQueued hreaches⟩

end ExampleClient

end Chs
