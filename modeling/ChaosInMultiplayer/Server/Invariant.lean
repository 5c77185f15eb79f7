import ChaosInMultiplayer.Server.Effect
import Mathlib.Data.List.Induction

/-!
# Invariants of the registry

`Coupled` ties the entries of the registry to what has happened: an entry holds the handle
it is registered under, the connection of a closed entry has been passed to
`CloseConnection`, and so has every connection that is registered no longer.  `Grouped`
says that the connections in a poll group are registered; it relies on the networking
library refusing closed handles.  Both hold in every state a run of the server reaches.
-/

namespace Chs

namespace Server

open Program Relation

variable {net : ISteamNetworkingSockets}

/-! ### Invariants of runs -/

/-- A property of the world that each effect, each opening and each change of the settings
preserves is kept by every step. -/
theorem step_keeps {I : World Server → Prop}
    (heffect : ∀ w w', AnyEffect net w w' → I w → I w')
    (hopened : ∀ w, I w → I (opened net w))
    (hnotOpened : ∀ w, I w → I (notOpened w))
    (hsettings : ∀ w packetCallback statusCallback limit, I w →
      I { w with
        self :=
          { w.self with
            packetCallback := packetCallback
            connectionStatusChangeCallback := statusCallback
            maxProcessedPackets := limit } })
    (s : ServerStep) :
  Keeps I (step net s)
  := by
  have heffects : ∀ w w', AnyEffects net w w' → I w → I w' := by
    intro w w' h hw
    induction h with
    | refl => apply hw
    | tail _ hs ih => apply heffect _ _ hs ih
  cases s with
  | arrive m => exact (emit_moves rfl rfl).keeps heffects
  | queue info => exact (emit_moves rfl rfl).keeps heffects
  | enter line =>
      intro w
      apply heffect
      apply Effect.input (w.self.inputQueue ++ [line]) w.self.quitRequested id
  | setMaxProcessedPackets value =>
      intro w
      apply hsettings w w.self.packetCallback w.self.connectionStatusChangeCallback value
  | setPacketCallback callback =>
      intro w
      apply hsettings w callback w.self.connectionStatusChangeCallback w.self.maxProcessedPackets
  | setConnectionStatusChangeCallback callback =>
      intro w
      apply hsettings w w.self.packetCallback callback w.self.maxProcessedPackets
  | openConnection =>
      intro w hw
      cases h : net.parseString w.trace w.self.address with
      | true =>
          rw [step, exit_ok (run_openConnection_parsed h)]
          apply hopened w hw
      | false =>
          rw [step, exit_ok (run_openConnection_unparsed h)]
          apply hnotOpened w hw
  | updateConnection => exact updateConnection_moves.keeps heffects
  | call c =>
      apply Moves.bind
      · apply (perform_moves c (permits_all _ c)).keeps heffects
      · intro _
        apply Moves.pure

/-! ### What events leave of the connections -/

theorem registered_mem_cons_of_plain {e : Event} (he : e.plain) {k : HSteamNetConnection}
    {t : Trace} :
  .registered k ∈ e :: t ↔ .registered k ∈ t
  := by
  cases e <;> simp_all [Event.plain]

theorem groupOf_cons_of_plain {e : Event} (he : e.plain) (k : HSteamNetConnection) (t : Trace) :
  groupOf k (e :: t) = groupOf k t
  := by
  cases e <;> simp_all [Event.plain, groupOf]

/-- The events of an opening leave the poll groups of connections alone. -/
theorem groupOf_append_of_opens {es : List Event} (hes : ∀ e ∈ es, e.opens)
    (k : HSteamNetConnection) (t : Trace) :
  groupOf k (es ++ t) = groupOf k t
  := by
  apply History.unchanged_append _ hes
  intro e t he
  cases e <;> first | rfl | cases he

/-- A connection is in no poll group when it has been closed in `closings es`, or was in none
before. -/
theorem groupOf_closings (es : List (Sigma fun _ : HSteamNetConnection => ClientConnection))
    (k : HSteamNetConnection) (t : Trace) :
  groupOf k (closings es ++ t)
    = if .closeConnection k ∈ closings es then none else groupOf k t
  := by
  induction es using List.reverseRecOn with
  | nil => simp [closings]
  | append_singleton es entry ih =>
      have hc : closings (es ++ [entry])
          = .closeConnection entry.2.netConnection :: closings es := by
        simp [closings]
      rw [hc, List.cons_append, groupOf, ih]
      by_cases h : entry.2.netConnection = k
      · simp [h]
      · simp [h, Ne.symm h]

/-! ### Entries and closed connections -/

/-- The registry agrees with what has happened: an entry holds the handle it is registered
under, the connections of closed entries have been closed, and every connection that has
been registered still is or has been closed. -/
structure Coupled (C : ClientConnections) (t : Trace) : Prop where
  handle : ∀ k c, C.lookup k = some c → c.netConnection = k
  closed : ∀ k c, C.lookup k = some c → c.closed → .closeConnection k ∈ t
  registered : ∀ k, .registered k ∈ t → k ∈ C ∨ .closeConnection k ∈ t

namespace Coupled

variable {C : ClientConnections} {t : Trace}

/-- The empty registry is coupled with the empty trace. -/
theorem empty :
  Coupled ∅ []
  := by
  constructor
  · simp
  · simp
  · simp

/-- A plain event keeps the coupling. -/
theorem cons_plain (h : Coupled C t) {e : Event} (he : e.plain) :
  Coupled C (e :: t)
  := by
  constructor
  · apply h.handle
  · intro k c hk hc
    apply List.mem_cons_of_mem _ (h.closed k c hk hc)
  · intro k hk
    rw [registered_mem_cons_of_plain he] at hk
    rcases h.registered k hk with hk | hk
    · left
      apply hk
    · right
      apply List.mem_cons_of_mem _ hk

/-- Writing an entry with the handle of its key, after some more has happened. -/
theorem insert (h : Coupled C t) {k : HSteamNetConnection} {client : ClientConnection}
    (es : List Event) (hes : ∀ j, .registered j ∈ es → j = k) (hk : client.netConnection = k)
    (hc : client.closed → .closeConnection k ∈ es ++ t) :
  Coupled (C.insert k client) (es ++ t)
  := by
  constructor
  · intro j c hj
    by_cases hjk : j = k
    · subst hjk
      rw [AList.lookup_insert, Option.some.injEq] at hj
      rw [← hj, hk]
    · rw [AList.lookup_insert_ne hjk] at hj
      apply h.handle j c hj
  · intro j c hj hcj
    by_cases hjk : j = k
    · subst hjk
      rw [AList.lookup_insert, Option.some.injEq] at hj
      rw [← hj] at hcj
      apply hc hcj
    · rw [AList.lookup_insert_ne hjk] at hj
      apply List.mem_append_right _ (h.closed j c hj hcj)
  · intro j hj
    rw [AList.mem_insert]
    rcases List.mem_append.mp hj with hj | hj
    · left
      left
      apply hes j hj
    · rcases h.registered j hj with hj | hj
      · left
        right
        apply hj
      · right
        apply List.mem_append_right _ hj

/-- Erasing a closed entry. -/
theorem erase (h : Coupled C t) {k : HSteamNetConnection} {client : ClientConnection}
    (hk : C.lookup k = some client) (hc : client.closed) :
  Coupled (C.erase k) t
  := by
  constructor
  · intro j c hj
    by_cases hjk : j = k
    · subst hjk
      simp at hj
    · rw [AList.lookup_erase_ne hjk] at hj
      apply h.handle j c hj
  · intro j c hj hcj
    by_cases hjk : j = k
    · subst hjk
      simp at hj
    · rw [AList.lookup_erase_ne hjk] at hj
      apply h.closed j c hj hcj
  · intro j hj
    by_cases hjk : j = k
    · subst hjk
      right
      apply h.closed j client hk hc
    · rw [AList.mem_erase]
      rcases h.registered j hj with hj | hj
      · left
        exact ⟨hjk, hj⟩
      · right
        apply hj

/-- Closing every connection and clearing the registry. -/
theorem clear (h : Coupled C t) (es : List Event) (hes : ∀ j, .registered j ∉ es)
    (hclosed : ∀ e ∈ closings C.entries, e ∈ es) :
  Coupled ∅ (es ++ t)
  := by
  constructor
  · simp
  · simp
  · intro j hj
    right
    rcases List.mem_append.mp hj with hj | hj
    · apply absurd hj (hes j)
    · rcases h.registered j hj with hj | hj
      · obtain ⟨client, hclient⟩ := Option.isSome_iff_exists.mp (AList.lookup_isSome.mpr hj)
        apply List.mem_append_left
        apply hclosed
        rw [mem_closings]
        use ⟨j, client⟩, AList.mem_lookup_iff.mp hclient
        rw [h.handle j client hclient]
      · apply List.mem_append_right _ hj

end Coupled

/-- The registry of a world agrees with what has happened in it. -/
def RegistryCoupled (w : World Server) : Prop :=
  Coupled w.self.connections w.trace

/-- Every effect keeps the registry coupled with what has happened. -/
theorem Effect.keeps_coupled {allowed : Allowed} {w w' : World Server}
    (h : Effect net allowed w w')
    (hw : RegistryCoupled w) :
  RegistryCoupled w'
  := by
  cases h with
  | emit e he _ => apply hw.cons_plain he
  | input lines quit hquit => apply hw
  | @register k hk =>
      apply hw.insert [.registered k]
      · simp
      · rfl
      · simp [ClientConnection.construct, ClientConnection.closed]
  | @accept k client hk =>
      obtain ⟨hh, hc, ok, ht⟩ := accept_entry net client w.trace
      rw [RegistryCoupled, put, ht]
      apply hw.insert [_]
      · simp
      · rw [hh, hw.handle k client hk]
      · intro hcl
        apply List.mem_cons_of_mem _ (hw.closed k client hk (hc hcl))
  | @setPollGroup k client g _ hk =>
      obtain ⟨hh, hc, ht⟩ := setPollGroup_entry net client g w.trace
      rw [RegistryCoupled, put, ht]
      apply hw.insert [_]
      · simp
      · rw [hh, hw.handle k client hk]
      · intro hcl
        apply List.mem_cons_of_mem _ (hw.closed k client hk (hc hcl))
  | @setAlias k client value hk =>
      apply hw.insert []
      · simp
      · apply hw.handle k client hk
      · apply hw.closed k client hk
  | @close k client _ hk =>
      apply hw.insert [.closeConnection client.netConnection]
      · simp
      · apply hw.handle k client hk
      · intro _
        rw [hw.handle k client hk]
        apply List.mem_cons_self
  | @erase k client hk hc => apply hw.erase hk hc
  | shutdown _ =>
      have hclear := hw.clear
        (.destroyPollGroup w.self.pollGroup :: .closeListenSocket w.self.listeningSocket ::
          (closings w.self.connections.entries ++ [.log .info "Closing connections..."]))
        (by simp [mem_closings])
        (by
          intro e he
          simp [he])
      simpa [RegistryCoupled, Server.shutdown] using hclear

/-- An opening keeps the registry coupled with what has happened. -/
theorem opened_keeps_coupled {w : World Server} (hw : RegistryCoupled w) :
  RegistryCoupled (opened net w)
  := by
  have hgoes : GoesOnBy (fun e => e.opens) w (opened net w) := opened_goesOnBy w
  have hsub := hgoes.subset
  constructor
  · apply hw.handle
  · intro k c hk hc
    apply hsub (hw.closed k c hk hc)
  · intro k hk
    rcases hw.registered k ((hgoes.mem_iff (by simp)).mp hk) with hk | hk
    · left
      apply hk
    · right
      apply hsub hk

/-- Every step of a run keeps the registry coupled with what has happened. -/
theorem step_keeps_coupled (s : ServerStep) :
  Keeps RegistryCoupled (step net s)
  := by
  apply step_keeps
  · intro w w' h hw
    apply h.keeps_coupled hw
  · intro w hw
    apply opened_keeps_coupled hw
  · intro w hw
    apply Coupled.cons_plain hw rfl
  · intro w _ _ _ hw
    apply hw

/-- The registry of a new server is coupled with what has happened. -/
theorem newServer_coupled (ip : String) (port : UInt32) (socket : HSteamListenSocket)
    (group : HSteamNetPollGroup) :
  RegistryCoupled (newServer ip port socket group)
  := Coupled.empty

/-- In every run the registry stays coupled with what has happened. -/
theorem runSteps_coupled (steps : List ServerStep) {w : World Server} (hw : RegistryCoupled w) :
  RegistryCoupled (exit (runSteps net steps) w)
  := Moves.forM (fun s _ => step_keeps_coupled s) w hw

/-! ### Poll groups -/

/-- The connections in poll groups are registered and have not been closed. -/
structure Grouped (C : ClientConnections) (t : Trace) : Prop where
  refused : ∀ k, .closeConnection k ∈ t → groupOf k t = none
  member : ∀ k, groupOf k t ≠ none → k ∈ C

/-- The registry of a world agrees with what has happened in it, and holds the connections
in poll groups. -/
def RegistryGrouped (w : World Server) : Prop :=
  RegistryCoupled w ∧ Grouped w.self.connections w.trace

theorem closed_mem_cons_of_plain {e : Event} (he : e.plain) {k : HSteamNetConnection}
    {t : Trace} (h : .closeConnection k ∈ e :: t) :
  .closeConnection k ∈ t
  := by
  cases e <;> simp_all [Event.plain]

namespace Grouped

variable {C C' : ClientConnections} {t t' : Trace}

/-- Events that leave the poll groups and the closed connections alone keep the connections
in poll groups registered, as long as no entry is erased. -/
theorem of_same (h : Grouped C t) (hgroup : ∀ k, groupOf k t' = groupOf k t)
    (hclosed : ∀ k, .closeConnection k ∈ t' → .closeConnection k ∈ t) (hC : ∀ k ∈ C, k ∈ C') :
  Grouped C' t'
  := by
  constructor
  · intro k hk
    rw [hgroup]
    apply h.refused k (hclosed k hk)
  · intro k hk
    rw [hgroup] at hk
    apply hC k (h.member k hk)

theorem cons_plain (h : Grouped C t) {e : Event} (he : e.plain) :
  Grouped C (e :: t)
  := by
  apply h.of_same
  · intro k
    apply groupOf_cons_of_plain he
  · intro k hk
    apply closed_mem_cons_of_plain he hk
  · intro k hk
    apply hk

theorem mem_insert (k : HSteamNetConnection) (client : ClientConnection)
    {j : HSteamNetConnection} (hj : j ∈ C) :
  j ∈ C.insert k client
  := by
  rw [AList.mem_insert]
  right
  apply hj

/-- Writing an entry, after an event that is neither about a poll group nor about a closing. -/
theorem insert (h : Grouped C t) (k : HSteamNetConnection) (client : ClientConnection)
    (hgroup : ∀ j, groupOf j t' = groupOf j t)
    (hclosed : ∀ j, .closeConnection j ∈ t' → .closeConnection j ∈ t) :
  Grouped (C.insert k client) t'
  := by
  apply h.of_same hgroup hclosed
  intro j hj
  apply mem_insert k client hj

/-- Putting a connection that has not been closed in a poll group. -/
theorem insert_grouped (h : Grouped C t) {k : HSteamNetConnection} (client : ClientConnection)
    (g : HSteamNetPollGroup) (hk : .closeConnection k ∉ t) :
  Grouped (C.insert k client) (.setConnectionPollGroup k g true :: t)
  := by
  constructor
  · intro j hj
    have hj' : .closeConnection j ∈ t := by simpa using hj
    have hjk : ¬ k = j := by
      rintro rfl
      apply hk hj'
    rw [groupOf, if_neg hjk]
    apply h.refused j hj'
  · intro j hj
    by_cases hjk : k = j
    · rw [hjk, AList.mem_insert]
      left
      rfl
    · rw [groupOf, if_neg hjk] at hj
      apply mem_insert k client (h.member j hj)

/-- Closing a connection takes it out of its poll group. -/
theorem insert_closed (h : Grouped C t) (k : HSteamNetConnection) (client : ClientConnection) :
  Grouped (C.insert k client) (.closeConnection k :: t)
  := by
  constructor
  · intro j hj
    rw [groupOf]
    by_cases hjk : k = j
    · rw [if_pos hjk]
    · rw [if_neg hjk]
      apply h.refused j
      simpa [Ne.symm hjk] using hj
  · intro j hj
    by_cases hjk : k = j
    · rw [groupOf, if_pos hjk] at hj
      apply absurd rfl hj
    · rw [groupOf, if_neg hjk] at hj
      apply mem_insert k client (h.member j hj)

/-- Erasing the entry of a connection that has been closed. -/
theorem erase (h : Grouped C t) {k : HSteamNetConnection} (hk : .closeConnection k ∈ t) :
  Grouped (C.erase k) t
  := by
  use h.refused
  intro j hj
  have hjk : j ≠ k := by
    rintro rfl
    apply hj (h.refused j hk)
  rw [AList.mem_erase]
  exact ⟨hjk, h.member j hj⟩

/-- Closing every registered connection leaves none in a poll group. -/
theorem groupOf_closings (h : Grouped C t) (hC : Coupled C t) (k : HSteamNetConnection) :
  groupOf k (closings C.entries ++ t) = none
  := by
  rw [Server.groupOf_closings]
  split
  · rfl
  · rename_i hnot
    by_contra hgroup
    obtain ⟨client, hclient⟩ :=
      Option.isSome_iff_exists.mp (AList.lookup_isSome.mpr (h.member k hgroup))
    apply hnot
    rw [mem_closings]
    use ⟨k, client⟩, AList.mem_lookup_iff.mp hclient
    rw [hC.handle k client hclient]

/-- No connection is in a poll group after they have all been closed and the registry has been
cleared. -/
theorem clear (hgroup : ∀ k, groupOf k t = none) :
  Grouped C t
  := by
  constructor
  · intro k _
    apply hgroup
  · intro k hk
    apply absurd (hgroup k) hk

end Grouped

/-- Every effect keeps the members of the poll groups registered. -/
theorem Effect.keeps_grouped (hnet : net.RefusesClosed) {allowed : Allowed}
    {w w' : World Server} (h : Effect net allowed w w') (hw : RegistryGrouped w) :
  RegistryGrouped w'
  := by
  use h.keeps_coupled hw.1
  obtain ⟨hc, hg⟩ := hw
  cases h with
  | emit e he _ => apply hg.cons_plain he
  | input lines quit hquit => apply hg
  | @register k hk =>
      apply hg.insert
      · intro j
        rfl
      · intro j hj
        simpa [put] using hj
  | @accept k client hk =>
      obtain ⟨-, -, ok, ht⟩ := accept_entry net client w.trace
      rw [put, ht]
      apply hg.insert
      · intro j
        rfl
      · intro j hj
        simpa using hj
  | @setPollGroup k client g _ hk =>
      obtain ⟨-, -, ht⟩ := setPollGroup_entry net client g w.trace
      rw [put, ht, hc.handle k client hk]
      cases hok : net.setConnectionPollGroup w.trace k g with
      | false =>
          apply hg.insert
          · intro j
            rfl
          · intro j hj
            simpa using hj
      | true =>
          -- A closed connection would have been refused.
          apply hg.insert_grouped
          intro hclosed
          rw [(hnet w.trace k hclosed).2 g] at hok
          cases hok
  | @setAlias k client value hk =>
      apply hg.insert
      · intro j
        rfl
      · intro j hj
        apply hj
  | @close k client _ hk =>
      rw [put, ClientConnection.close, hc.handle k client hk]
      apply hg.insert_closed
  | @erase k client hk hcl => apply hg.erase (hc.closed k client hk hcl)
  | shutdown _ =>
      apply Grouped.clear
      intro k
      have hk := (hg.cons_plain (e := .log .info "Closing connections...") rfl).groupOf_closings
        (hc.cons_plain rfl) k
      simp [Server.shutdown, groupOf, hk]

/-- An opening keeps the members of the poll groups registered. -/
theorem opened_keeps_grouped {w : World Server} (hw : RegistryGrouped w) :
  RegistryGrouped (opened net w)
  := by
  have hgoes : GoesOnBy (fun e => e.opens) w (opened net w) := opened_goesOnBy w
  use opened_keeps_coupled hw.1
  apply hw.2.of_same
  · intro k
    obtain ⟨es, hes, hopens⟩ := hgoes
    rw [hes, groupOf_append_of_opens hopens]
  · intro k
    apply (hgoes.mem_iff (by simp)).mp
  · intro k hk
    apply hk

/-- Every step of a run keeps the connections in poll groups registered, if the networking
library refuses closed handles. -/
theorem step_keeps_grouped (hnet : net.RefusesClosed) (s : ServerStep) :
  Keeps RegistryGrouped (step net s)
  := by
  apply step_keeps
  · intro w w' h hw
    apply h.keeps_grouped hnet hw
  · intro w hw
    apply opened_keeps_grouped hw
  · intro w hw
    have h : AnyEffect net { w with self := { w.self with running := false } } (notOpened w) :=
      .emit (.log .error "Invalid server address format") rfl rfl
    apply h.keeps_grouped hnet hw
  · intro w _ _ _ hw
    apply hw

/-- In a new server the poll groups have no members. -/
theorem newServer_grouped (ip : String) (port : UInt32) (socket : HSteamListenSocket)
    (group : HSteamNetPollGroup) :
  RegistryGrouped (newServer ip port socket group)
  := by
  use newServer_coupled ip port socket group
  constructor
  · simp [newServer]
  · simp [newServer, groupOf]

end Server

end Chs
