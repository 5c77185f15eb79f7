import ChaosInMultiplayer.Client.Effect
import ChaosInMultiplayer.Server.Fault

/-!
# What the endpoints do besides receiving messages

Messages are obtained, passed to the packet callback and released by the receive loops only.  The
calls of callbacks, the dispatching of status events, the reading of the console and all steps
other than updates go on by events that have nothing to do with messages received.
-/

namespace Chs

open Program

/-- The event neither obtains nor releases a message, and it is no call of the packet callback. -/
def Event.besidesMessages : Event → Bool
  | .receiveMessagesOnPollGroup _ _ _ => false
  | .receiveMessagesOnConnection _ _ _ => false
  | .packetCallback _ _ => false
  | .packetCallbackReturned _ => false
  | .release _ => false
  | _ => true

/-- The program neither obtains nor releases messages, nor does it call the packet callback. -/
abbrev BesidesMessages {E α : Type} (p : EndpointM E α) : Prop :=
  Moves (GoesOnBy fun e => e.besidesMessages) p

variable {net : ISteamNetworkingSockets}

/-! ### At a server -/

namespace Server

/-- The effects of a server that are besides messages are made by events that are. -/
theorem besidesMessages_of_effects {extra : Event → Bool}
    (hextra : ∀ e, extra e → e.besidesMessages) {w w' : World Server}
    (h : Effects net (.all extra) w w') :
  GoesOnBy (fun e => e.besidesMessages) w w'
  := by
  apply h.goesOnBy.mono
  intro e hmay
  cases e with
  | receiveMessagesOnPollGroup _ _ _ => exact hextra _ hmay.2
  | receiveMessagesOnConnection _ _ _ => exact hextra _ hmay.2
  | packetCallback _ _ => exact hextra _ hmay.2
  | packetCallbackReturned _ => exact hextra _ hmay.2
  | release _ => exact hextra _ hmay.2
  | _ => rfl

/-- A script neither receives nor releases a message. -/
theorem script_besidesMessages (script : ServerScript Unit) :
  BesidesMessages (script.run (perform net))
  := fun w => besidesMessages_of_effects (fun _ h => by cases h)
      (script_moves_all (fun _ => false) script w)

/-- What an update does after the packets neither receives nor releases a message. -/
theorem dispatch_besidesMessages :
  BesidesMessages (do
    processConnectionStateChanges net
    processUserInput : ServerM Unit)
  := by
  intro w
  apply besidesMessages_of_effects _ (dispatch_moves w)
  intro e he
  cases e <;> first | rfl | cases he

/-- Only an update receives and releases messages. -/
theorem step_besidesMessages (s : ServerStep) (hs : s ≠ .updateConnection) :
  BesidesMessages (step net s)
  := by
  cases s with
  | updateConnection => exact absurd rfl hs
  | arrive m => exact fun w => goesOnBy_cons rfl rfl
  | queue info => exact fun w => goesOnBy_cons rfl rfl
  | openConnection =>
      intro w
      apply (openConnection_goesOnBy w).mono
      intro e hopens
      cases e <;> first | rfl | cases hopens
  | call c =>
      apply Moves.bind
      · exact fun w => besidesMessages_of_effects (fun _ h => by cases h)
          (perform_moves c (permits_all (fun _ => false) c) w)
      intro _
      apply Moves.pure
  | _ => exact fun w => ⟨[], rfl, by simp⟩

end Server

/-! ### At a client -/

namespace Client

/-- What the callbacks of a client do is besides messages. -/
theorem besidesMessages_follows {extra : Event → Prop}
    (hextra : ∀ e, extra e → e.besidesMessages) :
  Follows net (GoesOnBy fun e => e.besidesMessages) extra
  := by
  apply goesOnBy_follows _ (fun _ => rfl) hextra
  intro e he
  cases e <;> first | rfl | cases he

/-- The calls of the callbacks of a client are besides messages. -/
theorem calls_besidesMessages :
  Follows net (GoesOnBy fun e => e.besidesMessages) fun _ => False
  := besidesMessages_follows fun _ h => h.elim

/-- A script neither receives nor releases a message. -/
theorem script_besidesMessages (script : ClientScript Unit) :
  BesidesMessages (script.run (perform net))
  := script_moves calls_besidesMessages script

/-- The dispatch of the status events neither receives nor releases a message. -/
theorem dispatch_besidesMessages :
  BesidesMessages (processConnectionStateChanges net)
  := by
  have hfollows : Follows net (GoesOnBy fun e => e.besidesMessages) fun e => e.besidesMessages :=
    besidesMessages_follows fun _ h => h
  apply Moves.get_bind
  intro w
  apply Moves.bind
  · exact fun w => goesOnBy_cons rfl rfl
  intro _
  apply Moves.forM
  intro info _
  exact onSteamNetConnectionStatusChanged_moves hfollows fun _ _ => rfl

/-- Only an update receives and releases messages. -/
theorem step_besidesMessages (s : ClientStep) (hs : s ≠ .updateConnection) :
  BesidesMessages (step net s)
  := by
  cases s with
  | updateConnection => exact absurd rfl hs
  | arrive m => exact fun w => goesOnBy_cons rfl rfl
  | queue info => exact fun w => goesOnBy_cons rfl rfl
  | call c =>
      apply Moves.bind (perform_moves calls_besidesMessages c)
      intro _
      apply Moves.pure
  | _ => exact fun w => ⟨[], rfl, by simp⟩

end Client

end Chs
