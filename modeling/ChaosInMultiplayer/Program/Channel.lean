import Mathlib.Data.List.Basic

/-!
# Channels

A channel carries what has been sent on it.  Of what is sent reliably it carries the first part,
once each and in the order of the sends; the rest it may lose, repeat and reorder
(`Channel.MayCarry`).  So everything that has been carried has been sent, and its reliable part is
the first part of what has been sent reliably (`Channel.Honest`).  Whoever takes the first part of
what is carried sees an honest channel as well, and whoever skips some of it sees a part of what
has been sent, still in its order (`Channel.Skipping`).
-/

namespace Channel

variable {α : Type} (reliable : α → Bool)

/-- What the channel may carry next. -/
def MayCarry (sent carried : List α) (a : α) : Prop :=
  a ∈ sent ∧ (reliable a → carried.filter reliable ++ [a] <+: sent.filter reliable)

instance [DecidableEq α] (sent carried : List α) (a : α) :
    Decidable (MayCarry reliable sent carried a) :=
  inferInstanceAs (Decidable (_ ∧ _))

/-- What has been carried has been sent, the reliable part of it from the first send on. -/
structure Honest (sent carried : List α) : Prop where
  mem : ∀ a ∈ carried, a ∈ sent
  order : carried.filter reliable <+: sent.filter reliable

/-- What has been got has been sent, the reliable part of it in the order of the sends. -/
structure Skipping (sent got : List α) : Prop where
  mem : ∀ a ∈ got, a ∈ sent
  order : (got.filter reliable).Sublist (sent.filter reliable)

variable {reliable} {sent sent' carried got : List α}

theorem honest_nil (sent : List α) :
  Honest reliable sent []
  where
  mem := by simp
  order := List.nil_prefix

/-- Further sends leave a channel honest. -/
theorem Honest.send (h : Honest reliable sent carried) (hsent : sent <+: sent') :
  Honest reliable sent' carried
  where
  mem a ha := hsent.subset (h.mem a ha)
  order := h.order.trans (hsent.filter reliable)

/-- A channel that carries what it may stays honest. -/
theorem Honest.carry (h : Honest reliable sent carried) {a : α}
    (ha : MayCarry reliable sent carried a) :
  Honest reliable sent (carried ++ [a])
  where
  mem b hb := by
    rcases List.mem_append.mp hb with hb | hb
    · apply h.mem b hb
    · rw [List.mem_singleton.mp hb]
      exact ha.1
  order := by
    rw [List.filter_append]
    cases hr : reliable a with
    | true =>
        rw [List.filter_singleton, hr]
        apply ha.2 hr
    | false =>
        rw [List.filter_singleton, hr, cond_false, List.append_nil]
        apply h.order

/-- The first part of what an honest channel has carried is that of an honest channel. -/
theorem Honest.of_prefix (h : Honest reliable sent carried) (hgot : got <+: carried) :
  Honest reliable sent got
  where
  mem a ha := h.mem a (hgot.subset ha)
  order := (hgot.filter reliable).trans h.order

/-- Whoever skips some of what an honest channel has carried sees a part of what has been sent. -/
theorem Honest.of_sublist (h : Honest reliable sent carried) (hgot : got.Sublist carried) :
  Skipping reliable sent got
  where
  mem a ha := h.mem a (hgot.subset ha)
  order := (hgot.filter reliable).trans h.order.sublist

/-- Who skips some of what has been sent skips some of more. -/
theorem Skipping.of_sublist (h : Skipping reliable sent got) (hsent : sent.Sublist sent') :
  Skipping reliable sent' got
  where
  mem a ha := hsent.subset (h.mem a ha)
  order := h.order.trans (hsent.filter reliable)

end Channel
