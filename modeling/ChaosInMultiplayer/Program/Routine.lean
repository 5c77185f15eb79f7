import ChaosInMultiplayer.Program.Ensures
import Mathlib.Logic.Relation

/-!
# Routines

A routine makes one step after another, going from program point to program point, until it returns
or a step of its own is left by an exception.  In between its environment makes other steps.  What
holds at the point where a routine starts, and is carried from point to point by its steps and kept
by those of its environment, holds in every state of its runs (`Routine.Reaches.holds`).
-/

namespace Program

variable {P ε ι σ : Type}

/-- What a program does next at its points: the step it makes and the point it goes to, or nothing
where it returns. -/
abbrev Routine (P ι σ : Type) := σ → P → Option (ι × P)

/-- How far a routine has got: to a point, or to the fault that has ended it. -/
inductive Progress (P ε : Type) where
  | reached (p : P)
  | failed (e : ε)
  deriving DecidableEq

namespace Routine

variable (step : ι → EStateM ε σ PUnit) (environment : σ → ι → Prop) (r : Routine P ι σ)

/-- The steps of a routine and of its environment. -/
inductive Step : Progress P ε × σ → Progress P ε × σ → Prop where
  | own {p p' i s s'} (hnext : r s p = some (i, p')) (hrun : (step i).run s = .ok ⟨⟩ s') :
      Step (.reached p, s) (.reached p', s')
  | fail {p p' i e s s'} (hnext : r s p = some (i, p')) (hrun : (step i).run s = .error e s') :
      Step (.reached p, s) (.failed e, s')
  | other {p i s s'} (hi : environment s i) (hrun : (step i).run s = .ok ⟨⟩ s') :
      Step (.reached p, s) (.reached p, s')

/-- A run of the routine and its environment from a point leads to how far it has got. -/
def Reaches (p : P) (s : σ) (progress : Progress P ε) (s' : σ) : Prop :=
  Relation.ReflTransGen (Step step environment r) (.reached p, s) (progress, s')

/-- `I` holds at the points, and `E` where the routine has failed. -/
def Holds (I : P → σ → Prop) (E : ε → σ → Prop) : Progress P ε × σ → Prop
  | (.reached p, s) => I p s
  | (.failed e, s) => E e s

/-- The steps of the routine carry `I` from point to point, or leave it with `E`. -/
def Carries (I : P → σ → Prop) (E : ε → σ → Prop) : Prop :=
  ∀ p i p', Ensures (fun s => I p s ∧ r s p = some (i, p')) (step i) (fun _ => I p') E

/-- The steps of the environment keep `I` at every point. -/
def Stable (I : P → σ → Prop) : Prop :=
  ∀ p i s s', I p s → environment s i → (step i).run s = .ok ⟨⟩ s' → I p s'

variable {step environment r} {I : P → σ → Prop} {E : ε → σ → Prop}

/-- What is carried through the steps of a routine and kept by its environment holds after each
step. -/
theorem Step.holds (hcarries : Carries step r I E) (hstable : Stable step environment I)
    {c c' : Progress P ε × σ} (h : Step step environment r c c') (hc : Holds I E c) :
  Holds I E c'
  := by
  cases h with
  | own hnext hrun =>
      have hensures := hcarries _ _ _ _ ⟨hc, hnext⟩
      rw [hrun] at hensures
      apply hensures
  | fail hnext hrun =>
      have hensures := hcarries _ _ _ _ ⟨hc, hnext⟩
      rw [hrun] at hensures
      apply hensures
  | other hi hrun => apply hstable _ _ _ _ hc hi hrun

/-- What the steps carry and keep holds in every state of a run. -/
theorem Reaches.holds (hcarries : Carries step r I E) (hstable : Stable step environment I)
    {p : P} {s s' : σ} {progress : Progress P ε}
    (h : Reaches step environment r p s progress s') (hs : I p s) :
  Holds I E (progress, s')
  := by
  have hall : ∀ c, Relation.ReflTransGen (Step step environment r) (.reached p, s) c →
      Holds I E c := by
    intro c hc
    induction hc with
    | refl => apply hs
    | tail _ hstep ih => apply hstep.holds hcarries hstable ih
  apply hall _ h

/-- How far a step leads whose next point is `p`. -/
def after (p : P) : EStateM.Result ε σ PUnit → Progress P ε
  | .ok _ _ => .reached p
  | .error e _ => .failed e

/-- The step a routine makes next, whether it returns or not. -/
theorem Step.next {p p' : P} {i : ι} {s : σ} (hnext : r s p = some (i, p')) :
  Step step environment r (.reached p, s) (after p' ((step i).run s), exit (step i) s)
  := by
  cases hrun : (step i).run s with
  | ok a s' =>
      rw [exit_ok hrun]
      exact .own hnext hrun
  | error e s' =>
      rw [exit_error hrun]
      exact .fail hnext hrun

/-! ### Schedules -/

section Schedule

variable [∀ s i, Decidable (environment s i)]

variable (step environment r) in
/-- How far the routine gets when it and its environment take turns as scheduled: `none` is a step
of its own, `some i` is the step `i` of its environment. -/
def follow : List (Option ι) → P → σ → Option (Progress P ε × σ)
  | [], p, s => some (.reached p, s)
  | none :: turns, p, s =>
      match r s p with
      | none => none
      | some (i, p') =>
          match (step i).run s with
          | .ok _ s' => follow turns p' s'
          | .error e s' => some (.failed e, s')
  | some i :: turns, p, s =>
      if environment s i then
        match (step i).run s with
        | .ok _ s' => follow turns p s'
        | .error _ _ => none
      else none

/-- What is reached by a schedule is reached by a run. -/
theorem Reaches.of_follow {turns : List (Option ι)} {p : P} {s s' : σ} {progress : Progress P ε}
    (h : follow step environment r turns p s = some (progress, s')) :
  Reaches step environment r p s progress s'
  := by
  induction turns generalizing p s with
  | nil =>
      cases h
      exact .refl
  | cons turn turns ih =>
      cases turn with
      | none =>
          simp only [follow] at h
          split at h
          · cases h
          · next i p' hnext =>
              split at h
              · next s₁ hrun => exact .head (.own hnext hrun) (ih h)
              · next e s₁ hrun =>
                  cases h
                  exact .single (.fail hnext hrun)
      | some i =>
          simp only [follow] at h
          split at h
          · next henvironment =>
              split at h
              · next s₁ hrun => exact .head (.other henvironment hrun) (ih h)
              · cases h
          · cases h

/-- What the own steps of a routine carry, counted, and its environment keeps, holds after as many
own steps as are scheduled. -/
theorem follow_holds {I : Nat → P → σ → Prop} {E : ε → σ → Prop}
    (hown : ∀ n p i p', Ensures (fun s => I n p s ∧ r s p = some (i, p')) (step i)
      (fun _ => I (n + 1) p') E)
    (hother : ∀ n, Stable step environment (I n)) {turns : List (Option ι)} {n : Nat} {p : P}
    {s s' : σ} {progress : Progress P ε}
    (h : follow step environment r turns p s = some (progress, s')) (hs : I n p s) :
  Holds (I (n + turns.countP Option.isNone)) E (progress, s')
  := by
  induction turns generalizing n p s with
  | nil =>
      cases h
      exact hs
  | cons turn turns ih =>
      cases turn with
      | none =>
          rw [List.countP_cons_of_pos rfl, Nat.add_comm _ 1, ← Nat.add_assoc]
          simp only [follow] at h
          split at h
          · cases h
          · next i p' hnext =>
              have hensures := hown n p i p' s ⟨hs, hnext⟩
              split at h
              · next s₁ hrun =>
                  rw [hrun] at hensures
                  exact ih h hensures
              · next e s₁ hrun =>
                  cases h
                  rw [hrun] at hensures
                  exact hensures
      | some i =>
          rw [List.countP_cons_of_neg (by simp)]
          simp only [follow] at h
          split at h
          · next henvironment =>
              split at h
              · next s₁ hrun => exact ih h (hother n p i s s₁ hs henvironment hrun)
              · cases h
          · cases h

end Schedule

end Routine

end Program
