import Mathlib.Order.Defs.Unbundled
import Mathlib.Data.List.Basic

/-!
# Programs with a state and exceptions

A program is a computation of `EStateM ε σ α`: from a state of `σ` it ends in a state of
`σ`, either with a value of `α` or with an exception of `ε`, and the state reached before
an exception is kept.  `Program.Moves R p` says that every run of `p` relates its first
state to its last by `R`, `Program.Raises E p` that every exception `p` raises satisfies
`E`.  Both are closed under the ways programs are built when `R` is a preorder.  A list of
steps is run by `forM`, and `Program.Along` says that a condition on the state before
a step holds at every step of such a run.
-/

namespace Program

variable {ε σ α β ι : Type}

/-- The state in which a run of `p` from `s` ends, with a value or with an exception. -/
def exit (p : EStateM ε σ α) (s : σ) : σ :=
  match p.run s with
  | .ok _ s' => s'
  | .error _ s' => s'

theorem exit_ok {p : EStateM ε σ α} {s s' : σ} {a : α} (h : p.run s = .ok a s') :
  exit p s = s'
  := by
  rw [exit, h]

theorem exit_error {p : EStateM ε σ α} {s s' : σ} {e : ε} (h : p.run s = .error e s') :
  exit p s = s'
  := by
  rw [exit, h]

/-- `p` if `c` holds, and nothing otherwise. -/
def when (c : Prop) [Decidable c] (p : EStateM ε σ PUnit) : EStateM ε σ PUnit :=
  if c then p else pure ⟨⟩

@[simp]
theorem exit_modify (f : σ → σ) (s : σ) :
  exit (modify f : EStateM ε σ PUnit) s = f s
  := rfl

/-- A sequence ends where its second part ends, if the first part returns. -/
theorem exit_bind_ok
    {p : EStateM ε σ α} (f : α → EStateM ε σ β) {s s' : σ} {a : α} (h : p.run s = .ok a s') :
  exit (p >>= f) s = exit (f a) s'
  := by
  rw [exit, exit, EStateM.run_bind, h]

/-- A sequence ends where its first part ends, if that part raises an exception. -/
theorem exit_bind_error
    {p : EStateM ε σ α} (f : α → EStateM ε σ β) {s s' : σ} {e : ε} (h : p.run s = .error e s') :
  exit (p >>= f) s = s'
  := by
  rw [exit, EStateM.run_bind, h]

/-- A loop over one item ends where its step ends. -/
theorem exit_forM_singleton (step : ι → EStateM ε σ PUnit) (i : ι) (s : σ) :
  exit (forM [i] step) s = exit (step i) s
  := by
  rw [List.forM_cons]
  cases h : (step i).run s with
  | ok a s' =>
      rw [exit_bind_ok _ h, exit_ok h]
      rfl
  | error e s' => rw [exit_bind_error _ h, exit_error h]

/-- A sequence goes on from where its first part returns. -/
theorem run_bind_ok
    {p : EStateM ε σ α} (f : α → EStateM ε σ β) {s s' : σ} {a : α} (h : p.run s = .ok a s') :
  (p >>= f).run s = (f a).run s'
  := by
  rw [EStateM.run_bind, h]

/-- A sequence that returns is a returning first part followed by a returning second. -/
theorem run_bind_eq_ok
    {p : EStateM ε σ α} {f : α → EStateM ε σ β} {s s' : σ} {b : β}
    (h : (p >>= f).run s = .ok b s') :
  ∃ a s₁, p.run s = .ok a s₁ ∧ (f a).run s₁ = .ok b s'
  := by
  rw [EStateM.run_bind] at h
  cases hp : p.run s with
  | ok a s₁ =>
      rw [hp] at h
      use a, s₁
  | error e s₁ =>
      rw [hp] at h
      cases h

/-- A sequence raises an exception in its first part, or in its second. -/
theorem run_bind_eq_error
    {p : EStateM ε σ α} {f : α → EStateM ε σ β} {s s' : σ} {e : ε}
    (h : (p >>= f).run s = .error e s') :
  p.run s = .error e s' ∨ ∃ a s₁, p.run s = .ok a s₁ ∧ (f a).run s₁ = .error e s'
  := by
  rw [EStateM.run_bind] at h
  cases hp : p.run s with
  | ok a s₁ =>
      rw [hp] at h
      right
      use a, s₁
  | error e' s₁ =>
      rw [hp] at h
      left
      cases h
      rfl

/-- A loop that returns has made a step of each item that returned. -/
theorem all_of_run_forM {P : ι → Prop} {step : ι → EStateM ε σ PUnit}
    (h : ∀ i s s', (step i).run s = .ok ⟨⟩ s' → P i) {is : List ι} {s s' : σ}
    (hrun : (forM is step : EStateM ε σ PUnit).run s = .ok ⟨⟩ s') :
  ∀ i ∈ is, P i
  := by
  induction is generalizing s with
  | nil => simp
  | cons i is ih =>
      rw [List.forM_cons] at hrun
      obtain ⟨_, s₁, hrun₁, hrun⟩ := run_bind_eq_ok hrun
      intro j hj
      rcases List.mem_cons.mp hj with rfl | hj
      · apply h j s s₁ hrun₁
      · apply ih hrun j hj

/-! ### What a program does to its state -/

/-- Every run of `p` relates its first state to its last by `R`. -/
def Moves (R : σ → σ → Prop) (p : EStateM ε σ α) : Prop :=
  ∀ s, R s (exit p s)

section Moves

variable {R : σ → σ → Prop}

/-- A program that moves along a relation moves along any weaker one. -/
theorem Moves.mono {R' : σ → σ → Prop} (hR : ∀ s s', R s s' → R' s s') {p : EStateM ε σ α}
    (h : Moves R p) :
  Moves R' p
  := by
  intro s
  apply hR _ _ (h s)

theorem Moves.pure [Std.Refl R] (a : α) :
  Moves R (pure a : EStateM ε σ α)
  := fun s => Std.Refl.refl s

theorem Moves.throw [Std.Refl R] (e : ε) :
  Moves R (throw e : EStateM ε σ α)
  := fun s => Std.Refl.refl s

/-- A modification moves along a relation between each state and its modification. -/
theorem Moves.modify {f : σ → σ} (h : ∀ s, R s (f s)) :
  Moves R (modify f : EStateM ε σ PUnit)
  := h

/-- Two programs in sequence, where the second is only known to move by `R` from the
states in which the first returns. -/
theorem Moves.bind_of_run [IsTrans σ R]
    {p : EStateM ε σ α} {f : α → EStateM ε σ β} (hp : Moves R p)
    (hf : ∀ s a s', p.run s = .ok a s' → R s' (exit (f a) s')) :
  Moves R (p >>= f)
  := by
  intro s
  have hs := hp s
  cases h : p.run s with
  | ok a s' =>
      rw [exit_ok h] at hs
      rw [exit_bind_ok f h]
      apply IsTrans.trans _ _ _ hs (hf s a s' h)
  | error e s' =>
      rw [exit_error h] at hs
      rw [exit_bind_error f h]
      apply hs

/-- A sequence moves along a transitive relation if both of its parts do. -/
theorem Moves.bind [IsTrans σ R]
    {p : EStateM ε σ α} {f : α → EStateM ε σ β} (hp : Moves R p) (hf : ∀ a, Moves R (f a)) :
  Moves R (p >>= f)
  := by
  apply hp.bind_of_run
  intro s a s' _
  apply hf

/-- Reading the state moves nothing, so what follows may use the state that has been read. -/
theorem Moves.get_bind {f : σ → EStateM ε σ α} (hf : ∀ s, Moves R (f s)) :
  Moves R (get >>= f)
  := fun s => hf s s

theorem Moves.ite {c : Prop} [Decidable c] {p q : EStateM ε σ α}
    (hp : c → Moves R p) (hq : ¬ c → Moves R q) :
  Moves R (if c then p else q)
  := by
  by_cases h : c
  · rw [if_pos h]
    apply hp h
  · rw [if_neg h]
    apply hq h

theorem Moves.when [Std.Refl R] {c : Prop} [Decidable c] {p : EStateM ε σ PUnit}
    (hp : c → Moves R p) :
  Moves R (when c p)
  := Moves.ite hp fun _ => Moves.pure _

/-- A loop over a list moves along a preorder if each of its iterations does. -/
theorem Moves.forM [Std.Refl R] [IsTrans σ R] {step : ι → EStateM ε σ PUnit} {is : List ι}
    (h : ∀ i ∈ is, Moves R (step i)) :
  Moves R (forM is step)
  := by
  induction is with
  | nil => apply Moves.pure
  | cons i is ih =>
      rw [List.forM_cons]
      apply Moves.bind
      · apply h i List.mem_cons_self
      · intro _
        apply ih
        intro j hj
        apply h j (List.mem_cons_of_mem i hj)

end Moves

/-! ### Invariants -/

/-- The relation of preserving `I` is a preorder, so `Moves` applies to invariants. -/
def Preserving (I : σ → Prop) (s s' : σ) : Prop :=
  I s → I s'

instance (I : σ → Prop) : Std.Refl (Preserving I) where
  refl _ h := h

instance (I : σ → Prop) : IsTrans σ (Preserving I) where
  trans _ _ _ h h' hI := h' (h hI)

/-- Every run of `p` from a state satisfying `I` ends in a state satisfying `I`. -/
abbrev Keeps (I : σ → Prop) (p : EStateM ε σ α) : Prop :=
  Moves (Preserving I) p

theorem keeps_true (p : EStateM ε σ α) :
  Keeps (fun _ => True) p
  := fun _ _ => trivial

/-- A program moving along `R` keeps what `R` preserves. -/
theorem Moves.keeps {R : σ → σ → Prop} {I : σ → Prop} {p : EStateM ε σ α} (h : Moves R p)
    (hI : ∀ s s', R s s' → I s → I s') :
  Keeps I p
  := fun s => hI s _ (h s)

/-- Every run of `p` that returns, from a state satisfying `I`, ends in a state satisfying `I`. -/
def KeepsOnReturn (I : σ → Prop) (p : EStateM ε σ α) : Prop :=
  ∀ s a s', I s → p.run s = .ok a s' → I s'

/-- An invariant that is kept at every end is kept on every return. -/
theorem KeepsOnReturn.of_keeps {I : σ → Prop} {p : EStateM ε σ α} (h : Keeps I p) :
  KeepsOnReturn I p
  := by
  intro s a s' hs hrun
  rw [← exit_ok hrun]
  apply h s hs

/-- A sequence keeps an invariant on return if both of its parts do. -/
theorem KeepsOnReturn.bind {I : σ → Prop} {p : EStateM ε σ α} {f : α → EStateM ε σ β}
    (hp : KeepsOnReturn I p) (hf : ∀ a, KeepsOnReturn I (f a)) :
  KeepsOnReturn I (p >>= f)
  := by
  intro s b s' hs hrun
  obtain ⟨a, s₁, h₁, h⟩ := run_bind_eq_ok hrun
  apply hf a s₁ b s' (hp s a s₁ hs h₁) h

/-- A loop over a list keeps an invariant on return if each of its iterations does. -/
theorem KeepsOnReturn.forM {I : σ → Prop} {step : ι → EStateM ε σ PUnit} {is : List ι}
    (h : ∀ i ∈ is, KeepsOnReturn I (step i)) :
  KeepsOnReturn I (forM is step)
  := by
  induction is with
  | nil => exact .of_keeps (Moves.pure _)
  | cons i is ih =>
      rw [List.forM_cons]
      apply KeepsOnReturn.bind (h i List.mem_cons_self)
      intro _
      apply ih
      intro j hj
      apply h j (List.mem_cons_of_mem i hj)

/-- The condition `cond` holds of every step of the run of `is` from `s` and of the state
before that step, up to the first exception. -/
def Along (step : ι → EStateM ε σ PUnit) (cond : σ → ι → Prop) : σ → List ι → Prop
  | _, [] => True
  | s, i :: is => cond s i ∧ ∀ s', (step i).run s = .ok ⟨⟩ s' → Along step cond s' is

/-- A condition that can be decided can be decided along a run. -/
instance Along.decidable {step : ι → EStateM ε σ PUnit} {cond : σ → ι → Prop}
    [∀ s i, Decidable (cond s i)] : ∀ s is, Decidable (Along step cond s is)
  | _, [] => .isTrue trivial
  | s, i :: is =>
      match h : (step i).run s with
      | .ok _ s' =>
          have : Decidable (Along step cond s' is) := Along.decidable s' is
          decidable_of_iff (cond s i ∧ Along step cond s' is) (by
            simp only [Along, h, EStateM.Result.ok.injEq, true_and]
            simp)
      | .error _ _ => decidable_of_iff (cond s i) (by simp [Along, h])

/-- If each step that meets the condition keeps `I`, a run all of whose steps meet it
ends in a state satisfying `I`. -/
theorem Along.keeps {step : ι → EStateM ε σ PUnit} {cond : σ → ι → Prop} {I : σ → Prop}
    (h : ∀ s i, cond s i → I s → I (exit (step i) s)) :
  ∀ (is : List ι) (s : σ), Along step cond s is → I s → I (exit (forM is step) s)
  | [], _, _, hs => hs
  | i :: is, s, ⟨hc, hrest⟩, hs => by
      have hi := h s i hc hs
      rw [List.forM_cons]
      cases hr : (step i).run s with
      | ok a s' =>
          rw [exit_ok hr] at hi
          rw [exit_bind_ok _ hr]
          apply Along.keeps h is s' (hrest s' hr) hi
      | error e s' =>
          rw [exit_error hr] at hi
          rw [exit_bind_error _ hr]
          apply hi

/-- A condition is met along a run if its first step meets it and the rest of the run meets it from
where that step ends. -/
theorem Along.cons {step : ι → EStateM ε σ PUnit} {cond : σ → ι → Prop} {i : ι} {is : List ι}
    {s : σ} (hc : cond s i) (h : Along step cond (exit (step i) s) is) :
  Along step cond s (i :: is)
  := by
  use hc
  intro s' hrun
  rw [← exit_ok hrun]
  apply h

/-- A condition that follows from another one under an invariant is met along the runs along which
the other one is met. -/
theorem Along.imp {step : ι → EStateM ε σ PUnit} {cond cond' : σ → ι → Prop} {I : σ → Prop}
    (himp : ∀ s i, cond s i → I s → cond' s i)
    (hkeeps : ∀ s i, cond s i → I s → I (exit (step i) s)) :
  ∀ (is : List ι) (s : σ), Along step cond s is → I s → Along step cond' s is
  | [], _, _, _ => trivial
  | i :: is, s, ⟨hc, hrest⟩, hs => by
      use himp s i hc hs
      intro s' hrun
      have hs' := hkeeps s i hc hs
      rw [exit_ok hrun] at hs'
      apply Along.imp himp hkeeps is s' (hrest s' hrun) hs'

/-- Two conditions that agree on the states satisfying an invariant are met along the same runs. -/
theorem Along.congr {step : ι → EStateM ε σ PUnit} {cond cond' : σ → ι → Prop} {I : σ → Prop} :
  ∀ {is : List ι} {s : σ}, (∀ i ∈ is, ∀ s, I s → (cond s i ↔ cond' s i)) →
    (∀ i ∈ is, Keeps I (step i)) → I s → (Along step cond s is ↔ Along step cond' s is)
  | [], _, _, _, _ => Iff.rfl
  | i :: _, s, hiff, hkeeps, hs => by
      apply and_congr (hiff i List.mem_cons_self s hs)
      apply forall₂_congr
      intro s' hrun
      have hs' : I s' := by
        rw [← exit_ok hrun]
        apply hkeeps i List.mem_cons_self s hs
      exact Along.congr (fun j hj => hiff j (List.mem_cons_of_mem i hj))
        (fun j hj => hkeeps j (List.mem_cons_of_mem i hj)) hs'

/-- A condition met along a run is met along each of its initial parts. -/
theorem Along.of_append {step : ι → EStateM ε σ PUnit} {cond : σ → ι → Prop} :
  ∀ {is js : List ι} {s : σ}, Along step cond s (is ++ js) → Along step cond s is
  | [], _, _, _ => trivial
  | _ :: _, _, _, ⟨hc, hrest⟩ => ⟨hc, fun s' hs' => Along.of_append (hrest s' hs')⟩

/-- If each step that meets the condition keeps `I` and raises only exceptions satisfying `E`,
so does a run all of whose steps meet it. -/
theorem Along.raises {step : ι → EStateM ε σ PUnit} {cond : σ → ι → Prop} {I : σ → Prop}
    {E : ε → Prop} (hkeeps : ∀ s i, cond s i → I s → I (exit (step i) s))
    (hraises : ∀ s i e s', cond s i → I s → (step i).run s = .error e s' → E e) :
  ∀ (is : List ι) (s : σ), Along step cond s is → I s →
    ∀ e s', (forM is step : EStateM ε σ PUnit).run s = .error e s' → E e
  | [], _, _, _, _, _, h => by cases h
  | i :: is, s, ⟨hc, hrest⟩, hs, e, s', h => by
      rw [List.forM_cons] at h
      rcases run_bind_eq_error h with h | ⟨_, s₁, h₁, h⟩
      · apply hraises s i e s' hc hs h
      · have hs₁ := hkeeps s i hc hs
        rw [exit_ok h₁] at hs₁
        apply Along.raises hkeeps hraises is s₁ (hrest s₁ h₁) hs₁ e s' h

/-- If in the states satisfying an invariant a step raises an exception satisfying `E` exactly when
it does not meet the condition, then a run does so exactly when not all its steps meet it. -/
theorem Along.raises_iff {step : ι → EStateM ε σ PUnit} {cond : σ → ι → Prop} {I : σ → Prop}
    {E : ε → Prop} (hkeeps : ∀ i, Keeps I (step i))
    (h : ∀ s i, I s → ((∃ e s', (step i).run s = .error e s' ∧ E e) ↔ ¬ cond s i)) (is : List ι)
    {s : σ} (hs : I s) :
  (∃ e s', (forM is step : EStateM ε σ PUnit).run s = .error e s' ∧ E e) ↔ ¬ Along step cond s is
  := by
  induction is generalizing s with
  | nil =>
      constructor
      · rintro ⟨e, s', h, -⟩
        cases h
      · intro h
        exact absurd trivial h
  | cons i is ih =>
      have hnext : ∀ s₁, (step i).run s = .ok ⟨⟩ s₁ → I s₁ := by
        intro s₁ hrun
        rw [← exit_ok hrun]
        apply hkeeps i s hs
      rw [List.forM_cons]
      constructor
      · rintro ⟨e, s', herror, he⟩ ⟨hc, hrest⟩
        rcases run_bind_eq_error herror with herror | ⟨_, s₁, hrun, herror⟩
        · apply (h s i hs).mp ⟨e, s', herror, he⟩ hc
        · apply (ih (hnext s₁ hrun)).mp ⟨e, s', herror, he⟩ (hrest s₁ hrun)
      · intro hnot
        by_cases hc : cond s i
        · have hrest : ∃ s₁, (step i).run s = .ok ⟨⟩ s₁ ∧ ¬ Along step cond s₁ is := by
            by_contra hrest
            apply hnot
            use hc
            intro s₁ hrun
            by_contra halong
            apply hrest ⟨s₁, hrun, halong⟩
          obtain ⟨s₁, hrun, halong⟩ := hrest
          obtain ⟨e, s', herror, he⟩ := (ih (hnext s₁ hrun)).mpr halong
          use e, s'
          rw [run_bind_ok _ hrun, herror]
          exact ⟨rfl, he⟩
        · obtain ⟨e, s', herror, he⟩ := (h s i hs).mpr hc
          use e, s'
          rw [EStateM.run_bind, herror]
          exact ⟨rfl, he⟩

/-- If a step raises `e` exactly when it does not meet the condition, then a run raises `e`
exactly when not all its steps meet it. -/
theorem Along.error_iff {step : ι → EStateM ε σ PUnit} {cond : σ → ι → Prop} {e : ε}
    (h : ∀ s i, (∃ s', (step i).run s = .error e s') ↔ ¬ cond s i) (is : List ι) (s : σ) :
  (∃ s', (forM is step : EStateM ε σ PUnit).run s = .error e s') ↔ ¬ Along step cond s is
  := by
  have hone : ∀ p : EStateM ε σ PUnit, ∀ s,
      (∃ e' s', p.run s = .error e' s' ∧ e' = e) ↔ ∃ s', p.run s = .error e s' := by
    intro p s
    constructor
    · rintro ⟨_, s', hrun, rfl⟩
      use s', hrun
    · rintro ⟨s', hrun⟩
      exact ⟨e, s', hrun, rfl⟩
  rw [← hone, Along.raises_iff (I := fun _ => True) (fun _ => keeps_true _) _ is trivial]
  intro s i _
  rw [hone, h]

/-- If a step keeps `I` exactly when it meets the condition, then `I` holds in all the states
of a run exactly when all its steps meet the condition. -/
theorem Along.iff_keeps {step : ι → EStateM ε σ PUnit} {cond : σ → ι → Prop} {I : σ → Prop}
    (h : ∀ s i, I s → (I (exit (step i) s) ↔ cond s i)) (is : List ι) (s : σ) (hs : I s) :
  (∀ js, js <+: is → I (exit (forM js step) s)) ↔ Along step cond s is
  := by
  constructor
  · intro hI
    induction is generalizing s with
    | nil => trivial
    | cons i is ih =>
        have hi : I (exit (step i) s) := by
          rw [← exit_forM_singleton]
          apply hI [i] (List.cons_prefix_cons.mpr ⟨rfl, List.nil_prefix⟩)
        use (h s i hs).mp hi
        intro s' hr
        apply ih s'
        · rw [exit_ok hr] at hi
          apply hi
        · intro js hjs
          have hcons := hI (i :: js) (List.cons_prefix_cons.mpr ⟨rfl, hjs⟩)
          rw [List.forM_cons, exit_bind_ok _ hr] at hcons
          apply hcons
  · rintro hI js ⟨ks, rfl⟩
    apply Along.keeps (fun s i hc hs => (h s i hs).mpr hc) js s hI.of_append hs

/-- If a step from a state satisfying `I` returns only in states satisfying `I` exactly when it
meets the condition, then a run does so, as far as it is taken, exactly when all its steps meet
the condition. -/
theorem Along.returns_iff {step : ι → EStateM ε σ PUnit} {cond : σ → ι → Prop} {I : σ → Prop}
    (h : ∀ s i, I s → ((∀ s', (step i).run s = .ok ⟨⟩ s' → I s') ↔ cond s i)) (is : List ι)
    {s : σ} (hs : I s) :
  (∀ js, js <+: is → ∀ s', (forM js step : EStateM ε σ PUnit).run s = .ok ⟨⟩ s' → I s')
    ↔ Along step cond s is
  := by
  induction is generalizing s with
  | nil =>
      apply iff_of_true _ trivial
      intro js hjs s' hrun
      rw [List.prefix_nil.mp hjs] at hrun
      cases hrun
      apply hs
  | cons i is ih =>
      constructor
      · intro hI
        have hi : ∀ s', (step i).run s = .ok ⟨⟩ s' → I s' := by
          intro s' hrun
          apply hI [i] (List.cons_prefix_cons.mpr ⟨rfl, List.nil_prefix⟩)
          rw [List.forM_cons, run_bind_ok _ hrun]
          rfl
        use (h s i hs).mp hi
        intro s₁ hrun
        apply (ih (hi s₁ hrun)).mp
        intro js hjs s' hrun'
        apply hI (i :: js) (List.cons_prefix_cons.mpr ⟨rfl, hjs⟩)
        rw [List.forM_cons, run_bind_ok _ hrun, hrun']
      · rintro ⟨hc, hrest⟩ js hjs s' hrun
        cases js with
        | nil =>
            cases hrun
            apply hs
        | cons j js =>
            obtain ⟨rfl, hrestjs⟩ := List.cons_prefix_cons.mp hjs
            rw [List.forM_cons] at hrun
            obtain ⟨_, s₁, hrun₁, hrun⟩ := run_bind_eq_ok hrun
            have hs₁ := (h s j hs).mpr hc s₁ hrun₁
            apply (ih hs₁).mpr (hrest s₁ hrun₁) js hrestjs s' hrun

/-! ### What a program raises -/

/-- Every exception a run of `p` raises from a state satisfying `I` satisfies `E`. -/
def Raises (I : σ → Prop) (E : ε → Prop) (p : EStateM ε σ α) : Prop :=
  ∀ s e s', I s → p.run s = .error e s' → E e

section Raises

variable {I : σ → Prop} {E : ε → Prop}

theorem Raises.pure (a : α) :
  Raises I E (pure a : EStateM ε σ α)
  := by
  intro s e s' _ h
  cases h

theorem Raises.modify (f : σ → σ) :
  Raises I E (modify f : EStateM ε σ PUnit)
  := by
  intro s e s' _ h
  cases h

theorem Raises.throw {e : ε} (he : E e) :
  Raises I E (throw e : EStateM ε σ α)
  := by
  intro s e' s' _ h
  cases h
  apply he

theorem Raises.of_run_ok {p : EStateM ε σ α} (h : ∀ s, I s → ∃ a s', p.run s = .ok a s') :
  Raises I E p
  := by
  intro s e s' hs he
  obtain ⟨a, s₁, h₁⟩ := h s hs
  rw [h₁] at he
  cases he

/-- A sequence raises what its parts raise, if the first part keeps the invariant of the second. -/
theorem Raises.bind {p : EStateM ε σ α} {f : α → EStateM ε σ β} (hp : Raises I E p)
    (hI : Keeps I p) (hf : ∀ a, Raises I E (f a)) :
  Raises I E (p >>= f)
  := by
  intro s e s' hs h
  rcases run_bind_eq_error h with h | ⟨a, s₁, h₁, h⟩
  · apply hp s e s' hs h
  · apply hf a s₁ e s' _ h
    rw [← exit_ok h₁]
    apply hI s hs

theorem Raises.bind_true {p : EStateM ε σ α} {f : α → EStateM ε σ β}
    (hp : Raises (fun _ => True) E p) (hf : ∀ a, Raises (fun _ => True) E (f a)) :
  Raises (fun _ => True) E (p >>= f)
  := hp.bind (keeps_true p) hf

theorem Raises.get_bind {f : σ → EStateM ε σ α} (hf : ∀ s, I s → Raises I E (f s)) :
  Raises I E (get >>= f)
  := by
  intro s e s' hs h
  rw [EStateM.run_bind, EStateM.run_get] at h
  apply hf s hs s e s' hs h

theorem Raises.ite {c : Prop} [Decidable c] {p q : EStateM ε σ α}
    (hp : c → Raises I E p) (hq : ¬ c → Raises I E q) :
  Raises I E (if c then p else q)
  := by
  by_cases h : c
  · rw [if_pos h]
    apply hp h
  · rw [if_neg h]
    apply hq h

theorem Raises.when {c : Prop} [Decidable c] {p : EStateM ε σ PUnit} (hp : c → Raises I E p) :
  Raises I E (when c p)
  := Raises.ite hp fun _ => Raises.pure _

/-- A loop over a list raises what its iterations raise, if they keep the invariant. -/
theorem Raises.forM {step : ι → EStateM ε σ PUnit} {is : List ι}
    (hI : ∀ i ∈ is, Keeps I (step i)) (h : ∀ i ∈ is, Raises I E (step i)) :
  Raises I E (forM is step)
  := by
  induction is with
  | nil => apply Raises.pure
  | cons i is ih =>
      rw [List.forM_cons]
      apply (h i List.mem_cons_self).bind (hI i List.mem_cons_self)
      intro _
      apply ih
      · intro j hj
        apply hI j (List.mem_cons_of_mem i hj)
      · intro j hj
        apply h j (List.mem_cons_of_mem i hj)

/-- The rule of consequence for exceptions. -/
theorem Raises.mono {I' : σ → Prop} {E' : ε → Prop} {p : EStateM ε σ α} (h : Raises I E p)
    (hI : ∀ s, I' s → I s) (hE : ∀ e, E e → E' e) :
  Raises I' E' p
  := by
  intro s e s' hs he
  apply hE e (h s e s' (hI s hs) he)

end Raises

/-! ### Catching exceptions -/

/-- `p`, of whose exceptions those that can be caught are caught and dropped. -/
def catching (catchable : ε → Bool) (p : EStateM ε σ PUnit) : EStateM ε σ PUnit :=
  tryCatch p fun e => if catchable e then pure ⟨⟩ else throw e

section Catching

variable {catchable : ε → Bool} {p : EStateM ε σ PUnit} {s s' : σ}

theorem run_catching_ok (catchable : ε → Bool) (h : p.run s = .ok ⟨⟩ s') :
  (catching catchable p).run s = .ok ⟨⟩ s'
  := by
  rw [EStateM.run] at h
  simp only [catching, tryCatch, tryCatchThe, MonadExceptOf.tryCatch, EStateM.tryCatch,
    EStateM.run, h]

/-- An exception that can be caught leaves the state in which it was raised. -/
theorem run_catching_error {e : ε} (h : p.run s = .error e s') :
  (catching catchable p).run s = if catchable e then .ok ⟨⟩ s' else .error e s'
  := by
  rw [EStateM.run] at h
  simp only [catching, tryCatch, tryCatchThe, MonadExceptOf.tryCatch, EStateM.tryCatch,
    EStateM.run, h]
  split
  · rfl
  · rfl

/-- Catching depends on the outcome of the program only. -/
theorem run_catching_congr (catchable : ε → Bool) {q : EStateM ε σ PUnit} (h : p.run s = q.run s) :
  (catching catchable p).run s = (catching catchable q).run s
  := by
  rw [EStateM.run, EStateM.run] at h
  simp only [catching, tryCatch, tryCatchThe, MonadExceptOf.tryCatch, EStateM.tryCatch,
    EStateM.run, h]

/-- What returns ends where it would end if no exception were caught. -/
theorem exit_of_run_catching (h : (catching catchable p).run s = .ok ⟨⟩ s') :
  exit p s = s'
  := by
  cases hrun : p.run s with
  | ok a s₁ =>
      rw [run_catching_ok catchable hrun] at h
      cases h
      rw [exit_ok hrun]
  | error e s₁ =>
      rw [run_catching_error hrun] at h
      rw [exit_error hrun]
      split at h
      · cases h
        rfl
      · cases h

end Catching

end Program
