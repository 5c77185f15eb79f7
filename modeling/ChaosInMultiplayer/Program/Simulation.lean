import ChaosInMultiplayer.Program.Loop

/-!
# Simulations between programs

`Program.Simulates R p q Q E` says that the programs `p` and `q`, run from states related by
`R`, end alike: either both return the same value in states related by `Q`, or both raise the
same exception in states related by `E`.  There is one rule for each way programs are built.
-/

namespace Program

variable {ε σ τ α β ι : Type}

/-- The programs end alike, in related states. -/
def Simulates (R : σ → τ → Prop) (p : EStateM ε σ α) (q : EStateM ε τ α) (Q E : σ → τ → Prop) :
    Prop :=
  ∀ s t, R s t → match p.run s, q.run t with
    | .ok a s', .ok b t' => a = b ∧ Q s' t'
    | .error e s', .error e' t' => e = e' ∧ E s' t'
    | _, _ => False

variable {R Q E : σ → τ → Prop}

/-- The rule of consequence for simulations. -/
theorem Simulates.mono {R' Q' E' : σ → τ → Prop} {p : EStateM ε σ α} {q : EStateM ε τ α}
    (h : Simulates R p q Q E) (hR : ∀ s t, R' s t → R s t) (hQ : ∀ s t, Q s t → Q' s t)
    (hE : ∀ s t, E s t → E' s t) :
  Simulates R' p q Q' E'
  := by
  intro s t hst
  have hpq := h s t (hR s t hst)
  cases hp : p.run s <;> cases hq : q.run t <;> rw [hp, hq] at hpq
  · exact ⟨hpq.1, hQ _ _ hpq.2⟩
  · apply hpq
  · apply hpq
  · exact ⟨hpq.1, hE _ _ hpq.2⟩

/-- A simulation from fewer states. -/
theorem Simulates.of_imp {R' : σ → τ → Prop} {p : EStateM ε σ α} {q : EStateM ε τ α}
    (h : Simulates R p q Q E) (hR : ∀ s t, R' s t → R s t) :
  Simulates R' p q Q E
  := fun s t hst => h s t (hR s t hst)

theorem Simulates.pure {a : α} (h : ∀ s t, R s t → Q s t) :
  Simulates R (pure a : EStateM ε σ α) (pure a : EStateM ε τ α) Q E
  := fun s t hst => ⟨rfl, h s t hst⟩

/-- Simulations are composed in sequence. -/
theorem Simulates.bind {M : σ → τ → Prop} {p : EStateM ε σ β} {q : EStateM ε τ β}
    {f : β → EStateM ε σ α} {g : β → EStateM ε τ α} (hpq : Simulates R p q M E)
    (hfg : ∀ b, Simulates M (f b) (g b) Q E) :
  Simulates R (p >>= f) (q >>= g) Q E
  := by
  intro s t hst
  have h := hpq s t hst
  rw [EStateM.run_bind, EStateM.run_bind]
  cases hp : p.run s <;> cases hq : q.run t <;> rw [hp, hq] at h
  · obtain ⟨rfl, h⟩ := h
    apply hfg _ _ _ h
  · cases h
  · cases h
  · apply h

/-- Programs that read their states. -/
theorem Simulates.get_bind {f : σ → EStateM ε σ α} {g : τ → EStateM ε τ α}
    (h : ∀ s t, R s t → Simulates (fun s' t' => s' = s ∧ t' = t) (f s) (g t) Q E) :
  Simulates R (get >>= f) (get >>= g) Q E
  := fun s t hst => h s t hst s t ⟨rfl, rfl⟩

/-- Only the first program reads its state. -/
theorem Simulates.get_bind_left {f : σ → EStateM ε σ α} {q : EStateM ε τ α}
    (h : ∀ s t, R s t → Simulates (fun s' t' => s' = s ∧ t' = t) (f s) q Q E) :
  Simulates R (get >>= f) q Q E
  := fun s t hst => h s t hst s t ⟨rfl, rfl⟩

/-- Modifications simulate each other if they keep related states related. -/
theorem Simulates.modify {f : σ → σ} {g : τ → τ} (h : ∀ s t, R s t → Q (f s) (g t)) :
  Simulates R (modify f : EStateM ε σ PUnit) (modify g : EStateM ε τ PUnit) Q E
  := fun s t hst => ⟨rfl, h s t hst⟩

/-- Loops over a list whose steps keep an invariant about the part of the list that is left. -/
theorem Simulates.forM {I : List ι → σ → τ → Prop} {f : ι → EStateM ε σ PUnit}
    {g : ι → EStateM ε τ PUnit}
    (h : ∀ i is, Simulates (I (i :: is)) (f i) (g i) (I is) E) (is : List ι) :
  Simulates (I is) (forM is f) (forM is g) (I []) E
  := by
  induction is with
  | nil => exact Simulates.pure fun _ _ hst => hst
  | cons i is ih =>
      rw [List.forM_cons, List.forM_cons]
      apply (h i is).bind
      intro _
      apply ih

/-- Programs that raise the same exception. -/
theorem Simulates.throw {e : ε} (h : ∀ s t, R s t → E s t) :
  Simulates R (throw e : EStateM ε σ α) (throw e : EStateM ε τ α) Q E
  := fun s t hst => ⟨rfl, h s t hst⟩

/-- Loops that go on for as long as each other and whose bodies end alike. -/
theorem Simulates.countedLoop {below : σ → Nat → Bool} {below' : τ → Nat → Bool} {overflow : ε}
    {body : EStateM ε σ Bool} {body' : EStateM ε τ Bool}
    (hbelow : ∀ s t index, R s t → below s index = below' t index)
    (hbody : Simulates R body body' R E) (hover : ∀ s t, R s t → E s t) (left index : Nat) :
  Simulates R (countedLoop below overflow body left index)
    (countedLoop below' overflow body' left index) R E
  := by
  induction left generalizing index with
  | zero => exact Simulates.throw (α := PUnit) hover
  | succ left ih =>
      apply Simulates.get_bind
      intro s t hst
      rw [hbelow s t index hst]
      cases below' t index with
      | false =>
          apply Simulates.pure
          rintro _ _ ⟨rfl, rfl⟩
          exact hst
      | true =>
          apply Simulates.bind (M := R)
          · apply hbody.of_imp
            rintro _ _ ⟨rfl, rfl⟩
            exact hst
          · intro goesOn
            cases goesOn with
            | true => apply ih
            | false => exact Simulates.pure fun _ _ h => h

/-- If the steps end alike exactly when they meet the condition, two runs of the same steps agree
at every point exactly when all the steps of the first one meet the condition. -/
theorem Along.agree_iff {f : ι → EStateM ε σ PUnit} {g : ι → EStateM ε τ PUnit}
    {cond : σ → ι → Prop} {Agree : σ → τ → Prop} (hagree : ∀ s t, R s t → Agree s t)
    (hsim : ∀ i, Simulates (fun s t => cond s i ∧ R s t) (f i) (g i) R Agree)
    (hnot : ∀ i s t, R s t → ¬ cond s i → ¬ Agree (exit (f i) s) (exit (g i) t))
    (is : List ι) {s : σ} {t : τ} (hst : R s t) :
  (∀ js, js <+: is → Agree (exit (forM js f) s) (exit (forM js g) t)) ↔ Along f cond s is
  := by
  induction is generalizing s t with
  | nil =>
      apply iff_of_true _ trivial
      intro js hjs
      rw [List.prefix_nil.mp hjs]
      apply hagree s t hst
  | cons i is ih =>
      constructor
      · intro h
        have hc : cond s i := by
          by_contra hc
          apply hnot i s t hst hc
          rw [← exit_forM_singleton f, ← exit_forM_singleton g]
          apply h [i] (List.cons_prefix_cons.mpr ⟨rfl, List.nil_prefix⟩)
        use hc
        intro s' hf
        have hi := hsim i s t ⟨hc, hst⟩
        rw [hf] at hi
        cases hg : (g i).run t with
        | error e t' => rw [hg] at hi; cases hi
        | ok a t' =>
            rw [hg] at hi
            apply (ih hi.2).mp
            intro js hjs
            have hcons := h (i :: js) (List.cons_prefix_cons.mpr ⟨rfl, hjs⟩)
            rw [List.forM_cons, List.forM_cons, exit_bind_ok _ hf, exit_bind_ok _ hg] at hcons
            apply hcons
      · rintro ⟨hc, hrest⟩ js hjs
        cases js with
        | nil => apply hagree s t hst
        | cons j js =>
            obtain ⟨rfl, hrestjs⟩ := List.cons_prefix_cons.mp hjs
            have hi := hsim j s t ⟨hc, hst⟩
            rw [List.forM_cons, List.forM_cons]
            cases hf : (f j).run s <;> cases hg : (g j).run t <;> rw [hf, hg] at hi
            · rw [exit_bind_ok _ hf, exit_bind_ok _ hg]
              apply (ih hi.2).mpr (hrest _ hf) js hrestjs
            · cases hi
            · cases hi
            · rw [exit_bind_error _ hf, exit_bind_error _ hg]
              apply hi.2

end Program
