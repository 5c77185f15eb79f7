import ChaosInMultiplayer.Program.Basic

/-!
# What programs ensure

`Program.Ensures P p Q E` is the specification of a program by what holds before it and
after it: from a state satisfying `P`, the program `p` returns a value and a state satisfying
`Q`, or raises an exception in a state, satisfying `E`.  There is one rule for each way programs
are built.  The invariant of a loop over a list may depend on the part of the list that is left.
-/

namespace Program

variable {ε σ α β ι : Type}

/-- Every run of `p` from a state satisfying `P` returns a value and a state satisfying `Q`, or
raises an exception in a state, satisfying `E`. -/
def Ensures (P : σ → Prop) (p : EStateM ε σ α) (Q : α → σ → Prop) (E : ε → σ → Prop) : Prop :=
  ∀ s, P s → match p.run s with
    | .ok a s' => Q a s'
    | .error e s' => E e s'

variable {P : σ → Prop} {Q : α → σ → Prop} {E : ε → σ → Prop}

/-- A program that always returns ensures what holds on its return. -/
theorem Ensures.of_run_ok {p : EStateM ε σ α}
    (h : ∀ s, P s → ∃ a s', p.run s = .ok a s' ∧ Q a s') :
  Ensures P p Q E
  := by
  intro s hs
  obtain ⟨a, s', hrun, hQ⟩ := h s hs
  rw [hrun]
  apply hQ

/-- A program raises only the exceptions that it ensures. -/
theorem Ensures.raises {X : ε → Prop} {p : EStateM ε σ α} (h : Ensures P p Q fun e _ => X e) :
  Raises P X p
  := by
  intro s e s' hs hrun
  have hp := h s hs
  rw [hrun] at hp
  apply hp

/-- The exceptions of a program can be ensured of it. -/
theorem Ensures.of_raised {X : ε → Prop} {p : EStateM ε σ α} (h : Raises P X p) :
  Ensures P p (fun _ _ => True) fun e _ => X e
  := by
  intro s hs
  cases hrun : p.run s with
  | ok a s' => trivial
  | error e s' => exact h s e s' hs hrun

/-- What a program ensures both when it returns and when it raises an exception holds where it
ends. -/
theorem Ensures.exit {I : σ → Prop} {p : EStateM ε σ α} (h : Ensures P p (fun _ => I) fun _ => I)
    {s : σ} (hs : P s) :
  I (exit p s)
  := by
  have hp := h s hs
  cases hrun : p.run s with
  | ok a s' =>
      rw [hrun] at hp
      rw [exit_ok hrun]
      apply hp
  | error e s' =>
      rw [hrun] at hp
      rw [exit_error hrun]
      apply hp

/-- The rule of consequence. -/
theorem Ensures.mono {P' : σ → Prop} {Q' : α → σ → Prop} {E' : ε → σ → Prop} {p : EStateM ε σ α}
    (h : Ensures P p Q E) (hP : ∀ s, P' s → P s) (hQ : ∀ a s, Q a s → Q' a s)
    (hE : ∀ e s, E e s → E' e s) :
  Ensures P' p Q' E'
  := by
  intro s hs
  have hp := h s (hP s hs)
  cases hrun : p.run s with
  | ok a s' =>
      rw [hrun] at hp
      apply hQ a s' hp
  | error e s' =>
      rw [hrun] at hp
      apply hE e s' hp

theorem Ensures.imp {Q' : α → σ → Prop} {p : EStateM ε σ α} (h : Ensures P p Q E)
    (hQ : ∀ a s, Q a s → Q' a s) :
  Ensures P p Q' E
  := h.mono (fun _ hP => hP) hQ fun _ _ hE => hE

theorem Ensures.of_pre {R : σ → Prop} {p : EStateM ε σ α} (h : Ensures R p Q E)
    (hP : ∀ s, P s → R s) :
  Ensures P p Q E
  := h.mono hP (fun _ _ hQ => hQ) fun _ _ hE => hE

/-- A fact known of the first state can be used about the program. -/
theorem Ensures.of_fact {c : Prop} {p : EStateM ε σ α} (h : c → Ensures P p Q E) :
  Ensures (fun s => c ∧ P s) p Q E
  := fun s hs => h hs.1 s hs.2

/-- What the first state is known to satisfy for some value can be used for each value. -/
theorem Ensures.of_exists {R : β → σ → Prop} {p : EStateM ε σ α}
    (h : ∀ b, Ensures (R b) p Q E) :
  Ensures (fun s => ∃ b, R b s) p Q E
  := by
  rintro s ⟨b, hs⟩
  apply h b s hs

/-- What a program moves along holds between the states before it and after it. -/
theorem Ensures.of_moves {R : σ → σ → Prop} {X : ε → Prop} {p : EStateM ε σ α}
    (hp : Moves R p) (hraises : Raises P X p) (hQ : ∀ s s' a, P s → R s s' → Q a s')
    (hE : ∀ s s' e, P s → R s s' → X e → E e s') :
  Ensures P p Q E
  := by
  intro s hs
  have hmoves := hp s
  cases hrun : p.run s with
  | ok a s' =>
      rw [exit_ok hrun] at hmoves
      apply hQ s s' a hs hmoves
  | error e s' =>
      rw [exit_error hrun] at hmoves
      apply hE s s' e hs hmoves (hraises s e s' hs hrun)

/-- An invariant that a program keeps holds where it ends. -/
theorem Ensures.of_keeps {I : σ → Prop} {p : EStateM ε σ α} (h : Keeps I p) :
  Ensures I p (fun _ => I) fun _ => I
  := by
  intro s hs
  have hend := h s hs
  cases hrun : p.run s with
  | ok a s' =>
      rw [exit_ok hrun] at hend
      apply hend
  | error e s' =>
      rw [exit_error hrun] at hend
      apply hend

/-- What a program moves along holds between the given state and the one after it. -/
theorem Ensures.along {R : σ → σ → Prop} {p : EStateM ε σ α} {s : σ}
    (h : Ensures (· = s) p Q E) (hp : Moves R p) :
  Ensures (· = s) p (fun a s' => Q a s' ∧ R s s') E
  := by
  rintro s rfl
  have hQ := h s rfl
  have hmoves := hp s
  cases hrun : p.run s with
  | ok a s' =>
      rw [hrun] at hQ
      rw [exit_ok hrun] at hmoves
      exact ⟨hQ, hmoves⟩
  | error e s' =>
      rw [hrun] at hQ
      apply hQ

theorem Ensures.pure {a : α} (h : ∀ s, P s → Q a s) :
  Ensures P (pure a) Q E
  := h

theorem Ensures.throw {e : ε} (h : ∀ s, P s → E e s) :
  Ensures P (throw e) Q E
  := h

theorem Ensures.modify {f : σ → σ} {Q : PUnit → σ → Prop} (h : ∀ s, P s → Q ⟨⟩ (f s)) :
  Ensures P (modify f) Q E
  := h

/-- The rule of composition. -/
theorem Ensures.bind {R : β → σ → Prop} {p : EStateM ε σ β} {f : β → EStateM ε σ α}
    (hp : Ensures P p R E) (hf : ∀ b, Ensures (R b) (f b) Q E) :
  Ensures P (p >>= f) Q E
  := by
  intro s hs
  have hR := hp s hs
  rw [EStateM.run_bind]
  cases hrun : p.run s with
  | ok b s' =>
      rw [hrun] at hR
      apply hf b s' hR
  | error e s' =>
      rw [hrun] at hR
      apply hR

/-- Reading the state fixes it for what follows. -/
theorem Ensures.get_bind {f : σ → EStateM ε σ α} (hf : ∀ s, P s → Ensures (· = s) (f s) Q E) :
  Ensures P (get >>= f) Q E
  := fun s hs => hf s hs s rfl

theorem Ensures.ite {c : Prop} [Decidable c] {p q : EStateM ε σ α} (hp : c → Ensures P p Q E)
    (hq : ¬ c → Ensures P q Q E) :
  Ensures P (if c then p else q) Q E
  := by
  by_cases h : c
  · rw [if_pos h]
    apply hp h
  · rw [if_neg h]
    apply hq h

/-- A loop over a list keeps an invariant about the part of the list that is left. -/
theorem Ensures.forM {I : List ι → σ → Prop} {step : ι → EStateM ε σ PUnit}
    (h : ∀ i is, Ensures (I (i :: is)) (step i) (fun _ => I is) E) (is : List ι) :
  Ensures (I is) (forM is step) (fun _ => I []) E
  := by
  induction is with
  | nil => exact Ensures.pure fun _ hs => hs
  | cons i is ih =>
      rw [List.forM_cons]
      apply (h i is).bind
      intro _
      apply ih

/-- If each step that meets the condition keeps `I` or raises an exception satisfying `E`, so
does a run all of whose steps meet it. -/
theorem Along.ensures {step : ι → EStateM ε σ PUnit} {cond : σ → ι → Prop} {I : σ → Prop}
    (h : ∀ i, Ensures (fun s => cond s i ∧ I s) (step i) (fun _ => I) E) (is : List ι) :
  Ensures (fun s => Along step cond s is ∧ I s) (forM is step) (fun _ => I) E
  := by
  induction is with
  | nil => exact Ensures.pure fun _ hs => hs.2
  | cons i is ih =>
      rintro s ⟨⟨hc, hrest⟩, hs⟩
      have hi := h i s ⟨hc, hs⟩
      rw [List.forM_cons, EStateM.run_bind]
      cases hrun : (step i).run s with
      | ok a s' =>
          rw [hrun] at hi
          apply ih s' ⟨hrest s' hrun, hi⟩
      | error e s' =>
          rw [hrun] at hi
          apply hi

end Program
