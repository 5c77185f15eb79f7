import ChaosInMultiplayer.Program.Ensures

/-!
# Loops that count their iterations

`Program.countedLoop` is a loop over an index that is compared with a bound before each
iteration, whose body may end it, and whose index overflows after a given number of
iterations.  `Program.Iterated` describes the states in which the loop starts over.  If the
body leaves the bound alone, the loop raises what its body raises in one of these states.
-/

namespace Program

variable {ε σ : Type}

/-- The loop from `index` on: while the index is below its bound, the body returns whether the
loop goes on, and the index is increased.  It overflows when it has been increased `left`
times. -/
def countedLoop (below : σ → Nat → Bool) (overflow : ε) (body : EStateM ε σ Bool) :
    Nat → Nat → EStateM ε σ PUnit
  | 0, _ => throw overflow
  | left + 1, index => do
      let s ← get
      if below s index then
        let goesOn ← body
        if goesOn then countedLoop below overflow body left (index + 1) else return ⟨⟩
      else
        return ⟨⟩

/-- From `s`, the loop starts over with the given index in the given state; `limit` bounds the
number of iterations. -/
inductive Iterated (body : EStateM ε σ Bool) (limit : Nat) (s : σ) : Nat → σ → Prop where
  | start : Iterated body limit s 0 s
  | next {j : Nat} {s₁ s₂ : σ} (h : Iterated body limit s j s₁) (hj : j < limit)
      (hrun : body.run s₁ = .ok true s₂) : Iterated body limit s (j + 1) s₂

variable {below : σ → Nat → Bool} {overflow : ε} {body : EStateM ε σ Bool}

/-- Below the bound the loop runs its body and goes on if this says so. -/
theorem run_countedLoop_below (overflow : ε) (body : EStateM ε σ Bool) (left : Nat) {s : σ}
    {index : Nat} (h : below s index) :
  (countedLoop below overflow body (left + 1) index).run s
    = (do
        let goesOn ← body
        if goesOn then countedLoop below overflow body left (index + 1) else return ⟨⟩ :
          EStateM ε σ PUnit).run s
  := by
  simp [countedLoop, h]

/-- At the bound the loop ends. -/
theorem run_countedLoop_above (overflow : ε) (body : EStateM ε σ Bool) (left : Nat) {s : σ}
    {index : Nat} (h : below s index = false) :
  (countedLoop below overflow body (left + 1) index).run s = .ok ⟨⟩ s
  := by
  simp [countedLoop, h]

/-- A loop moves along a preorder if its body does. -/
theorem countedLoop_moves {R : σ → σ → Prop} [Std.Refl R] [IsTrans σ R] (hbody : Moves R body)
    (left index : Nat) :
  Moves R (countedLoop below overflow body left index)
  := by
  induction left generalizing index with
  | zero => apply Moves.throw
  | succ left ih =>
      apply Moves.get_bind
      intro s
      apply Moves.ite
      · intro _
        apply hbody.bind
        intro goesOn
        cases goesOn with
        | true => apply ih
        | false => apply Moves.pure
      · intro _
        apply Moves.pure

/-- A loop raises what its body raises, or overflows. -/
theorem countedLoop_raises {I : σ → Prop} {E : ε → Prop} (hkeeps : Keeps I body)
    (hbody : Raises I E body) (hover : E overflow) (left index : Nat) :
  Raises I E (countedLoop below overflow body left index)
  := by
  induction left generalizing index with
  | zero => exact Raises.throw (α := PUnit) hover
  | succ left ih =>
      apply Raises.get_bind
      intro s _
      apply Raises.ite
      · intro _
        apply hbody.bind hkeeps
        intro goesOn
        cases goesOn with
        | true => apply ih
        | false => apply Raises.pure
      · intro _
        apply Raises.pure

/-- A loop keeps an invariant that its body keeps, and ensures the same of its exceptions. -/
theorem countedLoop_ensures {I : σ → Prop} {E : ε → σ → Prop}
    (hbody : Ensures I body (fun _ => I) E) (hover : ∀ s, I s → E overflow s) (left index : Nat) :
  Ensures I (countedLoop below overflow body left index) (fun _ => I) E
  := by
  induction left generalizing index with
  | zero => exact Ensures.throw hover
  | succ left ih =>
      apply Ensures.get_bind
      intro s hs
      have hI : ∀ s', s' = s → I s' := by
        rintro _ rfl
        apply hs
      apply Ensures.ite
      · intro _
        apply (hbody.of_pre hI).bind
        intro goesOn
        cases goesOn with
        | true => apply ih
        | false => exact Ensures.pure fun _ hs => hs
      · intro _
        exact Ensures.pure hI

/-! ### Iterations -/

theorem Iterated.index_le {limit : Nat} {s s' : σ} {j : Nat} (h : Iterated body limit s j s') :
  j ≤ limit
  := by
  cases h with
  | start => apply Nat.zero_le
  | next _ hj _ => exact hj

/-- Iterations move along a preorder if the body does. -/
theorem Iterated.moves {R : σ → σ → Prop} [Std.Refl R] [IsTrans σ R] (hbody : Moves R body)
    {limit : Nat} {s s' : σ} {j : Nat} (h : Iterated body limit s j s') :
  R s s'
  := by
  induction h with
  | start => apply Std.Refl.refl
  | @next j s₁ s₂ _ _ hrun ih =>
      apply IsTrans.trans _ _ _ ih
      rw [← exit_ok hrun]
      apply hbody

/-- What every iteration increases has been increased as often as the loop has started over. -/
theorem Iterated.add_le {f : σ → Nat} (hf : ∀ s s', body.run s = .ok true s' → f s + 1 ≤ f s')
    {limit : Nat} {s s' : σ} {j : Nat} (h : Iterated body limit s j s') :
  f s + j ≤ f s'
  := by
  induction h with
  | start => apply Nat.le_refl
  | @next j s₁ s₂ _ _ hrun ih =>
      have hone := hf s₁ s₂ hrun
      omega

section Bound

variable {bound : σ → Nat} (hbelow : ∀ s index, below s index ↔ index < bound s)
  (hbound : ∀ s s', body.run s = .ok true s' → bound s' = bound s)

include hbound in
/-- Iterations leave the bound alone if the body does. -/
theorem Iterated.bound_eq {limit : Nat} {s s' : σ} {j : Nat} (h : Iterated body limit s j s') :
  bound s' = bound s
  := by
  induction h with
  | start => rfl
  | next _ _ hrun ih => rw [hbound _ _ hrun, ih]

include hbelow in
/-- At its limit, the loop ends or its index overflows. -/
theorem run_countedLoop_limit {total left j : Nat} (hleft : left + j = total) {s : σ}
    (hj : min (bound s) total ≤ j) :
  (countedLoop below overflow body left j).run s = .ok ⟨⟩ s ∨
    (countedLoop below overflow body left j).run s = .error overflow s
  := by
  cases left with
  | zero =>
      right
      rfl
  | succ left =>
      left
      apply run_countedLoop_above
      have hnot : ¬ below s j := by
        rw [hbelow]
        omega
      simpa using hnot

include hbelow in
/-- A loop that ends before its index overflows keeps an invariant that its body keeps, and ends
with the exceptions of its body only. -/
theorem countedLoop_ensures_within {I : σ → Prop} {E : ε → σ → Prop}
    (hbody : Ensures I body (fun _ => I) E) (left index : Nat)
    (hleft : ∀ s, I s → bound s ≤ left + index) :
  Ensures I (countedLoop below overflow body (left + 1) index) (fun _ => I) E
  := by
  induction left generalizing index with
  | zero =>
      intro s hs
      have habove : below s index = false := by
        rw [Bool.eq_false_iff, ne_eq, hbelow]
        have := hleft s hs
        omega
      rw [run_countedLoop_above _ _ _ habove]
      apply hs
  | succ left ih =>
      apply Ensures.get_bind
      intro s hs
      have hI : ∀ s', s' = s → I s' := by
        rintro _ rfl
        apply hs
      apply Ensures.ite
      · intro _
        apply (hbody.of_pre hI).bind
        intro goesOn
        cases goesOn with
        | true =>
            apply ih
            intro s hs
            have := hleft s hs
            omega
        | false => exact Ensures.pure fun _ hs => hs
      · intro _
        exact Ensures.pure hI

include hbelow hbound

/-- What is left of the loop when it has started over. -/
theorem Iterated.run_countedLoop {left : Nat} {s s' : σ} {j : Nat}
    (h : Iterated body (min (bound s) left) s j s') :
  (countedLoop below overflow body left 0).run s
    = (countedLoop below overflow body (left - j) j).run s'
  := by
  induction h with
  | start => rfl
  | @next j s₁ s₂ h hj hrun ih =>
      rw [Nat.lt_min] at hj
      have hleft : left - j = (left - (j + 1)) + 1 := by omega
      have hindex : below s₁ j := by
        rw [hbelow, h.bound_eq hbound]
        apply hj.1
      rw [ih, hleft, run_countedLoop_below _ _ _ hindex, run_bind_ok _ hrun, if_pos rfl]

/-- The loop raises an exception other than its overflow exactly if its body raises it in
a state in which the loop starts over below its limit. -/
theorem countedLoop_error_iff {e : ε} (he : e ≠ overflow) (left : Nat) (s : σ) :
  (∃ s', (countedLoop below overflow body left 0).run s = .error e s')
    ↔ ∃ j s₁, Iterated body (min (bound s) left) s j s₁ ∧ j < min (bound s) left ∧
        ∃ s', body.run s₁ = .error e s'
  := by
  constructor
  · -- The induction is on the number of iterations left after the iterations made so far.
    have hfrom : ∀ left' j s₁, left' + j = left → Iterated body (min (bound s) left) s j s₁ →
        (∃ s', (countedLoop below overflow body left' j).run s₁ = .error e s') →
        ∃ j s₁, Iterated body (min (bound s) left) s j s₁ ∧ j < min (bound s) left ∧
          ∃ s', body.run s₁ = .error e s' := by
      intro left'
      induction left' with
      | zero =>
          rintro j s₁ _ _ ⟨s', h⟩
          cases h
          exact absurd rfl he
      | succ left' ih =>
          rintro j s₁ hleft hiter ⟨s', h⟩
          cases hindex : below s₁ j with
          | false =>
              rw [run_countedLoop_above _ _ _ hindex] at h
              cases h
          | true =>
              have hj : j < min (bound s) left := by
                rw [hbelow, hiter.bound_eq hbound] at hindex
                omega
              rw [run_countedLoop_below _ _ _ hindex] at h
              rcases run_bind_eq_error h with h | ⟨goesOn, s₂, hrun, h⟩
              · use j, s₁, hiter, hj, s'
              · cases goesOn with
                | false => cases h
                | true => exact ih (j + 1) s₂ (by omega) (hiter.next hj hrun) ⟨s', h⟩
    intro h
    apply hfrom left 0 s (Nat.add_zero _) .start h
  · rintro ⟨j, s₁, hiter, hj, s', hrun⟩
    have hindex : below s₁ j := by
      rw [hbelow, hiter.bound_eq hbound]
      omega
    have hleft : left - j = (left - (j + 1)) + 1 := by omega
    use s'
    rw [hiter.run_countedLoop hbelow hbound, hleft, run_countedLoop_below _ _ _ hindex,
      EStateM.run_bind, hrun]

/-- The index of the loop overflows exactly if the loop starts over as often as it can be increased,
which it does only below the bound. -/
theorem countedLoop_overflow_iff (hbody : ∀ s s', body.run s ≠ .error overflow s') (left : Nat)
    (s : σ) :
  (∃ s', (countedLoop below overflow body left 0).run s = .error overflow s')
    ↔ ∃ s', Iterated body (min (bound s) left) s left s'
  := by
  constructor
  · -- The induction is on the number of iterations left after the iterations made so far.
    have hfrom : ∀ left' j s₁, left' + j = left → Iterated body (min (bound s) left) s j s₁ →
        (∃ s', (countedLoop below overflow body left' j).run s₁ = .error overflow s') →
        ∃ s', Iterated body (min (bound s) left) s left s' := by
      intro left'
      induction left' with
      | zero =>
          rintro j s₁ hleft hiter -
          rw [Nat.zero_add] at hleft
          subst hleft
          exact ⟨s₁, hiter⟩
      | succ left' ih =>
          rintro j s₁ hleft hiter ⟨s', h⟩
          cases hindex : below s₁ j with
          | false =>
              rw [run_countedLoop_above _ _ _ hindex] at h
              cases h
          | true =>
              have hj : j < min (bound s) left := by
                rw [hbelow, hiter.bound_eq hbound] at hindex
                omega
              rw [run_countedLoop_below _ _ _ hindex] at h
              rcases run_bind_eq_error h with h | ⟨goesOn, s₂, hrun, h⟩
              · exact absurd h (hbody s₁ s')
              · cases goesOn with
                | false => cases h
                | true => exact ih (j + 1) s₂ (by omega) (hiter.next hj hrun) ⟨s', h⟩
    intro h
    apply hfrom left 0 s (Nat.add_zero _) .start h
  · rintro ⟨s', hiter⟩
    use s'
    rw [hiter.run_countedLoop hbelow hbound, Nat.sub_self]
    rfl

/-- Before the index of the loop overflows, what every iteration increases has been increased as
often as the index. -/
theorem countedLoop_overflow_le {f : σ → Nat}
    (hf : ∀ s s', body.run s = .ok true s' → f s + 1 ≤ f s')
    (hbody : ∀ s s', body.run s ≠ .error overflow s') {left : Nat} {s s' : σ}
    (hrun : (countedLoop below overflow body left 0).run s = .error overflow s') :
  f s + left ≤ f s'
  := by
  obtain ⟨s₁, hiter⟩ := (countedLoop_overflow_iff hbelow hbound hbody left s).mp ⟨s', hrun⟩
  rw [hiter.run_countedLoop hbelow hbound, Nat.sub_self] at hrun
  cases hrun
  exact hiter.add_le hf

end Bound

end Program
