import Mathlib.Data.List.Basic

/-!
# Histories

A history is a list of events, the latest first.  An event may create an entry, remove it or
change it; the creation of an entry that exists changes nothing.  `History.entry` follows the
entry event by event.  `History.since` gives the events since the entry was created, and
`History.entry_eq` computes the entry from these alone.  What no event of some kind changes,
a whole part of the history of that kind leaves alone (`History.unchanged`).  What holds of every
event at its time is `History.Each`.
-/

namespace History

variable {E V : Type}

/-- What events do to an entry. -/
structure Kind (E V : Type) where
  creates : E → Bool
  removes : E → Bool
  init : V
  change : E → V → V

variable (K : Kind E V)

/-- The entry after one more event. -/
def after (e : E) : Option V → Option V
  | some v => if K.removes e then none else some (K.change e v)
  | none => if K.creates e && !K.removes e then some K.init else none

/-- An event that neither creates nor removes nor changes an entry. -/
theorem after_idle {e : E} (hc : K.creates e = false) (hr : K.removes e = false)
    (hch : ∀ v, K.change e v = v) (o : Option V) :
  after K e o = o
  := by
  cases o with
  | some v => simp [after, hr, hch]
  | none => simp [after, hc]

/-- The entry after all the events of a history. -/
def entry (h : List E) : Option V :=
  h.foldr (after K) none

theorem entry_cons (e : E) (h : List E) :
  entry K (e :: h) = after K e (entry K h)
  := rfl

/-- The events since the entry was created, if it has not been removed since. -/
def since : List E → Option (List E)
  | [] => none
  | e :: h =>
      if K.removes e then none
      else match since h with
        | some es => some (e :: es)
        | none => if K.creates e then some [] else none

/-- The entry is made by the events since its creation. -/
theorem entry_eq (h : List E) :
  entry K h = (since K h).map fun es => es.foldr K.change K.init
  := by
  induction h with
  | nil => rfl
  | cons e h ih =>
      rw [entry_cons, ih, since]
      cases hr : K.removes e with
      | true => cases since K h <;> simp [after, hr]
      | false =>
          cases since K h with
          | some es => simp [after, hr]
          | none => cases hc : K.creates e <;> simp [after, hr, hc]

/-- There is an entry if it has been created and not been removed since. -/
theorem since_isSome_iff (h : List E) :
  (since K h).isSome
    ↔ ∃ es e h', h = es ++ e :: h' ∧ K.creates e ∧ ∀ e' ∈ e :: es, K.removes e' = false
  := by
  induction h with
  | nil => simp [since]
  | cons e h ih =>
      constructor
      · intro hs
        cases hr : K.removes e with
        | true => simp [since, hr] at hs
        | false =>
            cases hc : since K h with
            | some es =>
                rw [hc] at ih
                obtain ⟨es', e', h', rfl, he', hes'⟩ := ih.mp rfl
                use e :: es', e', h', rfl, he'
                simp only [List.mem_cons, forall_eq_or_imp] at hes' ⊢
                exact ⟨hes'.1, hr, hes'.2⟩
            | none =>
                simp only [since, hr, hc] at hs
                have he : K.creates e := by
                  by_contra hcr
                  simp [hcr] at hs
                exact ⟨[], e, h, rfl, he, by simpa using hr⟩
      · rintro ⟨es, e', h', heq, he', hes⟩
        cases es with
        | nil =>
            obtain ⟨rfl, rfl⟩ := List.cons_eq_cons.mp heq
            have hr := hes e List.mem_cons_self
            cases hc : since K h <;> simp [since, hr, hc, he']
        | cons e₁ es =>
            rw [List.cons_append] at heq
            obtain ⟨rfl, rfl⟩ := List.cons_eq_cons.mp heq
            have hr := hes e (by simp)
            have hsome := ih.mpr ⟨es, e', h', rfl, he', fun x hx => hes x (by
              rcases List.mem_cons.mp hx with rfl | hx
              · simp
              · simp [hx])⟩
            obtain ⟨es', hes'⟩ := Option.isSome_iff_exists.mp hsome
            simp [since, hr, hes']

/-! ### Events that change nothing -/

/-- What each event of a kind leaves alone, all the latest events leave alone if they are of that
kind. -/
theorem unchanged {B : Type} {P : E → Prop} {f : List E → B}
    (h : ∀ e es, P e → f (e :: es) = f es) {es : List E} (hes : ∀ e ∈ es, P e) :
  f es = f []
  := by
  induction es with
  | nil => rfl
  | cons e es ih =>
      rw [h e es (hes e List.mem_cons_self)]
      apply ih
      intro e' he'
      apply hes e' (List.mem_cons_of_mem e he')

/-- What no event of a kind changes is not changed by many of them. -/
theorem unchanged_append {B : Type} {P : E → Prop} {f : List E → B}
    (h : ∀ e t, P e → f (e :: t) = f t) {es : List E} (hes : ∀ e ∈ es, P e) (t : List E) :
  f (es ++ t) = f t
  := unchanged (f := fun es => f (es ++ t)) (fun e es he => h e (es ++ t) he) hes

/-! ### What holds of each event -/

/-- Each event satisfies `P` with what has happened before it. -/
def Each (P : E → List E → Prop) : List E → Prop
  | [] => True
  | e :: h => P e h ∧ Each P h

/-- What holds at each event of a history holds still when further events meet it. -/
theorem Each.append {P : E → List E → Prop} {es h : List E} (hes : ∀ e ∈ es, ∀ h, P e h)
    (hh : Each P h) :
  Each P (es ++ h)
  := by
  induction es with
  | nil => apply hh
  | cons e es ih =>
      constructor
      · apply hes e List.mem_cons_self
      · apply ih
        intro e' he'
        apply hes e' (List.mem_cons_of_mem _ he')

/-! ### Values set by events -/

/-- The value set latest, or the given one if none has been set. -/
def latest {A : Type} (sets : E → Option A) (a : A) (es : List E) : A :=
  (es.findSome? sets).getD a

@[simp]
theorem latest_nil {A : Type} (sets : E → Option A) (a : A) :
  latest sets a [] = a
  := rfl

/-- The latest value is that of the newest event that sets one. -/
theorem latest_cons {A : Type} (sets : E → Option A) (a : A) (e : E) (es : List E) :
  latest sets a (e :: es) = (sets e).getD (latest sets a es)
  := by
  cases h : sets e <;> simp [latest, List.findSome?, h]

/-- The value set latest is `b`, which is not the initial one, if it has been set to `b` and
to nothing else since. -/
theorem latest_eq_iff {A : Type} (sets : E → Option A) {a b : A} (hab : a ≠ b) (es : List E) :
  latest sets a es = b
    ↔ ∃ later e earlier, es = later ++ e :: earlier ∧ sets e = some b ∧
        ∀ e' ∈ later, sets e' = none ∨ sets e' = some b
  := by
  induction es with
  | nil => simp [hab]
  | cons e es ih =>
      rw [latest_cons]
      constructor
      · intro h
        cases hs : sets e with
        | some b' =>
            rw [hs] at h
            exact ⟨[], e, es, rfl, by rw [hs, ← h]; rfl, by simp⟩
        | none =>
            rw [hs] at h
            obtain ⟨later, e', earlier, rfl, he', hlater⟩ := ih.mp h
            use e :: later, e', earlier, rfl, he'
            simp only [List.mem_cons, forall_eq_or_imp]
            exact ⟨.inl hs, hlater⟩
      · rintro ⟨later, e', earlier, heq, he', hlater⟩
        cases later with
        | nil =>
            obtain ⟨rfl, rfl⟩ := List.cons_eq_cons.mp heq
            rw [he']
            rfl
        | cons e₁ later =>
            rw [List.cons_append] at heq
            obtain ⟨rfl, rfl⟩ := List.cons_eq_cons.mp heq
            rcases hlater e List.mem_cons_self with hs | hs
            · rw [hs]
              apply ih.mpr
              use later, e', earlier, rfl, he'
              intro x hx
              apply hlater x (List.mem_cons_of_mem e hx)
            · rw [hs]
              rfl

/-- If no event sets the initial value, the latest value is the initial one exactly if none sets
any. -/
theorem latest_eq_init_iff {A : Type} (sets : E → Option A) {a : A} (es : List E)
    (hsets : ∀ e, sets e ≠ some a) :
  latest sets a es = a ↔ ∀ e ∈ es, sets e = none
  := by
  induction es with
  | nil => simp
  | cons e es ih =>
      rw [latest_cons]
      cases hs : sets e with
      | some b =>
          have hb : b ≠ a := by
            rintro rfl
            apply hsets e hs
          simp [hs, hb]
      | none => simpa [hs] using ih

end History
