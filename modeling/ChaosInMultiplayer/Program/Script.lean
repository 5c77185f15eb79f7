import ChaosInMultiplayer.Program.Basic

/-!
# Scripts of calls

`Script C A α` is the type of programs that make calls from `C`, the call `c` being
answered by a value of `A c`, and that return a value of `α`.  A script is run by a handler
of the calls (`Script.run`), and `Script.Only P` says that all the calls it can make
satisfy `P`.  A script moves along a preorder when the handler does so on every call the
script can make.
-/

/-- A program that makes calls, each chosen from the answers to the earlier ones. -/
inductive Script (C : Type) (A : C → Type) (α : Type) : Type where
  | done (a : α)
  | call (c : C) (next : A c → Script C A α)

namespace Script

variable {C : Type} {A : C → Type} {α β ε σ : Type}

/-- The script `s` followed by the script chosen by `f` from the value of `s`. -/
def bind : Script C A α → (α → Script C A β) → Script C A β
  | .done a, f => f a
  | .call c next, f => .call c (fun a => (next a).bind f)

instance : Monad (Script C A) where
  pure := .done
  bind := bind

/-- The script that makes the call `c` and returns its answer. -/
def request (c : C) : Script C A (A c) :=
  .call c .done

/-- The program a script stands for when its calls are handled by `handle`. -/
def run (handle : (c : C) → EStateM ε σ (A c)) : Script C A α → EStateM ε σ α
  | .done a => pure a
  | .call c next => do
      let a ← handle c
      (next a).run handle

variable {handle : (c : C) → EStateM ε σ (A c)}

@[simp]
theorem run_pure (a : α) :
  (pure a : Script C A α).run handle = pure a
  := rfl

@[simp]
theorem run_request (c : C) :
  (request c : Script C A (A c)).run handle = handle c
  := bind_pure (handle c)

/-- A sequence of scripts is run in sequence. -/
@[simp]
theorem run_bind (s : Script C A α) (f : α → Script C A β) :
  (s >>= f).run handle = s.run handle >>= fun a => (f a).run handle
  := by
  induction s with
  | done a => rfl
  | call c next ih =>
      apply Eq.trans (congrArg (handle c >>= ·) (funext ih))
      symm
      apply bind_assoc

/-- All the calls the script can make satisfy `P`. -/
def Only (P : C → Prop) : Script C A α → Prop
  | .done _ => True
  | .call c next => P c ∧ ∀ a, (next a).Only P

theorem only_true (s : Script C A α) :
  s.Only fun _ => True
  := by
  induction s with
  | done a => trivial
  | call c next ih => exact ⟨trivial, ih⟩

/-- A script that makes only certain calls makes only those of any wider kind. -/
theorem Only.mono {P Q : C → Prop} (h : ∀ c, P c → Q c) {s : Script C A α} (hs : s.Only P) :
  s.Only Q
  := by
  induction s with
  | done a => trivial
  | call c next ih => exact ⟨h c hs.1, fun a => ih a (hs.2 a)⟩

theorem only_request {P : C → Prop} {c : C} (hc : P c) :
  (request c : Script C A (A c)).Only P
  := ⟨hc, fun _ => trivial⟩

/-- A sequence of scripts makes only the calls that both of its parts make. -/
theorem Only.bind {P : C → Prop} {s : Script C A α} {f : α → Script C A β} (hs : s.Only P)
    (hf : ∀ a, (f a).Only P) :
  (s >>= f).Only P
  := by
  induction s with
  | done a => apply hf a
  | call c next ih => exact ⟨hs.1, fun a => ih a (hs.2 a)⟩

open Program

/-- If the handler moves along `R` on the calls satisfying `P`, so does every script that
makes only such calls. -/
theorem moves {R : σ → σ → Prop} [Std.Refl R] [IsTrans σ R] {P : C → Prop}
    (h : ∀ c, P c → Moves R (handle c)) {s : Script C A α} (hs : s.Only P) :
  Moves R (s.run handle)
  := by
  induction s with
  | done a => apply Moves.pure
  | call c next ih =>
      apply Moves.bind
      · apply h c hs.1
      · intro a
        apply ih a (hs.2 a)

/-- If the calls satisfying `P` keep `I` and raise only exceptions satisfying `E`, so does
every script that makes only such calls. -/
theorem raises {I : σ → Prop} {E : ε → Prop} {P : C → Prop}
    (hI : ∀ c, P c → Keeps I (handle c)) (h : ∀ c, P c → Raises I E (handle c))
    {s : Script C A α} (hs : s.Only P) :
  Raises I E (s.run handle)
  := by
  induction s with
  | done a => apply Raises.pure
  | call c next ih =>
      apply (h c hs.1).bind (hI c hs.1)
      intro a
      apply ih a (hs.2 a)

end Script
