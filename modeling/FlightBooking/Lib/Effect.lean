import Mathlib.Init

/-!
# Effect — statements that mutate a state and may raise

A Python method body as a function from the state before to its outcome and the
state after. A raised exception keeps the mutations made before it, so the
state is returned on both exits; `ExceptT` under `StateM` has the same shape,
this type only fixes the order once and for all.
-/

namespace Py

/-- A computation on state `σ` that returns an `α` or raises an `ε`. -/
def Eff (σ ε α : Type) := σ → Except ε α × σ

namespace Eff

variable {σ ε α β : Type}

/-- Run the body from a state. -/
def run (m : Eff σ ε α) (s : σ) : Except ε α × σ := m s

instance : Monad (Eff σ ε) where
  pure a := fun s => (.ok a, s)
  bind m f := fun s =>
    match m s with
    | (.ok a, s') => f a s'
    | (.error e, s') => (.error e, s')

/-- Read the state. -/
def get : Eff σ ε σ := fun s => (.ok s, s)

/-- Mutate the state. -/
def modify (f : σ → σ) : Eff σ ε Unit := fun s => (.ok (), f s)

/-- `raise e`. -/
def raise (e : ε) : Eff σ ε α := fun s => (.error e, s)

/-- A pure expression that may raise. -/
def ofExcept (x : Except ε α) : Eff σ ε α := fun s => (x, s)

/-! ## Running the statements -/

@[simp] theorem run_pure (a : α) (s : σ) : run (pure a : Eff σ ε α) s = (.ok a, s) := rfl

@[simp] theorem run_get (s : σ) : run (get : Eff σ ε σ) s = (.ok s, s) := rfl

@[simp] theorem run_modify (f : σ → σ) (s : σ) :
    run (modify f : Eff σ ε Unit) s = (.ok (), f s) := rfl

@[simp] theorem run_raise (e : ε) (s : σ) : run (raise e : Eff σ ε α) s = (.error e, s) := rfl

@[simp] theorem run_ofExcept (x : Except ε α) (s : σ) :
    run (ofExcept x : Eff σ ε α) s = (x, s) := rfl

theorem run_bind (m : Eff σ ε α) (f : α → Eff σ ε β) (s : σ) :
    run (m >>= f) s =
      match run m s with
      | (.ok a, s') => run (f a) s'
      | (.error e, s') => (.error e, s') := rfl

/-- The first statement returns: the rest runs on what it left. -/
theorem run_bind_ok {m : Eff σ ε α} {f : α → Eff σ ε β} {s s' : σ} {a : α}
    (h : run m s = (.ok a, s')) : run (m >>= f) s = run (f a) s' := by
  rw [run_bind, h]

/-- The first statement raises: the rest does not run. -/
theorem run_bind_error {m : Eff σ ε α} {f : α → Eff σ ε β} {s s' : σ} {e : ε}
    (h : run m s = (.error e, s')) : run (m >>= f) s = (.error e, s') := by
  rw [run_bind, h]

@[simp] theorem run_get_bind (f : σ → Eff σ ε β) (s : σ) :
    run (get >>= f) s = run (f s) s := rfl

@[simp] theorem run_modify_bind (g : σ → σ) (f : Unit → Eff σ ε β) (s : σ) :
    run (modify g >>= f) s = run (f ()) (g s) := rfl

end Eff

end Py
