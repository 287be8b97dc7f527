import FlightBooking.Lib.Serial

/-!
# Answers — what the processes of a pool return

A pool forgets what its processes return. Here each process enters its result in a table
beside the state when it returns; one that raises enters nothing.
-/

namespace Py

variable {F : Type} {V : F → Type} {σ ε ι α : Type}

/-- The calls of processes that enter their results. -/
inductive Answered (F ι α : Type) : Type
  | call (f : F)
  | answer (i : ι) (a : α)

namespace Answered

/-- What the call returns. -/
abbrev Result (V : F → Type) : Answered F ι α → Type
  | call f => V f
  | answer _ _ => Unit

/-- The table, with the result of `i` in it if there is one. -/
def enter [DecidableEq ι] (table : ι → Option α) (i : ι) : Except ε α → ι → Option α
  | .ok a => Function.update table i (some a)
  | .error _ => table

/-- A call does what it does to the state. -/
def handle [DecidableEq ι] (h : (f : F) → Eff σ ε (V f)) :
    (f : Answered F ι α) → Eff (σ × (ι → Option α)) ε (f.Result V)
  | call f => fun x => (((h f).run x.1).1, ((h f).run x.1).2, x.2)
  | answer i a => Eff.modify fun x => (x.1, Function.update x.2 i (some a))

end Answered

/-- The process, which enters its result under `i`. -/
def Proc.answering (p : Proc F V ε α) (i : ι) :
    Proc (Answered F ι α) (Answered.Result V) ε Unit :=
  (p.translate fun f => Proc.perform (Answered.call f)) >>= fun a =>
    Proc.perform (Answered.answer i a)

/-- A process with calls to make has not come to its end. -/
theorem Proc.answering_finished {p : Proc F V ε α} {i : ι} (hp : p.finished = false) :
    (p.answering i).finished = false := by
  cases p with
  | ret a => cases hp
  | raise e => cases hp
  | call f k => rfl

section Run

variable [DecidableEq ι] {h : (f : F) → Eff σ ε (V f)}

/-- Uninterrupted, the process does what it does, and its result is in the table. -/
theorem Proc.run_answering (p : Proc F V ε α) (i : ι) (x : σ × (ι → Option α)) :
    (((p.answering i).run (Answered.handle h)).run x).2 =
      (((p.run h).run x.1).2, Answered.enter x.2 i ((p.run h).run x.1).1) := by
  induction p generalizing x with
  | ret a => rfl
  | raise e => rfl
  | call f k ih =>
      have hleft : ((Proc.call f k).answering i).run (Answered.handle h) =
          (Answered.handle (ι := ι) h (.call f) >>= fun r =>
            ((k r).answering i).run (Answered.handle h)) := rfl
      have hright : (Proc.call f k).run h = (h f >>= fun r => (k r).run h) := rfl
      have hcall : (Answered.handle (α := α) h (.call f)).run x =
          (((h f).run x.1).1, ((h f).run x.1).2, x.2) := rfl
      rw [hleft, hright, Eff.run_bind, Eff.run_bind, hcall]
      cases (h f).run x.1 with
      | mk result s =>
          cases result with
          | error e => rfl
          | ok r => exact ih r (s, x.2)

end Run

end Py
