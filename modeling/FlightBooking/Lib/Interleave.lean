import Mathlib.Logic.Function.Basic
import FlightBooking.Lib.Effect

/-!
# Interleave — processes that share a state

A process is a tree of calls: each call is atomic, and what follows depends on
its result alone. Run without interruption it is a statement (`Proc.run`). In a
pool, the other processes take turns between its calls: that is the same run,
under a handler that lets the turns of the others pass first (`interfere`), so
the rules for `run` serve for both.
-/

namespace Py

/-- A process over the calls `F` with results `R`. -/
inductive Proc (F : Type) (R : F → Type) (ε α : Type) : Type
  | ret (a : α)
  | raise (e : ε)
  | call (f : F) (k : R f → Proc F R ε α)

namespace Proc

variable {F : Type} {R : F → Type} {σ ε α β : Type}

def bind : Proc F R ε α → (α → Proc F R ε β) → Proc F R ε β
  | ret a, g => g a
  | raise e, _ => raise e
  | call f k, g => call f fun r => (k r).bind g

instance : Monad (Proc F R ε) where
  pure := ret
  bind := bind

/-- One call. -/
def perform (f : F) : Proc F R ε (R f) := call f ret

/-- An expression that may raise, without a call. -/
def ofExcept : Except ε α → Proc F R ε α
  | .ok a => ret a
  | .error e => raise e

/-- Each call is made as a process of other calls. -/
def translate {F' : Type} {R' : F' → Type} (g : (f : F) → Proc F' R' ε (R f)) :
    Proc F R ε α → Proc F' R' ε α
  | ret a => ret a
  | raise e => raise e
  | call f k => (g f).bind fun r => (k r).translate g

/-- The process has returned or raised. -/
def finished : Proc F R ε α → Bool
  | call _ _ => false
  | _ => true

/-- Run the process without interruption, its calls answered by `h`. -/
def run (h : (f : F) → Eff σ ε (R f)) : Proc F R ε α → Eff σ ε α
  | ret a => pure a
  | raise e => Eff.raise e
  | call f k => h f >>= fun r => (k r).run h

/-- What is left of the process when its call is answered. -/
def resume {f : F} (k : R f → Proc F R ε α) : Except ε (R f) → Proc F R ε α
  | .ok r => k r
  | .error e => raise e

/-- One turn of the process: its next call. -/
def step (h : (f : F) → Eff σ ε (R f)) : Proc F R ε α → σ → Proc F R ε α × σ
  | ret a, s => (ret a, s)
  | raise e, s => (raise e, s)
  | call f k, s => (resume k ((h f).run s).1, ((h f).run s).2)

section Run

variable {h : (f : F) → Eff σ ε (R f)} {s : σ}

@[simp] theorem run_pure (a : α) : (run h (pure a : Proc F R ε α)).run s = (.ok a, s) := rfl

theorem run_bind (p : Proc F R ε α) (g : α → Proc F R ε β) (s : σ) :
    (run h (p >>= g)).run s = (run h p >>= fun a => run h (g a)).run s := by
  induction p generalizing s with
  | ret a => rfl
  | raise e => rfl
  | call f k ih =>
      have hstep : (run h (call f k >>= g)).run s =
          (h f >>= fun r => run h (k r >>= g)).run s := rfl
      have hrun : (run h (call f k) >>= fun a => run h (g a)).run s =
          ((h f >>= fun r => run h (k r)) >>= fun a => run h (g a)).run s := rfl
      rw [hstep, hrun]
      cases hcall : (h f).run s with
      | mk result s' =>
          cases result with
          | error e =>
              rw [Eff.run_bind_error hcall, Eff.run_bind_error (Eff.run_bind_error hcall)]
          | ok r =>
              rw [Eff.run_bind_ok hcall, ih r s', Eff.run_bind, Eff.run_bind,
                Eff.run_bind_ok hcall]

/-- The first part of the process returns: the rest runs on what it left. -/
theorem run_bind_ok {p : Proc F R ε α} {g : α → Proc F R ε β} {s' : σ} {a : α}
    (hp : (run h p).run s = (.ok a, s')) : (run h (p >>= g)).run s = (run h (g a)).run s' := by
  rw [run_bind, Eff.run_bind_ok hp]

theorem run_perform (f : F) (s : σ) : (run h (perform f)).run s = (h f).run s := by
  have hstep : (run h (perform f)).run s = (h f >>= pure).run s := rfl
  rw [hstep, Eff.run_bind]
  cases (h f).run s with
  | mk result s' => cases result <;> rfl

/-- A process at its end changes nothing any more. -/
theorem run_finished {p : Proc F R ε α} (hp : p.finished = true) (s : σ) :
    ((run h p).run s).2 = s := by
  cases p with
  | ret a => rfl
  | raise e => rfl
  | call f k => cases hp

/-- The run of the process is the statement. -/
def Runs (h : (f : F) → Eff σ ε (R f)) (p : Proc F R ε α) (m : Eff σ ε α) : Prop :=
  ∀ s, (run h p).run s = m.run s

theorem Runs.perform (f : F) : Runs h (perform f) (h f) := run_perform f

theorem Runs.bind {p : Proc F R ε α} {m : Eff σ ε α} {g : α → Proc F R ε β} {g' : α → Eff σ ε β}
    (hp : Runs h p m) (hg : ∀ a, Runs h (g a) (g' a)) : Runs h (p >>= g) (m >>= g') := by
  intro s
  rw [run_bind, Eff.run_bind, Eff.run_bind, hp s]
  cases m.run s with
  | mk result s' =>
      cases result with
      | error e => rfl
      | ok a => exact hg a s'

theorem Runs.ofExcept (x : Except ε α) : Runs h (Proc.ofExcept x) (Eff.ofExcept x) := by
  intro s
  cases x <;> rfl

/-- A translation of each call is one of the process. -/
theorem Runs.translate {F' : Type} {R' : F' → Type} {h' : (f : F') → Eff σ ε (R' f)}
    {g : (f : F) → Proc F' R' ε (R f)} (hg : ∀ f, Runs h' (g f) (h f)) (p : Proc F R ε α) :
    Runs h' (p.translate g) (run h p) := by
  induction p with
  | ret a => exact fun _ => rfl
  | raise e => exact fun _ => rfl
  | call f k ih => exact (hg f).bind ih

/-- Turns are what a run consists of: running on after one of them is running. -/
theorem run_step (p : Proc F R ε α) (s : σ) :
    (run h (p.step h s).1).run (p.step h s).2 = (run h p).run s := by
  cases p with
  | ret a => rfl
  | raise e => rfl
  | call f k =>
      have hrun : (run h (call f k)).run s = (h f >>= fun r => run h (k r)).run s := rfl
      rw [hrun, Eff.run_bind, step]
      cases (h f).run s with
      | mk result s' => cases result <;> rfl

end Run

end Proc

/-! ## Pools -/

/-- Processes on one state. Those that are `critical` run under one mutex, from
their first call to their end; `holder` has it. -/
structure Pool (F : Type) (R : F → Type) (σ ε ι : Type) where
  shared : σ
  proc : ι → Proc F R ε Unit
  critical : ι → Bool
  holder : Option ι := none

namespace Pool

variable {F : Type} {R : F → Type} {σ ε α ι : Type} [DecidableEq ι]

/-- The process waits for the mutex. -/
def blocked (w : Pool F R σ ε ι) (i : ι) : Bool :=
  w.critical i && decide (w.holder ≠ none ∧ w.holder ≠ some i)

/-- A turn of process `i`; nothing happens while it waits. -/
def turn (h : (f : F) → Eff σ ε (R f)) (w : Pool F R σ ε ι) (i : ι) : Pool F R σ ε ι :=
  if w.blocked i then w
  else
    let next := (w.proc i).step h w.shared
    { w with
      shared := next.2
      proc := Function.update w.proc i next.1
      holder :=
        if w.critical i then if next.1.finished then none else some i
        else w.holder }

def turns (h : (f : F) → Eff σ ε (R f)) (w : Pool F R σ ε ι) (is : List ι) : Pool F R σ ε ι :=
  is.foldl (turn h) w

/-- The shared states from `w` on, over the turns. -/
def states (h : (f : F) → Eff σ ε (R f)) : Pool F R σ ε ι → List ι → List σ
  | w, [] => [w.shared]
  | w, i :: is => w.shared :: states h (w.turn h i) is

theorem mem_states_turns (h : (f : F) → Eff σ ε (R f)) (w : Pool F R σ ε ι) (is : List ι) :
    (w.turns h is).shared ∈ w.states h is := by
  induction is generalizing w with
  | nil => simp [turns, states]
  | cons i is ih => exact List.mem_cons_of_mem _ (ih (w.turn h i))

@[simp] theorem turn_critical (h : (f : F) → Eff σ ε (R f)) (w : Pool F R σ ε ι) (i : ι) :
    (w.turn h i).critical = w.critical := by
  unfold turn
  split <;> rfl

@[simp] theorem turns_critical (h : (f : F) → Eff σ ε (R f)) (w : Pool F R σ ε ι)
    (is : List ι) : (w.turns h is).critical = w.critical := by
  induction is generalizing w with
  | nil => rfl
  | cons i is ih => exact (ih (w.turn h i)).trans (turn_critical h w i)

theorem turn_blocked {h : (f : F) → Eff σ ε (R f)} {w : Pool F R σ ε ι} {i : ι}
    (hb : w.blocked i = true) : w.turn h i = w := if_pos hb

theorem turn_ready {h : (f : F) → Eff σ ε (R f)} {w : Pool F R σ ε ι} {i : ι}
    (hb : w.blocked i = false) :
    w.turn h i = { w with
      shared := ((w.proc i).step h w.shared).2
      proc := Function.update w.proc i ((w.proc i).step h w.shared).1
      holder := if w.critical i then
          if ((w.proc i).step h w.shared).1.finished then none else some i
        else w.holder } := if_neg (by simp [hb])

/-- Who is not waiting has the mutex, or it is free. -/
theorem holder_of_ready {w : Pool F R σ ε ι} {i : ι} (hcritical : w.critical i = true)
    (hready : w.blocked i = false) : w.holder = none ∨ w.holder = some i := by
  simp only [blocked, hcritical, Bool.true_and, decide_eq_false_iff_not] at hready
  by_cases hnone : w.holder = none
  · exact .inl hnone
  · exact .inr (by_contra fun hsome => hready ⟨hnone, hsome⟩)

/-- A process that does not wait takes its turn. -/
theorem turn_of_ready {h : (f : F) → Eff σ ε (R f)} {w : Pool F R σ ε ι} {i : ι}
    (hready : w.blocked i = false) :
    (w.turn h i).shared = ((w.proc i).step h w.shared).2 ∧
      (w.turn h i).proc i = ((w.proc i).step h w.shared).1 ∧ (w.turn h i).blocked i = false := by
  unfold turn
  rw [if_neg (by simp [hready])]
  refine ⟨rfl, Function.update_self _ _ _, ?_⟩
  unfold blocked at hready ⊢
  cases hc : w.critical i with
  | false => simp
  | true =>
      -- with the mutex in hand, or done and without it
      cases hf : ((w.proc i).step h w.shared).1.finished <;> simp [hf]

/-- **Left alone, a process does what it does uninterrupted**: to run it to its end
after some of its turns is to run it from the start. -/
theorem run_turns_alone {h : (f : F) → Eff σ ε (R f)} {w : Pool F R σ ε ι} {i : ι}
    (hready : w.blocked i = false) (n : Nat) :
    (((w.turns h (List.replicate n i)).proc i).run h).run
      (w.turns h (List.replicate n i)).shared = ((w.proc i).run h).run w.shared := by
  induction n generalizing w with
  | zero => rfl
  | succ n ih =>
      obtain ⟨hshared, hproc, hready'⟩ := turn_of_ready hready
      have hturns : w.turns h (List.replicate (n + 1) i) =
          (w.turn h i).turns h (List.replicate n i) := rfl
      rw [hturns, ih hready', hshared, hproc, Proc.run_step]

/-- What no call changes no turn changes. -/
theorem states_invariant {h : (f : F) → Eff σ ε (R f)} {I : σ → Prop}
    (hI : ∀ f s, I s → I ((h f).run s).2) {w : Pool F R σ ε ι} (hw : I w.shared) (is : List ι) :
    ∀ s ∈ w.states h is, I s := by
  have hstep : ∀ (p : Proc F R ε Unit) (s : σ), I s → I (p.step h s).2 := by
    intro p s hs
    cases p with
    | ret a => exact hs
    | raise e => exact hs
    | call f k => exact hI f s hs
  induction is generalizing w with
  | nil =>
      intro s hs
      rw [states, List.mem_singleton] at hs
      exact hs ▸ hw
  | cons i is ih =>
      intro s hs
      rcases List.mem_cons.mp hs with rfl | hrest
      · exact hw
      · refine ih ?_ s hrest
        unfold turn
        split
        · exact hw
        · exact hstep _ _ hw

end Pool

/-! ## Interference -/

/-- A process in the middle of a pool: what is left of the schedule, one list of
turns for each call to come, and what has been seen so far. -/
structure Interfered (F : Type) (R : F → Type) (σ ε ι : Type) where
  pool : Pool F R σ ε ι
  gaps : List (List ι)
  /-- The calls made, each with the state that it was made in. -/
  calls : List (F × σ) := []
  /-- The states passed through, up to the latest call. -/
  passed : List σ := []

variable {F : Type} {R : F → Type} {σ ε α ι : Type} [DecidableEq ι]

namespace Interfered

/-- The pool after the turns of the next gap. -/
def advanced (h : (f : F) → Eff σ ε (R f)) (x : Interfered F R σ ε ι) : Pool F R σ ε ι :=
  x.pool.turns h (x.gaps.headD [])

/-- The state that the next call is made in. -/
def seen (h : (f : F) → Eff σ ε (R f)) (x : Interfered F R σ ε ι) : σ := (x.advanced h).shared

/-- The call `f` has been made in the state `seen`. -/
def after (h : (f : F) → Eff σ ε (R f)) (x : Interfered F R σ ε ι) (f : F) :
    Interfered F R σ ε ι where
  pool := { x.advanced h with shared := ((h f).run (x.seen h)).2 }
  gaps := x.gaps.tail
  calls := x.calls ++ [(f, x.seen h)]
  passed := x.passed ++ x.pool.states h (x.gaps.headD []) ++ [((h f).run (x.seen h)).2]

end Interfered

/-- The other processes take the turns of the next gap, then the call is made. -/
def interfere (h : (f : F) → Eff σ ε (R f)) (f : F) : Eff (Interfered F R σ ε ι) ε (R f) :=
  fun x => (((h f).run (x.seen h)).1, x.after h f)

/-- Without turns of the others a run is a run. -/
theorem run_interfere_alone (h : (f : F) → Eff σ ε (R f)) (p : Proc F R ε α)
    (x : Interfered F R σ ε ι) (hgaps : x.gaps = []) :
    ((p.run (interfere h)).run x).1 = ((p.run h).run x.pool.shared).1 ∧
      ((p.run (interfere h)).run x).2.pool.shared = ((p.run h).run x.pool.shared).2 := by
  induction p generalizing x with
  | ret a => exact ⟨rfl, rfl⟩
  | raise e => exact ⟨rfl, rfl⟩
  | call f k ih =>
      have hx : ((Proc.call f k).run (interfere h)).run x =
          (interfere h f >>= fun r => (k r).run (interfere h)).run x := rfl
      have hs : ((Proc.call f k).run h).run x.pool.shared =
          (h f >>= fun r => (k r).run h).run x.pool.shared := rfl
      have hcall : ((interfere h f).run x).1 = ((h f).run x.pool.shared).1 ∧
          ((interfere h f).run x).2.pool.shared = ((h f).run x.pool.shared).2 ∧
          ((interfere h f).run x).2.gaps = [] := by
        simp [interfere, Interfered.after, Interfered.seen, Interfered.advanced, Eff.run,
          Pool.turns, hgaps]
      obtain ⟨hresult, hshared, hnone⟩ := hcall
      rw [hx, hs, Eff.run_bind, Eff.run_bind]
      cases hanswer : (h f).run x.pool.shared with
      | mk result s =>
          cases hin : (interfere h f).run x with
          | mk result' x' =>
              rw [hanswer, hin] at hresult hshared
              rw [hin] at hnone
              obtain rfl : result' = result := hresult
              obtain rfl : x'.pool.shared = s := hshared
              cases result' with
              | error e => exact ⟨rfl, rfl⟩
              | ok r => exact ih r x' hnone

/-- An invariant of the state, over all that a process passes. -/
structure Interfered.Keeps (I : σ → Prop) (x : Interfered F R σ ε ι) : Prop where
  shared : I x.pool.shared
  passed : ∀ s ∈ x.passed, I s
  /-- Calls are made in states passed. -/
  calls : ∀ call ∈ x.calls, call.2 ∈ x.passed

section Keeps

variable {h : (f : F) → Eff σ ε (R f)} {I : σ → Prop} {x : Interfered F R σ ε ι}

theorem Interfered.Keeps.states (hx : x.Keeps I) (hI : ∀ f s, I s → I ((h f).run s).2)
    (is : List ι) : ∀ s ∈ x.pool.states h is, I s :=
  Pool.states_invariant hI hx.shared is

theorem Interfered.Keeps.seen (hx : x.Keeps I) (hI : ∀ f s, I s → I ((h f).run s).2) :
    I (x.seen h) :=
  hx.states hI _ _ (Pool.mem_states_turns h x.pool _)

theorem Interfered.Keeps.after (hx : x.Keeps I) (hI : ∀ f s, I s → I ((h f).run s).2) (f : F) :
    (x.after h f).Keeps I := by
  refine ⟨hI f _ (hx.seen hI), ?_, ?_⟩
  · intro s hs
    rw [Interfered.after, List.mem_append, List.mem_append, List.mem_singleton] at hs
    rcases hs with (hold | hgap) | rfl
    · exact hx.passed s hold
    · exact hx.states hI _ s hgap
    · exact hI f _ (hx.seen hI)
  · intro call hcall
    rw [Interfered.after, List.mem_append, List.mem_singleton] at hcall
    rw [Interfered.after, List.mem_append, List.mem_append]
    rcases hcall with hold | rfl
    · exact .inl (.inl (hx.calls call hold))
    · exact .inl (.inr (Pool.mem_states_turns h x.pool _))

end Keeps

end Py
