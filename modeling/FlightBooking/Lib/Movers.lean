import FlightBooking.Lib.RelyGuarantee

/-!
# Movers — turns that can be pushed past each other

Two statements commute if neither notices whether the other comes before or after it.
What commutes with each call of a process commutes with its run, and with those of its
calls that have been made (`Ahead`).
-/

namespace Py

variable {F : Type} {V : F → Type} {σ ε α β γ ι : Type}

/-! ## Statements that commute -/

namespace Eff

/-- From every state with `I`, either order gives the same results and the same state. -/
def Commute (I : σ → Prop) (x : Eff σ ε α) (y : Eff σ ε β) : Prop :=
  ∀ s, I s →
    (y.run (x.run s).2).1 = (y.run s).1 ∧ (x.run (y.run s).2).1 = (x.run s).1 ∧
      (y.run (x.run s).2).2 = (x.run (y.run s).2).2

/-- The statement leads from `I` to `I`. -/
def Keeps (I : σ → Prop) (x : Eff σ ε α) : Prop := ∀ s, I s → I (x.run s).2

section Commute

variable {I : σ → Prop} {x : Eff σ ε α} {y : Eff σ ε β} {k : β → Eff σ ε γ}

theorem Commute.symm (h : Commute I x y) : Commute I y x := by
  intro s hs
  obtain ⟨hy, hx, hstate⟩ := h s hs
  exact ⟨hx, hy, hstate.symm⟩

theorem Commute.mono {I' : σ → Prop} (h : Commute I x y) (hI : ∀ s, I' s → I s) :
    Commute I' x y :=
  fun s hs => h s (hI s hs)

theorem Commute.pure (b : β) : Commute I x (Pure.pure b : Eff σ ε β) :=
  fun _ _ => ⟨rfl, rfl, rfl⟩

theorem Commute.raise (e : ε) : Commute I x (Eff.raise e : Eff σ ε β) :=
  fun _ _ => ⟨rfl, rfl, rfl⟩

/-- What commutes with the parts commutes with the sequence. -/
theorem Commute.bind (hy : Commute I x y) (hkeeps : Keeps I y)
    (hk : ∀ b, Commute I x (k b)) : Commute I x (y >>= k) := by
  intro s hs
  obtain ⟨hresult, hown, hstate⟩ := hy s hs
  have hleft : (y.run (x.run s).2) = ((y.run s).1, (x.run (y.run s).2).2) :=
    Prod.ext hresult hstate
  rw [run_bind, run_bind, hleft]
  have hs' := hkeeps s hs
  cases hrun : y.run s with
  | mk result s' =>
      rw [hrun] at hown hs'
      cases result with
      | error e => exact ⟨rfl, hown, rfl⟩
      | ok b =>
          obtain ⟨hresult', hown', hstate'⟩ := hk b s' hs'
          exact ⟨hresult', hown'.trans hown, hstate'⟩

theorem Keeps.bind (hy : Keeps I y) (hk : ∀ b, Keeps I (k b)) : Keeps I (y >>= k) := by
  intro s hs
  rw [run_bind]
  have hs' := hy s hs
  cases hrun : y.run s with
  | mk result s' =>
      rw [hrun] at hs'
      cases result with
      | error e => exact hs'
      | ok b => exact hk b s' hs'

end Commute

end Eff

/-! ## Processes -/

namespace Proc

variable {h : (f : F) → Eff σ ε (V f)} {I : σ → Prop}

theorem Calls.keeps {p : Proc F V ε α} (hp : Calls (fun f => Eff.Keeps I (h f)) p) :
    Eff.Keeps I (p.run h) := by
  induction p with
  | ret a => exact fun _ hs => hs
  | raise e => exact fun _ hs => hs
  | call f k ih => exact Eff.Keeps.bind hp.1 fun r => ih r (hp.2 r)

theorem Calls.commute {x : Eff σ ε β} {p : Proc F V ε α}
    (hp : Calls (fun f => Eff.Commute I x (h f) ∧ Eff.Keeps I (h f)) p) :
    Eff.Commute I x (p.run h) := by
  induction p with
  | ret a => exact Eff.Commute.pure a
  | raise e => exact Eff.Commute.raise e
  | call f k ih => exact Eff.Commute.bind hp.1.1 hp.1.2 fun r => ih r (hp.2 r)

theorem Calls.imp {C C' : F → Prop} (hC : ∀ f, C f → C' f) {p : Proc F V ε α} (hp : Calls C p) :
    Calls C' p := by
  induction p with
  | ret a => trivial
  | raise e => trivial
  | call f k ih => exact ⟨hC f hp.1, fun r => ih r (hp.2 r)⟩

theorem Calls.resume {C : F → Prop} {f : F} {k : V f → Proc F V ε α} (hk : ∀ r, (k r).Calls C)
    (x : Except ε (V f)) : (Proc.resume k x).Calls C := by
  cases x with
  | ok r => exact hk r
  | error e => trivial

/-- Calls of `M`, but for one of `N` at most. -/
def Reduces (M N : F → Prop) : Proc F V ε α → Prop
  | ret _ => True
  | raise _ => True
  | call f k => (M f ∧ ∀ r, Reduces M N (k r)) ∨ (N f ∧ ∀ r, Calls M (k r))

/-- Calls that find the same in every state with `I`, one of `N`, and then calls of `M`. -/
def Atomic (h : (f : F) → Eff σ ε (V f)) (I : σ → Prop) (M N : F → Prop) : Proc F V ε α → Prop
  | ret _ => False
  | raise _ => False
  | call f k => (∃ r, (∀ s, I s → (h f).run s = (.ok r, s)) ∧ Atomic h I M N (k r)) ∨
      (N f ∧ ∀ r, Calls M (k r))

/-- From `s`, the calls of `p₀` that have been made, all of `M`, lead to `s'`; what is
left of it is `p`. -/
inductive Ahead (h : (f : F) → Eff σ ε (V f)) (M : F → Prop) (p₀ : Proc F V ε α) (s : σ) :
    Proc F V ε α → σ → Prop
  | refl : Ahead h M p₀ s p₀ s
  | step {f : F} {k : V f → Proc F V ε α} {s' : σ} (hp : Ahead h M p₀ s (call f k) s')
      (hf : M f) : Ahead h M p₀ s (resume k ((h f).run s').1) ((h f).run s').2

section Ahead

variable {M : F → Prop} {p₀ p : Proc F V ε α} {s s' : σ}

theorem Ahead.run_eq (hp : Ahead h M p₀ s p s') : (p.run h).run s' = (p₀.run h).run s := by
  induction hp with
  | refl => rfl
  | @step f k s' _ _ ih => exact (run_step (call f k) s').trans ih

theorem Ahead.keeps (hp : Ahead h M p₀ s p s') (hkeeps : ∀ f, M f → Eff.Keeps I (h f))
    (hs : I s) : I s' := by
  induction hp with
  | refl => exact hs
  | step _ hf ih => exact hkeeps _ hf _ ih

/-- What commutes with the calls made can come before them. -/
theorem Ahead.commute {y : Eff σ ε β} (hp : Ahead h M p₀ s p s')
    (hkeeps : ∀ f, M f → Eff.Keeps I (h f)) (hcommute : ∀ f, M f → Eff.Commute I (h f) y)
    (hs : I s) : Ahead h M p₀ (y.run s).2 p (y.run s').2 := by
  induction hp with
  | refl => exact .refl
  | @step f k s' hp hf ih =>
      obtain ⟨-, hresult, hstate⟩ := hcommute f hf s' (hp.keeps hkeeps hs)
      rw [← hresult, hstate]
      exact ih.step hf

end Ahead

section Shapes

variable {M N : F → Prop} {p : Proc F V ε α}

theorem Reduces.calls (hp : Reduces M N p) : Calls (fun f => M f ∨ N f) p := by
  induction p with
  | ret a => trivial
  | raise e => trivial
  | call f k ih =>
      rcases hp with ⟨hf, hk⟩ | ⟨hf, hk⟩
      · exact ⟨.inl hf, fun r => ih r (hk r)⟩
      · exact ⟨.inr hf, fun r => (hk r).imp fun _ => .inl⟩

theorem Calls.reduces (hp : Calls M p) : Reduces M N p := by
  induction p with
  | ret a => trivial
  | raise e => trivial
  | call f k ih => exact .inl ⟨hp.1, fun r => ih r (hp.2 r)⟩

/-- Up to the call of `N` it may be in any part of the sequence. -/
theorem Reduces.bind {g : α → Proc F V ε β} (hp : Calls M p) (hg : ∀ a, Reduces M N (g a)) :
    Reduces M N (p >>= g) := by
  induction p with
  | ret a => exact hg a
  | raise e => trivial
  | call f k ih => exact .inl ⟨hp.1, fun r => ih r (hp.2 r)⟩

theorem Reduces.append {g : α → Proc F V ε β} (hp : Reduces M N p) (hg : ∀ a, Calls M (g a)) :
    Reduces M N (p >>= g) := by
  induction p with
  | ret a => exact (hg a).reduces
  | raise e => trivial
  | call f k ih =>
      rcases hp with ⟨hf, hk⟩ | ⟨hf, hk⟩
      · exact .inl ⟨hf, fun r => ih r (hk r)⟩
      · exact .inr ⟨hf, fun r => (hk r).bind hg⟩

/-- The reads do not count: the process is its one call of `N` and what follows it. -/
theorem Atomic.eq_call (hp : Atomic h I M N p) :
    ∃ (f : F) (k : V f → Proc F V ε α), N f ∧ (∀ r, Calls M (k r)) ∧
      ∀ s, I s → (p.run h).run s = ((call f k).run h).run s := by
  induction p with
  | ret a => cases hp
  | raise e => cases hp
  | call f k ih =>
      rcases hp with ⟨r, hread, hrest⟩ | ⟨hf, hk⟩
      · obtain ⟨g, k', hg, hk', heq⟩ := ih r hrest
        refine ⟨g, k', hg, hk', fun s hs => ?_⟩
        have hrun : ((call f k).run h).run s = ((h f >>= fun r => (k r).run h) : Eff σ ε α).run s :=
          rfl
        rw [hrun, Eff.run_bind_ok (hread s hs)]
        exact heq s hs
      · exact ⟨f, k, hf, hk, fun _ _ => rfl⟩

theorem calls_finished (hp : p.finished = true) : Calls M p := by
  cases p with
  | ret a => trivial
  | raise e => trivial
  | call f k => cases hp

theorem commute_finished {x : Eff σ ε β} (hp : p.finished = true) :
    Eff.Commute I x (p.run h) := by
  cases p with
  | ret a => exact Eff.Commute.pure a
  | raise e => exact Eff.Commute.raise e
  | call f k => cases hp

theorem keeps_finished (hp : p.finished = true) : Eff.Keeps I (p.run h) := by
  intro s hs
  rw [run_finished hp]
  exact hs

end Shapes

end Proc

end Py
