import Mathlib.Data.List.Basic
import Mathlib.Data.List.Induction
import Mathlib.Order.Basic

/-!
# Run — finite runs of a state machine

A machine is a function from a state and an input to an output and the next
state. Everything here is about `step`-runs over a list of inputs: the trace of
events, the rule for invariants, the rule for facts that hold between an event
and every later one, and unwinding for a part of the machine that must not
notice the rest.
-/

namespace Run

universe u v w

variable {σ : Type u} {ι : Type v} {ο : Type w}

/-- One step of a run: where it started, what came in, what went out, where it
ended. -/
structure Event (σ : Type u) (ι : Type v) (ο : Type w) where
  src : σ
  input : ι
  output : ο
  dst : σ

variable (step : σ → ι → ο × σ)

/-- The event of `step` at `s` on `i`. -/
def Event.of (s : σ) (i : ι) : Event σ ι ο := ⟨s, i, (step s i).1, (step s i).2⟩

/-- The events of the run from `s` over `is`, in order. -/
def trace : σ → List ι → List (Event σ ι ο)
  | _, [] => []
  | s, i :: is => Event.of step s i :: trace (step s i).2 is

/-- The state the run ends in. -/
def final : σ → List ι → σ
  | s, [] => s
  | s, i :: is => final (step s i).2 is

/-- Every step of the run meets `A` at the state it is taken in. -/
def Along (A : σ → ι → Prop) : σ → List ι → Prop
  | _, [] => True
  | s, i :: is => A s i ∧ Along A (step s i).2 is

variable {step}

@[simp] theorem final_nil (s : σ) : final step s [] = s := rfl

@[simp] theorem final_cons (s : σ) (i : ι) (is : List ι) :
    final step s (i :: is) = final step (step s i).2 is := rfl

theorem final_append (s : σ) (is js : List ι) :
    final step s (is ++ js) = final step (final step s is) js := by
  induction is generalizing s with
  | nil => rfl
  | cons i is ih => exact ih _

theorem trace_append (s : σ) (is js : List ι) :
    trace step s (is ++ js) = trace step s is ++ trace step (final step s is) js := by
  induction is generalizing s with
  | nil => rfl
  | cons i is ih => exact congrArg (Event.of step s i :: ·) (ih _)

/-- A trace has one event for each input. -/
theorem map_input_trace (step : σ → ι → ο × σ) (s : σ) (is : List ι) :
    (trace step s is).map Event.input = is := by
  induction is generalizing s with
  | nil => rfl
  | cons i is ih => exact congrArg (i :: ·) (ih _)

theorem Along.of_forall {A : σ → ι → Prop} (h : ∀ s i, A s i) (s : σ) (is : List ι) :
    Along step A s is := by
  induction is generalizing s with
  | nil => trivial
  | cons i is ih => exact ⟨h s i, ih _⟩

theorem Along.of_mem {P : ι → Prop} {is : List ι} (h : ∀ i ∈ is, P i) (s : σ) :
    Along step (fun _ i => P i) s is := by
  induction is generalizing s with
  | nil => trivial
  | cons i is ih => exact ⟨h i (by simp), ih (fun j hj => h j (by simp [hj])) _⟩

theorem Along.and {A A' : σ → ι → Prop} {s : σ} {is : List ι}
    (h : Along step A s is) (h' : Along step A' s is) :
    Along step (fun s i => A s i ∧ A' s i) s is := by
  induction is generalizing s with
  | nil => trivial
  | cons i is ih => exact ⟨⟨h.1, h'.1⟩, ih h.2 h'.2⟩

/-- An event of a trace is the step taken after the events before it. -/
theorem trace_split {s : σ} {is : List ι} {before after : List (Event σ ι ο)}
    {e : Event σ ι ο} (h : trace step s is = before ++ e :: after) :
    ∃ js i ks, is = js ++ i :: ks ∧ before = trace step s js ∧
      e = Event.of step (final step s js) i := by
  induction before generalizing s is with
  | nil =>
      cases is with
      | nil => cases h
      | cons i is =>
          simp only [trace, List.nil_append, List.cons.injEq] at h
          exact ⟨[], i, is, rfl, rfl, h.1.symm⟩
  | cons e₀ before ih =>
      cases is with
      | nil => cases h
      | cons i is =>
          simp only [trace, List.cons_append, List.cons.injEq] at h
          obtain ⟨js, j, ks, rfl, hbefore, he⟩ := ih h.2
          refine ⟨i :: js, j, ks, rfl, ?_, he⟩
          rw [trace, ← h.1, hbefore]

/-- A condition on the events of a trace, as one on its steps. -/
theorem along_of_trace {P : Event σ ι ο → Prop} {s : σ} {is : List ι}
    (h : ∀ e ∈ trace step s is, P e) : Along step (fun s i => P (Event.of step s i)) s is := by
  induction is generalizing s with
  | nil => trivial
  | cons i is ih =>
      exact ⟨h _ (by simp [trace]), ih (fun e he => h e (by simp [trace, he]))⟩

/-- A condition that can be checked step by step can be checked along a run. -/
instance decidableAlong {A : σ → ι → Prop} [h : ∀ s i, Decidable (A s i)] :
    (s : σ) → (is : List ι) → Decidable (Along step A s is)
  | _, [] => inferInstanceAs (Decidable True)
  | s, i :: is =>
      have := decidableAlong (A := A) (step s i).2 is
      inferInstanceAs (Decidable (A s i ∧ Along step A (step s i).2 is))

/-! ## Invariants -/

section Invariant

variable {A : σ → ι → Prop} {I : σ → Prop}

/-- What every admitted step keeps holds where the run ends. -/
theorem invariant (hI : ∀ s i, I s → A s i → I (step s i).2) {s : σ} {is : List ι}
    (h0 : I s) (ha : Along step A s is) : I (final step s is) := by
  induction is generalizing s with
  | nil => exact h0
  | cons i is ih => exact ih (hI s i h0 ha.1) ha.2

/-- The rule where a step keeps the invariant whatever its input. -/
theorem invariant_all (hI : ∀ s i, I s → I (step s i).2) {s : σ} (h0 : I s) (is : List ι) :
    I (final step s is) :=
  invariant (A := fun _ _ => True) (fun s i h _ => hI s i h) h0
    (Along.of_forall (fun _ _ => trivial) s is)

/-- A step relation that is reflexive and composes relates the ends of a run. -/
theorem relates {R : σ → σ → Prop} (hrefl : ∀ s, R s s)
    (htrans : ∀ a b c, R a b → R b c → R a c)
    (hI : ∀ s i, I s → A s i → I (step s i).2)
    (hR : ∀ s i, I s → A s i → R s (step s i).2) {s : σ} {is : List ι}
    (h0 : I s) (ha : Along step A s is) : R s (final step s is) := by
  induction is generalizing s with
  | nil => exact hrefl s
  | cons i is ih => exact htrans _ _ _ (hR s i h0 ha.1) (ih (hI s i h0 ha.1) ha.2)

/-- The rule for an invariant that knows the time of the latest step, for a run
whose times never go back. -/
theorem invariant_timed {τ : Type*} [Preorder τ] {J : τ → σ → Prop} (time : ι → τ)
    (hJ : ∀ t s i, J t s → A s i → t ≤ time i → J (time i) (step s i).2) {t : τ} {s : σ}
    {is : List ι} (h0 : J t s) (ha : Along step A s is)
    (hstart : ∀ i ∈ is, t ≤ time i) (hmono : is.Pairwise (fun i j => time i ≤ time j)) :
    ∃ t', J t' (final step s is) ∧ t ≤ t' ∧
      ∀ now, t ≤ now → (∀ i ∈ is, time i ≤ now) → t' ≤ now := by
  induction is generalizing t s with
  | nil => exact ⟨t, h0, le_refl t, fun now hnow _ => hnow⟩
  | cons i is ih =>
      rw [List.pairwise_cons] at hmono
      have hti : t ≤ time i := hstart i (by simp)
      obtain ⟨t', hj, hle, hlast⟩ := ih (hJ t s i h0 ha.1 hti) ha.2 hmono.1 hmono.2
      refine ⟨t', hj, le_trans hti hle, fun now hnow hall => ?_⟩
      exact hlast now (hall i (by simp)) (fun j hj => hall j (by simp [hj]))

/-- The rule for a relation between a state and what has happened so far: it passes
from each beginning of the run to the next one. -/
theorem history {H : List (Event σ ι ο) → σ → Prop} {s : σ} {is : List ι} (h0 : H [] s)
    (hH : ∀ before i after, is = before ++ i :: after →
      H (trace step s before) (final step s before) →
      H (trace step s before ++ [Event.of step (final step s before) i])
        (step (final step s before) i).2) :
    H (trace step s is) (final step s is) := by
  have hall : ∀ before after, is = before ++ after →
      H (trace step s before) (final step s before) := by
    intro before
    induction before using List.reverseRec with
    | nil => exact fun _ _ => h0
    | append_singleton before i ih =>
        intro after his
        rw [List.append_assoc, List.singleton_append] at his
        rw [trace_append, final_append]
        exact hH before i after his (ih _ his)
  exact hall is [] (List.append_nil is).symm

/-- Every event of a trace is a step taken in a state with the invariant. -/
theorem mem_trace (hI : ∀ s i, I s → A s i → I (step s i).2) {s : σ} {is : List ι}
    (h0 : I s) (ha : Along step A s is) {e : Event σ ι ο} (he : e ∈ trace step s is) :
    I e.src ∧ A e.src e.input ∧ e = Event.of step e.src e.input := by
  induction is generalizing s with
  | nil => simp [trace] at he
  | cons i is ih =>
      rcases List.mem_cons.mp he with rfl | hrest
      · exact ⟨h0, ha.1, rfl⟩
      · exact ih (hI s i h0 ha.1) ha.2 hrest

/-- **Once, then always**: `K e` is what event `e` promises of the states after
it. If every step makes its own promise true and keeps the earlier ones, and a
promise forces `R` on the step taken where it holds, then `R` relates every
event of a run to every later one. -/
theorem pairwise {K : Event σ ι ο → σ → Prop} {R : Event σ ι ο → Event σ ι ο → Prop}
    (hI : ∀ s i, I s → A s i → I (step s i).2)
    (hnew : ∀ s i, I s → A s i → K (Event.of step s i) (step s i).2)
    (hkeep : ∀ e s i, I s → A s i → K e s → K e (step s i).2)
    (hR : ∀ e s i, I s → A s i → K e s → R e (Event.of step s i)) {s : σ} {is : List ι}
    (h0 : I s) (ha : Along step A s is) : (trace step s is).Pairwise R := by
  have hlater : ∀ (is : List ι) (s : σ) (e : Event σ ι ο), I s → Along step A s is → K e s →
      ∀ e' ∈ trace step s is, R e e' := by
    intro is
    induction is with
    | nil => intro s e _ _ _ e' he'; simp [trace] at he'
    | cons i is ih =>
        intro s e hs ha hk e' he'
        rcases List.mem_cons.mp he' with rfl | hrest
        · exact hR e s i hs ha.1 hk
        · exact ih _ e (hI s i hs ha.1) ha.2 (hkeep e s i hs ha.1 hk) e' hrest
  induction is generalizing s with
  | nil => exact List.Pairwise.nil
  | cons i is ih =>
      exact List.Pairwise.cons
        (hlater is _ _ (hI s i h0 ha.1) ha.2 (hnew s i h0 ha.1))
        (ih (hI s i h0 ha.1) ha.2)

end Invariant

/-! ## Refinement -/

section Refinement

universe v' w'

variable {ι' : Type v'} {ο' : Type w'} {step' : σ → ι' → ο' × σ} {f : ι' → Option ι}

/-- A step of the one machine on an input is a step of the other on what the input
stands for, or none. -/
def Refines (step' : σ → ι' → ο' × σ) (step : σ → ι → ο × σ) (f : ι' → Option ι) : Prop :=
  ∀ s i, (step' s i).2 = final step s (f i).toList

theorem Refines.keeps (h : Refines step' step f) {I : σ → Prop}
    (hI : ∀ s i, I s → I (step s i).2) (s : σ) (i : ι') (hs : I s) : I (step' s i).2 := by
  rw [h s i]
  cases f i with
  | none => exact hs
  | some j => exact hI s j hs

/-- A run of the one ends where the run of the other on its inputs does. -/
theorem Refines.final (h : Refines step' step f) (s : σ) (is : List ι') :
    final step' s is = Run.final step s (is.filterMap f) := by
  induction is generalizing s with
  | nil => rfl
  | cons i is ih =>
      rw [final_cons, ih, h s i]
      cases hi : f i with
      | none => simp [hi]
      | some j => simp [hi]

end Refinement

/-! ## Unwinding -/

/-- What the inputs in `visible` put out, in order. -/
def outputs (step : σ → ι → ο × σ) (visible : ι → Bool) (s : σ) (is : List ι) : List ο :=
  ((trace step s is).filter (fun e => visible e.input)).map Event.output

theorem outputs_cons (visible : ι → Bool) (s : σ) (i : ι) (is : List ι) :
    outputs step visible s (i :: is) =
      if visible i then (step s i).1 :: outputs step visible (step s i).2 is
      else outputs step visible (step s i).2 is := by
  by_cases h : visible i <;> simp [outputs, trace, Event.of, h]

/-- **Unwinding**: `R is` relates a state of the whole run to a state of the run
without the invisible inputs, `is` being what is still to come. If a visible
input answers alike on related states and keeps them related, and an invisible
one keeps them related without the purged run moving, then no visible output
tells whether the invisible inputs were there. -/
theorem outputs_purge {visible : ι → Bool} {R : List ι → σ → σ → Prop}
    (hvis : ∀ i is s t, visible i = true → R (i :: is) s t →
      (step s i).1 = (step t i).1 ∧ R is (step s i).2 (step t i).2)
    (hinv : ∀ i is s t, visible i = false → R (i :: is) s t → R is (step s i).2 t)
    {is : List ι} {s t : σ} (h : R is s t) :
    outputs step visible s is = outputs step visible t (is.filter visible) := by
  induction is generalizing s t with
  | nil => rfl
  | cons i is ih =>
      by_cases hv : visible i = true
      · obtain ⟨hout, hnext⟩ := hvis i is s t hv h
        rw [List.filter_cons_of_pos hv, outputs_cons, outputs_cons, if_pos hv, if_pos hv,
          hout, ih hnext]
      · have hv' : visible i = false := by simpa using hv
        rw [List.filter_cons_of_neg hv, outputs_cons, if_neg hv]
        exact ih (hinv i is s t hv' h)

/-! ## Reordering -/

section Reordering

variable {R : σ → σ → Prop} {A : σ → ι → Prop} {Ind : ι → ι → Prop}

/-- What related states have to do with one input: they answer it alike and stay
related. -/
def Congruent (step : σ → ι → ο × σ) (R : σ → σ → Prop) : Prop :=
  ∀ s t i, R s t → (step s i).1 = (step t i).1 ∧ R (step s i).2 (step t i).2

/-- What independent inputs have to do with each other: the first leaves the
second admissible and does not change its answer, and the order of the two makes
no difference to where they lead. -/
structure Commutes (step : σ → ι → ο × σ) (R : σ → σ → Prop) (A : σ → ι → Prop)
    (Ind : ι → ι → Prop) : Prop where
  keeps : ∀ s i j, A s i → A s j → Ind i j → A (step s i).2 j
  answers : ∀ s i j, A s i → A s j → Ind i j → (step (step s i).2 j).1 = (step s j).1
  swaps : ∀ s i j, A s i → A s j → Ind i j →
    R (step (step s i).2 j).2 (step (step s j).2 i).2

theorem Congruent.final (hc : Congruent step R) {s t : σ} (h : R s t) (is : List ι) :
    R (final step s is) (final step t is) := by
  induction is generalizing s t with
  | nil => exact h
  | cons i is ih => exact ih (hc s t i h).2

/-- **Independent inputs do not notice each other**: each is answered as it would
be alone. -/
theorem Commutes.outputs_alone (hcom : Commutes step R A Ind) {s : σ} {is : List ι}
    (hind : is.Pairwise Ind) (hadm : ∀ i ∈ is, A s i) :
    (trace step s is).map Event.output = is.map (fun i => (step s i).1) := by
  induction is generalizing s with
  | nil => rfl
  | cons i is ih =>
      rw [List.pairwise_cons] at hind
      have hi : A s i := hadm i (by simp)
      have hlater : ∀ j ∈ is, A s j := fun j hj => hadm j (by simp [hj])
      have hkept : ∀ j ∈ is, A (step s i).2 j :=
        fun j hj => hcom.keeps s i j hi (hlater j hj) (hind.1 j hj)
      have hmap : is.map (fun j => (step (step s i).2 j).1) = is.map (fun j => (step s j).1) :=
        List.map_congr_left (fun j hj => hcom.answers s i j hi (hlater j hj) (hind.1 j hj))
      rw [trace, List.map_cons, List.map_cons, ih hind.2 hkept, hmap]
      rfl

/-- **The order of independent inputs is immaterial** to where they lead. -/
theorem Commutes.final_perm (hcom : Commutes step R A Ind) (hR : Equivalence R)
    (hcongr : Congruent step R) (hsymm : ∀ i j, Ind i j → Ind j i) {s : σ} {is js : List ι}
    (hperm : is.Perm js) (hind : is.Pairwise Ind) (hadm : ∀ i ∈ is, A s i) :
    R (final step s is) (final step s js) := by
  induction hperm generalizing s with
  | nil => exact hR.refl s
  | cons i _ ih =>
      rw [List.pairwise_cons] at hind
      refine ih hind.2 ?_
      intro j hj
      exact hcom.keeps s i j (hadm i (by simp)) (hadm j (by simp [hj])) (hind.1 j hj)
  | swap i j is =>
      have hji : Ind j i := (List.pairwise_cons.mp hind).1 i (by simp)
      exact hcongr.final (hcom.swaps s j i (hadm j (by simp)) (hadm i (by simp)) hji) is
  | trans hfirst _ ih ih' =>
      have hind' := hind.perm hfirst (fun {i j} h => hsymm i j h)
      exact hR.trans (ih hind hadm)
        (ih' hind' (fun i hi => hadm i (hfirst.mem_iff.mpr hi)))

end Reordering

end Run
