import Mathlib.Data.List.Forall2
import Mathlib.Data.List.ProdSigma

/-!
# Loops — loops whose body may raise

A comprehension over an expression that may raise is `List.mapM`, one with such a
condition `List.filterM`, one with both `comprehension`. They return if the body
returns for every item.
-/

namespace Py

variable {ε α β : Type}

/-- A sequence of two expressions returns if both do. -/
theorem bind_eq_ok {x : Except ε α} {f : α → Except ε β} {b : β} (h : x >>= f = .ok b) :
    ∃ a, x = .ok a ∧ f a = .ok b := by
  cases x with
  | error e => cases h
  | ok a => exact ⟨a, rfl, h⟩

theorem bind_ok {x : Except ε α} {a : α} (h : x = .ok a) (f : α → Except ε β) :
    x >>= f = f a := by
  rw [h]
  rfl

theorem mapError_eq_ok {ε' : Type} {x : Except ε α} {f : ε → ε'} {a : α} :
    x.mapError f = .ok a ↔ x = .ok a := by
  cases x <;> simp [Except.mapError]

variable {f : α → Except ε β} {xs : List α}

/-- The results come in the order of the items. -/
theorem mapM_eq_ok_iff {ys : List β} :
    xs.mapM f = .ok ys ↔ List.Forall₂ (fun x y => f x = .ok y) xs ys := by
  induction xs generalizing ys with
  | nil =>
      rw [List.mapM_nil, List.forall₂_nil_left_iff]
      exact ⟨fun h => (Except.ok.inj h).symm, fun h => h ▸ rfl⟩
  | cons x xs ih =>
      rw [List.mapM_cons, List.forall₂_cons_left_iff]
      constructor
      · intro h
        obtain ⟨y, hy, h⟩ := bind_eq_ok h
        obtain ⟨rest, hrest, h⟩ := bind_eq_ok h
        exact ⟨y, rest, hy, ih.mp hrest, (Except.ok.inj h).symm⟩
      · rintro ⟨y, rest, hy, hrest, rfl⟩
        rw [bind_ok hy, bind_ok (ih.mpr hrest)]
        rfl

/-- The loop returns if its body does for every item. -/
theorem mapM_ok_iff : (∃ ys, xs.mapM f = .ok ys) ↔ ∀ x ∈ xs, ∃ y, f x = .ok y := by
  induction xs with
  | nil => exact iff_of_true ⟨[], rfl⟩ (by simp)
  | cons x xs ih =>
      rw [List.forall_mem_cons, ← ih]
      constructor
      · rintro ⟨ys, h⟩
        cases mapM_eq_ok_iff.mp h with
        | cons hy hrest => exact ⟨⟨_, hy⟩, _, mapM_eq_ok_iff.mpr hrest⟩
      · rintro ⟨⟨y, hy⟩, ys, hys⟩
        exact ⟨y :: ys, mapM_eq_ok_iff.mpr (.cons hy (mapM_eq_ok_iff.mp hys))⟩

theorem filterM_ok {p : α → Except ε Bool} {q : α → Bool} (h : ∀ x ∈ xs, p x = .ok (q x)) :
    xs.filterM p = .ok (xs.filter q) := by
  have haux : ∀ kept, List.filterAuxM p xs kept = .ok ((xs.filter q).reverse ++ kept) := by
    induction xs with
    | nil => intro kept; rfl
    | cons x xs ih =>
        intro kept
        rw [List.forall_mem_cons] at h
        rw [List.filterAuxM, h.1]
        exact (ih h.2 _).trans (by cases hq : q x <;> simp [hq])
  rw [List.filterM, haux]
  simp [bind, Except.bind, pure, Except.pure]

/-- `[body(x) for x in xs if condition(x)]`. -/
def comprehension (condition : α → Except ε Bool) (body : α → Except ε β) :
    List α → Except ε (List β)
  | [] => .ok []
  | x :: xs => do
      if ← condition x then
        let y ← body x
        let rest ← comprehension condition body xs
        return y :: rest
      else comprehension condition body xs

variable {condition : α → Except ε Bool} {body : α → Except ε β}

theorem comprehension_ok {p : α → Bool} {g : α → β} (hcond : ∀ x ∈ xs, condition x = .ok (p x))
    (hbody : ∀ x ∈ xs, p x → body x = .ok (g x)) :
    comprehension condition body xs = .ok ((xs.filter p).map g) := by
  induction xs with
  | nil => rfl
  | cons x xs ih =>
      rw [List.forall_mem_cons] at hcond hbody
      rw [comprehension, bind_ok hcond.1, ih hcond.2 hbody.2, List.filter_cons]
      cases hp : p x with
      | false => rfl
      | true =>
          rw [if_pos rfl, if_pos rfl, bind_ok (hbody.1 hp)]
          rfl

/-- If it returns, the condition returned for every item, and the body where it held. -/
theorem comprehension_returns {ys : List β} (h : comprehension condition body xs = .ok ys) :
    ∀ x ∈ xs, ∃ holds, condition x = .ok holds ∧ (holds = true → ∃ y, body x = .ok y) := by
  induction xs generalizing ys with
  | nil => simp
  | cons x xs ih =>
      rw [comprehension] at h
      obtain ⟨holds, hcond, h⟩ := bind_eq_ok h
      rw [List.forall_mem_cons]
      cases holds with
      | false => exact ⟨⟨false, hcond, nofun⟩, ih h⟩
      | true =>
          obtain ⟨y, hy, h⟩ := bind_eq_ok h
          obtain ⟨rest, hrest, -⟩ := bind_eq_ok h
          exact ⟨⟨true, hcond, fun _ => ⟨y, hy⟩⟩, ih hrest⟩

/-- The pairs of two selections are a selection of the pairs. -/
theorem product_filter (p : α → Bool) (q : β → Bool) (xs : List α) (ys : List β) :
    xs.filter p ×ˢ ys.filter q = (xs ×ˢ ys).filter fun pair => p pair.1 && q pair.2 := by
  induction xs with
  | nil => rfl
  | cons x xs ih =>
      rw [List.product_cons, List.filter_append, ← ih, List.filter_map, List.filter_cons]
      by_cases hp : p x
      · rw [if_pos hp, List.product_cons]
        simp [Function.comp_def, hp]
      · simp [Function.comp_def, hp]

end Py
