import Mathlib.Data.List.Basic
import Mathlib.Data.List.Induction
import Mathlib.Data.Set.BooleanAlgebra
import Mathlib.Order.CompletePartialOrder

/-!
# FirstCome — first come, first served, all or nothing

Requests come in some order, each for a set of resources. A request wins if none
of its resources has gone to an earlier winner, and gets nothing otherwise.
`winners` is who wins: the service that keeps no state but the list of those
served so far.
-/

namespace FirstCome

variable {α ρ : Type*}

section

open Classical in
/-- One more request, after `won` have been served. -/
noncomputable def serve (wants : α → Set ρ) (won : List α) (a : α) : List α :=
  if ∀ w ∈ won, Disjoint (wants w) (wants a) then won ++ [a] else won

/-- The requests that win, in order. -/
noncomputable def winners (wants : α → Set ρ) (requests : List α) : List α :=
  requests.foldl (serve wants) []

end

variable {wants : α → Set ρ}

@[simp] theorem winners_nil : winners wants [] = [] := rfl

theorem winners_concat (requests : List α) (a : α) :
    winners wants (requests ++ [a]) = serve wants (winners wants requests) a := by
  unfold winners
  rw [List.foldl_append]
  rfl

theorem serve_of_free {won : List α} {a : α} (h : ∀ w ∈ won, Disjoint (wants w) (wants a)) :
    serve wants won a = won ++ [a] := if_pos h

theorem serve_of_taken {won : List α} {a : α} (h : ¬ ∀ w ∈ won, Disjoint (wants w) (wants a)) :
    serve wants won a = won := if_neg h

/-- Of requests for one resource, the first wins and no other. -/
theorem winners_of_common {x : ρ} {a : α} {requests : List α} (ha : x ∈ wants a)
    (h : ∀ b ∈ requests, x ∈ wants b) : winners wants (a :: requests) = [a] := by
  induction requests using List.reverseRec with
  | nil =>
      have hfree : ∀ w ∈ ([] : List α), Disjoint (wants w) (wants a) := by simp
      exact serve_of_free hfree
  | append_singleton requests b ih =>
      have hrest := ih fun b' hb' => h b' (by simp [hb'])
      rw [← List.cons_append, winners_concat, hrest]
      apply serve_of_taken
      intro hfree
      exact Set.disjoint_left.mp (hfree a (by simp)) ha (h b (by simp))

end FirstCome
