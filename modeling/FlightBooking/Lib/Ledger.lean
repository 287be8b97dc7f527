import Mathlib.Data.Set.Basic

/-!
# Ledger — items sold once

A ledger maps an item to the sale that took it. A sale takes a set of items that
are all free and nothing is ever given back, so an item has at most one sale,
for good.
-/

namespace Ledger

variable {α ρ : Type*}

open Classical in
/-- The ledger after sale `r` of `items`. -/
noncomputable def sell (l : α → Option ρ) (items : Set α) (r : ρ) : α → Option ρ :=
  fun x => if x ∈ items then some r else l x

theorem sell_of_mem {l : α → Option ρ} {items : Set α} {r : ρ} {x : α} (h : x ∈ items) :
    sell l items r x = some r := if_pos h

/-- One transition: nothing happens, or free items are sold. -/
inductive Step (l : α → Option ρ) : (α → Option ρ) → Prop
  | skip : Step l l
  | sale (items : Set α) (r : ρ) (hfree : ∀ x ∈ items, l x = none) : Step l (sell l items r)

/-- Everything sold in `l` is sold to the same in `l'`. -/
def Extends (l l' : α → Option ρ) : Prop := ∀ x r, l x = some r → l' x = some r

/-- A sale is final. -/
theorem Step.extends {l l' : α → Option ρ} (h : Step l l') : Extends l l' := by
  intro x r hx
  cases h with
  | skip => exact hx
  | sale items r' hfree =>
      by_cases hm : x ∈ items
      · rw [hfree x hm] at hx
        cases hx
      · simpa [sell, hm] using hx

end Ledger
