import Mathlib.Data.List.Basic

/-!
# Paging — slices and windows of a list

Python's slice `xs[start:stop]`, and the windows of one size that follow each other in
a list: as many of them as the length divided by the size, rounded up, make up the list.
-/

namespace Py

variable {α β : Type*}

/-- Where a slice bound points in a list of `n`: a negative one counts from the end. -/
def sliceBound (n : Nat) (i : Int) : Nat := if i < 0 then (i + n).toNat else min i.toNat n

/-- `xs[start:stop]`. -/
def slice (xs : List α) (start stop : Int) : List α :=
  (xs.take (sliceBound xs.length stop)).drop (sliceBound xs.length start)

example : slice [0, 1, 2, 3, 4] 1 3 = [1, 2] := by decide
example : slice [0, 1, 2, 3, 4] (-2) 9 = [3, 4] := by decide

end Py

namespace Paging

open Py

variable {α β : Type*}

/-- The items from `i * size` on, `size` of them. -/
def window (size i : Nat) (xs : List α) : List α := (xs.drop (i * size)).take size

/-- How many windows there are: the length divided by the size, rounded up. -/
def count (size n : Nat) : Nat := (n + size - 1) / size

theorem slice_window (xs : List α) (size i : Nat) :
    slice xs (i * size : Int) (i * size + size : Int) = window size i xs := by
  rw [← Int.natCast_mul]
  have hstop : sliceBound xs.length ((i * size : Nat) + size : Int) =
      min (i * size + size) xs.length := by
    rw [sliceBound, if_neg (by omega)]
    omega
  have hstart : sliceBound xs.length ((i * size : Nat) : Int) = min (i * size) xs.length := by
    rw [sliceBound, if_neg (by omega)]
    omega
  rw [slice, window, hstop, hstart]
  rcases Nat.le_total (i * size) xs.length with hle | hge
  · rw [Nat.min_eq_left hle, List.drop_take, List.take_eq_take_iff, List.length_drop]
    omega
  · rw [Nat.min_eq_right hge, Nat.min_eq_right (by omega), List.drop_of_length_le (by simp),
      List.drop_of_length_le hge, List.take_nil]

theorem window_map (f : α → β) (size i : Nat) (xs : List α) :
    window size i (xs.map f) = (window size i xs).map f := by
  rw [window, window, List.map_take, List.map_drop]

/-- The first windows are the first items. -/
theorem flatMap_window (xs : List α) (size m : Nat) :
    ((List.range m).flatMap fun i => window size i xs) = xs.take (m * size) := by
  induction m with
  | zero => simp
  | succ m ih =>
      rw [List.range_succ, List.flatMap_append, ih, Nat.succ_mul, List.take_add]
      simp [window]

/-- The pages 1, 2, ... partition the items: put together they are the items, in order;
each but the last is full; past the last there is nothing. -/
structure Partition (size : Nat) (items : List α) (page : Nat → List α) : Prop where
  concat : (List.range' 1 (count size items.length)).flatMap page = items
  full : ∀ k, 1 ≤ k → k < count size items.length → (page k).length = size
  beyond : ∀ k, count size items.length < k → page k = []

section Count

variable {size : Nat} (hsize : 0 < size)

include hsize

theorem le_count_mul (n : Nat) : n ≤ count size n * size := by
  have := Nat.lt_div_mul_add (a := n + size - 1) hsize
  unfold count
  omega

/-- The windows make up the list. -/
theorem flatMap_windows (xs : List α) :
    ((List.range (count size xs.length)).flatMap fun i => window size i xs) = xs := by
  rw [flatMap_window, List.take_of_length_le (le_count_mul hsize xs.length)]

/-- Every window but the last is full. -/
theorem length_window {xs : List α} {i : Nat} (h : i + 1 < count size xs.length) :
    (window size i xs).length = size := by
  have hfull : (i + 1) * size + 1 ≤ xs.length := by
    have hle : (i + 2) * size ≤ xs.length + size - 1 := (Nat.le_div_iff_mul_le hsize).mp h
    rw [Nat.add_mul] at hle ⊢
    omega
  rw [Nat.add_mul] at hfull
  simp only [window, List.length_take, List.length_drop]
  omega

/-- Past the last there is nothing. -/
theorem window_eq_nil {xs : List α} {i : Nat} (h : count size xs.length ≤ i) :
    window size i xs = [] := by
  have hle : xs.length ≤ i * size :=
    Nat.le_trans (le_count_mul hsize xs.length) (Nat.mul_le_mul_right size h)
  rw [window, List.drop_of_length_le hle, List.take_nil]

/-- The windows, counted from 1, are such pages. -/
theorem partition_window (xs : List α) :
    Partition size xs fun k => window size (k - 1) xs := by
  refine ⟨?_, ?_, ?_⟩
  · rw [List.range'_eq_map_range, List.flatMap_map]
    simpa [Nat.add_sub_cancel_left] using flatMap_windows hsize xs
  · intro k hk hlt
    exact length_window hsize (by omega)
  · intro k hlt
    exact window_eq_nil hsize (by omega)

end Count

end Paging
