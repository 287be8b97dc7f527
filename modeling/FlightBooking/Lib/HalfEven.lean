import Mathlib.Data.Int.Log
import Mathlib.Algebra.Order.Floor.Ring
import Mathlib.Algebra.Ring.Int.Parity
import Mathlib.Tactic.Linarith
import Mathlib.Tactic.Ring
import Mathlib.Tactic.FieldSimp
import Mathlib.Tactic.Positivity
import Mathlib.Tactic.NormNum

/-!
# HalfEven — rounding to nearest, ties to even

Rounding over any ordered field with a floor: to an integer (`halfEven`), to a
multiple of a power of ten (`roundTo`), to a number of significant digits
(`roundSig`). `OnGrid e x` says that `x` is a multiple of `10^e`. The three
roundings fix what is on their grid, keep the order, commute with negation and
move a number by at most half a step.
-/

namespace Rounding

/-! ## To an integer -/

section Integer

variable {K : Type*} [Field K] [LinearOrder K]

/-- `n` is the integer nearest to `x`, and even if there are two. -/
def IsNearest (x : K) (n : ℤ) : Prop :=
  |x - n| < 1 / 2 ∨ (|x - n| = 1 / 2 ∧ n % 2 = 0)

theorem IsNearest.abs_sub_le {x : K} {n : ℤ} (h : IsNearest x n) : |x - n| ≤ 1 / 2 := by
  rcases h with h | h
  · exact h.le
  · exact h.1.le

theorem IsNearest.even {x : K} {n : ℤ} (h : IsNearest x n) (htie : |x - n| = 1 / 2) :
    n % 2 = 0 := by
  rcases h with h | h
  · exact absurd htie h.ne
  · exact h.2

theorem IsNearest.neg {x : K} {n : ℤ} (h : IsNearest x n) : IsNearest (-x) (-n) := by
  have habs : |-x - ((-n : ℤ) : K)| = |x - n| := by
    rw [Int.cast_neg, ← abs_neg]
    congr 1
    ring
  unfold IsNearest
  rw [habs]
  rcases h with h | ⟨h, heven⟩
  · exact .inl h
  · exact .inr ⟨h, by omega⟩

section Order

variable [IsStrictOrderedRing K]

theorem isNearest_intCast (n : ℤ) : IsNearest (n : K) n := by
  left
  simp

/-- The order of the arguments is the order of the results: two nearest integers
the wrong way round would be one apart, both at a half, and both even. -/
theorem IsNearest.mono {x y : K} {m n : ℤ} (hx : IsNearest x m) (hy : IsNearest y n)
    (h : x ≤ y) : m ≤ n := by
  by_contra hlt
  push Not at hlt
  have hgap : (n : K) + 1 ≤ m := by exact_mod_cast hlt
  have hxm := abs_le.mp hx.abs_sub_le
  have hyn := abs_le.mp hy.abs_sub_le
  have hone : m = n + 1 := by
    have : (m : K) ≤ n + 1 := by linarith
    have : m ≤ n + 1 := by exact_mod_cast this
    omega
  have hm : |x - m| = 1 / 2 := by
    rw [abs_of_nonpos (by linarith)]
    linarith
  have hn : |y - n| = 1 / 2 := by
    rw [abs_of_nonneg (by linarith)]
    linarith
  have := hx.even hm
  have := hy.even hn
  omega

theorem IsNearest.unique {x : K} {m n : ℤ} (hm : IsNearest x m) (hn : IsNearest x n) : m = n :=
  le_antisymm (hm.mono hn le_rfl) (hn.mono hm le_rfl)

end Order

variable [FloorRing K]

/-- The nearest integer; of two, the even one. -/
def halfEven (x : K) : ℤ :=
  if 2 * Int.fract x < 1 then ⌊x⌋
  else if 1 < 2 * Int.fract x then ⌊x⌋ + 1
  else if ⌊x⌋ % 2 = 0 then ⌊x⌋ else ⌊x⌋ + 1

/-- Whether the next integer up is chosen. -/
def RoundsUp (x : K) : Prop := 1 < 2 * Int.fract x ∨ (2 * Int.fract x = 1 ∧ ⌊x⌋ % 2 = 1)

instance (x : K) : Decidable (RoundsUp x) := inferInstanceAs (Decidable (_ ∨ _))

theorem halfEven_of_not_roundsUp {x : K} (h : ¬ RoundsUp x) : halfEven x = ⌊x⌋ := by
  unfold RoundsUp at h
  push Not at h
  unfold halfEven
  by_cases hbelow : 2 * Int.fract x < 1
  · rw [if_pos hbelow]
  · have := h.2 (le_antisymm h.1 (not_lt.mp hbelow))
    rw [if_neg hbelow, if_neg (not_lt.mpr h.1), if_pos (by omega)]

variable [IsStrictOrderedRing K]

theorem halfEven_isNearest (x : K) : IsNearest x (halfEven x) := by
  have hfloor := Int.floor_add_fract x
  have hnonneg := Int.fract_nonneg x
  have hlt := Int.fract_lt_one x
  unfold IsNearest halfEven
  split_ifs with hbelow habove heven
  · left
    rw [abs_of_nonneg (by linarith)]
    linarith
  · left
    push_cast
    rw [abs_of_nonpos (by linarith)]
    linarith
  · right
    refine ⟨?_, heven⟩
    rw [abs_of_nonneg (by linarith)]
    linarith
  · right
    refine ⟨?_, by omega⟩
    push_cast
    rw [abs_of_nonpos (by linarith)]
    linarith

theorem halfEven_eq {x : K} {n : ℤ} (h : IsNearest x n) : halfEven x = n :=
  (halfEven_isNearest x).unique h

@[simp] theorem halfEven_intCast (n : ℤ) : halfEven (n : K) = n := halfEven_eq (isNearest_intCast n)

theorem halfEven_neg (x : K) : halfEven (-x) = -halfEven x :=
  halfEven_eq (halfEven_isNearest x).neg

theorem halfEven_mono {x y : K} (h : x ≤ y) : halfEven x ≤ halfEven y :=
  (halfEven_isNearest x).mono (halfEven_isNearest y) h

theorem halfEven_of_roundsUp {x : K} (h : RoundsUp x) : halfEven x = ⌊x⌋ + 1 := by
  unfold halfEven
  rcases h with h | ⟨h, hodd⟩
  · rw [if_neg (by linarith), if_pos h]
  · rw [if_neg (by linarith), if_neg (by linarith), if_neg (by omega)]

/-- An even integer is kept from half a step above it on down. -/
theorem halfEven_le_iff {x : K} {n : ℤ} (hn : n % 2 = 0) : halfEven x ≤ n ↔ x ≤ n + 1 / 2 := by
  constructor
  · intro h
    have hnear := abs_le.mp (halfEven_isNearest x).abs_sub_le
    have : (halfEven x : K) ≤ n := by exact_mod_cast h
    linarith [hnear.2]
  · intro h
    have htie : IsNearest ((n : K) + 1 / 2) n := by
      right
      refine ⟨?_, hn⟩
      rw [add_sub_cancel_left, abs_of_pos (by norm_num)]
    exact (halfEven_isNearest x).mono htie h

theorem le_halfEven_iff {x : K} {n : ℤ} (hn : n % 2 = 0) : n ≤ halfEven x ↔ n - 1 / 2 ≤ x := by
  constructor
  · intro h
    have hnear := abs_le.mp (halfEven_isNearest x).abs_sub_le
    have : (n : K) ≤ halfEven x := by exact_mod_cast h
    linarith [hnear.1]
  · intro h
    have htie : IsNearest ((n : K) - 1 / 2) n := by
      right
      refine ⟨?_, hn⟩
      rw [sub_sub_cancel_left, abs_neg, abs_of_pos (by norm_num)]
    exact htie.mono (halfEven_isNearest x) h

end Integer

/-! ## The grid of a power of ten -/

section Grid

variable {K : Type*} [Field K]

/-- `x` is a multiple of `10^e`. -/
def OnGrid (e : ℤ) (x : K) : Prop := ∃ n : ℤ, x = n * 10 ^ e

/-- A power of ten with a natural exponent, as an integer. -/
theorem tenPow_toNat {e : ℤ} (h : 0 ≤ e) : ((10 ^ e.toNat : ℤ) : K) = 10 ^ e := by
  obtain ⟨k, rfl⟩ := Int.eq_ofNat_of_zero_le h
  simp

theorem OnGrid.zero (e : ℤ) : OnGrid e (0 : K) := ⟨0, by simp⟩

theorem OnGrid.neg {e : ℤ} {x : K} (hx : OnGrid e x) : OnGrid e (-x) := by
  obtain ⟨n, rfl⟩ := hx
  exact ⟨-n, by push_cast; ring⟩

theorem OnGrid.add {e : ℤ} {x y : K} (hx : OnGrid e x) (hy : OnGrid e y) : OnGrid e (x + y) := by
  obtain ⟨m, rfl⟩ := hx
  obtain ⟨n, rfl⟩ := hy
  exact ⟨m + n, by push_cast; ring⟩

variable [LinearOrder K]

theorem OnGrid.abs {e : ℤ} {x : K} (hx : OnGrid e x) : OnGrid e |x| := by
  rcases abs_choice x with h | h
  · rwa [h]
  · rw [h]
    exact hx.neg

variable [IsStrictOrderedRing K]

theorem tenPow_pos (e : ℤ) : (0 : K) < 10 ^ e := zpow_pos (by norm_num) e

theorem tenPow_ne_zero (e : ℤ) : (10 : K) ^ e ≠ 0 := (tenPow_pos e).ne'

theorem tenPow_add (e f : ℤ) : (10 : K) ^ (e + f) = 10 ^ e * 10 ^ f :=
  zpow_add₀ (by norm_num) e f

/-- A finer grid has the points of a coarser one. -/
theorem OnGrid.mono {e f : ℤ} {x : K} (hx : OnGrid e x) (h : f ≤ e) : OnGrid f x := by
  obtain ⟨n, rfl⟩ := hx
  refine ⟨n * 10 ^ (e - f).toNat, ?_⟩
  rw [Int.cast_mul, tenPow_toNat (by omega), mul_assoc, ← tenPow_add, sub_add_cancel]

theorem OnGrid.mul {e f : ℤ} {x y : K} (hx : OnGrid e x) (hy : OnGrid f y) :
    OnGrid (e + f) (x * y) := by
  obtain ⟨m, rfl⟩ := hx
  obtain ⟨n, rfl⟩ := hy
  refine ⟨m * n, ?_⟩
  rw [tenPow_add]
  push_cast
  ring

theorem OnGrid.div_tenPow {e : ℤ} {x : K} (hx : OnGrid e x) : ∃ n : ℤ, x / 10 ^ e = n := by
  obtain ⟨n, rfl⟩ := hx
  exact ⟨n, mul_div_cancel_right₀ _ (tenPow_ne_zero e)⟩

/-- A point of a coarser grid is ten times a whole number on this one. -/
theorem OnGrid.coarser {e f : ℤ} {y : K} (hef : e < f) (hy : OnGrid f y) :
    ∃ n : ℤ, y = ((10 * n : ℤ) : K) * 10 ^ e := by
  obtain ⟨n, rfl⟩ := hy.mono (show e + 1 ≤ f by omega)
  refine ⟨n, ?_⟩
  rw [tenPow_add]
  push_cast
  ring

variable [FloorRing K]

theorem onGrid_iff_fract {e : ℤ} {x : K} : OnGrid e x ↔ Int.fract (x / 10 ^ e) = 0 := by
  constructor
  · intro h
    obtain ⟨n, hn⟩ := h.div_tenPow
    rw [hn, Int.fract_intCast]
  · intro h
    refine ⟨⌊x / 10 ^ e⌋, ?_⟩
    have hfloor := Int.floor_add_fract (x / 10 ^ e)
    rw [h, add_zero] at hfloor
    rw [hfloor, div_mul_cancel₀ _ (tenPow_ne_zero e)]

instance (e : ℤ) (x : K) : Decidable (OnGrid e x) := decidable_of_iff _ onGrid_iff_fract.symm

end Grid

section Round

variable {K : Type*} [Field K] [LinearOrder K] [FloorRing K]

/-! ## To a multiple of a power of ten -/

/-- `x` rounded to a multiple of `10^e`. -/
def roundTo (e : ℤ) (x : K) : K := halfEven (x / 10 ^ e) * 10 ^ e

theorem roundTo_onGrid (e : ℤ) (x : K) : OnGrid e (roundTo e x) := ⟨_, rfl⟩

theorem roundTo_of_not_roundsUp {e : ℤ} {x : K} (h : ¬ RoundsUp (x / 10 ^ e)) :
    roundTo e x = ⌊x / 10 ^ e⌋ * 10 ^ e := by
  rw [roundTo, halfEven_of_not_roundsUp h]

variable [IsStrictOrderedRing K]

theorem roundTo_eq_self {e : ℤ} {x : K} (h : OnGrid e x) : roundTo e x = x := by
  obtain ⟨n, rfl⟩ := h
  rw [roundTo, mul_div_cancel_right₀ _ (tenPow_ne_zero e), halfEven_intCast]

theorem roundTo_neg (e : ℤ) (x : K) : roundTo e (-x) = -roundTo e x := by
  rw [roundTo, neg_div, halfEven_neg, Int.cast_neg, neg_mul, roundTo]

theorem roundTo_mono (e : ℤ) {x y : K} (h : x ≤ y) : roundTo e x ≤ roundTo e y := by
  have hscaled : x / 10 ^ e ≤ y / 10 ^ e := div_le_div_of_nonneg_right h (tenPow_pos e).le
  have hint : (halfEven (x / 10 ^ e) : K) ≤ halfEven (y / 10 ^ e) := by
    exact_mod_cast halfEven_mono hscaled
  exact mul_le_mul_of_nonneg_right hint (tenPow_pos e).le

theorem abs_sub_roundTo_le (e : ℤ) (x : K) : |x - roundTo e x| ≤ 10 ^ e / 2 := by
  have hpos := tenPow_pos (K := K) e
  have hnear := (halfEven_isNearest (x / 10 ^ e)).abs_sub_le
  have hscale : x - roundTo e x = (x / 10 ^ e - halfEven (x / 10 ^ e)) * 10 ^ e := by
    rw [roundTo, sub_mul, div_mul_cancel₀ _ hpos.ne']
  rw [hscale, abs_mul, abs_of_pos hpos]
  calc |x / 10 ^ e - halfEven (x / 10 ^ e)| * 10 ^ e ≤ 1 / 2 * 10 ^ e :=
        mul_le_mul_of_nonneg_right hnear hpos.le
    _ = 10 ^ e / 2 := by ring

/-- Nothing on the grid is overtaken. -/
theorem le_roundTo {e : ℤ} {x y : K} (hy : OnGrid e y) (h : y ≤ x) : y ≤ roundTo e x := by
  rw [← roundTo_eq_self hy]
  exact roundTo_mono e h

theorem roundTo_le {e : ℤ} {x y : K} (hy : OnGrid e y) (h : x ≤ y) : roundTo e x ≤ y := by
  rw [← roundTo_eq_self hy]
  exact roundTo_mono e h

/-- Nor is anything on the grid in absolute value. -/
theorem le_abs_roundTo {e : ℤ} {x y : K} (hy : OnGrid e y) (h : y ≤ |x|) :
    y ≤ |roundTo e x| := by
  rcases le_abs.mp h with hle | hle
  · exact le_abs.mpr (.inl (le_roundTo hy hle))
  · refine le_abs.mpr (.inr ?_)
    rw [← roundTo_neg]
    exact le_roundTo hy hle

theorem roundTo_of_roundsUp {e : ℤ} {x : K} (h : RoundsUp (x / 10 ^ e)) :
    roundTo e x = (⌊x / 10 ^ e⌋ + 1) * 10 ^ e := by
  rw [roundTo, halfEven_of_roundsUp h]
  push_cast
  rfl

/-- A point of a coarser grid is even on this one, so a tie goes to it. -/
theorem roundTo_le_iff {e f : ℤ} {x y : K} (hef : e < f) (hy : OnGrid f y) :
    roundTo e x ≤ y ↔ x ≤ y + 10 ^ e / 2 := by
  obtain ⟨n, rfl⟩ := hy.coarser hef
  have hpos := tenPow_pos (K := K) e
  rw [roundTo, mul_le_mul_iff_left₀ hpos, Int.cast_le, halfEven_le_iff (by omega),
    div_le_iff₀ hpos, add_mul]
  ring_nf

theorem le_roundTo_iff {e f : ℤ} {x y : K} (hef : e < f) (hy : OnGrid f y) :
    y ≤ roundTo e x ↔ y - 10 ^ e / 2 ≤ x := by
  obtain ⟨n, rfl⟩ := hy.coarser hef
  have hpos := tenPow_pos (K := K) e
  rw [roundTo, mul_le_mul_iff_left₀ hpos, Int.cast_le, le_halfEven_iff (by omega),
    le_div_iff₀ hpos, sub_mul]
  ring_nf

end Round

/-! ## To a number of significant digits -/

section Digits

variable {K : Type*} [Field K] [LinearOrder K] [FloorRing K]

/-- The exponent of the last of `p` significant digits. -/
def sigExp (p : ℕ) (x : K) : ℤ := Int.log 10 |x| + 1 - p

/-- `x` rounded to `p` significant digits. -/
def roundSig (p : ℕ) (x : K) : K := roundTo (sigExp p x) x

theorem onGrid_of_roundSig_eq {p : ℕ} {x : K} (h : roundSig p x = x) : OnGrid (sigExp p x) x := by
  have hgrid := roundTo_onGrid (sigExp p x) x
  rwa [show roundTo (sigExp p x) x = x from h] at hgrid

variable [IsStrictOrderedRing K]

@[simp] theorem roundSig_zero (p : ℕ) : roundSig p (0 : K) = 0 :=
  roundTo_eq_self (OnGrid.zero _)

theorem roundSig_neg (p : ℕ) (x : K) : roundSig p (-x) = -roundSig p x := by
  rw [roundSig, roundSig, sigExp, abs_neg, roundTo_neg, sigExp]

/-- The powers of ten on both sides of a number give its logarithm. -/
theorem log_eq {x : K} {k : ℤ} (hlow : 10 ^ k ≤ x) (hhigh : x < 10 ^ (k + 1)) :
    Int.log 10 x = k := by
  have hpos : 0 < x := (tenPow_pos k).trans_le hlow
  have hge := (Int.zpow_le_iff_le_log (b := 10) (by norm_num) hpos).mp (by exact_mod_cast hlow)
  have hlt := (Int.lt_zpow_iff_log_lt (b := 10) (by norm_num) hpos).mp (by exact_mod_cast hhigh)
  omega

theorem log_lt_of_lt_tenPow {x : K} {k : ℤ} (hx : x ≠ 0) (h : |x| < 10 ^ k) :
    Int.log 10 |x| < k := by
  have hpos : 0 < |x| := abs_pos.mpr hx
  rw [← Int.lt_zpow_iff_log_lt (by norm_num) hpos]
  exact_mod_cast h

/-- Rounding moves a number by at most half a unit of its last digit. -/
theorem abs_sub_roundSig_le {p : ℕ} {x : K} {k : ℤ} (h : |x| < 10 ^ k) :
    |x - roundSig p x| ≤ 10 ^ (k - p) / 2 := by
  by_cases hx : x = 0
  · rw [hx, roundSig_zero, sub_zero, abs_zero]
    exact div_nonneg (tenPow_pos _).le (by norm_num)
  · have hlog := log_lt_of_lt_tenPow hx h
    have hstep : (10 : K) ^ sigExp p x ≤ 10 ^ (k - p) := by
      refine zpow_le_zpow_right₀ (by norm_num) ?_
      unfold sigExp
      omega
    exact (abs_sub_roundTo_le _ x).trans (div_le_div_of_nonneg_right hstep (by norm_num))

theorem roundTo_mul_tenPow (e k : ℤ) (x : K) :
    roundTo (e + k) (x * 10 ^ k) = roundTo e x * 10 ^ k := by
  rw [roundTo, roundTo, tenPow_add, mul_div_mul_right _ _ (tenPow_ne_zero k), mul_assoc]

/-- Moving the point commutes with rounding. -/
theorem roundSig_mul_tenPow (p : ℕ) (x : K) (k : ℤ) :
    roundSig p (x * 10 ^ k) = roundSig p x * 10 ^ k := by
  by_cases hx : x = 0
  · simp [hx]
  · have hpos : 0 < |x| := abs_pos.mpr hx
    have hlog : Int.log 10 |x * 10 ^ k| = Int.log 10 |x| + k := by
      rw [abs_mul, abs_of_pos (tenPow_pos (K := K) k)]
      apply log_eq
      · rw [tenPow_add]
        refine mul_le_mul_of_nonneg_right ?_ (tenPow_pos k).le
        exact_mod_cast Int.zpow_log_le_self (by norm_num : 1 < 10) hpos
      · rw [show Int.log 10 |x| + k + 1 = Int.log 10 |x| + 1 + k by ring, tenPow_add]
        refine mul_lt_mul_of_pos_right ?_ (tenPow_pos k)
        exact_mod_cast Int.lt_zpow_succ_log_self (by norm_num : 1 < 10) |x|
    have hexp : sigExp p (x * 10 ^ k) = sigExp p x + k := by
      rw [sigExp, sigExp, hlog]
      ring
    rw [roundSig, hexp, roundTo_mul_tenPow, roundSig]

/-- A number of at most `p` digits is exact. -/
theorem roundSig_eq_self {p : ℕ} {x : K} {e : ℤ} (hgrid : OnGrid e x)
    (h : |x| < 10 ^ (p + e)) : roundSig p x = x := by
  by_cases hx : x = 0
  · rw [hx, roundSig_zero]
  · have hlog := log_lt_of_lt_tenPow hx h
    refine roundTo_eq_self (hgrid.mono ?_)
    unfold sigExp
    omega

theorem roundSig_nonneg {p : ℕ} {x : K} (h : 0 ≤ x) : 0 ≤ roundSig p x :=
  le_roundTo (OnGrid.zero _) h

/-- The power of ten at or below `x` is not overtaken. -/
theorem tenPow_log_le_roundSig {p : ℕ} (hp : 0 < p) {x : K} (hx : 0 < x) :
    (10 : K) ^ Int.log 10 x ≤ roundSig p x := by
  refine le_roundTo ?_ ?_
  · have hgrid : OnGrid (Int.log 10 x) ((10 : K) ^ Int.log 10 x) := ⟨1, by simp⟩
    refine hgrid.mono ?_
    rw [sigExp, abs_of_pos hx]
    omega
  · exact_mod_cast Int.zpow_log_le_self (by norm_num : 1 < 10) hx

/-- Neither is the next one. -/
theorem roundSig_le_tenPow_log {p : ℕ} {x : K} (hx : 0 < x) :
    roundSig p x ≤ 10 ^ (Int.log 10 x + 1) := by
  refine roundTo_le ?_ ?_
  · have hgrid : OnGrid (Int.log 10 x + 1) ((10 : K) ^ (Int.log 10 x + 1)) := ⟨1, by simp⟩
    refine hgrid.mono ?_
    rw [sigExp, abs_of_pos hx]
    omega
  · exact_mod_cast (Int.lt_zpow_succ_log_self (by norm_num : 1 < 10) x).le

/-- What is rounded is exact. -/
theorem roundSig_idem_of_pos {p : ℕ} (hp : 0 < p) {x : K} (hx : 0 < x) :
    roundSig p (roundSig p x) = roundSig p x := by
  have hnonneg : 0 ≤ roundSig p x := roundSig_nonneg hx.le
  rcases (roundSig_le_tenPow_log (p := p) hx).lt_or_eq with hlt | heq
  · have hgrid : OnGrid (sigExp p x) (roundSig p x) := roundTo_onGrid _ _
    refine roundSig_eq_self hgrid ?_
    rw [abs_of_nonneg hnonneg, sigExp, abs_of_pos hx]
    convert hlt using 2
    ring
  · -- the carry out of the top digit leaves a power of ten
    rw [heq]
    refine roundSig_eq_self (e := Int.log 10 x + 1) ⟨1, by simp⟩ ?_
    rw [abs_of_pos (tenPow_pos _)]
    exact zpow_lt_zpow_right₀ (by norm_num) (by omega)

theorem roundSig_idem {p : ℕ} (hp : 0 < p) (x : K) :
    roundSig p (roundSig p x) = roundSig p x := by
  rcases lt_trichotomy x 0 with hx | rfl | hx
  · have hneg := roundSig_idem_of_pos hp (neg_pos.mpr hx)
    rw [roundSig_neg, roundSig_neg] at hneg
    exact neg_injective hneg
  · rw [roundSig_zero, roundSig_zero]
  · exact roundSig_idem_of_pos hp hx

/-- Rounding to significant digits keeps the order: on the same grid as any
rounding does, and between two grids because of the power of ten that parts them. -/
theorem roundSig_mono_of_pos {p : ℕ} (hp : 0 < p) {x y : K} (hx : 0 < x) (h : x ≤ y) :
    roundSig p x ≤ roundSig p y := by
  have hy : 0 < y := hx.trans_le h
  rcases (Int.log_mono_right hx h : Int.log 10 x ≤ Int.log 10 y).lt_or_eq with hlt | heq
  · calc roundSig p x ≤ 10 ^ (Int.log 10 x + 1) := roundSig_le_tenPow_log hx
      _ ≤ (10 : K) ^ Int.log 10 y := zpow_le_zpow_right₀ (by norm_num) (by omega)
      _ ≤ roundSig p y := tenPow_log_le_roundSig hp hy
  · rw [roundSig, roundSig, sigExp, sigExp, abs_of_pos hx, abs_of_pos hy, heq]
    exact roundTo_mono _ h

theorem roundSig_mono {p : ℕ} (hp : 0 < p) {x y : K} (h : x ≤ y) :
    roundSig p x ≤ roundSig p y := by
  rcases lt_trichotomy x 0 with hx | rfl | hx
  · rcases lt_or_ge y 0 with hy | hy
    · have := roundSig_mono_of_pos hp (neg_pos.mpr hy) (neg_le_neg h)
      rw [roundSig_neg, roundSig_neg] at this
      linarith
    · have hnx : 0 ≤ roundSig p (-x) := roundSig_nonneg (by linarith)
      rw [roundSig_neg] at hnx
      have hny : 0 ≤ roundSig p y := roundSig_nonneg hy
      linarith
  · rw [roundSig_zero]
    exact roundSig_nonneg h
  · exact roundSig_mono_of_pos hp hx h

/-- A number of at most `p` digits is not overtaken. -/
theorem le_roundSig {p : ℕ} (hp : 0 < p) {x y : K} {e : ℤ} (hgrid : OnGrid e y)
    (hy : |y| < 10 ^ (p + e)) (h : y ≤ x) : y ≤ roundSig p x := by
  rw [← roundSig_eq_self hgrid hy]
  exact roundSig_mono hp h

theorem le_abs_roundSig {p : ℕ} (hp : 0 < p) {x y : K} {e : ℤ} (hgrid : OnGrid e y)
    (hy : |y| < 10 ^ (p + e)) (h : y ≤ |x|) : y ≤ |roundSig p x| := by
  rcases le_abs.mp h with hle | hle
  · exact le_abs.mpr (.inl (le_roundSig hp hgrid hy hle))
  · refine le_abs.mpr (.inr ?_)
    rw [← roundSig_neg]
    exact le_roundSig hp hgrid hy hle

theorem roundSig_le {p : ℕ} (hp : 0 < p) {x y : K} {e : ℤ} (hgrid : OnGrid e y)
    (hy : |y| < 10 ^ (p + e)) (h : x ≤ y) : roundSig p x ≤ y := by
  rw [← roundSig_eq_self hgrid hy]
  exact roundSig_mono hp h

theorem abs_roundSig (p : ℕ) (x : K) : |roundSig p x| = roundSig p |x| := by
  rcases le_total 0 x with hx | hx
  · rw [abs_of_nonneg hx, abs_of_nonneg (roundSig_nonneg hx)]
  · have hneg : 0 ≤ roundSig p (-x) := roundSig_nonneg (neg_nonneg.mpr hx)
    rw [roundSig_neg] at hneg
    rw [abs_of_nonpos hx, abs_of_nonpos (by linarith), roundSig_neg]

theorem le_sigExp_iff {p : ℕ} {x : K} {k : ℤ} (hx : x ≠ 0) :
    k ≤ sigExp p x ↔ 10 ^ (k + p - 1) ≤ |x| := by
  have hlog := Int.zpow_le_iff_le_log (b := 10) (x := k + p - 1) (by norm_num) (abs_pos.mpr hx)
  rw [Nat.cast_ofNat] at hlog
  rw [hlog, sigExp]
  omega

/-- A number is a whole step away from the next power of ten. -/
theorem abs_add_step_le {p : ℕ} (hp : 0 < p) {x : K} (hx : roundSig p x = x) (hne : x ≠ 0) :
    |x| + 10 ^ sigExp p x ≤ 10 ^ (sigExp p x + p) := by
  have hstep := tenPow_pos (K := K) (sigExp p x)
  have hlt : |x| < (10 : K) ^ (sigExp p x + p) := by
    have := (le_sigExp_iff (p := p) (k := sigExp p x + 1) hne).not.mp (by omega)
    rwa [not_le, show sigExp p x + 1 + p - 1 = sigExp p x + p by ring] at this
  obtain ⟨n, hn⟩ := (onGrid_of_roundSig_eq hx).abs
  obtain ⟨m, hm⟩ : OnGrid (sigExp p x) ((10 : K) ^ (sigExp p x + p)) :=
    OnGrid.mono (e := sigExp p x + p) ⟨1, by simp⟩ (by omega)
  rw [hm] at hlt ⊢
  rw [hn] at hlt ⊢
  have hnm : n < m := by exact_mod_cast lt_of_mul_lt_mul_right hlt hstep.le
  have hle : (n + 1 : K) ≤ m := by exact_mod_cast hnm
  calc (n : K) * 10 ^ sigExp p x + 10 ^ sigExp p x = (n + 1) * 10 ^ sigExp p x := by ring
    _ ≤ m * 10 ^ sigExp p x := mul_le_mul_of_nonneg_right hle hstep.le

/-- What is small against the last digit of a number is rounded away. -/
theorem roundSig_add_eq_self {p : ℕ} (hp : 0 < p) {x a : K} {k : ℤ} (hx : roundSig p x = x)
    (hlarge : 10 ^ (k + p) ≤ |x|) (ha : |a| < 10 ^ k / 2) : roundSig p (x + a) = x := by
  have hk := tenPow_pos (K := K) k
  have hxne : x ≠ 0 := abs_pos.mp ((tenPow_pos _).trans_le hlarge)
  have hpred : (10 : K) ^ (k + p) = 10 ^ (k + p - 1) * 10 := by
    rw [← zpow_add_one₀ (by norm_num), sub_add_cancel]
  have hkp : (10 : K) ^ k ≤ 10 ^ (k + p - 1) := zpow_le_zpow_right₀ (by norm_num) (by omega)
  have hfar : |x| - |a| ≤ |x + a| := by
    have := abs_sub_abs_le_abs_sub x (-a)
    rwa [abs_neg, sub_neg_eq_add] at this
  have hlow : (10 : K) ^ (k + p - 1) ≤ |x + a| := by linarith
  have hne : x + a ≠ 0 := abs_pos.mp ((tenPow_pos _).trans_le hlow)
  have hlast : k ≤ sigExp p (x + a) := (le_sigExp_iff hne).mpr hlow
  have hlastx : k ≤ sigExp p x := (le_sigExp_iff hxne).mpr (by linarith)
  have hsmall : |a| < 10 ^ sigExp p x :=
    ha.trans_le ((half_le_self hk.le).trans (zpow_le_zpow_right₀ (by norm_num) hlastx))
  -- no carry into another digit
  have hgrid : OnGrid (sigExp p (x + a)) x := by
    refine (onGrid_of_roundSig_eq hx).mono ?_
    by_contra hlt
    have hover := (le_sigExp_iff (p := p) (k := sigExp p x + 1) hne).mp (by omega)
    rw [show sigExp p x + 1 + p - 1 = sigExp p x + p by ring] at hover
    linarith [abs_add_step_le hp hx hxne, abs_add_le x a]
  obtain ⟨n, hn⟩ := hgrid.div_tenPow
  have hscale := tenPow_pos (K := K) (sigExp p (x + a))
  have hnear : IsNearest ((x + a) / 10 ^ sigExp p (x + a)) n := by
    left
    rw [add_div, hn, add_sub_cancel_left, abs_div, abs_of_pos hscale, div_lt_iff₀ hscale]
    have hks : (10 : K) ^ k ≤ 10 ^ sigExp p (x + a) := zpow_le_zpow_right₀ (by norm_num) hlast
    linarith
  rw [roundSig, roundTo, halfEven_eq hnear, ← hn, div_mul_cancel₀ _ hscale.ne']

end Digits

end Rounding
