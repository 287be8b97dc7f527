import FlightBooking.Lib.Loops
import FlightBooking.Lib.DecimalValue
import FlightBooking.Domain.Model

/-!
# RoundingRule — where a total is rounded

`_round_half_even_to_prior_digit` as a function of the exact sum. `priorDigit`
reads off how many fractional digits the sum ends on: with none it stays, with
one it is rounded to units, with two to tenths, with more to cents.
-/

namespace FlightBooking

open Py Decimal Rounding

/-- The rule on rationals. -/
def priorDigit (x : ℚ) : ℚ :=
  if OnGrid 0 x then x
  else if OnGrid (-1) x then roundTo 0 x
  else if OnGrid (-2) x then roundTo (-1) x
  else roundTo (-2) x

/-- The grid the rule rounds `x` to: units, tenths or cents. -/
def ruleExp (x : ℚ) : ℤ :=
  if OnGrid (-1) x then 0 else if OnGrid (-2) x then -1 else -2

/-- A whole number is on the grid it is rounded to. -/
theorem priorDigit_eq (x : ℚ) : priorDigit x = roundTo (ruleExp x) x := by
  unfold priorDigit ruleExp
  by_cases h0 : OnGrid 0 x
  · rw [if_pos h0, if_pos (h0.mono (by norm_num)), roundTo_eq_self h0]
  · rw [if_neg h0]
    split_ifs <;> rfl

theorem ruleExp_bounds (x : ℚ) : -2 ≤ ruleExp x ∧ ruleExp x ≤ 0 := by
  unfold ruleExp
  split_ifs <;> omega

/-- What the rule yields is a number of cents. -/
theorem priorDigit_onGrid (x : ℚ) : OnGrid (-2) (priorDigit x) := by
  rw [priorDigit_eq]
  exact (roundTo_onGrid (ruleExp x) x).mono (ruleExp_bounds x).1

/-! ## Order -/

/-- The smaller sum comes out larger: one of the two is rounded on a coarser grid
than the other, and away over the other by more than half of the other's step. -/
def Overtakes (x y : ℚ) : Prop :=
  (ruleExp y < ruleExp x ∧ RoundsUp (x / 10 ^ ruleExp x) ∧
    y + 10 ^ ruleExp y / 2 < (⌊x / 10 ^ ruleExp x⌋ + 1) * 10 ^ ruleExp x) ∨
  (ruleExp x < ruleExp y ∧ ¬ RoundsUp (y / 10 ^ ruleExp y) ∧
    ⌊y / 10 ^ ruleExp y⌋ * 10 ^ ruleExp y + 10 ^ ruleExp x / 2 < x)

instance (x y : ℚ) : Decidable (Overtakes x y) := inferInstanceAs (Decidable (_ ∨ _))

/-- A coarser rounding against a finer one of a larger number. -/
theorem roundTo_le_roundTo_iff_of_coarser {e f : ℤ} {x y : ℚ} (hef : e < f) (h : x ≤ y) :
    roundTo f x ≤ roundTo e y ↔
      ¬ (RoundsUp (x / 10 ^ f) ∧ y + 10 ^ e / 2 < (⌊x / 10 ^ f⌋ + 1) * 10 ^ f) := by
  rw [le_roundTo_iff hef (roundTo_onGrid f x)]
  have hstep := tenPow_pos (K := ℚ) e
  by_cases hup : RoundsUp (x / 10 ^ f)
  · rw [roundTo_of_roundsUp hup, sub_le_iff_le_add]
    simp [hup]
  · -- rounded down, it stays at or below both
    have hfloor : roundTo f x ≤ x := by
      rw [roundTo_of_not_roundsUp hup, ← le_div_iff₀ (tenPow_pos f)]
      exact Int.floor_le _
    simp only [hup, false_and, not_false_eq_true, iff_true]
    linarith

theorem roundTo_le_roundTo_iff_of_finer {e f : ℤ} {x y : ℚ} (hef : e < f) (h : x ≤ y) :
    roundTo e x ≤ roundTo f y ↔
      ¬ (¬ RoundsUp (y / 10 ^ f) ∧ ⌊y / 10 ^ f⌋ * 10 ^ f + 10 ^ e / 2 < x) := by
  rw [roundTo_le_iff hef (roundTo_onGrid f y)]
  have hstep := tenPow_pos (K := ℚ) e
  by_cases hup : RoundsUp (y / 10 ^ f)
  · -- rounded up, it is at or above both
    have hceil : y ≤ roundTo f y := by
      rw [roundTo_of_roundsUp hup, ← div_le_iff₀ (tenPow_pos f)]
      exact (Int.lt_floor_add_one _).le
    simp only [hup, not_true_eq_false, false_and, not_false_eq_true, iff_true]
    linarith
  · rw [roundTo_of_not_roundsUp hup]
    simp [hup]

/-- Two sums in order come out in order unless the smaller one overtakes. -/
theorem priorDigit_le_iff {x y : ℚ} (h : x ≤ y) :
    priorDigit x ≤ priorDigit y ↔ ¬ Overtakes x y := by
  rw [priorDigit_eq, priorDigit_eq]
  unfold Overtakes
  rcases lt_trichotomy (ruleExp x) (ruleExp y) with hlt | heq | hgt
  · rw [roundTo_le_roundTo_iff_of_finer hlt h]
    simp [hlt, hlt.le]
  · rw [heq]
    simp [roundTo_mono (ruleExp y) h]
  · rw [roundTo_le_roundTo_iff_of_coarser hgt h]
    simp [hgt, hgt.le]

/-! ## Sign -/

/-- A sum that is not rounded away: above half a cent, and none of the few cents
or tens of cents that round to zero. -/
def Clear (x : ℚ) : Prop :=
  1 / 200 < x ∧ ∀ k : ℕ, k < 5 → x ≠ (k + 1) / 10 ∧ x ≠ (k + 1) / 100

/-- Rounded to a grid, the sum is positive from more than half a step on. -/
theorem roundTo_pos_iff {e : ℤ} {x : ℚ} : 0 < roundTo e x ↔ 10 ^ e / 2 < x := by
  rw [← not_le, roundTo_le_iff (lt_add_one e) (OnGrid.zero _), zero_add, not_le]

theorem tenths_onGrid (k : ℕ) : OnGrid (-1) ((k + 1) / 10 : ℚ) := ⟨k + 1, by norm_num; ring⟩

theorem hundredths_onGrid (k : ℕ) : OnGrid (-2) ((k + 1) / 100 : ℚ) := ⟨k + 1, by norm_num; ring⟩

/-- Above half a dollar nothing is rounded away. -/
theorem clear_of_half_lt {x : ℚ} (h : 1 / 2 < x) : Clear x := by
  refine ⟨by linarith, fun k hk => ?_⟩
  have hk' : (k : ℚ) + 1 ≤ 5 := by exact_mod_cast hk
  constructor
  · rintro rfl
    linarith
  · rintro rfl
    linarith

/-- The steps of a grid that `Clear` counts. -/
theorem exists_step {n : ℤ} (hlow : (0 : ℚ) < n) (hhigh : (n : ℚ) ≤ 5) :
    ∃ k : ℕ, k < 5 ∧ (n : ℚ) = k + 1 := by
  have hn1 : 0 < n := by exact_mod_cast hlow
  have hn5 : n ≤ 5 := by exact_mod_cast hhigh
  obtain ⟨k, rfl⟩ := Int.eq_succ_of_zero_lt hn1
  refine ⟨k, by omega, ?_⟩
  push_cast
  ring

/-- A sum in tenths that is clear is above half a dollar. -/
theorem half_lt_of_clear {x : ℚ} (hx : OnGrid (-1) x) (h : Clear x) : 1 / 2 < x := by
  obtain ⟨n, rfl⟩ := hx
  norm_num at h ⊢
  by_contra hle
  have hlow : (0 : ℚ) < n := by linarith [h.1]
  have hhigh : (n : ℚ) ≤ 5 := by linarith
  obtain ⟨k, hk, hn⟩ := exists_step hlow hhigh
  refine (h.2 k hk).1 ?_
  rw [hn]
  ring

/-- A sum in hundredths that is clear is above five cents. -/
theorem five_cents_lt_of_clear {x : ℚ} (hx : OnGrid (-2) x) (h : Clear x) : 1 / 20 < x := by
  obtain ⟨n, rfl⟩ := hx
  norm_num at h ⊢
  by_contra hle
  have hlow : (0 : ℚ) < n := by linarith [h.1]
  have hhigh : (n : ℚ) ≤ 5 := by linarith
  obtain ⟨k, hk, hn⟩ := exists_step hlow hhigh
  refine (h.2 k hk).2 ?_
  rw [hn]
  ring

theorem priorDigit_pos_iff {x : ℚ} : 0 < priorDigit x ↔ Clear x := by
  unfold priorDigit
  split_ifs with h0 h1 h2
  · constructor
    · intro h
      obtain ⟨n, rfl⟩ := h0
      rw [zpow_zero, mul_one] at h ⊢
      have : (1 : ℚ) ≤ n := by exact_mod_cast h
      exact clear_of_half_lt (by linarith)
    · intro h
      linarith [half_lt_of_clear (h0.mono (by norm_num)) h]
  · rw [roundTo_pos_iff, zpow_zero]
    exact ⟨clear_of_half_lt, half_lt_of_clear h1⟩
  · rw [roundTo_pos_iff, show (10 : ℚ) ^ (-1 : ℤ) / 2 = 1 / 20 by norm_num]
    refine ⟨fun h => ⟨by linarith, fun k hk => ⟨?_, ?_⟩⟩, five_cents_lt_of_clear h2⟩
    · rintro rfl
      exact h1 (tenths_onGrid k)
    · rintro rfl
      have hk' : (k : ℚ) + 1 ≤ 5 := by exact_mod_cast hk
      linarith
  · rw [roundTo_pos_iff, show (10 : ℚ) ^ (-2 : ℤ) / 2 = 1 / 200 by norm_num]
    refine ⟨fun h => ⟨h, fun k _ => ⟨?_, ?_⟩⟩, fun h => h.1⟩
    · rintro rfl
      exact h2 ((tenths_onGrid k).mono (by norm_num))
    · rintro rfl
      exact h2 (hundredths_onGrid k)

/-! ## Operations that raise -/

theorem Exn.lift_eq_ok {α : Type} {x : Except Signal α} {a : α} (h : Exn.lift x = .ok a) :
    x = .ok a := by
  cases x with
  | error e => cases h
  | ok b =>
      cases h
      rfl

section Lift

variable {a b d : Decimal} {x y : ℚ}

theorem lift_mul_denotes (ha : Denotes a x) (hb : Denotes b y) (h : Exn.lift (a.mul b) = .ok d) :
    Denotes d (rnd (x * y)) := by
  have hproduct := ha.mul hb
  rw [Exn.lift_eq_ok h] at hproduct
  exact hproduct.denotes

theorem lift_mul_fits (ha : Denotes a x) (hb : Denotes b y) (h : Exn.lift (a.mul b) = .ok d) :
    Fits (rnd (x * y)) := by
  have hproduct := ha.mul hb
  rw [Exn.lift_eq_ok h] at hproduct
  exact hproduct.ok_iff.mp ⟨d, rfl⟩

theorem lift_add_denotes (ha : Denotes a x) (hb : Denotes b y) (h : Exn.lift (a.add b) = .ok d) :
    Denotes d (rnd (x + y)) := by
  have hsum := ha.add hb
  rw [Exn.lift_eq_ok h] at hsum
  exact hsum.denotes

end Lift

/-! ## The code's rule -/

/-- The quantum the code picks from a normalized exponent. -/
def ruleTarget (e : Int) : Decimal :=
  if e < -2 then moneyQuant else if e < 0 then Decimal.tenPow (e + 1) else Decimal.ofInt 1

theorem ruleTarget_exponent {s : Bool} {c : Nat} {e : Int}
    (htail : (c = 0 ∧ e = 0) ∨ c % 10 ≠ 0) :
    (ruleTarget e).exponent? = some (ruleExp (finiteValue s c e)) := by
  have hself := finiteValue_onGrid s c e
  unfold ruleTarget ruleExp
  by_cases hcents : e < -2
  · have hc : c % 10 ≠ 0 := by omega
    rw [if_pos hcents, if_neg (by rw [onGrid_finiteValue_iff hc]; omega),
      if_neg (by rw [onGrid_finiteValue_iff hc]; omega)]
    rfl
  · rw [if_neg hcents]
    by_cases hfrac : e < 0
    · have hc : c % 10 ≠ 0 := by omega
      rw [if_pos hfrac]
      rcases (show e = -2 ∨ e = -1 by omega) with rfl | rfl
      · rw [if_neg (by rw [onGrid_finiteValue_iff hc]; omega), if_pos hself]
        rfl
      · rw [if_pos hself]
        rfl
    · rw [if_neg hfrac, if_pos (hself.mono (by omega))]
      rfl

/-- The code's rule is the rule on rationals. -/
theorem roundHalfEvenToPriorDigit_denotes {raw r : Decimal} {x : ℚ} (hraw : Denotes raw x)
    (hx : rnd x = x) (h : roundHalfEvenToPriorDigit raw = .ok r) : Denotes r (priorDigit x) := by
  obtain ⟨normalized, hnormalized, -⟩ := bind_eq_ok h
  obtain ⟨s, c, e, hnorm, hvalue, htail⟩ :=
    hraw.normalize (hraw.normalize_ok (Exn.lift_eq_ok hnormalized))
  have hquant : (Decimal.finite s c e).quantize (ruleTarget e) = .ok r := by
    rw [roundHalfEvenToPriorDigit, hnorm] at h
    exact Exn.lift_eq_ok h
  obtain ⟨s', c', rfl, hr⟩ :=
    (denotes_finite s c e).quantize (ruleTarget_exponent (s := s) htail) hquant
  have heq : finiteValue s c e = x := hvalue.trans hx
  rw [heq] at hr ⊢
  rw [priorDigit_eq, ← hr]
  exact denotes_finite ..

/-! ## Money -/

/-- A fare built by `Money.of` is an amount in cents, unless it is a NaN. -/
theorem money_of_cents {v : Decimal} {currency : String} {m : Money}
    (h : Money.of v currency = .ok m) :
    m.currency = currency ∧
      (m.amount = .nan false ∨ (IsFinite m.amount ∧ OnGrid (-2) m.amount.toRat)) := by
  obtain ⟨amount, ha, h⟩ := bind_eq_ok h
  cases h
  refine ⟨rfl, ?_⟩
  have hq := Exn.lift_eq_ok ha
  cases v with
  | nan s =>
      cases s with
      | true => cases hq
      | false =>
          cases hq
          exact .inl rfl
  | infinity s => cases hq
  | finite s c e =>
      obtain ⟨s', c', rfl, -⟩ := (denotes_finite s c e).quantize (q := moneyQuant) (e := -2) rfl hq
      exact .inr ⟨denotes_finite .., finiteValue_onGrid ..⟩

end FlightBooking
