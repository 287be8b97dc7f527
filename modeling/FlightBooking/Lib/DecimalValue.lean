import Mathlib.Data.Nat.Cast.Field
import Mathlib.Order.WithBotTop
import Mathlib.Data.Rat.Floor
import FlightBooking.Lib.HalfEven
import FlightBooking.Lib.Decimal

/-!
# DecimalValue — what the decimal operations compute

`Denotes d x`: the decimal `d` is finite and stands for the rational `x`. Every
operation on finite decimals denotes the exact rational result, rounded half-even
to `prec` significant digits, or overflows where that does not fit; `quantize` rounds
to a multiple of a power of ten.
-/

namespace Py

namespace Decimal

open Rounding

/-- The rational that a sign, a coefficient and an exponent stand for. -/
def finiteValue (s : Bool) (c : Nat) (e : Int) : ℚ := (if s then -1 else 1) * (c * 10 ^ e)

/-- The value of a finite decimal, 0 for the others. -/
def toRat : Decimal → ℚ
  | .finite s c e => finiteValue s c e
  | _ => 0

/-- `d` is finite and stands for `x`. -/
def Denotes (d : Decimal) (x : ℚ) : Prop := ∃ s c e, d = .finite s c e ∧ x = finiteValue s c e

theorem denotes_finite (s : Bool) (c : Nat) (e : Int) :
    Denotes (.finite s c e) (finiteValue s c e) := ⟨s, c, e, rfl, rfl⟩

theorem Denotes.toRat_eq {d : Decimal} {x : ℚ} (h : Denotes d x) : d.toRat = x := by
  obtain ⟨s, c, e, rfl, rfl⟩ := h
  rfl

/-- A finite decimal. -/
def IsFinite (d : Decimal) : Prop := Denotes d d.toRat

theorem Denotes.isFinite {d : Decimal} {x : ℚ} (h : Denotes d x) : IsFinite d := by
  rw [IsFinite, h.toRat_eq]
  exact h

@[simp] theorem finiteValue_zero (s : Bool) (e : Int) : finiteValue s 0 e = 0 := by
  simp [finiteValue]

theorem finiteValue_neg (s : Bool) (c : Nat) (e : Int) :
    finiteValue (!s) c e = -finiteValue s c e := by
  cases s <;> simp [finiteValue]

theorem abs_finiteValue (s : Bool) (c : Nat) (e : Int) : |finiteValue s c e| = c * 10 ^ e := by
  have hnonneg : (0 : ℚ) ≤ c * 10 ^ e := mul_nonneg c.cast_nonneg (tenPow_pos e).le
  cases s
  · simp [finiteValue, abs_of_nonneg hnonneg]
  · simp [finiteValue, abs_of_nonneg hnonneg]

theorem finiteValue_onGrid (s : Bool) (c : Nat) (e : Int) : OnGrid e (finiteValue s c e) := by
  refine ⟨(if s then -1 else 1) * c, ?_⟩
  cases s <;> simp [finiteValue]

/-! ## Digits -/

theorem numDigits_le_iff {c k : Nat} (hk : 0 < k) : numDigits c ≤ k ↔ c < 10 ^ k := by
  rcases Nat.eq_zero_or_pos c with rfl | hc
  · simp [numDigits, Nat.one_le_iff_ne_zero, hk.ne']
  · rw [← Nat.log_lt_iff_lt_pow (by norm_num) hc.ne', numDigits]
    omega

theorem lt_pow_numDigits (c : Nat) : c < 10 ^ numDigits c :=
  Nat.lt_pow_succ_log_self (by norm_num) c

theorem pow_numDigits_le {c : Nat} (hc : c ≠ 0) : 10 ^ (numDigits c - 1) ≤ c :=
  Nat.pow_log_le_self 10 hc

theorem log_natCast_mul_tenPow {c : Nat} (hc : c ≠ 0) (e : Int) :
    Int.log 10 ((c : ℚ) * 10 ^ e) = (numDigits c : Int) - 1 + e := by
  have hlow : (10 : ℚ) ^ ((numDigits c : Int) - 1) ≤ c := by
    rw [show (numDigits c : Int) - 1 = (numDigits c - 1 : Nat) by simp [numDigits], zpow_natCast]
    exact_mod_cast pow_numDigits_le hc
  have hhigh : (c : ℚ) < 10 ^ (numDigits c : Int) := by
    rw [zpow_natCast]
    exact_mod_cast lt_pow_numDigits c
  apply log_eq
  · rw [tenPow_add]
    exact mul_le_mul_of_nonneg_right hlow (tenPow_pos e).le
  · rw [show (numDigits c : Int) - 1 + e + 1 = numDigits c + e by ring, tenPow_add]
    exact mul_lt_mul_of_pos_right hhigh (tenPow_pos e)

/-! ## Rounding a coefficient -/

/-- A fraction against a half. -/
theorem half_lt_div_iff {r p : Nat} (hp : 0 < p) : (1 / 2 : ℚ) < r / p ↔ p < 2 * r := by
  rw [div_lt_div_iff₀ (by norm_num) (by exact_mod_cast hp), one_mul, mul_comm (r : ℚ) 2]
  exact_mod_cast Iff.rfl

theorem div_eq_half_iff {r p : Nat} (hp : 0 < p) : (r / p : ℚ) = 1 / 2 ↔ 2 * r = p := by
  rw [div_eq_div_iff (by exact_mod_cast hp.ne') (by norm_num), one_mul, mul_comm (r : ℚ) 2]
  exact_mod_cast Iff.rfl

theorem roundHalfEven_isNearest (n k : Nat) :
    IsNearest ((n : ℚ) / 10 ^ k) (roundHalfEven n k : Int) := by
  have hpos : 0 < 10 ^ k := by positivity
  have hlt : ((n % 10 ^ k : Nat) : ℚ) / (10 ^ k : Nat) < 1 := by
    rw [div_lt_one (by exact_mod_cast hpos)]
    exact_mod_cast Nat.mod_lt n hpos
  have hnonneg : (0 : ℚ) ≤ (n % 10 ^ k : Nat) / (10 ^ k : Nat) := by positivity
  have hquot : (n : ℚ) / 10 ^ k = (n / 10 ^ k : Nat) + (n % 10 ^ k : Nat) / (10 ^ k : Nat) := by
    have hsplit : (n : ℚ) = 10 ^ k * (n / 10 ^ k : Nat) + (n % 10 ^ k : Nat) := by
      exact_mod_cast (Nat.div_add_mod n (10 ^ k)).symm
    rw [hsplit, add_div, mul_div_cancel_left₀ _ (by positivity)]
    push_cast
    rfl
  have hhalf := half_lt_div_iff (r := n % 10 ^ k) hpos
  have htie := div_eq_half_iff (r := n % 10 ^ k) hpos
  unfold IsNearest roundHalfEven
  rw [hquot]
  dsimp only
  clear hquot
  generalize n / 10 ^ k = q
  generalize n % 10 ^ k = r at *
  generalize 10 ^ k = p at *
  split
  · next hup =>
      push_cast
      rcases hup with habove | ⟨heq, hodd⟩
      · left
        have := hhalf.mpr habove
        rw [abs_of_nonpos (by linarith)]
        linarith
      · right
        have := htie.mpr heq
        refine ⟨?_, by omega⟩
        rw [abs_of_nonpos (by linarith)]
        linarith
  · next hdown =>
      push Not at hdown
      rw [Int.cast_natCast, add_sub_cancel_left, abs_of_nonneg hnonneg]
      rcases Nat.lt_or_eq_of_le hdown.1 with hbelow | heq
      · left
        have hne := mt htie.mp hbelow.ne
        have hle := mt hhalf.mp (by omega)
        exact lt_of_le_of_ne (not_lt.mp hle) hne
      · exact .inr ⟨htie.mpr heq, by have := hdown.2 heq; omega⟩

/-- Rounding the coefficient is rounding the value. -/
theorem roundTo_finiteValue (s : Bool) (c : Nat) (e : Int) (k : Nat) :
    roundTo (e + k) (finiteValue s c e) = finiteValue s (roundHalfEven c k) (e + k) := by
  have hpos : roundTo (e + k) (finiteValue false c e) =
      finiteValue false (roundHalfEven c k) (e + k) := by
    have hscale : finiteValue false c e / 10 ^ (e + k) = c / 10 ^ k := by
      rw [finiteValue, tenPow_add, zpow_natCast]
      field_simp [tenPow_ne_zero]
      simp
    rw [roundTo, hscale, halfEven_eq (roundHalfEven_isNearest c k)]
    simp [finiteValue]
  cases s with
  | false => exact hpos
  | true =>
      have hneg := finiteValue_neg false
      simp only [Bool.not_false] at hneg
      rw [hneg, hneg, roundTo_neg, hpos]

/-! ## Rounding to the precision -/

/-- The value of a result: rounded half-even to `prec` digits. -/
abbrev rnd (x : ℚ) : ℚ := roundSig prec x

theorem finiteValue_carry (s : Bool) {c : Nat} (h : 10 ∣ c) (e : Int) :
    finiteValue s (c / 10) (e + 1) = finiteValue s c e := by
  obtain ⟨c, rfl⟩ := h
  rw [Nat.mul_div_cancel_left c (by norm_num), finiteValue, finiteValue, tenPow_add]
  push_cast
  ring

/-- More digits than the precision: where the last kept one stands. -/
theorem sigExp_finiteValue {s : Bool} {c : Nat} {e : Int} (h : prec < numDigits c) :
    sigExp prec (finiteValue s c e) = e + (numDigits c - prec : Nat) := by
  have hc : c ≠ 0 := by
    rintro rfl
    simp [numDigits, prec] at h
  rw [sigExp, abs_finiteValue, log_natCast_mul_tenPow hc]
  omega

theorem roundHalfEven_le_tenPow (c : Nat) : roundHalfEven c (numDigits c - prec) ≤ 10 ^ prec := by
  have hle : (c : ℚ) / 10 ^ (numDigits c - prec) ≤ ((10 ^ prec : Nat) : Int) := by
    rw [div_le_iff₀ (by positivity)]
    have hlt : c < 10 ^ prec * 10 ^ (numDigits c - prec) := by
      calc c < 10 ^ numDigits c := lt_pow_numDigits c
        _ ≤ 10 ^ (prec + (numDigits c - prec)) := Nat.pow_le_pow_right (by norm_num) (by omega)
        _ = 10 ^ prec * 10 ^ (numDigits c - prec) := pow_add ..
    exact_mod_cast hlt.le
  have hmono := (roundHalfEven_isNearest c (numDigits c - prec)).mono (isNearest_intCast _) hle
  exact_mod_cast hmono

/-- Rounding an exact result rounds its value. -/
theorem fix_denotes (s : Bool) (c : Nat) (e : Int) :
    Denotes (fix s c e) (rnd (finiteValue s c e)) := by
  unfold fix
  dsimp only
  split
  · next hfits =>
      have hlt : c < 10 ^ prec := (numDigits_le_iff (by decide)).mp hfits
      have hself : rnd (finiteValue s c e) = finiteValue s c e := by
        refine roundSig_eq_self (finiteValue_onGrid s c e) ?_
        rw [abs_finiteValue, tenPow_add, zpow_natCast]
        exact mul_lt_mul_of_pos_right (by exact_mod_cast hlt) (tenPow_pos e)
      rw [hself]
      exact denotes_finite s c e
  · next hlong =>
      have hround : rnd (finiteValue s c e) =
          finiteValue s (roundHalfEven c (numDigits c - prec))
            (e + (numDigits c - prec : Nat)) := by
        rw [rnd, roundSig, sigExp_finiteValue (by omega), roundTo_finiteValue]
      rw [hround]
      split
      · exact denotes_finite ..
      · next hcarry =>
          -- a 29th digit: the coefficient is `10^28`
          rw [numDigits_le_iff (by decide), not_lt] at hcarry
          have heq := le_antisymm (roundHalfEven_le_tenPow c) hcarry
          rw [heq, ← finiteValue_carry s (by decide)]
          exact denotes_finite ..

/-! ## Overflow -/

/-- The value has no digit left of the one at `10^emax`. -/
def Fits (x : ℚ) : Prop := |x| < 10 ^ (emax + 1)

theorem Fits.of_le {x y : ℚ} (hy : Fits y) (h : |x| ≤ |y|) : Fits x := h.trans_lt hy

/-- Everyday numbers fit. -/
theorem fits_of_lt {x : ℚ} {k : Nat} (hk : k ≤ 999999) (h : |x| < 10 ^ k) : Fits x := by
  refine h.trans_le ?_
  rw [← zpow_natCast]
  exact zpow_le_zpow_right₀ (by norm_num) (by simp only [emax]; omega)

/-- Rounding stays on its side of a power of ten. -/
theorem abs_rnd_le {x : ℚ} {k : Nat} (h : |x| ≤ 10 ^ k) : |rnd x| ≤ 10 ^ k := by
  have hgrid : OnGrid (k : ℤ) ((10 : ℚ) ^ k) := ⟨1, by simp⟩
  rw [abs_roundSig]
  refine roundSig_le (by decide) hgrid ?_ h
  rw [abs_of_pos (by positivity), ← zpow_natCast]
  exact zpow_lt_zpow_right₀ (by norm_num) (by simp only [prec]; omega)

theorem le_abs_rnd {x : ℚ} {k : Nat} (h : 10 ^ k ≤ |x|) : 10 ^ k ≤ |rnd x| := by
  have hgrid : OnGrid (k : ℤ) ((10 : ℚ) ^ k) := ⟨1, by simp⟩
  refine le_abs_roundSig (by decide) hgrid ?_ h
  rw [abs_of_pos (by positivity), ← zpow_natCast]
  exact zpow_lt_zpow_right₀ (by norm_num) (by simp only [prec]; omega)

theorem fits_rnd_of_le {x : ℚ} {k : Nat} (hk : k < 999999) (h : |x| ≤ 10 ^ k) : Fits (rnd x) := by
  refine fits_of_lt hk ((abs_rnd_le h).trans_lt ?_)
  exact pow_lt_pow_right₀ (by norm_num) (Nat.lt_succ_self k)

/-- What is no larger than a number that fits does not overflow. -/
theorem Fits.rnd_of_le {x y : ℚ} (hfits : Fits x) (hx : rnd x = x) (h : |y| ≤ |x|) :
    Fits (rnd y) := by
  refine hfits.of_le ?_
  rw [← hx, abs_roundSig, abs_roundSig]
  exact roundSig_mono (by decide) h

theorem not_fits_of_le {x : ℚ} (h : 10 ^ (emax + 1) ≤ x) : ¬ Fits (rnd x) := by
  have hgrid : OnGrid (emax + 1) ((10 : ℚ) ^ (emax + 1)) := ⟨1, by simp⟩
  have hdigits : |(10 : ℚ) ^ (emax + 1)| < 10 ^ ((prec : ℤ) + (emax + 1)) := by
    rw [abs_of_pos (tenPow_pos _)]
    exact zpow_lt_zpow_right₀ (by norm_num) (by simp only [prec]; omega)
  exact not_lt.mpr ((le_roundSig (by decide) hgrid hdigits h).trans (le_abs_self _))

/-- The result of an operation whose rounded value is `x`. -/
inductive Computes : Except Signal Decimal → ℚ → Prop
  | value {d : Decimal} {x : ℚ} (h : Denotes d x) (hfits : Fits x) : Computes (.ok d) x
  | overflow {x : ℚ} (h : ¬ Fits x) : Computes (.error .overflow) x

namespace Computes

variable {r : Except Signal Decimal} {d : Decimal} {x : ℚ}

theorem denotes (h : Computes (.ok d) x) : Denotes d x := by
  cases h with
  | value h => exact h

theorem ok_iff (h : Computes r x) : (∃ d, r = .ok d) ↔ Fits x := by
  cases h with
  | value h hfits => exact iff_of_true ⟨_, rfl⟩ hfits
  | overflow h => exact iff_of_false (fun ⟨_, h⟩ => nomatch h) h

theorem of_fits (h : Computes r x) (hfits : Fits x) : ∃ d, r = .ok d ∧ Denotes d x := by
  obtain ⟨d, rfl⟩ := h.ok_iff.mpr hfits
  exact ⟨d, rfl, h.denotes⟩

theorem of_not_fits (h : Computes r x) (hfits : ¬ Fits x) : r = .error .overflow := by
  cases h with
  | value _ hyes => exact absurd hyes hfits
  | overflow => rfl

end Computes

/-- A coefficient that is not zero fits if its first digit does. -/
theorem fits_finiteValue_iff {s : Bool} {c : Nat} (hc : c ≠ 0) {e : Int} :
    Fits (finiteValue s c e) ↔ e + numDigits c - 1 ≤ emax := by
  have hpos : (0 : ℚ) < c * 10 ^ e :=
    mul_pos (by exact_mod_cast Nat.pos_of_ne_zero hc) (tenPow_pos e)
  have hlog : (c * 10 ^ e : ℚ) < 10 ^ (emax + 1) ↔ Int.log 10 (c * 10 ^ e : ℚ) < emax + 1 :=
    Int.lt_zpow_iff_log_lt (by norm_num) hpos
  rw [Fits, abs_finiteValue, hlog, log_natCast_mul_tenPow hc]
  omega

/-- An exact result is rounded and checked. -/
theorem finish_computes (s : Bool) (c : Nat) (e : Int) :
    Computes (finish s c e) (rnd (finiteValue s c e)) := by
  obtain ⟨s', c', e', hfix, hvalue⟩ := fix_denotes s c e
  rw [finish, hfix, hvalue]
  dsimp only
  by_cases hc : c' = 0
  · rw [if_neg (fun h => h.1 hc)]
    refine .value (denotes_finite s' c' e') ?_
    rw [hc, finiteValue_zero, Fits, abs_zero]
    exact tenPow_pos _
  · have hfits := fits_finiteValue_iff (s := s') hc (e := e')
    by_cases hlong : emax < e' + numDigits c' - 1
    · rw [if_pos ⟨hc, hlong⟩]
      exact .overflow (mt hfits.mp (not_le.mpr hlong))
    · rw [if_neg (fun h => hlong h.2)]
      exact .value (denotes_finite s' c' e') (hfits.mpr (not_lt.mp hlong))

/-! ## Sum, product, order -/

theorem scaled_mul_tenPow (s : Bool) (c : Nat) {exp e : Int} (h : e ≤ exp) :
    (scaled s c exp e : ℚ) * 10 ^ e = finiteValue s c exp := by
  have hpow : (10 : ℚ) ^ (exp - e).toNat * 10 ^ e = 10 ^ exp := by
    rw [← zpow_natCast, ← tenPow_add]
    congr 1
    omega
  cases s <;> simp [scaled, finiteValue, mul_assoc, hpow]

theorem finiteValue_natAbs (n : Int) (e : Int) :
    finiteValue (decide (n < 0)) n.natAbs e = n * 10 ^ e := by
  unfold finiteValue
  rcases lt_or_ge n 0 with h | h
  · rw [decide_eq_true h, ← Int.cast_natCast, Int.ofNat_natAbs_of_nonpos h.le]
    simp
  · rw [decide_eq_false (not_lt.mpr h), ← Int.cast_natCast, Int.natAbs_of_nonneg h]
    simp

theorem addFinite_computes (s : Bool) (c : Nat) (e : Int) (s' : Bool) (c' : Nat) (e' : Int) :
    Computes (addFinite s c e s' c' e') (rnd (finiteValue s c e + finiteValue s' c' e')) := by
  have hsum : finiteValue s c e + finiteValue s' c' e' =
      (scaled s c e (min e e') + scaled s' c' e' (min e e') : Int) * 10 ^ min e e' := by
    rw [Int.cast_add, add_mul, scaled_mul_tenPow s c (min_le_left e e'),
      scaled_mul_tenPow s' c' (min_le_right e e')]
  rw [hsum]
  unfold addFinite
  dsimp only
  generalize scaled s c e (min e e') + scaled s' c' e' (min e e') = n
  by_cases hn : n = 0
  · -- the sign of a zero is not part of its value
    subst hn
    simpa using finish_computes (s && s' && decide (c = 0)) 0 (min e e')
  · rw [if_neg hn, ← finiteValue_natAbs]
    exact finish_computes ..

section Arithmetic

variable {a b : Decimal} {x y : ℚ}

theorem Denotes.add (ha : Denotes a x) (hb : Denotes b y) : Computes (a.add b) (rnd (x + y)) := by
  obtain ⟨s, c, e, rfl, rfl⟩ := ha
  obtain ⟨s', c', e', rfl, rfl⟩ := hb
  exact addFinite_computes ..

theorem Denotes.mul (ha : Denotes a x) (hb : Denotes b y) : Computes (a.mul b) (rnd (x * y)) := by
  obtain ⟨s, c, e, rfl, rfl⟩ := ha
  obtain ⟨s', c', e', rfl, rfl⟩ := hb
  have hprod : finiteValue s c e * finiteValue s' c' e' =
      finiteValue (xor s s') (c * c') (e + e') := by
    unfold finiteValue
    rw [tenPow_add]
    cases s <;> cases s' <;> push_cast <;> simp <;> ring
  rw [hprod]
  exact finish_computes ..

theorem Denotes.lt (ha : Denotes a x) (hb : Denotes b y) : a.lt b = .ok (decide (x < y)) := by
  obtain ⟨s, c, e, rfl, rfl⟩ := ha
  obtain ⟨s', c', e', rfl, rfl⟩ := hb
  have hiff : scaled s c e (min e e') < scaled s' c' e' (min e e') ↔
      finiteValue s c e < finiteValue s' c' e' := by
    rw [← scaled_mul_tenPow s c (min_le_left e e'), ← scaled_mul_tenPow s' c' (min_le_right e e'),
      mul_lt_mul_iff_left₀ (tenPow_pos _)]
    exact_mod_cast Iff.rfl
  exact congrArg Except.ok (decide_eq_decide.mpr hiff)

end Arithmetic

/-! ## Order -/

/-- Not a NaN. -/
def IsNumber (d : Decimal) : Prop := ∀ signaling, d ≠ .nan signaling

/-- The place of a number among the rationals and the two infinities. -/
def extended : Decimal → WithBotTop ℚ
  | .finite s c e => finiteValue s c e
  | .infinity s => if s then ⊥ else ⊤
  | .nan _ => ⊥

theorem Denotes.extended {d : Decimal} {x : ℚ} (h : Denotes d x) : d.extended = x := by
  obtain ⟨s, c, e, rfl, rfl⟩ := h
  rfl

theorem IsFinite.isNumber {d : Decimal} (h : IsFinite d) : IsNumber d := by
  obtain ⟨s, c, e, rfl, -⟩ := h
  intro signaling hnan
  cases hnan

/-- Numbers are compared by their place. -/
theorem lt_ok {a b : Decimal} (ha : IsNumber a) (hb : IsNumber b) :
    a.lt b = .ok (decide (a.extended < b.extended)) := by
  have hfinite : ∀ x : ℚ, (⊥ : WithBotTop ℚ) < x ∧ (x : WithBotTop ℚ) < ⊤ :=
    fun x => ⟨WithBot.bot_lt_coe _, WithBot.coe_lt_coe.mpr (WithTop.coe_lt_top _)⟩
  cases a with
  | nan s => exact absurd rfl (ha s)
  | finite s c e =>
      cases b with
      | nan s => exact absurd rfl (hb s)
      | finite s' c' e' =>
          rw [(denotes_finite s c e).lt (denotes_finite s' c' e')]
          simp [Decimal.extended]
      | infinity s' => cases s' <;> simp [Decimal.lt, Decimal.extended, hfinite]
  | infinity s =>
      cases b with
      | nan s => exact absurd rfl (hb s)
      | finite s' c' e' => cases s <;> simp [Decimal.lt, Decimal.extended, hfinite]
      | infinity s' => cases s <;> cases s' <;> simp [Decimal.lt, Decimal.extended]

/-! ## Quotient -/

/-- What the last digit of an inexact quotient is bumped to. -/
def sticky (q : Nat) : Nat := if q % 5 = 0 then q + 1 else q

/-- No midpoint of a coarser grid lies between an inexact quotient and its
bumped integer part: midpoints are multiples of five. -/
theorem isNearest_sticky {num den k : Nat} {n : Int} (hden : 0 < den) (hrem : num % den ≠ 0)
    (h : IsNearest ((num : ℚ) / den / 10 ^ (k + 1)) n) :
    IsNearest ((sticky (num / den) : ℚ) / 10 ^ (k + 1)) n := by
  have hdenq : (0 : ℚ) < den := by exact_mod_cast hden
  have hpow : (0 : ℚ) < 10 ^ (k + 1) := by positivity
  -- the quotient lies between the midpoints around `n`
  have hnear := abs_le.mp h.abs_sub_le
  have hlow : (10 * (10 ^ k * n) - 5 * 10 ^ k) * den ≤ (num : Int) := by
    have : (10 * (10 ^ k * n) - 5 * 10 ^ k) * den ≤ (num : ℚ) := by
      rw [← le_div_iff₀ hdenq]
      have := hnear.1
      rw [neg_le_sub_iff_le_add, ← sub_le_iff_le_add, le_div_iff₀ hpow] at this
      rw [pow_succ] at this
      linarith
    exact_mod_cast this
  have hhigh : (num : Int) ≤ (10 * (10 ^ k * n) + 5 * 10 ^ k) * den := by
    have : (num : ℚ) ≤ (10 * (10 ^ k * n) + 5 * 10 ^ k) * den := by
      rw [← div_le_iff₀ hdenq]
      have := hnear.2
      rw [sub_le_iff_le_add, div_le_iff₀ hpow] at this
      rw [pow_succ] at this
      linarith
    exact_mod_cast this
  -- so does its integer part, and strictly so after the bump
  have hdiv : (num : Int) = den * (num / den : Nat) + (num % den : Nat) := by
    exact_mod_cast (Nat.div_add_mod num den).symm
  have hmod : num % den < den := Nat.mod_lt num hden
  have hq1 : 10 * (10 ^ k * n) - 5 * 10 ^ k < ((num / den : Nat) : Int) + 1 := by
    have : (10 * (10 ^ k * n) - 5 * 10 ^ k) * den < (((num / den : Nat) : Int) + 1) * den := by
      have : ((num % den : Nat) : Int) < den := by exact_mod_cast hmod
      linarith
    exact lt_of_mul_lt_mul_right this (by omega)
  have hq2 : ((num / den : Nat) : Int) < 10 * (10 ^ k * n) + 5 * 10 ^ k := by
    have : ((num / den : Nat) : Int) * den < (10 * (10 ^ k * n) + 5 * 10 ^ k) * den := by
      have : 0 < ((num % den : Nat) : Int) := by omega
      linarith
    exact lt_of_mul_lt_mul_right this (by omega)
  have hbump : 10 * (10 ^ k * n) - 5 * 10 ^ k < (sticky (num / den) : Int) ∧
      (sticky (num / den) : Int) < 10 * (10 ^ k * n) + 5 * 10 ^ k := by
    unfold sticky
    generalize (10 : Int) ^ k * n = m at *
    generalize (10 : Int) ^ k = t at *
    split <;> omega
  left
  have hlow' : (10 * (10 ^ k * n) - 5 * 10 ^ k : ℚ) < sticky (num / den) := by
    exact_mod_cast hbump.1
  have hhigh' : (sticky (num / den) : ℚ) < 10 * (10 ^ k * n) + 5 * 10 ^ k := by
    exact_mod_cast hbump.2
  rw [abs_lt]
  constructor
  · rw [lt_sub_iff_add_lt, lt_div_iff₀ hpow, pow_succ]
    linarith
  · rw [sub_lt_iff_lt_add, div_lt_iff₀ hpow, pow_succ]
    linarith

/-- Rounding to the precision, with the position of the last digit given. -/
theorem rnd_mul_tenPow {z : ℚ} {k : Nat} (e : Int) (hlow : (10 : ℚ) ^ (prec + k) ≤ z)
    (hhigh : z < 10 ^ (prec + k + 1)) :
    rnd (z * 10 ^ e) = halfEven (z / 10 ^ (k + 1)) * 10 ^ (e + (k + 1 : Nat)) := by
  have hpos : 0 < z := lt_of_lt_of_le (by positivity) hlow
  have hlog : Int.log 10 (z * 10 ^ e) = (prec + k : Nat) + e := by
    apply log_eq
    · rw [tenPow_add, zpow_natCast]
      exact mul_le_mul_of_nonneg_right hlow (tenPow_pos e).le
    · rw [show ((prec + k : Nat) + e + 1 : Int) = (prec + k + 1 : Nat) + e by push_cast; ring,
        tenPow_add, zpow_natCast]
      exact mul_lt_mul_of_pos_right hhigh (tenPow_pos e)
  have hexp : sigExp prec (z * 10 ^ e) = e + (k + 1 : Nat) := by
    rw [sigExp, abs_of_pos (mul_pos hpos (tenPow_pos e)), hlog]
    push_cast
    ring
  have hscale : z * 10 ^ e / 10 ^ (e + ((k + 1 : Nat) : Int)) = z / 10 ^ (k + 1) := by
    rw [tenPow_add, zpow_natCast, mul_comm z, mul_div_mul_left _ _ (tenPow_ne_zero e)]
  rw [rnd, roundSig, hexp, roundTo, hscale]

/-- The final rounding of the bumped quotient is that of the exact one. -/
theorem rnd_sticky {num den : Nat} (hden : 0 < den) (hlong : den * 10 ^ prec ≤ num)
    (hrem : num % den ≠ 0) (e : Int) :
    rnd ((sticky (num / den) : ℚ) * 10 ^ e) = rnd ((num : ℚ) / den * 10 ^ e) := by
  have hdenq : (0 : ℚ) < den := by exact_mod_cast hden
  have hq : 10 ^ prec ≤ num / den := by
    rw [Nat.le_div_iff_mul_le hden, mul_comm]
    exact hlong
  obtain ⟨k, hk⟩ : ∃ k, numDigits (num / den) = prec + k + 1 := by
    have : ¬ numDigits (num / den) ≤ prec := by
      rw [numDigits_le_iff (by decide)]
      omega
    exact ⟨numDigits (num / den) - prec - 1, by omega⟩
  have hlow : 10 ^ (prec + k) ≤ num / den := by
    have hne : num / den ≠ 0 := ((show 0 < 10 ^ prec by positivity).trans_le hq).ne'
    have := pow_numDigits_le hne
    rwa [hk, Nat.add_sub_cancel] at this
  have hhigh : num / den < 10 ^ (prec + k + 1) := hk ▸ lt_pow_numDigits (num / den)
  -- the bump does not reach the next power of ten, which ends in a zero
  have hbump : num / den ≤ sticky (num / den) ∧ sticky (num / den) < 10 ^ (prec + k + 1) := by
    rw [pow_succ] at hhigh ⊢
    unfold sticky
    split <;> omega
  have hlowq : (10 : ℚ) ^ (prec + k) ≤ num / den := by
    rw [le_div_iff₀ hdenq]
    exact_mod_cast (Nat.le_div_iff_mul_le hden).mp hlow
  have hhighq : (num : ℚ) / den < 10 ^ (prec + k + 1) := by
    rw [div_lt_iff₀ hdenq]
    exact_mod_cast (Nat.div_lt_iff_lt_mul hden).mp hhigh
  rw [rnd_mul_tenPow e hlowq hhighq, rnd_mul_tenPow e
    (by exact_mod_cast hlow.trans hbump.1) (by exact_mod_cast hbump.2)]
  congr 2
  exact halfEven_eq (isNearest_sticky hden hrem (halfEven_isNearest _))

theorem finiteValue_stripTo (s : Bool) (ideal : Int) (fuel c : Nat) (e : Int) :
    finiteValue s (stripTo ideal fuel c e).1 (stripTo ideal fuel c e).2 = finiteValue s c e := by
  induction fuel generalizing c e with
  | zero => rfl
  | succ fuel ih =>
      unfold stripTo
      split
      · next h => rw [ih, finiteValue_carry s (Nat.dvd_of_mod_eq_zero h.2)]
      · rfl

/-- A sign outside a rounding. -/
theorem rnd_sign (s : Bool) (x : ℚ) :
    rnd ((if s then -1 else 1) * x) = (if s then -1 else 1) * rnd x := by
  cases s
  · simp
  · simp [roundSig_neg]

/-- The quotient is computed to at least one digit more than the precision. -/
theorem divFinite_long {c c' : Nat} (hc : c ≠ 0) (shift : Int)
    (hshift : shift = (numDigits c' : Int) - numDigits c + prec + 1) :
    (if 0 ≤ shift then c' else c' * 10 ^ (-shift).toNat) * 10 ^ prec ≤
      (if 0 ≤ shift then c * 10 ^ shift.toNat else c) := by
  have hlow := pow_numDigits_le hc
  have hhigh := (lt_pow_numDigits c').le
  have hdigits : 0 < numDigits c := Nat.succ_pos _
  split
  · next h =>
      calc c' * 10 ^ prec ≤ 10 ^ numDigits c' * 10 ^ prec := Nat.mul_le_mul_right _ hhigh
        _ = 10 ^ (numDigits c - 1) * 10 ^ shift.toNat := by
            rw [← pow_add, ← pow_add]
            congr 1
            omega
        _ ≤ c * 10 ^ shift.toNat := Nat.mul_le_mul_right _ hlow
  · next h =>
      calc c' * 10 ^ (-shift).toNat * 10 ^ prec
          ≤ 10 ^ numDigits c' * 10 ^ (-shift).toNat * 10 ^ prec :=
            Nat.mul_le_mul_right _ (Nat.mul_le_mul_right _ hhigh)
        _ = 10 ^ (numDigits c - 1) := by
            rw [← pow_add, ← pow_add]
            congr 1
            omega
        _ ≤ c := hlow

/-- Numerator over denominator is the quotient of the coefficients, shifted. -/
theorem divFinite_ratio (c : Nat) {c' : Nat} (hc' : c' ≠ 0) (shift : Int) :
    (((if 0 ≤ shift then c * 10 ^ shift.toNat else c : Nat) : ℚ) /
      ((if 0 ≤ shift then c' else c' * 10 ^ (-shift).toNat : Nat) : ℚ)) =
      c / c' * 10 ^ shift := by
  have hne : (c' : ℚ) ≠ 0 := by exact_mod_cast hc'
  split
  · next h =>
      obtain ⟨k, rfl⟩ := Int.eq_ofNat_of_zero_le h
      rw [Int.toNat_natCast, zpow_natCast]
      push_cast
      field_simp
  · next h =>
      obtain ⟨k, hk⟩ := Int.eq_ofNat_of_zero_le (show 0 ≤ -shift by omega)
      obtain rfl : shift = -(k : Int) := by omega
      rw [neg_neg, Int.toNat_natCast, zpow_neg, zpow_natCast]
      push_cast
      field_simp

theorem divFinite_computes (s : Bool) (c : Nat) (e : Int) (s' : Bool) {c' : Nat} (hc' : c' ≠ 0)
    (e' : Int) :
    Computes (divFinite s c e s' c' e') (rnd (finiteValue s c e / finiteValue s' c' e')) := by
  unfold divFinite
  dsimp only
  split
  · next hc =>
      subst hc
      simpa using finish_computes (xor s s') 0 (e - e')
  next hc =>
  generalize hshift : (numDigits c' : Int) - numDigits c + prec + 1 = shift
  have hlong := divFinite_long hc shift hshift.symm
  have hratio := divFinite_ratio c hc' shift
  have hden : 0 < (if 0 ≤ shift then c' else c' * 10 ^ (-shift).toNat) := by
    split
    · omega
    · have := Nat.pos_of_ne_zero hc'
      positivity
  generalize (if 0 ≤ shift then c * 10 ^ shift.toNat else c) = num at *
  generalize (if 0 ≤ shift then c' else c' * 10 ^ (-shift).toNat) = den at *
  -- the exact quotient at the exponent of the computed one
  have hquot : finiteValue s c e / finiteValue s' c' e' =
      (if xor s s' then -1 else 1) * ((num : ℚ) / den * 10 ^ (e - e' - shift)) := by
    rw [hratio, mul_assoc, ← tenPow_add, show shift + (e - e' - shift) = e - e' by ring,
      zpow_sub₀ (by norm_num)]
    unfold finiteValue
    cases s <;> cases s' <;> simp [mul_div_mul_comm, neg_div, div_neg]
  rw [hquot, rnd_sign]
  split
  · next hrem =>
      rw [← rnd_sticky hden hlong hrem, ← rnd_sign]
      exact finish_computes (xor s s') (sticky (num / den)) (e - e' - shift)
  · next hrem =>
      rw [not_ne_iff] at hrem
      have hexact : (num : ℚ) / den = (num / den : Nat) :=
        (Nat.cast_div (Nat.dvd_of_mod_eq_zero hrem) (by exact_mod_cast hden.ne')).symm
      rw [hexact, ← rnd_sign]
      have hstrip := finiteValue_stripTo (xor s s') (e - e') (numDigits (num / den))
        (num / den) (e - e' - shift)
      rw [show (if xor s s' = true then (-1 : ℚ) else 1) *
        (((num / den : Nat) : ℚ) * 10 ^ (e - e' - shift)) =
        finiteValue (xor s s') (num / den) (e - e' - shift) from rfl, ← hstrip]
      exact finish_computes ..

theorem Denotes.div {a b : Decimal} {x y : ℚ} (ha : Denotes a x) (hb : Denotes b y)
    (hy : y ≠ 0) : Computes (a.div b) (rnd (x / y)) := by
  obtain ⟨s, c, e, rfl, rfl⟩ := ha
  obtain ⟨s', c', e', rfl, rfl⟩ := hb
  have hc' : c' ≠ 0 := by
    rintro rfl
    exact hy (finiteValue_zero s' e')
  have hdiv : (Decimal.finite s c e).div (.finite s' c' e') = divFinite s c e s' c' e' :=
    if_neg hc'
  rw [hdiv]
  exact divFinite_computes s c e s' hc' e'

theorem denotes_ofInt (n : Int) : Denotes (ofInt n) n := by
  refine ⟨_, _, _, rfl, ?_⟩
  rw [finiteValue_natAbs]
  simp

/-! ## Trailing zeros and quantization -/

/-- The last digit says which grids a number is on. -/
theorem onGrid_finiteValue_iff {s : Bool} {c : Nat} {e k : Int} (hc : c % 10 ≠ 0) :
    OnGrid k (finiteValue s c e) ↔ k ≤ e := by
  constructor
  · intro ⟨n, hn⟩
    by_contra hlt
    obtain ⟨j, hj⟩ := Int.eq_ofNat_of_zero_le (show 0 ≤ k - e - 1 by omega)
    obtain rfl : k = e + (j + 1 : Nat) := by
      push_cast
      omega
    have hpos : (0 : ℚ) < 10 ^ (e + ((j + 1 : Nat) : Int)) := tenPow_pos _
    have habs : (c : ℚ) = (n.natAbs * 10 ^ (j + 1) : Nat) := by
      have := congrArg abs hn
      rw [abs_finiteValue, abs_mul, abs_of_pos hpos, tenPow_add, zpow_natCast,
        mul_comm (10 ^ e), ← mul_assoc] at this
      push_cast
      rw [Nat.cast_natAbs, Int.cast_abs]
      exact mul_right_cancel₀ (tenPow_ne_zero e) this
    have hnat : c = n.natAbs * 10 ^ (j + 1) := by exact_mod_cast habs
    rw [pow_succ, ← mul_assoc] at hnat
    omega
  · exact (finiteValue_onGrid s c e).mono

theorem stripTo_mod {ideal : Int} {fuel c : Nat} {e : Int} (hc : 0 < c) (hfuel : c < 10 ^ fuel)
    (hideal : e + fuel ≤ ideal) : (stripTo ideal fuel c e).1 % 10 ≠ 0 := by
  induction fuel generalizing c e with
  | zero => omega
  | succ fuel ih =>
      rw [pow_succ] at hfuel
      unfold stripTo
      split
      · next h => exact ih (by omega) (by omega) (by omega)
      · next h =>
          push_cast at hideal
          intro hzero
          exact h ⟨by omega, hzero⟩

/-- A normalized number has no trailing zero; a zero has exponent 0. -/
theorem Denotes.normalize {d : Decimal} {x : ℚ} (h : Denotes d x) (hfits : Fits (rnd x)) :
    ∃ s c e, d.normalize = .ok (.finite s c e) ∧ finiteValue s c e = rnd x ∧
      ((c = 0 ∧ e = 0) ∨ c % 10 ≠ 0) := by
  obtain ⟨s, c, e, rfl, rfl⟩ := h
  obtain ⟨d, hfinish, s', c', e', rfl, hvalue⟩ := (finish_computes s c e).of_fits hfits
  rw [hvalue]
  cases c' with
  | zero =>
      refine ⟨s', 0, 0, ?_, by simp, .inl ⟨rfl, rfl⟩⟩
      simp only [Decimal.normalize, hfinish]
  | succ m =>
      refine ⟨s', _, _, ?_, finiteValue_stripTo .., .inr
        (stripTo_mod m.succ_pos (lt_pow_numDigits (m + 1)) le_rfl)⟩
      simp only [Decimal.normalize, hfinish]

/-- What is too large overflows here as well. -/
theorem Denotes.normalize_ok {d r : Decimal} {x : ℚ} (h : Denotes d x)
    (hr : d.normalize = .ok r) : Fits (rnd x) := by
  obtain ⟨s, c, e, rfl, rfl⟩ := h
  by_contra hfits
  rw [Decimal.normalize, (finish_computes s c e).of_not_fits hfits] at hr
  cases hr

theorem finiteValue_rescale (s : Bool) (c : Nat) (e e' : Int) :
    finiteValue s (rescale c e e') e' = roundTo e' (finiteValue s c e) := by
  unfold rescale
  split
  · next h =>
      rw [roundTo_eq_self ((finiteValue_onGrid s c e).mono h)]
      obtain ⟨k, rfl⟩ := Int.le.dest h
      rw [finiteValue, finiteValue, add_sub_cancel_left, Int.toNat_natCast, tenPow_add,
        zpow_natCast]
      push_cast
      ring
  · next h =>
      obtain ⟨k, rfl⟩ := Int.le.dest (not_le.mp h).le
      rw [add_sub_cancel_left, Int.toNat_natCast, roundTo_finiteValue]

/-- A quantized number stands at the exponent asked for. -/
theorem Denotes.quantize {d q r : Decimal} {x : ℚ} {e : Int} (hd : Denotes d x)
    (hq : q.exponent? = some e) (h : d.quantize q = .ok r) :
    ∃ s c, r = .finite s c e ∧ finiteValue s c e = roundTo e x := by
  obtain ⟨s, c, e₀, rfl, rfl⟩ := hd
  cases q with
  | infinity s => cases hq
  | nan s => cases hq
  | finite s' c' e' =>
  cases hq
  simp only [Decimal.quantize] at h
  split at h
  · next hc =>
      cases h
      exact ⟨s, 0, rfl, by rw [hc, finiteValue_zero, finiteValue_zero, roundTo_eq_self (.zero e)]⟩
  · split at h
    · cases h
    · split at h
      · cases h
      · cases h
        exact ⟨s, _, rfl, finiteValue_rescale s c e₀ e⟩

/-- A number can be quantized exactly if the result has digits enough. -/
theorem Denotes.quantize_ok_iff {d q : Decimal} {x : ℚ} {e : Int} (hd : Denotes d x)
    (hq : q.exponent? = some e) :
    (∃ r, d.quantize q = .ok r) ↔ |roundTo e x| < 10 ^ (prec + e : Int) := by
  obtain ⟨s, c, e₀, rfl, rfl⟩ := hd
  cases q with
  | infinity s => cases hq
  | nan s => cases hq
  | finite s' c' e' =>
  cases hq
  by_cases hc : c = 0
  · subst hc
    rw [finiteValue_zero, roundTo_eq_self (.zero e), abs_zero]
    exact iff_of_true ⟨.finite s 0 e, by simp [Decimal.quantize]⟩ (tenPow_pos _)
  -- as many digits as the coefficient that comes out has
  have hsize : |roundTo e (finiteValue s c e₀)| < 10 ^ (prec + e : Int) ↔
      numDigits (rescale c e₀ e) ≤ prec := by
    rw [← finiteValue_rescale, abs_finiteValue, tenPow_add, mul_lt_mul_iff_left₀ (tenPow_pos e),
      zpow_natCast, numDigits_le_iff (by decide)]
    exact_mod_cast Iff.rfl
  rw [hsize]
  constructor
  · intro ⟨r, hr⟩
    simp only [Decimal.quantize, if_neg hc] at hr
    by_contra hlong
    split at hr
    · cases hr
    · rw [if_pos (not_le.mp hlong)] at hr
      cases hr
  · intro hfits
    have hdigits : ¬ (prec : Int) < numDigits c + e₀ - e := by
      intro hlong
      -- a leading digit that far left does not go away by rounding
      have hlead : (10 : ℚ) ^ ((numDigits c : Int) - 1 + e₀) ≤ |finiteValue s c e₀| := by
        rw [abs_finiteValue, tenPow_add]
        refine mul_le_mul_of_nonneg_right ?_ (tenPow_pos e₀).le
        have hpos : 1 ≤ numDigits c := Nat.succ_pos _
        rw [show (numDigits c : Int) - 1 = ((numDigits c - 1 : Nat) : Int) by omega, zpow_natCast]
        exact_mod_cast pow_numDigits_le hc
      have hpow : (10 : ℚ) ^ (prec + e : Int) ≤ |finiteValue s c e₀| :=
        (zpow_le_zpow_right₀ (by norm_num) (by omega)).trans hlead
      have hgrid : OnGrid e ((10 : ℚ) ^ (prec + e : Int)) :=
        ⟨10 ^ prec, by rw [tenPow_add]; norm_num⟩
      exact absurd (hsize.mpr hfits) (not_lt.mpr (le_abs_roundTo hgrid hpow))
    refine ⟨.finite s (rescale c e₀ e) e, ?_⟩
    simp only [Decimal.quantize, if_neg hc, if_neg hdigits, if_neg (not_lt.mpr hfits)]

/-- A number that leaves room for a carry can be quantized. -/
theorem Denotes.quantize_ok {d q : Decimal} {x : ℚ} {e : Int} (hd : Denotes d x)
    (hq : q.exponent? = some e) (h : |x| < 10 ^ (prec - 1 + e : Int)) :
    ∃ r, d.quantize q = .ok r := by
  rw [hd.quantize_ok_iff hq]
  have hgrid : OnGrid e ((10 : ℚ) ^ (prec - 1 + e : Int)) :=
    ⟨10 ^ (prec - 1), by rw [tenPow_add]; norm_num [prec]⟩
  have hle : |roundTo e x| ≤ 10 ^ (prec - 1 + e : Int) := by
    obtain ⟨hlow, hhigh⟩ := abs_lt.mp h
    exact abs_le.mpr ⟨le_roundTo hgrid.neg hlow.le, roundTo_le hgrid hhigh.le⟩
  exact hle.trans_lt (zpow_lt_zpow_right₀ (by norm_num) (by omega))

end Decimal

end Py
