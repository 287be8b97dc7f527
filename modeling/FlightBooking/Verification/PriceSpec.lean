import Mathlib.Algebra.BigOperators.Group.List.Basic
import FlightBooking.Lib.DecimalValue
import FlightBooking.Verification.QuoteSpec
import FlightBooking.Verification.RoundingRule

/-!
# PriceSpec — the numbers behind a quote

`PriceTerms` is what a price is computed from, as rationals. `sum` and `taxes`
are the formula on paper, `sum28` and `taxes28` the same in the order of the code
with every operation rounded to 28 digits. `Priced` says that a breakdown came
out of `quote`; its total is `priorDigit` of `sum28`.
-/

namespace FlightBooking

open Py Decimal Rounding QuoteService

/-! ## The formula -/

structure PriceTerms where
  fare : ℚ
  demand : ℚ
  time : ℚ
  day : ℚ
  surcharges : List ℚ
  rate : ℚ
  fees : ℚ

namespace PriceTerms

variable (p : PriceTerms)

/-- Fare times multipliers. -/
def product : ℚ := p.fare * p.demand * p.time * p.day

/-- What is taxed. -/
def taxable : ℚ := p.product + p.surcharges.sum

def taxes : ℚ := p.rate * p.taxable

/-- The sum before the final rounding. -/
def sum : ℚ := p.taxable * (1 + p.rate) + p.fees

/-! ## The formula in 28 digits -/

/-- A running sum, rounded after each term. -/
def addAll (x : ℚ) (terms : List ℚ) : ℚ := terms.foldl (fun acc a => rnd (acc + a)) x

/-- The factors one after the other, as `_compute_taxes` multiplies. -/
def taxable28 : ℚ := addAll (rnd (rnd (rnd (p.fare * p.demand) * p.time) * p.day)) p.surcharges

def taxes28 : ℚ := rnd (p.taxable28 * p.rate)

/-- The multipliers first, as `total` multiplies. -/
def product28 : ℚ := rnd (p.fare * rnd (rnd (p.demand * p.time) * p.day))

def sum28 : ℚ := rnd (rnd (addAll p.product28 p.surcharges + p.taxes28) + p.fees)

end PriceTerms

/-! ## When nothing is rounded -/

theorem rnd_exact {x bound : ℚ} {e : ℤ} (hgrid : OnGrid e x) (h : |x| ≤ bound)
    (hbound : bound < 10 ^ (prec + e)) : rnd x = x :=
  roundSig_eq_self hgrid (h.trans_lt hbound)

theorem abs_mul_le {x y a b : ℚ} (hx : |x| ≤ a) (hy : |y| ≤ b) : |x * y| ≤ a * b := by
  rw [abs_mul]
  exact mul_le_mul hx hy (abs_nonneg y) ((abs_nonneg x).trans hx)

theorem abs_add_le' {x y a b : ℚ} (hx : |x| ≤ a) (hy : |y| ≤ b) : |x + y| ≤ a + b :=
  (abs_add_le x y).trans (add_le_add hx hy)

theorem abs_sum_le {m : ℚ} {terms : List ℚ} (hterms : ∀ a ∈ terms, |a| ≤ m) :
    |terms.sum| ≤ m * terms.length := by
  induction terms with
  | nil => simp
  | cons a terms ih =>
      have := abs_add_le' (hterms a (by simp)) (ih fun b hb => hterms b (by simp [hb]))
      rw [List.sum_cons, List.length_cons, Nat.cast_succ]
      linarith

/-- Whole amounts of at most `m` each are added up exactly. -/
theorem addAll_exact {x bound m : ℚ} {terms : List ℚ} {e : ℤ} (he : e ≤ 0) (hx : OnGrid e x)
    (hterms : ∀ a ∈ terms, OnGrid 0 a ∧ |a| ≤ m) (hbound : |x| ≤ bound)
    (hroom : bound + m * terms.length < 10 ^ (prec + e)) :
    PriceTerms.addAll x terms = x + terms.sum := by
  induction terms generalizing x bound with
  | nil => simp [PriceTerms.addAll]
  | cons a terms ih =>
      obtain ⟨hgrid, ha⟩ := hterms a (by simp)
      have hm : 0 ≤ m := (abs_nonneg a).trans ha
      have hlen : 0 ≤ m * terms.length := mul_nonneg hm terms.length.cast_nonneg
      rw [List.length_cons, Nat.cast_succ, mul_add, mul_one] at hroom
      have hsum : OnGrid e (x + a) := hx.add (hgrid.mono he)
      have habs : |x + a| ≤ bound + m := abs_add_le' hbound ha
      have hexact : rnd (x + a) = x + a := rnd_exact hsum habs (by linarith)
      have hrest := ih hsum (fun b hb => hterms b (by simp [hb])) habs (by linarith)
      rw [List.sum_cons, ← add_assoc, ← hrest]
      unfold PriceTerms.addAll
      rw [List.foldl_cons, hexact]

/-- The terms come from rows of the tables: multipliers and rate within the bounds of
theirs, whole surcharges, no fees. -/
structure PriceTerms.Rows (p : PriceTerms) : Prop where
  demand : OnGrid (-2) p.demand ∧ 1 ≤ p.demand ∧ p.demand ≤ 5 / 2
  time : OnGrid (-2) p.time ∧ 17 / 20 ≤ p.time ∧ p.time ≤ 2
  day : OnGrid (-2) p.day ∧ 17 / 20 ≤ p.day ∧ p.day ≤ 13 / 10
  rate : OnGrid (-3) p.rate ∧ 3 / 40 ≤ p.rate ∧ p.rate ≤ 3 / 25
  surcharges : ∀ a ∈ p.surcharges, OnGrid 0 a ∧ -5 ≤ a ∧ a ≤ 500
  fees : p.fees = 0

/-- And the fare is in cents. -/
structure PriceTerms.Tabled (p : PriceTerms) : Prop extends p.Rows where
  fare : OnGrid (-2) p.fare

/-- A fare and a number of seats that 28 digits have room for. -/
structure PriceTerms.Moderate (p : PriceTerms) : Prop where
  fare : |p.fare| < 10 ^ 16
  seats : p.surcharges.length ≤ 10 ^ 12

namespace PriceTerms

variable {p : PriceTerms}

theorem Rows.abs_surcharge (h : p.Rows) : ∀ a ∈ p.surcharges, OnGrid 0 a ∧ |a| ≤ 500 := by
  intro a ha
  obtain ⟨hgrid, hlow, hhigh⟩ := h.surcharges a ha
  exact ⟨hgrid, abs_le.mpr ⟨by linarith, hhigh⟩⟩

theorem Rows.abs_demand (h : p.Rows) : |p.demand| ≤ 5 / 2 := by
  obtain ⟨-, hlow, hhigh⟩ := h.demand
  rw [abs_of_nonneg (by linarith)]
  exact hhigh

theorem Rows.abs_time (h : p.Rows) : |p.time| ≤ 2 := by
  obtain ⟨-, hlow, hhigh⟩ := h.time
  rw [abs_of_nonneg (by linarith)]
  exact hhigh

theorem Rows.abs_day (h : p.Rows) : |p.day| ≤ 13 / 10 := by
  obtain ⟨-, hlow, hhigh⟩ := h.day
  rw [abs_of_nonneg (by linarith)]
  exact hhigh

theorem Rows.abs_rate (h : p.Rows) : |p.rate| ≤ 3 / 25 := by
  obtain ⟨-, hlow, hhigh⟩ := h.rate
  rw [abs_of_nonneg (by linarith)]
  exact hhigh

/-- The multipliers have seven digits together. -/
theorem Rows.multiplier_exact (h : p.Rows) :
    rnd (rnd (p.demand * p.time) * p.day) = p.demand * p.time * p.day := by
  have hdt : rnd (p.demand * p.time) = p.demand * p.time :=
    rnd_exact (h.demand.1.mul h.time.1) (abs_mul_le h.abs_demand h.abs_time) (by norm_num [prec])
  rw [hdt]
  exact rnd_exact ((h.demand.1.mul h.time.1).mul h.day.1)
    (abs_mul_le (abs_mul_le h.abs_demand h.abs_time) h.abs_day) (by norm_num [prec])

theorem product_onGrid (h : p.Tabled) : OnGrid (-8) p.product :=
  ((h.fare.mul h.demand.1).mul h.time.1).mul h.day.1

theorem Moderate.abs_product (hm : p.Moderate) (h : p.Tabled) : |p.product| ≤ 65 * 10 ^ 15 := by
  have := abs_mul_le (abs_mul_le (abs_mul_le hm.fare.le h.abs_demand) h.abs_time) h.abs_day
  refine this.trans ?_
  norm_num

/-- Both orders of the factors are exact. -/
theorem Moderate.product28_eq (hm : p.Moderate) (h : p.Tabled) : p.product28 = p.product := by
  have hprod : p.fare * (p.demand * p.time * p.day) = p.product := by
    unfold product
    ring
  unfold product28
  rw [h.multiplier_exact, hprod]
  exact rnd_exact (product_onGrid h) (hm.abs_product h) (by norm_num [prec])

theorem Moderate.factors_eq (hm : p.Moderate) (h : p.Tabled) :
    rnd (rnd (rnd (p.fare * p.demand) * p.time) * p.day) = p.product := by
  have hfd := abs_mul_le hm.fare.le h.abs_demand
  have hfdt := abs_mul_le hfd h.abs_time
  rw [rnd_exact (h.fare.mul h.demand.1) hfd (by norm_num [prec]),
    rnd_exact ((h.fare.mul h.demand.1).mul h.time.1) hfdt (by norm_num [prec])]
  exact rnd_exact (product_onGrid h) (hm.abs_product h) (by norm_num [prec])

theorem Moderate.room (hm : p.Moderate) :
    65 * 10 ^ 15 + 500 * (p.surcharges.length : ℚ) ≤ 66 * 10 ^ 15 := by
  have : (p.surcharges.length : ℚ) ≤ 10 ^ 12 := by exact_mod_cast hm.seats
  linarith

theorem Moderate.addAll_product (hm : p.Moderate) (h : p.Tabled) :
    addAll p.product p.surcharges = p.taxable := by
  refine addAll_exact (by norm_num) (product_onGrid h) h.abs_surcharge (hm.abs_product h) ?_
  have := hm.room
  norm_num [prec] at this ⊢
  linarith

theorem Tabled.taxable_onGrid (h : p.Tabled) : OnGrid (-8) p.taxable := by
  have hsum : ∀ terms : List ℚ, (∀ a ∈ terms, OnGrid 0 a) → OnGrid 0 terms.sum := by
    intro terms hterms
    induction terms with
    | nil => exact OnGrid.zero 0
    | cons a terms ih =>
        rw [List.sum_cons]
        exact (hterms a (by simp)).add (ih fun b hb => hterms b (by simp [hb]))
  exact (product_onGrid h).add ((hsum _ fun a ha => (h.surcharges a ha).1).mono (by norm_num))

theorem Moderate.abs_taxable (hm : p.Moderate) (h : p.Tabled) : |p.taxable| ≤ 66 * 10 ^ 15 :=
  (abs_add_le' (hm.abs_product h) (abs_sum_le fun a ha => (h.abs_surcharge a ha).2)).trans hm.room

/-- **The taxes are exact.** -/
theorem Moderate.taxes28_eq (hm : p.Moderate) (h : p.Tabled) : p.taxes28 = p.taxes := by
  have habs := abs_mul_le (hm.abs_taxable h) h.abs_rate
  unfold taxes28 taxable28 taxes
  rw [hm.factors_eq h, hm.addAll_product h, mul_comm p.rate]
  exact rnd_exact (h.taxable_onGrid.mul h.rate.1) habs (by norm_num [prec])

/-- **And so is the sum.** -/
theorem Moderate.sum28_eq (hm : p.Moderate) (h : p.Tabled) : p.sum28 = p.sum := by
  have hsum : p.taxable + p.taxes = p.sum := by
    unfold taxes sum
    rw [h.fees]
    ring
  have hgrid : OnGrid (-11) p.sum := by
    rw [← hsum]
    exact (h.taxable_onGrid.mono (by norm_num)).add (h.rate.1.mul h.taxable_onGrid)
  have habs : |p.sum| ≤ 74 * 10 ^ 15 := by
    rw [← hsum]
    have := abs_add_le' (hm.abs_taxable h) (abs_mul_le h.abs_rate (hm.abs_taxable h))
    refine this.trans ?_
    norm_num
  have hexact : rnd p.sum = p.sum := rnd_exact hgrid habs (by norm_num [prec])
  unfold sum28
  rw [hm.product28_eq h, hm.addAll_product h, hm.taxes28_eq h, hsum, h.fees, add_zero, hexact,
    hexact]

end PriceTerms

/-! ## The tables -/

theorem toRat_hundredths (n : Nat) : (Pricing.hundredths n).toRat = n / 100 := by
  norm_num [Pricing.hundredths, toRat, finiteValue]
  ring

theorem denotes_hundredths (n : Nat) : Denotes (Pricing.hundredths n) (n / 100) := by
  rw [← toRat_hundredths]
  exact denotes_finite ..

theorem demandLookup_mem {occ d : Decimal} {table : List (Decimal × Decimal)}
    (h : Pricing.demandLookup occ table = .ok d) : ∃ row ∈ table, row.2 = d := by
  induction table with
  | nil => cases h
  | cons row table ih =>
      obtain ⟨upper, multiplier⟩ := row
      unfold Pricing.demandLookup at h
      cases hlt : occ.lt upper with
      | error e =>
          rw [hlt] at h
          cases h
      | ok below =>
          rw [hlt] at h
          cases below with
          | true =>
              cases h
              exact ⟨_, List.mem_cons_self, rfl⟩
          | false =>
              obtain ⟨row, hrow, hd⟩ := ih h
              exact ⟨row, List.mem_cons_of_mem _ hrow, hd⟩

theorem timeLookup_mem {days : Int} {t : Decimal} {table : List (Int × Decimal)}
    (h : Pricing.timeLookup days table = .ok t) : ∃ row ∈ table, row.2 = t := by
  induction table with
  | nil => cases h
  | cons row table ih =>
      unfold Pricing.timeLookup at h
      split at h
      · cases h
        exact ⟨_, List.mem_cons_self, rfl⟩
      · obtain ⟨row, hrow, ht⟩ := ih h
        exact ⟨row, List.mem_cons_of_mem _ hrow, ht⟩

/-- Every multiplier of a table is a number of hundredths, between the least and
the greatest of the table. -/
theorem hundredths_bounds {n low high : Nat} (hlow : low ≤ n) (hhigh : n ≤ high) :
    OnGrid (-2) (Pricing.hundredths n).toRat ∧ (low / 100 : ℚ) ≤ (Pricing.hundredths n).toRat ∧
      (Pricing.hundredths n).toRat ≤ high / 100 := by
  refine ⟨finiteValue_onGrid .., ?_, ?_⟩
  · rw [toRat_hundredths]
    exact div_le_div_of_nonneg_right (by exact_mod_cast hlow) (by norm_num)
  · rw [toRat_hundredths]
    exact div_le_div_of_nonneg_right (by exact_mod_cast hhigh) (by norm_num)

/-- A row of a table whose multipliers are hundredths has one within their bounds. -/
theorem hundredths_of_mem {α : Type} {table : List (α × Decimal)} {low high : Nat}
    (multipliers : List Nat)
    (htable : table.map Prod.snd = multipliers.map Pricing.hundredths)
    (hbounds : ∀ n ∈ multipliers, low ≤ n ∧ n ≤ high) {row : α × Decimal} (hrow : row ∈ table) :
    ∃ n, row.2 = Pricing.hundredths n ∧ low ≤ n ∧ n ≤ high := by
  have hmem : row.2 ∈ table.map Prod.snd := List.mem_map_of_mem hrow
  rw [htable] at hmem
  obtain ⟨n, hn, heq⟩ := List.mem_map.mp hmem
  exact ⟨n, heq.symm, hbounds n hn⟩

theorem demandMultiplier_mem {occ d : Decimal} (h : Pricing.demandMultiplier occ = .ok d) :
    ∃ n, d = Pricing.hundredths n ∧ 100 ≤ n ∧ n ≤ 250 := by
  obtain ⟨row, hrow, rfl⟩ := demandLookup_mem h
  exact hundredths_of_mem [100, 115, 135, 160, 200, 250] rfl (by decide) hrow

theorem timeMultiplier_mem {days : Int} {t : Decimal}
    (h : Pricing.timeMultiplier days = .ok t) :
    ∃ n, t = Pricing.hundredths n ∧ 85 ≤ n ∧ n ≤ 200 := by
  obtain ⟨row, hrow, rfl⟩ := timeLookup_mem h
  exact hundredths_of_mem [85, 90, 100, 120, 150, 200] rfl (by decide) hrow

theorem dayMultiplier_mem (dow : DayOfWeek) :
    ∃ n, Pricing.dayMultiplier dow = Pricing.hundredths n ∧ 85 ≤ n ∧ n ≤ 130 := by
  cases dow <;> exact ⟨_, rfl, by decide, by decide⟩

theorem taxRates_bounds (kind : RouteKind) :
    OnGrid (-3) (Pricing.taxRates kind).toRat ∧ 3 / 40 ≤ (Pricing.taxRates kind).toRat ∧
      (Pricing.taxRates kind).toRat ≤ 3 / 25 := by
  cases kind with
  | domestic =>
      refine ⟨finiteValue_onGrid .., ?_, ?_⟩ <;> norm_num [Pricing.taxRates, toRat, finiteValue]
  | international =>
      refine ⟨(finiteValue_onGrid false 12 (-2)).mono (by norm_num), ?_, ?_⟩ <;>
        norm_num [Pricing.taxRates, toRat, finiteValue]

theorem denotes_whole (n : Int) : Denotes (Money.whole n).amount n := by
  refine ⟨_, _, _, rfl, ?_⟩
  rw [show n.natAbs * 100 = (n * 100).natAbs by rw [Int.natAbs_mul]; rfl,
    show decide (n < 0) = decide (n * 100 < 0) from decide_eq_decide.mpr (by omega),
    finiteValue_natAbs]
  push_cast
  norm_num
  ring

/-- Every surcharge is a whole number of dollars, from -5 to 500. -/
theorem lookupSeatSurcharge_whole (seatClass : SeatClass) (kind : SeatKind) :
    ∃ n : Int, Pricing.lookupSeatSurcharge seatClass kind = Money.whole n ∧ -5 ≤ n ∧ n ≤ 500 := by
  cases seatClass <;> cases kind <;> exact ⟨_, rfl, by decide, by decide⟩

/-! ## A breakdown as terms -/

/-- The sum inside `total`, before it is rounded. -/
def PriceBreakdown.rawTotal (b : PriceBreakdown) : Except Exn Decimal := do
  let currency := b.baseFare.currency
  let demandTime ← Exn.lift (b.demandMultiplier.mul b.timeMultiplier)
  let multiplier ← Exn.lift (demandTime.mul b.dayMultiplier)
  let raw ← Exn.lift (b.baseFare.amount.mul multiplier)
  let raw ← b.seatSurcharges.foldlM
    (fun raw line => addMoney "surcharge" currency raw line.amount) raw
  let raw ← addMoney "taxes" currency raw b.taxes
  addMoney "fees" currency raw b.fees

theorem PriceBreakdown.total_eq (b : PriceBreakdown) :
    b.total = do
      let raw ← b.rawTotal
      let rounded ← roundHalfEvenToPriorDigit raw
      let amount ← Exn.lift (rounded.quantize moneyQuant)
      return ⟨amount, b.baseFare.currency⟩ := by
  unfold PriceBreakdown.total PriceBreakdown.rawTotal
  simp only [bind_assoc]

/-- The terms a breakdown shows, with the rate its taxes were computed at. -/
def PriceBreakdown.terms (b : PriceBreakdown) (rate : ℚ) : PriceTerms where
  fare := b.baseFare.amount.toRat
  demand := b.demandMultiplier.toRat
  time := b.timeMultiplier.toRat
  day := b.dayMultiplier.toRat
  surcharges := b.seatSurcharges.map fun line => line.amount.amount.toRat
  rate
  fees := b.fees.amount.toRat

section Sums

variable {a b d : Decimal} {x y : ℚ}

theorem addMoney_denotes {what currency : String} {m : Money} (ha : Denotes a x)
    (hm : Denotes m.amount y) (h : addMoney what currency a m = .ok d) :
    Denotes d (rnd (x + y)) := by
  unfold addMoney at h
  split at h
  · cases h
  · exact lift_add_denotes ha hm h

end Sums

/-- The lines have amounts that are numbers. -/
def Lines (lines : List SeatSurchargeLine) : Prop :=
  ∀ line ∈ lines, IsFinite line.amount.amount

/-- A fold that adds the lines one by one adds their values. -/
theorem foldlM_denotes {f : Decimal → SeatSurchargeLine → Except Exn Decimal}
    (hf : ∀ {a d : Decimal} {x : ℚ} {line : SeatSurchargeLine}, Denotes a x →
      IsFinite line.amount.amount → f a line = .ok d →
      Denotes d (rnd (x + line.amount.amount.toRat)))
    {lines : List SeatSurchargeLine} (hlines : Lines lines) {a d : Decimal} {x : ℚ}
    (ha : Denotes a x) (h : lines.foldlM f a = .ok d) :
    Denotes d (PriceTerms.addAll x (lines.map fun line => line.amount.amount.toRat)) := by
  induction lines generalizing a x with
  | nil =>
      cases h
      exact ha
  | cons line lines ih =>
      rw [List.foldlM_cons] at h
      obtain ⟨a', ha', hrest⟩ := bind_eq_ok h
      have hstep := hf ha (hlines line (by simp)) ha'
      exact ih (fun l hl => hlines l (by simp [hl])) hstep hrest

/-- A breakdown all of whose amounts are numbers. -/
structure PriceBreakdown.Numeric (b : PriceBreakdown) : Prop where
  fare : IsFinite b.baseFare.amount
  demand : IsFinite b.demandMultiplier
  time : IsFinite b.timeMultiplier
  day : IsFinite b.dayMultiplier
  lines : Lines b.seatSurcharges
  taxes : IsFinite b.taxes.amount
  fees : IsFinite b.fees.amount

theorem PriceBreakdown.Numeric.rawTotal_denotes {b : PriceBreakdown} (hb : b.Numeric)
    {raw : Decimal} (h : b.rawTotal = .ok raw) {rate : ℚ}
    (htaxes : b.taxes.amount.toRat = (b.terms rate).taxes28) :
    Denotes raw (b.terms rate).sum28 := by
  unfold PriceBreakdown.rawTotal at h
  obtain ⟨demandTime, hdt, h⟩ := bind_eq_ok h
  obtain ⟨multiplier, hm, h⟩ := bind_eq_ok h
  obtain ⟨product, hp, h⟩ := bind_eq_ok h
  obtain ⟨surcharged, hs, h⟩ := bind_eq_ok h
  obtain ⟨taxed, ht, h⟩ := bind_eq_ok h
  have h1 := lift_mul_denotes hb.fare
    (lift_mul_denotes (lift_mul_denotes hb.demand hb.time hdt) hb.day hm) hp
  have h2 := foldlM_denotes (fun ha hl h => addMoney_denotes ha hl h) hb.lines h1 hs
  have h3 := addMoney_denotes (addMoney_denotes h2 hb.taxes ht) hb.fees h
  rw [htaxes] at h3
  exact h3

/-- The total of a breakdown with a total is the rule applied to the sum. -/
theorem PriceBreakdown.Numeric.total_denotes {b : PriceBreakdown} (hb : b.Numeric) {total : Money}
    (h : b.total = .ok total) {rate : ℚ}
    (htaxes : b.taxes.amount.toRat = (b.terms rate).taxes28) :
    (∃ raw, b.rawTotal = .ok raw ∧ Denotes raw (b.terms rate).sum28) ∧
      ∃ s c, total.amount = .finite s c (-2) ∧
        finiteValue s c (-2) = priorDigit (b.terms rate).sum28 := by
  rw [PriceBreakdown.total_eq] at h
  obtain ⟨raw, hraw, h⟩ := bind_eq_ok h
  obtain ⟨rounded, hr, h⟩ := bind_eq_ok h
  obtain ⟨amount, ha, h⟩ := bind_eq_ok h
  have hsum := hb.rawTotal_denotes hraw htaxes
  have hidem : rnd (b.terms rate).sum28 = (b.terms rate).sum28 := roundSig_idem (by decide) _
  have hrounded := roundHalfEvenToPriorDigit_denotes hsum hidem hr
  obtain ⟨s, c, rfl, hvalue⟩ :=
    hrounded.quantize (q := moneyQuant) (e := -2) rfl (Exn.lift_eq_ok ha)
  rw [roundTo_eq_self (priorDigit_onGrid _)] at hvalue
  cases h
  exact ⟨⟨raw, hraw, hsum⟩, s, c, rfl, hvalue⟩

/-! ## A breakdown out of `quote` -/

theorem lookupFlatFees_eq (flightId : String) :
    Pricing.lookupFlatFees flightId = Money.whole 0 := by
  simp [Pricing.lookupFlatFees, Pricing.feesTable]

/-- How `appraise` came to its result. -/
structure Appraised (c : Container) (request : QuoteRequest) (flight : Flight)
    (a : Appraisal) : Prop where
  found : c.flightRepo.get request.flightId = some flight
  ahead : 0 ≤ a.daysBefore
  days : a.daysBefore = flight.departureAt.date - c.clock.date
  dow : a.departureDow = DayOfWeek.ofWeekday flight.departureAt.weekday
  occupancy : occupancyPct c.bookingRepo flight = .ok a.occupancyPct
  taxed : computeTaxes flight a.occupancyPct a.daysBefore a.departureDow
    (seatSurcharges flight request.seatIds) = .ok a.breakdown.taxes
  priced : Pricing.price {
    baseFare := flight.baseFare
    occupancyPct := a.occupancyPct
    daysBeforeDeparture := a.daysBefore
    departureDow := a.departureDow
    surcharges := seatSurcharges flight request.seatIds
    taxes := a.breakdown.taxes
    fees := Pricing.lookupFlatFees flight.id.value } = .ok a.breakdown

theorem appraise_appraised {c : Container} {request : QuoteRequest} {a : Appraisal}
    (h : appraise c request = .ok a) : ∃ flight, Appraised c request flight a := by
  unfold appraise at h
  cases hf : c.flightRepo.get request.flightId with
  | none =>
      rw [hf] at h
      cases h
  | some flight =>
  rw [hf] at h
  dsimp only at h
  split at h
  · cases h
  next hd =>
  obtain ⟨occ, ho, h⟩ := bind_eq_ok h
  obtain ⟨taxes, ht, h⟩ := bind_eq_ok h
  obtain ⟨b, hb, h⟩ := bind_eq_ok h
  cases h
  have htaxes : b.taxes = taxes := by
    obtain ⟨demand, -, hb⟩ := bind_eq_ok hb
    obtain ⟨time, -, hb⟩ := bind_eq_ok hb
    cases hb
    rfl
  rw [← htaxes] at ht hb
  exact ⟨flight, hf, not_lt.mp hd, rfl, rfl, ho, ht, hb⟩

/-- How a breakdown was come by, whether it has a total or not. -/
structure Costed (c : Container) (request : QuoteRequest) (flight : Flight)
    (b : PriceBreakdown) : Prop where
  found : c.flightRepo.get request.flightId = some flight
  ahead : 0 ≤ flight.departureAt.date - c.clock.date
  fare : b.baseFare = flight.baseFare
  lines : b.seatSurcharges = seatSurcharges flight request.seatIds
  demand : ∃ occ, occupancyPct c.bookingRepo flight = .ok occ ∧
    Pricing.demandMultiplier occ = .ok b.demandMultiplier ∧
    computeTaxes flight occ (flight.departureAt.date - c.clock.date)
      (DayOfWeek.ofWeekday flight.departureAt.weekday) b.seatSurcharges = .ok b.taxes
  time : Pricing.timeMultiplier (flight.departureAt.date - c.clock.date) = .ok b.timeMultiplier
  day : b.dayMultiplier =
    Pricing.dayMultiplier (DayOfWeek.ofWeekday flight.departureAt.weekday)
  fees : b.fees = Money.whole 0

/-- How `quote` came to a breakdown and its total. -/
structure Priced (c : Container) (request : QuoteRequest) (flight : Flight)
    (b : PriceBreakdown) (total : Money) : Prop extends Costed c request flight b where
  total : b.total = .ok total

theorem appraise_costed {c : Container} {request : QuoteRequest} {a : Appraisal}
    (h : appraise c request = .ok a) : ∃ flight, Costed c request flight a.breakdown := by
  obtain ⟨flight, hf, hahead, hdays, hdow, hocc, htaxed, hpriced⟩ := appraise_appraised h
  rw [hdays] at hahead
  rw [hdays, hdow] at htaxed hpriced
  obtain ⟨demand, hdemand, hb⟩ := bind_eq_ok hpriced
  obtain ⟨time, htime, hb⟩ := bind_eq_ok hb
  have hbreakdown := Except.ok.inj hb
  rw [← hbreakdown] at htaxed ⊢
  exact ⟨flight, hf, hahead, rfl, rfl, ⟨a.occupancyPct, hocc, hdemand, htaxed⟩, htime, rfl,
    lookupFlatFees_eq flight.id.value⟩

theorem appraise_priced {c : Container} {request : QuoteRequest} {a : Appraisal} {total : Money}
    (h : appraise c request = .ok a) (htotal : a.breakdown.total = .ok total) :
    ∃ flight, Priced c request flight a.breakdown total := by
  obtain ⟨flight, hcosted⟩ := appraise_costed h
  exact ⟨flight, hcosted, htotal⟩

/-- The value of a multiplier, zero if there is none. -/
def valueOf (x : Except Exn Decimal) : ℚ :=
  match x with
  | .ok d => d.toRat
  | .error _ => 0

/-- The terms of a request: the fare, the rows that occupancy, clock and departure
select, the surcharges of the seats. -/
def termsOf (c : Container) (flight : Flight) (seatIds : List SeatId) : PriceTerms where
  fare := flight.baseFare.amount.toRat
  demand := valueOf (occupancyPct c.bookingRepo flight >>= Pricing.demandMultiplier)
  time := valueOf (Pricing.timeMultiplier (flight.departureAt.date - c.clock.date))
  day := (Pricing.dayMultiplier (DayOfWeek.ofWeekday flight.departureAt.weekday)).toRat
  surcharges := (seatSurcharges flight seatIds).map fun line => line.amount.amount.toRat
  rate := (Pricing.taxRates flight.routeKind).toRat
  fees := (Pricing.lookupFlatFees flight.id.value).amount.toRat

/-- A quote that is returned has been priced, total and all. -/
theorem quote_priced {c : Container} {env : Collaborators} {request : QuoteRequest} {q : Quote}
    (h : ((quote env request).run c).1 = .ok q) :
    ∃ flight total, Priced c request flight q.priceBreakdown total := by
  have hexit := quote_exit env request c
  rw [h] at hexit
  generalize ((quote env request).run c).2 = c' at hexit
  cases hexit with
  | @created a session sessions rest id event ha hs hid hrange hev hlog =>
      obtain ⟨total, ht, -⟩ := eventOf_ok hev
      obtain ⟨flight, hp⟩ := appraise_priced ha ht
      exact ⟨flight, total, hp⟩

/-- A quote with the event it wrote, the flight it priced and what it priced it with. -/
structure Recorded (c : Container) (request : QuoteRequest) (flight : Flight) (q : Quote)
    (event : QuoteCreated) (a : Appraisal) (total : Money) : Prop
    extends Appraised c request flight a where
  breakdown : q.priceBreakdown = a.breakdown
  totalled : a.breakdown.total = .ok total
  baseFare : event.baseFare = flight.baseFare.amount.str
  occupancyPct : event.occupancyPct = a.occupancyPct.str
  daysBefore : event.daysBeforeDeparture = a.daysBefore
  departureDow : event.departureDow = a.departureDow.name
  total : event.total = total.amount.str

/-- `event` is what the quote `q` wrote to the log. -/
def Emits (c : Container) (env : Collaborators) (request : QuoteRequest) (q : Quote)
    (event : QuoteCreated) : Prop :=
  ((quote env request).run c).1 = .ok q ∧
    ((quote env request).run c).2.audit = c.audit ++ [.quoteCreated event]

/-- A quote that is returned has written its event. -/
theorem emits_of_quote {c : Container} {env : Collaborators} {request : QuoteRequest} {q : Quote}
    (h : ((quote env request).run c).1 = .ok q) : ∃ event, Emits c env request q event := by
  have hexit := quote_exit env request c
  rw [h] at hexit
  generalize hc : ((quote env request).run c).2 = c' at hexit
  cases hexit with
  | @created a session sessions rest id event ha hs hid hrange hev hwrite =>
      exact ⟨event, h, by rw [hc]⟩

theorem Emits.recorded {c : Container} {env : Collaborators} {request : QuoteRequest} {q : Quote}
    {event : QuoteCreated} (h : Emits c env request q event) :
    ∃ flight a total, Recorded c request flight q event a total := by
  obtain ⟨hq, hlog⟩ := h
  have hexit := quote_exit env request c
  rw [hq] at hexit
  generalize ((quote env request).run c).2 = c' at hexit hlog
  cases hexit with
  | @created a session sessions rest id event' ha hs hid hrange hev hwrite =>
      have hevent : event' = event := by simpa [afterQuote] using hlog
      subst hevent
      obtain ⟨flight, happ⟩ := appraise_appraised ha
      obtain ⟨total, htotal, hev⟩ := bind_eq_ok hev
      obtain rfl := Except.ok.inj hev
      have hfare : a.breakdown.baseFare = flight.baseFare := by
        obtain ⟨demand, -, hb⟩ := bind_eq_ok happ.priced
        obtain ⟨time, -, hb⟩ := bind_eq_ok hb
        rw [← Except.ok.inj hb]
      exact ⟨flight, a, total, happ, rfl, htotal, congrArg (fun m => m.amount.str) hfare, rfl, rfl,
        rfl, rfl⟩

theorem denotes_taxRates (kind : RouteKind) : IsFinite (Pricing.taxRates kind) := by
  cases kind <;> exact denotes_finite ..

/-- The lines of a quote are whole amounts from the table. -/
theorem seatSurcharges_whole (flight : Flight) (seatIds : List SeatId) :
    ∀ line ∈ seatSurcharges flight seatIds,
      ∃ n : Int, line.amount = Money.whole n ∧ -5 ≤ n ∧ n ≤ 500 := by
  intro line hline
  obtain ⟨seatId, -, hseat⟩ := List.mem_filterMap.mp hline
  obtain ⟨seat, -, rfl⟩ := Option.map_eq_some_iff.mp hseat
  exact lookupSeatSurcharge_whole seat.seatClass seat.kind

theorem seatSurcharges_numeric (flight : Flight) (seatIds : List SeatId) :
    Lines (seatSurcharges flight seatIds) := by
  intro line hline
  obtain ⟨n, hn, -⟩ := seatSurcharges_whole flight seatIds line hline
  rw [hn]
  exact (denotes_whole n).isFinite

theorem seatSurcharges_length_le (flight : Flight) (seatIds : List SeatId) :
    (seatSurcharges flight seatIds).length ≤ seatIds.length := List.length_filterMap_le _ _

/-- The rows are within the bounds of their tables. -/
theorem termsOf_rows {c : Container} {flight : Flight} {occ demand time : Decimal}
    (hocc : occupancyPct c.bookingRepo flight = .ok occ)
    (hdemand : Pricing.demandMultiplier occ = .ok demand)
    (htime : Pricing.timeMultiplier (flight.departureAt.date - c.clock.date) = .ok time)
    (seatIds : List SeatId) : (termsOf c flight seatIds).Rows where
  demand := by
    obtain ⟨n, hn, hlow, hhigh⟩ := demandMultiplier_mem hdemand
    have hbind : (occupancyPct c.bookingRepo flight >>= Pricing.demandMultiplier) =
        .ok demand := by
      rw [hocc]
      exact hdemand
    have := hundredths_bounds hlow hhigh
    rw [← hn] at this
    rw [termsOf, hbind]
    exact ⟨this.1, this.2.1.trans' (by norm_num), this.2.2.trans (by norm_num)⟩
  time := by
    obtain ⟨n, hn, hlow, hhigh⟩ := timeMultiplier_mem htime
    have := hundredths_bounds hlow hhigh
    rw [← hn] at this
    rw [termsOf, htime]
    exact ⟨this.1, this.2.1.trans' (by norm_num), this.2.2.trans (by norm_num)⟩
  day := by
    obtain ⟨n, hn, hlow, hhigh⟩ :=
      dayMultiplier_mem (DayOfWeek.ofWeekday flight.departureAt.weekday)
    have := hundredths_bounds hlow hhigh
    rw [← hn] at this
    exact ⟨this.1, this.2.1.trans' (by norm_num), this.2.2.trans (by norm_num)⟩
  rate := taxRates_bounds flight.routeKind
  surcharges := by
    intro a ha
    obtain ⟨line, hline, rfl⟩ := List.mem_map.mp ha
    obtain ⟨n, hn, hlow, hhigh⟩ := seatSurcharges_whole flight seatIds line hline
    rw [hn, (denotes_whole n).toRat_eq]
    exact ⟨⟨n, by simp⟩, by exact_mod_cast hlow, by exact_mod_cast hhigh⟩
  fees := by
    rw [termsOf, lookupFlatFees_eq]
    exact_mod_cast (denotes_whole 0).toRat_eq

namespace Costed

variable {c : Container} {request : QuoteRequest} {flight : Flight} {b : PriceBreakdown}

theorem seatLines (h : Costed c request flight b) : Lines b.seatSurcharges := by
  rw [h.lines]
  exact seatSurcharges_numeric flight request.seatIds

/-- The tax path, operation by operation. -/
theorem taxes_denotes (h : Costed c request flight b)
    (hfare : IsFinite flight.baseFare.amount) :
    Denotes b.taxes.amount (b.terms (Pricing.taxRates flight.routeKind).toRat).taxes28 := by
  obtain ⟨occ, -, hdemand, htaxes⟩ := h.demand
  obtain ⟨n, hn, -⟩ := demandMultiplier_mem hdemand
  obtain ⟨m, hm, -⟩ := timeMultiplier_mem h.time
  obtain ⟨k, hk, -⟩ := dayMultiplier_mem (DayOfWeek.ofWeekday flight.departureAt.weekday)
  unfold computeTaxes at htaxes
  obtain ⟨demand, hd, hrest⟩ := bind_eq_ok htaxes
  obtain ⟨time, ht, hrest⟩ := bind_eq_ok hrest
  obtain rfl : demand = b.demandMultiplier := Except.ok.inj (hd.symm.trans hdemand)
  obtain rfl : time = b.timeMultiplier := Except.ok.inj (ht.symm.trans h.time)
  obtain ⟨t₁, h₁, hrest⟩ := bind_eq_ok hrest
  obtain ⟨t₂, h₂, hrest⟩ := bind_eq_ok hrest
  obtain ⟨t₃, h₃, hrest⟩ := bind_eq_ok hrest
  obtain ⟨t₄, h₄, hrest⟩ := bind_eq_ok hrest
  obtain ⟨amount, h₅, hrest⟩ := bind_eq_ok hrest
  have htax : b.taxes.amount = amount := congrArg Money.amount (Except.ok.inj hrest).symm
  have hdemand' : IsFinite b.demandMultiplier := hn ▸ (denotes_hundredths n).isFinite
  have htime' : IsFinite b.timeMultiplier := hm ▸ (denotes_hundredths m).isFinite
  have hday' : IsFinite (Pricing.dayMultiplier (DayOfWeek.ofWeekday flight.departureAt.weekday)) :=
    hk ▸ (denotes_hundredths k).isFinite
  have hfactors := lift_mul_denotes
    (lift_mul_denotes (lift_mul_denotes hfare hdemand' h₁) htime' h₂) hday' h₃
  have hbase := foldlM_denotes (fun ha hl h => lift_add_denotes ha hl h) h.seatLines hfactors h₄
  have hresult := lift_mul_denotes hbase (denotes_taxRates flight.routeKind) h₅
  unfold PriceTerms.taxes28 PriceTerms.taxable28 PriceBreakdown.terms
  rw [htax, h.fare, h.day]
  exact hresult

theorem numeric (h : Costed c request flight b)
    (hfare : IsFinite flight.baseFare.amount) : b.Numeric where
  fare := h.fare ▸ hfare
  demand := by
    obtain ⟨occ, -, hdemand, -⟩ := h.demand
    obtain ⟨n, hn, -⟩ := demandMultiplier_mem hdemand
    exact hn ▸ (denotes_hundredths n).isFinite
  time := by
    obtain ⟨n, hn, -⟩ := timeMultiplier_mem h.time
    exact hn ▸ (denotes_hundredths n).isFinite
  day := by
    obtain ⟨n, hn, -⟩ := dayMultiplier_mem (DayOfWeek.ofWeekday flight.departureAt.weekday)
    rw [h.day, hn]
    exact (denotes_hundredths n).isFinite
  lines := h.seatLines
  taxes := (h.taxes_denotes hfare).isFinite
  fees := by
    rw [h.fees]
    exact (denotes_whole 0).isFinite

/-- The breakdown shows the terms of the request. -/
theorem terms_eq (h : Costed c request flight b) :
    b.terms (Pricing.taxRates flight.routeKind).toRat = termsOf c flight request.seatIds := by
  obtain ⟨occ, hocc, hdemand, -⟩ := h.demand
  have hbind : (occupancyPct c.bookingRepo flight >>= Pricing.demandMultiplier) =
      .ok b.demandMultiplier := by
    rw [hocc]
    exact hdemand
  unfold PriceBreakdown.terms termsOf
  rw [hbind, h.time, h.fare, h.day, h.lines, h.fees, lookupFlatFees_eq]
  rfl

/-- And they come from rows of the tables. -/
theorem rows (h : Costed c request flight b) :
    (b.terms (Pricing.taxRates flight.routeKind).toRat).Rows := by
  obtain ⟨occ, hocc, hdemand, -⟩ := h.demand
  rw [h.terms_eq]
  exact termsOf_rows hocc hdemand h.time request.seatIds

end Costed

namespace Priced

variable {c : Container} {request : QuoteRequest} {flight : Flight} {b : PriceBreakdown}
  {total : Money}

/-- The terms of the quote, at the tax rate of the route. -/
abbrev terms (_ : Priced c request flight b total) : PriceTerms :=
  b.terms (Pricing.taxRates flight.routeKind).toRat

theorem taxes_denotes (h : Priced c request flight b total)
    (hfare : IsFinite flight.baseFare.amount) : Denotes b.taxes.amount h.terms.taxes28 :=
  h.toCosted.taxes_denotes hfare

theorem numeric (h : Priced c request flight b total)
    (hfare : IsFinite flight.baseFare.amount) : b.Numeric := h.toCosted.numeric hfare

/-- The sum inside the total, and the total. -/
theorem total_denotes (h : Priced c request flight b total)
    (hfare : IsFinite flight.baseFare.amount) :
    (∃ raw, b.rawTotal = .ok raw ∧ Denotes raw h.terms.sum28) ∧
      ∃ s c, total.amount = .finite s c (-2) ∧
        finiteValue s c (-2) = priorDigit h.terms.sum28 :=
  (h.numeric hfare).total_denotes h.total (h.taxes_denotes hfare).toRat_eq

theorem total_value (h : Priced c request flight b total)
    (hfare : IsFinite flight.baseFare.amount) :
    Denotes total.amount (priorDigit h.terms.sum28) := by
  obtain ⟨-, s, c, htotal, hvalue⟩ := h.total_denotes hfare
  rw [htotal, ← hvalue]
  exact denotes_finite ..

theorem fees_toRat (h : Priced c request flight b total) : b.fees.amount.toRat = 0 := by
  rw [h.fees]
  exact_mod_cast (denotes_whole 0).toRat_eq

/-- The terms of a quote for a fare in cents come from the tables. -/
theorem tabled (h : Priced c request flight b total)
    (hfare : OnGrid (-2) flight.baseFare.amount.toRat) : h.terms.Tabled where
  toRows := h.toCosted.rows
  fare := by
    rw [terms, PriceBreakdown.terms, h.fare]
    exact hfare

theorem moderate (h : Priced c request flight b total)
    (hfare : |flight.baseFare.amount.toRat| < 10 ^ 16)
    (hseats : request.seatIds.length ≤ 10 ^ 12) : h.terms.Moderate where
  fare := by
    rw [terms, PriceBreakdown.terms, h.fare]
    exact hfare
  seats := by
    rw [terms, PriceBreakdown.terms, List.length_map, h.lines]
    exact (seatSurcharges_length_le flight request.seatIds).trans hseats

/-- The breakdown shows the terms of the request. -/
theorem terms_eq (h : Priced c request flight b total) :
    h.terms = termsOf c flight request.seatIds := h.toCosted.terms_eq

end Priced

/-! ## A fare built by `Money.of` -/

/-- A fare in dollars, built by `Money.of`, of the value `x`. -/
structure Money.IsFare (fare : Money) (x : ℚ) : Prop where
  built : ∃ v, Money.of v = .ok fare
  value : Denotes fare.amount x

theorem Money.IsFare.onGrid {fare : Money} {x : ℚ} (h : fare.IsFare x) :
    OnGrid (-2) fare.amount.toRat := by
  obtain ⟨v, hv⟩ := h.built
  rcases (money_of_cents hv).2 with hnan | hcents
  · obtain ⟨s, c, e, hd, -⟩ := h.value
    rw [hnan] at hd
    cases hd
  · exact hcents.2

/-- A test flight without seats, for `cents` hundredths of a dollar. -/
def centsFlight (cents : Nat) : Flight :=
  { seededFlight "FL-LAX-NYC-0800" [] with baseFare := ⟨.finite false cents (-2), "USD"⟩ }

/-- A quote of no seats: of the fare, the multipliers and the taxes. -/
def noSeats : QuoteRequest where
  flightId := ⟨"FL-LAX-NYC-0800"⟩
  seatIds := []
  passengers := 1

end FlightBooking
