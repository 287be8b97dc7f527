import FlightBooking.Verification.DemandBuckets

/-!
# QuoteOutcome — which quotes come out

A price is found for every flight that is there and not gone by date, unless its
fare is a signaling NaN or a product on the way to the taxes overflows: a quiet NaN
and an infinity pass through every operation, and next to a product that large the
surcharges are rounded away. The total is another matter: it has a currency to agree
with and 28 digits to fit into.
-/

namespace FlightBooking

open Py Decimal Rounding QuoteService

/-! ## Amounts that pass through -/

/-- A quiet NaN or an infinity. -/
inductive Special : Decimal → Prop
  | nan : Special (.nan false)
  | infinity (s : Bool) : Special (.infinity s)

namespace Special

variable {a : Decimal}

theorem mul (h : Special a) {n : Nat} (hn : 0 < n) (e : Int) :
    a.mul (.finite false n e) = .ok a := by
  cases h with
  | nan => rfl
  | infinity s => simp [Decimal.mul, hn.ne']

theorem add (h : Special a) {m : Decimal} (hm : IsFinite m) : a.add m = .ok a := by
  obtain ⟨s, c, e, rfl, -⟩ := hm
  cases h <;> rfl

theorem add_self (h : Special a) : a.add a = .ok a := by
  cases h with
  | nan => rfl
  | infinity s => simp [Decimal.add]

theorem not_finite (h : Special a) : ¬ IsFinite a := by
  rintro ⟨_, _, _, rfl, -⟩
  cases h

end Special

/-- Every amount but a signaling NaN is a number or passes through. -/
theorem finite_or_special {a : Decimal} (h : a ≠ .nan true) : IsFinite a ∨ Special a := by
  cases a with
  | finite s c e => exact .inl (denotes_finite s c e).isFinite
  | infinity s => exact .inr (.infinity s)
  | nan signaling =>
      cases signaling with
      | true => exact absurd rfl h
      | false => exact .inr .nan

/-! ## The lookups find a row -/

theorem demandLookup_ok {occ : Decimal} (hocc : IsFinite occ) {table : List (Decimal × Decimal)}
    (ht : BucketTable table) : ∃ d, Pricing.demandLookup occ table = .ok d := by
  induction ht with
  | last multiplier rest =>
      obtain ⟨s, c, e, rfl, -⟩ := hocc
      exact ⟨multiplier, rfl⟩
  | @row hi hhi multiplier rest hrest ih =>
      unfold Pricing.demandLookup
      rw [hocc.lt (denotes_ofInt hi)]
      by_cases hbelow : occ.toRat < ((hi : Int) : ℚ)
      · rw [decide_eq_true hbelow]
        exact ⟨multiplier, rfl⟩
      · rw [decide_eq_false hbelow]
        exact ih

theorem demandMultiplier_ok {occ : Decimal} (hocc : IsFinite occ) :
    ∃ d, Pricing.demandMultiplier occ = .ok d := demandLookup_ok hocc demandTable_bucketTable

theorem timeLookup_ok {days : Int} {table : List (Int × Decimal)}
    (h : ∃ row ∈ table, row.1 ≤ days) : ∃ t, Pricing.timeLookup days table = .ok t := by
  induction table with
  | nil => simp at h
  | cons row table ih =>
      unfold Pricing.timeLookup
      by_cases hrow : row.1 ≤ days
      · exact ⟨row.2, if_pos hrow⟩
      · rw [if_neg hrow]
        exact ih (by simpa [hrow] using h)

/-- The last row of the table is for today. -/
theorem timeMultiplier_ok {days : Int} (h : 0 ≤ days) :
    ∃ t, Pricing.timeMultiplier days = .ok t :=
  timeLookup_ok ⟨(0, Pricing.hundredths 200), by simp [Pricing.timeTable], h⟩

/-! ## Adding the lines -/

/-- A surcharge is less than the last digit of a large number. -/
theorem rnd_add_eq_self {x a : ℚ} (hx : rnd x = x) (hlarge : 10 ^ 32 ≤ |x|) (ha : |a| ≤ 500) :
    rnd (x + a) = x := by
  have hdigit : (10 : ℚ) ^ ((4 : ℤ) + prec) ≤ |x| := by
    refine le_of_eq_of_le ?_ hlarge
    norm_num [prec]
  exact roundSig_add_eq_self (by decide) hx hdigit (ha.trans_lt (by norm_num))

/-- Nothing that a surcharge adds makes a number overflow. -/
theorem fits_add_small {x a : ℚ} (hx : rnd x = x) (hfits : Fits x) (ha : |a| ≤ 500) :
    Fits (rnd (x + a)) := by
  by_cases hlarge : 10 ^ 32 ≤ |x|
  · rw [rnd_add_eq_self hx hlarge ha]
    exact hfits
  · refine fits_rnd_of_le (k := 33) (by norm_num) ((abs_add_le x a).trans ?_)
    linarith

/-- A large number stays as it is. -/
theorem addAll_eq_self {x : ℚ} (hx : rnd x = x) (hlarge : 10 ^ 32 ≤ |x|) {terms : List ℚ}
    (hterms : ∀ a ∈ terms, |a| ≤ 500) : PriceTerms.addAll x terms = x := by
  induction terms with
  | nil => rfl
  | cons a terms ih =>
      have ha := hterms a (by simp)
      have hkept : rnd (x + a) = x := rnd_add_eq_self hx hlarge ha
      unfold PriceTerms.addAll at ih ⊢
      rw [List.foldl_cons, hkept]
      exact ih fun b hb => hterms b (by simp [hb])

/-- The lines have whole amounts of at most 500. -/
def SmallLines (lines : List SeatSurchargeLine) : Prop :=
  ∀ line ∈ lines, IsFinite line.amount.amount ∧ |line.amount.amount.toRat| ≤ 500

theorem seatSurcharges_small (flight : Flight) (seatIds : List SeatId) :
    SmallLines (seatSurcharges flight seatIds) := by
  intro line hline
  obtain ⟨n, hn, hlow, hhigh⟩ := seatSurcharges_whole flight seatIds line hline
  rw [hn, (denotes_whole n).toRat_eq]
  refine ⟨(denotes_whole n).isFinite, abs_le.mpr ⟨?_, by exact_mod_cast hhigh⟩⟩
  exact_mod_cast (show -500 ≤ n by omega)

section Lines

variable {lines : List SeatSurchargeLine} {f : Decimal → SeatSurchargeLine → Except Exn Decimal}

/-- Adding them to a number that fits succeeds. -/
theorem addLines_ok (hf : ∀ a, ∀ line ∈ lines, f a line = Exn.lift (a.add line.amount.amount))
    (hlines : SmallLines lines) {a : Decimal} {x : ℚ} (ha : Denotes a x) (hx : rnd x = x)
    (hfits : Fits x) :
    let sum := PriceTerms.addAll x (lines.map fun line => line.amount.amount.toRat)
    ∃ d, lines.foldlM f a = .ok d ∧ Denotes d sum ∧ rnd sum = sum ∧ Fits sum := by
  induction lines generalizing a x with
  | nil => exact ⟨a, rfl, ha, hx, hfits⟩
  | cons line lines ih =>
      obtain ⟨hfinite, hsmall⟩ := hlines line (by simp)
      have hsum := fits_add_small hx hfits hsmall
      obtain ⟨a', ha', hvalue⟩ := (ha.add hfinite).of_fits hsum
      rw [List.foldlM_cons, hf a line (by simp), ha']
      exact ih (fun a l hl => hf a l (by simp [hl])) (fun l hl => hlines l (by simp [hl])) hvalue
        (roundSig_idem (by decide) _) hsum

/-- Added to a special amount they are lost. -/
theorem Special.addLines (hf : ∀ a, ∀ line ∈ lines, f a line = Exn.lift (a.add line.amount.amount))
    (hlines : SmallLines lines) {a : Decimal} (ha : Special a) : lines.foldlM f a = .ok a := by
  induction lines with
  | nil => rfl
  | cons line lines ih =>
      rw [List.foldlM_cons, hf a line (by simp), ha.add (hlines line (by simp)).1]
      exact ih (fun a l hl => hf a l (by simp [hl])) fun l hl => hlines l (by simp [hl])

end Lines

/-! ## The price -/

/-- The three products of the tax path do not overflow. -/
structure PriceTerms.ProductsFit (p : PriceTerms) : Prop where
  demand : Fits (rnd (p.fare * p.demand))
  time : Fits (rnd (rnd (p.fare * p.demand) * p.time))
  day : Fits (rnd (rnd (rnd (p.fare * p.demand) * p.time) * p.day))

section Taxes

variable {lines : List SeatSurchargeLine} {flight : Flight} {occ demand time : Decimal}
  {days : Int}

/-- The taxes of a fare that is a number. -/
theorem computeTaxes_ok_of_finite (dow : DayOfWeek) (hlines : SmallLines lines)
    (hdemand : Pricing.demandMultiplier occ = .ok demand)
    (htime : Pricing.timeMultiplier days = .ok time) (hfare : IsFinite flight.baseFare.amount)
    {p : PriceTerms} (hp : p.ProductsFit) (hpf : p.fare = flight.baseFare.amount.toRat)
    (hpd : p.demand = demand.toRat) (hpt : p.time = time.toRat)
    (hpw : p.day = (Pricing.dayMultiplier dow).toRat) :
    ∃ taxes, computeTaxes flight occ days dow lines = .ok taxes := by
  obtain ⟨n, hn, -⟩ := demandMultiplier_mem hdemand
  obtain ⟨m, hm, -⟩ := timeMultiplier_mem htime
  obtain ⟨k, hk, -⟩ := dayMultiplier_mem dow
  have hd : Denotes demand p.demand := by
    rw [hpd, hn]
    exact (denotes_hundredths n).isFinite
  have ht : Denotes time p.time := by
    rw [hpt, hm]
    exact (denotes_hundredths m).isFinite
  have hw : Denotes (Pricing.dayMultiplier dow) p.day := by
    rw [hpw, hk]
    exact (denotes_hundredths k).isFinite
  have hf : Denotes flight.baseFare.amount p.fare := hpf ▸ hfare
  obtain ⟨t₁, h₁, hv₁⟩ := (hf.mul hd).of_fits hp.demand
  obtain ⟨t₂, h₂, hv₂⟩ := (hv₁.mul ht).of_fits hp.time
  obtain ⟨t₃, h₃, hv₃⟩ := (hv₂.mul hw).of_fits hp.day
  obtain ⟨t₄, h₄, hv₄, hround, hfits⟩ := addLines_ok
    (f := fun a line => Exn.lift (a.add line.amount.amount)) (fun _ _ _ => rfl) hlines hv₃
    (roundSig_idem (by decide) _) hp.day
  -- the rate is below one
  obtain ⟨-, hrlow, hrhigh⟩ := taxRates_bounds flight.routeKind
  have hless : ∀ x : ℚ, |x * (Pricing.taxRates flight.routeKind).toRat| ≤ |x| := by
    intro x
    rw [abs_mul, abs_of_nonneg (show 0 ≤ (Pricing.taxRates flight.routeKind).toRat by linarith)]
    exact mul_le_of_le_one_right (abs_nonneg x) (by linarith)
  obtain ⟨amount, h₅, -⟩ := (hv₄.mul (denotes_taxRates flight.routeKind)).of_fits
    (hfits.rnd_of_le hround (hless _))
  refine ⟨⟨amount, flight.baseFare.currency⟩, ?_⟩
  simp only [computeTaxes, hdemand, htime, h₁, h₂, h₃, Exn.lift, bind, Except.bind] at h₄ ⊢
  rw [h₄]
  simp only [Pricing.computeTaxes, h₅, Exn.lift, bind, Except.bind, pure, Except.pure]

/-- Those of one that is not are of its kind. -/
theorem Special.computeTaxes_eq (dow : DayOfWeek) (hlines : SmallLines lines)
    (hdemand : Pricing.demandMultiplier occ = .ok demand)
    (htime : Pricing.timeMultiplier days = .ok time) (hfare : Special flight.baseFare.amount) :
    computeTaxes flight occ days dow lines = .ok flight.baseFare := by
  obtain ⟨n, rfl, hn, -⟩ := demandMultiplier_mem hdemand
  obtain ⟨m, rfl, hm, -⟩ := timeMultiplier_mem htime
  obtain ⟨k, hk, hlow, -⟩ := dayMultiplier_mem dow
  have h₁ : flight.baseFare.amount.mul (Pricing.hundredths n) = .ok flight.baseFare.amount :=
    hfare.mul (by omega) _
  have h₂ : flight.baseFare.amount.mul (Pricing.hundredths m) = .ok flight.baseFare.amount :=
    hfare.mul (by omega) _
  have h₃ : flight.baseFare.amount.mul (Pricing.dayMultiplier dow) =
      .ok flight.baseFare.amount := hk ▸ hfare.mul (by omega) _
  have h₄ := hfare.addLines (f := fun a line => Exn.lift (a.add line.amount.amount))
    (fun _ _ _ => rfl) hlines
  have h₅ : flight.baseFare.amount.mul (Pricing.taxRates flight.routeKind) =
      .ok flight.baseFare.amount := by
    cases flight.routeKind with
    | domestic => exact hfare.mul (by norm_num) _
    | international => exact hfare.mul (by norm_num) _
  simp only [computeTaxes, hdemand, htime, h₁, h₂, h₃, Exn.lift, bind, Except.bind] at h₄ ⊢
  rw [h₄]
  simp only [Pricing.computeTaxes, h₅, Exn.lift, bind, Except.bind, pure, Except.pure]

end Taxes

section Priceable

variable {c : Container} {request : QuoteRequest} {flight : Flight} {b : PriceBreakdown}

/-- The first product raises on a signaling NaN. -/
theorem Costed.not_signaling (h : Costed c request flight b) :
    flight.baseFare.amount ≠ .nan true := by
  intro hnan
  obtain ⟨occ, -, -, htaxes⟩ := h.demand
  obtain ⟨demand, -, htaxes⟩ := bind_eq_ok htaxes
  obtain ⟨time, -, htaxes⟩ := bind_eq_ok htaxes
  obtain ⟨taxable, hmul, -⟩ := bind_eq_ok htaxes
  rw [hnan] at hmul
  cases hmul

/-- And each of the three on an overflow. -/
theorem Costed.productsFit (h : Costed c request flight b)
    (hfare : IsFinite flight.baseFare.amount) :
    (b.terms (Pricing.taxRates flight.routeKind).toRat).ProductsFit := by
  have hnumeric := h.numeric hfare
  obtain ⟨occ, -, hdemand, htaxes⟩ := h.demand
  obtain ⟨demand, hd, hrest⟩ := bind_eq_ok htaxes
  obtain ⟨time, ht, hrest⟩ := bind_eq_ok hrest
  obtain rfl : demand = b.demandMultiplier := Except.ok.inj (hd.symm.trans hdemand)
  obtain rfl : time = b.timeMultiplier := Except.ok.inj (ht.symm.trans h.time)
  obtain ⟨t₁, h₁, hrest⟩ := bind_eq_ok hrest
  obtain ⟨t₂, h₂, hrest⟩ := bind_eq_ok hrest
  obtain ⟨t₃, h₃, -⟩ := bind_eq_ok hrest
  rw [← h.fare] at h₁
  rw [← h.day] at h₃
  have hv₁ := lift_mul_denotes hnumeric.fare hnumeric.demand h₁
  have hv₂ := lift_mul_denotes hv₁ hnumeric.time h₂
  exact ⟨lift_mul_fits hnumeric.fare hnumeric.demand h₁, lift_mul_fits hv₁ hnumeric.time h₂,
    lift_mul_fits hv₂ hnumeric.day h₃⟩

/-- A price can be found: the fare is not a signaling NaN, and neither the percentage
of seats taken nor a product of the fare overflows. -/
structure Priceable (c : Container) (flight : Flight) : Prop where
  fare : flight.baseFare.amount ≠ .nan true
  occupancy : OccupancyFits c.bookingRepo flight
  products : IsFinite flight.baseFare.amount → (termsOf c flight []).ProductsFit

theorem Costed.priceable (h : Costed c request flight b) : Priceable c flight where
  fare := h.not_signaling
  occupancy := by
    obtain ⟨occ, hocc, -⟩ := h.demand
    exact (occupancyPct_ok_iff _ _).mp ⟨occ, hocc⟩
  products hfare := by
    have hfit := h.productsFit hfare
    rw [h.terms_eq] at hfit
    exact ⟨hfit.demand, hfit.time, hfit.day⟩

/-- The multipliers are looked up. -/
theorem lookups_ok (hocc : OccupancyFits c.bookingRepo flight)
    (hdate : c.clock.date ≤ flight.departureAt.date) :
    ∃ occ demand time, occupancyPct c.bookingRepo flight = .ok occ ∧
      Pricing.demandMultiplier occ = .ok demand ∧
      Pricing.timeMultiplier (flight.departureAt.date - c.clock.date) = .ok time := by
  obtain ⟨occ, hpct⟩ := (occupancyPct_ok_iff _ _).mpr hocc
  obtain ⟨demand, hdemand⟩ := demandMultiplier_ok (occupancyPct_isFinite hpct)
  obtain ⟨time, htime⟩ := timeMultiplier_ok (sub_nonneg.mpr hdate)
  exact ⟨occ, demand, time, hpct, hdemand, htime⟩

/-- **When a price is found.** -/
theorem appraise_ok_iff (hfound : c.flightRepo.get request.flightId = some flight) :
    (∃ a, appraise c request = .ok a) ↔
      c.clock.date ≤ flight.departureAt.date ∧ Priceable c flight := by
  constructor
  · rintro ⟨a, ha⟩
    obtain ⟨flight', h⟩ := appraise_costed ha
    obtain rfl : flight = flight' := Option.some.inj (hfound.symm.trans h.found)
    exact ⟨sub_nonneg.mp h.ahead, h.priceable⟩
  · rintro ⟨hdate, hpriceable⟩
    obtain ⟨occ, demand, time, hocc, hdemand, htime⟩ := lookups_ok hpriceable.occupancy hdate
    have hlines := seatSurcharges_small flight request.seatIds
    have htaxes : ∃ taxes, computeTaxes flight occ (flight.departureAt.date - c.clock.date)
        (DayOfWeek.ofWeekday flight.departureAt.weekday)
        (seatSurcharges flight request.seatIds) = .ok taxes := by
      rcases finite_or_special hpriceable.fare with hfinite | hspecial
      · have hbind : (occupancyPct c.bookingRepo flight >>= Pricing.demandMultiplier) =
            .ok demand := by
          rw [hocc]
          exact hdemand
        refine computeTaxes_ok_of_finite _ hlines hdemand htime hfinite
          (hpriceable.products hfinite) rfl ?_ ?_ rfl
        · rw [termsOf, hbind]
          rfl
        · rw [termsOf, htime]
          rfl
      · exact ⟨_, hspecial.computeTaxes_eq _ hlines hdemand htime⟩
    obtain ⟨taxes, htaxes⟩ := htaxes
    have hahead : ¬ flight.departureAt.date - c.clock.date < 0 := by omega
    simp only [appraise, hfound, if_neg hahead, hocc, htaxes, Pricing.price, hdemand, htime,
      bind, Except.bind, pure, Except.pure]
    exact ⟨_, rfl⟩

end Priceable

/-! ## The total -/

/-- The rule moves a sum by half a dollar at most. -/
theorem abs_sub_priorDigit_le (x : ℚ) : |x - priorDigit x| ≤ 1 / 2 := by
  have hstep : (10 : ℚ) ^ ruleExp x ≤ 10 ^ (0 : ℤ) :=
    zpow_le_zpow_right₀ (by norm_num) (ruleExp_bounds x).2
  rw [priorDigit_eq]
  refine (abs_sub_roundTo_le _ x).trans ?_
  linarith

theorem abs_lt_of_priorDigit {x : ℚ} (h : |priorDigit x| < 10 ^ 26) : |x| < 10 ^ 27 := by
  have := abs_sub_abs_le_abs_sub x (priorDigit x)
  linarith [abs_sub_priorDigit_le x]

/-- The rounding of a sum that does not overflow succeeds if what it yields fits into 28
digits, down to its own last digit. -/
theorem roundHalfEvenToPriorDigit_ok_iff {raw : Decimal} {x : ℚ} (hraw : Denotes raw x)
    (hx : rnd x = x) (hfits : Fits x) :
    (∃ r, roundHalfEvenToPriorDigit raw = .ok r) ↔
      |priorDigit x| < 10 ^ (prec + ruleExp x : Int) := by
  obtain ⟨s, c, e, hnorm, hvalue, htail⟩ := hraw.normalize (by rwa [hx])
  have heq : finiteValue s c e = x := hvalue.trans hx
  have hround : ∀ r, roundHalfEvenToPriorDigit raw = .ok r ↔
      (Decimal.finite s c e).quantize (ruleTarget e) = .ok r := by
    intro r
    rw [roundHalfEvenToPriorDigit, hnorm]
    constructor
    · exact Exn.lift_eq_ok
    · exact congrArg Exn.lift
  simp only [hround]
  rw [(denotes_finite s c e).quantize_ok_iff (ruleTarget_exponent (s := s) htail), heq,
    priorDigit_eq]

/-- A breakdown whose sum is a number has a total if it fits into 28 digits, down to
the cents. -/
theorem PriceBreakdown.total_ok_iff {b : PriceBreakdown} {raw : Decimal} {x : ℚ}
    (hraw : b.rawTotal = .ok raw) (hvalue : Denotes raw x) (hx : rnd x = x) :
    (∃ total, b.total = .ok total) ↔ |priorDigit x| < 10 ^ 26 := by
  have hcents : ∀ {rounded : Decimal}, Denotes rounded (priorDigit x) →
      ((∃ amount, rounded.quantize moneyQuant = .ok amount) ↔ |priorDigit x| < 10 ^ 26) := by
    intro rounded hr
    rw [hr.quantize_ok_iff (q := moneyQuant) (e := -2) rfl, roundTo_eq_self (priorDigit_onGrid x)]
    norm_num [prec]
  rw [PriceBreakdown.total_eq, hraw]
  constructor
  · rintro ⟨total, h⟩
    obtain ⟨raw', hraw', h⟩ := bind_eq_ok h
    cases hraw'
    obtain ⟨rounded, hr, h⟩ := bind_eq_ok h
    obtain ⟨amount, ha, -⟩ := bind_eq_ok h
    exact (hcents (roundHalfEvenToPriorDigit_denotes hvalue hx hr)).mp
      ⟨amount, Exn.lift_eq_ok ha⟩
  · intro hsize
    -- cents are the finest digit the rule keeps
    have hfirst : |priorDigit x| < 10 ^ (prec + ruleExp x : Int) := by
      refine hsize.trans_le ?_
      have := (ruleExp_bounds x).1
      rw [← zpow_natCast]
      exact zpow_le_zpow_right₀ (by norm_num) (by simp only [prec]; omega)
    have hfits : Fits x := fits_of_lt (by norm_num) (abs_lt_of_priorDigit hsize)
    obtain ⟨rounded, hr⟩ := (roundHalfEvenToPriorDigit_ok_iff hvalue hx hfits).mpr hfirst
    obtain ⟨amount, ha⟩ := (hcents (roundHalfEvenToPriorDigit_denotes hvalue hx hr)).mpr hsize
    refine ⟨⟨amount, b.baseFare.currency⟩, ?_⟩
    simp only [bind, Except.bind, hr, ha, Exn.lift, pure, Except.pure]

/-- Three rows of the tables have seven digits together, so their product is exact. -/
theorem hundredths_mul {n m k : Nat} (hn : n ≤ 250) (hm : m ≤ 200) (hk : k ≤ 130) :
    (Pricing.hundredths n).mul (Pricing.hundredths m) = .ok (.finite false (n * m) (-4)) ∧
      (Decimal.finite false (n * m) (-4)).mul (Pricing.hundredths k) =
        .ok (.finite false (n * m * k) (-6)) := by
  have hnm : n * m ≤ 250 * 200 := Nat.mul_le_mul hn hm
  have hnmk : n * m * k ≤ 250 * 200 * 130 := Nat.mul_le_mul hnm hk
  have hshort : ∀ {c : Nat}, c ≤ 250 * 200 * 130 → ∀ e : Int, e ≤ 0 →
      finish false c e = .ok (.finite false c e) := by
    intro c hc e he
    have hdigits : numDigits c ≤ 8 := (numDigits_le_iff (by decide)).mpr (by omega)
    rw [finish, fix, if_pos (by simp only [prec]; omega)]
    exact if_neg fun h => by
      have := h.2
      simp only [emax] at this
      omega
  have hfirst : (Pricing.hundredths n).mul (Pricing.hundredths m) = finish false (n * m) (-4) := rfl
  have hsecond : (Decimal.finite false (n * m) (-4)).mul (Pricing.hundredths k) =
      finish false (n * m * k) (-6) := rfl
  rw [hfirst, hsecond]
  exact ⟨hshort (by omega) (-4) (by decide), hshort hnmk (-6) (by decide)⟩

section Sizes

/-- A product keeps the sign of a fare. -/
theorem rnd_mul_sign {f x m : ℚ} (h : 0 ≤ f * x) (hm : 0 ≤ m) : 0 ≤ f * rnd (x * m) := by
  rcases lt_trichotomy f 0 with hf | rfl | hf
  · have hx : 0 ≤ -(x * m) := by nlinarith
    have hround : 0 ≤ rnd (-(x * m)) := roundSig_nonneg hx
    rw [rnd, roundSig_neg] at hround
    exact mul_nonneg_of_nonpos_of_nonpos hf.le (by linarith)
  · rw [zero_mul]
  · have hx : 0 ≤ x := nonneg_of_mul_nonneg_right h hf
    exact mul_nonneg hf.le (roundSig_nonneg (mul_nonneg hx hm))

/-- And most of its size. -/
theorem le_abs_rnd_mul {x m : ℚ} {k : Nat} (hx : 10 ^ (k + 1) ≤ |x|) (hm : 1 / 10 ≤ m) :
    10 ^ k ≤ |rnd (x * m)| := by
  refine le_abs_rnd ?_
  rw [abs_mul, abs_of_nonneg (show 0 ≤ m by linarith)]
  rw [pow_succ] at hx
  nlinarith [abs_nonneg x]

theorem abs_rnd_mul_le {x m : ℚ} {k : Nat} (hx : |x| ≤ 10 ^ k) (hm : |m| ≤ 10) :
    |rnd (x * m)| ≤ 10 ^ (k + 1) := by
  refine abs_rnd_le ?_
  rw [abs_mul, pow_succ]
  exact mul_le_mul hx hm (abs_nonneg m) (by positivity)

variable {p : PriceTerms}

theorem PriceTerms.Rows.multiplier_bounds (h : p.Rows) :
    1 / 2 ≤ p.demand * p.time * p.day ∧ p.demand * p.time * p.day ≤ 7 := by
  obtain ⟨-, hdlow, hdhigh⟩ := h.demand
  obtain ⟨-, htlow, hthigh⟩ := h.time
  obtain ⟨-, hwlow, hwhigh⟩ := h.day
  have hlow : (1 : ℚ) * (17 / 20) * (17 / 20) ≤ p.demand * p.time * p.day := by gcongr
  have hhigh : p.demand * p.time * p.day ≤ 5 / 2 * 2 * (13 / 10) := by gcongr
  exact ⟨hlow.trans' (by norm_num), hhigh.trans (by norm_num)⟩

theorem PriceTerms.Rows.product28_eq (h : p.Rows) :
    p.product28 = rnd (p.fare * (p.demand * p.time * p.day)) := by
  rw [PriceTerms.product28, h.multiplier_exact]

/-- What is taxed, before the surcharges. -/
abbrev PriceTerms.factors28 (p : PriceTerms) : ℚ :=
  rnd (rnd (rnd (p.fare * p.demand) * p.time) * p.day)

/-- A fare of everyday size keeps all products small. -/
theorem PriceTerms.Rows.productsFit (h : p.Rows) (hfare : |p.fare| ≤ 10 ^ 37) :
    p.ProductsFit := by
  have h₁ := abs_rnd_mul_le hfare (h.abs_demand.trans (by norm_num))
  have h₂ := abs_rnd_mul_le h₁ (h.abs_time.trans (by norm_num))
  have h₃ := abs_rnd_mul_le h₂ (h.abs_day.trans (by norm_num))
  have hlarge : ∀ {x : ℚ} {k : Nat}, k ≤ 40 → |x| ≤ 10 ^ k → Fits x := by
    intro x k hk hx
    refine fits_of_lt (k := k + 1) (by omega) (hx.trans_lt ?_)
    exact pow_lt_pow_right₀ (by norm_num) (Nat.lt_succ_self k)
  exact ⟨hlarge (by norm_num) h₁, hlarge (by norm_num) h₂, hlarge (by norm_num) h₃⟩

theorem PriceTerms.Rows.fare_le (h : p.Rows) (hproduct : |p.product28| < 10 ^ 36) :
    |p.fare| ≤ 10 ^ 37 := by
  by_contra hlarge
  rw [not_le] at hlarge
  refine absurd (le_abs_rnd (k := 36) ?_) (not_le.mpr (h.product28_eq ▸ hproduct))
  obtain ⟨hlow, -⟩ := h.multiplier_bounds
  rw [abs_mul, abs_of_nonneg (show 0 ≤ p.demand * p.time * p.day by linarith)]
  nlinarith

/-- A large product makes a large sum: the surcharges are lost next to it, and the taxes
have its sign. -/
theorem PriceTerms.Rows.product28_le (h : p.Rows) (hlarge : 10 ^ 36 ≤ |p.product28|) :
    10 ^ 36 ≤ |p.sum28| := by
  obtain ⟨hlow, hhigh⟩ := h.multiplier_bounds
  have hsmall : ∀ a ∈ p.surcharges, |a| ≤ 500 := fun a ha => (h.abs_surcharge a ha).2
  have hfare : 10 ^ 34 ≤ |p.fare| := by
    by_contra hless
    have hexact : |p.fare * (p.demand * p.time * p.day)| ≤ 10 ^ 35 := by
      rw [abs_mul, abs_of_nonneg (show 0 ≤ p.demand * p.time * p.day by linarith)]
      nlinarith [abs_nonneg p.fare]
    have hround := abs_rnd_le hexact
    rw [← h.product28_eq] at hround
    linarith
  have hfactors : 10 ^ 32 ≤ |p.factors28| := by
    have h₁ : 10 ^ 34 ≤ |rnd (p.fare * p.demand)| := by
      refine le_abs_rnd ?_
      rw [abs_mul, abs_of_nonneg (show 0 ≤ p.demand by linarith [h.demand.2.1])]
      exact hfare.trans (le_mul_of_one_le_right (abs_nonneg _) h.demand.2.1)
    exact le_abs_rnd_mul (le_abs_rnd_mul h₁ (by linarith [h.time.2.1])) (by linarith [h.day.2.1])
  have htaxable : p.taxable28 = p.factors28 :=
    addAll_eq_self (roundSig_idem (by decide) _) hfactors hsmall
  have hsurcharged : PriceTerms.addAll p.product28 p.surcharges = p.product28 := by
    refine addAll_eq_self ?_ (by linarith) hsmall
    rw [h.product28_eq]
    exact roundSig_idem (by decide) _
  have hself : 0 ≤ p.fare * p.fare := mul_self_nonneg _
  have hproduct : 0 ≤ p.fare * p.product28 := by
    rw [h.product28_eq]
    exact rnd_mul_sign hself (by linarith)
  have htaxes : 0 ≤ p.fare * p.taxes28 := by
    rw [PriceTerms.taxes28, htaxable]
    exact rnd_mul_sign (rnd_mul_sign (rnd_mul_sign (rnd_mul_sign hself
      (by linarith [h.demand.2.1])) (by linarith [h.time.2.1])) (by linarith [h.day.2.1]))
      (by linarith [h.rate.2.1])
  have hsum : |p.product28| ≤ |p.product28 + p.taxes28| := by
    rcases lt_trichotomy p.fare 0 with hf | hf | hf
    · have hp := nonpos_of_mul_nonneg_right hproduct hf
      have ht := nonpos_of_mul_nonneg_right htaxes hf
      rw [abs_of_nonpos hp, abs_of_nonpos (by linarith)]
      linarith
    · rw [hf, abs_zero] at hfare
      norm_num at hfare
    · have hp := nonneg_of_mul_nonneg_right hproduct hf
      have ht := nonneg_of_mul_nonneg_right htaxes hf
      rw [abs_of_nonneg hp, abs_of_nonneg (by linarith)]
      linarith
  rw [PriceTerms.sum28, hsurcharged, h.fees, add_zero, rnd, roundSig_idem (by decide)]
  exact le_abs_rnd (hlarge.trans hsum)

end Sizes

section Total

variable {c : Container} {request : QuoteRequest} {flight : Flight} {b : PriceBreakdown}

/-- The lines, the taxes and the fees of a fare in dollars have one currency. -/
theorem addMoney_usd {what : String} {m : Money} (h : m.currency = "USD") (a : Decimal) :
    addMoney what "USD" a m = Exn.lift (a.add m.amount) := if_neg (not_not.mpr h)

/-- The multipliers of a total are exact. -/
theorem Costed.rawTotal_eq (h : Costed c request flight b)
    (husd : flight.baseFare.currency = "USD") :
    ∃ n e, 0 < n ∧ Denotes (.finite false n e) (rnd (rnd (b.demandMultiplier.toRat *
        b.timeMultiplier.toRat) * b.dayMultiplier.toRat)) ∧
      b.rawTotal = (do
        let raw ← Exn.lift (flight.baseFare.amount.mul (.finite false n e))
        let raw ← b.seatSurcharges.foldlM
          (fun raw line => addMoney "surcharge" "USD" raw line.amount) raw
        let raw ← addMoney "taxes" "USD" raw b.taxes
        addMoney "fees" "USD" raw b.fees) := by
  obtain ⟨occ, -, hdemand, -⟩ := h.demand
  obtain ⟨n, hn, hnlow, hnhigh⟩ := demandMultiplier_mem hdemand
  obtain ⟨m, hm, hmlow, hmhigh⟩ := timeMultiplier_mem h.time
  obtain ⟨k, hk, hklow, hkhigh⟩ :=
    dayMultiplier_mem (DayOfWeek.ofWeekday flight.departureAt.weekday)
  obtain ⟨hnm, hnmk⟩ := hundredths_mul hnhigh hmhigh hkhigh
  refine ⟨n * m * k, -6, Nat.mul_pos (Nat.mul_pos (by omega) (by omega)) (by omega), ?_, ?_⟩
  · rw [hn, hm, h.day, hk]
    have hfirst := (denotes_hundredths n).isFinite.mul (denotes_hundredths m).isFinite
    rw [hnm] at hfirst
    have hsecond := hfirst.denotes.mul (denotes_hundredths k).isFinite
    rw [hnmk] at hsecond
    exact hsecond.denotes
  · simp only [PriceBreakdown.rawTotal, hn, hm, h.day, hk, h.fare, husd, hnm, hnmk, Exn.lift, bind,
      Except.bind]

/-- The taxes have the currency of the fare. -/
theorem Costed.taxes_currency (h : Costed c request flight b) :
    b.taxes.currency = flight.baseFare.currency := by
  obtain ⟨occ, -, -, htaxes⟩ := h.demand
  obtain ⟨_, -, htaxes⟩ := bind_eq_ok htaxes
  obtain ⟨_, -, htaxes⟩ := bind_eq_ok htaxes
  obtain ⟨_, -, htaxes⟩ := bind_eq_ok htaxes
  obtain ⟨_, -, htaxes⟩ := bind_eq_ok htaxes
  obtain ⟨_, -, htaxes⟩ := bind_eq_ok htaxes
  obtain ⟨_, -, htaxes⟩ := bind_eq_ok htaxes
  obtain ⟨_, -, htaxes⟩ := bind_eq_ok htaxes
  rw [← Except.ok.inj htaxes]

theorem Costed.addLine_eq (h : Costed c request flight b) (a : Decimal)
    (line : SeatSurchargeLine) (hline : line ∈ b.seatSurcharges) :
    addMoney "surcharge" "USD" a line.amount = Exn.lift (a.add line.amount.amount) := by
  rw [h.lines] at hline
  obtain ⟨whole, hwhole, -⟩ := seatSurcharges_whole flight request.seatIds line hline
  exact addMoney_usd (by rw [hwhole]; rfl) a

/-- A special fare is the whole sum. -/
theorem Costed.rawTotal_special (h : Costed c request flight b)
    (hfare : Special flight.baseFare.amount) (husd : flight.baseFare.currency = "USD") :
    b.rawTotal = .ok flight.baseFare.amount := by
  obtain ⟨n, e, hn, -, heq⟩ := h.rawTotal_eq husd
  have hlines : SmallLines b.seatSurcharges := h.lines ▸ seatSurcharges_small _ _
  have htaxes : b.taxes = flight.baseFare := by
    obtain ⟨occ, -, hdemand, htaxes⟩ := h.demand
    exact Except.ok.inj (htaxes.symm.trans (hfare.computeTaxes_eq _ hlines hdemand h.time))
  rw [heq, hfare.mul hn, htaxes, h.fees]
  simp only [Exn.lift, bind, Except.bind, hfare.addLines h.addLine_eq hlines, addMoney_usd husd,
    hfare.add_self, addMoney_usd (show (Money.whole 0).currency = "USD" from rfl),
    hfare.add (denotes_whole 0).isFinite]

/-- A fare that is a number has a sum if neither the product nor the sum overflows. -/
theorem Costed.rawTotal_finite (h : Costed c request flight b)
    (hfare : IsFinite flight.baseFare.amount) (husd : flight.baseFare.currency = "USD")
    (hproduct : Fits (b.terms (Pricing.taxRates flight.routeKind).toRat).product28)
    (hsum : Fits (b.terms (Pricing.taxRates flight.routeKind).toRat).sum28) :
    ∃ raw, b.rawTotal = .ok raw := by
  obtain ⟨n, e, hn, hmultiplier, heq⟩ := h.rawTotal_eq husd
  have hlines : SmallLines b.seatSurcharges := h.lines ▸ seatSurcharges_small _ _
  have hf : Denotes flight.baseFare.amount b.baseFare.amount.toRat := h.fare ▸ hfare
  obtain ⟨product, hp, hv⟩ := (hf.mul hmultiplier).of_fits hproduct
  obtain ⟨surcharged, hs, hv, hround, hfits⟩ := addLines_ok h.addLine_eq hlines hv
    (roundSig_idem (by decide) _) hproduct
  have hzero : (b.terms (Pricing.taxRates flight.routeKind).toRat).fees = 0 := h.rows.fees
  have htaxed := hv.add (h.taxes_denotes hfare)
  have hidem : ∀ x : ℚ, rnd (rnd x + 0) = rnd x := by
    intro x
    rw [add_zero]
    exact roundSig_idem (by decide) x
  rw [PriceTerms.sum28, hzero, hidem] at hsum
  obtain ⟨taxed, ht, hv⟩ := htaxed.of_fits hsum
  have hresult := hv.add (denotes_whole 0)
  rw [Int.cast_zero, hidem] at hresult
  obtain ⟨raw, hr, -⟩ := hresult.of_fits hsum
  refine ⟨raw, ?_⟩
  rw [heq, hp, h.fees]
  simp only [Exn.lift, bind, Except.bind, hs, addMoney_usd (h.taxes_currency.trans husd), ht,
    addMoney_usd (show (Money.whole 0).currency = "USD" from rfl), hr]

/-- The fees are in dollars, so a fare that is not has no total. -/
theorem Costed.usd (h : Costed c request flight b) {raw : Decimal} (hraw : b.rawTotal = .ok raw) :
    flight.baseFare.currency = "USD" := by
  unfold PriceBreakdown.rawTotal at hraw
  obtain ⟨_, -, hraw⟩ := bind_eq_ok hraw
  obtain ⟨_, -, hraw⟩ := bind_eq_ok hraw
  obtain ⟨_, -, hraw⟩ := bind_eq_ok hraw
  obtain ⟨_, -, hraw⟩ := bind_eq_ok hraw
  obtain ⟨taxed, -, hraw⟩ := bind_eq_ok hraw
  rw [h.fees, h.fare, addMoney] at hraw
  split at hraw
  · cases hraw
  · next hsame => exact (not_not.mp hsame).symm

/-- A fare in dollars whose total comes out: a quiet NaN, or a number with a sum that
rounds to at most 26 digits before the point. -/
def Totals (c : Container) (flight : Flight) (seatIds : List SeatId) : Prop :=
  flight.baseFare.currency = "USD" ∧
    (flight.baseFare.amount = .nan false ∨
      (IsFinite flight.baseFare.amount ∧ |priorDigit (termsOf c flight seatIds).sum28| < 10 ^ 26))

/-- A sum that is small comes from a product that is. -/
theorem PriceTerms.Rows.product28_lt {p : PriceTerms} (h : p.Rows)
    (hsum : |priorDigit p.sum28| < 10 ^ 26) : |p.product28| < 10 ^ 36 := by
  by_contra hlarge
  linarith [h.product28_le (not_lt.mp hlarge), abs_lt_of_priorDigit hsum]

/-- **When a price has a total.** -/
theorem Costed.total_ok_iff (h : Costed c request flight b) :
    (∃ total, b.total = .ok total) ↔ Totals c flight request.seatIds := by
  have hraw : (∃ total, b.total = .ok total) → ∃ raw, b.rawTotal = .ok raw := by
    rintro ⟨total, htotal⟩
    rw [PriceBreakdown.total_eq] at htotal
    obtain ⟨raw, hraw, -⟩ := bind_eq_ok htotal
    exact ⟨raw, hraw⟩
  by_cases hdollars : flight.baseFare.currency = "USD"
  swap
  · refine iff_of_false (fun htotal => hdollars ?_) (fun htotals => hdollars htotals.1)
    obtain ⟨raw, hraw⟩ := hraw htotal
    exact h.usd hraw
  rcases finite_or_special h.not_signaling with hfinite | hspecial
  · have hiff : ∀ {raw}, b.rawTotal = .ok raw → ((∃ total, b.total = .ok total) ↔
        |priorDigit (termsOf c flight request.seatIds).sum28| < 10 ^ 26) := by
      intro raw hraw
      have hvalue := (h.numeric hfinite).rawTotal_denotes hraw (h.taxes_denotes hfinite).toRat_eq
      rw [h.terms_eq] at hvalue
      exact PriceBreakdown.total_ok_iff hraw hvalue (roundSig_idem (by decide) _)
    constructor
    · intro htotal
      obtain ⟨raw, hraw⟩ := hraw htotal
      exact ⟨hdollars, .inr ⟨hfinite, (hiff hraw).mp htotal⟩⟩
    · rintro ⟨-, hnan | ⟨-, hsize⟩⟩
      · rw [hnan] at hfinite
        exact absurd hfinite Special.nan.not_finite
      · rw [← h.terms_eq] at hsize
        obtain ⟨raw, hraw⟩ := h.rawTotal_finite hfinite hdollars
          (fits_of_lt (by norm_num) (h.rows.product28_lt hsize))
          (fits_of_lt (by norm_num) (abs_lt_of_priorDigit hsize))
        rw [h.terms_eq] at hsize
        exact (hiff hraw).mpr hsize
  · have hraw := h.rawTotal_special hspecial hdollars
    rw [PriceBreakdown.total_eq, hraw]
    have hnot := hspecial.not_finite
    unfold Totals
    generalize flight.baseFare.amount = amount at *
    cases hspecial with
    | nan => exact iff_of_true ⟨⟨.nan false, b.baseFare.currency⟩, rfl⟩ ⟨hdollars, .inl rfl⟩
    | infinity s =>
        refine iff_of_false (fun ⟨_, htotal⟩ => nomatch htotal) ?_
        rintro ⟨-, hnan | ⟨hfinite, -⟩⟩
        · cases hnan
        · exact hnot hfinite

/-- A total asks for no less than a price. -/
theorem Totals.priceable {seatIds : List SeatId} (h : Totals c flight seatIds)
    (hocc : OccupancyFits c.bookingRepo flight)
    (hdate : c.clock.date ≤ flight.departureAt.date) : Priceable c flight where
  fare := by
    rintro hnan
    rcases h.2 with hquiet | ⟨⟨_, _, _, hfinite, -⟩, -⟩
    · rw [hnan] at hquiet
      cases hquiet
    · rw [hnan] at hfinite
      cases hfinite
  occupancy := hocc
  products hfinite := by
    obtain ⟨occ, demand, time, hpct, hdemand, htime⟩ := lookups_ok hocc hdate
    rcases h.2 with hquiet | ⟨-, hsize⟩
    · rw [hquiet] at hfinite
      exact absurd hfinite Special.nan.not_finite
    · have hrows := termsOf_rows hpct hdemand htime seatIds
      have hfit := hrows.productsFit (hrows.fare_le (hrows.product28_lt hsize))
      exact ⟨hfit.demand, hfit.time, hfit.day⟩

end Total

/-! ## What a total raises -/

/-- The exceptions of an expression are among `P`. -/
def Raises {α : Type} (P : Exn → Prop) (x : Except Exn α) : Prop := ∀ e, x = .error e → P e

namespace Raises

variable {α β : Type} {P : Exn → Prop}

theorem ok (a : α) : Raises P (.ok a) := by
  intro e h
  cases h

theorem bind {x : Except Exn α} {f : α → Except Exn β} (hx : Raises P x)
    (hf : ∀ a, x = .ok a → Raises P (f a)) : Raises P (x >>= f) := by
  cases x with
  | error e =>
      intro e' h
      cases h
      exact hx e rfl
  | ok a => exact hf a rfl

theorem foldlM {f : β → α → Except Exn β} (hf : ∀ b a, Raises P (f b a)) (as : List α) (b : β) :
    Raises P (as.foldlM f b) := by
  induction as generalizing b with
  | nil => exact ok b
  | cons a as ih =>
      rw [List.foldlM_cons]
      exact (hf b a).bind fun b' _ => ih b'

end Raises

/-- A signal of the decimal module, or two currencies in one sum. -/
def Exn.OfPrice (e : Exn) : Prop :=
  (∃ signal, e = .decimal signal) ∨ ∃ message, e = .valueError message

theorem raises_lift {α : Type} (x : Except Signal α) : Raises Exn.OfPrice (Exn.lift x) := by
  intro e h
  cases x with
  | error signal =>
      cases h
      exact .inl ⟨signal, rfl⟩
  | ok a => cases h

theorem raises_addMoney (what currency : String) (raw : Decimal) (m : Money) :
    Raises Exn.OfPrice (addMoney what currency raw m) := by
  unfold addMoney
  split
  · intro e h
    cases h
    exact .inr ⟨_, rfl⟩
  · exact raises_lift _

theorem raises_occupancyPct (bookings : InMemoryBookingRepository) (flight : Flight) :
    Raises Exn.OfPrice (occupancyPct bookings flight) := by
  unfold occupancyPct
  dsimp only
  split
  · exact .ok _
  · exact (raises_lift _).bind fun ratio _ => raises_lift _

theorem PriceBreakdown.total_raises (b : PriceBreakdown) : Raises Exn.OfPrice b.total := by
  unfold PriceBreakdown.total
  refine (raises_lift _).bind fun demandTime _ => (raises_lift _).bind fun multiplier _ => ?_
  refine (raises_lift _).bind fun product _ => ?_
  refine (Raises.foldlM (fun raw line => raises_addMoney _ _ raw _) _ _).bind ?_
  intro surcharged _
  refine (raises_addMoney _ _ _ _).bind fun taxed _ => ?_
  refine (raises_addMoney _ _ _ _).bind fun raw _ => ?_
  refine Raises.bind ?_ fun rounded _ => (raises_lift _).bind fun amount _ => .ok _
  exact (raises_lift _).bind fun normalized _ => raises_lift _

/-! ## The call -/

theorem eventOf_raises (q : Quote) (a : Appraisal) : Raises Exn.OfPrice (eventOf q a) :=
  a.breakdown.total_raises.bind fun _ _ => .ok _

/-- There is an id for the quote, and one for the session if it needs one. -/
structure IdsReady (c : Container) (request : QuoteRequest) : Prop where
  session : drawSession c request ≠ none
  quote : c.ids.quoteIds ≠ []

section Call

variable {env : Collaborators} {request : QuoteRequest} {c c' : Container} {flight : Flight}
  {out : Except Exn Quote}

theorem QuoteService.QuoteExit.returns_iff (h : QuoteExit env request c out c')
    (hfound : c.flightRepo.get request.flightId = some flight) (hready : IdsReady c request)
    (hlog : env.fault .writeAudit = none) :
    (∃ q, out = .ok q) ↔ c.clock.date ≤ flight.departureAt.date ∧
      OccupancyFits c.bookingRepo flight ∧ (c.clock.add quoteTtl).InRange ∧
      Totals c flight request.seatIds := by
  have hcosted : ∀ {a : Appraisal}, appraise c request = .ok a →
      Costed c request flight a.breakdown := by
    intro a ha
    obtain ⟨flight', h'⟩ := appraise_costed ha
    obtain rfl : flight = flight' := Option.some.inj (hfound.symm.trans h'.found)
    exact h'
  cases h with
  | rejected hrejected =>
      refine iff_of_false (fun ⟨_, h⟩ => nomatch h) ?_
      rintro ⟨hdate, hocc, -, htotals⟩
      obtain ⟨a, ha⟩ := (appraise_ok_iff hfound).mpr ⟨hdate, htotals.priceable hocc hdate⟩
      rw [ha] at hrejected
      cases hrejected
  | noSession _ hs => exact absurd hs hready.session
  | noQuoteId _ _ hid => exact absurd hid hready.quote
  | overflowed _ _ _ hrange =>
      exact iff_of_false (fun ⟨_, h⟩ => nomatch h) fun ⟨_, _, hyes, _⟩ => hrange hyes
  | unrendered ha _ _ _ hev =>
      refine iff_of_false (fun ⟨_, h⟩ => nomatch h) ?_
      rintro ⟨-, -, -, htotals⟩
      obtain ⟨event, hev'⟩ := eventOf_ok_iff.mpr ((hcosted ha).total_ok_iff.mpr htotals)
      rw [hev'] at hev
      cases hev
  | unlogged _ _ _ _ _ hfault => rw [hlog] at hfault; cases hfault
  | created ha _ _ hrange hev _ =>
      have hpriced := hcosted ha
      exact iff_of_true ⟨_, rfl⟩ ⟨sub_nonneg.mp hpriced.ahead, hpriced.priceable.occupancy, hrange,
        hpriced.total_ok_iff.mp (eventOf_ok_iff.mp ⟨_, hev⟩)⟩

/-- **When a quote comes out.** -/
theorem quote_returns_iff (hfound : c.flightRepo.get request.flightId = some flight)
    (hready : IdsReady c request) (hlog : env.fault .writeAudit = none) :
    (∃ q, ((quote env request).run c).1 = .ok q) ↔ c.clock.date ≤ flight.departureAt.date ∧
      OccupancyFits c.bookingRepo flight ∧ (c.clock.add quoteTtl).InRange ∧
      Totals c flight request.seatIds :=
  (quote_exit env request c).returns_iff hfound hready hlog

theorem appraise_departed (hfound : c.flightRepo.get request.flightId = some flight)
    (hdate : flight.departureAt.date < c.clock.date) :
    ∃ message, appraise c request = .error (.flightAlreadyDeparted message) := by
  have hgone : flight.departureAt.date - c.clock.date < 0 := by omega
  simp only [appraise, hfound, if_pos hgone]
  exact ⟨_, rfl⟩

/-- The only other thing that keeps a price from being found is the decimal module. -/
theorem appraise_raises (hfound : c.flightRepo.get request.flightId = some flight)
    (hdate : c.clock.date ≤ flight.departureAt.date) :
    Raises Exn.OfPrice (appraise c request) := by
  have hahead : ¬ flight.departureAt.date - c.clock.date < 0 := by omega
  obtain ⟨time, htime⟩ := timeMultiplier_ok (sub_nonneg.mpr hdate)
  simp only [appraise, hfound, if_neg hahead]
  refine (raises_occupancyPct _ _).bind fun occ hocc => ?_
  obtain ⟨demand, hdemand⟩ := demandMultiplier_ok (occupancyPct_isFinite hocc)
  simp only [computeTaxes, Pricing.computeTaxes, Pricing.price, hdemand, htime, bind, Except.bind]
  refine Raises.bind ?_ fun taxes _ => .ok _
  refine (raises_lift _).bind fun t₁ _ => (raises_lift _).bind fun t₂ _ => ?_
  refine (raises_lift _).bind fun t₃ _ => ?_
  refine (Raises.foldlM (fun _ _ => raises_lift _) _ _).bind fun t₄ _ => ?_
  exact (raises_lift _).bind fun amount _ => .ok _

theorem Exn.OfPrice.not_departed {e : Exn} (h : e.OfPrice) (message : String) :
    e ≠ .flightAlreadyDeparted message := by
  rintro rfl
  rcases h with ⟨_, h⟩ | ⟨_, h⟩ <;> cases h

theorem QuoteService.QuoteExit.departed_iff (h : QuoteExit env request c out c')
    (hfound : c.flightRepo.get request.flightId = some flight)
    (hlog : env.fault .writeAudit = none) :
    (∃ message, out = .error (.flightAlreadyDeparted message)) ↔
      flight.departureAt.date < c.clock.date := by
  have hahead : ∀ {a : Appraisal}, appraise c request = .ok a →
      ¬ flight.departureAt.date < c.clock.date := by
    intro a ha
    exact not_lt.mpr ((appraise_ok_iff hfound).mp ⟨a, ha⟩).1
  have hother : ∀ {e : Exn}, (∀ message, e ≠ .flightAlreadyDeparted message) →
      ¬ ∃ message, (.error e : Except Exn Quote) = .error (.flightAlreadyDeparted message) := by
    rintro e hne ⟨message, he⟩
    exact hne message (Except.error.inj he)
  cases h with
  | rejected hrejected =>
      by_cases hdate : flight.departureAt.date < c.clock.date
      · obtain ⟨message, hdeparted⟩ := appraise_departed hfound hdate
        obtain rfl := Except.error.inj (hrejected.symm.trans hdeparted)
        exact iff_of_true ⟨message, rfl⟩ hdate
      · have hraised := appraise_raises hfound (not_lt.mp hdate) _ hrejected
        exact iff_of_false (hother hraised.not_departed) hdate
  | noSession ha _ => exact iff_of_false (hother (by simp [popFromEmpty])) (hahead ha)
  | noQuoteId ha _ _ => exact iff_of_false (hother (by simp [popFromEmpty])) (hahead ha)
  | overflowed ha _ _ _ => exact iff_of_false (hother (by simp)) (hahead ha)
  | unrendered ha _ _ _ hev =>
      exact iff_of_false (hother (eventOf_raises _ _ _ hev).not_departed) (hahead ha)
  | unlogged _ _ _ _ _ hfault => rw [hlog] at hfault; cases hfault
  | created ha _ _ _ _ _ => exact iff_of_false (fun ⟨_, h⟩ => nomatch h) (hahead ha)

/-- **When a flight is said to have departed**: by date, whatever the hour. -/
theorem quote_departed_iff (hfound : c.flightRepo.get request.flightId = some flight)
    (hlog : env.fault .writeAudit = none) :
    (∃ message, ((quote env request).run c).1 = .error (.flightAlreadyDeparted message)) ↔
      flight.departureAt.date < c.clock.date :=
  (quote_exit env request c).departed_iff hfound hlog

end Call

end FlightBooking
