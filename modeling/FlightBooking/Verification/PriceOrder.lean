import FlightBooking.Verification.DemandBuckets

/-!
# PriceOrder — when a dearer flight costs more

Before the final rounding the price rises with the fare and the occupancy and
falls with the days to go, in 28 digits as on paper. The rounding keeps the order
of two sums exactly if the smaller one does not overtake the larger.
-/

namespace FlightBooking

open Py Decimal Rounding QuoteService

/-! ## The tables -/

/-- What is below a bound keeps everything smaller below it. -/
theorem lt_of_le_of_lt_bound {a b u : Decimal} {x y : ℚ} (ha : Denotes a x) (hb : Denotes b y)
    (h : x ≤ y) (hlt : b.lt u = .ok true) : a.lt u = .ok true := by
  cases u with
  | nan s =>
      obtain ⟨sb, cb, eb, rfl, -⟩ := hb
      cases hlt
  | infinity s =>
      obtain ⟨sa, ca, ea, rfl, -⟩ := ha
      obtain ⟨sb, cb, eb, rfl, -⟩ := hb
      exact hlt
  | finite s c e =>
      have hu := denotes_finite s c e
      rw [hb.lt hu, Except.ok.injEq, decide_eq_true_eq] at hlt
      rw [ha.lt hu, decide_eq_true (h.trans_lt hlt)]

/-- In a table whose multipliers rise, a higher occupancy finds no lower one. -/
theorem demandLookup_mono {a b d d' : Decimal} {x y : ℚ} (ha : Denotes a x) (hb : Denotes b y)
    (h : x ≤ y) {table : List (Decimal × Decimal)}
    (hrise : table.Pairwise fun row later => row.2.toRat ≤ later.2.toRat)
    (hd : Pricing.demandLookup a table = .ok d) (hd' : Pricing.demandLookup b table = .ok d') :
    d.toRat ≤ d'.toRat := by
  induction table with
  | nil => cases hd
  | cons row table ih =>
      obtain ⟨upper, multiplier⟩ := row
      rw [List.pairwise_cons] at hrise
      unfold Pricing.demandLookup at hd hd'
      obtain ⟨belowA, hbelowA, hd⟩ := bind_eq_ok hd
      obtain ⟨belowB, hbelowB, hd'⟩ := bind_eq_ok hd'
      cases belowB with
      | true =>
          -- the smaller one stops at the same row
          have hboth := lt_of_le_of_lt_bound ha hb h (Exn.lift_eq_ok hbelowB)
          rw [Exn.lift_eq_ok hbelowA] at hboth
          cases hboth
          cases hd
          cases hd'
          exact le_refl _
      | false =>
          cases belowA with
          | true =>
              obtain ⟨later, hlater, rfl⟩ := demandLookup_mem hd'
              cases hd
              exact hrise.1 later hlater
          | false => exact ih hrise.2 hd hd'

/-- In a table whose multipliers rise, fewer days find no lower one. -/
theorem timeLookup_antitone {days days' : Int} {t t' : Decimal} (h : days' ≤ days)
    {table : List (Int × Decimal)}
    (hrise : table.Pairwise fun row later => row.2.toRat ≤ later.2.toRat)
    (ht : Pricing.timeLookup days table = .ok t) (ht' : Pricing.timeLookup days' table = .ok t') :
    t.toRat ≤ t'.toRat := by
  induction table with
  | nil => cases ht
  | cons row table ih =>
      obtain ⟨lower, multiplier⟩ := row
      rw [List.pairwise_cons] at hrise
      unfold Pricing.timeLookup at ht ht'
      by_cases hreach' : lower ≤ days'
      · rw [if_pos (hreach'.trans h)] at ht
        rw [if_pos hreach'] at ht'
        cases ht
        cases ht'
        exact le_refl _
      · rw [if_neg hreach'] at ht'
        by_cases hreach : lower ≤ days
        · rw [if_pos hreach] at ht
          obtain ⟨later, hlater, rfl⟩ := timeLookup_mem ht'
          cases ht
          exact hrise.1 later hlater
        · rw [if_neg hreach] at ht
          exact ih hrise.2 ht ht'

theorem hundredths_le {m n : Nat} (h : m ≤ n) :
    (Pricing.hundredths m).toRat ≤ (Pricing.hundredths n).toRat := by
  rw [toRat_hundredths, toRat_hundredths]
  exact div_le_div_of_nonneg_right (by exact_mod_cast h) (by norm_num)

/-- A column of hundredths rises if its numbers do. -/
theorem rises_of_hundredths {κ : Type} {table : List (κ × Decimal)} (ns : List Nat)
    (htable : table.map Prod.snd = ns.map Pricing.hundredths) (hns : ns.Pairwise (· ≤ ·)) :
    table.Pairwise fun row later => row.2.toRat ≤ later.2.toRat := by
  have hcolumn : (ns.map Pricing.hundredths).Pairwise fun d d' => d.toRat ≤ d'.toRat :=
    List.pairwise_map.mpr (hns.imp hundredths_le)
  rw [← htable, List.pairwise_map] at hcolumn
  exact hcolumn

theorem demandTable_rises :
    Pricing.demandTable.Pairwise fun row later => row.2.toRat ≤ later.2.toRat :=
  rises_of_hundredths [100, 115, 135, 160, 200, 250] rfl (by decide)

theorem timeTable_rises :
    Pricing.timeTable.Pairwise fun row later => row.2.toRat ≤ later.2.toRat :=
  rises_of_hundredths [85, 90, 100, 120, 150, 200] rfl (by decide)

/-! ## The sum -/

/-- The second terms are no cheaper than the first in any factor, and equal in
what is added. -/
structure PriceTerms.AtMost (p p' : PriceTerms) : Prop where
  fare : p.fare ≤ p'.fare
  demand : p.demand ≤ p'.demand
  time : p.time ≤ p'.time
  day : p.day = p'.day
  surcharges : p.surcharges = p'.surcharges
  rate : p.rate = p'.rate
  fees : p.fees = p'.fees

theorem rnd_mono {x y : ℚ} (h : x ≤ y) : rnd x ≤ rnd y := roundSig_mono (by decide) h

theorem rnd_nonneg {x : ℚ} (h : 0 ≤ x) : 0 ≤ rnd x := roundSig_nonneg h

theorem rnd_mul_mono {x x' y y' : ℚ} (hx : x ≤ x') (hy : y ≤ y') (hx0 : 0 ≤ x) (hy0 : 0 ≤ y) :
    rnd (x * y) ≤ rnd (x' * y') :=
  rnd_mono (mul_le_mul hx hy hy0 (hx0.trans hx))

theorem addAll_mono {x y : ℚ} (h : x ≤ y) (terms : List ℚ) :
    PriceTerms.addAll x terms ≤ PriceTerms.addAll y terms := by
  induction terms generalizing x y with
  | nil => exact h
  | cons a terms ih => exact ih (rnd_mono (by linarith))

section Sum

variable {p p' : PriceTerms}

theorem PriceTerms.AtMost.product28_le (h : p.AtMost p') (hp : p.Tabled) (hfare : 0 ≤ p.fare) :
    p.product28 ≤ p'.product28 := by
  have hdemand : 0 ≤ p.demand := by linarith [hp.demand.2.1]
  have htime : 0 ≤ p.time := by linarith [hp.time.2.1]
  have hday : 0 ≤ p.day := by linarith [hp.day.2.1]
  have hdt := rnd_nonneg (mul_nonneg hdemand htime)
  have hmult := rnd_mul_mono (rnd_mul_mono h.demand h.time hdemand htime) h.day.le hdt hday
  exact rnd_mul_mono h.fare hmult hfare (rnd_nonneg (mul_nonneg hdt hday))

theorem PriceTerms.AtMost.taxes28_le (h : p.AtMost p') (hp : p.Tabled) (hfare : 0 ≤ p.fare) :
    p.taxes28 ≤ p'.taxes28 := by
  have hdemand : 0 ≤ p.demand := by linarith [hp.demand.2.1]
  have htime : 0 ≤ p.time := by linarith [hp.time.2.1]
  have hday : 0 ≤ p.day := by linarith [hp.day.2.1]
  have hrate : 0 ≤ p.rate := by linarith [hp.rate.2.1]
  have hfd := rnd_nonneg (mul_nonneg hfare hdemand)
  have hfactors := rnd_mul_mono
    (rnd_mul_mono (rnd_mul_mono h.fare h.demand hfare hdemand) h.time hfd htime) h.day.le
    (rnd_nonneg (mul_nonneg hfd htime)) hday
  have hbase : p.taxable28 ≤ p'.taxable28 := by
    unfold PriceTerms.taxable28
    rw [← h.surcharges]
    exact addAll_mono hfactors p.surcharges
  unfold PriceTerms.taxes28
  rw [← h.rate]
  exact rnd_mono (mul_le_mul_of_nonneg_right hbase hrate)

/-- **The sum is monotone**, every rounding of it being so. -/
theorem PriceTerms.AtMost.sum28_le (h : p.AtMost p') (hp : p.Tabled) (hfare : 0 ≤ p.fare) :
    p.sum28 ≤ p'.sum28 := by
  have hbase : PriceTerms.addAll p.product28 p.surcharges ≤
      PriceTerms.addAll p'.product28 p'.surcharges := by
    rw [← h.surcharges]
    exact addAll_mono (h.product28_le hp hfare) p.surcharges
  have htaxed := rnd_mono (add_le_add hbase (h.taxes28_le hp hfare))
  exact rnd_mono (add_le_add htaxed h.fees.le)

end Sum

/-! ## Two quotes -/

/-- Two requests for the same lines, weekday and route, the second at a fare and
an occupancy no lower and with no more days to go. -/
structure Dearer (c : Container) (flight : Flight) (request : QuoteRequest) (c' : Container)
    (flight' : Flight) (request' : QuoteRequest) : Prop where
  fare : flight.baseFare.amount.toRat ≤ flight'.baseFare.amount.toRat
  occupancy : ∀ occ occ', occupancyPct c.bookingRepo flight = .ok occ →
    occupancyPct c'.bookingRepo flight' = .ok occ' → occ.toRat ≤ occ'.toRat
  days : flight'.departureAt.date - c'.clock.date ≤ flight.departureAt.date - c.clock.date
  weekday : flight.departureAt.weekday = flight'.departureAt.weekday
  lines : seatSurcharges flight request.seatIds = seatSurcharges flight' request'.seatIds
  route : flight.routeKind = flight'.routeKind

section Quotes

variable {c c' : Container} {flight flight' : Flight} {request request' : QuoteRequest}
  {b b' : PriceBreakdown} {total total' : Money}

theorem Dearer.atMost (h : Dearer c flight request c' flight' request')
    (hp : Priced c request flight b total) (hp' : Priced c' request' flight' b' total') :
    hp.terms.AtMost hp'.terms where
  fare := by
    unfold Priced.terms PriceBreakdown.terms
    rw [hp.fare, hp'.fare]
    exact h.fare
  demand := by
    obtain ⟨occ, hocc, hdemand, -⟩ := hp.demand
    obtain ⟨occ', hocc', hdemand', -⟩ := hp'.demand
    exact demandLookup_mono (occupancyPct_isFinite hocc) (occupancyPct_isFinite hocc')
      (h.occupancy occ occ' hocc hocc') demandTable_rises hdemand hdemand'
  time := timeLookup_antitone h.days timeTable_rises hp.time hp'.time
  day := by
    unfold Priced.terms PriceBreakdown.terms
    rw [hp.day, hp'.day, h.weekday]
  surcharges := by
    unfold Priced.terms PriceBreakdown.terms
    rw [hp.lines, hp'.lines, h.lines]
  rate := by
    unfold Priced.terms PriceBreakdown.terms
    rw [h.route]
  fees := hp.fees_toRat.trans hp'.fees_toRat.symm

/-- The totals of two breakdowns are in order unless the cheaper sum overtakes. -/
theorem Dearer.total_not_lt_iff (h : Dearer c flight request c' flight' request')
    (hp : Priced c request flight b total) (hp' : Priced c' request' flight' b' total')
    {x x' : ℚ} (hx : flight.baseFare.IsFare x) (hx' : flight'.baseFare.IsFare x') (hpos : 0 < x) :
    total'.amount.lt total.amount = .ok false ↔
      ¬ Overtakes (termsOf c flight request.seatIds).sum28
        (termsOf c' flight' request'.seatIds).sum28 := by
  have htabled := hp.tabled hx.onGrid
  have hfare : 0 ≤ hp.terms.fare := by
    unfold Priced.terms PriceBreakdown.terms
    rw [hp.fare, hx.value.toRat_eq]
    exact hpos.le
  have hsum := (h.atMost hp hp').sum28_le htabled hfare
  rw [(hp'.total_value hx'.value.isFinite).lt (hp.total_value hx.value.isFinite),
    Except.ok.injEq, decide_eq_false_iff_not, not_lt, priorDigit_le_iff hsum, hp.terms_eq,
    hp'.terms_eq]

end Quotes

/-- **When a dearer quote costs no less.** Exactly if its sum is not overtaken by
the cheaper one. Below 10^12 the sums are those on paper. -/
theorem dearer_costs_no_less_iff {c c' : Container} {env env' : Collaborators}
    {request request' : QuoteRequest} {q q' : Quote} {flight flight' : Flight}
    (h : ((quote env request).run c).1 = .ok q) (h' : ((quote env' request').run c').1 = .ok q')
    (hf : c.flightRepo.get request.flightId = some flight)
    (hf' : c'.flightRepo.get request'.flightId = some flight') {x x' : ℚ}
    (hx : flight.baseFare.IsFare x) (hx' : flight'.baseFare.IsFare x') (hpos : 0 < x)
    (hdearer : Dearer c flight request c' flight' request') :
    let p := termsOf c flight request.seatIds
    let p' := termsOf c' flight' request'.seatIds
    (∃ total total', q.priceBreakdown.total = .ok total ∧ q'.priceBreakdown.total = .ok total' ∧
      (total'.amount.lt total.amount = .ok false ↔ ¬ Overtakes p.sum28 p'.sum28)) ∧
    (x' < 10 ^ 12 → p.surcharges.length ≤ 10 ^ 12 → p.sum28 = p.sum ∧ p'.sum28 = p'.sum) := by
  intro p p'
  obtain ⟨found, total, hp⟩ := quote_priced h
  obtain ⟨found', total', hp'⟩ := quote_priced h'
  obtain rfl : flight = found := Option.some.inj (hf.symm.trans hp.found)
  obtain rfl : flight' = found' := Option.some.inj (hf'.symm.trans hp'.found)
  refine ⟨⟨total, total', hp.total, hp'.total, hdearer.total_not_lt_iff hp hp' hx hx' hpos⟩, ?_⟩
  intro hsmall hlines
  have hle : x ≤ x' := by
    rw [← hx.value.toRat_eq, ← hx'.value.toRat_eq]
    exact hdearer.fare
  have hlines' : p'.surcharges.length ≤ 10 ^ 12 := by
    show ((seatSurcharges flight' request'.seatIds).map _).length ≤ _
    rw [← hdearer.lines]
    exact hlines
  have htabled := hp.tabled hx.onGrid
  have htabled' := hp'.tabled hx'.onGrid
  rw [hp.terms_eq] at htabled
  rw [hp'.terms_eq] at htabled'
  have hfare : |p.fare| < 10 ^ 12 := by
    show |flight.baseFare.amount.toRat| < 10 ^ 12
    rw [hx.value.toRat_eq, abs_of_pos hpos]
    linarith
  have hfare' : |p'.fare| < 10 ^ 12 := by
    show |flight'.baseFare.amount.toRat| < 10 ^ 12
    rw [hx'.value.toRat_eq, abs_of_pos (hpos.trans_le hle)]
    exact hsmall
  exact ⟨PriceTerms.Moderate.sum28_eq ⟨by linarith, hlines⟩ htabled,
    PriceTerms.Moderate.sum28_eq ⟨by linarith, hlines'⟩ htabled'⟩

theorem centsFlight_dearer {cents cents' : Nat} (h : cents ≤ cents') :
    Dearer (seededContainer [centsFlight cents]) (centsFlight cents) noSeats
      (seededContainer [centsFlight cents']) (centsFlight cents') noSeats where
  fare := by
    have hcents : (cents : ℚ) ≤ cents' := by exact_mod_cast h
    show finiteValue false cents (-2) ≤ finiteValue false cents' (-2)
    norm_num [finiteValue]
    linarith
  occupancy := by
    intro occ occ' hocc hocc'
    cases hocc
    cases hocc'
    exact le_refl _
  days := le_refl _
  weekday := rfl
  lines := rfl
  route := rfl

/-- 399.99 and 401.00, 37 days ahead on a Monday: both sums end in the thousandths
or later and are rounded to cents. -/
theorem dearer_costs_no_less_401 :
    let c := seededContainer [centsFlight 39999]
    let c' := seededContainer [centsFlight 40100]
    let p := termsOf c (centsFlight 39999) []
    let p' := termsOf c' (centsFlight 40100) []
    ∃ q q', ((quote .wired noSeats).run c).1 = .ok q ∧ ((quote .wired noSeats).run c').1 = .ok q' ∧
      ¬ Overtakes p.sum28 p'.sum28 ∧ p.sum28 = p.sum ∧ p'.sum28 = p'.sum := by
  intro c c' p p'
  have hx : (centsFlight 39999).baseFare.IsFare (finiteValue false 39999 (-2)) :=
    ⟨⟨.finite false 39999 (-2), rfl⟩, denotes_finite ..⟩
  have hx' : (centsFlight 40100).baseFare.IsFare (finiteValue false 40100 (-2)) :=
    ⟨⟨.finite false 40100 (-2), rfl⟩, denotes_finite ..⟩
  have hquote : ((quote .wired noSeats).run c).1 = .ok _ := rfl
  have hquote' : ((quote .wired noSeats).run c').1 = .ok _ := rfl
  obtain ⟨⟨total, total', ht, ht', hiff⟩, hexact⟩ :=
    dearer_costs_no_less_iff hquote hquote' rfl rfl hx hx' (by norm_num [finiteValue])
      (centsFlight_dearer (by decide))
  obtain rfl : (⟨.finite false 34829 (-2), "USD"⟩ : Money) = total := Except.ok.inj ht
  obtain rfl : (⟨.finite false 34917 (-2), "USD"⟩ : Money) = total' := Except.ok.inj ht'
  exact ⟨_, _, hquote, hquote', hiff.mp (by decide), hexact (by norm_num [finiteValue]) (by decide)⟩

/-- One cent more costs 29 cents less: 348.291… is rounded to cents, 348.3 to
dollars. -/
theorem dearer_costs_less_at_400 :
    let c := seededContainer [centsFlight 39999]
    let c' := seededContainer [centsFlight 40000]
    Dearer c (centsFlight 39999) noSeats c' (centsFlight 40000) noSeats ∧
    ∃ q q' total total', ((quote .wired noSeats).run c).1 = .ok q ∧
      ((quote .wired noSeats).run c').1 = .ok q' ∧ q.priceBreakdown.total = .ok total ∧
      q'.priceBreakdown.total = .ok total' ∧ total.amount.str = "348.29" ∧
      total'.amount.str = "348.00" ∧ total'.amount.lt total.amount = .ok true := by
  intro c c'
  exact ⟨centsFlight_dearer (by decide), _, _, _, _, rfl, rfl, rfl, rfl, by decide, by decide,
    by decide⟩

end FlightBooking
