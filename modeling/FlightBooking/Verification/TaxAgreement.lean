import FlightBooking.Verification.PriceSpec

/-!
# TaxAgreement — two ways to the same product

`_compute_taxes` multiplies fare, demand, time and day one after the other;
`total` multiplies the three multipliers first. In 28 digits neither way loses
anything for fares below 10^12, so the taxes are the rate times the very base
that the total adds them to.
-/

namespace FlightBooking

open Py Decimal Rounding QuoteService

/-- **The tax path and the price path agree.** The stored taxes are the rate times
the taxable base, and the sum that the total rounds is that base times one plus the
rate, plus fees: both exactly. -/
theorem taxes_agree_with_total {c : Container} {env : Collaborators} {request : QuoteRequest}
    {q : Quote} (h : ((quote env request).run c).1 = .ok q) {flight : Flight}
    (hf : c.flightRepo.get request.flightId = some flight) {v : Decimal}
    (hmoney : Money.of v = .ok flight.baseFare) {fare : ℚ}
    (hfare : Denotes flight.baseFare.amount fare) (hsmall : |fare| < 10 ^ 12)
    (hseats : request.seatIds.length ≤ 9) :
    let p := q.priceBreakdown.terms (Pricing.taxRates flight.routeKind).toRat
    let base := p.fare * p.demand * p.time * p.day + p.surcharges.sum
    Denotes q.priceBreakdown.taxes.amount (p.rate * base) ∧
      ∃ raw, q.priceBreakdown.rawTotal = .ok raw ∧
        Denotes raw (base * (1 + p.rate) + p.fees) ∧
        q.priceBreakdown.total = do
          let rounded ← roundHalfEvenToPriorDigit raw
          let amount ← Exn.lift (rounded.quantize moneyQuant)
          return ⟨amount, flight.baseFare.currency⟩ := by
  obtain ⟨flight', total, hp⟩ := quote_priced h
  obtain rfl : flight = flight' := Option.some.inj (hf.symm.trans hp.found)
  have hgrid : OnGrid (-2) flight.baseFare.amount.toRat := by
    rcases (money_of_cents hmoney).2 with hnan | hcents
    · rw [hnan] at hfare
      obtain ⟨s, c, e, hd, -⟩ := hfare
      cases hd
    · exact hcents.2
  have htabled := hp.tabled hgrid
  have hmod := hp.moderate (by rw [hfare.toRat_eq]; linarith) (hseats.trans (by norm_num))
  refine ⟨?_, ?_⟩
  · have htaxes := hp.taxes_denotes hfare.isFinite
    rw [hmod.taxes28_eq htabled] at htaxes
    exact htaxes
  · obtain ⟨raw, hraw, hsum⟩ := (hp.total_denotes hfare.isFinite).1
    rw [hmod.sum28_eq htabled] at hsum
    refine ⟨raw, hraw, hsum, ?_⟩
    rw [PriceBreakdown.total_eq, hraw, hp.fare]
    rfl

/-- An international flight and a middle seat: 12% of 299.00 * 0.90 * 0.90 - 5.00. -/
theorem taxes_agree_with_total_middle_seat :
    let flight : Flight := { seededFlight "FL-LAX-NYC-0800" [] with
      routeKind := .international
      cabin.seats := Dict.empty.set ⟨"30E"⟩
        { id := ⟨"30E"⟩, seatClass := .economy, kind := .middle } }
    let request : QuoteRequest := { flightId := flight.id, seatIds := [⟨"30E"⟩], passengers := 1 }
    ∃ q, ((quote .wired request).run (seededContainer [flight])).1 = .ok q ∧
      q.priceBreakdown.taxes.amount.str = "28.4628000000" ∧
      let p := q.priceBreakdown.terms (Pricing.taxRates flight.routeKind).toRat
      let base := p.fare * p.demand * p.time * p.day + p.surcharges.sum
      Denotes q.priceBreakdown.taxes.amount (p.rate * base) ∧
        ∃ raw, q.priceBreakdown.rawTotal = .ok raw ∧
          Denotes raw (base * (1 + p.rate) + p.fees) := by
  intro flight request
  have hf : (seededContainer [flight]).flightRepo.get request.flightId = some flight := rfl
  have hmoney : Money.of (.finite false 299 0) = .ok flight.baseFare := rfl
  have hsmall : |finiteValue false 29900 (-2)| < 10 ^ 12 := by norm_num [finiteValue]
  refine ⟨_, rfl, by decide, ?_⟩
  obtain ⟨htaxes, raw, hraw, hsum, -⟩ := taxes_agree_with_total
    (show ((quote .wired request).run (seededContainer [flight])).1 = .ok _ from rfl)
    hf hmoney (denotes_finite ..) hsmall (by decide)
  exact ⟨htaxes, raw, hraw, hsum⟩

end FlightBooking
