import FlightBooking.Verification.QuoteOutcome

/-!
# Departure — until when a flight is quoted

`quote` subtracts local dates, each in the offset of its own datetime. A flight
that has left is so quoted for the rest of its day, and one that is shown further
west than the clock is refused while it is still at the gate.
-/

namespace FlightBooking

open Py QuoteService

/-- A flight is quotable exactly until it departs: the call says so from that instant
on, and before it returns a quote for a number of days that is not negative. -/
def QuotedUntilDeparture (env : Collaborators) (request : QuoteRequest) (c : Container)
    (flight : Flight) : Prop :=
  ((∃ message, ((quote env request).run c).1 = .error (.flightAlreadyDeparted message)) ↔
    flight.departureAt.shown < c.clock) ∧
  (¬ flight.departureAt.shown < c.clock → ∃ q, ((quote env request).run c).1 = .ok q ∧
    ∃ days, 0 ≤ days ∧ Pricing.timeMultiplier days = .ok q.priceBreakdown.timeMultiplier)

/-- The time multiplier of a quote is the one for the days between the two dates. -/
theorem quote_timeMultiplier {env : Collaborators} {request : QuoteRequest} {c : Container}
    {q : Quote} (h : ((quote env request).run c).1 = .ok q) :
    ∃ days, 0 ≤ days ∧ Pricing.timeMultiplier days = .ok q.priceBreakdown.timeMultiplier := by
  obtain ⟨flight, total, hp⟩ := quote_priced h
  exact ⟨_, hp.ahead, hp.time⟩

/-- **Quotable until departure**: exactly if the two local dates are in the order of the
two instants and, for a flight that has not left, the price has a total and the quote
an instant to expire at. -/
theorem quoted_until_departure_iff {env : Collaborators} {request : QuoteRequest}
    {c : Container} {flight : Flight}
    (hfound : c.flightRepo.get request.flightId = some flight) (hready : IdsReady c request)
    (hlog : env.fault .writeAudit = none) :
    QuotedUntilDeparture env request c flight ↔
      (flight.departureAt.date < c.clock.date ↔ flight.departureAt.shown < c.clock) ∧
        (¬ flight.departureAt.shown < c.clock → OccupancyFits c.bookingRepo flight ∧
          (c.clock.add quoteTtl).InRange ∧ Totals c flight request.seatIds) := by
  have hreturns := quote_returns_iff hfound hready hlog
  unfold QuotedUntilDeparture
  rw [quote_departed_iff hfound hlog]
  apply and_congr_right
  intro hsame
  apply imp_congr_right
  intro hahead
  have hdate : c.clock.date ≤ flight.departureAt.date := not_lt.mp (hsame.not.mpr hahead)
  constructor
  · rintro ⟨q, hq, -⟩
    exact (hreturns.mp ⟨q, hq⟩).2
  · intro hissued
    obtain ⟨q, hq⟩ := hreturns.mpr ⟨hdate, hissued⟩
    exact ⟨q, hq, quote_timeMultiplier hq⟩

/-- The test flight, five weeks ahead. -/
theorem quoted_until_departure_iff_ahead :
    let flight := seededFlight "FL-LAX-NYC-0800" []
    QuotedUntilDeparture .wired noSeats (seededContainer [flight]) flight := by
  intro flight
  have hready : IdsReady (seededContainer [flight]) noSeats := ⟨by decide, by decide⟩
  have hquoted : ∃ q, ((quote .wired noSeats).run (seededContainer [flight])).1 = .ok q :=
    ⟨_, rfl⟩
  have hflight : (seededContainer [flight]).flightRepo.get noSeats.flightId = some flight := rfl
  have hissued := ((quote_returns_iff hflight hready rfl).mp hquoted).2
  exact (quoted_until_departure_iff rfl hready rfl).mpr ⟨by decide, fun _ => hissued⟩

/-- A flight that left at eight is quoted at ten. One that leaves at half past eleven in
the evening eight hours west of the clock is refused seven hours before. -/
theorem quoted_by_date_only :
    let flight := seededFlight "FL-LAX-NYC-0800" []
    let left : Container :=
      { seededContainer [flight] with clock := flight.departureAt.shown.add (DateTime.minutes 120) }
    let west : Flight :=
      { flight with
        departureAt := .ofDateTime
          ⟨(flight.departureAt.shown.add (DateTime.minutes 1410)).instant,
            DateTime.minutes (-480)⟩ (by decide) }
    let early : Container :=
      { seededContainer [west] with clock := flight.departureAt.shown.add (DateTime.minutes 990) }
    (left.flightRepo.get noSeats.flightId = some flight ∧
      (∃ q, ((quote .wired noSeats).run left).1 = .ok q) ∧
      ¬ QuotedUntilDeparture .wired noSeats left flight) ∧
    (early.flightRepo.get noSeats.flightId = some west ∧
      (∃ message, ((quote .wired noSeats).run early).1 =
        .error (.flightAlreadyDeparted message)) ∧
      ¬ QuotedUntilDeparture .wired noSeats early west) := by
  intro flight left west early
  have hleft : left.flightRepo.get noSeats.flightId = some flight := rfl
  have hearly : early.flightRepo.get noSeats.flightId = some west := rfl
  have hrefused : ∃ message, ((quote .wired noSeats).run early).1 =
      .error (.flightAlreadyDeparted message) :=
    (quote_departed_iff hearly rfl).mpr (by decide)
  refine ⟨⟨hleft, ⟨_, rfl⟩, fun h => ?_⟩, hearly, hrefused, fun h => ?_⟩
  · have hdeparted := (quote_departed_iff hleft rfl).mp (h.1.mpr (by decide))
    exact absurd hdeparted (by decide)
  · exact absurd (h.1.mp hrefused) (by decide)

end FlightBooking
